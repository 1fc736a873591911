import ClassMesh.Security.AuthorizationStore
import ClassMesh.Security.GroupMedia

namespace ClassMesh

open Std

def defaultMaxGroupMediaReceivers : Nat := 64
def maxGroupMediaReceivers : Nat := 64

inductive GroupMediaRegistration
  | added
  | alreadyRegistered
deriving DecidableEq, Repr

inductive GroupMediaReceiverInstallState
  | awaitingKey
  | keyIssued (epoch : GroupMediaEpoch)
  | installed (epoch : GroupMediaEpoch)
deriving DecidableEq

structure GroupMediaKeyGrant where
  principal : PrincipalId
  epoch : GroupMediaEpoch
  keyBytes : Bytes32
deriving DecidableEq

inductive GroupMediaCoordinatorError
  | invalidReceiverLimit
  | receiverLimitExceeded
  | unauthorizedReceiver
  | receiverNotRegistered
  | noActiveEpoch
  | rotationRequired
  | keyNotIssued
  | staleEpoch
  | epochExhausted
  | crypto (error : GroupMediaError)
deriving DecidableEq

structure ActiveEpoch (S : Sframe) where
  epoch : GroupMediaEpoch
  key : Bytes32
  sender : GroupMediaSender S

structure GroupMediaCoordinator (S : Sframe) where
  receivers : BTreeMap PrincipalId GroupMediaReceiverInstallState := ∅
  maxReceivers : Nat := defaultMaxGroupMediaReceivers
  lastEpoch : UInt32 := 0
  active : Option (ActiveEpoch S) := none
  rotationRequired : Bool := false

namespace GroupMediaCoordinator

variable {S : Sframe} (c : GroupMediaCoordinator S)

def withLimit (maxReceivers : Nat) : Except GroupMediaCoordinatorError (GroupMediaCoordinator S) :=
  if maxReceivers = 0 ∨ maxGroupMediaReceivers < maxReceivers then .error .invalidReceiverLimit
  else .ok { maxReceivers := maxReceivers }

def activeEpoch : Option GroupMediaEpoch := c.active.map (·.epoch)

def registerReceiver (authorization : AuthorizationStore) (principal : PrincipalId) :
    GroupMediaCoordinator S × Except GroupMediaCoordinatorError GroupMediaRegistration :=
  if ¬authorization.authorize principal .receivePresentation then (c, .error .unauthorizedReceiver)
  else if c.receivers.contains principal then (c, .ok .alreadyRegistered)
  else if c.maxReceivers ≤ c.receivers.size then (c, .error .receiverLimitExceeded)
  else
    ({ c with
        receivers := c.receivers.insert principal .awaitingKey
        rotationRequired := if c.active.isSome then true else c.rotationRequired }, .ok .added)

def removeReceiver (principal : PrincipalId) : GroupMediaCoordinator S × Bool :=
  let removed := c.receivers.contains principal
  ({ c with
      receivers := c.receivers.erase principal
      rotationRequired := if removed && c.active.isSome then true else c.rotationRequired }, removed)

def awaitKeys : BTreeMap PrincipalId GroupMediaReceiverInstallState :=
  c.receivers.map fun _ _ => .awaitingKey

/-- `generated` is what the operating system's generator returns for this call. -/
def beginEpoch (generated : Option Bytes32) :
    GroupMediaCoordinator S × Except GroupMediaCoordinatorError GroupMediaEpoch :=
  if c.lastEpoch.toNat + 1 = UInt32.size then (c, .error .epochExhausted)
  else
    let next := c.lastEpoch + 1
    match GroupMediaEpoch.new next with
    | .error error => (c, .error (.crypto error))
    | .ok epoch =>
      match generated with
      | none => (c, .error (.crypto .keyGenerationFailed))
      | some key =>
        match GroupMediaSender.new (S := S) epoch key with
        | .error error => (c, .error (.crypto error))
        | .ok sender =>
          ({ c with
              receivers := c.awaitKeys
              active := some ⟨epoch, key, sender⟩
              lastEpoch := next
              rotationRequired := false }, .ok epoch)

def endEpoch : GroupMediaCoordinator S × Option GroupMediaEpoch :=
  ({ c with
      receivers := if c.active.isSome then c.awaitKeys else c.receivers
      active := none
      rotationRequired := false }, c.activeEpoch)

def reconcileAuthorization (authorization : AuthorizationStore) : GroupMediaCoordinator S :=
  let kept := c.receivers.filter fun principal _ => authorization.authorize principal .receivePresentation
  { c with
    receivers := kept
    rotationRequired := if kept.size ≠ c.receivers.size ∧ c.active.isSome then true else c.rotationRequired }

def issueKey (authorization : AuthorizationStore) (principal : PrincipalId) :
    GroupMediaCoordinator S × Except GroupMediaCoordinatorError GroupMediaKeyGrant :=
  let c := c.reconcileAuthorization authorization
  if ¬authorization.authorize principal .receivePresentation then (c, .error .unauthorizedReceiver)
  else if c.rotationRequired then (c, .error .rotationRequired)
  else
    match c.active with
    | none => (c, .error .noActiveEpoch)
    | some active =>
      if c.receivers.contains principal then
        ({ c with receivers := c.receivers.insert principal (.keyIssued active.epoch) },
          .ok ⟨principal, active.epoch, active.key⟩)
      else (c, .error .receiverNotRegistered)

def markInstalled (authorization : AuthorizationStore) (principal : PrincipalId) (epoch : GroupMediaEpoch) :
    GroupMediaCoordinator S × Except GroupMediaCoordinatorError Unit :=
  let c := c.reconcileAuthorization authorization
  if ¬authorization.authorize principal .receivePresentation then (c, .error .unauthorizedReceiver)
  else if c.rotationRequired then (c, .error .rotationRequired)
  else
    match c.active with
    | none => (c, .error .noActiveEpoch)
    | some active =>
      if epoch ≠ active.epoch then (c, .error .staleEpoch)
      else
        match c.receivers[principal]? with
        | none => (c, .error .receiverNotRegistered)
        | some .awaitingKey => (c, .error .keyNotIssued)
        | some (.keyIssued issued) =>
          if issued = epoch then ({ c with receivers := c.receivers.insert principal (.installed epoch) }, .ok ())
          else (c, .error .staleEpoch)
        | some (.installed installed) => if installed = epoch then (c, .ok ()) else (c, .error .staleEpoch)

def sealBoundFrame (authorization : AuthorizationStore) (plaintext : List UInt8) (binding : GroupMediaFrameBinding) :
    GroupMediaCoordinator S × Except GroupMediaCoordinatorError SealedGroupMediaFrame :=
  let c := c.reconcileAuthorization authorization
  if c.rotationRequired then (c, .error .rotationRequired)
  else
    match c.active with
    | none => (c, .error .noActiveEpoch)
    | some active =>
      let (sender, sealed) := active.sender.sealBoundFrame plaintext binding
      ({ c with active := some { active with sender := sender } }, sealed.mapError .crypto)

/-- The principals registered right now. -/
def registered : Set PrincipalId := {p | p ∈ c.receivers}

end GroupMediaCoordinator

inductive CoordinatorInput
  | registerReceiver (authorization : AuthorizationStore) (principal : PrincipalId)
  | removeReceiver (principal : PrincipalId)
  | beginEpoch (generated : Option Bytes32)
  | endEpoch
  | issueKey (authorization : AuthorizationStore) (principal : PrincipalId)
  | markInstalled (authorization : AuthorizationStore) (principal : PrincipalId) (epoch : GroupMediaEpoch)
  | sealBoundFrame (authorization : AuthorizationStore) (plaintext : List UInt8) (binding : GroupMediaFrameBinding)

inductive CoordinatorReply
  | registered (result : Except GroupMediaCoordinatorError GroupMediaRegistration)
  | removed (result : Bool)
  | begun (result : Except GroupMediaCoordinatorError GroupMediaEpoch)
  | ended (result : Option GroupMediaEpoch)
  | issued (result : Except GroupMediaCoordinatorError GroupMediaKeyGrant)
  | marked (result : Except GroupMediaCoordinatorError Unit)
  | sealed (result : Except GroupMediaCoordinatorError SealedGroupMediaFrame)
deriving DecidableEq

namespace GroupMediaCoordinator

variable {S : Sframe}

def step (c : GroupMediaCoordinator S) : CoordinatorInput → GroupMediaCoordinator S × CoordinatorReply
  | .registerReceiver authorization principal =>
    (c.registerReceiver authorization principal).map id .registered
  | .removeReceiver principal => (c.removeReceiver principal).map id .removed
  | .beginEpoch generated => (c.beginEpoch generated).map id .begun
  | .endEpoch => c.endEpoch.map id .ended
  | .issueKey authorization principal => (c.issueKey authorization principal).map id .issued
  | .markInstalled authorization principal epoch =>
    (c.markInstalled authorization principal epoch).map id .marked
  | .sealBoundFrame authorization plaintext binding =>
    (c.sealBoundFrame authorization plaintext binding).map id .sealed

end GroupMediaCoordinator

end ClassMesh
