import ClassMesh.Foundation.Saturating
import ClassMesh.Security.ClassroomPolicy

namespace ClassMesh

open Std Foundation

def maxAuditBatchEntries : Nat := 64
def maxAuditChainBatches : Nat := 16

/-- The largest generation, which is never used. -/
def exhaustedGeneration : UInt64 := 18446744073709551615

inductive AuditIntentEncodingError
  | oversize
  | malformed
  | unsupportedVersion
  | invalidIntent
  | nonCanonical
deriving DecidableEq

def ClassroomAuditIntent.validate (intent : ClassroomAuditIntent) : Except AuditIntentEncodingError Unit :=
  if intent.actor = intent.target ∨ intent.previousGrant = intent.newGrant ∨ intent.requestId = 0 ∨
      intent.expectedPolicyGeneration = 0 ∨ intent.expectedPolicyGeneration = exhaustedGeneration ∨
      intent.checkedAtUnixMs = 0 then .error .invalidIntent
  else .ok ()

/-- Records exist only after `validate` has passed. -/
structure ClassroomAuditIntentRecord extends ClassroomAuditIntent where
  valid : toClassroomAuditIntent.validate = .ok ()
deriving DecidableEq

namespace ClassroomAuditIntentRecord

def fromIntent (intent : ClassroomAuditIntent) : Except AuditIntentEncodingError ClassroomAuditIntentRecord :=
  match checked : intent.validate with
  | .error error => .error error
  | .ok () => .ok ⟨intent, checked⟩

theorem fromIntent_ok {intent : ClassroomAuditIntent} {record : ClassroomAuditIntentRecord}
    (made : fromIntent intent = .ok record) : record.toClassroomAuditIntent = intent := by
  unfold fromIntent at made
  split at made
  · cases made
  · cases made
    rfl

def request (record : ClassroomAuditIntentRecord) : PrincipalId × UInt64 := (record.actor, record.requestId)

def key (record : ClassroomAuditIntentRecord) : PrincipalId × Permission :=
  (record.target, record.permission.underlyingPermission)

end ClassroomAuditIntentRecord

/-- The last grant claimed for a target and a permission, newest first. -/
abbrev ClaimedPermissions := List ((PrincipalId × Permission) × Bool)

/-- The claim is contradicted by an earlier record for the same target and permission. -/
def ClaimedPermissions.contradict (claimed : ClaimedPermissions) (record : ClassroomAuditIntentRecord) : Bool :=
  (claimed.lookup record.key).any (· != record.previousGrant)

inductive AuditBatchConsistencyError
  | empty
  | tooMany
  | invalidStartingGeneration
  | generationExhausted
  | versionGap (index : Nat) (expected found : UInt64)
  | duplicateRequest (index : Nat)
  | timestampRegression (index : Nat)
  | contradictoryPriorPermission (index : Nat)
deriving DecidableEq

/-- A generation some steps on, unless that is the largest one or past it. -/
def nextGeneration (generation : UInt64) (steps : Nat) : Option UInt64 :=
  (checkedAdd generation steps).filter (· ≠ exhaustedGeneration)

/-- The loop of `check_classroom_audit_batch_consistency`. -/
def checkBatchEntries (index : Nat) (expectedGeneration lastTimestamp : UInt64)
    (requests : List (PrincipalId × UInt64)) (lastPermissions : ClaimedPermissions) :
    List ClassroomAuditIntentRecord → Except AuditBatchConsistencyError Unit
  | [] => .ok ()
  | intent :: rest =>
    if intent.expectedPolicyGeneration ≠ expectedGeneration then
      .error (.versionGap index expectedGeneration intent.expectedPolicyGeneration)
    else if intent.checkedAtUnixMs < lastTimestamp then .error (.timestampRegression index)
    else if intent.request ∈ requests then .error (.duplicateRequest index)
    else if lastPermissions.contradict intent then .error (.contradictoryPriorPermission index)
    else if rest.isEmpty then .ok ()
    else
      match nextGeneration expectedGeneration 1 with
      | none => .error .generationExhausted
      | some next =>
        checkBatchEntries (index + 1) next intent.checkedAtUnixMs (intent.request :: requests)
          ((intent.key, intent.newGrant) :: lastPermissions) rest

def checkClassroomAuditBatchConsistency (startingGeneration : UInt64) (intents : List ClassroomAuditIntentRecord) :
    Except AuditBatchConsistencyError Unit :=
  if intents.isEmpty then .error .empty
  else if maxAuditBatchEntries < intents.length then .error .tooMany
  else if startingGeneration = 0 ∨ startingGeneration = exhaustedGeneration then .error .invalidStartingGeneration
  else checkBatchEntries 0 startingGeneration 0 [] [] intents

inductive AuditChainConsistencyError
  | emptyChain
  | tooManyBatches
  | invalidBatch (batchIndex : Nat) (reason : AuditBatchConsistencyError)
  | generationExhausted
  | duplicateRequest (batchIndex index : Nat)
  | timestampRegression (batchIndex index : Nat)
  | contradictoryPriorPermission (batchIndex index : Nat)
deriving DecidableEq

/-- What the chain check carries across batches. -/
structure ChainHistory where
  lastTimestamp : Option UInt64 := none
  seenRequests : List (PrincipalId × UInt64) := []
  lastPermissions : ClaimedPermissions := []

def ChainHistory.add (history : ChainHistory) (record : ClassroomAuditIntentRecord) : ChainHistory where
  lastTimestamp := some record.checkedAtUnixMs
  seenRequests := record.request :: history.seenRequests
  lastPermissions := (record.key, record.newGrant) :: history.lastPermissions

/-- The inner loop of `check_classroom_audit_chain_consistency`. -/
def checkChainEntries (batchIndex index : Nat) (history : ChainHistory) :
    List ClassroomAuditIntentRecord → Except AuditChainConsistencyError ChainHistory
  | [] => .ok history
  | record :: rest =>
    if history.lastTimestamp.any (record.checkedAtUnixMs < ·) then .error (.timestampRegression batchIndex index)
    else if record.request ∈ history.seenRequests then .error (.duplicateRequest batchIndex index)
    else if history.lastPermissions.contradict record then .error (.contradictoryPriorPermission batchIndex index)
    else checkChainEntries batchIndex (index + 1) (history.add record) rest

/-- The outer loop. -/
def checkChainBatches (batchIndex : Nat) (expectedGeneration : UInt64) (history : ChainHistory) :
    List (List ClassroomAuditIntentRecord) → Except AuditChainConsistencyError Unit
  | [] => .ok ()
  | batch :: rest =>
    match checkClassroomAuditBatchConsistency expectedGeneration batch with
    | .error reason => .error (.invalidBatch batchIndex reason)
    | .ok () =>
      match checkChainEntries batchIndex 0 history batch with
      | .error error => .error error
      | .ok history =>
        if rest.isEmpty then .ok ()
        else
          match nextGeneration expectedGeneration batch.length with
          | none => .error .generationExhausted
          | some next => checkChainBatches (batchIndex + 1) next history rest

def checkClassroomAuditChainConsistency (startingGeneration : UInt64)
    (batches : List (List ClassroomAuditIntentRecord)) : Except AuditChainConsistencyError Unit :=
  if batches.isEmpty then .error .emptyChain
  else if maxAuditChainBatches < batches.length then .error .tooManyBatches
  else checkChainBatches 0 startingGeneration {} batches

inductive AuditBaselineConsistencyError
  | batch (reason : AuditBatchConsistencyError)
  | beforeStateMismatch (index : Nat)
  | unsupportedRolePermission (index : Nat)
  | targetUnavailable (index : Nat)
  | actorNotAuthorized (index : Nat)
  | actorCredentialUnavailable (index : Nat)
  | finalStateMismatch
deriving DecidableEq

/-- The role table that the replay carries of its own. -/
def replayAllows (kind : PrincipalKind) (permission : Permission) : Bool :=
  (kind = .teacher && (permission = .viewMonitoring || permission = .viewInteractive ||
    permission = .startPresentation)) || (kind = .studentDevice && permission = .receivePresentation)

/-- One round of the loop of `replay_untrusted_batch`. -/
def replayRecord (index : Nat) (candidate : AuthorizationStore) (record : ClassroomAuditIntentRecord) :
    Except AuditBaselineConsistencyError AuthorizationStore :=
  match candidate.principal record.actor with
  | none => .error (.actorNotAuthorized index)
  | some actor =>
    if actor.enabled = false ∨ actor.kind ≠ .administrator ∨ actor.permissions.contains .managePolicy = false then
      .error (.actorNotAuthorized index)
    else if (actor.credentials.toList.any fun entry => entry.2.isAcceptedAt record.checkedAtUnixMs) = false then
      .error (.actorCredentialUnavailable index)
    else
      match candidate.principal record.target with
      | none => .error (.targetUnavailable index)
      | some target =>
        let permission := record.permission.underlyingPermission
        if target.enabled = false then .error (.targetUnavailable index)
        else if ¬(target.kind = .teacher ∨ target.kind = .studentDevice) ∨
            replayAllows target.kind permission = false then .error (.unsupportedRolePermission index)
        else if target.permissions.contains permission ≠ record.previousGrant then
          .error (.beforeStateMismatch index)
        else
          match candidate.upsert (target.setPermission permission record.newGrant) with
          | (_, .error _) => .error (.targetUnavailable index)
          | (candidate, .ok ()) => .ok candidate

def replayRecords (index : Nat) (candidate : AuthorizationStore) :
    List ClassroomAuditIntentRecord → Except AuditBaselineConsistencyError AuthorizationStore
  | [] => .ok candidate
  | record :: rest =>
    match replayRecord index candidate record with
    | .error error => .error error
    | .ok candidate => replayRecords (index + 1) candidate rest

def replayUntrustedBatch (initial : AuthorizationStore) (startingGeneration : UInt64)
    (records : List ClassroomAuditIntentRecord) : Except AuditBaselineConsistencyError AuthorizationStore :=
  match checkClassroomAuditBatchConsistency startingGeneration records with
  | .error reason => .error (.batch reason)
  | .ok () => replayRecords 0 initial records

inductive AuditChainBaselineError
  | chain (error : AuditChainConsistencyError)
  | batchBaseline (batchIndex : Nat) (reason : AuditBaselineConsistencyError)
  | finalStateMismatch
deriving DecidableEq

/-- The loop of `check_classroom_audit_chain_against_baseline`. -/
def replayBatches (batchIndex : Nat) (candidate : AuthorizationStore) (generation : UInt64) :
    List (List ClassroomAuditIntentRecord) → Except AuditChainBaselineError AuthorizationStore
  | [] => .ok candidate
  | batch :: rest =>
    match replayUntrustedBatch candidate generation batch with
    | .error reason => .error (.batchBaseline batchIndex reason)
    | .ok candidate =>
      if rest.isEmpty then .ok candidate
      else
        match nextGeneration generation batch.length with
        | none => .error (.chain .generationExhausted)
        | some next => replayBatches (batchIndex + 1) candidate next rest

def checkClassroomAuditChainAgainstBaseline (initial claimedFinal : AuthorizationStore) (startingGeneration : UInt64)
    (batches : List (List ClassroomAuditIntentRecord)) : Except AuditChainBaselineError Unit :=
  match checkClassroomAuditChainConsistency startingGeneration batches with
  | .error error => .error (.chain error)
  | .ok () =>
    match replayBatches 0 initial startingGeneration batches with
    | .error error => .error error
    | .ok candidate => if candidate ≠ claimedFinal then .error .finalStateMismatch else .ok ()

end ClassMesh
