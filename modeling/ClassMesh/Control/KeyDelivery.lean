import ClassMesh.Control.Handshake
import ClassMesh.Core.Adaptation
import ClassMesh.Foundation.Run
import ClassMesh.Network.SocketAddr
import ClassMesh.Security.ClassroomPolicy
import ClassMesh.Security.GroupMediaCoordinator

namespace ClassMesh

open Std Foundation

section PeerIdentity

/-- What the transport says about the certificates of its peer: nothing, something of another type, or a chain that
the handshake has verified. -/
inductive TlsPeerIdentity
  | missing
  | unexpectedType
  | chain (certificates : List (List UInt8))

structure Connection where
  stableId : Nat
  remoteAddress : SocketAddr
  peerIdentity : TlsPeerIdentity

inductive PeerIdentityError
  | missingPeerIdentity
  | unexpectedPeerIdentityType
  | emptyCertificateChain
  | unknownOrInactiveCredential
deriving DecidableEq

variable (sha256 : List UInt8 → Bytes32)

def identityForVerifiedCertificateChain (authorization : AuthorizationStore) (certificateChain : List (List UInt8))
    (nowUnixMs : UInt64) : Except PeerIdentityError AuthenticatedPeerIdentity :=
  match certificateChain with
  | [] => .error .emptyCertificateChain
  | leaf :: _ =>
    match authorization.principalForCredential ⟨sha256 leaf⟩ nowUnixMs with
    | none => .error .unknownOrInactiveCredential
    | some principalId => .ok ⟨principalId, ⟨sha256 leaf⟩⟩

def authenticatedPeerIdentity (connection : Connection) (authorization : AuthorizationStore) (nowUnixMs : UInt64) :
    Except PeerIdentityError AuthenticatedPeerIdentity :=
  match connection.peerIdentity with
  | .missing => .error .missingPeerIdentity
  | .unexpectedType => .error .unexpectedPeerIdentityType
  | .chain certificates => identityForVerifiedCertificateChain sha256 authorization certificates nowUnixMs

end PeerIdentity

structure ClientControlSession where
  connection : Connection
  established : EstablishedControlSession

def groupMediaControlAvailable (version : ProtocolVersion) (capabilities : Finset Capability) : Bool :=
  version.major = groupMediaControlMinVersion.major && groupMediaControlMinVersion.minor ≤ version.minor &&
    Capability.teacherPresentation ∈ capabilities && Capability.sframeGroupMedia ∈ capabilities

inductive GroupMediaSessionError
  | invalidSessionId
  | sessionMismatch (negotiated authenticated : UInt64)
  | identityMismatch
  | receiverRoleRequired
  | teacherRoleRequired
  | receiverPrincipalRequired
  | peerIdentity (error : PeerIdentityError)
  | contractUnavailable
  | receiverUnauthorized
  | zeroRequestId
  | zeroSequence
  | invalidGrant (error : GroupMediaControlError)
  | coordinator (error : GroupMediaCoordinatorError)
deriving DecidableEq

structure BoundGroupMediaReceiverSession where
  identity : AuthenticatedPeerIdentity
  controlSessionId : UInt64
  protocolVersion : ProtocolVersion

structure PresentationKeyGrantRequest where
  presentationId : UInt64
  streamId : UInt64
  requestId : UInt64
  sequence : UInt64
deriving DecidableEq

structure PendingPresentationKeyAck where
  principal : PrincipalId
  controlSessionId : UInt64
  requestId : UInt64
  presentationId : UInt64
  streamId : UInt64
  epoch : GroupMediaEpoch
  acknowledged : Bool
deriving DecidableEq

namespace BoundGroupMediaReceiverSession

def bindClientIdentity (session : EstablishedControlSession) (identity : AuthenticatedPeerIdentity)
    (expectedReceiver : PrincipalId) (authorization : AuthorizationStore) :
    Except GroupMediaSessionError BoundGroupMediaReceiverSession :=
  if session.controlSessionId = 0 then .error .invalidSessionId
  else if session.negotiated.role ≠ .teacher then .error .teacherRoleRequired
  else if groupMediaControlAvailable session.negotiated.version session.negotiated.capabilities = false then
    .error .contractUnavailable
  else if identity.principalId ≠ expectedReceiver then .error .identityMismatch
  else if (authorization.principal identity.principalId).map (·.kind) ≠ some .studentDevice then
    .error .receiverPrincipalRequired
  else .ok ⟨identity, session.controlSessionId, session.negotiated.version⟩

def bindClient (sha256 : List UInt8 → Bytes32) (session : ClientControlSession) (expectedReceiver : PrincipalId)
    (authorization : AuthorizationStore) (nowUnixMs : UInt64) :
    Except GroupMediaSessionError BoundGroupMediaReceiverSession :=
  match authenticatedPeerIdentity sha256 session.connection authorization nowUnixMs with
  | .error error => .error (.peerIdentity error)
  | .ok identity => bindClientIdentity session.established identity expectedReceiver authorization

def issueKeyGrant {S : Sframe} (bound : BoundGroupMediaReceiverSession) (coordinator : GroupMediaCoordinator S)
    (authorization : AuthorizationStore) (request : PresentationKeyGrantRequest) (nowUnixMs : UInt64) :
    GroupMediaCoordinator S × Except GroupMediaSessionError (ControlEnvelope × PendingPresentationKeyAck) :=
  if request.requestId = 0 then (coordinator, .error .zeroRequestId)
  else if request.sequence = 0 then (coordinator, .error .zeroSequence)
  else if request.presentationId = 0 then (coordinator, .error (.invalidGrant .invalidPresentationId))
  else if request.streamId = 0 then (coordinator, .error (.invalidGrant .invalidStreamId))
  else if UInt32.size ≤ request.streamId.toNat then (coordinator, .error (.invalidGrant .streamIdOutOfRange))
  else if bound.identity.authorize authorization .receivePresentation nowUnixMs = false then
    (coordinator, .error .receiverUnauthorized)
  else
    match coordinator.issueKey authorization bound.identity.principalId with
    | (coordinator, .error error) => (coordinator, .error (.coordinator error))
    | (coordinator, .ok grant) =>
      let wireGrant : PresentationKeyGrant :=
        { presentationId := request.presentationId
          streamId := request.streamId
          epoch := grant.epoch.value
          keyMaterial := grant.keyBytes.bytes }
      match validateKeyGrant wireGrant with
      | .error error => (coordinator, .error (.invalidGrant error))
      | .ok () =>
        (coordinator, .ok
          ({ controlSessionId := bound.controlSessionId
             sequence := request.sequence
             protocolVersion := some ⟨bound.protocolVersion.major.toUInt32, bound.protocolVersion.minor.toUInt32⟩
             requestId := request.requestId
             payload := some (.presentationKeyGrant wireGrant) },
           { principal := bound.identity.principalId
             controlSessionId := bound.controlSessionId
             requestId := request.requestId
             presentationId := request.presentationId
             streamId := request.streamId
             epoch := grant.epoch
             acknowledged := false }))

end BoundGroupMediaReceiverSession

inductive PresentationKeyAckError
  | alreadyAcknowledged
  | unexpectedPayload
  | invalidAck (error : GroupMediaControlError)
  | peerMismatch
  | sessionMismatch (expected received : UInt64)
  | authorization (error : CommandAuthorizationError)
  | requestMismatch (expected received : UInt64)
  | presentationMismatch (expected received : UInt64)
  | streamMismatch (expected received : UInt64)
  | epochMismatch (expected received : UInt32)
  | coordinator (error : GroupMediaCoordinatorError)
deriving DecidableEq

/-- What an acknowledgement touches: the pending record, the guard of its control session and the coordinator. -/
structure AckState (S : Sframe) where
  pending : PendingPresentationKeyAck
  guard : AuthenticatedControlGuard
  coordinator : GroupMediaCoordinator S

def PendingPresentationKeyAck.accept {S : Sframe} (pending : PendingPresentationKeyAck)
    (guard : AuthenticatedControlGuard) (authorization : AuthorizationStore) (coordinator : GroupMediaCoordinator S)
    (envelope : ControlEnvelope) (nowUnixMs : UInt64) : AckState S × Except PresentationKeyAckError Unit :=
  if pending.acknowledged then (⟨pending, guard, coordinator⟩, .error .alreadyAcknowledged)
  else
    match envelope.payload with
    | some (.presentationKeyAck ack) =>
      match validateKeyAck ack with
      | .error error => (⟨pending, guard, coordinator⟩, .error (.invalidAck error))
      | .ok () =>
        if guard.peer.principalId ≠ pending.principal then (⟨pending, guard, coordinator⟩, .error .peerMismatch)
        else if envelope.controlSessionId ≠ pending.controlSessionId then
          (⟨pending, guard, coordinator⟩,
            .error (.sessionMismatch pending.controlSessionId envelope.controlSessionId))
        else
          match guard.authorize authorization envelope .receivePresentation nowUnixMs with
          | (guard, .error error) => (⟨pending, guard, coordinator⟩, .error (.authorization error))
          | (guard, .ok ()) =>
            if envelope.requestId ≠ pending.requestId then
              (⟨pending, guard, coordinator⟩, .error (.requestMismatch pending.requestId envelope.requestId))
            else if ack.presentationId ≠ pending.presentationId then
              (⟨pending, guard, coordinator⟩,
                .error (.presentationMismatch pending.presentationId ack.presentationId))
            else if ack.streamId ≠ pending.streamId then
              (⟨pending, guard, coordinator⟩, .error (.streamMismatch pending.streamId ack.streamId))
            else if ack.epoch ≠ pending.epoch.value then
              (⟨pending, guard, coordinator⟩, .error (.epochMismatch pending.epoch.value ack.epoch))
            else
              match coordinator.markInstalled authorization pending.principal pending.epoch with
              | (coordinator, .error error) => (⟨pending, guard, coordinator⟩, .error (.coordinator error))
              | (coordinator, .ok ()) => (⟨{ pending with acknowledged := true }, guard, coordinator⟩, .ok ())
    | _ => (⟨pending, guard, coordinator⟩, .error .unexpectedPayload)

section Targets

inductive PresentationSenderTargetError
  | missingActivePresentation
  | invalidProfile (error : StreamProfileError)
  | streamMismatch (expected : UInt32) (received : UInt64)
  | profileMismatch
  | invalidPort
  | fallbackNotEnabled
  | epochNotActive
  | receiverEpochNotInstalled
deriving DecidableEq

structure PresentationOwner where
  principalId : PrincipalId
  controlSessionId : UInt64
  presentationId : UInt64
  streamId : UInt64
deriving DecidableEq

structure PresentationFallbackCoordinator where
  streamId : UInt32
  unicastReceivers : BTreeSet PrincipalId

structure ValidatedPresentationUnicastFallbackOffer where
  streamId : UInt64
  profile : StreamProfile
  port : UInt16
deriving DecidableEq

structure PresentationUnicastSenderTargetRequest where
  receiver : PrincipalId
  session : ClientControlSession
  nowUnixMs : UInt64
  profile : StreamProfile
  epoch : GroupMediaEpoch
  offer : ValidatedPresentationUnicastFallbackOffer

structure PresentationUnicastSenderTarget where
  receiver : PrincipalId
  destination : SocketAddr
  presentationId : UInt64
  streamId : UInt32
  profile : StreamProfile
  epoch : GroupMediaEpoch
deriving DecidableEq

end Targets

inductive TeacherGroupMediaDeliveryError
  | invalidReceiverLimit
  | receiverLimitExceeded
  | duplicateReceiver
  | receiverNotRegistered
  | sessionBindingMismatch
  | pendingAckExists
  | missingPendingAck
  | senderTarget (error : PresentationSenderTargetError)
  | binding (error : GroupMediaSessionError)
  | ack (error : PresentationKeyAckError)
  | transport
deriving DecidableEq

structure ReceiverDeliverySession where
  connectionStableId : Nat
  controlSessionId : UInt64
  protocolVersion : ProtocolVersion
  pendingAck : Option PendingPresentationKeyAck

structure TeacherGroupMediaDeliveryManager where
  receivers : BTreeMap PrincipalId ReceiverDeliverySession := ∅
  maxReceivers : Nat := maxGroupMediaReceivers

/-- What becomes of the write that ends `send_key`. -/
inductive ChannelWrite
  | sent
  | failed
  | cancelled
deriving DecidableEq

/-- An issued key is returned when the write succeeds, a failed write returns the transport's error instead, and a
cancelled call returns nothing. -/
inductive SendKeyResult
  | refused (error : TeacherGroupMediaDeliveryError)
  | issued (epoch : GroupMediaEpoch) (write : ChannelWrite)
deriving DecidableEq

/-- The session that a registration or a call is bound to. -/
def ClientControlSession.binding (session : ClientControlSession) : Nat × UInt64 × ProtocolVersion :=
  (session.connection.stableId, session.established.controlSessionId, session.established.negotiated.version)

def ReceiverDeliverySession.binding (state : ReceiverDeliverySession) : Nat × UInt64 × ProtocolVersion :=
  (state.connectionStableId, state.controlSessionId, state.protocolVersion)

namespace TeacherGroupMediaDeliveryManager

variable {S : Sframe} (sha256 : List UInt8 → Bytes32) (manager : TeacherGroupMediaDeliveryManager)

def registerClientSession (session : ClientControlSession) (receiver : PrincipalId)
    (authorization : AuthorizationStore) (nowUnixMs : UInt64) :
    TeacherGroupMediaDeliveryManager × Except TeacherGroupMediaDeliveryError Unit :=
  if manager.receivers.contains receiver then (manager, .error .duplicateReceiver)
  else if manager.maxReceivers ≤ manager.receivers.size then (manager, .error .receiverLimitExceeded)
  else
    match BoundGroupMediaReceiverSession.bindClient sha256 session receiver authorization nowUnixMs with
    | .error error => (manager, .error (.binding error))
    | .ok bound =>
      ({ manager with
          receivers := manager.receivers.insert receiver
            { connectionStableId := session.connection.stableId
              controlSessionId := bound.controlSessionId
              protocolVersion := session.established.negotiated.version
              pendingAck := none } }, .ok ())

def boundClient (receiver : PrincipalId) (session : ClientControlSession) (authorization : AuthorizationStore)
    (nowUnixMs : UInt64) : Except TeacherGroupMediaDeliveryError BoundGroupMediaReceiverSession :=
  match manager.receivers[receiver]? with
  | none => .error .receiverNotRegistered
  | some state =>
    if state.connectionStableId ≠ session.connection.stableId ∨
        state.controlSessionId ≠ session.established.controlSessionId ∨
        state.protocolVersion ≠ session.established.negotiated.version then .error .sessionBindingMismatch
    else
      match BoundGroupMediaReceiverSession.bindClient sha256 session receiver authorization nowUnixMs with
      | .error error => .error (.binding error)
      | .ok bound =>
        if bound.controlSessionId ≠ state.controlSessionId then .error .sessionBindingMismatch else .ok bound

def setPending (receiver : PrincipalId) (pending : Option PendingPresentationKeyAck) :
    TeacherGroupMediaDeliveryManager :=
  { manager with
    receivers := manager.receivers.modify receiver fun state => { state with pendingAck := pending } }

def hasPendingAck (receiver : PrincipalId) : Bool :=
  manager.receivers[receiver]?.any (·.pendingAck.isSome)

/-- The pending record is kept before the first await, so it is there whatever becomes of the write. -/
def sendKey (receiver : PrincipalId) (session : ClientControlSession) (coordinator : GroupMediaCoordinator S)
    (authorization : AuthorizationStore) (request : PresentationKeyGrantRequest) (nowUnixMs : UInt64)
    (write : ChannelWrite) : TeacherGroupMediaDeliveryManager × GroupMediaCoordinator S × SendKeyResult :=
  match manager.boundClient sha256 receiver session authorization nowUnixMs with
  | .error error => (manager, coordinator, .refused error)
  | .ok bound =>
    if manager.hasPendingAck receiver then (manager, coordinator, .refused .pendingAckExists)
    else
      match bound.issueKeyGrant coordinator authorization request nowUnixMs with
      | (coordinator, .error error) => (manager, coordinator, .refused (.binding error))
      | (coordinator, .ok (_, pending)) =>
        (manager.setPending receiver (some pending), coordinator, .issued pending.epoch write)

def acceptKeyAck (receiver : PrincipalId) (session : ClientControlSession) (envelope : ControlEnvelope)
    (guard : AuthenticatedControlGuard) (authorization : AuthorizationStore) (coordinator : GroupMediaCoordinator S)
    (nowUnixMs : UInt64) :
    TeacherGroupMediaDeliveryManager × AuthenticatedControlGuard × GroupMediaCoordinator S ×
      Except TeacherGroupMediaDeliveryError Unit :=
  match manager.boundClient sha256 receiver session authorization nowUnixMs with
  | .error error => (manager, guard, coordinator, .error error)
  | .ok _ =>
    match manager.receivers[receiver]? with
    | none => (manager, guard, coordinator, .error .receiverNotRegistered)
    | some state =>
      match state.pendingAck with
      | none => (manager, guard, coordinator, .error .missingPendingAck)
      | some pending =>
        match pending.accept guard authorization coordinator envelope nowUnixMs with
        | (after, .error error) =>
          (manager.setPending receiver (some after.pending), after.guard, after.coordinator, .error (.ack error))
        | (after, .ok ()) => (manager.setPending receiver none, after.guard, after.coordinator, .ok ())

def removeReceiver (receiver : PrincipalId) : TeacherGroupMediaDeliveryManager × Bool :=
  ({ manager with receivers := manager.receivers.erase receiver }, manager.receivers.contains receiver)

def buildUnicastSenderTarget (fallback : PresentationFallbackCoordinator) (coordinator : GroupMediaCoordinator S)
    (authorization : AuthorizationStore) (ownership : Option PresentationOwner)
    (request : PresentationUnicastSenderTargetRequest) :
    Except TeacherGroupMediaDeliveryError PresentationUnicastSenderTarget :=
  match ownership with
  | none => .error (.senderTarget .missingActivePresentation)
  | some owner =>
    match request.profile.validate with
    | .error error => .error (.senderTarget (.invalidProfile error))
    | .ok profile =>
      if UInt32.size ≤ owner.streamId.toNat then
        .error (.senderTarget (.streamMismatch fallback.streamId owner.streamId))
      else if UInt32.size ≤ request.offer.streamId.toNat then
        .error (.senderTarget (.streamMismatch fallback.streamId request.offer.streamId))
      else
        let ownerStreamId := owner.streamId.toUInt32
        let streamId := request.offer.streamId.toUInt32
        if ownerStreamId = 0 ∨ ownerStreamId ≠ fallback.streamId ∨ streamId ≠ ownerStreamId then
          .error (.senderTarget (.streamMismatch fallback.streamId request.offer.streamId))
        else if request.offer.profile ≠ profile then .error (.senderTarget .profileMismatch)
        else if request.offer.port = 0 then .error (.senderTarget .invalidPort)
        else
          match manager.boundClient sha256 request.receiver request.session authorization request.nowUnixMs with
          | .error error => .error error
          | .ok _ =>
            if fallback.unicastReceivers.contains request.receiver = false then
              .error (.senderTarget .fallbackNotEnabled)
            else if coordinator.activeEpoch ≠ some request.epoch then .error (.senderTarget .epochNotActive)
            else if coordinator.receivers[request.receiver]? ≠ some (.installed request.epoch) then
              .error (.senderTarget .receiverEpochNotInstalled)
            else .ok
              { receiver := request.receiver
                destination := ⟨request.session.connection.remoteAddress.ip, request.offer.port⟩
                presentationId := owner.presentationId
                streamId := ownerStreamId
                profile := profile
                epoch := request.epoch }

end TeacherGroupMediaDeliveryManager

/-- The manager, the coordinator and the guards of any number of control sessions. -/
structure DeliveryState (S : Sframe) (Guard : Type) where
  manager : TeacherGroupMediaDeliveryManager
  coordinator : GroupMediaCoordinator S
  guards : Guard → AuthenticatedControlGuard

inductive DeliveryInput (Guard : Type)
  | registerClientSession (session : ClientControlSession) (receiver : PrincipalId)
      (authorization : AuthorizationStore) (nowUnixMs : UInt64)
  | sendKey (receiver : PrincipalId) (session : ClientControlSession) (authorization : AuthorizationStore)
      (request : PresentationKeyGrantRequest) (nowUnixMs : UInt64) (write : ChannelWrite)
  | acceptKeyAck (receiver : PrincipalId) (session : ClientControlSession) (envelope : ControlEnvelope)
      (guard : Guard) (authorization : AuthorizationStore) (nowUnixMs : UInt64)
  | removeReceiver (receiver : PrincipalId)
  | coordinate (input : CoordinatorInput)
  | validateEnvelope (guard : Guard) (envelope : ControlEnvelope)

inductive DeliveryReply
  | registered (result : Except TeacherGroupMediaDeliveryError Unit)
  | keySent (result : SendKeyResult)
  | acked (result : Except TeacherGroupMediaDeliveryError Unit)
  | removed (result : Bool)
  | coordinated (reply : CoordinatorReply)
  | validated (result : Except CommandAuthorizationError Unit)

abbrev DeliveryCall (S : Sframe) (Guard : Type) := Call (DeliveryState S Guard) (DeliveryInput Guard) DeliveryReply

/-- Keys are issued and marked as installed through the manager only. -/
def CoordinatorInput.direct : CoordinatorInput → Bool
  | .issueKey _ _ => false
  | .markInstalled _ _ _ => false
  | _ => true

def DeliveryState.step {S : Sframe} {Guard : Type} [DecidableEq Guard] (sha256 : List UInt8 → Bytes32)
    (state : DeliveryState S Guard) : DeliveryInput Guard → Option (DeliveryState S Guard × DeliveryReply)
  | .registerClientSession session receiver authorization nowUnixMs =>
    let (manager, result) :=
      state.manager.registerClientSession sha256 session receiver authorization nowUnixMs
    some ({ state with manager := manager }, .registered result)
  | .sendKey receiver session authorization request nowUnixMs write =>
    let (manager, coordinator, result) :=
      state.manager.sendKey sha256 receiver session state.coordinator authorization request nowUnixMs write
    some ({ state with manager := manager, coordinator := coordinator }, .keySent result)
  | .acceptKeyAck receiver session envelope guard authorization nowUnixMs =>
    let (manager, moved, coordinator, result) :=
      state.manager.acceptKeyAck sha256 receiver session envelope (state.guards guard) authorization
        state.coordinator nowUnixMs
    some (⟨manager, coordinator, Function.update state.guards guard moved⟩, .acked result)
  | .removeReceiver receiver =>
    let (manager, result) := state.manager.removeReceiver receiver
    some ({ state with manager := manager }, .removed result)
  | .coordinate input =>
    if input.direct then
      let (coordinator, reply) := state.coordinator.step input
      some ({ state with coordinator := coordinator }, .coordinated reply)
    else none
  | .validateEnvelope guard envelope =>
    let (moved, result) := (state.guards guard).validateEnvelope envelope
    some ({ state with guards := Function.update state.guards guard moved }, .validated result)

end ClassMesh
