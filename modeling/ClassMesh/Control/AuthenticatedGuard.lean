import ClassMesh.Protocol.ControlWire
import ClassMesh.Security.AuthorizationStore

namespace ClassMesh

structure AuthenticatedPeerIdentity where
  principalId : PrincipalId
  credentialFingerprint : CredentialFingerprint
deriving DecidableEq

namespace AuthenticatedPeerIdentity

def isCurrentlyAuthenticated (peer : AuthenticatedPeerIdentity) (authorization : AuthorizationStore)
    (nowUnixMs : UInt64) : Bool :=
  authorization.principalForCredential peer.credentialFingerprint nowUnixMs = some peer.principalId

def authorize (peer : AuthenticatedPeerIdentity) (authorization : AuthorizationStore) (permission : Permission)
    (nowUnixMs : UInt64) : Bool :=
  peer.isCurrentlyAuthenticated authorization nowUnixMs && authorization.authorize peer.principalId permission

/-- What a peer needs in a store at a time to be allowed something. -/
structure Authorized (peer : AuthenticatedPeerIdentity) (authorization : AuthorizationStore) (permission : Permission)
    (nowUnixMs : UInt64) : Prop where
  resolves : authorization.principalForCredential peer.credentialFingerprint nowUnixMs = some peer.principalId
  holds : ∃ record, authorization.principals[peer.principalId]? = some record ∧ record.enabled = true ∧
    record.permissions.contains permission = true

theorem authorize_iff {peer : AuthenticatedPeerIdentity} {authorization : AuthorizationStore}
    {permission : Permission} {nowUnixMs : UInt64} :
    peer.authorize authorization permission nowUnixMs = true ↔ peer.Authorized authorization permission nowUnixMs := by
  unfold authorize isCurrentlyAuthenticated AuthorizationStore.authorize Principal.allows
  simp only [Bool.and_eq_true, decide_eq_true_eq, Option.any_eq_true]
  exact ⟨fun ⟨resolves, holds⟩ => ⟨resolves, holds⟩, fun authorized => ⟨authorized.resolves, authorized.holds⟩⟩

end AuthenticatedPeerIdentity

inductive CommandAuthorizationError
  | missingPayload
  | handshakePayloadAfterEstablishment
  | missingProtocolVersion
  | protocolVersionOutOfRange
  | wrongProtocolVersion (expected received : ProtocolVersion)
  | wrongSession (expected received : UInt64)
  | nonIncreasingSequence (previous received : UInt64)
  | unauthorized (permission : Permission)
deriving DecidableEq

structure AuthenticatedControlGuard where
  peer : AuthenticatedPeerIdentity
  controlSessionId : UInt64
  protocolVersion : ProtocolVersion
  lastSequence : UInt64
deriving DecidableEq

/-- `u16::try_from` of both parts. -/
def WireProtocolVersion.toVersion (wire : WireProtocolVersion) : Option ProtocolVersion :=
  if wire.major.toNat < UInt16.size ∧ wire.minor.toNat < UInt16.size then
    some ⟨wire.major.toUInt16, wire.minor.toUInt16⟩
  else none

namespace AuthenticatedControlGuard

variable (guard : AuthenticatedControlGuard)

/-- The checks of `validate_envelope`, which come before the sequence is consumed. -/
def checkEnvelope (envelope : ControlEnvelope) : Except CommandAuthorizationError Unit :=
  match envelope.payload with
  | none => .error .missingPayload
  | some payload =>
    if payload.isHandshake then .error .handshakePayloadAfterEstablishment
    else
      match envelope.protocolVersion with
      | none => .error .missingProtocolVersion
      | some wireVersion =>
        match wireVersion.toVersion with
        | none => .error .protocolVersionOutOfRange
        | some receivedVersion =>
          if receivedVersion ≠ guard.protocolVersion then
            .error (.wrongProtocolVersion guard.protocolVersion receivedVersion)
          else if envelope.controlSessionId ≠ guard.controlSessionId then
            .error (.wrongSession guard.controlSessionId envelope.controlSessionId)
          else if envelope.sequence = 0 ∨ envelope.sequence ≤ guard.lastSequence then
            .error (.nonIncreasingSequence guard.lastSequence envelope.sequence)
          else .ok ()

def validateEnvelope (envelope : ControlEnvelope) : AuthenticatedControlGuard × Except CommandAuthorizationError Unit :=
  match guard.checkEnvelope envelope with
  | .error error => (guard, .error error)
  | .ok () => ({ guard with lastSequence := envelope.sequence }, .ok ())

def authorize (authorization : AuthorizationStore) (envelope : ControlEnvelope) (permission : Permission)
    (nowUnixMs : UInt64) : AuthenticatedControlGuard × Except CommandAuthorizationError Unit :=
  match guard.validateEnvelope envelope with
  | (guard, .error error) => (guard, .error error)
  | (guard, .ok ()) =>
    if guard.peer.authorize authorization permission nowUnixMs = false then (guard, .error (.unauthorized permission))
    else (guard, .ok ())

variable {guard after : AuthenticatedControlGuard} {envelope : ControlEnvelope}

/-- An envelope of this session with a new sequence. -/
structure Admits (guard : AuthenticatedControlGuard) (envelope : ControlEnvelope) : Prop where
  payload : ∃ payload, envelope.payload = some payload
  version : ∃ wire, envelope.protocolVersion = some wire ∧ wire.toVersion = some guard.protocolVersion
  session : envelope.controlSessionId = guard.controlSessionId
  newer : guard.lastSequence < envelope.sequence

theorem checkEnvelope_ok (checked : guard.checkEnvelope envelope = .ok ()) : guard.Admits envelope := by
  unfold checkEnvelope at checked
  split at checked
  · cases checked
  case h_2 payload atPayload =>
    split at checked
    · cases checked
    · split at checked
      · cases checked
      case h_2 wire atWire =>
        split at checked
        · cases checked
        case h_2 received converted =>
          split at checked
          · cases checked
          case isFalse version =>
            split at checked
            · cases checked
            case isFalse session =>
              split at checked
              · cases checked
              case isFalse sequence =>
                rw [not_not.mp version] at converted
                exact ⟨⟨payload, atPayload⟩, ⟨wire, atWire, converted⟩, not_not.mp session,
                  UInt64.not_le.mp (not_or.mp sequence).2⟩

theorem checkEnvelope_error {error : CommandAuthorizationError}
    (checked : guard.checkEnvelope envelope = .error error) (permission : Permission) :
    error ≠ .unauthorized permission := by
  rintro rfl
  unfold checkEnvelope at checked
  repeat' split at checked
  all_goals cases checked

/-- Either the sequence of the envelope is consumed and it is newer than every one before, or nothing changes. -/
inductive Consumption (guard : AuthenticatedControlGuard) (envelope : ControlEnvelope) :
    AuthenticatedControlGuard → Bool → Prop
  | consumed (admits : guard.Admits envelope) :
      Consumption guard envelope { guard with lastSequence := envelope.sequence } true
  | kept : Consumption guard envelope guard false

/-- The answers that consume the sequence. -/
def consumes : Except CommandAuthorizationError Unit → Bool
  | .ok () => true
  | .error (.unauthorized _) => true
  | .error _ => false

theorem validateEnvelope_consumption (guard : AuthenticatedControlGuard) (envelope : ControlEnvelope) :
    Consumption guard envelope (guard.validateEnvelope envelope).1 (consumes (guard.validateEnvelope envelope).2) := by
  unfold validateEnvelope
  cases checked : guard.checkEnvelope envelope with
  | ok => exact .consumed (checkEnvelope_ok checked)
  | error error =>
    have other := checkEnvelope_error checked
    cases error
    case unauthorized permission => exact absurd rfl (other permission)
    all_goals exact .kept

theorem authorize_consumption (guard : AuthenticatedControlGuard) (authorization : AuthorizationStore)
    (envelope : ControlEnvelope) (permission : Permission) (nowUnixMs : UInt64) :
    Consumption guard envelope (guard.authorize authorization envelope permission nowUnixMs).1
      (consumes (guard.authorize authorization envelope permission nowUnixMs).2) := by
  have consumption := guard.validateEnvelope_consumption envelope
  unfold authorize
  generalize guard.validateEnvelope envelope = validated at consumption ⊢
  obtain ⟨_, result⟩ := validated
  cases result with
  | error => exact consumption
  | ok =>
    dsimp only
    split
    · exact consumption
    · exact consumption

theorem authorize_ok {authorization : AuthorizationStore} {permission : Permission} {nowUnixMs : UInt64}
    (authorized : guard.authorize authorization envelope permission nowUnixMs = (after, .ok ())) :
    guard.Admits envelope ∧ after = { guard with lastSequence := envelope.sequence } ∧
      guard.peer.Authorized authorization permission nowUnixMs := by
  unfold authorize validateEnvelope at authorized
  cases checked : guard.checkEnvelope envelope with
  | error =>
    rw [checked] at authorized
    cases authorized
  | ok =>
    rw [checked] at authorized
    dsimp only at authorized
    split at authorized
    · cases authorized
    case isFalse allowed =>
      cases authorized
      exact ⟨checkEnvelope_ok checked, rfl, AuthenticatedPeerIdentity.authorize_iff.mp (by simpa using allowed)⟩

end AuthenticatedControlGuard

end ClassMesh
