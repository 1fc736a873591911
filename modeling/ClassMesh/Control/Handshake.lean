import ClassMesh.Control.AuthenticatedGuard
import ClassMesh.Foundation.Effect

namespace ClassMesh

open Foundation

namespace ProtocolVersion

def isCompatibleWith (version other : ProtocolVersion) : Bool := version.major = other.major

def negotiate (version other : ProtocolVersion) : Option ProtocolVersion :=
  if version.major ≠ other.major then none
  else some ⟨version.major, if version.minor < other.minor then version.minor else other.minor⟩

end ProtocolVersion

inductive Capability
  | serviceSessionWorker
  | dxgiCapture
  | windowsGraphicsCapture
  | h264HardwareEncode
  | h264HardwareDecode
  | udpMulticast
  | udpUnicast
  | quicDatagram
  | webRtc
  | localSfu
  | clipboardText
  | teacherPresentation
  | sframeGroupMedia
  | systemActions
  | teacherMessage
  | openTarget
  | fileTransfer
  | receiverPlaybackDiagnostics
deriving DecidableEq, Repr

/-- The derived order, in which a `BTreeSet` iterates. -/
instance : LinearOrder Capability :=
  LinearOrder.lift' Capability.ctorIdx fun a b same => by
    cases a <;> cases b <;> first | rfl | exact absurd same (by decide)

inductive ControlRole
  | teacher
  | studentDevice
  | administrator
deriving DecidableEq, Repr

structure ControlHello where
  principalId : PrincipalId
  role : ControlRole
  version : ProtocolVersion
  capabilities : Finset Capability
  hostname : String
  appVersion : String
deriving DecidableEq

structure NegotiatedHello where
  principalId : PrincipalId
  role : ControlRole
  version : ProtocolVersion
  capabilities : Finset Capability
deriving DecidableEq

inductive NegotiationError
  | incompatibleProtocol (self peer : ProtocolVersion)
deriving DecidableEq

def negotiateHello (localVersion : ProtocolVersion) (localCapabilities : Finset Capability) (peer : ControlHello) :
    Except NegotiationError NegotiatedHello :=
  match localVersion.negotiate peer.version with
  | none => .error (.incompatibleProtocol localVersion peer.version)
  | some version =>
    .ok {
      principalId := peer.principalId
      role := peer.role
      version := version
      capabilities := localCapabilities ∩ peer.capabilities }

/-- `E` is the error of the transport. -/
inductive HandshakeError (E : Type)
  | transport (error : E)
  | missingProtocolVersion
  | versionOutOfRange
  | invalidPrincipalIdLength (length : Nat)
  | unsupportedRole (value : Int32)
  | unexpectedPayload
  | invalidHelloEnvelope (controlSessionId sequence requestId : UInt64)
  | helloVersionMismatch (envelope hello : ProtocolVersion)
  | rejected (reason : Int32) (diagnostic : String)
  | invalidSessionId
  | invalidHelloAckEnvelope (controlSessionId sequence requestId : UInt64)
  | helloAckVersionMismatch
  | identityMismatch (authenticated claimed : PrincipalId)
  | negotiation (error : NegotiationError)
deriving DecidableEq

structure ServerHelloConfig where
  localVersion : ProtocolVersion
  localCapabilities : Finset Capability
  controlSessionId : UInt64

structure EstablishedControlSession where
  controlSessionId : UInt64
  negotiated : NegotiatedHello
deriving DecidableEq

structure EstablishedAuthenticatedPeer where
  identity : AuthenticatedPeerIdentity
  controlSessionId : UInt64
deriving DecidableEq

def helloRequestId : UInt64 := 1
def firstSequence : UInt64 := 1
def rejectIncompatibleProtocol : Int32 := 1
def rejectInvalidIdentity : Int32 := 4

section Wire

variable {E : Type}

def versionToWire (version : ProtocolVersion) : WireProtocolVersion := ⟨version.major.toUInt32, version.minor.toUInt32⟩

def versionFromWire (version : WireProtocolVersion) : Except (HandshakeError E) ProtocolVersion :=
  version.toVersion.elim (.error .versionOutOfRange) .ok

/-- An optional version field, which has to be there. -/
def requiredVersion (version : Option WireProtocolVersion) : Except (HandshakeError E) ProtocolVersion :=
  version.elim (.error .missingProtocolVersion) versionFromWire

def roleToWire : ControlRole → Int32
  | .teacher => 1
  | .studentDevice => 2
  | .administrator => 3

def roleFromWire (value : Int32) : Except (HandshakeError E) ControlRole :=
  if value = 1 then .ok .teacher
  else if value = 2 then .ok .studentDevice
  else if value = 3 then .ok .administrator
  else .error (.unsupportedRole value)

def capabilityToWire : Capability → Int32
  | .serviceSessionWorker => 1
  | .dxgiCapture => 2
  | .windowsGraphicsCapture => 3
  | .h264HardwareEncode => 4
  | .h264HardwareDecode => 5
  | .udpMulticast => 6
  | .udpUnicast => 7
  | .quicDatagram => 8
  | .webRtc => 9
  | .localSfu => 10
  | .clipboardText => 11
  | .teacherPresentation => 12
  | .sframeGroupMedia => 13
  | .systemActions => 14
  | .teacherMessage => 15
  | .openTarget => 16
  | .fileTransfer => 17
  | .receiverPlaybackDiagnostics => 18

def capabilityFromWire (value : Int32) : Option Capability :=
  match value.toInt with
  | 1 => some .serviceSessionWorker
  | 2 => some .dxgiCapture
  | 3 => some .windowsGraphicsCapture
  | 4 => some .h264HardwareEncode
  | 5 => some .h264HardwareDecode
  | 6 => some .udpMulticast
  | 7 => some .udpUnicast
  | 8 => some .quicDatagram
  | 9 => some .webRtc
  | 10 => some .localSfu
  | 11 => some .clipboardText
  | 12 => some .teacherPresentation
  | 13 => some .sframeGroupMedia
  | 14 => some .systemActions
  | 15 => some .teacherMessage
  | 16 => some .openTarget
  | 17 => some .fileTransfer
  | 18 => some .receiverPlaybackDiagnostics
  | _ => none

def principalIdFromBytes (bytes : List UInt8) : Except (HandshakeError E) PrincipalId :=
  if length_eq : bytes.length = 32 then .ok ⟨⟨bytes, length_eq⟩⟩
  else .error (.invalidPrincipalIdLength bytes.length)

def helloToWire (hello : ControlHello) : Hello where
  version := some (versionToWire hello.version)
  deviceId := hello.principalId.raw.bytes
  hostname := hello.hostname
  capabilities := (hello.capabilities.sort (· ≤ ·)).map capabilityToWire
  appVersion := hello.appVersion
  role := roleToWire hello.role
  credentialFingerprintSha256 := []

def helloFromWire (hello : Hello) : Except (HandshakeError E) ControlHello := do
  let version ← requiredVersion hello.version
  let principalId ← principalIdFromBytes hello.deviceId
  let role ← roleFromWire hello.role
  pure {
    principalId := principalId
    role := role
    version := version
    capabilities := (hello.capabilities.filterMap capabilityFromWire).toFinset
    hostname := hello.hostname
    appVersion := hello.appVersion }

@[simp] theorem requiredVersion_versionToWire (version : ProtocolVersion) :
    requiredVersion (some (versionToWire version)) = (.ok version : Except (HandshakeError E) ProtocolVersion) := by
  have major := version.major.toNat_lt
  have minor := version.minor.toNat_lt
  simp [requiredVersion, versionFromWire, versionToWire, WireProtocolVersion.toVersion, UInt16.size, major, minor]

@[simp] theorem roleFromWire_roleToWire (role : ControlRole) :
    roleFromWire (roleToWire role) = (.ok role : Except (HandshakeError E) ControlRole) := by
  cases role <;> rfl

@[simp] theorem capabilityFromWire_capabilityToWire (capability : Capability) :
    capabilityFromWire (capabilityToWire capability) = some capability := by
  cases capability <;> rfl

/-- A set of capabilities survives the wire. -/
@[simp] theorem toFinset_capabilityFromWire (capabilities : Finset Capability) :
    (((capabilities.sort (· ≤ ·)).map capabilityToWire).filterMap capabilityFromWire).toFinset = capabilities := by
  have same : capabilityFromWire ∘ capabilityToWire = some := funext capabilityFromWire_capabilityToWire
  rw [List.filterMap_map, same, List.filterMap_some, Finset.sort_toFinset]

theorem helloFromWire_helloToWire (hello : ControlHello) :
    helloFromWire (helloToWire hello) = (.ok hello : Except (HandshakeError E) ControlHello) := by
  have principal : principalIdFromBytes hello.principalId.raw.bytes =
      (.ok hello.principalId : Except (HandshakeError E) PrincipalId) := dif_pos hello.principalId.raw.length_eq
  simp only [helloFromWire, helloToWire, requiredVersion_versionToWire, principal, roleFromWire_roleToWire,
    toFinset_capabilityFromWire]
  rfl

end Wire

section Parties

variable {E : Type}

/-- One end of a control channel: what is still to be received, what was sent, what the transport says to a send and to
a receive for which nothing arrives. -/
structure ControlChannel (E : Type) where
  arriving : List ControlEnvelope
  sent : List ControlEnvelope
  accepts : ControlEnvelope → Except E Unit
  idle : E

abbrev HandshakeStep (E α : Type) := Effect (ControlChannel E) (HandshakeError E) α

namespace ControlChannel

def send (envelope : ControlEnvelope) : HandshakeStep E Unit := do
  let channel ← get
  match channel.accepts envelope with
  | .error error => throw (.transport error)
  | .ok () => set { channel with sent := channel.sent ++ [envelope] }

def receive : HandshakeStep E ControlEnvelope := do
  let channel ← get
  match channel.arriving with
  | [] => throw (.transport channel.idle)
  | envelope :: later =>
    set { channel with arriving := later }
    pure envelope

end ControlChannel

def validateHelloEnvelope (envelope : ControlEnvelope) : Except (HandshakeError E) Unit :=
  if envelope.controlSessionId ≠ 0 ∨ envelope.sequence ≠ firstSequence ∨ envelope.requestId ≠ helloRequestId then
    .error (.invalidHelloEnvelope envelope.controlSessionId envelope.sequence envelope.requestId)
  else .ok ()

def validateHelloProtocolVersion (envelope : ControlEnvelope) (hello : ControlHello) :
    Except (HandshakeError E) Unit := do
  let envelopeVersion ← requiredVersion envelope.protocolVersion
  if envelopeVersion ≠ hello.version then throw (.helloVersionMismatch envelopeVersion hello.version)

def validateAuthenticatedHello (authenticatedPeer : AuthenticatedPeerIdentity) (hello : ControlHello) :
    Except (HandshakeError E) Unit :=
  if authenticatedPeer.principalId ≠ hello.principalId then
    .error (.identityMismatch authenticatedPeer.principalId hello.principalId)
  else .ok ()

def validateHelloAckEnvelope (envelope : ControlEnvelope) (ack : HelloAck) : Except (HandshakeError E) Unit := do
  let expectedSession := if ack.accepted then ack.controlSessionId else 0
  if envelope.controlSessionId ≠ expectedSession ∨ envelope.sequence ≠ firstSequence ∨
      envelope.requestId ≠ helloRequestId then
    throw (.invalidHelloAckEnvelope envelope.controlSessionId envelope.sequence envelope.requestId)
  let envelopeVersion ← requiredVersion envelope.protocolVersion
  if ack.accepted then
    let negotiated ← requiredVersion ack.negotiatedVersion
    if envelopeVersion ≠ negotiated then throw .helloAckVersionMismatch

def establishedFromAck (hello : ControlHello) (ack : HelloAck) :
    Except (HandshakeError E) EstablishedControlSession := do
  if !ack.accepted then throw (.rejected ack.rejectReason ack.diagnostic)
  if ack.controlSessionId = 0 then throw .invalidSessionId
  let version ← requiredVersion ack.negotiatedVersion
  if !hello.version.isCompatibleWith version || version.minor > hello.version.minor then
    throw (.negotiation (.incompatibleProtocol hello.version version))
  let capabilities := (ack.negotiatedCapabilities.filterMap capabilityFromWire).filter (· ∈ hello.capabilities)
  pure {
    controlSessionId := ack.controlSessionId
    negotiated := {
      principalId := hello.principalId
      role := hello.role
      version := version
      capabilities := capabilities.toFinset } }

/-- The envelope a client opens with. -/
def helloEnvelope (hello : ControlHello) : ControlEnvelope where
  controlSessionId := 0
  sequence := firstSequence
  protocolVersion := some (versionToWire hello.version)
  requestId := helloRequestId
  payload := some (.hello (helloToWire hello))

def clientHello (hello : ControlHello) : HandshakeStep E EstablishedControlSession := do
  ControlChannel.send (helloEnvelope hello)
  let response ← ControlChannel.receive
  match response.payload with
  | some (.helloAck ack) =>
    ofExcept (validateHelloAckEnvelope response ack)
    ofExcept (establishedFromAck hello ack)
  | _ => throw .unexpectedPayload

def sendRejectedHello (localVersion : ProtocolVersion) (requestId : UInt64) (reason : Int32) (diagnostic : String) :
    HandshakeStep E Unit :=
  ControlChannel.send {
    controlSessionId := 0
    sequence := firstSequence
    protocolVersion := some (versionToWire localVersion)
    requestId := requestId
    payload := some (.helloAck {
      accepted := false
      negotiatedVersion := none
      controlSessionId := 0
      negotiatedCapabilities := []
      rejectReason := reason
      diagnostic := diagnostic }) }

/-- The envelope a server answers with when the negotiation succeeds. -/
def ackEnvelope (config : ServerHelloConfig) (requestId : UInt64) (negotiated : NegotiatedHello) : ControlEnvelope where
  controlSessionId := config.controlSessionId
  sequence := firstSequence
  protocolVersion := some (versionToWire negotiated.version)
  requestId := requestId
  payload := some (.helloAck {
    accepted := true
    negotiatedVersion := some (versionToWire negotiated.version)
    controlSessionId := config.controlSessionId
    negotiatedCapabilities := (negotiated.capabilities.sort (· ≤ ·)).map capabilityToWire
    rejectReason := 0
    diagnostic := "" })

def completeServerHello (config : ServerHelloConfig) (requestId : UInt64) (hello : ControlHello) :
    HandshakeStep E EstablishedControlSession := do
  match negotiateHello config.localVersion config.localCapabilities hello with
  | .error error =>
    sendRejectedHello config.localVersion requestId rejectIncompatibleProtocol
      "protocol major versions are incompatible"
    throw (.negotiation error)
  | .ok negotiated =>
    ControlChannel.send (ackEnvelope config requestId negotiated)
    pure ⟨config.controlSessionId, negotiated⟩

/-- What both servers do up to the client's principal: receive its request and check it. -/
def receiveHello (config : ServerHelloConfig) : HandshakeStep E (ControlEnvelope × ControlHello) := do
  if config.controlSessionId = 0 then throw .invalidSessionId
  let request ← ControlChannel.receive
  ofExcept (validateHelloEnvelope request)
  match request.payload with
  | some (.hello wire) =>
    let hello ← ofExcept (helloFromWire wire)
    ofExcept (validateHelloProtocolVersion request hello)
    pure (request, hello)
  | _ => throw .unexpectedPayload

def serverHello (config : ServerHelloConfig) : HandshakeStep E EstablishedControlSession := do
  let (request, hello) ← receiveHello config
  completeServerHello config request.requestId hello

def serverHelloAuthenticated (config : ServerHelloConfig) (authenticatedPeer : AuthenticatedPeerIdentity) :
    HandshakeStep E (EstablishedControlSession × EstablishedAuthenticatedPeer) := do
  let (request, hello) ← receiveHello config
  match (validateAuthenticatedHello authenticatedPeer hello : Except (HandshakeError E) Unit) with
  | .error error =>
    sendRejectedHello config.localVersion request.requestId rejectInvalidIdentity
      "Hello principal does not match the authenticated TLS principal"
    throw error
  | .ok () =>
    let session ← completeServerHello config request.requestId hello
    pure (session, ⟨authenticatedPeer, session.controlSessionId⟩)

end Parties

end ClassMesh
