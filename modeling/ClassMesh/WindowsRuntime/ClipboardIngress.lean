import ClassMesh.Foundation.Run
import ClassMesh.WindowsRuntime.ClipboardFrame

namespace ClassMesh

open Foundation

def maxSensitiveReadFrame : Nat := ipcHeaderLen + clipboardReadSuccessFixedLen + maxClipboardTextBytes
def sensitiveClipboardReadDeadlineMs : Nat := 2500

variable (zeroize : List UInt8 → List UInt8)

inductive ClipboardStreamState
  | collecting
  | complete
  | rejected
deriving DecidableEq

inductive ClipboardStreamError
  | finished
  | malformedHeader
  | wrongVersion
  | wrongMessage
  | payloadTooLarge
  | lengthMismatch
  | invalidFrame (error : ClipboardReadFrameError)
deriving DecidableEq

structure SensitiveClipboardReadStream where
  buffer : List UInt8 := []
  state : ClipboardStreamState := .collecting
deriving DecidableEq

namespace SensitiveClipboardReadStream

/-- The stream after an error, which wipes its buffer. -/
def reject (error : ClipboardStreamError) :
    SensitiveClipboardReadStream × Except ClipboardStreamError (Option SensitiveClipboardReadSuccess) :=
  (⟨[], .rejected⟩, .error error)

/-- What the stream makes of the bytes collected so far. -/
def parse (buffer : List UInt8) :
    SensitiveClipboardReadStream × Except ClipboardStreamError (Option SensitiveClipboardReadSuccess) :=
  if buffer.length < ipcHeaderLen then (⟨buffer, .collecting⟩, .ok none)
  else
    match IpcHeader.decode buffer with
    | .error _ => reject .malformedHeader
    | .ok header =>
      if header.versionMajor ≠ ipcVersionMajor ∨ header.versionMinor ≠ clipboardReadSuccessFutureMinor then
        reject .wrongVersion
      else if header.messageType ≠ clipboardReadSuccessReservedType then reject .wrongMessage
      else
        let payloadLen := header.payloadLen.toNat
        if clipboardReadSuccessFixedLen + maxClipboardTextBytes < payloadLen then reject .payloadTooLarge
        else if payloadLen < clipboardReadSuccessFixedLen then reject .lengthMismatch
        else if ipcHeaderLen + payloadLen < buffer.length then reject .lengthMismatch
        else if buffer.length < ipcHeaderLen + payloadLen then (⟨buffer, .collecting⟩, .ok none)
        else
          match decodeSensitiveClipboardReadFrame buffer with
          | .ok sensitive => (⟨[], .complete⟩, .ok (some sensitive))
          | .error error => (⟨[], .rejected⟩, .error (.invalidFrame error))

/-- The third component is the caller's chunk after the call, which wipes it with `zeroize`. -/
def pushBytes (stream : SensitiveClipboardReadStream) (incoming : List UInt8) :
    SensitiveClipboardReadStream × Except ClipboardStreamError (Option SensitiveClipboardReadSuccess) × List UInt8 :=
  if stream.state ≠ .collecting then (stream, .error .finished, zeroize incoming)
  else if maxSensitiveReadFrame < stream.buffer.length + incoming.length then
    ((reject .payloadTooLarge).1, (reject .payloadTooLarge).2, zeroize incoming)
  else ((parse (stream.buffer ++ incoming)).1, (parse (stream.buffer ++ incoming)).2, zeroize incoming)

end SensitiveClipboardReadStream

inductive SensitiveReadAcceptError
  | invalidBinding
  | clockOverflow
  | clockRegression
  | expired
  | mismatch
  | missing
deriving DecidableEq

structure SensitiveClipboardReadAcceptanceGate where
  pending : Option ClipboardReadSuccessBinding
  startedAtMs : UInt64
  expiresAtMs : UInt64
deriving DecidableEq

namespace SensitiveClipboardReadAcceptanceGate

def new (expected : ClipboardReadSuccessBinding) (nowMs : UInt64) :
    Except SensitiveReadAcceptError SensitiveClipboardReadAcceptanceGate :=
  if !expected.isValid then .error .invalidBinding
  else
    match checkedAdd nowMs sensitiveClipboardReadDeadlineMs with
    | none => .error .clockOverflow
    | some expiresAtMs => .ok ⟨some expected, nowMs, expiresAtMs⟩

def cancel (gate : SensitiveClipboardReadAcceptanceGate) : SensitiveClipboardReadAcceptanceGate :=
  { gate with pending := none }

def accept (gate : SensitiveClipboardReadAcceptanceGate) (payload : SensitiveClipboardReadSuccess) (nowMs : UInt64) :
    SensitiveClipboardReadAcceptanceGate × Except SensitiveReadAcceptError SensitiveClipboardReadSuccess :=
  match gate.pending with
  | none => (gate, .error .missing)
  | some expected =>
    if nowMs < gate.startedAtMs then (gate.cancel, .error .clockRegression)
    else if gate.expiresAtMs ≤ nowMs then (gate.cancel, .error .expired)
    else if payload.binding ≠ expected then (gate, .error .mismatch)
    else (gate.cancel, .ok payload)

end SensitiveClipboardReadAcceptanceGate

inductive SensitiveInboxError
  | clockRegression
  | expired
  | finished
  | stream (error : ClipboardStreamError)
  | acceptance (error : SensitiveReadAcceptError)
deriving DecidableEq

structure SensitiveClipboardReadInbox where
  gate : SensitiveClipboardReadAcceptanceGate
  stream : SensitiveClipboardReadStream
  startedAtMs : UInt64
  expiresAtMs : UInt64
  closed : Bool
deriving DecidableEq

namespace SensitiveClipboardReadInbox

def new (expected : ClipboardReadSuccessBinding) (nowMs : UInt64) :
    Except SensitiveReadAcceptError SensitiveClipboardReadInbox :=
  match SensitiveClipboardReadAcceptanceGate.new expected nowMs with
  | .error error => .error error
  | .ok gate =>
    match checkedAdd nowMs sensitiveClipboardReadDeadlineMs with
    | none => .error .clockOverflow
    | some expiresAtMs => .ok ⟨gate, {}, nowMs, expiresAtMs, false⟩

def cancel (inbox : SensitiveClipboardReadInbox) : SensitiveClipboardReadInbox × Bool :=
  if inbox.closed then (inbox, false)
  else ({ inbox with closed := true, gate := inbox.gate.cancel, stream := {} }, true)

def expire (inbox : SensitiveClipboardReadInbox) (nowMs : UInt64) : SensitiveClipboardReadInbox × Bool :=
  if inbox.closed then (inbox, false)
  else if nowMs < inbox.startedAtMs ∨ inbox.expiresAtMs ≤ nowMs then inbox.cancel
  else (inbox, false)

def pushChunk (inbox : SensitiveClipboardReadInbox) (incoming : List UInt8) (nowMs : UInt64) :
    SensitiveClipboardReadInbox × Except SensitiveInboxError (Option SensitiveClipboardReadSuccess) × List UInt8 :=
  if inbox.closed then (inbox, .error .finished, zeroize incoming)
  else if nowMs < inbox.startedAtMs then (inbox.cancel.1, .error .clockRegression, zeroize incoming)
  else if inbox.expiresAtMs ≤ nowMs then (inbox.cancel.1, .error .expired, zeroize incoming)
  else
    match inbox.stream.pushBytes zeroize incoming with
    | (stream, .ok none, chunk) => ({ inbox with stream := stream }, .ok none, chunk)
    | (stream, .ok (some payload), chunk) =>
      match inbox.gate.accept payload nowMs with
      | (gate, .ok payload) =>
        ({ inbox with stream := stream, gate := gate, closed := true }, .ok (some payload), chunk)
      | (gate, .error error) =>
        ({ inbox with stream := stream, gate := gate.cancel, closed := true }, .error (.acceptance error), chunk)
    | (stream, .error error, chunk) => (({ inbox with stream := stream }).cancel.1, .error (.stream error), chunk)

end SensitiveClipboardReadInbox

inductive HandshakeState
  | awaitingPeerHello
  | awaitingChallengeResponse
  | authenticated
  | rejected
deriving DecidableEq

structure SensitiveReadGrants where
  clipboardCapability : Bool
  readPermission : Bool
deriving DecidableEq

def SensitiveReadGrants.allowsRead (grants : SensitiveReadGrants) : Bool :=
  grants.clipboardCapability && grants.readPermission

inductive SensitiveTransportError
  | notAuthenticated
  | wrongVersion
  | notAuthorized
  | bindingMismatch
  | invalidPending (error : SensitiveReadAcceptError)
  | workerChanged
  | inbox (error : SensitiveInboxError)
deriving DecidableEq

structure SensitiveClipboardTransportGate where
  expected : ClipboardReadSuccessBinding
  inbox : SensitiveClipboardReadInbox
deriving DecidableEq

namespace SensitiveClipboardTransportGate

variable (gate : SensitiveClipboardTransportGate)

def new (handshake : HandshakeState) (version : UInt8 × UInt8) (expected active : ClipboardReadSuccessBinding)
    (nowMs : UInt64) (grants : SensitiveReadGrants) : Except SensitiveTransportError SensitiveClipboardTransportGate :=
  if handshake ≠ .authenticated then .error .notAuthenticated
  else if version ≠ (ipcVersionMajor, clipboardReadSuccessFutureMinor) then .error .wrongVersion
  else if !grants.allowsRead then .error .notAuthorized
  else if !expected.isValid || !active.isValid || expected ≠ active then .error .bindingMismatch
  else
    match SensitiveClipboardReadInbox.new expected nowMs with
    | .error error => .error (.invalidPending error)
    | .ok inbox => .ok ⟨expected, inbox⟩

/-- The gate that a forbidden push closes. -/
def closed : SensitiveClipboardTransportGate :=
  { gate with inbox := gate.inbox.cancel.1 }

def pushChunk (handshake : HandshakeState) (version : UInt8 × UInt8) (current : ClipboardReadSuccessBinding)
    (incoming : List UInt8) (nowMs : UInt64) (grants : SensitiveReadGrants) :
    SensitiveClipboardTransportGate ×
      Except SensitiveTransportError (Option SensitiveClipboardReadSuccess) × List UInt8 :=
  if handshake ≠ .authenticated then (gate.closed, .error .notAuthenticated, zeroize incoming)
  else if version ≠ (ipcVersionMajor, clipboardReadSuccessFutureMinor) then
    (gate.closed, .error .wrongVersion, zeroize incoming)
  else if !grants.allowsRead then (gate.closed, .error .notAuthorized, zeroize incoming)
  else if current ≠ gate.expected ∨ !current.isValid then (gate.closed, .error .workerChanged, zeroize incoming)
  else
    match gate.inbox.pushChunk zeroize incoming nowMs with
    | (inbox, result, chunk) => ({ gate with inbox := inbox }, result.mapError .inbox, chunk)

def cancel : SensitiveClipboardTransportGate × Bool :=
  ({ gate with inbox := gate.inbox.cancel.1 }, gate.inbox.cancel.2)

def expire (nowMs : UInt64) : SensitiveClipboardTransportGate × Bool :=
  ({ gate with inbox := (gate.inbox.expire nowMs).1 }, (gate.inbox.expire nowMs).2)

end SensitiveClipboardTransportGate

inductive ClipboardGateInput
  | pushChunk (handshake : HandshakeState) (version : UInt8 × UInt8) (current : ClipboardReadSuccessBinding)
      (incoming : List UInt8) (nowMs : UInt64) (grants : SensitiveReadGrants)
  | cancel
  | expire (nowMs : UInt64)
deriving DecidableEq

inductive ClipboardGateReply
  | pushed (result : Except SensitiveTransportError (Option SensitiveClipboardReadSuccess)) (incoming : List UInt8)
  | cancelled (wasOpen : Bool)
  | expired (wasOpen : Bool)

def SensitiveClipboardTransportGate.step (gate : SensitiveClipboardTransportGate) :
    ClipboardGateInput → SensitiveClipboardTransportGate × ClipboardGateReply
  | .pushChunk handshake version current incoming nowMs grants =>
    let (after, result, chunk) := gate.pushChunk zeroize handshake version current incoming nowMs grants
    (after, .pushed result chunk)
  | .cancel => gate.cancel.map id .cancelled
  | .expire nowMs => (gate.expire nowMs).map id .expired

end ClassMesh
