import ClassMesh.Protocol.FileTransfer

namespace ClassMesh

open Foundation

structure ProtocolVersion where
  major : UInt16
  minor : UInt16
deriving DecidableEq

structure WireProtocolVersion where
  major : UInt32
  minor : UInt32
deriving DecidableEq

inductive InputEventKind
  | mouseMove (x y : Int32) (absolute : Bool)
  | mouseButton (button : UInt32) (down : Bool)
  | mouseWheel (delta : Int32) (horizontal : Bool)
  | key (virtualKey scanCode : UInt32) (down extended : Bool)
  | releaseAll
deriving DecidableEq

structure InputEvent where
  sequence : UInt64
  timestampUs : UInt64
  event : Option InputEventKind
deriving DecidableEq

structure ClipboardWrite where
  textUtf8 : String
deriving DecidableEq

structure PresentationStart where
  presentationId : UInt64
  streamId : UInt64
deriving DecidableEq

structure PresentationStop where
  presentationId : UInt64
deriving DecidableEq

structure PresentationKeyGrant where
  presentationId : UInt64
  streamId : UInt64
  epoch : UInt32
  keyMaterial : List UInt8
deriving DecidableEq

structure PresentationKeyAck where
  presentationId : UInt64
  streamId : UInt64
  epoch : UInt32
deriving DecidableEq

structure SystemActionRequest where
  action : Int32
deriving DecidableEq

inductive OpenTarget
  | httpsUrl (url : String)
  | app (value : Int32)
deriving DecidableEq

inductive TeacherInteractionAction
  | message (textUtf8 : String)
  | openTarget (target : Option OpenTarget)
deriving DecidableEq

structure TeacherInteractionRequest where
  action : Option TeacherInteractionAction
deriving DecidableEq

structure Hello where
  version : Option WireProtocolVersion
  deviceId : List UInt8
  hostname : String
  capabilities : List Int32
  appVersion : String
  role : Int32
  credentialFingerprintSha256 : List UInt8
deriving DecidableEq

structure HelloAck where
  accepted : Bool
  negotiatedVersion : Option WireProtocolVersion
  controlSessionId : UInt64
  negotiatedCapabilities : List Int32
  rejectReason : Int32
  diagnostic : String
deriving DecidableEq

/-- Payloads whose content nothing here reads carry none. -/
inductive ControlPayload
  | hello (hello : Hello)
  | helloAck (ack : HelloAck)
  | heartbeat
  | heartbeatAck
  | streamOffer
  | streamAnswer
  | receiverFeedback
  | nack
  | keyframeRequest
  | streamReconfigure
  | inputEvent (input : InputEvent)
  | sessionWorkerStatus
  | clipboardReadRequest
  | clipboardReadResponse
  | clipboardWrite (write : ClipboardWrite)
  | presentationStart (start : PresentationStart)
  | presentationStop (stop : PresentationStop)
  | presentationStatus
  | presentationKeyGrant (grant : PresentationKeyGrant)
  | presentationKeyAck (ack : PresentationKeyAck)
  | enrollmentRequest
  | enrollmentReceipt
  | enrollmentStatusRequest
  | enrollmentResult
  | systemActionRequest (request : SystemActionRequest)
  | systemActionResult
  | teacherInteractionRequest (request : TeacherInteractionRequest)
  | teacherInteractionResult
  | fileTransferOffer (offer : FileTransferOffer)
  | fileTransferChunk (chunk : FileTransferChunk)
  | fileTransferFinish (finish : FileTransferFinish)
  | fileTransferCancel (cancel : FileTransferCancel)
  | fileTransferStatus
  | fileTransferPullRequest (request : FileTransferPullRequest)
  | receiverPlaybackDiagnostic
deriving DecidableEq

def ControlPayload.isHandshake : ControlPayload → Bool
  | .hello _ | .helloAck _ => true
  | _ => false

structure ControlEnvelope where
  controlSessionId : UInt64
  sequence : UInt64
  protocolVersion : Option WireProtocolVersion
  requestId : UInt64
  payload : Option ControlPayload
deriving DecidableEq

section Clipboard

def maxClipboardTextBytes : Nat := 64 * 1024

inductive ClipboardTextError
  | tooLarge (bytes maximum : Nat)
  | unavailableContainsText
  | interiorNul
deriving DecidableEq

def validateText (text : String) : Except ClipboardTextError Unit :=
  if maxClipboardTextBytes < text.utf8ByteSize then .error (.tooLarge text.utf8ByteSize maxClipboardTextBytes)
  else .ok ()

def validateWrite (write : ClipboardWrite) : Except ClipboardTextError Unit := do
  validateText write.textUtf8
  if '\x00' ∈ write.textUtf8.toList then throw .interiorNul

end Clipboard

section Presentation

inductive PresentationControlError
  | invalidPresentationId
  | invalidStreamId
  | streamIdOutOfRange
  | invalidState
  | diagnosticTooLarge
deriving DecidableEq

def validatePresentationStart (start : PresentationStart) : Except PresentationControlError Unit :=
  if start.presentationId = 0 then .error .invalidPresentationId
  else if start.streamId = 0 then .error .invalidStreamId
  else if UInt32.size ≤ start.streamId.toNat then .error .streamIdOutOfRange
  else .ok ()

def validatePresentationStop (stop : PresentationStop) : Except PresentationControlError Unit :=
  if stop.presentationId = 0 then .error .invalidPresentationId else .ok ()

end Presentation

section GroupMedia

def presentationGroupKeyBytes : Nat := 32

def groupMediaControlMinVersion : ProtocolVersion := ⟨0, 4⟩

inductive GroupMediaControlError
  | invalidPresentationId
  | invalidStreamId
  | streamIdOutOfRange
  | invalidEpoch
  | invalidKeyLength (actual : Nat)
deriving DecidableEq

def validateBinding (presentationId streamId : UInt64) (epoch : UInt32) : Except GroupMediaControlError Unit :=
  if presentationId = 0 then .error .invalidPresentationId
  else if streamId = 0 then .error .invalidStreamId
  else if UInt32.size ≤ streamId.toNat then .error .streamIdOutOfRange
  else if epoch = 0 then .error .invalidEpoch
  else .ok ()

def validateKeyGrant (grant : PresentationKeyGrant) : Except GroupMediaControlError Unit := do
  validateBinding grant.presentationId grant.streamId grant.epoch
  if grant.keyMaterial.length ≠ presentationGroupKeyBytes then throw (.invalidKeyLength grant.keyMaterial.length)

def validateKeyAck (ack : PresentationKeyAck) : Except GroupMediaControlError Unit :=
  validateBinding ack.presentationId ack.streamId ack.epoch

end GroupMedia

section SystemActions

inductive SystemAction
  | unspecified
  | lock
  | restart
  | shutdown
deriving DecidableEq

def SystemAction.tryFrom (value : Int32) : Option SystemAction :=
  if value = 0 then some .unspecified
  else if value = 1 then some .lock
  else if value = 2 then some .restart
  else if value = 3 then some .shutdown
  else none

inductive SystemActionControlError
  | invalidAction
  | invalidState
  | diagnosticTooLarge
deriving DecidableEq

def systemActionMinVersion : ProtocolVersion := ⟨0, 5⟩

def systemAction (value : Int32) : Except SystemActionControlError SystemAction :=
  match SystemAction.tryFrom value with
  | none => .error .invalidAction
  | some action => if action = .unspecified then .error .invalidAction else .ok action

end SystemActions

section TeacherInteraction

def teacherInteractionMinVersion : ProtocolVersion := ⟨0, 6⟩
def maxTeacherMessageBytes : Nat := 4 * 1024
def maxOpenUrlBytes : Nat := 2 * 1024

inductive TeacherInteractionError
  | missingAction
  | emptyMessage
  | messageTooLarge
  | messageContainsControlCharacter
  | missingTarget
  | urlTooLarge
  | unsupportedUrlScheme
  | invalidUrl
  | invalidApp
  | invalidKind
  | invalidState
  | diagnosticTooLarge
deriving DecidableEq

inductive TeacherInteractionKind
  | unspecified
  | message
  | openTarget
deriving DecidableEq

inductive AppIdentity
  | unspecified
  | defaultBrowser
  | calculator
  | textEditor
deriving DecidableEq

def AppIdentity.tryFrom (value : Int32) : Option AppIdentity :=
  if value = 0 then some .unspecified
  else if value = 1 then some .defaultBrowser
  else if value = 2 then some .calculator
  else if value = 3 then some .textEditor
  else none

def validateMessage (text : String) : Except TeacherInteractionError Unit :=
  if (trim text.toList).isEmpty then .error .emptyMessage
  else if maxTeacherMessageBytes < text.utf8ByteSize then .error .messageTooLarge
  else if text.toList.any (fun c => isControl c && c ∉ ['\n', '\r', '\t']) then
    .error .messageContainsControlCharacter
  else .ok ()

def validAsciiHost (host : List Char) : Bool :=
  !host.isEmpty && byteLen host ≤ 253 && (host.splitOn '.').all fun label =>
    !label.isEmpty && byteLen label ≤ 63 && label.head?.any Char.isAlphanum &&
      label.getLast?.any Char.isAlphanum && label.all fun c => c.isAlphanum || c = '-'

def validatePort (port : List Char) : Except TeacherInteractionError Unit :=
  if port.isEmpty ∨ ¬port.all Char.isDigit then .error .invalidUrl
  else
    match parseU16 port with
    | none => .error .invalidUrl
    | some parsed => if parsed = 0 then .error .invalidUrl else .ok ()

-- The standard library's reading of an address is not part of the repository.
variable (isIpv6Addr : List Char → Bool)

def validateAuthority (authority : List Char) : Except TeacherInteractionError Unit :=
  match authority with
  | '[' :: ipv6 =>
    match ipv6.span (· ≠ ']') with
    | (_, []) => .error .invalidUrl
    | (address, _ :: suffix) =>
      if address.isEmpty then .error .invalidUrl
      else if isIpv6Addr address = false then .error .invalidUrl
      else
        match suffix with
        | [] => .ok ()
        | ':' :: port => validatePort port
        | _ => .error .invalidUrl
  | _ =>
    match rsplitOnce ':' authority with
    | some (host, port) =>
      if ':' ∈ host then .error .invalidUrl
      else if validAsciiHost host = false then .error .invalidUrl
      else validatePort port
    | none => if validAsciiHost authority = false then .error .invalidUrl else .ok ()

def validateHttpsUrl (url : String) : Except TeacherInteractionError Unit :=
  if maxOpenUrlBytes < url.utf8ByteSize then .error .urlTooLarge
  else if "https://".toList.isPrefixOf url.toList = false then .error .unsupportedUrlScheme
  else if url.toList.any (fun c => isControl c || isWhitespace c || c = '\\') then .error .invalidUrl
  else
    let authority := (url.toList.drop "https://".length).takeWhile fun c => c ∉ ['/', '?', '#']
    if authority.isEmpty ∨ '@' ∈ authority then .error .invalidUrl
    else validateAuthority isIpv6Addr authority

def validateOpenTarget (target : Option OpenTarget) : Except TeacherInteractionError Unit :=
  match target with
  | none => .error .missingTarget
  | some (.httpsUrl url) => validateHttpsUrl isIpv6Addr url
  | some (.app value) =>
    match AppIdentity.tryFrom value with
    | none => .error .invalidApp
    | some app => if app = .unspecified then .error .invalidApp else .ok ()

def validateTeacherInteractionRequest (request : TeacherInteractionRequest) :
    Except TeacherInteractionError TeacherInteractionKind :=
  match request.action with
  | none => .error .missingAction
  | some (.message textUtf8) => (validateMessage textUtf8).map fun _ => .message
  | some (.openTarget target) => (validateOpenTarget isIpv6Addr target).map fun _ => .openTarget

end TeacherInteraction

section FileTransfer

def fileTransferMinVersion : ProtocolVersion := ⟨0, 7⟩
def fileTransferPullMinVersion : ProtocolVersion := ⟨0, 8⟩

end FileTransfer

end ClassMesh
