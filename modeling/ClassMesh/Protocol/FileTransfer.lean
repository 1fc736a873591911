import ClassMesh.Foundation.Saturating
import ClassMesh.Foundation.Text

namespace ClassMesh

open Foundation

def transferIdBytes : Nat := 16
def sourceIdBytes : Nat := 16
def sha256Bytes : Nat := 32
def maxFileNameBytes : Nat := 255
def maxFileChunkBytes : Nat := 64 * 1024
def maxFileTransferBytes : UInt64 := 64 * 1024 * 1024

structure FileTransferOffer where
  transferId : List UInt8
  filename : String
  totalSize : UInt64
  sha256 : List UInt8
  destination : Int32
deriving DecidableEq

structure FileTransferPullRequest where
  transferId : List UInt8
  sourceId : List UInt8
  source : Int32
deriving DecidableEq

structure FileTransferChunk where
  transferId : List UInt8
  offset : UInt64
  content : List UInt8
deriving DecidableEq

structure FileTransferFinish where
  transferId : List UInt8
deriving DecidableEq

structure FileTransferCancel where
  transferId : List UInt8
deriving DecidableEq

inductive FileTransferError
  | invalidTransferId
  | invalidSourceId
  | invalidSource
  | invalidFilename
  | fileTooLarge
  | invalidHash
  | invalidDestination
  | emptyChunk
  | chunkTooLarge
  | invalidOffset
  | invalidState
  | diagnosticTooLarge
  | invalidDiagnostic
deriving DecidableEq

/-- `FileDestinationPolicy::AppInbox` on the wire. -/
def appInbox : Int32 := 1

/-- `FileSourcePolicy::AppOutbox` on the wire. -/
def appOutbox : Int32 := 1

/-- The check of an opaque identifier: of full width, and not zero throughout. -/
def validateOpaqueId (width : Nat) (error : FileTransferError) (id : List UInt8) : Except FileTransferError Unit :=
  if id.length ≠ width ∨ id.all (· = 0) then .error error else .ok ()

def validateTransferId : List UInt8 → Except FileTransferError Unit :=
  validateOpaqueId transferIdBytes .invalidTransferId

def validateSourceId : List UInt8 → Except FileTransferError Unit :=
  validateOpaqueId sourceIdBytes .invalidSourceId

/-- Device names of Windows, which stay reserved whatever extension follows them. -/
def isReservedStem (upper : List Char) : Bool :=
  upper = "CON".toList || upper = "PRN".toList || upper = "AUX".toList || upper = "NUL".toList ||
    (byteLen upper = 4 && ("COM".toList.isPrefixOf upper || "LPT".toList.isPrefixOf upper) &&
      (upper.drop 3).all fun c => c.isDigit && c ≠ '0')

def validateFilename (filename : String) : Except FileTransferError Unit :=
  let text := filename.toList
  if text.isEmpty ∨ maxFileNameBytes < byteLen text ∨ filename = "." ∨ filename = ".." ∨ trim text ≠ text ∨
      text.getLast? = some '.' ∨
      text.any (fun c => isControl c || c ∈ ['/', '\\', ':', '<', '>', '"', '|', '?', '*']) then
    .error .invalidFilename
  else if isReservedStem ((text.takeWhile (· ≠ '.')).map Char.toUpper) then .error .invalidFilename
  else .ok ()

def validateOffer (offer : FileTransferOffer) : Except FileTransferError Unit := do
  validateTransferId offer.transferId
  validateFilename offer.filename
  if offer.totalSize = 0 ∨ maxFileTransferBytes < offer.totalSize then throw .fileTooLarge
  if offer.sha256.length ≠ sha256Bytes then throw .invalidHash
  if offer.destination ≠ appInbox then throw .invalidDestination

def validatePullRequest (request : FileTransferPullRequest) : Except FileTransferError Unit := do
  validateTransferId request.transferId
  validateSourceId request.sourceId
  if request.source ≠ appOutbox then throw .invalidSource

def validateChunk (chunk : FileTransferChunk) : Except FileTransferError Unit := do
  validateTransferId chunk.transferId
  if chunk.content.isEmpty then throw .emptyChunk
  if maxFileChunkBytes < chunk.content.length then throw .chunkTooLarge
  match checkedAdd chunk.offset chunk.content.length with
  | none => throw .invalidOffset
  | some finish => if maxFileTransferBytes < finish then throw .invalidOffset

def validateFinish (finish : FileTransferFinish) : Except FileTransferError Unit :=
  validateTransferId finish.transferId

def validateCancel (cancel : FileTransferCancel) : Except FileTransferError Unit :=
  validateTransferId cancel.transferId

end ClassMesh
