import ClassMesh.Foundation.Bytes
import ClassMesh.Protocol.ControlWire

namespace ClassMesh

open Foundation

def ipcMagic : UInt32 := 0x434D4950
def ipcHeaderLen : Nat := 12
def maxIpcMessage : Nat := 1048576
def ipcVersionMajor : UInt8 := 0
def ipcVersionMinor : UInt8 := 11
def clipboardReadSuccessFixedLen : Nat := 48
def clipboardReadSuccessFutureMinor : UInt8 := 12
def clipboardReadSuccessReservedType : UInt16 := 33

structure IpcHeader where
  versionMajor : UInt8
  versionMinor : UInt8
  messageType : UInt16
  payloadLen : UInt32
deriving DecidableEq

inductive IpcFrameError
  | truncated
  | badMagic
  | payloadTooLarge
deriving DecidableEq

namespace IpcHeader

def bytes (header : IpcHeader) : List UInt8 :=
  u32ToBe ipcMagic ++ (header.versionMajor :: header.versionMinor ::
    (u16ToBe header.messageType ++ u32ToBe header.payloadLen))

def encode (header : IpcHeader) : Except IpcFrameError (List UInt8) :=
  if maxIpcMessage < header.payloadLen.toNat then .error .payloadTooLarge else .ok header.bytes

def decode (data : List UInt8) : Except IpcFrameError IpcHeader :=
  if data.length < ipcHeaderLen then .error .truncated
  else if u32OfBe (slice data 0 4) ≠ ipcMagic then .error .badMagic
  else if maxIpcMessage < (u32OfBe (slice data 8 4)).toNat then .error .payloadTooLarge
  else .ok ⟨data.getD 4 0, data.getD 5 0, u16OfBe (slice data 6 2), u32OfBe (slice data 8 4)⟩

@[simp] theorem bytes_length (header : IpcHeader) : header.bytes.length = ipcHeaderLen := by
  simp [bytes, ipcHeaderLen]

variable {header : IpcHeader}

/-- The header is all in the first twelve bytes. -/
theorem decode_bytes_append (bounded : header.payloadLen.toNat ≤ maxIpcMessage) (rest : List UInt8) :
    decode (header.bytes ++ rest) = .ok header := by
  have long : ¬(header.bytes ++ rest).length < ipcHeaderLen := by simp
  have magic : u32OfBe (slice (header.bytes ++ rest) 0 4) = ipcMagic := by simp [slice, bytes]
  have message : u16OfBe (slice (header.bytes ++ rest) 6 2) = header.messageType := by
    simp [slice, bytes, List.drop_append, List.drop_eq_nil_of_le]
  have length : u32OfBe (slice (header.bytes ++ rest) 8 4) = header.payloadLen := by
    simp [slice, bytes, List.drop_append, List.drop_eq_nil_of_le]
  have major : (header.bytes ++ rest).getD 4 0 = header.versionMajor := by simp [bytes, List.getD]
  have minor : (header.bytes ++ rest).getD 5 0 = header.versionMinor := by
    simp [bytes, List.getD, List.getElem?_append]
  simp only [decode, if_neg long, magic, ne_eq, not_true_eq_false, if_false, length, if_neg (Nat.not_lt.mpr bounded),
    major, minor, message]

/-- The bytes of a decoded header are those it was decoded from. -/
theorem decode_ok {data : List UInt8} (decoded : decode data = .ok header) :
    header.bytes ++ data.drop ipcHeaderLen = data ∧ ipcHeaderLen ≤ data.length := by
  unfold decode at decoded
  split at decoded
  · cases decoded
  · rename_i short
    have long := Nat.le_of_not_lt short
    simp only [ipcHeaderLen] at long
    split at decoded
    · cases decoded
    · rename_i magic
      split at decoded
      · cases decoded
      · cases decoded
        refine ⟨?_, long⟩
        have marked : u32ToBe ipcMagic = slice data 0 4 := by
          rw [← not_not.mp magic, u32ToBe_ofBe (slice_length (by omega))]
        simp only [bytes, ipcHeaderLen, marked]
        rw [u16ToBe_ofBe (slice_length (by omega)), u32ToBe_ofBe (slice_length (by omega)), List.append_assoc,
          List.cons_append, List.cons_append, List.append_assoc, slice_append_drop data 8 4, slice_append_drop data 6 2,
          getD_cons_drop 0 (by omega), getD_cons_drop 0 (by omega), slice_append_drop data 0 4, List.drop_zero]

end IpcHeader

structure ClipboardReadSuccessBinding where
  workerProcessId : UInt32
  workerSessionId : UInt32
  workerGeneration : UInt64
  controlSessionId : UInt64
  controlSequence : UInt64
  requestId : UInt64
deriving DecidableEq

def ClipboardReadSuccessBinding.isValid (binding : ClipboardReadSuccessBinding) : Bool :=
  binding.workerProcessId ≠ 0 && binding.workerSessionId ≠ 0 && binding.workerGeneration ≠ 0 &&
    binding.controlSessionId ≠ 0 && binding.controlSequence ≠ 0 && binding.requestId ≠ 0

inductive ClipboardReadSuccessError
  | invalidBinding
  | tooLarge
  | invalidUtf8
  | interiorNul
  | invalidPayload
deriving DecidableEq

def SensitiveClipboardReadSuccess.validateText (text : List UInt8) : Except ClipboardReadSuccessError Unit :=
  if maxClipboardTextBytes < text.length then .error .tooLarge
  else if 0 ∈ text then .error .interiorNul
  else if !isUtf8 text then .error .invalidUtf8
  else .ok ()

/-- A message can be built from a valid binding and a valid text only. A decoded one keeps the bytes that it was decoded
from, and says where its text begins. -/
structure SensitiveClipboardReadSuccess where
  binding : ClipboardReadSuccessBinding
  text : List UInt8
  textStart : Nat
  bound : binding.isValid
  valid : SensitiveClipboardReadSuccess.validateText (text.drop textStart) = .ok ()

namespace SensitiveClipboardReadSuccess

/-- The bytes of the text that `text()` shows. -/
def textBytes (message : SensitiveClipboardReadSuccess) : List UInt8 := message.text.drop message.textStart

def payloadBytes (message : SensitiveClipboardReadSuccess) : List UInt8 :=
  u32ToBe message.binding.workerProcessId ++ (u32ToBe message.binding.workerSessionId ++
    (u64ToBe message.binding.controlSessionId ++ (u64ToBe message.binding.controlSequence ++
      (u64ToBe message.binding.requestId ++ (u64ToBe message.binding.workerGeneration ++
        (u32ToBe (UInt32.ofNat message.textBytes.length) ++ ([0, 0, 0, 0] ++ message.textBytes)))))))

/-- A text whose length has no `u32` would be a panic. -/
def encodePayload (message : SensitiveClipboardReadSuccess) : Option (List UInt8) :=
  if 2 ^ 32 ≤ message.textBytes.length then none else some message.payloadBytes

def decodePayloadWithPrefix (payload : List UInt8) (prefixLen : Nat) :
    Except ClipboardReadSuccessError SensitiveClipboardReadSuccess :=
  let textStart := prefixLen + clipboardReadSuccessFixedLen
  if payload.length < textStart then .error .invalidPayload
  else if clipboardReadSuccessFixedLen + maxClipboardTextBytes < payload.length - prefixLen then .error .tooLarge
  else
    let fixed := payload.drop prefixLen
    let binding : ClipboardReadSuccessBinding :=
      { workerProcessId := u32OfBe (slice fixed 0 4)
        workerSessionId := u32OfBe (slice fixed 4 4)
        controlSessionId := u64OfBe (slice fixed 8 8)
        controlSequence := u64OfBe (slice fixed 16 8)
        requestId := u64OfBe (slice fixed 24 8)
        workerGeneration := u64OfBe (slice fixed 32 8) }
    let textLen := (u32OfBe (slice fixed 40 4)).toNat
    if slice fixed 44 4 ≠ [0, 0, 0, 0] ∨ payload.length - prefixLen ≠ clipboardReadSuccessFixedLen + textLen then
      .error .invalidPayload
    else if bound : binding.isValid then
      match valid : validateText (payload.drop textStart) with
      | .error error => .error error
      | .ok () => .ok ⟨binding, payload, textStart, bound, valid⟩
    else .error .invalidBinding

end SensitiveClipboardReadSuccess

inductive ClipboardReadFrameError
  | malformedHeader
  | wrongVersion
  | wrongMessage
  | lengthMismatch
  | invalidPayload (error : ClipboardReadSuccessError)
deriving DecidableEq

/-- The header of the frame that carries a message. -/
def clipboardReadHeader (message : SensitiveClipboardReadSuccess) : IpcHeader :=
  { versionMajor := ipcVersionMajor
    versionMinor := clipboardReadSuccessFutureMinor
    messageType := clipboardReadSuccessReservedType
    payloadLen := UInt32.ofNat (clipboardReadSuccessFixedLen + message.textBytes.length) }

/-- A message that does not fit into a frame would be a panic. -/
def encodeSensitiveClipboardReadFrame (message : SensitiveClipboardReadSuccess) : Option (List UInt8) :=
  if 2 ^ 32 ≤ clipboardReadSuccessFixedLen + message.textBytes.length then none
  else
    match (clipboardReadHeader message).encode with
    | .error _ => none
    | .ok header => message.encodePayload.map (header ++ ·)

def decodeSensitiveClipboardReadFrame (frame : List UInt8) :
    Except ClipboardReadFrameError SensitiveClipboardReadSuccess :=
  if ipcHeaderLen + clipboardReadSuccessFixedLen + maxClipboardTextBytes < frame.length then .error .malformedHeader
  else
    match IpcHeader.decode frame with
    | .error _ => .error .malformedHeader
    | .ok header =>
      if header.versionMajor ≠ ipcVersionMajor ∨ header.versionMinor ≠ clipboardReadSuccessFutureMinor ∨
          clipboardReadSuccessFutureMinor ≤ ipcVersionMinor then
        .error .wrongVersion
      else if header.messageType ≠ clipboardReadSuccessReservedType then .error .wrongMessage
      else
        let payloadLen := header.payloadLen.toNat
        if ¬(clipboardReadSuccessFixedLen ≤ payloadLen ∧
              payloadLen ≤ clipboardReadSuccessFixedLen + maxClipboardTextBytes) ∨
            maxIpcMessage < payloadLen ∨ ipcHeaderLen + payloadLen ≠ frame.length then
          .error .lengthMismatch
        else
          (SensitiveClipboardReadSuccess.decodePayloadWithPrefix frame ipcHeaderLen).mapError .invalidPayload

section RoundTrip

variable {message : SensitiveClipboardReadSuccess}

theorem textBytes_length_le (message : SensitiveClipboardReadSuccess) :
    message.textBytes.length ≤ maxClipboardTextBytes := by
  have valid := message.valid
  unfold SensitiveClipboardReadSuccess.validateText at valid
  split at valid
  · cases valid
  · rename_i short
    exact Nat.le_of_not_lt short

theorem payloadLen_toNat (message : SensitiveClipboardReadSuccess) :
    (clipboardReadHeader message).payloadLen.toNat = clipboardReadSuccessFixedLen + message.textBytes.length := by
  have bound := textBytes_length_le message
  simp only [maxClipboardTextBytes] at bound
  simp only [clipboardReadHeader, clipboardReadSuccessFixedLen, UInt32.toNat_ofNat']
  omega

def frameBytes (message : SensitiveClipboardReadSuccess) : List UInt8 :=
  (clipboardReadHeader message).bytes ++ message.payloadBytes

/-- No message is too large to be encoded. -/
theorem encode_eq_frameBytes (message : SensitiveClipboardReadSuccess) :
    encodeSensitiveClipboardReadFrame message = some (frameBytes message) := by
  have bound := textBytes_length_le message
  have length := payloadLen_toNat message
  simp only [maxClipboardTextBytes, clipboardReadSuccessFixedLen] at bound length
  have small : ¬maxIpcMessage < (clipboardReadHeader message).payloadLen.toNat := by
    simp only [maxIpcMessage, length]
    omega
  have header : (clipboardReadHeader message).encode = .ok (clipboardReadHeader message).bytes := if_neg small
  have payload : message.encodePayload = some message.payloadBytes := if_neg (by omega)
  rw [encodeSensitiveClipboardReadFrame, if_neg (by simp only [clipboardReadSuccessFixedLen]; omega), header, payload]
  rfl

open SensitiveClipboardReadSuccess

theorem payloadBytes_length (message : SensitiveClipboardReadSuccess) :
    message.payloadBytes.length = clipboardReadSuccessFixedLen + message.textBytes.length := by
  simp [payloadBytes, clipboardReadSuccessFixedLen]
  omega

theorem frameBytes_length (message : SensitiveClipboardReadSuccess) :
    (frameBytes message).length = ipcHeaderLen + (clipboardReadHeader message).payloadLen.toNat := by
  rw [frameBytes, List.length_append, IpcHeader.bytes_length, payloadBytes_length, payloadLen_toNat]

/-- Two messages that show the same. How they keep their bytes does not matter. -/
def SameMessage (message other : SensitiveClipboardReadSuccess) : Prop :=
  message.binding = other.binding ∧ message.textBytes = other.textBytes

/-- The slices of an encoded payload are its fields. -/
theorem decodePayload_payloadBytes (message : SensitiveClipboardReadSuccess) {header : List UInt8}
    (width : header.length = ipcHeaderLen) :
    ∃ decoded, decodePayloadWithPrefix (header ++ message.payloadBytes) ipcHeaderLen =
      .ok decoded ∧ SameMessage decoded message := by
  have bound := textBytes_length_le message
  have length := payloadBytes_length message
  have fixed : (header ++ message.payloadBytes).drop ipcHeaderLen = message.payloadBytes := by
    rw [← width, List.drop_left]
  have total : (header ++ message.payloadBytes).length = ipcHeaderLen + message.payloadBytes.length := by
    rw [List.length_append, width]
  have process : u32OfBe (slice message.payloadBytes 0 4) = message.binding.workerProcessId := by
    simp [slice, payloadBytes]
  have session : u32OfBe (slice message.payloadBytes 4 4) = message.binding.workerSessionId := by
    simp [slice, payloadBytes]
  have control : u64OfBe (slice message.payloadBytes 8 8) = message.binding.controlSessionId := by
    simp [slice, payloadBytes, List.drop_append, List.drop_eq_nil_of_le]
  have sequence : u64OfBe (slice message.payloadBytes 16 8) = message.binding.controlSequence := by
    simp [slice, payloadBytes, List.drop_append, List.drop_eq_nil_of_le]
  have request : u64OfBe (slice message.payloadBytes 24 8) = message.binding.requestId := by
    simp [slice, payloadBytes, List.drop_append, List.drop_eq_nil_of_le]
  have generation : u64OfBe (slice message.payloadBytes 32 8) = message.binding.workerGeneration := by
    simp [slice, payloadBytes, List.drop_append, List.drop_eq_nil_of_le]
  have textLen : (u32OfBe (slice message.payloadBytes 40 4)).toNat = message.textBytes.length := by
    simp only [maxClipboardTextBytes] at bound
    simp [slice, payloadBytes, List.drop_append, List.drop_eq_nil_of_le]
    omega
  have reserved : slice message.payloadBytes 44 4 = [0, 0, 0, 0] := by
    simp [slice, payloadBytes, List.drop_append, List.drop_eq_nil_of_le]
  have text : (header ++ message.payloadBytes).drop (ipcHeaderLen + clipboardReadSuccessFixedLen) =
      message.textBytes := by
    rw [← List.drop_drop, fixed]
    simp [payloadBytes, clipboardReadSuccessFixedLen, List.drop_append,
      List.drop_eq_nil_of_le]
  have same : (⟨message.binding.workerProcessId, message.binding.workerSessionId, message.binding.workerGeneration,
      message.binding.controlSessionId, message.binding.controlSequence, message.binding.requestId⟩ :
        ClipboardReadSuccessBinding) = message.binding := rfl
  unfold decodePayloadWithPrefix
  simp only [fixed, total, process, session, control, sequence, request, generation, textLen, reserved, length, same,
    Nat.add_sub_cancel_left, ne_eq, not_true_eq_false, or_self, if_false]
  rw [if_neg (by omega), if_neg (by omega), dif_pos message.bound]
  split
  · rename_i invalid
    rw [text, textBytes, message.valid] at invalid
    cases invalid
  · exact ⟨_, rfl, rfl, text⟩

/-- What is decoded is encoded by the bytes it was decoded from. -/
theorem payloadBytes_of_decodePayload {payload : List UInt8} {prefixLen : Nat}
    {decoded : SensitiveClipboardReadSuccess} (ok : decodePayloadWithPrefix payload prefixLen = .ok decoded) :
    decoded.payloadBytes = payload.drop prefixLen := by
  unfold decodePayloadWithPrefix at ok
  simp only at ok
  split at ok
  · cases ok
  · rename_i long
    split at ok
    · cases ok
    · split at ok
      · cases ok
      · rename_i fixed
        split at ok
        · split at ok
          · cases ok
          · cases ok
            obtain ⟨zeros, length⟩ := not_or.mp fixed
            rw [not_not] at zeros length
            generalize data_eq : payload.drop prefixLen = data at *
            have wide : data.length = payload.length - prefixLen := by rw [← data_eq, List.length_drop]
            have rest : payload.drop (prefixLen + clipboardReadSuccessFixedLen) = data.drop 48 := by
              rw [← data_eq, List.drop_drop, clipboardReadSuccessFixedLen]
            simp only [clipboardReadSuccessFixedLen] at long length
            have counted : UInt32.ofNat (data.drop 48).length = u32OfBe (slice data 40 4) := by
              rw [List.length_drop, wide, length, Nat.add_sub_cancel_left, UInt32.ofNat_toNat]
            simp only [payloadBytes, textBytes, rest, counted,
              ← zeros]
            rw [u32ToBe_ofBe (slice_length (by omega)), u32ToBe_ofBe (slice_length (by omega)),
              u64ToBe_ofBe (slice_length (by omega)), u64ToBe_ofBe (slice_length (by omega)),
              u64ToBe_ofBe (slice_length (by omega)), u64ToBe_ofBe (slice_length (by omega)),
              u32ToBe_ofBe (slice_length (by omega)), slice_append_drop data 44 4, slice_append_drop data 40 4,
              slice_append_drop data 32 8, slice_append_drop data 24 8, slice_append_drop data 16 8,
              slice_append_drop data 8 8, slice_append_drop data 4 4, slice_append_drop data 0 4, List.drop_zero]
        · cases ok

theorem decodeHeader_frameBytes (message : SensitiveClipboardReadSuccess) (rest : List UInt8) :
    IpcHeader.decode ((clipboardReadHeader message).bytes ++ rest) = .ok (clipboardReadHeader message) := by
  have bound := textBytes_length_le message
  have length := payloadLen_toNat message
  simp only [maxClipboardTextBytes, clipboardReadSuccessFixedLen] at bound length
  refine IpcHeader.decode_bytes_append ?_ rest
  simp only [length, maxIpcMessage]
  omega

theorem decode_frameBytes (message : SensitiveClipboardReadSuccess) :
    ∃ decoded, decodeSensitiveClipboardReadFrame (frameBytes message) = .ok decoded ∧ SameMessage decoded message := by
  have bound := textBytes_length_le message
  have total := frameBytes_length message
  have length := payloadLen_toNat message
  have header := decodeHeader_frameBytes message message.payloadBytes
  rw [← frameBytes] at header
  obtain ⟨decoded, payload, same⟩ :=
    decodePayload_payloadBytes message (IpcHeader.bytes_length (clipboardReadHeader message))
  rw [← frameBytes] at payload
  refine ⟨decoded, ?_, same⟩
  have sized : ¬(¬(clipboardReadSuccessFixedLen ≤ (clipboardReadHeader message).payloadLen.toNat ∧
      (clipboardReadHeader message).payloadLen.toNat ≤ clipboardReadSuccessFixedLen + maxClipboardTextBytes) ∨
      maxIpcMessage < (clipboardReadHeader message).payloadLen.toNat ∨
      ipcHeaderLen + (clipboardReadHeader message).payloadLen.toNat ≠ (frameBytes message).length) := by
    simp only [maxClipboardTextBytes, clipboardReadSuccessFixedLen, maxIpcMessage] at bound length ⊢
    omega
  unfold decodeSensitiveClipboardReadFrame
  rw [if_neg (by omega), header]
  simp only
  rw [if_neg (by simp [clipboardReadHeader]; decide), if_neg (by simp [clipboardReadHeader]), if_neg sized, payload]
  rfl

/-- A frame is that of the message decoded from it, to the last byte. -/
theorem frameBytes_of_decode {frame : List UInt8} (ok : decodeSensitiveClipboardReadFrame frame = .ok message) :
    frameBytes message = frame := by
  unfold decodeSensitiveClipboardReadFrame at ok
  split at ok
  · cases ok
  · split at ok
    · cases ok
    · rename_i header decoded
      split at ok
      · cases ok
      · rename_i version
        split at ok
        · cases ok
        · rename_i kind
          simp only at ok
          split at ok
          · cases ok
          · rename_i lengths
            cases payload : decodePayloadWithPrefix frame ipcHeaderLen with
            | error =>
              rw [payload] at ok
              cases ok
            | ok =>
              rw [payload] at ok
              cases ok
              obtain ⟨whole, _⟩ := IpcHeader.decode_ok decoded
              have body := payloadBytes_of_decodePayload payload
              have size := payloadBytes_length message
              rw [body, List.length_drop] at size
              simp only [not_or, not_not] at version kind lengths
              have sameHeader : clipboardReadHeader message = header := by
                have counted : UInt32.ofNat (clipboardReadSuccessFixedLen + message.textBytes.length) =
                    header.payloadLen := by
                  rw [← size, ← lengths.2.2, Nat.add_sub_cancel_left, UInt32.ofNat_toNat]
                rw [clipboardReadHeader, counted, ← version.1, ← version.2.1, ← kind]
              rw [frameBytes, sameHeader, body, whole]

end RoundTrip

end ClassMesh
