import ClassMesh.Protocol.MediaHeader

namespace ClassMesh

open Foundation MediaPacketHeader

def feedbackMagic : UInt32 := 0x434D4631
def feedbackHeaderLen : Nat := 24
def maxNackPacketIndices : Nat := 64
def kindNack : UInt8 := 1
def kindRequestKeyframe : UInt8 := 2

inductive FeedbackMessage
  | nack (streamId : UInt32) (frameId : UInt64) (missingPacketIndices : List UInt16)
  | requestKeyframe (streamId : UInt32) (afterFrameId : UInt64)
deriving DecidableEq

/-- The protocol version is a constant that fits two bytes, so `VersionOutOfRange` has no case here. -/
inductive FeedbackCodecError
  | truncated
  | badMagic
  | incompatibleMajorVersion (received expected : UInt8)
  | unknownKind (value : UInt8)
  | emptyNack
  | tooManyMissingPackets
  | lengthMismatch
deriving DecidableEq, Repr

namespace FeedbackMessage

/-- The header, then two bytes for each index. -/
def bytes (kind : UInt8) (streamId : UInt32) (frameId : UInt64) (missing : List UInt16) : List UInt8 :=
  u32ToBe feedbackMagic ++ (mediaProtocolMajor :: mediaProtocolMinor :: kind :: 0 ::
    (u32ToBe streamId ++ (u64ToBe frameId ++ (u16ToBe (UInt16.ofNat missing.length) ++
      (0 :: 0 :: missing.flatMap u16ToBe)))))

def encode : FeedbackMessage → Except FeedbackCodecError (List UInt8)
  | nack streamId frameId missing =>
    if missing.isEmpty then .error .emptyNack
    else if maxNackPacketIndices < missing.length then .error .tooManyMissingPackets
    else .ok (bytes kindNack streamId frameId missing)
  | requestKeyframe streamId afterFrameId => .ok (bytes kindRequestKeyframe streamId afterFrameId [])

def readIndices (data : List UInt8) (count : Nat) : List UInt16 :=
  (List.range count).map fun index => readU16 data (feedbackHeaderLen + index * 2)

def decode (data : List UInt8) : Except FeedbackCodecError FeedbackMessage :=
  if data.length < feedbackHeaderLen then .error .truncated
  else if readU32 data 0 ≠ feedbackMagic then .error .badMagic
  else if data.getD 4 0 ≠ mediaProtocolMajor then
    .error (.incompatibleMajorVersion (data.getD 4 0) mediaProtocolMajor)
  else
    let kind := data.getD 6 0
    let streamId := readU32 data 8
    let frameId := readU64 data 12
    let count := (readU16 data 20).toNat
    if maxNackPacketIndices < count then .error .tooManyMissingPackets
    else if data.length ≠ feedbackHeaderLen + count * 2 then .error .lengthMismatch
    else if kind = kindNack then
      if count = 0 then .error .emptyNack else .ok (.nack streamId frameId (readIndices data count))
    else if kind = kindRequestKeyframe then
      if count ≠ 0 then .error .lengthMismatch else .ok (.requestKeyframe streamId frameId)
    else .error (.unknownKind kind)

section RoundTrip

variable (kind : UInt8) (streamId : UInt32) (frameId : UInt64) (missing : List UInt16)

theorem flatMap_u16ToBe_length : (missing.flatMap u16ToBe).length = missing.length * 2 := by
  induction missing with
  | nil => rfl
  | cons index rest ih =>
    rw [List.flatMap_cons, List.length_append, ih, u16ToBe_length, List.length_cons]
    omega

theorem bytes_length : (bytes kind streamId frameId missing).length = feedbackHeaderLen + missing.length * 2 := by
  simp only [bytes, List.length_append, List.length_cons, u32ToBe_length, u64ToBe_length, u16ToBe_length,
    flatMap_u16ToBe_length, feedbackHeaderLen]
  ring

theorem drop_bytes (offset : Nat) :
    (bytes kind streamId frameId missing).drop (feedbackHeaderLen + offset) =
      (missing.flatMap u16ToBe).drop offset := by
  have header : (bytes kind streamId frameId missing).drop feedbackHeaderLen = missing.flatMap u16ToBe := by
    simp [bytes, feedbackHeaderLen, List.drop_append, List.drop_eq_nil_of_le]
  rw [← List.drop_drop, header]

/-- Two bytes at a time, the indices are read back in order. -/
theorem read_flatMap_u16ToBe :
    ((List.range missing.length).map fun index => u16OfBe (slice (missing.flatMap u16ToBe) (index * 2) 2)) =
      missing := by
  induction missing with
  | nil => rfl
  | cons index rest ih =>
    rw [List.length_cons, List.range_succ_eq_map, List.map_cons, List.map_map]
    have head : u16OfBe (slice ((index :: rest).flatMap u16ToBe) (0 * 2) 2) = index := by
      simp [slice, List.flatMap_cons]
    have tail (position : Nat) : slice ((index :: rest).flatMap u16ToBe) ((position + 1) * 2) 2 =
        slice (rest.flatMap u16ToBe) (position * 2) 2 := by
      have past : (u16ToBe index).length ≤ (position + 1) * 2 := by rw [u16ToBe_length]; omega
      rw [slice, slice, List.flatMap_cons, List.drop_append, List.drop_eq_nil_of_le past, List.nil_append,
        u16ToBe_length]
      congr 2
      omega
    rw [head]
    congr 1
    simp only [Function.comp_def, Nat.succ_eq_add_one, tail]
    exact ih

theorem readIndices_bytes : readIndices (bytes kind streamId frameId missing) missing.length = missing := by
  simp only [readIndices, readU16, slice, drop_bytes]
  exact read_flatMap_u16ToBe missing

variable {kind streamId frameId missing} {message : FeedbackMessage} {data : List UInt8}

/-- What `decode` finds in the bytes that `encode` writes. -/
theorem decode_bytes (fits : missing.length ≤ maxNackPacketIndices) :
    decode (bytes kind streamId frameId missing) =
      if kind = kindNack then
        if missing.length = 0 then .error .emptyNack else .ok (.nack streamId frameId missing)
      else if kind = kindRequestKeyframe then
        if missing.length ≠ 0 then .error .lengthMismatch else .ok (.requestKeyframe streamId frameId)
      else .error (.unknownKind kind) := by
  have length := bytes_length kind streamId frameId missing
  have long : ¬(bytes kind streamId frameId missing).length < feedbackHeaderLen := by omega
  have magic : readU32 (bytes kind streamId frameId missing) 0 = feedbackMagic := by simp [readU32, slice, bytes]
  have stream : readU32 (bytes kind streamId frameId missing) 8 = streamId := by
    simp [readU32, slice, bytes, List.drop_append, List.drop_eq_nil_of_le]
  have frame : readU64 (bytes kind streamId frameId missing) 12 = frameId := by
    simp [readU64, slice, bytes, List.drop_append, List.drop_eq_nil_of_le]
  have count : (readU16 (bytes kind streamId frameId missing) 20).toNat = missing.length := by
    have read : readU16 (bytes kind streamId frameId missing) 20 = UInt16.ofNat missing.length := by
      simp [readU16, slice, bytes, List.drop_append, List.drop_eq_nil_of_le]
    rw [read, UInt16.toNat_ofNat', Nat.mod_eq_of_lt]
    exact Nat.lt_of_le_of_lt fits (by decide)
  have major : (bytes kind streamId frameId missing).getD 4 0 = mediaProtocolMajor := by simp [bytes, List.getD]
  have tag : (bytes kind streamId frameId missing).getD 6 0 = kind := by
    simp [bytes, List.getD, List.getElem?_append]
  rw [decode, if_neg long]
  simp only [magic, stream, frame, count, major, tag, length, ne_eq, not_true_eq_false, if_false,
    if_neg (Nat.not_lt.mpr fits), readIndices_bytes]

theorem encode_eq_ok_iff : message.encode = .ok data ↔
    match message with
    | nack streamId frameId missing => missing ≠ [] ∧ missing.length ≤ maxNackPacketIndices ∧
        data = bytes kindNack streamId frameId missing
    | requestKeyframe streamId afterFrameId => data = bytes kindRequestKeyframe streamId afterFrameId [] := by
  cases message with
  | nack streamId frameId missing =>
    by_cases empty : missing = []
    · simp [encode, empty]
    · by_cases long : maxNackPacketIndices < missing.length
      · simp [encode, empty, long]
      · rw [encode, if_neg (mt List.isEmpty_iff.mp empty), if_neg long, Except.ok.injEq]
        simp only [ne_eq, empty, not_false_eq_true, Nat.not_lt.mp long, true_and]
        exact eq_comm
  | requestKeyframe =>
    simp only [encode, Except.ok.injEq]
    exact eq_comm

/-- An encoded message is decoded as it was. -/
theorem decode_encode (encoded : message.encode = .ok data) : decode data = .ok message := by
  have written := encode_eq_ok_iff.mp encoded
  cases message with
  | nack =>
    obtain ⟨nonempty, fits, rfl⟩ := written
    rw [decode_bytes fits, if_pos rfl, if_neg (by simpa using nonempty)]
  | requestKeyframe =>
    rw [written, decode_bytes (by simp [maxNackPacketIndices])]
    rfl

end RoundTrip

end FeedbackMessage

end ClassMesh
