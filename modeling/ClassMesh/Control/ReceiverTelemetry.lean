import ClassMesh.Foundation.Bytes

namespace ClassMesh

open Foundation

structure ReceiverTelemetryBinding where
  processId : UInt32
  sessionId : UInt32
  workerGeneration : UInt64
  controlSessionId : UInt64
  requestId : UInt64
  presentationId : UInt64
  streamId : UInt32
  epoch : UInt32
  receiverGeneration : UInt64
  deriving DecidableEq, Repr

def ReceiverTelemetryBinding.isValid (binding : ReceiverTelemetryBinding) : Bool :=
  binding.processId ≠ 0 && binding.sessionId ≠ 0 && binding.workerGeneration ≠ 0 && binding.controlSessionId ≠ 0 &&
    binding.requestId ≠ 0 && binding.presentationId ≠ 0 && binding.streamId ≠ 0 && binding.epoch ≠ 0 &&
    binding.receiverGeneration ≠ 0

structure ReceiverPlaybackCounters where
  authenticatedFrames : UInt64
  rejectedFrames : UInt64
  decodedFrames : UInt64
  presentedFrames : UInt64
  presentErrors : UInt64
  decodeErrors : UInt64
  keyframeWaits : UInt64
  queueDrops : UInt64
  deriving DecidableEq, Repr

structure ReceiverTelemetrySnapshot where
  binding : ReceiverTelemetryBinding
  sequence : UInt64
  counters : ReceiverPlaybackCounters
  deriving DecidableEq, Repr

/-- Times are nanoseconds of the monotonic clock. -/
def maxReceiverTelemetryGap : Nat := 30 * 10 ^ 9

def receiverTelemetryWireVersion : UInt16 := 1
def receiverTelemetryWireLen : Nat := 136
def wireMagic : List UInt8 := [0x43, 0x4d, 0x52, 0x54]

inductive ReceiverTelemetryWireError
  | invalidLength
  | badMagic
  | unsupportedVersion (version : UInt16)
  | nonzeroReserved
  | invalidBinding
  | invalidSequence
  | inactive
  | bindingMismatch
  | nonmonotonicSequence
  | lifecycleExhausted
  | clockRegression
  deriving DecidableEq, Repr

/-- The fields in the order they are written, each big-endian. -/
def ReceiverTelemetryBinding.bytes (binding : ReceiverTelemetryBinding) : List UInt8 :=
  u32ToBe binding.processId ++ (u32ToBe binding.sessionId ++ (u64ToBe binding.workerGeneration ++
    (u64ToBe binding.controlSessionId ++ (u64ToBe binding.requestId ++ (u64ToBe binding.presentationId ++
      (u32ToBe binding.streamId ++ (u32ToBe binding.epoch ++ u64ToBe binding.receiverGeneration)))))))

def ReceiverPlaybackCounters.bytes (counters : ReceiverPlaybackCounters) : List UInt8 :=
  u64ToBe counters.authenticatedFrames ++ (u64ToBe counters.rejectedFrames ++ (u64ToBe counters.decodedFrames ++
    (u64ToBe counters.presentedFrames ++ (u64ToBe counters.presentErrors ++ (u64ToBe counters.decodeErrors ++
      (u64ToBe counters.keyframeWaits ++ u64ToBe counters.queueDrops))))))

def ReceiverTelemetrySnapshot.bytes (sample : ReceiverTelemetrySnapshot) : List UInt8 :=
  wireMagic ++ (u16ToBe receiverTelemetryWireVersion ++ ([0, 0] ++
    (sample.binding.bytes ++ (u64ToBe sample.sequence ++ sample.counters.bytes))))

def encodeReceiverTelemetry (sample : ReceiverTelemetrySnapshot) : Except ReceiverTelemetryWireError (List UInt8) :=
  if !sample.binding.isValid then .error .invalidBinding
  else if sample.sequence = 0 then .error .invalidSequence
  else .ok sample.bytes

def ReceiverTelemetryBinding.ofBytes (input : List UInt8) : ReceiverTelemetryBinding where
  processId := u32OfBe (slice input 8 4)
  sessionId := u32OfBe (slice input 12 4)
  workerGeneration := u64OfBe (slice input 16 8)
  controlSessionId := u64OfBe (slice input 24 8)
  requestId := u64OfBe (slice input 32 8)
  presentationId := u64OfBe (slice input 40 8)
  streamId := u32OfBe (slice input 48 4)
  epoch := u32OfBe (slice input 52 4)
  receiverGeneration := u64OfBe (slice input 56 8)

def ReceiverPlaybackCounters.ofBytes (input : List UInt8) : ReceiverPlaybackCounters where
  authenticatedFrames := u64OfBe (slice input 72 8)
  rejectedFrames := u64OfBe (slice input 80 8)
  decodedFrames := u64OfBe (slice input 88 8)
  presentedFrames := u64OfBe (slice input 96 8)
  presentErrors := u64OfBe (slice input 104 8)
  decodeErrors := u64OfBe (slice input 112 8)
  keyframeWaits := u64OfBe (slice input 120 8)
  queueDrops := u64OfBe (slice input 128 8)

def decodeReceiverTelemetry (input : List UInt8) : Except ReceiverTelemetryWireError ReceiverTelemetrySnapshot :=
  if input.length ≠ receiverTelemetryWireLen then .error .invalidLength
  else if slice input 0 4 ≠ wireMagic then .error .badMagic
  else
    let version := u16OfBe (slice input 4 2)
    if version ≠ receiverTelemetryWireVersion then .error (.unsupportedVersion version)
    else if input.getD 6 0 ≠ 0 ∨ input.getD 7 0 ≠ 0 then .error .nonzeroReserved
    else
      let binding := ReceiverTelemetryBinding.ofBytes input
      if !binding.isValid then .error .invalidBinding
      else
        let sequence := u64OfBe (slice input 64 8)
        if sequence = 0 then .error .invalidSequence
        else .ok ⟨binding, sequence, ReceiverPlaybackCounters.ofBytes input⟩

/-- What the encoder accepts. -/
def ReceiverTelemetrySnapshot.Valid (sample : ReceiverTelemetrySnapshot) : Prop :=
  sample.binding.isValid ∧ sample.sequence ≠ 0

section Codec

variable {sample : ReceiverTelemetrySnapshot}

theorem slice_u32 (v : UInt32) (rest : List UInt8) : slice (u32ToBe v ++ rest) 0 4 = u32ToBe v := by
  simp [slice]

theorem slice_u64 (v : UInt64) (rest : List UInt8) : slice (u64ToBe v ++ rest) 0 8 = u64ToBe v := by
  simp [slice]

theorem slice_past {field : List UInt8} {width : Nat} (known : field.length = width) (rest : List UInt8)
    (offset size : Nat) : slice (field ++ rest) (offset + width) size = slice rest offset size := by
  rw [slice, slice, ← known, Nat.add_comm, ← List.drop_drop, List.drop_left]

theorem slice_past_u32 (v : UInt32) (rest : List UInt8) (offset size : Nat) :
    slice (u32ToBe v ++ rest) (offset + 4) size = slice rest offset size :=
  slice_past (u32ToBe_length v) rest offset size

theorem slice_past_u64 (v : UInt64) (rest : List UInt8) (offset size : Nat) :
    slice (u64ToBe v ++ rest) (offset + 8) size = slice rest offset size :=
  slice_past (u64ToBe_length v) rest offset size

theorem encodeReceiverTelemetry_eq_ok_iff {bytes : List UInt8} :
    encodeReceiverTelemetry sample = .ok bytes ↔ sample.Valid ∧ sample.bytes = bytes := by
  unfold encodeReceiverTelemetry ReceiverTelemetrySnapshot.Valid
  split_ifs <;> simp_all

theorem ReceiverTelemetrySnapshot.bytes_length (sample : ReceiverTelemetrySnapshot) :
    sample.bytes.length = receiverTelemetryWireLen := by
  simp [bytes, ReceiverTelemetryBinding.bytes, ReceiverPlaybackCounters.bytes, wireMagic, receiverTelemetryWireLen]

/-- Eight bytes of magic, version and reserved zeros stand before the binding. -/
theorem ReceiverTelemetrySnapshot.slice_bytes (sample : ReceiverTelemetrySnapshot) (offset size : Nat) :
    slice sample.bytes (offset + 8) size =
      slice (sample.binding.bytes ++ (u64ToBe sample.sequence ++ sample.counters.bytes)) offset size := by
  have front : (wireMagic ++ (u16ToBe receiverTelemetryWireVersion ++ [0, 0])).length = 8 := by
    simp [wireMagic]
  have split : sample.bytes = (wireMagic ++ (u16ToBe receiverTelemetryWireVersion ++ [0, 0])) ++
      (sample.binding.bytes ++ (u64ToBe sample.sequence ++ sample.counters.bytes)) := by
    simp only [bytes, List.append_assoc]
  rw [split, slice_past front]

theorem ReceiverTelemetryBinding.ofBytes_bytes (sample : ReceiverTelemetrySnapshot) :
    ofBytes sample.bytes = sample.binding := by
  obtain ⟨_, _⟩ := sample
  simp [ofBytes, ReceiverTelemetrySnapshot.slice_bytes, bytes, slice_u32, slice_u64, slice_past_u32, slice_past_u64]

theorem sequence_of_bytes (sample : ReceiverTelemetrySnapshot) :
    u64OfBe (slice sample.bytes 64 8) = sample.sequence := by
  simp [ReceiverTelemetrySnapshot.slice_bytes, ReceiverTelemetryBinding.bytes, slice_u64, slice_past_u32,
    slice_past_u64]

theorem ReceiverPlaybackCounters.ofBytes_bytes (sample : ReceiverTelemetrySnapshot) :
    ofBytes sample.bytes = sample.counters := by
  obtain ⟨_, _, counters⟩ := sample
  have last : slice (u64ToBe counters.queueDrops) 0 8 = u64ToBe counters.queueDrops := by simp [slice]
  simp [ofBytes, ReceiverTelemetrySnapshot.slice_bytes, ReceiverTelemetryBinding.bytes, bytes, slice_u64,
    slice_past_u32, slice_past_u64, last]

theorem decodeReceiverTelemetry_bytes (valid : sample.Valid) : decodeReceiverTelemetry sample.bytes = .ok sample := by
  have magic : slice sample.bytes 0 4 = wireMagic := by simp [slice, ReceiverTelemetrySnapshot.bytes, wireMagic]
  have version : u16OfBe (slice sample.bytes 4 2) = receiverTelemetryWireVersion := by
    simp [slice, ReceiverTelemetrySnapshot.bytes, wireMagic]
  have written : u16ToBe receiverTelemetryWireVersion = [0, 1] := by decide
  have reserved : ¬(sample.bytes.getD 6 0 ≠ 0 ∨ sample.bytes.getD 7 0 ≠ 0) := by
    simp [ReceiverTelemetrySnapshot.bytes, wireMagic, written]
  simp only [decodeReceiverTelemetry, sample.bytes_length, magic, version, if_neg reserved,
    ReceiverTelemetryBinding.ofBytes_bytes, valid.1, sequence_of_bytes, valid.2,
    ReceiverPlaybackCounters.ofBytes_bytes, ne_eq, not_true_eq_false, Bool.not_true, Bool.false_eq_true, if_false]

/-- The fields read from an input are written back as the bytes they were read from. -/
theorem bytes_ofBytes {input : List UInt8} (width : input.length = receiverTelemetryWireLen) :
    (ReceiverTelemetryBinding.ofBytes input).bytes ++ (u64ToBe (u64OfBe (slice input 64 8)) ++
      (ReceiverPlaybackCounters.ofBytes input).bytes) = input.drop 8 := by
  have last : slice input 128 8 = input.drop 128 := List.take_of_length_le (by simp [width, receiverTelemetryWireLen])
  have inside {offset size : Nat} (within : offset + size ≤ 136) : (slice input offset size).length = size :=
    slice_length (width ▸ within)
  have joined {offset size stop : Nat} (ends : offset + size = stop) :
      slice input offset size ++ input.drop stop = input.drop offset := ends ▸ slice_append_drop input offset size
  simp only [ReceiverTelemetryBinding.bytes, ReceiverTelemetryBinding.ofBytes, ReceiverPlaybackCounters.bytes,
    ReceiverPlaybackCounters.ofBytes, List.append_assoc, u32ToBe_ofBe, u64ToBe_ofBe, inside, Nat.reduceAdd,
    Nat.reduceLeDiff]
  simp only [last, joined]

/-- The decoder accepts exactly the bytes that the encoder writes. So no snapshot has two encodings, and no input that
the encoder refuses to produce is decoded. -/
theorem receiver_telemetry_codec_exact (input : List UInt8) (sample : ReceiverTelemetrySnapshot) :
    decodeReceiverTelemetry input = .ok sample ↔ encodeReceiverTelemetry sample = .ok input := by
  rw [encodeReceiverTelemetry_eq_ok_iff]
  constructor
  · intro read
    simp only [decodeReceiverTelemetry, ite_eq_iff, reduceCtorEq, and_false, false_or, not_not, not_or] at read
    obtain ⟨width, magic, version, ⟨sixth, seventh⟩, valid, sequence, same⟩ := read
    cases same
    have high := @getD_cons_drop _ input 7 0 (by rw [width]; decide)
    have low := @getD_cons_drop _ input 6 0 (by rw [width]; decide)
    rw [seventh] at high
    rw [sixth, ← high] at low
    refine ⟨⟨by simpa using valid, sequence⟩, ?_⟩
    rw [ReceiverTelemetrySnapshot.bytes, bytes_ofBytes width, ← magic, ← version,
      u16ToBe_ofBe (slice_length (by rw [width]; decide)), List.cons_append, List.singleton_append, low,
      slice_append_drop input 4 2, slice_append_drop input 0 4, List.drop_zero]
  · rintro ⟨valid, rfl⟩
    exact decodeReceiverTelemetry_bytes valid

end Codec

end ClassMesh
