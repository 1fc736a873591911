import ClassMesh.Foundation.Bytes

namespace ClassMesh

open Foundation

def mediaProtocolMajor : UInt8 := 0
def mediaProtocolMinor : UInt8 := 4
def mediaMagic : UInt32 := 0x434D5631
def mediaHeaderLen : Nat := 40
def maxPacketPayload : Nat := 1200

structure MediaFlags where
  bits : UInt16
deriving DecidableEq, Repr

namespace MediaFlags

def none : MediaFlags := ⟨0⟩
def keyframe : MediaFlags := ⟨1⟩
def frameStart : MediaFlags := ⟨2⟩
def frameEnd : MediaFlags := ⟨4⟩
def retransmit : MediaFlags := ⟨8⟩
def fec : MediaFlags := ⟨16⟩

def contains (flags flag : MediaFlags) : Bool := flags.bits &&& flag.bits = flag.bits

instance : OrOp MediaFlags := ⟨fun a b => ⟨a.bits ||| b.bits⟩⟩

end MediaFlags

structure MediaPacketHeader where
  protocolMajor : UInt8
  protocolMinor : UInt8
  flags : MediaFlags
  streamId : UInt32
  frameId : UInt64
  sequence : UInt32
  packetIndex : UInt16
  packetCount : UInt16
  timestampUs : UInt64
  payloadLen : UInt16
deriving DecidableEq, Repr

inductive MediaHeaderError
  | truncated
  | badMagic
  | invalidPacketCount
  | invalidPacketIndex
  | payloadTooLarge
deriving DecidableEq, Repr

namespace MediaPacketHeader

variable (header : MediaPacketHeader)

def validate : Except MediaHeaderError Unit :=
  if header.packetCount = 0 then .error .invalidPacketCount
  else if header.packetCount ≤ header.packetIndex then .error .invalidPacketIndex
  else if maxPacketPayload < header.payloadLen.toNat then .error .payloadTooLarge
  else .ok ()

theorem validate_eq_ok_iff {header : MediaPacketHeader} : header.validate = .ok () ↔
    header.packetCount ≠ 0 ∧ header.packetIndex < header.packetCount ∧
      header.payloadLen.toNat ≤ maxPacketPayload := by
  unfold validate
  split
  · simp_all
  split
  · rename_i late
    simp [UInt16.not_lt.mpr late]
  split
  · rename_i long
    simp [Nat.not_le.mpr long]
  · rename_i count index length
    simp [count, UInt16.not_le.mp index, Nat.le_of_not_lt length]

/-- The forty header bytes; the last two are reserved and left zero. -/
def bytes : List UInt8 :=
  u32ToBe mediaMagic ++ (header.protocolMajor :: header.protocolMinor ::
    (u16ToBe header.flags.bits ++ (u32ToBe header.streamId ++ (u64ToBe header.frameId ++
      (u32ToBe header.sequence ++ (u16ToBe header.packetIndex ++ (u16ToBe header.packetCount ++
        (u64ToBe header.timestampUs ++ (u16ToBe header.payloadLen ++ [0, 0])))))))))

def encode : Except MediaHeaderError (List UInt8) :=
  match header.validate with
  | .error error => .error error
  | .ok () => .ok header.bytes

def readU16 (data : List UInt8) (offset : Nat) : UInt16 := u16OfBe (slice data offset 2)
def readU32 (data : List UInt8) (offset : Nat) : UInt32 := u32OfBe (slice data offset 4)
def readU64 (data : List UInt8) (offset : Nat) : UInt64 := u64OfBe (slice data offset 8)

def decode (data : List UInt8) : Except MediaHeaderError MediaPacketHeader :=
  if data.length < mediaHeaderLen then .error .truncated
  else if readU32 data 0 ≠ mediaMagic then .error .badMagic
  else
    let header : MediaPacketHeader :=
      { protocolMajor := data.getD 4 0
        protocolMinor := data.getD 5 0
        flags := ⟨readU16 data 6⟩
        streamId := readU32 data 8
        frameId := readU64 data 12
        sequence := readU32 data 20
        packetIndex := readU16 data 24
        packetCount := readU16 data 26
        timestampUs := readU64 data 28
        payloadLen := readU16 data 36 }
    match header.validate with
    | .error error => .error error
    | .ok () => .ok header

theorem bytes_length : header.bytes.length = mediaHeaderLen := by
  simp [bytes, mediaHeaderLen]

theorem decode_bytes {header : MediaPacketHeader} (valid : header.validate = .ok ()) :
    decode header.bytes = .ok header := by
  have long : ¬header.bytes.length < mediaHeaderLen := by simp [bytes_length]
  have magic : readU32 header.bytes 0 = mediaMagic := by simp [readU32, slice, bytes]
  have flags : readU16 header.bytes 6 = header.flags.bits := by
    simp [readU16, slice, bytes, List.drop_append, List.drop_eq_nil_of_le]
  have stream : readU32 header.bytes 8 = header.streamId := by
    simp [readU32, slice, bytes, List.drop_append, List.drop_eq_nil_of_le]
  have frame : readU64 header.bytes 12 = header.frameId := by
    simp [readU64, slice, bytes, List.drop_append, List.drop_eq_nil_of_le]
  have sequence : readU32 header.bytes 20 = header.sequence := by
    simp [readU32, slice, bytes, List.drop_append, List.drop_eq_nil_of_le]
  have index : readU16 header.bytes 24 = header.packetIndex := by
    simp [readU16, slice, bytes, List.drop_append, List.drop_eq_nil_of_le]
  have count : readU16 header.bytes 26 = header.packetCount := by
    simp [readU16, slice, bytes, List.drop_append, List.drop_eq_nil_of_le]
  have timestamp : readU64 header.bytes 28 = header.timestampUs := by
    simp [readU64, slice, bytes, List.drop_append, List.drop_eq_nil_of_le]
  have length : readU16 header.bytes 36 = header.payloadLen := by
    simp [readU16, slice, bytes, List.drop_append, List.drop_eq_nil_of_le]
  have major : header.bytes.getD 4 0 = header.protocolMajor := by simp [bytes, List.getD]
  have minor : header.bytes.getD 5 0 = header.protocolMinor := by simp [bytes, List.getD]
  simp only [decode, if_neg long, magic, ne_eq, not_true_eq_false, if_false, flags, stream, frame, sequence, index,
    count, timestamp, length, major, minor, valid]

end MediaPacketHeader

end ClassMesh
