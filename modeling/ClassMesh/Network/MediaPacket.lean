import ClassMesh.Foundation.Effect
import ClassMesh.Protocol.MediaHeader

namespace ClassMesh

open MediaPacketHeader

structure MediaPacket where
  header : MediaPacketHeader
  payload : List UInt8
deriving DecidableEq

/-- What `decode_datagram` guarantees of a packet it returns. -/
structure MediaPacket.WellFormed (packet : MediaPacket) : Prop where
  valid : packet.header.validate = .ok ()
  length : packet.header.payloadLen.toNat = packet.payload.length

structure PacketizeMeta where
  protocolMajor : UInt8
  protocolMinor : UInt8
  streamId : UInt32
  frameId : UInt64
  firstSequence : UInt32
  timestampUs : UInt64
  keyframe : Bool
deriving DecidableEq

inductive PacketizeError
  | emptyFrame
  | tooManyPackets
  | header (error : MediaHeaderError)
deriving DecidableEq

def packetCountOf (frame : List UInt8) : Nat := (frame.length + (maxPacketPayload - 1)) / maxPacketPayload

/-- The slice `frame.chunks(MAX_PACKET_PAYLOAD)` yields at a position. -/
def chunk (frame : List UInt8) (index : Nat) : List UInt8 :=
  (frame.drop (index * maxPacketPayload)).take maxPacketPayload

def packetFlags (keyframe : Bool) (packetIndex packetCount : UInt16) : MediaFlags :=
  let flags := if keyframe then MediaFlags.none ||| MediaFlags.keyframe else MediaFlags.none
  let flags := if packetIndex = 0 then flags ||| MediaFlags.frameStart else flags
  if packetIndex + 1 = packetCount then flags ||| MediaFlags.frameEnd else flags

/-- The packet at a position, as the loop builds it. -/
def packetAt (frame : List UInt8) (info : PacketizeMeta) (index : Nat) : MediaPacket :=
  let packetIndex := UInt16.ofNat index
  let packetCount := UInt16.ofNat (packetCountOf frame)
  { header :=
      { protocolMajor := info.protocolMajor
        protocolMinor := info.protocolMinor
        flags := packetFlags info.keyframe packetIndex packetCount
        streamId := info.streamId
        frameId := info.frameId
        sequence := info.firstSequence + UInt32.ofNat index
        packetIndex := packetIndex
        packetCount := packetCount
        timestampUs := info.timestampUs
        payloadLen := UInt16.ofNat (chunk frame index).length }
    payload := chunk frame index }

/-- One round of the loop: both narrowing conversions, then the header check. -/
def packetizeChunk (frame : List UInt8) (info : PacketizeMeta) (index : Nat) : Except PacketizeError MediaPacket :=
  if UInt16.size ≤ index then .error .tooManyPackets
  else if UInt16.size ≤ (chunk frame index).length then .error .tooManyPackets
  else
    match (packetAt frame info index).header.validate with
    | .error error => .error (.header error)
    | .ok () => .ok (packetAt frame info index)

def packetizeFrame (frame : List UInt8) (info : PacketizeMeta) : Except PacketizeError (List MediaPacket) :=
  if frame.isEmpty then .error .emptyFrame
  else if UInt16.size ≤ packetCountOf frame then .error .tooManyPackets
  else (List.range (packetCountOf frame)).mapM (packetizeChunk frame info)

inductive DatagramError
  | io
  | header (error : MediaHeaderError)
  | payloadLengthMismatch
  | datagramTooLarge
deriving DecidableEq

def maxMediaDatagram : Nat := mediaHeaderLen + maxPacketPayload

def encodeDatagram (packet : MediaPacket) : Except DatagramError (List UInt8) :=
  if packet.payload.length ≠ packet.header.payloadLen.toNat then .error .payloadLengthMismatch
  else if maxPacketPayload < packet.payload.length then .error .datagramTooLarge
  else
    match packet.header.encode with
    | .error error => .error (.header error)
    | .ok header => .ok (header ++ packet.payload)

def decodeDatagram (data : List UInt8) : Except DatagramError MediaPacket :=
  if data.length < mediaHeaderLen then .error (.header .truncated)
  else if maxMediaDatagram < data.length then .error .datagramTooLarge
  else
    match MediaPacketHeader.decode (data.take mediaHeaderLen) with
    | .error error => .error (.header error)
    | .ok header =>
      let payload := data.drop mediaHeaderLen
      if payload.length ≠ header.payloadLen.toNat then .error .payloadLengthMismatch
      else .ok ⟨header, payload⟩

variable {packet : MediaPacket}

theorem encodeDatagram_eq_ok (formed : packet.WellFormed) :
    encodeDatagram packet = .ok (packet.header.bytes ++ packet.payload) := by
  have short := (validate_eq_ok_iff.mp formed.valid).2.2
  have fits : ¬maxPacketPayload < packet.payload.length := by rw [← formed.length]; omega
  simp [encodeDatagram, formed.length, fits, encode, formed.valid]

/-- Whatever a well-formed packet is encoded to decodes to that packet. -/
theorem decodeDatagram_encodeDatagram {data : List UInt8} (formed : packet.WellFormed)
    (encoded : encodeDatagram packet = .ok data) : decodeDatagram data = .ok packet := by
  rw [encodeDatagram_eq_ok formed] at encoded
  cases Except.ok.inj encoded
  have short := (validate_eq_ok_iff.mp formed.valid).2.2
  have headerLen := packet.header.bytes_length
  have length : (packet.header.bytes ++ packet.payload).length = mediaHeaderLen + packet.payload.length := by
    rw [List.length_append, headerLen]
  have enough : ¬(packet.header.bytes ++ packet.payload).length < mediaHeaderLen := by omega
  have fits : ¬maxMediaDatagram < (packet.header.bytes ++ packet.payload).length := by
    rw [length, maxMediaDatagram, ← formed.length]
    omega
  have head : (packet.header.bytes ++ packet.payload).take mediaHeaderLen = packet.header.bytes := by
    rw [← headerLen, List.take_left]
  have tail : (packet.header.bytes ++ packet.payload).drop mediaHeaderLen = packet.payload := by
    rw [← headerLen, List.drop_left]
  simp only [decodeDatagram, if_neg enough, if_neg fits, head, tail, decode_bytes formed.valid,
    formed.length, ne_eq, not_true_eq_false, if_false]

section Packetize

variable {frame : List UInt8} {info : PacketizeMeta}

/-- The frames that can be cut into packets: not empty, and of no more packets than the header can number. -/
structure Packetizable (frame : List UInt8) : Prop where
  nonempty : frame ≠ []
  short : frame.length ≤ 65535 * maxPacketPayload

theorem packetCountOf_bounds (frame : List UInt8) :
    (packetCountOf frame - 1) * maxPacketPayload ≤ frame.length ∧
      frame.length ≤ packetCountOf frame * maxPacketPayload := by
  unfold packetCountOf maxPacketPayload
  omega

theorem packetCountOf_pos (fits : Packetizable frame) : 0 < packetCountOf frame := by
  have long := List.length_pos_of_ne_nil fits.nonempty
  unfold packetCountOf maxPacketPayload
  omega

theorem packetCountOf_lt (fits : Packetizable frame) : packetCountOf frame < UInt16.size := by
  have short := fits.short
  simp only [packetCountOf, maxPacketPayload, UInt16.size] at short ⊢
  omega

theorem chunk_length_le (frame : List UInt8) (index : Nat) : (chunk frame index).length ≤ maxPacketPayload :=
  List.length_take_le _ _

theorem take_chunks (frame : List UInt8) (count : Nat) :
    ((List.range count).map (chunk frame)).flatten = frame.take (count * maxPacketPayload) := by
  induction count with
  | zero => simp
  | succ count ih =>
    rw [List.range_succ, List.map_append, List.flatten_append, ih, List.map_singleton, List.flatten_singleton,
      chunk, Nat.succ_mul, List.take_add]

/-- The chunks together are the frame. -/
theorem flatten_chunks (frame : List UInt8) :
    ((List.range (packetCountOf frame)).map (chunk frame)).flatten = frame := by
  rw [take_chunks, List.take_of_length_le (packetCountOf_bounds frame).2]

/-- The sender marks keyframes and nothing that the protected receiver refuses. -/
theorem packetFlags_contains (keyframe : Bool) (packetIndex packetCount : UInt16) :
    (packetFlags keyframe packetIndex packetCount).contains .keyframe = keyframe ∧
      (packetFlags keyframe packetIndex packetCount).contains .retransmit = false ∧
      (packetFlags keyframe packetIndex packetCount).contains .fec = false := by
  simp only [packetFlags]
  cases keyframe <;> split_ifs <;> first | decide | contradiction

theorem packetAt_packetCount (fits : Packetizable frame) (info : PacketizeMeta) (index : Nat) :
    (packetAt frame info index).header.packetCount.toNat = packetCountOf frame := by
  have few := packetCountOf_lt fits
  simp only [packetAt, UInt16.toNat_ofNat']
  exact Nat.mod_eq_of_lt few

theorem packetAt_packetIndex (fits : Packetizable frame) (info : PacketizeMeta) {index : Nat}
    (within : index < packetCountOf frame) : (packetAt frame info index).header.packetIndex.toNat = index := by
  have few := packetCountOf_lt fits
  simp only [packetAt, UInt16.toNat_ofNat']
  exact Nat.mod_eq_of_lt (within.trans few)

theorem packetAt_payloadLen (frame : List UInt8) (info : PacketizeMeta) (index : Nat) :
    (packetAt frame info index).header.payloadLen.toNat = (chunk frame index).length := by
  have length := chunk_length_le frame index
  simp only [packetAt, UInt16.toNat_ofNat', maxPacketPayload] at length ⊢
  omega

theorem packetAt_wellFormed (fits : Packetizable frame) (info : PacketizeMeta) {index : Nat}
    (within : index < packetCountOf frame) : (packetAt frame info index).WellFormed := by
  have some := packetCountOf_pos fits
  have count := packetAt_packetCount fits info index
  have position := packetAt_packetIndex fits info within
  refine ⟨validate_eq_ok_iff.mpr ⟨?_, ?_, ?_⟩, packetAt_payloadLen frame info index⟩
  · intro zero
    rw [zero] at count
    exact absurd count.symm (Nat.ne_of_gt some)
  · rw [UInt16.lt_iff_toNat_lt, count, position]
    exact within
  · rw [packetAt_payloadLen]
    exact chunk_length_le frame index

theorem packetizeFrame_eq_ok (fits : Packetizable frame) (info : PacketizeMeta) :
    packetizeFrame frame info = .ok ((List.range (packetCountOf frame)).map (packetAt frame info)) := by
  have few := packetCountOf_lt fits
  rw [packetizeFrame, if_neg (by simpa using fits.nonempty), if_neg (Nat.not_le.mpr few)]
  refine Foundation.mapM_eq_ok_map _ fun index member => ?_
  have within := List.mem_range.mp member
  have narrow : ¬UInt16.size ≤ (chunk frame index).length := by
    have length := chunk_length_le frame index
    simp only [maxPacketPayload, UInt16.size] at length ⊢
    omega
  rw [packetizeChunk, if_neg (by omega), if_neg narrow, (packetAt_wellFormed fits info within).valid]

/-- Only frames that fit are cut into packets. -/
theorem fits_of_packetizeFrame {packets : List MediaPacket} (cut : packetizeFrame frame info = .ok packets) :
    Packetizable frame ∧ packets = (List.range (packetCountOf frame)).map (packetAt frame info) := by
  have nonempty : frame ≠ [] := by
    rintro rfl
    cases cut
  have short : frame.length ≤ 65535 * maxPacketPayload := by
    have bounds := (packetCountOf_bounds frame).2
    by_contra long
    have many : UInt16.size ≤ packetCountOf frame := by
      simp only [maxPacketPayload, UInt16.size] at *
      omega
    rw [packetizeFrame, if_neg (by simpa using nonempty), if_pos many] at cut
    cases cut
  have fits : Packetizable frame := ⟨nonempty, short⟩
  exact ⟨fits, Except.ok.inj (cut.symm.trans (packetizeFrame_eq_ok fits info))⟩

end Packetize

end ClassMesh
