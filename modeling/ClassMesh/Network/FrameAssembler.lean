import ClassMesh.Network.MediaPacket

namespace ClassMesh

inductive AssembleError
  | wrongFrame
  | wrongStream
  | packetCountChanged
  | payloadLengthMismatch
  | duplicatePacketConflict
deriving DecidableEq, Repr

structure AssembledFrame where
  streamId : UInt32
  frameId : UInt64
  timestampUs : UInt64
  keyframe : Bool
  data : List UInt8
deriving DecidableEq

structure FrameAssembler where
  streamId : UInt32
  frameId : UInt64
  timestampUs : UInt64
  keyframe : Bool
  packets : List (Option (List UInt8))
  received : Nat
deriving DecidableEq

/-! Where the code would panic the model returns `none`. -/

namespace FrameAssembler

variable (assembler : FrameAssembler)

def fromFirst (packet : MediaPacket) : FrameAssembler where
  streamId := packet.header.streamId
  frameId := packet.header.frameId
  timestampUs := packet.header.timestampUs
  keyframe := packet.header.flags.contains .keyframe
  packets := List.replicate packet.header.packetCount.toNat none
  received := 0

/-- A rejected packet leaves the assembler as it was. -/
def push (packet : MediaPacket) : Option (Except AssembleError FrameAssembler) :=
  if packet.header.frameId ≠ assembler.frameId then some (.error .wrongFrame)
  else if packet.header.streamId ≠ assembler.streamId then some (.error .wrongStream)
  else if packet.header.packetCount.toNat ≠ assembler.packets.length then some (.error .packetCountChanged)
  else if packet.header.payloadLen.toNat ≠ packet.payload.length then some (.error .payloadLengthMismatch)
  else
    let index := packet.header.packetIndex.toNat
    match assembler.packets[index]? with
    | none => none
    | some (some existing) =>
      if existing ≠ packet.payload then some (.error .duplicatePacketConflict) else some (.ok assembler)
    | some none =>
      some (.ok { assembler with
        packets := assembler.packets.set index (some packet.payload)
        received := assembler.received + 1 })

def isComplete : Bool := assembler.received = assembler.packets.length

def missing : List Nat :=
  (List.range assembler.packets.length).filter fun index => assembler.packets[index]? = some none

def missingPacketIndices : Option (List UInt16) :=
  if assembler.missing.all (· < UInt16.size) then some (assembler.missing.map UInt16.ofNat) else none

def finish : Option (Option AssembledFrame) :=
  if ¬assembler.isComplete then some none
  else if assembler.packets.all Option.isSome then
    some (some ⟨assembler.streamId, assembler.frameId, assembler.timestampUs, assembler.keyframe,
      (assembler.packets.filterMap id).flatten⟩)
  else none

/-- The counter counts the filled slots, and every slot has a 16-bit index. -/
structure Sound (assembler : FrameAssembler) : Prop where
  counted : assembler.received = assembler.packets.countP Option.isSome
  narrow : assembler.packets.length < UInt16.size

variable {assembler next : FrameAssembler} {packet : MediaPacket}

theorem fromFirst_sound (packet : MediaPacket) : (fromFirst packet).Sound where
  counted := by simp [fromFirst, List.countP_replicate]
  narrow := by simpa [fromFirst] using packet.header.packetCount.toNat_lt

/-- The packet belongs to the frame being assembled. -/
structure Matches (assembler : FrameAssembler) (packet : MediaPacket) : Prop where
  frame : packet.header.frameId = assembler.frameId
  stream : packet.header.streamId = assembler.streamId
  count : packet.header.packetCount.toNat = assembler.packets.length
  payload : packet.header.payloadLen.toNat = packet.payload.length

theorem fromFirst_matches (length : packet.header.payloadLen.toNat = packet.payload.length) :
    (fromFirst packet).Matches packet :=
  ⟨rfl, rfl, by simp [fromFirst], length⟩

theorem Matches.push_eq (fits : assembler.Matches packet) :
    assembler.push packet =
      match assembler.packets[packet.header.packetIndex.toNat]? with
      | none => none
      | some (some existing) =>
        if existing ≠ packet.payload then some (.error .duplicatePacketConflict) else some (.ok assembler)
      | some none =>
        some (.ok { assembler with
          packets := assembler.packets.set packet.header.packetIndex.toNat (some packet.payload)
          received := assembler.received + 1 }) := by
  simp [push, fits.frame, fits.stream, fits.count, fits.payload]

/-- What an accepted packet does: it fills an empty slot, or repeats what the slot holds. -/
theorem push_ok_cases (accepted : assembler.push packet = some (.ok next)) :
    assembler.Matches packet ∧
      ((assembler.packets[packet.header.packetIndex.toNat]? = some none ∧
          next = { assembler with
            packets := assembler.packets.set packet.header.packetIndex.toNat (some packet.payload)
            received := assembler.received + 1 }) ∨
        (assembler.packets[packet.header.packetIndex.toNat]? = some (some packet.payload) ∧ next = assembler)) := by
  unfold push at accepted
  split at accepted
  · cases accepted
  split at accepted
  · cases accepted
  split at accepted
  · cases accepted
  split at accepted
  · cases accepted
  rename_i frame stream count payload
  refine ⟨⟨not_not.mp frame, not_not.mp stream, not_not.mp count, not_not.mp payload⟩, ?_⟩
  dsimp only at accepted
  split at accepted
  · cases accepted
  · rename_i existing held
    split at accepted
    · cases accepted
    · rename_i same
      cases accepted
      exact .inr ⟨by rw [held, not_not.mp same], rfl⟩
  · rename_i empty
    cases accepted
    exact .inl ⟨empty, rfl⟩

/-- Header validation is what keeps the slot index in range. -/
theorem push_isSome (valid : packet.header.validate = .ok ()) : (assembler.push packet).isSome = true := by
  have index := (MediaPacketHeader.validate_eq_ok_iff.mp valid).2.1
  rw [UInt16.lt_iff_toNat_lt] at index
  unfold push
  split
  · rfl
  split
  · rfl
  split
  · rfl
  rename_i count
  split
  · rfl
  dsimp only
  split
  · rename_i outside
    rw [List.getElem?_eq_none_iff] at outside
    omega
  · split <;> rfl
  · rfl

theorem Sound.push (sound : assembler.Sound) (accepted : assembler.push packet = some (.ok next)) : next.Sound := by
  obtain ⟨_, ⟨empty, rfl⟩ | ⟨_, rfl⟩⟩ := push_ok_cases accepted
  · refine ⟨?_, by simpa using sound.narrow⟩
    obtain ⟨within, slot⟩ := List.getElem?_eq_some_iff.mp empty
    rw [List.countP_set within, slot, sound.counted]
    simp
  · exact sound

theorem Sound.isComplete_iff (sound : assembler.Sound) :
    assembler.isComplete = true ↔ assembler.packets.all Option.isSome = true := by
  rw [isComplete, decide_eq_true_iff, sound.counted, List.countP_eq_length, List.all_eq_true]

/-- A complete assembler gives its frame. -/
theorem Sound.finish_eq (sound : assembler.Sound) (complete : assembler.isComplete = true) :
    assembler.finish = some (some ⟨assembler.streamId, assembler.frameId, assembler.timestampUs,
      assembler.keyframe, (assembler.packets.filterMap id).flatten⟩) := by
  rw [finish, if_neg (not_not.mpr complete), if_pos (sound.isComplete_iff.mp complete)]

theorem Sound.missingPacketIndices_isSome (sound : assembler.Sound) : assembler.missingPacketIndices.isSome = true := by
  have narrow : assembler.missing.all (· < UInt16.size) = true := by
    rw [List.all_eq_true]
    intro index member
    have within := List.mem_range.mp (List.mem_filter.mp member).1
    exact decide_eq_true (within.trans sound.narrow)
  simp [missingPacketIndices, narrow]

end FrameAssembler

end ClassMesh
