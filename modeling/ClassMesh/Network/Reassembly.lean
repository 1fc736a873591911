import ClassMesh.Network.WindowSteps

namespace ClassMesh

open Std ReceiverWindow

/-! One frame, sent packet by packet, and what a window makes of those packets in any order. -/

/-- The packets of the frame, as `packetize_frame` returns them. -/
def sentPackets (frame : List UInt8) (info : PacketizeMeta) : List MediaPacket :=
  (List.range (packetCountOf frame)).map (packetAt frame info)

theorem mem_sentPackets_iff {frame : List UInt8} {info : PacketizeMeta} {packet : MediaPacket} :
    packet ∈ sentPackets frame info ↔ ∃ index < packetCountOf frame, packet = packetAt frame info index := by
  simp only [sentPackets, List.mem_map, List.mem_range, eq_comm]

section Assembler

variable {frame : List UInt8} {info : PacketizeMeta} {assembler : FrameAssembler} {seen : List Nat}

/-- The frame that the receiver is to hand over. -/
def original (frame : List UInt8) (info : PacketizeMeta) : AssembledFrame :=
  ⟨info.streamId, info.frameId, info.timestampUs, info.keyframe, frame⟩

/-- The assembler has the packets `seen` of the frame and no others. -/
structure Collects (frame : List UInt8) (info : PacketizeMeta) (seen : List Nat) (assembler : FrameAssembler) :
    Prop where
  stream : assembler.streamId = info.streamId
  frameId : assembler.frameId = info.frameId
  timestamp : assembler.timestampUs = info.timestampUs
  keyframe : assembler.keyframe = info.keyframe
  length : assembler.packets.length = packetCountOf frame
  slots : ∀ index < packetCountOf frame,
    assembler.packets[index]? = some (if index ∈ seen then some (chunk frame index) else none)

/-- Every packet of the frame is among those seen. -/
def Covers (frame : List UInt8) (seen : List Nat) : Prop := ∀ index < packetCountOf frame, index ∈ seen

theorem collects_fromFirst (fits : Packetizable frame) (info : PacketizeMeta) (index : Nat) :
    Collects frame info [] (.fromFirst (packetAt frame info index)) where
  stream := rfl
  frameId := rfl
  timestamp := rfl
  keyframe := (packetFlags_contains info.keyframe _ _).1
  length := by simp [FrameAssembler.fromFirst, packetAt_packetCount fits]
  slots := by
    intro slot within
    simp [FrameAssembler.fromFirst, packetAt_packetCount fits, within]

/-- Any packet of the frame is accepted, and is then among those seen. -/
theorem Collects.push (collects : Collects frame info seen assembler) (fits : Packetizable frame) {index : Nat}
    (within : index < packetCountOf frame) :
    ∃ next, assembler.push (packetAt frame info index) = some (.ok next) ∧
      Collects frame info (index :: seen) next := by
  have position := packetAt_packetIndex fits info within
  have fits : assembler.Matches (packetAt frame info index) :=
    ⟨collects.frameId.symm, collects.stream.symm, by rw [packetAt_packetCount fits, collects.length],
      packetAt_payloadLen frame info index⟩
  rw [fits.push_eq, position, collects.slots index within]
  by_cases had : index ∈ seen
  · refine ⟨assembler, by simp [had, packetAt], { collects with slots := ?_ }⟩
    intro slot inside
    rw [collects.slots slot inside]
    by_cases same : slot = index
    · simp [same, had]
    · simp [same]
  · refine ⟨{ assembler with
        packets := assembler.packets.set index (some (packetAt frame info index).payload)
        received := assembler.received + 1 }, by simp only [had, if_false],
      ⟨collects.stream, collects.frameId, collects.timestamp, collects.keyframe, ?_, ?_⟩⟩
    · simpa using collects.length
    · intro slot inside
      by_cases same : index = slot
      · subst same
        simp [collects.length, inside, packetAt]
      · simp [List.getElem?_set_ne same, collects.slots slot inside, Ne.symm same]

theorem Collects.isComplete_iff (collects : Collects frame info seen assembler) (sound : assembler.Sound) :
    assembler.isComplete = true ↔ Covers frame seen := by
  rw [sound.isComplete_iff, List.all_eq_true]
  constructor
  · intro all index within
    have slot := collects.slots index within
    by_contra missing
    rw [if_neg missing] at slot
    have filled := all none (List.mem_of_getElem? slot)
    cases filled
  · intro covers slot member
    obtain ⟨index, inside, rfl⟩ := List.getElem_of_mem member
    have within : index < packetCountOf frame := collects.length ▸ inside
    have here := collects.slots index within
    rw [List.getElem?_eq_getElem inside, if_pos (covers index within), Option.some.injEq] at here
    rw [here]
    rfl

/-- Once everything has been seen, the assembler gives back the frame that was sent. -/
theorem Collects.assembled_eq (collects : Collects frame info seen assembler) (covers : Covers frame seen) :
    assembled assembler = original frame info := by
  have slots : assembler.packets = ((List.range (packetCountOf frame)).map (chunk frame)).map some := by
    refine List.ext_getElem? fun index => ?_
    by_cases within : index < packetCountOf frame
    · rw [collects.slots index within, if_pos (covers index within)]
      simp [within]
    · rw [List.getElem?_eq_none (by rw [collects.length]; omega), List.getElem?_eq_none (by simp; omega)]
  have data : (assembler.packets.filterMap id).flatten = frame := by
    rw [slots, List.filterMap_map, Function.id_comp, List.filterMap_some, flatten_chunks]
  simp only [assembled, original, collects.stream, collects.frameId, collects.timestamp,
    collects.keyframe, data]

end Assembler

section Window

variable {frame : List UInt8} {info : PacketizeMeta} {seen : List Nat} {window : ReceiverWindow} {startUs nowUs : Nat}

/-- The window is collecting the frame: it opened an entry at `startUs` and has the packets `seen` in it. -/
structure Gathers (frame : List UInt8) (info : PacketizeMeta) (startUs : Nat) (seen : List Nat)
    (window : ReceiverWindow) : Prop where
  sound : window.Sound
  current : window.late info.frameId = false
  entry : ∃ held, window.inflight[info.frameId]? = some held ∧ held.firstSeenUs = startUs ∧
    Collects frame info seen held.assembler

theorem live_of_inTime {held : InflightFrame} (since : held.firstSeenUs = startUs)
    (inTime : nowUs - startUs < window.policy.dropAfterUs) : held.stale window.policy nowUs = false := by
  rw [InflightFrame.stale, since, decide_eq_false_iff_not]
  omega

theorem Gathers.tick (gathers : Gathers frame info startUs seen window)
    (inTime : nowUs - startUs < window.policy.dropAfterUs) :
    Gathers frame info startUs seen (window.expired nowUs) := by
  obtain ⟨held, stored, since, collects⟩ := gathers.entry
  refine ⟨gathers.sound.expired nowUs, gathers.current, held.nacked window.policy nowUs, ?_, by simpa using since,
    by simpa using collects⟩
  exact expired_eq_some_iff.mpr ⟨held, stored, live_of_inTime since inTime, rfl⟩

theorem Gathers.opened (gathers : Gathers frame info startUs seen window)
    (inTime : nowUs - startUs < window.policy.dropAfterUs) (index : Nat) :
    ∃ held, (window.opened nowUs (packetAt frame info index)).inflight[info.frameId]? = some held ∧
      held.firstSeenUs = startUs ∧ Collects frame info seen held.assembler := by
  obtain ⟨held, stored, since, collects⟩ := gathers.entry
  have kept := expired_eq_some_iff.mpr ⟨held, stored, live_of_inTime since inTime, rfl⟩
  refine ⟨held.nacked window.policy nowUs, ?_, by simpa using since, by simpa using collects⟩
  have entry := entered_getElem?_self (window.expired nowUs) nowUs (packetAt frame info index)
  rwa [show (packetAt frame info index).header.frameId = info.frameId from rfl, kept, Option.getD_some] at entry

theorem opened_new (fits : Packetizable frame) (absent : (window.expired nowUs).inflight[info.frameId]? = none)
    (index : Nat) :
    ∃ held, (window.opened nowUs (packetAt frame info index)).inflight[info.frameId]? = some held ∧
      held.firstSeenUs = nowUs ∧ Collects frame info [] held.assembler := by
  have entry := entered_getElem?_self (window.expired nowUs) nowUs (packetAt frame info index)
  rw [show (packetAt frame info index).header.frameId = info.frameId from rfl, absent, Option.getD_none] at entry
  exact ⟨_, entry, rfl, collects_fromFirst fits info index⟩

/-- What pushing one more packet of the frame does, given what its entry holds by then: the frame is delivered
if that was the last packet missing, and otherwise the window goes on collecting. -/
theorem push_packetAt (sound : window.Sound) (current : window.late info.frameId = false) (fits : Packetizable frame)
    {index : Nat} (within : index < packetCountOf frame)
    (opened : ∃ held, (window.opened nowUs (packetAt frame info index)).inflight[info.frameId]? = some held ∧
      held.firstSeenUs = startUs ∧ Collects frame info seen held.assembler) :
    ∃ after reply, window.push nowUs (packetAt frame info index) = some (after, reply) ∧
      ReceiverWindow.PushOutcome window nowUs (packetAt frame info index) after reply ∧
      ((Covers frame (index :: seen) ∧ after.latestCompleteFrame = some info.frameId ∧
          reply = .ok (window.openingEvents nowUs (packetAt frame info index) ++ [.frameReady (original frame info)])) ∨
        (¬Covers frame (index :: seen) ∧ Gathers frame info startUs (index :: seen) after ∧
          reply = .ok (window.openingEvents nowUs (packetAt frame info index)))) := by
  have formed := packetAt_wellFormed fits info within
  obtain ⟨held, atFrame, since, collects⟩ := opened
  obtain ⟨_, accepted, collected⟩ := collects.push fits within
  obtain ⟨after, reply, pushed, outcome⟩ := sound.push_outcome nowUs formed.valid
  refine ⟨after, reply, pushed, outcome, ?_⟩
  have soundAfter := sound.after_push formed.valid outcome
  have soundNext := ((sound.opened nowUs formed.valid current).held _ _ atFrame).sound.push accepted
  have complete := collected.isComplete_iff soundNext
  cases outcome with
  | late behind => exact absurd (current.symm.trans behind) (by simp)
  | rejected _ entry refused =>
    cases Option.some.inj (entry.symm.trans atFrame)
    cases Option.some.inj (refused.symm.trans accepted)
  | stored _ entry taken unfinished =>
    cases Option.some.inj (entry.symm.trans atFrame)
    cases Option.some.inj (taken.symm.trans accepted)
    refine .inr ⟨fun covers => by simp [complete.mpr covers] at unfinished, ⟨soundAfter, ?_, ?_⟩, rfl⟩
    · simpa [late] using current
    · exact ⟨_, ExtTreeMap.getElem?_insert_self, since, collected⟩
  | delivered _ entry taken finished =>
    cases Option.some.inj (entry.symm.trans atFrame)
    cases Option.some.inj (taken.symm.trans accepted)
    have covers := complete.mp finished
    exact .inl ⟨covers, rfl, by rw [collected.assembled_eq covers]⟩

end Window

end ClassMesh
