import ClassMesh.Network.Reassembly
import ClassMesh.Network.WindowRuns

namespace ClassMesh

open Std Foundation ReceiverWindow WindowCall

/-! The packets of one frame arriving together, at a window that other traffic has used before. -/

/-- A tick or a packet of the frame, before the drop deadline of an entry made at `startUs`. -/
def WindowInput.PartOf (frame : List UInt8) (info : PacketizeMeta) (policy : ReceiverPolicy) (startUs : Nat) :
    WindowInput → Prop
  | .push nowUs packet => packet ∈ sentPackets frame info ∧ nowUs - startUs < policy.dropAfterUs
  | .tick nowUs => nowUs - startUs < policy.dropAfterUs

/-- All packets of the frame, one after another, with nothing but ticks in between. -/
structure FrameBlock (frame : List UInt8) (info : PacketizeMeta) (policy : ReceiverPolicy) (startUs : Nat)
    (inputs : List WindowInput) : Prop where
  opens : ∃ packet ∈ sentPackets frame info, inputs.head? = some (.push startUs packet)
  parts : ∀ input ∈ inputs, input.PartOf frame info policy startUs
  whole : ∀ packet ∈ sentPackets frame info, ∃ nowUs, .push nowUs packet ∈ inputs

section

variable {frame : List UInt8} {info : PacketizeMeta} {policy : ReceiverPolicy} {startUs nowUs : Nat}
  {window : ReceiverWindow} {past : List WindowCall} {seen : List Nat}

/-- Where the window is, after some inputs of the block. -/
structure BlockStage (frame : List UInt8) (info : PacketizeMeta) (policy : ReceiverPolicy) (startUs : Nat)
    (past : List WindowCall) (window : ReceiverWindow) : Prop where
  policyKept : window.policy = policy
  sound : window.Sound
  stage : ∃ seen, (∀ index < packetCountOf frame, ∀ nowUs,
      .push nowUs (packetAt frame info index) ∈ past.map (·.input) → index ∈ seen) ∧
    ((Covers frame seen ∧ window.latestCompleteFrame = some info.frameId ∧
        readyFrames past = [original frame info]) ∨
      (¬Covers frame seen ∧ Gathers frame info startUs seen window ∧ readyFrames past = []))

variable {index : Nat} {inputs : List WindowInput} (fits : Packetizable frame)

include fits

theorem packetAt_injective {other : Nat} (within : index < packetCountOf frame)
    (within' : other < packetCountOf frame) (same : packetAt frame info index = packetAt frame info other) :
    index = other := by
  rw [← packetAt_packetIndex fits info within, same, packetAt_packetIndex fits info within']

/-- What the packets pushed so far have left behind, after one more of them. -/
theorem pushed_mem_cons
    (pushed : ∀ index < packetCountOf frame, ∀ nowUs,
      .push nowUs (packetAt frame info index) ∈ past.map (·.input) → index ∈ seen) {call : WindowCall}
    (within : index < packetCountOf frame) (atInput : call.input = .push nowUs (packetAt frame info index)) :
    ∀ other < packetCountOf frame, ∀ nowUs,
      .push nowUs (packetAt frame info other) ∈ (past ++ [call]).map (·.input) → other ∈ index :: seen := by
  intro other within' time member
  rw [List.map_append, List.mem_append] at member
  rcases member with earlier | last
  · exact List.mem_cons_of_mem _ (pushed other within' time earlier)
  · rw [List.map_cons, List.map_nil, List.mem_singleton, atInput, WindowInput.push.injEq] at last
    rw [packetAt_injective fits within' within last.2]
    exact List.mem_cons_self

/-- A packet of the frame that arrives while the frame is being collected. -/
theorem blockStage_push (policyKept : window.policy = policy) (sound : window.Sound)
    (current : window.late info.frameId = false)
    (pushed : ∀ index < packetCountOf frame, ∀ nowUs,
      .push nowUs (packetAt frame info index) ∈ past.map (·.input) → index ∈ seen) (quiet : readyFrames past = [])
    (within : index < packetCountOf frame)
    (opened : ∃ held, (window.opened nowUs (packetAt frame info index)).inflight[info.frameId]? = some held ∧
      held.firstSeenUs = startUs ∧ Collects frame info seen held.assembler) :
    ∃ after reply, window.step (.push nowUs (packetAt frame info index)) = some (after, reply) ∧
      BlockStage frame info policy startUs
        (past ++ [⟨window, .push nowUs (packetAt frame info index), reply, after⟩]) after := by
  obtain ⟨after, reply, taken, outcome, stages⟩ := push_packetAt sound current fits within opened
  have formed := packetAt_wellFormed fits info within
  have silent := openingEvents_ready window nowUs (packetAt frame info index)
  refine ⟨after, reply, taken, outcome.policy_eq.trans policyKept, sound.after_push formed.valid outcome,
    index :: seen, pushed_mem_cons fits pushed within rfl, ?_⟩
  rcases stages with ⟨covers, latest, rfl⟩ | ⟨missing, gathers, rfl⟩
  · refine .inl ⟨covers, latest, ?_⟩
    rw [readyFrames_append, quiet, ready, events, List.filterMap_append, silent]
    rfl
  · refine .inr ⟨missing, gathers, ?_⟩
    rw [readyFrames_append, quiet, ready, events, silent]
    rfl

/-- One more input of the block: the packet is gathered, completes the frame or comes too late to matter. Nothing is
assumed of the order of the packets or of copies. -/
theorem BlockStage.step (block : BlockStage frame info policy startUs past window) {input : WindowInput}
    (part : input.PartOf frame info policy startUs) : ∃ after reply, window.step input = some (after, reply) ∧
      BlockStage frame info policy startUs (past ++ [⟨window, input, reply, after⟩]) after := by
  obtain ⟨policyKept, sound, seen, pushed, stages⟩ := block
  cases input with
  | tick nowUs =>
    have inTime : nowUs - startUs < window.policy.dropAfterUs := by rw [policyKept]; exact part
    have ready : readyFrames (past ++ [⟨window, .tick nowUs, .ok (window.expiryEvents nowUs), window.expired nowUs⟩]) =
        readyFrames past := by
      rw [readyFrames_append, ready, events, expiryEvents_ready, List.append_nil]
    refine ⟨window.expired nowUs, .ok (window.expiryEvents nowUs), by simp [ReceiverWindow.step, tick, sound.expire_eq],
      policyKept, sound.expired nowUs, seen, ?_, ?_⟩
    · intro index within time member
      exact pushed index within time (by simpa using member)
    · rw [ready]
      rcases stages with ⟨covers, latest, delivered⟩ | ⟨missing, gathers, quiet⟩
      · exact .inl ⟨covers, latest, delivered⟩
      · exact .inr ⟨missing, gathers.tick inTime, quiet⟩
  | push nowUs =>
    obtain ⟨sent, inTime⟩ := part
    obtain ⟨index, within, rfl⟩ := mem_sentPackets_iff.mp sent
    rcases stages with ⟨covers, latest, delivered⟩ | ⟨_, gathers, quiet⟩
    · have late : window.late info.frameId = true := late_iff.mpr ⟨_, latest, UInt64.le_refl _⟩
      obtain ⟨_, _, taken, outcome⟩ :=
        sound.push_outcome nowUs (packetAt_wellFormed fits info within).valid
      obtain ⟨rfl, rfl⟩ := outcome.of_late late
      refine ⟨_, _, taken, policyKept, sound.expired nowUs, index :: seen, pushed_mem_cons fits pushed within rfl,
        .inl ⟨?_, latest, ?_⟩⟩
      · exact fun other inside => List.mem_cons_of_mem _ (covers other inside)
      · rw [readyFrames_append, delivered, ready, events, expiryEvents_ready]
        rfl
    · exact blockStage_push fits policyKept sound gathers.current pushed quiet within
        (gathers.opened (by rw [policyKept]; exact inTime) index)

/-- A block delivers its frame at any sound window that is not past the frame and has no live entry for it. -/
theorem block_delivered (sound : window.Sound) (current : window.late info.frameId = false)
    (absent : (window.expired startUs).inflight[info.frameId]? = none)
    (block : FrameBlock frame info window.policy startUs inputs) :
    ∃ calls after, tryCalls ReceiverWindow.step window inputs = some (calls, after) ∧
      readyFrames calls = [original frame info] ∧ after.latestCompleteFrame = some info.frameId := by
  obtain ⟨_, sent, atHead⟩ := block.opens
  obtain ⟨index, within, rfl⟩ := mem_sentPackets_iff.mp sent
  obtain ⟨rest, rfl⟩ : ∃ rest, inputs = .push startUs (packetAt frame info index) :: rest :=
    ⟨inputs.tail, (List.cons_head?_tail atHead).symm⟩
  have opening : ∃ second reply, window.step (.push startUs (packetAt frame info index)) = some (second, reply) ∧
      BlockStage frame info window.policy startUs
        ([] ++ [⟨window, .push startUs (packetAt frame info index), reply, second⟩]) second :=
    blockStage_push fits rfl sound current (by simp) rfl within (opened_new fits absent index)
  obtain ⟨second, reply, taken, stage⟩ := opening
  have keep : ∀ past current input, BlockStage frame info window.policy startUs past current →
      input.PartOf frame info window.policy startUs → ∃ next reply, current.step input = some (next, reply) ∧
        BlockStage frame info window.policy startUs (past ++ [⟨current, input, reply, next⟩]) next :=
    fun past current input held part => held.step fits part
  obtain ⟨later, last, made, final⟩ := tryCalls_of_keep keep
    (List.forall_mem_cons.mp block.parts).2 stage
  obtain ⟨_, _, seen, pushed, stages⟩ := final
  have traced : tryCalls ReceiverWindow.step window (.push startUs (packetAt frame info index) :: rest) =
      some (⟨window, .push startUs (packetAt frame info index), reply, second⟩ :: later, last) :=
    tryCalls_cons taken made
  have covers : Covers frame seen := by
    intro other inside
    obtain ⟨time, member⟩ := block.whole _ (mem_sentPackets_iff.mpr ⟨other, inside, rfl⟩)
    refine pushed other inside time ?_
    rw [List.nil_append, List.singleton_append, (Run.of_tryCalls traced).2]
    exact member
  refine ⟨_, last, traced, ?_⟩
  rcases stages with ⟨_, latest, delivered⟩ | ⟨missing, _, _⟩
  · exact ⟨delivered, latest⟩
  · exact absurd covers missing

/-- At a window that is past the frame, a block delivers nothing. -/
theorem block_discarded (sound : window.Sound) (behind : window.late info.frameId = true)
    (block : FrameBlock frame info policy startUs inputs) :
    ∃ calls after, tryCalls ReceiverWindow.step window inputs = some (calls, after) ∧ readyFrames calls = [] := by
  have keep : ∀ past (current : ReceiverWindow) input,
      (current.Sound ∧ current.late info.frameId = true ∧ readyFrames past = []) →
      input.PartOf frame info policy startUs → ∃ next reply, current.step input = some (next, reply) ∧
        (next.Sound ∧ next.late info.frameId = true ∧ readyFrames (past ++ [⟨current, input, reply, next⟩]) = []) := by
    rintro past current input ⟨soundNow, late, quiet⟩ part
    cases input with
    | tick nowUs =>
      refine ⟨current.expired nowUs, .ok (current.expiryEvents nowUs),
        by simp [ReceiverWindow.step, tick, soundNow.expire_eq],
        soundNow.expired nowUs, late, ?_⟩
      rw [readyFrames_append, quiet, ready, events, expiryEvents_ready, List.append_nil]
    | push nowUs =>
      obtain ⟨_, within, rfl⟩ := mem_sentPackets_iff.mp part.1
      obtain ⟨_, _, taken, outcome⟩ :=
        soundNow.push_outcome nowUs (packetAt_wellFormed fits info within).valid
      obtain ⟨rfl, rfl⟩ := outcome.of_late late
      refine ⟨_, _, taken, soundNow.expired nowUs, late, ?_⟩
      rw [readyFrames_append, quiet, ready, events, expiryEvents_ready, List.append_nil]
  have start : window.Sound ∧ window.late info.frameId = true ∧ readyFrames [] = [] := ⟨sound, behind, rfl⟩
  obtain ⟨calls, last, made, _, _, quiet⟩ := tryCalls_of_keep keep block.parts start
  exact ⟨calls, last, made, by simpa using quiet⟩

end

end ClassMesh
