import ClassMesh.Network.WindowRuns

namespace ClassMesh

open Std Foundation ReceiverWindow

/-- Any traffic that `decode_datagram` lets through. -/
def WindowInput.WellFormed : WindowInput → Prop
  | .push _ packet => packet.WellFormed
  | .tick _ => True

variable {input : WindowInput}

theorem WindowInput.WellFormed.valid (formed : input.WellFormed) : input.Valid := by
  cases input with
  | push => exact MediaPacket.WellFormed.valid formed
  | tick => trivial

section EntryLog

/-- The part of a log that belongs to the entry which a push at this time finds or makes: all of it, unless
there is no entry or it has become stale. -/
def keptLog (window : ReceiverWindow) (nowUs : Nat) (frameId : UInt64) (log : List MediaPacket) : List MediaPacket :=
  if window.inflight[frameId]?.any fun frame => !frame.stale window.policy nowUs then log else []

/-- How a call changes the list of packets accepted for a frame since its current entry was created. -/
def logStep (frameId : UInt64) (log : List MediaPacket) (call : WindowCall) : List MediaPacket :=
  match call.input with
  | .tick _ => if call.after.inflight.contains frameId then log else []
  | .push nowUs packet =>
    if packet.header.frameId = frameId then
      let kept := keptLog call.before nowUs frameId log
      if call.reply.isOk && !call.before.late frameId then kept ++ [packet] else kept
    else if call.after.inflight.contains frameId then log else []

def entryLog (frameId : UInt64) (past : List WindowCall) : List MediaPacket := past.foldl (logStep frameId) []

/-- The first payload accepted for a packet index. -/
def firstPayload (log : List MediaPacket) (index : Nat) : Option (List UInt8) :=
  (log.find? fun packet => packet.header.packetIndex.toNat = index).map (·.payload)

variable {log : List MediaPacket} {packet : MediaPacket} {assembler : FrameAssembler}

theorem firstPayload_append_same {index : Nat}
    (other : packet.header.packetIndex.toNat ≠ index ∨ firstPayload log index ≠ none) :
    firstPayload (log ++ [packet]) index = firstPayload log index := by
  unfold firstPayload at other ⊢
  rw [List.find?_append]
  rcases other with different | held
  · simp [different]
  · cases found : log.find? (fun packet => packet.header.packetIndex.toNat = index) with
    | some => simp
    | none => simp [found] at held

theorem firstPayload_append_new (missing : firstPayload log packet.header.packetIndex.toNat = none) :
    firstPayload (log ++ [packet]) packet.header.packetIndex.toNat = some packet.payload := by
  unfold firstPayload at missing ⊢
  rw [List.find?_append, Option.map_eq_none_iff.mp missing]
  simp

/-- The slots of an assembler hold exactly the first payloads of a log. -/
def Records (assembler : FrameAssembler) (log : List MediaPacket) : Prop :=
  ∀ index < assembler.packets.length, assembler.packets[index]? = some (firstPayload log index)

theorem records_fromFirst (packet : MediaPacket) : Records (.fromFirst packet) [] := by
  intro index within
  simp only [FrameAssembler.fromFirst, List.length_replicate] at within
  simp [FrameAssembler.fromFirst, within, firstPayload]

theorem Records.push {next : FrameAssembler} (records : Records assembler log)
    (accepted : assembler.push packet = some (.ok next)) : Records next (log ++ [packet]) := by
  intro index within
  obtain ⟨_, ⟨empty, rfl⟩ | ⟨held, rfl⟩⟩ := FrameAssembler.push_ok_cases accepted
  · have here := (List.getElem?_eq_some_iff.mp empty).1
    have missing := Option.some.inj ((records _ here).symm.trans empty)
    simp only [List.length_set] at within
    by_cases same : packet.header.packetIndex.toNat = index
    · subst same
      simp [within, firstPayload_append_new missing]
    · rw [List.getElem?_set_ne same, records index within, firstPayload_append_same (.inl same)]
  · have here := (List.getElem?_eq_some_iff.mp held).1
    have first := Option.some.inj ((records _ here).symm.trans held)
    rw [records index within, firstPayload_append_same]
    by_cases same : packet.header.packetIndex.toNat = index
    · subst same
      exact .inr (by simp [first])
    · exact .inl same

/-- A complete assembler holds a payload for every index, and its frame is their concatenation. -/
theorem Records.assembled (records : Records assembler log) (sound : assembler.Sound)
    (complete : assembler.isComplete = true) :
    ∃ payloads : List (List UInt8),
      (List.range assembler.packets.length).map (firstPayload log) = payloads.map some ∧
      (ReceiverWindow.assembled assembler).data = payloads.flatten := by
  have all := List.all_eq_true.mp (sound.isComplete_iff.mp complete)
  have slots : assembler.packets = (List.range assembler.packets.length).map (firstPayload log) := by
    refine List.ext_getElem? fun index => ?_
    by_cases within : index < assembler.packets.length
    · rw [records index within]
      simp [within]
    · simp [within]
  exact ⟨assembler.packets.filterMap id, by
    rw [← slots, List.map_filterMap_some_eq_filter_map_isSome, List.map_id, List.filter_eq_self.mpr all], rfl⟩

section Call

variable {window : ReceiverWindow} {nowUs : Nat} {packet : MediaPacket}
  {log : List MediaPacket}

theorem records_opened
    (records : ∀ frame, window.inflight[packet.header.frameId]? = some frame → Records frame.assembler log)
    {frame : InflightFrame} (entry : (window.opened nowUs packet).inflight[packet.header.frameId]? = some frame) :
    Records frame.assembler (keptLog window nowUs packet.header.frameId log) := by
  rw [opened, entered_getElem?_self, Option.some.injEq, expired_getElem?] at entry
  unfold keptLog
  cases before : window.inflight[packet.header.frameId]? with
  | none =>
    rw [before] at entry
    subst entry
    simpa using records_fromFirst packet
  | some previous =>
    rw [before] at entry
    by_cases gone : previous.stale window.policy nowUs = true
    · simp only [Option.filter_some, gone, Bool.not_true, Bool.false_eq_true, if_false, Option.map_none,
        Option.getD_none] at entry
      subst entry
      simpa [gone] using records_fromFirst packet
    · simp only [Option.filter_some, gone, Bool.not_false, if_true, Option.map_some, Option.getD_some] at entry
      subst entry
      simpa [gone] using records previous before

end Call

theorem entryLog_append (frameId : UInt64) (past : List WindowCall) (call : WindowCall) :
    entryLog frameId (past ++ [call]) = logStep frameId (entryLog frameId past) call := by
  simp [entryLog]

/-- What every entry holds is the first payload accepted for each index since the entry was made. -/
theorem records_of_run {initial final : ReceiverWindow} {past : List WindowCall} (fresh : initial.inflight = ∅)
    (sound : initial.Sound) (run : Run (Partial ReceiverWindow.step) initial past final)
    (valid : ∀ call ∈ past, call.input.Valid) :
    ∀ (frameId : UInt64) (frame : InflightFrame), final.inflight[frameId]? = some frame →
      Records frame.assembler (entryLog frameId past) := by
  induction run with
  | start => simp [fresh]
  | @next past current input reply after previous taken ih =>
    have validPast : ∀ call ∈ past, call.input.Valid := forall_of_append valid
    have validNow := valid _ List.mem_concat_self
    have soundNow := sound_of_run sound previous validPast
    have records := ih validPast
    intro frameId frame stored
    have present : after.inflight.contains frameId = true := by
      exact ExtTreeMap.contains_iff_mem.mpr (BTreeMap.mem_of_getElem? stored)
    rw [entryLog_append]
    rcases soundNow.step_cases validNow taken with ⟨_, rfl, rfl, rfl⟩ | ⟨_, packet, rfl, _, outcome⟩
    · obtain ⟨old, before, _, rfl⟩ := expired_eq_some_iff.mp stored
      simpa only [logStep, present, if_true, InflightFrame.nacked_assembler] using records frameId old before
    · by_cases same : packet.header.frameId = frameId
      · subst same
        simp only [logStep, if_true]
        cases outcome with
        | late behind =>
          obtain ⟨_, before, _⟩ := expired_eq_some_iff.mp stored
          exact absurd behind (by simp [(soundNow.held _ _ before).current])
        | rejected ahead entry =>
          cases Option.some.inj (entry.symm.trans stored)
          exact records_opened (records _) entry
        | stored ahead entry pushed =>
          rw [ExtTreeMap.getElem?_insert_self, Option.some.injEq] at stored
          subst stored
          simpa [ahead, Except.isOk, Except.toBool] using (records_opened (records _) entry).push pushed
        | delivered => simp at stored
      · obtain ⟨old, before, _, rfl⟩ := outcome.other_entry (Ne.symm same) stored
        simpa only [logStep, if_neg same, present, if_true, InflightFrame.nacked_assembler] using
          records frameId old before

end EntryLog

/-- The frame delivered by `call` is the concatenation, in index order, of the first payload accepted for each
index since the frame's current entry was made. -/
def FirstPayloads (past : List WindowCall) (call : WindowCall) (frame : AssembledFrame) : Prop :=
  ∃ (nowUs : Nat) (packet : MediaPacket) (payloads : List (List UInt8)),
    call.input = .push nowUs packet ∧ packet.header.frameId = frame.frameId ∧
    (List.range packet.header.packetCount.toNat).map (firstPayload (entryLog frame.frameId (past ++ [call]))) =
      payloads.map some ∧
    frame.data = payloads.flatten

/-- What holds of a window built with `policy` after the calls `past`, whatever the packets. -/
structure WindowSafe (policy : ReceiverPolicy) (past : List WindowCall) (window : ReceiverWindow) : Prop where
  noPanic : ∀ input : WindowInput, input.WellFormed → (window.step input).isSome = true
  bounded : window.inflight.size ≤ policy.maxInflightFrames
  newer : ∀ frameId : UInt64, frameId ∈ window.inflight → ∀ frame ∈ readyFrames past, frame.frameId < frameId
  increasing : ((readyFrames past).map (·.frameId)).Pairwise (· < ·)
  payloads : ∀ earlier call later frame, past = earlier ++ call :: later → frame ∈ WindowCall.ready call →
    FirstPayloads earlier call frame

/-- A delivered frame is made of the payloads that came first for each of its indices since its entry was made. Copies
that came later, with whatever content, are not in it. -/
theorem first_payloads {initial before after : ReceiverWindow} {past : List WindowCall} {reply : WindowReply}
    (fresh : initial.inflight = ∅) (sound : initial.Sound)
    (run : Run (Partial ReceiverWindow.step) initial past before) (valid : ∀ old ∈ past, old.input.Valid)
    (validNow : input.Valid) (taken : Partial ReceiverWindow.step before input reply after) {frame : AssembledFrame}
    (ready : frame ∈ WindowCall.ready ⟨before, input, reply, after⟩) :
    FirstPayloads past ⟨before, input, reply, after⟩ frame := by
  have soundNow := sound_of_run sound run valid
  rcases soundNow.step_cases validNow taken with ⟨nowUs, rfl, rfl, rfl⟩ | ⟨nowUs, packet, rfl, good, outcome⟩
  · exact absurd ready (by simp [WindowCall.ready, WindowCall.events, expiryEvents_ready])
  · cases outcome with
    | late => exact absurd ready (by simp [WindowCall.ready, WindowCall.events, expiryEvents_ready])
    | rejected => exact absurd ready (by simp [WindowCall.ready, WindowCall.events])
    | stored => exact absurd ready (by simp [WindowCall.ready, WindowCall.events, openingEvents_ready])
    | @delivered held assembler ahead entry pushed complete =>
      have only : frame = assembled assembler := by
        simpa [WindowCall.ready, WindowCall.events, openingEvents_ready, readyFrame] using ready
      have slots := records_opened (records_of_run fresh sound run valid _) entry
      have whole := ((soundNow.opened nowUs good ahead).held _ _ entry).sound.push pushed
      obtain ⟨payloads, all, data⟩ := (slots.push pushed).assembled whole complete
      have own : packet.header.frameId = assembler.frameId ∧
          packet.header.packetCount.toNat = assembler.packets.length := by
        obtain ⟨fits, ⟨_, rfl⟩ | ⟨_, rfl⟩⟩ := FrameAssembler.push_ok_cases pushed
        · exact ⟨fits.frame, by simpa using fits.count⟩
        · exact ⟨fits.frame, fits.count⟩
      subst only
      refine ⟨nowUs, packet, payloads, rfl, own.1, ?_, data⟩
      rw [← all, own.2, entryLog_append]
      simp [logStep, assembled, ← own.1, ahead, Except.isOk, Except.toBool]

/-- The reassembly window is safe against arbitrary traffic. Nothing is assumed of the packets but that their headers
are well formed; they need not come from one sender or fit together. -/
theorem window_safe {policy : ReceiverPolicy} {initial final : ReceiverWindow} {past : List WindowCall}
    (made : ReceiverWindow.new policy = some initial) (run : Run (Partial ReceiverWindow.step) initial past final)
    (formed : ∀ call ∈ past, call.input.WellFormed) : WindowSafe policy past final := by
  have sound := new_sound made
  have valid : ∀ call ∈ past, call.input.Valid := fun call member => (formed call member).valid
  have start := new_eq made
  have fresh : initial.inflight = ∅ := by rw [start]
  have soundNow := sound_of_run sound run valid
  obtain ⟨increasing, below⟩ := delivered_increasing sound run valid
  refine ⟨fun input good => soundNow.step_isSome good.valid, ?_, ?_, increasing, ?_⟩
  · have bounded := soundNow.bounded
    rwa [policy_of_run sound run valid, start] at bounded
  · intro frameId member frame delivered
    obtain ⟨held, stored⟩ := Option.isSome_iff_exists.mp (ExtTreeMap.isSome_getElem?_iff_mem.mpr member)
    obtain ⟨latest, atLatest, le⟩ := late_iff.mp (below frame delivered)
    exact UInt64.lt_of_le_of_lt le (not_late_iff.mp (soundNow.held _ _ stored).current latest atLatest)
  · intro earlier call later frame cut ready
    obtain ⟨reached, taken, _⟩ := run.split cut
    exact first_payloads fresh sound reached (fun old member => valid old (by simp [cut, member]))
      (valid call (by simp [cut])) taken ready

/-- A one-packet frame, as any sender could forge it. -/
def lonePacket (frameId : UInt64) (payload : List UInt8) : MediaPacket where
  header := ⟨0, 4, .none, 7, frameId, 0, 0, 1, 0, UInt16.ofNat payload.length⟩
  payload := payload

/-- Two frames are delivered, and a tick and a late packet in between change nothing. -/
theorem window_safe_two_frames : ∃ past final,
    Run (Partial ReceiverWindow.step) { policy := {} } past final ∧
      (readyFrames past).map (·.data) = [[1, 2], [3]] ∧ WindowSafe {} past final := by
  have traced : (tryCalls ReceiverWindow.step { policy := {} } [.push 10 (lonePacket 5 [1, 2]), .tick 20,
      .push 30 (lonePacket 4 [9]), .push 40 (lonePacket 6 [3])]).map
        (fun result => (readyFrames result.1).map (·.data)) = some [[1, 2], [3]] := by decide +kernel
  obtain ⟨past, final, run, inputs, shown⟩ := Run.of_traced traced
  refine ⟨past, final, run, shown, window_safe rfl run (forall_of_inputs inputs ?_)⟩
  simp only [List.forall_mem_cons, WindowInput.WellFormed]
  exact ⟨⟨by decide, by decide⟩, trivial, ⟨by decide, by decide⟩, ⟨by decide, by decide⟩, by simp⟩

end ClassMesh
