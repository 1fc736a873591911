import ClassMesh.Network.ProtectedMediaReceive

namespace ClassMesh

open Std Foundation ExtTreeMap

namespace ReceiverWindow

/-- The frame that an event reports as dropped. -/
def droppedFrame : ReceiverEvent → Option UInt64
  | .droppedStaleFrame _ frameId => some frameId
  | _ => none

/-- The frames that a call expires. -/
def expires (window : ReceiverWindow) : WindowInput → List UInt64
  | .push nowUs _ => (window.staleEntries nowUs).map Prod.fst
  | .tick nowUs => (window.staleEntries nowUs).map Prod.fst

/-- The frame that a call evicts to make room. -/
def evicts (window : ReceiverWindow) : WindowInput → Option UInt64
  | .push nowUs packet =>
    if window.late packet.header.frameId then none
    else ((window.expired nowUs).evictee packet.header.frameId).map Prod.fst
  | .tick _ => none

def removes (window : ReceiverWindow) (input : WindowInput) : List UInt64 :=
  window.expires input ++ (window.evicts input).toList

/-- The pushed packet is not behind the cut-off, and the assembler of the entry it finds, or is given, refuses it. -/
def Refuses (window : ReceiverWindow) : WindowInput → Prop
  | .push nowUs packet =>
    window.late packet.header.frameId = false ∧ ∃ frame error,
      (window.opened nowUs packet).inflight[packet.header.frameId]? = some frame ∧
        frame.assembler.push packet = some (.error error)
  | .tick _ => False

variable {window after : ReceiverWindow} {reply : WindowReply} {input : WindowInput} {events : List ReceiverEvent}

theorem filterMap_nackEvent_dropped (policy : ReceiverPolicy) (nowUs : Nat) (entries : List (UInt64 × InflightFrame)) :
    (entries.filterMap (nackEvent policy nowUs)).filterMap droppedFrame = [] := by
  rw [List.filterMap_eq_nil_iff]
  intro event member
  obtain ⟨_, _, asked⟩ := List.mem_filterMap.mp member
  unfold nackEvent at asked
  split at asked
  · cases asked
    rfl
  · cases asked

theorem expiryEvents_dropped (window : ReceiverWindow) (nowUs : Nat) :
    (window.expiryEvents nowUs).filterMap droppedFrame = (window.staleEntries nowUs).map Prod.fst := by
  have request : ((window.staleEntries nowUs).getLast?.map fun entry =>
      ReceiverEvent.needKeyframe entry.2.assembler.streamId entry.1).toList.filterMap droppedFrame = [] := by
    cases (window.staleEntries nowUs).getLast? with
    | none | some => rfl
  have drops : ((window.staleEntries nowUs).map dropEvent).filterMap droppedFrame =
      (window.staleEntries nowUs).map Prod.fst := by
    rw [List.filterMap_map, ← List.filterMap_eq_map]
    rfl
  rw [expiryEvents, List.filterMap_append, List.filterMap_append, filterMap_nackEvent_dropped, drops, request]
  simp

theorem openingEvents_dropped (window : ReceiverWindow) (nowUs : Nat) (packet : MediaPacket)
    (current : window.late packet.header.frameId = false) :
    (window.openingEvents nowUs packet).filterMap droppedFrame = window.removes (.push nowUs packet) := by
  rw [openingEvents, List.filterMap_append, expiryEvents_dropped]
  simp only [removes, expires, evicts, current, Bool.false_eq_true, if_false, List.append_cancel_left_eq]
  cases (window.expired nowUs).evictee packet.header.frameId with
  | none | some => rfl

theorem expired_droppedFrames (window : ReceiverWindow) (nowUs : Nat) :
    (window.expired nowUs).droppedFrames = saturatingAdd window.droppedFrames (window.staleEntries nowUs).length :=
  rfl

theorem opened_droppedFrames {nowUs : Nat} {packet : MediaPacket}
    (current : window.late packet.header.frameId = false) :
    (window.opened nowUs packet).droppedFrames =
      saturatingAdd window.droppedFrames (window.removes (.push nowUs packet)).length := by
  simp only [removes, expires, evicts, current, Bool.false_eq_true, if_false, List.length_append, List.length_map,
    ← saturatingAdd_add, ← expired_droppedFrames]
  unfold opened entered
  split
  · rename_i present
    simp [evictee, present]
  · cases (window.expired nowUs).evictee packet.header.frameId with
    | none | some => simp

/-- Whatever becomes of the packet, the counter moves by the number of frames removed. -/
theorem Sound.step_dropped (sound : window.Sound) (valid : input.Valid)
    (taken : Partial step window input reply after) :
    after.droppedFrames = saturatingAdd window.droppedFrames (window.removes input).length := by
  rcases sound.step_cases valid taken with ⟨_, rfl, rfl, rfl⟩ | ⟨_, _, rfl, _, outcome⟩
  · simp [removes, expires, evicts, expired_droppedFrames]
  · cases outcome with
    | late behind => simp [removes, expires, evicts, behind, expired_droppedFrames]
    | rejected current => exact opened_droppedFrames current
    | stored current => exact opened_droppedFrames current
    | delivered current => exact opened_droppedFrames current

/-- The window answers with an error exactly for the packets that an assembler refuses. -/
theorem Sound.step_error_iff (sound : window.Sound) (valid : input.Valid)
    (taken : Partial step window input reply after) : (∃ error, reply = .error error) ↔ window.Refuses input := by
  rcases sound.step_cases valid taken with ⟨nowUs, rfl, _, rfl⟩ | ⟨nowUs, packet, rfl, _, outcome⟩
  · exact ⟨nofun, nofun⟩
  · have accepts {frame : InflightFrame} {next : FrameAssembler}
        (entry : (window.opened nowUs packet).inflight[packet.header.frameId]? = some frame)
        (accepted : frame.assembler.push packet = some (.ok next)) : ¬window.Refuses (.push nowUs packet) := by
      rintro ⟨_, _, _, found, refused⟩
      cases Option.some.inj (entry.symm.trans found)
      cases accepted.symm.trans refused
    cases outcome with
    | late behind => exact ⟨nofun, fun refuses => absurd (behind.symm.trans refuses.1) (by decide)⟩
    | @rejected frame error current entry refused =>
      exact ⟨fun _ => ⟨current, frame, error, entry, refused⟩, fun _ => ⟨error, rfl⟩⟩
    | stored _ entry accepted => exact ⟨nofun, fun refuses => absurd refuses (accepts entry accepted)⟩
    | delivered _ entry accepted => exact ⟨nofun, fun refuses => absurd refuses (accepts entry accepted)⟩

/-- A call that returns events reports every frame it removes, in order, and nothing else. -/
theorem Sound.step_announces (sound : window.Sound) (valid : input.Valid)
    (taken : Partial step window input (.ok events) after) : events.filterMap droppedFrame = window.removes input := by
  rcases sound.step_cases valid taken with ⟨nowUs, rfl, _, returned⟩ | ⟨nowUs, packet, rfl, _, outcome⟩
  · cases returned
    simp [expiryEvents_dropped, removes, expires, evicts]
  · cases outcome with
    | late behind => simp [expiryEvents_dropped, removes, expires, evicts, behind]
    | stored current => exact openingEvents_dropped window nowUs packet current
    | delivered current =>
      rw [List.filterMap_append, openingEvents_dropped window nowUs packet current]
      simp [droppedFrame]

/-- A call that returns events asks for a keyframe if it expires anything. -/
theorem Sound.step_requests (sound : window.Sound) (valid : input.Valid)
    (taken : Partial step window input (.ok events) after) (some' : window.expires input ≠ []) :
    ∃ streamId frameId, ReceiverEvent.needKeyframe streamId frameId ∈ events := by
  have asked {nowUs : Nat} (gone : (window.staleEntries nowUs).map Prod.fst ≠ []) :
      ∃ streamId frameId, ReceiverEvent.needKeyframe streamId frameId ∈ window.expiryEvents nowUs := by
    cases last : (window.staleEntries nowUs).getLast? with
    | none => exact absurd (congrArg (List.map Prod.fst) (List.getLast?_eq_none_iff.mp last)) gone
    | some entry => exact ⟨entry.2.assembler.streamId, entry.1, by simp [expiryEvents, last]⟩
  rcases sound.step_cases valid taken with ⟨_, rfl, _, returned⟩ | ⟨_, _, rfl, _, outcome⟩
  · cases returned
    exact asked some'
  · obtain ⟨streamId, frameId, member⟩ := asked some'
    refine ⟨streamId, frameId, ?_⟩
    cases outcome with
    | late => exact member
    | stored => exact List.mem_append_left _ member
    | delivered => exact List.mem_append_left _ (List.mem_append_left _ member)

theorem removes_nodup (window : ReceiverWindow) (input : WindowInput) : (window.removes input).Nodup := by
  have stale (nowUs : Nat) : ((window.staleEntries nowUs).map Prod.fst).Nodup := by
    refine List.Nodup.sublist (List.filter_sublist.map Prod.fst) ?_
    rw [map_fst_toList_eq_keys]
    exact nodup_keys
  cases input with
  | tick nowUs => simpa [removes, expires, evicts] using stale nowUs
  | push nowUs packet =>
    refine List.nodup_append.mpr ⟨stale nowUs, ?_, ?_⟩
    · cases window.evicts (.push nowUs packet) <;> simp
    · rintro gone member evicted chosen rfl
      obtain ⟨_, isStale, rfl⟩ := List.mem_map.mp member
      obtain ⟨listed, old⟩ := List.mem_filter.mp isStale
      have stored := mem_toList_iff_getElem?_eq_some.mp listed
      simp only [evicts, Option.mem_toList] at chosen
      split at chosen
      · cases chosen
      · obtain ⟨_, found, same⟩ := Option.map_eq_some_iff.mp chosen
        obtain ⟨_, before, live, _⟩ := expired_eq_some_iff.mp (evictee_mem found)
        rw [same, stored, Option.some.injEq] at before
        rw [← before, old] at live
        cases live

theorem length_staleEntries_add_size (window : ReceiverWindow) (nowUs : Nat) :
    (window.staleEntries nowUs).length + (window.expired nowUs).inflight.size = window.inflight.size := by
  rw [expired, size_map, ← length_toList, ← length_toList, toList_filter]
  exact (List.length_eq_length_filter_add _).symm

theorem length_evictee_add_size (window : ReceiverWindow) (nowUs : Nat) (packet : MediaPacket) :
    (window.evictee packet.header.frameId).toList.length + (window.entered nowUs packet).inflight.size ≤
      window.inflight.size + 1 := by
  unfold entered
  split
  · rename_i present
    simp [evictee, present]
  · cases evicted : window.evictee packet.header.frameId with
    | none => simpa using size_insert_le
    | some oldest =>
      have held := evictee_mem evicted
      have smaller := BTreeMap.size_erase_of_getElem? held
      have positive := List.length_pos_of_mem (mem_toList_iff_getElem?_eq_some.mpr held)
      rw [length_toList] at positive
      have grown : ((window.inflight.erase oldest.1).insert packet.header.frameId
          ⟨nowUs, none, .fromFirst packet⟩).size ≤ (window.inflight.erase oldest.1).size + 1 :=
        size_insert_le
      simp only [Option.toList_some, List.length_singleton, Option.elim_some]
      omega

/-- A call makes at most one entry, so a long count of removals needs as many calls. -/
theorem Sound.step_room (sound : window.Sound) (valid : input.Valid) (taken : Partial step window input reply after) :
    (window.removes input).length + after.inflight.size ≤ window.inflight.size + 1 := by
  rcases sound.step_cases valid taken with ⟨nowUs, rfl, rfl, rfl⟩ | ⟨nowUs, packet, rfl, _, outcome⟩
  · have kept := length_staleEntries_add_size window nowUs
    simp only [removes, expires, evicts, Option.toList_none, List.append_nil, List.length_map]
    omega
  · have kept := length_staleEntries_add_size window nowUs
    have opens (current : window.late packet.header.frameId = false) :
        (window.removes (.push nowUs packet)).length + (window.opened nowUs packet).inflight.size ≤
          window.inflight.size + 1 := by
      have grown := length_evictee_add_size (window.expired nowUs) nowUs packet
      simp only [removes, expires, evicts, current, Bool.false_eq_true, if_false, List.length_append, List.length_map,
        Option.toList_map, ReceiverWindow.opened]
      omega
    cases outcome with
    | late behind =>
      simp only [removes, expires, evicts, behind, if_true, Option.toList_none, List.append_nil, List.length_map]
      omega
    | rejected current => exact opens current
    | stored current entry => simpa only [BTreeMap.size_insert_of_getElem? entry] using opens current
    | delivered current entry =>
      refine Nat.le_trans (Nat.add_le_add_left ?_ _) (opens current)
      refine size_filter_le_size.trans (size_erase_le.trans ?_)
      rw [BTreeMap.size_insert_of_getElem? entry]

end ReceiverWindow

namespace ProtectedMediaReceiveBatch

theorem foldl_add_droppedStaleFrames (events : List ReceiverEvent) (batch : ProtectedMediaReceiveBatch) :
    (events.foldl add batch).droppedStaleFrames =
      batch.droppedStaleFrames + (events.filterMap ReceiverWindow.droppedFrame).length := by
  induction events generalizing batch with
  | nil => rfl
  | cons event rest ih =>
    rw [List.foldl_cons, ih]
    cases event with
    | frameReady | needNack =>
      simp only [add, ReceiverWindow.droppedFrame]
      split <;> rfl
    | needKeyframe => rfl
    | droppedStaleFrame =>
      simp [add, ReceiverWindow.droppedFrame, Nat.add_assoc, Nat.add_comm 1]

theorem add_feedback_subset (batch : ProtectedMediaReceiveBatch) (event : ReceiverEvent) :
    batch.feedback ⊆ (batch.add event).feedback := by
  cases event with
  | frameReady =>
    simp only [add]
    split <;> exact List.Subset.refl _
  | needNack =>
    simp only [add]
    split
    · exact List.Subset.refl _
    · exact List.subset_append_left _ _
  | needKeyframe => exact List.subset_append_left _ _
  | droppedStaleFrame => exact List.Subset.refl _

theorem foldl_add_feedback {streamId : UInt32} {frameId : UInt64} (events : List ReceiverEvent)
    (batch : ProtectedMediaReceiveBatch)
    (asked : .requestKeyframe streamId frameId ∈ batch.feedback ∨ .needKeyframe streamId frameId ∈ events) :
    .requestKeyframe streamId frameId ∈ (events.foldl add batch).feedback := by
  induction events generalizing batch with
  | nil => simpa using asked
  | cons event rest ih =>
    refine ih (batch.add event) ?_
    rcases asked with already | member
    · exact .inl (add_feedback_subset batch event already)
    · rcases List.mem_cons.mp member with rfl | later
      · exact .inl (by simp [add])
      · exact .inr later

end ProtectedMediaReceiveBatch

namespace ReceiveCall

/-- The frames that the window expired in this call. -/
def expired (call : ReceiveCall) : List UInt64 :=
  (call.before.windowInput call.input).elim [] call.before.receiver.expires

/-- The frames that the window expired or evicted in this call. -/
def removed (call : ReceiveCall) : List UInt64 :=
  (call.before.windowInput call.input).elim [] call.before.receiver.removes

/-- The frames of the `DroppedStaleFrame` events that the window returned in this call. -/
def announced (call : ReceiveCall) : List UInt64 :=
  match (call.before.windowInput call.input).bind call.before.receiver.step with
  | some (_, .ok events) => events.filterMap ReceiverWindow.droppedFrame
  | _ => []

/-- Every frame removed in the call is reported by it, once, and an expiry asks for a keyframe. -/
structure SurfacesDrops (call : ReceiveCall) : Prop where
  counted : call.reply.droppedStaleFrames = call.removed.length
  announces : call.announced = call.removed
  once : call.removed.Nodup
  keyframe : call.expired ≠ [] → ∃ streamId frameId, .requestKeyframe streamId frameId ∈ call.reply.feedback

/-- The state before the call holds, for a packet that passes the checks, both an assembler that refuses it and a frame
that the call removes first. -/
def Swallows (call : ReceiveCall) : Prop :=
  ∃ forward, call.before.windowInput call.input = some forward ∧ call.before.receiver.Refuses forward ∧
    call.before.receiver.removes forward ≠ []

end ReceiveCall

open ReceiveCall (removed Swallows SurfacesDrops announced)

def StatsExact (past : List ReceiveCall) : Prop :=
  ∀ call ∈ past, call.after.stats.staleFramesDropped = call.after.droppedFrames

section Telemetry

open ProtectedMediaReceiveState

variable {state after : ProtectedMediaReceiveState} {input : ReceiveInput} {reply : ProtectedMediaReceiveOutcome}
  {initial final : ProtectedMediaReceiveState} {past : List ReceiveCall}

section

variable (sound : state.receiver.Sound) (valid : input.Valid) (taken : Partial step state input reply after)

include sound valid taken

/-- The window's counter moves by what was removed and the statistics by what was reported. -/
theorem step_counters : after.droppedFrames =
        saturatingAdd state.droppedFrames (removed ⟨state, input, reply, after⟩).length ∧
      after.stats.staleFramesDropped = saturatingAdd state.stats.staleFramesDropped reply.droppedStaleFrames := by
  cases step_outcome taken with
  | refused reached same => simp [droppedFrames, removed, reached, same,
      ProtectedMediaReceiveOutcome.droppedStaleFrames]
  | forwarded reached forwarded counted =>
    refine ⟨?_, counted⟩
    simpa only [droppedFrames, removed, reached, Option.elim_some] using
      sound.step_dropped (windowInput_valid valid reached) forwarded

/-- In such a call, and in no other, the packet is rejected by assembly after a removal. -/
theorem swallows_iff : Swallows ⟨state, input, reply, after⟩ ↔
      (∃ error, reply = .dropped (.assembly error)) ∧ removed ⟨state, input, reply, after⟩ ≠ [] := by
  cases step_outcome taken with
  | @refused reason stats reached _ other =>
    refine ⟨?_, ?_⟩
    · rintro ⟨_, passed, _⟩
      cases reached.symm.trans passed
    · rintro ⟨⟨error, rejected⟩, _⟩
      exact absurd (ProtectedMediaReceiveOutcome.dropped.inj rejected) (other error)
  | @forwarded forward window answer stats reached done =>
    have refuses := sound.step_error_iff (windowInput_valid valid reached) done
    have errors : (∃ error, ProtectedMediaReceiveOutcome.ofReply answer = .dropped (.assembly error)) ↔
        ∃ error, answer = .error error := by
      cases answer <;> simp [ProtectedMediaReceiveOutcome.ofReply]
    simp only [Swallows, removed, reached, Option.some.injEq, exists_eq_left',
      Option.elim_some, errors, refuses]

/-- A call that swallows nothing surfaces every drop it makes: each removed frame is announced once, and an expiry comes
with a keyframe request. -/
theorem surfaces_of_not_swallows (kept : ¬Swallows ⟨state, input, reply, after⟩) :
    SurfacesDrops ⟨state, input, reply, after⟩ := by
  rw [swallows_iff sound valid taken] at kept
  cases step_outcome taken with
  | refused reached =>
    refine ⟨?_, ?_, ?_, ?_⟩ <;>
      simp [removed, announced, ReceiveCall.expired, reached,
        ProtectedMediaReceiveOutcome.droppedStaleFrames]
  | @forwarded forward window answer stats reached forwarded =>
    have validForward := windowInput_valid valid reached
    have gone : removed ⟨state, input, .ofReply answer, { state with receiver := window, stats := stats }⟩ =
        state.receiver.removes forward := by simp [removed, reached]
    cases answer with
    | error error =>
      have nothing : state.receiver.removes forward = [] := by
        by_contra some'
        exact kept ⟨⟨error, rfl⟩, by rwa [gone]⟩
      have noExpiry : state.receiver.expires forward = [] := (List.append_eq_nil_iff.mp nothing).1
      have returned : state.receiver.step forward = some (window, .error error) := forwarded
      refine ⟨by rw [gone, nothing]; rfl, ?_, by rw [gone, nothing]; exact List.nodup_nil, ?_⟩
      · rw [gone, nothing]
        simp [announced, reached, returned]
      · simp [ReceiveCall.expired, reached, noExpiry]
    | ok events =>
      have told := sound.step_announces validForward forwarded
      have returned : state.receiver.step forward = some (window, .ok events) := forwarded
      refine ⟨?_, ?_, by rw [gone]; exact state.receiver.removes_nodup forward, ?_⟩
      · rw [gone, ← told]
        exact (ProtectedMediaReceiveBatch.foldl_add_droppedStaleFrames events {}).trans (Nat.zero_add _)
      · rw [gone, ← told]
        simp [announced, reached, returned]
      · intro some'
        simp only [ReceiveCall.expired, reached, Option.elim_some] at some'
        obtain ⟨streamId, frameId, asked⟩ := sound.step_requests validForward forwarded some'
        exact ⟨streamId, frameId, ProtectedMediaReceiveBatch.foldl_add_feedback events {} (.inr asked)⟩

theorem not_surfaces_of_swallows (swallows : Swallows ⟨state, input, reply, after⟩) :
    ¬SurfacesDrops ⟨state, input, reply, after⟩ := by
  obtain ⟨⟨_, rejected⟩, some'⟩ := (swallows_iff sound valid taken).mp swallows
  intro surfaces
  have counted := surfaces.counted
  rw [rejected] at counted
  exact some' (List.length_eq_zero_iff.mp counted.symm)

theorem step_removed_room : (removed ⟨state, input, reply, after⟩).length + after.receiver.inflight.size ≤
      state.receiver.inflight.size + 1 := by
  cases step_outcome taken with
  | refused reached => simp [removed, reached]
  | forwarded reached forwarded =>
    simpa only [removed, reached, Option.elim_some] using
      sound.step_room (windowInput_valid valid reached) forwarded

end

/-- Every frame counted as dropped or still held was entered by a call of its own. -/
theorem dropped_le_calls (sound : initial.receiver.Sound) (empty : initial.receiver.inflight = ∅)
    (zero : initial.droppedFrames = 0) (run : Run (Partial step) initial past final)
    (valid : ∀ call ∈ past, call.input.Valid) :
    final.droppedFrames.toNat + final.receiver.inflight.size ≤ past.length := by
  induction run with
  | start => simp [zero, empty]
  | @next past current input reply after previous taken ih =>
    have validPast : ∀ call ∈ past, call.input.Valid := forall_of_append valid
    have validNow := valid _ List.mem_concat_self
    have soundNow := receiver_sound_of_run sound previous validPast
    have bound := ih validPast
    have room := step_removed_room soundNow validNow taken
    rw [(step_counters soundNow validNow taken).1, saturatingAdd_toNat, List.length_append, List.length_singleton]
    omega

theorem StatsExact.final_eq (exact' : StatsExact past)
    (start : initial.stats.staleFramesDropped = initial.droppedFrames) (run : Run (Partial step) initial past final) :
    final.stats.staleFramesDropped = final.droppedFrames := by
  cases run with
  | start => exact start
  | next => exact exact' _ List.mem_concat_self

theorem statsExact_of_surfaces (sound : initial.receiver.Sound)
    (start : initial.stats.staleFramesDropped = initial.droppedFrames) (run : Run (Partial step) initial past final)
    (valid : ∀ call ∈ past, call.input.Valid) (surfaces : ∀ call ∈ past, call.SurfacesDrops) : StatsExact past := by
  induction run with
  | start => simp [StatsExact]
  | @next past current input reply after previous taken ih =>
    have validPast : ∀ call ∈ past, call.input.Valid := forall_of_append valid
    have last := List.mem_append_right past (List.mem_singleton_self (⟨current, input, reply, after⟩ : ReceiveCall))
    have exactPast := ih validPast (forall_of_append surfaces)
    have soundNow := receiver_sound_of_run sound previous validPast
    obtain ⟨dropped, counted⟩ := step_counters soundNow (valid _ last) taken
    refine forall_mem_concat exactPast ?_
    rw [dropped, counted, (surfaces _ last).counted, exactPast.final_eq start previous]

/-- The call that loses its events separates the two counters. -/
theorem not_swallows_of_statsExact (sound : initial.receiver.Sound) (empty : initial.receiver.inflight = ∅)
    (zero : initial.droppedFrames = 0) (start : initial.stats.staleFramesDropped = initial.droppedFrames)
    (run : Run (Partial step) initial past final) (valid : ∀ call ∈ past, call.input.Valid)
    (short : past.length < 2 ^ 64) (exact' : StatsExact past) {call : ReceiveCall} (member : call ∈ past) :
    ¬call.Swallows := by
  intro swallows
  obtain ⟨earlier, later, cut, reached, taken, _⟩ := run.of_mem member
  have validPast : ∀ old ∈ earlier, old.input.Valid := fun old before => valid old (by simp [cut, before])
  have soundNow := receiver_sound_of_run sound reached validPast
  obtain ⟨⟨_, rejected⟩, some'⟩ := (swallows_iff soundNow (valid call member) taken).mp swallows
  have before : call.before.stats.staleFramesDropped = call.before.droppedFrames :=
    StatsExact.final_eq (fun old done => exact' old (by simp [cut, done])) start reached
  obtain ⟨dropped, counted⟩ := step_counters soundNow (valid call member) taken
  have same := exact' call member
  rw [dropped, counted, rejected] at same
  rw [ProtectedMediaReceiveOutcome.droppedStaleFrames, saturatingAdd_zero, before] at same
  refine saturatingAdd_ne_self (List.length_pos_iff.mpr some') ?_ same.symm
  have bound := dropped_le_calls sound empty zero reached validPast
  have room := step_removed_room soundNow (valid call member) taken
  have length : past.length = earlier.length + (later.length + 1) := by simp [cut]
  have removedEq : (removed ⟨call.before, call.input, call.reply, call.after⟩).length =
      call.removed.length := rfl
  omega

end Telemetry

/-- The statistics agree with the window in every state, and equally every removed frame is reported by the
call that removed it, exactly in the runs where no packet meets an assembler that refuses it at a moment when a
frame is due to be expired or evicted. -/
theorem telemetry_exact_iff {expectedSender : IpAddr} {streamId : UInt32} {initial final : ProtectedMediaReceiveState}
    {past : List ReceiveCall} (made : ProtectedMediaReceiveState.new expectedSender streamId = some (.ok initial))
    (run : Run (Partial ProtectedMediaReceiveState.step) initial past final) (valid : ∀ call ∈ past, call.input.Valid)
    (short : past.length < 2 ^ 64) :
    (StatsExact past ↔ ∀ call ∈ past, ¬call.Swallows) ∧
      ((∀ call ∈ past, call.SurfacesDrops) ↔ ∀ call ∈ past, ¬call.Swallows) := by
  obtain ⟨sound, empty, zero, start⟩ : initial.receiver.Sound ∧ initial.receiver.inflight = ∅ ∧
      initial.droppedFrames = 0 ∧ initial.stats.staleFramesDropped = initial.droppedFrames := by
    unfold ProtectedMediaReceiveState.new at made
    split at made
    · cases made
    · obtain ⟨_, window, built⟩ := Option.map_eq_some_iff.mp made
      cases built
      exact ⟨ReceiverWindow.new_sound window, by cases window; exact ⟨rfl, rfl, rfl⟩⟩
  have each {call : ReceiveCall} (member : call ∈ past) : call.before.receiver.Sound ∧
      Partial ProtectedMediaReceiveState.step call.before call.input call.reply call.after := by
    obtain ⟨_, _, cut, reached, taken, _⟩ := run.of_mem member
    exact ⟨ProtectedMediaReceiveState.receiver_sound_of_run sound reached
      fun old before => valid old (by simp [cut, before]), taken⟩
  have surfaces (kept : ∀ call ∈ past, ¬call.Swallows) : ∀ call ∈ past, call.SurfacesDrops := fun call member =>
    surfaces_of_not_swallows (each member).1 (valid call member) (each member).2 (kept call member)
  refine ⟨⟨fun exact' call member => ?_, fun kept => ?_⟩, ⟨fun all call member => ?_, surfaces⟩⟩
  · exact not_swallows_of_statsExact sound empty zero start run valid short exact' member
  · exact statsExact_of_surfaces sound start run valid (surfaces kept)
  · exact fun swallows =>
      not_surfaces_of_swallows (each member).1 (valid call member) (each member).2 swallows (all call member)

/-- One packet of a frame of `packetCount` packets. -/
def fragment (frameId : UInt64) (packetIndex packetCount : UInt16) : MediaPacket where
  header := ⟨0, 4, .none, 7, frameId, 0, packetIndex, packetCount, 0, 1⟩
  payload := [9]

def fragmentSender : SocketAddr := ⟨.v4 10, 5000⟩

/-- Half a frame arrives and expires at the next tick: the drop is counted on both sides. -/
theorem telemetry_exact_iff_expiry : ∃ initial past final,
    ProtectedMediaReceiveState.new (.v4 10) 7 = some (.ok initial) ∧
      Run (Partial ProtectedMediaReceiveState.step) initial past final ∧ final.droppedFrames = 1 ∧
      StatsExact past ∧ ∀ call ∈ past, SurfacesDrops call := by
  have built : ProtectedMediaReceiveState.new (.v4 10) 7 = some (.ok ⟨.v4 10, 7, { policy := {} }, 0, 4, {}⟩) := rfl
  have traced : (tryCalls ProtectedMediaReceiveState.step ⟨.v4 10, 7, { policy := {} }, 0, 4, {}⟩
      [.pushPacket 0 (fragment 1 0 2) fragmentSender, .tick 80000]).map
        (fun result => (result.1.map (·.reply), result.2.droppedFrames)) =
      some ([.events {}, .events { feedback := [.requestKeyframe 7 1], droppedStaleFrames := 1 }], 1) := by
    decide +kernel
  obtain ⟨past, final, run, inputs, shown⟩ := Run.of_traced traced
  obtain ⟨replies, dropped⟩ := Prod.mk.inj shown
  have valid : ∀ call ∈ past, call.input.Valid := forall_of_inputs inputs (by decide)
  have window : ReceiverWindow.new {} = some { policy := {} } := rfl
  have kept : ∀ call ∈ past, ¬Swallows call := by
    intro call member swallows
    obtain ⟨_, _, cut, reached, taken, _⟩ := run.of_mem member
    have sound := ProtectedMediaReceiveState.receiver_sound_of_run (ReceiverWindow.new_sound window) reached
      fun old before => valid old (by simp [cut, before])
    obtain ⟨⟨_, rejected⟩, _⟩ := (swallows_iff sound (valid call member) taken).mp swallows
    have listed : call.reply ∈ past.map (·.reply) := List.mem_map_of_mem member
    rw [replies, rejected] at listed
    simp at listed
  have short : past.length < 2 ^ 64 := by
    have length := congrArg List.length replies
    simp only [List.length_map, List.length_cons, List.length_nil] at length
    omega
  obtain ⟨stats, surfaces⟩ := telemetry_exact_iff built run valid short
  exact ⟨_, past, final, built, run, dropped, stats.mpr kept, surfaces.mpr kept⟩

/-- Frame 1 expires in the call whose own packet contradicts the packet count of frame 2. The window has
dropped a frame, the statistics count none, and no keyframe is asked for. -/
theorem rejected_packet_hides_drop : ∃ initial past final,
    ProtectedMediaReceiveState.new (.v4 10) 7 = some (.ok initial) ∧
      Run (Partial ProtectedMediaReceiveState.step) initial past final ∧ (∀ call ∈ past, call.input.Valid) ∧
      past.map (·.reply) = [.events {}, .events { feedback := [.nack 7 1 [1]] },
        .dropped (.assembly .packetCountChanged)] ∧
      final.droppedFrames = 1 ∧ final.stats.staleFramesDropped = 0 := by
  have traced : (tryCalls ProtectedMediaReceiveState.step ⟨.v4 10, 7, { policy := {} }, 0, 4, {}⟩
      [.pushPacket 0 (fragment 1 0 2) fragmentSender, .pushPacket 50000 (fragment 2 0 2) fragmentSender,
        .pushPacket 80000 (fragment 2 0 3) fragmentSender]).map
        (fun result => (result.1.map (·.reply), result.2.droppedFrames, result.2.stats.staleFramesDropped)) =
      some ([.events {}, .events { feedback := [.nack 7 1 [1]] }, .dropped (.assembly .packetCountChanged)], 1, 0) := by
    decide +kernel
  obtain ⟨past, final, run, inputs, shown⟩ := Run.of_traced traced
  obtain ⟨replies, counters⟩ := Prod.mk.inj shown
  obtain ⟨dropped, stats⟩ := Prod.mk.inj counters
  exact ⟨_, past, final, rfl, run, forall_of_inputs inputs (by decide), replies, dropped, stats⟩

end ClassMesh
