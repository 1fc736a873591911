import ClassMesh.Network.DropTelemetry

namespace ClassMesh

open Std Foundation ReceiverWindow WindowCall ExtTreeMap BTreeMap

namespace WindowCall

def readyIds (call : WindowCall) : List UInt64 := call.ready.map (·.frameId)

/-- The frames that the call reports as dropped. -/
def dropped (call : WindowCall) : List UInt64 := call.events.filterMap droppedFrame

/-- The frame for which the call makes a new entry. -/
def entered (call : WindowCall) : List UInt64 :=
  match call.input with
  | .push nowUs packet =>
    if call.before.late packet.header.frameId ∨
        (call.before.expired nowUs).inflight.contains packet.header.frameId then []
    else [packet.header.frameId]
  | .tick _ => []

/-- The frames held before the call that it discards because it delivers a newer one. -/
def superseded (call : WindowCall) : List UInt64 :=
  call.before.inflight.keys.filter fun frameId =>
    call.readyIds.any (frameId < ·) && !call.dropped.contains frameId

end WindowCall

namespace ReceiverWindow

/-- How many entries the window holds for a frame: none or one. -/
def held (window : ReceiverWindow) (frameId : UInt64) : Nat := if frameId ∈ window.inflight then 1 else 0

variable {window after : ReceiverWindow} {nowUs : Nat} {packet : MediaPacket} {frameId : UInt64} {frame : InflightFrame}

theorem held_eq_one (stored : window.inflight[frameId]? = some frame) : window.held frameId = 1 :=
  if_pos (mem_of_getElem? stored)

theorem held_eq_zero (absent : window.inflight[frameId]? = none) : window.held frameId = 0 :=
  if_neg (by rw [← isSome_getElem?_iff_mem, absent]; simp)

theorem held_congr {other : ReceiverWindow} (same : window.inflight[frameId]? = other.inflight[frameId]?) :
    window.held frameId = other.held frameId := by
  simp only [held, ← isSome_getElem?_iff_mem, same]

theorem mem_staleEntries_iff :
    frameId ∈ (window.staleEntries nowUs).map Prod.fst ↔
      ∃ frame, window.inflight[frameId]? = some frame ∧ frame.stale window.policy nowUs = true := by
  constructor
  · intro member
    obtain ⟨⟨_, frame⟩, isStale, rfl⟩ := List.mem_map.mp member
    obtain ⟨listed, old⟩ := List.mem_filter.mp isStale
    exact ⟨frame, mem_toList_iff_getElem?_eq_some.mp listed, old⟩
  · rintro ⟨frame, stored, old⟩
    refine List.mem_map.mpr ⟨(frameId, frame), List.mem_filter.mpr ⟨?_, old⟩, rfl⟩
    exact mem_toList_iff_getElem?_eq_some.mpr stored

/-- Expiry: an entry is stale or it stays. -/
theorem held_eq_expired (window : ReceiverWindow) (nowUs : Nat) (frameId : UInt64) :
    window.held frameId =
      ((window.staleEntries nowUs).map Prod.fst).count frameId + (window.expired nowUs).held frameId := by
  have distinct : ((window.staleEntries nowUs).map Prod.fst).Nodup :=
    (List.nodup_append.mp (window.removes_nodup (.tick nowUs))).1
  cases stored : window.inflight[frameId]? with
  | none =>
    have gone : (window.expired nowUs).inflight[frameId]? = none := by simp [expired_getElem?, stored]
    have notStale : frameId ∉ (window.staleEntries nowUs).map Prod.fst := by
      rw [mem_staleEntries_iff, stored]
      rintro ⟨_, impossible, _⟩
      cases impossible
    rw [held_eq_zero stored, held_eq_zero gone, List.count_eq_zero_of_not_mem notStale]
  | some frame =>
    rw [held_eq_one stored]
    by_cases old : frame.stale window.policy nowUs = true
    · have gone : (window.expired nowUs).inflight[frameId]? = none := by simp [expired_getElem?, stored, old]
      rw [held_eq_zero gone, List.count_eq_one_of_mem distinct (mem_staleEntries_iff.mpr ⟨frame, stored, old⟩)]
    · have kept : (window.expired nowUs).inflight[frameId]? = some (frame.nacked window.policy nowUs) :=
        expired_eq_some_iff.mpr ⟨frame, stored, Bool.eq_false_iff.mpr old, rfl⟩
      have notStale : frameId ∉ (window.staleEntries nowUs).map Prod.fst := by
        rw [mem_staleEntries_iff, stored]
        rintro ⟨_, same, isOld⟩
        cases same
        exact old isOld
      rw [held_eq_one kept, List.count_eq_zero_of_not_mem notStale]

/-- Making room: the new entry is paid for by at most one other. -/
theorem held_eq_entered (window : ReceiverWindow) (nowUs : Nat) (packet : MediaPacket) (frameId : UInt64) :
    window.held frameId +
        (if window.inflight.contains packet.header.frameId then [] else [packet.header.frameId]).count frameId =
      ((window.evictee packet.header.frameId).map Prod.fst).toList.count frameId +
        (window.entered nowUs packet).held frameId := by
  by_cases present : window.inflight.contains packet.header.frameId = true
  · simp [present, evictee, entered]
  · simp only [present, if_false, Bool.false_eq_true]
    have chosen (evicted : (window.evictee packet.header.frameId).map Prod.fst = some frameId) :
        ∃ frame, window.inflight[frameId]? = some frame := by
      obtain ⟨oldest, found, rfl⟩ := Option.map_eq_some_iff.mp evicted
      exact ⟨oldest.2, evictee_mem found⟩
    by_cases same : frameId = packet.header.frameId
    · subst same
      have absent : window.inflight[packet.header.frameId]? = none :=
        getElem?_eq_none (fun member => present (contains_iff_mem.mpr member))
      have spared : packet.header.frameId ∉ ((window.evictee packet.header.frameId).map Prod.fst).toList := by
        rw [Option.mem_toList]
        intro evicted
        obtain ⟨_, stored⟩ := chosen evicted
        rw [absent] at stored
        cases stored
      rw [held_eq_zero absent, held_eq_one (entered_getElem?_self window nowUs packet),
        List.count_eq_zero_of_not_mem spared, List.count_singleton_self, Nat.zero_add]
    · have others : [packet.header.frameId].count frameId = 0 :=
        List.count_eq_zero_of_not_mem (by simpa using same)
      rw [others, Nat.add_zero]
      have kept : (window.entered nowUs packet).inflight[frameId]? =
          if (window.evictee packet.header.frameId).map Prod.fst = some frameId then none
          else window.inflight[frameId]? := entered_getElem?_other same
      by_cases evicted : (window.evictee packet.header.frameId).map Prod.fst = some frameId
      · obtain ⟨_, stored⟩ := chosen evicted
        rw [if_pos evicted] at kept
        rw [held_eq_one stored, held_eq_zero kept, evicted, Option.toList_some, List.count_singleton_self]
      · rw [if_neg evicted] at kept
        rw [held_congr kept, List.count_eq_zero_of_not_mem (by simpa using evicted), Nat.zero_add]

/-- Up to the point where the packet has its entry, what was held or entered was removed or is held. -/
theorem held_eq_opened (current : window.late packet.header.frameId = false) (nowUs : Nat) (frameId : UInt64) :
    window.held frameId + (if (window.expired nowUs).inflight.contains packet.header.frameId then []
        else [packet.header.frameId]).count frameId =
      (window.removes (.push nowUs packet)).count frameId + (window.opened nowUs packet).held frameId := by
  have expiry := held_eq_expired window nowUs frameId
  have room := held_eq_entered (window.expired nowUs) nowUs packet frameId
  simp only [removes, expires, evicts, current, Bool.false_eq_true, if_false, List.count_append, opened]
  omega

/-- A frame older than the packet's is still there exactly if it was there and was not removed. -/
theorem mem_opened_iff (current : window.late packet.header.frameId = false) (other : frameId ≠ packet.header.frameId) :
    frameId ∈ (window.opened nowUs packet).inflight ↔
      frameId ∈ window.inflight ∧ frameId ∉ window.removes (.push nowUs packet) := by
  have opens := held_eq_opened current nowUs frameId
  have notEntered : (if (window.expired nowUs).inflight.contains packet.header.frameId then []
      else [packet.header.frameId]).count frameId = 0 := by
    split
    · rfl
    · exact List.count_eq_zero_of_not_mem (by simpa using other)
  rw [notEntered] at opens
  rw [← List.count_eq_zero]
  unfold held at opens
  by_cases before : frameId ∈ window.inflight <;> by_cases there : frameId ∈ (window.opened nowUs packet).inflight <;>
    simp only [before, there, if_true, if_false, true_and, false_and, true_iff, false_iff] at opens ⊢ <;> omega

theorem held_insert {held : InflightFrame} (entry : window.inflight[packet.header.frameId]? = some frame) :
    ({ window with inflight := window.inflight.insert packet.header.frameId held } : ReceiverWindow).held frameId =
      window.held frameId := by
  by_cases same : frameId = packet.header.frameId
  · subst same
    rw [held_eq_one entry, held_eq_one getElem?_insert_self]
  · exact held_congr (getElem?_insert_ne same)

/-- Delivery: the delivered frame leaves, and so do the older ones. -/
theorem held_eq_delivered {newest : UInt64} (entry : window.inflight[newest]? = some frame) (updated : InflightFrame)
    (frameId : UInt64) :
    window.held frameId =
      [newest].count frameId + (if frameId < newest ∧ frameId ∈ window.inflight then 1 else 0) +
        ({ window with
          inflight := ((window.inflight.insert newest updated).erase newest).filter
            fun candidate _ => newest < candidate
          latestCompleteFrame := some newest } : ReceiverWindow).held frameId := by
  have present := mem_of_getElem? entry
  have kept : frameId ∈ ((window.inflight.insert newest updated).erase newest).filter
      (fun candidate _ => newest < candidate) ↔ frameId ∈ window.inflight ∧ newest < frameId := by
    rw [← isSome_getElem?_iff_mem, ← isSome_getElem?_iff_mem, getElem?_filter']
    by_cases same : frameId = newest
    · subst same
      simp
    · rw [getElem?_erase_ne same, getElem?_insert_ne same]
      cases window.inflight[frameId]? <;> simp [Option.filter_some]
  simp only [held, kept]
  by_cases same : frameId = newest
  · subst same
    simp [present]
  · have other : [newest].count frameId = 0 := List.count_eq_zero_of_not_mem (by simpa using same)
    rw [other]
    by_cases below : frameId < newest
    · have notAbove : ¬newest < frameId := UInt64.lt_asymm below
      simp [below, notAbove]
    · have above : newest < frameId := UInt64.lt_of_le_of_ne (UInt64.not_lt.mp below) (Ne.symm same)
      simp [below, above]

/-- The accounts of a successful push. -/
theorem PushOutcome.held_balance {reply : WindowReply} {events : List ReceiverEvent}
    (outcome : PushOutcome window nowUs packet after reply) (returned : reply = .ok events) (frameId : UInt64) :
    (events.filterMap readyFrame = [] ∧
        window.held frameId + (if window.late packet.header.frameId ∨
            (window.expired nowUs).inflight.contains packet.header.frameId then []
          else [packet.header.frameId]).count frameId =
        (window.removes (.push nowUs packet)).count frameId + after.held frameId) ∨
      ((events.filterMap readyFrame).map (·.frameId) = [packet.header.frameId] ∧
        window.late packet.header.frameId = false ∧
        window.held frameId + (if window.late packet.header.frameId ∨
            (window.expired nowUs).inflight.contains packet.header.frameId then []
          else [packet.header.frameId]).count frameId =
        [packet.header.frameId].count frameId + (window.removes (.push nowUs packet)).count frameId +
          (if frameId < packet.header.frameId ∧ frameId ∈ (window.opened nowUs packet).inflight then 1 else 0) +
          after.held frameId) := by
  cases outcome with
  | late behind =>
    cases returned
    refine .inl ⟨expiryEvents_ready window nowUs, ?_⟩
    simpa [removes, expires, evicts, behind] using held_eq_expired window nowUs frameId
  | rejected => cases returned
  | stored current entry =>
    cases returned
    refine .inl ⟨openingEvents_ready window nowUs packet, ?_⟩
    rw [held_insert entry]
    simpa only [current, Bool.false_eq_true, false_or] using held_eq_opened current nowUs frameId
  | @delivered frame assembler current entry pushed =>
    cases returned
    refine .inr ⟨?_, current, ?_⟩
    · simp [openingEvents_ready, readyFrame, assembled_frameId pushed]
    · have opens := held_eq_opened current nowUs frameId
      have left := held_eq_delivered entry { frame with assembler := assembler } frameId
      simp only [current, Bool.false_eq_true, false_or]
      omega

theorem mem_inflight_of_mem_removes {input : WindowInput} (member : frameId ∈ window.removes input) :
    frameId ∈ window.inflight := by
  rcases List.mem_append.mp member with gone | chosen
  · have stale {nowUs : Nat} (listed : frameId ∈ (window.staleEntries nowUs).map Prod.fst) :
        frameId ∈ window.inflight := by
      obtain ⟨_, stored, _⟩ := mem_staleEntries_iff.mp listed
      exact mem_of_getElem? stored
    cases input with
    | push | tick => exact stale gone
  · cases input with
    | tick => simp [evicts] at chosen
    | push =>
      simp only [evicts, Option.mem_toList] at chosen
      split at chosen
      · cases chosen
      · obtain ⟨_, found, rfl⟩ := Option.map_eq_some_iff.mp chosen
        obtain ⟨_, before, _⟩ := expired_eq_some_iff.mp (evictee_mem found)
        exact mem_of_getElem? before

end ReceiverWindow

namespace WindowCall

/-- A call on a sound window that returns its events. -/
structure Succeeds (call : WindowCall) : Prop where
  sound : call.before.Sound
  valid : call.input.Valid
  taken : Partial ReceiverWindow.step call.before call.input call.reply call.after
  returned : call.reply = .ok call.events

variable {call : WindowCall} {frameId : UInt64}

theorem Succeeds.dropped_eq (succeeds : call.Succeeds) : call.dropped = call.before.removes call.input := by
  have taken := succeeds.taken
  rw [succeeds.returned] at taken
  exact succeeds.sound.step_announces succeeds.valid taken

theorem count_superseded {newest : UInt64} (ready : call.readyIds = [newest]) :
    call.superseded.count frameId =
      if frameId < newest ∧ frameId ∈ call.before.inflight ∧ frameId ∉ call.dropped then 1 else 0 := by
  have distinct : call.superseded.Nodup := nodup_keys.filter _
  have member : frameId ∈ call.superseded ↔
      frameId < newest ∧ frameId ∈ call.before.inflight ∧ frameId ∉ call.dropped := by
    simp only [superseded, ready, List.mem_filter, mem_keys, List.any_cons, List.any_nil,
      Bool.or_false, Bool.and_eq_true, decide_eq_true_eq, Bool.not_eq_true', List.contains_eq_mem,
      decide_eq_false_iff_not]
    tauto
  split
  · rename_i gone
    exact List.count_eq_one_of_mem distinct (member.mpr gone)
  · rename_i stays
    exact List.count_eq_zero_of_not_mem (fun listed => stays (member.mp listed))

theorem balance_of_not_ready (nothing : call.ready = [])
    (balanced : call.before.held frameId + call.entered.count frameId =
      call.dropped.count frameId + call.after.held frameId) :
    call.before.held frameId + call.entered.count frameId = call.readyIds.count frameId +
      call.dropped.count frameId + call.superseded.count frameId + call.after.held frameId := by
  have noIds : call.readyIds = [] := by rw [readyIds, nothing, List.map_nil]
  have noneReplaced : call.superseded = [] := by simp [superseded, noIds]
  rw [noIds, noneReplaced, balanced]
  simp

/-- Every entry that is there before the call or made by it has one fate in the call. -/
theorem Succeeds.balance (succeeds : call.Succeeds) (frameId : UInt64) :
    call.before.held frameId + call.entered.count frameId = call.readyIds.count frameId +
      call.dropped.count frameId + call.superseded.count frameId + call.after.held frameId := by
  have drops := succeeds.dropped_eq
  rcases succeeds.sound.step_cases succeeds.valid succeeds.taken with
    ⟨nowUs, atInput, atAfter, atReply⟩ | ⟨nowUs, packet, atInput, _, outcome⟩
  · have nothing : call.ready = [] := by simp only [ready, events, atReply, expiryEvents_ready]
    refine balance_of_not_ready nothing ?_
    rw [drops, atInput, atAfter]
    simpa [entered, atInput, removes, expires, evicts] using held_eq_expired call.before nowUs frameId
  · rcases outcome.held_balance succeeds.returned frameId with ⟨nothing, balanced⟩ | ⟨handed, ahead, balanced⟩
    · refine balance_of_not_ready nothing ?_
      simpa only [entered, drops, atInput] using balanced
    · have ready' : call.readyIds = [packet.header.frameId] := handed
      have older : (frameId < packet.header.frameId ∧ frameId ∈ call.before.inflight ∧
          frameId ∉ call.before.removes call.input) ↔
            (frameId < packet.header.frameId ∧ frameId ∈ (call.before.opened nowUs packet).inflight) := by
        rw [atInput]
        exact and_congr_right fun below => (mem_opened_iff ahead (UInt64.ne_of_lt below)).symm
      rw [count_superseded ready', ready', drops]
      simp only [older]
      rw [atInput]
      simpa only [entered, atInput] using balanced

/-- Below the cut-off nothing is entered, delivered or dropped any more. -/
theorem Succeeds.silent_of_late (succeeds : call.Succeeds) (behind : call.before.late frameId = true) :
    frameId ∉ call.entered ∧ frameId ∉ call.readyIds ∧ frameId ∉ call.dropped := by
  refine ⟨?_, ?_, ?_⟩
  · unfold entered
    split
    · rename_i nowUs packet _
      split
      · simp
      · rename_i fresh
        simp only [List.mem_singleton]
        rintro rfl
        exact fresh (.inl behind)
    · simp
  · rcases succeeds.sound.step_ready succeeds.valid succeeds.taken with ⟨nothing, _⟩ | ⟨frame, ready, ahead, _⟩
    · have nothing' : call.ready = [] := nothing
      simp [readyIds, nothing']
    · have ready' : call.ready = [frame] := ready
      simp only [readyIds, ready', List.map_cons, List.map_nil, List.mem_singleton]
      rintro rfl
      rw [behind] at ahead
      cases ahead
  · rw [succeeds.dropped_eq]
    intro member
    obtain ⟨_, stored⟩ := Option.isSome_iff_exists.mp
      (isSome_getElem?_iff_mem.mpr (mem_inflight_of_mem_removes member))
    have current := (succeeds.sound.held _ _ stored).current
    rw [behind] at current
    cases current

/-- An entry that leaves without being delivered is reported as dropped, unless the call delivers a newer frame. -/
theorem Succeeds.reported (succeeds : call.Succeeds) (before : frameId ∈ call.before.inflight)
    (gone : frameId ∉ call.after.inflight) (undelivered : frameId ∉ call.readyIds) :
    call.dropped.count frameId = 1 ∨ ∃ newer ∈ call.readyIds, frameId < newer := by
  have balance := succeeds.balance frameId
  have once := List.nodup_iff_count_le_one.mp (call.before.removes_nodup call.input) frameId
  rw [← succeeds.dropped_eq] at once
  rw [List.count_eq_zero_of_not_mem undelivered] at balance
  simp only [held, before, gone, if_true, if_false] at balance
  by_cases replaced : frameId ∈ call.superseded
  · have larger := (List.mem_filter.mp replaced).2
    simp only [Bool.and_eq_true, List.any_eq_true, decide_eq_true_eq] at larger
    exact .inr larger.1
  · rw [List.count_eq_zero_of_not_mem replaced] at balance
    exact .inl (by omega)

end WindowCall

section Runs

variable {initial final : ReceiverWindow} {past : List WindowCall}

/-- How often a list over the calls of a run names a frame. -/
def tally (listed : WindowCall → List UInt64) (past : List WindowCall) (frameId : UInt64) : Nat :=
  (past.flatMap listed).count frameId

theorem tally_append (listed : WindowCall → List UInt64) (past : List WindowCall) (call : WindowCall)
    (frameId : UInt64) :
    tally listed (past ++ [call]) frameId = tally listed past frameId + (listed call).count frameId := by
  simp [tally, List.count_append]

/-- What holds after a run in which every push succeeded. -/
structure OneFatePerEntry (past : List WindowCall) (final : ReceiverWindow) : Prop where
  balance : ∀ frameId, tally entered past frameId = tally readyIds past frameId +
    tally dropped past frameId + tally superseded past frameId + final.held frameId
  deliveredOnce : ∀ frameId, tally readyIds past frameId ≤ 1
  settled : ∀ earlier call later frameId, past = earlier ++ call :: later → frameId ∈ readyIds call →
    tally entered later frameId = 0 ∧ tally readyIds later frameId = 0 ∧
      tally dropped later frameId = 0 ∧ frameId ∉ final.inflight
  reported : ∀ call ∈ past, ∀ frameId, frameId ∈ call.before.inflight → frameId ∉ call.after.inflight →
    frameId ∉ readyIds call →
      (dropped call).count frameId = 1 ∨ ∃ newer ∈ readyIds call, frameId < newer

theorem run_balance (empty : initial.inflight = ∅) (sound : initial.Sound)
    (run : Run (Partial ReceiverWindow.step) initial past final) (valid : ∀ call ∈ past, call.input.Valid)
    (succeeded : ∀ call ∈ past, call.reply = .ok call.events) (frameId : UInt64) :
    tally entered past frameId = tally readyIds past frameId +
      tally dropped past frameId + tally superseded past frameId + final.held frameId := by
  induction run with
  | start => simp [tally, held, empty]
  | @next past current input reply after previous taken ih =>
    have validPast : ∀ call ∈ past, call.input.Valid := forall_of_append valid
    have last := List.mem_append_right past (List.mem_singleton_self (⟨current, input, reply, after⟩ : WindowCall))
    have before := ih validPast (forall_of_append succeeded)
    have now := Succeeds.balance
      ⟨sound_of_run sound previous validPast, valid _ last, taken, succeeded _ last⟩ frameId
    simp only [tally_append]
    dsimp only at now
    omega

theorem tally_eq_zero {listed : WindowCall → List UInt64} {frameId : UInt64}
    (never : ∀ call ∈ past, frameId ∉ listed call) : tally listed past frameId = 0 := by
  refine List.count_eq_zero_of_not_mem fun member => ?_
  obtain ⟨call, made, listedThere⟩ := List.mem_flatMap.mp member
  exact never call made listedThere

theorem tally_ready_le_one (sound : initial.Sound) (run : Run (Partial ReceiverWindow.step) initial past final)
    (valid : ∀ call ∈ past, call.input.Valid) (frameId : UInt64) : tally readyIds past frameId ≤ 1 := by
  have increasing := (delivered_increasing sound run valid).1
  rw [readyFrames, List.map_flatMap] at increasing
  exact List.nodup_iff_count_le_one.mp (increasing.imp UInt64.ne_of_lt) frameId

end Runs

/-- The entries of the window, and not the frame ids, have one fate each. A frame id can be entered again after it
was dropped, and an entry older than a delivered frame is discarded without a report. -/
theorem one_fate_per_entry {policy : ReceiverPolicy} {initial final : ReceiverWindow} {past : List WindowCall}
    (made : ReceiverWindow.new policy = some initial) (run : Run (Partial ReceiverWindow.step) initial past final)
    (valid : ∀ call ∈ past, call.input.Valid) (succeeded : ∀ call ∈ past, ∃ events, call.reply = .ok events) :
    OneFatePerEntry past final := by
  have sound := new_sound made
  have empty : initial.inflight = ∅ := by rw [new_eq made]
  have returned : ∀ call ∈ past, call.reply = .ok (WindowCall.events call) := by
    intro call member
    obtain ⟨events, atReply⟩ := succeeded call member
    simp only [WindowCall.events, atReply]
  have succeeds {earlier later : List WindowCall} {call : WindowCall} (cut : past = earlier ++ call :: later) :
      Run (Partial ReceiverWindow.step) initial earlier call.before ∧
        (∀ old ∈ earlier, old.input.Valid) ∧ Succeeds call := by
    obtain ⟨reached, taken, _⟩ := run.split cut
    have validPast : ∀ old ∈ earlier, old.input.Valid := fun old member => valid old (by simp [cut, member])
    exact ⟨reached, validPast, sound_of_run sound reached validPast, valid call (by simp [cut]), taken,
      returned call (by simp [cut])⟩
  refine ⟨run_balance empty sound run valid returned, tally_ready_le_one sound run valid, ?_, ?_⟩
  · intro earlier call later frameId cut delivered
    have listed : ∃ frame ∈ ready call, frame.frameId = frameId := List.mem_map.mp delivered
    obtain ⟨frame, handed, rfl⟩ := listed
    have silent : ∀ next ∈ later, frame.frameId ∉ entered next ∧
        frame.frameId ∉ readyIds next ∧ frame.frameId ∉ dropped next := by
      intro next member
      obtain ⟨between, rest, split⟩ := List.append_of_mem member
      obtain ⟨reached, validPast, succeedsNext⟩ := succeeds (show past = (earlier ++ call :: between) ++ next :: rest by
        rw [cut, split, List.append_assoc, List.cons_append])
      refine succeedsNext.silent_of_late ((delivered_increasing sound reached validPast).2 frame ?_)
      exact List.mem_flatMap.mpr ⟨call, by simp, handed⟩
    refine ⟨tally_eq_zero fun next member => (silent next member).1,
      tally_eq_zero fun next member => (silent next member).2.1,
      tally_eq_zero fun next member => (silent next member).2.2, ?_⟩
    intro held
    obtain ⟨_, stored⟩ := Option.isSome_iff_exists.mp (ExtTreeMap.isSome_getElem?_iff_mem.mpr held)
    have behind := (delivered_increasing sound run valid).2 frame
      (List.mem_flatMap.mpr ⟨call, by simp [cut], handed⟩)
    rw [((sound_of_run sound run valid).held _ _ stored).current] at behind
    cases behind
  · intro call member frameId before gone undelivered
    obtain ⟨_, _, cut⟩ := List.append_of_mem member
    exact (succeeds cut).2.2.reported before gone undelivered

/-- A frame expires, is entered again and delivered. -/
theorem one_fate_per_entry_reopened : ∃ past final,
    Run (Partial ReceiverWindow.step) { policy := {} } past final ∧
      (tally entered past 1, tally dropped past 1, tally readyIds past 1) = (2, 1, 1) ∧
      OneFatePerEntry past final := by
  have traced : (tryCalls ReceiverWindow.step { policy := {} } [.push 0 (fragment 1 0 2), .tick 80000,
      .push 80001 (fragment 1 0 2), .push 80002 (fragment 1 1 2)]).map (fun result =>
        ((tally entered result.1 1, tally dropped result.1 1, tally readyIds result.1 1),
          result.1.all fun call => call.reply.isOk)) = some ((2, 1, 1), true) := by decide +kernel
  obtain ⟨past, final, run, inputs, shown⟩ := Run.of_traced traced
  obtain ⟨tallies, returned⟩ := Prod.mk.inj shown
  have built : ReceiverWindow.new {} = some { policy := {} } := rfl
  refine ⟨past, final, run, tallies,
    one_fate_per_entry built run (forall_of_inputs inputs (by decide)) fun call member => ?_⟩
  have ok := List.all_eq_true.mp returned call member
  cases reply : call.reply with
  | error => simp [reply, Except.isOk, Except.toBool] at ok
  | ok events => exact ⟨events, rfl⟩

/-- Frame 1 is dropped twice and then delivered; frame 2 leaves the window and is never reported. Every push
succeeds, on one stream and at increasing times. -/
theorem frame_id_has_many_fates : ∃ initial past final,
    ReceiverWindow.new {} = some initial ∧ Run (Partial ReceiverWindow.step) initial past final ∧
      past.map (·.input) = [.push 0 (fragment 1 0 2), .tick 80000, .push 80001 (fragment 1 0 2), .tick 160001,
        .push 160002 (fragment 1 0 2), .push 160003 (fragment 1 1 2), .push 160004 (fragment 2 0 2),
        .push 160005 (fragment 3 0 1)] ∧
      (∀ call ∈ past, call.input.Valid) ∧ (∀ call ∈ past, call.reply.isOk = true) ∧
      (tally dropped past 1, tally readyIds past 1) = (2, 1) ∧
      (tally entered past 2, tally dropped past 2, tally readyIds past 2) = (1, 0, 0) ∧
      ¬2 ∈ final.inflight := by
  have traced : (tryCalls ReceiverWindow.step { policy := {} } [.push 0 (fragment 1 0 2), .tick 80000,
      .push 80001 (fragment 1 0 2), .tick 160001, .push 160002 (fragment 1 0 2), .push 160003 (fragment 1 1 2),
      .push 160004 (fragment 2 0 2), .push 160005 (fragment 3 0 1)]).map (fun result =>
        (result.1.all fun call => call.reply.isOk,
          (tally dropped result.1 1, tally readyIds result.1 1),
          (tally entered result.1 2, tally dropped result.1 2, tally readyIds result.1 2),
          result.2.inflight.contains 2)) = some (true, (2, 1), (1, 0, 0), false) := by decide +kernel
  obtain ⟨past, final, run, inputs, shown⟩ := Run.of_traced traced
  simp only [Prod.mk.injEq] at shown
  obtain ⟨returned, first, second, absent⟩ := shown
  refine ⟨_, past, final, rfl, run, inputs, forall_of_inputs inputs (by decide),
    List.all_eq_true.mp returned, ?_, ?_, ?_⟩
  · simp [first]
  · simp [second]
  · rw [← contains_iff_mem, absent]
    simp

end ClassMesh
