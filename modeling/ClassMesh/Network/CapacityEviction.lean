import ClassMesh.Network.DropTelemetry

namespace ClassMesh

open Std Foundation ExtTreeMap ReceiverWindow FrameAssembler BTreeMap

section Largest

variable {α : Type*} [DecidableEq α] [LT α]

/-- The `count` largest elements of a set. -/
def IsLargest (count : Nat) (all kept : Finset α) : Prop :=
  kept ⊆ all ∧ kept.card = count ∧ ∀ x ∈ kept, ∀ y ∈ all, y ∉ kept → y < x

/-- An element that takes the place of the smallest one makes up the largest ones with the rest if it is larger. -/
theorem isLargest_replace_iff {all : Finset α} {least new : α} (member : least ∈ all) (absent : new ∉ all)
    (smallest : ∀ x ∈ all, x ≠ least → least < x) :
    IsLargest all.card (insert new all) (insert new (all.erase least)) ↔ least < new := by
  have different : least ≠ new := fun same => absent (same ▸ member)
  have card : (insert new (all.erase least)).card = all.card := by
    rw [Finset.card_insert_of_notMem (fun old => absent (Finset.mem_of_mem_erase old)),
      Finset.card_erase_add_one member]
  constructor
  · rintro ⟨-, -, below⟩
    refine below new (Finset.mem_insert_self _ _) least (Finset.mem_insert_of_mem member) ?_
    simp [different]
  · intro larger
    refine ⟨Finset.insert_subset_insert _ (Finset.erase_subset _ _), card, fun x kept y held dropped => ?_⟩
    have y_eq : y = least := by
      by_contra other
      rcases Finset.mem_insert.mp held with rfl | old
      · exact dropped (Finset.mem_insert_self _ _)
      · exact dropped (Finset.mem_insert_of_mem (Finset.mem_erase.mpr ⟨other, old⟩))
    rw [y_eq]
    rcases Finset.mem_insert.mp kept with rfl | old
    · exact larger
    · obtain ⟨other, old⟩ := Finset.mem_erase.mp old
      exact smallest x old other

end Largest

namespace ReceiverWindow

variable {window after : ReceiverWindow} {nowUs : Nat} {packet : MediaPacket} {reply : WindowReply}

theorem Counted.expired (counted : window.Counted) (nowUs : Nat) : (window.expired nowUs).Counted := by
  refine ⟨counted.roomy, fun frameId frame stored => ?_⟩
  obtain ⟨previous, before, _, rfl⟩ := expired_eq_some_iff.mp stored
  simpa using counted.sound frameId previous before

/-- The eviction loop removes entries and does nothing else to the map. -/
theorem makeRoom_entry (rounds : Nat) (window : ReceiverWindow) :
    (makeRoom rounds window).1.policy = window.policy ∧
      ∀ (frameId : UInt64) (frame : InflightFrame),
        (makeRoom rounds window).1.inflight[frameId]? = some frame → window.inflight[frameId]? = some frame := by
  induction rounds generalizing window with
  | zero => exact ⟨rfl, fun _ _ stored => stored⟩
  | succ rounds ih =>
    unfold makeRoom
    split
    · split
      · exact ⟨rfl, fun _ _ stored => stored⟩
      · obtain ⟨policy, entries⟩ := ih { window with
          inflight := window.inflight.erase _
          droppedFrames := saturatingAdd window.droppedFrames 1 }
        refine ⟨policy, fun frameId frame stored => ?_⟩
        have kept := entries frameId frame stored
        rw [getElem?_erase] at kept
        split at kept
        · cases kept
        · exact kept
    · exact ⟨rfl, fun _ _ stored => stored⟩

theorem Counted.enter (counted : window.Counted) (nowUs : Nat) (packet : MediaPacket) :
    (window.enter nowUs packet).1.Counted := by
  unfold ReceiverWindow.enter
  split
  · exact counted
  · obtain ⟨policy, entries⟩ := makeRoom_entry window.inflight.size window
    refine ⟨policy ▸ counted.roomy, fun frameId frame stored => ?_⟩
    rcases getElem?_insert_cases stored with ⟨_, rfl⟩ | ⟨_, old⟩
    · exact fromFirst_sound packet
    · exact counted.sound frameId frame (entries frameId frame old)

theorem Counted.accept (counted : window.Counted) (accepted : window.accept packet = some (after, reply)) :
    after.Counted := by
  unfold ReceiverWindow.accept at accepted
  simp only at accepted
  split at accepted
  · cases accepted
  · rename_i frame stored
    split at accepted
    · cases accepted
    · cases accepted
      exact counted
    · rename_i assembler pushed
      have replaced : ∀ (frameId : UInt64) (entry : InflightFrame),
          (window.inflight.insert packet.header.frameId { frame with assembler := assembler })[frameId]? = some entry →
            entry.assembler.Sound := by
        intro frameId entry found
        rcases getElem?_insert_cases found with ⟨_, rfl⟩ | ⟨_, old⟩
        · exact (counted.sound _ _ stored).push pushed
        · exact counted.sound frameId entry old
      split at accepted
      · split at accepted
        · cases accepted
          refine ⟨counted.roomy, fun frameId entry found => ?_⟩
          rw [getElem?_filter'] at found
          obtain ⟨kept, newer⟩ := Option.filter_eq_some_iff.mp found
          have other : frameId ≠ packet.header.frameId := by
            rintro rfl
            simp at newer
          rw [getElem?_erase_ne other] at kept
          exact replaced frameId entry kept
        · cases accepted
      · cases accepted
        exact ⟨counted.roomy, replaced⟩

theorem Counted.push (counted : window.Counted) (pushed : window.push nowUs packet = some (after, reply)) :
    after.Counted := by
  unfold ReceiverWindow.push at pushed
  rw [counted.expire_eq] at pushed
  simp only at pushed
  split at pushed
  · cases pushed
    exact counted.expired nowUs
  · have entered := (counted.expired nowUs).enter nowUs packet
    split at pushed
    · cases pushed
    · rename_i accepted
      cases pushed
      exact entered.accept accepted
    · rename_i accepted
      cases pushed
      exact entered.accept accepted

theorem counted_of_run {policy : ReceiverPolicy} {initial : ReceiverWindow} {past : List WindowCall}
    (made : new policy = some initial) (run : Run (Partial step) initial past window) : window.Counted := by
  refine Run.invariant run (new_sound made).counted fun window input reply after counted taken => ?_
  cases input with
  | push => exact counted.push taken
  | tick nowUs =>
    have ticked : some (window.expired nowUs, (.ok (window.expiryEvents nowUs) : WindowReply)) =
        some (after, reply) := by
      rw [← taken, step, tick, counted.expire_eq]
      rfl
    cases ticked
    exact counted.expired nowUs

def heldIds (window : ReceiverWindow) : Finset UInt64 := window.inflight.keys.toFinset

theorem mem_heldIds {frameId : UInt64} : frameId ∈ window.heldIds ↔ frameId ∈ window.inflight := by
  rw [heldIds, List.mem_toFinset, mem_keys]

theorem heldIds_card (window : ReceiverWindow) : window.heldIds.card = window.inflight.size := by
  rw [heldIds, List.toFinset_card_of_nodup nodup_keys, length_keys]

theorem heldIds_expired (fresh : window.staleEntries nowUs = []) : (window.expired nowUs).heldIds = window.heldIds := by
  ext frameId
  rw [mem_heldIds, mem_heldIds, ← isSome_getElem?_iff_mem, ← isSome_getElem?_iff_mem,
    Option.isSome_iff_exists, Option.isSome_iff_exists]
  constructor
  · rintro ⟨_, stored⟩
    obtain ⟨previous, before, -, -⟩ := expired_eq_some_iff.mp stored
    exact ⟨previous, before⟩
  · rintro ⟨frame, stored⟩
    have member := mem_toList_iff_getElem?_eq_some.mpr stored
    have live := List.filter_eq_nil_iff.mp fresh _ member
    exact ⟨_, expired_eq_some_iff.mpr ⟨frame, stored, Bool.eq_false_iff.mpr live, rfl⟩⟩

/-- The first entry is that of the oldest frame. -/
theorem head_smallest {oldest : UInt64 × InflightFrame} (first : window.inflight.toList.head? = some oldest) :
    ∀ frameId ∈ window.heldIds, frameId ≠ oldest.1 → oldest.1 < frameId := by
  intro frameId held other
  obtain ⟨_, entries⟩ := List.head?_eq_some_iff.mp first
  have ordered : List.Pairwise (fun a b => compare a.1 b.1 = .lt) window.inflight.toList :=
    ordered_keys_toList
  rw [entries, List.pairwise_cons] at ordered
  rw [mem_heldIds, ← mem_keys, ← map_fst_toList_eq_keys, entries] at held
  obtain ⟨entry, member, rfl⟩ := List.mem_map.mp held
  rcases List.mem_cons.mp member with rfl | later
  · exact absurd rfl other
  · exact Std.compare_eq_lt.mp (ordered.1 entry later)

/-- A full window gives the place of its oldest frame to the new one. -/
theorem enter_full (roomy : 0 < window.policy.maxInflightFrames)
    (full : window.inflight.size = window.policy.maxInflightFrames) (absent : packet.header.frameId ∉ window.inflight)
    (nowUs : Nat) :
    ∃ oldest ∈ window.heldIds, (∀ frameId ∈ window.heldIds, frameId ≠ oldest → oldest < frameId) ∧
      (window.entered nowUs packet).heldIds = insert packet.header.frameId (window.heldIds.erase oldest) := by
  have missing : ¬window.inflight.contains packet.header.frameId = true := by
    rwa [contains_iff_mem]
  rcases evictee_cases roomy full.le missing with ⟨room, -⟩ | ⟨oldest, -, first, evicted, -⟩
  · exact absurd full (Nat.ne_of_lt room)
  · have there : oldest.1 ∈ window.heldIds := mem_heldIds.mpr (mem_of_getElem? (evictee_mem evicted))
    refine ⟨oldest.1, there, head_smallest first, ?_⟩
    ext frameId
    rw [mem_heldIds, Finset.mem_insert, Finset.mem_erase, mem_heldIds]
    simp only [entered, missing, evicted, Bool.false_eq_true, if_false, Option.elim_some,
      mem_insert_iff, mem_erase, Std.compare_eq_iff_eq, ne_eq, eq_comm (a := oldest.1) (b := frameId)]

/-- The first packet of a frame is stored, and delivered with the frame if it is the only one. -/
theorem push_new (counted : window.Counted) (bounded : window.inflight.size ≤ window.policy.maxInflightFrames)
    (formed : packet.WellFormed) (absent : packet.header.frameId ∉ (window.expired nowUs).inflight)
    (ahead : window.late packet.header.frameId = false) :
    ∃ after events, window.push nowUs packet = some (after, .ok events) ∧
      (events.filterMap readyFrame = [] → after.heldIds = (window.opened nowUs packet).heldIds) := by
  have expired := counted.expired nowUs
  have small : (window.expired nowUs).inflight.size ≤ (window.expired nowUs).policy.maxInflightFrames := by
    simp only [ReceiverWindow.expired, size_map]
    exact size_filter_le_size.trans bounded
  have lates : (window.expired nowUs).late packet.header.frameId = false := ahead
  have entry := entered_getElem?_self (window.expired nowUs) nowUs packet
  rw [getElem?_eq_none absent, Option.getD_none] at entry
  obtain ⟨assembler, pushed⟩ : ∃ assembler, (fromFirst packet).push packet = some (.ok assembler) := by
    have within := (MediaPacketHeader.validate_eq_ok_iff.mp formed.valid).2.1
    rw [UInt16.lt_iff_toNat_lt] at within
    rw [(fromFirst_matches formed.length).push_eq]
    simp only [fromFirst, List.getElem?_replicate, if_pos within]
    exact ⟨_, rfl⟩
  have sound := (fromFirst_sound packet).push pushed
  unfold ReceiverWindow.push
  rw [counted.expire_eq nowUs]
  simp only [lates, Bool.false_eq_true, if_false, enter_eq expired.roomy small nowUs packet, accept]
  rw [entry]
  dsimp only
  rw [pushed]
  by_cases complete : assembler.isComplete = true
  · simp only [complete, if_true, sound.finish_eq complete]
    exact ⟨_, _, rfl, fun silent => by simp [readyFrame] at silent⟩
  · simp only [complete, Bool.false_eq_true, if_false]
    refine ⟨_, _, rfl, fun _ => ?_⟩
    ext frameId
    rw [mem_heldIds, mem_heldIds, mem_insert_iff]
    exact or_iff_right_of_imp fun same => same ▸ mem_of_getElem? entry

end ReceiverWindow

/-- A full window and a packet of a further frame. The frames held afterwards are the newest of those that were held and
the packet's, exactly if the packet's frame is newer than one that was held. -/
theorem capacity_eviction_iff {policy : ReceiverPolicy} {initial window : ReceiverWindow} {past : List WindowCall}
    {nowUs : Nat} {packet : MediaPacket} (made : ReceiverWindow.new policy = some initial)
    (run : Run (Partial ReceiverWindow.step) initial past window)
    (full : window.inflight.size = window.policy.maxInflightFrames) (formed : packet.WellFormed)
    (absent : packet.header.frameId ∉ window.inflight) (ahead : window.late packet.header.frameId = false)
    (fresh : window.staleEntries nowUs = []) :
    ∃ after events, window.push nowUs packet = some (after, .ok events) ∧
      (events.filterMap ReceiverWindow.readyFrame = [] →
        (IsLargest window.policy.maxInflightFrames (insert packet.header.frameId window.heldIds) after.heldIds ↔
          ∃ frameId ∈ window.heldIds, frameId < packet.header.frameId)) := by
  have counted := ReceiverWindow.counted_of_run made run
  have same := ReceiverWindow.heldIds_expired fresh
  have missing : packet.header.frameId ∉ (window.expired nowUs).inflight := by
    rwa [← ReceiverWindow.mem_heldIds, same, ReceiverWindow.mem_heldIds]
  have size : (window.expired nowUs).inflight.size = (window.expired nowUs).policy.maxInflightFrames := by
    rw [← ReceiverWindow.heldIds_card, same, ReceiverWindow.heldIds_card, full]
    rfl
  obtain ⟨after, events, pushed, held⟩ := ReceiverWindow.push_new counted full.le formed missing ahead
  obtain ⟨oldest, member, smallest, opened⟩ :=
    ReceiverWindow.enter_full (counted.expired nowUs).roomy size missing nowUs
  rw [same] at member smallest opened
  refine ⟨after, events, pushed, fun silent => ?_⟩
  have outside : packet.header.frameId ∉ window.heldIds := fun there => absent (ReceiverWindow.mem_heldIds.mp there)
  rw [held silent, ReceiverWindow.opened, opened, ← full, ← ReceiverWindow.heldIds_card,
    isLargest_replace_iff member outside smallest]
  refine ⟨fun newer => ⟨oldest, member, newer⟩, ?_⟩
  rintro ⟨frameId, there, newer⟩
  by_cases first : frameId = oldest
  · exact first ▸ newer
  · exact UInt64.lt_trans (smallest frameId there first) newer

set_option synthInstance.maxSize 400 in
/-- Frames 5, 6 and 7 are held and a packet of frame 8 arrives: the newest three remain. -/
theorem capacity_eviction_iff_newer : ∃ past window after events,
    Run (Partial ReceiverWindow.step) { policy := {} } past window ∧ window.inflight.keys = [5, 6, 7] ∧
      window.push 40 (fragment 8 0 2) = some (after, .ok events) ∧ after.inflight.keys = [6, 7, 8] ∧
      IsLargest 3 (insert 8 window.heldIds) after.heldIds := by
  have traced : (tryCalls step { policy := {} }
      [.push 10 (fragment 5 0 2), .push 20 (fragment 6 0 2), .push 30 (fragment 7 0 2)]).map (fun result =>
        (result.2.policy, result.2.inflight.keys, result.2.late 8,
          (result.2.staleEntries 40).length,
          (result.2.push 40 (fragment 8 0 2)).map fun pushed => (pushed.1.inflight.keys,
            pushed.2.toOption.map fun events => (events.filterMap readyFrame).length))) =
      some ({}, [5, 6, 7], false, 0, some ([6, 7, 8], some 0)) := by decide +kernel
  obtain ⟨past, window, run, _, shown⟩ := Run.of_traced traced
  simp only [Prod.mk.injEq] at shown
  obtain ⟨policy, keys, ahead, fresh, shown⟩ := shown
  have built : new {} = some { policy := {} } := rfl
  have absent : (fragment 8 0 2).header.frameId ∉ window.inflight := by
    rw [← mem_keys, keys]
    decide
  have full : window.inflight.size = window.policy.maxInflightFrames := by
    rw [← length_keys, keys, policy]
    rfl
  obtain ⟨after, events, pushed, newest⟩ := capacity_eviction_iff built run full ⟨by decide, rfl⟩ absent ahead
    (List.length_eq_zero_iff.mp fresh)
  rw [pushed] at shown
  simp only [Option.map_some, Except.toOption, Option.some.injEq, Prod.mk.injEq] at shown
  have silent := List.length_eq_zero_iff.mp shown.2
  have five : 5 ∈ window.heldIds := by
    rw [mem_heldIds, ← mem_keys, keys]
    decide
  have largest := (newest silent).mpr ⟨5, five, by decide⟩
  rw [policy] at largest
  exact ⟨past, window, after, events, run, keys, pushed, shown.1, largest⟩

set_option synthInstance.maxSize 400 in
/-- Frames 5, 6 and 7 are held and a packet of frame 4 arrives: it displaces frame 5. -/
theorem older_frame_displaces_newer : ∃ past window after events,
    Run (Partial ReceiverWindow.step) { policy := {} } past window ∧
      past.map (·.input) = [.push 10 (fragment 5 0 2), .push 20 (fragment 6 0 2), .push 30 (fragment 7 0 2)] ∧
      window.inflight.keys = [5, 6, 7] ∧ window.late 4 = false ∧ window.staleEntries 40 = [] ∧
      (fragment 4 0 2).WellFormed ∧ window.push 40 (fragment 4 0 2) = some (after, .ok events) ∧
      events.filterMap ReceiverWindow.readyFrame = [] ∧ after.inflight.keys = [4, 6, 7] ∧
      ¬IsLargest 3 (insert 4 window.heldIds) after.heldIds := by
  have traced : (tryCalls step { policy := {} }
      [.push 10 (fragment 5 0 2), .push 20 (fragment 6 0 2), .push 30 (fragment 7 0 2)]).map (fun result =>
        (result.2.inflight.keys, result.2.late 4, (result.2.staleEntries 40).length,
          (result.2.push 40 (fragment 4 0 2)).map fun pushed => (pushed.1.inflight.keys,
            pushed.2.toOption.map fun events => (events.filterMap readyFrame).length))) =
      some ([5, 6, 7], false, 0, some ([4, 6, 7], some 0)) := by decide +kernel
  obtain ⟨past, window, run, inputs, shown⟩ := Run.of_traced traced
  simp only [Prod.mk.injEq] at shown
  obtain ⟨keys, ahead, fresh, shown⟩ := shown
  obtain ⟨⟨after, reply⟩, pushed, shown⟩ := Option.map_eq_some_iff.mp shown
  obtain ⟨kept, silent⟩ := Prod.mk.inj shown
  cases reply with
  | error => simp [Except.toOption] at silent
  | ok events =>
    simp only [Except.toOption, Option.map_some, Option.some.injEq] at silent
    refine ⟨past, window, after, events, run, inputs, keys, ahead, List.length_eq_zero_iff.mp fresh, ⟨by decide, rfl⟩,
      pushed, List.length_eq_zero_iff.mp silent, kept, fun largest => ?_⟩
    rw [heldIds, heldIds, kept, keys] at largest
    exact absurd (largest.2.2 4 (by decide) 5 (by decide) (by decide)) (by decide)

end ClassMesh
