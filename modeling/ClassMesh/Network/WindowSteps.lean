import ClassMesh.Network.ReceiverWindow

namespace ClassMesh

open Std Foundation ExtTreeMap BTreeMap FrameAssembler

namespace ReceiverWindow

variable {window : ReceiverWindow} {nowUs : Nat} {packet : MediaPacket} {policy : ReceiverPolicy}

theorem late_iff {frameId : UInt64} :
    window.late frameId = true ↔ ∃ latest, window.latestCompleteFrame = some latest ∧ frameId ≤ latest := by
  cases atLatest : window.latestCompleteFrame with
  | none | some => simp [late, atLatest]

theorem not_late_iff {frameId : UInt64} :
    window.late frameId = false ↔ ∀ latest, window.latestCompleteFrame = some latest → latest < frameId := by
  cases atLatest : window.latestCompleteFrame with
  | none | some => simp [late, atLatest]

/-- An entry as the window holds it between two calls. -/
structure Held (window : ReceiverWindow) (frameId : UInt64) (frame : InflightFrame) : Prop where
  own : frame.assembler.frameId = frameId
  sound : frame.assembler.Sound
  unfinished : frame.assembler.isComplete = false
  current : window.late frameId = false

structure Sound (window : ReceiverWindow) : Prop where
  roomy : 0 < window.policy.maxInflightFrames
  bounded : window.inflight.size ≤ window.policy.maxInflightFrames
  held : ∀ (frameId : UInt64) (frame : InflightFrame), window.inflight[frameId]? = some frame →
    window.Held frameId frame

/-- What holds of a window after arbitrary packets, valid or not: it has room for a frame, and every counter counts. -/
structure Counted (window : ReceiverWindow) : Prop where
  roomy : 0 < window.policy.maxInflightFrames
  sound : ∀ (frameId : UInt64) (frame : InflightFrame), window.inflight[frameId]? = some frame → frame.assembler.Sound

theorem Sound.counted (sound : window.Sound) : window.Counted :=
  ⟨sound.roomy, fun frameId frame stored => (sound.held frameId frame stored).sound⟩

theorem new_sound (made : new policy = some window) : window.Sound := by
  unfold new at made
  split at made
  · rename_i valid
    cases made
    exact ⟨valid.1, by simp, by simp⟩
  · cases made

theorem new_eq (made : new policy = some window) : window = { policy := policy } := by
  unfold new at made
  split at made
  · exact (Option.some.inj made).symm
  · cases made

section Expire

theorem expired_getElem? (window : ReceiverWindow) (nowUs : Nat) (frameId : UInt64) :
    (window.expired nowUs).inflight[frameId]? =
      (window.inflight[frameId]?.filter fun frame => !frame.stale window.policy nowUs).map
        (·.nacked window.policy nowUs) := by
  simp only [expired, getElem?_map, getElem?_filter']

theorem expired_eq_some_iff {frameId : UInt64} {frame : InflightFrame} :
    (window.expired nowUs).inflight[frameId]? = some frame ↔
      ∃ previous, window.inflight[frameId]? = some previous ∧ previous.stale window.policy nowUs = false ∧
        frame = previous.nacked window.policy nowUs := by
  rw [expired_getElem?, Option.map_eq_some_iff]
  constructor
  · rintro ⟨previous, kept, rfl⟩
    obtain ⟨stored, live⟩ := Option.filter_eq_some_iff.mp kept
    exact ⟨previous, stored, by simpa using live, rfl⟩
  · rintro ⟨previous, stored, live, rfl⟩
    exact ⟨previous, Option.filter_eq_some_iff.mpr ⟨stored, by simp [live]⟩, rfl⟩

theorem Counted.expire_eq (counted : window.Counted) (nowUs : Nat) :
    window.expire nowUs = some (window.expired nowUs, window.expiryEvents nowUs) := by
  rw [expire, if_neg]
  simp only [List.any_eq_true, Bool.and_eq_true, not_exists, not_and]
  intro entry member _ overflow
  have stored := mem_toList_iff_getElem?_eq_some.mp (List.mem_filter.mp member).1
  have indices := (counted.sound _ _ stored).missingPacketIndices_isSome
  rw [Option.isNone_iff_eq_none.mp overflow] at indices
  cases indices

theorem Sound.expire_eq (sound : window.Sound) (nowUs : Nat) :
    window.expire nowUs = some (window.expired nowUs, window.expiryEvents nowUs) :=
  sound.counted.expire_eq nowUs

theorem Sound.expired (sound : window.Sound) (nowUs : Nat) : (window.expired nowUs).Sound where
  roomy := sound.roomy
  bounded := by
    simp only [ReceiverWindow.expired, size_map]
    exact size_filter_le_size.trans sound.bounded
  held := by
    intro frameId frame stored
    obtain ⟨previous, before, _, rfl⟩ := expired_eq_some_iff.mp stored
    have held := sound.held frameId previous before
    exact ⟨by simpa using held.own, by simpa using held.sound, by simpa using held.unfinished, held.current⟩

end Expire

section Enter

/-- The frame that `enter` evicts from a full window, if any. -/
def evictee (window : ReceiverWindow) (frameId : UInt64) : Option (UInt64 × InflightFrame) :=
  if window.inflight.contains frameId then none
  else if window.inflight.size < window.policy.maxInflightFrames then none
  else window.inflight.toList.head?

/-- The window that `enter` leaves. -/
def entered (window : ReceiverWindow) (nowUs : Nat) (packet : MediaPacket) : ReceiverWindow :=
  if window.inflight.contains packet.header.frameId then window
  else
    { window with
      inflight := ((window.evictee packet.header.frameId).elim window.inflight
        fun oldest => window.inflight.erase oldest.1).insert packet.header.frameId
          ⟨nowUs, none, .fromFirst packet⟩
      droppedFrames := (window.evictee packet.header.frameId).elim window.droppedFrames
        fun _ => saturatingAdd window.droppedFrames 1 }

theorem makeRoom_of_lt (rounds : Nat) (room : window.inflight.size < window.policy.maxInflightFrames) :
    makeRoom rounds window = (window, []) := by
  cases rounds with
  | zero => rfl
  | succ => rw [makeRoom, if_neg (Nat.not_le.mpr room)]

variable {frameId : UInt64}

theorem evictee_mem {oldest : UInt64 × InflightFrame} (evicted : window.evictee frameId = some oldest) :
    window.inflight[oldest.1]? = some oldest.2 := by
  unfold evictee at evicted
  split at evicted
  · cases evicted
  split at evicted
  · cases evicted
  · exact mem_toList_iff_getElem?_eq_some.mp (List.mem_of_mem_head? evicted)

theorem evictee_cases (roomy : 0 < window.policy.maxInflightFrames)
    (bounded : window.inflight.size ≤ window.policy.maxInflightFrames)
    (absent : ¬window.inflight.contains frameId = true) :
    (window.inflight.size < window.policy.maxInflightFrames ∧ window.evictee frameId = none) ∨
      ∃ oldest, window.inflight.size = window.policy.maxInflightFrames ∧
        window.inflight.toList.head? = some oldest ∧ window.evictee frameId = some oldest ∧
        (window.inflight.erase oldest.1).size < window.policy.maxInflightFrames := by
  by_cases room : window.inflight.size < window.policy.maxInflightFrames
  · exact .inl ⟨room, by simp [evictee, absent, room]⟩
  · have full : window.inflight.size = window.policy.maxInflightFrames :=
      Nat.le_antisymm bounded (Nat.le_of_not_lt room)
    cases atHead : window.inflight.toList.head? with
    | none =>
      have empty := congrArg List.length (List.head?_eq_none_iff.mp atHead)
      rw [length_toList, full, List.length_nil] at empty
      exact absurd empty (Nat.ne_of_gt roomy)
    | some oldest =>
      have evicted : window.evictee frameId = some oldest := by simp [evictee, absent, room, atHead]
      refine .inr ⟨oldest, full, rfl, evicted, ?_⟩
      rw [size_erase_of_getElem? (evictee_mem evicted), full]
      exact Nat.sub_lt roomy Nat.one_pos

theorem enter_eq (roomy : 0 < window.policy.maxInflightFrames)
    (bounded : window.inflight.size ≤ window.policy.maxInflightFrames) (nowUs : Nat) (packet : MediaPacket) :
    window.enter nowUs packet = (window.entered nowUs packet,
      ((window.evictee packet.header.frameId).map dropEvent).toList) := by
  unfold enter entered
  by_cases present : window.inflight.contains packet.header.frameId = true
  · simp [present, evictee]
  · rcases evictee_cases roomy bounded present with ⟨room, spared⟩ | ⟨_, full, first, evicted, smaller⟩
    · simp [present, spared, makeRoom_of_lt _ room]
    · obtain ⟨rounds, size⟩ := Nat.exists_eq_succ_of_ne_zero (Nat.ne_of_gt (full ▸ roomy))
      rw [size, Nat.succ_eq_add_one, makeRoom, if_pos (Nat.le_of_eq full.symm), first]
      simp only [present, evicted, if_false, Bool.false_eq_true]
      rw [makeRoom_of_lt rounds smaller]
      simp

@[simp] theorem entered_policy (window : ReceiverWindow) (nowUs : Nat) (packet : MediaPacket) :
    (window.entered nowUs packet).policy = window.policy := by
  unfold entered
  split <;> rfl

@[simp] theorem entered_latestCompleteFrame (window : ReceiverWindow) (nowUs : Nat) (packet : MediaPacket) :
    (window.entered nowUs packet).latestCompleteFrame = window.latestCompleteFrame := by
  unfold entered
  split <;> rfl

/-- The packet's frame has an entry: the one it had, or a new one. -/
theorem entered_getElem?_self (window : ReceiverWindow) (nowUs : Nat) (packet : MediaPacket) :
    (window.entered nowUs packet).inflight[packet.header.frameId]? =
      some (window.inflight[packet.header.frameId]?.getD ⟨nowUs, none, .fromFirst packet⟩) := by
  unfold entered
  split
  · rename_i present
    rw [contains_iff_mem, ← isSome_getElem?_iff_mem] at present
    obtain ⟨_, stored⟩ := Option.isSome_iff_exists.mp present
    simp [stored]
  · rename_i absent
    rw [contains_iff_mem] at absent
    simp [getElem?_eq_none absent]

/-- Any other frame keeps its entry, unless it is the one evicted. -/
theorem entered_getElem?_other (other : frameId ≠ packet.header.frameId) :
    (window.entered nowUs packet).inflight[frameId]? =
      if ((window.evictee packet.header.frameId).map Prod.fst) = some frameId then none
      else window.inflight[frameId]? := by
  unfold entered
  split
  · rename_i present
    simp [evictee, present]
  · simp only [getElem?_insert_ne other]
    cases window.evictee packet.header.frameId with
    | none => simp
    | some =>
      simp only [Option.elim_some, Option.map_some, Option.some.injEq, getElem?_erase,
        Std.compare_eq_iff_eq]

/-- Entering the frame of a packet keeps the window sound. Where there is no room the oldest entry has made place, and
the new entry is of a frame newer than the last one delivered. -/
theorem Sound.entered (sound : window.Sound) (nowUs : Nat) (valid : packet.header.validate = .ok ())
    (current : window.late packet.header.frameId = false) : (window.entered nowUs packet).Sound where
  roomy := by simpa using sound.roomy
  bounded := by
    rw [entered_policy]
    unfold ReceiverWindow.entered
    split
    · exact sound.bounded
    · rename_i absent
      refine size_insert_le.trans ?_
      rcases evictee_cases sound.roomy sound.bounded absent with ⟨room, spared⟩ | ⟨_, _, _, evicted, smaller⟩
      · simpa only [spared, Option.elim_none] using Nat.succ_le_of_lt room
      · simpa only [evicted, Option.elim_some] using Nat.succ_le_of_lt smaller
  held := by
    intro frameId frame stored
    have lates : (window.entered nowUs packet).late frameId = window.late frameId := by simp [late]
    by_cases same : frameId = packet.header.frameId
    · subst same
      rw [entered_getElem?_self, Option.some.injEq] at stored
      cases before : window.inflight[packet.header.frameId]? with
      | some =>
        rw [before, Option.getD_some] at stored
        subst stored
        have held := sound.held _ _ before
        exact ⟨held.own, held.sound, held.unfinished, lates.trans held.current⟩
      | none =>
        rw [before, Option.getD_none] at stored
        subst stored
        have count := (MediaPacketHeader.validate_eq_ok_iff.mp valid).1
        refine ⟨rfl, fromFirst_sound packet, ?_, lates.trans current⟩
        simp only [isComplete, fromFirst, List.length_replicate, decide_eq_false_iff_not]
        exact fun zero => count (UInt16.toNat_inj.mp zero.symm)
    · rw [entered_getElem?_other same] at stored
      split at stored
      · cases stored
      · have held := sound.held frameId frame stored
        exact ⟨held.own, held.sound, held.unfinished, lates.trans held.current⟩

end Enter

section Push

/-- The window of `push` once the packet's frame has its entry. -/
def opened (window : ReceiverWindow) (nowUs : Nat) (packet : MediaPacket) : ReceiverWindow :=
  (window.expired nowUs).entered nowUs packet

@[simp] theorem opened_policy (window : ReceiverWindow) (nowUs : Nat) (packet : MediaPacket) :
    (window.opened nowUs packet).policy = window.policy :=
  entered_policy _ _ _

@[simp] theorem opened_latestCompleteFrame (window : ReceiverWindow) (nowUs : Nat) (packet : MediaPacket) :
    (window.opened nowUs packet).latestCompleteFrame = window.latestCompleteFrame :=
  entered_latestCompleteFrame _ _ _

/-- The events `push` has collected by then. -/
def openingEvents (window : ReceiverWindow) (nowUs : Nat) (packet : MediaPacket) : List ReceiverEvent :=
  window.expiryEvents nowUs ++ (((window.expired nowUs).evictee packet.header.frameId).map dropEvent).toList

/-- The frame that a complete assembler gives. -/
def assembled (assembler : FrameAssembler) : AssembledFrame :=
  ⟨assembler.streamId, assembler.frameId, assembler.timestampUs, assembler.keyframe,
    (assembler.packets.filterMap id).flatten⟩

theorem assembled_frameId {assembler next : FrameAssembler} (accepted : assembler.push packet = some (.ok next)) :
    (assembled next).frameId = packet.header.frameId := by
  obtain ⟨fits, ⟨_, rfl⟩ | ⟨_, rfl⟩⟩ := push_ok_cases accepted
  · exact fits.frame.symm
  · exact fits.frame.symm

/-- Everything that a call to `push` can do. -/
inductive PushOutcome (window : ReceiverWindow) (nowUs : Nat) (packet : MediaPacket) :
    ReceiverWindow → WindowReply → Prop
  | late : window.late packet.header.frameId = true →
      PushOutcome window nowUs packet (window.expired nowUs) (.ok (window.expiryEvents nowUs))
  | rejected {frame error} : window.late packet.header.frameId = false →
      (window.opened nowUs packet).inflight[packet.header.frameId]? = some frame →
      frame.assembler.push packet = some (.error error) →
      PushOutcome window nowUs packet (window.opened nowUs packet) (.error error)
  | stored {frame assembler} : window.late packet.header.frameId = false →
      (window.opened nowUs packet).inflight[packet.header.frameId]? = some frame →
      frame.assembler.push packet = some (.ok assembler) → assembler.isComplete = false →
      PushOutcome window nowUs packet
        { window.opened nowUs packet with
          inflight := (window.opened nowUs packet).inflight.insert packet.header.frameId
            { frame with assembler := assembler } }
        (.ok (window.openingEvents nowUs packet))
  | delivered {frame assembler} : window.late packet.header.frameId = false →
      (window.opened nowUs packet).inflight[packet.header.frameId]? = some frame →
      frame.assembler.push packet = some (.ok assembler) → assembler.isComplete = true →
      PushOutcome window nowUs packet
        { window.opened nowUs packet with
          inflight := (((window.opened nowUs packet).inflight.insert packet.header.frameId
            { frame with assembler := assembler }).erase packet.header.frameId).filter
              fun candidate _ => packet.header.frameId < candidate
          latestCompleteFrame := some packet.header.frameId }
        (.ok (window.openingEvents nowUs packet ++ [.frameReady (assembled assembler)]))

theorem Sound.opened (sound : window.Sound) (nowUs : Nat) (valid : packet.header.validate = .ok ())
    (current : window.late packet.header.frameId = false) : (window.opened nowUs packet).Sound :=
  (sound.expired nowUs).entered nowUs valid current

/-- `push` returns on every packet with a valid header, and does one of these four things. -/
theorem Sound.push_outcome (sound : window.Sound) (nowUs : Nat) (valid : packet.header.validate = .ok ()) :
    ∃ after reply, window.push nowUs packet = some (after, reply) ∧ PushOutcome window nowUs packet after reply := by
  unfold push
  rw [sound.expire_eq nowUs]
  have lates : (window.expired nowUs).late packet.header.frameId = window.late packet.header.frameId := rfl
  by_cases past : window.late packet.header.frameId = true
  · exact ⟨_, _, by simp only [lates, past, if_true], .late past⟩
  · have current : window.late packet.header.frameId = false := Bool.eq_false_iff.mpr past
    have open' := sound.opened nowUs valid current
    have entry := entered_getElem?_self (window.expired nowUs) nowUs packet
    simp only [lates, current, Bool.false_eq_true, if_false,
      enter_eq (sound.expired nowUs).roomy (sound.expired nowUs).bounded nowUs packet,
      accept]
    rw [entry]
    dsimp only
    obtain ⟨result, pushed⟩ := Option.isSome_iff_exists.mp (push_isSome valid)
    rw [pushed]
    cases result with
    | error => exact ⟨_, _, rfl, .rejected current entry pushed⟩
    | ok assembler =>
      have held := open'.held _ _ entry
      by_cases complete : assembler.isComplete = true
      · simp only [complete, if_true, (held.sound.push pushed).finish_eq complete]
        refine ⟨_, _, rfl, ?_⟩
        rw [← List.append_assoc]
        exact .delivered current entry pushed complete
      · simp only [complete, Bool.false_eq_true, if_false, List.append_nil]
        exact ⟨_, _, rfl, .stored current entry pushed (Bool.eq_false_iff.mpr complete)⟩

variable {after : ReceiverWindow} {reply : WindowReply}

theorem Sound.after_push (sound : window.Sound) (valid : packet.header.validate = .ok ())
    (outcome : PushOutcome window nowUs packet after reply) : after.Sound := by
  cases outcome with
  | late => exact sound.expired nowUs
  | rejected current => exact sound.opened nowUs valid current
  | @stored frame assembler current entry pushed unfinished =>
    have opens := sound.opened nowUs valid current
    have here := opens.held _ _ entry
    refine ⟨opens.roomy, ?_, ?_⟩
    · rw [size_insert_of_getElem? entry]
      exact opens.bounded
    · intro frameId held atFrame
      by_cases same : frameId = packet.header.frameId
      · subst same
        rw [getElem?_insert_self, Option.some.injEq] at atFrame
        subst atFrame
        obtain ⟨_, ⟨_, filled⟩ | ⟨_, kept⟩⟩ := push_ok_cases pushed
        · exact ⟨by rw [filled]; exact here.own, here.sound.push pushed, unfinished, here.current⟩
        · exact ⟨by rw [kept]; exact here.own, here.sound.push pushed, unfinished, here.current⟩
      · rw [getElem?_insert_ne same] at atFrame
        have old := opens.held frameId held atFrame
        exact ⟨old.own, old.sound, old.unfinished, old.current⟩
  | delivered current entry =>
    have opens := sound.opened nowUs valid current
    refine ⟨opens.roomy, ?_, ?_⟩
    · refine size_filter_le_size.trans (size_erase_le.trans ?_)
      rw [size_insert_of_getElem? entry]
      exact opens.bounded
    · intro frameId held atFrame
      rw [getElem?_filter'] at atFrame
      obtain ⟨stored, newer⟩ := Option.filter_eq_some_iff.mp atFrame
      have above : packet.header.frameId < frameId := by simpa using newer
      have other : frameId ≠ packet.header.frameId := by rintro rfl; exact absurd above (UInt64.lt_irrefl _)
      rw [getElem?_erase_ne other, getElem?_insert_ne other] at stored
      have old := opens.held frameId held stored
      exact ⟨old.own, old.sound, old.unfinished, not_late_iff.mpr (by rintro _ ⟨⟩; exact above)⟩

/-- A packet behind the cut-off only lets time pass. -/
theorem PushOutcome.of_late (outcome : PushOutcome window nowUs packet after reply)
    (behind : window.late packet.header.frameId = true) :
    after = window.expired nowUs ∧ reply = .ok (window.expiryEvents nowUs) := by
  cases outcome with
  | late => exact ⟨rfl, rfl⟩
  | rejected current => exact absurd (current.symm.trans behind) (by simp)
  | stored current => exact absurd (current.symm.trans behind) (by simp)
  | delivered current => exact absurd (current.symm.trans behind) (by simp)

theorem PushOutcome.policy_eq (outcome : PushOutcome window nowUs packet after reply) :
    after.policy = window.policy := by
  cases outcome with
  | late => rfl
  | rejected | stored | delivered => simp

/-- An entry of another frame that is still there is the one that was there. -/
theorem PushOutcome.other_entry (outcome : PushOutcome window nowUs packet after reply) {frameId : UInt64}
    (other : frameId ≠ packet.header.frameId) {frame : InflightFrame} (stored : after.inflight[frameId]? = some frame) :
    ∃ previous, window.inflight[frameId]? = some previous ∧ previous.stale window.policy nowUs = false ∧
      frame = previous.nacked window.policy nowUs := by
  have fromOpened (there : (window.opened nowUs packet).inflight[frameId]? = some frame) :
      (window.expired nowUs).inflight[frameId]? = some frame := by
    rw [opened, entered_getElem?_other other] at there
    split at there
    · cases there
    · exact there
  refine expired_eq_some_iff.mp ?_
  cases outcome with
  | late => exact stored
  | rejected => exact fromOpened stored
  | stored => exact fromOpened (by rwa [getElem?_insert_ne other] at stored)
  | delivered =>
    rw [getElem?_filter'] at stored
    have there := (Option.filter_eq_some_iff.mp stored).1
    rw [getElem?_erase_ne other, getElem?_insert_ne other] at there
    exact fromOpened there

/-- The frame that an event hands over. -/
def readyFrame : ReceiverEvent → Option AssembledFrame
  | .frameReady frame => some frame
  | _ => none

theorem expiryEvents_ready (window : ReceiverWindow) (nowUs : Nat) :
    (window.expiryEvents nowUs).filterMap readyFrame = [] := by
  rw [List.filterMap_eq_nil_iff]
  intro event member
  simp only [expiryEvents, List.mem_append, List.mem_filterMap, List.mem_map, Option.mem_toList,
    Option.map_eq_some_iff] at member
  rcases member with ⟨_, _, asked⟩ | ⟨_, _, rfl⟩ | ⟨_, _, rfl⟩
  · unfold nackEvent at asked
    split at asked
    · cases asked
      rfl
    · cases asked
  · rfl
  · rfl

theorem openingEvents_ready (window : ReceiverWindow) (nowUs : Nat) (packet : MediaPacket) :
    (window.openingEvents nowUs packet).filterMap readyFrame = [] := by
  rw [openingEvents, List.filterMap_append, expiryEvents_ready]
  cases (window.expired nowUs).evictee packet.header.frameId with
  | none | some => rfl

end Push

end ReceiverWindow

end ClassMesh
