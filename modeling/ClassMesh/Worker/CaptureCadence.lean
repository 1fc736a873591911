import ClassMesh.Foundation.Run
import ClassMesh.Foundation.Saturating

namespace ClassMesh

open Foundation

structure CaptureCadence where
  nextDueUs : Option UInt64 := none
  lastSeenUs : Option UInt64 := none

def CaptureCadence.shouldSubmit (cadence : CaptureCadence) (timestampUs intervalUs : UInt64) : CaptureCadence × Bool :=
  if intervalUs = 0 then (cadence, false)
  else
    -- A recovered capture backend may restart its clock.
    let nextDueUs := if cadence.lastSeenUs.any fun last => timestampUs < last then none else cadence.nextDueUs
    match nextDueUs with
    | some nextDue =>
      if timestampUs < nextDue then (⟨some nextDue, some timestampUs⟩, false)
      else
        let elapsed := timestampUs - nextDue
        let slots := saturatingAdd (elapsed / intervalUs) 1
        (⟨some (saturatingAdd nextDue (saturatingMul slots intervalUs).toNat), some timestampUs⟩, true)
    | none => (⟨some (saturatingAdd timestampUs intervalUs.toNat), some timestampUs⟩, true)

/-- The frames of one stream, all with the same interval. -/
def CaptureCadence.frame (intervalUs : UInt64) (cadence : CaptureCadence) (timestampUs : UInt64) :
    CaptureCadence × Bool :=
  cadence.shouldSubmit timestampUs intervalUs

abbrev CadenceCall := Call CaptureCadence UInt64 Bool

/-- The number of whole intervals since the segment began. -/
def slotOf (first interval timestamp : UInt64) : Nat := (timestamp.toNat - first.toNat) / interval.toNat

/-- A segment begins with the first frame, and with each frame older than the one before it. -/
def BeginsSegment (before : List CadenceCall) (opening : CadenceCall) : Prop :=
  ∀ last ∈ before.getLast?, opening.input < last.input

/-- The frames of a segment do not go back in time, and the end of the slot of each is a time. -/
structure CadenceSegment (interval : UInt64) (opening : CadenceCall) (rest : List CadenceCall) : Prop where
  ordered : (opening :: rest).Pairwise fun former latter => former.input ≤ latter.input
  unsaturated : ∀ call ∈ opening :: rest,
    opening.input.toNat + (slotOf opening.input interval call.input + 1) * interval.toNat < 2 ^ 64

section Slots

variable {first interval last timestamp : UInt64}

theorem slotOf_first : slotOf first interval first = 0 := by
  rw [slotOf, Nat.sub_self, Nat.zero_div]

theorem slotOf_mono (later : last ≤ timestamp) : slotOf first interval last ≤ slotOf first interval timestamp :=
  Nat.div_le_div_right (Nat.sub_le_sub_right (UInt64.le_iff_toNat_le.mp later) _)

/-- A frame is before the end of a slot if its own slot is not a later one. -/
theorem lt_slot_end_iff (positive : 0 < interval.toNat) (after : first ≤ timestamp) (slot : Nat) :
    timestamp.toNat < first.toNat + (slot + 1) * interval.toNat ↔ slotOf first interval timestamp ≤ slot := by
  have since := UInt64.le_iff_toNat_le.mp after
  rw [slotOf, ← Nat.lt_succ_iff, Nat.div_lt_iff_lt_mul positive, Nat.succ_eq_add_one]
  omega

/-- The slots skipped after a gap, counted from the end of a slot. -/
theorem slotOf_eq_add (positive : 0 < interval.toNat) {slot : Nat}
    (past : first.toNat + (slot + 1) * interval.toNat ≤ timestamp.toNat) :
    slotOf first interval timestamp =
      (timestamp.toNat - (first.toNat + (slot + 1) * interval.toNat)) / interval.toNat + (slot + 1) := by
  have split : timestamp.toNat - first.toNat =
      timestamp.toNat - (first.toNat + (slot + 1) * interval.toNat) + (slot + 1) * interval.toNat := by
    omega
  rw [slotOf, split, Nat.add_mul_div_right _ _ positive]

end Slots

/-- Between two frames of a segment the next due time is the end of the slot of the last frame. -/
structure CadenceArmed (first interval last : UInt64) (cadence : CaptureCadence) : Prop where
  seen : cadence.lastSeenUs = some last
  since : first ≤ last
  due : ∃ due, cadence.nextDueUs = some due ∧
    due.toNat = first.toNat + (slotOf first interval last + 1) * interval.toNat

section Frames

variable {first interval last timestamp : UInt64} {cadence : CaptureCadence}

open CaptureCadence

theorem frame_seen (nonzero : interval ≠ 0) (cadence : CaptureCadence) (timestamp : UInt64) :
    (cadence.frame interval timestamp).1.lastSeenUs = some timestamp := by
  simp only [frame, shouldSubmit, if_neg nonzero]
  split
  · split
    · rfl
    · rfl
  · rfl

/-- The first frame of a segment is submitted. -/
theorem frame_begins (nonzero : interval ≠ 0)
    (unarmed : cadence.nextDueUs = none ∨ ∃ last, cadence.lastSeenUs = some last ∧ timestamp < last)
    (unsaturated : timestamp.toNat + interval.toNat < 2 ^ 64) :
    (cadence.frame interval timestamp).2 = true ∧
      CadenceArmed timestamp interval timestamp (cadence.frame interval timestamp).1 := by
  have rearmed : (if cadence.lastSeenUs.any fun last => timestamp < last then none else cadence.nextDueUs) = none := by
    rcases unarmed with none | ⟨_, seen, older⟩
    · rw [none, ite_self]
    · rw [seen]
      simp [older]
  have taken : cadence.frame interval timestamp =
      (⟨some (saturatingAdd timestamp interval.toNat), some timestamp⟩, true) := by
    simp only [frame, shouldSubmit, if_neg nonzero, rearmed]
  rw [taken]
  refine ⟨rfl, rfl, UInt64.le_refl _, _, rfl, ?_⟩
  have size : UInt64.size = 2 ^ 64 := rfl
  rw [saturatingAdd_toNat, slotOf_first]
  omega

/-- A later frame of the segment is submitted if it falls in a later slot than the last frame. -/
theorem frame_continues (nonzero : interval ≠ 0) (armed : CadenceArmed first interval last cadence)
    (ordered : last ≤ timestamp)
    (unsaturated : first.toNat + (slotOf first interval timestamp + 1) * interval.toNat < 2 ^ 64) :
    ((cadence.frame interval timestamp).2 = true ↔ slotOf first interval last < slotOf first interval timestamp) ∧
      CadenceArmed first interval timestamp (cadence.frame interval timestamp).1 := by
  have positive := UInt64.lt_iff_toNat_lt.mp (UInt64.pos_iff_ne_zero.mpr nonzero)
  have since := UInt64.le_trans armed.since ordered
  obtain ⟨due, known, value⟩ := armed.due
  have rearmed : (if cadence.lastSeenUs.any fun last => timestamp < last then none else cadence.nextDueUs) =
      some due := by
    rw [armed.seen, known]
    simp [UInt64.not_lt.mpr ordered]
  by_cases early : timestamp < due
  · have taken : cadence.frame interval timestamp = (⟨some due, some timestamp⟩, false) := by
      simp only [frame, shouldSubmit, if_neg nonzero, rearmed, if_pos early]
    have notLater : slotOf first interval timestamp ≤ slotOf first interval last := by
      rw [← lt_slot_end_iff positive since, ← value]
      exact UInt64.lt_iff_toNat_lt.mp early
    have sameSlot := Nat.le_antisymm notLater (slotOf_mono ordered)
    rw [taken]
    refine ⟨iff_of_false (by simp) (by omega), rfl, since, due, rfl, ?_⟩
    rw [value, sameSlot]
  · have reached : first.toNat + (slotOf first interval last + 1) * interval.toNat ≤ timestamp.toNat := by
      rw [← value]
      exact UInt64.le_iff_toNat_le.mp (UInt64.not_lt.mp early)
    have taken : cadence.frame interval timestamp =
        (⟨some (saturatingAdd due (saturatingMul (saturatingAdd ((timestamp - due) / interval) 1) interval).toNat),
          some timestamp⟩, true) := by
      simp only [frame, shouldSubmit, if_neg nonzero, rearmed, if_neg early]
    have elapsed : (timestamp - due).toNat = timestamp.toNat - due.toNat :=
      UInt64.toNat_sub_of_le _ _ (UInt64.not_lt.mp early)
    have skipped := slotOf_eq_add positive reached
    rw [← value, ← elapsed, ← UInt64.toNat_div] at skipped
    -- The new due time in closed form, which the segment says is a time.
    have slots : first.toNat + (slotOf first interval timestamp + 1) * interval.toNat =
        due.toNat + (((timestamp - due) / interval).toNat + 1) * interval.toNat := by
      rw [skipped, value]
      ring
    have size : UInt64.size = 2 ^ 64 := rfl
    rw [slots] at unsaturated
    have few : ((timestamp - due) / interval).toNat + 1 < UInt64.size :=
      calc ((timestamp - due) / interval).toNat + 1
          ≤ (((timestamp - due) / interval).toNat + 1) * interval.toNat := Nat.le_mul_of_pos_right _ positive
        _ ≤ due.toNat + (((timestamp - due) / interval).toNat + 1) * interval.toNat := Nat.le_add_left _ _
        _ < UInt64.size := unsaturated
    have counted : (saturatingAdd ((timestamp - due) / interval) 1).toNat =
        ((timestamp - due) / interval).toNat + 1 := by
      rw [saturatingAdd_toNat, Nat.min_eq_left (Nat.le_sub_one_of_lt few)]
    rw [taken]
    refine ⟨iff_of_true rfl (by omega), rfl, since, _, rfl, ?_⟩
    rw [saturatingAdd_toNat, saturatingMul_toNat, counted, slots]
    generalize (((timestamp - due) / interval).toNat + 1) * interval.toNat = gap at unsaturated
    omega

end Frames

/-- However irregular the frames are, the next due time is at most one interval after the last frame. -/
structure CadencePaced (interval last : UInt64) (cadence : CaptureCadence) : Prop where
  seen : cadence.lastSeenUs = some last
  due : ∃ due, cadence.nextDueUs = some due ∧ due.toNat ≤ last.toNat + interval.toNat

section Pace

variable {interval last timestamp : UInt64} {cadence : CaptureCadence}

theorem paced_of_unarmed (nonzero : interval ≠ 0) (unarmed : cadence.nextDueUs = none) :
    CadencePaced interval timestamp (cadence.shouldSubmit timestamp interval).1 ∧
      (cadence.shouldSubmit timestamp interval).2 = true := by
  simp only [CaptureCadence.shouldSubmit, if_neg nonzero, unarmed, ite_self, and_true]
  refine ⟨rfl, _, rfl, ?_⟩
  rw [saturatingAdd_toNat]
  exact Nat.min_le_left _ _

theorem CadencePaced.frame (nonzero : interval ≠ 0) (paced : CadencePaced interval last cadence)
    (ordered : last ≤ timestamp) :
    CadencePaced interval timestamp (cadence.shouldSubmit timestamp interval).1 ∧
      (last.toNat + interval.toNat ≤ timestamp.toNat → (cadence.shouldSubmit timestamp interval).2 = true) := by
  obtain ⟨due, known, _⟩ := paced.due
  have since := UInt64.le_iff_toNat_le.mp ordered
  have rearmed : (if cadence.lastSeenUs.any fun last => timestamp < last then none else cadence.nextDueUs) =
      some due := by
    rw [paced.seen, known]
    simp [UInt64.not_lt.mpr ordered]
  simp only [CaptureCadence.shouldSubmit, if_neg nonzero, rearmed]
  by_cases early : timestamp < due
  · have before := UInt64.lt_iff_toNat_lt.mp early
    simp only [if_pos early]
    refine ⟨⟨rfl, due, rfl, by omega⟩, fun late => ?_⟩
    omega
  · have reached := UInt64.le_iff_toNat_le.mp (UInt64.not_lt.mp early)
    simp only [if_neg early]
    refine ⟨⟨rfl, _, rfl, ?_⟩, fun _ => trivial⟩
    have elapsed : (timestamp - due).toNat = timestamp.toNat - due.toNat :=
      UInt64.toNat_sub_of_le _ _ (UInt64.not_lt.mp early)
    have slots : ((timestamp - due) / interval).toNat * interval.toNat ≤ timestamp.toNat - due.toNat := by
      rw [UInt64.toNat_div, elapsed]
      exact Nat.div_mul_le_self _ _
    calc (saturatingAdd due (saturatingMul (saturatingAdd ((timestamp - due) / interval) 1) interval).toNat).toNat
        ≤ due.toNat + (saturatingMul (saturatingAdd ((timestamp - due) / interval) 1) interval).toNat := by
          rw [saturatingAdd_toNat]
          exact Nat.min_le_left _ _
      _ ≤ due.toNat + (saturatingAdd ((timestamp - due) / interval) 1).toNat * interval.toNat := by
          rw [saturatingMul_toNat]
          exact Nat.add_le_add_left (Nat.min_le_left _ _) _
      _ ≤ due.toNat + (((timestamp - due) / interval).toNat + 1) * interval.toNat := by
          rw [saturatingAdd_toNat]
          exact Nat.add_le_add_left (Nat.mul_le_mul_right _ (Nat.min_le_left _ _)) _
      _ ≤ timestamp.toNat + interval.toNat := by
          rw [Nat.add_mul, Nat.one_mul]
          omega

end Pace

/-- What the answers of a segment have been so far. -/
structure SegmentHistory (interval : UInt64) (opening : CadenceCall) (rest : List CadenceCall)
    (last : UInt64) : Prop where
  submitted : ∀ earlier call later, opening :: rest = earlier ++ call :: later → (call.reply = true ↔
    ∀ other ∈ earlier, slotOf opening.input interval other.input ≠ slotOf opening.input interval call.input)
  within : ∀ call ∈ opening :: rest, slotOf opening.input interval call.input ≤ slotOf opening.input interval last
  latest : ∃ call, (opening :: rest).getLast? = some call ∧ call.input = last
  counted : ((opening :: rest).filter (·.reply)).length ≤ slotOf opening.input interval last + 1

section Segments

variable {interval : UInt64} {opening : CadenceCall} {rest : List CadenceCall} {last : UInt64}

theorem SegmentHistory.opened (submitted : opening.reply = true) :
    SegmentHistory interval opening [] opening.input where
  submitted := by
    intro earlier call later cut
    rcases cons_eq_append_cons cut with ⟨rfl, rfl, rfl⟩ | ⟨_, rfl, none⟩
    · simp [submitted]
    · simp at none
  within := by simp
  latest := ⟨opening, rfl, rfl⟩
  counted := by simp [submitted]

theorem SegmentHistory.concat {call : CadenceCall} (history : SegmentHistory interval opening rest last)
    (ordered : last ≤ call.input)
    (answer : call.reply = true ↔ slotOf opening.input interval last < slotOf opening.input interval call.input) :
    SegmentHistory interval opening (rest ++ [call]) call.input where
  submitted := by
    intro earlier other later cut
    rw [← List.cons_append] at cut
    rcases snoc_eq_append_cons cut with ⟨rfl, rfl, rfl⟩ | ⟨_, _, old⟩
    · rw [answer]
      constructor
      · intro later other member
        have before := history.within other member
        omega
      · intro fresh
        obtain ⟨latest, final, same⟩ := history.latest
        have different := fresh latest (List.mem_of_getLast? final)
        rw [same] at different
        exact Nat.lt_of_le_of_ne (slotOf_mono ordered) different
    · exact history.submitted _ _ _ old
  within := by
    intro other member
    rw [← List.cons_append] at member
    rcases List.mem_append.mp member with old | new
    · exact Nat.le_trans (history.within other old) (slotOf_mono ordered)
    · rw [List.mem_singleton.mp new]
  latest := ⟨call, by rw [← List.cons_append, List.getLast?_concat], rfl⟩
  counted := by
    have counted := history.counted
    have grows : slotOf opening.input interval last ≤ slotOf opening.input interval call.input := slotOf_mono ordered
    rw [← List.cons_append, List.filter_append, List.length_append]
    by_cases submitted : call.reply = true
    · have later := answer.mp submitted
      rw [List.filter_cons_of_pos submitted, List.filter_nil, List.length_singleton]
      omega
    · rw [List.filter_cons_of_neg submitted, List.filter_nil, List.length_nil]
      omega

/-- The answers along a segment, by induction on its frames: the due time that is armed separates the slots already
served from the next one. -/
theorem segmentHistory_of_run {final : CaptureCadence} (nonzero : interval ≠ 0) (submitted : opening.reply = true)
    (armed : CadenceArmed opening.input interval opening.input opening.after)
    (run : Run (Total (CaptureCadence.frame interval)) opening.after rest final)
    (segment : CadenceSegment interval opening rest) :
    ∃ last, CadenceArmed opening.input interval last final ∧ SegmentHistory interval opening rest last := by
  induction run with
  | start => exact ⟨opening.input, armed, .opened submitted⟩
  | @next past current timestamp reply after _ taken ih =>
    have earlier : CadenceSegment interval opening past := by
      refine ⟨?_, fun call member => segment.unsaturated call ?_⟩
      · have ordered := segment.ordered
        rw [← List.cons_append] at ordered
        exact (List.pairwise_append.mp ordered).1
      · rw [← List.cons_append]
        exact List.mem_append_left _ member
    obtain ⟨last, armed, history⟩ := ih earlier
    have ordered : last ≤ timestamp := by
      obtain ⟨latest, final, same⟩ := history.latest
      have ordered := segment.ordered
      rw [← List.cons_append] at ordered
      rw [← same]
      exact (List.pairwise_append.mp ordered).2.2 latest (List.mem_of_getLast? final) _ List.mem_cons_self
    have unsaturated := segment.unsaturated ⟨current, timestamp, reply, after⟩ (by simp)
    obtain ⟨answer, rearmed⟩ := frame_continues nonzero armed ordered unsaturated
    rw [taken] at answer rearmed
    exact ⟨timestamp, rearmed, history.concat ordered answer⟩

end Segments

/-- The cadence submits the first frame of each slot. In every segment of the timestamps, whatever came before it, a
frame is submitted exactly if no earlier frame of the segment fell in its slot, so that there are no more submitted
frames than slots. -/
theorem cadence_submits_first_of_slot {interval : UInt64} (nonzero : interval ≠ 0) {past : List CadenceCall}
    {final : CaptureCadence} (run : Run (Total (CaptureCadence.frame interval)) {} past final)
    {before rest later : List CadenceCall} {opening : CadenceCall} (cut : past = before ++ opening :: (rest ++ later))
    (begins : BeginsSegment before opening) (segment : CadenceSegment interval opening rest) :
    (∀ earlier call after, opening :: rest = earlier ++ call :: after → (call.reply = true ↔
      ∀ other ∈ earlier, slotOf opening.input interval other.input ≠ slotOf opening.input interval call.input)) ∧
    ∀ last ∈ (opening :: rest).getLast?,
      ((opening :: rest).filter (·.reply)).length ≤ slotOf opening.input interval last.input + 1 := by
  obtain ⟨reached, taken, since⟩ := run.split cut
  obtain ⟨_, during, _⟩ := since.parts
  have unarmed : opening.before.nextDueUs = none ∨
      ∃ last, opening.before.lastSeenUs = some last ∧ opening.input < last := by
    rcases List.eq_nil_or_concat before with rfl | ⟨_, previous, rfl⟩
    · exact .inl (by rw [reached.of_nil])
    · rw [List.concat_eq_append] at reached begins
      obtain ⟨_, made, same⟩ := reached.of_concat
      have seen := frame_seen nonzero previous.before previous.input
      rw [made] at seen
      exact .inr ⟨previous.input, by rw [same, seen], begins previous (by simp)⟩
  have unsaturated := segment.unsaturated opening List.mem_cons_self
  rw [slotOf_first] at unsaturated
  obtain ⟨submitted, armed⟩ := frame_begins nonzero unarmed (by omega)
  rw [taken] at submitted armed
  obtain ⟨_, _, history⟩ := segmentHistory_of_run nonzero submitted armed during segment
  refine ⟨history.submitted, fun final found => ?_⟩
  obtain ⟨latest, known, same⟩ := history.latest
  cases known.symm.trans found
  rw [same]
  exact history.counted

/-- A frame at 7 falls in the slot of the frame at 5; the clock restarts at 2 after a gap. -/
def restartedFrames : List UInt64 := [5, 7, 41, 2, 3]

/-- The timestamps start again after the third frame, and with them the slots. -/
theorem cadence_submits_first_of_restarted :
    (calls (CaptureCadence.frame 10) {} restartedFrames).map (·.reply) = [true, false, true, true, false] ∧
      (((calls (CaptureCadence.frame 10) {} restartedFrames).take 3).filter (·.reply)).length ≤ slotOf 5 10 41 + 1 := by
  have segment : CadenceSegment 10 ⟨{}, 5, true, ⟨some 15, some 5⟩⟩
      [⟨⟨some 15, some 5⟩, 7, false, ⟨some 15, some 7⟩⟩, ⟨⟨some 15, some 7⟩, 41, true, ⟨some 45, some 41⟩⟩] :=
    ⟨by decide, by decide⟩
  have cut : calls (CaptureCadence.frame 10) {} restartedFrames = [] ++ ⟨{}, 5, true, ⟨some 15, some 5⟩⟩ ::
      ([⟨⟨some 15, some 5⟩, 7, false, ⟨some 15, some 7⟩⟩, ⟨⟨some 15, some 7⟩, 41, true, ⟨some 45, some 41⟩⟩] ++
        (calls (CaptureCadence.frame 10) {} restartedFrames).drop 3) := rfl
  have main := cadence_submits_first_of_slot (by decide) (Run.of_calls _ _ restartedFrames) cut
    (by simp [BeginsSegment]) segment
  exact ⟨rfl, main.2 _ rfl⟩

end ClassMesh
