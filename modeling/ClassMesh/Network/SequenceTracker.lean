import ClassMesh.Foundation.OrderedMap
import ClassMesh.Foundation.Run
import ClassMesh.Foundation.Saturating
import ClassMesh.Foundation.Wrapping

namespace ClassMesh

open Std Foundation

def maxTrackedGap : UInt32 := 4096

inductive SequenceObservation
  | first
  | inOrder
  | gap (missing : UInt32)
  | reorderedOrDuplicate
deriving DecidableEq, Repr

structure SequenceTracker where
  highest : Option UInt32 := none
  missing : BTreeSet UInt32 := ∅
  received : UInt64 := 0
  reorderedOrDuplicate : UInt64 := 0

namespace SequenceTracker

def discardOutdatedGaps (tracker : SequenceTracker) (newest : UInt32) : SequenceTracker :=
  { tracker with
    missing := tracker.missing.filter fun sequence =>
      0 < newest - sequence && newest - sequence ≤ maxTrackedGap }

/-- The sequence numbers right before the given one, the latest first. -/
def gapBefore (sequence tracked : UInt32) : List UInt32 :=
  (List.range tracked.toNat).map fun age => sequence - UInt32.ofNat (age + 1)

/-- Removing a number that is not there leaves the set as it is; the code counts both cases alike. -/
def observe (tracker : SequenceTracker) (sequence : UInt32) : SequenceTracker × SequenceObservation :=
  let tracker := { tracker with received := saturatingAdd tracker.received 1 }
  match tracker.highest with
  | none => ({ tracker with highest := some sequence }, .first)
  | some highest =>
    let expected := highest + 1
    if sequence = expected then
      ({ tracker.discardOutdatedGaps sequence with highest := some sequence }, .inOrder)
    else
      let ahead := sequence - expected
      if ahead < 0xFFFFFFFF / 2 then
        let pruned := tracker.discardOutdatedGaps sequence
        ({ pruned with
            missing := (gapBefore sequence (min ahead maxTrackedGap)).foldl (fun missing old => missing.insert old)
              pruned.missing
            highest := some sequence }, .gap ahead)
      else
        ({ tracker with
            missing := tracker.missing.erase sequence
            reorderedOrDuplicate := saturatingAdd tracker.reorderedOrDuplicate 1 }, .reorderedOrDuplicate)

def missingSequences (tracker : SequenceTracker) : List UInt32 := tracker.missing.toList

end SequenceTracker

/-! The reference numbers the datagrams without bound. -/

inductive ReferenceObservation
  | first
  | inOrder
  | gap (missing : ℤ)
  | reorderedOrDuplicate
deriving DecidableEq

def SequenceObservation.unbounded : SequenceObservation → ReferenceObservation
  | .first => .first
  | .inOrder => .inOrder
  | .gap missing => .gap missing.toNat
  | .reorderedOrDuplicate => .reorderedOrDuplicate

/-- How the reference classifies an index after those it has seen. -/
def classify (seen : List ℤ) (index : ℤ) : ReferenceObservation :=
  match seen.max? with
  | none => .first
  | some highest =>
    if index = highest + 1 then .inOrder
    else if highest + 1 < index then .gap (index - highest - 1)
    else .reorderedOrDuplicate

/-- The indices that the reference reports as missing. -/
def ReferenceMissing (seen : List ℤ) (index : ℤ) : Prop :=
  ∃ first highest, seen.head? = some first ∧ seen.max? = some highest ∧ first < index ∧ index < highest ∧
    highest - index ≤ 4096 ∧ index ∉ seen

/-- The index lies within half the range of the sequence numbers around the highest one seen. -/
def WithinHalfRange (seen : List ℤ) (index : ℤ) : Prop :=
  ∀ highest, seen.max? = some highest → highest - 2 ^ 31 ≤ index ∧ index ≤ highest + 2 ^ 31 - 1

section Reference

variable {seen : List ℤ} {first highest index i : ℤ}

theorem max?_concat (top : seen.max? = some highest) : (seen ++ [index]).max? = some (max highest index) := by
  obtain ⟨reached, above⟩ := List.max?_eq_some_iff.mp top
  refine List.max?_eq_some_iff.mpr ⟨?_, fun i member => ?_⟩
  · rcases max_choice highest index with same | same
    · rw [same]
      exact List.mem_append_left _ reached
    · rw [same]
      exact List.mem_concat_self
  · rcases List.mem_append.mp member with old | new
    · exact le_max_of_le_left (above i old)
    · exact le_max_of_le_right (List.mem_singleton.mp new).le

theorem head?_concat (started : seen.head? = some first) : (seen ++ [index]).head? = some first := by
  rw [List.head?_append, started]
  rfl

theorem referenceMissing_iff (started : seen.head? = some first) (top : seen.max? = some highest) :
    ReferenceMissing seen i ↔ first < i ∧ i < highest ∧ highest - i ≤ 4096 ∧ i ∉ seen := by
  constructor
  · rintro ⟨_, _, started', top', missing⟩
    cases started.symm.trans started'
    cases top.symm.trans top'
    exact missing
  · intro missing
    exact ⟨first, highest, started, top, missing⟩

theorem le_of_max? (top : seen.max? = some highest) (member : i ∈ seen) : i ≤ highest :=
  (List.max?_eq_some_iff.mp top).2 i member

/-- A new highest index leaves a gap behind it, and older gaps go out of reach. -/
theorem referenceMissing_advance (started : seen.head? = some first) (top : seen.max? = some highest)
    (ahead : highest < index) :
    ReferenceMissing (seen ++ [index]) i ↔
      index - i ≤ 4096 ∧ (ReferenceMissing seen i ∨ (highest < i ∧ i < index)) := by
  have newTop : (seen ++ [index]).max? = some index := by rw [max?_concat top, max_eq_right ahead.le]
  have reached : highest ∈ seen := (List.max?_eq_some_iff.mp top).1
  have firstLe : first ≤ highest := le_of_max? top (List.mem_of_head? started)
  rw [referenceMissing_iff (head?_concat started) newTop, referenceMissing_iff started top, List.mem_append,
    List.mem_singleton]
  constructor
  · rintro ⟨after, before, near, unseen⟩
    refine ⟨near, ?_⟩
    rcases Int.lt_trichotomy i highest with below | same | above
    · exact .inl ⟨after, below, by omega, fun member => unseen (.inl member)⟩
    · exact absurd (.inl (same ▸ reached)) unseen
    · exact .inr ⟨above, before⟩
  · rintro ⟨near, ⟨after, _, -, unseen⟩ | ⟨_, before⟩⟩
    · exact ⟨after, by omega, near, fun either => either.elim unseen (by omega)⟩
    · refine ⟨by omega, before, near, fun either => either.elim (fun member => ?_) (by omega)⟩
      have atMost := le_of_max? top member
      omega

theorem referenceMissing_behind (started : seen.head? = some first) (top : seen.max? = some highest)
    (behind : index ≤ highest) : ReferenceMissing (seen ++ [index]) i ↔ ReferenceMissing seen i ∧ i ≠ index := by
  have newTop : (seen ++ [index]).max? = some highest := by rw [max?_concat top, max_eq_left behind]
  rw [referenceMissing_iff (head?_concat started) newTop, referenceMissing_iff started top, List.mem_append,
    List.mem_singleton, not_or]
  tauto

end Reference

namespace SequenceTracker

/-- The tracker's state is the image of the reference's. -/
structure Tracks (tracker : SequenceTracker) (seen : List ℤ) : Prop where
  highest : tracker.highest = seen.max?.map UInt32.ofInt
  missing : ∀ sequence, sequence ∈ tracker.missing ↔ ∃ i, ReferenceMissing seen i ∧ UInt32.ofInt i = sequence

variable {tracker : SequenceTracker} {seen : List ℤ} {first highest index i : ℤ} {sequence : UInt32}

theorem mem_discardOutdatedGaps (newest : UInt32) :
    sequence ∈ (tracker.discardOutdatedGaps newest).missing ↔
      sequence ∈ tracker.missing ∧ 0 < newest - sequence ∧ newest - sequence ≤ maxTrackedGap := by
  rw [discardOutdatedGaps, BTreeSet.mem_filter]
  simp

theorem age_iff (behind : i < index) (close : index - i < 2 ^ 32) :
    0 < UInt32.ofInt index - UInt32.ofInt i ∧ UInt32.ofInt index - UInt32.ofInt i ≤ maxTrackedGap ↔
      index - i ≤ 4096 := by
  have age := toNat_ofInt_sub_of_le behind.le close
  have limit : maxTrackedGap.toNat = 4096 := rfl
  rw [UInt32.lt_iff_toNat_lt, UInt32.le_iff_toNat_le, UInt32.toNat_zero]
  omega

/-- What pruning keeps of the gaps, in true indices. -/
theorem Tracks.mem_pruned (tracks : tracker.Tracks seen) (top : seen.max? = some highest) (ahead : highest < index)
    (close : index ≤ highest + 2 ^ 31 - 1) :
    sequence ∈ (tracker.discardOutdatedGaps (UInt32.ofInt index)).missing ↔
      ∃ i, (index - i ≤ 4096 ∧ ReferenceMissing seen i) ∧ UInt32.ofInt i = sequence := by
  rw [mem_discardOutdatedGaps, tracks.missing]
  have age {i : ℤ} (missing : ReferenceMissing seen i) :
      0 < UInt32.ofInt index - UInt32.ofInt i ∧ UInt32.ofInt index - UInt32.ofInt i ≤ maxTrackedGap ↔
        index - i ≤ 4096 := by
    obtain ⟨_, _, _, top', _, below, _⟩ := missing
    cases top.symm.trans top'
    exact age_iff (below.trans ahead) (by omega)
  constructor
  · rintro ⟨⟨i, missing, rfl⟩, recent⟩
    exact ⟨i, ⟨(age missing).mp recent, missing⟩, rfl⟩
  · rintro ⟨i, ⟨near, missing⟩, rfl⟩
    exact ⟨⟨i, missing, rfl⟩, (age missing).mpr near⟩

theorem mem_gapBefore {tracked : UInt32} :
    sequence ∈ gapBefore (UInt32.ofInt index) tracked ↔
      ∃ i, index - tracked.toNat ≤ i ∧ i < index ∧ UInt32.ofInt i = sequence := by
  have image (age : Nat) : UInt32.ofInt index - UInt32.ofNat (age + 1) = UInt32.ofInt (index - (age + 1 : Nat)) := by
    have whole : UInt32.ofNat (age + 1) = UInt32.ofInt (age + 1 : Nat) := by
      refine UInt32.toNat_inj.mp ?_
      have left := toNat_ofInt (age + 1 : Nat)
      rw [UInt32.toNat_ofNat']
      omega
    have left := toNat_ofInt_sub index (age + 1 : Nat)
    have right := toNat_ofInt (index - (age + 1 : Nat))
    rw [whole]
    exact UInt32.toNat_inj.mp (by omega)
  simp only [gapBefore, List.mem_map, List.mem_range, image]
  constructor
  · rintro ⟨age, _, rfl⟩
    exact ⟨index - (age + 1 : Nat), by omega, by omega, rfl⟩
  · rintro ⟨i, _, _, rfl⟩
    exact ⟨(index - i - 1).toNat, by omega, by congr 1; omega⟩

section Step

variable (tracks : tracker.Tracks seen) (started : seen.head? = some first) (top : seen.max? = some highest)
  (within : WithinHalfRange seen index)

include tracks top

theorem Tracks.highest_eq : tracker.highest = some (UInt32.ofInt highest) := by
  rw [tracks.highest, top, Option.map_some]

include started within

theorem Tracks.observe_inOrder (next : index = highest + 1) :
    (tracker.observe (UInt32.ofInt index)).1.Tracks (seen ++ [index]) ∧
      (tracker.observe (UInt32.ofInt index)).2 = .inOrder := by
  have ahead : highest < index := by omega
  have close := (within highest top).2
  have expected : UInt32.ofInt index = UInt32.ofInt highest + 1 := by rw [ofInt_add_one, next]
  simp only [observe, tracks.highest_eq top, if_pos expected]
  refine ⟨⟨?_, fun sequence => ?_⟩, trivial⟩
  · rw [max?_concat top, max_eq_right ahead.le]
    rfl
  · refine (tracks.mem_pruned top ahead close).trans (exists_congr fun i => and_congr_left fun _ => ?_)
    rw [referenceMissing_advance started top ahead]
    have nothing : ¬(highest < i ∧ i < index) := by omega
    simp only [nothing, or_false]

theorem Tracks.observe_gap (beyond : highest + 1 < index) :
    (tracker.observe (UInt32.ofInt index)).1.Tracks (seen ++ [index]) ∧
      (tracker.observe (UInt32.ofInt index)).2.unbounded = .gap (index - highest - 1) := by
  have close := (within highest top).2
  have ahead : highest < index := by omega
  have distance : ((UInt32.ofInt index - UInt32.ofInt (highest + 1)).toNat : ℤ) = index - highest - 1 := by
    rw [toNat_ofInt_sub_of_le beyond.le (by omega)]
    ring
  have unexpected : ¬UInt32.ofInt index = UInt32.ofInt (highest + 1) := by
    rw [ofInt_inj (by omega) (by omega)]
    omega
  have half : UInt32.ofInt index - UInt32.ofInt (highest + 1) < 0xFFFFFFFF / 2 := by
    have limit : (0xFFFFFFFF / 2 : UInt32).toNat = 2 ^ 31 - 1 := rfl
    rw [UInt32.lt_iff_toNat_lt, limit]
    omega
  simp only [observe, tracks.highest_eq top, ofInt_add_one, if_neg unexpected, if_pos half]
  refine ⟨⟨?_, fun sequence => ?_⟩, ?_⟩
  · rw [max?_concat top, max_eq_right ahead.le]
    rfl
  · have limit : maxTrackedGap.toNat = 4096 := rfl
    have tracked : (min (UInt32.ofInt index - UInt32.ofInt (highest + 1)) maxTrackedGap).toNat =
        min (index - highest - 1).toNat 4096 := by
      have size : (UInt32.ofInt index - UInt32.ofInt (highest + 1)).toNat = (index - highest - 1).toNat := by omega
      rw [← limit, ← size]
      exact UInt32.toNat_min _ _
    have burst (i : ℤ) : index - (min (index - highest - 1).toNat 4096 : Nat) ≤ i ∧ i < index ↔
        index - i ≤ 4096 ∧ highest < i ∧ i < index := by omega
    rw [BTreeSet.mem_foldl_insert, mem_gapBefore, tracked]
    refine (or_congr_right (tracks.mem_pruned top ahead close)).trans ?_
    rw [← exists_or]
    refine exists_congr fun i => ?_
    rw [← and_assoc, burst, ← or_and_right, referenceMissing_advance started top ahead, and_or_left]
    exact and_congr_left fun _ => or_comm
  · rw [SequenceObservation.unbounded, distance]

theorem Tracks.observe_behind (behind : index ≤ highest) :
    (tracker.observe (UInt32.ofInt index)).1.Tracks (seen ++ [index]) ∧
      (tracker.observe (UInt32.ofInt index)).2 = .reorderedOrDuplicate := by
  have close := (within highest top).1
  have unexpected : ¬UInt32.ofInt index = UInt32.ofInt (highest + 1) := by
    rw [ofInt_inj (by omega) (by omega)]
    omega
  have beyondHalf : ¬UInt32.ofInt index - UInt32.ofInt (highest + 1) < 0xFFFFFFFF / 2 := by
    have limit : (0xFFFFFFFF / 2 : UInt32).toNat = 2 ^ 31 - 1 := rfl
    have distance := toNat_ofInt_sub index (highest + 1)
    rw [UInt32.lt_iff_toNat_lt, limit]
    omega
  simp only [observe, tracks.highest_eq top, ofInt_add_one, if_neg unexpected, if_neg beyondHalf]
  refine ⟨⟨?_, fun sequence => ?_⟩, trivial⟩
  · rw [max?_concat top, max_eq_left behind]
    rfl
  · rw [ExtTreeSet.mem_erase, ne_eq, Std.compare_eq_iff_eq, tracks.missing]
    have apart {i : ℤ} (missing : ReferenceMissing seen i) : UInt32.ofInt index = UInt32.ofInt i ↔ i = index := by
      obtain ⟨_, _⟩ := (referenceMissing_iff started top).mp missing
      rw [ofInt_inj (by omega) (by omega), eq_comm]
    constructor
    · rintro ⟨different, i, missing, rfl⟩
      exact ⟨i, (referenceMissing_behind started top behind).mpr ⟨missing, mt (apart missing).mpr different⟩, rfl⟩
    · rintro ⟨i, remains, rfl⟩
      obtain ⟨missing, different⟩ := (referenceMissing_behind started top behind).mp remains
      exact ⟨mt (apart missing).mp different, i, missing, rfl⟩

end Step

/-- One observation keeps the tracker in step with the reference. -/
theorem Tracks.observe (tracks : tracker.Tracks seen) (within : WithinHalfRange seen index) :
    (tracker.observe (UInt32.ofInt index)).1.Tracks (seen ++ [index]) ∧
      (tracker.observe (UInt32.ofInt index)).2.unbounded = classify seen index := by
  cases top : seen.max? with
  | none =>
    have empty : seen = [] := List.max?_eq_none_iff.mp top
    subst empty
    have fresh : tracker.highest = none := tracks.highest
    have nothing (sequence : UInt32) : sequence ∉ tracker.missing := by
      rw [tracks.missing]
      rintro ⟨_, ⟨_, _, started, _⟩, _⟩
      cases started
    simp only [SequenceTracker.observe, fresh]
    refine ⟨⟨rfl, fun sequence => iff_of_false (nothing sequence) ?_⟩, rfl⟩
    rintro ⟨_, ⟨first, highest, started, top, _, _, _⟩, _⟩
    have same : index = first := Option.some.inj started
    have atTop : index = highest := Option.some.inj top
    omega
  | some highest =>
    obtain ⟨first, started⟩ : ∃ first, seen.head? = some first := by
      cases seen with
      | nil => cases top
      | cons first => exact ⟨first, rfl⟩
    simp only [classify, top]
    rcases Int.lt_trichotomy index (highest + 1) with behind | next | beyond
    · obtain ⟨after, shown⟩ := tracks.observe_behind started top within (by omega)
      rw [if_neg (by omega), if_neg (by omega), shown]
      exact ⟨after, rfl⟩
    · obtain ⟨after, shown⟩ := tracks.observe_inOrder started top within next
      rw [if_pos next, shown]
      exact ⟨after, rfl⟩
    · rw [if_neg (by omega), if_pos beyond]
      exact tracks.observe_gap started top within beyond

theorem tracks_runOn (indices : List ℤ)
    (within : ∀ earlier index later, indices = earlier ++ index :: later → WithinHalfRange earlier index) :
    (runOn SequenceTracker.observe {} (indices.map UInt32.ofInt)).Tracks indices := by
  induction indices using List.reverseRecOn with
  | nil =>
    refine ⟨rfl, fun sequence => iff_of_false (by simp [runOn]) ?_⟩
    rintro ⟨_, ⟨_, _, started, _⟩, _⟩
    cases started
  | append_singleton earlier index ih =>
    have tracks := ih fun before i after cut => within before i (after ++ [index]) (by simp [cut])
    rw [List.map_append, List.map_singleton, runOn_concat]
    exact (tracks.observe (within earlier index [] rfl)).1

end SequenceTracker

open SequenceTracker

/-- A tracker of wrapping numbers does what the unbounded reference does: it classifies each index alike, and its
missing numbers are the images of the indices the reference misses. -/
theorem tracker_refines_reference (indices : List ℤ)
    (within : ∀ earlier index later, indices = earlier ++ index :: later → WithinHalfRange earlier index) :
    ∀ earlier index later, indices = earlier ++ index :: later →
      ((runOn SequenceTracker.observe {} (earlier.map UInt32.ofInt)).observe (UInt32.ofInt index)).2.unbounded =
          classify earlier index ∧
        ∀ sequence,
          sequence ∈ (runOn SequenceTracker.observe {} ((earlier ++ [index]).map UInt32.ofInt)).missingSequences ↔
            ∃ i, ReferenceMissing (earlier ++ [index]) i ∧ UInt32.ofInt i = sequence := by
  intro earlier index later cut
  have before : ∀ front i back, earlier = front ++ i :: back → WithinHalfRange front i :=
    fun front i back inner => within front i (back ++ index :: later) (by simp [cut, inner])
  obtain ⟨after, shown⟩ := (tracks_runOn earlier before).observe (within earlier index later cut)
  refine ⟨shown, fun sequence => ?_⟩
  rw [missingSequences, ExtTreeSet.mem_toList, List.map_append, List.map_singleton, runOn_concat]
  exact after.missing sequence

/-- A gap across the wrap: the one index between is missing as zero. -/
theorem tracker_refines_reference_wrap :
    (0 : UInt32) ∈ (runOn SequenceTracker.observe {}
      (([2 ^ 32 - 1] ++ [2 ^ 32 + 1]).map UInt32.ofInt)).missingSequences := by
  have within : ∀ earlier index later, [2 ^ 32 - 1, 2 ^ 32 + 1] = earlier ++ index :: later →
      WithinHalfRange earlier index := by
    rintro (_ | ⟨_, _ | ⟨_, _⟩⟩) index later cut highest top
    · cases top
    · cases cut
      cases top
      norm_num
    · simp at cut
  have missing : ReferenceMissing ([2 ^ 32 - 1] ++ [2 ^ 32 + 1]) (2 ^ 32) :=
    ⟨2 ^ 32 - 1, 2 ^ 32 + 1, rfl, rfl, by norm_num, by norm_num, by norm_num, by norm_num⟩
  exact ((tracker_refines_reference _ within [2 ^ 32 - 1] (2 ^ 32 + 1) [] rfl).2 0).mpr ⟨2 ^ 32, missing, rfl⟩

end ClassMesh
