import Mathlib

/-! How many elements at the end of a list satisfy a condition without interruption. -/

namespace Foundation

section Trailing

variable {α : Type*} {p : α → Bool} {xs : List α} {x : α} {count : Nat}

def trailing (p : α → Bool) (xs : List α) : Nat := (xs.reverse.takeWhile p).length

theorem trailing_concat : trailing p (xs ++ [x]) = if p x then trailing p xs + 1 else 0 := by
  rw [trailing, List.reverse_append, List.reverse_singleton, List.singleton_append, List.takeWhile_cons]
  split
  · rfl
  · rfl

/-- A trailing streak said by a cut of the list: it is at least `count` long exactly if the last `count` elements all
satisfy the predicate. -/
theorem le_trailing_iff :
    count ≤ trailing p xs ↔ ∃ front streak, xs = front ++ streak ∧ streak.length = count ∧
      ∀ x ∈ streak, p x = true := by
  induction xs using List.reverseRecOn generalizing count with
  | nil =>
    constructor
    · intro none
      exact ⟨[], [], rfl, (Nat.le_zero.mp none).symm, by simp⟩
    · rintro ⟨front, streak, cut, rfl, _⟩
      rw [(List.append_eq_nil_iff.mp cut.symm).2]
      exact Nat.zero_le _
  | append_singleton xs last ih =>
    rw [trailing_concat]
    cases count with
    | zero =>
      refine ⟨fun _ => ⟨xs ++ [last], [], by simp, rfl, by simp⟩, fun _ => Nat.zero_le _⟩
    | succ =>
      by_cases holds : p last = true
      · rw [if_pos holds, Nat.succ_le_succ_iff, ih]
        constructor
        · rintro ⟨front, streak, rfl, rfl, all⟩
          refine ⟨front, streak ++ [last], by simp, by simp, ?_⟩
          intro y member
          rcases List.mem_append.mp member with old | new
          · exact all y old
          · exact List.mem_singleton.mp new ▸ holds
        · rintro ⟨front, streak, cut, length, all⟩
          rcases List.eq_nil_or_concat streak with rfl | ⟨rest, final, rfl⟩
          · cases length
          · rw [List.concat_eq_append] at cut length all
            rw [← List.append_assoc] at cut
            obtain ⟨same, _⟩ := List.append_inj' cut rfl
            exact ⟨front, rest, same, by simpa using length, fun y member => all y (List.mem_append_left _ member)⟩
      · rw [if_neg holds]
        constructor
        · intro impossible
          cases impossible
        · rintro ⟨front, streak, cut, length, all⟩
          rcases List.eq_nil_or_concat streak with rfl | ⟨rest, final, rfl⟩
          · cases length
          · rw [List.concat_eq_append] at cut all
            rw [← List.append_assoc] at cut
            obtain ⟨_, same⟩ := List.append_inj' cut rfl
            cases List.singleton_inj.mp same
            exact absurd (all last (List.mem_append_right _ List.mem_cons_self)) holds

end Trailing

/-- A candidate and for how many samples in a row it was proposed. The count is a `u8`. -/
structure Pending (α : Type) where
  candidate : Option α := none
  samples : Nat := 0
deriving DecidableEq

namespace Pending

variable {α : Type} [DecidableEq α] (pending : Pending α) (candidate : α)

/-- One more sample, which counts from one again for a candidate that was not pending. -/
def count : Pending α :=
  if pending.candidate = some candidate then { pending with samples := min (pending.samples + 1) 255 }
  else ⟨some candidate, 1⟩

/-- How often the candidate was proposed without interruption. -/
def counted : Nat := if pending.candidate = some candidate then pending.samples else 0

theorem count_candidate : (pending.count candidate).candidate = some candidate := by
  unfold count
  split
  · assumption
  · rfl

theorem count_samples : (pending.count candidate).samples = min (pending.counted candidate + 1) 255 := by
  unfold count counted
  split
  · rfl
  · rfl

theorem counted_count_self : (pending.count candidate).counted candidate = min (pending.counted candidate + 1) 255 := by
  rw [counted, if_pos (pending.count_candidate candidate), count_samples]

theorem counted_count_ne {candidate other : α} (different : other ≠ candidate) :
    (pending.count candidate).counted other = 0 := by
  rw [counted, count_candidate, if_neg fun same => different (Option.some.inj same).symm]

end Pending

end Foundation
