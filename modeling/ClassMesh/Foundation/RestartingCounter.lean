import Mathlib

namespace Foundation

/-! A counter that issues 1, 2, 3, ... up to a limit, where it stays, and that can be set back to its start. -/

inductive CounterEvent
  | issue
  | restart
  | idle
deriving DecidableEq

/-- The numbers issued, given how many have been issued since the last restart. -/
def issued (limit : Nat) : Nat → List CounterEvent → List Nat
  | _, [] => []
  | count, .issue :: rest => min (count + 1) limit :: issued limit (count + 1) rest
  | _, .restart :: rest => issued limit 0 rest
  | count, .idle :: rest => issued limit count rest

/-- How many have been issued since the last restart. -/
def sinceRestart : Nat → List CounterEvent → Nat
  | count, [] => count
  | count, .issue :: rest => sinceRestart (count + 1) rest
  | _, .restart :: rest => sinceRestart 0 rest
  | count, .idle :: rest => sinceRestart count rest

variable {limit count : Nat} {events : List CounterEvent}

theorem issued_append (later : List CounterEvent) :
    issued limit count (events ++ later) = issued limit count events ++
      issued limit (sinceRestart count events) later := by
  induction events generalizing count with
  | nil => rfl
  | cons event rest ih =>
    cases event with
    | issue => simpa [issued, sinceRestart] using ih
    | restart | idle => exact ih

theorem sinceRestart_append (later : List CounterEvent) :
    sinceRestart count (events ++ later) = sinceRestart (sinceRestart count events) later := by
  induction events generalizing count with
  | nil => rfl
  | cons event rest ih =>
    cases event with
    | issue | restart | idle => exact ih

theorem length_issued : (issued limit count events).length = events.count .issue := by
  induction events generalizing count with
  | nil => rfl
  | cons event rest ih =>
    cases event with
    | issue | restart | idle => simpa [issued] using ih

theorem one_mem_issued (positive : 0 < limit) (member : .issue ∈ events) : 1 ∈ issued limit 0 events := by
  induction events with
  | nil => simp at member
  | cons event rest ih =>
    cases event with
    | issue => simp [issued, Nat.min_eq_left positive]
    | restart | idle => exact ih (by simpa using member)

theorem issued_eq_nil (never : .issue ∉ events) (count : Nat) : issued limit count events = [] := by
  induction events generalizing count with
  | nil => rfl
  | cons event rest ih =>
    cases event with
    | issue => simp at never
    | restart => exact ih (by simpa using never) 0
    | idle => exact ih (by simpa using never) count

theorem issued_pos (positive : 0 < limit) {number : Nat} (member : number ∈ issued limit count events) :
    0 < number := by
  induction events generalizing count with
  | nil => simp [issued] at member
  | cons event rest ih =>
    cases event with
    | issue =>
      rcases List.mem_cons.mp member with rfl | later
      · omega
      · exact ih later
    | restart | idle => exact ih member

/-- What is issued from a count on exceeds that count and increases, exactly if the limit is not reached and
nothing is issued after a restart that follows an issued number. -/
theorem issued_above_iff (positive : 0 < limit) (within : count ≤ limit) :
    ((∀ number ∈ issued limit count events, count < number) ∧ (issued limit count events).Pairwise (· < ·)) ↔
      count + events.count .issue ≤ limit ∧ (0 < count → ¬[CounterEvent.restart, .issue].Sublist events) ∧
        ¬[CounterEvent.issue, .restart, .issue].Sublist events := by
  induction events generalizing count with
  | nil => simp [issued, within]
  | cons event rest ih =>
    cases event with
    | issue =>
      rw [issued, List.cons_sublist_cons, List.count_cons_self]
      by_cases full : count = limit
      · constructor
        · rintro ⟨above, _⟩
          have first := above (min (count + 1) limit) List.mem_cons_self
          omega
        · rintro ⟨bound, _⟩
          omega
      · have room : count + 1 ≤ limit := by omega
        have next := ih room
        rw [Nat.min_eq_left room]
        have inner : [CounterEvent.restart, .issue].Sublist (.issue :: rest) ↔
            [CounterEvent.restart, .issue].Sublist rest := by simp [List.sublist_cons_iff]
        have weaker : [CounterEvent.issue, .restart, .issue].Sublist rest →
            [CounterEvent.restart, .issue].Sublist rest :=
          fun longer => (List.sublist_cons_self _ _).trans longer
        rw [inner]
        constructor
        · rintro ⟨above, ordered⟩
          rw [List.pairwise_cons] at ordered
          obtain ⟨_, clean, _⟩ := next.mp ordered
          exact ⟨by omega, fun _ => clean (Nat.succ_pos _), clean (Nat.succ_pos _)⟩
        · rintro ⟨bound, _, clean⟩
          have rest' := next.mpr ⟨by omega, fun _ => clean, fun longer => clean (weaker longer)⟩
          refine ⟨?_, List.pairwise_cons.mpr rest'⟩
          intro number member
          rcases List.mem_cons.mp member with rfl | later
          · omega
          · have above := rest'.1 number later
            omega
    | restart =>
      have inner : [CounterEvent.issue, .restart, .issue].Sublist (.restart :: rest) ↔
          [CounterEvent.issue, .restart, .issue].Sublist rest := by simp [List.sublist_cons_iff]
      have single : [CounterEvent.restart, .issue].Sublist (.restart :: rest) ↔ .issue ∈ rest := by
        rw [List.cons_sublist_cons, List.singleton_sublist]
      rw [issued, inner, single, List.count_cons_of_ne (by decide)]
      by_cases fresh : count = 0
      · subst fresh
        simpa using ih (Nat.zero_le limit)
      · constructor
        · rintro ⟨above, _⟩
          have none : .issue ∉ rest := by
            intro member
            have first := above 1 (one_mem_issued positive member)
            omega
          refine ⟨?_, fun _ => none, fun longer => none (longer.subset (by simp))⟩
          rw [List.count_eq_zero_of_not_mem none]
          exact within
        · rintro ⟨_, none, _⟩
          rw [issued_eq_nil (none (by omega))]
          simp
    | idle =>
      have inner : [CounterEvent.issue, .restart, .issue].Sublist (.idle :: rest) ↔
          [CounterEvent.issue, .restart, .issue].Sublist rest := by simp [List.sublist_cons_iff]
      have inner' : [CounterEvent.restart, .issue].Sublist (.idle :: rest) ↔
          [CounterEvent.restart, .issue].Sublist rest := by simp [List.sublist_cons_iff]
      rw [issued, inner, inner', List.count_cons_of_ne (by decide)]
      exact ih within

/-- Issued numbers increase as long as the counter is below its limit and is not restarted in between. -/
theorem issued_increasing_iff (positive : 0 < limit) (events : List CounterEvent) :
    (issued limit 0 events).Pairwise (· < ·) ↔
      events.count .issue ≤ limit ∧ ¬[CounterEvent.issue, .restart, .issue].Sublist events := by
  have general : _ ↔ 0 + events.count .issue ≤ limit ∧ _ := issued_above_iff positive (Nat.zero_le limit)
  rw [Nat.zero_add] at general
  constructor
  · intro ordered
    obtain ⟨bound, _, clean⟩ := general.mp ⟨fun _ member => issued_pos positive member, ordered⟩
    exact ⟨bound, clean⟩
  · rintro ⟨bound, clean⟩
    exact (general.mpr ⟨bound, fun impossible => absurd impossible (Nat.lt_irrefl 0), clean⟩).2

end Foundation
