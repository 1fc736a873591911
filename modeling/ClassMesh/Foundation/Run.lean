import Mathlib

namespace Foundation

variable {σ ι ο : Type*}

/-- One call on a system: the state it found, its argument, its reply and the state it left. -/
structure Call (σ ι ο : Type*) where
  before : σ
  input : ι
  reply : ο
  after : σ

/-- Finite runs of a step relation. Every call made so far is retained, oldest first. -/
inductive Run (step : σ → ι → ο → σ → Prop) (initial : σ) : List (Call σ ι ο) → σ → Prop
  | start : Run step initial [] initial
  | next {past current input reply after} : Run step initial past current →
      step current input reply after →
      Run step initial (past ++ [⟨current, input, reply, after⟩]) after

/-- The step relation of an operation that always returns. -/
def Total (f : σ → ι → σ × ο) (s : σ) (i : ι) (o : ο) (s' : σ) : Prop := f s i = (s', o)

/-- The step relation of an operation that may abort instead of returning. -/
def Partial (f : σ → ι → Option (σ × ο)) (s : σ) (i : ι) (o : ο) (s' : σ) : Prop :=
  f s i = some (s', o)

variable {step : σ → ι → ο → σ → Prop} {initial final : σ} {past : List (Call σ ι ο)}

theorem Run.invariant {P : σ → Prop} (run : Run step initial past final) (init : P initial)
    (keep : ∀ s i o s', P s → step s i o s' → P s') : P final := by
  induction run with
  | start => exact init
  | next _ taken ih => exact keep _ _ _ _ ih taken

section Members

variable {α : Type*} {p : α → Prop} {xs ys : List α} {last : α}

/-- What holds of every call so far and of the next one holds of every call of the longer history. -/
theorem forall_mem_concat (all : ∀ x ∈ xs, p x) (holds : p last) : ∀ x ∈ xs ++ [last], p x :=
  List.forall_mem_append.mpr ⟨all, List.forall_mem_singleton.mpr holds⟩

theorem forall_of_append (all : ∀ x ∈ xs ++ ys, p x) : ∀ x ∈ xs, p x := (List.forall_mem_append.mp all).1

end Members

/-- A cut of a history that just grew by one call is a cut of the old history or at the new call. -/
theorem snoc_eq_append_cons {α : Type*} {past earlier later : List α} {last call : α}
    (cut : past ++ [last] = earlier ++ call :: later) :
    (past = earlier ∧ last = call ∧ later = []) ∨
      ∃ rest, later = rest ++ [last] ∧ past = earlier ++ call :: rest := by
  rcases List.eq_nil_or_concat later with empty | ⟨rest, final, rfl⟩
  · subst empty
    obtain ⟨same, sameCall⟩ := List.append_inj' cut rfl
    exact .inl ⟨same, List.singleton_inj.mp sameCall, rfl⟩
  · rw [List.concat_eq_append, ← List.cons_append, ← List.append_assoc] at cut
    obtain ⟨same, sameCall⟩ := List.append_inj' cut rfl
    cases List.singleton_inj.mp sameCall
    exact .inr ⟨rest, List.concat_eq_append, same⟩

/-- An element of a nonempty list is its head or lies in its tail. -/
theorem cons_eq_append_cons {α : Type*} {head x : α} {tail earlier later : List α}
    (cut : head :: tail = earlier ++ x :: later) :
    (earlier = [] ∧ head = x ∧ tail = later) ∨ ∃ front, earlier = head :: front ∧ tail = front ++ x :: later := by
  cases earlier with
  | nil =>
    obtain ⟨same, rest⟩ := List.cons_eq_cons.mp cut
    exact .inl ⟨rfl, same, rest⟩
  | cons first front =>
    obtain ⟨rfl, rest⟩ := List.cons_eq_cons.mp cut
    exact .inr ⟨front, rfl, rest⟩

/-- An element of a concatenation lies in the first part or in the second one. -/
theorem append_eq_append_cons {α : Type*} {first second earlier later : List α} {x : α}
    (cut : first ++ second = earlier ++ x :: later) :
    (∃ rest, first = earlier ++ x :: rest ∧ later = rest ++ second) ∨
      ∃ front, earlier = first ++ front ∧ second = front ++ x :: later := by
  rcases List.append_eq_append_iff.mp cut with ⟨front, rfl, same⟩ | ⟨rest, rfl, same⟩
  · exact .inr ⟨front, rfl, same⟩
  · cases rest with
    | nil => exact .inr ⟨[], by simp, by simpa using same.symm⟩
    | cons head tail =>
      obtain ⟨rfl, rfl⟩ := List.cons_eq_cons.mp same
      exact .inl ⟨tail, rfl, rfl⟩

variable {later : List (Call σ ι ο)} {call : Call σ ι ο} {s : σ} {f : σ → ι → Option (σ × ο)} {inputs : List ι}

/-- A run can be cut at any of its calls. -/
theorem Run.split {earlier : List (Call σ ι ο)} (run : Run step initial past final)
    (cut : past = earlier ++ call :: later) :
    Run step initial earlier call.before ∧ step call.before call.input call.reply call.after ∧
      Run step call.after later final := by
  induction run generalizing later with
  | start => simp at cut
  | @next before current input reply after previous taken ih =>
    rcases snoc_eq_append_cons cut with ⟨same, sameCall, empty⟩ | ⟨rest, rfl, same⟩
    · subst same sameCall empty
      exact ⟨previous, taken, .start⟩
    · obtain ⟨reached, made, rest'⟩ := ih same
      exact ⟨reached, made, rest'.next taken⟩

theorem Run.of_nil (run : Run step initial [] final) : final = initial := by
  generalize empty : ([] : List (Call σ ι ο)) = past at run
  cases run with
  | start => rfl
  | next => simp at empty

/-- The last call of a run. -/
theorem Run.of_concat (run : Run step initial (past ++ [call]) final) :
    Run step initial past call.before ∧ step call.before call.input call.reply call.after ∧ final = call.after := by
  obtain ⟨reached, taken, rest⟩ := run.split rfl
  exact ⟨reached, taken, rest.of_nil⟩

theorem Run.of_mem (run : Run step initial past final) (member : call ∈ past) :
    ∃ earlier later, past = earlier ++ call :: later ∧ Run step initial earlier call.before ∧
      step call.before call.input call.reply call.after ∧ Run step call.after later final := by
  obtain ⟨earlier, later, cut⟩ := List.append_of_mem member
  exact ⟨earlier, later, cut, run.split cut⟩

theorem Run.trans {middle : σ} (first : Run step initial past middle) (second : Run step middle later final) :
    Run step initial (past ++ later) final := by
  induction second with
  | start => simpa using first
  | next _ taken ih => simpa only [List.append_assoc] using ih.next taken

/-- A run can be cut between any two of its calls. -/
theorem Run.parts {first second : List (Call σ ι ο)} (run : Run step initial (first ++ second) final) :
    ∃ middle, Run step initial first middle ∧ Run step middle second final := by
  cases second with
  | nil => exact ⟨final, by simpa using run, .start⟩
  | cons call =>
    obtain ⟨reached, taken, later⟩ := run.split rfl
    exact ⟨call.before, reached, (Run.start.next taken).trans later⟩

/-- A run of one system is a run of another, if each of its steps is. -/
theorem Run.map {σ' ι' ο' : Type*} {step' : σ' → ι' → ο' → σ' → Prop} {f : σ → σ'} {g : ι → ι'} {h : ο → ο'}
    (simulates : ∀ s i o s', step s i o s' → step' (f s) (g i) (h o) (f s'))
    (run : Run step initial past final) :
    Run step' (f initial) (past.map fun call => ⟨f call.before, g call.input, h call.reply, f call.after⟩)
      (f final) := by
  induction run with
  | start => exact .start
  | next _ taken ih =>
    rw [List.map_append]
    exact ih.next (simulates _ _ _ _ taken)

/-- The calls an always-returning operation makes on a list of arguments. -/
def calls (f : σ → ι → σ × ο) : σ → List ι → List (Call σ ι ο)
  | _, [] => []
  | s, i :: rest => ⟨s, i, (f s i).2, (f s i).1⟩ :: calls f (f s i).1 rest

def runOn (f : σ → ι → σ × ο) (s : σ) (inputs : List ι) : σ :=
  inputs.foldl (fun current i => (f current i).1) s

theorem calls_concat (f : σ → ι → σ × ο) (s : σ) (inputs : List ι) (i : ι) :
    calls f s (inputs ++ [i]) =
      calls f s inputs ++ [⟨runOn f s inputs, i, (f (runOn f s inputs) i).2, (f (runOn f s inputs) i).1⟩] := by
  induction inputs generalizing s with
  | nil => rfl
  | cons first rest ih =>
    rw [List.cons_append, calls, ih]
    rfl

theorem runOn_concat (f : σ → ι → σ × ο) (s : σ) (inputs : List ι) (i : ι) :
    runOn f s (inputs ++ [i]) = (f (runOn f s inputs) i).1 := by
  rw [runOn, List.foldl_append]
  rfl

/-- An argument that leaves the state as it is makes the same call again and again. -/
theorem calls_replicate {f : σ → ι → σ × ο} {i : ι} {o : ο} (fixed : f s i = (s, o)) (times : Nat) :
    calls f s (List.replicate times i) = List.replicate times ⟨s, i, o, s⟩ := by
  induction times with
  | zero => rfl
  | succ times ih => rw [List.replicate_succ, List.replicate_succ, calls, fixed, ih]

theorem Run.of_calls (f : σ → ι → σ × ο) (s : σ) (inputs : List ι) :
    Run (Total f) s (calls f s inputs) (runOn f s inputs) := by
  induction inputs generalizing s with
  | nil => exact .start
  | cons i rest ih =>
    have first : Run (Total f) s ([] ++ [⟨s, i, (f s i).2, (f s i).1⟩]) (f s i).1 :=
      Run.start.next rfl
    exact first.trans (ih (f s i).1)

/-- The calls of an operation that may abort, if none of them does. -/
def tryCalls (f : σ → ι → Option (σ × ο)) : σ → List ι → Option (List (Call σ ι ο) × σ)
  | s, [] => some ([], s)
  | s, i :: rest =>
    match f s i with
    | none => none
    | some (s', o) => (tryCalls f s' rest).map fun result => (⟨s, i, o, s'⟩ :: result.1, result.2)

theorem tryCalls_cons {s' : σ} {i : ι} {o : ο} {rest : List ι} (taken : f s i = some (s', o))
    (more : tryCalls f s' rest = some (past, final)) :
    tryCalls f s (i :: rest) = some (⟨s, i, o, s'⟩ :: past, final) := by
  simp only [tryCalls, taken, more, Option.map_some]

theorem Run.of_tryCalls (made : tryCalls f s inputs = some (past, final)) :
    Run (Partial f) s past final ∧ past.map (·.input) = inputs := by
  induction inputs generalizing s past with
  | nil =>
    cases made
    exact ⟨.start, rfl⟩
  | cons i rest ih =>
    unfold tryCalls at made
    split at made
    · cases made
    · rename_i s' o taken
      obtain ⟨⟨_, _⟩, more, same⟩ := Option.map_eq_some_iff.mp made
      cases same
      obtain ⟨run, inputs⟩ := ih more
      have first : Run (Partial f) s ([] ++ [⟨s, i, o, s'⟩]) s' := Run.start.next taken
      exact ⟨first.trans run, by simp [inputs]⟩

/-- A run that an evaluation has traced, with what was read off its calls and its last state. -/
theorem Run.of_traced {α : Type*} {read : List (Call σ ι ο) × σ → α} {value : α}
    (traced : (tryCalls f s inputs).map read = some value) :
    ∃ past final, Run (Partial f) s past final ∧ past.map (·.input) = inputs ∧ read (past, final) = value := by
  obtain ⟨⟨past, final⟩, made, shown⟩ := Option.map_eq_some_iff.mp traced
  obtain ⟨run, called⟩ := Run.of_tryCalls made
  exact ⟨past, final, run, called, shown⟩

theorem forall_of_inputs {P : ι → Prop} (made : past.map (·.input) = inputs) (all : ∀ i ∈ inputs, P i) :
    ∀ call ∈ past, P call.input := by
  intro call member
  exact all _ (made ▸ List.mem_map_of_mem member)

/-- A history invariant that every allowed argument can extend carries the calls through to the end. -/
theorem tryCalls_of_keep {allowed : ι → Prop} {Inv : List (Call σ ι ο) → σ → Prop}
    (keep : ∀ past s i, Inv past s → allowed i → ∃ s' o, f s i = some (s', o) ∧ Inv (past ++ [⟨s, i, o, s'⟩]) s')
    (all : ∀ i ∈ inputs, allowed i) (holds : Inv past s) :
    ∃ later last, tryCalls f s inputs = some (later, last) ∧ Inv (past ++ later) last := by
  induction inputs generalizing past s with
  | nil => exact ⟨[], s, rfl, by simpa using holds⟩
  | cons i rest ih =>
    obtain ⟨s', o, taken, held⟩ := keep past s i holds (all i List.mem_cons_self)
    obtain ⟨later, last, made, kept⟩ := ih (fun j member => all j (List.mem_cons_of_mem _ member)) held
    exact ⟨⟨s, i, o, s'⟩ :: later, last, tryCalls_cons taken made, by simpa using kept⟩

end Foundation
