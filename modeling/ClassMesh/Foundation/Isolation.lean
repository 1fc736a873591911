import ClassMesh.Foundation.Run

/-! Two runs that a party cannot tell apart. A party sees some calls and a part of the state. -/

namespace Foundation

variable {σ ι ο β ω : Type*} {step : σ → ι → ο → σ → Prop} {past : List (Call σ ι ο)}

def visible (seen : ι → Bool) (past : List (Call σ ι ο)) : List (Call σ ι ο) := past.filter fun call => seen call.input

section Visible

variable {seen : ι → Bool} {call : Call σ ι ο}

theorem visible_append (earlier later : List (Call σ ι ο)) :
    visible seen (earlier ++ later) = visible seen earlier ++ visible seen later := List.filter_append ..

theorem visible_cons_of_seen (sees : seen call.input = true) :
    visible seen (call :: past) = call :: visible seen past :=
  List.filter_cons_of_pos sees

theorem visible_cons_of_unseen (unseen : seen call.input = false) : visible seen (call :: past) = visible seen past :=
  List.filter_cons_of_neg (by simp [unseen])

theorem visible_eq_nil_iff : visible seen past = [] ↔ ∀ call ∈ past, seen call.input = false := by
  simp [visible, List.filter_eq_nil_iff]

/-- The last call that a party sees, if what it sees ends with a given input. -/
theorem exists_last_visible {inputs : List ι} {input : ι}
    (same : (visible seen past).map (·.input) = inputs ++ [input]) :
    ∃ earlier call later, past = earlier ++ call :: later ∧ call.input = input ∧
      (visible seen earlier).map (·.input) = inputs ∧ visible seen later = [] := by
  induction past using List.reverseRecOn generalizing inputs with
  | nil => simp [visible] at same
  | append_singleton front last ih =>
    rw [visible_append] at same
    cases sees : seen last.input with
    | true =>
      rw [visible_cons_of_seen sees, List.map_append] at same
      obtain ⟨sameInputs, sameLast⟩ := List.append_inj' same rfl
      cases List.singleton_inj.mp sameLast
      exact ⟨front, last, [], rfl, rfl, sameInputs, rfl⟩
    | false =>
      have hidden : visible seen [last] = [] := visible_cons_of_unseen sees
      rw [hidden, List.append_nil] at same
      obtain ⟨earlier, call, later, rfl, atCall, before, unseen⟩ := ih same
      refine ⟨earlier, call, later ++ [last], by simp, atCall, before, ?_⟩
      rw [visible_append, unseen, hidden]
      rfl

end Visible

/-- What separates a party from the calls of others: those it does not see leave its view as it is, and those it sees do
the same to the same view. -/
structure Isolates (step : σ → ι → ο → σ → Prop) (allowed : Call σ ι ο → Prop) (seen : ι → Bool) (view : σ → β)
    (told : ο → ω) : Prop where
  unseen : ∀ call : Call σ ι ο, step call.before call.input call.reply call.after → allowed call →
    seen call.input = false → view call.after = view call.before
  agrees : ∀ first second : Call σ ι ο, step first.before first.input first.reply first.after →
    step second.before second.input second.reply second.after → allowed first → allowed second →
    first.input = second.input → seen first.input = true → view first.before = view second.before →
    view first.after = view second.after ∧ told first.reply = told second.reply

/-- All that a party learns from a run. -/
def learns (seen : ι → Bool) (view : σ → β) (told : ο → ω) (past : List (Call σ ι ο)) : List (ι × ω × β) :=
  (visible seen past).map fun call => (call.input, told call.reply, view call.after)

namespace Isolates

variable {allowed : Call σ ι ο → Prop} {seen : ι → Bool} {view : σ → β} {told : ο → ω} {initial final : σ}

theorem view_of_unseen (isolates : Isolates step allowed seen view told) (run : Run step initial past final)
    (all : ∀ call ∈ past, allowed call) (unseen : visible seen past = []) : view final = view initial := by
  induction run with
  | start => rfl
  | @next past current input reply after _ taken ih =>
    have last := List.mem_append_right past (List.mem_singleton_self (⟨current, input, reply, after⟩ : Call σ ι ο))
    rw [visible_append, List.append_eq_nil_iff] at unseen
    have kept := isolates.unseen ⟨current, input, reply, after⟩ taken (all _ last)
      (visible_eq_nil_iff.mp unseen.2 _ List.mem_cons_self)
    exact kept.trans (ih (forall_of_append all) unseen.1)

/-- Two runs with the same visible calls cannot be told apart. -/
theorem learns_eq (isolates : Isolates step allowed seen view told) {initial' final' : σ} {past' : List (Call σ ι ο)}
    (run : Run step initial past final) (run' : Run step initial' past' final') (all : ∀ call ∈ past, allowed call)
    (all' : ∀ call ∈ past', allowed call) (start : view initial = view initial')
    (same : (visible seen past).map (·.input) = (visible seen past').map (·.input)) :
    view final = view final' ∧ learns seen view told past = learns seen view told past' := by
  induction run generalizing past' final' with
  | start =>
    have none : visible seen past' = [] := List.map_eq_nil_iff.mp same.symm
    refine ⟨start.trans (isolates.view_of_unseen run' all' none).symm, ?_⟩
    rw [learns, learns, none]
    rfl
  | @next past current input reply after previous taken ih =>
    have last := List.mem_append_right past (List.mem_singleton_self (⟨current, input, reply, after⟩ : Call σ ι ο))
    have allBefore : ∀ call ∈ past, allowed call := forall_of_append all
    rw [visible_append] at same
    cases sees : seen input with
    | false =>
      have hidden : visible seen [(⟨current, input, reply, after⟩ : Call σ ι ο)] = [] := visible_cons_of_unseen sees
      have kept := isolates.unseen ⟨current, input, reply, after⟩ taken (all _ last) sees
      rw [hidden, List.append_nil] at same
      obtain ⟨views, traces⟩ := ih run' allBefore all' same
      refine ⟨kept.trans views, ?_⟩
      rw [← traces, learns, visible_append, hidden, List.append_nil]
      rfl
    | true =>
      have shown : visible seen [(⟨current, input, reply, after⟩ : Call σ ι ο)] = [⟨current, input, reply, after⟩] :=
        visible_cons_of_seen sees
      rw [shown, List.map_append] at same
      obtain ⟨_, call, _, rfl, atCall, before, unseen⟩ := exists_last_visible same.symm
      obtain ⟨reached, taken', rest⟩ := run'.split rfl
      obtain ⟨views, traces⟩ := ih reached allBefore (forall_of_append all') before.symm
      obtain ⟨viewsAfter, replies⟩ := isolates.agrees ⟨current, input, reply, after⟩ call taken taken' (all _ last)
        (all' call (by simp)) atCall.symm sees views
      have quiet := isolates.view_of_unseen rest (fun other member => all' other (by simp [member])) unseen
      refine ⟨viewsAfter.trans quiet.symm, ?_⟩
      have sees' : seen call.input = true := by rw [atCall, sees]
      unfold learns at traces ⊢
      rw [visible_append, shown, List.map_append, traces, visible_append, visible_cons_of_seen sees', unseen,
        List.map_append, List.map_singleton, List.map_singleton, atCall, ← replies, ← viewsAfter]

end Isolates

end Foundation
