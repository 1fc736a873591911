import Mathlib

/-! Code that changes a state and may fail: what it takes for it to return a value, and what state it leaves. -/

namespace Foundation

/-- A failure keeps the state it was reached in. -/
abbrev Effect (σ ε α : Type) := ExceptT ε (StateM σ) α

variable {σ ε α β : Type}

section Except

theorem bind_eq_ok_iff {first : Except ε α} {next : α → Except ε β} {result : β} :
    first >>= next = .ok result ↔ ∃ value, first = .ok value ∧ next value = .ok result := by
  cases first with
  | error => exact ⟨fun same => (by cases same), fun ⟨_, same, _⟩ => (by cases same)⟩
  | ok value => exact ⟨fun same => ⟨value, rfl, same⟩, fun ⟨_, same, rest⟩ => (by cases same; exact rest)⟩

theorem throw_ne_ok {error : ε} {result : α} : (throw error : Except ε α) ≠ .ok result := nofun

theorem pure_eq_ok_iff {value result : α} : (pure value : Except ε α) = .ok result ↔ value = result :=
  ⟨fun same => (by cases same; rfl), congrArg Except.ok⟩

theorem ite_eq_ok_iff {condition : Prop} [Decidable condition] {first second : Except ε α} {result : α} :
    (if condition then first else second) = .ok result ↔
      condition ∧ first = .ok result ∨ ¬condition ∧ second = .ok result := by
  split <;> simp [*]

theorem mapM_eq_ok_map {f : α → Except ε β} {g : α → β} (items : List α)
    (each : ∀ item ∈ items, f item = .ok (g item)) : items.mapM f = .ok (items.map g) := by
  induction items with
  | nil => rfl
  | cons item rest ih =>
    have tail := ih fun other member => each other (List.mem_cons_of_mem _ member)
    simp only [List.mapM_cons, each item List.mem_cons_self, tail, List.map_cons]
    rfl

end Except

namespace Effect

def apply (effect : Effect σ ε α) (before : σ) : Except ε α × σ := StateT.run (ExceptT.run effect) before

def Returns (effect : Effect σ ε α) (before : σ) (value : α) (after : σ) :
    Prop := effect.apply before = (.ok value, after)

/-- The state an effect leaves, whether it returns or fails. -/
def final (effect : Effect σ ε α) (before : σ) : σ := (effect.apply before).2

@[simp] theorem apply_pure (value : α) (before : σ) :
    (pure value : Effect σ ε α).apply before = (.ok value, before) := rfl

@[simp] theorem apply_throw (error : ε) (before : σ) :
    (throw error : Effect σ ε α).apply before = (.error error, before) := rfl

@[simp] theorem apply_get (before : σ) : (get : Effect σ ε σ).apply before = (.ok before, before) := rfl

@[simp] theorem apply_set (state before : σ) : (set state : Effect σ ε PUnit).apply before = (.ok ⟨⟩, state) := rfl

@[simp] theorem apply_ofExcept (outcome : Except ε α) (before : σ) :
    (ofExcept outcome : Effect σ ε α).apply before = (outcome, before) := by
  cases outcome <;> rfl

theorem apply_bind (first : Effect σ ε α) (next : α → Effect σ ε β) (before : σ) :
    (first >>= next).apply before =
      match first.apply before with
      | (.error error, middle) => (.error error, middle)
      | (.ok value, middle) => (next value).apply middle := by
  unfold apply
  rw [ExceptT.run_bind, StateT.run_bind]
  rcases StateT.run (ExceptT.run first) before with ⟨outcome, middle⟩
  cases outcome <;> rfl

theorem apply_map (f : α → β) (effect : Effect σ ε α) (before : σ) :
    (f <$> effect).apply before = ((effect.apply before).1.map f, (effect.apply before).2) := by
  rw [map_eq_pure_bind, apply_bind]
  rcases effect.apply before with ⟨outcome, middle⟩
  cases outcome <;> rfl

section Returns

variable {before after : σ}

@[simp] theorem returns_pure {value result : α} :
    (pure value : Effect σ ε α).Returns before result after ↔ value = result ∧ before = after := by
  simp [Returns]

@[simp] theorem returns_throw {error : ε} {result : α} : ¬(throw error : Effect σ ε α).Returns before result after := by
  simp [Returns]

@[simp] theorem returns_ofExcept {outcome : Except ε α} {result : α} :
    (ofExcept outcome : Effect σ ε α).Returns before result after ↔ outcome = .ok result ∧ before = after := by
  simp [Returns]

/-- Two steps return if the first one does and the second one does from there. -/
@[simp] theorem returns_bind {first : Effect σ ε α} {next : α → Effect σ ε β} {result : β} :
    (first >>= next).Returns before result after ↔
      ∃ value middle, first.Returns before value middle ∧ (next value).Returns middle result after := by
  unfold Returns
  rw [apply_bind]
  rcases first.apply before with ⟨outcome, middle⟩
  cases outcome with
  | error | ok => simp

@[simp] theorem returns_map {effect : Effect σ ε α} {f : α → β} {result : β} :
    (f <$> effect).Returns before result after ↔ ∃ value, effect.Returns before value after ∧ f value = result := by
  unfold Returns
  rw [apply_map]
  rcases effect.apply before with ⟨outcome, middle⟩
  cases outcome with
  | error => simp [Except.map]
  | ok => simp [Except.map, and_comm]

theorem returns_ite {condition : Prop} [Decidable condition] {first second : Effect σ ε α} {result : α} :
    (if condition then first else second).Returns before result after ↔
      condition ∧ first.Returns before result after ∨ ¬condition ∧ second.Returns before result after := by
  split <;> simp [*]

end Returns

/-- A relation that two steps keep is kept by one after the other. -/
theorem final_bind {R : σ → σ → Prop} (trans : ∀ {a b c}, R a b → R b c → R a c) {first : Effect σ ε α}
    {next : α → Effect σ ε β} {before : σ} (begins : R before (first.final before))
    (continues : ∀ value middle, R middle ((next value).final middle)) : R before ((first >>= next).final before) := by
  unfold final at begins continues ⊢
  rw [apply_bind]
  generalize first.apply before = applied at begins ⊢
  rcases applied with ⟨outcome, middle⟩
  cases outcome with
  | error => exact begins
  | ok value => exact trans begins (continues value middle)

end Effect

end Foundation
