import Mathlib

/-! Indented JSON text, two blanks a level. A value is written as its text at a given depth. -/

namespace Foundation.PrettyJson

abbrev Doc := Nat → List Char

def newline (depth : Nat) : List Char := '\n' :: List.replicate (2 * depth) ' '

@[simp] theorem newline_length (depth : Nat) : (newline depth).length = 2 * depth + 1 := by
  simp [newline]

/-- Entries between brackets, one a line; nothing at all between the brackets when there is none. -/
def block (opening closing : Char) (entries : List Doc) : Doc := fun depth =>
  if entries.isEmpty then [opening, closing]
  else
    opening :: [','].intercalate (entries.map fun entry => newline (depth + 1) ++ entry (depth + 1)) ++
      (newline depth ++ [closing])

def array (items : List Doc) : Doc := block '[' ']' items

def field (name : String) (value : Doc) : Doc := fun depth =>
  '"' :: name.toList ++ ('"' :: ':' :: ' ' :: value depth)

def object (fields : List Doc) : Doc := block '\x7b' '\x7d' fields

def number (n : Nat) : Doc := fun _ => Nat.toDigits 10 n

def boolean (b : Bool) : Doc := fun _ => if b then ['t', 'r', 'u', 'e'] else ['f', 'a', 'l', 's', 'e']

def null : Doc := fun _ => ['n', 'u', 'l', 'l']

theorem length_intercalate_comma (first : List Char) (rest : List (List Char)) :
    ([','].intercalate (first :: rest)).length + 1 = ((first :: rest).map (·.length + 1)).sum := by
  induction rest generalizing first with
  | nil => simp [List.intercalate]
  | cons next rest ih =>
    have tail := ih next
    simp only [List.intercalate, List.intersperse_cons_cons, List.flatten_cons, List.length_append,
      List.map_cons, List.sum_cons, List.length_cons, List.length_nil] at tail ⊢
    omega

/-- Every entry costs its own text, a line break, its indentation and a comma. -/
theorem length_block_ge (opening closing : Char) (entries : List Doc) (depth : Nat) :
    (entries.map fun entry => (entry (depth + 1)).length + 2 * depth + 4).sum ≤
      (block opening closing entries depth).length := by
  cases entries with
  | nil => simp
  | cons first rest =>
    have commas := length_intercalate_comma (newline (depth + 1) ++ first (depth + 1))
      (rest.map fun entry => newline (depth + 1) ++ entry (depth + 1))
    have costs : (((first :: rest).map fun entry => newline (depth + 1) ++ entry (depth + 1)).map
        (·.length + 1)).sum = ((first :: rest).map fun entry => (entry (depth + 1)).length + 2 * depth + 4).sum := by
      rw [List.map_map]
      refine congrArg List.sum (List.map_congr_left fun entry _ => ?_)
      simp only [Function.comp_apply, List.length_append, newline_length]
      omega
    rw [← costs]
    simp only [block, List.isEmpty_cons, Bool.false_eq_true, if_false, List.length_append, List.length_cons,
      newline_length, List.length_nil, List.map_cons] at commas ⊢
    omega

theorem length_array_ge {items : List Doc} {depth least : Nat}
    (each : ∀ item ∈ items, least ≤ (item (depth + 1)).length) :
    items.length * (least + 2 * depth + 4) ≤ (array items depth).length := by
  have costs := List.card_nsmul_le_sum (items.map fun item => (item (depth + 1)).length + 2 * depth + 4)
    (least + 2 * depth + 4) (by
      intro cost member
      obtain ⟨item, listed, rfl⟩ := List.mem_map.mp member
      have long := each item listed
      omega)
  rw [List.length_map, smul_eq_mul] at costs
  exact costs.trans (length_block_ge '[' ']' items depth)

theorem length_field (name : String) (value : Doc) (depth : Nat) :
    (field name value depth).length = name.toList.length + 4 + (value depth).length := by
  simp [field]
  omega

theorem length_number_pos (n depth : Nat) : 0 < (number n depth).length :=
  List.length_pos_of_ne_nil Nat.toDigits_ne_nil

end Foundation.PrettyJson
