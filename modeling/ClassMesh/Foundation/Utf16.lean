import Mathlib

/-! UTF-16 as the standard library encodes and decodes it. -/

namespace Foundation

def isSurrogate (unit : UInt16) : Bool := 0xd800 ≤ unit.toNat && unit.toNat ≤ 0xdfff
def isTrailing (unit : UInt16) : Bool := 0xdc00 ≤ unit.toNat && unit.toNat ≤ 0xdfff

/-- `char::encode_utf16`. -/
def encodeChar (c : Char) : List UInt16 :=
  if c.toNat < 0x10000 then [UInt16.ofNat c.toNat]
  else [UInt16.ofNat (0xd800 + (c.toNat - 0x10000) / 1024), UInt16.ofNat (0xdc00 + (c.toNat - 0x10000) % 1024)]

/-- `str::encode_utf16`. -/
def encodeUtf16 (text : List Char) : List UInt16 := text.flatMap encodeChar

/-- The scalar value of a pair of surrogates. -/
def pairValue (leading trailing : UInt16) : Nat :=
  (leading.toNat - 0xd800) * 1024 + (trailing.toNat - 0xdc00) + 0x10000

/-- `char::decode_utf16`: a lone surrogate is an error, and the unit after it is looked at again. -/
def decodeUtf16 : List UInt16 → List (Option Char)
  | [] => []
  | unit :: rest =>
    if !isSurrogate unit then some (Char.ofNat unit.toNat) :: decodeUtf16 rest
    else if isTrailing unit then none :: decodeUtf16 rest
    else
      match rest with
      | [] => [none]
      | next :: more =>
        if isTrailing next then some (Char.ofNat (pairValue unit next)) :: decodeUtf16 more
        else none :: decodeUtf16 (next :: more)

section Chars

variable {c : Char}

theorem scalar_valid (c : Char) : c.toNat < 0xd800 ∨ (0xdfff < c.toNat ∧ c.toNat < 0x110000) := c.valid

theorem toNat_ofNat_of_lt {n : Nat} (fits : n < 2 ^ 16) : (UInt16.ofNat n).toNat = n := by
  rw [UInt16.toNat_ofNat', Nat.mod_eq_of_lt fits]

/-- A character is one unit that is no surrogate, or a pair of surrogates. -/
theorem encodeChar_cases (c : Char) :
    (∃ unit : UInt16, encodeChar c = [unit] ∧ isSurrogate unit = false ∧ unit.toNat = c.toNat) ∨
      ∃ leading trailing : UInt16, encodeChar c = [leading, trailing] ∧ isSurrogate leading = true ∧
        isTrailing leading = false ∧ isTrailing trailing = true ∧ pairValue leading trailing = c.toNat ∧
        0x10000 ≤ c.toNat := by
  have valid := scalar_valid c
  unfold encodeChar
  split
  · next small =>
    have value : (UInt16.ofNat c.toNat).toNat = c.toNat := toNat_ofNat_of_lt (by omega)
    refine .inl ⟨_, rfl, ?_, value⟩
    simp only [isSurrogate, value, Bool.and_eq_false_iff, decide_eq_false_iff_not]
    omega
  · next large =>
    have high : (UInt16.ofNat (0xd800 + (c.toNat - 0x10000) / 1024)).toNat = 0xd800 + (c.toNat - 0x10000) / 1024 :=
      toNat_ofNat_of_lt (by omega)
    have low : (UInt16.ofNat (0xdc00 + (c.toNat - 0x10000) % 1024)).toNat = 0xdc00 + (c.toNat - 0x10000) % 1024 :=
      toNat_ofNat_of_lt (by omega)
    refine .inr ⟨_, _, rfl, ?_, ?_, ?_, ?_, by omega⟩
    · simp only [isSurrogate, high, Bool.and_eq_true, decide_eq_true_eq]
      omega
    · simp only [isTrailing, high, Bool.and_eq_false_iff, decide_eq_false_iff_not]
      omega
    · simp only [isTrailing, low, Bool.and_eq_true, decide_eq_true_eq]
      omega
    · simp only [pairValue, high, low]
      omega

theorem encodeChar_of_unit {unit : UInt16} (plain : isSurrogate unit = false) :
    encodeChar (Char.ofNat unit.toNat) = [unit] := by
  have bound := unit.toNat_lt
  simp only [isSurrogate, Bool.and_eq_false_iff, decide_eq_false_iff_not] at plain
  have valid : unit.toNat.isValidChar := by
    unfold Nat.isValidChar
    omega
  have value : (Char.ofNat unit.toNat).toNat = unit.toNat := by rw [Char.toNat_ofNat, if_pos valid]
  rw [encodeChar, value, if_pos (by omega), UInt16.ofNat_toNat]

theorem encodeChar_of_pair {leading trailing : UInt16} (leads : isSurrogate leading = true)
    (first : isTrailing leading = false) (second : isTrailing trailing = true) :
    encodeChar (Char.ofNat (pairValue leading trailing)) = [leading, trailing] := by
  simp only [isSurrogate, isTrailing, Bool.and_eq_true, Bool.and_eq_false_iff, decide_eq_true_eq,
    decide_eq_false_iff_not] at leads first second
  have expanded : pairValue leading trailing =
      (leading.toNat - 0xd800) * 1024 + (trailing.toNat - 0xdc00) + 0x10000 := rfl
  have valid : (pairValue leading trailing).isValidChar := by
    unfold Nat.isValidChar
    omega
  have value : (Char.ofNat (pairValue leading trailing)).toNat = pairValue leading trailing := by
    rw [Char.toNat_ofNat, if_pos valid]
  have high : 0xd800 + (pairValue leading trailing - 0x10000) / 1024 = leading.toNat := by omega
  have low : 0xdc00 + (pairValue leading trailing - 0x10000) % 1024 = trailing.toNat := by omega
  rw [encodeChar, value, if_neg (by omega), high, low, UInt16.ofNat_toNat, UInt16.ofNat_toNat]

end Chars

theorem decodeUtf16_append (c : Char) (rest : List UInt16) :
    decodeUtf16 (encodeChar c ++ rest) = some c :: decodeUtf16 rest := by
  rcases encodeChar_cases c with ⟨unit, encoded, plain, value⟩ |
    ⟨leading, trailing, encoded, leads, first, second, value, _⟩
  · rw [encoded, List.singleton_append, decodeUtf16.eq_def]
    simp only [plain, Bool.not_false, if_true, value, Char.ofNat_toNat]
  · rw [encoded, List.cons_append, List.singleton_append, decodeUtf16.eq_def]
    simp only [leads, first, Bool.not_true, Bool.false_eq_true, if_false, second, if_true, value, Char.ofNat_toNat]

/-- Decoding gives a text without an error exactly for the encoding of that text. -/
theorem decodeUtf16_eq_iff {units : List UInt16} {text : List Char} :
    decodeUtf16 units = text.map some ↔ units = encodeUtf16 text := by
  constructor
  · intro decoded
    fun_induction decodeUtf16 units generalizing text with
    | case1 =>
      cases text with
      | nil => rfl
      | cons => cases decoded
    | case2 unit rest plain ih =>
      cases text with
      | nil => cases decoded
      | cons =>
        obtain ⟨same, later⟩ := List.cons_eq_cons.mp decoded
        have encoded := encodeChar_of_unit (Bool.not_eq_true' _ ▸ plain)
        cases Option.some.inj same
        rw [encodeUtf16, List.flatMap_cons, encoded, ih later]
        rfl
    | case3 unit rest _ _ ih =>
      cases text with
      | nil => cases decoded
      | cons => cases (List.cons_eq_cons.mp decoded).1
    | case4 =>
      cases text with
      | nil => cases decoded
      | cons => cases (List.cons_eq_cons.mp decoded).1
    | case5 unit leads first next more second ih =>
      cases text with
      | nil => cases decoded
      | cons =>
        obtain ⟨same, later⟩ := List.cons_eq_cons.mp decoded
        have encoded := encodeChar_of_pair (by simpa using leads) (by simpa using first) second
        cases Option.some.inj same
        rw [encodeUtf16, List.flatMap_cons, encoded, ih later]
        rfl
    | case6 unit _ _ next more _ ih =>
      cases text with
      | nil => cases decoded
      | cons => cases (List.cons_eq_cons.mp decoded).1
  · rintro rfl
    induction text with
    | nil => rfl
    | cons c text ih =>
      rw [encodeUtf16, List.flatMap_cons, decodeUtf16_append, List.map_cons]
      exact congrArg _ ih

theorem encodeChar_length_le (c : Char) : (encodeChar c).length ≤ c.utf8Size := by
  rcases encodeChar_cases c with ⟨unit, encoded, _, _⟩ | ⟨leading, trailing, encoded, _, _, _, _, large⟩
  · rw [encoded]
    exact c.utf8Size_pos
  · have above : ∀ bound : UInt32, bound.toNat < 0x10000 → ¬c.val ≤ bound := by
      intro bound small below
      have value : c.val.toNat = c.toNat := rfl
      have order := UInt32.le_iff_toNat_le.mp below
      omega
    have size : c.utf8Size = 4 :=
      (if_neg (above 0x7f (by decide))).trans ((if_neg (above 0x7ff (by decide))).trans
        (if_neg (above 0xffff (by decide))))
    have two : [leading, trailing].length = 2 := rfl
    rw [encoded, size, two]
    omega

theorem zero_mem_encodeChar_iff (c : Char) : 0 ∈ encodeChar c ↔ c.toNat = 0 := by
  rcases encodeChar_cases c with ⟨unit, encoded, _, value⟩ | ⟨leading, trailing, encoded, leads, _, second, _, large⟩
  · rw [encoded, List.mem_singleton, ← value, ← UInt16.toNat_inj, eq_comm]
    rfl
  · have notLeading : (0 : UInt16) ≠ leading := by
      rintro rfl
      cases leads
    have notTrailing : (0 : UInt16) ≠ trailing := by
      rintro rfl
      cases second
    rw [encoded]
    simp only [List.mem_cons, List.not_mem_nil, notLeading, notTrailing, or_self, false_iff]
    omega

theorem zero_mem_encodeUtf16_iff (text : List Char) : 0 ∈ encodeUtf16 text ↔ Char.ofNat 0 ∈ text := by
  rw [encodeUtf16, List.mem_flatMap]
  constructor
  · rintro ⟨c, member, zero⟩
    have value := (zero_mem_encodeChar_iff c).mp zero
    rw [← Char.ofNat_toNat c, value] at member
    exact member
  · intro member
    exact ⟨_, member, (zero_mem_encodeChar_iff _).mpr rfl⟩

end Foundation
