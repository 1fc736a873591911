import ClassMesh.Foundation.Bytes
import ClassMesh.Foundation.Utf16
import ClassMesh.Protocol.ControlWire

namespace ClassMesh

open Foundation

/-- The text of at most 64 KiB in UTF-8, and its terminator. -/
def maxClipboardUtf16Units : Nat := 64 * 1024 + 1

inductive ClipboardUtf16Error
  | missingTerminator
  | invalidSurrogate
  | tooLarge
deriving DecidableEq

inductive ClipboardUtf16WriteError
  | tooLarge
  | interiorNul
deriving DecidableEq

inductive ClipboardUnicodeReadError
  | busy
  | unavailable
  | memoryUnavailable
  | invalidLayout
  | tooLarge
  | missingTerminator
deriving DecidableEq

def nul : Char := Char.ofNat 0

def encodeClipboardWrite (text : List Char) : Except ClipboardUtf16WriteError (List UInt16) :=
  if maxClipboardTextBytes < byteLen text then .error .tooLarge
  else if nul ∈ text then .error .interiorNul
  else .ok (encodeUtf16 text ++ [0])

def copyBoundedClipboardUnicode (input : List UInt16) : Except ClipboardUnicodeReadError (List UInt16) :=
  if maxClipboardUtf16Units < input.length then .error .tooLarge
  else
    match input.findIdx? (· = 0) with
    | none => .error .missingTerminator
    | some stop => .ok (input.take (stop + 1))

/-- The text grows by one character at a time and never beyond its bound. -/
def pushDecoded (text : List Char) : List (Option Char) → Except ClipboardUtf16Error (List Char)
  | [] => .ok text
  | none :: _ => .error .invalidSurrogate
  | some value :: rest =>
    if maxClipboardTextBytes < byteLen text + value.utf8Size then .error .tooLarge
    else pushDecoded (text ++ [value]) rest

def decodeUtf16Bounded (input : List UInt16) : Except ClipboardUtf16Error (List Char) :=
  match (input.take (maxClipboardTextBytes + 1)).findIdx? (· = 0) with
  | none => .error (if maxClipboardTextBytes < input.length then .tooLarge else .missingTerminator)
  | some stop => pushDecoded [] (decodeUtf16 (input.take stop))

/-- The input as `zeroize` leaves it, and the result. -/
def decodeClipboardUtf16Zeroizing (zeroize : List UInt16 → List UInt16) (input : List UInt16) :
    List UInt16 × Except ClipboardUtf16Error (List Char) :=
  (zeroize input, decodeUtf16Bounded input)

section Lemmas

variable {text more : List Char} {units : List UInt16}

theorem encodeUtf16_length_le (text : List Char) : (encodeUtf16 text).length ≤ byteLen text := by
  induction text with
  | nil => exact Nat.zero_le _
  | cons c text ih =>
    have first := encodeChar_length_le c
    have grows : byteLen (c :: text) = c.utf8Size + byteLen text := by simp [byteLen]
    rw [encodeUtf16, List.flatMap_cons, List.length_append, grows]
    exact Nat.add_le_add first ih

/-- The first NUL, if there is one. -/
theorem findIdx?_zero_iff {stop : Nat} : units.findIdx? (· = 0) = some stop ↔
    ∃ front rest, units = front ++ 0 :: rest ∧ 0 ∉ front ∧ front.length = stop := by
  constructor
  · intro found
    obtain ⟨_, zero, before⟩ := List.findIdx?_eq_some_iff_getElem.mp found
    refine ⟨units.take stop, units.drop (stop + 1), ?_, ?_, ?_⟩
    · have here : units[stop] = 0 := by simpa using zero
      rw [← here, List.cons_getElem_drop_succ, List.take_append_drop]
    · intro member
      obtain ⟨place, bound, same⟩ := List.getElem_of_mem member
      rw [List.length_take] at bound
      rw [List.getElem_take] at same
      have notZero := before place (by omega)
      simp [same] at notZero
    · rw [List.length_take]
      omega
  · rintro ⟨_, _, rfl, absent, rfl⟩
    rw [List.findIdx?_append, List.findIdx?_eq_none_iff.mpr]
    · simp [List.findIdx?_cons]
    · intro unit member
      simp only [decide_eq_false_iff_not]
      rintro rfl
      exact absent member

theorem pushDecoded_eq_ok_iff {results : List (Option Char)} {decoded : List Char}
    (fits : byteLen text ≤ maxClipboardTextBytes) :
    pushDecoded text results = .ok decoded ↔
      ∃ more, results = more.map some ∧ decoded = text ++ more ∧ byteLen decoded ≤ maxClipboardTextBytes := by
  induction results generalizing text with
  | nil =>
    constructor
    · intro done
      cases done
      exact ⟨[], rfl, (List.append_nil _).symm, fits⟩
    · rintro ⟨_, none, rfl, _⟩
      rw [List.map_eq_nil_iff.mp none.symm, List.append_nil]
      rfl
  | cons result results ih =>
    cases result with
    | none =>
      refine iff_of_false (by simp [pushDecoded]) ?_
      rintro ⟨more, same, _⟩
      cases more with
      | nil => cases same
      | cons => cases (List.cons_eq_cons.mp same).1
    | some value =>
      have grown : byteLen (text ++ [value]) = byteLen text + value.utf8Size := by
        rw [byteLen_append]
        simp [byteLen]
      unfold pushDecoded
      by_cases large : maxClipboardTextBytes < byteLen text + value.utf8Size
      · rw [if_pos large]
        refine iff_of_false (by simp) ?_
        rintro ⟨more, same, rfl, bounded⟩
        cases more with
        | nil => cases same
        | cons =>
          cases (List.cons_eq_cons.mp same).1
          rw [← List.singleton_append, ← List.append_assoc, byteLen_append, grown] at bounded
          omega
      · rw [if_neg large, ih (by omega)]
        constructor
        · rintro ⟨more, rfl, rfl, bounded⟩
          exact ⟨value :: more, rfl, by simp, bounded⟩
        · rintro ⟨more, same, rfl, bounded⟩
          cases more with
          | nil => cases same
          | cons c more =>
            obtain ⟨first, rest⟩ := List.cons_eq_cons.mp same
            cases first
            exact ⟨more, rest, by simp, bounded⟩

theorem decodeUtf16Bounded_eq_ok_iff : decodeUtf16Bounded units = .ok text ↔
    ∃ front rest, units = front ++ 0 :: rest ∧ 0 ∉ front ∧ front.length ≤ maxClipboardTextBytes ∧
      encodeUtf16 text = front ∧ byteLen text ≤ maxClipboardTextBytes := by
  have empty : byteLen [] ≤ maxClipboardTextBytes := Nat.zero_le _
  unfold decodeUtf16Bounded
  constructor
  · intro decoded
    split at decoded
    · cases decoded
    · next stop found =>
      obtain ⟨front, rest, cut, absent, length⟩ := findIdx?_zero_iff.mp found
      obtain ⟨_, results, same, bounded⟩ := (pushDecoded_eq_ok_iff empty).mp decoded
      rw [List.nil_append] at same
      subst same
      have short := congrArg List.length cut
      rw [List.length_take, List.length_append, List.length_cons] at short
      have whole : units = front ++ 0 :: (rest ++ units.drop (maxClipboardTextBytes + 1)) := by
        rw [← List.cons_append, ← List.append_assoc, ← cut, List.take_append_drop]
      have begins : units.take stop = front := by
        rw [whole, ← length, List.take_left]
      refine ⟨front, _, whole, absent, by omega, ?_, bounded⟩
      rw [begins] at results
      exact (decodeUtf16_eq_iff.mp results).symm
  · rintro ⟨_, rest, rfl, absent, _, rfl, bounded⟩
    have found : ((encodeUtf16 text ++ 0 :: rest).take (maxClipboardTextBytes + 1)).findIdx? (· = 0) =
        some (encodeUtf16 text).length := by
      rw [findIdx?_zero_iff]
      refine ⟨encodeUtf16 text, rest.take (maxClipboardTextBytes - (encodeUtf16 text).length), ?_, absent, rfl⟩
      rw [List.take_append, List.take_of_length_le (by omega)]
      have room : maxClipboardTextBytes + 1 - (encodeUtf16 text).length =
          (maxClipboardTextBytes - (encodeUtf16 text).length) + 1 := by omega
      rw [room, List.take_succ_cons]
    rw [found]
    simp only [List.take_left]
    refine (pushDecoded_eq_ok_iff empty).mpr ⟨text, decodeUtf16_eq_iff.mpr rfl, rfl, bounded⟩

theorem encodeClipboardWrite_of_bounded (plain : nul ∉ text) (bounded : byteLen text ≤ maxClipboardTextBytes) :
    encodeClipboardWrite text = .ok (encodeUtf16 text ++ [0]) := by
  rw [encodeClipboardWrite, if_neg (Nat.not_lt.mpr bounded), if_neg plain]

end Lemmas

/-- Clipboard text survives UTF-16. A bounded text without NUL comes back from the units written for it, whatever
follows them in the clipboard memory. Units decode exactly if they are those of a bounded text up to a NUL that is not
too far, and then that text is written as the same units. The decoder leaves only zeros, if that is what `zeroize`
leaves. -/
theorem clipboard_text_survives_utf16 (zeroize : List UInt16 → List UInt16) :
    (∀ text, nul ∉ text → byteLen text ≤ maxClipboardTextBytes → ∃ units, encodeClipboardWrite text = .ok units ∧
      ∀ further, (units ++ further).length ≤ maxClipboardUtf16Units →
        ∃ copy, copyBoundedClipboardUnicode (units ++ further) = .ok copy ∧
          (decodeClipboardUtf16Zeroizing zeroize copy).2 = .ok text) ∧
    (∀ units text, (decodeClipboardUtf16Zeroizing zeroize units).2 = .ok text ↔
      ∃ front rest, units = front ++ 0 :: rest ∧ 0 ∉ front ∧ front.length < 65537 ∧
        encodeUtf16 text = front ∧ byteLen text ≤ maxClipboardTextBytes) ∧
    (∀ units text, (decodeClipboardUtf16Zeroizing zeroize units).2 = .ok text →
      ∃ front rest, units = front ++ 0 :: rest ∧ 0 ∉ front ∧ encodeClipboardWrite text = .ok (front ++ [0])) ∧
    (Zeroizes zeroize → ∀ units, (decodeClipboardUtf16Zeroizing zeroize units).1 = List.replicate units.length 0) := by
  refine ⟨?_, ?_, ?_, fun zeroizes units => zeroizes units⟩
  · intro text plain bounded
    refine ⟨_, encodeClipboardWrite_of_bounded plain bounded, fun further fits => ?_⟩
    have absent : 0 ∉ encodeUtf16 text := fun zero => plain ((zero_mem_encodeUtf16_iff text).mp zero)
    have found : (encodeUtf16 text ++ [0] ++ further).findIdx? (· = 0) = some (encodeUtf16 text).length :=
      findIdx?_zero_iff.mpr ⟨encodeUtf16 text, further, by simp, absent, rfl⟩
    have copied : copyBoundedClipboardUnicode (encodeUtf16 text ++ [0] ++ further) = .ok (encodeUtf16 text ++ [0]) := by
      rw [copyBoundedClipboardUnicode, if_neg (Nat.not_lt.mpr fits), found]
      simp only [Except.ok.injEq]
      exact List.take_left' (by simp)
    refine ⟨_, copied, decodeUtf16Bounded_eq_ok_iff.mpr ⟨_, [], rfl, absent, ?_, rfl, bounded⟩⟩
    exact Nat.le_trans (encodeUtf16_length_le text) bounded
  · intro units text
    have reach (front : List UInt16) : front.length < 65537 ↔ front.length ≤ maxClipboardTextBytes := Nat.lt_succ_iff
    simp only [reach]
    exact decodeUtf16Bounded_eq_ok_iff
  · intro units text decoded
    obtain ⟨_, rest, cut, absent, _, rfl, bounded⟩ := decodeUtf16Bounded_eq_ok_iff.mp decoded
    refine ⟨_, rest, cut, absent, encodeClipboardWrite_of_bounded (fun member => absent ?_) bounded⟩
    exact (zero_mem_encodeUtf16_iff text).mpr member

end ClassMesh
