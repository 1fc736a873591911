import Mathlib

/-! Ordered maps and sets. `Std.ExtTreeMap` is extensional and iterates in key order. -/

open Std ExtTreeMap

abbrev BTreeMap (κ ν : Type) [Ord κ] := ExtTreeMap κ ν compare
abbrev BTreeSet (κ : Type) [Ord κ] := ExtTreeSet κ compare

/-- Fixed-size byte strings, ordered byte by byte. -/
structure Bytes32 where
  bytes : List UInt8
  length_eq : bytes.length = 32
deriving DecidableEq

namespace Bytes32

theorem ext_bytes {a b : Bytes32} (same : a.bytes = b.bytes) : a = b := by
  cases a
  cases b
  simpa using same

instance : Ord Bytes32 := ⟨compareOn bytes⟩

instance : TransOrd Bytes32 := inferInstanceAs (TransCmp (compareOn bytes))

instance : LawfulEqOrd Bytes32 where
  eq_of_compare same := ext_bytes (LawfulEqOrd.eq_of_compare (α := List UInt8) same)

/-- The same byte thirty-two times. -/
def replicate (b : UInt8) : Bytes32 := ⟨List.replicate 32 b, List.length_replicate⟩

end Bytes32

namespace BTreeMap

variable {κ ν : Type} [Ord κ] [TransOrd κ] {m : BTreeMap κ ν} {k a : κ} {v : ν}

theorem mem_of_getElem? (stored : m[k]? = some v) : k ∈ m := by
  rw [← isSome_getElem?_iff_mem, stored]
  rfl

theorem size_insert_of_getElem? {w : ν} (stored : m[k]? = some v) : (m.insert k w).size = m.size := by
  rw [size_insert, if_pos (contains_iff_mem.mpr (mem_of_getElem? stored))]

theorem size_insert_of_not_mem {w : ν} (absent : k ∉ m) : (m.insert k w).size = m.size + 1 := by
  rw [size_insert, if_neg (mt contains_iff_mem.mp absent)]

theorem size_erase_of_getElem? (stored : m[k]? = some v) : (m.erase k).size = m.size - 1 := by
  rw [size_erase, if_pos (contains_iff_mem.mpr (mem_of_getElem? stored))]

theorem nodup_map_fst_toList (m : BTreeMap κ ν) : (m.toList.map Prod.fst).Nodup := by
  rw [map_fst_toList_eq_keys]
  exact nodup_keys

/-- The keys of some of the entries. -/
theorem nodup_filterMap_key (m : BTreeMap κ ν) (p : κ × ν → Prop) [DecidablePred p] :
    (m.toList.filterMap fun entry => if p entry then some entry.1 else none).Nodup := by
  refine (nodup_map_fst_toList m).sublist ?_
  induction m.toList with
  | nil => exact .slnil
  | cons entry rest ih =>
    by_cases holds : p entry
    · simpa [holds] using ih.cons_cons entry.1
    · simpa [holds] using ih.cons entry.1

theorem size_foldl_erase_le (keys : List κ) (m : BTreeMap κ ν) :
    (keys.foldl (fun current k => current.erase k) m).size ≤ m.size := by
  induction keys generalizing m with
  | nil => exact Nat.le_refl _
  | cons k rest ih => exact (ih _).trans size_erase_le

variable [LawfulEqOrd κ]

theorem getElem?_insert_ne (different : a ≠ k) : (m.insert k v)[a]? = m[a]? := by
  simp only [getElem?_insert, Std.compare_eq_iff_eq, different.symm, if_false]

theorem getElem?_erase_ne (different : a ≠ k) : (m.erase k)[a]? = m[a]? := by
  simp only [getElem?_erase, Std.compare_eq_iff_eq, different.symm, if_false]

/-- An entry of an updated map is the new one or stood there before. -/
theorem getElem?_insert_cases {w : ν} (stored : (m.insert k v)[a]? = some w) :
    (a = k ∧ w = v) ∨ (a ≠ k ∧ m[a]? = some w) := by
  by_cases same : a = k
  · subst same
    rw [getElem?_insert_self] at stored
    exact .inl ⟨rfl, (Option.some.inj stored).symm⟩
  · rw [getElem?_insert_ne same] at stored
    exact .inr ⟨same, stored⟩

theorem getElem?_erase_cases {w : ν} (stored : (m.erase k)[a]? = some w) : a ≠ k ∧ m[a]? = some w := by
  by_cases same : a = k
  · subst same
    simp at stored
  · exact ⟨same, by rwa [getElem?_erase_ne same] at stored⟩

theorem size_pos_of_mem (member : k ∈ m) : 0 < m.size := by
  rw [← length_keys]
  exact List.length_pos_of_mem (mem_keys.mpr member)

theorem mem_insert_iff : a ∈ m.insert k v ↔ a = k ∨ a ∈ m := by
  rw [mem_insert, Std.compare_eq_iff_eq, eq_comm]

theorem mem_filterMap_key (m : BTreeMap κ ν) (p : κ × ν → Prop) [DecidablePred p] :
    (k ∈ m.toList.filterMap fun entry => if p entry then some entry.1 else none) ↔ ∃ v, m[k]? = some v ∧ p (k, v) := by
  simp only [List.mem_filterMap, Prod.exists, mem_toList_iff_getElem?_eq_some]
  constructor
  · rintro ⟨key, value, stored, found⟩
    split at found
    · rename_i holds
      cases found
      exact ⟨value, stored, holds⟩
    · cases found
  · rintro ⟨value, stored, holds⟩
    exact ⟨k, value, stored, if_pos holds⟩

/-- The entries of a map under one key. -/
theorem filter_toList_key [DecidableEq κ] (m : BTreeMap κ ν) (k : κ) :
    (m.toList.filter fun entry => entry.1 = k) = (m[k]?.map fun v => (k, v)).toList := by
  have members : ∀ entry, entry ∈ (m.toList.filter fun entry => entry.1 = k) ↔ m[k]? = some entry.2 ∧ entry.1 = k := by
    rintro ⟨key, value⟩
    rw [List.mem_filter, mem_toList_iff_getElem?_eq_some, decide_eq_true_eq]
    constructor
    · rintro ⟨stored, rfl⟩
      exact ⟨stored, rfl⟩
    · rintro ⟨stored, rfl⟩
      exact ⟨stored, rfl⟩
  have distinct : (m.toList.filter fun entry => entry.1 = k).Nodup :=
    (nodup_map_fst_toList m).of_map.filter _
  cases stored : m[k]? with
  | none =>
    refine List.eq_nil_iff_forall_not_mem.mpr fun entry member => ?_
    rw [members, stored] at member
    cases member.1
  | some =>
    refine List.perm_singleton.mp ((List.perm_ext_iff_of_nodup distinct (List.nodup_singleton _)).mpr fun entry => ?_)
    rw [members, stored, List.mem_singleton, Prod.ext_iff, Option.some.injEq]
    constructor
    · rintro ⟨rfl, same⟩
      exact ⟨same, rfl⟩
    · rintro ⟨same, rfl⟩
      exact ⟨rfl, same⟩

/-- Inserting one value under every key of a list. -/
theorem getElem?_foldl_insert (keys : List κ) (v : ν) (m : BTreeMap κ ν) (a : κ) [DecidableEq κ] :
    (keys.foldl (fun current k => current.insert k v) m)[a]? = if a ∈ keys then some v else m[a]? := by
  induction keys generalizing m with
  | nil => simp
  | cons k rest ih =>
    rw [List.foldl_cons, ih]
    by_cases inRest : a ∈ rest
    · simp [inRest]
    · by_cases same : a = k
      · simp [same]
      · simp [inRest, same, getElem?_insert_ne same]

theorem getElem?_foldl_erase {keys : List κ} (kept : a ∉ keys) (m : BTreeMap κ ν) :
    (keys.foldl (fun current k => current.erase k) m)[a]? = m[a]? := by
  induction keys generalizing m with
  | nil => rfl
  | cons k rest ih =>
    obtain ⟨different, later⟩ := List.ne_and_not_mem_of_not_mem_cons kept
    rw [List.foldl_cons, ih later, getElem?_erase_ne different]

/-- Erasing those keys of a list that hold a given value. -/
theorem getElem?_foldl_erase_if (keys : List κ) (v : ν) (m : BTreeMap κ ν) (a : κ) [DecidableEq κ] [DecidableEq ν] :
    (keys.foldl (fun current k => if current[k]? = some v then current.erase k else current) m)[a]? =
      if a ∈ keys ∧ m[a]? = some v then none else m[a]? := by
  induction keys generalizing m with
  | nil => simp
  | cons k rest ih =>
    rw [List.foldl_cons, ih]
    by_cases same : a = k
    · subst same
      by_cases held : m[a]? = some v <;> simp [held]
    · by_cases held : m[k]? = some v
      · simp [held, getElem?_erase_ne same, same]
      · simp [held, same]

/-- Inserting entries with distinct keys, one after another. -/
theorem getElem?_foldl_insert_entries (entries : List (κ × ν)) (m : BTreeMap κ ν)
    (distinct : (entries.map Prod.fst).Nodup) (a : κ) (v : ν) :
    (entries.foldl (fun current entry => current.insert entry.1 entry.2) m)[a]? = some v ↔
      (a, v) ∈ entries ∨ a ∉ entries.map Prod.fst ∧ m[a]? = some v := by
  induction entries generalizing m with
  | nil => simp
  | cons entry rest ih =>
    rw [List.map_cons, List.nodup_cons] at distinct
    rw [List.foldl_cons, ih _ distinct.2]
    by_cases same : a = entry.1
    · subst same
      have notLater : (entry.1, v) ∉ rest := fun member => distinct.1 (List.mem_map.mpr ⟨_, member, rfl⟩)
      have value : entry = (entry.1, v) ↔ entry.2 = v := by simp [Prod.ext_iff]
      simp [distinct.1, notLater, eq_comm (a := (entry.1, v)), value]
    · have other : (a, v) ≠ entry := fun equal => same (congrArg Prod.fst equal)
      simp [same, other, getElem?_insert_ne same]

/-- Rebuilding a map from its own entries. -/
theorem foldl_insert_toList (m : BTreeMap κ ν) :
    m.toList.foldl (fun current entry => current.insert entry.1 entry.2) ∅ = m := by
  refine ext_getElem? fun a => Option.ext fun v => ?_
  rw [getElem?_foldl_insert_entries _ _ (nodup_map_fst_toList m),
    mem_toList_iff_getElem?_eq_some]
  simp

end BTreeMap

theorem BTreeSet.mem_foldl_insert {κ : Type} [Ord κ] [TransOrd κ] [LawfulEqOrd κ] (keys : List κ) (s : BTreeSet κ)
    (a : κ) : a ∈ keys.foldl (fun current k => current.insert k) s ↔ a ∈ keys ∨ a ∈ s := by
  induction keys generalizing s with
  | nil => simp
  | cons k rest ih =>
    rw [List.foldl_cons, ih]
    simp only [ExtTreeSet.mem_insert, Std.compare_eq_iff_eq, List.mem_cons, eq_comm (a := k)]
    tauto

theorem BTreeSet.mem_filter {κ : Type} [Ord κ] [TransOrd κ] [LawfulEqOrd κ] {s : BTreeSet κ} {keep : κ → Bool} {a : κ} :
    a ∈ s.filter keep ↔ a ∈ s ∧ keep a = true := by
  rw [ExtTreeSet.mem_filter]
  simp only [ExtTreeSet.get_eq, exists_prop]
