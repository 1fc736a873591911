import Mathlib

namespace Foundation

variable {α β κ : Type*} (same : α → α → Prop) [DecidableRel same]

/-- A group of keys with a leader. A value joins the first group whose leader is the same, or leads a new one. -/
def joinGroup : List (α × List κ) → κ × α → List (α × List κ)
  | [], (key, value) => [(value, [key])]
  | (leader, keys) :: rest, (key, value) =>
    if same leader value then (leader, keys ++ [key]) :: rest else (leader, keys) :: joinGroup rest (key, value)

def groups (items : List (κ × α)) : List (α × List κ) := items.foldl (joinGroup same) []

variable {same} {key : κ} {value : α}

theorem joinGroup_keys (earlier : List (α × List κ)) (key : κ) (value : α) :
    ((joinGroup same earlier (key, value)).flatMap (·.2)).Perm (earlier.flatMap (·.2) ++ [key]) := by
  induction earlier with
  | nil => exact .refl _
  | cons group rest ih =>
    unfold joinGroup
    split
    · simp only [List.flatMap_cons, List.append_assoc]
      exact List.perm_append_comm.append_left group.2
    · simp only [List.flatMap_cons, List.append_assoc]
      exact ih.append_left group.2

variable (same) in
/-- The leaders stay, and a value leads a group only if no leader is the same. -/
theorem joinGroup_leaders (earlier : List (α × List κ)) (key : κ) (value : α) :
    (joinGroup same earlier (key, value)).map (·.1) = earlier.map (·.1) ∨
      (∀ leader ∈ earlier.map (·.1), ¬same leader value) ∧
        (joinGroup same earlier (key, value)).map (·.1) = earlier.map (·.1) ++ [value] := by
  induction earlier with
  | nil => exact .inr ⟨by simp, rfl⟩
  | cons group rest ih =>
    unfold joinGroup
    split
    · exact .inl rfl
    · rename_i different
      rcases ih with kept | ⟨apart, grown⟩
      · exact .inl (congrArg (group.1 :: ·) kept)
      · exact .inr ⟨List.forall_mem_cons.mpr ⟨different, apart⟩, congrArg (group.1 :: ·) grown⟩

variable {earlier : List (α × List κ)}

theorem joinGroup_keeps {group : α × List κ} (member : group ∈ earlier) :
    ∃ after ∈ joinGroup same earlier (key, value), after.1 = group.1 ∧ group.2 ⊆ after.2 := by
  induction earlier with
  | nil => simp at member
  | cons first rest ih =>
    unfold joinGroup
    split
    · rcases List.mem_cons.mp member with rfl | later
      · exact ⟨_, List.mem_cons_self, rfl, List.subset_append_left _ _⟩
      · exact ⟨group, List.mem_cons_of_mem _ later, rfl, List.Subset.refl _⟩
    · rcases List.mem_cons.mp member with rfl | later
      · exact ⟨_, List.mem_cons_self, rfl, List.Subset.refl _⟩
      · obtain ⟨after, found, kept⟩ := ih later
        exact ⟨after, List.mem_cons_of_mem _ found, kept⟩

theorem joinGroup_joins (refl : ∀ value, same value value) (earlier : List (α × List κ)) :
    ∃ group ∈ joinGroup same earlier (key, value), key ∈ group.2 ∧ same group.1 value := by
  induction earlier with
  | nil => exact ⟨_, List.mem_cons_self, List.mem_cons_self, refl value⟩
  | cons first rest ih =>
    unfold joinGroup
    split
    · rename_i joined
      exact ⟨_, List.mem_cons_self, by simp, joined⟩
    · obtain ⟨group, found, joined⟩ := ih
      exact ⟨group, List.mem_cons_of_mem _ found, joined⟩

theorem joinGroup_nonempty (nonempty : ∀ group ∈ earlier, group.2 ≠ []) :
    ∀ group ∈ joinGroup same earlier (key, value), group.2 ≠ [] := by
  induction earlier with
  | nil => simp [joinGroup]
  | cons first rest ih =>
    obtain ⟨head, tail⟩ := List.forall_mem_cons.mp nonempty
    unfold joinGroup
    split
    · exact List.forall_mem_cons.mpr ⟨by simp, tail⟩
    · exact List.forall_mem_cons.mpr ⟨head, ih tail⟩

variable (same) in
/-- The items by groups: every item is in a group that its value leads or is the same as the leader of, and the leaders
are values of items and differ. -/
structure Grouped (items : List (κ × α)) (groups : List (α × List κ)) : Prop where
  keys : (groups.flatMap (·.2)).Perm (items.map (·.1))
  covers : ∀ item ∈ items, ∃ group ∈ groups, item.1 ∈ group.2 ∧ same group.1 item.2
  leaders : ∀ leader ∈ groups.map (·.1), ∃ item ∈ items, item.2 = leader
  nonempty : ∀ group ∈ groups, group.2 ≠ []
  apart : (groups.map (·.1)).Pairwise fun first second => ¬same first second

theorem Grouped.join (refl : ∀ value, same value value) {items : List (κ × α)} (grouped : Grouped same items earlier)
    (item : κ × α) : Grouped same (items ++ [item]) (joinGroup same earlier item) := by
  obtain ⟨key, value⟩ := item
  refine ⟨?_, ?_, ?_, joinGroup_nonempty grouped.nonempty, ?_⟩
  · rw [List.map_append]
    exact (joinGroup_keys earlier key value).trans (grouped.keys.append_right [key])
  · intro item member
    rcases List.mem_append.mp member with old | new
    · obtain ⟨group, found, inside, joined⟩ := grouped.covers item old
      obtain ⟨after, kept, leader, more⟩ : ∃ after ∈ joinGroup same earlier (key, value),
        after.1 = group.1 ∧ group.2 ⊆ after.2 := joinGroup_keeps found
      exact ⟨after, kept, more inside, leader ▸ joined⟩
    · rw [List.mem_singleton.mp new]
      exact joinGroup_joins refl earlier
  · intro leader member
    rcases joinGroup_leaders same earlier key value with kept | ⟨_, grown⟩
    · rw [kept] at member
      obtain ⟨item, found, rfl⟩ := grouped.leaders leader member
      exact ⟨item, List.mem_append_left _ found, rfl⟩
    · rw [grown] at member
      rcases List.mem_append.mp member with old | new
      · obtain ⟨item, found, rfl⟩ := grouped.leaders leader old
        exact ⟨item, List.mem_append_left _ found, rfl⟩
      · exact ⟨(key, value), List.mem_append_right _ List.mem_cons_self, (List.mem_singleton.mp new).symm⟩
  · rcases joinGroup_leaders same earlier key value with kept | ⟨apart, grown⟩
    · rw [kept]
      exact grouped.apart
    · rw [grown, List.pairwise_append]
      refine ⟨grouped.apart, List.pairwise_singleton _ _, fun leader member last new => ?_⟩
      rw [List.mem_singleton.mp new]
      exact apart leader member

theorem groups_grouped (refl : ∀ value, same value value) (items : List (κ × α)) :
    Grouped same items (groups same items) := by
  have all (earlier : List (κ × α)) (before : List (α × List κ)) (grouped : Grouped same earlier before) :
      Grouped same (earlier ++ items) (items.foldl (joinGroup same) before) := by
    induction items generalizing earlier before with
    | nil => simpa using grouped
    | cons item rest ih =>
      rw [List.append_cons]
      exact ih _ _ (grouped.join refl item)
  exact all [] [] ⟨.refl _, by simp, by simp, by simp, .nil⟩

/-- Of entries whose first components differ, one is the same as a given value. -/
theorem filter_of_apart (symm : ∀ {x y}, same x y → same y x) (trans : ∀ {x y z}, same x y → same y z → same x z)
    {entries : List (α × β)} (apart : (entries.map (·.1)).Pairwise fun first second => ¬same first second)
    {entry : α × β} (member : entry ∈ entries) (found : same entry.1 value) :
    entries.filter (fun other => same other.1 value) = [entry] := by
  induction entries with
  | nil => simp at member
  | cons first rest ih =>
    obtain ⟨different, apart⟩ := List.pairwise_cons.mp apart
    rcases List.mem_cons.mp member with rfl | later
    · rw [List.filter_cons_of_pos (by simpa using found)]
      refine congrArg (entry :: ·) (List.filter_eq_nil_iff.mpr fun other inside => ?_)
      rw [decide_eq_true_eq]
      exact fun equal => different other.1 (List.mem_map_of_mem inside) (trans found (symm equal))
    · rw [List.filter_cons_of_neg, ih apart later]
      rw [decide_eq_true_eq]
      exact fun equal => different entry.1 (List.mem_map_of_mem later) (trans equal (symm found))

/-- Every key of a group is paired once with what the group has. -/
theorem filter_flatMap_key [DecidableEq κ] {entries : List (List κ × β)} (nodup : (entries.flatMap (·.1)).Nodup)
    {entry : List κ × β} (member : entry ∈ entries) (inside : key ∈ entry.1) :
    (entries.flatMap fun other => other.1.map (·, other.2)).filter (·.1 = key) = [(key, entry.2)] := by
  induction entries with
  | nil => simp at member
  | cons first rest ih =>
    rw [List.flatMap_cons, List.nodup_append] at nodup
    obtain ⟨alone, others, disjoint⟩ := nodup
    rw [List.flatMap_cons, List.filter_append, List.filter_map]
    rcases List.mem_cons.mp member with rfl | later
    · have mine : entry.1.filter ((fun pair : κ × β => decide (pair.1 = key)) ∘ (·, entry.2)) = [key] := by
        refine (List.filter_eq key).trans ?_
        rw [List.count_eq_one_of_mem alone inside]
        rfl
      have none : (rest.flatMap fun other => other.1.map (·, other.2)).filter (·.1 = key) = [] := by
        refine List.filter_eq_nil_iff.mpr fun pair found => ?_
        obtain ⟨other, present, image⟩ := List.mem_flatMap.mp found
        obtain ⟨_, among, rfl⟩ := List.mem_map.mp image
        rw [decide_eq_true_eq]
        rintro rfl
        exact disjoint _ inside _ (List.mem_flatMap.mpr ⟨other, present, among⟩) rfl
      rw [mine, none]
      rfl
    · have none : first.1.filter ((fun pair : κ × β => decide (pair.1 = key)) ∘ (·, first.2)) = [] := by
        refine List.filter_eq_nil_iff.mpr fun other among => ?_
        simp only [Function.comp_apply, decide_eq_true_eq]
        rintro rfl
        exact disjoint _ among _ (List.mem_flatMap.mpr ⟨entry, later, inside⟩) rfl
      rw [none, List.map_nil, List.nil_append]
      exact ih others later

theorem exists_mem_zip {xs : List α} {ys : List β} (length : ys.length = xs.length) {x : α} (member : x ∈ xs) :
    ∃ y, (x, y) ∈ xs.zip ys := by
  obtain ⟨i, _, rfl⟩ := List.getElem_of_mem member
  have inside : i < (xs.zip ys).length := by
    rw [List.length_zip, length]
    omega
  exact ⟨ys[i], List.mem_iff_getElem.mpr ⟨i, inside, List.getElem_zip⟩⟩

end Foundation
