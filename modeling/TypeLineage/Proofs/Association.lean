/-! # Lists of pairs as maps

    A list of keys with values is read by the first pair of a key.  Where no
    key has two pairs, what is read under a key is the value it is paired with,
    and does not depend on the order of the pairs.  A key that is put in only
    where it is missing keeps the keys apart. -/

namespace TypeLineage.Association

variable {β : Type} {key : String} {value : β} {xs ys : List (String × β)}

/-- A key that is missing may come after the others. -/
theorem nodup_extended {keys : List String} (h : keys.Nodup) (key : String) :
    (if key ∈ keys then keys else keys ++ [key]).Nodup := by
  by_cases hk : key ∈ keys
  · rw [if_pos hk]
    exact h
  · rw [if_neg hk, List.nodup_append]
    refine ⟨h, List.pairwise_singleton _ key, ?_⟩
    intro a ha b hb hab
    rw [List.mem_singleton.mp hb] at hab
    exact hk (hab ▸ ha)

/-- A last key is dropped if it came before. -/
theorem eraseDups_concat (keys : List String) (key : String) :
    (keys ++ [key]).eraseDups
      = if key ∈ keys then keys.eraseDups else keys.eraseDups ++ [key] := by
  rw [List.eraseDups_append]
  by_cases h : key ∈ keys
  · simp [h, List.removeAll]
  · simp [h, List.removeAll, List.eraseDups_cons]

theorem lookup_cons_ite {α : Type} [BEq α] [LawfulBEq α] [DecidableEq α] {key : α} (k : α) (v : β)
    (rest : List (α × β)) : ((k, v) :: rest).lookup key = if key = k then some v else rest.lookup key := by
  rw [List.lookup_cons]
  by_cases h : key = k
  · rw [if_pos h, beq_iff_eq.mpr h]
  · rw [if_neg h, beq_eq_false_iff_ne.mpr h]

theorem mem_of_lookup (h : xs.lookup key = some value) : (key, value) ∈ xs := by
  obtain ⟨before, after, hxs, -⟩ := List.lookup_eq_some_iff.mp h
  rw [hxs]
  exact List.mem_append_right _ List.mem_cons_self

/-- With one pair a key, each value is found under its key. -/
theorem lookup_eq_some_iff_mem (hnd : (xs.map (·.1)).Nodup) :
    xs.lookup key = some value ↔ (key, value) ∈ xs := by
  refine ⟨mem_of_lookup, ?_⟩
  intro h
  induction xs with
  | nil => exact nomatch h
  | cons hd rest ih =>
      obtain ⟨k, v⟩ := hd
      rw [List.map_cons, List.nodup_cons] at hnd
      rw [lookup_cons_ite]
      rcases List.mem_cons.mp h with heq | hmem
      · obtain ⟨rfl, rfl⟩ := Prod.mk.inj heq
        exact if_pos rfl
      · have hne : ¬ key = k := by
          rintro rfl
          exact hnd.1 (List.mem_map.mpr ⟨(key, value), hmem, rfl⟩)
        rw [if_neg hne]
        exact ih hnd.2 hmem

/-- The order of the pairs does not matter. -/
theorem lookup_eq_of_perm (hperm : xs.Perm ys) (hnd : (xs.map (·.1)).Nodup) :
    xs.lookup key = ys.lookup key := by
  have hys : (ys.map (·.1)).Nodup := (hperm.map _).nodup_iff.mp hnd
  refine Option.ext fun value => ?_
  rw [lookup_eq_some_iff_mem hnd, lookup_eq_some_iff_mem hys]
  exact hperm.mem_iff

/-- With the same keys and one value under each, the pairs are the same. -/
theorem perm_of_agree (hnd : (xs.map (·.1)).Nodup) (hkeys : (xs.map (·.1)).Perm (ys.map (·.1)))
    (h : ∀ x ∈ xs, ∀ y ∈ ys, x.1 = y.1 → x.2 = y.2) : xs.Perm ys := by
  have hapart : ∀ zs : List (String × β), (zs.map (·.1)).Nodup → zs.Nodup := fun zs hzs =>
    List.Pairwise.of_map (·.1) (fun _ _ hne heq => hne (congrArg Prod.fst heq)) hzs
  refine (List.perm_ext_iff_of_nodup (hapart xs hnd)
    (hapart ys (hkeys.nodup_iff.mp hnd))).mpr fun p => ⟨?_, ?_⟩
  · intro hp
    obtain ⟨y, hy, hkey⟩ := List.mem_map.mp (hkeys.mem_iff.mp (List.mem_map_of_mem hp))
    rwa [Prod.ext hkey.symm (h p hp y hy hkey.symm)]
  · intro hp
    obtain ⟨x, hx, hkey⟩ := List.mem_map.mp (hkeys.mem_iff.mpr (List.mem_map_of_mem hp))
    rwa [← Prod.ext hkey (h x hx p hp hkey)]

theorem lookup_map_snd {γ : Type} (f : β → γ) (xs : List (String × β)) (key : String) :
    (xs.map fun x => (x.1, f x.2)).lookup key = (xs.lookup key).map f := by
  induction xs with
  | nil => rfl
  | cons x rest ih =>
      obtain ⟨k, v⟩ := x
      rw [List.map_cons, lookup_cons_ite, lookup_cons_ite, ih]
      by_cases h : key = k
      · rw [if_pos h, if_pos h, Option.map_some]
      · rw [if_neg h, if_neg h]

/-- Filtering by keys loses nothing under a key that passes. -/
theorem lookup_filter_key {p : String → Bool} (h : p key = true) (xs : List (String × β)) :
    (xs.filter fun x => p x.1).lookup key = xs.lookup key := by
  induction xs with
  | nil => rfl
  | cons x rest ih =>
      obtain ⟨k, v⟩ := x
      rw [List.filter_cons, lookup_cons_ite]
      by_cases hk : key = k
      · subst hk
        rw [if_pos h, lookup_cons_ite, if_pos rfl, if_pos rfl]
      · rw [if_neg hk, ← ih]
        by_cases hp : p k = true
        · rw [if_pos hp, lookup_cons_ite, if_neg hk]
        · rw [if_neg hp]

/-! ## Keys that may be missing -/

/-- The pairs of the keys that have a value. -/
def present (slots : List (String × Option β)) : List (String × β) :=
  slots.flatMap fun slot => (slot.2.map (slot.1, ·)).toList

theorem mem_slots_of_mem_present {slots : List (String × Option β)} {x : String × β}
    (h : x ∈ present slots) : (x.1, some x.2) ∈ slots := by
  obtain ⟨⟨k, value⟩, hslot, hx⟩ := List.mem_flatMap.mp h
  obtain ⟨v, rfl, rfl⟩ := Option.map_eq_some_iff.mp (Option.mem_toList.mp hx)
  exact hslot

theorem keys_present_sublist (slots : List (String × Option β)) :
    ((present slots).map (·.1)).Sublist (slots.map (·.1)) := by
  induction slots with
  | nil => exact List.Sublist.slnil
  | cons slot rest ih =>
      obtain ⟨k, value⟩ := slot
      unfold present at ih ⊢
      rw [List.flatMap_cons, List.map_append]
      cases value with
      | none => exact ih.cons k
      | some v => exact ih.cons_cons k

theorem lookup_present {slots : List (String × Option β)} (hnd : (slots.map (·.1)).Nodup)
    (key : String) : (present slots).lookup key = (slots.lookup key).join := by
  induction slots with
  | nil => rfl
  | cons slot rest ih =>
      obtain ⟨k, value⟩ := slot
      rw [List.map_cons, List.nodup_cons] at hnd
      have hsplit : present ((k, value) :: rest) = (value.map (k, ·)).toList ++ present rest := rfl
      have hfirst : (value.map (k, ·)).toList.lookup key = if key = k then value else none := by
        cases value with
        | none => exact (ite_self none).symm
        | some v => exact lookup_cons_ite k v []
      rw [hsplit, List.lookup_append, ih hnd.2, lookup_cons_ite, hfirst]
      by_cases hk : key = k
      · subst hk
        have hmissing : rest.lookup key = none := by
          rw [List.lookup_eq_none_iff]
          intro x hx
          rw [bne_iff_ne]
          rintro rfl
          exact hnd.1 (List.mem_map.mpr ⟨x, hx, rfl⟩)
        rw [if_pos rfl, if_pos rfl, hmissing]
        exact Option.or_none
      · rw [if_neg hk, if_neg hk]
        exact Option.none_or

end TypeLineage.Association
