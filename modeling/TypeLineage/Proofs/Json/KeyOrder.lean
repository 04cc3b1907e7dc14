import Mathlib
import TypeLineage.Proofs.Json.Order

/-! # The canonical order of keys

    Canonical members have been sorted by the code units of their keys, but an
    object puts its array indices first, by their numbers.  `keyBefore` is the
    order that comes of it, and the keys of canonical members stand in it: all
    keys but the one that is never written (`pairwise_canonicalOrder`,
    `mem_keys_canonicalOrder_iff`). -/

namespace TypeLineage.Json

variable {α β : Type} {pairs : List (String × α)} {key : String}

/-- One key comes before another in canonical order: array indices by their
    numbers before all other keys, and these by their code units. -/
def keyBefore (a b : String) : Bool :=
  match arrayIndex? a, arrayIndex? b with
  | some i, some j => decide (i < j)
  | some _, none => true
  | none, some _ => false
  | none, none => Text.precedes a b

theorem assign_map (f : α → β) (pairs : List (String × α)) (key : String) (value : α) :
    assign (pairs.map fun m => (m.1, f m.2)) key (f value)
      = (assign pairs key value).map fun m => (m.1, f m.2) := by
  induction pairs with
  | nil => rfl
  | cons pair rest ih =>
      obtain ⟨k, v⟩ := pair
      rw [List.map_cons, assign, assign, ih]
      split <;> rfl

theorem mergeKeys_map (f : α → β) (pairs : List (String × α)) :
    mergeKeys (pairs.map fun m => (m.1, f m.2)) = (mergeKeys pairs).map fun m => (m.1, f m.2) := by
  unfold mergeKeys
  rw [List.foldl_map]
  suffices ∀ merged : List (String × α),
      pairs.foldl (fun ms m => assign ms m.1 (f m.2)) (merged.map fun m => (m.1, f m.2))
        = (pairs.foldl (fun ms m => assign ms m.1 m.2) merged).map fun m => (m.1, f m.2) from
    this []
  induction pairs with
  | nil => exact fun _ => rfl
  | cons pair rest ih =>
      intro merged
      rw [List.foldl_cons, List.foldl_cons, assign_map, ih]

theorem indicesFirst_map (f : α → β) (pairs : List (String × α)) :
    indicesFirst (pairs.map fun m => (m.1, f m.2))
      = (indicesFirst pairs).map fun m => (m.1, f m.2) := by
  have hindexed : ((pairs.map fun m => (m.1, f m.2)).filterMap fun m =>
        (arrayIndex? m.1).map fun i => (i, m))
      = (pairs.filterMap fun m => (arrayIndex? m.1).map fun i => (i, m)).map
        fun p => (p.1, p.2.1, f p.2.2) := by
    rw [List.filterMap_map, List.map_filterMap]
    refine List.filterMap_congr fun m _ => ?_
    cases h : arrayIndex? m.1 <;> simp [h]
  have hsorted : ∀ indexed : List (Nat × String × α),
      (indexed.map fun p => (p.1, p.2.1, f p.2.2)).mergeSort (fun a b => a.1 ≤ b.1)
        = (indexed.mergeSort fun a b => a.1 ≤ b.1).map fun p => (p.1, p.2.1, f p.2.2) := by
    intro indexed
    refine (List.map_mergeSort ?_).symm
    intro a _ b _
    rfl
  unfold indicesFirst
  dsimp only
  rw [hindexed, hsorted, List.filter_map, List.map_append, List.map_map, List.map_map]
  rfl

/-- Values may be replaced before members are put in order or afterwards. -/
theorem canonicalOrder_map (f : α → β) (pairs : List (String × α)) :
    canonicalOrder (pairs.map fun m => (m.1, f m.2))
      = (canonicalOrder pairs).map fun m => (m.1, f m.2) := by
  unfold canonicalOrder orderMembers
  rw [Text.sortByUnits_map, List.filter_map, mergeKeys_map, indicesFirst_map]
  rfl

/-- Of keys that come twice the first is kept. -/
theorem keys_mergeKeys_sublist (pairs : List (String × α)) :
    ((mergeKeys pairs).map (·.1)).Sublist (pairs.map (·.1)) := by
  induction pairs using List.reverseRecOn with
  | nil => exact List.Sublist.refl _
  | append_singleton pairs m ih =>
      rw [mergeKeys_concat, map_fst_assign, List.map_append]
      split
      · exact ih.trans (List.sublist_append_left _ _)
      · exact ih.append (List.Sublist.refl _)

theorem mem_keys_mergeKeys_iff : key ∈ (mergeKeys pairs).map (·.1) ↔ key ∈ pairs.map (·.1) := by
  rw [map_fst_mergeKeys, List.mem_eraseDups]

/-- The keys of an object are kept, all but one. -/
theorem mem_keys_canonicalOrder_iff :
    key ∈ (canonicalOrder pairs).map (·.1) ↔ key ∈ pairs.map (·.1) ∧ key ≠ unwritableKey := by
  unfold canonicalOrder orderMembers
  rw [((indicesFirst_perm _).map _).mem_iff, mem_keys_mergeKeys_iff]
  simp only [List.mem_map, List.mem_filter, Text.mem_sortByUnits, decide_eq_true_eq]
  constructor
  · rintro ⟨m, ⟨hm, hne⟩, rfl⟩
    exact ⟨⟨m, hm, rfl⟩, hne⟩
  · rintro ⟨⟨m, hm, rfl⟩, hne⟩
    exact ⟨m, ⟨hm, hne⟩, rfl⟩

theorem arrayIndex?_spells {i : Nat} (h : arrayIndex? key = some i) :
    Number.decimalDigits i = key.toList := by
  unfold arrayIndex? at h
  dsimp only at h
  split at h
  · split at h
    · next hdigits =>
        obtain rfl := Option.some.inj h
        exact hdigits.1
    · exact nomatch h
  · exact nomatch h

/-- An index is spelled in one way. -/
theorem eq_of_arrayIndex?_eq {a b : String} {i : Nat} (ha : arrayIndex? a = some i)
    (hb : arrayIndex? b = some i) : a = b :=
  String.toList_inj.mp ((arrayIndex?_spells ha).symm.trans (arrayIndex?_spells hb))

theorem keyBefore_irrefl (a : String) : ¬ keyBefore a a = true := by
  unfold keyBefore
  cases arrayIndex? a with
  | none => exact Text.precedes_irrefl a
  | some i => simp

theorem keyBefore_asymm {a b : String} (h : keyBefore a b = true) : ¬ keyBefore b a = true := by
  unfold keyBefore at h ⊢
  cases ha : arrayIndex? a <;> cases hb : arrayIndex? b <;> rw [ha, hb] at h
  · exact Text.precedes_asymm h
  · exact nomatch h
  · exact Bool.false_ne_true
  · simp only [decide_eq_true_eq] at h ⊢
    exact Nat.lt_asymm h

theorem keyBefore_of_lt {a b : String} {i j : Nat} (ha : arrayIndex? a = some i)
    (hb : arrayIndex? b = some j) (h : i < j) : keyBefore a b = true := by
  unfold keyBefore
  rw [ha, hb]
  exact decide_eq_true h

/-- Indices that are sorted by their numbers. -/
theorem pairwise_indexed (hkeys : (pairs.map (·.1)).Nodup) :
    (((pairs.filterMap fun m => (arrayIndex? m.1).map fun i => (i, m)).mergeSort
      fun a b => a.1 ≤ b.1).map (·.2)).Pairwise
        fun a b => keyBefore a.1 b.1 = true := by
  obtain ⟨indexed, hindexed⟩ : ∃ indexed,
      indexed = pairs.filterMap fun m => (arrayIndex? m.1).map fun i => (i, m) := ⟨_, rfl⟩
  have hnumber : ∀ p ∈ indexed, arrayIndex? p.2.1 = some p.1 := by
    intro p hp
    rw [hindexed] at hp
    obtain ⟨m, -, hm⟩ := List.mem_filterMap.mp hp
    obtain ⟨i, hi, rfl⟩ := Option.map_eq_some_iff.mp hm
    exact hi
  have hdistinct : (indexed.map (·.2.1)).Nodup := by
    have hsub := (List.filter_sublist (p := fun m => !(arrayIndex? m.1).isNone) (l := pairs)).map
      Prod.fst
    rw [← map_indexed, ← hindexed, List.map_map] at hsub
    exact hkeys.sublist hsub
  have hperm := List.mergeSort_perm indexed fun a b => a.1 ≤ b.1
  have hsorted : (indexed.mergeSort fun a b => a.1 ≤ b.1).Pairwise fun a b => a.1 ≤ b.1 := by
    refine (List.pairwise_mergeSort ?_ ?_ indexed).imp of_decide_eq_true
    · intro a b c hab hbc
      exact decide_eq_true ((of_decide_eq_true hab).trans (of_decide_eq_true hbc))
    · intro a b
      rw [Bool.or_eq_true, decide_eq_true_eq, decide_eq_true_eq]
      exact Nat.le_total a.1 b.1
  have hapart : (indexed.mergeSort fun a b => a.1 ≤ b.1).Pairwise fun a b => a.2.1 ≠ b.2.1 :=
    List.pairwise_map.mp ((hperm.map _).nodup_iff.mpr hdistinct)
  rw [← hindexed, List.pairwise_map]
  refine (hsorted.and hapart).imp_of_mem fun {a b} ha hb hab => ?_
  have hna := hnumber a (hperm.mem_iff.mp ha)
  have hnb := hnumber b (hperm.mem_iff.mp hb)
  -- indices of one number would be one key
  refine keyBefore_of_lt hna hnb (Nat.lt_of_le_of_ne hab.1 fun heq => hab.2 ?_)
  exact eq_of_arrayIndex?_eq hna (heq ▸ hnb)

/-- Indices first is the canonical order of keys that ascend. -/
theorem pairwise_indicesFirst (h : Text.Ascending (·.1) pairs) :
    ((indicesFirst pairs).map (·.1)).Pairwise fun a b => keyBefore a b = true := by
  have hkeys : (pairs.map (·.1)).Nodup := by
    refine List.pairwise_map.mpr (h.imp fun {a b} hab heq => ?_)
    dsimp only at hab
    rw [heq] at hab
    exact Text.precedes_irrefl b.1 hab
  have hnamed : ∀ m ∈ pairs.filter fun m => (arrayIndex? m.1).isNone, arrayIndex? m.1 = none :=
    fun m hm => Option.isNone_iff_eq_none.mp (List.mem_filter.mp hm).2
  rw [List.pairwise_map]
  unfold indicesFirst
  dsimp only
  refine List.pairwise_append.mpr ⟨pairwise_indexed hkeys, ?named, ?across⟩
  case named =>
    refine (h.filter _).imp_of_mem fun {a b} ha hb hab => ?_
    unfold keyBefore
    rw [hnamed a ha, hnamed b hb]
    exact hab
  case across =>
    intro a ha b hb
    rw [((List.mergeSort_perm _ _).map _).mem_iff, map_indexed] at ha
    obtain ⟨i, hi⟩ : ∃ i, arrayIndex? a.1 = some i := by
      have hsome := (List.mem_filter.mp ha).2
      rw [Bool.not_eq_true', Option.isNone_eq_false_iff] at hsome
      exact Option.isSome_iff_exists.mp hsome
    unfold keyBefore
    rw [hi, hnamed b hb]

/-- The keys of canonical members stand in canonical order. -/
theorem pairwise_canonicalOrder (pairs : List (String × α)) :
    ((canonicalOrder pairs).map (·.1)).Pairwise fun a b => keyBefore a b = true := by
  obtain ⟨kept, hkept⟩ : ∃ kept,
      kept = (Text.sortByUnits (·.1) pairs).filter (·.1 ≠ unwritableKey) := ⟨_, rfl⟩
  have hall : ((Text.sortByUnits (·.1) pairs).map (·.1)).Pairwise
      fun a b => Text.notAfter a b = true := by
    rw [List.pairwise_map]
    exact Text.sortByUnits_pairwise _ pairs
  have hsorted : (kept.map (·.1)).Pairwise fun a b => Text.notAfter a b = true := by
    rw [hkept]
    exact hall.sublist (List.filter_sublist.map _)
  have hmerged := (hsorted.sublist (keys_mergeKeys_sublist kept)).and (nodup_mergeKeys kept)
  -- keys that are merged differ, so they ascend strictly
  have hstrict : ((mergeKeys kept).map (·.1)).Pairwise fun a b => Text.precedes a b = true :=
    hmerged.imp fun hab => (Text.notAfter_iff.mp hab.1).resolve_right hab.2
  rw [List.pairwise_map] at hstrict
  unfold canonicalOrder orderMembers
  rw [← hkept]
  exact pairwise_indicesFirst hstrict

end TypeLineage.Json
