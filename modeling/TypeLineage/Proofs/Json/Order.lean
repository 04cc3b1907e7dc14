import Mathlib.Data.List.Basic
import Mathlib.Data.List.Induction
import TypeLineage.Json.Printer
import TypeLineage.Proofs.Association
import TypeLineage.Proofs.Text.Order

/-! # The order of members

    An object keeps its members in an order of its own and only the last value
    of a key that comes twice.  So its keys are distinct, whatever was written;
    and where they were distinct already, its members are the written ones in
    another order. -/

namespace TypeLineage.Json

variable {α : Type} {key : String} {value : α} {m : String × α} {members : List (String × α)}

/-! ## One value a key -/

theorem map_fst_assign (members : List (String × α)) (key : String) (value : α) :
    (assign members key value).map (·.1)
      = if key ∈ members.map (·.1) then members.map (·.1) else members.map (·.1) ++ [key] := by
  induction members with
  | nil => rfl
  | cons hd rest ih =>
      obtain ⟨k, v⟩ := hd
      rw [assign]
      by_cases hk : k = key
      · rw [if_pos hk]
        simp [hk]
      · have hkey : ¬ key = k := fun heq => hk heq.symm
        rw [if_neg hk, List.map_cons, ih]
        by_cases h : key ∈ rest.map (·.1)
        · simp [h]
        · simp [h, hkey]

theorem lookup_assign (members : List (String × α)) (key other : String) (value : α) :
    (assign members key value).lookup other
      = if other = key then some value else members.lookup other := by
  induction members with
  | nil => exact Association.lookup_cons_ite key value []
  | cons hd rest ih =>
      obtain ⟨k, v⟩ := hd
      rw [assign]
      by_cases hk : k = key
      · rw [if_pos hk, Association.lookup_cons_ite, Association.lookup_cons_ite, hk]
        by_cases hkey : other = key
        · rw [if_pos hkey, if_pos hkey]
        · rw [if_neg hkey, if_neg hkey, if_neg hkey]
      · rw [if_neg hk, Association.lookup_cons_ite, Association.lookup_cons_ite, ih]
        by_cases hkey : other = k
        · have hne : ¬ other = key := fun h => hk (hkey ▸ h)
          rw [if_pos hkey, if_pos hkey, if_neg hne]
        · rw [if_neg hkey, if_neg hkey]

theorem mem_of_mem_assign (h : m ∈ assign members key value) : m ∈ members ∨ m = (key, value) := by
  induction members with
  | nil => exact Or.inr (List.mem_singleton.mp h)
  | cons hd rest ih =>
      obtain ⟨k, v⟩ := hd
      rw [assign] at h
      by_cases hk : k = key
      · rw [if_pos hk, hk] at h
        rcases List.mem_cons.mp h with hm | hm
        · exact Or.inr hm
        · exact Or.inl (List.mem_cons_of_mem _ hm)
      · rw [if_neg hk] at h
        rcases List.mem_cons.mp h with hm | hm
        · exact Or.inl (hm ▸ List.mem_cons_self)
        · exact (ih hm).imp_left (List.mem_cons_of_mem _)

theorem assign_of_not_mem (h : key ∉ members.map (·.1)) :
    assign members key value = members ++ [(key, value)] := by
  induction members with
  | nil => rfl
  | cons hd rest ih =>
      obtain ⟨k, v⟩ := hd
      rw [List.map_cons, List.mem_cons, not_or] at h
      have hk : ¬ k = key := fun heq => h.1 heq.symm
      rw [assign, if_neg hk, ih h.2]
      rfl

theorem mergeKeys_concat (written : List (String × α)) (m : String × α) :
    mergeKeys (written ++ [m]) = assign (mergeKeys written) m.1 m.2 := by
  unfold mergeKeys
  rw [List.foldl_append]
  rfl

/-- The keys that are kept, in the order in which they first came. -/
theorem map_fst_mergeKeys (written : List (String × α)) :
    (mergeKeys written).map (·.1) = (written.map (·.1)).eraseDups := by
  induction written using List.reverseRecOn with
  | nil => rfl
  | append_singleton written m ih =>
      rw [mergeKeys_concat, map_fst_assign, ih, List.map_append, List.map_singleton,
        Association.eraseDups_concat]
      simp only [List.mem_eraseDups]

/-- Under a key stands the value that came last with it. -/
theorem lookup_mergeKeys (written : List (String × α)) (key : String) :
    (mergeKeys written).lookup key = ((written.filter (·.1 = key)).getLast?).map (·.2) := by
  induction written using List.reverseRecOn with
  | nil => rfl
  | append_singleton written m ih =>
      rw [mergeKeys_concat, lookup_assign, ih, List.filter_append, List.filter_singleton]
      by_cases h : key = m.1
      · simp [h]
      · simp [h, Ne.symm h]

theorem nodup_mergeKeys (written : List (String × α)) :
    ((mergeKeys written).map (·.1)).Nodup := by
  unfold mergeKeys
  suffices ∀ members : List (String × α), (members.map (·.1)).Nodup →
      ((written.foldl (fun ms m => assign ms m.1 m.2) members).map (·.1)).Nodup from
    this [] List.nodup_nil
  induction written with
  | nil => exact fun members h => h
  | cons m rest ih =>
      intro members h
      rw [List.foldl_cons]
      refine ih _ ?_
      rw [map_fst_assign]
      exact Association.nodup_extended h m.1

theorem mem_of_mem_mergeKeys (h : m ∈ mergeKeys members) : m ∈ members := by
  unfold mergeKeys at h
  suffices ∀ merged : List (String × α),
      m ∈ members.foldl (fun ms m => assign ms m.1 m.2) merged → m ∈ merged ∨ m ∈ members from
    (this [] h).resolve_left List.not_mem_nil
  clear h
  induction members with
  | nil => exact fun merged h => Or.inl h
  | cons x rest ih =>
      intro merged h
      rw [List.foldl_cons] at h
      rcases ih _ h with hm | hm
      · rcases mem_of_mem_assign hm with hm | rfl
        · exact Or.inl hm
        · exact Or.inr List.mem_cons_self
      · exact Or.inr (List.mem_cons_of_mem _ hm)

theorem mergeKeys_of_nodup (h : (members.map (·.1)).Nodup) : mergeKeys members = members := by
  unfold mergeKeys
  suffices ∀ merged : List (String × α), ((merged ++ members).map (·.1)).Nodup →
      members.foldl (fun ms m => assign ms m.1 m.2) merged = merged ++ members from
    this [] h
  clear h
  induction members with
  | nil => exact fun merged _ => (List.append_nil merged).symm
  | cons x rest ih =>
      intro merged h
      -- the key is new, so its member comes last
      have hx : x.1 ∉ merged.map (·.1) := by
        rw [List.map_append, List.nodup_append] at h
        intro hmem
        exact h.2.2 _ hmem _ List.mem_cons_self rfl
      have hsplit : merged ++ x :: rest = (merged ++ [x]) ++ rest := by simp
      rw [List.foldl_cons, assign_of_not_mem hx, hsplit]
      exact ih _ (hsplit ▸ h)

/-! ## Indices first -/

theorem map_indexed (members : List (String × α)) :
    (members.filterMap fun m => (arrayIndex? m.1).map fun i => (i, m)).map (·.2)
      = members.filter fun m => !(arrayIndex? m.1).isNone := by
  rw [List.map_filterMap]
  induction members with
  | nil => rfl
  | cons m rest ih =>
      rw [List.filterMap_cons, List.filter_cons, ih]
      cases arrayIndex? m.1 <;> rfl

theorem indicesFirst_perm (members : List (String × α)) :
    (indicesFirst members).Perm members := by
  have hsorted := List.mergeSort_perm
    (members.filterMap fun m => (arrayIndex? m.1).map fun i => (i, m)) fun a b => a.1 ≤ b.1
  have hmapped := hsorted.map Prod.snd
  rw [map_indexed] at hmapped
  have hsplit := List.filter_append_perm (fun m => (arrayIndex? m.1).isNone) members
  exact (hmapped.append_right _).trans (List.perm_append_comm.trans hsplit)

/-! ## Objects -/

theorem nodup_orderMembers (written : List (String × α)) :
    ((orderMembers written).map (·.1)).Nodup :=
  ((indicesFirst_perm _).map _).nodup_iff.mpr (nodup_mergeKeys written)

theorem mem_of_mem_orderMembers (h : m ∈ orderMembers members) : m ∈ members :=
  mem_of_mem_mergeKeys ((indicesFirst_perm _).mem_iff.mp h)

/-- Of distinct keys none is lost. -/
theorem orderMembers_perm (h : (members.map (·.1)).Nodup) :
    (orderMembers members).Perm members := by
  unfold orderMembers
  rw [mergeKeys_of_nodup h]
  exact indicesFirst_perm members

theorem orderMembers_nil : orderMembers ([] : List (String × α)) = [] :=
  List.Perm.eq_nil (orderMembers_perm List.nodup_nil)

theorem mem_of_mem_canonicalOrder (h : m ∈ canonicalOrder members) : m ∈ members :=
  Text.mem_sortByUnits.mp (List.mem_filter.mp (mem_of_mem_orderMembers h)).1

/-- The canonical order leaves out what is not written, and nothing else. -/
theorem canonicalOrder_perm (h : (members.map (·.1)).Nodup) :
    (canonicalOrder members).Perm (members.filter (·.1 ≠ unwritableKey)) := by
  have hsorted : ((Text.sortByUnits (·.1) members).map (·.1)).Nodup :=
    ((Text.sortByUnits_perm _ members).map _).nodup_iff.mpr h
  have hfiltered : (((Text.sortByUnits (·.1) members).filter (·.1 ≠ unwritableKey)).map
      (·.1)).Nodup :=
    hsorted.sublist (List.filter_sublist.map _)
  exact (orderMembers_perm hfiltered).trans ((Text.sortByUnits_perm _ members).filter _)

/-- Canonical members do not show the order in which they were written. -/
theorem canonicalOrder_eq_of_perm {others : List (String × α)} (hperm : members.Perm others)
    (hnd : (members.map (·.1)).Nodup) : canonicalOrder members = canonicalOrder others := by
  unfold canonicalOrder
  rw [Text.sortByUnits_eq_of_perm hperm hnd]

end TypeLineage.Json
