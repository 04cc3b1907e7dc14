import TypeLineage.Relation.Index
import TypeLineage.Proofs.Association

/-! # What a reverse index holds

    A reverse index is a set of pairs, a target and a dependent.  `WellFormed`
    says that it is kept as one: no target has two buckets, no bucket is empty
    and none repeats a dependent.  Every operation keeps that form, and each
    has one equation for the pairs it leaves; a target is listed exactly when
    some dependent stands under it. -/

namespace TypeLineage.RelationIndex

open Association

variable {r s : RelationIndex} {t t' d d' : String}

/-- What a bucket may hold: something, and nothing twice. -/
def IsBucket (names : List String) : Prop := names ≠ [] ∧ names.Nodup

/-- One bucket a target, each of them a bucket. -/
structure WellFormed (r : RelationIndex) : Prop where
  nodup_targets : r.targets.Nodup
  isBucket : ∀ b ∈ r.buckets, IsBucket b.2

/-! ## Names in a bucket -/

theorem mem_insertName {names : List String} :
    d' ∈ insertName names d ↔ d' ∈ names ∨ d' = d := by
  unfold insertName
  by_cases h : names.contains d = true
  · rw [if_pos h]
    constructor
    · exact Or.inl
    · rintro (hmem | rfl)
      · exact hmem
      · exact List.contains_iff_mem.mp h
  · rw [if_neg h, List.mem_append, List.mem_singleton]

theorem nodup_insertName {names : List String} (h : names.Nodup) :
    (insertName names d).Nodup := by
  unfold insertName
  simp only [List.contains_iff_mem]
  exact nodup_extended h d

/-- A name put into a bucket leaves a bucket. -/
theorem isBucket_insertName {names : List String} (h : names.Nodup) :
    IsBucket (insertName names d) :=
  ⟨List.ne_nil_of_mem (mem_insertName.mpr (Or.inr rfl)), nodup_insertName h⟩

/-! ## Adding a pair -/

theorem lookup_addTo (t d t' : String) (bs : List (String × List String)) :
    (addTo t d bs).lookup t'
      = if t' = t then some (insertName ((bs.lookup t).getD []) d) else bs.lookup t' := by
  induction bs with
  | nil =>
      by_cases h : t' = t
      · rw [if_pos h, h]
        simp [addTo, insertName]
      · simp [addTo, h]
  | cons hd rest ih =>
      obtain ⟨u, names⟩ := hd
      rw [addTo, lookup_cons_ite]
      by_cases hu : u = t
      · rw [if_pos hu, hu, lookup_cons_ite, lookup_cons_ite]
        by_cases h : t' = t
        · rw [if_pos h, if_pos h, if_pos rfl, Option.getD_some]
        · rw [if_neg h, if_neg h, if_neg h]
      · have htu : ¬ t = u := fun heq => hu heq.symm
        rw [if_neg hu, lookup_cons_ite, lookup_cons_ite, if_neg htu, ih]
        by_cases h : t' = t
        · have hne : ¬ t' = u := fun heq => hu (heq.symm.trans h)
          rw [if_neg hne, if_pos h, if_pos h]
        · rw [if_neg h, if_neg h]

theorem map_fst_addTo (t d : String) (bs : List (String × List String)) :
    (addTo t d bs).map (·.1)
      = if t ∈ bs.map (·.1) then bs.map (·.1) else bs.map (·.1) ++ [t] := by
  induction bs with
  | nil => rfl
  | cons hd rest ih =>
      obtain ⟨u, names⟩ := hd
      rw [addTo]
      by_cases hu : u = t
      · rw [if_pos hu, hu]
        simp
      · have hut : ¬ t = u := fun heq => hu heq.symm
        rw [if_neg hu, List.map_cons, ih]
        by_cases h : t ∈ rest.map (·.1)
        · simp [h]
        · simp [h, hut]

theorem isBucket_of_mem_addTo {bs : List (String × List String)}
    (h : ∀ b ∈ bs, IsBucket b.2) : ∀ b ∈ addTo t d bs, IsBucket b.2 := by
  induction bs with
  | nil =>
      intro b hb
      rw [List.mem_singleton.mp hb]
      exact isBucket_insertName List.nodup_nil
  | cons hd rest ih =>
      obtain ⟨u, names⟩ := hd
      have hrest : ∀ b ∈ rest, IsBucket b.2 := fun b hb => h b (List.mem_cons_of_mem _ hb)
      intro b hb
      rw [addTo] at hb
      by_cases hu : u = t
      · rw [if_pos hu] at hb
        rcases List.mem_cons.mp hb with rfl | hmem
        · exact isBucket_insertName (h (u, names) List.mem_cons_self).2
        · exact hrest b hmem
      · rw [if_neg hu] at hb
        rcases List.mem_cons.mp hb with rfl | hmem
        · exact h (u, names) List.mem_cons_self
        · exact ih hrest b hmem

/-- Adding a pair adds that pair. -/
theorem mem_dependentsOf_add :
    d' ∈ (r.add t d).dependentsOf t' ↔ d' ∈ r.dependentsOf t' ∨ (t' = t ∧ d' = d) := by
  unfold dependentsOf add
  rw [lookup_addTo]
  by_cases h : t' = t
  · rw [if_pos h, Option.getD_some, mem_insertName, h]
    simp
  · rw [if_neg h]
    simp [h]

theorem WellFormed.add (h : r.WellFormed) (t d : String) : (r.add t d).WellFormed := by
  refine ⟨?_, isBucket_of_mem_addTo h.isBucket⟩
  show ((addTo t d r.buckets).map (·.1)).Nodup
  rw [map_fst_addTo]
  exact nodup_extended h.nodup_targets t

/-! ## Removing a pair -/

/-- A bucket that loses its last name is dropped: the names that are left
    stand under the target in any case. -/
theorem lookup_removeFrom {bs : List (String × List String)} (hnd : (bs.map (·.1)).Nodup) :
    ((removeFrom t d bs).lookup t').getD []
      = if t' = t then ((bs.lookup t).getD []).filter (· ≠ d)
        else (bs.lookup t').getD [] := by
  induction bs with
  | nil => simp [removeFrom]
  | cons hd rest ih =>
      obtain ⟨u, names⟩ := hd
      rw [List.map_cons, List.nodup_cons] at hnd
      rw [removeFrom, lookup_cons_ite, lookup_cons_ite]
      by_cases hu : u = t
      · subst hu
        -- no second bucket of the target can come to light
        have hnone : rest.lookup u = none := by
          rw [List.lookup_eq_none_iff]
          intro p hp
          have hne : u ≠ p.1 := fun heq => hnd.1 (List.mem_map.mpr ⟨p, hp, heq.symm⟩)
          exact bne_iff_ne.mpr hne
        rw [if_pos rfl, if_pos rfl, Option.getD_some]
        cases hf : names.filter (· ≠ d) with
        | nil =>
            by_cases ht : t' = u
            · rw [if_pos ht, ht]
              exact congrArg (Option.getD · []) hnone
            · rw [if_neg ht, if_neg ht]
        | cons x xs =>
            show (((u, x :: xs) :: rest).lookup t').getD [] = _
            rw [lookup_cons_ite]
            by_cases ht : t' = u
            · rw [if_pos ht, if_pos ht, Option.getD_some]
            · rw [if_neg ht, if_neg ht, if_neg ht]
      · have htu : ¬ t = u := fun heq => hu heq.symm
        rw [if_neg hu, if_neg htu, lookup_cons_ite]
        by_cases h : t' = u
        · have hne : ¬ t' = t := fun heq => hu (h.symm.trans heq)
          rw [if_pos h, if_pos h, if_neg hne]
        · rw [if_neg h, if_neg h]
          exact ih hnd.2

theorem map_fst_removeFrom_sublist (t d : String) (bs : List (String × List String)) :
    ((removeFrom t d bs).map (·.1)).Sublist (bs.map (·.1)) := by
  induction bs with
  | nil => exact List.Sublist.refl _
  | cons hd rest ih =>
      obtain ⟨u, names⟩ := hd
      rw [removeFrom]
      by_cases hu : u = t
      · rw [if_pos hu]
        cases names.filter (· ≠ d) with
        | nil => exact List.sublist_cons_self _ _
        | cons x xs => exact List.Sublist.refl _
      · rw [if_neg hu]
        exact List.Sublist.cons_cons u ih

theorem isBucket_of_mem_removeFrom {bs : List (String × List String)}
    (h : ∀ b ∈ bs, IsBucket b.2) : ∀ b ∈ removeFrom t d bs, IsBucket b.2 := by
  induction bs with
  | nil => exact fun b hb => nomatch hb
  | cons hd rest ih =>
      obtain ⟨u, names⟩ := hd
      have hrest : ∀ b ∈ rest, IsBucket b.2 := fun b hb => h b (List.mem_cons_of_mem _ hb)
      intro b hb
      rw [removeFrom] at hb
      by_cases hu : u = t
      · rw [if_pos hu] at hb
        -- an empty bucket is not kept
        cases hf : names.filter (· ≠ d) with
        | nil =>
            rw [hf] at hb
            exact hrest b hb
        | cons x xs =>
            rw [hf] at hb
            rcases List.mem_cons.mp hb with rfl | hmem
            · refine ⟨List.cons_ne_nil x xs, ?_⟩
              rw [← hf]
              exact (h (u, names) List.mem_cons_self).2.filter _
            · exact hrest b hmem
      · rw [if_neg hu] at hb
        rcases List.mem_cons.mp hb with rfl | hmem
        · exact h (u, names) List.mem_cons_self
        · exact ih hrest b hmem

/-- Removing a pair removes that pair. -/
theorem WellFormed.mem_dependentsOf_remove (h : r.WellFormed) :
    d' ∈ (r.remove t d).dependentsOf t' ↔ d' ∈ r.dependentsOf t' ∧ ¬ (t' = t ∧ d' = d) := by
  unfold dependentsOf remove
  rw [lookup_removeFrom h.nodup_targets]
  by_cases ht : t' = t
  · rw [if_pos ht, List.mem_filter, ht]
    simp
  · rw [if_neg ht]
    simp [ht]

theorem WellFormed.remove (h : r.WellFormed) (t d : String) : (r.remove t d).WellFormed :=
  ⟨(map_fst_removeFrom_sublist t d r.buckets).nodup h.nodup_targets,
    isBucket_of_mem_removeFrom h.isBucket⟩

/-! ## One dependent under several targets -/

theorem mem_dependentsOf_addAll (targets : List String) :
    ∀ r : RelationIndex, d' ∈ (r.addAll targets d).dependentsOf t' ↔
      d' ∈ r.dependentsOf t' ∨ (t' ∈ targets ∧ d' = d) := by
  induction targets with
  | nil =>
      intro r
      simp [addAll]
  | cons t rest ih =>
      intro r
      show d' ∈ ((r.add t d).addAll rest d).dependentsOf t' ↔ _
      rw [ih, mem_dependentsOf_add, List.mem_cons, or_and_right, or_assoc]

theorem WellFormed.addAll (targets : List String) (d : String) :
    ∀ {r : RelationIndex}, r.WellFormed → (r.addAll targets d).WellFormed := by
  induction targets with
  | nil => exact fun h => h
  | cons t rest ih => exact fun h => ih (h.add t d)

theorem WellFormed.mem_dependentsOf_removeAll (targets : List String) :
    ∀ {r : RelationIndex}, r.WellFormed →
      (d' ∈ (r.removeAll targets d).dependentsOf t' ↔
        d' ∈ r.dependentsOf t' ∧ ¬ (t' ∈ targets ∧ d' = d)) := by
  induction targets with
  | nil =>
      intro r _
      simp [removeAll]
  | cons t rest ih =>
      intro r h
      show d' ∈ ((r.remove t d).removeAll rest d).dependentsOf t' ↔ _
      rw [ih (h.remove t d), h.mem_dependentsOf_remove, List.mem_cons, or_and_right, not_or,
        and_assoc]

theorem WellFormed.removeAll (targets : List String) (d : String) :
    ∀ {r : RelationIndex}, r.WellFormed → (r.removeAll targets d).WellFormed := by
  induction targets with
  | nil => exact fun h => h
  | cons t rest ih => exact fun h => ih (h.remove t d)

/-! ## Reading the index -/

theorem wellFormed_empty : empty.WellFormed :=
  ⟨List.nodup_nil, fun _ hb => nomatch hb⟩

/-- What stands under a target is its bucket. -/
theorem mem_dependentsOf_iff :
    d ∈ r.dependentsOf t ↔ ∃ names, r.buckets.lookup t = some names ∧ d ∈ names := by
  unfold dependentsOf
  cases r.buckets.lookup t <;> simp

theorem WellFormed.nodup_dependentsOf (h : r.WellFormed) : (r.dependentsOf t).Nodup := by
  unfold dependentsOf
  cases hl : r.buckets.lookup t with
  | none => exact List.nodup_nil
  | some names => exact (h.isBucket _ (mem_of_lookup hl)).2

/-- Exactly the targets with dependents are listed. -/
theorem WellFormed.mem_targets_iff (h : r.WellFormed) :
    t ∈ r.targets ↔ ∃ d, d ∈ r.dependentsOf t := by
  constructor
  · intro ht
    obtain ⟨⟨u, names⟩, hmem, rfl⟩ := List.mem_map.mp ht
    obtain ⟨d, hd⟩ := List.exists_mem_of_ne_nil names (h.isBucket _ hmem).1
    have hl := (lookup_eq_some_iff_mem h.nodup_targets).mpr hmem
    exact ⟨d, mem_dependentsOf_iff.mpr ⟨names, hl, hd⟩⟩
  · rintro ⟨d, hd⟩
    obtain ⟨names, hl, -⟩ := mem_dependentsOf_iff.mp hd
    exact List.mem_map.mpr ⟨(t, names), mem_of_lookup hl, rfl⟩

/-! ## The pairs of an index -/

/-- The pairs of a target and a dependent, bucket by bucket. -/
def pairs (r : RelationIndex) : List (String × String) :=
  r.buckets.flatMap fun b => b.2.map (b.1, ·)

/-- `size` counts the pairs. -/
theorem size_eq_length_pairs (r : RelationIndex) : r.size = r.pairs.length := by
  obtain ⟨bs⟩ := r
  show bs.foldr (fun b n => b.2.length + n) 0 = (bs.flatMap fun b => b.2.map (b.1, ·)).length
  induction bs with
  | nil => rfl
  | cons b rest ih =>
      rw [List.foldr_cons, ih, List.flatMap_cons, List.length_append, List.length_map]

theorem WellFormed.mem_pairs (h : r.WellFormed) : (t, d) ∈ r.pairs ↔ d ∈ r.dependentsOf t := by
  rw [mem_dependentsOf_iff]
  unfold pairs
  rw [List.mem_flatMap]
  constructor
  · rintro ⟨⟨u, names⟩, hmem, hpair⟩
    obtain ⟨x, hx, heq⟩ := List.mem_map.mp hpair
    obtain ⟨rfl, rfl⟩ := Prod.mk.inj heq
    exact ⟨names, (lookup_eq_some_iff_mem h.nodup_targets).mpr hmem, hx⟩
  · rintro ⟨names, hl, hd⟩
    exact ⟨(t, names), mem_of_lookup hl, List.mem_map.mpr ⟨d, hd, rfl⟩⟩

theorem WellFormed.nodup_pairs (h : r.WellFormed) : r.pairs.Nodup := by
  obtain ⟨bs⟩ := r
  obtain ⟨hnd, hb⟩ := h
  show (bs.flatMap fun b => b.2.map (b.1, ·)).Nodup
  replace hnd : (bs.map (·.1)).Nodup := hnd
  replace hb : ∀ b ∈ bs, IsBucket b.2 := hb
  induction bs with
  | nil => exact List.nodup_nil
  | cons b rest ih =>
      rw [List.map_cons, List.nodup_cons] at hnd
      rw [List.flatMap_cons, List.nodup_append]
      refine ⟨?_, ih hnd.2 fun c hc => hb c (List.mem_cons_of_mem _ hc), ?_⟩
      · refine List.pairwise_map.mpr (List.Pairwise.imp ?_ (hb b List.mem_cons_self).2)
        intro x y hxy heq
        exact hxy (Prod.mk.inj heq).2
      · -- later buckets have other targets
        intro p hp q hq hpq
        obtain ⟨x, -, rfl⟩ := List.mem_map.mp hp
        obtain ⟨c, hc, hqc⟩ := List.mem_flatMap.mp hq
        obtain ⟨y, -, rfl⟩ := List.mem_map.mp hqc
        exact hnd.1 (List.mem_map.mpr ⟨c, hc, (Prod.mk.inj hpq).1.symm⟩)

/-- Indexes that hold the same pairs are of one size. -/
theorem WellFormed.size_eq (hr : r.WellFormed) (hs : s.WellFormed)
    (h : ∀ t d, d ∈ r.dependentsOf t ↔ d ∈ s.dependentsOf t) : r.size = s.size := by
  have hperm : r.pairs.Perm s.pairs := by
    rw [List.perm_ext_iff_of_nodup hr.nodup_pairs hs.nodup_pairs]
    rintro ⟨t, d⟩
    rw [hr.mem_pairs, hs.mem_pairs]
    exact h t d
  rw [size_eq_length_pairs, size_eq_length_pairs, hperm.length_eq]

end TypeLineage.RelationIndex
