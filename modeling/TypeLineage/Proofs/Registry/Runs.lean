import TypeLineage.Registry.Basic
import TypeLineage.Proofs.Relation.Index

/-! # The indexes of a registry after any run

    A registry keeps its facts once and its relations a second time, in three
    indexes that are mended with every change.  `Coherent` is the invariant:
    names are unique, each index is well formed, and a name stands under a
    target exactly when the fact registered under the name mentions the target.

    The heart is `mem_released`: taking out the relations of the fact that is
    about to be replaced leaves the pairs of the other names and no more, so
    that linking its successor restores the invariant. -/

namespace TypeLineage.Registry

variable {r : Registry} {f : TypeFact} {n t : String} {k : RelationKind}

/-! ## Facts -/

theorem find?_putFact (f : TypeFact) (n : String) (fs : List TypeFact) :
    (putFact f fs).find? (·.name = n)
      = if f.name = n then some f else fs.find? (·.name = n) := by
  induction fs with
  | nil =>
      show [f].find? (·.name = n) = _
      by_cases h : f.name = n
      · simp [h]
      · simp [h]
  | cons g rest ih =>
      rw [putFact]
      by_cases hg : g.name = f.name
      · rw [if_pos hg]
        by_cases h : f.name = n
        · simp [h]
        · simp [h, hg]
      · rw [if_neg hg]
        by_cases h : g.name = n
        · have hf : ¬ f.name = n := fun heq => hg (h.trans heq.symm)
          simp [h, hf]
        · simp only [List.find?_cons, h, decide_false]
          exact ih

theorem map_name_putFact (f : TypeFact) (fs : List TypeFact) :
    (putFact f fs).map (·.name)
      = if f.name ∈ fs.map (·.name) then fs.map (·.name) else fs.map (·.name) ++ [f.name] := by
  induction fs with
  | nil => rfl
  | cons g rest ih =>
      rw [putFact]
      by_cases hg : g.name = f.name
      · rw [if_pos hg]
        simp [hg]
      · have hfg : ¬ f.name = g.name := fun heq => hg heq.symm
        rw [if_neg hg, List.map_cons, ih]
        by_cases h : f.name ∈ rest.map (·.name)
        · simp [h]
        · simp [h, hfg]

/-- A fact is found under its own name. -/
theorem name_of_find? (h : r.find? n = some f) : f.name = n := by
  have := List.find?_some h
  exact of_decide_eq_true this

theorem mem_facts_of_find? (h : r.find? n = some f) : f ∈ r.facts :=
  List.mem_of_find?_eq_some h

/-- Of the fact under a name there is one. -/
theorem exists_found_iff (hf : r.find? n = some f) {P : TypeFact → Prop} :
    (∃ g, r.find? n = some g ∧ P g) ↔ P f := by
  constructor
  · rintro ⟨g, hg, hP⟩
    obtain rfl := Option.some.inj (hf.symm.trans hg)
    exact hP
  · intro hP
    exact ⟨f, hf, hP⟩

theorem facts_register (r : Registry) (f : TypeFact) :
    (r.register f).facts = putFact f r.facts := by
  unfold register
  cases r.find? f.name <;> rfl

theorem find?_register (r : Registry) (f : TypeFact) (n : String) :
    (r.register f).find? n = if f.name = n then some f else r.find? n := by
  show (r.register f).facts.find? (·.name = n) = _
  rw [facts_register, find?_putFact]
  rfl

theorem size_register (r : Registry) (f : TypeFact) :
    (r.register f).size = if f.name ∈ r.names then r.size else r.size + 1 := by
  unfold size names
  rw [← List.length_map (·.name), facts_register, map_name_putFact]
  by_cases h : f.name ∈ r.facts.map (·.name)
  · rw [if_pos h, if_pos h, List.length_map]
  · rw [if_neg h, if_neg h, List.length_append, List.length_map, List.length_singleton]

/-! ## One change to the indexes -/

/-- The indexes without the relations of the fact that has a name. -/
def released (r : Registry) (n : String) : Registry :=
  match r.find? n with
  | some previous => r.unlink previous
  | none => r

theorem index_link (r : Registry) (f : TypeFact) (k : RelationKind) :
    (r.link f).index k = (r.index k).addAll (f.relations k) f.name := by
  cases k <;> rfl

theorem index_unlink (r : Registry) (f : TypeFact) (k : RelationKind) :
    (r.unlink f).index k = (r.index k).removeAll (f.relations k) f.name := by
  cases k <;> rfl

theorem index_register (r : Registry) (f : TypeFact) (k : RelationKind) :
    (r.register f).index k
      = ((r.released f.name).index k).addAll (f.relations k) f.name := by
  show (({ r.released f.name with facts := _ } : Registry).link f).index k = _
  rw [index_link]
  cases k <;> rfl

/-- Facts and indexes say the same. -/
structure Coherent (r : Registry) : Prop where
  nodup_names : r.names.Nodup
  wellFormed : ∀ k, (r.index k).WellFormed
  mem_index_iff : ∀ k t n, n ∈ (r.index k).dependentsOf t ↔
    ∃ f, r.find? n = some f ∧ t ∈ f.relations k

namespace Coherent

theorem wellFormed_released (h : r.Coherent) (n : String) (k : RelationKind) :
    ((r.released n).index k).WellFormed := by
  unfold released
  cases r.find? n with
  | none => exact h.wellFormed k
  | some g =>
      show ((r.unlink g).index k).WellFormed
      rw [index_unlink]
      exact (h.wellFormed k).removeAll _ _

/-- Once a name is released it depends on nothing, and the other names depend
    on what they did. -/
theorem mem_released (h : r.Coherent) {m : String} :
    n ∈ ((r.released m).index k).dependentsOf t ↔
      n ≠ m ∧ n ∈ (r.index k).dependentsOf t := by
  unfold released
  cases hm : r.find? m with
  | none =>
      show n ∈ (r.index k).dependentsOf t ↔ _
      refine ⟨fun hn => ⟨?_, hn⟩, And.right⟩
      rintro rfl
      obtain ⟨g, hg, -⟩ := (h.mem_index_iff k t n).mp hn
      rw [hm] at hg
      exact nomatch hg
  | some g =>
      show n ∈ ((r.unlink g).index k).dependentsOf t ↔ _
      rw [index_unlink, (h.wellFormed k).mem_dependentsOf_removeAll, name_of_find? hm]
      constructor
      · rintro ⟨hn, hnot⟩
        refine ⟨?_, hn⟩
        rintro rfl
        -- what the name depends on is what its fact mentions
        have ht : t ∈ g.relations k := (exists_found_iff hm).mp ((h.mem_index_iff k t n).mp hn)
        exact hnot ⟨ht, rfl⟩
      · rintro ⟨hne, hn⟩
        exact ⟨hn, fun hboth => hne hboth.2⟩

theorem register (h : r.Coherent) (f : TypeFact) : (r.register f).Coherent where
  nodup_names := by
    show ((r.register f).facts.map (·.name)).Nodup
    rw [facts_register, map_name_putFact]
    exact Association.nodup_extended h.nodup_names f.name
  wellFormed := by
    intro k
    rw [index_register]
    exact (h.wellFormed_released f.name k).addAll _ _
  mem_index_iff := by
    intro k t n
    rw [index_register, RelationIndex.mem_dependentsOf_addAll, h.mem_released, find?_register]
    by_cases hn : f.name = n
    · subst hn
      rw [if_pos rfl]
      simp
    · have hne : n ≠ f.name := fun heq => hn heq.symm
      rw [if_neg hn, h.mem_index_iff]
      simp [hne]

end Coherent

theorem coherent_empty : empty.Coherent where
  nodup_names := List.nodup_nil
  wellFormed := by
    intro k
    cases k <;> exact RelationIndex.wellFormed_empty
  mem_index_iff := by
    intro k t n
    have hindex : (empty.index k).dependentsOf t = [] := by cases k <;> rfl
    rw [hindex]
    constructor
    · exact fun h => nomatch h
    · rintro ⟨f, hf, -⟩
      exact nomatch hf

/-! ## Runs -/

theorem coherent_ofFacts (facts : List TypeFact) : (ofFacts facts).Coherent := by
  unfold ofFacts registerAll
  suffices ∀ r : Registry, r.Coherent → (facts.foldl Registry.register r).Coherent from
    this empty coherent_empty
  induction facts with
  | nil => exact fun r h => h
  | cons f rest ih => exact fun r h => ih (r.register f) (h.register f)

theorem ofFacts_append (facts more : List TypeFact) :
    ofFacts (facts ++ more) = (ofFacts facts).registerAll more := by
  unfold ofFacts registerAll
  exact List.foldl_append

/-- One change to the registry of some facts gives the registry of the facts
    that are then registered. -/
theorem change_ofFacts (facts : List TypeFact) (c : Change) :
    (ofFacts facts).change c = ofFacts (Change.extend facts c) := by
  cases c with
  | register f => exact (ofFacts_append facts [f]).symm
  | registerAll fs => exact (ofFacts_append facts fs).symm
  | clear => rfl

/-- Every run ends in the registry of the facts it ingested last. -/
theorem run_eq_ofFacts (changes : List Change) :
    run changes = ofFacts (Change.ingested changes) := by
  unfold run Change.ingested
  suffices ∀ facts, changes.foldl change (ofFacts facts)
      = ofFacts (changes.foldl Change.extend facts) from this []
  induction changes with
  | nil => exact fun facts => rfl
  | cons c rest ih =>
      intro facts
      rw [List.foldl_cons, List.foldl_cons, change_ofFacts]
      exact ih _

theorem coherent_run (changes : List Change) : (run changes).Coherent := by
  rw [run_eq_ofFacts]
  exact coherent_ofFacts _

/-- Under a name stands the last fact of that name, or else what stood there. -/
theorem find?_registerAll (facts : List TypeFact) (n : String) :
    ∀ r : Registry, (r.registerAll facts).find? n
      = (facts.reverse.find? (·.name = n)).or (r.find? n) := by
  induction facts with
  | nil => exact fun r => rfl
  | cons f rest ih =>
      intro r
      show ((r.register f).registerAll rest).find? n = _
      -- `f` is looked at after what comes later and before what was there
      rw [ih, find?_register, List.reverse_cons, List.find?_append, Option.or_assoc]
      by_cases h : f.name = n
      · simp [h]
      · simp [h]

theorem find?_ofFacts (facts : List TypeFact) (n : String) :
    (ofFacts facts).find? n = facts.reverse.find? (·.name = n) := by
  unfold ofFacts
  rw [find?_registerAll]
  exact Option.or_none

/-- The last fact of a name is the last among the facts of that name. -/
theorem find?_ofFacts_eq_getLast? (facts : List TypeFact) (n : String) :
    (ofFacts facts).find? n = (facts.filter (·.name = n)).getLast? := by
  rw [find?_ofFacts, ← List.head?_filter, List.filter_reverse, List.head?_reverse]

/-- **The indexes are exact** after any run: under a name stands the fact that
    was registered last under it, a target's dependents are the names whose
    facts mention the target, and the targets are what some fact mentions. -/
theorem index_run_exact (changes : List Change) (k : RelationKind) (t : String) :
    (∀ n, (run changes).find? n = (Change.ingested changes).reverse.find? (·.name = n))
    ∧ (∀ n, n ∈ ((run changes).index k).dependentsOf t ↔
        ∃ f, (run changes).find? n = some f ∧ t ∈ f.relations k)
    ∧ (((run changes).index k).dependentsOf t).Nodup
    ∧ (t ∈ ((run changes).index k).targets ↔
        ∃ n f, (run changes).find? n = some f ∧ t ∈ f.relations k)
    ∧ ((run changes).index k).targets.Nodup
    ∧ ∀ bucket ∈ ((run changes).index k).buckets, bucket.2 ≠ [] := by
  have h := coherent_run changes
  have hk := h.wellFormed k
  refine ⟨?_, h.mem_index_iff k t, hk.nodup_dependentsOf, ?_, hk.nodup_targets,
    fun b hb => (hk.isBucket b hb).1⟩
  · intro n
    rw [run_eq_ofFacts]
    exact find?_ofFacts _ n
  · rw [hk.mem_targets_iff]
    exact exists_congr fun n => h.mem_index_iff k t n

end TypeLineage.Registry
