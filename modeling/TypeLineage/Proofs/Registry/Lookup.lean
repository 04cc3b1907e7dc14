import TypeLineage.Registry.Lookup
import TypeLineage.Registry.Hierarchy
import TypeLineage.Registry.Cycle
import TypeLineage.Proofs.Reach
import TypeLineage.Proofs.Registry.Runs
import TypeLineage.Proofs.Text.Order

/-! # What look-ups answer

    Over a coherent registry every look-up is a question about the registered
    facts alone.  The look-ups by one relation give the same list as a scan of
    all facts for those that satisfy a condition, since both lists ascend and
    hold the same facts; the descendants of a name are the registered types
    that a chain of direct inheritance leads to from it. -/

namespace TypeLineage.Registry

variable {r : Registry} {f : TypeFact} {n t : String} {k : RelationKind}

/-! ## Facts under their names -/

theorem find?_of_mem {facts : List TypeFact} (hnd : (facts.map (·.name)).Nodup)
    (hf : f ∈ facts) : facts.find? (·.name = f.name) = some f := by
  induction facts with
  | nil => exact nomatch hf
  | cons g rest ih =>
      rw [List.map_cons, List.nodup_cons] at hnd
      rw [List.find?_cons]
      rcases List.mem_cons.mp hf with rfl | hmem
      · rw [decide_eq_true rfl]
      · have hne : g.name ≠ f.name := fun heq =>
          hnd.1 (List.mem_map.mpr ⟨f, hmem, heq.symm⟩)
        rw [decide_eq_false hne]
        exact ih hnd.2 hmem

namespace Coherent

/-- The registered facts are those that stand under their own names. -/
theorem mem_facts_iff (h : r.Coherent) : f ∈ r.facts ↔ r.find? f.name = some f :=
  ⟨find?_of_mem h.nodup_names, mem_facts_of_find?⟩

theorem nodup_facts (h : r.Coherent) : r.facts.Nodup :=
  List.Pairwise.imp (fun hne heq => hne (congrArg (·.name) heq))
    (List.pairwise_map.mp h.nodup_names)

end Coherent

/-! ## Resolving names -/

theorem mem_resolve {names : List String} :
    f ∈ r.resolve names ↔ r.find? f.name = some f ∧ f.name ∈ names := by
  unfold resolve TypeFact.sortByName
  rw [Text.mem_sortByUnits, List.mem_filterMap]
  constructor
  · rintro ⟨n, hn, hf⟩
    obtain rfl := name_of_find? hf
    exact ⟨hf, hn⟩
  · rintro ⟨hf, hn⟩
    exact ⟨f.name, hn, hf⟩

theorem map_name_filterMap_find? (r : Registry) (names : List String) :
    ((names.filterMap r.find?).map (·.name)).Sublist names := by
  induction names with
  | nil => exact List.Sublist.refl _
  | cons n rest ih =>
      rw [List.filterMap_cons]
      cases hf : r.find? n with
      | none => exact ih.cons n
      | some f =>
          show (f.name :: (rest.filterMap r.find?).map (·.name)).Sublist (n :: rest)
          rw [name_of_find? hf]
          exact ih.cons_cons n

/-- Names that are not repeated resolve to an ascending list. -/
theorem resolve_ascending {names : List String} (h : names.Nodup) :
    Text.Ascending (·.name) (r.resolve names) :=
  Text.sortByUnits_ascending ((map_name_filterMap_find? r names).nodup h)

/-! ## The scan of all facts -/

namespace Coherent

theorem mem_filter (h : r.Coherent) (p : TypeFact → Bool) :
    f ∈ r.filter p ↔ r.find? f.name = some f ∧ p f = true := by
  unfold filter TypeFact.sortByName
  rw [Text.mem_sortByUnits, List.mem_filter, h.mem_facts_iff]

theorem filter_ascending (h : r.Coherent) (p : TypeFact → Bool) :
    Text.Ascending (·.name) (r.filter p) :=
  Text.sortByUnits_ascending ((List.filter_sublist.map _).nodup h.nodup_names)

/-- Whatever ascends and holds the facts that satisfy a condition is the answer
    of the scan for it. -/
theorem eq_filter (h : r.Coherent) {facts : List TypeFact} (p : TypeFact → Bool)
    (hasc : Text.Ascending (·.name) facts)
    (hmem : ∀ f, f ∈ facts ↔ r.find? f.name = some f ∧ p f = true) : facts = r.filter p := by
  refine hasc.ext (h.filter_ascending p) ?_
  intro f
  rw [hmem, h.mem_filter]

end Coherent

/-! ## Direct dependents -/

namespace Coherent

/-- A fact is the one that mentions the target under its name. -/
theorem name_mem_index (h : r.Coherent) (hf : r.find? f.name = some f) :
    f.name ∈ (r.index k).dependentsOf t ↔ t ∈ f.relations k := by
  rw [h.mem_index_iff]
  exact exists_found_iff hf

/-- The look-up in one index is the scan for what the index is about. -/
theorem dependents_eq_filter (h : r.Coherent) (p : TypeFact → Bool)
    (hp : ∀ f, p f = true ↔ t ∈ f.relations k) : r.dependents k t = r.filter p := by
  refine h.eq_filter p (resolve_ascending (h.wellFormed k).nodup_dependentsOf) ?_
  intro f
  show f ∈ r.resolve _ ↔ _
  rw [mem_resolve]
  refine and_congr_right fun hf => ?_
  rw [h.name_mem_index hf, hp]

end Coherent

theorem inheritsFrom_iff : f.inheritsFrom t = true ↔ ∃ k, t ∈ f.relations k := by
  unfold TypeFact.inheritsFrom
  rw [Bool.or_eq_true, Bool.or_eq_true, List.contains_iff_mem, List.contains_iff_mem, beq_iff_eq]
  constructor
  · rintro ((hs | hi) | hm)
    · exact ⟨.superclass, by simp [TypeFact.relations, hs]⟩
    · exact ⟨.interface, hi⟩
    · exact ⟨.mixin, hm⟩
  · rintro ⟨k, hk⟩
    cases k with
    | superclass => exact Or.inl (Or.inl (Option.mem_toList.mp hk))
    | interface => exact Or.inl (Or.inr hk)
    | mixin => exact Or.inr hk

/-- The type of a name inherits directly from another. -/
def Inherits (r : Registry) (base name : String) : Prop :=
  ∃ f, r.find? name = some f ∧ f.inheritsFrom base = true

theorem mem_all (k : RelationKind) : k ∈ RelationKind.all := by
  cases k <;> decide

theorem mem_directDependents_iff_index :
    n ∈ r.directDependents t ↔ ∃ k, n ∈ (r.index k).dependentsOf t := by
  unfold directDependents
  rw [List.mem_flatMap]
  exact ⟨fun ⟨k, _, hn⟩ => ⟨k, hn⟩, fun ⟨k, hn⟩ => ⟨k, mem_all k, hn⟩⟩

namespace Coherent

theorem mem_directDependents (h : r.Coherent) :
    n ∈ r.directDependents t ↔ r.Inherits t n := by
  rw [mem_directDependents_iff_index]
  constructor
  · rintro ⟨k, hn⟩
    obtain ⟨f, hf, ht⟩ := (h.mem_index_iff k t n).mp hn
    exact ⟨f, hf, inheritsFrom_iff.mpr ⟨k, ht⟩⟩
  · rintro ⟨f, hf, hinh⟩
    obtain ⟨k, ht⟩ := inheritsFrom_iff.mp hinh
    exact ⟨k, (h.mem_index_iff k t n).mpr ⟨f, hf, ht⟩⟩

end Coherent

/-! ## Dependents of any of several names -/

theorem foldl_insertName (names : List String) :
    ∀ kept : List String, kept.Nodup →
      (names.foldl RelationIndex.insertName kept).Nodup
      ∧ ∀ n, n ∈ names.foldl RelationIndex.insertName kept ↔ n ∈ kept ∨ n ∈ names := by
  induction names with
  | nil =>
      intro kept hnd
      exact ⟨hnd, fun n => by simp⟩
  | cons name rest ih =>
      intro kept hnd
      obtain ⟨hnd', hmem⟩ := ih _ (RelationIndex.nodup_insertName (d := name) hnd)
      refine ⟨hnd', fun n => ?_⟩
      rw [List.foldl_cons, hmem, RelationIndex.mem_insertName, List.mem_cons, or_assoc]

theorem nodup_distinct (names : List String) : (distinct names).Nodup :=
  (foldl_insertName names [] List.nodup_nil).1

theorem mem_distinct {names : List String} : n ∈ distinct names ↔ n ∈ names := by
  unfold distinct
  rw [(foldl_insertName names [] List.nodup_nil).2]
  simp

namespace Coherent

/-- The look-up by several bases is the scan for those who inherit from one. -/
theorem findByAnyBase_eq_filter (h : r.Coherent) (bases : List String) :
    r.findByAnyBase bases = r.filter fun f => bases.any f.inheritsFrom := by
  refine h.eq_filter _ (resolve_ascending (nodup_distinct _)) ?_
  intro f
  show f ∈ r.resolve _ ↔ _
  rw [mem_resolve, mem_distinct, List.mem_flatMap, List.any_eq_true]
  refine and_congr_right fun hf => exists_congr fun base => and_congr_right fun _ => ?_
  rw [h.mem_directDependents]
  exact exists_found_iff hf

end Coherent

/-- **Look-ups are scans** after any run: each look-up by a relation gives, as
    a list, what a scan of all facts for the relation gives, and a scan gives
    the registered facts that satisfy its condition in ascending order. -/
theorem lookups_run_eq_filter (changes : List Change) :
    (∀ b, (run changes).subclassesOf b = (run changes).filter fun f => f.superclass == some b)
    ∧ (∀ b, (run changes).implementersOf b
        = (run changes).filter fun f => f.interfaces.contains b)
    ∧ (∀ b, (run changes).mixinUsersOf b = (run changes).filter fun f => f.mixins.contains b)
    ∧ (∀ bs, (run changes).findByAnyBase bs
        = (run changes).filter fun f => bs.any f.inheritsFrom)
    ∧ ∀ p, Text.Ascending (·.name) ((run changes).filter p)
        ∧ ∀ f, f ∈ (run changes).filter p ↔
            (run changes).find? f.name = some f ∧ p f = true := by
  have h := coherent_run changes
  refine ⟨fun b => ?_, fun b => ?_, fun b => ?_, h.findByAnyBase_eq_filter,
    fun p => ⟨h.filter_ascending p, fun f => h.mem_filter p⟩⟩
  · refine h.dependents_eq_filter _ fun f => ?_
    rw [beq_iff_eq]
    exact Option.mem_toList.symm
  · exact h.dependents_eq_filter _ fun f => List.contains_iff_mem
  · exact h.dependents_eq_filter _ fun f => List.contains_iff_mem

/-! ## Descendants -/

/-- All names that depend on anything, once for each pair of an index. -/
def dependentNames (r : Registry) : List String :=
  RelationKind.all.flatMap fun k => (r.index k).pairs.map (·.2)

theorem length_dependentNames (r : Registry) : r.dependentNames.length = r.relationCount := by
  unfold dependentNames relationCount
  induction RelationKind.all with
  | nil => rfl
  | cons k rest ih =>
      rw [List.flatMap_cons, List.length_append, ih, List.length_map, List.foldr_cons,
        RelationIndex.size_eq_length_pairs]

namespace Coherent

theorem directDependents_subset (h : r.Coherent) (base : String) :
    r.directDependents base ⊆ r.dependentNames := by
  intro n hn
  obtain ⟨k, hk⟩ := mem_directDependents_iff_index.mp hn
  refine List.mem_flatMap.mpr ⟨k, mem_all k, List.mem_map.mpr ⟨(base, n), ?_, rfl⟩⟩
  exact (h.wellFormed k).mem_pairs.mpr hk

/-- The closure under direct dependence comes to its end. -/
theorem descendants_ends (h : r.Coherent) (base : String) :
    Reach.Ends r.directDependents [base] []
      (Reach.reachable r.relationCount r.directDependents base) := by
  refine Reach.reachable_ends base (fun x _ => h.directDependents_subset x) ?_
  exact Nat.le_of_eq (length_dependentNames r)

theorem edge_directDependents (h : r.Coherent) :
    Reach.Edge r.directDependents = r.Inherits := by
  funext base n
  exact propext h.mem_directDependents

theorem mem_descendantsOf (h : r.Coherent) (base : String) :
    f ∈ r.descendantsOf base ↔
      r.find? f.name = some f ∧ Relation.TransGen r.Inherits base f.name := by
  show f ∈ r.resolve _ ↔ _
  rw [mem_resolve, (h.descendants_ends base).mem_iff, h.edge_directDependents]

theorem descendantsOf_ascending (h : r.Coherent) (base : String) :
    Text.Ascending (·.name) (r.descendantsOf base) :=
  resolve_ascending ((h.descendants_ends base).nodup List.nodup_nil)

/-- A chain of inheritance ends in a registered type. -/
theorem find?_of_transGen {base : String} (hpath : Relation.TransGen r.Inherits base n) :
    ∃ f, r.find? n = some f := by
  cases hpath with
  | single hstep => exact ⟨_, hstep.choose_spec.1⟩
  | tail _ hstep => exact ⟨_, hstep.choose_spec.1⟩

end Coherent

/-- **Descendants are exact** after any run: the search for them ends, and it
    gives in ascending order the registered types that a chain of one or more
    direct inheritances leads to, the base among them exactly when such a chain
    leads back to it. -/
theorem descendantsOf_run_exact (changes : List Change) (base : String) :
    (∃ found, Reach.Ends (run changes).directDependents [base] [] found
        ∧ (run changes).descendantsOf base = (run changes).resolve found)
    ∧ (∀ f, f ∈ (run changes).descendantsOf base ↔
        (run changes).find? f.name = some f
          ∧ Relation.TransGen (run changes).Inherits base f.name)
    ∧ Text.Ascending (·.name) ((run changes).descendantsOf base)
    ∧ (base ∈ ((run changes).descendantsOf base).map (·.name) ↔
        Relation.TransGen (run changes).Inherits base base) := by
  have h := coherent_run changes
  refine ⟨⟨_, h.descendants_ends base, rfl⟩, fun f => h.mem_descendantsOf base,
    h.descendantsOf_ascending base, ?_⟩
  rw [List.mem_map]
  constructor
  · rintro ⟨f, hf, hname⟩
    have hpath := ((h.mem_descendantsOf base).mp hf).2
    rwa [hname] at hpath
  · intro hpath
    obtain ⟨f, hf⟩ := Coherent.find?_of_transGen hpath
    have hname := name_of_find? hf
    refine ⟨f, (h.mem_descendantsOf base).mpr ?_, hname⟩
    rw [hname]
    exact ⟨hf, hpath⟩

/-! ## Superclasses and subclasses

    The superclass of a registered type is a partial function on names, and
    the direct subclasses of a name are what the function takes to it.  Both
    are read off the registered facts, one through a fact and the other through
    the reverse index. -/

variable {s : Registry} {base : String}

/-- What has a superclass is registered. -/
theorem has_of_superclassOf? (h : r.superclassOf? n = some base) : r.has n = true := by
  obtain ⟨f, hf, -⟩ := Option.bind_eq_some_iff.mp h
  exact Option.isSome_iff_exists.mpr ⟨f, hf⟩

theorem mem_names_iff : n ∈ r.names ↔ r.has n = true := by
  unfold names has find?
  rw [List.mem_map, List.find?_isSome]
  simp only [decide_eq_true_eq]

theorem length_names (r : Registry) : r.names.length = r.size :=
  List.length_map _

namespace Coherent

/-- The names in the bucket of a superclass are those that extend it. -/
theorem mem_index_superclass (h : r.Coherent) :
    n ∈ (r.index .superclass).dependentsOf base ↔ r.superclassOf? n = some base := by
  rw [h.mem_index_iff]
  unfold superclassOf?
  rw [Option.bind_eq_some_iff]
  exact exists_congr fun f => and_congr_right fun _ => Option.mem_toList

theorem mem_subclassNames (h : r.Coherent) :
    n ∈ r.subclassNames base ↔ r.superclassOf? n = some base := by
  rw [← h.mem_index_superclass]
  unfold subclassNames
  rw [List.mem_map]
  constructor
  · rintro ⟨f, hf, rfl⟩
    exact (mem_resolve.mp hf).2
  · intro hn
    obtain ⟨f, hf, -⟩ := (h.mem_index_iff .superclass base n).mp hn
    obtain rfl := name_of_find? hf
    exact ⟨f, mem_resolve.mpr ⟨hf, hn⟩, rfl⟩

theorem subclassNames_ascending (h : r.Coherent) (base : String) :
    Text.Ascending id (r.subclassNames base) := by
  refine List.pairwise_map.mpr ?_
  exact resolve_ascending (h.wellFormed .superclass).nodup_dependentsOf

end Coherent

end TypeLineage.Registry
