import Mathlib
import TypeLineage.Proofs.Registry.Lookup

/-! # Keeping what descends from some bases

    Facts are kept by their names, all facts of a name or none, so the last one
    of a kept name is the one it was.  What is kept is closed under inheritance:
    whoever inherits from a base, or from a type that is kept, is kept as well.
    A chain of inheritance that begins at a base is therefore never cut, and
    below the bases a registry of the kept facts answers as one of all facts. -/

namespace TypeLineage.Registry

variable {facts : List TypeFact} {bases : List String} {f : TypeFact} {n m : String}

/-! ## What is kept -/

/-- A chain of inheritance leads from one of the bases to the name. -/
def Descends (r : Registry) (bases : List String) (n : String) : Prop :=
  ∃ base ∈ bases, Relation.TransGen r.Inherits base n

/-- What descends from a base or a descendant is a descendant. -/
theorem Descends.of_transGen {r : Registry} (hn : n ∈ bases ∨ r.Descends bases n)
    (hpath : Relation.TransGen r.Inherits n m) : r.Descends bases m := by
  rcases hn with hbase | ⟨base, hbase, habove⟩
  · exact ⟨n, hbase, hpath⟩
  · exact ⟨base, hbase, habove.trans hpath⟩

theorem mem_descendantNames {r : Registry} (h : r.Coherent) :
    n ∈ bases.flatMap (fun base => (r.descendantsOf base).map (·.name))
      ↔ r.Descends bases n := by
  rw [List.mem_flatMap]
  refine exists_congr fun base => and_congr_right fun _ => ?_
  rw [List.mem_map]
  constructor
  · rintro ⟨f, hf, rfl⟩
    exact ((h.mem_descendantsOf base).mp hf).2
  · intro hpath
    obtain ⟨f, hf⟩ := Coherent.find?_of_transGen hpath
    obtain rfl := name_of_find? hf
    exact ⟨f, (h.mem_descendantsOf base).mpr ⟨hf, hpath⟩, rfl⟩

theorem mem_keepDescendants :
    f ∈ keepDescendants facts bases ↔ f ∈ facts ∧ (ofFacts facts).Descends bases f.name := by
  unfold keepDescendants
  rw [List.mem_filter, List.contains_iff_mem, mem_descendantNames (coherent_ofFacts facts)]

/-- Where all facts are of descendants, all are kept. -/
theorem keepDescendants_of_forall (h : ∀ f ∈ facts, (ofFacts facts).Descends bases f.name) :
    keepDescendants facts bases = facts :=
  List.filter_eq_self.mpr fun f hf =>
    List.contains_iff_mem.mpr ((mem_descendantNames (coherent_ofFacts facts)).mpr (h f hf))

/-- All facts of a descendant are kept. -/
theorem filter_keepDescendants (h : (ofFacts facts).Descends bases n) :
    (keepDescendants facts bases).filter (·.name = n) = facts.filter (·.name = n) := by
  have hmem := List.contains_iff_mem.mpr ((mem_descendantNames (coherent_ofFacts facts)).mpr h)
  unfold keepDescendants
  rw [List.filter_filter]
  refine List.filter_congr fun f _ => ?_
  by_cases hf : f.name = n
  · rw [hf, hmem, Bool.and_true]
  · rw [decide_eq_false hf, Bool.false_and]

/-- No fact of another name is kept. -/
theorem filter_keepDescendants_of_not (h : ¬ (ofFacts facts).Descends bases n) :
    (keepDescendants facts bases).filter (·.name = n) = [] := by
  rw [List.filter_eq_nil_iff]
  intro f hf hname
  exact h (of_decide_eq_true hname ▸ (mem_keepDescendants.mp hf).2)

/-! ## What is found -/

/-- Under a descendant stands the fact that stood there. -/
theorem find?_keepDescendants (h : (ofFacts facts).Descends bases n) :
    (ofFacts (keepDescendants facts bases)).find? n = (ofFacts facts).find? n := by
  rw [find?_ofFacts_eq_getLast?, find?_ofFacts_eq_getLast?, filter_keepDescendants h]

/-- Under other names stands nothing. -/
theorem find?_of_find?_keepDescendants
    (h : (ofFacts (keepDescendants facts bases)).find? n = some f) :
    (ofFacts facts).find? n = some f := by
  by_cases hn : (ofFacts facts).Descends bases n
  · exact find?_keepDescendants hn ▸ h
  · rw [find?_ofFacts_eq_getLast?, filter_keepDescendants_of_not hn] at h
    exact nomatch h

theorem inherits_of_keepDescendants
    (h : (ofFacts (keepDescendants facts bases)).Inherits n m) : (ofFacts facts).Inherits n m := by
  obtain ⟨f, hf, hinh⟩ := h
  exact ⟨f, find?_of_find?_keepDescendants hf, hinh⟩

/-! ## What is answered below the bases -/

section Below

variable (hn : n ∈ bases ∨ (ofFacts facts).Descends bases n)

include hn

theorem inherits_keepDescendants_iff :
    (ofFacts (keepDescendants facts bases)).Inherits n m ↔ (ofFacts facts).Inherits n m := by
  refine ⟨inherits_of_keepDescendants, fun h => ?_⟩
  obtain ⟨f, hf, hinh⟩ := id h
  exact ⟨f, (find?_keepDescendants (.of_transGen hn (.single h))).trans hf, hinh⟩

/-- A chain of inheritance that begins at a base or a descendant is never cut. -/
theorem transGen_keepDescendants_iff :
    Relation.TransGen (ofFacts (keepDescendants facts bases)).Inherits n m
      ↔ Relation.TransGen (ofFacts facts).Inherits n m := by
  constructor
  · exact fun hpath => hpath.lift id fun _ _ => inherits_of_keepDescendants
  · intro hpath
    induction hpath with
    | single hstep => exact .single ((inherits_keepDescendants_iff hn).mpr hstep)
    | @tail mid m hpath hstep ih =>
        have hmid : mid ∈ bases ∨ (ofFacts facts).Descends bases mid :=
          Or.inr (.of_transGen hn hpath)
        exact ih.tail ((inherits_keepDescendants_iff hmid).mpr hstep)

theorem dependents_keepDescendants (k : RelationKind) :
    (ofFacts (keepDescendants facts bases)).dependents k n = (ofFacts facts).dependents k n := by
  have hp : ∀ f : TypeFact, (f.relations k).contains n = true ↔ n ∈ f.relations k :=
    fun f => List.contains_iff_mem
  have hkept := coherent_ofFacts (keepDescendants facts bases)
  rw [hkept.dependents_eq_filter _ hp, (coherent_ofFacts facts).dependents_eq_filter _ hp]
  refine (coherent_ofFacts facts).eq_filter _ (hkept.filter_ascending _) fun f => ?_
  rw [hkept.mem_filter]
  refine and_congr_left fun hrelated => ⟨find?_of_find?_keepDescendants, fun hf => ?_⟩
  -- what is related to the name inherits from it
  have hinh : (ofFacts facts).Inherits n f.name :=
    ⟨f, hf, inheritsFrom_iff.mpr ⟨k, (hp f).mp hrelated⟩⟩
  rw [find?_keepDescendants (.of_transGen hn (.single hinh)), hf]

theorem descendantsOf_keepDescendants :
    (ofFacts (keepDescendants facts bases)).descendantsOf n = (ofFacts facts).descendantsOf n := by
  have hkept := coherent_ofFacts (keepDescendants facts bases)
  have hall := coherent_ofFacts facts
  refine (hkept.descendantsOf_ascending n).ext (hall.descendantsOf_ascending n) fun f => ?_
  rw [hkept.mem_descendantsOf, hall.mem_descendantsOf, transGen_keepDescendants_iff hn]
  refine and_congr_left fun hpath => ?_
  rw [find?_keepDescendants (.of_transGen hn hpath)]

end Below

/-- The descendants of the bases are the same among the kept facts. -/
theorem descends_keepDescendants_iff :
    (ofFacts (keepDescendants facts bases)).Descends bases n ↔ (ofFacts facts).Descends bases n :=
  exists_congr fun _ => and_congr_right fun hbase => transGen_keepDescendants_iff (Or.inl hbase)

/-- **Keeping descendants changes nothing below the bases**: the facts whose
    names descend from a base are kept, in their order and all or none of a
    name; a registry of them answers about the bases and about every kept type
    as a registry of all facts does; and keeping them once more changes nothing. -/
theorem keepDescendants_preserves (facts : List TypeFact) (bases : List String) :
    (keepDescendants facts bases).Sublist facts
    ∧ (∀ f, f ∈ keepDescendants facts bases ↔
        f ∈ facts ∧ ∃ base ∈ bases, Relation.TransGen (ofFacts facts).Inherits base f.name)
    ∧ (∀ n, (keepDescendants facts bases).filter (·.name = n) = facts.filter (·.name = n)
        ∨ (keepDescendants facts bases).filter (·.name = n) = [])
    ∧ (∀ n, n ∈ bases ∨ n ∈ (keepDescendants facts bases).map (·.name) →
        (ofFacts (keepDescendants facts bases)).subclassesOf n = (ofFacts facts).subclassesOf n
        ∧ (ofFacts (keepDescendants facts bases)).implementersOf n
            = (ofFacts facts).implementersOf n
        ∧ (ofFacts (keepDescendants facts bases)).mixinUsersOf n = (ofFacts facts).mixinUsersOf n
        ∧ (ofFacts (keepDescendants facts bases)).descendantsOf n
            = (ofFacts facts).descendantsOf n)
    ∧ keepDescendants (keepDescendants facts bases) bases = keepDescendants facts bases := by
  refine ⟨List.filter_sublist, fun f => mem_keepDescendants, fun n => ?_, fun n hn => ?_, ?_⟩
  · by_cases hn : (ofFacts facts).Descends bases n
    · exact Or.inl (filter_keepDescendants hn)
    · exact Or.inr (filter_keepDescendants_of_not hn)
  · have hbelow : n ∈ bases ∨ (ofFacts facts).Descends bases n := by
      refine hn.imp_right fun hname => ?_
      obtain ⟨f, hf, rfl⟩ := List.mem_map.mp hname
      exact (mem_keepDescendants.mp hf).2
    exact ⟨dependents_keepDescendants hbelow .superclass,
      dependents_keepDescendants hbelow .interface, dependents_keepDescendants hbelow .mixin,
      descendantsOf_keepDescendants hbelow⟩
  · exact keepDescendants_of_forall fun f hf =>
      descends_keepDescendants_iff.mpr (mem_keepDescendants.mp hf).2

/-- Two types extend one another, one of them by its second declaration, and a
    third has nothing to do with them. -/
theorem keepDescendants_preserves_of_mutual :
    let extending (name base : String) : TypeFact :=
      { (default : TypeFact) with name, superclass := some base }
    let facts := [extending "A" "Base", extending "B" "A", extending "C" "Base", extending "A" "B"]
    let kept := keepDescendants facts ["B"]
    kept.map (·.name) = ["A", "B", "A"]
    ∧ (ofFacts kept).subclassesOf "A" = (ofFacts facts).subclassesOf "A"
    ∧ (ofFacts kept).implementersOf "A" = (ofFacts facts).implementersOf "A"
    ∧ (ofFacts kept).mixinUsersOf "A" = (ofFacts facts).mixinUsersOf "A"
    ∧ (ofFacts kept).descendantsOf "A" = (ofFacts facts).descendantsOf "A" := by
  intro extending facts kept
  have hnames : kept.map (·.name) = ["A", "B", "A"] := by
    subst kept facts extending
    cbv
  obtain ⟨-, -, -, hanswers, -⟩ := keepDescendants_preserves facts ["B"]
  exact ⟨hnames, hanswers "A" (Or.inr (hnames ▸ List.mem_cons_self))⟩

end TypeLineage.Registry
