import TypeLineage.Proofs.Registry.Agreement
import TypeLineage.Proofs.Registry.Snapshot

/-! # The order of bindings is forgotten

    A fact that was written and read again has its bindings in ascending order
    of their keys.  `ordered` puts the bindings of every fact into that order,
    so facts that say the same become equal, and registries with the same facts
    up to their bindings' order agree.

    What is written is canonical, and findings and counts do not look at
    bindings, so none of them tells a registry from the ordered one. -/

namespace TypeLineage

open Document Json

/-! ## Facts with ordered bindings -/

namespace TypeFact

variable {f : TypeFact}

/-- The fact with its bindings in ascending order of their keys. -/
def ordered (f : TypeFact) : TypeFact :=
  { f with genericArguments := Text.sortByUnits (·.1) f.genericArguments }

theorem name_ordered (f : TypeFact) : f.ordered.name = f.name := rfl

theorem ordered_of_perm {bindings : Bindings} (hperm : bindings.Perm f.genericArguments)
    (hdistinct : (f.genericArguments.map (·.1)).Nodup) :
    ordered { f with genericArguments := bindings } = f.ordered := by
  have hsorted : Text.sortByUnits (·.1) bindings = Text.sortByUnits (·.1) f.genericArguments :=
    Text.sortByUnits_eq_of_perm hperm ((hperm.map _).nodup_iff.mpr hdistinct)
  unfold ordered
  rw [hsorted]

/-- Reading an entry back changes no more than the order of the bindings. -/
theorem Sound.ordered_ofJson (hs : f.Sound) :
    (ofJson (settled f.toJson)).ordered = f.ordered := by
  obtain ⟨bindings, hperm, heq⟩ := ofJson_settled hs
  rw [heq]
  exact ordered_of_perm hperm hs.distinct

theorem relations_ordered (f : TypeFact) (k : RelationKind) :
    f.ordered.relations k = f.relations k := by
  cases k <;> rfl

/-- Sorting by names looks at names only. -/
theorem sortByName_map_ordered (facts : List TypeFact) :
    sortByName (facts.map ordered) = (sortByName facts).map ordered := by
  unfold sortByName
  rw [Text.sortByUnits_map]
  simp only [name_ordered]

end TypeFact

/-- The canonical entry of a fact does not show the order of its bindings. -/
theorem TypeFact.canonical_ordered {f : TypeFact}
    (hdistinct : (f.genericArguments.map (·.1)).Nodup) :
    canonical f.ordered.toJson = canonical f.toJson := by
  have hperm := Text.sortByUnits_perm (fun b : String × String => b.1) f.genericArguments
  have hbindings : canonical (ofBindings f.ordered.genericArguments)
      = canonical (ofBindings f.genericArguments) := by
    unfold ofBindings
    rw [canonical, canonical, canonicalMembers_eq_map, canonicalMembers_eq_map]
    refine congrArg Json.object (canonicalOrder_eq_of_perm ((hperm.map _).map _) ?_)
    rw [List.map_map, List.map_map]
    exact (hperm.map _).nodup_iff.mpr hdistinct
  have hmember : (nonEmptyMember "genericArguments" f.ordered.genericArguments ofBindings).map
        (fun m => (m.1, canonical m.2))
      = (nonEmptyMember "genericArguments" f.genericArguments ofBindings).map
        (fun m => (m.1, canonical m.2)) := by
    have hempty : f.ordered.genericArguments.isEmpty = f.genericArguments.isEmpty := hperm.isEmpty_eq
    unfold nonEmptyMember
    rw [hempty]
    split
    · rfl
    · exact congrArg (fun x => [("genericArguments", x)]) hbindings
  -- all other members are those of the fact
  unfold toJson
  rw [canonical, canonical, canonicalMembers_eq_map, canonicalMembers_eq_map]
  unfold members
  simp only [List.map_append, hmember]
  rfl

/-! ## Registries with ordered bindings -/

namespace Registry

variable {r s : Registry}

/-- The registry with the bindings of every fact in ascending order. -/
def ordered (r : Registry) : Registry := { r with facts := r.facts.map TypeFact.ordered }

theorem find?_ordered (r : Registry) (n : String) :
    r.ordered.find? n = (r.find? n).map TypeFact.ordered :=
  List.find?_map

theorem has_ordered (r : Registry) : r.ordered.has = r.has := by
  funext n
  unfold has
  rw [find?_ordered, Option.isSome_map]

theorem names_ordered (r : Registry) : r.ordered.names = r.names := by
  unfold names ordered
  rw [List.map_map]
  rfl

theorem superclassOf?_ordered (r : Registry) : r.ordered.superclassOf? = r.superclassOf? := by
  funext n
  unfold superclassOf?
  rw [find?_ordered, Option.bind_map]
  rfl

theorem index_ordered (r : Registry) (k : RelationKind) : r.ordered.index k = r.index k := by
  cases k <;> rfl

theorem Coherent.ordered (h : r.Coherent) : r.ordered.Coherent where
  nodup_names := (names_ordered r).symm ▸ h.nodup_names
  wellFormed := fun k => (index_ordered r k).symm ▸ h.wellFormed k
  mem_index_iff := fun k t n => by
    rw [index_ordered, h.mem_index_iff, find?_ordered]
    simp only [Option.map_eq_some_iff, exists_exists_and_eq_and, TypeFact.relations_ordered]

theorem superclassCycles_ordered (r : Registry) :
    r.ordered.superclassCycles = r.superclassCycles := by
  have hsize : r.ordered.size = r.size := List.length_map _
  unfold superclassCycles
  rw [superclassOf?_ordered, names_ordered, hsize]

theorem diagnose_ordered (r : Registry) : r.ordered.diagnose = r.diagnose := by
  have hdangling : r.ordered.danglingOf ∘ TypeFact.ordered = r.danglingOf := by
    funext f
    unfold danglingOf
    simp only [Function.comp_apply, has_ordered, TypeFact.relations_ordered]
    rfl
  unfold diagnose
  rw [superclassCycles_ordered]
  show (TypeFact.sortByName (r.facts.map TypeFact.ordered)).flatMap r.ordered.danglingOf ++ _ = _
  rw [TypeFact.sortByName_map_ordered, List.flatMap_map]
  exact congrArg (fun g => (TypeFact.sortByName r.facts).flatMap g ++ _) hdangling

theorem statistics_ordered (r : Registry) :
    Statistics.ofFacts r.ordered.facts = Statistics.ofFacts r.facts := by
  unfold Statistics.ofFacts ordered
  simp only [List.length_map, List.countP_map]
  rfl

theorem relationCounts_ordered (r : Registry) : r.ordered.relationCounts = r.relationCounts := by
  have htotal : r.ordered.relationTotal = r.relationTotal := by
    funext k
    unfold relationTotal ordered
    rw [List.flatMap_map]
    simp only [TypeFact.relations_ordered]
  have hkinds : r.ordered.relationKinds = r.relationKinds := by
    unfold relationKinds ordered
    rw [List.flatMap_map]
    simp only [TypeFact.relations_ordered]
  unfold relationCounts
  rw [htotal, hkinds]

theorem write_ordered (h : ∀ f ∈ r.facts, f.Sound) (indent : Int) :
    r.ordered.snapshot.write indent = r.snapshot.write indent := by
  have hentries : ((TypeFact.sortByName r.ordered.facts).map TypeFact.toJson).map canonical
      = ((TypeFact.sortByName r.facts).map TypeFact.toJson).map canonical := by
    show ((TypeFact.sortByName (r.facts.map TypeFact.ordered)).map _).map _ = _
    rw [TypeFact.sortByName_map_ordered, List.map_map, List.map_map, List.map_map]
    refine List.map_congr_left fun f hf => ?_
    exact TypeFact.canonical_ordered (h f (Text.mem_sortByUnits.mp hf)).distinct
  rw [write_eq_stableText, write_eq_stableText]
  unfold stableText documentMembers
  simp only [canonical, canonicalMembers, canonicalItems_eq_map, hentries, statistics_ordered]

/-! ## Registries that say the same -/

/-- Two coherent registries with the same fact under every name, but for the
    order of its bindings. -/
structure Alike (r s : Registry) : Prop where
  left : r.Coherent
  right : s.Coherent
  find?_eq : ∀ n, (r.find? n).map TypeFact.ordered = (s.find? n).map TypeFact.ordered

namespace Alike

theorem agree (h : Alike r s) : Agree r.ordered s.ordered where
  left := h.left.ordered
  right := h.right.ordered
  find?_eq := by
    funext n
    rw [find?_ordered, find?_ordered, h.find?_eq]

theorem write_eq (h : Alike r s) (hr : ∀ f ∈ r.facts, f.Sound) (hs : ∀ f ∈ s.facts, f.Sound)
    (indent : Int) : r.snapshot.write indent = s.snapshot.write indent := by
  rw [← write_ordered hr, h.agree.write_eq, write_ordered hs]

theorem diagnose_eq (h : Alike r s) : r.diagnose = s.diagnose := by
  rw [← diagnose_ordered r, h.agree.diagnose_eq, diagnose_ordered s]

theorem statistics_eq (h : Alike r s) :
    Statistics.ofFacts r.facts = Statistics.ofFacts s.facts := by
  rw [← statistics_ordered r, h.agree.statistics_eq, statistics_ordered s]

theorem relationCounts_lookup_eq (h : Alike r s) (word : String) :
    r.relationCounts.lookup word = s.relationCounts.lookup word := by
  rw [← relationCounts_ordered r, h.agree.relationCounts_lookup_eq, relationCounts_ordered s]

end Alike

end Registry

end TypeLineage
