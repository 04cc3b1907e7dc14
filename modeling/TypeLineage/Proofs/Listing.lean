import TypeLineage.Proofs.Files.Scan
import TypeLineage.Proofs.Registry.Cycle
import TypeLineage.Proofs.Text.Order
import TypeLineage.Registry.Snapshot

/-! # One order for names, keys and paths

    Facts, the entries of a snapshot, cycles, the members of a canonical object
    and the paths of a selection are sorted each in a place of its own.
    `ListsBy` says what is listed in each of these places if it is sorted there
    by a given comparison of texts, and takes from the sort no more than what a
    stable one promises.

    In all of them the comparison is the one of code units
    (`listed_in_one_order`).  It is that of a strict total order, so facts with
    different names are listed alike in whatever order they came. -/

namespace TypeLineage

/-- Facts, entries, cycles, members and paths are listed by the comparison. -/
structure ListsBy (cmp : String → String → Ordering) : Prop where
  /-- Facts are sorted by their names. -/
  facts : ∀ facts listed : List TypeFact, TypeFact.sortByName facts = listed
    ↔ Text.IsSorting (fun f g => cmp f.name g.name) facts listed
  /-- The entries of a snapshot are sorted by their names. -/
  entries : ∀ s listed : Snapshot, s.canonical = listed
    ↔ Text.IsSorting (fun v w => cmp (v.textAt "name") (w.textAt "name")) s.types listed.types
      ∧ s.statistics = listed.statistics
  /-- Cycles are searched from the sorted names, and those that are found are
      sorted by their first names. -/
  cycles : ∀ (r : Registry) (listed : List (List String)), r.superclassCycles = listed
    ↔ ∃ starts loops, Text.IsSorting cmp r.names starts
      ∧ Cycle.Collects r.superclassOf? starts [] loops
      ∧ Text.IsSorting (fun c d => cmp (c.headD "") (d.headD "")) loops listed
  /-- A cycle is turned to the least of its names. -/
  turned : ∀ (cycle : List String) (first : String),
    (Cycle.rotateToSmallest cycle).head? = some first
      ↔ first ∈ cycle ∧ ∀ n ∈ cycle, (cmp first n).isLE = true
  /-- The members of an object are sorted by their keys before they are put
      into the canonical one. -/
  members : ∀ members written : List (String × Json),
    Json.canonical (.object members) = .object written
      ↔ ∃ sorted, Text.IsSorting (fun m n => cmp m.1 n.1) (Json.canonicalMembers members) sorted
        ∧ Json.orderMembers (sorted.filter (·.1 ≠ Json.unwritableKey)) = written
  /-- The paths of what a scan finds are sorted before they are cut at the
      cap. -/
  paths : ∀ (s : Selection) (home : Place) (t : FileTree) (files : List String),
    s.paths home t = .ok files
      ↔ ¬ (Selection.orDefault s.includes Selection.sourceFiles).contains "" = true
        ∧ ∃ found sorted, s.found home t = .ok found
          ∧ Text.IsSorting cmp (found.map fun c => Path.toPosix c.path) sorted
          ∧ Scan.capped s.cap sorted = files

theorem Registry.superclassCycles_eq_iff {r : Registry} {listed : List (List String)} :
    r.superclassCycles = listed
      ↔ ∃ starts loops, Text.IsSorting Text.compareUnits r.names starts
        ∧ Cycle.Collects r.superclassOf? starts [] loops
        ∧ Text.IsSorting (fun c d => Text.compareUnits (c.headD "") (d.headD "")) loops listed := by
  have hcollects := collects_superclassCycles r
  constructor
  · intro h
    exact ⟨_, _, Text.isSorting_sorted_iff.mpr rfl, hcollects, Text.isSorting_iff.mpr h⟩
  · rintro ⟨starts, loops, hstarts, hloops, hlisted⟩
    -- the starts can only be the sorted names, so the search is this one
    obtain rfl := Text.isSorting_sorted_iff.mp hstarts
    obtain rfl := hcollects.unique hloops
    exact Text.isSorting_iff.mp hlisted

theorem listsBy_compareUnits : ListsBy Text.compareUnits where
  facts _ _ := Text.isSorting_iff.symm
  entries s listed := by
    obtain ⟨types, statistics⟩ := listed
    show Snapshot.mk (Document.sortEntries s.types) s.statistics = _ ↔ _
    rw [Snapshot.mk.injEq, Text.isSorting_iff]
    rfl
  cycles _ _ := Registry.superclassCycles_eq_iff
  turned cycle first := by
    simp only [Text.isLE_compareUnits]
    exact Cycle.head?_rotateToSmallest_eq_iff
  members members written := by
    rw [Text.exists_isSorting_iff, Json.canonical, Json.object.injEq]
    rfl
  paths s home t files := by
    rw [Selection.paths_eq_ok_iff]
    refine and_congr_right fun _ => exists_congr fun found => ?_
    rw [exists_and_left, Text.exists_isSorting_sorted_iff]

/-- **Names, keys and paths are listed in one order.**  The comparison of texts
    is that of a strict total order, the lexicographic one of their code units,
    and it is the comparison by which facts, entries, cycles, members and paths
    are listed.  Facts with different names are listed alike in whatever order
    they came, and facts of one name in the order they came. -/
theorem listed_in_one_order :
    Text.IsUnitOrder Text.compareUnits
    ∧ ListsBy Text.compareUnits
    ∧ (∀ facts others : List TypeFact, facts.Perm others → (facts.map (·.name)).Nodup →
        TypeFact.sortByName facts = TypeFact.sortByName others)
    ∧ ∀ (facts : List TypeFact) (name : String),
        (TypeFact.sortByName facts).filter (·.name = name) = facts.filter (·.name = name) := by
  refine ⟨Text.isUnitOrder_compareUnits, listsBy_compareUnits, ?_, ?_⟩
  · intro facts others hperm hnames
    exact Text.sortByUnits_eq_of_perm hperm hnames
  · intro facts name
    exact Text.filter_sortByUnits (·.name) name facts

/-- A name outside the basic plane is listed before one at the end of it, in
    whatever order they came. -/
theorem listed_in_one_order_of_wide :
    let emoji : TypeFact := { (default : TypeFact) with name := "😀" }
    let circle : TypeFact := { (default : TypeFact) with name := "\uffee" }
    TypeFact.sortByName [emoji, circle] = [emoji, circle]
      ∧ TypeFact.sortByName [circle, emoji] = [emoji, circle] := by
  intro emoji circle
  obtain ⟨-, hlists, halike, -⟩ := listed_in_one_order
  have hlisted : TypeFact.sortByName [emoji, circle] = [emoji, circle] :=
    (hlists.facts _ _).mpr ⟨.refl _, by decide, fun _ => rfl⟩
  refine ⟨hlisted, ?_⟩
  rw [halike _ _ (.swap emoji circle []) (by decide)]
  exact hlisted

end TypeLineage
