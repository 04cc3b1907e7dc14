import Mathlib
import TypeLineage.Proofs.Hierarchy
import TypeLineage.Proofs.Registry.Lookup
import TypeLineage.Proofs.Registry.Agreement
import TypeLineage.Proofs.Registry.Cycle

/-! # The hierarchy is drawn as a forest

    The types that lead up to a root by their superclasses form one forest,
    each type below its superclass and siblings in ascending order.  The
    hierarchy of the root is the drawing of that forest, whatever interfaces
    and mixins are registered.

    Every line stands for another pair of the reverse index, a superclass and
    its subclass, so the bound on the number of branches is never felt. -/

namespace TypeLineage.Registry

open TypeLineage.Cycle (Up)
open Hierarchy

variable {r s : Registry} {root : String} {forest : Forest}

namespace Coherent

theorem lists_subclassNames (h : r.Coherent) (base : String) :
    Lists r.superclassOf? base (r.subclassNames base) :=
  ⟨h.subclassNames_ascending base, fun _ => h.mem_subclassNames⟩

theorem exists_isForest (h : r.Coherent) (hroot : r.has root = true) :
    ∃ forest, IsForest r.superclassOf? root forest :=
  Hierarchy.exists_isForest h.lists_subclassNames
    (fun _ _ hup => mem_names_iff.mpr (has_of_superclassOf? hup)) (mem_names_iff.mpr hroot)

/-- Different names that have superclasses are no more than the index holds. -/
theorem length_le_size (h : r.Coherent) {names : List String} (hnd : names.Nodup)
    (hup : ∀ n ∈ names, ∃ base, r.superclassOf? n = some base) :
    names.length ≤ r.subclasses.size := by
  have hsub : names ⊆ r.subclasses.pairs.map (·.2) := by
    intro n hn
    obtain ⟨base, hbase⟩ := hup n hn
    refine List.mem_map.mpr ⟨(base, n), ?_, rfl⟩
    exact (h.wellFormed .superclass).mem_pairs.mpr (h.mem_index_superclass.mpr hbase)
  have hle := hnd.length_le_of_subset hsub
  rwa [List.length_map, ← RelationIndex.size_eq_length_pairs] at hle

/-- The stack is worked off, and every name of the forest is drawn once. -/
theorem draws_forest (h : r.Coherent) (hforest : IsForest r.superclassOf? root forest) :
    Draws r.subclassNames (Branch.ofSiblings "" (r.subclassNames root)) [root] (forest.lines "")
      ∧ forest.names.Nodup ∧ (forest.lines "").length ≤ r.subclasses.size := by
  obtain ⟨hlists, hgrown⟩ := hforest
  have hstart : Pending r.superclassOf? root (forest.tops ++ []) [] [root] := by
    rw [List.append_nil]
    exact .start hlists
  obtain ⟨visited, hend, hdraws⟩ := hgrown.draws h.lists_subclassNames "" hstart
  have hdraws' := hdraws (.done visited)
  rw [List.append_nil, List.append_nil, hlists.unique (h.lists_subclassNames root)] at hdraws'
  have hnd : forest.names.Nodup := by
    have hnd := hend.nodup
    rwa [List.nil_append, List.append_nil] at hnd
  refine ⟨hdraws', hnd, ?_⟩
  rw [forest.length_lines]
  refine h.length_le_size hnd fun n hn => ?_
  obtain ⟨base, -, hbase⟩ := hend.parent_visited n (by simpa using hn)
  exact ⟨base, hbase⟩

theorem hierarchyLines_eq (h : r.Coherent) (hroot : r.has root = true)
    (hforest : IsForest r.superclassOf? root forest) :
    r.hierarchyLines root = root :: forest.lines "" := by
  obtain ⟨hdraws, -, hle⟩ := h.draws_forest hforest
  unfold hierarchyLines
  rw [if_pos hroot, hdraws.draw_eq _ hle]

/-- Nothing but the superclasses shows. -/
theorem hierarchyLines_congr (hr : r.Coherent) (hs : s.Coherent)
    (hroot : s.has root = r.has root) (hup : s.superclassOf? = r.superclassOf?) :
    s.hierarchyLines root = r.hierarchyLines root := by
  cases hreg : r.has root with
  | false =>
      unfold hierarchyLines
      rw [hroot, hreg]
      rfl
  | true =>
      obtain ⟨forest, hforest⟩ := hr.exists_isForest hreg
      rw [hr.hierarchyLines_eq hreg hforest]
      exact hs.hierarchyLines_eq (hroot.trans hreg) (hup ▸ hforest)

end Coherent

/-- **The hierarchy is exact** after any run: a name that is not registered has
    none, and below a registered root there is one forest of all that leads up
    to it by superclasses.  The work on the stack ends and draws this forest's
    lines under the root, each type other than the root on one line without a
    mark.  Nothing else that is registered has any influence. -/
theorem renderHierarchy_run_exact (changes : List Change) (root : String) :
    ((run changes).has root = false → (run changes).renderHierarchy root = "")
    ∧ ((run changes).has root = true → ∃ forest : Forest,
        IsForest (run changes).superclassOf? root forest
        ∧ (∀ other, IsForest (run changes).superclassOf? root other → other = forest)
        ∧ Draws (run changes).subclassNames
            (Branch.ofSiblings "" ((run changes).subclassNames root)) [root] (forest.lines "")
        ∧ (run changes).renderHierarchy root
            = String.join ((root :: forest.lines "").map (· ++ "\n"))
        ∧ forest.unmarked.Nodup
        ∧ ∀ n, n ∈ forest.unmarked ↔
            n ≠ root ∧ Relation.TransGen (Up (run changes).superclassOf?) n root)
    ∧ ∀ other : List Change, (run other).has root = (run changes).has root →
        (∀ n, (run other).superclassOf? n = (run changes).superclassOf? n) →
        (run other).renderHierarchy root = (run changes).renderHierarchy root := by
  have h := coherent_run changes
  refine ⟨fun hroot => ?_, fun hroot => ?_, fun other hroot hup => ?_⟩
  · unfold renderHierarchy hierarchyLines
    rw [hroot]
    rfl
  · obtain ⟨forest, hforest⟩ := h.exists_isForest hroot
    obtain ⟨hdraws, hnd, -⟩ := h.draws_forest hforest
    have hunmarked := hforest.2.unmarked_eq
    refine ⟨forest, hforest, fun _ => hforest.unique, hdraws, ?_, ?_, ?_⟩
    · unfold renderHierarchy
      rw [h.hierarchyLines_eq hroot hforest]
    · rw [hunmarked]
      exact hnd.filter _
    · intro n
      rw [hunmarked, List.mem_filter, decide_eq_true_iff, hforest.mem_names_iff, and_comm]
  · unfold renderHierarchy
    rw [h.hierarchyLines_congr (coherent_run other) hroot (funext hup)]

/-! ## A mark in the hierarchy is a cycle

    The hierarchy goes down from a root over the reverse index, the search for
    cycles goes up from every type over the superclasses.  They meet in one
    fact: the root stands below itself exactly if its superclasses lead back to
    it, which is to say that it lies on a cycle.

    A type has one superclass, so all names below the root are different, and
    no other name than the root's can be met again. -/

namespace Coherent

/-- The one mark is the root's, and stands if the root lies on a cycle. -/
theorem marked_eq (h : r.Coherent) (hforest : IsForest r.superclassOf? root forest) :
    forest.marked = if ∃ c ∈ r.superclassCycles, root ∈ c then [root] else [] := by
  obtain ⟨-, hnd, -⟩ := h.draws_forest hforest
  have hmeets : (∃ c ∈ r.superclassCycles, root ∈ c) ↔ root ∈ forest.names :=
    exists_cycle_iff.trans hforest.mem_names_iff.symm
  -- all names are different, so the root's stands in the forest once or not at all
  rw [hforest.2.marked_eq, List.filter_eq, hnd.count]
  by_cases hcycle : ∃ c ∈ r.superclassCycles, root ∈ c
  · rw [if_pos hcycle, if_pos (hmeets.mp hcycle), List.replicate_one]
  · rw [if_neg hcycle, if_neg fun hmem => hcycle (hmeets.mpr hmem), List.replicate_zero]

end Coherent

/-- Without a mark stand the registered types other than the root that lead up
    to it. -/
theorem mem_unmarked_iff (hforest : IsForest r.superclassOf? root forest) {n : String} :
    n ∈ forest.unmarked ↔
      n ≠ root ∧ r.has n = true ∧ Relation.TransGen (Up r.superclassOf?) n root := by
  rw [hforest.2.unmarked_eq, List.mem_filter, decide_eq_true_iff, hforest.mem_names_iff, and_comm]
  refine and_congr_right fun _ => ⟨fun hpath => ⟨?_, hpath⟩, And.right⟩
  obtain ⟨base, hup, -⟩ := Relation.TransGen.head'_iff.mp hpath
  exact has_of_superclassOf? hup

/-- **A mark is a cycle** after any run: below a registered root stands one
    forest, whose only mark, if there is one, is on a line of the root's name.
    It stands there exactly if the root is in one of the cycles that the search
    finds.  So there is a line for the root, one for each other registered type
    that leads up to it, and one more if the root is on a cycle. -/
theorem hierarchyLines_run_marked (changes : List Change) (root : String)
    (hroot : (run changes).has root = true) :
    ∃ forest : Forest, IsForest (run changes).superclassOf? root forest
      ∧ (∀ other, IsForest (run changes).superclassOf? root other → other = forest)
      ∧ (run changes).hierarchyLines root = root :: forest.lines ""
      ∧ (run changes).renderHierarchy root
          = String.join ((root :: forest.lines "").map (· ++ "\n"))
      ∧ forest.marked.length ≤ 1
      ∧ (∀ n ∈ forest.marked, n = root)
      ∧ (root ∈ forest.marked ↔ ∃ c ∈ (run changes).superclassCycles, root ∈ c)
      ∧ ∃ below : Finset String,
          (∀ n, n ∈ below ↔ n ≠ root ∧ (run changes).has n = true
            ∧ Relation.TransGen (Up (run changes).superclassOf?) n root)
          ∧ ((run changes).hierarchyLines root).length
              = 1 + below.card + if ∃ c ∈ (run changes).superclassCycles, root ∈ c then 1 else 0 := by
  have h := coherent_run changes
  obtain ⟨forest, hforest⟩ := h.exists_isForest hroot
  obtain ⟨-, hnd, -⟩ := h.draws_forest hforest
  have hlines := h.hierarchyLines_eq hroot hforest
  have hmarked := h.marked_eq hforest
  have hunmarked : forest.unmarked.Nodup := by
    rw [hforest.2.unmarked_eq]
    exact hnd.filter _
  refine ⟨forest, hforest, fun _ => hforest.unique, hlines, ?_, ?_, ?_, ?_,
    forest.unmarked.toFinset, fun n => ?_, ?_⟩
  · unfold renderHierarchy
    rw [hlines]
  · rw [hmarked]
    split <;> simp
  · rw [hmarked]
    split <;> simp
  · rw [hmarked]
    split <;> simp [*]
  · rw [List.mem_toFinset, mem_unmarked_iff hforest]
  · rw [hlines, List.length_cons, forest.length_lines, forest.length_names, hmarked,
      List.toFinset_card_of_nodup hunmarked, apply_ite List.length, List.length_singleton,
      List.length_nil]
    omega

/-- Two types that extend each other, with one more below them. -/
theorem hierarchyLines_run_marked_of_mutual :
    let changes : List Change :=
      [.registerAll [bareFact "A" (some "B"), bareFact "B" (some "A"), bareFact "C" (some "A")]]
    (run changes).has "A" = true
    ∧ (run changes).hierarchyLines "A" = ["A", "├── B", "│   └── A (cycle)", "└── C"]
    ∧ ∃ below : Finset String,
        (∀ n, n ∈ below ↔ n ≠ "A" ∧ (run changes).has n = true
          ∧ Relation.TransGen (Up (run changes).superclassOf?) n "A")
        ∧ below.card = 2 := by
  intro changes
  have hroot : (run changes).has "A" = true := by decide +kernel
  have hlines : (run changes).hierarchyLines "A"
      = ["A", "├── B", "│   └── A (cycle)", "└── C"] := by cbv
  have hcycles : (run changes).superclassCycles = [["A", "B"]] := by cbv
  obtain ⟨_, -, -, -, -, -, -, -, below, hbelow, hlength⟩ :=
    hierarchyLines_run_marked changes "A" hroot
  refine ⟨hroot, hlines, below, hbelow, ?_⟩
  rw [hlines, hcycles] at hlength
  have hcard : 4 = 1 + below.card + 1 := hlength
  omega

end TypeLineage.Registry
