import TypeLineage.Proofs.Cycle
import TypeLineage.Proofs.Registry.Lookup

/-! # Cycles of superclasses are found exactly

    The superclass of a registered type is a partial function on names, and
    every name on a loop of it is registered.  The search starts from every
    registered name, so it collects each loop once; turned to their smallest
    names and sorted by them, the loops are the cycles. -/

namespace TypeLineage.Registry

open TypeLineage.Cycle

variable {r : Registry} {c : List String}

/-- A cycle of superclasses, read from its smallest name on: different
    registered names, each followed by its superclass and the last by the
    first. -/
structure IsCycle (r : Registry) (c : List String) : Prop where
  nodup : c.Nodup
  registered : ∀ n ∈ c, r.has n = true
  turns : ∃ first rest, c = first :: rest
    ∧ (c ++ [first]).IsChain (Up r.superclassOf?)
    ∧ ∀ n ∈ rest, Text.precedes first n = true

theorem isCycle_iff : r.IsCycle c ↔ IsLeastLoop r.superclassOf? c := by
  constructor
  · rintro ⟨hnd, -, first, rest, rfl, hchain, hleast⟩
    refine ⟨⟨hnd, first, rest, rfl, hchain⟩, ?_⟩
    intro least hhead n hn
    obtain rfl := Option.some.inj hhead
    rw [Text.notAfter_iff]
    rcases List.mem_cons.mp hn with rfl | hn
    · exact Or.inr rfl
    · exact Or.inl (hleast n hn)
  · rintro ⟨hloop, hleast⟩
    obtain ⟨hnd, first, rest, rfl, hchain⟩ := id hloop
    refine ⟨hnd, ?_, first, rest, rfl, hchain, ?_⟩
    · intro n hn
      obtain ⟨m, -, hnm⟩ := hloop.parent_mem hn
      exact has_of_superclassOf? hnm
    · intro n hn
      rcases Text.notAfter_iff.mp (hleast first rfl n (List.mem_cons_of_mem _ hn)) with h | rfl
      · exact h
      · exact absurd hn (List.nodup_cons.mp hnd).1

/-- The search from all names ends by itself. -/
theorem collects_superclassCycles (r : Registry) :
    Collects r.superclassOf? (Text.sorted r.names) []
      (collect r.superclassOf? (r.size + 2) (Text.sorted r.names) []) := by
  have hknown : ∀ x y, r.superclassOf? x = some y → x ∈ r.names :=
    fun x y h => mem_names_iff.mpr (has_of_superclassOf? h)
  refine collect_collects hknown ?_ _ _
  rw [length_names]
  omega

/-- A name stands in one of the cycles exactly if its superclasses lead back to
    it. -/
theorem exists_cycle_iff {n : String} :
    (∃ c ∈ r.superclassCycles, n ∈ c) ↔ Relation.TransGen (Up r.superclassOf?) n n := by
  have hcollects := collects_superclassCycles r
  unfold superclassCycles
  constructor
  · rintro ⟨c, hc, hn⟩
    exact (hcollects.sound c (Text.mem_sortByUnits.mp hc)).1.1.transGen hn
  · intro hback
    obtain ⟨rest, hloop⟩ := exists_isLoop hback
    have hn : n ∈ n :: rest := List.mem_cons_self
    obtain ⟨m, -, hparent⟩ := hloop.parent_mem hn
    have hstart : n ∈ Text.sorted r.names :=
      Text.mem_sortByUnits.mpr (mem_names_iff.mpr (has_of_superclassOf? hparent))
    obtain ⟨c, hc, m, hmc, hm⟩ :=
      hcollects.complete closed_nil hloop (fun _ _ h => nomatch h) hstart hn
    refine ⟨c, Text.mem_sortByUnits.mpr hc, ?_⟩
    exact ((hcollects.sound c hc).1.1.perm hloop hmc hm).mem_iff.mpr hn

/-- Loops that share no name begin with different names. -/
theorem nodup_heads {loops : List (List String)} (hdisj : loops.Pairwise List.Disjoint)
    (hne : ∀ c ∈ loops, c ≠ []) : (loops.map (·.headD "")).Nodup := by
  have hmem : ∀ c ∈ loops, c.headD "" ∈ c := by
    intro c hc
    obtain ⟨first, rest, rfl⟩ := List.exists_cons_of_ne_nil (hne c hc)
    exact List.mem_cons_self
  refine List.pairwise_map.mpr (hdisj.imp_of_mem ?_)
  intro c d hc hd hcd heq
  exact hcd (hmem c hc) (heq ▸ hmem d hd)

/-- **Cycles are exact** after any run: the search ends by itself, and it gives
    every cycle of superclasses once, read from its smallest name on; no name
    stands in two of the cycles, and they ascend by their first names. -/
theorem superclassCycles_run_exact (changes : List Change) :
    (∃ loops, Collects (run changes).superclassOf? (Text.sorted (run changes).names) [] loops
        ∧ (run changes).superclassCycles = Text.sortByUnits (·.headD "") loops)
    ∧ (∀ c, c ∈ (run changes).superclassCycles ↔ (run changes).IsCycle c)
    ∧ (run changes).superclassCycles.Pairwise List.Disjoint
    ∧ Text.Ascending (·.headD "") (run changes).superclassCycles := by
  have hcollects := collects_superclassCycles (run changes)
  have hsound := hcollects.sound
  have hdisj := hcollects.disjoint
  refine ⟨⟨_, hcollects, rfl⟩, ?_, ?_, ?_⟩
  · intro c
    unfold superclassCycles
    rw [Text.mem_sortByUnits, isCycle_iff]
    refine ⟨fun hc => (hsound c hc).1, fun hc => ?_⟩
    obtain ⟨first, rest, heq, -⟩ := hc.1.2
    have hfirst : first ∈ c := heq ▸ List.mem_cons_self
    obtain ⟨m, -, hparent⟩ := hc.1.parent_mem hfirst
    have hstart : first ∈ Text.sorted (run changes).names :=
      Text.mem_sortByUnits.mpr (mem_names_iff.mpr (has_of_superclassOf? hparent))
    obtain ⟨d, hd, m, hmd, hmc⟩ :=
      hcollects.complete closed_nil hc.1 (fun _ _ h => nomatch h) hstart hfirst
    rw [hc.eq (hsound d hd).1 hmc hmd]
    exact hd
  · have hperm := Text.sortByUnits_perm (fun c : List String => c.headD "")
      (collect (run changes).superclassOf? ((run changes).size + 2)
        (Text.sorted (run changes).names) [])
    exact hperm.symm.pairwise hdisj List.disjoint_symm
  · refine Text.sortByUnits_ascending (nodup_heads hdisj ?_)
    rintro c hc rfl
    obtain ⟨_, _, heq, -⟩ := (hsound _ hc).1.1.2
    exact nomatch heq

/-- A chain leads into a cycle, which is listed once and from its least name. -/
example :
    let extending (name base : String) : TypeFact :=
      { (default : TypeFact) with name, superclass := some base }
    (ofFacts [extending "C" "B", extending "B" "A", extending "A" "B"]).superclassCycles
      = [["A", "B"]] := by
  cbv

end TypeLineage.Registry
