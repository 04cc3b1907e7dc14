import Mathlib.Data.List.Nodup
import TypeLineage.Registry.Lookup
import TypeLineage.Proofs.Json.Order
import TypeLineage.Proofs.Registry.Runs

/-! # What a registry lists, and the map of its types

    A fact that is registered under a taken name moves into the place of the
    earlier one, so the facts are listed by the first registration of their
    names and each is the last one of its name.

    The map of the types walks through that list and puts the name of each fact
    under its key, by the same rule once more: a key keeps its first place and
    takes the last name.  Last is last in the list, which is not last in time:
    a fact that was replaced late may stand in an early place. -/

namespace TypeLineage.Registry

variable {r : Registry}

/-! ## The listing -/

theorem names_register (r : Registry) (f : TypeFact) :
    (r.register f).names = if f.name ∈ r.names then r.names else r.names ++ [f.name] := by
  show (r.register f).facts.map (·.name) = _
  rw [facts_register]
  exact map_name_putFact f r.facts

/-- Names are listed in the order in which they were first registered. -/
theorem names_ofFacts (facts : List TypeFact) :
    (ofFacts facts).names = (facts.map (·.name)).eraseDups := by
  induction facts using List.reverseRecOn with
  | nil => rfl
  | append_singleton facts f ih =>
      rw [ofFacts_append, List.map_append, List.map_singleton, Association.eraseDups_concat]
      show ((ofFacts facts).register f).names = _
      rw [names_register, ih]
      simp only [List.mem_eraseDups]

/-- Of facts with different names each is found under its own. -/
theorem find?_of_mem_facts (hnames : r.names.Nodup) {f : TypeFact} (h : f ∈ r.facts) :
    r.find? f.name = some f := by
  cases hfound : r.find? f.name with
  | none =>
      have hnone := List.find?_eq_none.mp hfound f h
      exact absurd (decide_eq_true rfl) hnone
  | some g =>
      refine congrArg some ?_
      exact List.inj_on_of_nodup_map hnames (mem_facts_of_find? hfound) h (name_of_find? hfound)

/-! ## The map -/

theorem put_eq_assign (entries : List (String × String)) (key name : String) :
    typeMap.put entries key name = Json.assign entries key name := by
  induction entries with
  | nil => rfl
  | cons entry rest ih =>
      obtain ⟨k, n⟩ := entry
      rw [typeMap.put, Json.assign, ih]

/-- The map keeps of the keys with their names what an object keeps of its
    members. -/
theorem typeMap_eq_mergeKeys (r : Registry) (key : TypeFact → String) :
    r.typeMap key = Json.mergeKeys (r.facts.map fun f => (key f, f.name)) := by
  unfold typeMap Json.mergeKeys
  rw [List.foldl_map]
  simp only [put_eq_assign]

theorem map_fst_typeMap (r : Registry) (key : TypeFact → String) :
    (r.typeMap key).map (·.1) = (r.facts.map key).eraseDups := by
  rw [typeMap_eq_mergeKeys, Json.map_fst_mergeKeys, List.map_map]
  rfl

theorem lookup_typeMap (r : Registry) (key : TypeFact → String) (k : String) :
    (r.typeMap key).lookup k = ((r.facts.filter (key · = k)).getLast?).map (·.name) := by
  rw [typeMap_eq_mergeKeys, Json.lookup_mergeKeys, List.filter_map, List.getLast?_map,
    Option.map_map]
  rfl

/-- Names as keys lead to themselves. -/
theorem typeMap_name (hnames : r.names.Nodup) :
    r.typeMap (·.name) = r.names.map fun n => (n, n) := by
  have hkeys : ((r.facts.map fun f => (f.name, f.name)).map (·.1)).Nodup := by
    rw [List.map_map]
    exact hnames
  rw [typeMap_eq_mergeKeys, Json.mergeKeys_of_nodup hkeys]
  unfold names
  rw [List.map_map]
  rfl

/-- **The listing and the map of types** after any run: names are listed once,
    by first registration since everything was last forgotten, each with the
    fact that was registered last under it; the map has the keys of the listed
    facts by first occurrence, each with the name of the last listed fact that
    has it, which may not be the one registered last; and by names it leads from
    each name to itself. -/
theorem typeMap_run_exact :
    (∀ changes,
      (run changes).facts.map (·.name) = ((Change.ingested changes).map (·.name)).eraseDups
      ∧ ((run changes).facts.map (·.name)).Nodup
      ∧ (∀ f ∈ (run changes).facts,
          ((Change.ingested changes).filter (·.name = f.name)).getLast? = some f)
      ∧ (∀ key : TypeFact → String,
          ((run changes).typeMap key).map (·.1) = ((run changes).facts.map key).eraseDups
          ∧ (((run changes).typeMap key).map (·.1)).Nodup
          ∧ ∀ entry ∈ (run changes).typeMap key,
              (((run changes).facts.filter (key · = entry.1)).getLast?).map (·.name)
                = some entry.2)
      ∧ (run changes).typeMap (·.name) = (run changes).names.map fun n => (n, n))
    ∧ ∃ (changes : List Change) (key : TypeFact → String),
        ∃ entry ∈ (run changes).typeMap key,
          (((Change.ingested changes).filter (key · = entry.1)).getLast?).map (·.name)
            ≠ some entry.2 := by
  constructor
  · intro changes
    have hnames := (coherent_run changes).nodup_names
    refine ⟨?_, hnames, ?_, ?_, typeMap_name hnames⟩
    · rw [run_eq_ofFacts]
      exact names_ofFacts _
    · intro f hf
      rw [← find?_ofFacts_eq_getLast?, ← run_eq_ofFacts]
      exact find?_of_mem_facts hnames hf
    · intro key
      have hkeys : (((run changes).typeMap key).map (·.1)).Nodup := by
        rw [typeMap_eq_mergeKeys]
        exact Json.nodup_mergeKeys _
      refine ⟨map_fst_typeMap _ key, hkeys, ?_⟩
      rintro ⟨k, name⟩ hentry
      rw [← lookup_typeMap]
      exact (Association.lookup_eq_some_iff_mem hkeys).mpr hentry
  · -- the first of two facts from one library is registered once more
    let fact (name : String) : TypeFact := { (default : TypeFact) with name }
    refine ⟨[.registerAll [fact "A", fact "B"], .register (fact "A")], (·.library), ("", "B"), ?_, ?_⟩
    · decide
    · decide

end TypeLineage.Registry
