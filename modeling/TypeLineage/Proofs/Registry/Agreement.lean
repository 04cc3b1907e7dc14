import TypeLineage.Registry.Query
import TypeLineage.Registry.Snapshot
import TypeLineage.Report.Diagnosis
import TypeLineage.Proofs.Registry.Lookup

/-! # The order of registration is forgotten

    Two runs that leave the same fact under every name may keep their facts,
    their buckets and the names in them in different orders.  No answer shows
    it: the facts are the same up to order, the indexes hold the same pairs,
    and every answer either sorts by names, which no two facts share, or
    counts.

    The type map is left out, since it lists the facts as they came. -/

namespace TypeLineage.Registry

/-! ## Kinds of relation are counted once -/

theorem word_injective {k l : RelationKind} (h : k.word = l.word) : k = l := by
  cases k <;> cases l <;> first | rfl | exact absurd h (by decide)

theorem nodup_eraseDups : ∀ kinds : List RelationKind, kinds.eraseDups.Nodup
  | [] => List.nodup_nil
  | k :: rest => by
      rw [List.eraseDups_cons, List.nodup_cons, List.mem_eraseDups]
      refine ⟨?_, nodup_eraseDups _⟩
      intro hmem
      have hne := (List.mem_filter.mp hmem).2
      rw [beq_self_eq_true] at hne
      exact nomatch hne
termination_by kinds => kinds.length
decreasing_by exact Nat.lt_succ_of_le (List.length_filter_le _ _)

theorem nodup_relationCounts (r : Registry) : (r.relationCounts.map (·.1)).Nodup := by
  unfold relationCounts
  rw [List.map_map]
  refine List.pairwise_map.mpr (List.Pairwise.imp ?_ (nodup_eraseDups _))
  exact fun hne heq => hne (word_injective heq)

/-! ## Answers -/

/-- Answers that do not tell two registries apart. -/
structure SameAnswers (r s : Registry) : Prop where
  subclassesOf : ∀ base, r.subclassesOf base = s.subclassesOf base
  implementersOf : ∀ base, r.implementersOf base = s.implementersOf base
  mixinUsersOf : ∀ base, r.mixinUsersOf base = s.mixinUsersOf base
  findByAnyBase : ∀ bases, r.findByAnyBase bases = s.findByAnyBase bases
  descendantsOf : ∀ base, r.descendantsOf base = s.descendantsOf base
  findByGenericArgument : ∀ base param argument,
    r.findByGenericArgument base param argument = s.findByGenericArgument base param argument
  filter : ∀ p, r.filter p = s.filter p
  renderHierarchy : ∀ root, r.renderHierarchy root = s.renderHierarchy root
  superclassCycles : r.superclassCycles = s.superclassCycles
  diagnose : r.diagnose = s.diagnose
  statistics : ∀ report : Report,
    (report.summarize r).statistics = (report.summarize s).statistics
  /-- As a map: the kinds may be listed in the order they came in. -/
  relationCounts : ∀ (report : Report) (word : String),
    (report.summarize r).relationCounts.lookup word
      = (report.summarize s).relationCounts.lookup word
  write : ∀ indent, r.snapshot.write indent = s.snapshot.write indent
  query : ∀ word arguments, word ≠ Operation.typeMap.word →
    r.query word arguments = s.query word arguments

/-- Two coherent registries with the same fact under every name. -/
structure Agree (r s : Registry) : Prop where
  left : r.Coherent
  right : s.Coherent
  find?_eq : r.find? = s.find?

namespace Agree

variable {r s : Registry}

/-! ## What is kept -/

theorem facts_perm (h : Agree r s) : r.facts.Perm s.facts := by
  rw [List.perm_ext_iff_of_nodup h.left.nodup_facts h.right.nodup_facts]
  intro f
  rw [h.left.mem_facts_iff, h.right.mem_facts_iff, h.find?_eq]

theorem names_perm (h : Agree r s) : r.names.Perm s.names :=
  h.facts_perm.map _

theorem size_eq (h : Agree r s) : r.size = s.size :=
  h.facts_perm.length_eq

theorem has_eq (h : Agree r s) : r.has = s.has := by
  funext n
  unfold has
  rw [h.find?_eq]

theorem index_size_eq (h : Agree r s) (k : RelationKind) :
    (r.index k).size = (s.index k).size := by
  refine (h.left.wellFormed k).size_eq (h.right.wellFormed k) fun t d => ?_
  rw [h.left.mem_index_iff, h.right.mem_index_iff, h.find?_eq]

/-! ## What is looked up -/

theorem filter_eq (h : Agree r s) (p : TypeFact → Bool) : r.filter p = s.filter p :=
  Text.sortByUnits_eq_of_perm (h.facts_perm.filter p)
    ((List.filter_sublist.map _).nodup h.left.nodup_names)

theorem dependents_eq (h : Agree r s) (k : RelationKind) (t : String) :
    r.dependents k t = s.dependents k t := by
  have hp : ∀ f : TypeFact, (f.relations k).contains t = true ↔ t ∈ f.relations k :=
    fun f => List.contains_iff_mem
  rw [h.left.dependents_eq_filter _ hp, h.right.dependents_eq_filter _ hp, h.filter_eq]

theorem findByAnyBase_eq (h : Agree r s) (bases : List String) :
    r.findByAnyBase bases = s.findByAnyBase bases := by
  rw [h.left.findByAnyBase_eq_filter, h.right.findByAnyBase_eq_filter, h.filter_eq]

theorem descendantsOf_eq (h : Agree r s) (base : String) :
    r.descendantsOf base = s.descendantsOf base := by
  have hinh : r.Inherits = s.Inherits := by
    unfold Inherits
    rw [h.find?_eq]
  -- the walks may find the names in different orders
  refine (h.left.descendantsOf_ascending base).ext (h.right.descendantsOf_ascending base) ?_
  intro f
  rw [h.left.mem_descendantsOf, h.right.mem_descendantsOf, hinh, h.find?_eq]

/-! ## What is drawn and diagnosed -/

theorem subclassNames_eq (h : Agree r s) : r.subclassNames = s.subclassNames := by
  funext base
  unfold subclassNames subclassesOf
  rw [h.dependents_eq]

theorem renderHierarchy_eq (h : Agree r s) (root : String) :
    r.renderHierarchy root = s.renderHierarchy root := by
  have hsize : r.subclasses.size = s.subclasses.size := h.index_size_eq .superclass
  unfold renderHierarchy hierarchyLines
  rw [h.has_eq, h.subclassNames_eq, hsize]

theorem superclassCycles_eq (h : Agree r s) : r.superclassCycles = s.superclassCycles := by
  have hparent : r.superclassOf? = s.superclassOf? := by
    funext n
    unfold superclassOf?
    rw [h.find?_eq]
  have hnames : Text.sorted r.names = Text.sorted s.names := by
    refine Text.sortByUnits_eq_of_perm h.names_perm ?_
    rw [List.map_id]
    exact h.left.nodup_names
  unfold superclassCycles
  rw [hparent, hnames, h.size_eq]

theorem diagnose_eq (h : Agree r s) : r.diagnose = s.diagnose := by
  have hfacts : TypeFact.sortByName r.facts = TypeFact.sortByName s.facts :=
    Text.sortByUnits_eq_of_perm h.facts_perm h.left.nodup_names
  have hdangling : r.danglingOf = s.danglingOf := by
    funext f
    unfold danglingOf
    rw [h.has_eq]
  unfold diagnose
  rw [hfacts, hdangling, h.superclassCycles_eq]

/-! ## What is counted -/

theorem statistics_eq (h : Agree r s) :
    Statistics.ofFacts r.facts = Statistics.ofFacts s.facts := by
  have hperm := h.facts_perm
  unfold Statistics.ofFacts
  rw [hperm.length_eq, hperm.countP_eq, hperm.countP_eq, hperm.countP_eq, hperm.countP_eq]

theorem relationTotal_eq (h : Agree r s) : r.relationTotal = s.relationTotal := by
  funext k
  exact (h.facts_perm.flatMap_right _).length_eq

theorem relationKinds_perm (h : Agree r s) : r.relationKinds.Perm s.relationKinds := by
  unfold relationKinds
  rw [List.perm_ext_iff_of_nodup (nodup_eraseDups _) (nodup_eraseDups _)]
  intro k
  rw [List.mem_eraseDups, List.mem_eraseDups, List.mem_flatMap, List.mem_flatMap]
  exact exists_congr fun f => and_congr_left fun _ => h.facts_perm.mem_iff

theorem relationCounts_lookup_eq (h : Agree r s) (word : String) :
    r.relationCounts.lookup word = s.relationCounts.lookup word := by
  refine Association.lookup_eq_of_perm ?_ (nodup_relationCounts r)
  unfold relationCounts
  rw [h.relationTotal_eq]
  exact h.relationKinds_perm.map _

/-! ## What is written -/

theorem write_eq (h : Agree r s) (indent : Int) :
    r.snapshot.write indent = s.snapshot.write indent := by
  have hkeys : ((r.facts.map TypeFact.toJson).map (·.textAt "name")) = r.names := by
    rw [List.map_map]
    rfl
  have hentries : Document.sortEntries (r.facts.map TypeFact.toJson)
      = Document.sortEntries (s.facts.map TypeFact.toJson) := by
    refine Text.sortByUnits_eq_of_perm (h.facts_perm.map _) ?_
    rw [hkeys]
    exact h.left.nodup_names
  have hcanonical : r.snapshot.canonical = s.snapshot.canonical := by
    unfold snapshot Snapshot.ofFacts Snapshot.canonical
    rw [hentries, h.statistics_eq]
  unfold Snapshot.write
  rw [hcanonical]

/-! ## What is asked by name -/

theorem answer_eq (h : Agree r s) {o : Operation} (ho : o ≠ .typeMap) (arguments : List String) :
    r.answer o arguments = s.answer o arguments := by
  rcases arguments with _ | ⟨first, rest⟩
  · -- only the look-up by several bases does without an argument
    cases o with
    | anyBase => exact congrArg (List.map (·.name)) (h.findByAnyBase_eq _)
    | typeMap => exact absurd rfl ho
    | _ => rfl
  · cases o with
    | «show» => exact congrArg (fun find => ((find first).map TypeFact.details).getD []) h.find?_eq
    | subclasses => exact congrFun h.subclassNames_eq first
    | implementers => exact congrArg (List.map (·.name)) (h.dependents_eq .interface first)
    | mixin => exact congrArg (List.map (·.name)) (h.dependents_eq .mixin first)
    | anyBase => exact congrArg (List.map (·.name)) (h.findByAnyBase_eq _)
    | descendants => exact congrArg (List.map (·.name)) (h.descendantsOf_eq first)
    | generic =>
        rcases rest with _ | ⟨param, _ | ⟨argument, _⟩⟩
        · rfl
        · rfl
        · exact congrArg (List.map (·.name)) (h.filter_eq _)
    | genericArgument =>
        rcases rest with _ | ⟨base, _ | ⟨param, _⟩⟩
        · rfl
        · rfl
        · exact congrArg (fun find =>
            ((find first).bind (·.genericArgument? base param)).toList) h.find?_eq
    | tree => exact congrArg linesOf (h.renderHierarchy_eq first)
    | typeMap => exact absurd rfl ho

theorem word_of_ofWord? {word : String} {o : Operation}
    (h : Operation.ofWord? word = some o) : o.word = word := by
  have hword := List.find?_some h
  exact of_decide_eq_true hword

theorem query_eq (h : Agree r s) {word : String} (hword : word ≠ Operation.typeMap.word)
    (arguments : List String) : r.query word arguments = s.query word arguments := by
  unfold query
  cases ho : Operation.ofWord? word with
  | none => rfl
  | some o =>
      have hmap : o ≠ .typeMap := by
        rintro rfl
        exact hword (word_of_ofWord? ho).symm
      show (if _ then _ else _) = (if _ then _ else _)
      rw [h.answer_eq hmap]

/-- Registries that agree give the same answers. -/
theorem sameAnswers (h : Agree r s) : SameAnswers r s where
  subclassesOf := h.dependents_eq .superclass
  implementersOf := h.dependents_eq .interface
  mixinUsersOf := h.dependents_eq .mixin
  findByAnyBase := h.findByAnyBase_eq
  descendantsOf := h.descendantsOf_eq
  findByGenericArgument := fun _ _ _ => h.filter_eq _
  filter := h.filter_eq
  renderHierarchy := h.renderHierarchy_eq
  superclassCycles := h.superclassCycles_eq
  diagnose := h.diagnose_eq
  statistics := fun _ => h.statistics_eq
  relationCounts := fun _ => h.relationCounts_lookup_eq
  write := h.write_eq
  query := fun _ arguments hword => h.query_eq hword arguments

end Agree

/-- **The order of registration is forgotten**: two runs that leave the same
    fact under every name give the same answers. -/
theorem run_sameAnswers (first second : List Change)
    (h : ∀ n, (run first).find? n = (run second).find? n) :
    SameAnswers (run first) (run second) :=
  Agree.sameAnswers ⟨coherent_run first, coherent_run second, funext h⟩

/-- A type of which nothing but its superclass is said. -/
def bareFact (name : String) (superclass : Option String) : TypeFact :=
  { name, superclass, library := "", interfaces := [], mixins := [], typeParameters := []
    genericArguments := [], methods := [], properties := [] }

/-- A subclass before its superclass, or after it and after what it replaces:
    the facts come to lie in different orders. -/
theorem run_sameAnswers_of_swapped :
    let first : List Change :=
      [.register (bareFact "A" (some "B")), .register (bareFact "B" none)]
    let second : List Change :=
      [.registerAll [bareFact "B" none, bareFact "A" none], .register (bareFact "A" (some "B"))]
    (run first).names ≠ (run second).names
    ∧ (∀ n, (run first).find? n = (run second).find? n)
    ∧ SameAnswers (run first) (run second) := by
  intro first second
  have h : ∀ n, (run first).find? n = (run second).find? n := by
    intro n
    -- what is asked for is decided by the facts ingested last, latest first
    rw [run_eq_ofFacts, run_eq_ofFacts, find?_ofFacts, find?_ofFacts]
    show [bareFact "B" none, bareFact "A" (some "B")].find? (·.name = n)
      = [bareFact "A" (some "B"), bareFact "A" none, bareFact "B" none].find? (·.name = n)
    by_cases hA : "A" = n
    · subst hA
      decide
    · by_cases hB : "B" = n
      · subst hB
        decide
      · simp [bareFact, hA, hB]
  exact ⟨by decide, h, run_sameAnswers first second h⟩

end TypeLineage.Registry
