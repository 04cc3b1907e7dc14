import Mathlib
import TypeLineage.Proofs.Registry.Agreement

/-! # Relations are counted from both ends

    A summary counts relations where they stand, in the lists of the facts.
    The reverse indexes hold them a second time, as pairs of a target and a
    dependent.  A pair stands for all places where one fact mentions one target,
    so the two counts agree exactly where no fact mentions a name twice in one
    list (`relationTotal_eq_size_iff`). -/

namespace TypeLineage

/-- The number of pairs, target by target. -/
theorem RelationIndex.WellFormed.sum_dependents {i : RelationIndex} (h : i.WellFormed) :
    (i.targets.map fun t => (i.dependentsOf t).length).sum = i.size := by
  have hbuckets : (i.buckets.map fun b => (i.dependentsOf b.1).length)
      = i.buckets.map fun b => b.2.length := by
    refine List.map_congr_left fun b hb => ?_
    unfold RelationIndex.dependentsOf
    rw [(Association.lookup_eq_some_iff_mem h.nodup_targets).mpr hb, Option.getD_some]
  rw [RelationIndex.size_eq_length_pairs]
  unfold RelationIndex.targets RelationIndex.pairs
  rw [List.map_map, List.length_flatMap]
  simp only [List.length_map]
  exact congrArg List.sum hbuckets

/-- What is counted under the word of a kind, nothing if the word is missing. -/
def Report.countOf (report : Report) (kind : RelationKind) : Count :=
  (report.relationCounts.lookup kind.word).getD (.number (.int 0))

namespace Registry

variable {r : Registry} {kind : RelationKind}

/-! ## Places and pairs -/

/-- The pairs that the facts give rise to: each target once for each fact. -/
def mentionedPairs (r : Registry) (kind : RelationKind) : List (String × String) :=
  r.facts.flatMap fun f => (f.relations kind).dedup.map (·, f.name)

theorem length_mentionedPairs (r : Registry) (kind : RelationKind) :
    (r.mentionedPairs kind).length = (r.facts.map fun f => (f.relations kind).dedup.length).sum := by
  unfold mentionedPairs
  rw [List.length_flatMap]
  simp only [List.length_map]

theorem Coherent.nodup_mentionedPairs (h : r.Coherent) (kind : RelationKind) :
    (r.mentionedPairs kind).Nodup := by
  unfold mentionedPairs
  rw [List.nodup_flatMap]
  refine ⟨fun f _ => (List.nodup_dedup _).map fun _ _ heq => (Prod.mk.inj heq).1, ?_⟩
  refine (List.pairwise_map.mp h.nodup_names).imp ?_
  intro f g hne p hf hg
  obtain ⟨t, -, rfl⟩ := List.mem_map.mp hf
  obtain ⟨u, -, hu⟩ := List.mem_map.mp hg
  exact hne (Prod.mk.inj hu).2.symm

/-- An index holds the pairs of the facts. -/
theorem Coherent.size_index (h : r.Coherent) (kind : RelationKind) :
    (r.index kind).size = (r.facts.map fun f => (f.relations kind).dedup.length).sum := by
  have hwf := h.wellFormed kind
  have hperm : (r.index kind).pairs.Perm (r.mentionedPairs kind) := by
    rw [List.perm_ext_iff_of_nodup hwf.nodup_pairs (h.nodup_mentionedPairs kind)]
    rintro ⟨t, n⟩
    rw [hwf.mem_pairs, h.mem_index_iff]
    unfold mentionedPairs
    simp only [List.mem_flatMap, List.mem_map, List.mem_dedup]
    constructor
    · rintro ⟨f, hf, ht⟩
      obtain rfl := name_of_find? hf
      exact ⟨f, mem_facts_of_find? hf, t, ht, rfl⟩
    · rintro ⟨f, hf, u, hu, heq⟩
      obtain ⟨rfl, rfl⟩ := Prod.mk.inj heq
      exact ⟨f, h.mem_facts_iff.mp hf, hu⟩
  rw [RelationIndex.size_eq_length_pairs, hperm.length_eq, length_mentionedPairs]

/-- Lists lose nothing when repetitions are left out exactly if there are
    none. -/
theorem sum_length_eq_iff (lists : List (List String)) :
    (lists.map (·.length)).sum = (lists.map (·.dedup.length)).sum ↔ ∀ l ∈ lists, l.Nodup := by
  have hle (l : List String) : l.dedup.length ≤ l.length := (List.dedup_sublist l).length_le
  induction lists with
  | nil => simp
  | cons l rest ih =>
      have hrest : (rest.map (·.dedup.length)).sum ≤ (rest.map (·.length)).sum :=
        List.sum_le_sum fun l _ => hle l
      have hl : l.dedup.length = l.length ↔ l.Nodup :=
        ⟨fun h => List.dedup_eq_self.mp ((List.dedup_sublist l).eq_of_length h),
          fun h => congrArg List.length h.dedup⟩
      have hfirst := hle l
      -- of two sums that are no larger, neither can make up for the other
      rw [List.forall_mem_cons, List.map_cons, List.map_cons, List.sum_cons, List.sum_cons]
      refine Iff.trans ?_ (and_congr hl ih)
      omega

/-- The places are as many as the pairs exactly if no list of the kind repeats
    a name. -/
theorem Coherent.relationTotal_eq_size_iff (h : r.Coherent) :
    r.relationTotal kind = (r.index kind).size ↔ ∀ f ∈ r.facts, (f.relations kind).Nodup := by
  have hiff := sum_length_eq_iff (r.facts.map (·.relations kind))
  rw [List.map_map, List.map_map, List.forall_mem_map] at hiff
  rw [h.size_index]
  unfold relationTotal
  rw [List.length_flatMap]
  exact hiff

theorem relationTotal_superclass (r : Registry) :
    r.relationTotal .superclass = (Statistics.ofFacts r.facts).withSuperclass := by
  show (r.facts.flatMap fun f => f.superclass.toList).length = r.facts.countP (·.superclass.isSome)
  induction r.facts with
  | nil => rfl
  | cons f rest ih =>
      rw [List.flatMap_cons, List.length_append, ih, List.countP_cons, Nat.add_comm]
      cases f.superclass <;> rfl

/-! ## The counts of a summary -/

theorem mem_relationKinds_iff : kind ∈ r.relationKinds ↔ ∃ f ∈ r.facts, f.relations kind ≠ [] := by
  unfold relationKinds
  rw [List.mem_eraseDups, List.mem_flatMap]
  refine exists_congr fun f => and_congr_right fun _ => ?_
  rw [List.mem_filter, and_iff_right (mem_all kind), Bool.not_eq_true', List.isEmpty_eq_false_iff]

/-- A kind is left out where there is nothing to count. -/
theorem countOf_summarize (report : Report) (r : Registry) (kind : RelationKind) :
    (report.summarize r).countOf kind = .number (.int (r.relationTotal kind)) := by
  show (r.relationCounts.lookup kind.word).getD _ = _
  by_cases hkind : kind ∈ r.relationKinds
  · have hmem : (kind.word, Count.number (.int (r.relationTotal kind))) ∈ r.relationCounts :=
      List.mem_map_of_mem hkind
    rw [(Association.lookup_eq_some_iff_mem (nodup_relationCounts r)).mpr hmem, Option.getD_some]
  · have hnone : r.relationCounts.lookup kind.word = none := by
      rw [List.lookup_eq_none_iff]
      intro p hp
      obtain ⟨other, hother, rfl⟩ := List.mem_map.mp hp
      exact bne_iff_ne.mpr fun heq => hkind (word_injective heq ▸ hother)
    have hzero : r.relationTotal kind = 0 := by
      unfold relationTotal
      rw [List.length_eq_zero_iff, List.flatMap_eq_nil_iff]
      intro f hf
      by_contra hne
      exact hkind (mem_relationKinds_iff.mpr ⟨f, hf, hne⟩)
    rw [hnone, hzero]
    rfl

/-- **Both ends count alike** after any run: the count of every kind in a
    summary is the number of dependents of all targets exactly if no registered
    fact repeats a name among its interfaces or among its mixins.  The count of
    the superclasses is that number in any case, and is in the statistics. -/
theorem summarize_run_counts (changes : List Change) (report : Report) :
    let r := run changes
    let summary := report.summarize r
    let related (kind : RelationKind) : Nat :=
      ((r.index kind).targets.map fun t => ((r.index kind).dependentsOf t).length).sum
    ((∀ kind, summary.countOf kind = .number (.int (related kind)))
      ↔ ∀ f ∈ r.facts, f.interfaces.Nodup ∧ f.mixins.Nodup)
    ∧ summary.countOf .superclass = .number (.int (related .superclass))
    ∧ summary.countOf .superclass = .number (.int summary.statistics.withSuperclass) := by
  intro r summary related
  have h : r.Coherent := coherent_run changes
  have hcount (kind : RelationKind) : summary.countOf kind = .number (.int (related kind))
      ↔ ∀ f ∈ r.facts, (f.relations kind).Nodup := by
    have hrelated : related kind = (r.index kind).size := (h.wellFormed kind).sum_dependents
    rw [hrelated, countOf_summarize, ← h.relationTotal_eq_size_iff, Count.number.injEq,
      JsonNumber.int.injEq]
    exact Int.ofNat_inj
  have hsuperclass (f : TypeFact) : (f.relations .superclass).Nodup := by
    show f.superclass.toList.Nodup
    cases f.superclass <;> simp
  refine ⟨?_, (hcount .superclass).mpr fun f _ => hsuperclass f, ?_⟩
  · rw [forall_congr' hcount]
    constructor
    · exact fun hall f hf => ⟨hall .interface f hf, hall .mixin f hf⟩
    · intro hall kind f hf
      cases kind with
      | superclass => exact hsuperclass f
      | interface => exact (hall f hf).1
      | mixin => exact (hall f hf).2
  · rw [countOf_summarize, relationTotal_superclass]
    rfl

/-- A repeated mixin is counted twice in the summary and once in the index. -/
example :
    let r := ofFacts [{ (default : TypeFact) with name := "A", mixins := ["M", "M"] }]
    ((Report.empty "" "" "" "").summarize r).countOf .mixin = .number (.int 2)
    ∧ (r.index .mixin).buckets = [("M", ["A"])] := by
  decide

end Registry

end TypeLineage
