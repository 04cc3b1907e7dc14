import TypeLineage.Proofs.Registry.Cycle
import TypeLineage.Report.Diagnosis

/-! # What a registry is found to tolerate

    A diagnosis goes through the registered facts and through the cycles of
    superclasses.  Nothing is found exactly where every name that is mentioned
    is registered and no superclass leads back. -/

namespace TypeLineage.Registry

variable {r : Registry} {f : TypeFact} {finding : Finding}

theorem danglingOf_eq_nil_iff :
    r.danglingOf f = [] ↔ ∀ kind, ∀ target ∈ f.relations kind, r.has target = true := by
  unfold danglingOf
  rw [List.flatMap_eq_nil_iff]
  constructor
  · intro h kind target htarget
    have hnone := List.filter_eq_nil_iff.mp (List.map_eq_nil_iff.mp (h kind (mem_all kind)))
    simpa using hnone target htarget
  · intro h kind _
    refine List.map_eq_nil_iff.mpr (List.filter_eq_nil_iff.mpr fun target htarget => ?_)
    simp [h kind target htarget]

/-- A cycle has members. -/
theorem exists_mem_of_mem_superclassCycles {c : List String} (hc : c ∈ r.superclassCycles) :
    ∃ n, n ∈ c := by
  have hsound := (collects_superclassCycles r).sound c (Text.mem_sortByUnits.mp hc)
  obtain ⟨-, first, rest, rfl, -⟩ := hsound.1.1
  exact ⟨first, List.mem_cons_self⟩

/-- No name leads back to itself where there is no cycle. -/
theorem superclassCycles_eq_nil_iff :
    r.superclassCycles = [] ↔ ∀ n, ¬ Relation.TransGen (Cycle.Up r.superclassOf?) n n := by
  constructor
  · intro h n hback
    obtain ⟨c, hc, -⟩ := exists_cycle_iff.mpr hback
    exact nomatch h ▸ hc
  · intro h
    refine List.eq_nil_iff_forall_not_mem.mpr fun c hc => ?_
    obtain ⟨n, hn⟩ := exists_mem_of_mem_superclassCycles hc
    exact h n (exists_cycle_iff.mp ⟨c, hc, hn⟩)

theorem diagnose_eq_nil_iff :
    r.diagnose = []
      ↔ (∀ f ∈ r.facts, ∀ kind, ∀ target ∈ f.relations kind, r.has target = true)
        ∧ ∀ n, ¬ Relation.TransGen (Cycle.Up r.superclassOf?) n n := by
  unfold diagnose TypeFact.sortByName
  rw [List.append_eq_nil_iff, List.flatMap_eq_nil_iff, List.map_eq_nil_iff,
    superclassCycles_eq_nil_iff]
  simp only [Text.mem_sortByUnits, danglingOf_eq_nil_iff]

theorem isProblem_of_mem_diagnose (h : finding ∈ r.diagnose) : finding.isProblem = true := by
  rcases List.mem_append.mp h with h | h
  · obtain ⟨f, -, h⟩ := List.mem_flatMap.mp h
    obtain ⟨kind, -, h⟩ := List.mem_flatMap.mp h
    obtain ⟨target, -, rfl⟩ := List.mem_map.mp h
    rfl
  · obtain ⟨cycle, -, rfl⟩ := List.mem_map.mp h
    rfl

end TypeLineage.Registry

/-! ## What a diagnosis lists, and in which order

    A fact mentions names at places: as its superclass, or at some position in
    its interfaces or mixins.  A diagnosis goes through the places of all facts
    and lists those whose target is not registered.  `Mention.Before` is the
    order it goes in, and no two places are alike in it, so that the listed
    places are told by what they are and by that order alone.

    The reverse indexes hold the same targets: a target is listed under a kind
    exactly if the index of the kind has it and the registry does not. -/

namespace TypeLineage

/-- Where a kind of relation stands in a fact. -/
def RelationKind.rank : RelationKind → Nat
  | .superclass => 0
  | .interface => 1
  | .mixin => 2

/-- A place where a fact mentions a name. -/
structure Registry.Mention where
  fact : TypeFact
  kind : RelationKind
  position : Nat
  target : String

namespace Registry.Mention

/-- The fact is registered, and the target stands at the place. -/
structure StandsIn (m : Mention) (r : Registry) : Prop where
  registered : r.find? m.fact.name = some m.fact
  mentioned : (m.fact.relations m.kind)[m.position]? = some m.target

/-- By the names of the types, then by the kinds, then by the positions. -/
inductive Before (a b : Mention) : Prop where
  | name (h : Text.precedes a.fact.name b.fact.name = true)
  | kind (hfact : a.fact.name = b.fact.name) (h : a.kind.rank < b.kind.rank)
  | position (hfact : a.fact.name = b.fact.name) (hkind : a.kind = b.kind)
      (h : a.position < b.position)

/-- The finding about a target that is not registered. -/
def finding (m : Mention) : Finding := Registry.danglingFinding m.fact m.kind m.target

/-- The places of one kind in a fact. -/
def inFact (f : TypeFact) (kind : RelationKind) : List Mention :=
  (f.relations kind).zipIdx.map fun (target, i) => ⟨f, kind, i, target⟩

/-! ## The places of one fact -/

section

variable {f : TypeFact} {kind : RelationKind} {m : Mention}

theorem mem_inFact_iff :
    m ∈ inFact f kind ↔
      m.fact = f ∧ m.kind = kind ∧ (f.relations kind)[m.position]? = some m.target := by
  unfold inFact
  rw [List.mem_map]
  constructor
  · rintro ⟨⟨target, i⟩, hmem, rfl⟩
    exact ⟨rfl, rfl, List.mk_mem_zipIdx_iff_getElem?.mp hmem⟩
  · obtain ⟨fact, kind', i, target⟩ := m
    rintro ⟨rfl, rfl, h⟩
    exact ⟨(target, i), List.mk_mem_zipIdx_iff_getElem?.mpr h, rfl⟩

theorem inFact_pairwise (f : TypeFact) (kind : RelationKind) :
    (inFact f kind).Pairwise Before := by
  unfold inFact
  rw [List.pairwise_map]
  have hpositions : ((f.relations kind).zipIdx.map Prod.snd).Pairwise (· < ·) := by
    rw [List.zipIdx_map_snd]
    exact List.pairwise_lt_range'
  exact (List.pairwise_map.mp hpositions).imp fun h => .position rfl rfl h

theorem rank_pairwise_all : RelationKind.all.Pairwise fun k l => k.rank < l.rank := by decide

/-- In one fact the kinds follow one another. -/
theorem flatMap_inFact_pairwise (f : TypeFact) :
    (RelationKind.all.flatMap (inFact f)).Pairwise Before := by
  rw [List.pairwise_flatMap]
  refine ⟨fun kind _ => inFact_pairwise f kind, rank_pairwise_all.imp ?_⟩
  intro k l hkl a ha b hb
  obtain ⟨hfa, rfl, -⟩ := mem_inFact_iff.mp ha
  obtain ⟨hfb, rfl, -⟩ := mem_inFact_iff.mp hb
  exact .kind (congrArg (·.name) (hfa.trans hfb.symm)) hkl

end

end Registry.Mention

namespace Registry

open Mention

variable {r : Registry} {m : Mention}

/-! ## The places of all facts -/

/-- All places, in the order of a diagnosis. -/
def mentions (r : Registry) : List Mention :=
  (TypeFact.sortByName r.facts).flatMap fun f => RelationKind.all.flatMap (inFact f)

/-- The places whose target is not registered. -/
def danglings (r : Registry) : List Mention := r.mentions.filter (!r.has ·.target)

theorem danglingOf_eq (r : Registry) (f : TypeFact) :
    r.danglingOf f
      = ((RelationKind.all.flatMap (inFact f)).filter (!r.has ·.target)).map Mention.finding := by
  unfold danglingOf
  rw [List.filter_flatMap, List.map_flatMap]
  refine List.flatMap_congr fun kind _ => ?_
  -- the targets of the places are the names in the list
  have htargets : (inFact f kind).map (·.target) = f.relations kind := by
    unfold inFact
    rw [List.map_map]
    exact List.zipIdx_map_fst 0 _
  rw [← htargets, List.filter_map, List.map_map]
  refine List.map_congr_left fun m hm => ?_
  obtain ⟨rfl, rfl, -⟩ := mem_inFact_iff.mp (List.mem_of_mem_filter hm)
  rfl

theorem diagnose_eq (r : Registry) :
    r.diagnose = r.danglings.map Mention.finding ++ r.superclassCycles.map cycleFinding := by
  unfold diagnose danglings mentions
  rw [List.filter_flatMap, List.map_flatMap, List.flatMap_congr fun f _ => r.danglingOf_eq f]

namespace Coherent

theorem mem_mentions_iff (h : r.Coherent) : m ∈ r.mentions ↔ m.StandsIn r := by
  unfold mentions TypeFact.sortByName
  rw [List.mem_flatMap]
  constructor
  · rintro ⟨f, hf, hm⟩
    obtain ⟨kind, -, hm⟩ := List.mem_flatMap.mp hm
    obtain ⟨rfl, rfl, htarget⟩ := mem_inFact_iff.mp hm
    exact ⟨h.mem_facts_iff.mp (Text.mem_sortByUnits.mp hf), htarget⟩
  · rintro ⟨hregistered, hmentioned⟩
    refine ⟨m.fact, Text.mem_sortByUnits.mpr (h.mem_facts_iff.mpr hregistered), ?_⟩
    exact List.mem_flatMap.mpr ⟨m.kind, mem_all m.kind, mem_inFact_iff.mpr ⟨rfl, rfl, hmentioned⟩⟩

/-- Places of different facts come in the order of the facts' names. -/
theorem mentions_pairwise (h : r.Coherent) : r.mentions.Pairwise Before := by
  unfold mentions
  rw [List.pairwise_flatMap]
  refine ⟨fun f _ => flatMap_inFact_pairwise f, (Text.sortByUnits_ascending h.nodup_names).imp ?_⟩
  intro f g hfg a ha b hb
  obtain ⟨k, -, ha⟩ := List.mem_flatMap.mp ha
  obtain ⟨l, -, hb⟩ := List.mem_flatMap.mp hb
  obtain ⟨rfl, -⟩ := mem_inFact_iff.mp ha
  obtain ⟨rfl, -⟩ := mem_inFact_iff.mp hb
  exact .name hfg

theorem mem_danglings_iff (h : r.Coherent) :
    m ∈ r.danglings ↔ m.StandsIn r ∧ r.has m.target = false := by
  unfold danglings
  rw [List.mem_filter, h.mem_mentions_iff, Bool.not_eq_true']

/-! ## The targets of a kind -/

/-- What an index lists, some registered fact mentions. -/
theorem mem_targets_iff (h : r.Coherent) {kind : RelationKind} {t : String} :
    t ∈ (r.index kind).targets ↔ ∃ m : Mention, m.StandsIn r ∧ m.kind = kind ∧ m.target = t := by
  rw [(h.wellFormed kind).mem_targets_iff]
  constructor
  · rintro ⟨n, hn⟩
    obtain ⟨f, hf, ht⟩ := (h.mem_index_iff kind t n).mp hn
    obtain rfl := name_of_find? hf
    obtain ⟨i, hi⟩ := List.mem_iff_getElem?.mp ht
    exact ⟨⟨f, kind, i, t⟩, ⟨hf, hi⟩, rfl, rfl⟩
  · rintro ⟨m, hm, rfl, rfl⟩
    exact ⟨m.fact.name, (h.mem_index_iff _ _ _).mpr
      ⟨m.fact, hm.registered, List.mem_of_getElem? hm.mentioned⟩⟩

/-- A diagnosis finds the targets of an index that are not registered. -/
theorem exists_finding_iff (h : r.Coherent) {kind : RelationKind} {t : String} :
    (∃ finding ∈ r.diagnose, finding.kind = .dangling kind ∧ finding.target = t)
      ↔ t ∈ (r.index kind).targets ∧ r.has t = false := by
  rw [h.mem_targets_iff, diagnose_eq]
  constructor
  · rintro ⟨finding, hmem, hkind, htarget⟩
    rcases List.mem_append.mp hmem with hmem | hmem
    · obtain ⟨m, hm, rfl⟩ := List.mem_map.mp hmem
      obtain ⟨hstands, hmissing⟩ := h.mem_danglings_iff.mp hm
      obtain rfl : m.target = t := htarget
      exact ⟨⟨m, hstands, FindingKind.dangling.inj hkind, rfl⟩, hmissing⟩
    · obtain ⟨cycle, -, rfl⟩ := List.mem_map.mp hmem
      exact nomatch hkind
  · rintro ⟨⟨m, hstands, rfl, rfl⟩, hmissing⟩
    have hm := h.mem_danglings_iff.mpr ⟨hstands, hmissing⟩
    exact ⟨m.finding, List.mem_append_left _ (List.mem_map_of_mem hm), rfl, rfl⟩

end Coherent

/-- **A diagnosis is exact** after any run: into an empty report go first the
    findings about the places whose target is not registered, one for each
    place and in their order, and then one finding for each cycle.  The targets
    of a kind are those of its reverse index that are not registered, and there
    is no finding exactly if all that is mentioned is registered and no
    superclass leads back to where it comes from. -/
theorem diagnose_run_exact (changes : List Change) (toolName toolVersion source now : String) :
    let r := run changes
    let report := (Report.empty toolName toolVersion source now).addAll r.diagnose
    (∃ places : List Mention,
      places.Pairwise Before
      ∧ (∀ m, m ∈ places ↔ m.StandsIn r ∧ r.has m.target = false)
      ∧ report.findings = places.map Mention.finding ++ r.superclassCycles.map cycleFinding)
    ∧ (∀ kind t, (∃ finding ∈ report.findings, finding.kind = .dangling kind ∧ finding.target = t)
        ↔ t ∈ (r.index kind).targets ∧ r.has t = false)
    ∧ (report.findings = []
        ↔ (∀ f ∈ r.facts, ∀ kind, ∀ target ∈ f.relations kind, r.has target = true)
          ∧ ∀ n, ¬ Relation.TransGen (Cycle.Up r.superclassOf?) n n) := by
  intro r report
  have h : r.Coherent := coherent_run changes
  have hfindings : report.findings = r.diagnose := List.nil_append _
  rw [hfindings]
  refine ⟨⟨r.danglings, ?_, fun m => h.mem_danglings_iff, diagnose_eq r⟩,
    fun kind t => h.exists_finding_iff, diagnose_eq_nil_iff⟩
  exact h.mentions_pairwise.sublist List.filter_sublist

/-- A fact that mentions a name twice is found twice, and after its superclass. -/
example :
    let fact : TypeFact :=
      { (default : TypeFact) with name := "B", superclass := some "X", interfaces := ["Y", "B", "Y"] }
    (ofFacts [fact]).diagnose.map (·.message)
      = ["B extends unregistered type X", "B implements unregistered type Y",
        "B implements unregistered type Y"] := by
  decide +kernel

end Registry

end TypeLineage
