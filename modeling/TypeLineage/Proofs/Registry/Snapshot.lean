import TypeLineage.Registry.Snapshot
import TypeLineage.Json.Basic
import TypeLineage.Proofs.Fact.Writing
import TypeLineage.Proofs.Registry.Lookup

/-! # A snapshot is read back

    The document that is written of a registry is accepted when it is read, and
    its facts are the registered ones, in ascending order of their names.  The
    registered facts have to be such as documents hold: an empty name, or a
    binding that is not qualified, would be written all the same and refused
    afterwards. -/

/-! ## Counts stay whole

    A natural number that is written and read again is rounded where it is too
    large to be exact.  It stays whole and does not become negative: a number of
    more than 53 bits has no fraction, and beyond the largest of them stands the
    infinity. -/

namespace TypeLineage

namespace Number.Binary64

/-- Whole and without a sign; the infinity counts as whole. -/
def IsUpward (x : Binary64) : Prop :=
  x = .infinite false ∨ ∃ m e, x = .finite false m e ∧ isWhole m e = true

theorem isUpward_zero : IsUpward (zero false) := by
  refine Or.inr ⟨0, leastExponent, rfl, ?_⟩
  simp [isWhole]

/-- A carry into another bit leaves no fraction either. -/
theorem isUpward_carried (q : Nat) {e : Int} (he : 0 ≤ e) :
    IsUpward (
      let (q, e) := if q = Nat.pow 2 53 then (Nat.pow 2 52, e + 1) else (q, e)
      if e > greatestExponent then .infinite false else .finite false q e) := by
  have hwhole : ∀ {q : Nat} {e : Int}, 0 ≤ e →
      IsUpward (if e > greatestExponent then .infinite false else .finite false q e) := by
    intro q e he
    split
    · exact Or.inl rfl
    · exact Or.inr ⟨q, e, rfl, by simp [isWhole, he]⟩
  by_cases hq : q = Nat.pow 2 53
  · rw [if_pos hq]
    exact hwhole (Int.le_add_one he)
  · rw [if_neg hq]
    exact hwhole he

/-- What takes more than 53 bits has no fraction. -/
theorem isUpward_ofRatio {n : Nat} (h : Nat.pow 2 53 ≤ n) : IsUpward (ofRatio false n 1) := by
  have hn : ¬ n = 0 := by
    rintro rfl
    exact absurd h (by decide)
  have hlog : 53 ≤ Nat.log2 n := (Nat.le_log2 hn).mpr h
  have hone : Nat.log2 1 = 0 := rfl
  -- the exponent is at least the guess less one, whatever the guess was worth
  have hexponent : ∀ (c : Prop) [Decidable c], 0 ≤ max (if c then (Nat.log2 n : Int) - 0 - 52 - 1
      else (Nat.log2 n : Int) - 0 - 52) leastExponent := by
    intro c _
    split <;> omega
  unfold ofRatio
  rw [if_neg hn, hone]
  exact isUpward_carried _ (hexponent _)

theorem isUpward_ofDecimal {n : Nat} (h : Nat.pow 2 53 ≤ n) : IsUpward (ofDecimal false n 0) := by
  have hn : ¬ n = 0 := by
    rintro rfl
    exact absurd h (by decide)
  unfold ofDecimal
  rw [if_neg hn]
  dsimp only
  split
  · exact Or.inl rfl
  · split
    · exact isUpward_zero
    · rw [if_pos (Int.le_refl 0)]
      show IsUpward (ofRatio false (n * 1) 1)
      rw [Nat.mul_one]
      exact isUpward_ofRatio h

end Number.Binary64

namespace JsonNumber

open Number.Binary64

theorem isNegative_natCast (n : Nat) : (JsonNumber.int n).isNegative = false :=
  decide_eq_false (Int.not_lt.mpr (Int.natCast_nonneg n))

theorem ofBinary64_whole {x : Number.Binary64} (h : IsUpward x) :
    (ofBinary64 x).isWhole = true ∧ (ofBinary64 x).isNegative = false := by
  rcases h with rfl | ⟨m, e, rfl, hwhole⟩
  · exact ⟨rfl, rfl⟩
  · unfold ofBinary64
    dsimp only
    split
    · exact ⟨rfl, isNegative_natCast _⟩
    · exact ⟨hwhole, rfl⟩

/-- A count that is written is read as one. -/
theorem ofDecimal_whole (n : Nat) :
    (ofDecimal false n 0).isWhole = true ∧ (ofDecimal false n 0).isNegative = false := by
  unfold ofDecimal
  by_cases h : n < safeLimit
  · rw [if_pos ⟨rfl, h, fun hzero => nomatch hzero.1⟩]
    exact ⟨rfl, isNegative_natCast n⟩
  · rw [if_neg fun hsafe => h hsafe.2.1]
    exact ofBinary64_whole (isUpward_ofDecimal (Nat.le_of_not_lt h))

end JsonNumber

end TypeLineage

namespace TypeLineage

open Document Json

/-! ## The facts of documents -/

/-- The facts are equal, where bindings are equal if they bind the same keys to
    the same texts. -/
structure TypeFact.Same (f g : TypeFact) : Prop where
  name : g.name = f.name
  library : g.library = f.library
  superclass : g.superclass = f.superclass
  interfaces : g.interfaces = f.interfaces
  mixins : g.mixins = f.mixins
  typeParameters : g.typeParameters = f.typeParameters
  genericArguments : ∀ key, g.genericArguments.lookup key = f.genericArguments.lookup key
  methods : g.methods = f.methods
  properties : g.properties = f.properties

/-- Some accepted document holds the fact. -/
def TypeFact.FromDocument (f : TypeFact) : Prop :=
  ∃ v facts, v.DistinctKeys ∧ Document.parse v = .ok facts ∧ f ∈ facts

/-- The facts that a text gives come from a document. -/
theorem TypeFact.fromDocument_of_ofText {text : String} {facts : List TypeFact} {f : TypeFact}
    (h : Document.ofText text = .ok facts) (hf : f ∈ facts) : f.FromDocument := by
  obtain ⟨v, hv, hparse⟩ := ofText_eq_ok_iff.mp h
  exact ⟨v, facts, distinctKeys_of_parse? hv, hparse, hf⟩

theorem TypeFact.FromDocument.sound {f : TypeFact} (h : f.FromDocument) : f.Sound := by
  obtain ⟨v, facts, hkeys, hparse, hmem⟩ := h
  obtain ⟨hdoc, rfl⟩ := parse_eq_ok_iff.mp hparse
  obtain ⟨_, htypes, entries, rfl, hall⟩ := hdoc.types
  unfold Document.facts at hmem
  rw [htypes] at hmem
  obtain ⟨entry, hentry, rfl⟩ := List.mem_map.mp hmem
  cases hkeys.get? htypes with
  | array hdistinct => exact sound_ofJson (hall entry hentry) (hdistinct entry hentry)

/-- The facts of documents are the sound ones: the entry of a sound fact is a
    document of it. -/
theorem TypeFact.fromDocument_iff_sound {f : TypeFact} : f.FromDocument ↔ f.Sound := by
  refine ⟨FromDocument.sound, fun hs => ?_⟩
  have hread : ofJson f.toJson = f := (describes_toJson f).ofJson_eq hs.superclass
  have hdoc : IsDocument IsCount (.object [("types", .array [f.toJson])]) :=
    { declared := ⟨_, rfl, List.forall_mem_singleton.mpr (by simp)⟩
      schema := optional_of_none rfl
      types := ⟨_, rfl, _, rfl, List.forall_mem_singleton.mpr
        ((isFact_toJson_iff hs.distinct).mpr hs)⟩
      statistics := optional_of_none rfl }
  have hkeys : Json.DistinctKeys (.object [("types", .array [f.toJson])]) :=
    .object (by simp) (List.forall_mem_singleton.mpr
      (.array (List.forall_mem_singleton.mpr (f.distinctKeys_toJson hs.distinct))))
  refine ⟨_, [ofJson f.toJson], hkeys, parse_eq_ok_iff.mpr ⟨hdoc, rfl⟩, ?_⟩
  rw [hread]
  exact List.mem_singleton_self f

/-! ## The value that is written -/

namespace Registry

variable {r : Registry}

/-- The members of the document of a registry. -/
def documentMembers (r : Registry) : List (String × Json) := [
  ("schema", .string formatName),
  ("types", .array ((TypeFact.sortByName r.facts).map TypeFact.toJson)),
  ("statistics", (Statistics.ofFacts r.facts).toJson)]

theorem write_eq_stableText (r : Registry) (indent : Int) :
    r.snapshot.write indent = stableText (.object r.documentMembers) indent := by
  unfold documentMembers
  rw [map_toJson_sortByName]
  rfl

theorem documentMembers_eq (r : Registry) : r.documentMembers
    = membersOf (TypeFact.sortByName r.facts) (some (Statistics.ofFacts r.facts).toJson) :=
  rfl

theorem integral_statistics (s : Statistics) : Integral s.toJson :=
  .object (List.forall_mem_map.mpr fun row _ => .int row.2)

/-! ## The value that is read -/

theorem isCount_settled (n : Nat) : IsCount (settled (ofNat n)) := by
  have hwhole := whole_nonnegative_iff.mp (JsonNumber.ofDecimal_whole n)
  have hnonneg : decide ((n : Int) < 0) = false :=
    decide_eq_false (Int.not_lt.mpr (Int.natCast_nonneg n))
  have hsettled : settled (ofNat n) = .number (JsonNumber.ofDecimal false n 0) := by
    show Json.number (JsonNumber.ofDecimal (decide ((n : Int) < 0)) (n : Int).natAbs 0) = _
    rw [hnonneg, Int.natAbs_natCast]
  rw [hsettled]
  rcases hwhole with ⟨k, hk⟩ | hinf
  · exact Or.inl ⟨_, k, rfl, hk⟩
  · exact Or.inr (congrArg Json.number hinf)

theorem isCounts_settled (s : Statistics) : IsMapOf IsCount (settled s.toJson) := by
  have hnd : ((s.rows.map fun row => (row.1, ofNat row.2)).map (·.1)).Nodup := by
    show List.Nodup ["totalTypes", "withSuperclass", "withInterfaces", "withMixins", "generic"]
    decide
  obtain ⟨written, heq, hperm⟩ := exists_settled_object hnd
  refine ⟨written, heq, fun m hm => ?_⟩
  obtain ⟨x, hx, rfl⟩ := List.mem_map.mp (hperm.mem_iff.mp hm)
  obtain ⟨row, -, rfl⟩ := List.mem_map.mp (List.mem_filter.mp hx).1
  exact isCount_settled row.2

theorem ofText_write (h : ∀ f ∈ r.facts, f.Sound) (indent : Int) :
    Document.ofText (r.snapshot.write indent)
      = .ok ((TypeFact.sortByName r.facts).map fun f => TypeFact.ofJson (settled f.toJson)) := by
  have hintegral := integral_statistics (Statistics.ofFacts r.facts)
  have hcounts := isCounts_settled (Statistics.ofFacts r.facts)
  rw [write_eq_stableText, documentMembers_eq, ofText_stableText_eq_ok_iff
    (fun _ hs => Option.some.inj hs ▸ hintegral) (fun _ hs => Option.some.inj hs ▸ hcounts)]
  exact ⟨fun f hf => TypeFact.isFact_settled (h f (Text.mem_sortByUnits.mp hf)), rfl⟩

/-! ## The facts that are read -/

theorem same_ofJson_settled {f : TypeFact} (h : f.Sound) :
    TypeFact.Same f (TypeFact.ofJson (settled f.toJson)) := by
  obtain ⟨bindings, hperm, heq⟩ := TypeFact.ofJson_settled h
  rw [heq]
  exact ⟨rfl, rfl, rfl, rfl, rfl, rfl,
    fun key => Association.lookup_eq_of_perm hperm ((hperm.map _).nodup_iff.mpr h.distinct),
    rfl, rfl⟩

theorem mem_of_mem_ofFacts {facts : List TypeFact} {f : TypeFact} (h : f ∈ (ofFacts facts).facts) :
    f ∈ facts := by
  have hfound := (coherent_ofFacts facts).mem_facts_iff.mp h
  rw [find?_ofFacts] at hfound
  exact List.mem_reverse.mp (List.mem_of_find?_eq_some hfound)

theorem mem_ingested {changes : List Change} {f : TypeFact} (h : f ∈ (run changes).facts) :
    f ∈ Change.ingested changes := by
  rw [run_eq_ofFacts] at h
  exact mem_of_mem_ofFacts h

/-- **A registry is read back from its document**: if all facts come from
    documents, the text that is written is accepted and gives the registered
    facts, each once, in strictly ascending order of their names. -/
theorem ofText_write_run (changes : List Change) (indent : Int)
    (h : ∀ f ∈ Change.ingested changes, f.FromDocument) :
    ∃ registered facts, registered.Perm (run changes).facts
      ∧ Document.ofText ((run changes).snapshot.write indent) = .ok facts
      ∧ List.Forall₂ TypeFact.Same registered facts
      ∧ Text.Ascending (·.name) facts := by
  have hsound : ∀ f ∈ (run changes).facts, f.Sound :=
    fun f hf => (h f (mem_ingested hf)).sound
  have hsorted : ∀ f ∈ TypeFact.sortByName (run changes).facts, f.Sound :=
    fun f hf => hsound f (Text.mem_sortByUnits.mp hf)
  have hascending : Text.Ascending (·.name) (TypeFact.sortByName (run changes).facts) :=
    Text.sortByUnits_ascending (coherent_run changes).nodup_names
  refine ⟨TypeFact.sortByName (run changes).facts, _, Text.sortByUnits_perm _ _,
    ofText_write hsound indent, ?_, ?_⟩
  · rw [List.forall₂_map_right_iff, List.forall₂_same]
    exact fun f hf => same_ofJson_settled (hsorted f hf)
  · -- no name is changed by reading it back
    refine List.pairwise_map.mpr (List.Pairwise.imp_of_mem ?_ hascending)
    intro f g hf hg hfg
    show Text.precedes (TypeFact.ofJson (settled f.toJson)).name
      (TypeFact.ofJson (settled g.toJson)).name = true
    rw [(same_ofJson_settled (hsorted f hf)).name, (same_ofJson_settled (hsorted g hg)).name]
    exact hfg

/-- Two types out of order, of which one binds two parameters out of order. -/
theorem ofText_write_run_of_two :
    let v : Json := .object [("types", .array [
      .object [("name", .string "B"), ("library", .string "b.ts"), ("superclass", .string "A"),
        ("genericArguments", .object [("A.U", .string "number"), ("A.T", .string "B")])],
      .object [("name", .string "A"), ("library", .string "a.ts"), ("superclass", .null)]])]
    let changes : List Change := [.registerAll (Document.facts v)]
    (∀ f ∈ Change.ingested changes, f.FromDocument)
    ∧ ∃ registered facts, registered.Perm (run changes).facts
      ∧ Document.ofText ((run changes).snapshot.write 2) = .ok facts
      ∧ List.Forall₂ TypeFact.Same registered facts
      ∧ Text.Ascending (·.name) facts := by
  intro v changes
  have hkeys : v.DistinctKeys := by
    refine .object (by decide) (List.forall_mem_singleton.mpr (.array ?_))
    simp only [List.forall_mem_cons]
    refine ⟨.object (by decide) ?_, .object (by decide) ?_, List.forall_mem_nil _⟩
    · simp only [List.forall_mem_cons]
      refine ⟨.string _, .string _, .string _, .object (by decide) ?_, List.forall_mem_nil _⟩
      simp only [List.forall_mem_cons]
      exact ⟨.string _, .string _, List.forall_mem_nil _⟩
    · simp only [List.forall_mem_cons]
      exact ⟨.string _, .string _, .null, List.forall_mem_nil _⟩
  have hparse : Document.parse v = .ok (Document.facts v) := rfl
  have h : ∀ f ∈ Change.ingested changes, f.FromDocument :=
    fun f hf => ⟨v, _, hkeys, hparse, hf⟩
  exact ⟨h, ofText_write_run changes 2 h⟩

end Registry

end TypeLineage
