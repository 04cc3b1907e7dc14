import TypeLineage.Proofs.Fact.Encoding
import TypeLineage.Proofs.Text.Order

/-! # Documents of facts are read back

    A document is written of facts alone, or of facts with statistics.  Its text
    is read as the settled entries of the facts in the order in which they were
    written, so it is accepted exactly if every settled entry follows the
    grammar: nothing that is refused comes from the document around the
    entries. -/

namespace TypeLineage.Document

open Json

variable {facts read : List TypeFact} {statistics : Option Json} {indent : Int}

/-- What a document of facts, and perhaps of statistics, says under each key. -/
def slotsOf (facts : List TypeFact) (statistics : Option Json) : List (String × Option Json) := [
  ("schema", some (.string formatName)),
  ("types", some (.array (facts.map TypeFact.toJson))),
  ("statistics", statistics)]

/-- The members of a document of facts, and perhaps of statistics. -/
def membersOf (facts : List TypeFact) (statistics : Option Json) : List (String × Json) :=
  Association.present (slotsOf facts statistics)

/-! ## The value that is written -/

theorem nodup_slotsOf (facts : List TypeFact) (statistics : Option Json) :
    ((slotsOf facts statistics).map (·.1)).Nodup := by
  show List.Nodup ["schema", "types", "statistics"]
  decide

theorem nodup_membersOf (facts : List TypeFact) (statistics : Option Json) :
    ((membersOf facts statistics).map (·.1)).Nodup :=
  (nodup_slotsOf facts statistics).sublist (Association.keys_present_sublist _)

theorem integral_membersOf (hstatistics : ∀ s ∈ statistics, s.Integral) :
    Integral (.object (membersOf facts statistics)) := by
  have hslots : ∀ slot ∈ slotsOf facts statistics, ∀ x ∈ slot.2, x.Integral := by
    unfold slotsOf
    simp only [List.forall_mem_cons, Option.mem_some_iff, forall_eq']
    refine ⟨.string _, .array ?_, hstatistics, List.forall_mem_nil _⟩
    exact List.forall_mem_map.mpr fun f _ => f.integral_toJson
  refine .object fun m hm => ?_
  exact hslots _ (Association.mem_slots_of_mem_present hm) _ rfl

/-! ## The value that is read -/

theorem get?_settled_membersOf {key : String} (hkey : key ≠ unwritableKey) :
    (settled (.object (membersOf facts statistics))).get? key
      = (((slotsOf facts statistics).lookup key).join).map settled := by
  rw [get?_settled (nodup_membersOf facts statistics) hkey]
  unfold membersOf
  rw [Association.lookup_present (nodup_slotsOf facts statistics)]

theorem get?_settled_types : (settled (.object (membersOf facts statistics))).get? "types"
    = some (.array (facts.map fun f => settled f.toJson)) := by
  rw [get?_settled_membersOf (by decide)]
  show some (settled (.array (facts.map TypeFact.toJson))) = _
  rw [settled_array, List.map_map]
  rfl

theorem facts_settled : Document.facts (settled (.object (membersOf facts statistics)))
    = facts.map fun f => TypeFact.ofJson (settled f.toJson) := by
  unfold Document.facts
  rw [get?_settled_types]
  exact List.map_map (g := TypeFact.ofJson)

theorem isDocument_settled_iff (hstatistics : ∀ s ∈ statistics, IsMapOf IsCount (settled s)) :
    IsDocument IsCount (settled (.object (membersOf facts statistics)))
      ↔ ∀ f ∈ facts, IsFact (settled f.toJson) := by
  constructor
  · intro h
    obtain ⟨_, htypes, entries, rfl, hall⟩ := h.types
    have hentries := Json.array.inj (Option.some.inj (get?_settled_types.symm.trans htypes))
    rw [← hentries] at hall
    exact List.forall_mem_map.mp hall
  · intro hall
    have hget : ∀ key, key ≠ unwritableKey →
        (settled (.object (membersOf facts statistics))).get? key
          = (((slotsOf facts statistics).lookup key).join).map settled :=
      fun key hkey => get?_settled_membersOf hkey
    refine
      { declared := hasOnly_settled (nodup_membersOf facts statistics) fun m hm => ?_
        schema := optional_of_some (hget "schema" (by decide)) rfl
        types := ⟨_, get?_settled_types, _, rfl, List.forall_mem_map.mpr hall⟩
        statistics := ?_ }
    · exact (Association.keys_present_sublist (slotsOf facts statistics)).subset
        (List.mem_map.mpr ⟨m, hm, rfl⟩)
    · intro x hx
      obtain ⟨s, hs, rfl⟩ := Option.map_eq_some_iff.mp ((hget "statistics" (by decide)).symm.trans hx)
      exact hstatistics s hs

/-- What a document of facts and statistics is read as. -/
theorem ofText_stableText_eq_ok_iff (hintegral : ∀ s ∈ statistics, s.Integral)
    (hstatistics : ∀ s ∈ statistics, IsMapOf IsCount (settled s)) :
    ofText (stableText (.object (membersOf facts statistics)) indent) = .ok read
      ↔ (∀ f ∈ facts, IsFact (settled f.toJson))
        ∧ read = facts.map fun f => TypeFact.ofJson (settled f.toJson) := by
  unfold ofText
  rw [parse?_stableText (integral_membersOf hintegral)]
  show parse _ = _ ↔ _
  rw [parse_eq_ok_iff, isDocument_settled_iff hstatistics, facts_settled]

/-! ## Facts alone -/

/-- The entries are sorted as the facts are. -/
theorem map_toJson_sortByName (facts : List TypeFact) :
    (TypeFact.sortByName facts).map TypeFact.toJson = sortEntries (facts.map TypeFact.toJson) :=
  List.map_mergeSort fun _ _ _ _ => rfl

theorem writeFacts_eq_stableText (facts : List TypeFact) (indent : Int) :
    writeFacts facts indent
      = stableText (.object (membersOf (TypeFact.sortByName facts) none)) indent := by
  unfold writeFacts write ofEntries
  rw [← map_toJson_sortByName]
  rfl

/-- What a document of facts alone is read as. -/
theorem ofText_writeFacts_eq_ok_iff : ofText (writeFacts facts indent) = .ok read
    ↔ (∀ f ∈ facts, IsFact (settled f.toJson))
      ∧ read = (TypeFact.sortByName facts).map fun f => TypeFact.ofJson (settled f.toJson) := by
  have hnone : ∀ {P : Json → Prop}, ∀ s ∈ (none : Option Json), P s := fun _ hs => nomatch hs
  have hsorted : (∀ f ∈ TypeFact.sortByName facts, IsFact (settled f.toJson))
      ↔ ∀ f ∈ facts, IsFact (settled f.toJson) :=
    forall_congr' fun _ => imp_congr_left Text.mem_sortByUnits
  rw [writeFacts_eq_stableText, ofText_stableText_eq_ok_iff hnone hnone, hsorted]

theorem ofText_writeFacts (h : ∀ f ∈ facts, f.Sound) (indent : Int) :
    ofText (writeFacts facts indent)
      = .ok ((TypeFact.sortByName facts).map fun f => TypeFact.ofJson (settled f.toJson)) :=
  ofText_writeFacts_eq_ok_iff.mpr ⟨fun f hf => TypeFact.isFact_settled (h f hf), rfl⟩

end TypeLineage.Document
