import TypeLineage.Proofs.Registry.BindingOrder

/-! # What is written may be read again

    A document lists facts by their names, while a registry keeps the last fact
    of each name.  The two go together because the sort is stable: of facts that
    share a name the last stays the last, so a registry of the facts that are
    read has the facts of the registry they were written from.

    A document of a registry may also be read among the documents the registry
    came from, wherever it stands in their order.  Its facts replace those
    before it by themselves, and those after it replace them as before. -/

namespace TypeLineage

open Document Json

variable {facts : List TypeFact} {n : String}

/-- The facts as a document gives them back: by name, and with their bindings in
    the order in which they were written. -/
def TypeFact.reread (facts : List TypeFact) : List TypeFact :=
  (sortByName facts).map fun f => ofJson (settled f.toJson)

theorem TypeFact.Sound.ofJson_settled {f : TypeFact} (hs : f.Sound) :
    (TypeFact.ofJson (settled f.toJson)).Sound := by
  obtain ⟨bindings, hperm, heq⟩ := TypeFact.ofJson_settled hs
  rw [heq]
  exact hs.of_perm hperm

theorem TypeFact.sound_of_mem_reread (h : ∀ f ∈ facts, f.Sound) :
    ∀ f ∈ TypeFact.reread facts, f.Sound :=
  List.forall_mem_map.mpr fun f hf => (h f (Text.mem_sortByUnits.mp hf)).ofJson_settled

namespace Registry

/-! ## The last fact of a name -/

/-- Sorting by names keeps the last fact of each name. -/
theorem find?_ofFacts_sortByName (facts : List TypeFact) (n : String) :
    (ofFacts (TypeFact.sortByName facts)).find? n = (ofFacts facts).find? n := by
  rw [find?_ofFacts_eq_getLast?, find?_ofFacts_eq_getLast?]
  exact congrArg List.getLast? (Text.filter_sortByUnits (·.name) n facts)

/-- Changing facts under their names changes what is found. -/
theorem find?_ofFacts_map {g : TypeFact → TypeFact} (hname : ∀ f ∈ facts, (g f).name = f.name) :
    (ofFacts (facts.map g)).find? n = ((ofFacts facts).find? n).map g := by
  have hfilter : (facts.map g).filter (·.name = n) = (facts.filter (·.name = n)).map g := by
    rw [List.filter_map]
    refine congrArg (List.map g) (List.filter_congr fun f hf => ?_)
    rw [Function.comp_apply, hname f hf]
  rw [find?_ofFacts_eq_getLast?, find?_ofFacts_eq_getLast?, hfilter, List.getLast?_map]

/-- Registering the facts of a registry anew changes nothing that is found. -/
theorem Coherent.find?_ofFacts_facts {r : Registry} (h : r.Coherent) :
    (ofFacts r.facts).find? n = r.find? n := by
  have hreverse : (r.facts.reverse.map (·.name)).Nodup :=
    (r.facts.reverse_perm.map _).nodup_iff.mpr h.nodup_names
  rw [find?_ofFacts]
  refine Option.ext fun f => ⟨fun hf => ?_, fun hf => ?_⟩
  · have hname := List.find?_some hf
    rw [← of_decide_eq_true hname]
    exact h.mem_facts_iff.mp (List.mem_reverse.mp (List.mem_of_find?_eq_some hf))
  · rw [← name_of_find? hf]
    exact find?_of_mem hreverse (List.mem_reverse.mpr (mem_facts_of_find? hf))

/-- Under a name the facts that are read have the fact that was written last. -/
theorem find?_ofFacts_reread (h : ∀ f ∈ facts, f.Sound) :
    (ofFacts (TypeFact.reread facts)).find? n
      = ((ofFacts facts).find? n).map fun f => TypeFact.ofJson (settled f.toJson) := by
  unfold TypeFact.reread
  rw [find?_ofFacts_map, find?_ofFacts_sortByName]
  intro f hf
  exact (same_ofJson_settled (h f (Text.mem_sortByUnits.mp hf))).name

/-- Reading a fact back changes no more than the order of its bindings. -/
theorem map_ordered_reread {found : Option TypeFact} (h : ∀ f ∈ found, f.Sound) :
    (found.map fun f => TypeFact.ofJson (settled f.toJson)).map TypeFact.ordered
      = found.map TypeFact.ordered := by
  cases found with
  | none => rfl
  | some f => exact congrArg some (h f rfl).ordered_ofJson

/-! ## Facts alone -/

theorem sound_of_find? (h : ∀ f ∈ facts, f.Sound) : ∀ f ∈ (ofFacts facts).find? n, f.Sound :=
  fun f hf => h f (mem_of_mem_ofFacts (mem_facts_of_find? hf))

theorem alike_reread (h : ∀ f ∈ facts, f.Sound) :
    Alike (ofFacts (TypeFact.reread facts)) (ofFacts facts) where
  left := coherent_ofFacts _
  right := coherent_ofFacts _
  find?_eq := fun n => by
    rw [find?_ofFacts_reread h, map_ordered_reread (sound_of_find? h)]

/-- **A document keeps the last fact of each name**: facts of which every entry
    follows the grammar, and which bind no key twice, are written as a document
    that is accepted, and the facts that are read are found under the same names
    as before.  So counts and findings are the same. -/
theorem ofText_writeFacts_last (facts : List TypeFact) (indent : Int)
    (h : ∀ f ∈ facts, Document.isFact [] f.toJson = []
      ∧ (f.genericArguments.map (·.1)).Nodup) :
    ∃ read, Document.ofText (Document.writeFacts facts indent) = .ok read
      ∧ (∀ n, Option.Rel TypeFact.Same ((ofFacts facts).find? n) ((ofFacts read).find? n))
      ∧ (∀ report : Report, (report.summarize (ofFacts read)).statistics
          = (report.summarize (ofFacts facts)).statistics)
      ∧ (∀ (report : Report) (word : String),
          (report.summarize (ofFacts read)).relationCounts.lookup word
            = (report.summarize (ofFacts facts)).relationCounts.lookup word)
      ∧ (ofFacts read).diagnose = (ofFacts facts).diagnose := by
  have hsound : ∀ f ∈ facts, f.Sound := fun f hf =>
    (TypeFact.isFact_toJson_iff (h f hf).2).mp ((accepts_isFact _ _).mp (h f hf).1)
  have halike := alike_reread hsound
  refine ⟨TypeFact.reread facts, ofText_writeFacts hsound indent, fun n => ?_,
    fun _ => halike.statistics_eq, fun _ => halike.relationCounts_lookup_eq, halike.diagnose_eq⟩
  rw [find?_ofFacts_reread hsound]
  cases hfound : (ofFacts facts).find? n with
  | none => exact .none
  | some f => exact .some (same_ofJson_settled (sound_of_find? hsound f hfound))

/-- Two facts of one name, of which the second wins. -/
theorem ofText_writeFacts_last_of_two :
    let facts := [bareFact "B" none, bareFact "A" (some "C"), bareFact "A" (some "B")]
    (∀ f ∈ facts, Document.isFact [] f.toJson = [] ∧ (f.genericArguments.map (·.1)).Nodup)
    ∧ ∃ read, Document.ofText (Document.writeFacts facts 2) = .ok read
      ∧ ∃ f, (ofFacts read).find? "A" = some f ∧ f.superclass = some "B" := by
  intro facts
  have h : ∀ f ∈ facts, Document.isFact [] f.toJson = []
      ∧ (f.genericArguments.map (·.1)).Nodup := by decide +kernel
  obtain ⟨read, hread, hfound, -⟩ := ofText_writeFacts_last facts 2 h
  refine ⟨h, read, hread, ?_⟩
  have hA : Option.Rel TypeFact.Same (some (bareFact "A" (some "B"))) ((ofFacts read).find? "A") :=
    hfound "A"
  cases hf : (ofFacts read).find? "A" with
  | none =>
      rw [hf] at hA
      exact nomatch hA
  | some f =>
      rw [hf] at hA
      cases hA with
      | some hsame => exact ⟨f, rfl, hsame.superclass⟩

/-! ## A registry's document among others -/

/-- The document of a registry changes nothing but the order of bindings,
    wherever it is read among the facts of the registry. -/
theorem alike_reread_between {before after : List TypeFact}
    (h : ∀ f ∈ before ++ after, f.Sound) :
    Alike (ofFacts (before ++ TypeFact.reread (ofFacts (before ++ after)).facts ++ after))
      (ofFacts (before ++ after)) where
  left := coherent_ofFacts _
  right := coherent_ofFacts _
  find?_eq := fun n => by
    have hfound := sound_of_find? (n := n) h
    have hread := find?_ofFacts_reread (n := n) fun f hf => h f (mem_of_mem_ofFacts hf)
    rw [(coherent_ofFacts (before ++ after)).find?_ofFacts_facts] at hread
    have hall : ∀ facts, (ofFacts (before ++ facts ++ after)).find? n
        = ((ofFacts after).find? n).or (((ofFacts facts).find? n).or ((ofFacts before).find? n)) := by
      intro facts
      simp only [find?_ofFacts, List.reverse_append, List.find?_append]
    have hboth : (ofFacts (before ++ after)).find? n
        = ((ofFacts after).find? n).or ((ofFacts before).find? n) := by
      simp only [find?_ofFacts, List.reverse_append, List.find?_append]
    rw [hall, hread]
    rw [hboth] at hfound ⊢
    cases hafter : (ofFacts after).find? n with
    | some f => rfl
    | none =>
        rw [hafter] at hfound
        simp only [Option.none_or] at hfound ⊢
        -- what stands before is replaced by itself
        cases hbefore : (ofFacts before).find? n with
        | none => rfl
        | some f =>
            rw [hbefore] at hfound
            exact congrArg some (hfound f rfl).ordered_ofJson

/-- **Reading its own document changes nothing that is written**: the document
    of a registry is accepted, and where its facts are registered anywhere among
    those of the registry, the same text is written once more. -/
theorem write_ofFacts_reread (before after : List TypeFact) (indent : Int)
    (h : ∀ f ∈ before ++ after, f.FromDocument) :
    ∃ facts, Document.ofText ((ofFacts (before ++ after)).snapshot.write indent) = .ok facts
      ∧ (ofFacts (before ++ facts ++ after)).snapshot.write indent
          = (ofFacts (before ++ after)).snapshot.write indent := by
  have hsound : ∀ f ∈ before ++ after, f.Sound := fun f hf => (h f hf).sound
  have hregistered : ∀ f ∈ (ofFacts (before ++ after)).facts, f.Sound :=
    fun f hf => hsound f (mem_of_mem_ofFacts hf)
  refine ⟨TypeFact.reread (ofFacts (before ++ after)).facts, ofText_write hregistered indent, ?_⟩
  refine (alike_reread_between hsound).write_eq (fun f hf => ?_) hregistered indent
  rcases List.mem_append.mp (mem_of_mem_ofFacts hf) with hf | hf
  · rcases List.mem_append.mp hf with hf | hf
    · exact hsound f (List.mem_append_left _ hf)
    · exact TypeFact.sound_of_mem_reread hregistered f hf
  · exact hsound f (List.mem_append_right _ hf)

/-- A type that is declared before and after, the second time with its bindings
    out of order. -/
theorem write_ofFacts_reread_of_two :
    let v : Json := .object [("types", .array [
      .object [("name", .string "B"), ("library", .string "b.ts")],
      .object [("name", .string "A"), ("library", .string "a.ts"), ("superclass", .string "B")]])]
    let w : Json := .object [("types", .array [
      .object [("name", .string "A"), ("library", .string "c.ts"),
        ("genericArguments", .object [("B.U", .string "C"), ("B.T", .string "A")])]])]
    (∀ f ∈ Document.facts v ++ Document.facts w, f.FromDocument)
    ∧ ∃ facts, Document.ofText
        ((ofFacts (Document.facts v ++ Document.facts w)).snapshot.write 2) = .ok facts
      ∧ (ofFacts (Document.facts v ++ facts ++ Document.facts w)).snapshot.write 2
          = (ofFacts (Document.facts v ++ Document.facts w)).snapshot.write 2 := by
  intro v w
  have hv : v.DistinctKeys := by
    refine .object (by decide) (List.forall_mem_singleton.mpr (.array ?_))
    simp only [List.forall_mem_cons]
    refine ⟨.object (by decide) ?_, .object (by decide) ?_, List.forall_mem_nil _⟩
    · simp only [List.forall_mem_cons]
      exact ⟨.string _, .string _, List.forall_mem_nil _⟩
    · simp only [List.forall_mem_cons]
      exact ⟨.string _, .string _, .string _, List.forall_mem_nil _⟩
  have hw : w.DistinctKeys := by
    refine .object (by decide) (List.forall_mem_singleton.mpr (.array ?_))
    refine List.forall_mem_singleton.mpr (.object (by decide) ?_)
    simp only [List.forall_mem_cons]
    refine ⟨.string _, .string _, .object (by decide) ?_, List.forall_mem_nil _⟩
    simp only [List.forall_mem_cons]
    exact ⟨.string _, .string _, List.forall_mem_nil _⟩
  have hparsev : Document.parse v = .ok (Document.facts v) := rfl
  have hparsew : Document.parse w = .ok (Document.facts w) := rfl
  have h : ∀ f ∈ Document.facts v ++ Document.facts w, f.FromDocument := by
    intro f hf
    rcases List.mem_append.mp hf with hf | hf
    · exact ⟨v, _, hv, hparsev, hf⟩
    · exact ⟨w, _, hw, hparsew, hf⟩
  exact ⟨h, write_ofFacts_reread _ _ 2 h⟩

end Registry

end TypeLineage
