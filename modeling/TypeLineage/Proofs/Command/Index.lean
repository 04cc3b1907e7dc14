import TypeLineage.Command.Run
import TypeLineage.Proofs.Fact.Loading
import TypeLineage.Proofs.Files.Tree
import TypeLineage.Proofs.Report.Diagnosis

/-! # The exit code of indexing

    Three parties find something: loading, about documents and names; the
    search for names that are mentioned and not registered; and the search for
    cycles.  All that they find is a problem, so a run that is to fail on
    findings fails exactly where one of them finds something.  `Troubled` says
    without them when that is.

    Whatever is found, the registry is written first and the report elsewhere,
    so the file of the registry is there in the end. -/

namespace TypeLineage

/-! ## What is written -/

namespace FileTree

variable {t t' : FileTree} {base place : Place} {path text : String}

/-- What is written stands at the place of its path; the rest stays. -/
theorem content?_writeAt (h : t.writeAt base path text = .ok t') (other : Place) :
    t'.content? other
      = if other = Path.resolve base path then some text.toUTF8.toList else t.content? other := by
  have hput := of_ite_error_eq_ok (of_ite_error_eq_ok (of_ite_error_eq_ok (of_ite_error_eq_ok h)))
  obtain rfl := Except.ok.inj hput
  exact content?_put t _ _ other

theorem writeAt_eq_ok (hpassed : (Path.passed base path).any t.isFile = false)
    (hnames : Path.namesFile path = true) (hblocked : t.isBlocked (Path.resolve base path) = false)
    (hdirectory : t.isDirectory (Path.resolve base path) = false) (text : String) :
    t.writeAt base path text = .ok (t.put (Path.resolve base path) text.toUTF8.toList) := by
  simp [writeAt, write, hpassed, hnames, hblocked, hdirectory]

end FileTree

namespace Command

open Loading

variable {home : Place} {now : String} {t : FileTree} {o : IndexRequest}

/-- A report leaves the files at other places. -/
theorem content?_writeReport {path : Option String} {r : Report} {t' : FileTree}
    (h : writeReport t home path r = .ok t') {other : Place}
    (hother : ∀ p ∈ path, Path.resolve home p ≠ other) :
    t'.content? other = t.content? other := by
  cases path with
  | none =>
      obtain rfl := Except.ok.inj h
      rfl
  | some p =>
      rw [FileTree.content?_writeAt h, if_neg]
      exact fun heq => hother p rfl heq.symm

/-! ## What is found -/

/-- Something is wrong with some documents or with the types in them. -/
inductive Troubled (documents : List (Option (List TypeFact))) : Prop where
  /-- A document is not accepted. -/
  | rejected (h : none ∈ documents)
  /-- A name is defined more than once. -/
  | redefined (h : ¬ ((accepted documents).map (·.name)).Nodup)
  /-- A registered type mentions a name that is not registered. -/
  | dangling {f : TypeFact} {kind : RelationKind} {target : String}
      (hf : f ∈ (Registry.ofFacts (accepted documents)).facts)
      (hmentioned : target ∈ f.relations kind)
      (h : (Registry.ofFacts (accepted documents)).has target = false)
  /-- The superclasses of a name lead back to it. -/
  | cyclic {n : String}
      (h : Relation.TransGen (Cycle.Up (Registry.ofFacts (accepted documents)).superclassOf?) n n)

/-- The report of an indexing run. -/
def indexReport (now : String) (o : IndexRequest) (loaded : Loaded) : Report :=
  reportOn (loaded.tell (freshReport o.source now)) (Registry.ofFacts loaded.facts) now

/-- A run that comes to an end has loaded the documents, written the registry
    and then the report. -/
theorem exists_of_failure_eq_none (h : (index home now t o).failure = none) :
    ∃ loaded written,
      load home t (selection o.source o.patterns o.excludes o.cap) = .ok loaded
      ∧ t.writeAt home o.out
          ((Registry.ofFacts loaded.facts).snapshot.write Document.defaultIndent) = .ok written
      ∧ writeReport written home o.report (indexReport now o loaded)
          = .ok (index home now t o).tree
      ∧ (index home now t o).code
          = if o.failsOnFindings && 0 < (indexReport now o loaded).problemCount then 3 else 0 := by
  unfold index at h ⊢
  cases hload : load home t (selection o.source o.patterns o.excludes o.cap) with
  | error e =>
      rw [hload] at h
      exact nomatch h
  | ok loaded =>
      rw [hload] at h
      -- neither file can have been refused, or the run would have failed
      dsimp only at h ⊢
      cases hwritten : t.writeAt home o.out
          ((Registry.ofFacts loaded.facts).snapshot.write Document.defaultIndent) with
      | error e =>
          rw [hwritten] at h
          exact nomatch h
      | ok written =>
          rw [hwritten] at h
          dsimp only at h ⊢
          cases hfinal : writeReport written home o.report
              (reportOn (loaded.tell (freshReport o.source now))
                (Registry.ofFacts loaded.facts) now) with
          | error e =>
              rw [hfinal] at h
              exact nomatch h
          | ok final => exact ⟨loaded, written, rfl, hwritten, hfinal, rfl⟩

/-- Loading and diagnosis find nothing but problems. -/
theorem problemCount_pos_iff (sources : List Source) :
    0 < (indexReport now o (ofSources sources)).problemCount
      ↔ ¬ (findings [] sources = []
        ∧ (Registry.ofFacts (sources.flatMap Source.facts)).diagnose = []) := by
  have hfindings : (indexReport now o (ofSources sources)).findings
      = findings [] sources ++ (Registry.ofFacts (sources.flatMap Source.facts)).diagnose := rfl
  unfold Report.problemCount
  rw [hfindings, ← List.append_eq_nil_iff, List.countP_pos_iff, List.eq_nil_iff_forall_not_mem,
    Classical.not_forall]
  -- to be among the findings is to be a problem among them
  refine exists_congr fun finding => ?_
  rw [Classical.not_not]
  refine and_iff_left_of_imp fun hmem => ?_
  rcases List.mem_append.mp hmem with h | h
  · rcases mem_findings_cases [] h with ⟨_, _, rfl⟩ | ⟨_, _, _, _, rfl⟩ <;> rfl
  · exact Registry.isProblem_of_mem_diagnose h

/-- Nothing is wrong where no party has anything to find. -/
theorem not_troubled_iff {documents : List (Option (List TypeFact))} :
    ¬ Troubled documents
      ↔ (none ∉ documents ∧ ((accepted documents).map (·.name)).Nodup)
        ∧ (Registry.ofFacts (accepted documents)).diagnose = [] := by
  rw [Registry.diagnose_eq_nil_iff]
  constructor
  · intro h
    refine ⟨⟨fun hnone => h (.rejected hnone), ?_⟩, ?_, fun n hback => h (.cyclic hback)⟩
    · exact Decidable.not_not.mp fun hrepeated => h (.redefined hrepeated)
    · intro f hf kind target hmentioned
      rw [← Bool.not_eq_false]
      exact fun hmissing => h (.dangling hf hmentioned hmissing)
  · rintro ⟨⟨haccepted, hdistinct⟩, hregistered, hacyclic⟩ htroubled
    cases htroubled with
    | rejected h => exact haccepted h
    | redefined h => exact h hdistinct
    | dangling hf hmentioned h =>
        exact Bool.false_ne_true (h.symm.trans (hregistered _ hf _ _ hmentioned))
    | cyclic h => exact hacyclic _ h

/-- There are problems exactly where something is wrong. -/
theorem problemCount_pos_iff_troubled (now : String) (o : IndexRequest) (sources : List Source) :
    0 < (indexReport now o (ofSources sources)).problemCount
      ↔ Troubled (sources.map (·.content.toOption)) := by
  rw [problemCount_pos_iff, findings_eq_nil_iff, ← accepted_documents, ← not_troubled_iff,
    Classical.not_not]

/-- A request about a lone file, with findings that count. -/
def loneRequest : IndexRequest :=
  { source := "."
    out := "o"
    patterns := ["a"]
    excludes := []
    cap := none
    hierarchy := []
    report := some "r"
    failsOnFindings := true
    verbose := false }

theorem place_out : Path.resolve [] "o" = ["o"] := by cbv

theorem place_report : Path.resolve [] "r" = ["r"] := by cbv

theorem failure_index_lone (content : List UInt8) :
    (index [] "now" ⟨[(["a"], content)], []⟩ loneRequest).failure = none := by
  have hoverout : Path.passed [] "o" = [[]] := by cbv
  have hoverreport : Path.passed [] "r" = [[]] := by cbv
  have hwritten (text : String) : FileTree.writeAt ⟨[(["a"], content)], []⟩ [] "o" text
      = .ok ⟨[(["a"], content), (["o"], text.toUTF8.toList)], []⟩ := by
    rw [FileTree.writeAt_eq_ok (by rw [hoverout]; rfl) (by cbv) (by rw [place_out]; rfl)
      (by rw [place_out]; rfl), place_out]
    rfl
  have hfinal (bytes : List UInt8) (text : String) :
      FileTree.writeAt ⟨[(["a"], content), (["o"], bytes)], []⟩ [] "r" text
        = .ok ⟨[(["a"], content), (["o"], bytes), (["r"], text.toUTF8.toList)], []⟩ := by
    rw [FileTree.writeAt_eq_ok (by rw [hoverreport]; rfl) (by cbv) (by rw [place_report]; rfl)
      (by rw [place_report]; rfl), place_report]
    rfl
  unfold index loneRequest
  dsimp only
  rw [load_lone]
  dsimp only
  rw [hwritten]
  dsimp only [writeReport]
  rw [hfinal]

end Command

end TypeLineage
