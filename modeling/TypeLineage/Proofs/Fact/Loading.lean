import Mathlib
import TypeLineage.Fact.Loading
import TypeLineage.Report.Diagnosis
import TypeLineage.Proofs.Fact.Reading
import TypeLineage.Proofs.Files.Scan
import TypeLineage.Proofs.Registry.Lookup

/-! # The accounts of loading

    Loading goes through the files with three things in hand: the facts so far,
    the findings so far, and the file that defined each name last.  All three
    are read off one sequence, the definitions: each fact of an accepted
    document with its file and its number.  What is known of the names is what
    the definitions so far say of them (`known`), and a name is found to be
    taken where a definition follows another of its name (`redefinitions`).

    A registry counts the same sequence: a definition either follows another of
    its name or makes the registry larger by one (`length_redefinitions`). -/

namespace TypeLineage.Loading

/-! ## Documents and definitions -/

/-- Under the path stands the text of a document, and the facts are its own. -/
def Accepts (t : FileTree) (root : Place) (file : String) (facts : List TypeFact) : Prop :=
  ∃ text v, t.text? (Path.inside root file) = some text ∧ Json.parse? text = some v
    ∧ Document.parse v = .ok facts

/-- For each file the facts of its document, where it is accepted. -/
def Documents (t : FileTree) (root : Place) :
    (files : List String) → (documents : List (Option (List TypeFact))) → Prop :=
  List.Forall₂ fun file document => ∀ facts, document = some facts ↔ Accepts t root file facts

/-- The facts of the accepted documents, in their order. -/
def accepted (documents : List (Option (List TypeFact))) : List TypeFact :=
  documents.flatMap (·.getD [])

/-- A fact with the file and the number of its entry. -/
structure Definition where
  file : String
  typeIndex : Nat
  fact : TypeFact

namespace Definition

/-- The definitions in a file, the entries numbered from some number on. -/
def inFile (file : String) (typeIndex : Nat) (facts : List TypeFact) : List Definition :=
  (facts.zipIdx typeIndex).map fun (fact, i) => ⟨file, i, fact⟩

/-- The definition among some others that is the last of its name. -/
structure IsLast (ds : List Definition) (name : String) (p : Definition) : Prop where
  name_eq : p.fact.name = name
  split : ∃ before after, ds = before ++ p :: after ∧ ∀ d ∈ after, d.fact.name ≠ name

/-- The last definition of a name, searched for from the end. -/
def last? (ds : List Definition) (name : String) : Option Definition :=
  ds.reverse.find? (·.fact.name = name)

end Definition

open Definition

/-- The definitions in the documents of some files, file by file. -/
def definitions (files : List String) (documents : List (Option (List TypeFact))) :
    List Definition :=
  (files.zip documents).flatMap fun (file, document) => inFile file 0 (document.getD [])

/-- The findings about definitions that follow others, given those before. -/
def redefinitions : (past : List Definition) → List Definition → List Finding
  | _, [] => []
  | past, d :: ds =>
    (last? past d.fact.name).toList.map
        (fun p => duplicateFinding d.file d.typeIndex d.fact.name p.file)
      ++ redefinitions (past ++ [d]) ds

/-- The file of each name that is defined, the last definition first. -/
def known (past : List Definition) : List (String × String) :=
  (past.map fun d => (d.fact.name, d.file)).reverse

variable {past ds : List Definition} {d p : Definition} {name file : String}
variable {t : FileTree} {root : Place} {sources : List Source} {finding : Finding}

/-! ## The last definition of a name -/

theorem map_fact_inFile (file : String) (i : Nat) (facts : List TypeFact) :
    (inFile file i facts).map (·.fact) = facts := by
  unfold inFile
  rw [List.map_map]
  exact List.zipIdx_map_fst i facts

theorem inFile_cons (file : String) (i : Nat) (f : TypeFact) (facts : List TypeFact) :
    inFile file i (f :: facts) = ⟨file, i, f⟩ :: inFile file (i + 1) facts := rfl

theorem last?_eq_some_iff : last? past name = some p ↔ IsLast past name p := by
  unfold last?
  rw [List.find?_eq_some_iff_append]
  constructor
  · rintro ⟨hname, after, before, hpast, hafter⟩
    refine ⟨of_decide_eq_true hname, before.reverse, after.reverse, ?_, fun d hd => ?_⟩
    · rw [← List.reverse_reverse past, hpast]
      simp
    · simpa using hafter d (List.mem_reverse.mp hd)
  · rintro ⟨hname, before, after, rfl, hafter⟩
    refine ⟨decide_eq_true hname, after.reverse, before.reverse, by simp, fun d hd => ?_⟩
    simpa using hafter d (List.mem_reverse.mp hd)

theorem last?_isSome_iff : (last? past name).isSome ↔ name ∈ past.map (·.fact.name) := by
  unfold last?
  rw [List.find?_isSome, List.mem_map]
  simp only [List.mem_reverse, decide_eq_true_eq]

/-- What is known of a name is the file of its last definition. -/
theorem lookup_known (past : List Definition) (name : String) :
    (known past).lookup name = (last? past name).map (·.file) := by
  unfold known last?
  rw [← List.map_reverse]
  induction past.reverse with
  | nil => rfl
  | cons d rest ih =>
      rw [List.map_cons, Association.lookup_cons_ite, List.find?_cons, ih]
      by_cases h : d.fact.name = name
      · simp [h]
      · have hne : ¬ name = d.fact.name := fun heq => h heq.symm
        simp [h, hne]

theorem known_nil : known [] = [] := rfl

theorem known_append (past ds : List Definition) : known (past ++ ds) = known ds ++ known past := by
  unfold known
  rw [List.map_append, List.reverse_append]

theorem known_inFile (file : String) (i : Nat) (facts : List TypeFact) :
    known (inFile file i facts) = (facts.map fun f => (f.name, file)).reverse := by
  unfold known
  rw [← map_fact_inFile file i facts, List.map_map, map_fact_inFile]
  congr 1
  unfold inFile
  rw [List.map_map, List.map_map]
  rfl

/-! ## Definitions that follow others -/

theorem redefinitions_append (past ds more : List Definition) :
    redefinitions past (ds ++ more)
      = redefinitions past ds ++ redefinitions (past ++ ds) more := by
  induction ds generalizing past with
  | nil => rw [List.nil_append, List.append_nil]; rfl
  | cons d ds ih =>
      rw [List.cons_append, redefinitions, redefinitions, ih, List.append_assoc,
        List.append_assoc, List.singleton_append]

theorem mem_redefinitions_iff :
    finding ∈ redefinitions past ds ↔ ∃ before d after p, ds = before ++ d :: after
      ∧ IsLast (past ++ before) d.fact.name p
      ∧ finding = duplicateFinding d.file d.typeIndex d.fact.name p.file := by
  -- one definition a step goes over to the past, so only the whole is split the same way
  induction ds generalizing past with
  | nil => simp [redefinitions]
  | cons d ds ih =>
      rw [redefinitions, List.mem_append, ih]
      constructor
      · rintro (hfirst | ⟨before, e, after, p, rfl, hlast, rfl⟩)
        · obtain ⟨p, hp, rfl⟩ := List.mem_map.mp hfirst
          have hlast := last?_eq_some_iff.mp (Option.mem_toList.mp hp)
          exact ⟨[], d, ds, p, rfl, (List.append_nil past).symm ▸ hlast, rfl⟩
        · refine ⟨d :: before, e, after, p, rfl, ?_, rfl⟩
          rwa [List.append_assoc] at hlast
      · rintro ⟨before, e, after, p, hds, hlast, rfl⟩
        cases before with
        | nil =>
            obtain ⟨rfl, rfl⟩ := List.cons.inj hds
            rw [List.append_nil] at hlast
            exact Or.inl (List.mem_map.mpr
              ⟨p, Option.mem_toList.mpr (last?_eq_some_iff.mpr hlast), rfl⟩)
        | cons b before =>
            obtain ⟨rfl, rfl⟩ := List.cons.inj hds
            refine Or.inr ⟨before, e, after, p, rfl, ?_, rfl⟩
            rwa [List.append_assoc]

/-- A definition follows another of its name or makes a registry larger. -/
theorem size_register_definition (past : List Definition) (d : Definition) :
    (last? past d.fact.name).toList.length
        + (Registry.ofFacts ((past ++ [d]).map (·.fact))).size
      = (Registry.ofFacts (past.map (·.fact))).size + 1 := by
  have hregister : Registry.ofFacts ((past ++ [d]).map (·.fact))
      = (Registry.ofFacts (past.map (·.fact))).register d.fact := by
    rw [List.map_append, Registry.ofFacts_append]
    rfl
  have hnames : d.fact.name ∈ (Registry.ofFacts (past.map (·.fact))).names
      ↔ (last? past d.fact.name).isSome := by
    rw [Registry.mem_names_iff, Registry.has, Registry.find?_ofFacts, ← List.map_reverse,
      List.find?_map, Option.isSome_map]
    rfl
  rw [hregister, Registry.size_register]
  cases hlast : last? past d.fact.name with
  | none =>
      rw [hlast] at hnames
      rw [if_neg (by simp [hnames]), Option.toList_none, List.length_nil, Nat.zero_add]
  | some p =>
      rw [hlast] at hnames
      rw [if_pos (hnames.mpr rfl), Option.toList_some, List.length_singleton, Nat.add_comm]

/-- What follows others of its name and what is registered make up the
    definitions. -/
theorem length_redefinitions (past ds : List Definition) :
    (redefinitions past ds).length + (Registry.ofFacts ((past ++ ds).map (·.fact))).size
      = ds.length + (Registry.ofFacts (past.map (·.fact))).size := by
  induction ds generalizing past with
  | nil => rw [List.append_nil]; rfl
  | cons d ds ih =>
      -- the finding about `d` or the place of `d` in the registry, then the rest
      have hrest := ih (past ++ [d])
      rw [List.append_assoc, List.singleton_append] at hrest
      have hfirst := size_register_definition past d
      rw [redefinitions, List.length_append, List.length_map, List.length_cons]
      omega

/-- Nothing follows another of its name where all names differ. -/
theorem redefinitions_eq_nil_iff (hpast : (past.map (·.fact.name)).Nodup) :
    redefinitions past ds = [] ↔ ((past ++ ds).map (·.fact.name)).Nodup := by
  induction ds generalizing past with
  | nil => simp [redefinitions, hpast]
  | cons d ds ih =>
      rw [redefinitions]
      cases hlast : last? past d.fact.name with
      | some p =>
          -- there is a finding, and the name stands twice
          have hmem : d.fact.name ∈ past.map (·.fact.name) := by
            rw [← last?_isSome_iff, hlast]
            rfl
          refine iff_of_false (fun h => nomatch h) fun hnd => ?_
          rw [List.map_append, List.nodup_append] at hnd
          exact hnd.2.2 _ hmem _ List.mem_cons_self rfl
      | none =>
          have hnew : d.fact.name ∉ past.map (·.fact.name) := by
            rw [← last?_isSome_iff, hlast]
            exact Bool.false_ne_true
          have hnd := Association.nodup_extended hpast d.fact.name
          rw [if_neg hnew] at hnd
          have hrest := @ih (past ++ [d]) (List.map_append ▸ hnd)
          rwa [List.append_assoc] at hrest

/-! ## What loading finds -/

/-- The findings about one file are those about its definitions. -/
theorem duplicates_known (file : String) (past : List Definition) (i : Nat)
    (facts : List TypeFact) :
    duplicates file (known past) i facts = redefinitions past (inFile file i facts) := by
  induction facts generalizing past i with
  | nil => rfl
  | cons f facts ih =>
      have hrest := ih (past ++ [⟨file, i, f⟩]) (i + 1)
      rw [known_append] at hrest
      rw [inFile_cons, redefinitions, ← hrest, duplicates, lookup_known]
      cases last? past f.name <;> rfl

/-- A file that gives no facts leaves one finding and what is known. -/
theorem findings_of_error {s : Source} {problem : Problem} (h : s.content = .error problem)
    (past : List Definition) (rest : List Source) :
    findings (known past) (s :: rest)
      = invalidFinding s.file problem :: findings (known past) rest := by
  rw [findings, h]

/-- A document leaves the findings about its definitions and makes them known. -/
theorem findings_of_ok {s : Source} {facts : List TypeFact} (h : s.content = .ok facts)
    (past : List Definition) (rest : List Source) :
    findings (known past) (s :: rest)
      = redefinitions past (inFile s.file 0 facts)
        ++ findings (known (past ++ inFile s.file 0 facts)) rest := by
  rw [findings, h, known_append, known_inFile, ← duplicates_known]

theorem kind_of_mem_redefinitions (h : finding ∈ redefinitions past ds) :
    finding.kind = .duplicateType := by
  obtain ⟨-, -, -, -, -, -, rfl⟩ := mem_redefinitions_iff.mp h
  rfl

/-- The definitions in the files that give facts. -/
def definitionsOf (sources : List Source) : List Definition :=
  sources.flatMap fun s => inFile s.file 0 s.facts

/-- The findings about names are those about definitions that follow others,
    whatever files between them give no facts. -/
theorem filter_findings (past : List Definition) (sources : List Source) :
    (findings (known past) sources).filter (·.kind = .duplicateType)
      = redefinitions past (definitionsOf sources) := by
  unfold definitionsOf
  induction sources generalizing past with
  | nil => rfl
  | cons s rest ih =>
      rw [List.flatMap_cons, redefinitions_append]
      cases hs : s.content with
      | error problem =>
          -- the file has no definitions, and the finding about it is of another kind
          have hfacts : inFile s.file 0 s.facts = [] := by
            rw [Source.facts, hs]
            rfl
          rw [findings_of_error hs, hfacts, List.append_nil, ← ih]
          rfl
      | ok facts =>
          have hfacts : s.facts = facts := by rw [Source.facts, hs]
          rw [findings_of_ok hs, hfacts, List.filter_append, ih]
          congr 1
          exact List.filter_eq_self.mpr fun _ h => decide_eq_true (kind_of_mem_redefinitions h)

/-- The other findings are one for each file that gives no facts. -/
theorem countP_findings (past : List Definition) (sources : List Source) :
    (findings (known past) sources).countP (·.kind = .invalidFactFile)
      = sources.countP (!·.content.toOption.isSome) := by
  induction sources generalizing past with
  | nil => rfl
  | cons s rest ih =>
      cases hs : s.content with
      | error problem =>
          rw [findings_of_error hs, List.countP_cons_of_pos rfl,
            List.countP_cons_of_pos (by rw [hs]; rfl), ih]
      | ok facts =>
          have hnone : (redefinitions past (inFile s.file 0 facts)).countP
              (·.kind = .invalidFactFile) = 0 := by
            refine List.countP_eq_zero.mpr fun f hf => ?_
            rw [kind_of_mem_redefinitions hf]
            decide
          rw [findings_of_ok hs, List.countP_append, hnone, Nat.zero_add, ih,
            List.countP_cons_of_neg (by rw [hs]; exact Bool.false_ne_true)]

/-- There are no other findings. -/
theorem mem_findings_cases (past : List Definition)
    (h : finding ∈ findings (known past) sources) :
    (∃ file problem, finding = invalidFinding file problem)
      ∨ ∃ file i name previous, finding = duplicateFinding file i name previous := by
  induction sources generalizing past with
  | nil => exact nomatch h
  | cons s rest ih =>
      cases hs : s.content with
      | error problem =>
          rw [findings_of_error hs] at h
          rcases List.mem_cons.mp h with rfl | h
          · exact Or.inl ⟨s.file, problem, rfl⟩
          · exact ih past h
      | ok facts =>
          rw [findings_of_ok hs] at h
          rcases List.mem_append.mp h with h | h
          · obtain ⟨_, d, _, p, -, -, rfl⟩ := mem_redefinitions_iff.mp h
            exact Or.inr ⟨d.file, d.typeIndex, d.fact.name, p.file, rfl⟩
          · exact ih _ h

/-! ## What a selection gives -/

theorem content_readSource_eq_ok_iff {facts : List TypeFact} :
    (readSource t root file).content = .ok facts ↔ Accepts t root file facts := by
  unfold readSource Accepts
  cases t.text? (Path.inside root file) with
  | none => simp
  | some text =>
      simp only [Option.some.injEq, exists_and_left, exists_eq_left', ← Document.ofText_eq_ok_iff]
      cases Document.ofText text <;> simp [Except.mapError]

theorem documents_readSource (t : FileTree) (root : Place) (files : List String) :
    Documents t root files
      ((files.map (readSource t root)).map (·.content.toOption)) := by
  unfold Documents
  rw [List.map_map, List.forall₂_map_right_iff, List.forall₂_same]
  intro file _ facts
  rw [← content_readSource_eq_ok_iff]
  show (readSource t root file).content.toOption = some facts ↔ _
  cases (readSource t root file).content <;> simp [Except.toOption]

theorem getD_content (s : Source) : s.content.toOption.getD [] = s.facts := by
  unfold Source.facts
  cases s.content <;> rfl

theorem accepted_documents (sources : List Source) :
    accepted (sources.map (·.content.toOption)) = sources.flatMap Source.facts := by
  unfold accepted
  rw [List.flatMap_map]
  exact List.flatMap_congr fun s _ => getD_content s

theorem definitions_documents (sources : List Source) :
    definitions (sources.map (·.file)) (sources.map (·.content.toOption))
      = definitionsOf sources := by
  unfold definitions definitionsOf
  rw [List.zip_map', List.flatMap_map]
  exact List.flatMap_congr fun s _ => congrArg (inFile s.file 0) (getD_content s)

theorem map_fact_definitionsOf (sources : List Source) :
    (definitionsOf sources).map (·.fact) = sources.flatMap Source.facts := by
  unfold definitionsOf
  rw [List.map_flatMap]
  exact List.flatMap_congr fun s _ => map_fact_inFile s.file 0 s.facts

/-- The documents that are accepted and the findings about files make up the
    files. -/
theorem length_sources (sources : List Source) :
    sources.length = (sources.map (·.content.toOption)).countP Option.isSome
      + (findings [] sources).countP (·.kind = .invalidFactFile) := by
  have hinvalid := countP_findings [] sources
  have hsplit := List.length_eq_countP_add_countP
    (fun s : Source => s.content.toOption.isSome) (l := sources)
  rw [known_nil] at hinvalid
  rw [hinvalid, List.countP_map, hsplit]
  congr 2
  funext s
  cases s.content.toOption <;> rfl

/-- The registered names and the findings about names make up the facts. -/
theorem length_facts (sources : List Source) :
    (sources.flatMap Source.facts).length
      = (Registry.ofFacts (sources.flatMap Source.facts)).size
        + (findings [] sources).countP (·.kind = .duplicateType) := by
  have hfilter := filter_findings [] sources
  have hlength := length_redefinitions [] (definitionsOf sources)
  have hnone : (Registry.ofFacts (([] : List Definition).map (·.fact))).size = 0 := rfl
  rw [known_nil] at hfilter
  rw [List.nil_append, hnone] at hlength
  rw [List.countP_eq_length_filter, hfilter, ← map_fact_definitionsOf, List.length_map]
  omega

/-- Loading comes to an end with the files that are selected, each with what it
    gives. -/
theorem exists_of_load_eq_ok {home : Place} {s : Selection} {loaded : Loaded}
    (h : load home t s = .ok loaded) :
    ∃ sources, loaded = ofSources sources ∧ s.paths home t = .ok (sources.map (·.file))
      ∧ Documents t (Path.resolve home s.root) (sources.map (·.file))
          (sources.map (·.content.toOption)) := by
  unfold load at h
  obtain ⟨files, hpaths, h⟩ := exists_of_bind_eq_ok h
  have hfiles : (files.map (readSource t (Path.resolve home s.root))).map (·.file) = files := by
    rw [List.map_map]
    exact List.map_id files
  refine ⟨files.map (readSource t (Path.resolve home s.root)), (Except.ok.inj h).symm, ?_, ?_⟩
  · rw [hfiles]
    exact hpaths
  · rw [hfiles]
    exact documents_readSource t _ files

/-- Nothing is found where every document is accepted and all names differ. -/
theorem findings_eq_nil_iff (sources : List Source) :
    findings [] sources = [] ↔ none ∉ sources.map (·.content.toOption)
      ∧ ((sources.flatMap Source.facts).map (·.name)).Nodup := by
  have hinvalid := countP_findings [] sources
  have hduplicate := filter_findings [] sources
  rw [known_nil] at hinvalid hduplicate
  have haccepted : none ∉ sources.map (·.content.toOption)
      ↔ (findings [] sources).countP (·.kind = .invalidFactFile) = 0 := by
    rw [hinvalid, List.countP_eq_zero]
    simp
  have hdistinct : ((sources.flatMap Source.facts).map (·.name)).Nodup
      ↔ (findings [] sources).filter (·.kind = .duplicateType) = [] := by
    rw [hduplicate, @redefinitions_eq_nil_iff [] _ List.nodup_nil, ← map_fact_definitionsOf,
      List.map_map]
    rfl
  -- a finding is of one of the two kinds, so there is none if there is none of either
  rw [haccepted, hdistinct, List.countP_eq_zero, List.filter_eq_nil_iff]
  constructor
  · intro h
    simp [h]
  · rintro ⟨hnoinvalid, hnoduplicate⟩
    refine List.eq_nil_iff_forall_not_mem.mpr fun finding hmem => ?_
    rcases mem_findings_cases [] hmem with ⟨_, _, rfl⟩ | ⟨_, _, _, _, rfl⟩
    · exact hnoinvalid _ hmem rfl
    · exact hnoduplicate _ hmem rfl

/-! ## A lone file -/

theorem isSelected_lone : Scan.isSelected [] [Glob.read "a"]
    ((Scan.patternsOf ["a"] (selection "." ["a"] [] none).allExcludes).excludes.map
      Scan.Exclusion.read) (.ofPath "a" ["a"]) = true := by
  decide +kernel

theorem place_lone : Path.resolve [] "a" = ["a"] := by cbv

theorem inside_lone : Path.inside [] "a" = ["a"] := by cbv

theorem root_lone : Path.resolve [] "." = [] := by cbv

theorem paths_lone (content : List UInt8) :
    (selection "." ["a"] [] none).paths [] ⟨[(["a"], content)], []⟩ = .ok ["a"] := by
  have hfound : Scan.candidates ⟨[(["a"], content)], []⟩ []
      (Scan.patternsOf ["a"] (selection "." ["a"] [] none).allExcludes)
      = .ok [.ofPath "a" (Path.resolve [] "a")] :=
    Scan.candidates_of_fixed (by decide +kernel) (by decide +kernel) (by rw [place_lone]; rfl)
      (by rw [place_lone]; rfl) (by decide +kernel) (by rw [place_lone]; exact isSelected_lone)
  unfold Selection.paths
  show (Scan.candidates _ (Path.resolve [] ".") (Scan.patternsOf ["a"] _) >>= _) = _
  rw [root_lone, hfound, place_lone]
  show Except.ok _ = _
  decide +kernel

theorem load_lone (content : List UInt8) :
    load [] ⟨[(["a"], content)], []⟩ (selection "." ["a"] [] none)
      = .ok (ofSources
          [⟨"a", (Document.ofText (Text.decodeUtf8 content)).mapError .document⟩]) := by
  unfold load
  rw [paths_lone]
  show Except.ok (ofSources [readSource _ (Path.resolve [] ".") "a"]) = _
  rw [root_lone, readSource, inside_lone]
  rfl

theorem documents_lone {content : List UInt8} {facts : List TypeFact}
    {documents : List (Option (List TypeFact))}
    (hcontent : Document.ofText (Text.decodeUtf8 content) = .ok facts)
    (h : Documents ⟨[(["a"], content)], []⟩ (Path.resolve [] ".") ["a"] documents) :
    documents = [some facts] := by
  obtain ⟨v, hv, hfacts⟩ := Document.ofText_eq_ok_iff.mp hcontent
  have haccepts : Accepts ⟨[(["a"], content)], []⟩ (Path.resolve [] ".") "a" facts := by
    refine ⟨_, v, ?_, hv, hfacts⟩
    rw [root_lone, inside_lone]
    rfl
  obtain ⟨document, rest, hdocument, hrest, rfl⟩ := List.forall₂_cons_left_iff.mp h
  rw [List.forall₂_nil_left_iff.mp hrest, (hdocument facts).mpr haccepts]

/-! ## The accounts -/

/-- **The accounts balance** whenever loading comes to an end on a report that
    had no findings. -/
theorem accounts_balance (home : Place) (t : FileTree) (root : String)
    (includes excludes : List String) (cap : Option Nat) (r : Report) {loaded : Loaded}
    (hr : r.findings = [])
    (hload : load home t (selection root includes excludes cap) = .ok loaded) :
    ∃ documents,
      (selection root includes excludes cap).paths home t = .ok loaded.files
      ∧ (loaded.files.Pairwise fun a b => Text.notAfter a b = true)
      ∧ Documents t (Path.resolve home root) loaded.files documents
      ∧ (loaded.tell r).filesScanned = documents.countP Option.isSome
          + (loaded.tell r).findings.countP (·.kind = .invalidFactFile)
      ∧ loaded.facts = accepted documents
      ∧ (definitions loaded.files documents).map (·.fact) = loaded.facts
      ∧ (loaded.tell r).factsLoaded = loaded.facts.length
      ∧ (loaded.tell r).factsLoaded = (Registry.ofFacts loaded.facts).size
          + (loaded.tell r).findings.countP (·.kind = .duplicateType)
      ∧ ((loaded.tell r).summarize (Registry.ofFacts loaded.facts)).statistics.totalTypes
          = (Registry.ofFacts loaded.facts).size
      ∧ ∀ finding ∈ (loaded.tell r).findings, finding.kind = .duplicateType →
          ∃ before d after p, definitions loaded.files documents = before ++ d :: after
            ∧ IsLast before d.fact.name p
            ∧ finding.location = some ⟨d.file, some d.typeIndex⟩
            ∧ finding.tags = some [("type", d.fact.name)]
            ∧ finding.message = d.fact.name ++ " is already defined in " ++ p.file := by
  obtain ⟨sources, rfl, hpaths, hdocuments⟩ := exists_of_load_eq_ok hload
  have hfindings : ((ofSources sources).tell r).findings = findings [] sources := by
    show r.findings ++ findings [] sources = _
    rw [hr, List.nil_append]
  refine ⟨_, hpaths, Selection.pairwise_paths hpaths, hdocuments,
    ?_, (accepted_documents sources).symm, ?_, rfl, ?_, rfl, ?_⟩
  · rw [hfindings, ← length_sources]
    exact List.length_map _
  · show (definitions (sources.map (·.file)) _).map (·.fact) = _
    rw [definitions_documents, map_fact_definitionsOf]
    rfl
  · rw [hfindings]
    exact length_facts sources
  · intro finding hmem hkind
    have hredefined : finding ∈ redefinitions [] (definitionsOf sources) := by
      rw [← filter_findings]
      exact List.mem_filter.mpr ⟨hfindings ▸ hmem, decide_eq_true hkind⟩
    obtain ⟨before, d, after, p, hds, hlast, rfl⟩ := mem_redefinitions_iff.mp hredefined
    exact ⟨before, d, after, p, (definitions_documents sources).trans hds, hlast, rfl, rfl, rfl⟩

/-- A document gives one name twice, and the second time is found. -/
theorem accounts_balance_of_twice :
    let text := "\x7b\"types\":[\x7b\"name\":\"A\",\"library\":\"l\"\x7d,"
      ++ "\x7b\"name\":\"A\",\"library\":\"m\"\x7d]\x7d"
    let t : FileTree := ⟨[(["a"], text.toUTF8.toList)], []⟩
    let r := Report.empty "tool" "1" "." "now"
    r.findings = []
    ∧ ∃ loaded, load [] t (selection "." ["a"] [] none) = .ok loaded
      ∧ (loaded.tell r).factsLoaded = 2
      ∧ (loaded.tell r).findings = [duplicateFinding "a" 1 "A" "a"]
      ∧ (loaded.tell r).factsLoaded = (Registry.ofFacts loaded.facts).size
          + (loaded.tell r).findings.countP (·.kind = .duplicateType) := by
  intro text t r
  have hload := load_lone text.toUTF8.toList
  obtain ⟨-, -, -, -, -, -, -, -, hsize, -⟩ := accounts_balance [] t "." ["a"] [] none r rfl hload
  refine ⟨rfl, _, hload, ?_, ?_, hsize⟩
  · decide +kernel
  · decide +kernel

end TypeLineage.Loading
