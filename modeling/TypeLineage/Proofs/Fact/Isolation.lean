import TypeLineage.Proofs.Fact.Loading
import TypeLineage.Proofs.Files.Scan

/-! # Invalid documents are isolated

    A file that gives no facts leaves the accumulators of loading as they are:
    it defines no name, so nothing that is found about names before or after it
    changes (`findings_without`).  Together with a scan that finds the other
    files as before (`Scan.candidates_of_put`) this makes loading with one more
    invalid file the same as loading without it, but for what concerns that
    file.

    How often it is counted depends on how often it is listed.  A scan lists a
    file once for each path that globs reach it by: `a` and `s/../a` are two
    paths to one file.  Where all paths are straight there is one. -/

namespace TypeLineage

/-- The finding is about a file that `apart` takes. -/
def Finding.isAbout (apart : String → Bool) (f : Finding) : Bool :=
  f.location.any fun l => apart l.file

namespace Loading

open Definition

variable {t : FileTree} {home root place : Place} {content : List UInt8} {problem : Problem}
variable {apart : String → Bool} {files : List String} {s : Source} {sources : List Source}
variable {past : List Definition} {finding : Finding} {file : String}

/-! ## Files one by one -/

/-- What is found goes file by file, and one file acts on the next through its
    definitions alone. -/
theorem findings_cons (past : List Definition) (s : Source) (rest : List Source) :
    findings (known past) (s :: rest)
      = findings (known past) [s]
        ++ findings (known (past ++ inFile s.file 0 s.facts)) rest := by
  cases hs : s.content with
  | error problem =>
      have hfacts : inFile s.file 0 s.facts = [] := by
        rw [Source.facts, hs]
        rfl
      rw [findings_of_error hs, findings_of_error hs, hfacts, List.append_nil]
      rfl
  | ok facts =>
      have hfacts : s.facts = facts := by rw [Source.facts, hs]
      rw [findings_of_ok hs, findings_of_ok hs, hfacts, List.append_assoc]
      rfl

/-- What is found in a file is about it. -/
theorem isAbout_of_mem_findings (h : finding ∈ findings (known past) [s]) :
    finding.isAbout apart = apart s.file := by
  cases hs : s.content with
  | error problem =>
      rw [findings_of_error hs] at h
      obtain rfl := List.mem_singleton.mp h
      rfl
  | ok facts =>
      rw [findings_of_ok hs, findings, List.append_nil] at h
      obtain ⟨before, d, after, p, hds, -, rfl⟩ := mem_redefinitions_iff.mp h
      have hd : d ∈ inFile s.file 0 facts := hds ▸ List.mem_append_right _ List.mem_cons_self
      obtain ⟨_, -, rfl⟩ := List.mem_map.mp hd
      rfl

/-! ## Files that give no facts -/

/-- What loading gives without some files: the same, if they give no facts for
    one and the same reason, but for the findings that say so. -/
structure Without (apart : String → Bool) (problem : Problem) (l l' : Loaded) : Prop where
  files_eq : l.files = l'.files.filter (!apart ·)
  facts_eq : l.facts = l'.facts
  others_eq : l.findings = l'.findings.filter (!·.isAbout apart)
  invalid_eq : l'.findings.filter (·.isAbout apart)
    = (l'.files.filter apart).map (invalidFinding · problem)

section Apart

variable (h : ∀ s ∈ sources, apart s.file = true → s.content = .error problem)
include h

/-- Without the files that give no facts everything else is found as before. -/
theorem findings_without (past : List Definition) :
    findings (known past) (sources.filter (!apart ·.file))
      = (findings (known past) sources).filter (!·.isAbout apart) := by
  induction sources generalizing past with
  | nil => rfl
  | cons s rest ih =>
      have hrest := ih fun s' hs' => h s' (List.mem_cons_of_mem s hs')
      rw [findings_cons, List.filter_append, ← hrest]
      cases happart : apart s.file with
      | true =>
          -- what is found in the file goes, what is known stays
          have hfacts : inFile s.file 0 s.facts = [] := by
            rw [Source.facts, h s List.mem_cons_self happart]
            rfl
          have hnone : (findings (known past) [s]).filter (!·.isAbout apart) = [] := by
            refine List.filter_eq_nil_iff.mpr fun finding hmem => ?_
            simp [isAbout_of_mem_findings hmem, happart]
          rw [List.filter_cons_of_neg (by simp [happart]), hnone, hfacts, List.append_nil,
            List.nil_append]
      | false =>
          have hall : (findings (known past) [s]).filter (!·.isAbout apart)
              = findings (known past) [s] := by
            refine List.filter_eq_self.mpr fun finding hmem => ?_
            simp [isAbout_of_mem_findings hmem, happart]
          rw [List.filter_cons_of_pos (by simp [happart]), findings_cons, hall]

/-- About the files that give no facts there is one finding each. -/
theorem findings_about (past : List Definition) :
    (findings (known past) sources).filter (·.isAbout apart)
      = ((sources.map (·.file)).filter apart).map (invalidFinding · problem) := by
  induction sources generalizing past with
  | nil => rfl
  | cons s rest ih =>
      have hrest := ih fun s' hs' => h s' (List.mem_cons_of_mem s hs')
      rw [findings_cons, List.filter_append, hrest, List.map_cons]
      cases happart : apart s.file with
      | true =>
          have hone : (findings (known past) [s]).filter (·.isAbout apart)
              = [invalidFinding s.file problem] := by
            rw [List.filter_eq_self.mpr fun finding hmem =>
                (isAbout_of_mem_findings hmem).trans happart,
              findings_of_error (h s List.mem_cons_self happart)]
            rfl
          rw [List.filter_cons_of_pos happart, hone, List.map_cons, List.singleton_append]
      | false =>
          have hnone : (findings (known past) [s]).filter (·.isAbout apart) = [] := by
            refine List.filter_eq_nil_iff.mpr fun finding hmem => ?_
            simp [isAbout_of_mem_findings hmem, happart]
          rw [List.filter_cons_of_neg (by simp [happart]), hnone, List.nil_append]

theorem facts_without :
    (sources.filter (!apart ·.file)).flatMap Source.facts = sources.flatMap Source.facts := by
  induction sources with
  | nil => rfl
  | cons s rest ih =>
      have hrest := ih fun s' hs' => h s' (List.mem_cons_of_mem s hs')
      rw [List.flatMap_cons, ← hrest]
      cases happart : apart s.file with
      | true =>
          have hfacts : s.facts = [] := by
            rw [Source.facts, h s List.mem_cons_self happart]
          rw [List.filter_cons_of_neg (by simp [happart]), hfacts, List.nil_append]
      | false => rw [List.filter_cons_of_pos (by simp [happart]), List.flatMap_cons]

theorem without_of_sources :
    Without apart problem (ofSources (sources.filter (!apart ·.file))) (ofSources sources) where
  files_eq := by
    show (sources.filter _).map (·.file) = (sources.map (·.file)).filter _
    rw [List.filter_map]
    rfl
  facts_eq := facts_without h
  others_eq := findings_without h []
  invalid_eq := findings_about h []

end Apart

/-! ## One more file -/

theorem load_eq_ok_iff {s : Selection} {loaded : Loaded} :
    load home t s = .ok loaded ↔ ∃ files, s.paths home t = .ok files
      ∧ ofSources (files.map (readSource t (Path.resolve home s.root))) = loaded := by
  unfold load
  exact bind_pure_eq_ok_iff

theorem readSource_put (h : Path.inside root file ≠ place) :
    readSource (t.put place content) root file = readSource t root file := by
  have htext : (t.put place content).text? (Path.inside root file)
      = t.text? (Path.inside root file) := by
    unfold FileTree.text?
    rw [FileTree.content?_put, if_neg h]
  unfold readSource
  rw [htext]

theorem content_readSource_put {problem : Document.Problem}
    (hinvalid : Document.ofText (Text.decodeUtf8 content) = .error problem)
    (h : Path.inside root file = place) :
    (readSource (t.put place content) root file).content = .error (.document problem) := by
  have htext : (t.put place content).text? (Path.inside root file)
      = some (Text.decodeUtf8 content) := by
    unfold FileTree.text?
    rw [FileTree.content?_put, if_pos h]
    rfl
  unfold readSource
  rw [htext]
  show (Document.ofText _).mapError Problem.document = _
  rw [hinvalid]
  rfl

/-- Loading the files that do not lead to an invalid document is loading all of
    them, without what the others give. -/
theorem without_put {problem : Document.Problem} (t : FileTree) (root place : Place)
    (files : List String) (hinvalid : Document.ofText (Text.decodeUtf8 content) = .error problem) :
    Without (Path.leadsTo root place) (.document problem)
      (ofSources ((files.filter (!Path.leadsTo root place ·)).map (readSource t root)))
      (ofSources (files.map (readSource (t.put place content) root))) := by
  have hothers : (files.filter (!Path.leadsTo root place ·)).map (readSource t root)
      = (files.map (readSource (t.put place content) root)).filter
          (!Path.leadsTo root place ·.file) := by
    rw [List.filter_map]
    refine List.map_congr_left fun path hpath => (readSource_put fun hplace => ?_).symm
    have hleads : Path.leadsTo root place path = true := decide_eq_true hplace
    simpa [hleads] using (List.mem_filter.mp hpath).2
  rw [hothers]
  refine without_of_sources fun s hs happart => ?_
  obtain ⟨path, -, rfl⟩ := List.mem_map.mp hs
  exact content_readSource_put hinvalid (of_decide_eq_true happart)

theorem files_ofSources (t : FileTree) (root : Place) (files : List String) :
    (ofSources (files.map (readSource t root))).files = files := by
  show (files.map (readSource t root)).map (·.file) = files
  rw [List.map_map]
  exact List.map_id files

theorem Without.tell_eq {l l' : Loaded} (h : Without apart problem l l') (r : Report) :
    l'.tell r = { l.tell r with
      filesScanned := (l.tell r).filesScanned + (l'.files.filter apart).length
      findings := r.findings ++ l'.findings } := by
  have hfiles : l'.files.length = l.files.length + (l'.files.filter apart).length := by
    rw [h.files_eq, Nat.add_comm]
    exact List.length_eq_length_filter_add apart
  unfold Loaded.tell Report.addAll
  rw [h.facts_eq, hfiles]

/-- **An invalid document is isolated**: where one is added, the facts stay, the
    report counts the paths it is listed under and has one finding for each of
    them, and there is one such path if all of them are straight. -/
theorem load_put_invalid {home : Place} {t : FileTree} {root : String}
    {includes excludes : List String} {place : Place} {content : List UInt8}
    {problem : Document.Problem} {found : List Scan.Candidate} {loaded' : Loaded}
    (hnew : t.isFile place = false)
    (hnames : (t.put place content).IsNamed)
    (hinvalid : Document.ofText (Text.decodeUtf8 content) = .error problem)
    (hload : load home (t.put place content) (selection root includes excludes none)
      = .ok loaded')
    (hfound : (selection root includes excludes none).found home (t.put place content)
      = .ok found)
    (hselected : ∃ c ∈ found, c.place = place)
    (hplain : (selection root includes excludes none).ListsPlainly home place found) :
    let apart := Path.leadsTo (Path.resolve home root) place
    ∃ loaded listed, load home t (selection root includes excludes none) = .ok loaded
      ∧ listed = loaded'.files.filter apart ∧ listed.Nodup ∧ 0 < listed.length
      ∧ ((∀ path ∈ listed, Path.IsStraight (Glob.dropDot path)) → listed.length = 1)
      ∧ loaded.facts = loaded'.facts
      ∧ loaded.files = loaded'.files.filter (!apart ·)
      ∧ ∀ r : Report, ∃ findings,
          loaded'.tell r = { loaded.tell r with
            filesScanned := (loaded.tell r).filesScanned + listed.length
            findings := r.findings ++ findings }
          ∧ (loaded.tell r).findings = r.findings ++ findings.filter (!·.isAbout apart)
          ∧ findings.filter (·.isAbout apart)
              = listed.map (invalidFinding · (.document problem)) := by
  intro apart
  obtain ⟨files, hpaths, hloaded⟩ := load_eq_ok_iff.mp hload
  change ofSources (files.map (readSource _ (Path.resolve home root))) = loaded' at hloaded
  obtain rfl : loaded'.files = files := by
    rw [← hloaded]
    exact files_ofSources _ _ files
  have hwithout := without_put t (Path.resolve home root) place loaded'.files hinvalid
  rw [hloaded] at hwithout
  have hnodup := Selection.nodup_leading rfl hnames hfound hpaths hplain
  have hpositive := Selection.length_leading_pos rfl hnames hfound hpaths hplain hselected
  have hone := Selection.length_leading_le_one rfl hnames hfound hpaths hplain
  have hothers := Selection.paths_of_put rfl hnames hfound hpaths hplain hnew
  refine ⟨_, loaded'.files.filter apart, load_eq_ok_iff.mpr ⟨_, hothers, rfl⟩, rfl, hnodup,
    hpositive, fun hstraight => ?_, hwithout.facts_eq, hwithout.files_eq, fun r =>
    ⟨loaded'.findings, hwithout.tell_eq r, ?_, hwithout.invalid_eq⟩⟩
  · exact Nat.le_antisymm (hone fun path hpath hleads =>
      hstraight path (List.mem_filter.mpr ⟨hpath, hleads⟩)) hpositive
  · rw [← hwithout.others_eq]
    rfl

/-- Two documents define one name, and between them stands a text that is none:
    the name is found twice as before. -/
theorem load_put_invalid_between :
    let document := "\x7b\"types\":[\x7b\"name\":\"A\",\"library\":\"l\"\x7d]\x7d".toUTF8.toList
    let t : FileTree := ⟨[(["a"], document), (["z"], document)], []⟩
    let s := selection "." ["a", "m", "z"] [] none
    ∃ loaded loaded', load [] t s = .ok loaded
      ∧ load [] (t.put ["m"] "x".toUTF8.toList) s = .ok loaded'
      ∧ loaded.facts = loaded'.facts
      ∧ loaded'.findings
          = [invalidFinding "m" (.document .malformed), duplicateFinding "z" 0 "A" "a"]
      ∧ ∀ r : Report, (loaded'.tell r).filesScanned = (loaded.tell r).filesScanned + 1
          ∧ (loaded.tell r).findings = r.findings ++ [duplicateFinding "z" 0 "A" "a"] := by
  intro document t s
  have hfound : s.found [] (t.put ["m"] "x".toUTF8.toList)
      = .ok [.ofPath "a" ["a"], .ofPath "m" ["m"], .ofPath "z" ["z"]] := by decide +kernel
  have hload : load [] (t.put ["m"] "x".toUTF8.toList) s = .ok _ :=
    load_eq_ok_iff.mpr
      ⟨_, Selection.paths_of_ordered rfl (by decide +kernel) hfound (by decide +kernel), rfl⟩
  have hinvalid : Document.ofText (Text.decodeUtf8 "x".toUTF8.toList) = .error .malformed := by
    decide +kernel
  obtain ⟨loaded, listed, hwithout, hlisted, -, -, hone, hfacts, -, htell⟩ :=
    load_put_invalid (by decide +kernel) (by decide +kernel) hinvalid hload hfound
      ⟨_, List.mem_cons_of_mem _ List.mem_cons_self, rfl⟩ (by decide +kernel)
  have hlength : listed.length = 1 := hone (hlisted ▸ by decide +kernel)
  refine ⟨loaded, _, hwithout, hload, hfacts, by decide +kernel, fun r => ?_⟩
  obtain ⟨findings, hr, hothers, -⟩ := htell r
  have hfindings : findings
      = [invalidFinding "m" (.document .malformed), duplicateFinding "z" 0 "A" "a"] :=
    (List.append_cancel_left (congrArg Report.findings hr)).symm.trans (by decide +kernel)
  refine ⟨by rw [hr, hlength], ?_⟩
  rw [hothers, hfindings]
  congr 1
  decide +kernel

/-! ## A file under two paths -/

/-- A lone file that is listed under two paths is counted twice, and there are
    two findings about it. -/
theorem counted_twice :
    let t : FileTree := ⟨[(["s", "b"], "x".toUTF8.toList)], []⟩
    let s := selection "." ["a", "s/../a"] [] none
    t.isFile ["a"] = false
      ∧ (∀ facts, Document.ofText (Text.decodeUtf8 "x".toUTF8.toList) ≠ .ok facts)
      ∧ ∃ loaded loaded', load [] t s = .ok loaded
        ∧ load [] (t.put ["a"] "x".toUTF8.toList) s = .ok loaded'
        ∧ "a" ∈ loaded'.files
        ∧ ∀ r : Report, (loaded'.tell r).filesScanned = (loaded.tell r).filesScanned + 2
            ∧ (loaded'.tell r).findings = (loaded.tell r).findings
                ++ [invalidFinding "a" (.document .malformed),
                    invalidFinding "s/../a" (.document .malformed)] := by
  intro t s
  have hfound : s.found [] t = .ok [] := by decide +kernel
  have hfound' : s.found [] (t.put ["a"] "x".toUTF8.toList)
      = .ok [.ofPath "a" ["a"], .ofPath "s/../a" ["a"]] := by decide +kernel
  have hload : load [] t s = .ok _ :=
    load_eq_ok_iff.mpr
      ⟨_, Selection.paths_of_ordered rfl (by decide +kernel) hfound (by decide +kernel), rfl⟩
  have hload' : load [] (t.put ["a"] "x".toUTF8.toList) s = .ok _ :=
    load_eq_ok_iff.mpr
      ⟨_, Selection.paths_of_ordered rfl (by decide +kernel) hfound' (by decide +kernel), rfl⟩
  have hinvalid : Document.ofText (Text.decodeUtf8 "x".toUTF8.toList) = .error .malformed := by
    decide +kernel
  refine ⟨by decide +kernel, fun facts h => ?_, _, _, hload, hload', ?_, fun r => ⟨rfl, ?_⟩⟩
  · rw [hinvalid] at h
    exact nomatch h
  · decide +kernel
  · show r.findings ++ _ = (r.findings ++ _) ++ _
    rw [List.append_assoc]
    congr 1
    decide +kernel

end Loading

end TypeLineage
