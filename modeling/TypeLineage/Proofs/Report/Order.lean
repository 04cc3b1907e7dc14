import Mathlib
import TypeLineage.Extract.Extraction
import TypeLineage.Proofs.Fact.Loading
import TypeLineage.Proofs.Report.Counting
import TypeLineage.Proofs.Text.Collation

/-! # The order of findings is not seen

    A report in Markdown brings its findings into orders of its own three times:
    the table of all findings, the counts of the kinds, and the names that are
    missing most.  Where the dictionary order tells the texts apart that it
    compares, each of these is one list for all orders of the findings
    (`write_eq_of_perm`).  Counts have distinct labels; of findings that are
    alike in all that is compared only the severity could show the order. -/

namespace TypeLineage.Markdown

open Text (collate)

variable {fs gs : List Finding} {relation : RelationKind}

/-- The dictionary order tells the texts apart. -/
def ToldApart (texts : List String) : Prop := ∀ a ∈ texts, ∀ b ∈ texts, collate a b = .eq → a = b

instance (texts : List String) : Decidable (ToldApart texts) :=
  inferInstanceAs (Decidable (∀ a ∈ texts, ∀ b ∈ texts, collate a b = .eq → a = b))

/-- The missing names of a relation, each as often as it is mentioned. -/
def mentioned (fs : List Finding) (relation : RelationKind) : List String :=
  (fs.filter (·.kind = .dangling relation)).map Finding.target

/-- The dictionary order tells the texts of findings apart, each sort by
    itself. -/
structure Distinguished (fs : List Finding) : Prop where
  kinds : ToldApart (fs.map (·.kind.word))
  places : ToldApart (fs.map (·.place))
  messages : ToldApart (fs.map (·.message))
  targets : ∀ relation, ToldApart (mentioned fs relation)

/-- What findings are compared by. -/
def compared (f : Finding) : String × String × String := (f.kind.word, f.place, f.message)

/-- Findings that are alike in what is compared are alike in severity. -/
def SeverityTold (fs : List Finding) : Prop :=
  ∀ f ∈ fs, ∀ g ∈ fs, compared f = compared g → f.severity.word = g.severity.word

instance (fs : List Finding) : Decidable (SeverityTold fs) :=
  inferInstanceAs (Decidable (∀ f ∈ fs, ∀ g ∈ fs,
    compared f = compared g → f.severity.word = g.severity.word))

theorem ToldApart.of_subset {texts others : List String} (h : ToldApart texts)
    (hsub : others ⊆ texts) : ToldApart others :=
  fun a ha b hb => h a (hsub ha) b (hsub hb)

/-! ## Tables of counts -/

/-- Rows with labels of their own stand in one order. -/
theorem sortRows_eq_of_perm {rows others : List (String × String)} (hperm : rows.Perm others)
    (hnd : (rows.map (·.1)).Nodup) (h : ToldApart (rows.map (·.1))) :
    sortRows rows = sortRows others := by
  have horder := Text.transCmp_on collate (Prod.fst : String × String → String)
  unfold sortRows
  refine Text.mergeSort_eq_of_perm hperm fun a ha b hb hab => ?_
  exact List.inj_on_of_nodup_map hnd ha hb
    (h a.1 (List.mem_map_of_mem ha) b.1 (List.mem_map_of_mem hb) hab)

/-- The rows of a table of counts, before they are sorted. -/
def countRows (counts : Counts) : List (String × String) :=
  Json.indicesFirst (counts.map fun p => (p.1, p.2.written))

theorem countTable_eq (counts : Counts) :
    countTable counts
      = ["| Kind | Count |", "|---|---:|"]
        ++ (sortRows (countRows counts)).map (fun row => tableRow [row.1, row.2])
        ++ (if counts.isEmpty then [tableRow ["(none)", "0"]] else [])
        ++ [""] :=
  rfl

theorem countRows_perm (counts : Counts) :
    (countRows counts).Perm (counts.map fun p => (p.1, p.2.written)) :=
  Json.indicesFirst_perm _

theorem keys_countRows_perm (counts : Counts) :
    ((countRows counts).map (·.1)).Perm (counts.map (·.1)) := by
  have hkeys := (countRows_perm counts).map Prod.fst
  rwa [List.map_map] at hkeys

theorem countTable_eq_of_perm {counts others : Counts} (hperm : counts.Perm others)
    (hnd : (counts.map (·.1)).Nodup) (h : ToldApart (counts.map (·.1))) :
    countTable counts = countTable others := by
  have hlabels := keys_countRows_perm counts
  have hrows : sortRows (countRows counts) = sortRows (countRows others) :=
    sortRows_eq_of_perm
      ((countRows_perm counts).trans ((hperm.map _).trans (countRows_perm others).symm))
      (hlabels.nodup_iff.mpr hnd) (h.of_subset hlabels.subset)
  rw [countTable_eq, countTable_eq, hrows, hperm.isEmpty_eq]

/-! ## Missing names -/

/-- The order of the names that are missing: by descending count, then as in a
    dictionary. -/
def compareTargets (a b : String × Int) : Ordering := (compare b.2 a.2).then (collate a.1 b.1)

instance : Std.TransCmp compareTargets := by
  have hcounts := Text.transCmp_on (fun m n : Int => compare n m) (Prod.snd : String × Int → Int)
  have hnames := Text.transCmp_on collate (Prod.fst : String × Int → String)
  exact inferInstanceAs (Std.TransCmp (compareLex
    (fun a b : String × Int => compare b.2 a.2) fun a b => collate a.1 b.1))

theorem isLE_compareTargets (a b : String × Int) :
    (compareTargets a b).isLE
      = (decide (b.2 < a.2) || (a.2 == b.2 && (collate a.1 b.1).isLE)) := by
  unfold compareTargets
  rcases Int.lt_trichotomy b.2 a.2 with h | h | h
  · rw [compare_lt_iff_lt.mpr h, decide_eq_true h]
    rfl
  · rw [compare_eq_iff_eq.mpr h, decide_eq_false (by omega), beq_iff_eq.mpr h.symm]
    rfl
  · rw [compare_gt_iff_gt.mpr h, decide_eq_false (by omega), beq_eq_false_iff_ne.mpr (by omega)]
    rfl

theorem topTargets_eq (fs : List Finding) (relation : RelationKind) :
    topTargets fs relation
      = ((tally (mentioned fs relation)).mergeSort fun a b => (compareTargets a b).isLE).take
          targetLimit := by
  simp only [isLE_compareTargets]
  rfl

theorem topTargets_eq_of_perm (hperm : fs.Perm gs) (h : ToldApart (mentioned fs relation)) :
    topTargets fs relation = topTargets gs relation := by
  have hmentioned : (mentioned fs relation).Perm (mentioned gs relation) :=
    (hperm.filter _).map _
  have htargets : ∀ p ∈ tally (mentioned fs relation), p.1 ∈ mentioned fs relation := fun p hp =>
    (mem_tally_iff.mp hp).1
  rw [topTargets_eq, topTargets_eq,
    Text.mergeSort_eq_of_perm (tally_perm hmentioned) fun a ha b hb hab => ?_]
  -- names that compare as equal are one name, and a name has one count
  have hname : a.1 = b.1 := h _ (htargets a ha) _ (htargets b hb) (Ordering.then_eq_eq.mp hab).2
  exact List.inj_on_of_nodup_map (nodup_tally _) ha hb hname

theorem danglingSection_eq_of_perm (hperm : fs.Perm gs)
    (h : ∀ relation, ToldApart (mentioned fs relation)) :
    danglingSection fs = danglingSection gs := by
  have hsections : targetSection fs = targetSection gs := funext fun relation => by
    unfold targetSection
    rw [topTargets_eq_of_perm hperm (h relation)]
  unfold danglingSection
  rw [hperm.any_eq, hsections]

/-! ## The table of findings -/

/-- Findings are compared by kind, then place, then message. -/
def compareParts (a b : String × String × String) : Ordering :=
  ((collate a.1 b.1).then (collate a.2.1 b.2.1)).then (collate a.2.2 b.2.2)

instance : Std.TransCmp compareParts := by
  have hkinds := Text.transCmp_on collate (Prod.fst : String × String × String → String)
  have hplaces := Text.transCmp_on collate fun p : String × String × String => p.2.1
  have hmessages := Text.transCmp_on collate fun p : String × String × String => p.2.2
  exact inferInstanceAs (Std.TransCmp (compareLex (compareLex
    (fun a b : String × String × String => collate a.1 b.1) fun a b => collate a.2.1 b.2.1)
    fun a b => collate a.2.2 b.2.2))

theorem map_compared_sortFindings (fs : List Finding) :
    (sortFindings fs).map compared
      = (fs.map compared).mergeSort fun a b => (compareParts a b).isLE :=
  List.map_mergeSort fun _ _ _ _ => rfl

/-- Sorted findings show the same parts, whatever order they came in. -/
theorem map_compared_eq_of_perm (hperm : fs.Perm gs) (h : Distinguished fs) :
    (sortFindings fs).map compared = (sortFindings gs).map compared := by
  rw [map_compared_sortFindings, map_compared_sortFindings]
  refine Text.mergeSort_eq_of_perm (hperm.map compared) fun a ha b hb hab => ?_
  obtain ⟨f, hf, rfl⟩ := List.mem_map.mp ha
  obtain ⟨g, hg, rfl⟩ := List.mem_map.mp hb
  obtain ⟨hboth, hmessage⟩ := Ordering.then_eq_eq.mp hab
  obtain ⟨hkind, hplace⟩ := Ordering.then_eq_eq.mp hboth
  exact Prod.ext
    (h.kinds _ (List.mem_map_of_mem hf) _ (List.mem_map_of_mem hg) hkind)
    (Prod.ext (h.places _ (List.mem_map_of_mem hf) _ (List.mem_map_of_mem hg) hplace)
      (h.messages _ (List.mem_map_of_mem hf) _ (List.mem_map_of_mem hg) hmessage))

theorem findingRow_congr {f g : Finding} (hparts : compared f = compared g)
    (hseverity : f.severity.word = g.severity.word) : findingRow f = findingRow g := by
  obtain ⟨hkind, hrest⟩ := Prod.mk.inj hparts
  obtain ⟨hplace, hmessage⟩ := Prod.mk.inj hrest
  unfold findingRow
  rw [hseverity, hkind, hplace, hmessage]

/-- Lists with the same parts have the same rows. -/
theorem map_findingRow_eq (hparts : fs.map compared = gs.map compared)
    (h : ∀ f ∈ fs, ∀ g ∈ gs, compared f = compared g → f.severity.word = g.severity.word) :
    fs.map findingRow = gs.map findingRow := by
  induction fs generalizing gs with
  | nil =>
      obtain rfl := List.map_eq_nil_iff.mp hparts.symm
      rfl
  | cons f fs ih =>
      obtain ⟨g, gs, rfl⟩ := List.exists_cons_of_ne_nil (l := gs) (by rintro rfl; exact nomatch hparts)
      obtain ⟨hfirst, hrest⟩ := List.cons.inj hparts
      rw [List.map_cons, List.map_cons,
        findingRow_congr hfirst (h f List.mem_cons_self g List.mem_cons_self hfirst),
        ih hrest fun f hf g hg => h f (List.mem_cons_of_mem _ hf) g (List.mem_cons_of_mem _ hg)]

theorem findingTable_eq_of_perm (hperm : fs.Perm gs) (h : Distinguished fs)
    (hseverity : SeverityTold fs) : findingTable fs = findingTable gs := by
  have hsorted : ∀ hs : List Finding, (sortFindings hs).Perm hs := fun hs =>
    List.mergeSort_perm hs _
  have hrows : (sortFindings fs).map findingRow = (sortFindings gs).map findingRow :=
    map_findingRow_eq (map_compared_eq_of_perm hperm h) fun f hf g hg =>
      hseverity f ((hsorted fs).mem_iff.mp hf) g (hperm.mem_iff.mpr ((hsorted gs).mem_iff.mp hg))
  unfold findingTable
  rw [hrows, hperm.isEmpty_eq]

/-! ## What the program finds

    A finding that the program makes has the severity that goes with its
    kind. -/

/-- Findings that the program makes: when it loads documents, when it extracts
    facts, and when it looks through a registry. -/
inductive Made : Finding → Prop
  | loading {f : Finding} {sources : List Loading.Source} (h : f ∈ Loading.findings [] sources) :
      Made f
  | extraction {f : Finding} {files : List Extract.FileFacts} (h : f ∈ Extract.findings [] files) :
      Made f
  | diagnosis {f : Finding} {r : Registry} (h : f ∈ r.diagnose) : Made f

/-- The severity that goes with a kind. -/
def usualSeverity (kind : FindingKind) : Severity :=
  if kind.word = FindingKind.invalidFactFile.word then .error else .warning

theorem mem_findingsOfFile_cases {f : Finding} {library : String} {facts : List TypeFact}
    {declared : List (String × String)}
    (h : f ∈ (Extract.findingsOfFile library declared facts).1) :
    ∃ name previous, f = Extract.duplicateFinding library name previous := by
  induction facts generalizing declared with
  | nil => exact nomatch h
  | cons fact facts ih =>
      unfold Extract.findingsOfFile at h
      dsimp only at h
      split at h
      · split at h
        · rcases List.mem_cons.mp h with rfl | h
          · exact ⟨_, _, rfl⟩
          · exact ih h
        · exact ih h
      · exact ih h

theorem mem_findings_extract_cases {f : Finding} {files : List Extract.FileFacts}
    {declared : List (String × String)} (h : f ∈ Extract.findings declared files) :
    ∃ library name previous, f = Extract.duplicateFinding library name previous := by
  induction files generalizing declared with
  | nil => exact nomatch h
  | cons file files ih =>
      rcases List.mem_append.mp h with h | h
      · exact ⟨_, mem_findingsOfFile_cases h⟩
      · exact ih h

theorem usualSeverity_dangling (relation : RelationKind) :
    usualSeverity (.dangling relation) = .warning := by
  cases relation <;> decide

theorem Made.severity {f : Finding} (h : Made f) : f.severity = usualSeverity f.kind := by
  have hduplicate : usualSeverity .duplicateType = .warning := by decide
  have hcycle : usualSeverity .superclassCycle = .warning := by decide
  cases h with
  | loading h =>
      rcases Loading.mem_findings_cases [] h with ⟨_, _, rfl⟩ | ⟨_, _, _, _, rfl⟩
      · rfl
      · exact hduplicate.symm
  | extraction h =>
      obtain ⟨_, _, _, rfl⟩ := mem_findings_extract_cases h
      exact hduplicate.symm
  | diagnosis h =>
      rcases List.mem_append.mp h with h | h
      · obtain ⟨_, -, h⟩ := List.mem_flatMap.mp h
        obtain ⟨relation, -, h⟩ := List.mem_flatMap.mp h
        obtain ⟨_, -, rfl⟩ := List.mem_map.mp h
        exact (usualSeverity_dangling relation).symm
      · obtain ⟨_, -, rfl⟩ := List.mem_map.mp h
        exact hcycle.symm

theorem severityTold_of_made (h : ∀ f ∈ fs, Made f) : SeverityTold fs := by
  intro f hf g hg hparts
  have hkind : f.kind.word = g.kind.word := congrArg Prod.fst hparts
  rw [(h f hf).severity, (h g hg).severity]
  unfold usualSeverity
  rw [hkind]

/-! ## The report -/

theorem write_congr_of_perm (r : Report) {findings : List Finding}
    (hperm : r.findings.Perm findings) (h : Distinguished r.findings)
    (hseverity : SeverityTold r.findings) :
    write { r with findings := findings } = write r := by
  have hwords : (r.findings.map (·.kind.word)).Perm (findings.map (·.kind.word)) := hperm.map _
  have hsummary : countTable (.ofWords (r.findings.map (·.kind.word)))
      = countTable (.ofWords (findings.map (·.kind.word))) :=
    countTable_eq_of_perm (Counts.ofWords_perm hwords) (Counts.nodup_ofWords _)
      (h.kinds.of_subset (Counts.keys_ofWords_subset _))
  have hheader : header { r with findings := findings } = header r := by
    unfold header
    rw [hperm.length_eq, hperm.countP_eq]
  unfold write lines
  rw [hheader, hsummary, danglingSection_eq_of_perm hperm h.targets,
    findingTable_eq_of_perm hperm h hseverity]

/-- Two names that are missing and a document that gives no facts. -/
def reportOfThree : Report :=
  { Report.empty "tool" "1" "src" "now" with
    findings := [
      Registry.danglingFinding { (default : TypeFact) with name := "b.B" } .superclass "c.C",
      Loading.invalidFinding "a" .unreadable,
      Registry.danglingFinding { (default : TypeFact) with name := "a.A" } .superclass "c.C"] }

end TypeLineage.Markdown
