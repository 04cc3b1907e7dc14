import TypeLineage.Proofs.Report.Order
import TypeLineage.Proofs.Report.Table

/-! # The figures of a report agree

    A report in Markdown counts its findings four times: in its header, by kind
    in the summary, by target in the tables of missing names, and with the rows
    of its last table.  A reader finds a table below its heading, since no row
    looks like a heading (`rowsUnder`), and what stands in the tables are the
    figures of one list of findings (`lines_agree`). -/

namespace TypeLineage.Markdown

open Number (decimalText)

variable {fs : List Finding} {relation other : RelationKind} {r : Report} {row : String}
  {heading : String} {xs ys rows : List String}

/-! ## Reading a table -/

/-- The rows of the table below a heading: behind an empty line and the two
    lines of the head of the table, up to the next empty line. -/
def rowsUnder (heading : String) (ls : List String) : List String :=
  ((ls.dropWhile (· ≠ heading)).drop 4).takeWhile (· ≠ "")

theorem rowsUnder_append (h : heading ∉ xs) (ys : List String) :
    rowsUnder heading (xs ++ ys) = rowsUnder heading ys := by
  unfold rowsUnder
  rw [List.dropWhile_append_of_pos fun _ hx => decide_eq_true (ne_of_mem_of_not_mem hx h)]

theorem rowsUnder_of_not_mem (h : heading ∉ xs) : rowsUnder heading xs = [] := by
  have := rowsUnder_append h []
  rwa [List.append_nil] at this

theorem rowsUnder_table (h : "" ∉ rows) (a b c : String) (rest : List String) :
    rowsUnder heading (heading :: a :: b :: c :: (rows ++ "" :: rest)) = rows := by
  unfold rowsUnder
  rw [List.dropWhile_cons_of_neg (by simp)]
  show (rows ++ "" :: rest).takeWhile _ = rows
  rw [List.takeWhile_append_of_pos fun _ hx => decide_eq_true (ne_of_mem_of_not_mem hx h),
    List.takeWhile_cons_of_neg (by simp), List.append_nil]

/-! ## Headings -/

/-- The line is a heading. -/
def isHeading (line : String) : Bool := line.toList.head? == some '#'

theorem isHeading_append {s : String} (h : s.toList ≠ []) (t : String) :
    isHeading (s ++ t) = isHeading s := by
  unfold isHeading
  rw [String.toList_append, List.head?_append_of_ne_nil _ h]

theorem isHeading_tableRow (cells : List String) : isHeading (tableRow cells) = false := by
  unfold tableRow
  rw [String.append_assoc, isHeading_append (by decide)]
  decide

theorem tableRow_ne_empty (cells : List String) : tableRow cells ≠ "" := by
  unfold tableRow
  rw [String.append_assoc]
  exact fun h => absurd (congrArg String.toList h) (by rw [String.toList_append]; exact nofun)

/-- The headings among some lines. -/
def headings (ls : List String) : List String := ls.filter isHeading

@[simp]
theorem headings_append (xs ys : List String) : headings (xs ++ ys) = headings xs ++ headings ys :=
  List.filter_append xs ys

@[simp]
theorem headings_map_tableRow {α : Type} (cells : α → List String) (as : List α) :
    headings (as.map fun a => tableRow (cells a)) = [] := by
  refine List.filter_eq_nil_iff.mpr fun line hline => ?_
  obtain ⟨a, -, rfl⟩ := List.mem_map.mp hline
  rw [isHeading_tableRow]
  exact Bool.false_ne_true

theorem not_mem_of_headings (hheading : isHeading heading = true) (h : heading ∉ headings xs) :
    heading ∉ xs :=
  fun hmem => h (List.mem_filter.mpr ⟨hmem, hheading⟩)

theorem headings_header (r : Report) : headings (header r) = ["# Type index report"] := by
  simp [headings, header, isHeading]

theorem headings_statisticsTable (s : Statistics) : headings (statisticsTable s) = [] := by
  unfold statisticsTable
  rw [headings_append, headings_append, headings_map_tableRow]
  decide

theorem headings_countTable (counts : Counts) : headings (countTable counts) = [] := by
  rw [countTable_eq, headings_append, headings_append, headings_append, headings_map_tableRow]
  cases counts <;> rfl

theorem headings_findingTable (fs : List Finding) : headings (findingTable fs) = [] := by
  unfold findingTable findingRow
  rw [headings_append, headings_append, headings_append, headings_map_tableRow]
  cases fs <;> rfl

/-- The heading of the missing names of a relation. -/
def targetHeading (relation : RelationKind) : String :=
  "### " ++ (FindingKind.dangling relation).word

theorem isHeading_targetHeading (relation : RelationKind) :
    isHeading (targetHeading relation) = true := by
  cases relation <;> decide

theorem targetHeading_injective : Function.Injective targetHeading := by
  intro relation other
  cases relation <;> cases other <;> decide

theorem headings_targetSection (fs : List Finding) (relation : RelationKind) :
    headings (targetSection fs relation) ⊆ [targetHeading relation] := by
  unfold targetSection
  split
  · exact List.nil_subset _
  · rw [headings_append, headings_append, headings_map_tableRow]
    cases relation <;> decide

theorem targetHeading_not_mem (h : other ≠ relation) :
    targetHeading relation ∉ targetSection fs other := by
  refine not_mem_of_headings (isHeading_targetHeading relation) fun hmem => h ?_
  exact targetHeading_injective (List.mem_singleton.mp (headings_targetSection fs other hmem)).symm

/-! ## What stands below the headings -/

/-- The lines before the summary. -/
def beforeSummary (r : Report) : List String :=
  header r ++ ["## Statistics", ""] ++ statisticsTable r.statistics
    ++ ["### Relations by kind", ""] ++ countTable r.relationCounts

/-- The words for the kinds of findings, as often as there are findings. -/
def kindWords (fs : List Finding) : List String := fs.map (·.kind.word)

/-- How many findings there are of each kind. -/
def kindCounts (fs : List Finding) : Counts := .ofWords (kindWords fs)

/-- The rows of the summary, with their numbers in words. -/
def summaryRows (fs : List Finding) : List (String × String) :=
  sortRows (countRows (kindCounts fs))

theorem lines_eq (r : Report) :
    lines r = beforeSummary r ++ ("## Findings summary" :: "" :: countTable (kindCounts r.findings)
      ++ (danglingSection r.findings
        ++ ("## All findings" :: "" :: findingTable r.findings))) := by
  unfold lines beforeSummary kindCounts kindWords
  simp only [List.append_assoc, List.cons_append, List.nil_append]

theorem not_mem_beforeSummary (r : Report) (hheading : isHeading heading = true)
    (h : heading ∉ ["# Type index report", "## Statistics", "### Relations by kind"]) :
    heading ∉ beforeSummary r := by
  refine not_mem_of_headings hheading ?_
  have hheadings : headings (beforeSummary r)
      = ["# Type index report", "## Statistics", "### Relations by kind"] := by
    unfold beforeSummary
    simp only [headings_append, headings_header, headings_statisticsTable, headings_countTable]
    decide
  rwa [hheadings]

/-- A table stands below its own heading only. -/
theorem not_mem_section {title : String} {table : List String} (htable : headings table = [])
    (hheading : isHeading heading = true) (h : heading ≠ title) :
    heading ∉ title :: "" :: table := by
  have hempty : heading ≠ "" := by
    rintro rfl
    exact absurd hheading (by decide)
  have hrest : heading ∉ table := not_mem_of_headings hheading (htable ▸ List.not_mem_nil)
  rw [List.mem_cons, List.mem_cons, not_or, not_or]
  exact ⟨h, hempty, hrest⟩

theorem headings_danglingSection (fs : List Finding) :
    headings (danglingSection fs)
      ⊆ "## Top dangling references" :: RelationKind.all.map targetHeading := by
  unfold danglingSection
  split
  · rw [headings_append]
    refine List.append_subset.mpr ⟨by decide, fun line hline => List.mem_cons_of_mem _ ?_⟩
    unfold headings at hline
    rw [List.filter_flatMap] at hline
    obtain ⟨relation, hrelation, hline⟩ := List.mem_flatMap.mp hline
    rw [List.mem_singleton.mp (headings_targetSection fs relation hline)]
    exact List.mem_map_of_mem hrelation
  · exact List.nil_subset _

/-- The lines of the summary: a row for each kind, or one for nothing. -/
theorem rowsUnder_summary (r : Report) :
    rowsUnder "## Findings summary" (lines r)
      = (summaryRows r.findings).map (fun row => tableRow [row.1, row.2])
        ++ (if (kindCounts r.findings).isEmpty then [tableRow ["(none)", "0"]] else []) := by
  rw [lines_eq, rowsUnder_append (not_mem_beforeSummary r (by decide) (by decide)), countTable_eq]
  unfold summaryRows
  simp only [List.append_assoc, List.cons_append, List.nil_append]
  rw [← List.append_assoc, rowsUnder_table]
  rw [List.mem_append, not_or]
  refine ⟨fun h => ?_, fun h => ?_⟩
  · obtain ⟨row, -, hrow⟩ := List.mem_map.mp h
    exact tableRow_ne_empty _ hrow
  · split at h
    · exact tableRow_ne_empty _ (List.mem_singleton.mp h).symm
    · exact nomatch h

/-- The row for no findings. -/
def nothingRow : String := "| (none) | (none) |  |  |"

/-- The lines of the last table: a row for each finding, or one for nothing. -/
theorem rowsUnder_findings (r : Report) :
    rowsUnder "## All findings" (lines r)
      = (sortFindings r.findings).map findingRow
        ++ (if r.findings.isEmpty then [nothingRow] else []) := by
  have hdangling : "## All findings" ∉ danglingSection r.findings :=
    not_mem_of_headings (by decide) fun h =>
      absurd (headings_danglingSection r.findings h) (by decide)
  rw [lines_eq, rowsUnder_append (not_mem_beforeSummary r (by decide) (by decide)),
    rowsUnder_append (not_mem_section (headings_countTable _) (by decide) (by decide)),
    rowsUnder_append hdangling]
  unfold findingTable nothingRow
  simp only [List.append_assoc, List.cons_append, List.nil_append]
  rw [← List.append_assoc, rowsUnder_table]
  rw [List.mem_append, not_or]
  refine ⟨fun h => ?_, fun h => ?_⟩
  · obtain ⟨f, -, hrow⟩ := List.mem_map.mp h
    exact tableRow_ne_empty _ hrow
  · revert h
    split <;> decide

theorem isDangling_dangling (relation : RelationKind) :
    (FindingKind.dangling relation).isDangling = true := by
  cases relation <;> decide +kernel

theorem topTargets_eq_nil (h : fs.any (·.kind.isDangling) = false) (relation : RelationKind) :
    topTargets fs relation = [] := by
  have hmentioned : mentioned fs relation = [] := by
    unfold mentioned
    rw [List.map_eq_nil_iff, List.filter_eq_nil_iff]
    intro f hf hkind
    refine (List.any_eq_false.mp h) f hf ?_
    rw [of_decide_eq_true hkind]
    exact isDangling_dangling relation
  rw [topTargets_eq, hmentioned]
  simp [tally]

/-- The rows of the missing names of a relation. -/
def targetRows (fs : List Finding) (relation : RelationKind) : List String :=
  (topTargets fs relation).map fun row => tableRow [intText row.2, escapeCell row.1]

theorem rowsUnder_targetSection (fs : List Finding) (h : targetHeading relation ∉ ys) :
    rowsUnder (targetHeading relation) (targetSection fs relation ++ ys)
      = targetRows fs relation := by
  unfold targetSection targetRows
  split
  · next hnil =>
      rw [List.nil_append, rowsUnder_of_not_mem h, hnil]
      rfl
  · simp only [List.append_assoc, List.cons_append, List.nil_append]
    refine rowsUnder_table (fun hmem => ?_) _ _ _ _
    obtain ⟨row, -, hrow⟩ := List.mem_map.mp hmem
    exact tableRow_ne_empty _ hrow

theorem rowsUnder_flatMap_targetSection (fs : List Finding) {relations : List RelationKind}
    (hmem : relation ∈ relations) (hnd : relations.Nodup) (h : targetHeading relation ∉ ys) :
    rowsUnder (targetHeading relation) (relations.flatMap (targetSection fs) ++ ys)
      = targetRows fs relation := by
  obtain ⟨before, after, rfl⟩ := List.append_of_mem hmem
  have hother : ∀ others : List RelationKind, relation ∉ others →
      targetHeading relation ∉ others.flatMap (targetSection fs) := by
    intro others hnot hline
    obtain ⟨other, hmem, hline⟩ := List.mem_flatMap.mp hline
    exact targetHeading_not_mem (ne_of_mem_of_not_mem hmem hnot) hline
  obtain ⟨-, hafter, hapart⟩ := List.nodup_append.mp hnd
  rw [List.flatMap_append, List.append_assoc,
    rowsUnder_append (hother before fun h => hapart _ h _ List.mem_cons_self rfl),
    List.flatMap_cons, List.append_assoc]
  refine rowsUnder_targetSection fs ?_
  rw [List.mem_append, not_or]
  exact ⟨hother after (List.nodup_cons.mp hafter).1, h⟩

theorem rowsUnder_targets (r : Report) (relation : RelationKind) :
    rowsUnder (targetHeading relation) (lines r) = targetRows r.findings relation := by
  have hheading := isHeading_targetHeading relation
  have hfindings : targetHeading relation ∉ "## All findings" :: "" :: findingTable r.findings :=
    not_mem_section (headings_findingTable _) hheading (by cases relation <;> decide)
  have htitle : targetHeading relation ∉ ["## Top dangling references", ""] := by
    cases relation <;> decide
  rw [lines_eq,
    rowsUnder_append (not_mem_beforeSummary r hheading (by cases relation <;> decide)),
    rowsUnder_append
      (not_mem_section (headings_countTable _) hheading (by cases relation <;> decide))]
  unfold danglingSection
  split
  · rw [List.append_assoc, rowsUnder_append htitle]
    exact rowsUnder_flatMap_targetSection _ (by cases relation <;> decide) (by decide) hfindings
  · next hnone =>
      rw [List.nil_append, rowsUnder_of_not_mem hfindings]
      unfold targetRows
      rw [topTargets_eq_nil (Bool.eq_false_iff.mpr hnone)]
      rfl

/-! ## The summary -/

theorem intText_natCast (n : Nat) : intText n = decimalText n := by
  unfold intText JsonNumber.intDigits
  rw [if_neg (Int.not_lt.mpr (Int.natCast_nonneg n)), Int.natAbs_natCast]
  rfl

/-- The rows of the summary, with their numbers. -/
def summaryOf (fs : List Finding) : List (String × Nat) :=
  (summaryRows fs).map fun row => (row.1, (kindWords fs).count row.1)

theorem summaryRows_perm (fs : List Finding) :
    (summaryRows fs).Perm ((kindCounts fs).map fun p => (p.1, p.2.written)) :=
  (List.mergeSort_perm _ _).trans (countRows_perm _)

theorem nodup_summaryRows (fs : List Finding) : ((summaryRows fs).map (·.1)).Nodup := by
  rw [((summaryRows_perm fs).map _).nodup_iff, List.map_map]
  exact Counts.nodup_ofWords (kindWords fs)

theorem nodup_summaryOf (fs : List Finding) : ((summaryOf fs).map (·.1)).Nodup := by
  unfold summaryOf
  rw [List.map_map]
  exact nodup_summaryRows fs

theorem count_of_mem_summaryOf {row : String × Nat} (h : row ∈ summaryOf fs) :
    row.2 = fs.countP (·.kind.word = row.1) := by
  obtain ⟨_, -, rfl⟩ := List.mem_map.mp h
  unfold kindWords
  rw [List.count_eq_countP, List.countP_map]
  exact List.countP_congr fun f _ => by simp

section Declared

variable (hkinds : ∀ f ∈ fs, f.kind ∈ FindingKind.all)
  (hlength : fs.length < JsonNumber.safeLimit)

include hkinds in
theorem ordinary_kindWords : ∀ w ∈ kindWords fs, Counts.Ordinary w := by
  have hall : ∀ kind ∈ FindingKind.all, Counts.Ordinary kind.word := by decide
  intro w hw
  obtain ⟨f, hf, rfl⟩ := List.mem_map.mp hw
  exact hall f.kind (hkinds f hf)

include hkinds hlength

theorem mem_summaryRows_iff {row : String × String} :
    row ∈ summaryRows fs
      ↔ row.1 ∈ kindWords fs ∧ row.2 = decimalText ((kindWords fs).count row.1) := by
  have hwords : (kindWords fs).length < JsonNumber.safeLimit := by
    rwa [kindWords, List.length_map]
  have hcounts : ∀ p : String × Count, p ∈ kindCounts fs ↔ _ := fun p =>
    Counts.mem_ofWords_iff (ordinary_kindWords hkinds) hwords
  rw [(summaryRows_perm fs).mem_iff, List.mem_map]
  constructor
  · rintro ⟨p, hp, rfl⟩
    obtain ⟨hmem, hcount⟩ := (hcounts p).mp hp
    refine ⟨hmem, ?_⟩
    dsimp only
    rw [hcount]
    exact intText_natCast _
  · rintro ⟨hmem, hcount⟩
    exact ⟨(row.1, .number (.int ((kindWords fs).count row.1))), (hcounts _).mpr ⟨hmem, rfl⟩,
      Prod.ext rfl ((intText_natCast _).trans hcount.symm)⟩

theorem summaryRows_eq :
    summaryRows fs = (summaryOf fs).map fun row => (row.1, decimalText row.2) := by
  unfold summaryOf
  rw [List.map_map]
  conv_lhs => rw [← List.map_id (summaryRows fs)]
  refine List.map_congr_left fun row hrow => ?_
  exact Prod.ext rfl ((mem_summaryRows_iff hkinds hlength).mp hrow).2

/-- The words of the summary are the words for the kinds, each once. -/
theorem keys_summaryRows_perm : ((summaryRows fs).map (·.1)).Perm (kindWords fs).dedup := by
  rw [List.perm_ext_iff_of_nodup (nodup_summaryRows fs) (List.nodup_dedup _)]
  intro w
  rw [List.mem_dedup, List.mem_map]
  constructor
  · rintro ⟨row, hrow, rfl⟩
    exact ((mem_summaryRows_iff hkinds hlength).mp hrow).1
  · intro hw
    exact ⟨(w, decimalText ((kindWords fs).count w)),
      (mem_summaryRows_iff hkinds hlength).mpr ⟨hw, rfl⟩, rfl⟩

/-- The counts of the summary are those of all findings. -/
theorem sum_summaryOf : ((summaryOf fs).map (·.2)).sum = fs.length := by
  unfold summaryOf
  rw [List.map_map]
  have hcounts : (summaryRows fs).map ((·.2) ∘ fun row => (row.1, (kindWords fs).count row.1))
      = ((summaryRows fs).map (·.1)).map (kindWords fs).count := by
    rw [List.map_map]
    rfl
  rw [hcounts, ((keys_summaryRows_perm hkinds hlength).map _).sum_eq,
    List.sum_map_count_dedup_eq_length, kindWords, List.length_map]

theorem lookup_summaryOf (w : String) :
    ((summaryOf fs).lookup w).getD 0 = (kindWords fs).count w := by
  have hgraph : summaryOf fs
      = ((summaryRows fs).map (·.1)).map fun w => (w, (kindWords fs).count w) := by
    rw [List.map_map]
    rfl
  have hmem := (keys_summaryRows_perm hkinds hlength).mem_iff (a := w)
  rw [List.mem_dedup] at hmem
  by_cases h : w ∈ kindWords fs
  · rw [hgraph, List.lookup_graph _ (hmem.mpr h), Option.getD_some]
  · rw [List.count_eq_zero_of_not_mem h, List.lookup_eq_none_iff.mpr, Option.getD_none]
    intro row hrow
    rw [bne_iff_ne]
    rintro rfl
    rw [hgraph] at hrow
    obtain ⟨w, hw, rfl⟩ := List.mem_map.mp hrow
    exact h (hmem.mp hw)

omit hlength in
/-- Dangling findings are those of the three relations. -/
theorem sum_count_dangling :
    (RelationKind.all.map fun relation =>
      (kindWords fs).count (FindingKind.dangling relation).word).sum
      = fs.countP (·.kind.isDangling) := by
  have hone : ∀ kind ∈ FindingKind.all,
      (RelationKind.all.map fun relation =>
        if kind.word == (FindingKind.dangling relation).word then 1 else 0).sum
        = if kind.isDangling then 1 else 0 := by
    decide +kernel
  induction fs with
  | nil => rfl
  | cons f fs ih =>
      have hf := hone f.kind (hkinds f List.mem_cons_self)
      have hfs := ih fun g hg => hkinds g (List.mem_cons_of_mem _ hg)
      unfold kindWords at hfs ⊢
      simp only [List.map_cons, List.count_cons, List.countP_cons, List.sum_map_add]
      rw [hfs, hf]

end Declared

/-! ## Missing names -/

/-- How many findings of a relation are about a target. -/
def timesMentioned (fs : List Finding) (relation : RelationKind) (target : String) : Nat :=
  fs.countP fun f => f.kind = .dangling relation ∧ f.target = target

/-- The missing names that are listed, with their numbers. -/
def ranked (fs : List Finding) (relation : RelationKind) : List (String × Nat) :=
  (topTargets fs relation).map fun row => (row.1, timesMentioned fs relation row.1)

/-- The rows are the first of a ranking of all targets of a relation: as many as
    there is room for, none with a smaller count than a target behind it. -/
structure IsRanking (rows : List (String × Nat)) (fs : List Finding) (relation : RelationKind) :
    Prop where
  length_eq : rows.length = min targetLimit (mentioned fs relation).dedup.length
  distinct : (rows.map (·.1)).Nodup
  found : ∀ row ∈ rows, row.1 ∈ mentioned fs relation
  exact_count : ∀ row ∈ rows, row.2 = timesMentioned fs relation row.1
  descending : rows.Pairwise fun a b => b.2 ≤ a.2
  leftOut : ∀ target ∈ mentioned fs relation, target ∉ rows.map (·.1) →
    ∀ row ∈ rows, timesMentioned fs relation target ≤ row.2

theorem count_mentioned (fs : List Finding) (relation : RelationKind) (target : String) :
    (mentioned fs relation).count target = timesMentioned fs relation target := by
  unfold mentioned timesMentioned
  rw [List.count_eq_countP, List.countP_map, List.countP_filter]
  refine List.countP_congr fun f _ => ?_
  simp [and_comm]

theorem length_tally (labels : List String) : (tally labels).length = labels.dedup.length := by
  have hkeys : ((tally labels).map (·.1)).Perm labels.dedup := by
    rw [List.perm_ext_iff_of_nodup (nodup_tally labels) (List.nodup_dedup _)]
    intro label
    rw [List.mem_dedup, List.mem_map]
    constructor
    · rintro ⟨p, hp, rfl⟩
      exact (mem_tally_iff.mp hp).1
    · intro h
      exact ⟨(label, labels.count label), mem_tally_iff.mpr ⟨h, rfl⟩, rfl⟩
  rw [← hkeys.length_eq, List.length_map]

/-- All targets of a relation, in the order of the ranking. -/
def rankedAll (fs : List Finding) (relation : RelationKind) : List (String × Int) :=
  (tally (mentioned fs relation)).mergeSort fun a b => (compareTargets a b).isLE

theorem mem_rankedAll_iff {p : String × Int} :
    p ∈ rankedAll fs relation
      ↔ p.1 ∈ mentioned fs relation ∧ p.2 = timesMentioned fs relation p.1 := by
  unfold rankedAll
  rw [(List.mergeSort_perm _ _).mem_iff, mem_tally_iff, count_mentioned]

theorem rankedAll_pairwise (fs : List Finding) (relation : RelationKind) :
    (rankedAll fs relation).Pairwise fun a b => b.2 ≤ a.2 := by
  refine (Text.mergeSort_pairwise compareTargets _).imp fun {a b} h => ?_
  rw [isLE_compareTargets, Bool.or_eq_true, decide_eq_true_eq, Bool.and_eq_true,
    beq_iff_eq] at h
  omega

theorem isRanking_ranked (fs : List Finding) (relation : RelationKind) :
    IsRanking (ranked fs relation) fs relation := by
  have htop : topTargets fs relation = (rankedAll fs relation).take targetLimit :=
    topTargets_eq fs relation
  have hmem : ∀ p ∈ topTargets fs relation, p ∈ rankedAll fs relation := fun p hp =>
    List.mem_of_mem_take (htop ▸ hp)
  have hcount : ∀ p ∈ topTargets fs relation, p.2 = timesMentioned fs relation p.1 := fun p hp =>
    (mem_rankedAll_iff.mp (hmem p hp)).2
  have hkeys : (ranked fs relation).map (·.1) = (topTargets fs relation).map (·.1) := by
    unfold ranked
    rw [List.map_map]
    rfl
  have hsplit := List.take_append_drop targetLimit (rankedAll fs relation)
  have hpairwise := rankedAll_pairwise fs relation
  rw [← hsplit, List.pairwise_append, ← htop] at hpairwise
  obtain ⟨hlisted, -, hbehind⟩ := hpairwise
  constructor
  case length_eq =>
    unfold ranked
    rw [List.length_map, htop, List.length_take]
    unfold rankedAll
    rw [List.length_mergeSort, length_tally]
  case distinct =>
    rw [hkeys, htop]
    refine ((List.take_sublist _ _).map _).nodup ?_
    unfold rankedAll
    rw [((List.mergeSort_perm _ _).map _).nodup_iff]
    exact nodup_tally _
  case found =>
    intro row hrow
    obtain ⟨p, hp, rfl⟩ := List.mem_map.mp hrow
    exact (mem_rankedAll_iff.mp (hmem p hp)).1
  case exact_count =>
    intro row hrow
    obtain ⟨p, -, rfl⟩ := List.mem_map.mp hrow
    rfl
  case descending =>
    unfold ranked
    rw [List.pairwise_map]
    refine hlisted.imp_of_mem fun {a b} ha hb hle => ?_
    rw [hcount a ha, hcount b hb] at hle
    exact Int.ofNat_le.mp hle
  case leftOut =>
    intro target htarget hnot row hrow
    obtain ⟨p, hp, rfl⟩ := List.mem_map.mp hrow
    -- the target is ranked, so it stands behind the rows that are listed
    have hranked : (target, (timesMentioned fs relation target : Int)) ∈ rankedAll fs relation :=
      mem_rankedAll_iff.mpr ⟨htarget, rfl⟩
    rw [← hsplit, List.mem_append, ← htop] at hranked
    rcases hranked with h | h
    · rw [hkeys] at hnot
      exact absurd (List.mem_map_of_mem h) hnot
    · have hle := hbehind p hp _ h
      rw [hcount p hp] at hle
      exact Int.ofNat_le.mp hle

/-! ## The figures of a report -/

/-- The figures that a report shows. -/
structure Figures where
  total : Nat
  dangling : Nat
  /-- The words for the kinds of findings with their counts. -/
  summary : List (String × Nat)
  /-- The targets of each relation with their counts. -/
  targets : RelationKind → List (String × Nat)

/-- The lines of a report show the figures: in the ninth line of the header and
    in the rows below the headings. -/
structure Figures.ShownIn (n : Figures) (ls : List String) : Prop where
  header : ls[8]? = some ("- Findings: " ++ bold (decimalText n.total)
    ++ " (dangling: " ++ bold (decimalText n.dangling) ++ ")")
  summary : rowsUnder "## Findings summary" ls
    = n.summary.map (fun row => tableRow [row.1, decimalText row.2])
      ++ (if n.summary.isEmpty then [tableRow ["(none)", "0"]] else [])
  targets : ∀ relation, rowsUnder (targetHeading relation) ls
    = (n.targets relation).map fun row => tableRow [decimalText row.2, escapeCell row.1]

/-- The figures agree with each other, with the findings, and with the rows of
    the table of all findings. -/
structure Figures.Agree (n : Figures) (fs : List Finding) (rows : List String) : Prop where
  kinds : (n.summary.map (·.1)).Nodup
  counted : ∀ row ∈ n.summary, row.2 = fs.countP (·.kind.word = row.1)
  sum : (n.summary.map (·.2)).sum = n.total
  listed : rows.countP (· ≠ nothingRow) = n.total
  nothing : nothingRow ∈ rows ↔ n.total = 0
  dangling : (RelationKind.all.map fun relation =>
    (n.summary.lookup (FindingKind.dangling relation).word).getD 0).sum = n.dangling
  targets : ∀ relation, IsRanking (n.targets relation) fs relation

theorem findingRow_ne_nothingRow {f : Finding} (h : f.kind ∈ FindingKind.all) :
    findingRow f ≠ nothingRow := by
  have hforeign : ∀ kind ∈ FindingKind.all, ∃ c ∈ kind.word.toList, c ∉ nothingRow.toList := by
    simp [FindingKind.all, FindingKind.word, nothingRow]
  obtain ⟨c, hc, hnot⟩ := hforeign f.kind h
  intro heq
  refine hnot (heq ▸ ?_)
  unfold findingRow
  rw [toList_tableRow_cons]
  simp [closedCell, hc]

theorem header_figures (r : Report) :
    (lines r)[8]? = some ("- Findings: " ++ bold (decimalText r.findings.length)
      ++ " (dangling: " ++ bold (decimalText (r.findings.countP (·.kind.isDangling))) ++ ")") :=
  rfl

theorem countP_rows_findings (hkinds : ∀ f ∈ r.findings, f.kind ∈ FindingKind.all) :
    (rowsUnder "## All findings" (lines r)).countP (· ≠ nothingRow) = r.findings.length := by
  have hperm := List.mergeSort_perm r.findings fun a b => (compareFindings a b).isLE
  have hrows : ((sortFindings r.findings).map findingRow).countP (· ≠ nothingRow)
      = r.findings.length := by
    rw [List.countP_eq_length.mpr, List.length_map]
    · exact hperm.length_eq
    · intro row hrow
      obtain ⟨f, hf, rfl⟩ := List.mem_map.mp hrow
      exact decide_eq_true (findingRow_ne_nothingRow (hkinds f (hperm.mem_iff.mp hf)))
  have hnothing : (if r.findings.isEmpty then [nothingRow] else []).countP (· ≠ nothingRow) = 0 := by
    split
    · exact List.countP_cons_of_neg (by simp)
    · rfl
  rw [rowsUnder_findings, List.countP_append, hrows, hnothing, Nat.add_zero]

theorem nothingRow_mem_iff (hkinds : ∀ f ∈ r.findings, f.kind ∈ FindingKind.all) :
    nothingRow ∈ rowsUnder "## All findings" (lines r) ↔ r.findings.length = 0 := by
  have hperm := List.mergeSort_perm r.findings fun a b => (compareFindings a b).isLE
  have hrows : nothingRow ∉ (sortFindings r.findings).map findingRow := by
    intro hmem
    obtain ⟨f, hf, heq⟩ := List.mem_map.mp hmem
    exact findingRow_ne_nothingRow (hkinds f (hperm.mem_iff.mp hf)) heq
  rw [rowsUnder_findings, List.mem_append, or_iff_right hrows, List.length_eq_zero_iff,
    ← List.isEmpty_iff]
  split <;> simp [*]

theorem isEmpty_kindCounts (fs : List Finding) :
    (kindCounts fs).isEmpty = (summaryOf fs).isEmpty := by
  unfold summaryOf
  rw [List.isEmpty_map, (summaryRows_perm fs).isEmpty_eq, List.isEmpty_map]

theorem targetRows_eq (fs : List Finding) (relation : RelationKind) :
    targetRows fs relation
      = (ranked fs relation).map fun row => tableRow [decimalText row.2, escapeCell row.1] := by
  unfold targetRows ranked
  rw [List.map_map]
  refine List.map_congr_left fun p hp => ?_
  rw [topTargets_eq] at hp
  have hcount := (mem_rankedAll_iff.mp (List.mem_of_mem_take hp)).2
  rw [hcount, intText_natCast]
  rfl

end TypeLineage.Markdown
