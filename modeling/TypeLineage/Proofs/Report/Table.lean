import Mathlib
import TypeLineage.Report.Markdown

/-! # Rows of tables are read back

    A reader of a table cuts a row at its bars, except where a backslash stands
    before the bar, and reads such a bar as a bar of the cell.  A row whose
    cells are guarded in this way is read as what its cells stand for.

    Escaping guards a text.  The table of findings escapes the message only, so
    a finding keeps its row exactly if there is no bar in its other texts and no
    line feed in any of them (`keepsRow_iff`).  That bars elsewhere always do
    harm is a matter of counting: each bar that is read in a cell has cost the
    row a backslash, and the row has no more backslashes than its texts and the
    bars of the message give it. -/

namespace TypeLineage.Markdown

variable {e : Bool} {cs rest p : List Char} {cells : List String} {f : Finding}

/-! ## Reading a row -/

/-- The pieces of a line between its bars.  A bar behind a backslash belongs to
    its piece; `behind` says that the line itself stands behind one. -/
def cutAtBars (behind : Bool) : List Char → List (List Char)
  | [] => [[]]
  | c :: cs =>
    if c = '|' ∧ behind = false then [] :: cutAtBars false cs
    else (cutAtBars (c == '\\') cs).modifyHead (c :: ·)

/-- A bar behind a backslash is read as a bar. -/
def unescape : List Char → List Char
  | '\\' :: '|' :: cs => '|' :: unescape cs
  | c :: cs => c :: unescape cs
  | [] => []

/-- Without the blank it begins with. -/
def dropBlank : List Char → List Char
  | ' ' :: cs => cs
  | cs => cs

/-- Without the blank at either end. -/
def trimBlanks (cs : List Char) : List Char := (dropBlank (dropBlank cs).reverse).reverse

/-- The cells of a row as they are read: what stands between two bars. -/
def cellsOf (row : String) : List String :=
  ((cutAtBars false row.toList).drop 1).dropLast.map fun p =>
    String.ofList (unescape (trimBlanks p))

/-! ## Guarded texts -/

/-- Every bar stands behind a backslash. -/
def Guarded : (behind : Bool) → List Char → Prop
  | _, [] => True
  | behind, c :: cs => (c = '|' → behind = true) ∧ Guarded (c == '\\') cs

theorem guarded_of_not_mem (h : '|' ∉ cs) : ∀ e, Guarded e cs := by
  induction cs with
  | nil => exact fun _ => trivial
  | cons c cs ih =>
      rw [List.mem_cons, not_or] at h
      exact fun e => ⟨fun hc => absurd hc.symm h.1, ih h.2 _⟩

/-- A bar at the beginning has no backslash of its own. -/
theorem Guarded.toFalse (h : Guarded e cs) (hhead : cs.head? ≠ some '|') : Guarded false cs := by
  cases cs with
  | nil => trivial
  | cons c cs => exact ⟨fun hc => absurd (congrArg some hc) hhead, h.2⟩

theorem Guarded.of_append (h : Guarded e (cs ++ rest)) : Guarded e cs := by
  induction cs generalizing e with
  | nil => trivial
  | cons c cs ih => exact ⟨h.1, ih h.2⟩

/-- A guarded text with a blank behind it is one piece. -/
theorem cutAtBars_guarded (h : Guarded e cs) :
    cutAtBars e (cs ++ ' ' :: '|' :: rest) = (cs ++ [' ']) :: cutAtBars false rest := by
  induction cs generalizing e with
  | nil => simp [cutAtBars]
  | cons c cs ih =>
      have hc : ¬ (c = '|' ∧ e = false) := by
        rintro ⟨hbar, rfl⟩
        exact Bool.false_ne_true (h.1 hbar)
      rw [List.cons_append, cutAtBars, if_neg hc, ih h.2]
      rfl

theorem trimBlanks_padded (cs : List Char) : trimBlanks (' ' :: (cs ++ [' '])) = cs := by
  unfold trimBlanks
  rw [dropBlank, List.reverse_append, List.reverse_singleton, List.singleton_append, dropBlank,
    List.reverse_reverse]

/-- A cell with the blanks around it and the bar behind it. -/
def closedCell (cs : List Char) : List Char := ' ' :: (cs ++ [' ', '|'])

/-- A row begins with a bar, and a bar ends each of its cells. -/
theorem toList_tableRow_cons (cell : String) (cells : List String) :
    (tableRow (cell :: cells)).toList
      = '|' :: (cell :: cells).flatMap fun c => closedCell c.toList := by
  have hjoined : (" | ".intercalate (cell :: cells)).toList ++ [' ', '|']
      = cell.toList ++ [' ', '|'] ++ cells.flatMap fun c => closedCell c.toList := by
    induction cells generalizing cell with
    | nil => simp
    | cons next cells ih =>
        rw [String.intercalate_cons_cons, String.toList_append, String.toList_append,
          List.append_assoc, ih, List.flatMap_cons]
        simp [closedCell]
  unfold tableRow
  rw [String.toList_append, String.toList_append, List.append_assoc]
  show ['|', ' '] ++ ((" | ".intercalate (cell :: cells)).toList ++ [' ', '|']) = _
  rw [hjoined, List.flatMap_cons]
  simp [closedCell]

/-- Guarded cells are cut as they are. -/
theorem cutAtBars_cells (h : ∀ c ∈ cells, Guarded false c.toList) :
    cutAtBars false (cells.flatMap fun c => closedCell c.toList)
      = cells.map (fun c => ' ' :: (c.toList ++ [' '])) ++ [[]] := by
  induction cells with
  | nil => rfl
  | cons c cells ih =>
      rw [List.forall_mem_cons] at h
      have hpadded : Guarded false (' ' :: c.toList) := ⟨fun hbar => absurd hbar (by decide), h.1⟩
      have hsplit : ((c :: cells).flatMap fun c => closedCell c.toList)
          = (' ' :: c.toList) ++ ' ' :: '|' :: cells.flatMap fun c => closedCell c.toList := by
        simp [closedCell]
      rw [hsplit, cutAtBars_guarded hpadded, ih h.2]
      rfl

/-- **Guarded cells are read back**, but for the backslashes before bars. -/
theorem cellsOf_tableRow (hcells : cells ≠ []) (h : ∀ c ∈ cells, Guarded false c.toList) :
    cellsOf (tableRow cells) = cells.map fun c => String.ofList (unescape c.toList) := by
  obtain ⟨cell, more, rfl⟩ := List.exists_cons_of_ne_nil hcells
  unfold cellsOf
  rw [toList_tableRow_cons, cutAtBars, if_pos ⟨rfl, rfl⟩, cutAtBars_cells h, List.drop_succ_cons,
    List.drop_zero, List.dropLast_concat, List.map_map]
  refine List.map_congr_left fun c _ => ?_
  show String.ofList (unescape (trimBlanks (' ' :: (c.toList ++ [' '])))) = _
  rw [trimBlanks_padded]

/-! ## Escaped texts -/

/-- The characters of an escaped text. -/
def escapeBars (cs : List Char) : List Char :=
  cs.flatMap fun c => if c = '|' then ['\\', '|'] else [c]

theorem toList_escapeCell (s : String) : (escapeCell s).toList = escapeBars s.toList :=
  String.toList_ofList

theorem escapeBars_bar (cs : List Char) : escapeBars ('|' :: cs) = '\\' :: '|' :: escapeBars cs := by
  simp [escapeBars]

theorem escapeBars_cons {c : Char} (hc : c ≠ '|') (cs : List Char) :
    escapeBars (c :: cs) = c :: escapeBars cs := by
  simp [escapeBars, hc]

theorem guarded_escapeBars (cs : List Char) : ∀ e, Guarded e (escapeBars cs) := by
  induction cs with
  | nil => exact fun _ => trivial
  | cons c cs ih =>
      intro e
      by_cases hc : c = '|'
      · subst hc
        rw [escapeBars_bar]
        exact ⟨fun h => absurd h (by decide), fun _ => rfl, ih _⟩
      · rw [escapeBars_cons hc]
        exact ⟨fun h => absurd h hc, ih _⟩

theorem unescape_cons {c : Char} (h : ¬ (c = '\\' ∧ cs.head? = some '|')) :
    unescape (c :: cs) = c :: unescape cs := by
  rw [unescape.eq_def]
  split
  · rename_i heq
    obtain ⟨rfl, rfl⟩ := List.cons.inj heq
    exact absurd ⟨rfl, rfl⟩ h
  · rename_i heq
    obtain ⟨rfl, rfl⟩ := List.cons.inj heq
    rfl
  · rename_i heq
    exact nomatch heq

theorem unescape_of_not_mem (h : '|' ∉ cs) : unescape cs = cs := by
  induction cs with
  | nil => rfl
  | cons c cs ih =>
      rw [List.mem_cons, not_or] at h
      rw [unescape_cons fun hbar => h.2 (List.mem_of_head? hbar.2), ih h.2]

/-- Escaping is undone, also behind a backslash of the text's own. -/
theorem unescape_escapeBars (cs : List Char) : unescape (escapeBars cs) = cs := by
  induction cs with
  | nil => rfl
  | cons c cs ih =>
      by_cases hc : c = '|'
      · subst hc
        rw [escapeBars_bar, unescape, ih]
      · have hhead : (escapeBars cs).head? ≠ some '|' := by
          cases cs with
          | nil => exact nofun
          | cons d ds =>
              by_cases hd : d = '|'
              · subst hd
                rw [escapeBars_bar]
                exact fun h => absurd (Option.some.inj h) (by decide)
              · rw [escapeBars_cons hd]
                exact fun h => hd (Option.some.inj h)
        rw [escapeBars_cons hc, unescape_cons fun h => hhead h.2, ih]

/-! ## What bars cost

    A cell is read with as many backslashes and bars together as its piece has
    backslashes, since each bar takes one. -/

/-- How many backslashes and bars there are. -/
def weight (cs : List Char) : Nat := cs.count '\\' + cs.count '|'

theorem weight_escapeBars (cs : List Char) : (escapeBars cs).count '\\' = weight cs := by
  unfold weight
  induction cs with
  | nil => rfl
  | cons c cs ih =>
      by_cases hc : c = '|'
      · subst hc
        rw [escapeBars_bar, List.count_cons_self, List.count_cons_of_ne (by decide), ih,
          List.count_cons_of_ne (by decide), List.count_cons_self]
        rfl
      · rw [escapeBars_cons hc, List.count_cons, List.count_cons, ih, List.count_cons_of_ne hc]
        omega

theorem weight_unescape (h : Guarded false cs) : weight (unescape cs) = cs.count '\\' := by
  unfold weight
  induction cs using unescape.induct with
  | case1 cs ih =>
      rw [unescape, List.count_cons_of_ne (by decide), List.count_cons_self, ← Nat.add_assoc,
        ih h.2.2, List.count_cons_self, List.count_cons_of_ne (by decide)]
  | case2 c cs hne ih =>
      have hc : c ≠ '|' := fun hbar => Bool.false_ne_true (h.1 hbar)
      have hplain : ¬ (c = '\\' ∧ cs.head? = some '|') := by
        rintro ⟨rfl, hhead⟩
        obtain ⟨ds, rfl⟩ := List.head?_eq_some_iff.mp hhead
        exact hne ds rfl rfl
      have hcs : Guarded false cs := by
        by_cases hslash : c = '\\'
        · exact h.2.toFalse fun hhead => hplain ⟨hslash, hhead⟩
        · rw [← beq_eq_false_iff_ne.mpr hslash]
          exact h.2
      rw [unescape_cons hplain, List.count_cons_of_ne hc, List.count_cons, List.count_cons, ← ih hcs]
      omega
  | case3 => rfl

/-- The pieces are guarded, and no character but bars is lost. -/
theorem exists_pieces (e : Bool) (cs : List Char) :
    ∃ first more, cutAtBars e cs = first :: more ∧ Guarded e first
      ∧ (∀ p ∈ more, Guarded false p)
      ∧ first.count '\\' + (more.map (·.count '\\')).sum = cs.count '\\' := by
  induction cs generalizing e with
  | nil => exact ⟨[], [], rfl, trivial, List.forall_mem_nil _, rfl⟩
  | cons c cs ih =>
      rw [cutAtBars]
      by_cases hcut : c = '|' ∧ e = false
      · obtain ⟨first, more, heq, hfirst, hmore, hcount⟩ := ih false
        refine ⟨[], first :: more, by rw [if_pos hcut, heq], trivial,
          List.forall_mem_cons.mpr ⟨hfirst, hmore⟩, ?_⟩
        rw [hcut.1, List.map_cons, List.sum_cons, hcount, List.count_cons_of_ne (by decide)]
        exact Nat.zero_add _
      · obtain ⟨first, more, heq, hfirst, hmore, hcount⟩ := ih (c == '\\')
        refine ⟨c :: first, more, by rw [if_neg hcut, heq]; rfl, ⟨fun hc => ?_, hfirst⟩, hmore, ?_⟩
        · exact Bool.eq_true_of_not_eq_false fun he => hcut ⟨hc, he⟩
        · rw [List.count_cons, List.count_cons, ← hcount]
          omega

theorem dropBlank_eq_or (cs : List Char) : dropBlank cs = cs ∨ cs = ' ' :: dropBlank cs := by
  unfold dropBlank
  split
  · exact Or.inr rfl
  · exact Or.inl rfl

/-- What is trimmed is blank. -/
theorem exists_trimmed (cs : List Char) :
    ∃ before after, (before = [] ∨ before = [' ']) ∧ (after = [] ∨ after = [' '])
      ∧ cs = before ++ (trimBlanks cs ++ after) := by
  obtain ⟨before, hbefore, hcs⟩ : ∃ before, (before = [] ∨ before = [' '])
      ∧ cs = before ++ dropBlank cs := by
    rcases dropBlank_eq_or cs with h | h
    · exact ⟨[], Or.inl rfl, h.symm⟩
    · exact ⟨[' '], Or.inr rfl, h⟩
  obtain ⟨after, hafter, hds⟩ : ∃ after, (after = [] ∨ after = [' '])
      ∧ dropBlank cs = trimBlanks cs ++ after := by
    unfold trimBlanks
    rcases dropBlank_eq_or (dropBlank cs).reverse with h | h
    · exact ⟨[], Or.inl rfl, by rw [h, List.reverse_reverse, List.append_nil]⟩
    · refine ⟨[' '], Or.inr rfl, ?_⟩
      rw [← List.reverse_cons, ← h, List.reverse_reverse]
  exact ⟨before, after, hbefore, hafter, hcs.trans (congrArg (before ++ ·) hds)⟩

theorem Guarded.trimBlanks (h : Guarded false p) :
    Guarded false (trimBlanks p) ∧ (Markdown.trimBlanks p).count '\\' = p.count '\\' := by
  obtain ⟨before, after, hbefore, hafter, heq⟩ := exists_trimmed p
  have hblank : ∀ l : List Char, l = [] ∨ l = [' '] → l.count '\\' = 0 := by
    rintro l (rfl | rfl) <;> rfl
  constructor
  · have hrest : Guarded false (Markdown.trimBlanks p ++ after) := by
      rw [heq] at h
      rcases hbefore with rfl | rfl
      · exact h
      · exact h.2
    exact hrest.of_append
  · conv_rhs => rw [heq]
    rw [List.count_append, List.count_append, hblank before hbefore, hblank after hafter,
      Nat.zero_add, Nat.add_zero]

/-- Each bar that is read in a cell has cost the row a backslash. -/
theorem sum_weight_cellsOf_le (row : String) :
    ((cellsOf row).map fun c => weight c.toList).sum ≤ row.toList.count '\\' := by
  obtain ⟨first, more, heq, -, hmore, hcount⟩ := exists_pieces false row.toList
  have hcells : (cellsOf row).map (fun c => weight c.toList)
      = more.dropLast.map (·.count '\\') := by
    unfold cellsOf
    rw [heq, List.drop_succ_cons, List.drop_zero, List.map_map]
    refine List.map_congr_left fun p hp => ?_
    obtain ⟨hguarded, hsame⟩ := (hmore p (List.mem_of_mem_dropLast hp)).trimBlanks
    show weight (String.ofList (unescape (trimBlanks p))).toList = _
    rw [String.toList_ofList, weight_unescape hguarded, hsame]
  have hle := ((List.dropLast_sublist more).map (·.count '\\')).sum_le_sum fun _ _ => Nat.zero_le _
  rw [hcells]
  omega

/-! ## Rows of findings -/

/-- The texts of a finding that its row shows. -/
def texts (f : Finding) : List String := [f.severity.word, f.kind.word, f.place, f.message]

/-- The texts that stand in a row as they are. -/
def bareTexts (f : Finding) : List String := [f.severity.word, f.kind.word, f.place]

theorem count_findingRow (f : Finding) :
    (findingRow f).toList.count '\\'
      = ((bareTexts f).map fun t => t.toList.count '\\').sum + weight f.message.toList := by
  unfold findingRow
  rw [toList_tableRow_cons, List.count_cons_of_ne (by decide), List.count_flatMap]
  have hcell : ∀ t : List Char, (closedCell t).count '\\' = t.count '\\' := fun t => by
    simp [closedCell]
  simp only [bareTexts, List.map_cons, List.map_nil, List.sum_cons, List.sum_nil, Function.comp,
    hcell, toList_escapeCell, weight_escapeBars]
  omega

theorem cellsOf_findingRow_iff :
    cellsOf (findingRow f) = texts f ↔ ∀ t ∈ bareTexts f, '|' ∉ t.toList := by
  constructor
  · intro h
    have hle := sum_weight_cellsOf_le (findingRow f)
    rw [h, count_findingRow] at hle
    simp only [texts, bareTexts, weight, List.map_cons, List.map_nil, List.sum_cons, List.sum_nil]
      at hle
    simp only [bareTexts, List.forall_mem_cons, ← List.count_eq_zero]
    refine ⟨?_, ?_, ?_, List.forall_mem_nil _⟩
    all_goals omega
  · intro h
    simp only [bareTexts, List.forall_mem_cons] at h
    obtain ⟨hseverity, hkind, hplace, -⟩ := h
    unfold findingRow texts
    rw [cellsOf_tableRow (List.cons_ne_nil _ _)]
    · simp only [List.map_cons, List.map_nil, toList_escapeCell, unescape_escapeBars,
        unescape_of_not_mem hseverity, unescape_of_not_mem hkind, unescape_of_not_mem hplace,
        String.ofList_toList]
    · simp only [List.forall_mem_cons, toList_escapeCell]
      exact ⟨guarded_of_not_mem hseverity _, guarded_of_not_mem hkind _,
        guarded_of_not_mem hplace _, guarded_escapeBars _ _, List.forall_mem_nil _⟩

/-! ## Lines -/

/-- The lines of a text: what stands between its line feeds. -/
def linesOf (text : String) : List String := (text.toList.splitOn '\n').map String.ofList

theorem splitOn_lineFeed (xs ys : List Char) :
    (xs ++ '\n' :: ys).splitOn '\n' = xs.splitOn '\n' ++ ys.splitOn '\n' :=
  List.splitOnP_append_cons xs ys (beq_self_eq_true '\n')

theorem linesOf_eq_singleton_iff {text line : String} :
    linesOf text = [line] ↔ text = line ∧ '\n' ∉ text.toList := by
  unfold linesOf
  constructor
  · intro h
    by_cases hmem : '\n' ∈ text.toList
    · -- a line feed leaves two lines at least
      obtain ⟨before, after, heq⟩ := List.append_of_mem hmem
      rw [heq, splitOn_lineFeed, List.map_append, List.append_eq_singleton_iff] at h
      simp only [List.map_eq_nil_iff, List.splitOn_ne_nil, false_and, and_false, or_self] at h
    · rw [List.splitOn_eq_singleton hmem, List.map_singleton, String.ofList_toList] at h
      exact ⟨List.singleton_inj.mp h, hmem⟩
  · rintro ⟨rfl, hmem⟩
    rw [List.splitOn_eq_singleton hmem, List.map_singleton, String.ofList_toList]

/-- Joined lines are split again, each where it holds a line feed itself. -/
theorem linesOf_intercalate {ls : List String} (h : ls ≠ []) :
    linesOf ("\n".intercalate ls) = ls.flatMap linesOf := by
  obtain ⟨l, ls, rfl⟩ := List.exists_cons_of_ne_nil h
  clear h
  induction ls generalizing l with
  | nil => simp
  | cons next ls ih =>
      have hjoined : ("\n".intercalate (l :: next :: ls)).toList
          = l.toList ++ '\n' :: ("\n".intercalate (next :: ls)).toList := by
        rw [String.intercalate_cons_cons, String.toList_append, String.toList_append,
          List.append_assoc]
        rfl
      rw [List.flatMap_cons, ← ih]
      unfold linesOf
      rw [hjoined, splitOn_lineFeed, List.map_append]

/-- The finding keeps its row: one line, and its cells are read as the texts. -/
def KeepsRow (f : Finding) : Prop := ∃ line, linesOf (findingRow f) = [line] ∧ cellsOf line = texts f

theorem lineFeed_mem_findingRow_iff :
    '\n' ∈ (findingRow f).toList ↔ ∃ t ∈ texts f, '\n' ∈ t.toList := by
  have hcell : ∀ t : List Char, '\n' ∈ closedCell t ↔ '\n' ∈ t := fun t => by simp [closedCell]
  have hescaped : '\n' ∈ escapeBars f.message.toList ↔ '\n' ∈ f.message.toList := by
    unfold escapeBars
    rw [List.mem_flatMap]
    constructor
    · rintro ⟨c, hc, hmem⟩
      split at hmem
      · exact absurd hmem (by decide)
      · rwa [List.mem_singleton.mp hmem]
    · exact fun h => ⟨'\n', h, by decide⟩
  unfold findingRow texts
  rw [toList_tableRow_cons]
  simp only [List.mem_cons, List.flatMap_cons, List.mem_append, hcell, toList_escapeCell, hescaped,
    List.flatMap_nil, List.not_mem_nil, exists_eq_or_imp]
  simp

/-- **When a finding keeps its row**: none of its texts breaks the line, and none
    but the message, which is escaped, has a bar. -/
theorem keepsRow_iff :
    KeepsRow f ↔ (∀ t ∈ texts f, '\n' ∉ t.toList) ∧ ∀ t ∈ bareTexts f, '|' ∉ t.toList := by
  have hlines : (∀ t ∈ texts f, '\n' ∉ t.toList) ↔ '\n' ∉ (findingRow f).toList := by
    rw [lineFeed_mem_findingRow_iff]
    simp only [not_exists, not_and]
  rw [hlines, ← cellsOf_findingRow_iff]
  unfold KeepsRow
  simp only [linesOf_eq_singleton_iff]
  constructor
  · rintro ⟨_, ⟨rfl, hfeed⟩, hcells⟩
    exact ⟨hfeed, hcells⟩
  · exact fun h => ⟨_, ⟨rfl, h.1⟩, h.2⟩

/-! ## The table of findings in a report -/

/-- The lines of the text of a report: those before the table of findings, and
    the lines of its rows. -/
theorem exists_linesOf_write (r : Report) :
    ∃ before, linesOf (write r) = before
      ++ ["## All findings", "", "| Severity | Kind | Location | Message |", "|---|---|---|---|"]
      ++ (sortFindings r.findings).flatMap (fun f => linesOf (findingRow f))
      ++ (if r.findings = [] then ["| (none) | (none) |  |  |"] else [])
      ++ [""] := by
  refine ⟨(header r ++ ["## Statistics", ""] ++ statisticsTable r.statistics
    ++ ["### Relations by kind", ""] ++ countTable r.relationCounts
    ++ ["## Findings summary", ""] ++ countTable (.ofWords (r.findings.map (·.kind.word)))
    ++ danglingSection r.findings).flatMap linesOf, ?_⟩
  have hfixed : ∀ line ∈ ["## All findings", "", "| Severity | Kind | Location | Message |",
      "|---|---|---|---|", "| (none) | (none) |  |  |"], linesOf line = [line] := by
    intro line hline
    refine linesOf_eq_singleton_iff.mpr ⟨rfl, ?_⟩
    revert line
    decide
  simp only [List.forall_mem_cons] at hfixed
  obtain ⟨h₁, h₂, h₃, h₄, h₅, -⟩ := hfixed
  unfold write
  rw [linesOf_intercalate (by simp [lines])]
  unfold lines findingTable
  simp only [List.flatMap_append, List.flatMap_cons, List.flatMap_nil, List.flatMap_map, h₁, h₂, h₃,
    h₄, List.append_assoc, List.cons_append, List.nil_append, List.isEmpty_iff]
  congr
  split
  · simp [h₅]
  · rfl

/-- **The table of findings ends the text** of a report, with the row of each
    finding in it, each once; and a finding keeps its row exactly if no text of
    it has a line feed and none but the message has a bar. -/
theorem findingTable_read (r : Report) :
    (∃ before, linesOf (write r) = before
      ++ ["## All findings", "", "| Severity | Kind | Location | Message |", "|---|---|---|---|"]
      ++ (sortFindings r.findings).flatMap (fun f => linesOf (findingRow f))
      ++ (if r.findings = [] then ["| (none) | (none) |  |  |"] else [])
      ++ [""])
    ∧ (sortFindings r.findings).Perm r.findings
    ∧ ∀ f, KeepsRow f
        ↔ (∀ t ∈ texts f, '\n' ∉ t.toList) ∧ ∀ t ∈ bareTexts f, '|' ∉ t.toList :=
  ⟨exists_linesOf_write r, List.mergeSort_perm _ _, fun _ => keepsRow_iff⟩

/-- A bar in the name of a file breaks the row into five cells. -/
theorem not_keepsRow_of_bar :
    let f : Finding := ⟨.invalidFactFile, .error, "Invalid JSON: malformed",
      some ⟨"a|b.facts.json", none⟩, none⟩
    let r : Report := (Report.empty "tool" "0" "root" "").add f
    let row := "| error | invalidFactFile | a|b.facts.json | Invalid JSON: malformed |"
    row ∈ linesOf (write r)
    ∧ cellsOf row = ["error", "invalidFactFile", "a", "b.facts.json", "Invalid JSON: malformed"]
    ∧ ¬ KeepsRow f := by
  intro f r row
  have hrow : linesOf (findingRow f) = [row] :=
    linesOf_eq_singleton_iff.mpr ⟨by decide, by decide⟩
  refine ⟨?_, by decide +kernel, fun h => ?_⟩
  · obtain ⟨before, hlines⟩ := exists_linesOf_write r
    have hmem : f ∈ sortFindings r.findings :=
      (List.mergeSort_perm _ _).mem_iff.mpr List.mem_cons_self
    rw [hlines]
    refine List.mem_append_left _ (List.mem_append_left _ (List.mem_append_right _ ?_))
    exact List.mem_flatMap.mpr ⟨f, hmem, hrow ▸ List.mem_cons_self⟩
  · have hplace := (keepsRow_iff.mp h).2 f.place (by decide)
    exact hplace (by decide)

end TypeLineage.Markdown
