import Mathlib
import TypeLineage.Proofs.Registry.Agreement
import TypeLineage.Proofs.Registry.Hierarchy

/-! # The drawing of a hierarchy is read back

    A drawing is read line by line: units of indentation, each a pipe or a gap,
    up to the first tee or corner, and what stands behind that is a name, with
    the mark or without.  All of these pieces are four characters wide and no
    indentation is a tee or a corner, so whatever characters a name has, it is
    not read before its own place.

    What is read is an outline, the names with their depths from top to bottom.
    It holds the tree: `Nested` says that the nearest of the rows above that is
    one less deep carries the parent, and it holds of the outline of a forest
    because everything between a type and its next sibling is deeper. -/

namespace TypeLineage.Hierarchy

variable {parent : String → Option String} {root name : String} {depth level : Nat}
  {forest : Forest}

/-! ## Reading a drawing -/

/-- What a line says: how deep its type stands, whose it is and whether it bears
    a mark. -/
structure Row where
  depth : Nat
  name : String
  isMarked : Bool
  deriving DecidableEq, Repr

namespace Row

/-- A row from what stands behind the tee or the corner of its line. -/
def ofLabel (depth : Nat) (label : List Char) : Row :=
  if cycleMark.toList.isSuffixOf label then
    ⟨depth, String.ofList (label.take (label.length - cycleMark.toList.length)), true⟩
  else ⟨depth, String.ofList label, false⟩

/-- Reads a line behind the indentation of a depth: a pipe or a gap is one unit
    more, a tee or a corner ends the indentation. -/
def ofLine? (depth : Nat) : List Char → Option Row
  | a :: b :: c :: d :: rest =>
    if [a, b, c, d] = pipe.toList ∨ [a, b, c, d] = gap.toList then ofLine? (depth + 1) rest
    else if [a, b, c, d] = tee.toList ∨ [a, b, c, d] = corner.toList then
      some (ofLabel (depth + 1) rest)
    else none
  | _ => none

end Row

/-- The lines of a text in which each line is ended by a line feed. -/
def linesOf (text : String) : List String :=
  ((text.toList.splitOn '\n').dropLast).map String.ofList

/-- Reads a drawing: the first line is the name of the root. -/
def outline? (text : String) : Option (List Row) :=
  match linesOf text with
  | [] => some []
  | top :: lines => (lines.mapM fun line => Row.ofLine? 0 line.toList).map (⟨0, top, false⟩ :: ·)

/-- The name can be told from the line break and from the mark. -/
def Plain (name : String) : Prop :=
  '\n' ∉ name.toList ∧ ¬ cycleMark.toList <:+ name.toList

instance (name : String) : Decidable (Plain name) :=
  inferInstanceAs (Decidable ('\n' ∉ name.toList ∧ ¬ cycleMark.toList <:+ name.toList))

/-! ## Lines -/

theorem linesOf_join {lines : List String} (h : ∀ line ∈ lines, '\n' ∉ line.toList) :
    linesOf (String.join (lines.map (· ++ "\n"))) = lines := by
  -- what is behind the last line feed is one piece more, and empty
  have hsplit : (String.join (lines.map (· ++ "\n"))).toList.splitOn '\n'
      = lines.map String.toList ++ [[]] := by
    rw [String.toList_join]
    induction lines with
    | nil => rfl
    | cons line lines ih =>
        rw [List.forall_mem_cons] at h
        have hbreak : (line ++ "\n").toList = line.toList ++ ['\n'] := by
          rw [String.toList_append]
          rfl
        rw [List.map_cons, List.flatMap_cons, hbreak, List.append_assoc, List.singleton_append,
          List.splitOn_append_cons_self_of_not_mem h.1, ih h.2]
        rfl
  unfold linesOf
  rw [hsplit, List.dropLast_concat, List.map_map]
  exact List.map_id'' (fun line => String.ofList_toList) lines

theorem ofLabel_toList (h : ¬ cycleMark.toList <:+ name.toList) :
    Row.ofLabel depth name.toList = ⟨depth, name, false⟩ := by
  unfold Row.ofLabel
  rw [if_neg fun hs => h (List.isSuffixOf_iff_suffix.mp hs), String.ofList_toList]

theorem ofLabel_marked (depth : Nat) (name : String) :
    Row.ofLabel depth (name ++ cycleMark).toList = ⟨depth, name, true⟩ := by
  have hsuffix : cycleMark.toList.isSuffixOf (name ++ cycleMark).toList = true := by
    rw [List.isSuffixOf_iff_suffix, String.toList_append]
    exact List.suffix_append _ _
  unfold Row.ofLabel
  rw [if_pos hsuffix, String.toList_append, List.length_append, Nat.add_sub_cancel,
    List.take_left, String.ofList_toList]

/-- The indentation is read as that many units. -/
def Indents (level : Nat) (indent : String) : Prop :=
  ∀ depth rest, Row.ofLine? depth (indent.toList ++ rest) = Row.ofLine? (depth + level) rest

theorem indents_zero : Indents 0 "" := fun _ _ => rfl

theorem Indents.inner {indent : String} (h : Indents level indent) (isLast : Bool) :
    Indents (level + 1) (indent ++ (if isLast then gap else pipe)) := by
  intro depth rest
  rw [String.toList_append, List.append_assoc, h, ← Nat.add_assoc]
  cases isLast <;> rfl

/-- Behind its indentation a line is read at the tee or corner. -/
theorem Indents.ofLine? {indent : String} (h : Indents level indent) (isLast : Bool)
    (label : String) :
    Row.ofLine? 0 (indent ++ (if isLast then corner else tee) ++ label).toList
      = some (Row.ofLabel (level + 1) label.toList) := by
  rw [String.toList_append, String.toList_append, List.append_assoc, h, Nat.zero_add]
  cases isLast <;> rfl

/-! ## The outline of a forest -/

namespace Forest

/-- The rows of a forest whose siblings stand at a depth. -/
def rows (depth : Nat) : Forest → List Row
  | .empty => []
  | .again name rest => ⟨depth, name, true⟩ :: rest.rows depth
  | .node name below rest => ⟨depth, name, false⟩ :: below.rows (depth + 1) ++ rest.rows depth

theorem map_name_rows (forest : Forest) :
    ∀ depth, (forest.rows depth).map (·.name) = forest.names := by
  induction forest with
  | empty => exact fun _ => rfl
  | again name rest ih =>
      intro depth
      rw [rows, names, List.map_cons, ih]
  | node name below rest ihbelow ihrest =>
      intro depth
      rw [rows, names, List.map_append, List.map_cons, ihbelow, ihrest]

/-- Nothing in a forest is less deep than its siblings. -/
theorem le_depth_of_mem_rows (forest : Forest) :
    ∀ depth, ∀ row ∈ forest.rows depth, depth ≤ row.depth := by
  induction forest with
  | empty => exact fun _ row hrow => nomatch hrow
  | again name rest ih =>
      intro depth
      rw [rows, List.forall_mem_cons]
      exact ⟨Nat.le_refl depth, ih depth⟩
  | node name below rest ihbelow ihrest =>
      intro depth
      rw [rows, List.cons_append, List.forall_mem_cons]
      refine ⟨Nat.le_refl depth, fun row hrow => ?_⟩
      rcases List.mem_append.mp hrow with hrow | hrow
      · exact Nat.le_of_succ_le (ihbelow (depth + 1) row hrow)
      · exact ihrest depth row hrow

/-- Only the root bears a mark. -/
theorem Grown.isMarked_iff (h : forest.Grown parent root) :
    ∀ depth, ∀ row ∈ forest.rows depth, row.isMarked = true ↔ row.name = root := by
  induction forest with
  | empty => exact fun _ row hrow => nomatch hrow
  | again name rest ih =>
      intro depth
      rw [rows, List.forall_mem_cons]
      exact ⟨⟨fun _ => h.1, fun _ => rfl⟩, ih h.2 depth⟩
  | node name below rest ihbelow ihrest =>
      intro depth
      obtain ⟨hne, -, hbelow, hrest⟩ := h
      rw [rows, List.cons_append, List.forall_mem_cons]
      refine ⟨⟨fun hmark => absurd hmark Bool.false_ne_true, fun heq => absurd heq hne⟩,
        fun row hrow => ?_⟩
      exact (List.mem_append.mp hrow).elim (ihbelow hbelow _ row) (ihrest hrest depth row)

/-- No line of a forest is broken. -/
theorem not_mem_lines (hplain : ∀ n ∈ forest.names, '\n' ∉ n.toList) :
    ∀ {indent : String}, '\n' ∉ indent.toList →
      ∀ line ∈ forest.lines indent, '\n' ∉ line.toList := by
  have hglyph : ∀ isLast : Bool, '\n' ∉ (if isLast then corner else tee).toList := by decide
  have hunit : ∀ isLast : Bool, '\n' ∉ (if isLast then gap else pipe).toList := by decide
  have hmark : '\n' ∉ cycleMark.toList := by decide
  induction forest with
  | empty =>
      intro indent _ line hline
      exact nomatch hline
  | again name rest ih =>
      intro indent hindent
      rw [names, List.forall_mem_cons] at hplain
      rw [lines, List.forall_mem_cons]
      refine ⟨?_, ih hplain.2 hindent⟩
      simp only [String.toList_append, List.mem_append, not_or]
      exact ⟨⟨⟨hindent, hglyph _⟩, hplain.1⟩, hmark⟩
  | node name below rest ihbelow ihrest =>
      intro indent hindent
      rw [names, List.cons_append, List.forall_mem_cons, List.forall_mem_append] at hplain
      rw [lines, List.cons_append, List.forall_mem_cons, List.forall_mem_append]
      refine ⟨?_, ihbelow hplain.2.1 ?_, ihrest hplain.2.2 hindent⟩
      · simp only [String.toList_append, List.mem_append, not_or]
        exact ⟨⟨hindent, hglyph _⟩, hplain.1⟩
      · rw [String.toList_append, List.mem_append, not_or]
        exact ⟨hindent, hunit _⟩

/-- The lines of a forest are read as its rows. -/
theorem mapM_lines (hplain : ∀ n ∈ forest.names, Plain n) :
    ∀ {level : Nat} {indent : String}, Indents level indent →
      (forest.lines indent).mapM (fun line => Row.ofLine? 0 line.toList)
        = some (forest.rows (level + 1)) := by
  induction forest with
  | empty => exact fun _ => rfl
  | again name rest ih =>
      intro level indent hindent
      rw [names, List.forall_mem_cons] at hplain
      rw [lines, List.mapM_cons, String.append_assoc, hindent.ofLine?, ofLabel_marked,
        ih hplain.2 hindent]
      rfl
  | node name below rest ihbelow ihrest =>
      intro level indent hindent
      rw [names, List.cons_append, List.forall_mem_cons, List.forall_mem_append] at hplain
      rw [lines, List.cons_append, List.mapM_cons, List.mapM_append, hindent.ofLine?,
        ofLabel_toList hplain.1.2, ihbelow hplain.2.1 (hindent.inner _), ihrest hplain.2.2 hindent]
      rfl

end Forest

/-- The drawing of a forest is read as its outline. -/
theorem outline?_drawing (hroot : Plain root) (hplain : ∀ n ∈ forest.names, Plain n) :
    outline? (String.join ((root :: forest.lines "").map (· ++ "\n")))
      = some (⟨0, root, false⟩ :: forest.rows 1) := by
  have hlines : ∀ line ∈ root :: forest.lines "", '\n' ∉ line.toList := by
    rw [List.forall_mem_cons]
    exact ⟨hroot.1, Forest.not_mem_lines (fun n hn => (hplain n hn).1) List.not_mem_nil⟩
  unfold outline?
  rw [linesOf_join hlines]
  show Option.map _ ((forest.lines "").mapM _) = _
  rw [Forest.mapM_lines hplain indents_zero]
  rfl

/-! ## Parents in an outline -/

/-- Each row stands below its parent: of the rows above it, the nearest first,
    the first that is one less deep carries the parent. -/
def Nested (parent : String → Option String) : (above rows : List Row) → Prop
  | _, [] => True
  | above, row :: rows =>
    (∃ upper, above.find? (fun r => r.depth + 1 = row.depth) = some upper
      ∧ parent row.name = some upper.name)
    ∧ Nested parent (row :: above) rows

theorem nested_append {rows more : List Row} : ∀ {above : List Row},
    Nested parent above (rows ++ more)
      ↔ Nested parent above rows ∧ Nested parent (rows.reverse ++ above) more := by
  induction rows with
  | nil => exact ⟨fun h => ⟨trivial, h⟩, And.right⟩
  | cons row rows ih =>
      intro above
      rw [List.cons_append, Nested, Nested, ih, and_assoc, List.reverse_cons, List.append_assoc,
        List.singleton_append]

/-- A row at the depth of the siblings or deeper is passed over on the way up. -/
theorem find?_passed {rows above : List Row} (h : ∀ row ∈ rows, depth ≤ row.depth) :
    (rows.reverse ++ above).find? (fun r => r.depth + 1 = depth)
      = above.find? (fun r => r.depth + 1 = depth) := by
  have hnone : rows.reverse.find? (fun r => r.depth + 1 = depth) = none := by
    rw [List.find?_eq_none]
    intro row hrow
    have hle := h row (List.mem_reverse.mp hrow)
    rw [decide_eq_true_eq]
    omega
  rw [List.find?_append, hnone, Option.none_or]

/-- In the outline of a forest each row stands below its parent, if the
    siblings' parent is the nearest row that is one less deep than they are. -/
theorem Forest.Grown.nested (h : forest.Grown parent root) :
    ∀ {depth : Nat} {above : List Row} {upper : Row},
      above.find? (fun r => r.depth + 1 = depth) = some upper →
      (∀ c ∈ forest.tops, parent c = some upper.name) →
        Nested parent above (forest.rows depth) := by
  induction forest with
  | empty => exact fun _ _ => trivial
  | again name rest ih =>
      intro depth above upper hupper htops
      rw [tops, List.forall_mem_cons] at htops
      have hself : ∀ row ∈ [Row.mk depth name true], depth ≤ row.depth := by simp
      exact ⟨⟨upper, hupper, htops.1⟩, ih h.2 ((find?_passed hself).trans hupper) htops.2⟩
  | node name below rest ihbelow ihrest =>
      intro depth above upper hupper htops
      obtain ⟨-, hlists, hbelow, hrest⟩ := h
      rw [tops, List.forall_mem_cons] at htops
      -- what is below is read with the row above it, what comes after as if it were not there
      have hdeeper : ∀ row ∈ ⟨depth, name, false⟩ :: below.rows (depth + 1), depth ≤ row.depth := by
        rw [List.forall_mem_cons]
        exact ⟨Nat.le_refl depth, fun row hrow =>
          Nat.le_of_succ_le (below.le_depth_of_mem_rows (depth + 1) row hrow)⟩
      have hown : (Row.mk depth name false :: above).find? (fun r => r.depth + 1 = depth + 1)
          = some ⟨depth, name, false⟩ := List.find?_cons_of_pos (decide_eq_true rfl)
      rw [rows, nested_append]
      exact ⟨⟨⟨upper, hupper, htops.1⟩, ihbelow hbelow hown fun c hc => (hlists.2 c).mp hc⟩,
        ihrest hrest ((find?_passed hdeeper).trans hupper) htops.2⟩

end TypeLineage.Hierarchy

namespace TypeLineage.Registry

open TypeLineage.Cycle (Up)
open Hierarchy

/-- What stands in the drawing below a registered root is registered. -/
theorem mem_names_of_reflTransGen {r : Registry} {root n : String} (hroot : r.has root = true)
    (h : Relation.ReflTransGen (Up r.superclassOf?) n root) : n ∈ r.names := by
  rw [mem_names_iff]
  rcases Relation.ReflTransGen.cases_head h with rfl | ⟨base, hup, -⟩
  · exact hroot
  · exact has_of_superclassOf? hup

/-- **The drawing is read back** after any run, if the names in it can be told
    from line breaks and marks: what is read is the outline of the forest below
    the root.  For every row but the first, the nearest row above it that is one
    less deep carries its superclass.  The rows are of different types, all that
    lead up to the root, and the mark is the root's. -/
theorem outline?_renderHierarchy_run (changes : List Change) (root : String)
    (hroot : (run changes).has root = true)
    (hplain : ∀ n, Relation.ReflTransGen (Up (run changes).superclassOf?) n root → Plain n) :
    ∃ forest : Forest, IsForest (run changes).superclassOf? root forest
      ∧ outline? ((run changes).renderHierarchy root)
          = some (⟨0, root, false⟩ :: forest.rows 1)
      ∧ (∀ before row after, ⟨0, root, false⟩ :: forest.rows 1 = before ++ row :: after →
          before ≠ [] → ∃ upper, before.findRev? (fun r => r.depth + 1 = row.depth) = some upper
            ∧ (run changes).superclassOf? row.name = some upper.name)
      ∧ ((forest.rows 1).map (·.name)).Nodup
      ∧ (∀ n, n ∈ (forest.rows 1).map (·.name) ↔
          Relation.TransGen (Up (run changes).superclassOf?) n root)
      ∧ ∀ row ∈ forest.rows 1, row.isMarked = true ↔ row.name = root := by
  have h := coherent_run changes
  obtain ⟨forest, hforest⟩ := h.exists_isForest hroot
  obtain ⟨-, hnd, -⟩ := h.draws_forest hforest
  have hnames : ∀ n ∈ forest.names, Plain n := fun n hn =>
    hplain n (hforest.mem_names_iff.mp hn).to_reflTransGen
  have htop : [Row.mk 0 root false].find? (fun r => r.depth + 1 = 1) = some ⟨0, root, false⟩ := rfl
  have hnested := hforest.2.nested htop fun c hc => (hforest.1.2 c).mp hc
  refine ⟨forest, hforest, ?_, ?_, ?_, ?_, hforest.2.isMarked_iff 1⟩
  · unfold renderHierarchy
    rw [h.hierarchyLines_eq hroot hforest]
    exact outline?_drawing (hplain root .refl) hnames
  · intro before row after heq hbefore
    obtain ⟨top, before, rfl⟩ := List.exists_cons_of_ne_nil hbefore
    rw [List.cons_append] at heq
    obtain ⟨rfl, hrows⟩ := List.cons.inj heq
    rw [hrows, nested_append] at hnested
    rw [List.findRev?_eq_find?_reverse, List.reverse_cons]
    exact hnested.2.1
  · rw [forest.map_name_rows]
    exact hnd
  · intro n
    rw [forest.map_name_rows]
    exact hforest.mem_names_iff

/-- A root on a cycle, and a name that looks like a piece of a drawing. -/
theorem outline?_renderHierarchy_run_of_glyphs :
    let changes : List Change := [.registerAll [bareFact "A" (some "C"),
      bareFact "B" (some "A"), bareFact "C" (some "A"), bareFact "├── D" (some "B")]]
    (run changes).has "A" = true
    ∧ (∀ n, Relation.ReflTransGen (Up (run changes).superclassOf?) n "A" → Plain n)
    ∧ ∃ rows : List Row, rows = [⟨0, "A", false⟩, ⟨1, "B", false⟩, ⟨2, "├── D", false⟩,
          ⟨1, "C", false⟩, ⟨2, "A", true⟩]
      ∧ outline? ((run changes).renderHierarchy "A") = some rows
      ∧ ∀ before row after, rows = before ++ row :: after → before ≠ [] →
          ∃ upper, before.findRev? (fun r => r.depth + 1 = row.depth) = some upper
            ∧ (run changes).superclassOf? row.name = some upper.name := by
  intro changes
  have hroot : (run changes).has "A" = true := by decide +kernel
  have hnames : ∀ n ∈ (run changes).names, Plain n := by decide +kernel
  have hplain : ∀ n, Relation.ReflTransGen (Up (run changes).superclassOf?) n "A" → Plain n :=
    fun n hn => hnames n (mem_names_of_reflTransGen hroot hn)
  obtain ⟨forest, -, hread, habove, -⟩ := outline?_renderHierarchy_run changes "A" hroot hplain
  have hlines : (run changes).hierarchyLines "A"
      = ["A", "├── B", "│   └── ├── D", "└── C", "    └── A (cycle)"] := by cbv
  have hrows : outline? ((run changes).renderHierarchy "A")
      = some [⟨0, "A", false⟩, ⟨1, "B", false⟩, ⟨2, "├── D", false⟩, ⟨1, "C", false⟩,
          ⟨2, "A", true⟩] := by
    unfold renderHierarchy
    rw [hlines]
    decide +kernel
  exact ⟨hroot, hplain, _, Option.some.inj (hread.symm.trans hrows), hread, habove⟩

end TypeLineage.Registry
