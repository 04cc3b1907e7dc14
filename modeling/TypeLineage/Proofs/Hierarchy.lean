import Mathlib.Logic.Relation
import TypeLineage.Registry.Hierarchy
import TypeLineage.Proofs.Cycle

/-! # A forest drawn from a stack

    `Forest.lines` draws a forest by recursion on it, a type before what is
    below it and that before its next sibling.  `Draws` is the work on a stack
    of branches without a bound.

    The heart is the invariant `Pending`: the names that wait on the stack and
    those that are drawn are all different, and the parent of each is visited.
    So a type that is not the root cannot wait or be drawn before its parent is
    expanded, and only the root is ever met again. -/

namespace TypeLineage.Hierarchy

open TypeLineage.Cycle (Up)

variable {parent : String → Option String} {children : String → List String} {root n m c : String}
  {path known pending drawn visited result : List String} {stack : List Branch}

/-! ## Forests -/

/-- Siblings from one on: the root met again, or a type with the forest below
    it, and then the siblings after it. -/
inductive Forest where
  | empty
  | again (name : String) (rest : Forest)
  | node (name : String) (below rest : Forest)
  deriving DecidableEq, Repr

namespace Forest

/-- No sibling is left. -/
def isEmpty : Forest → Bool
  | .empty => true
  | _ => false

/-- The names of the siblings, in order. -/
def tops : Forest → List String
  | .empty => []
  | .again name rest => name :: rest.tops
  | .node name _ rest => name :: rest.tops

/-- The name of each line, from top to bottom. -/
def names : Forest → List String
  | .empty => []
  | .again name rest => name :: rest.names
  | .node name below rest => name :: below.names ++ rest.names

/-- The names of the lines that bear no mark, from top to bottom. -/
def unmarked : Forest → List String
  | .empty => []
  | .again _ rest => rest.unmarked
  | .node name below rest => name :: below.unmarked ++ rest.unmarked

/-- The names of the lines that bear a mark, from top to bottom. -/
def marked : Forest → List String
  | .empty => []
  | .again name rest => name :: rest.marked
  | .node _ below rest => below.marked ++ rest.marked

/-- The lines of a forest at an indentation.  The last of the siblings has a
    corner and nothing below it but a gap, the others a tee and a pipe. -/
def lines (indent : String) : Forest → List String
  | .empty => []
  | .again name rest =>
    (indent ++ (if rest.isEmpty then corner else tee) ++ name ++ cycleMark) :: rest.lines indent
  | .node name below rest =>
    (indent ++ (if rest.isEmpty then corner else tee) ++ name)
      :: below.lines (indent ++ (if rest.isEmpty then gap else pipe)) ++ rest.lines indent

end Forest

/-- The names, in ascending order, whose parent is the given one. -/
def Lists (parent : String → Option String) (above : String) (names : List String) : Prop :=
  Text.Ascending id names ∧ ∀ n, n ∈ names ↔ parent n = some above

/-- Below every type but the root stand the types whose parent it is; only the
    root is met again. -/
def Forest.Grown (parent : String → Option String) (root : String) : Forest → Prop
  | .empty => True
  | .again name rest => name = root ∧ rest.Grown parent root
  | .node name below rest =>
    name ≠ root ∧ Lists parent name below.tops ∧ below.Grown parent root ∧ rest.Grown parent root

/-- The forest of what stands below the root. -/
def IsForest (parent : String → Option String) (root : String) (forest : Forest) : Prop :=
  Lists parent root forest.tops ∧ forest.Grown parent root

theorem Lists.unique {names names' : List String} (h : Lists parent n names)
    (h' : Lists parent n names') : names = names' :=
  h.1.ext h'.1 fun c => (h.2 c).trans (h'.2 c).symm

/-- A forest is determined by its siblings. -/
theorem Forest.Grown.eq {forest : Forest} (h : forest.Grown parent root) :
    ∀ {other : Forest}, other.Grown parent root → forest.tops = other.tops → forest = other := by
  induction forest with
  | empty =>
      intro other _ htops
      cases other with
      | empty => rfl
      | again _ _ => exact nomatch htops
      | node _ _ _ => exact nomatch htops
  | again name rest ih =>
      intro other h' htops
      cases other with
      | empty => exact nomatch htops
      | again name' rest' =>
          obtain ⟨rfl, hrest⟩ := List.cons.inj htops
          rw [ih h.2 h'.2 hrest]
      | node name' _ _ => exact absurd ((List.cons.inj htops).1.symm.trans h.1) h'.1
  | node name below rest ihbelow ihrest =>
      intro other h' htops
      obtain ⟨hne, hlists, hbelow, hrest⟩ := h
      cases other with
      | empty => exact nomatch htops
      | again name' _ => exact absurd ((List.cons.inj htops).1.trans h'.1) hne
      | node name' below' rest' =>
          obtain ⟨rfl, htops'⟩ := List.cons.inj htops
          obtain ⟨-, hlists', hbelow', hrest'⟩ := h'
          rw [ihbelow hbelow hbelow' (hlists.unique hlists'), ihrest hrest hrest' htops']

theorem IsForest.unique {forest other : Forest} (h : IsForest parent root forest)
    (h' : IsForest parent root other) : other = forest :=
  h'.2.eq h.2 (h'.1.unique h.1)

/-! ## The names of a forest -/

namespace Forest

theorem tops_subset_names : ∀ forest : Forest, forest.tops ⊆ forest.names
  | .empty => List.Subset.refl _
  | .again name rest => List.cons_subset_cons name rest.tops_subset_names
  | .node name _ rest =>
      List.cons_subset_cons name fun _ hn => List.mem_append_right _ (rest.tops_subset_names hn)

theorem length_lines (forest : Forest) : ∀ indent, (forest.lines indent).length
    = forest.names.length := by
  induction forest with
  | empty => exact fun _ => rfl
  | again name rest ih => exact fun indent => congrArg (· + 1) (ih indent)
  | node name below rest ihbelow ihrest =>
      intro indent
      simp only [lines, names, List.length_cons, List.length_append, List.cons_append, ihbelow,
        ihrest]

/-- What bears no mark is all but the root. -/
theorem Grown.unmarked_eq {forest : Forest} (h : forest.Grown parent root) :
    forest.unmarked = forest.names.filter (· ≠ root) := by
  induction forest with
  | empty => rfl
  | again name rest ih =>
      rw [unmarked, names, List.filter_cons_of_neg (by simp [h.1]), ih h.2]
  | node name below rest ihbelow ihrest =>
      obtain ⟨hne, -, hbelow, hrest⟩ := h
      rw [unmarked, names, List.cons_append, List.cons_append,
        List.filter_cons_of_pos (by simp [hne]), List.filter_append, ihbelow hbelow, ihrest hrest]

/-- What bears a mark is the root. -/
theorem Grown.marked_eq {forest : Forest} (h : forest.Grown parent root) :
    forest.marked = forest.names.filter (· = root) := by
  induction forest with
  | empty => rfl
  | again name rest ih =>
      rw [marked, names, List.filter_cons_of_pos (by simp [h.1]), ih h.2]
  | node name below rest ihbelow ihrest =>
      obtain ⟨hne, -, hbelow, hrest⟩ := h
      rw [marked, names, List.cons_append, List.filter_cons_of_neg (by simp [hne]),
        List.filter_append, ihbelow hbelow, ihrest hrest]

/-- Every line bears a mark or bears none. -/
theorem length_names (forest : Forest) :
    forest.names.length = forest.unmarked.length + forest.marked.length := by
  induction forest with
  | empty => rfl
  | again name rest ih =>
      simp only [names, unmarked, marked, List.length_cons, ih]
      omega
  | node name below rest ihbelow ihrest =>
      simp only [names, unmarked, marked, List.length_cons, List.length_append, List.cons_append,
        ihbelow, ihrest]
      omega

/-- From the siblings on all names of a forest lead up to the root. -/
theorem Grown.sound {forest : Forest} (h : forest.Grown parent root)
    (htops : ∀ c ∈ forest.tops, Relation.TransGen (Up parent) c root) :
    ∀ n ∈ forest.names, Relation.TransGen (Up parent) n root := by
  induction forest with
  | empty => exact fun n hn => nomatch hn
  | again name rest ih =>
      intro n hn
      rcases List.mem_cons.mp hn with rfl | hn
      · exact htops n List.mem_cons_self
      · exact ih h.2 (fun c hc => htops c (List.mem_cons_of_mem _ hc)) n hn
  | node name below rest ihbelow ihrest =>
      obtain ⟨-, hlists, hbelow, hrest⟩ := h
      have hname := htops name List.mem_cons_self
      intro n hn
      rcases List.mem_cons.mp hn with rfl | hn
      · exact hname
      · rcases List.mem_append.mp hn with hn | hn
        · refine ihbelow hbelow (fun c hc => ?_) n hn
          exact .head ((hlists.2 c).mp hc) hname
        · exact ihrest hrest (fun c hc => htops c (List.mem_cons_of_mem _ hc)) n hn

/-- Below a name other than the root stands whatever has it as its parent. -/
theorem Grown.closed {forest : Forest} (h : forest.Grown parent root) (hm : m ∈ forest.names)
    (hne : m ≠ root) (hup : Up parent n m) : n ∈ forest.names := by
  induction forest with
  | empty => exact nomatch hm
  | again name rest ih =>
      refine List.mem_cons_of_mem _ (ih h.2 ((List.mem_cons.mp hm).resolve_left ?_))
      rintro rfl
      exact hne h.1
  | node name below rest ihbelow ihrest =>
      obtain ⟨-, hlists, hbelow, hrest⟩ := h
      refine List.mem_cons_of_mem _ (List.mem_append.mpr ?_)
      rcases List.mem_cons.mp hm with rfl | hm
      · exact Or.inl (below.tops_subset_names ((hlists.2 n).mpr hup))
      · exact (List.mem_append.mp hm).imp (ihbelow hbelow) (ihrest hrest)

end Forest

/-- A forest holds what leads up to its root. -/
theorem IsForest.mem_names_iff {forest : Forest} (h : IsForest parent root forest) :
    n ∈ forest.names ↔ Relation.TransGen (Up parent) n root := by
  obtain ⟨hlists, hgrown⟩ := h
  constructor
  · exact hgrown.sound (fun c hc => .single ((hlists.2 c).mp hc)) n
  · intro hpath
    induction hpath using Relation.TransGen.head_induction_on with
    | single hup => exact forest.tops_subset_names ((hlists.2 _).mpr hup)
    | @head n m hup _ hm =>
        by_cases hroot : m = root
        · subst hroot
          exact forest.tops_subset_names ((hlists.2 n).mpr hup)
        · exact hgrown.closed hm hroot hup

/-! ## There is a forest below every root -/

/-- The way from a name up to the root, without a repetition. -/
structure IsPath (parent : String → Option String) (root : String) (known path : List String) :
    Prop where
  nodup : path.Nodup
  chain : path.IsChain (Up parent)
  last : path.getLast? = some root
  known : path ⊆ known

/-- On the way to the root every other name has its parent after it. -/
theorem IsPath.parent_mem_tail (h : IsPath parent root known path) (hn : n ∈ path)
    (hne : n ≠ root) : ∃ m ∈ path.tail, parent n = some m := by
  obtain ⟨xs, ys, rfl⟩ := List.append_of_mem hn
  cases ys with
  | nil =>
      have hlast := h.last
      rw [List.getLast?_concat] at hlast
      exact absurd (Option.some.inj hlast) hne
  | cons m ys =>
      refine ⟨m, ?_, (List.isChain_append_cons_cons.mp h.chain).2.1⟩
      cases xs <;> simp

/-- What has the first name of the way as its parent is not on the way. -/
theorem IsPath.cons (h : IsPath parent root known (m :: path)) (hn : n ∈ known)
    (hup : Up parent n m) (hne : n ≠ root) : IsPath parent root known (n :: m :: path) where
  nodup := by
    refine List.nodup_cons.mpr ⟨fun hmem => ?_, h.nodup⟩
    obtain ⟨k, hk, hparent⟩ := h.parent_mem_tail hmem hne
    obtain rfl := Option.some.inj (hparent.symm.trans hup)
    exact (List.nodup_cons.mp h.nodup).1 hk
  chain := .cons_cons hup h.chain
  last := by
    rw [List.getLast?_cons_cons]
    exact h.last
  known := List.cons_subset.mpr ⟨hn, h.known⟩

theorem isPath_root (hroot : root ∈ known) : IsPath parent root known [root] where
  nodup := List.pairwise_singleton _ root
  chain := .singleton root
  last := rfl
  known := List.cons_subset.mpr ⟨hroot, List.nil_subset _⟩

/-- Siblings with a forest below each make a forest. -/
theorem exists_row (names : List String)
    (h : ∀ c ∈ names, c ≠ root → ∃ below : Forest, Lists parent c below.tops
      ∧ below.Grown parent root) :
    ∃ forest : Forest, forest.tops = names ∧ forest.Grown parent root := by
  induction names with
  | nil => exact ⟨.empty, rfl, trivial⟩
  | cons c names ih =>
      obtain ⟨rest, htops, hrest⟩ := ih fun d hd => h d (List.mem_cons_of_mem _ hd)
      by_cases hc : c = root
      · exact ⟨.again c rest, by rw [Forest.tops, htops], hc, hrest⟩
      · obtain ⟨below, hlists, hbelow⟩ := h c List.mem_cons_self hc
        exact ⟨.node c below rest, by rw [Forest.tops, htops], hc, hlists, hbelow, hrest⟩

/-- The way grows with every level, and has no more names than are known. -/
theorem exists_below (hchildren : ∀ m, Lists parent m (children m))
    (hknown : ∀ n m, parent n = some m → n ∈ known) :
    ∀ (levels : Nat) (m : String) (path : List String), IsPath parent root known (m :: path) →
      known.length < levels + (m :: path).length →
      ∃ below : Forest, Lists parent m below.tops ∧ below.Grown parent root := by
  intro levels
  induction levels with
  | zero =>
      intro m path hpath hlt
      have hle := hpath.nodup.length_le_of_subset hpath.known
      omega
  | succ levels ih =>
      intro m path hpath hlt
      have hbelow : ∀ c ∈ children m, c ≠ root → ∃ below : Forest, Lists parent c below.tops
          ∧ below.Grown parent root := by
        intro c hc hne
        have hup : Up parent c m := ((hchildren m).2 c).mp hc
        refine ih c (m :: path) (hpath.cons (hknown c m hup) hup hne) ?_
        rw [List.length_cons]
        omega
      obtain ⟨forest, htops, hgrown⟩ := exists_row _ hbelow
      exact ⟨forest, htops ▸ hchildren m, hgrown⟩

theorem exists_isForest (hchildren : ∀ m, Lists parent m (children m))
    (hknown : ∀ n m, parent n = some m → n ∈ known) (hroot : root ∈ known) :
    ∃ forest, IsForest parent root forest :=
  exists_below hchildren hknown (known.length + 1) root [] (isPath_root hroot) (by
    rw [List.length_singleton]
    omega)

/-! ## Drawing from a stack -/

/-- The work on a stack of branches ends, and then these lines are drawn. -/
inductive Draws (children : String → List String) : List Branch → List String → List String → Prop
  | done (visited : List String) : Draws children [] visited []
  | again {branch : Branch} {stack : List Branch} {visited result : List String} :
      branch.name ∈ visited → Draws children stack visited result →
      Draws children (branch :: stack) visited ((branch.line ++ cycleMark) :: result)
  | expand {branch : Branch} {stack : List Branch} {visited result : List String} :
      branch.name ∉ visited →
      Draws children (Branch.ofSiblings branch.innerIndent (children branch.name) ++ stack)
        (branch.name :: visited) result →
      Draws children (branch :: stack) visited (branch.line :: result)

/-- A step for every line is enough. -/
theorem Draws.draw_eq (h : Draws children stack visited result) :
    ∀ steps, result.length ≤ steps → draw children steps stack visited = result := by
  induction h with
  | done visited =>
      intro steps _
      cases steps <;> rfl
  | again hmem _ ih =>
      intro steps hle
      obtain ⟨steps, rfl⟩ := Nat.exists_eq_succ_of_ne_zero (Nat.ne_zero_of_lt hle)
      rw [draw, if_pos (List.contains_iff_mem.mpr hmem), ih steps (Nat.le_of_succ_le_succ hle)]
  | expand hnot _ ih =>
      intro steps hle
      obtain ⟨steps, rfl⟩ := Nat.exists_eq_succ_of_ne_zero (Nat.ne_zero_of_lt hle)
      rw [draw, if_neg fun hc => hnot (List.contains_iff_mem.mp hc)]
      show _ :: draw _ _ _ _ = _
      rw [ih steps (Nat.le_of_succ_le_succ hle)]

/-- What waits and what is drawn, while a forest is drawn below the root. -/
structure Pending (parent : String → Option String) (root : String)
    (pending drawn visited : List String) : Prop where
  nodup : (pending ++ drawn).Nodup
  mem_visited : ∀ n, n ∈ visited ↔ n = root ∨ n ∈ drawn
  parent_visited : ∀ n ∈ pending ++ drawn, ∃ m ∈ visited, parent n = some m

namespace Pending

/-- The order of what is drawn does not matter. -/
theorem perm {drawn' : List String} (h : Pending parent root pending drawn visited)
    (hperm : drawn'.Perm drawn) : Pending parent root pending drawn' visited where
  nodup := (hperm.append_left pending).nodup_iff.mpr h.nodup
  mem_visited := fun n => by rw [h.mem_visited, hperm.mem_iff]
  parent_visited := fun n hn => h.parent_visited n ((hperm.append_left pending).mem_iff.mp hn)

/-- Only the root is met again. -/
theorem not_visited (h : Pending parent root (n :: pending) drawn visited) (hne : n ≠ root) :
    n ∉ visited := by
  rw [h.mem_visited, not_or]
  refine ⟨hne, fun hn => ?_⟩
  have hnd := (List.nodup_cons.mp h.nodup).1
  exact hnd (List.mem_append_right _ hn)

/-- The root is met again and drawn. -/
theorem again (h : Pending parent root (root :: pending) drawn visited) :
    Pending parent root pending (root :: drawn) visited where
  nodup := List.perm_middle.nodup_iff.mpr h.nodup
  mem_visited := fun n => by
    rw [h.mem_visited, List.mem_cons, ← or_assoc, or_self]
  parent_visited := fun n hn => h.parent_visited n (List.perm_middle.mem_iff.mp hn)

/-- A type is drawn, and what is below it waits. -/
theorem expand {names : List String} (h : Pending parent root (n :: pending) drawn visited)
    (hne : n ≠ root) (hnames : Lists parent n names) :
    Pending parent root (names ++ pending) (n :: drawn) (n :: visited) where
  nodup := by
    rw [List.append_assoc, List.nodup_append]
    refine ⟨hnames.1.nodup, List.perm_middle.nodup_iff.mpr h.nodup, ?_⟩
    -- whatever waits or is drawn has a parent that was visited before
    rintro c hc _ hmem rfl
    obtain ⟨m, hm, hparent⟩ := h.parent_visited c (List.perm_middle.mem_iff.mp hmem)
    obtain rfl := Option.some.inj (hparent.symm.trans ((hnames.2 c).mp hc))
    exact h.not_visited hne hm
  mem_visited := fun m => by
    rw [List.mem_cons, List.mem_cons, h.mem_visited, or_left_comm]
  parent_visited := by
    intro c hc
    rw [List.append_assoc, List.mem_append] at hc
    rcases hc with hc | hc
    · exact ⟨n, List.mem_cons_self, (hnames.2 c).mp hc⟩
    · obtain ⟨m, hm, hparent⟩ := h.parent_visited c (List.perm_middle.mem_iff.mp hc)
      exact ⟨m, List.mem_cons_of_mem _ hm, hparent⟩

/-- Before anything is drawn the root's children wait. -/
theorem start {names : List String} (hnames : Lists parent root names) :
    Pending parent root names [] [root] where
  nodup := by
    rw [List.append_nil]
    exact hnames.1.nodup
  mem_visited := fun n => by simp
  parent_visited := by
    intro c hc
    rw [List.append_nil] at hc
    exact ⟨root, List.mem_cons_self, (hnames.2 c).mp hc⟩

end Pending

theorem Forest.isEmpty_eq (forest : Forest) : forest.isEmpty = forest.tops.isEmpty := by
  cases forest <;> rfl

/-- The first of some siblings is the last if none is after it. -/
theorem Branch.ofSiblings_cons (indent name : String) (names : List String) :
    Branch.ofSiblings indent (name :: names)
      = ⟨name, indent, names.isEmpty⟩ :: Branch.ofSiblings indent names := by
  cases names <;> rfl

/-- A type, what is below it and what is after it: in the order of the lines,
    and with what was drawn last before what was drawn first. -/
theorem names_perm (name : String) (below rest drawn : List String) :
    (name :: below ++ rest ++ drawn).Perm (rest ++ (below ++ name :: drawn)) :=
  calc (name :: below ++ rest ++ drawn).Perm (rest ++ name :: below ++ drawn) :=
        List.perm_append_comm.append_right drawn
    _ = rest ++ name :: (below ++ drawn) := by rw [List.append_assoc, List.cons_append]
    (rest ++ name :: (below ++ drawn)).Perm (rest ++ (below ++ name :: drawn)) :=
        List.perm_middle.symm.append_left rest

/-- Drawing a forest from the stack draws its lines before all that waits below
    it. -/
theorem Forest.Grown.draws (hchildren : ∀ m, Lists parent m (children m)) {forest : Forest}
    (h : forest.Grown parent root) :
    ∀ {pending drawn visited : List String} (indent : String),
      Pending parent root (forest.tops ++ pending) drawn visited →
      ∃ visited', Pending parent root pending (forest.names ++ drawn) visited'
        ∧ ∀ {stack result}, Draws children stack visited' result →
          Draws children (Branch.ofSiblings indent forest.tops ++ stack) visited
            (forest.lines indent ++ result) := by
  induction forest with
  | empty => exact fun indent hp => ⟨_, hp, fun hd => hd⟩
  | again name rest ih =>
      intro pending drawn visited indent hp
      obtain ⟨rfl, hrest⟩ := h
      obtain ⟨visited', hp', hdraws⟩ := ih hrest indent hp.again
      refine ⟨visited', hp'.perm List.perm_middle.symm, fun hd => ?_⟩
      have hmem : name ∈ visited := (hp.mem_visited name).mpr (Or.inl rfl)
      rw [Forest.tops, Branch.ofSiblings_cons, Forest.lines, Forest.isEmpty_eq]
      exact .again hmem (hdraws hd)
  | node name below rest ihbelow ihrest =>
      intro pending drawn visited indent hp
      obtain ⟨hne, hlists, hbelow, hrest⟩ := h
      have hwait := hp.expand hne hlists
      obtain ⟨_, hp₁, hdraws₁⟩ :=
        ihbelow hbelow (indent ++ (if rest.isEmpty then gap else pipe)) hwait
      obtain ⟨visited', hp₂, hdraws₂⟩ := ihrest hrest indent hp₁
      refine ⟨visited', hp₂.perm (names_perm name _ _ _), fun hd => ?_⟩
      have hd' := hdraws₁ (hdraws₂ hd)
      rw [← (hchildren name).unique hlists] at hd'
      rw [Forest.tops, Branch.ofSiblings_cons, ← Forest.isEmpty_eq, Forest.lines,
        List.cons_append, List.cons_append, List.cons_append, List.append_assoc]
      exact .expand (hp.not_visited hne) hd'

end TypeLineage.Hierarchy
