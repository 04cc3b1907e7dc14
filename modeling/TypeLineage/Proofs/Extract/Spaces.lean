import Mathlib.Logic.Relation
import TypeLineage.Extract.Declared

/-! # Declarations in namespaces

    A named type stands in a file if nothing but namespaces is around it.  Its
    address tells the way down: the index of the namespace among the statements
    of the file, that of the next one in its body, and in the end its own.  In a
    text, what has the smaller address comes first.

    Going through the statements and down into every namespace finds each of
    these types once and in order, by induction on the statements.

    A namespace of a path may be written as namespaces one inside the other.  If
    the inner ones are exported, nothing tells the two apart once all paths are
    written out.  If they are not, the same types stand there in the same order,
    but names in them may stand for something else. -/

namespace TypeLineage.Extract

open Source Program

/-- The scope inside the namespaces that a path stands for. -/
def enterNested (isAmbient : Bool) (body : List Statement) : String → List String → Scope → Scope
  | first, [], scope => scope.enter (.space ⟨first, body, isAmbient⟩)
  | first, next :: others, scope =>
    enterNested isAmbient body next others (scope.enter
      (.space ⟨first, [.nested isAmbient body .exported next others], isAmbient⟩))

/-- The scope inside a namespace where all paths are written out. -/
def within (isAmbient : Bool) (body : List Statement) (scope : Scope) : SpaceName → Scope
  | .path first others => enterNested isAmbient body first others scope
  | name => scope.enterSpace isAmbient body name

/-- The statements declare a named type at an address, and nothing but namespaces is
    around it. -/
inductive Stands : Scope → List Statement → List Nat → Declared → Prop where
  | here {scope : Scope} {ss : List Statement} {i : Nat} {visibility : Visibility}
      {isAmbient : Bool} {d : TypeDeclaration} {name : String} :
      ss[i]? = some (.declaration visibility isAmbient (.type d)) → d.name = some name →
        Stands scope ss [i] ⟨name, d, scope⟩
  | inside {scope : Scope} {ss : List Statement} {i : Nat} {visibility : Visibility}
      {isAmbient : Bool} {space : SpaceName} {body : List Statement} {address : List Nat}
      {x : Declared} :
      ss[i]? = some (.space visibility isAmbient space body) →
        Stands (within isAmbient (unfoldedAll body) scope space) body address x →
        Stands scope ss (i :: address) x

mutual

/-- The named types that a statement at an index declares, with their addresses. -/
def addressedBy (scope : Scope) (i : Nat) : Statement → List (List Nat × Declared)
  | .declaration _ _ (.type d) => (d.name.map fun name => ([i], ⟨name, d, scope⟩)).toList
  | .space _ isAmbient name body =>
    (addressedIn (within isAmbient (unfoldedAll body) scope name) 0 body).map
      fun x => (i :: x.1, x.2)
  | _ => []

/-- The named types that statements declare, the first of which has the index. -/
def addressedIn (scope : Scope) (i : Nat) : List Statement → List (List Nat × Declared)
  | [] => []
  | s :: rest => addressedBy scope i s ++ addressedIn scope (i + 1) rest

end

/-! ## What is found -/

theorem declaredBy_nested (scope : Scope) (isAmbient : Bool) (body : List Statement)
    (visibility : Visibility) (first : String) (others : List String) :
    declaredBy scope (.nested isAmbient body visibility first others)
      = declaredIn (enterNested isAmbient body first others scope) body := by
  induction others generalizing scope visibility first with
  | nil => rfl
  | cons next others ih =>
      show declaredBy _ _ ++ declaredIn _ [] = _
      rw [declaredIn, List.append_nil, ih]
      rfl

/-- The statement neither declares a class or an interface nor opens a namespace. -/
structure PassedOver (s : Statement) : Prop where
  noType : ∀ visibility isAmbient d, s ≠ .declaration visibility isAmbient (.type d)
  noSpace : ∀ visibility isAmbient name body, s ≠ .space visibility isAmbient name body

theorem PassedOver.unfolded_eq {s : Statement} (h : PassedOver s) : s.unfolded = s := by
  cases s with
  | space visibility isAmbient name body => exact absurd rfl (h.noSpace _ _ _ _)
  | _ => rfl

theorem PassedOver.declaredBy_eq {s : Statement} (h : PassedOver s) (scope : Scope) :
    declaredBy scope s = [] :=
  declaredBy.eq_3 scope s h.noType h.noSpace

theorem PassedOver.addressedBy_eq {s : Statement} (h : PassedOver s) (scope : Scope) (i : Nat) :
    addressedBy scope i s = [] :=
  addressedBy.eq_3 scope i s h.noType h.noSpace

/-- Induction on statements, also down into namespaces. -/
@[elab_as_elim]
theorem spaces_induction {P : List Statement → Prop} (nil : P [])
    (type : ∀ visibility isAmbient d rest, P rest →
      P (.declaration visibility isAmbient (.type d) :: rest))
    (space : ∀ visibility isAmbient name body rest, P body → P rest →
      P (.space visibility isAmbient name body :: rest))
    (passed : ∀ s rest, PassedOver s → P rest → P (s :: rest)) :
    ∀ ss, P ss
  | [] => nil
  | s :: rest => by
      have ih := spaces_induction nil type space passed rest
      cases s with
      | space visibility isAmbient name body =>
          exact space _ _ _ _ _ (spaces_induction nil type space passed body) ih
      | declaration visibility isAmbient d =>
          cases d with
          | type d => exact type _ _ _ _ ih
          | _ => exact passed _ _ ⟨nofun, nofun⟩ ih
      | _ => exact passed _ _ ⟨nofun, nofun⟩ ih

/-- What is found in statements with all paths written out. -/
theorem declaredIn_unfoldedAll (scope : Scope) (i : Nat) (ss : List Statement) :
    declaredIn scope (unfoldedAll ss) = (addressedIn scope i ss).map (·.2) := by
  induction ss using spaces_induction generalizing scope i with
  | nil => rfl
  | type visibility isAmbient d rest ih =>
      rw [unfoldedAll, declaredIn, addressedIn, List.map_append, ← ih scope (i + 1)]
      congr 1
      show (d.name.map _).toList = _
      unfold addressedBy
      cases d.name <;> rfl
  | space visibility isAmbient name body rest ihbody ih =>
      rw [unfoldedAll, declaredIn, addressedIn, List.map_append, ← ih scope (i + 1), addressedBy,
        List.map_map]
      congr 1
      -- a path is entered name by name, and only its last namespace holds the body
      refine Eq.trans ?_ (ihbody (within isAmbient (unfoldedAll body) scope name) 0)
      cases name with
      | path first others => exact declaredBy_nested _ _ _ _ _ _
      | file _ => rfl
      | shared => rfl
  | passed s rest hpassed ih =>
      rw [unfoldedAll, declaredIn, addressedIn, hpassed.unfolded_eq, hpassed.declaredBy_eq,
        hpassed.addressedBy_eq, List.nil_append, List.nil_append]
      exact ih scope (i + 1)

/-! ## Addresses -/

section Stands

variable {scope : Scope} {s : Statement} {rest : List Statement} {address : List Nat}
  {x : Declared}

theorem not_stands_nil_address {ss : List Statement} : ¬ Stands scope ss [] x := nofun

theorem not_stands_nil : ¬ Stands scope [] address x := by
  intro h
  cases h with
  | here hd _ => exact nomatch hd
  | inside hspace _ => exact nomatch hspace

theorem stands_succ {j : Nat} :
    Stands scope (s :: rest) ((j + 1) :: address) x ↔ Stands scope rest (j :: address) x := by
  constructor
  · intro h
    cases h with
    | here hd hname => exact .here hd hname
    | inside hspace hx => exact .inside hspace hx
  · intro h
    cases h with
    | here hd hname => exact .here hd hname
    | inside hspace hx => exact .inside hspace hx

theorem stands_zero_type {visibility : Visibility} {isAmbient : Bool} {d : TypeDeclaration} :
    Stands scope (.declaration visibility isAmbient (.type d) :: rest) (0 :: address) x
      ↔ address = [] ∧ ∃ name, d.name = some name ∧ x = ⟨name, d, scope⟩ := by
  constructor
  · intro h
    cases h with
    | here hd hname =>
        cases hd
        exact ⟨rfl, _, hname, rfl⟩
    | inside hspace _ => exact nomatch hspace
  · rintro ⟨rfl, name, hname, rfl⟩
    exact .here rfl hname

theorem stands_zero_space {visibility : Visibility} {isAmbient : Bool} {name : SpaceName}
    {body : List Statement} :
    Stands scope (.space visibility isAmbient name body :: rest) (0 :: address) x
      ↔ Stands (within isAmbient (unfoldedAll body) scope name) body address x := by
  constructor
  · intro h
    cases h with
    | here hd _ => exact nomatch hd
    | inside hspace hx =>
        cases hspace
        exact hx
  · exact .inside rfl

theorem PassedOver.not_stands_zero (h : PassedOver s) :
    ¬ Stands scope (s :: rest) (0 :: address) x := by
  intro hx
  cases hx with
  | here hd _ => exact h.noType _ _ _ (Option.some.inj hd)
  | inside hspace _ => exact h.noSpace _ _ _ _ (Option.some.inj hspace)

/-- The head of the statements has the index itself, and the others are counted on. -/
theorem mem_addressedIn_cons_iff {i : Nat} {x : List Nat × Declared}
    (hhead : x ∈ addressedBy scope i s ↔ ∃ address, x.1 = i :: address
      ∧ Stands scope (s :: rest) (0 :: address) x.2)
    (hrest : x ∈ addressedIn scope (i + 1) rest ↔ ∃ j address, x.1 = (i + 1 + j) :: address
      ∧ Stands scope rest (j :: address) x.2) :
    x ∈ addressedIn scope i (s :: rest) ↔ ∃ j address, x.1 = (i + j) :: address
      ∧ Stands scope (s :: rest) (j :: address) x.2 := by
  rw [addressedIn, List.mem_append, hhead, hrest]
  constructor
  · rintro (⟨address, heq, hx⟩ | ⟨j, address, heq, hx⟩)
    · exact ⟨0, address, heq, hx⟩
    · exact ⟨j + 1, address, by rw [heq, Nat.add_right_comm, Nat.add_assoc], stands_succ.mpr hx⟩
  · rintro ⟨j, address, heq, hx⟩
    cases j with
    | zero => exact Or.inl ⟨address, heq, hx⟩
    | succ j =>
        refine Or.inr ⟨j, address, ?_, stands_succ.mp hx⟩
        rw [heq, Nat.add_right_comm, Nat.add_assoc]

end Stands

/-- What is found in statements is what stands there, counted from the index. -/
theorem mem_addressedIn_iff {scope : Scope} {i : Nat} {ss : List Statement}
    {x : List Nat × Declared} : x ∈ addressedIn scope i ss ↔
      ∃ j address, x.1 = (i + j) :: address ∧ Stands scope ss (j :: address) x.2 := by
  induction ss using spaces_induction generalizing scope i x with
  | nil =>
      constructor
      · exact nofun
      · rintro ⟨j, address, -, hx⟩
        exact absurd hx not_stands_nil
  | type visibility isAmbient d rest ih =>
      refine mem_addressedIn_cons_iff ?_ ih
      rw [addressedBy]
      simp only [stands_zero_type, Option.mem_toList, Option.map_eq_some_iff]
      constructor
      · rintro ⟨name, hname, rfl⟩
        exact ⟨[], rfl, rfl, name, hname, rfl⟩
      · rintro ⟨_, heq, rfl, name, hname, hx⟩
        exact ⟨name, hname, Prod.ext heq.symm hx.symm⟩
  | space visibility isAmbient name body rest ihbody ih =>
      refine mem_addressedIn_cons_iff ?_ ih
      simp only [stands_zero_space, addressedBy, List.mem_map, ihbody, Nat.zero_add]
      constructor
      · rintro ⟨y, ⟨j, address, heq, hy⟩, rfl⟩
        exact ⟨y.1, rfl, heq ▸ hy⟩
      · rintro ⟨address, heq, hx⟩
        cases address with
        | nil => exact absurd hx not_stands_nil_address
        | cons j address => exact ⟨(j :: address, x.2), ⟨j, address, rfl, hx⟩, Prod.ext heq.symm rfl⟩
  | passed s rest hpassed ih =>
      refine mem_addressedIn_cons_iff ?_ ih
      rw [hpassed.addressedBy_eq]
      constructor
      · exact nofun
      · rintro ⟨address, -, hx⟩
        exact absurd hx hpassed.not_stands_zero

/-- Counted from zero, every index is that of the statement. -/
theorem mem_addressed_iff {scope : Scope} {ss : List Statement} {address : List Nat}
    {x : Declared} : (address, x) ∈ addressedIn scope 0 ss ↔ Stands scope ss address x := by
  rw [mem_addressedIn_iff]
  constructor
  · rintro ⟨j, rest, heq, hx⟩
    have haddress : address = j :: rest := heq.trans (by rw [Nat.zero_add])
    rw [haddress]
    exact hx
  · intro h
    cases address with
    | nil => exact absurd h not_stands_nil_address
    | cons j rest => exact ⟨j, rest, by rw [Nat.zero_add], h⟩

/-- All addresses of the head begin with the index, and those of the others with a later one. -/
theorem pairwise_addressedIn_cons {scope : Scope} {i : Nat} {s : Statement}
    {rest : List Statement} (hhead : ∀ x ∈ addressedBy scope i s, ∃ address, x.1 = i :: address)
    (hs : (addressedBy scope i s).Pairwise (·.1 < ·.1))
    (hrest : (addressedIn scope (i + 1) rest).Pairwise (·.1 < ·.1)) :
    (addressedIn scope i (s :: rest)).Pairwise (·.1 < ·.1) := by
  rw [addressedIn, List.pairwise_append]
  refine ⟨hs, hrest, fun x hx y hy => ?_⟩
  obtain ⟨address, hx⟩ := hhead x hx
  obtain ⟨j, other, hy, -⟩ := mem_addressedIn_iff.mp hy
  rw [hx, hy]
  exact List.Lex.rel (by omega)

/-- Smaller addresses come first. -/
theorem pairwise_addressedIn (scope : Scope) (i : Nat) (ss : List Statement) :
    (addressedIn scope i ss).Pairwise (·.1 < ·.1) := by
  induction ss using spaces_induction generalizing scope i with
  | nil => exact List.Pairwise.nil
  | type visibility isAmbient d rest ih =>
      refine pairwise_addressedIn_cons ?_ ?_ (ih _ _)
      · intro x hx
        obtain ⟨name, -, rfl⟩ := Option.map_eq_some_iff.mp (Option.mem_toList.mp hx)
        exact ⟨[], rfl⟩
      · rw [addressedBy]
        cases d.name with
        | none => exact List.Pairwise.nil
        | some name => exact List.pairwise_singleton _ _
  | space visibility isAmbient name body rest ihbody ih =>
      refine pairwise_addressedIn_cons ?_ ?_ (ih _ _)
      · intro x hx
        obtain ⟨y, -, rfl⟩ := List.mem_map.mp hx
        exact ⟨y.1, rfl⟩
      · rw [addressedBy, List.pairwise_map]
        exact (ihbody _ 0).imp fun h => List.Lex.cons h
  | passed s rest hpassed ih =>
      refine pairwise_addressedIn_cons ?_ ?_ (ih _ _)
      · rw [hpassed.addressedBy_eq]
        exact List.forall_mem_nil _
      · rw [hpassed.addressedBy_eq]
        exact List.Pairwise.nil

/-! ## Namespaces one inside the other -/

/-- One namespace of a path is written as the outermost one with the others inside, which have
    the visibility. -/
inductive Nests (visibility : Visibility) : List Statement → List Statement → Prop where
  | here {outer : Visibility} {isAmbient : Bool} {first next : String} {others : List String}
      {body rest : List Statement} :
      Nests visibility (.space outer isAmbient (.path first (next :: others)) body :: rest)
        (.space outer isAmbient (.path first [])
          [.space visibility isAmbient (.path next others) body] :: rest)
  | inside {outer : Visibility} {isAmbient : Bool} {name : SpaceName}
      {body body' rest : List Statement} :
      Nests visibility body body' →
        Nests visibility (.space outer isAmbient name body :: rest)
          (.space outer isAmbient name body' :: rest)
  | later {s : Statement} {rest rest' : List Statement} :
      Nests visibility rest rest' → Nests visibility (s :: rest) (s :: rest')

/-- Namespaces of paths are written as namespaces one inside the other, any number of times. -/
abbrev Renested (visibility : Visibility) : List Statement → List Statement → Prop :=
  Relation.ReflTransGen (Nests visibility)

variable {visibility : Visibility} {ss ss' : List Statement}

/-- If the inner namespaces are exported, the same is written. -/
theorem Nests.unfoldedAll_eq (h : Nests .exported ss ss') : unfoldedAll ss' = unfoldedAll ss := by
  induction h with
  | here => rfl
  | @inside outer isAmbient name body body' rest _ ih =>
      cases name with
      | path first others =>
          show Statement.nested _ (unfoldedAll body') _ _ _ :: _ = _
          rw [ih]
          rfl
      | file _ => simp only [unfoldedAll, Statement.unfolded, ih]
      | shared => simp only [unfoldedAll, Statement.unfolded, ih]
  | later _ ih => rw [unfoldedAll, unfoldedAll, ih]

theorem Renested.unfoldedAll_eq (h : Renested .exported ss ss') :
    unfoldedAll ss' = unfoldedAll ss := by
  induction h with
  | refl => rfl
  | tail _ hstep ih => exact hstep.unfoldedAll_eq.trans ih

/-- A declared type as it is written, wherever it stands. -/
def Declared.written (x : Declared) : String × TypeDeclaration := (x.name, x.declaration)

/-- What is written does not depend on the scope. -/
theorem written_declaredIn (scope scope' : Scope) (ss : List Statement) :
    (declaredIn scope ss).map Declared.written = (declaredIn scope' ss).map Declared.written := by
  induction ss using spaces_induction generalizing scope scope' with
  | nil => rfl
  | type visibility isAmbient d rest ih =>
      rw [declaredIn, declaredIn, List.map_append, List.map_append, ih scope scope']
      congr 1
      unfold declaredBy
      cases d.name <;> rfl
  | space visibility isAmbient name body rest ihbody ih =>
      rw [declaredIn, declaredIn, List.map_append, List.map_append, ih scope scope']
      congr 1
      exact ihbody _ _
  | passed s rest hpassed ih =>
      rw [declaredIn, declaredIn, hpassed.declaredBy_eq, hpassed.declaredBy_eq]
      exact ih scope scope'

theorem written_declaredBy (scope scope' : Scope) (s : Statement) :
    (declaredBy scope s).map Declared.written = (declaredBy scope' s).map Declared.written := by
  simpa only [declaredIn, List.append_nil] using written_declaredIn scope scope' [s]

/-- Writing paths out changes no type that is written. -/
theorem written_unfoldedAll (scope scope' : Scope) (ss : List Statement) :
    (declaredIn scope (unfoldedAll ss)).map Declared.written
      = (declaredIn scope' ss).map Declared.written := by
  induction ss using spaces_induction generalizing scope scope' with
  | nil => rfl
  | type visibility isAmbient d rest ih =>
      rw [unfoldedAll, declaredIn, declaredIn, List.map_append, List.map_append, ih scope scope']
      congr 1
      exact written_declaredBy scope scope' (.declaration visibility isAmbient (.type d))
  | space visibility isAmbient name body rest ihbody ih =>
      rw [unfoldedAll, declaredIn, declaredIn, List.map_append, List.map_append, ih scope scope']
      congr 1
      cases name with
      | path first others =>
          rw [Statement.unfolded, declaredBy_nested]
          exact ihbody _ _
      | file _ => exact ihbody _ _
      | shared => exact ihbody _ _
  | passed s rest hpassed ih =>
      rw [unfoldedAll, declaredIn, declaredIn, hpassed.unfolded_eq, hpassed.declaredBy_eq,
        hpassed.declaredBy_eq]
      exact ih scope scope'

/-- Whatever the visibility of the inner namespaces, the same types are written in the same
    order. -/
theorem Nests.written_eq (h : Nests visibility ss ss') (scope scope' : Scope) :
    (declaredIn scope' ss').map Declared.written = (declaredIn scope ss).map Declared.written := by
  induction h generalizing scope scope' with
  | @here outer isAmbient first next others body rest =>
      rw [declaredIn, declaredIn, List.map_append, List.map_append,
        written_declaredIn scope' scope rest]
      congr 1
      show (declaredIn _ body ++ []).map _ = _
      rw [List.append_nil]
      exact written_declaredIn _ _ body
  | @inside outer isAmbient name body body' rest _ ih =>
      rw [declaredIn, declaredIn, List.map_append, List.map_append,
        written_declaredIn scope' scope rest]
      congr 1
      exact ih _ _
  | @later s rest rest' _ ih =>
      rw [declaredIn, declaredIn, List.map_append, List.map_append, ih scope scope',
        written_declaredBy scope' scope s]

theorem Renested.written_eq (h : Renested visibility ss ss') (scope scope' : Scope) :
    (declaredIn scope' (unfoldedAll ss')).map Declared.written
      = (declaredIn scope (unfoldedAll ss)).map Declared.written := by
  induction h with
  | refl => exact (written_unfoldedAll _ scope _).trans (written_unfoldedAll _ scope _).symm
  | tail _ hstep ih =>
      refine Eq.trans ?_ ih
      rw [written_unfoldedAll scope' scope, written_unfoldedAll scope' scope]
      exact hstep.written_eq scope scope

end TypeLineage.Extract
