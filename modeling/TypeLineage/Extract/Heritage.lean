import TypeLineage.Fact.Basic
import TypeLineage.Source.ValueSyntax

/-! # What a declaration extends and implements

    A class extends a value.  Where that is a call, the called function is
    applied as a mixin to its first argument, so `A(B(C))` mixes in `B`, then
    `A`, and extends `C`.  Whatever else is referred to, by a class or by an
    interface, is an interface.  The written type arguments are matched with
    the type parameters of what is referred to, one by one. -/

namespace TypeLineage.Extract

open Source

/-- A written type argument with the key of the type parameter that it is for. -/
structure WrittenArgument where
  key : String
  type : TypeExpr
  deriving Inhabited

/-- What a declaration says about its relations. -/
structure Heritage where
  superclass : Option String
  interfaces : List String
  mixins : List String
  arguments : List WrittenArgument
  deriving Inhabited

/-- How a declaration refers to another. -/
inductive Reference where
  /-- What a class extends, in the end. -/
  | extended
  /-- What is implemented, or extended by an interface. -/
  | implemented
  /-- A mixin that a class applies. -/
  | applied
  deriving DecidableEq, Repr, Inhabited

/-- The names of the type parameters of what a value refers to. -/
abbrev ParameterNames := Reference → Expr → List String

/-- The name by which a value refers to something: its own, or the last of a
    path.  A name that is missing in the source refers to nothing. -/
def referredName? (value : Expr) : Option String :=
  let name := match value with
    | .name n => some n
    | .access _ member _ => some member
    | _ => none
  name.filter (· ≠ "")

/-- A mixin that is applied: the called function, its name and its type
    arguments. -/
structure Application where
  callee : Expr
  name : String
  typeArguments : List TypeExpr

/-- The mixins that a value applies, outermost first, and what the innermost is
    applied to. -/
def applications : Expr → List Application × Expr
  | .call spot callee types (argument :: others) isOptional =>
    match referredName? callee with
    | some name =>
      let (inner, base) := applications argument
      (⟨callee, name, types⟩ :: inner, base)
    | none => ([], .call spot callee types (argument :: others) isOptional)
  | e => ([], e)

namespace ParameterNames

/-- The type arguments for the type parameters of what a value refers to, as far as there are
    both. -/
def matched (names : ParameterNames) (reference : Reference) (value : Expr) (base : String)
    (arguments : List TypeExpr) : List WrittenArgument :=
  if arguments.isEmpty then []
  else ((names reference value).zip arguments).map fun (parameter, type) =>
    ⟨qualifiedParameter base parameter, type⟩

/-- Takes in what a class extends. -/
def addExtended (names : ParameterNames) (h : Heritage) (e : HeritageEntry) : Heritage :=
  let (applied, inner) := applications e.expression
  let (base, arguments) := match inner with
    | .instantiation value types => (value, types)
    | value => (value, if applied.isEmpty then e.typeArguments else [])
  let mixed := applied.flatMap fun a => names.matched .applied a.callee a.name a.typeArguments
  let mixins := h.mixins ++ (applied.map (·.name)).reverse
  match referredName? base with
  | some name =>
    { h with superclass := some name, mixins
             arguments := h.arguments ++ mixed ++ names.matched .extended base name arguments }
  | none => { h with mixins, arguments := h.arguments ++ mixed }

/-- Takes in what is implemented, or extended by an interface. -/
def addInterface (names : ParameterNames) (h : Heritage) (e : HeritageEntry) : Heritage :=
  match referredName? e.expression with
  | some name =>
    { h with interfaces := h.interfaces ++ [name]
             arguments := h.arguments
               ++ names.matched .implemented e.expression name e.typeArguments }
  | none => h

/-- Takes in a clause of a declaration. -/
def addClause (names : ParameterNames) (isClass : Bool) (h : Heritage) (c : HeritageClause) :
    Heritage :=
  c.entries.foldl (if isClass && c.isExtends then names.addExtended else names.addInterface) h

/-- What a declaration says about its relations. -/
def heritage (names : ParameterNames) (d : TypeDeclaration) : Heritage :=
  d.heritage.foldl (names.addClause d.isClass) ⟨none, [], [], []⟩

end ParameterNames

/-- Binds a key, in the place of an earlier binding if there is one. -/
def bindKey (key value : String) : Bindings → Bindings
  | [] => [(key, value)]
  | (k, v) :: rest => if k = key then (k, value) :: rest else (k, v) :: bindKey key value rest

end TypeLineage.Extract
