import TypeLineage.Text.CodeUnits

/-! # Facts about declared types

    A `TypeFact` records what one declaration says: the name it declares, where
    it stands, whom it extends, implements and mixes in, its type parameters
    and what it binds those of its bases to, and its public members.  Facts are
    found by extraction or read from documents, and are all the registry
    knows. -/

namespace TypeLineage

/-- A method by its signature.  The types are texts as a reader would write
    them. -/
structure Method where
  name : String
  returnType : String
  parameterTypes : List String
  isStatic : Bool
  deriving DecidableEq, Repr, Inhabited

/-- What type parameters are bound to, by qualified name. -/
abbrev Bindings := List (String × String)

/-- What one declaration says about a type. -/
structure TypeFact where
  name : String
  library : String
  superclass : Option String
  interfaces : List String
  mixins : List String
  typeParameters : List String
  genericArguments : Bindings
  methods : List Method
  properties : List String
  deriving DecidableEq, Repr, Inhabited

/-- `Base.Param`, under which the binding of a base's type parameter is kept. -/
def qualifiedParameter (base param : String) : String :=
  base ++ "." ++ param

namespace Method

/-- The signature as a line of text: the return type, the name, the parameter
    types. -/
def signature (m : Method) : String :=
  let plain := m.returnType ++ " " ++ m.name ++ "(" ++ ", ".intercalate m.parameterTypes ++ ")"
  if m.isStatic then "static " ++ plain else plain

end Method

namespace TypeFact

/-- Extends, implements or mixes in `base` directly. -/
def inheritsFrom (f : TypeFact) (base : String) : Bool :=
  f.superclass == some base || f.interfaces.contains base || f.mixins.contains base

/-- What the fact binds the parameter `param` of `base` to. -/
def genericArgument? (f : TypeFact) (base param : String) : Option String :=
  f.genericArguments.lookup (qualifiedParameter base param)

/-- A one-line description. -/
def describe (f : TypeFact) : String :=
  "TypeFact(" ++ f.name ++ " from " ++ f.library ++ ")"

/-- An empty superclass name says that there is none. -/
def superclassOf (written : Option String) : Option String :=
  written.filter (· ≠ "")

/-- Facts in ascending order of their names, equal names in the order given. -/
def sortByName (facts : List TypeFact) : List TypeFact :=
  Text.sortByUnits (·.name) facts

end TypeFact

end TypeLineage
