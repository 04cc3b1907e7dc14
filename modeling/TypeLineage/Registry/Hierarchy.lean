import TypeLineage.Registry.Lookup

/-! # Drawing the superclass hierarchy

    Below a root every type stands under its superclass, siblings in ascending
    order of names.  A type that is reached a second time, which only a cycle
    of superclasses can bring about, is marked and not expanded. -/

namespace TypeLineage.Hierarchy

/-- Before a type that has siblings after it. -/
def tee : String := "├── "

/-- Before the last of its siblings. -/
def corner : String := "└── "

/-- Below an ancestor that has siblings after it. -/
def pipe : String := "│   "

/-- Below an ancestor that is the last of its siblings. -/
def gap : String := "    "

/-- After a type that is reached again. -/
def cycleMark : String := " (cycle)"

/-- A type with its place among its siblings and the indentation of its line. -/
structure Branch where
  name : String
  indent : String
  isLast : Bool
  deriving DecidableEq, Repr

namespace Branch

/-- The line of a branch. -/
def line (b : Branch) : String :=
  b.indent ++ (if b.isLast then corner else tee) ++ b.name

/-- The indentation of the lines below a branch. -/
def innerIndent (b : Branch) : String :=
  b.indent ++ (if b.isLast then gap else pipe)

/-- Siblings as branches at one indentation. -/
def ofSiblings (indent : String) : List String → List Branch
  | [] => []
  | [name] => [⟨name, indent, true⟩]
  | name :: rest => ⟨name, indent, false⟩ :: ofSiblings indent rest

end Branch

/-- Draws the branches on the stack and all below them, for at most `steps`
    branches. -/
def draw (children : String → List String) :
    (steps : Nat) → (stack : List Branch) → (visited : List String) → List String
  | 0, _, _ => []
  | _ + 1, [], _ => []
  | steps + 1, branch :: stack, visited =>
    if visited.contains branch.name then
      (branch.line ++ cycleMark) :: draw children steps stack visited
    else
      let below := Branch.ofSiblings branch.innerIndent (children branch.name)
      branch.line :: draw children steps (below ++ stack) (branch.name :: visited)

end Hierarchy

namespace Registry

/-- The names of the direct subclasses, in ascending order. -/
def subclassNames (r : Registry) (base : String) : List String :=
  (r.subclassesOf base).map (·.name)

/-- The lines of the hierarchy below a root, none if the root is unknown.
    Every type is expanded once at most, so the branches drawn are no more
    than the registered superclass relations. -/
def hierarchyLines (r : Registry) (root : String) : List String :=
  if r.has root then
    root :: Hierarchy.draw r.subclassNames r.subclasses.size
      (Hierarchy.Branch.ofSiblings "" (r.subclassNames root)) [root]
  else []

/-- The hierarchy below a root as text, each line ended by a line feed. -/
def renderHierarchy (r : Registry) (root : String) : String :=
  String.join ((r.hierarchyLines root).map (· ++ "\n"))

end TypeLineage.Registry
