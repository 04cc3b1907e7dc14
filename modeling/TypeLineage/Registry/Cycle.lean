import TypeLineage.Registry.Lookup

/-! # Cycles of superclasses

    The superclass of a registered type is a partial function on names.
    `superclassCycles` gives each of its cycles once, beginning with the
    smallest name, the cycles in ascending order of their first members. -/

namespace TypeLineage.Cycle

/-- The chain of superclasses from a name, as far as it leads through new
    names, and the cycle it closes, if it closes one.  A chain ends where it
    meets names that are done. -/
def follow (parent : String → Option String) (done : List String) :
    (steps : Nat) → (path : List String) → Option String → List String × Option (List String)
  | _, path, none => (path, none)
  | 0, path, some _ => (path, none)
  | steps + 1, path, some current =>
    if done.contains current then (path, none)
    else if path.contains current then (path, some (path.dropWhile (· ≠ current)))
    else follow parent done steps (path ++ [current]) (parent current)

/-- The smallest of some names. -/
def smallest (first : String) : List String → String
  | [] => first
  | name :: rest => smallest (if Text.precedes name first then name else first) rest

/-- The cycle read from its smallest name on. -/
def rotateToSmallest (cycle : List String) : List String :=
  match cycle with
  | [] => []
  | first :: rest =>
    let least := smallest first rest
    cycle.dropWhile (· ≠ least) ++ cycle.takeWhile (· ≠ least)

/-- The cycles that the chains from the starts close, each name done once. -/
def collect (parent : String → Option String) (steps : Nat) :
    (starts done : List String) → List (List String)
  | [], _ => []
  | start :: starts, done =>
    let (path, closed) := follow parent done steps [] (some start)
    let rest := collect parent steps starts (path ++ done)
    match closed with
    | some cycle => rotateToSmallest cycle :: rest
    | none => rest

end Cycle

namespace Registry

/-- The superclass of a registered type. -/
def superclassOf? (r : Registry) (name : String) : Option String :=
  (r.find? name).bind (·.superclass)

/-- All cycles of superclasses.  A chain leaves the registered names after as
    many steps as there are types, or repeats one. -/
def superclassCycles (r : Registry) : List (List String) :=
  let cycles := Cycle.collect r.superclassOf? (r.size + 2) (Text.sorted r.names) []
  Text.sortByUnits (fun cycle => cycle.headD "") cycles

end TypeLineage.Registry
