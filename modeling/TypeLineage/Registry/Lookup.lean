import TypeLineage.Registry.Basic
import TypeLineage.Reach

/-! # Looking up types by their relations

    Every answer is in ascending order of names and holds registered types
    only, so it does not depend on the order of registration. -/

namespace TypeLineage.Registry

/-- The registered facts of the names, in ascending order. -/
def resolve (r : Registry) (names : List String) : List TypeFact :=
  TypeFact.sortByName (names.filterMap r.find?)

/-- The types related to a target in one kind of relation. -/
def dependents (r : Registry) (kind : RelationKind) (target : String) : List TypeFact :=
  r.resolve ((r.index kind).dependentsOf target)

/-- The types that extend `base` directly. -/
def subclassesOf (r : Registry) (base : String) : List TypeFact := r.dependents .superclass base

/-- The types that implement `base` directly. -/
def implementersOf (r : Registry) (base : String) : List TypeFact := r.dependents .interface base

/-- The types that mix in `base` directly. -/
def mixinUsersOf (r : Registry) (base : String) : List TypeFact := r.dependents .mixin base

/-- The names that depend on `base` directly in any kind of relation. -/
def directDependents (r : Registry) (base : String) : List String :=
  RelationKind.all.flatMap fun kind => (r.index kind).dependentsOf base

/-- Each name once, at its first place. -/
def distinct (names : List String) : List String :=
  names.foldl RelationIndex.insertName []

/-- The types that depend directly on any of the names. -/
def findByAnyBase (r : Registry) (bases : List String) : List TypeFact :=
  r.resolve (distinct (bases.flatMap r.directDependents))

/-- The number of pairs in all indexes: no more names can depend on anything. -/
def relationCount (r : Registry) : Nat :=
  RelationKind.all.foldr (fun kind n => (r.index kind).size + n) 0

/-- The types that depend on `base` directly or through others. -/
def descendantsOf (r : Registry) (base : String) : List TypeFact :=
  r.resolve (Reach.reachable r.relationCount r.directDependents base)

/-- The facts, in their order, whose names descend from one of the bases. -/
def keepDescendants (facts : List TypeFact) (bases : List String) : List TypeFact :=
  let r := ofFacts facts
  let kept := bases.flatMap fun base => (r.descendantsOf base).map (·.name)
  facts.filter fun f => kept.contains f.name

/-- The types that satisfy a condition. -/
def filter (r : Registry) (p : TypeFact → Bool) : List TypeFact :=
  TypeFact.sortByName (r.facts.filter p)

/-- The types that bind the parameter `param` of `base` to exactly `argument`. -/
def findByGenericArgument (r : Registry) (base param argument : String) : List TypeFact :=
  r.filter fun f => f.genericArgument? base param == some argument

/-- A key of each fact with the fact's name: keys in the order of their first
    occurrence, each with the name of the last fact that has it. -/
def typeMap (r : Registry) (key : TypeFact → String) : List (String × String) :=
  r.facts.foldl (fun entries f => put entries (key f) f.name) []
where
  put (entries : List (String × String)) (key name : String) : List (String × String) :=
    match entries with
    | [] => [(key, name)]
    | (k, n) :: rest => if k = key then (k, name) :: rest else (k, n) :: put rest key name

end TypeLineage.Registry
