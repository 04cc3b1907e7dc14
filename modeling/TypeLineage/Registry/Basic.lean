import TypeLineage.Fact.Basic
import TypeLineage.Relation.Index

/-! # The registry of types

    A registry holds one fact per name, in the order of first registration,
    and one reverse index per kind of relation.  Registering a fact under a
    name that is taken replaces the earlier fact in its place and takes its
    relations out of the indexes first, so the indexes always describe the
    facts that are registered. -/

namespace TypeLineage

/-! ## Kinds of relation

    A type extends one superclass, implements interfaces and mixes in mixins.
    `TypeFact.relations` gives the names a fact mentions in one kind of
    relation, with the repetitions it was written with. -/

/-- How one type can depend on another. -/
inductive RelationKind where
  | superclass
  | interface
  | mixin
  deriving DecidableEq, Repr, Inhabited

namespace RelationKind

/-- All kinds, in the order they are listed. -/
def all : List RelationKind := [.superclass, .interface, .mixin]

/-- The word for a kind. -/
def word : RelationKind → String
  | .superclass => "superclass"
  | .interface => "interface"
  | .mixin => "mixin"

/-- The kind a word stands for. -/
def ofWord? (word : String) : Option RelationKind :=
  all.find? (·.word = word)

end RelationKind

/-- The names a fact mentions in one kind of relation. -/
def TypeFact.relations (f : TypeFact) : RelationKind → List String
  | .superclass => f.superclass.toList
  | .interface => f.interfaces
  | .mixin => f.mixins

/-! ## Facts and indexes -/

/-- Facts by name, with the reverse index of each kind of relation. -/
structure Registry where
  facts : List TypeFact
  subclasses : RelationIndex
  implementers : RelationIndex
  mixinUsers : RelationIndex
  deriving Repr, Inhabited

namespace Registry

/-- No types. -/
def empty : Registry := ⟨[], .empty, .empty, .empty⟩

/-- The reverse index of one kind of relation. -/
def index (r : Registry) : RelationKind → RelationIndex
  | .superclass => r.subclasses
  | .interface => r.implementers
  | .mixin => r.mixinUsers

/-- The fact registered under a name. -/
def find? (r : Registry) (name : String) : Option TypeFact :=
  r.facts.find? (·.name = name)

/-- Some fact is registered under the name. -/
def has (r : Registry) (name : String) : Bool := (r.find? name).isSome

/-- The number of types. -/
def size (r : Registry) : Nat := r.facts.length

/-- The names of all types, in the order of first registration. -/
def names (r : Registry) : List String := r.facts.map (·.name)

/-- Facts with `fact` under its name: in the place of the one that had the
    name, or at the end. -/
def putFact (fact : TypeFact) : List TypeFact → List TypeFact
  | [] => [fact]
  | f :: rest => if f.name = fact.name then fact :: rest else f :: putFact fact rest

/-- The indexes with the relations of a fact. -/
def link (r : Registry) (f : TypeFact) : Registry :=
  { r with
    subclasses := r.subclasses.addAll (f.relations .superclass) f.name
    implementers := r.implementers.addAll (f.relations .interface) f.name
    mixinUsers := r.mixinUsers.addAll (f.relations .mixin) f.name }

/-- The indexes without the relations of a fact. -/
def unlink (r : Registry) (f : TypeFact) : Registry :=
  { r with
    subclasses := r.subclasses.removeAll (f.relations .superclass) f.name
    implementers := r.implementers.removeAll (f.relations .interface) f.name
    mixinUsers := r.mixinUsers.removeAll (f.relations .mixin) f.name }

/-- Adds a fact, or replaces the one of its name. -/
def register (r : Registry) (f : TypeFact) : Registry :=
  let cleared := match r.find? f.name with
    | some previous => r.unlink previous
    | none => r
  { cleared with facts := putFact f cleared.facts }.link f

/-- Registers facts one after the other. -/
def registerAll (r : Registry) (facts : List TypeFact) : Registry :=
  facts.foldl register r

/-- Forgets all facts and all relations. -/
def clear (r : Registry) : Registry :=
  { r with facts := [], subclasses := .empty, implementers := .empty, mixinUsers := .empty }

/-- The registry of a list of facts. -/
def ofFacts (facts : List TypeFact) : Registry := empty.registerAll facts

end Registry

/-! ## Changes

    A registry changes when a fact is registered, when facts are registered one
    after the other, and when everything is forgotten.  `run` makes changes on
    a new registry; `ingested` lists the facts that were registered since
    everything was last forgotten. -/

/-- What can be done to a registry. -/
inductive Change where
  | register (fact : TypeFact)
  | registerAll (facts : List TypeFact)
  | clear
  deriving DecidableEq, Repr

/-- The facts registered so far, after a change. -/
def Change.extend (facts : List TypeFact) : Change → List TypeFact
  | .register f => facts ++ [f]
  | .registerAll fs => facts ++ fs
  | .clear => []

/-- The facts registered since the last time everything was forgotten, in the
    order of registration. -/
def Change.ingested (changes : List Change) : List TypeFact :=
  changes.foldl extend []

namespace Registry

/-- The registry after a change. -/
def change (r : Registry) : Change → Registry
  | .register f => r.register f
  | .registerAll fs => r.registerAll fs
  | .clear => r.clear

/-- A new registry after changes made one after the other. -/
def run (changes : List Change) : Registry := changes.foldl change empty

end Registry

end TypeLineage
