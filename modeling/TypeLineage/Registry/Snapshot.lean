import TypeLineage.Registry.Basic
import TypeLineage.Fact.Document

/-! # Snapshots of a registry

    A snapshot is the list of entries a document is written from, with the
    statistics of the facts behind them. -/

namespace TypeLineage

/-- How many facts there are, and how many of them say what. -/
structure Statistics where
  totalTypes : Nat
  withSuperclass : Nat
  withInterfaces : Nat
  withMixins : Nat
  generic : Nat
  deriving DecidableEq, Repr, Inhabited

namespace Statistics

/-- Of no facts. -/
def zero : Statistics := ⟨0, 0, 0, 0, 0⟩

/-- Counts the facts and what they say. -/
def ofFacts (facts : List TypeFact) : Statistics :=
  { totalTypes := facts.length
    withSuperclass := facts.countP (·.superclass.isSome)
    withInterfaces := facts.countP (!·.interfaces.isEmpty)
    withMixins := facts.countP (!·.mixins.isEmpty)
    generic := facts.countP (!·.typeParameters.isEmpty) }

/-- The names and numbers, in the order they are listed. -/
def rows (s : Statistics) : List (String × Nat) := [
  ("totalTypes", s.totalTypes),
  ("withSuperclass", s.withSuperclass),
  ("withInterfaces", s.withInterfaces),
  ("withMixins", s.withMixins),
  ("generic", s.generic)]

/-- The statistics as an object. -/
def toJson (s : Statistics) : Json :=
  .object (s.rows.map fun (name, count) => (name, .ofNat count))

end Statistics

/-- Entries of types with statistics. -/
structure Snapshot where
  types : List Json
  statistics : Json
  deriving Inhabited

namespace Snapshot

/-- The snapshot of facts, in the order given. -/
def ofFacts (facts : List TypeFact) : Snapshot :=
  ⟨facts.map TypeFact.toJson, (Statistics.ofFacts facts).toJson⟩

/-- The entries in ascending order of their names. -/
def canonical (s : Snapshot) : Snapshot :=
  { s with types := Document.sortEntries s.types }

/-- The members of a snapshot. -/
def members (s : Snapshot) : List (String × Json) :=
  [("types", .array s.types), ("statistics", s.statistics)]

/-- A snapshot as an object. -/
def toJson (s : Snapshot) : Json := .object s.members

/-- The text of the document that holds a snapshot. -/
def write (s : Snapshot) (indent : Int) : String :=
  Json.stableText
    (.object (("schema", .string Document.formatName) :: s.canonical.members)) indent

end Snapshot

/-- The snapshot of all registered facts. -/
def Registry.snapshot (r : Registry) : Snapshot := .ofFacts r.facts

end TypeLineage
