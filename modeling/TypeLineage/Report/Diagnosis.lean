import TypeLineage.Report.Basic
import TypeLineage.Registry.Cycle

/-! # What a registry tolerates silently

    A registry takes any fact.  `diagnose` tells afterwards which targets of
    relations are not registered and which superclasses form cycles;
    `relationCounts` counts the relations of each kind. -/

namespace TypeLineage

/-- The verb for a kind of relation. -/
def RelationKind.verb : RelationKind → String
  | .superclass => "extends"
  | .interface => "implements"
  | .mixin => "mixes in"

namespace Registry

/-- How many relations of one kind stand in the facts. -/
def relationTotal (r : Registry) (kind : RelationKind) : Nat :=
  (r.facts.flatMap fun f => f.relations kind).length

/-- The kinds of relation that stand in the facts, each once, in the order in
    which a fact first has them. -/
def relationKinds (r : Registry) : List RelationKind :=
  (r.facts.flatMap fun f => RelationKind.all.filter fun kind =>
    !(f.relations kind).isEmpty).eraseDups

/-- How often each kind of relation stands in the facts. -/
def relationCounts (r : Registry) : Counts :=
  r.relationKinds.map fun kind => (kind.word, .number (.int (r.relationTotal kind)))

/-- A finding about a target that is not registered. -/
def danglingFinding (f : TypeFact) (kind : RelationKind) (target : String) : Finding :=
  { kind := .dangling kind
    severity := .warning
    message := f.name ++ " " ++ kind.verb ++ " unregistered type " ++ target
    location := none
    tags := some [("type", f.name), ("target", target), ("library", f.library)] }

/-- The findings about the targets of one fact that are not registered, kind by
    kind. -/
def danglingOf (r : Registry) (f : TypeFact) : List Finding :=
  RelationKind.all.flatMap fun kind =>
    ((f.relations kind).filter (!r.has ·)).map (danglingFinding f kind)

/-- A finding about a cycle of superclasses. -/
def cycleFinding (cycle : List String) : Finding :=
  { kind := .superclassCycle
    severity := .warning
    message := "Superclass cycle: " ++ " -> ".intercalate (cycle ++ cycle.take 1)
    location := none
    tags := some [("members", ",".intercalate cycle)] }

/-- The findings about a registry: the dangling ones in ascending order of
    types, then one for each cycle. -/
def diagnose (r : Registry) : List Finding :=
  (TypeFact.sortByName r.facts).flatMap r.danglingOf
    ++ r.superclassCycles.map cycleFinding

end Registry

/-- The report with the statistics and relation counts of a registry. -/
def Report.summarize (report : Report) (r : Registry) : Report :=
  { report with
    statistics := Statistics.ofFacts r.facts
    relationCounts := r.relationCounts }

end TypeLineage
