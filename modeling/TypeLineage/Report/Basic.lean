import TypeLineage.Json.Basic
import TypeLineage.Registry.Snapshot

/-! # Reports

    A report tells of one run: what ran on which files and when, what was
    counted, and what was found.  A finding is of a kind and a severity; the
    ones above mere information are problems. -/

namespace TypeLineage

/-! ## Counts by word

    What is counted is kept in an object under the words that name it.  Every
    object has some functions from the start; counting under the name of one
    goes on from the function, so that the text of the function is followed by
    the amounts.  Under the name of the parent of an object nothing is kept. -/

/-- What was counted under a word. -/
inductive Count where
  | number (n : JsonNumber)
  /-- A text that the amounts follow. -/
  | text (s : String)
  deriving DecidableEq, Repr, Inhabited

namespace Count

/-- The names of the functions that every object has. -/
def givenFunctions : List String :=
  ["hasOwnProperty", "isPrototypeOf", "propertyIsEnumerable", "toLocaleString", "toString",
    "valueOf", "__defineGetter__", "__defineSetter__", "__lookupGetter__", "__lookupSetter__"]

/-- The text of a function that is not written in a file. -/
def functionText (name : String) : String := "function " ++ name ++ "() \x7b [native code] \x7d"

/-- Where counting under a word begins. -/
def initial (word : String) : Count :=
  if word = "constructor" then .text (functionText "Object")
  else if givenFunctions.contains word then .text (functionText word)
  else .number (.int 0)

/-- The count after an amount. -/
def add (c : Count) (amount : JsonNumber) : Count :=
  match c with
  | .number n => .number (n.add amount)
  | .text s => .text (s ++ amount.text .plain)

/-- The count in words. -/
def written : Count → String
  | .number n => n.text .plain
  | .text s => s

/-- The count as a value. -/
def toJson : Count → Json
  | .number n => .number n
  | .text s => .string s

end Count

/-- Counts by word, in the order in which the words were first counted.  A word that was never
    counted has none. -/
abbrev Counts := List (String × Count)

namespace Counts

/-- The name of the parent of an object. -/
def parentName : String := "__proto__"

/-- Adds to the count under a word. -/
def increase (counts : Counts) (word : String) (amount : JsonNumber) : Counts :=
  if word = parentName then counts else go counts
where
  go : Counts → Counts
    | [] => [(word, (Count.initial word).add amount)]
    | (w, c) :: rest => if w = word then (w, c.add amount) :: rest else (w, c) :: go rest

/-- How often each word occurs. -/
def ofWords (words : List String) : Counts :=
  words.foldl (fun counts word => counts.increase word (.int 1)) []

/-- Counts as an object. -/
def toJson (counts : Counts) : Json :=
  .object (Json.orderMembers (counts.map fun (word, c) => (word, c.toJson)))

end Counts

/-! ## Findings -/

/-- How grave a finding is. -/
inductive Severity where
  | info
  | warning
  | error
  /-- A severity of another name. -/
  | other (word : String)
  deriving DecidableEq, Repr, Inhabited

namespace Severity

/-- The severities with names of their own. -/
def all : List Severity := [.info, .warning, .error]

/-- The word for a severity. -/
def word : Severity → String
  | .info => "info"
  | .warning => "warning"
  | .error => "error"
  | .other word => word

/-- The severity a word stands for. -/
def ofWord (word : String) : Severity := (all.find? (·.word = word)).getD (.other word)

end Severity

/-- What a finding is about. -/
inductive FindingKind where
  | invalidFactFile
  | duplicateType
  | dangling (relation : RelationKind)
  | superclassCycle
  | note
  /-- A kind of another name. -/
  | other (word : String)
  deriving DecidableEq, Repr, Inhabited

namespace FindingKind

/-- The kinds of finding with names of their own. -/
def all : List FindingKind :=
  [.invalidFactFile, .duplicateType, .dangling .superclass, .dangling .interface,
    .dangling .mixin, .superclassCycle, .note]

/-- The word for a kind of finding. -/
def word : FindingKind → String
  | .invalidFactFile => "invalidFactFile"
  | .duplicateType => "duplicateType"
  | .dangling .superclass => "danglingSuperclass"
  | .dangling .interface => "danglingInterface"
  | .dangling .mixin => "danglingMixin"
  | .superclassCycle => "superclassCycle"
  | .note => "note"
  | .other word => word

/-- The kind a word stands for. -/
def ofWord (word : String) : FindingKind := (all.find? (·.word = word)).getD (.other word)

/-- About a target that is not registered: so its word begins. -/
def isDangling (kind : FindingKind) : Bool := kind.word.startsWith "dangling"

end FindingKind

/-- A place in a file: the file, and the number of an entry where the finding
    concerns one. -/
structure Location where
  file : String
  typeIndex : Option Nat
  deriving DecidableEq, Repr, Inhabited

/-- The place as a short text. -/
def Location.text (l : Location) : String :=
  match l.typeIndex with
  | some i => l.file ++ "#types[" ++ Number.decimalText i ++ "]"
  | none => l.file

/-- Something a run came upon. -/
structure Finding where
  kind : FindingKind
  severity : Severity
  message : String
  location : Option Location
  tags : Option (List (String × String))
  deriving DecidableEq, Repr, Inhabited

namespace Finding

/-- The place of a finding as text, empty where there is none. -/
def place (f : Finding) : String := (f.location.map Location.text).getD ""

/-- The name a dangling finding is about: its tag, or else its message. -/
def target (f : Finding) : String :=
  (f.tags.bind (·.lookup "target")).getD f.message

/-- More than information. -/
def isProblem (f : Finding) : Bool := f.severity ≠ .info

/-- A finding as an object. -/
def toJson (f : Finding) : Json :=
  .object (
    [("kind", .string f.kind.word), ("severity", .string f.severity.word),
      ("message", .string f.message)]
    ++ (f.location.map fun l => ("location", Json.object (("file", .string l.file)
        :: (l.typeIndex.map fun i => ("typeIndex", Json.ofNat i)).toList))).toList
    ++ (f.tags.map fun tags => ("tags", Json.ofBindings tags)).toList)

end Finding

/-- What is told of one run. -/
structure Report where
  toolName : String
  toolVersion : String
  sourceRoot : String
  startedAt : String
  finishedAt : String
  filesScanned : Nat
  factsLoaded : Nat
  statistics : Statistics
  /-- How many relations of each kind there are. -/
  relationCounts : Counts
  findings : List Finding
  deriving DecidableEq, Repr, Inhabited

namespace Report

/-- The one format. -/
def formatName : String := "index-report-v1"

/-- A report of nothing, begun and ended at one time. -/
def empty (toolName toolVersion sourceRoot startedAt : String) : Report :=
  { toolName, toolVersion, sourceRoot, startedAt
    finishedAt := startedAt
    filesScanned := 0
    factsLoaded := 0
    statistics := .zero
    relationCounts := []
    findings := [] }

/-- Adds a finding. -/
def add (r : Report) (f : Finding) : Report := { r with findings := r.findings ++ [f] }

/-- Adds findings in their order. -/
def addAll (r : Report) (fs : List Finding) : Report := { r with findings := r.findings ++ fs }

/-- Sets the time of the end. -/
def finish (r : Report) (at' : String) : Report := { r with finishedAt := at' }

/-- The number of findings that are problems. -/
def problemCount (r : Report) : Nat := r.findings.countP Finding.isProblem

/-- A report as an object. -/
def toJson (r : Report) : Json :=
  .object [
    ("schema", .string formatName),
    ("tool", .object [("name", .string r.toolName), ("version", .string r.toolVersion)]),
    ("sourceRoot", .string r.sourceRoot),
    ("startedAtIso", .string r.startedAt),
    ("finishedAtIso", .string r.finishedAt),
    ("filesScanned", .ofNat r.filesScanned),
    ("factsLoaded", .ofNat r.factsLoaded),
    ("statistics", r.statistics.toJson),
    ("counts", .object [("relationsByKind", r.relationCounts.toJson)]),
    ("findings", .array (r.findings.map Finding.toJson))]

/-- The canonical text of a report. -/
def write (r : Report) : String := r.toJson.stableText Document.defaultIndent

end Report

end TypeLineage
