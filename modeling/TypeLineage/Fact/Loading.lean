import TypeLineage.Fact.Document
import TypeLineage.Files.Scan
import TypeLineage.Report.Basic

/-! # Loading fact documents

    The documents of a selection are read in the order of their paths.  A file
    that gives no facts leaves a finding and the others still load; a name
    that is defined again leaves a finding that says where it was defined
    last. -/

namespace TypeLineage.Loading

/-- Why a selected file gives no facts. -/
inductive Problem where
  | unreadable
  | document (problem : Document.Problem)
  deriving DecidableEq, Repr

/-- The problem in words. -/
def Problem.message : Problem → String
  | .unreadable => "Unable to read file: no such file"
  | .document problem => problem.message

/-- A selected file and what it gives. -/
structure Source where
  file : String
  content : Except Problem (List TypeFact)

/-- What loading gives: the selected files, the facts in the order of files
    and entries, and the findings on the way. -/
structure Loaded where
  files : List String
  facts : List TypeFact
  findings : List Finding
  deriving Inhabited

/-- The finding about a file that gives no facts. -/
def invalidFinding (file : String) (problem : Problem) : Finding :=
  { kind := .invalidFactFile
    severity := .error
    message := problem.message
    location := some ⟨file, none⟩
    tags := none }

/-- The finding about a name that is defined again. -/
def duplicateFinding (file : String) (typeIndex : Nat) (name previous : String) : Finding :=
  { kind := .duplicateType
    severity := .warning
    message := name ++ " is already defined in " ++ previous
    location := some ⟨file, some typeIndex⟩
    tags := some [("type", name)] }

/-- The findings about the facts of one file from a number on, given the file
    that defined each name last. -/
def duplicates (file : String) (defined : List (String × String)) :
    (typeIndex : Nat) → List TypeFact → List Finding
  | _, [] => []
  | i, f :: facts =>
    let rest := duplicates file ((f.name, file) :: defined) (i + 1) facts
    match defined.lookup f.name with
    | some previous => duplicateFinding file i f.name previous :: rest
    | none => rest

/-- The findings about all files, given the file that defined each name last. -/
def findings (defined : List (String × String)) : List Source → List Finding
  | [] => []
  | s :: rest =>
    match s.content with
    | .error problem => invalidFinding s.file problem :: findings defined rest
    | .ok facts =>
      duplicates s.file defined 0 facts
        ++ findings ((facts.map fun f => (f.name, s.file)).reverse ++ defined) rest

/-- The facts of a file, none where it gives none. -/
def Source.facts (s : Source) : List TypeFact :=
  match s.content with
  | .ok facts => facts
  | .error _ => []

/-- What a list of files gives. -/
def ofSources (sources : List Source) : Loaded :=
  { files := sources.map (·.file)
    facts := sources.flatMap Source.facts
    findings := findings [] sources }

/-- The source that a path below a root names. -/
def readSource (t : FileTree) (root : Place) (file : String) : Source :=
  { file
    content := match t.text? (Path.inside root file) with
      | none => .error .unreadable
      | some text => (Document.ofText text).mapError .document }

/-- The selection of fact documents below a root. -/
def selection (root : String) (includes excludes : List String) (cap : Option Nat) : Selection :=
  { root
    includes := Selection.orDefault includes Selection.factFiles
    excludes
    includeTests := true
    cap }

/-- Loads the documents of a selection. -/
def load (home : Place) (t : FileTree) (s : Selection) : Except ScanError Loaded := do
  let files ← s.paths home t
  pure (ofSources (files.map (readSource t (Path.resolve home s.root))))

/-- The report with the accounts of loading. -/
def Loaded.tell (l : Loaded) (r : Report) : Report :=
  { r.addAll l.findings with
    filesScanned := l.files.length
    factsLoaded := l.facts.length }

end TypeLineage.Loading
