import TypeLineage.Extract.Declared
import TypeLineage.Files.Scan
import TypeLineage.Registry.Lookup
import TypeLineage.Report.Basic

/-! # Drawing facts from a project

    The sources below the project's root are scanned and read as one program,
    under the project's configuration.  Facts come from the scanned files only,
    in the order in which the program's files are complete.  A name that
    another file declared last is found to be declared twice. -/

namespace TypeLineage.Extract

open Source Program Typing

/-- What is to be extracted. -/
structure Request where
  root : String
  configuration : Option String
  excludes : List String
  includeTests : Bool
  cap : Option Nat
  /-- Only what descends from one of these is kept, unless there are none. -/
  bases : List String
  deriving Repr, Inhabited

/-- What stands in the way of an extraction. -/
inductive Fault where
  | scan (e : ScanError)
  | configuration (e : Project.ConfigError)

/-- What stands in the way of an extraction, in words. -/
def Fault.message : Fault → String
  | .scan e => e.message
  | .configuration e => e.message

/-- The facts of a file, with the file. -/
structure FileFacts where
  library : String
  facts : List TypeFact

/-- What was extracted. -/
structure Extracted where
  /-- The scanned files. -/
  scanned : List String
  /-- The facts by file, all of them. -/
  files : List FileFacts
  /-- The facts that are kept. -/
  facts : List TypeFact

/-- The selection of sources below the root. -/
def Request.selection (r : Request) : Selection :=
  { root := r.root
    includes := Selection.sourceFiles
    excludes := r.excludes
    includeTests := r.includeTests
    cap := r.cap }

/-- A name that another file declared last. -/
def duplicateFinding (library name previous : String) : Finding :=
  { kind := .duplicateType
    severity := .warning
    message := name ++ " is already declared in " ++ previous
    location := some ⟨library, none⟩
    tags := some [("type", name)] }

/-- The findings about a file's names, given the file that declared each name
    last; with them what is then known of files. -/
def findingsOfFile (library : String) (declared : List (String × String)) :
    List TypeFact → List Finding × List (String × String)
  | [] => ([], declared)
  | f :: rest =>
    let (others, known) := findingsOfFile library ((f.name, library) :: declared) rest
    match declared.lookup f.name with
    | some previous =>
      if previous ≠ library then (duplicateFinding library f.name previous :: others, known)
      else (others, known)
    | none => (others, known)

/-- The findings about files, in order. -/
def findings (declared : List (String × String)) : List FileFacts → List Finding
  | [] => []
  | f :: rest =>
    let (own, known) := findingsOfFile f.library declared f.facts
    own ++ findings known rest

/-- The facts of the scanned files of a program. -/
def factsOfProgram (w : World) (root : Place) (scanned : List Place) : List FileFacts :=
  let files := w.sources.files.filter fun f => scanned.contains f.place
  Check.start (files.mapM fun f => do
    let library := Path.toPosix (Path.relative root f.place)
    return ⟨library, ← (declaredInFile f).mapM (factOf w library)⟩) w

/-- Facts with only those kept that descend from one of the bases. -/
def keepBelow (bases : List String) (facts : List TypeFact) : List TypeFact :=
  if bases.isEmpty then facts else Registry.keepDescendants facts bases

/-- Extracts what is requested from the files of a tree. -/
def extract (home : Place) (t : FileTree) (r : Request) : Except Fault Extracted := do
  let root := Path.resolve home r.root
  let scanned ← (r.selection.paths home t).mapError .scan
  let setup ← (Project.setUp t root r.configuration).mapError .configuration
  let places := scanned.map (Path.resolve root)
  let directory := (setup.config.map List.dropLast).getD home
  let sources := Sources.ofRoots t setup.options directory places
  let settings := .ofOptions setup.options (sources.files.flatMap (·.libraries))
  let world := World.ofSources sources settings
  let files := factsOfProgram world root places
  pure ⟨scanned, files, keepBelow r.bases (files.flatMap (·.facts))⟩

/-- The report with the accounts of an extraction. -/
def Extracted.tell (e : Extracted) (r : Report) : Report :=
  { r.addAll (findings [] e.files) with
    filesScanned := e.scanned.length
    factsLoaded := e.facts.length }

end TypeLineage.Extract
