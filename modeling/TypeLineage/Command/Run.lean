import TypeLineage.Command.Invocation
import TypeLineage.Extract.Extraction
import TypeLineage.Fact.Loading
import TypeLineage.Registry.Query
import TypeLineage.Report.Diagnosis
import TypeLineage.Report.Markdown

/-! # Running a command

    A command reads a tree of files and leaves a tree of files, lines of text
    and an exit code: 0 where all went well, 1 where the line or the query is of
    no use, 2 where something stood in the way, and 3 where findings are to
    count as a failure and there are some.  What was written before something
    stood in the way stays written. -/

namespace TypeLineage

namespace Tool

/-- The name under which reports are signed. -/
def name : String := "type-relation-index"

/-- The version under which reports are signed. -/
def version : String := "0.1.0"

end Tool

/-- Why a command came to no good end. -/
inductive Failure where
  | misuse (m : Misuse)
  | emptyOption (name : String)
  | query (e : QueryError)
  | scan (e : ScanError)
  | configuration (e : Project.ConfigError)
  | file (e : FileError)

namespace Failure

/-- The failure in words; misuse is answered with the usage and has none. -/
def message? : Failure → Option String
  | .misuse _ => none
  | .emptyOption name => some ("Missing required option: --" ++ name)
  | .query e => some e.message
  | .scan e => some e.message
  | .configuration e => some e.message
  | .file e => some e.message

/-- The exit code of a failure. -/
def code : Failure → Nat
  | .misuse _ => 1
  | .query _ => 1
  | _ => 2

/-- The failure of an extraction. -/
def ofExtraction : Extract.Fault → Failure
  | .scan e => .scan e
  | .configuration e => .configuration e

/-- A file stood in the way. -/
def fileError? : Failure → Option FileError
  | .file e => some e
  | .scan (.file e) => some e
  | _ => none

end Failure

/-- What a command leaves. -/
structure Outcome where
  code : Nat
  out : List String
  failure : Option Failure
  tree : FileTree

namespace Outcome

/-- A good end. -/
def done (tree : FileTree) (out : List String) : Outcome := ⟨0, out, none, tree⟩

/-- No good end. -/
def failed (tree : FileTree) (out : List String) (f : Failure) : Outcome := ⟨f.code, out, some f, tree⟩

end Outcome

namespace Command

/-- A run begins with a report of nothing. -/
def freshReport (source now : String) : Report := .empty Tool.name Tool.version source now

/-- Writes a report where one is asked for. -/
def writeReport (t : FileTree) (home : Place) (path : Option String) (r : Report) :
    Except FileError FileTree :=
  match path with
  | none => .ok t
  | some path => t.writeAt home path (r.render (.ofPath path))

/-- The report with what the registry shows. -/
def reportOn (r : Report) (registry : Registry) (now : String) : Report :=
  ((r.summarize registry).addAll registry.diagnose).finish now

/-- The hierarchy below a type, without the line feed at its end. -/
def hierarchyText? (registry : Registry) (root : String) : Option String :=
  let text := registry.renderHierarchy root
  if text = "" then none else some (text.dropEnd 1).toString

/-- The lines that tell what `index` has done. -/
def indexLines (o : IndexRequest) (types files problems : Nat) : List String :=
  if !o.verbose then []
  else
    ["Indexed " ++ Number.decimalText types ++ " type(s) from " ++ Number.decimalText files
        ++ " fact file(s). Wrote: " ++ o.out ++ " (findings: " ++ Number.decimalText problems ++ ")"]
      ++ (o.report.map ("Wrote report: " ++ ·)).toList

/-- Loads fact documents and writes the registry. -/
def index (home : Place) (now : String) (t : FileTree) (o : IndexRequest) : Outcome :=
  match Loading.load home t (Loading.selection o.source o.patterns o.excludes o.cap) with
  | .error e => .failed t [] (.scan e)
  | .ok loaded =>
    let registry := Registry.ofFacts loaded.facts
    let report := reportOn (loaded.tell (freshReport o.source now)) registry now
    match t.writeAt home o.out (registry.snapshot.write Document.defaultIndent) with
    | .error e => .failed t [] (.file e)
    | .ok written =>
      let trees := o.hierarchy.filterMap (hierarchyText? registry)
      match writeReport written home o.report report with
      | .error e => .failed written trees (.file e)
      | .ok final =>
        let lines := indexLines o registry.facts.length loaded.files.length report.problemCount
        { code := if o.failsOnFindings && 0 < report.problemCount then 3 else 0
          out := trees ++ lines
          failure := none
          tree := final }

/-- What `extract` asks of the extraction. -/
def extraction (o : ExtractRequest) : Extract.Request :=
  { root := o.source
    configuration := o.configuration
    excludes := o.excludes
    includeTests := o.includeTests
    cap := o.cap
    bases := o.bases }

/-- Draws facts from sources and writes them as a document. -/
def extract (home : Place) (now : String) (t : FileTree) (o : ExtractRequest) : Outcome :=
  match Extract.extract home t (extraction o) with
  | .error e => .failed t [] (.ofExtraction e)
  | .ok extracted =>
    match t.writeAt home o.out (Document.writeFacts extracted.facts Document.defaultIndent) with
    | .error e => .failed t [] (.file e)
    | .ok written =>
      let report := reportOn (extracted.tell (freshReport o.source now))
        (Registry.ofFacts extracted.facts) now
      match writeReport written home o.report report with
      | .error e => .failed written [] (.file e)
      | .ok final =>
        .done final (if o.verbose then
          ["Extracted " ++ Number.decimalText extracted.facts.length ++ " type fact(s) from "
            ++ Number.decimalText extracted.scanned.length ++ " file(s). Wrote: " ++ o.out]
          else [])

/-- Asks one question about fact documents. -/
def query (home : Place) (t : FileTree) (o : QueryRequest) : Outcome :=
  match Loading.load home t (Loading.selection o.source o.patterns o.excludes none) with
  | .error e => .failed t [] (.scan e)
  | .ok loaded =>
    match (Registry.ofFacts loaded.facts).query o.operation o.arguments with
    | .error e => .failed t [] (.query e)
    | .ok lines => .done t lines

/-- Does what is asked for. -/
def run (home : Place) (now : String) (t : FileTree) : Invocation → Outcome
  | .help => .done t []
  | .version => .done t []
  | .misuse m => .failed t [] (.misuse m)
  | .emptyOption name => .failed t [] (.emptyOption name)
  | .index o => index home now t o
  | .extract o => extract home now t o
  | .query o => query home t o

end Command

end TypeLineage
