import TypeLineage.Command.Line
import TypeLineage.Command.OptionValue

/-! # What a command line asks for

    There are three commands.  `index` loads fact documents and writes the
    registry, `extract` draws facts from sources and writes them as a document,
    and `query` asks one question about fact documents.  A command line may
    also ask for help or for the version, or be of no use at all. -/

namespace TypeLineage

open CommandLine

/-- What `index` is to do. -/
structure IndexRequest where
  source : String
  out : String
  patterns : List String
  excludes : List String
  cap : Option Nat
  /-- The types below which the hierarchy is shown. -/
  hierarchy : List String
  report : Option String
  failsOnFindings : Bool
  verbose : Bool
  deriving DecidableEq, Repr, Inhabited

/-- What `extract` is to do. -/
structure ExtractRequest where
  source : String
  out : String
  configuration : Option String
  excludes : List String
  includeTests : Bool
  cap : Option Nat
  bases : List String
  report : Option String
  verbose : Bool
  deriving DecidableEq, Repr, Inhabited

/-- What `query` is to do. -/
structure QueryRequest where
  source : String
  patterns : List String
  excludes : List String
  operation : String
  arguments : List String
  deriving DecidableEq, Repr, Inhabited

/-- Why a command line is of no use. -/
inductive Misuse where
  | noCommand
  | unknownCommand (name : String)
  | unknownOption (argument : String)
  | missingValue (option : String)
  | missingOption (option : String)
  | missingArgument (name : String)
  deriving DecidableEq, Repr

/-- Why a command line is of no use, in words. -/
def Misuse.message : Misuse → String
  | .noCommand => "a command is missing"
  | .unknownCommand name => "unknown command " ++ name
  | .unknownOption argument => "unknown option " ++ argument
  | .missingValue option => "option --" ++ option ++ " needs a value"
  | .missingOption option => "option --" ++ option ++ " is missing"
  | .missingArgument name => "argument " ++ name ++ " is missing"

/-- What a command line asks for. -/
inductive Invocation where
  | help
  | version
  | misuse (m : Misuse)
  /-- An option that must have a text was given an empty one. -/
  | emptyOption (name : String)
  | index (r : IndexRequest)
  | extract (r : ExtractRequest)
  | query (r : QueryRequest)
  deriving DecidableEq, Repr

/-- The commands. -/
inductive CommandName where
  | index
  | extract
  | query
  deriving DecidableEq, Repr

namespace CommandName

/-- All commands. -/
def all : List CommandName := [.index, .extract, .query]

/-- The word for a command. -/
def word : CommandName → String
  | .index => "index"
  | .extract => "extract"
  | .query => "query"

/-- The command a word stands for. -/
def ofWord? (word : String) : Option CommandName := all.find? (·.word = word)

/-- An option that must be given. -/
def mandatory (name : String) : Rule := ⟨name, none, .one, true⟩

/-- An option that may be given. -/
def free (name : String) (arity : Arity) : Rule := ⟨name, none, arity, false⟩

/-- The option for more to read. -/
def verbose : Rule := ⟨"verbose", some 'v', .none, false⟩

/-- The options of a command. -/
def rules : CommandName → List Rule
  | .index => [mandatory "source", mandatory "out", free "pattern" .many, free "exclude" .many,
      free "max-files" .one, free "hierarchy" .many, free "report" .one,
      free "fail-on-findings" .optional, verbose]
  | .extract => [mandatory "source", mandatory "out", free "tsconfig" .one, free "exclude" .many,
      free "include-tests" .optional, free "max-files" .one, free "base" .many,
      free "report" .one, verbose]
  | .query => [mandatory "source", free "pattern" .many, free "exclude" .many]

/-- The operands a command cannot do without. -/
def operands : CommandName → List String
  | .query => ["operation"]
  | _ => []

end CommandName

/-- How an option is written, with what follows it. -/
def CommandLine.Rule.usage (rule : Rule) : String :=
  let written := (rule.letter.elim "" fun c => String.ofList ['-', c, ',', ' ']) ++ "--" ++ rule.name
  match rule.arity with
  | .none => written
  | .one => written ++ " <value>"
  | .optional => written ++ " [value]"
  | .many => written ++ " <value...>"

/-- A line that tells how a command is used. -/
def CommandName.usage (c : CommandName) : String :=
  let written (rule : Rule) := if rule.isMandatory then rule.usage else "[" ++ rule.usage ++ "]"
  " ".intercalate (c.word :: c.operands.map (fun n => "<" ++ n ++ ">") ++ c.rules.map written)

namespace Invocation

/-- The place a command starts from. -/
def source? : Invocation → Option String
  | .index r => some r.source
  | .extract r => some r.source
  | .query r => some r.source
  | _ => none

/-- The option that is known before a command is. -/
def versionRule : Rule := ⟨"version", some 'V', .none, false⟩

/-- The arguments that ask for help. -/
def helpOptions : List String := ["-h", "--help"]

/-- A text that must not be empty. -/
def textOf (r : Reading) (name : String) : Except Invocation String :=
  match OptionValue.text? (r.value? name) with
  | some text => .ok text
  | none => .error (.emptyOption name)

/-- The cap that an option sets. -/
def capOf (r : Reading) : Option Nat :=
  OptionValue.cap? (OptionValue.wholeNumber? (r.value? "max-files"))

/-- What `index` is asked with. -/
def indexOf (r : Reading) : Except Invocation IndexRequest := do
  let source ← textOf r "source"
  let out ← textOf r "out"
  pure {
    source
    out
    patterns := r.values "pattern"
    excludes := r.values "exclude"
    cap := capOf r
    hierarchy := r.values "hierarchy"
    report := OptionValue.text? (r.value? "report")
    failsOnFindings := OptionValue.truth (r.value? "fail-on-findings") false
    verbose := (r.last? "verbose").isSome }

/-- What `extract` is asked with. -/
def extractOf (r : Reading) : Except Invocation ExtractRequest := do
  let source ← textOf r "source"
  let out ← textOf r "out"
  pure {
    source
    out
    configuration := OptionValue.text? (r.value? "tsconfig")
    excludes := r.values "exclude"
    includeTests := OptionValue.truth (r.value? "include-tests") false
    cap := capOf r
    bases := r.values "base"
    report := OptionValue.text? (r.value? "report")
    verbose := (r.last? "verbose").isSome }

/-- What `query` is asked with, given its operands. -/
def queryOf (r : Reading) (operands : List String) : Except Invocation QueryRequest := do
  let source ← textOf r "source"
  pure {
    source
    patterns := r.values "pattern"
    excludes := r.values "exclude"
    operation := operands.head?.getD ""
    arguments := operands.drop 1 }

/-- The request of a command or, if there is none, what is asked for instead. -/
def requestOf (c : CommandName) (r : Reading) (operands : List String) : Invocation :=
  let request : Except Invocation Invocation := match c with
    | .index => (indexOf r).map .index
    | .extract => (extractOf r).map .extract
    | .query => (queryOf r operands).map .query
  match request with
  | .ok i => i
  | .error i => i

/-- What a command is asked for, given the operands and the rest of the line. -/
def ofCommand (c : CommandName) (operands rest : List String) : Invocation :=
  match read c.rules rest with
  | .error e => .misuse (.missingValue e.rule.name)
  | .ok r =>
    let all := operands ++ r.operands
    if r.unknown.any helpOptions.contains then .help
    else match c.rules.find? fun rule => rule.isMandatory && (r.last? rule.name).isNone with
      | some rule => .misuse (.missingOption rule.name)
      | none =>
        match r.unknown, c.operands.drop all.length with
        | option :: _, _ => .misuse (.unknownOption option)
        | [], missing :: _ => .misuse (.missingArgument missing)
        | [], [] => requestOf c r all

/-- What is asked for where no command is named. -/
def withoutCommand (r : Reading) : Invocation :=
  if r.operands.isEmpty && r.unknown.isEmpty then .misuse .noCommand
  else if r.unknown.any helpOptions.contains then .help
  else match r.operands, r.unknown with
    | name :: _, _ => .misuse (.unknownCommand name)
    | [], option :: _ => .misuse (.unknownOption option)
    | [], [] => .misuse .noCommand

/-- What help is asked about. -/
def ofHelp : List String → Invocation
  | [] => .help
  | "" :: _ => .help
  | name :: _ =>
    if (CommandName.ofWord? name).isSome then .help else .misuse (.unknownCommand name)

/-- What the arguments of a program ask for. -/
def ofArguments (arguments : List String) : Invocation :=
  match read [versionRule] arguments with
  | .error e => .misuse (.missingValue e.rule.name)
  | .ok r =>
    if !r.settings.isEmpty then .version
    else match r.operands with
      | [] => withoutCommand r
      | name :: others =>
        match CommandName.ofWord? name with
        | some c => ofCommand c others r.unknown
        | none => if name = "help" then ofHelp others else withoutCommand r

end Invocation

end TypeLineage
