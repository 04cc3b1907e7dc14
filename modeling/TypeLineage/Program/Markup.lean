import TypeLineage.Program.Resolution
import TypeLineage.Source.Lexer

/-! # Markup

    Elements of markup are values of a type that is declared in a namespace.
    Which namespace that is, the options of a project say, and a file may say
    it in the comments at its head. -/

namespace TypeLineage.Program

open Source

/-- Words that the comments at the head of a file say behind a sign. -/
abbrev Pragmas := List (String × String)

namespace Pragmas

/-- The word that a line says behind the name of a pragma. -/
def ofLine (line : List Char) : Option (String × String) :=
  match line.dropWhile (· ≠ '@') with
  | _ :: rest =>
    let name := rest.takeWhile (!Char.isWhitespace ·)
    let word := ((rest.drop name.length).dropWhile Char.isWhitespace).takeWhile
      (!Char.isWhitespace ·)
    if word.isEmpty then none else some ((String.ofList name).toLower, String.ofList word)
  | [] => none

/-- The lines of a comment up to its end, and what is behind it. -/
def commentLines : List Char → List (List Char) × List Char
  | [] => ([], [])
  | '*' :: '/' :: rest => ([], rest)
  | c :: rest =>
    let (lines, after) := commentLines rest
    if isBreak c then ([] :: lines, after)
    else match lines with
      | [] => ([[c]], after)
      | line :: others => ((c :: line) :: others, after)

/-- The pragmas in the comments before the first token of a text. -/
def atHead : (fuel : Nat) → List Char → Pragmas
  | 0, _ => []
  | fuel + 1, cs =>
    match cs.dropWhile fun c => isGap c || isBreak c with
    | '/' :: '/' :: rest => atHead fuel (rest.dropWhile (!isBreak ·))
    | '/' :: '*' :: rest =>
      let (lines, after) := commentLines rest
      lines.filterMap ofLine ++ atHead fuel after
    | _ => []

/-- The word behind the last pragma of a name. -/
def last? (ps : Pragmas) (name : String) : Option String := ps.reverse.lookup name

end Pragmas

/-- What the options of a project say about markup. -/
structure MarkupForm where
  /-- The namespace that holds the one of the types. -/
  space : String
  /-- The package that gives the namespace of the types without being asked for. -/
  package : Option String
  /-- The part of the package. -/
  part : String
  /-- A file with markup shares no names with others. -/
  marksFiles : Bool
  deriving DecidableEq, Repr, Inhabited

/-- The first name of a path. -/
def firstName (path : String) : Option String :=
  let name := (path.splitOn ".").headD ""
  if Text.isName name then some name else none

/-- What the options of a project say about markup. -/
def MarkupForm.ofOptions (options : Project.Options) : MarkupForm :=
  let text (key : String) : Option String :=
    ((options.value? key).bind Json.string?).filter (· ≠ "")
  let word := wordOf? options "jsx"
  let isDirect := word = some "react-jsx" || word = some "react-jsxdev"
  let space := match text "jsxFactory" with
    | some path => firstName path
    | none => text "reactNamespace"
  let package := (text "jsxImportSource").orElse fun _ => if isDirect then some "react" else none
  ⟨space.getD "React", package,
    if word = some "react-jsxdev" then "jsx-dev-runtime" else "jsx-runtime", isDirect⟩

/-- The file that gives the namespace of the types to a file with pragmas. -/
def MarkupForm.fileFor (m : MarkupForm) (ps : Pragmas) : Option String :=
  let mode := ps.last? "jsxruntime"
  let own := ps.last? "jsximportsource"
  let fallback := if own.isSome || mode = some "automatic" then some "react" else none
  if mode = some "classic" then none
  else ((own.orElse fun _ => m.package).orElse fun _ => fallback).map (· ++ "/" ++ m.part)

/-- The namespace that holds the one of the types for a file with pragmas. -/
def MarkupForm.spaceFor (m : MarkupForm) (ps : Pragmas) : String :=
  ((ps.lookup "jsx").bind firstName).getD m.space

end TypeLineage.Program
