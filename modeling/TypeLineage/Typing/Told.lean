import TypeLineage.Text.Letters
import TypeLineage.Text.Quoted
import TypeLineage.Typing.Operations

/-! # Texts of types

    A type is told by a text, of which it is known what kind of type it is, as
    some types need parentheses inside others.  Names of members are told as
    they may be written. -/

namespace TypeLineage.Typing

open Source Program

/-- What kind of type a text tells. -/
inductive ToldForm where
  | plain
  | union
  | intersection
  | function
  | conditional
  /-- A word that acts on a type. -/
  | operator
  /-- The type of a value. -/
  | query
  | infer
  deriving DecidableEq, Repr, Inhabited

/-- A type as it is told. -/
structure Told where
  text : String
  form : ToldForm
  /-- The name, if the text is one with type arguments at most. -/
  name : Option String
  deriving DecidableEq, Repr, Inhabited

namespace Told

/-- A text that never needs parentheses. -/
def plain (text : String) : Told := ⟨text, .plain, none⟩

/-- A text of a form. -/
def ofForm (form : ToldForm) (text : String) : Told := ⟨text, form, none⟩

/-- What is left out. -/
def elided : Told := ⟨"...", .plain, some "..."⟩

/-- What is left out of a text that is told to its end. -/
def untold : Told := plain "any"

/-- The text, in parentheses if it is of one of the forms. -/
def within (forms : List ToldForm) (t : Told) : String :=
  if forms.contains t.form then "(" ++ t.text ++ ")" else t.text

/-- The text as a member of a union or an intersection, or behind a word. -/
def asMember (t : Told) : String := t.within [.union, .intersection, .function, .conditional]

/-- The text before brackets or a mark. -/
def asElement (t : Told) : String :=
  t.within [.union, .intersection, .function, .conditional, .operator, .query, .infer]

/-- The text of what a condition checks. -/
def asChecked (t : Told) : String := t.within [.function, .conditional]

/-- The text of what a condition compares with. -/
def asBound (t : Told) : String := t.within [.conditional]

/-- A list of a type. -/
def list (t : Told) : Told := plain (t.asElement ++ "[]")

/-- What may only be read. -/
def readonly (t : Told) : Told := ofForm .operator ("readonly " ++ t.text)

/-- A name with type arguments. -/
def named (name : String) (arguments : List Told) : Told :=
  let text := if arguments.isEmpty then name
    else name ++ "<" ++ ", ".intercalate (arguments.map (·.text)) ++ ">"
  ⟨text, .plain, some name⟩

/-- The members of a union or an intersection. -/
def joined (isUnion : Bool) (ts : List Told) : Told :=
  ofForm (if isUnion then .union else .intersection)
    ((if isUnion then " | " else " & ").intercalate (ts.map asMember))

/-- An object of members. -/
def object (members : List String) : Told :=
  plain (if members.isEmpty then "\x7b\x7d"
    else "\x7b " ++ " ".intercalate (members.map (· ++ ";")) ++ " \x7d")

end Told

/-! ## Names -/

/-- How long a text is. -/
def widthOf (s : String) : Nat := (Text.codeUnits s).length

/-- The name of a member that is neither a name nor a number. -/
def quotedName (style : NameStyle) (name : String) : String :=
  Text.Quoting.quoted ⟨if style = .singleQuoted then '\'' else '"', true, false⟩ name

/-- The name of a member. -/
def memberName (p : Property) : String :=
  let isQuoted := p.style = .doubleQuoted || p.style = .singleQuoted
  if p.name.startsWith "__@" then
    "[" ++ (((p.name.drop 3).toString.splitOn "@").headD "") ++ "]"
  else if p.isMethod && p.name = "new" then quotedName p.style p.name
  else if Text.isName p.name then p.name
  else if !isQuoted && isNumberText p.name then
    if p.name.startsWith "-" then "[" ++ p.name ++ "]" else p.name
  else quotedName p.style p.name

mutual

/-- A pattern without the values that it falls back to. -/
def patternText : Pattern → String
  | .name _ text => text
  | .object _ items trails =>
    let parts := itemTexts items
    if parts.isEmpty then "\x7b\x7d"
    else "\x7b " ++ ", ".intercalate parts ++ (if trails then "," else "") ++ " \x7d"
  | .array _ items trails =>
    "[" ++ ", ".intercalate (itemTexts items) ++ (if trails then "," else "") ++ "]"

/-- The parts of a pattern. -/
def itemTexts : List PatternItem → List String
  | [] => []
  | .hole :: rest => "" :: itemTexts rest
  | .item key isRest p _ :: rest =>
    let name := match key with
      | some (.plain text) => text ++ ": "
      | some (.quoted text _) =>
        Text.Quoting.plain.quoted text ++ ": "
      | some (.number text) => text ++ ": "
      | _ => ""
    ((if isRest then "..." else "") ++ name ++ patternText p) :: itemTexts rest

end

/-! ## Where things are declared -/

/-- The declaration is the default of its file. -/
def isDefaultOf (d : TypeDeclaration) (scope : Scope) : Bool :=
  let statements := match scope.frames with
    | [] => scope.file.statements
    | .space b :: _ => b.statements
    | _ => []
  statements.any fun
    | .declaration .isDefault _ (.type c) => c.spot = d.spot
    | _ => false

/-- The name by which declarations are told. -/
def toldName (es : List Entity) : String :=
  match es.find? fun e => e.name ≠ "" with
  | some e => e.name
  | none => match es with
    | .type d scope :: _ =>
      match d.assigned? with
      | some name => name
      | none => if isDefaultOf d scope then "default" else "(Anonymous class)"
    | _ => ""

/-- The names of the namespaces around a place, the outermost first. -/
def spacesAround (frames : List Frame) : List String :=
  (frames.filterMap fun
    | .space b => some b.name
    | _ => none).reverse

/-- The path of a file without its ending. -/
def filePath (f : SourceFile) : String :=
  "/" ++ "/".intercalate (f.place.dropLast ++ [(splitEnding (lastName f.place)).1])

/-- What is told before the name of a declaration in full. -/
def pathBefore (e : Entity) : String :=
  match e.scope? with
  | some scope =>
    let spaces := spacesAround scope.frames
    let inside := String.join (spaces.map (· ++ "."))
    if scope.file.isModule then
      "import(\"" ++ filePath scope.file ++ "\")." ++ inside
    else inside
  | none => ""

end TypeLineage.Typing
