import TypeLineage.Fact.Encoding
import TypeLineage.Json.Reader
import TypeLineage.Json.Printer

/-! # Fact documents

    A document is an object with a list `types` of facts and, optionally, the
    name of its format and statistics.  `Document.check` lists everything that
    is wrong with a value, each fault at the place where it stands, and
    `Document.parse` builds the facts of a value in which nothing is wrong.
    `Document.write` is the text of a document. -/

namespace TypeLineage.Document

/-- The kinds of value a document asks for. -/
inductive Expected where
  | object
  | array
  | string
  | boolean
  | integer
  | null
  deriving DecidableEq, Repr

/-- What can be wrong with a value in a document. -/
inductive Fault where
  | notA (expected : Expected)
  | missing (property : String)
  | undeclaredProperty
  | empty
  | negative
  | otherFormat
  | unqualifiedKey
  | invalidKey
  | noAlternative
  deriving DecidableEq, Repr

/-- The steps from the root of a document to a value in it. -/
abbrev Pointer := List String

/-- A fault and where it stands. -/
structure Complaint where
  place : Pointer
  fault : Fault
  deriving DecidableEq, Repr

/-- The one format. -/
def formatName : String := "type-facts-v1"

/-! ## Checking -/

/-- The complaints about the value at a place. -/
abbrev Check := Pointer → Json → List Complaint

/-- A text. -/
def isText : Check := fun place v =>
  match v with
  | .string _ => []
  | _ => [⟨place, .notA .string⟩]

/-- A text that is not empty. -/
def isName : Check := fun place v =>
  match v with
  | .string s => if s = "" then [⟨place, .empty⟩] else []
  | _ => [⟨place, .notA .string⟩]

/-- A truth value. -/
def isTruth : Check := fun place v =>
  match v with
  | .bool _ => []
  | _ => [⟨place, .notA .boolean⟩]

/-- A whole number that is not negative. -/
def isCount : Check := fun place v =>
  match v with
  | .number n =>
    (if n.isWhole then [] else [⟨place, .notA .integer⟩])
      ++ (if n.isNegative then [⟨place, .negative⟩] else [])
  | _ => [⟨place, .notA .integer⟩]

/-- The name of the format. -/
def isFormat : Check := fun place v =>
  match v with
  | .string s => if s = formatName then [] else [⟨place, .otherFormat⟩]
  | _ => [⟨place, .otherFormat⟩]

/-- A name or null. -/
def isNameOrNull : Check := fun place v =>
  match v with
  | .null => []
  | _ =>
    match isName place v with
    | [] => []
    | complaints => complaints ++ [⟨place, .notA .null⟩, ⟨place, .noAlternative⟩]

/-- An array whose every item passes. -/
def isListOf (item : Check) : Check := fun place v =>
  match v with
  | .array items =>
    (items.zipIdx.map fun (x, i) => item (place ++ [Number.decimalText i]) x).flatten
  | _ => [⟨place, .notA .array⟩]

/-- Ends a line: line feed, carriage return, and the two separators. -/
def endsLine (c : Char) : Bool :=
  c == '\n' || c == '\r' || c.toNat == 0x2028 || c.toNat == 0x2029

/-- A point strictly inside, and no end of a line. -/
def isQualified (key : String) : Bool :=
  let cs := key.toList
  !cs.any endsLine && ((cs.drop 1).dropLast).contains '.'

/-- An object of texts, every key of which is qualified. -/
def isBindings : Check := fun place v =>
  match v with
  | .object members =>
    (members.flatMap fun (key, _) =>
        if isQualified key then [] else [⟨place, .unqualifiedKey⟩, ⟨place, .invalidKey⟩])
      ++ members.flatMap fun (key, x) => isText (place ++ [key]) x
  | _ => [⟨place, .notA .object⟩]

/-- An object of counts. -/
def isCounts : Check := fun place v =>
  match v with
  | .object members => members.flatMap fun (key, x) => isCount (place ++ [key]) x
  | _ => [⟨place, .notA .object⟩]

/-- A property an object may have. -/
structure Property where
  key : String
  required : Bool
  check : Check

/-- An object with declared properties only: first the required ones that are
    missing, then one complaint per property that is not declared, then the
    complaints about the declared ones, in the order of their declaration. -/
def isRecord (properties : List Property) : Check := fun place v =>
  match v with
  | .object members =>
    let missing := properties.filter fun p => p.required && (members.lookup p.key).isNone
    let undeclared := members.filter fun m => properties.all (·.key ≠ m.1)
    missing.map (fun p => ⟨place, .missing p.key⟩)
      ++ undeclared.map (fun _ => ⟨place, .undeclaredProperty⟩)
      ++ properties.flatMap fun p =>
          match members.lookup p.key with
          | some x => p.check (place ++ [p.key]) x
          | none => []
  | _ => [⟨place, .notA .object⟩]

/-- The properties of a method. -/
def methodProperties : List Property := [
  ⟨"name", true, isName⟩,
  ⟨"returnType", true, isText⟩,
  ⟨"parameterTypes", false, isListOf isText⟩,
  ⟨"isStatic", false, isTruth⟩]

/-- A method. -/
def isMethod : Check := isRecord methodProperties

/-- The properties of a fact. -/
def factProperties : List Property := [
  ⟨"name", true, isName⟩,
  ⟨"library", true, isText⟩,
  ⟨"superclass", false, isNameOrNull⟩,
  ⟨"interfaces", false, isListOf isName⟩,
  ⟨"mixins", false, isListOf isName⟩,
  ⟨"typeParameters", false, isListOf isName⟩,
  ⟨"genericArguments", false, isBindings⟩,
  ⟨"methods", false, isListOf isMethod⟩,
  ⟨"properties", false, isListOf isText⟩]

/-- A fact. -/
def isFact : Check := isRecord factProperties

/-- The properties of a document. -/
def documentProperties : List Property := [
  ⟨"schema", false, isFormat⟩,
  ⟨"types", true, isListOf isFact⟩,
  ⟨"statistics", false, isCounts⟩]

/-- Everything that is wrong with a value as a document. -/
def check (v : Json) : List Complaint := isRecord documentProperties [] v

/-! ## Reading -/

/-- The facts a value lists under `types`. -/
def facts (v : Json) : List TypeFact :=
  (((v.get? "types").bind Json.array?).getD []).map TypeFact.ofJson

/-- Why a text gives no facts. -/
inductive Problem where
  | malformed
  | invalid (complaints : List Complaint)
  deriving DecidableEq, Repr

/-- The facts of a value, if it is a document. -/
def parse (v : Json) : Except Problem (List TypeFact) :=
  match check v with
  | [] => .ok (facts v)
  | complaints => .error (.invalid complaints)

/-- The facts of a text, if it is the text of a document. -/
def ofText (text : String) : Except Problem (List TypeFact) :=
  match Json.parse? text with
  | some v => parse v
  | none => .error .malformed

/-! ## Wording -/

/-- The word for a kind of value. -/
def Expected.word : Expected → String
  | .object => "object"
  | .array => "array"
  | .string => "string"
  | .boolean => "boolean"
  | .integer => "integer"
  | .null => "null"

/-- What is wrong, in words. -/
def Fault.message : Fault → String
  | .notA expected => "must be " ++ expected.word
  | .missing property => "must have required property '" ++ property ++ "'"
  | .undeclaredProperty => "must NOT have additional properties"
  | .empty => "must NOT have fewer than 1 characters"
  | .negative => "must be >= 0"
  | .otherFormat => "must be equal to constant"
  | .unqualifiedKey => "must match pattern \"^.+\\..+$\""
  | .invalidKey => "property name must be valid"
  | .noAlternative => "must match a schema in anyOf"

/-- One step of a pointer, with its own marks escaped. -/
def escapeStep (step : String) : String :=
  String.ofList (step.toList.flatMap fun c =>
    if c = '~' then ['~', '0'] else if c = '/' then ['~', '1'] else [c])

/-- A pointer as text; the root is a single stroke. -/
def pointerText (place : Pointer) : String :=
  match place with
  | [] => "/"
  | steps => String.join (steps.map fun step => "/" ++ escapeStep step)

/-- A complaint in words. -/
def Complaint.message (c : Complaint) : String :=
  pointerText c.place ++ " " ++ c.fault.message

/-- Why a text gives no facts, in words. -/
def Problem.message : Problem → String
  | .malformed => "Invalid JSON: malformed"
  | .invalid complaints =>
    "Schema validation failed: " ++ "; ".intercalate (complaints.map Complaint.message)

/-! ## Writing -/

/-- Entries in ascending order of their names, equal names as they stand. -/
def sortEntries (entries : List Json) : List Json :=
  Text.sortByUnits (·.textAt "name") entries

/-- A document of bare entries. -/
def ofEntries (entries : List Json) : Json :=
  .object [("schema", .string formatName), ("types", .array (sortEntries entries))]

/-- The blanks per level of a written file. -/
def defaultIndent : Int := 2

/-- The text of a document of bare entries. -/
def write (entries : List Json) (indent : Int) : String :=
  Json.stableText (ofEntries entries) indent

/-- The text of a document of facts. -/
def writeFacts (facts : List TypeFact) (indent : Int) : String :=
  write (facts.map TypeFact.toJson) indent

end TypeLineage.Document
