import TypeLineage.Json.Basic
import TypeLineage.Text.CodeUnits

/-! # Writing JSON text

    A value is written on one line, or with every item and member on a line of
    its own, indented by a number of blanks per level.  Empty arrays and
    objects stay on one line either way. -/

namespace TypeLineage.Json

/-- A hexadecimal digit in lower case. -/
def hexDigit (d : Nat) : Char :=
  if d < 10 then Char.ofNat ('0'.toNat + d) else Char.ofNat ('a'.toNat + d - 10)

/-- A character inside a string: quotes, backslashes and the control
    characters are escaped. -/
def escapeChar (c : Char) : List Char :=
  if c = '"' then ['\\', '"']
  else if c = '\\' then ['\\', '\\']
  else if c = '\x08' then ['\\', 'b']
  else if c = '\x0c' then ['\\', 'f']
  else if c = '\n' then ['\\', 'n']
  else if c = '\r' then ['\\', 'r']
  else if c = '\t' then ['\\', 't']
  else if c.toNat < 0x20 then
    ['\\', 'u', '0', '0', hexDigit (c.toNat / 16), hexDigit (c.toNat % 16)]
  else [c]

/-- A string in its quotes. -/
def quote (s : String) : List Char :=
  '"' :: s.toList.flatMap escapeChar ++ ['"']

/-- The line break before an item at a depth, or nothing when the value is
    written on one line. -/
def lineBreak (indent depth : Nat) : List Char :=
  if indent = 0 then [] else '\n' :: List.replicate (indent * depth) ' '

/-- The colon between a key and its value. -/
def colon (indent : Nat) : List Char :=
  if indent = 0 then [':'] else [':', ' ']

/-- The text of a number; what JSON cannot spell becomes null. -/
def numberText : JsonNumber → List Char
  | .int n => JsonNumber.intDigits n
  | .real (.infinite _) => ['n', 'u', 'l', 'l']
  | .real .notANumber => ['n', 'u', 'l', 'l']
  | .real x => (x.text .plain).toList

mutual

/-- A value at a depth of nesting. -/
def write (indent depth : Nat) : Json → List Char
  | .null => ['n', 'u', 'l', 'l']
  | .bool true => ['t', 'r', 'u', 'e']
  | .bool false => ['f', 'a', 'l', 's', 'e']
  | .number n => numberText n
  | .string s => quote s
  | .array [] => ['[', ']']
  | .array (item :: items) =>
    '[' :: lineBreak indent (depth + 1) ++ write indent (depth + 1) item
      ++ writeItems indent (depth + 1) items ++ lineBreak indent depth ++ [']']
  | .object [] => ['\x7b', '\x7d']
  | .object ((key, value) :: members) =>
    '\x7b' :: lineBreak indent (depth + 1) ++ quote key ++ colon indent
      ++ write indent (depth + 1) value
      ++ writeMembers indent (depth + 1) members ++ lineBreak indent depth ++ ['\x7d']

/-- The items after the first, each behind its comma. -/
def writeItems (indent depth : Nat) : List Json → List Char
  | [] => []
  | item :: items =>
    ',' :: lineBreak indent depth ++ write indent depth item ++ writeItems indent depth items

/-- The members after the first, each behind its comma. -/
def writeMembers (indent depth : Nat) : List (String × Json) → List Char
  | [] => []
  | (key, value) :: members =>
    ',' :: lineBreak indent depth ++ quote key ++ colon indent
      ++ write indent depth value ++ writeMembers indent depth members

end

/-- The text of a value, indented by that many blanks per level. -/
def text (indent : Nat) (v : Json) : String :=
  String.ofList (write indent 0 v)

/-! ## Canonical JSON text

    Two values that differ in the order of members only have one canonical
    form: members in ascending order of their keys' code units, array indices
    before all other keys, at every level.  A member named `__proto__` is not
    written.  `stableText` is the canonical form's text with a final line
    feed. -/

/-- The key that is never written. -/
def unwritableKey : String := "__proto__"

/-- Members in canonical order. -/
def canonicalOrder {α : Type} (members : List (String × α)) : List (String × α) :=
  orderMembers ((Text.sortByUnits (·.1) members).filter (·.1 ≠ unwritableKey))

mutual

/-- The canonical form of a value. -/
def canonical : Json → Json
  | .array items => .array (canonicalItems items)
  | .object members => .object (canonicalOrder (canonicalMembers members))
  | v => v

/-- The canonical forms of a list of values. -/
def canonicalItems : List Json → List Json
  | [] => []
  | item :: items => canonical item :: canonicalItems items

/-- Members with canonical values. -/
def canonicalMembers : List (String × Json) → List (String × Json)
  | [] => []
  | (key, value) :: members => (key, canonical value) :: canonicalMembers members

end

/-- The blanks per level that a requested indentation stands for: none below
    one, at most ten. -/
def indentOf (requested : Int) : Nat := min requested.toNat 10

/-- The canonical text of a value, ended by a line feed. -/
def stableText (v : Json) (requested : Int) : String :=
  (canonical v).text (indentOf requested) ++ "\n"

/-- The text that stands for no value at all. -/
def absentText : String := "undefined\n"

/-- The canonical text of a value that may be absent. -/
def stableTextOrAbsent (v : Option Json) (requested : Int) : String :=
  match v with
  | some v => stableText v requested
  | none => absentText

end TypeLineage.Json
