import TypeLineage.Number.Shortest

/-! # JSON values

    An object is a list of members in a fixed order: the keys that are array
    indices come first, ascending, and the others follow as they were written.
    A key given twice keeps its first place and takes the last value.
    `orderMembers` brings written members into that order, and every object a
    text is read into has it. -/

namespace TypeLineage

/-- A number: an integer, or any other number of 64-bit floating point. -/
inductive JsonNumber where
  | int (n : Int)
  | real (x : Number.Binary64)
  deriving DecidableEq, Repr, Inhabited

/-- A JSON value. -/
inductive Json where
  | null
  | bool (b : Bool)
  | number (n : JsonNumber)
  | string (s : String)
  | array (items : List Json)
  | object (members : List (String × Json))
  deriving Repr, Inhabited

namespace JsonNumber

/-- The integers up to this magnitude are exact in 64-bit floating point. -/
def safeLimit : Nat := 9007199254740992

/-- A floating-point number, as an integer where it is a safe one. -/
def ofBinary64 (x : Number.Binary64) : JsonNumber :=
  match x with
  | .finite negative m e =>
    let whole := Number.Binary64.wholePart m e
    if Number.Binary64.isWhole m e && decide (whole < safeLimit)
        && !(negative && whole == 0) then
      .int (if negative then -(whole : Int) else whole)
    else .real x
  | x => .real x

/-- The number a decimal spells: `digits * 10 ^ power`, or its opposite. -/
def ofDecimal (negative : Bool) (digits : Nat) (power : Int) : JsonNumber :=
  if power = 0 ∧ digits < safeLimit ∧ ¬(negative ∧ digits = 0) then
    .int (if negative then -(digits : Int) else digits)
  else ofBinary64 (Number.Binary64.ofDecimal negative digits power)

/-- The number as 64-bit floating point. -/
def toBinary64 : JsonNumber → Number.Binary64
  | .int n => Number.Binary64.ofInt n
  | .real x => x

/-- The sum of two numbers. -/
def add (a b : JsonNumber) : JsonNumber := ofBinary64 (a.toBinary64.add b.toBinary64)

/-- The characters of an integer. -/
def intDigits (n : Int) : List Char :=
  if n < 0 then '-' :: Number.decimalDigits n.natAbs else Number.decimalDigits n.natAbs

/-- The text of a number, in the given format. -/
def text (f : Number.NumberFormat) : JsonNumber → String
  | .int n => String.ofList (intDigits n)
  | .real x => x.text f

/-- Without a fraction.  An infinity counts as whole. -/
def isWhole : JsonNumber → Bool
  | .int _ => true
  | .real (.finite _ m e) => Number.Binary64.isWhole m e
  | .real (.infinite _) => true
  | .real .notANumber => false

/-- Below zero. -/
def isNegative : JsonNumber → Bool
  | .int n => decide (n < 0)
  | .real x => x.isNegative

end JsonNumber

namespace Json

/-- The array index a key spells: a decimal without leading zeros, below
    2^32 - 1. -/
def arrayIndex? (key : String) : Option Nat :=
  let cs := key.toList
  if cs.length ≤ 10 && cs.all Number.isDigit then
    let n := Number.ofDigits 10 cs
    if Number.decimalDigits n = cs ∧ n < 4294967295 then some n else none
  else none

/-- The members with `value` under `key`: in the key's place, or at the end. -/
def assign {α : Type} (members : List (String × α)) (key : String) (value : α) :
    List (String × α) :=
  match members with
  | [] => [(key, value)]
  | (k, v) :: rest =>
    if k = key then (k, value) :: rest else (k, v) :: assign rest key value

/-- A key given twice keeps its first place and takes the last value. -/
def mergeKeys {α : Type} (written : List (String × α)) : List (String × α) :=
  written.foldl (fun members m => assign members m.1 m.2) []

/-- Array indices first, ascending; the other keys as they stand. -/
def indicesFirst {α : Type} (members : List (String × α)) : List (String × α) :=
  let indexed := members.filterMap fun m => (arrayIndex? m.1).map fun i => (i, m)
  let named := members.filter fun m => (arrayIndex? m.1).isNone
  (indexed.mergeSort (fun a b => a.1 ≤ b.1)).map (·.2) ++ named

/-- Written members in the order an object keeps. -/
def orderMembers {α : Type} (written : List (String × α)) : List (String × α) :=
  indicesFirst (mergeKeys written)

/-- The member of an object under a key. -/
def get? (v : Json) (key : String) : Option Json :=
  match v with
  | .object members => members.lookup key
  | _ => none

/-- The characters of a text value. -/
def string? : Json → Option String
  | .string s => some s
  | _ => none

/-- The truth of a truth value. -/
def bool? : Json → Option Bool
  | .bool b => some b
  | _ => none

/-- The items of an array. -/
def array? : Json → Option (List Json)
  | .array items => some items
  | _ => none

/-- The members of an object. -/
def object? : Json → Option (List (String × Json))
  | .object members => some members
  | _ => none

/-- The integer of an integral number. -/
def int? : Json → Option Int
  | .number (.int n) => some n
  | _ => none

/-- An integer. -/
def ofInt (n : Int) : Json := .number (.int n)

/-- A count. -/
def ofNat (n : Nat) : Json := .number (.int n)

/-- A list of texts. -/
def ofStrings (texts : List String) : Json := .array (texts.map .string)

/-- A value, or null. -/
def ofOption {α : Type} (f : α → Json) : Option α → Json
  | some a => f a
  | none => .null

end Json

end TypeLineage
