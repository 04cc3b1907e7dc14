import TypeLineage.Json.Basic
import TypeLineage.Number.Literal
import TypeLineage.Text.Letters

/-! # Values of options

    An option's value arrives as a text, as the mere presence of the option,
    or not at all, and programs may pass any other value.  The functions here
    read a truth, a whole number, a text or a list of texts out of it. -/

namespace TypeLineage.OptionValue

mutual

/-- A value as a text. -/
def plainText : Json → String
  | .null => "null"
  | .bool b => if b then "true" else "false"
  | .number n => n.text .plain
  | .string s => s
  | .array items => ",".intercalate (itemTexts items)
  | .object _ => "[object Object]"

/-- The texts of items; null stands for nothing. -/
def itemTexts : List Json → List String
  | [] => []
  | .null :: items => "" :: itemTexts items
  | item :: items => plainText item :: itemTexts items

end

/-- The ASCII letters of a text in lower case. -/
def lowered (s : String) : String := s.map Char.toLower

/-- The words for yes. -/
def affirmative : List String := ["1", "true", "yes", "y", "on"]

/-- The words for no. -/
def negative : List String := ["0", "false", "no", "n", "off"]

/-- A truth.  An option present without a value is true; a word for neither
    yes nor no leaves the default. -/
def truth (v : Option Json) (default' : Bool) : Bool :=
  match v with
  | none => default'
  | some .null => default'
  | some (.bool b) => b
  | some v =>
    let word := lowered (Text.trim (plainText v))
    if word = "" then true
    else if affirmative.contains word then true
    else if negative.contains word then false
    else default'

/-- A value as a number. -/
def toNumber : Json → Number.Binary64
  | .null => .zero false
  | .bool b => .ofInt (if b then 1 else 0)
  | .number n => n.toBinary64
  | .string s => Number.ofTyped (Text.trimmed s.toList)
  | v => Number.ofTyped (Text.trimmed (plainText v).toList)

/-- A finite number without its fraction; nothing where there is none. -/
def wholeNumber? (v : Option Json) : Option Number.Binary64 :=
  match v with
  | none => none
  | some .null => none
  | some (.string "") => none
  | some v =>
    match toNumber v with
    | .finite negative m e => some (Number.Binary64.finite negative m e).truncate
    | _ => none

/-- A trimmed text, nothing where it is empty. -/
def text? (v : Option Json) : Option String :=
  match v with
  | some (.string s) => (some (Text.trim s)).filter (· ≠ "")
  | _ => none

/-- The texts of a list; a single text that is not empty makes a list too. -/
def texts (v : Option Json) : List String :=
  match v with
  | some (.array items) => items.filterMap Json.string?
  | some (.string s) => if s = "" then [] else [s]
  | _ => []

/-- A cap on a number of files: only a positive number is one. -/
def cap? (n : Option Number.Binary64) : Option Nat :=
  match n with
  | some (.finite false m e) =>
    let whole := Number.Binary64.wholePart m e
    if 0 < whole then some whole else none
  | _ => none

end TypeLineage.OptionValue
