import TypeLineage.Number.Digits
import TypeLineage.Text.CodeUnits

/-! # Quoted texts

    A text between quotes, as it is written in a program.  The quote itself,
    the backslash and what cannot be seen are escaped; characters outside ASCII
    are escaped where that is asked for. -/

namespace TypeLineage.Text

/-- The escapes that have a letter of their own. -/
def letterEscapes : List (Nat × Char) :=
  [(8, 'b'), (9, 't'), (10, 'n'), (11, 'v'), (12, 'f'), (13, 'r')]

/-- A code unit as an escape. -/
def escapedUnit (unit : Nat) : List Char :=
  let digits := (Nat.toDigits 16 unit).map Char.toUpper
  '\\' :: 'u' :: (List.replicate (4 - digits.length) '0' ++ digits)

/-- What is escaped in a quoted text. -/
structure Quoting where
  quote : Char
  /-- Characters outside ASCII are escaped. -/
  isAscii : Bool
  /-- The ends of lines stay as they are. -/
  keepsLines : Bool
  deriving DecidableEq, Repr, Inhabited

/-- A text within double quotes. -/
def Quoting.plain : Quoting := ⟨'"', false, false⟩

/-- A part of a template. -/
def Quoting.template : Quoting := ⟨'`', true, true⟩

/-- A character and what follows it, escaped. -/
def Quoting.escapeChar (q : Quoting) (c : Char) (next : Option Char) : List Char :=
  let n := c.toNat
  if c = q.quote || c = '\\' then ['\\', c]
  else if c = '$' && q.quote = '`' && next = some '\x7b' then ['\\', c]
  else if c = '\n' && q.keepsLines then [c]
  else if n = 0 then
    if next.any Char.isDigit then ['\\', 'x', '0', '0'] else ['\\', '0']
  else match letterEscapes.lookup n with
    | some letter => ['\\', letter]
    | none =>
      if n < 32 || n = 0x2028 || n = 0x2029 || n = 0x85 then escapedUnit n
      else if q.isAscii && n ≥ 128 then (unitsOf c).flatMap escapedUnit
      else [c]

/-- The characters, escaped. -/
def Quoting.escape (q : Quoting) : List Char → List Char
  | [] => []
  | c :: rest => q.escapeChar c rest.head? ++ q.escape rest

/-- A text, escaped. -/
def Quoting.escapeText (q : Quoting) (s : String) : String := String.ofList (q.escape s.toList)

/-- A text between quotes. -/
def Quoting.quoted (q : Quoting) (s : String) : String :=
  String.ofList (q.quote :: (q.escape s.toList ++ [q.quote]))

end TypeLineage.Text
