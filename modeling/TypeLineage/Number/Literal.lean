import TypeLineage.Number.Binary64
import TypeLineage.Number.Digits

/-! # Numbers as they are typed

    A typed number is a decimal with an optional sign, point and power of ten,
    an unsigned number in base two, eight or sixteen behind its prefix, or the
    word for infinity.  Anything else is not a number. -/

namespace TypeLineage.Number

/-- A decimal without a sign, cut into the digits before the point, those
    after it, and the power of ten. -/
structure Decimal where
  whole : List Char
  fraction : List Char
  power : Int
  deriving DecidableEq, Repr

namespace Decimal

/-- The power of ten after its mark: a sign and at least one digit. -/
def readPower? (cs : List Char) : Option Int :=
  let (negative, digits) := match cs with
    | '-' :: rest => (true, rest)
    | '+' :: rest => (false, rest)
    | _ => (false, cs)
  if digits.isEmpty || !digits.all isDigit then none
  else
    let n : Int := ofDigits 10 digits
    some (if negative then -n else n)

/-- Reads a decimal that takes up all the characters. -/
def read? (cs : List Char) : Option Decimal :=
  let whole := cs.takeWhile isDigit
  let rest := cs.dropWhile isDigit
  let (fraction, rest) := match rest with
    | '.' :: more => (more.takeWhile isDigit, more.dropWhile isDigit)
    | _ => ([], rest)
  if whole.isEmpty && fraction.isEmpty then none
  else match rest with
    | [] => some ⟨whole, fraction, 0⟩
    | c :: more =>
      if c = 'e' ∨ c = 'E' then (readPower? more).map (⟨whole, fraction, ·⟩) else none

/-- The number nearest to a decimal. -/
def toBinary64 (negative : Bool) (d : Decimal) : Binary64 :=
  .ofDecimal negative (ofDigits 10 (d.whole ++ d.fraction)) (d.power - d.fraction.length)

end Decimal

/-- The base that a prefix announces. -/
def baseOfPrefix? : Char → Option Nat
  | 'x' => some 16
  | 'X' => some 16
  | 'o' => some 8
  | 'O' => some 8
  | 'b' => some 2
  | 'B' => some 2
  | _ => none

/-- A number behind the prefix of its base. -/
def readPrefixed? (cs : List Char) : Option Binary64 :=
  match cs with
  | '0' :: mark :: digits =>
    match baseOfPrefix? mark with
    | some base =>
      if digits.isEmpty || !digits.all (isDigitIn base) then none
      else some (.ofRatio false (ofDigits base digits) 1)
    | none => none
  | _ => none

/-- A decimal or the word for infinity, behind an optional sign. -/
def readSigned? (cs : List Char) : Option Binary64 :=
  let (negative, rest) := match cs with
    | '-' :: rest => (true, rest)
    | '+' :: rest => (false, rest)
    | _ => (false, cs)
  if rest = "Infinity".toList then some (.infinite negative)
  else (Decimal.read? rest).map (·.toBinary64 negative)

/-- The number that trimmed characters spell; none at all spell zero. -/
def ofTyped (cs : List Char) : Binary64 :=
  if cs.isEmpty then .zero false
  else ((readPrefixed? cs).orElse fun _ => readSigned? cs).getD .notANumber

end TypeLineage.Number
