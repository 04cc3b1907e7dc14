import TypeLineage.Number.Binary64
import TypeLineage.Number.Digits

/-! # The shortest text of a number

    A finite number is written with the fewest digits that read back as it
    and, of those, with the nearest; a tie goes to the even last digit.  The
    digits are found in exact arithmetic: for one digit after another the two
    neighbours of the number on the decimal grid are tested against the
    interval of reals that round to the number.  `NumberFormat` holds the
    layout. -/

namespace TypeLineage.Number

/-- The reals that round to a number, in units of `unitNum / unitDen`. -/
structure Interval where
  low : Nat
  middle : Nat
  high : Nat
  closed : Bool
  unitNum : Nat
  unitDen : Nat

namespace Interval

/-- The interval of a positive finite number. -/
def around (significand : Nat) (exponent : Int) : Interval :=
  let quarter := exponent - 2
  let narrow := significand = Nat.pow 2 52 ∧ exponent > Binary64.leastExponent
  { low := if narrow then 4 * significand - 1 else 4 * significand - 2
    middle := 4 * significand
    high := 4 * significand + 2
    closed := significand % 2 == 0
    unitNum := if 0 ≤ quarter then Nat.pow 2 quarter.toNat else 1
    unitDen := if 0 ≤ quarter then 1 else Nat.pow 2 (-quarter).toNat }

/-- The same reals divided by `10 ^ power`. -/
def shift (i : Interval) (power : Int) : Interval :=
  if 0 ≤ power then { i with unitDen := i.unitDen * Nat.pow 10 power.toNat }
  else { i with unitNum := i.unitNum * Nat.pow 10 (-power).toNat }

/-- Holds the natural number `d`. -/
def contains (i : Interval) (d : Nat) : Bool :=
  let below := i.low * i.unitNum
  let point := d * i.unitDen
  let above := i.high * i.unitNum
  if i.closed then below ≤ point && point ≤ above else below < point && point < above

/-- The natural number of the interval that is nearest to its middle, looked
    for among the two neighbours of the middle. -/
def nearest? (i : Interval) : Option Nat :=
  let value := i.middle * i.unitNum
  let down := value / i.unitDen
  let up := down + 1
  match i.contains down, i.contains up with
  | true, true =>
    let toDown := value - down * i.unitDen
    let toUp := up * i.unitDen - value
    if toDown < toUp then some down
    else if toUp < toDown then some up
    else if down % 2 == 0 then some down else some up
  | true, false => some down
  | false, true => some up
  | false, false => none

end Interval

/-- How many places the number's first digit stands before the point: the `n`
    with `10 ^ (n - 1) ≤ value < 10 ^ n`. -/
def leadingPlace (i : Interval) : Int :=
  let whole := i.middle * i.unitNum / i.unitDen
  if 0 < whole then (decimalDigits whole).length
  else
    let zeros := (List.range 330).takeWhile
      (fun j => i.middle * i.unitNum * Nat.pow 10 (j + 1) / i.unitDen = 0)
    Int.negOfNat zeros.length

/-- Digits and the place of the point before which the first of them stands. -/
structure Shortest where
  digits : List Char
  place : Int

/-- Drops zeros at the end of the digits. -/
def withoutTrailingZeros (digits : List Char) : List Char :=
  (digits.reverse.dropWhile (· == '0')).reverse

/-- The shortest digits of a positive finite number.  Seventeen always read
    back, so the search ends with an answer. -/
def shortest (significand : Nat) (exponent : Int) : Shortest :=
  let i := Interval.around significand exponent
  let place := leadingPlace i
  let candidate := (List.range 17).findSome? fun (count : Nat) =>
    let power := place - (count : Int) - 1
    ((i.shift power).nearest?).map fun d => (decimalDigits d, power)
  match candidate with
  | some (digits, power) => ⟨withoutTrailingZeros digits, digits.length + power⟩
  | none => ⟨['0'], 1⟩

/-- Where digits turn into the scientific form, and how the special values are
    spelled. -/
structure NumberFormat where
  /-- Numbers at least this many places above one are scientific. -/
  widest : Int
  /-- Numbers with more than this many zeros after the point are scientific. -/
  mostZeros : Int
  negativeZero : String
  infinity : String
  notANumber : String

/-- Positional from 10^-6 to below 10^21; a negative zero has no sign. -/
def NumberFormat.plain : NumberFormat :=
  ⟨21, 5, "0", "Infinity", "NaN"⟩

/-- As `plain`, with the sign of a negative zero. -/
def NumberFormat.signed : NumberFormat :=
  { NumberFormat.plain with negativeZero := "-0" }

/-- Digits laid out around the point. -/
def Shortest.layout (f : NumberFormat) (s : Shortest) : List Char :=
  let count : Int := s.digits.length
  if count ≤ s.place ∧ s.place ≤ f.widest then
    s.digits ++ List.replicate (s.place - count).toNat '0'
  else if 0 < s.place ∧ s.place ≤ f.widest then
    s.digits.take s.place.toNat ++ '.' :: s.digits.drop s.place.toNat
  else if -f.mostZeros ≤ s.place ∧ s.place ≤ 0 then
    '0' :: '.' :: List.replicate (-s.place).toNat '0' ++ s.digits
  else
    let power := s.place - 1
    let mark := if power < 0 then ['e', '-'] else ['e', '+']
    let fraction := match s.digits.drop 1 with
      | [] => []
      | rest => '.' :: rest
    s.digits.take 1 ++ fraction ++ mark ++ decimalDigits power.natAbs

/-- The text of a number in the given format. -/
def Binary64.text (f : NumberFormat) : Binary64 → String
  | .finite negative 0 _ => if negative then f.negativeZero else "0"
  | .finite negative m e =>
    let digits := String.ofList ((shortest m e).layout f)
    if negative then "-" ++ digits else digits
  | .infinite negative => if negative then "-" ++ f.infinity else f.infinity
  | .notANumber => f.notANumber

end TypeLineage.Number
