/-! # Decimal digits

    `decimalDigits` writes a natural number in base ten without leading zeros
    and `ofDigits` reads any run of digits back. -/

namespace TypeLineage.Number

/-- The digit `d`, for `d` below ten. -/
def digitChar (d : Nat) : Char :=
  Char.ofNat ('0'.toNat + d)

/-- The value of a digit in a base up to sixteen, letters in either case. -/
def digitValue? (c : Char) : Option Nat :=
  if '0' ≤ c ∧ c ≤ '9' then some (c.toNat - '0'.toNat)
  else if 'a' ≤ c ∧ c ≤ 'f' then some (c.toNat - 'a'.toNat + 10)
  else if 'A' ≤ c ∧ c ≤ 'F' then some (c.toNat - 'A'.toNat + 10)
  else none

/-- A decimal digit. -/
def isDigit (c : Char) : Bool :=
  decide ('0' ≤ c ∧ c ≤ '9')

/-- A digit of the given base. -/
def isDigitIn (base : Nat) (c : Char) : Bool :=
  match digitValue? c with
  | some d => d < base
  | none => false

/-- The digits of `n` in base ten, most significant first. -/
def decimalDigits (n : Nat) : List Char :=
  if n < 10 then [digitChar n]
  else decimalDigits (n / 10) ++ [digitChar (n % 10)]
termination_by n
decreasing_by omega

/-- The number that a run of digits spells in the given base. -/
def ofDigits (base : Nat) (digits : List Char) : Nat :=
  digits.foldl (fun acc c => acc * base + (digitValue? c).getD 0) 0

/-- A natural number in base ten. -/
def decimalText (n : Nat) : String :=
  String.ofList (decimalDigits n)

end TypeLineage.Number
