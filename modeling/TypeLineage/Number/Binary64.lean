/-! # Numbers of 64-bit binary floating point, exactly

    A finite number is a sign, a significand below 2^53 and a power of two, so
    every operation here is arithmetic on naturals.  `ofRatio` rounds a
    quotient to the nearest number, a tie to the even significand; `ofDecimal`
    rounds a decimal. -/

namespace TypeLineage.Number

/-- A number of 64-bit binary floating point.  Zero keeps its sign. -/
inductive Binary64 where
  | finite (negative : Bool) (significand : Nat) (exponent : Int)
  | infinite (negative : Bool)
  | notANumber
  deriving DecidableEq, Repr, Inhabited

namespace Binary64

/-- The exponent of the subnormal numbers. -/
def leastExponent : Int := -1074

/-- The exponent of the largest finite numbers. -/
def greatestExponent : Int := 971

/-- A zero of either sign. -/
def zero (negative : Bool) : Binary64 := .finite negative 0 leastExponent

/-- A quotient times a power of two, as a quotient. -/
def scaled (num den : Nat) (exponent : Int) : Nat × Nat :=
  if 0 ≤ exponent then (num, den * Nat.pow 2 exponent.toNat)
  else (num * Nat.pow 2 (-exponent).toNat, den)

/-- The quotient rounded to a natural number, a half to the even neighbour. -/
def roundEven (num den : Nat) : Nat :=
  let q := num / den
  let r := num % den
  if 2 * r > den || (2 * r == den && q % 2 == 1) then q + 1 else q

/-- The number nearest to `num / den`, for positive `den`. -/
def ofRatio (negative : Bool) (num den : Nat) : Binary64 :=
  if num = 0 then zero negative
  else
    let guess : Int := (Nat.log2 num : Int) - (Nat.log2 den : Int) - 52
    let (n₀, d₀) := scaled num den guess
    let exact := if n₀ / d₀ < Nat.pow 2 52 then guess - 1 else guess
    let exponent := max exact leastExponent
    let (n, d) := scaled num den exponent
    let q := roundEven n d
    let (q, exponent) := if q = Nat.pow 2 53 then (Nat.pow 2 52, exponent + 1) else (q, exponent)
    if exponent > greatestExponent then .infinite negative
    else .finite negative q exponent

/-- The number nearest to `digits * 10 ^ power`.  Powers that leave the range
    whatever the rounding are decided without computing them. -/
def ofDecimal (negative : Bool) (digits : Nat) (power : Int) : Binary64 :=
  if digits = 0 then zero negative
  else
    let size : Int := (Nat.log2 digits : Int) / 4 + power
    if size > 400 then .infinite negative
    else if power + (Nat.log2 digits : Int) < -400 then zero negative
    else if 0 ≤ power then ofRatio negative (digits * Nat.pow 10 power.toNat) 1
    else ofRatio negative digits (Nat.pow 10 (-power).toNat)

/-- A natural number or its opposite. -/
def ofInt (n : Int) : Binary64 := ofRatio (decide (n < 0)) n.natAbs 1

/-- The sum of two finite numbers, rounded once. -/
def addFinite (n₁ : Bool) (m₁ : Nat) (e₁ : Int) (n₂ : Bool) (m₂ : Nat) (e₂ : Int) : Binary64 :=
  let e := min e₁ e₂
  let term (negative : Bool) (m : Nat) (own : Int) : Int :=
    let whole : Int := m * Nat.pow 2 (own - e).toNat
    if negative then -whole else whole
  let sum := term n₁ m₁ e₁ + term n₂ m₂ e₂
  let (num, den) := scaled sum.natAbs 1 (-e)
  if sum = 0 then zero (n₁ && n₂) else ofRatio (decide (sum < 0)) num den

/-- The sum of two numbers. -/
def add : Binary64 → Binary64 → Binary64
  | .finite n₁ m₁ e₁, .finite n₂ m₂ e₂ => addFinite n₁ m₁ e₁ n₂ m₂ e₂
  | .infinite a, .infinite b => if a = b then .infinite a else .notANumber
  | .infinite a, .finite _ _ _ => .infinite a
  | .finite _ _ _, .infinite b => .infinite b
  | _, _ => .notANumber

/-- Below zero; a negative zero is not. -/
def isNegative : Binary64 → Bool
  | .finite negative m _ => negative && m != 0
  | .infinite negative => negative
  | .notANumber => false

/-- The magnitude without its fraction. -/
def wholePart (significand : Nat) (exponent : Int) : Nat :=
  if 0 ≤ exponent then significand * Nat.pow 2 exponent.toNat
  else significand / Nat.pow 2 (-exponent).toNat

/-- Without a fraction. -/
def isWhole (significand : Nat) (exponent : Int) : Bool :=
  decide (0 ≤ exponent) || significand % Nat.pow 2 (-exponent).toNat == 0

/-- The number without its fraction; the sign stays, also on a zero. -/
def truncate : Binary64 → Binary64
  | .finite negative m e =>
    if isWhole m e then .finite negative m e else ofRatio negative (wholePart m e) 1
  | x => x

end Binary64

end TypeLineage.Number

/-! ## Arithmetic on numbers

    Products, quotients and remainders are rounded once.  Operations on bits
    take a number as a whole one of 32 bits. -/

namespace TypeLineage.Number.Binary64

/-- The number with the other sign. -/
def negate : Binary64 → Binary64
  | .finite negative m e => .finite (!negative) m e
  | .infinite negative => .infinite (!negative)
  | .notANumber => .notANumber

/-- A difference. -/
def subtract (x y : Binary64) : Binary64 := x.add y.negate

/-- A product. -/
def multiply : Binary64 → Binary64 → Binary64
  | .finite a m e, .finite b n f =>
    let (num, den) := scaled (m * n) 1 (-(e + f))
    if m * n = 0 then zero (a != b) else ofRatio (a != b) num den
  | .infinite a, .infinite b => .infinite (a != b)
  | .infinite a, .finite b n _ => if n = 0 then .notANumber else .infinite (a != b)
  | .finite a m _, .infinite b => if m = 0 then .notANumber else .infinite (a != b)
  | _, _ => .notANumber

/-- A quotient. -/
def divide : Binary64 → Binary64 → Binary64
  | .finite a m e, .finite b n f =>
    if n = 0 then if m = 0 then .notANumber else .infinite (a != b)
    else if m = 0 then zero (a != b)
    else
      let (num, den) := scaled m n (f - e)
      ofRatio (a != b) num den
  | .infinite a, .finite b _ _ => .infinite (a != b)
  | .finite a _ _, .infinite b => zero (a != b)
  | _, _ => .notANumber

/-- What a division to whole numbers leaves, with the sign of what is divided. -/
def remainder : Binary64 → Binary64 → Binary64
  | .finite a m e, .finite _ n f =>
    if n = 0 then .notANumber
    else
      let g := min e f
      let rest := (m * Nat.pow 2 (e - g).toNat) % (n * Nat.pow 2 (f - g).toNat)
      let (num, den) := scaled rest 1 (-g)
      if rest = 0 then zero a else ofRatio a num den
  | .finite a m e, .infinite _ => .finite a m e
  | _, _ => .notANumber

/-- The whole number, if it has no fraction. -/
def whole? : Binary64 → Option Int
  | .finite negative m e =>
    if isWhole m e then
      let n : Int := wholePart m e
      some (if negative then -n else n)
    else none
  | _ => none

/-- A power with a whole exponent; other exponents give no number. -/
def power (x y : Binary64) : Binary64 :=
  match y.whole? with
  | some (.ofNat n) =>
    if n > 2048 then .notANumber else (List.replicate n x).foldl multiply (ofInt 1)
  | some (.negSucc n) =>
    if n > 2048 then .notANumber
    else (ofInt 1).divide ((List.replicate (n + 1) x).foldl multiply (ofInt 1))
  | none => .notANumber

/-- How many numbers 32 bits tell apart. -/
def bitRange : Nat := 4294967296

/-- The number as a whole one of 32 bits. -/
def bits (x : Binary64) : Nat :=
  match x.truncate.whole? with
  | some n => (n % bitRange).toNat
  | none => 0

/-- The number that 32 bits stand for, with a sign. -/
def ofBits (n : Nat) : Binary64 :=
  ofInt (if 2 * n < bitRange then n else (n : Int) - bitRange)

/-- An operation on bits, by its mark. -/
def onBits? (operator : String) (x y : Binary64) : Option Binary64 :=
  let a := x.bits
  let b := y.bits
  let count := b % 32
  match operator with
  | "|" => some (ofBits (a ||| b))
  | "&" => some (ofBits (a &&& b))
  | "^" => some (ofBits (a ^^^ b))
  | "<<" => some (ofBits (a * Nat.pow 2 count % bitRange))
  | ">>>" => some (ofInt (a / Nat.pow 2 count : Nat))
  | ">>" =>
    let n : Int := if 2 * a < bitRange then a else (a : Int) - bitRange
    some (ofInt (Int.fdiv n (Nat.pow 2 count : Nat)))
  | _ => none

end TypeLineage.Number.Binary64
