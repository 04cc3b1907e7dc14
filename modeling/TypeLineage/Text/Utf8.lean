/-! # Reading bytes as UTF-8

    Ill-formed input is never refused.  Each maximal prefix of an encoded
    character that cannot be continued becomes one replacement character, and
    a byte that starts nothing becomes one by itself. -/

namespace TypeLineage.Text

/-- The replacement character, U+FFFD. -/
def replacement : Char := Char.ofNat 0xFFFD

/-- What a leading byte announces: how many bytes follow it, the range allowed
    for the first of them, and the bits it contributes itself. -/
structure Lead where
  following : Nat
  lowest : Nat
  highest : Nat
  bits : Nat

/-- The announcement of a leading byte above 0x7F, if it is one. -/
def Lead.ofByte? (b : Nat) : Option Lead :=
  if 0xC2 ≤ b ∧ b ≤ 0xDF then some ⟨1, 0x80, 0xBF, b - 0xC0⟩
  else if b = 0xE0 then some ⟨2, 0xA0, 0xBF, 0⟩
  else if b = 0xED then some ⟨2, 0x80, 0x9F, 0xD⟩
  else if 0xE1 ≤ b ∧ b ≤ 0xEF then some ⟨2, 0x80, 0xBF, b - 0xE0⟩
  else if b = 0xF0 then some ⟨3, 0x90, 0xBF, 0⟩
  else if 0xF1 ≤ b ∧ b ≤ 0xF3 then some ⟨3, 0x80, 0xBF, b - 0xF0⟩
  else if b = 0xF4 then some ⟨3, 0x80, 0x8F, 4⟩
  else none

/-- A character that has begun: the bytes it still owes, the range of the next
    one, and the bits read so far. -/
structure Pending where
  owed : Nat
  lowest : Nat
  highest : Nat
  bits : Nat

/-- Reads one byte where no character has begun. -/
def startByte (b : Nat) : List Char × Option Pending :=
  if b < 0x80 then ([Char.ofNat b], none)
  else match Lead.ofByte? b with
    | some lead => ([], some ⟨lead.following, lead.lowest, lead.highest, lead.bits⟩)
    | none => ([replacement], none)

/-- Reads the bytes, given the character that has begun, if any. -/
def decodeFrom : Option Pending → List UInt8 → List Char
  | none, [] => []
  | some _, [] => [replacement]
  | none, b :: rest =>
    let (written, pending) := startByte b.toNat
    written ++ decodeFrom pending rest
  | some p, b :: rest =>
    if p.lowest ≤ b.toNat ∧ b.toNat ≤ p.highest then
      let bits := p.bits * 0x40 + (b.toNat - 0x80)
      if p.owed ≤ 1 then Char.ofNat bits :: decodeFrom none rest
      else decodeFrom (some ⟨p.owed - 1, 0x80, 0xBF, bits⟩) rest
    else
      let (written, pending) := startByte b.toNat
      replacement :: written ++ decodeFrom pending rest

/-- The text that the bytes spell. -/
def decodeUtf8 (bytes : List UInt8) : String :=
  String.ofList (decodeFrom none bytes)

end TypeLineage.Text
