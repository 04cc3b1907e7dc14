/-! # Texts as sequences of 16-bit code units

    Names, keys and paths are compared by their UTF-16 code units, so a
    character outside the basic plane sorts by its surrogates: before the
    private use area, after everything below it.  `codeUnits` is the order
    key, `precedes` the strict order it gives, and `sortByUnits` the stable
    sort every listing uses. -/

namespace TypeLineage.Text

/-- The one or two code units that encode a character. -/
def unitsOf (c : Char) : List Nat :=
  if c.toNat < 0x10000 then [c.toNat]
  else
    let offset := c.toNat - 0x10000
    [0xD800 + offset / 0x400, 0xDC00 + offset % 0x400]

/-- The code units of a text, in order. -/
def codeUnits (s : String) : List Nat :=
  s.toList.flatMap unitsOf

/-- `a` comes strictly before `b` in the order of code units. -/
def precedes (a b : String) : Bool :=
  decide (codeUnits a < codeUnits b)

/-- `a` does not come after `b`. -/
def notAfter (a b : String) : Bool :=
  !precedes b a

/-- The three-way comparison that `precedes` decides. -/
def compareUnits (a b : String) : Ordering :=
  if precedes a b then .lt else if precedes b a then .gt else .eq

/-- Stable sort of any items by the code units of a text they carry. -/
def sortByUnits {α : Type} (key : α → String) (items : List α) : List α :=
  items.mergeSort (fun a b => notAfter (key a) (key b))

/-- Texts in ascending order of code units. -/
def sorted (texts : List String) : List String :=
  sortByUnits id texts

end TypeLineage.Text
