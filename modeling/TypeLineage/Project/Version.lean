import TypeLineage.Files.Path

/-! # Versions and their ranges

    A manifest may tell which of its files are for which versions of the
    compiler.  A range is a choice of lists of comparisons; a version that is
    written in part stands for all that begin like it. -/

namespace TypeLineage.Project

/-- A version: three numbers, and whether it comes before the final one of these numbers. -/
structure Version where
  major : Nat
  minor : Nat
  patch : Nat
  isEarly : Bool
  deriving DecidableEq, Repr, Inhabited

namespace Version

/-- The version of the compiler whose rules are kept here. -/
def current : Version := ⟨5, 9, 3, false⟩

/-- The order of versions: by their numbers, and the final one last. -/
def isBefore (a b : Version) : Bool :=
  if a.major ≠ b.major then a.major < b.major
  else if a.minor ≠ b.minor then a.minor < b.minor
  else if a.patch ≠ b.patch then a.patch < b.patch
  else a.isEarly && !b.isEarly

/-- The first one of its numbers, be it before the final one. -/
def early (v : Version) : Version := { v with isEarly := true }

/-- The next major version. -/
def nextMajor (v : Version) : Version := ⟨v.major + 1, 0, 0, false⟩

/-- The next minor version. -/
def nextMinor (v : Version) : Version := ⟨v.major, v.minor + 1, 0, false⟩

/-- The next patch. -/
def nextPatch (v : Version) : Version := ⟨v.major, v.minor, v.patch + 1, false⟩

theorem isBefore_irrefl (v : Version) : v.isBefore v = false := by
  cases v with
  | mk a b c e => cases e <;> simp [isBefore]

end Version

/-- A bound on versions. -/
inductive VersionBound where
  | below (v : Version)
  | upTo (v : Version)
  | above (v : Version)
  | from' (v : Version)
  | exactly (v : Version)
  deriving DecidableEq, Repr

/-- The version keeps to the bound. -/
def VersionBound.holds (v : Version) : VersionBound → Bool
  | .below u => v.isBefore u
  | .upTo u => !u.isBefore v
  | .above u => u.isBefore v
  | .from' u => !v.isBefore u
  | .exactly u => !v.isBefore u && !u.isBefore v

/-! ## Reading ranges -/

/-- A version of which the last numbers may be left open. -/
structure PartialVersion where
  version : Version
  opensMajor : Bool
  opensMinor : Bool
  opensPatch : Bool

/-- A number of a version; none where it is left open. -/
def versionNumber? (cs : List Char) : Option (Option Nat) :=
  if cs = ['*'] || cs = ['x'] || cs = ['X'] then some none
  else if cs.isEmpty || !cs.all Char.isDigit || (cs.head? = some '0' && cs.length > 1) then none
  else some (some (cs.foldl (fun n c => 10 * n + (c.toNat - '0'.toNat)) 0))

/-- The characters of what follows the numbers of a version. -/
def isVersionLetter (c : Char) : Bool := c.isAlphanum || c = '-' || c = '.'

/-- The last number of a version with what follows it: the number, and whether the version comes
    before the final one. -/
def lastNumber? (cs : List Char) : Option (Option Nat × Bool) := do
  let (front, build) := (cs.takeWhile (· ≠ '+'), cs.dropWhile (· ≠ '+'))
  let (number, mark) := (front.takeWhile (· ≠ '-'), front.dropWhile (· ≠ '-'))
  let isKept (part : List Char) : Bool :=
    part.isEmpty || (part.length > 1 && (part.drop 1).all isVersionLetter)
  let n ← versionNumber? number
  if isKept build && isKept mark then some (n, !mark.isEmpty) else none

/-- Splits a list at a separator. -/
def splitAtEach (isSeparator : Char → Bool) : List Char → List (List Char)
  | [] => [[]]
  | c :: cs =>
    let rest := splitAtEach isSeparator cs
    if isSeparator c then [] :: rest
    else match rest with
      | [] => [[c]]
      | part :: parts => (c :: part) :: parts

/-- A version as it is written, maybe in part. -/
def partialVersion? (cs : List Char) : Option PartialVersion := do
  let numbers := cs.takeWhile fun c => c ≠ '-' && c ≠ '+'
  let dots := (splitAtEach (· = '.') numbers).length
  let parts := splitAtEach (· = '.') numbers
  let major ← versionNumber? (parts.headD [])
  let minor ← if dots < 2 then some none else versionNumber? ((parts[1]?).getD [])
  let (patch, isEarly) ← if dots < 3 then some (none, false)
    else lastNumber? (((parts[2]?).getD []) ++ cs.drop numbers.length)
  if dots > 3 || (dots < 3 && numbers.length < cs.length) then none
  else
    let a := major.getD 0
    let b := if major.isNone then 0 else minor.getD 0
    let c := if major.isNone || minor.isNone then 0 else patch.getD 0
    some ⟨⟨a, b, c, isEarly⟩, major.isNone, minor.isNone, patch.isNone⟩

/-- The bounds that a sign before a version stands for. -/
def boundsOf (sign : String) (p : PartialVersion) : List VersionBound :=
  let v := p.version
  if p.opensMajor then
    if sign = "<" || sign = ">" then [.below ⟨0, 0, 0, false⟩] else []
  else
    let next := if p.opensMinor then v.nextMajor else v.nextMinor
    match sign with
    | "~" => [.from' v, .below next]
    | "^" =>
      [.from' v, .below (if 0 < v.major || p.opensMinor then v.nextMajor
        else if 0 < v.minor || p.opensPatch then v.nextMinor else v.nextPatch)]
    | "<" => [.below (if p.opensMinor || p.opensPatch then v.early else v)]
    | ">=" => [.from' (if p.opensMinor || p.opensPatch then v.early else v)]
    | "<=" => if p.opensMinor || p.opensPatch then [.below next.early] else [.upTo v]
    | ">" => if p.opensMinor || p.opensPatch then [.from' next.early] else [.above v]
    | _ =>
      if p.opensMinor || p.opensPatch then [.from' v.early, .below next.early] else [.exactly v]

/-- The bounds of a single comparison. -/
def comparison? (cs : List Char) : Option (List VersionBound) :=
  let signs := ["<=", ">=", "~", "^", "<", ">", "="]
  let sign := (signs.find? fun s => s.toList.isPrefixOf cs).getD ""
  (partialVersion? (cs.drop sign.length)).map (boundsOf sign)

/-- The bounds of a list of comparisons. -/
def comparisons? (words : List (List Char)) : Option (List VersionBound) :=
  match words with
  | [low, ['-'], high] => do
    let a ← partialVersion? low
    let b ← partialVersion? high
    let upper := if b.opensMajor then []
      else if b.opensMinor then [VersionBound.below b.version.nextMajor]
      else if b.opensPatch then [.below b.version.nextMinor]
      else [.upTo b.version]
    return (if a.opensMajor then [] else [.from' a.version]) ++ upper
  | _ => (words.mapM comparison?).map List.flatten

/-- The choices of a range; a doubled bar stands between them. -/
def rangeChoices : List (List Char) → List (List Char)
  | part :: [] :: rest => part :: rangeChoices rest
  | part :: next :: rest => match rangeChoices (next :: rest) with
    | first :: others => (part ++ '|' :: first) :: others
    | [] => [part]
  | parts => parts

/-- The version lies in a range as it is written; nothing if it cannot be read. -/
def inRange? (v : Version) (range : String) : Option Bool := do
  let parts := (rangeChoices (splitAtEach (· = '|') range.trimAscii.toString.toList)).filter (· ≠ [])
  let choices ← parts.mapM fun part => do
    let words := (splitAtEach Char.isWhitespace part).filter (· ≠ [])
    comparisons? (if words.isEmpty then [[]] else words)
  return choices.isEmpty || choices.any (·.all (VersionBound.holds v))

end TypeLineage.Project
