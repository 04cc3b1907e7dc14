import TypeLineage.Text.CodeUnits

/-! # Regular expressions

    An expression over code units, with anchors and look-ahead.  `Regex.ends`
    gives the places at which a match that begins at a place may end, so an
    expression takes a whole text when the end of the text is among the ends
    from its start.  `Regex.read?` reads the usual notation and refuses a text
    that is no expression. -/

namespace TypeLineage

/-- A regular expression over code units. -/
inductive Regex where
  | empty
  | unit (negated : Bool) (ranges : List (Nat × Nat))
  | start
  | stop
  | seq (first second : Regex)
  | alt (first second : Regex)
  | many (least : Nat) (most : Option Nat) (body : Regex)
  | ahead (wanted : Bool) (body : Regex)
  deriving Repr, Inhabited

namespace Regex

/-- The code units that end a line. -/
def lineEnds : List (Nat × Nat) := [(10, 10), (13, 13), (0x2028, 0x2029)]

/-- Any code unit that does not end a line. -/
def anyInLine : Regex := .unit true lineEnds

/-- Exactly this character. -/
def char (c : Char) : Regex :=
  match Text.unitsOf c with
  | [u, v] => .seq (.unit false [(u, u)]) (.unit false [(v, v)])
  | us => .unit false (us.map fun u => (u, u))

/-! ## Matching -/

/-- The places reached by so many steps. -/
def exactly (step : Nat → List Nat) : (count : Nat) → List Nat → List Nat
  | 0, places => places
  | count + 1, places => exactly step count (places.flatMap step).eraseDups

/-- The places reached by at most so many steps. -/
def atMost (step : Nat → List Nat) : (count : Nat) → (frontier seen : List Nat) → List Nat
  | 0, _, seen => seen
  | count + 1, frontier, seen =>
    let fresh := (frontier.flatMap step).eraseDups.filter (!seen.contains ·)
    if fresh.isEmpty then seen else atMost step count fresh (seen ++ fresh)

/-- The places at which a match that begins at a place may end. -/
def ends (text : Array Nat) : Regex → Nat → List Nat
  | .empty, i => [i]
  | .unit negated ranges, i =>
    match text[i]? with
    | some u => if (ranges.any fun r => r.1 ≤ u && u ≤ r.2) != negated then [i + 1] else []
    | none => []
  | .start, i => if i = 0 then [i] else []
  | .stop, i => if i = text.size then [i] else []
  | .seq first second, i => ((ends text first i).flatMap (ends text second)).eraseDups
  | .alt first second, i => (ends text first i ++ ends text second i).eraseDups
  | .many least most body, i =>
    let begun := exactly (ends text body) least [i]
    let rounds := match most with
      | some m => min (m - least) (text.size + 1)
      | none => text.size + 1
    atMost (ends text body) rounds begun begun
  | .ahead wanted body, i => if (ends text body i).isEmpty != wanted then [i] else []

/-- The expression takes the whole text. -/
def takes (r : Regex) (text : String) : Bool :=
  let units := (Text.codeUnits text).toArray
  (r.ends units 0).contains units.size

/-! ## Reading -/

/-- The code units that a class behind a backslash stands for. -/
def classOf? : Char → Option (Bool × List (Nat × Nat))
  | 'd' => some (false, [(48, 57)])
  | 'D' => some (true, [(48, 57)])
  | 'w' => some (false, [(48, 57), (65, 90), (95, 95), (97, 122)])
  | 'W' => some (true, [(48, 57), (65, 90), (95, 95), (97, 122)])
  | 's' => some (false, [(9, 13), (32, 32), (160, 160), (0x2028, 0x2029), (0xFEFF, 0xFEFF)])
  | _ => none

/-- The character that stands behind a backslash. -/
def escapedChar : Char → Char
  | 'n' => '\n'
  | 't' => '\t'
  | 'r' => '\r'
  | c => c

/-- The ranges of a set up to its closing bracket, and what follows it. -/
def readRanges? : (steps : Nat) → List Char → Option (List (Nat × Nat) × List Char)
  | 0, _ => none
  | _ + 1, [] => none
  | _ + 1, ']' :: rest => some ([], rest)
  | steps + 1, cs => do
    let (low, rest) ← item? cs
    match low, rest with
    | .inr ranges, _ => (readRanges? steps rest).map fun (rs, after) => (ranges ++ rs, after)
    | .inl a, '-' :: rest' =>
      match rest' with
      | ']' :: _ => (readRanges? steps rest).map fun (rs, after) => ((a, a) :: rs, after)
      | _ =>
        let (high, after) ← item? rest'
        match high with
        | .inl b =>
          if b < a then none
          else (readRanges? steps after).map fun (rs, after') => ((a, b) :: rs, after')
        | .inr ranges =>
          (readRanges? steps after).map fun (rs, after') =>
            ((a, a) :: ('-'.toNat, '-'.toNat) :: ranges ++ rs, after')
    | .inl a, _ => (readRanges? steps rest).map fun (rs, after) => ((a, a) :: rs, after)
where
  item? : List Char → Option ((Nat ⊕ List (Nat × Nat)) × List Char)
    | '\\' :: c :: rest =>
      match classOf? c with
      | some (false, ranges) => some (.inr ranges, rest)
      | _ => some (.inl (escapedChar c).toNat, rest)
    | '\\' :: [] => none
    | c :: rest =>
      match Text.unitsOf c with
      | [u] => some (.inl u, rest)
      | us => some (.inr (us.map fun u => (u, u)), rest)
    | [] => none

/-- The number that is written with some digits, if there are any. -/
def count? (digits : List Char) : Option Nat :=
  if digits.isEmpty then none else some (Nat.ofDigitChars 10 digits 0)

/-- The counts of a repetition in braces, without the opening brace, and what
    follows. -/
def readCounts? (cs : List Char) : Option (Nat × Option Nat × List Char) :=
  let digits := cs.takeWhile Char.isDigit
  match count? digits, cs.dropWhile Char.isDigit with
  | some n, '\x7d' :: rest => some (n, some n, rest)
  | some n, ',' :: '\x7d' :: rest => some (n, none, rest)
  | some n, ',' :: rest =>
    match count? (rest.takeWhile Char.isDigit), rest.dropWhile Char.isDigit with
    | some m, '\x7d' :: after => some (n, some m, after)
    | _, _ => none
  | _, _ => none

/-- What follows a mark that asks for as few rounds as possible; which rounds
    are tried first does not show in what is taken. -/
def dropLazy : List Char → List Char
  | '?' :: rest => rest
  | cs => cs

/-- The repetition that follows an expression, if there is one. -/
def readRepeat (body : Regex) : List Char → Regex × List Char
  | '*' :: rest => (.many 0 none body, dropLazy rest)
  | '+' :: rest => (.many 1 none body, dropLazy rest)
  | '?' :: rest => (.many 0 (some 1) body, dropLazy rest)
  | '\x7b' :: rest =>
    match readCounts? rest with
    | some (n, m, after) => (.many n m body, dropLazy after)
    | none => (body, '\x7b' :: rest)
  | cs => (body, cs)

/-- An expression in parentheses, once what is inside has been read. -/
def closed? (inside : Option (Regex × List Char)) (wrap : Regex → Regex) :
    Option (Regex × List Char) :=
  match inside with
  | some (body, ')' :: rest) => some (wrap body, rest)
  | _ => none

mutual
/-- Alternatives up to a closing parenthesis or the end. -/
def readAlternatives? : (steps : Nat) → List Char → Option (Regex × List Char)
  | 0, _ => none
  | steps + 1, cs => do
    let (first, rest) ← readSequence? steps .empty cs
    match rest with
    | '|' :: rest' =>
      let (second, after) ← readAlternatives? steps rest'
      pure (.alt first second, after)
    | _ => pure (first, rest)

/-- Expressions one behind the other. -/
def readSequence? : (steps : Nat) → (front : Regex) → List Char → Option (Regex × List Char)
  | 0, _, _ => none
  | _ + 1, front, [] => some (front, [])
  | steps + 1, front, c :: rest =>
    if c = '|' || c = ')' then some (front, c :: rest)
    else do
      let (body, after) ← readAtom? steps c rest
      let (repeated, after') := readRepeat body after
      readSequence? steps (.seq front repeated) after'

/-- One expression that begins with the given character. -/
def readAtom? : (steps : Nat) → Char → List Char → Option (Regex × List Char)
  | 0, _, _ => none
  | _ + 1, '.', rest => some (anyInLine, rest)
  | _ + 1, '^', rest => some (.start, rest)
  | _ + 1, '$', rest => some (.stop, rest)
  | _ + 1, '\\', c :: rest =>
    match classOf? c with
    | some (negated, ranges) => some (.unit negated ranges, rest)
    | none => some (char (escapedChar c), rest)
  | steps + 1, '[', '^' :: rest =>
    (readRanges? steps rest).map fun (ranges, after) => (.unit true ranges, after)
  | steps + 1, '[', rest =>
    (readRanges? steps rest).map fun (ranges, after) => (.unit false ranges, after)
  | steps + 1, '(', '?' :: ':' :: rest => closed? (readAlternatives? steps rest) id
  | steps + 1, '(', '?' :: '=' :: rest => closed? (readAlternatives? steps rest) (.ahead true)
  | steps + 1, '(', '?' :: '!' :: rest => closed? (readAlternatives? steps rest) (.ahead false)
  | steps + 1, '(', rest => closed? (readAlternatives? steps rest) id
  | _ + 1, c, rest => if ['*', '+', '?', '\\'].contains c then none else some (char c, rest)
end
/-- The expression that some characters are the notation of. -/
def ofChars? (cs : List Char) : Option Regex :=
  match readAlternatives? (3 * cs.length + 3) cs with
  | some (r, []) => some r
  | _ => none

/-- The expression that a text is the notation of. -/
def read? (source : String) : Option Regex := ofChars? source.toList

end Regex

end TypeLineage
