import TypeLineage.Files.Path

/-! # Braces in globs

    Braces stand for several texts: for each of the parts between commas, or
    for each step of a range.  `Glob.expand` lists the texts without such braces
    that a written glob stands for.  Braces that hold neither a comma nor a
    range are characters like others, and so is all that stands in brackets. -/

namespace TypeLineage.Glob

/-- The text from an opening bracket to the one that closes it, and what
    follows. -/
def cutBrackets : (depth : Nat) → List Char → List Char × List Char
  | _, [] => ([], [])
  | depth, '\\' :: c :: rest =>
    let (inside, after) := cutBrackets depth rest
    ('\\' :: c :: inside, after)
  | depth, '[' :: rest =>
    let (inside, after) := cutBrackets (depth + 1) rest
    ('[' :: inside, after)
  | depth, ']' :: rest =>
    if depth ≤ 1 then ([']'], rest)
    else
      let (inside, after) := cutBrackets (depth - 1) rest
      (']' :: inside, after)
  | depth, c :: rest =>
    let (inside, after) := cutBrackets depth rest
    (c :: inside, after)

/-- The text up to the brace that closes the current one, cut at the commas
    between, and what follows the brace. -/
def cutBraces : (steps depth : Nat) → (part : List Char) → List Char →
    Option (List (List Char) × List Char)
  | 0, _, _, _ => none
  | _ + 1, _, _, [] => none
  | _ + 1, 0, part, '\x7d' :: rest => some ([part.reverse], rest)
  | steps + 1, 0, part, ',' :: rest =>
    (cutBraces steps 0 [] rest).map fun (parts, after) => (part.reverse :: parts, after)
  | steps + 1, depth, part, '\x7b' :: rest => cutBraces steps (depth + 1) ('\x7b' :: part) rest
  | steps + 1, depth + 1, part, '\x7d' :: rest => cutBraces steps depth ('\x7d' :: part) rest
  | steps + 1, depth, part, '[' :: rest =>
    let (inside, after) := cutBrackets 0 ('[' :: rest)
    cutBraces steps depth (inside.reverse ++ part) after
  | steps + 1, depth, part, '\\' :: c :: rest => cutBraces steps depth (c :: '\\' :: part) rest
  | steps + 1, depth, part, c :: rest => cutBraces steps depth (c :: part) rest

/-! ## Ranges -/

/-- A whole number as a range writes it. -/
def readBound? (cs : List Char) : Option Int :=
  match cs with
  | '-' :: ds => if ds.isEmpty || !ds.all Char.isDigit then none
      else (String.ofList ds).toNat?.map fun n => -(n : Int)
  | ds => if ds.isEmpty || !ds.all Char.isDigit then none
      else (String.ofList ds).toNat?.map fun n => (n : Int)

/-- A bound is written with a leading zero. -/
def isPadded (cs : List Char) : Bool :=
  match cs with
  | '-' :: '0' :: _ :: _ => true
  | '0' :: _ :: _ => true
  | _ => false

/-- A number with zeros in front, so that its text has the given length. -/
def padded (width : Nat) (n : Int) : List Char :=
  let digits := (toString n.natAbs).toList
  let sign := if n < 0 then ['-'] else []
  sign ++ List.replicate (width - digits.length - sign.length) '0' ++ digits

/-- The numbers from one to another in equal steps. -/
def spread (first last : Int) (stride : Nat) : List Int :=
  let count := (last - first).natAbs / stride + 1
  (List.range count).map fun i =>
    if first ≤ last then first + (i * stride : Nat) else first - (i * stride : Nat)

/-- The texts of a range with the given bounds and step. -/
def range? (first last : List Char) (step : Nat) : Option (List (List Char)) :=
  let stride := max step 1
  match readBound? first, readBound? last with
  | some a, some b =>
    let width := if isPadded first || isPadded last then max first.length last.length else 0
    some ((spread a b stride).map (padded width))
  | _, _ =>
    match first, last with
    | [a], [b] =>
      some ((spread a.toNat b.toNat stride).map fun n => [Char.ofNat n.toNat])
    | _, _ => none

/-- The parts of a text between pairs of points. -/
def cutPoints : List Char → List (List Char)
  | '.' :: '.' :: rest => [] :: cutPoints rest
  | c :: rest =>
    match cutPoints rest with
    | part :: parts => (c :: part) :: parts
    | [] => [[c]]
  | [] => [[]]

/-- The texts that a range in braces stands for. -/
def readRange? (inside : List Char) : Option (List (List Char)) :=
  match cutPoints inside with
  | [first, last] => range? first last 1
  | [first, last, step] =>
    match readBound? step with
    | some n => range? first last n.natAbs
    | none => none
  | _ => none

/-! ## Expansion -/

/-- The texts that a text with braces stands for. -/
def expandBraces : (steps : Nat) → List Char → List (List Char)
  | 0, cs => [cs]
  | _ + 1, [] => [[]]
  | steps + 1, '\\' :: c :: rest => (expandBraces steps rest).map ('\\' :: c :: ·)
  | steps + 1, '[' :: rest =>
    let (inside, after) := cutBrackets 0 ('[' :: rest)
    (expandBraces steps after).map (inside ++ ·)
  | steps + 1, '\x7b' :: rest =>
    let literal := (expandBraces steps rest).map ('\x7b' :: ·)
    match cutBraces (rest.length + 1) 0 [] rest with
    | some ([part], after) =>
      match readRange? part with
      | some texts =>
        let ends := expandBraces steps after
        texts.flatMap fun front => ends.map (front ++ ·)
      | none => literal
    | some (parts, after) =>
      let ends := expandBraces steps after
      parts.flatMap fun p => (expandBraces steps p).flatMap fun front => ends.map (front ++ ·)
    | none => literal
  | steps + 1, c :: rest => (expandBraces steps rest).map (c :: ·)

/-- Single strokes in the place of several, except at the start. -/
def singleStrokes : List Char → List Char
  | [] => []
  | c :: rest => c :: go c rest
where
  go (previous : Char) : List Char → List Char
    | [] => []
    | c :: rest => if c = '/' ∧ previous = '/' then go c rest else c :: go c rest

/-- The texts without braces that a written glob stands for. -/
def expand (text : String) : List String :=
  let cs := text.toList
  ((expandBraces (cs.length + 1) cs).map fun e => String.ofList (singleStrokes e)).filter (· ≠ "")

end TypeLineage.Glob
