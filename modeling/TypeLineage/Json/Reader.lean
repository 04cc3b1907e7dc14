import TypeLineage.Json.Basic

/-! # Reading JSON text

    The grammar is the strict one: no comments, no trailing commas, no leading
    zeros, no raw control characters in strings, and only blank, tab, line
    feed and carriage return between tokens.  `Json.parse?` gives the value of
    a whole text, or nothing.

    Each step takes at least one character, so the length of the text bounds
    the depth of the recursion. -/

namespace TypeLineage.Json

/-- White space between tokens. -/
def isSpace (c : Char) : Bool :=
  c == ' ' || c == '\t' || c == '\n' || c == '\r'

/-- Drops white space. -/
def skipSpace (cs : List Char) : List Char := cs.dropWhile isSpace

/-- The value of four hexadecimal digits and what follows them. -/
def hexUnit? : List Char → Option (Nat × List Char)
  | a :: b :: c :: d :: rest =>
    if [a, b, c, d].all (Number.isDigitIn 16) then
      some (Number.ofDigits 16 [a, b, c, d], rest)
    else none
  | _ => none

/-- The character of one escaped code unit that is no surrogate. -/
def charOfUnit (u : Nat) : Char :=
  if 0xD800 ≤ u ∧ u ≤ 0xDFFF then Char.ofNat 0xFFFD else Char.ofNat u

/-- The character after `\u`: one code unit, or a pair of surrogates. -/
def readUnicodeEscape (cs : List Char) : Option (Char × List Char) := do
  let (high, rest) ← hexUnit? cs
  if 0xD800 ≤ high ∧ high ≤ 0xDBFF then
    match rest with
    | '\\' :: 'u' :: more =>
      match hexUnit? more with
      | some (low, rest') =>
        if 0xDC00 ≤ low ∧ low ≤ 0xDFFF then
          pure (Char.ofNat (0x10000 + (high - 0xD800) * 0x400 + (low - 0xDC00)), rest')
        else pure (charOfUnit high, rest)
      | none => none
    | _ => pure (charOfUnit high, rest)
  else pure (charOfUnit high, rest)

/-- The character that an escape of one letter stands for. -/
def simpleEscape? : Char → Option Char
  | '"' => some '"'
  | '\\' => some '\\'
  | '/' => some '/'
  | 'b' => some '\x08'
  | 'f' => some '\x0c'
  | 'n' => some '\n'
  | 'r' => some '\r'
  | 't' => some '\t'
  | _ => none

/-- Reads the characters of a string up to its closing quote. -/
def readString : Nat → List Char → Option (List Char × List Char)
  | 0, _ => none
  | _ + 1, [] => none
  | fuel + 1, c :: rest =>
    if c = '"' then some ([], rest)
    else if c = '\\' then
      match rest with
      | [] => none
      | 'u' :: more => do
        let (x, rest') ← readUnicodeEscape more
        let (xs, rest'') ← readString fuel rest'
        pure (x :: xs, rest'')
      | e :: more => do
        let x ← simpleEscape? e
        let (xs, rest') ← readString fuel more
        pure (x :: xs, rest')
    else if c.toNat < 0x20 then none
    else do
      let (xs, rest') ← readString fuel rest
      pure (c :: xs, rest')

/-- The digits at the front of a text and what follows them. -/
def spanDigits (cs : List Char) : List Char × List Char :=
  (cs.takeWhile Number.isDigit, cs.dropWhile Number.isDigit)

/-- The digits after a point, if there is one. -/
def readFraction (cs : List Char) : Option (List Char × List Char) :=
  match cs with
  | '.' :: rest =>
    let (digits, rest') := spanDigits rest
    if digits.isEmpty then none else some (digits, rest')
  | _ => some ([], cs)

/-- The power of ten after `e`, if there is one. -/
def readExponent (cs : List Char) : Option (Int × List Char) :=
  match cs with
  | [] => some (0, [])
  | c :: rest =>
    if c = 'e' ∨ c = 'E' then
      let (negative, rest) := match rest with
        | '-' :: more => (true, more)
        | '+' :: more => (false, more)
        | _ => (false, rest)
      let (digits, rest') := spanDigits rest
      if digits.isEmpty then none
      else
        let n : Int := Number.ofDigits 10 digits
        some (if negative then -n else n, rest')
    else some (0, cs)

/-- Reads a number. -/
def readNumber (cs : List Char) : Option (JsonNumber × List Char) := do
  let (negative, cs) := match cs with
    | '-' :: rest => (true, rest)
    | _ => (false, cs)
  let (whole, cs) := spanDigits cs
  if whole.isEmpty || (whole.head? == some '0' && whole.length > 1) then none
  else
    let (fraction, cs) ← readFraction cs
    let (power, cs) ← readExponent cs
    let digits := Number.ofDigits 10 (whole ++ fraction)
    pure (JsonNumber.ofDecimal negative digits (power - fraction.length), cs)

/-- Drops a word from the front of a text. -/
def dropWord? : List Char → List Char → Option (List Char)
  | [], cs => some cs
  | w :: ws, c :: cs => if w = c then dropWord? ws cs else none
  | _ :: _, [] => none

mutual

/-- Reads a value, white space before it included. -/
def readValue : Nat → List Char → Option (Json × List Char)
  | 0, _ => none
  | fuel + 1, cs =>
    match skipSpace cs with
    | [] => none
    | '[' :: rest =>
      match skipSpace rest with
      | ']' :: rest' => some (.array [], rest')
      | rest' => do
        let (items, rest'') ← readItems fuel rest'
        pure (.array items, rest'')
    | '\x7b' :: rest =>
      match skipSpace rest with
      | '\x7d' :: rest' => some (.object [], rest')
      | rest' => do
        let (members, rest'') ← readMembers fuel rest'
        pure (.object (orderMembers members), rest'')
    | '"' :: rest => do
      let (s, rest') ← readString (rest.length + 1) rest
      pure (.string (String.ofList s), rest')
    | 'n' :: rest => (dropWord? ['u', 'l', 'l'] rest).map (Json.null, ·)
    | 't' :: rest => (dropWord? ['r', 'u', 'e'] rest).map (Json.bool true, ·)
    | 'f' :: rest => (dropWord? ['a', 'l', 's', 'e'] rest).map (Json.bool false, ·)
    | c :: rest => do
      let (n, rest') ← readNumber (c :: rest)
      pure (.number n, rest')

/-- Reads the items of an array that has at least one, and its bracket. -/
def readItems : Nat → List Char → Option (List Json × List Char)
  | 0, _ => none
  | fuel + 1, cs => do
    let (item, rest) ← readValue fuel cs
    match skipSpace rest with
    | ',' :: rest' =>
      let (items, rest'') ← readItems fuel rest'
      pure (item :: items, rest'')
    | ']' :: rest' => pure ([item], rest')
    | _ => none

/-- Reads the members of an object that has at least one, and its brace. -/
def readMembers : Nat → List Char → Option (List (String × Json) × List Char)
  | 0, _ => none
  | fuel + 1, cs =>
    match skipSpace cs with
    | '"' :: rest => do
      let (key, rest) ← readString (rest.length + 1) rest
      match skipSpace rest with
      | ':' :: rest =>
        let (value, rest) ← readValue fuel rest
        match skipSpace rest with
        | ',' :: rest' =>
          let (members, rest'') ← readMembers fuel rest'
          pure ((String.ofList key, value) :: members, rest'')
        | '\x7d' :: rest' => pure ([(String.ofList key, value)], rest')
        | _ => none
      | _ => none
    | _ => none

end

/-- The value that a list of characters spells. -/
def ofChars? (cs : List Char) : Option Json := do
  let (value, rest) ← readValue (cs.length + 1) cs
  match skipSpace rest with
  | [] => pure value
  | _ :: _ => none

/-- The value of a whole text, if the text is JSON. -/
def parse? (text : String) : Option Json := ofChars? text.toList

end TypeLineage.Json
