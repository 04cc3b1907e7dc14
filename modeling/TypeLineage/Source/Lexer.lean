import TypeLineage.Files.Tree
import TypeLineage.Number.Literal
import TypeLineage.Number.Shortest
import TypeLineage.Source.Token
import TypeLineage.Text.Letters

/-! # Reading tokens

    A cursor stands at a token of a text: it knows the token, the characters
    from there on and those behind it.  `Cursor.next` goes to the next token.
    Blanks and comments are passed over.  What a stroke or a closing brace
    begins depends on what is being read, so the reader asks for it:
    `Cursor.asPattern` reads a stroke as a regular expression, and
    `Cursor.asTemplate` a closing brace as the end of a hole. -/

namespace TypeLineage.Source

/-- No text is longer than this. -/
def longest : Nat := 281474976710656

/-- The character ends a line. -/
def isBreak (c : Char) : Bool :=
  c = '\n' || c = '\r' || c.toNat = 0x2028 || c.toNat = 0x2029

/-- The character stands between tokens. -/
def isGap (c : Char) : Bool :=
  Text.isBlank c || c.toNat = 0x85 || c.toNat = 0x200B

/-! ## Escapes -/

/-- The number that up to `most` hexadecimal digits spell, and what follows. -/
def readHex (most : Nat) (cs : List Char) : Option (Nat × List Char) :=
  let digits := (cs.take most).takeWhile (Number.isDigitIn 16)
  if digits.length = most then some (Number.ofDigits 16 digits, cs.drop most) else none

/-- A code point between braces, and what follows. -/
def readBraced (cs : List Char) : Option (Nat × List Char) :=
  let digits := cs.takeWhile (Number.isDigitIn 16)
  match cs.dropWhile (Number.isDigitIn 16) with
  | '\x7d' :: rest => if digits.isEmpty then none else some (Number.ofDigits 16 digits, rest)
  | _ => none

/-- The number of an escape behind its `u`. -/
def readUnicode (cs : List Char) : Option (Nat × List Char) :=
  match cs with
  | '\x7b' :: rest => readBraced rest
  | _ => readHex 4 cs

/-- The code units of a code point or of a single surrogate. -/
def unitsOfPoint (n : Nat) : List Nat :=
  if n < 0x10000 then [n] else Text.unitsOf (Char.ofNat n)

/-- The number of an escape in base eight: at most three digits, and no more than
    two if the first is above three. -/
def readOctal (cs : List Char) : Nat × List Char :=
  let most := if cs.head?.any (· < '4') then 3 else 2
  let digits := (cs.take most).takeWhile (Number.isDigitIn 8)
  (Number.ofDigits 8 digits, cs.drop digits.length)

/-- The code units of an escape behind its backslash, and what follows. -/
def readEscape (cs : List Char) : List Nat × List Char :=
  match cs with
  | [] => ([], [])
  | 'n' :: rest => ([10], rest)
  | 't' :: rest => ([9], rest)
  | 'r' :: rest => ([13], rest)
  | 'b' :: rest => ([8], rest)
  | 'f' :: rest => ([12], rest)
  | 'v' :: rest => ([11], rest)
  | '\r' :: '\n' :: rest => ([], rest)
  | 'x' :: rest =>
    match readHex 2 rest with
    | some (n, rest') => ([n], rest')
    | none => (['x'.toNat], rest)
  | 'u' :: rest =>
    match readUnicode rest with
    | some (n, rest') => (unitsOfPoint n, rest')
    | none => (['u'.toNat], rest)
  | c :: rest =>
    if Number.isDigitIn 8 c then
      if c = '0' && !rest.head?.any (·.isDigit) then ([0], rest)
      else
        let (n, rest') := readOctal cs
        ([n], rest')
    else if isBreak c then ([], rest)
    else (Text.unitsOf c, rest)

/-! ## Names, numbers and texts -/

/-- The rest of a name. -/
def readName : Nat → List Char → List Char × List Char
  | 0, cs => ([], cs)
  | _ + 1, [] => ([], [])
  | fuel + 1, '\\' :: 'u' :: rest =>
    match readUnicode rest with
    | some (n, rest') =>
      if Text.isLetterFollower (Char.ofNat n) then
        let (name, rest'') := readName fuel rest'
        (Char.ofNat n :: name, rest'')
      else ([], '\\' :: 'u' :: rest)
    | none => ([], '\\' :: 'u' :: rest)
  | fuel + 1, c :: rest =>
    if Text.isLetterFollower c then
      let (name, rest') := readName fuel rest
      (c :: name, rest')
    else ([], c :: rest)

/-- The shortest text of the number that the characters spell. -/
def numberText (cs : List Char) : String :=
  (Number.ofTyped (cs.filter (· ≠ '_'))).text .plain

/-- A digit of a number, or what may stand between digits. -/
def isDigitMark (c : Char) : Bool := c.isDigit || c = '_'

/-- The exponent of a number, if one follows. -/
def readExponent (cs : List Char) : List Char × List Char :=
  match cs with
  | e :: rest =>
    if e = 'e' ∨ e = 'E' then
      let (sign, digits) := match rest with
        | '+' :: more => (['+'], more)
        | '-' :: more => (['-'], more)
        | _ => ([], rest)
      let power := digits.takeWhile isDigitMark
      if power.isEmpty then ([], cs) else (e :: sign ++ power, digits.dropWhile isDigitMark)
    else ([], cs)
  | [] => ([], [])

/-- The fraction of a number with its point, if one follows. -/
def readFraction (cs : List Char) : List Char × List Char :=
  match cs with
  | '.' :: rest => ('.' :: rest.takeWhile isDigitMark, rest.dropWhile isDigitMark)
  | _ => ([], cs)

/-- A number of a base that its prefix announces. -/
def readBased (base : Nat) (start digits : List Char) : Token × List Char :=
  let body := digits.takeWhile fun c => Number.isDigitIn base c || c = '_'
  match digits.dropWhile fun c => Number.isDigitIn base c || c = '_' with
  | 'n' :: rest =>
    (.bigNumber (Number.decimalText (Number.ofDigits base (body.filter (· ≠ '_')))), rest)
  | rest => (.number (numberText (start ++ body)), rest)

/-- Reads a number. -/
def readNumber (cs : List Char) : Token × List Char :=
  match cs with
  | '0' :: mark :: digits =>
    match Number.baseOfPrefix? mark with
    | some base => readBased base ['0', mark.toLower] digits
    | none =>
      let octal := (mark :: digits).takeWhile (·.isDigit)
      if mark.isDigit && octal.all (· < '8') then
        (.number (Number.decimalText (Number.ofDigits 8 octal)),
          (mark :: digits).dropWhile (·.isDigit))
      else decimal cs
  | _ => decimal cs
where
  decimal (cs : List Char) : Token × List Char :=
    let whole := cs.takeWhile isDigitMark
    match cs.dropWhile isDigitMark with
    | 'n' :: rest =>
      (.bigNumber (Number.decimalText (Number.ofDigits 10 (whole.filter (· ≠ '_')))), rest)
    | rest =>
      let (fraction, rest) := readFraction rest
      let (power, rest) := readExponent rest
      (.number (numberText (whole ++ fraction ++ power)),
        if fraction.isEmpty && power.isEmpty then rest else withoutSuffix rest)
  /-- What follows a number that cannot be whole, without the mark of a whole one. -/
  withoutSuffix (cs : List Char) : List Char :=
    match cs with
    | 'n' :: rest => if rest.head?.any Text.isLetterFollower then cs else rest
    | _ => cs

/-- The code units of a text up to its quote or the end of the line. -/
def readText (quote : Char) : Nat → List Char → List Nat × List Char
  | 0, cs => ([], cs)
  | _ + 1, [] => ([], [])
  | fuel + 1, '\\' :: rest =>
    let (units, rest') := readEscape rest
    let (more, rest'') := readText quote fuel rest'
    (units ++ more, rest'')
  | fuel + 1, c :: rest =>
    if c = quote then ([], rest)
    else if c = '\n' ∨ c = '\r' then ([], c :: rest)
    else
      let (more, rest') := readText quote fuel rest
      (Text.unitsOf c ++ more, rest')

/-- The code units of a template up to a hole or its end; the flag tells of the
    end.  A line break counts as one character however it is written. -/
def readTemplate : Nat → List Char → List Nat × Bool × List Char
  | 0, cs => ([], true, cs)
  | _ + 1, [] => ([], true, [])
  | _ + 1, '\x60' :: rest => ([], true, rest)
  | _ + 1, '$' :: '\x7b' :: rest => ([], false, rest)
  | fuel + 1, '\\' :: rest =>
    let (units, rest') := readEscape rest
    let (more, isLast, rest'') := readTemplate fuel rest'
    (units ++ more, isLast, rest'')
  | fuel + 1, '\r' :: rest =>
    let rest := if rest.head? = some '\n' then rest.drop 1 else rest
    let (more, isLast, rest') := readTemplate fuel rest
    (10 :: more, isLast, rest')
  | fuel + 1, c :: rest =>
    let (more, isLast, rest') := readTemplate fuel rest
    (Text.unitsOf c ++ more, isLast, rest')

/-- The text that code units spell. -/
def textOfUnits (units : List Nat) : String := String.ofList (Text.charsOfUnits units)

/-- What follows the stroke that ends a regular expression; strokes between brackets do not end
    it, and the end of the line comes too early. -/
def afterStroke? : (inSet : Bool) → List Char → Option (List Char)
  | _, [] => none
  | inSet, '\\' :: c :: rest => if isBreak c then none else afterStroke? inSet rest
  | inSet, c :: rest =>
    if isBreak c then none
    else if c = '[' then afterStroke? true rest
    else if c = ']' then afterStroke? false rest
    else if c = '/' && !inSet then some rest
    else afterStroke? inSet rest

/-- The brackets that are open in a regular expression. -/
structure OpenBrackets where
  sets : Nat
  inCount : Bool
  groups : Nat

/-- The part of a line before the first closing bracket that none has opened. -/
def balancedPart (open' : OpenBrackets) : List Char → List Char
  | [] => []
  | '\\' :: c :: rest => '\\' :: c :: balancedPart open' rest
  | c :: rest =>
    let go (o : OpenBrackets) : List Char := c :: balancedPart o rest
    if c = '[' then go { open' with sets := open'.sets + 1 }
    else if c = ']' && 0 < open'.sets then go { open' with sets := open'.sets - 1 }
    else if 0 < open'.sets then go open'
    else if c = '\x7b' then go { open' with inCount := true }
    else if c = '\x7d' && open'.inCount then go { open' with inCount := false }
    else if open'.inCount then go open'
    else if c = '(' then go { open' with groups := open'.groups + 1 }
    else if c = ')' && 0 < open'.groups then go { open' with groups := open'.groups - 1 }
    else if c = ')' || c = ']' || c = '\x7d' then []
    else go open'

/-- What follows a regular expression with its flags; one that does not end on its line ends
    before a bracket that is too much, and before the blanks and semicolons there. -/
def afterPattern (cs : List Char) : List Char :=
  match afterStroke? false cs with
  | some rest => rest.dropWhile Text.isLetterFollower
  | none =>
    let part := balancedPart ⟨0, false, 0⟩ (cs.takeWhile (!isBreak ·))
    let kept := part.reverse.dropWhile fun c => c = ';' || isGap c || isBreak c
    cs.drop kept.length

/-- What follows a comment in lines, and whether the comment breaks a line. -/
def afterComment : List Char → Bool × List Char
  | '*' :: '/' :: rest => (false, rest)
  | c :: rest =>
    let (broken, rest') := afterComment rest
    (broken || isBreak c, rest')
  | [] => (false, [])

/-! ## Marks between two versions

    Where two versions of a text could not be joined, lines that begin with seven equal
    marks stand around what each of them says.  The first version is read. -/

/-- A line that keeps two versions apart begins here. -/
def startsVersion : List Char → Bool
  | c :: rest =>
    ['<', '>', '=', '|'].contains c && (rest.take 6).length = 6 && (rest.take 6).all (· = c)
      && (rest.drop 6).head?.any fun d => c = '=' || d = ' '
  | [] => false

/-- What follows the versions that are not read, which a line of the mark begins. -/
def afterVersion (mark : Char) : (atLine : Bool) → List Char → List Char
  | _, [] => []
  | atLine, c :: rest =>
    if atLine && (c = '=' || c = '>') && c ≠ mark && startsVersion (c :: rest) then c :: rest
    else afterVersion mark (isBreak c) rest

/-- What follows a line that keeps two versions apart, and what is not read behind it. -/
def skipVersion : List Char → List Char
  | [] => []
  | c :: rest =>
    if c = '<' || c = '>' then rest.dropWhile (!isBreak ·) else afterVersion c false rest

/-! ## Tokens -/

/-- The marks of more than one character, the longer first.  A stroke or a closing
    angle always stands alone. -/
def longMarks : List (List Char) :=
  ["...", "===", "!==", "**=", "&&=", "||=", "??=", "<<=", "=>", "==", "!=", "++", "--", "&&",
    "||", "??", "**", "<<", "<=", "+=", "-=", "*=", "%=", "&=", "|=", "^="].map String.toList

/-- A mark, and what follows. -/
def readMark (cs : List Char) : Token × List Char :=
  match cs with
  | '?' :: '.' :: c :: rest =>
    if c.isDigit then (.mark "?", '.' :: c :: rest) else (.mark "?.", c :: rest)
  | _ =>
    match longMarks.find? (·.isPrefixOf cs) with
    | some m => (.mark (String.ofList m), cs.drop m.length)
    | none => (.mark (String.ofList (cs.take 1)), cs.drop 1)

/-- Reads one token at a character that is neither gap nor comment. -/
def readToken (cs : List Char) : Token × List Char :=
  match cs with
  | [] => (.finish, [])
  | '"' :: rest =>
    let (units, rest') := readText '"' longest rest
    (.text (textOfUnits units) false, rest')
  | '\'' :: rest =>
    let (units, rest') := readText '\'' longest rest
    (.text (textOfUnits units) true, rest')
  | '\x60' :: rest =>
    let (units, isLast, rest') := readTemplate longest rest
    (.template (textOfUnits units) isLast, rest')
  | '#' :: rest =>
    if rest.head?.any fun c => Text.isLetter c || c = '\\' then
      let (name, rest') := readName longest rest
      (.hidden (String.ofList ('#' :: name)), rest')
    else if rest.head? = some '!' then (.mark "#", rest)
    else (.hidden "#", rest)
  | '.' :: c :: rest => if c.isDigit then readNumber ('.' :: c :: rest) else readMark cs
  | c :: _ =>
    if c.isDigit then readNumber cs
    else if Text.isLetter c || c = '\\' then
      let (name, rest') := readName longest cs
      if name.head?.any Text.isLetter then (.word (String.ofList name), rest')
      else (.mark "\\", cs.drop 1)
    else readMark cs

/-- What follows gaps and comments, and whether they break a line; they begin on a line
    or not. -/
def skipGaps : Nat → (broken atLine : Bool) → List Char → Bool × List Char
  | 0, broken, _, cs => (broken, cs)
  | _ + 1, broken, _, [] => (broken, [])
  | fuel + 1, broken, _, '/' :: '/' :: rest =>
    skipGaps fuel broken false (rest.dropWhile (!isBreak ·))
  | fuel + 1, broken, _, '/' :: '*' :: rest =>
    let (breaks, rest') := afterComment rest
    skipGaps fuel (broken || breaks) false rest'
  | fuel + 1, broken, atLine, c :: rest =>
    if isGap c || isBreak c then skipGaps fuel (broken || isBreak c) (isBreak c) rest
    else if atLine && startsVersion (c :: rest) then
      skipGaps fuel broken true (skipVersion (c :: rest))
    else (broken, c :: rest)

/-! ## Cursors -/

/-- The kinds of lists that a text is made of. -/
inductive ListKind where
  /-- The statements of a file. -/
  | source
  /-- The statements of a block. -/
  | block
  | cases
  /-- The statements behind a case. -/
  | caseBody
  /-- The members of an object type or interface. -/
  | typeMembers
  | classMembers
  | enumMembers
  /-- The clauses that tell what a declaration extends and implements. -/
  | heritage
  /-- The values or types that such a clause names. -/
  | heritageItems
  | variables
  | objectPattern
  | arrayPattern
  | arguments
  | objectItems
  | arrayItems
  | parameters
  | typeParameters
  | typeArguments
  | tupleItems
  /-- Names taken from a file or given to others. -/
  | specifiers
  deriving DecidableEq, Repr

/-- What stands around a place in a text and decides how it is read. -/
structure Surroundings where
  /-- The kinds of lists that the place stands in. -/
  lists : List ListKind
  /-- The word for membership does not go on with a value. -/
  excludesIn : Bool
  /-- No key in brackets goes on with a value. -/
  excludesKeys : Bool
  /-- A type ends before a condition on it. -/
  excludesConditions : Bool
  /-- Values may be yielded. -/
  yields : Bool
  /-- Values may be awaited. -/
  awaits : Bool
  deriving Inhabited

namespace Surroundings

/-- What stands around a file's text. -/
def ofFile : Surroundings := ⟨[], false, false, false, false, false⟩

/-- Also within a list. -/
def inList (s : Surroundings) (kind : ListKind) : Surroundings :=
  if s.lists.contains kind then s else { s with lists := kind :: s.lists }

/-- Within brackets, where nothing is left out. -/
def inBrackets (s : Surroundings) : Surroundings :=
  { s with excludesIn := false, excludesKeys := false }

end Surroundings

/-- A place in a text: the token there, whether it stands first on its line, its
    number, the characters from it on and those behind it. -/
structure Cursor where
  token : Token
  isFirst : Bool
  index : Nat
  here : List Char
  rest : List Char
  /-- Markup may stand where a value is expected. -/
  hasMarkup : Bool
  /-- The names of files that were come upon where a value or type is meant, the last
      first. -/
  files : List String
  around : Surroundings
  /-- How often something was missing or too much. -/
  faults : Nat
  /-- Markup was come upon. -/
  usesMarkup : Bool
  /-- The text is a script's, whose types are told by remarks. -/
  isScript : Bool
  /-- The function around speaks of all that it is called with. -/
  usesAll : Bool
  /-- The characters from the end of the token before on. -/
  before : List Char
  deriving Inhabited

namespace Cursor

/-- The cursor at the first token of the characters. -/
def goTo (c : Cursor) (broken : Bool) (cs : List Char) : Cursor :=
  let (isFirst, here) := skipGaps longest broken broken cs
  let (token, rest) := readToken here
  { c with token, isFirst, index := c.index + 1, here, rest, before := cs }

/-- The cursor at the next token. -/
def next (c : Cursor) : Cursor := c.goTo false c.rest

/-- The cursor with its stroke read as a regular expression. -/
def asPattern (c : Cursor) : Cursor :=
  { c with token := .pattern, rest := afterPattern (c.here.drop 1) }

/-- The cursor with its brace read as the end of a hole in a template. -/
def asTemplate (c : Cursor) : Cursor :=
  let (units, isLast, rest) := readTemplate longest (c.here.drop 1)
  { c with token := .template (textOfUnits units) isLast, rest }

/-- The cursor with only the first character of its mark. -/
def asFirstMark (c : Cursor) : Cursor :=
  { c with token := .mark (String.ofList (c.here.take 1)), rest := c.here.drop 1 }

/-- The text without a first line that names an interpreter. -/
def dropInterpreter : List Char → List Char
  | '#' :: '!' :: rest => rest.dropWhile (!isBreak ·)
  | cs => cs

/-- The cursor at the start of a text. -/
def start (hasMarkup isScript : Bool) (cs : List Char) : Cursor :=
  goTo ⟨.finish, true, 0, [], [], hasMarkup, [], .ofFile, 0, false, isScript, false, []⟩ true
    (dropInterpreter cs)

end Cursor

end TypeLineage.Source
