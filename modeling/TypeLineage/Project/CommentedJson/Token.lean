import TypeLineage.Files.Tree
import TypeLineage.Json.Reader
import TypeLineage.Source.Lexer

/-! # Tokens of JSON with comments

    The tokens are those of expressions, so that more can be told than that a
    text is no JSON: `next` gives the token a text begins with and what follows
    it, or the fault that the token has. -/

namespace TypeLineage.CommentedJson

/-- Why a text is no configuration. -/
inductive Fault where
  | expected (mark : String)
  | unclosedComment
  | unclosedString
  | noValue
  | noName
  | noProperty
  | noItem
  | noArgument
  | otherQuotes
  | otherValue
  | optionalProperty
  | rootNoObject
  | moreTokens
  | badCharacter
  | lateInterpreter
  | badHexDigit
  | badDigit (kind : String)
  | bigEscape
  | openEscape
  | textEnd
  | octalNumber (text : String)
  | octalEscape (text : String)
  | digitEscape (text : String)
  | leadingZero
  | badSeparator
  | doubleSeparator
  | wordBehindNumber
  | brokenBigNumber
  | poweredBigNumber
  deriving DecidableEq, Repr

/-- The fault in words; `fileName` is the name of the file for the fault that
    mentions it. -/
def Fault.message (fileName : String) : Fault → String
  | .expected mark => "'" ++ mark ++ "' expected."
  | .unclosedComment => "'*/' expected."
  | .unclosedString => "Unterminated string literal."
  | .noValue => "Expression expected."
  | .noName => "Identifier expected."
  | .noProperty => "Property assignment expected."
  | .noItem => "Expression or comma expected."
  | .noArgument => "Argument expression expected."
  | .otherQuotes => "String literal with double quotes expected."
  | .otherValue =>
    "Property value can only be string literal, numeric literal, 'true', 'false', 'null', "
      ++ "object literal or array literal."
  | .optionalProperty => "The '?' modifier can only be used in TypeScript files."
  | .rootNoObject => "The root value of a '" ++ fileName ++ "' file must be an object."
  | .moreTokens => "Unexpected token."
  | .badCharacter => "Invalid character."
  | .lateInterpreter => "'#!' can only be used at the start of a file."
  | .badHexDigit => "Hexadecimal digit expected."
  | .badDigit kind => kind ++ " expected."
  | .bigEscape =>
    "An extended Unicode escape value must be between 0x0 and 0x10FFFF inclusive."
  | .openEscape => "Unterminated Unicode escape sequence."
  | .textEnd => "Unexpected end of text."
  | .octalNumber text => "Octal literals are not allowed. Use the syntax '" ++ text ++ "'."
  | .octalEscape text =>
    "Octal escape sequences are not allowed. Use the syntax '" ++ text ++ "'."
  | .digitEscape text => "Escape sequence '" ++ text ++ "' is not allowed."
  | .leadingZero => "Decimals with leading zeros are not allowed."
  | .badSeparator => "Numeric separators are not allowed here."
  | .doubleSeparator => "Multiple consecutive numeric separators are not permitted."
  | .wordBehindNumber =>
    "An identifier or keyword cannot immediately follow a numeric literal."
  | .brokenBigNumber => "A bigint literal must be an integer."
  | .poweredBigNumber => "A bigint literal cannot use exponential notation."

/-- A token of the notation. -/
inductive Lexeme where
  | mark (m : String)
  | text (s : String) (double : Bool)
  | number (n : JsonNumber)
  /-- A whole number of any size. -/
  | bigNumber
  /-- A name that begins with a hash. -/
  | hidden
  | word (s : String)
  | stop
  deriving Repr

/-! ## Gaps -/

/-- What follows the end of a comment in lines. -/
def afterComment? : List Char → Option (List Char)
  | '*' :: '/' :: rest => some rest
  | _ :: rest => afterComment? rest
  | [] => none

/-- Drops blanks and comments, at most `steps` of them. -/
def skip : (steps : Nat) → List Char → Except Fault (List Char)
  | 0, cs => .ok cs
  | _ + 1, [] => .ok []
  | steps + 1, '/' :: '/' :: rest => skip steps (rest.dropWhile (!Source.isBreak ·))
  | steps + 1, '/' :: '*' :: rest =>
    match afterComment? rest with
    | some rest' => skip steps rest'
    | none => .error .unclosedComment
  | steps + 1, c :: rest =>
    if Source.isGap c || Source.isBreak c then skip steps rest else .ok (c :: rest)

/-- Drops all blanks and comments. -/
def skipAll (cs : List Char) : Except Fault (List Char) := skip (cs.length + 1) cs

/-- A line ends between here and the next token. -/
def breaksLine (cs : List Char) : Bool :=
  match skipAll cs with
  | .ok rest => (cs.take (cs.length - rest.length)).any Source.isBreak
  | .error _ => false

/-! ## Strings -/

/-- A hexadecimal number of exactly so many digits. -/
def readHex (count : Nat) (cs : List Char) : Except Fault (Nat × List Char) :=
  match Source.readHex count cs with
  | some found => .ok found
  | none => .error .badHexDigit

/-- A code point before a closing brace. -/
def readBraced (cs : List Char) : Except Fault (Nat × List Char) :=
  let digits := cs.takeWhile (Number.isDigitIn 16)
  let n := Number.ofDigits 16 digits
  if digits.isEmpty then .error .badHexDigit
  else if n > 0x10FFFF then .error .bigEscape
  else match cs.drop digits.length with
    | '\x7d' :: rest => .ok (n, rest)
    | [] => .error .textEnd
    | _ => .error .openEscape

/-- The code units of an escape behind its backslash, and what follows. -/
def readEscape : List Char → Except Fault (List Nat × List Char)
  | [] => .error .textEnd
  | 'u' :: '\x7b' :: rest => (readBraced rest).map fun (n, after) => (Source.unitsOfPoint n, after)
  | 'u' :: rest => (readHex 4 rest).map fun (n, after) => ([n], after)
  | 'x' :: rest => (readHex 2 rest).map fun (n, after) => ([n], after)
  | c :: rest =>
    if c = '0' && !rest.head?.any Char.isDigit then .ok ([0], rest)
    else if c = '8' || c = '9' then .error (.digitEscape (String.ofList ['\\', c]))
    else if c.isDigit then
      let hex := Nat.toDigits 16 (Source.readOctal (c :: rest)).1
      .error (.octalEscape (String.ofList
        (['\\', 'x'] ++ List.replicate (2 - hex.length) '0' ++ hex)))
    else .ok (Source.readEscape (c :: rest))

/-- The code units of a string up to its closing quote, and what follows it. -/
def readText (quote : Char) : (steps : Nat) → List Char → Except Fault (List Nat × List Char)
  | 0, _ => .error .unclosedString
  | _ + 1, [] => .error .unclosedString
  | steps + 1, '\\' :: rest => do
    let (units, after) ← readEscape rest
    let (more, after') ← readText quote steps after
    pure (units ++ more, after')
  | steps + 1, c :: rest =>
    if c = quote then .ok ([], rest)
    else if c = '\n' || c = '\r' then .error .unclosedString
    else do
      let (more, after) ← readText quote steps rest
      pure (Text.unitsOf c ++ more, after)

/-! ## Numbers -/

/-- A run of digits with single separators between them. -/
def readDigits (base : Nat) (cs : List Char) : Except Fault (List Char × List Char) :=
  let run := cs.takeWhile fun c => Number.isDigitIn base c || c == '_'
  if run.head? = some '_' then .error .badSeparator
  else if hasDouble run then .error .doubleSeparator
  else if run.getLast? = some '_' then .error .badSeparator
  else .ok (run.filter (· ≠ '_'), cs.drop run.length)
where
  hasDouble : List Char → Bool
    | '_' :: '_' :: _ => true
    | _ :: rest => hasDouble rest
    | [] => false

/-- What follows a number, which must not be a word; `fault` is what is wrong with a mark of
    big numbers. -/
def closeNumber (token : Lexeme) (fault : Fault) (rest : List Char) :
    Except Fault (Lexeme × List Char) :=
  match rest with
  | c :: more =>
    if !Text.isLetter c then .ok (token, rest)
    else if c = 'n' && !more.head?.any Text.isLetterFollower then .error fault
    else .error .wordBehindNumber
  | [] => .ok (token, rest)

/-- The exponent of a number and what follows it, if one is written. -/
def readPower (cs : List Char) : Except Fault (Option Int × List Char) :=
  match cs with
  | e :: more =>
    if e = 'e' || e = 'E' then do
      let (negative, more) := match more with
        | '-' :: after => (true, after)
        | '+' :: after => (false, after)
        | _ => (false, more)
      let (digits, after) ← readDigits 10 more
      if digits.isEmpty then .error (.badDigit "Digit")
      else
        let n : Int := Number.ofDigits 10 digits
        pure (some (if negative then -n else n), after)
    else .ok (none, cs)
  | [] => .ok (none, cs)

/-- The rest of a decimal behind its whole digits. -/
def readDecimal (whole rest : List Char) (zeroLed : Bool) :
    Except Fault (Lexeme × List Char) := do
  let (fraction, rest) ← match rest with
    | '.' :: more => (readDigits 10 more).map fun (digits, after) => (some digits, after)
    | _ => pure (none, rest)
  let (power, rest) ← readPower rest
  if zeroLed then .error .leadingZero
  else
    let digits := fraction.getD []
    let token := Lexeme.number (JsonNumber.ofDecimal false
      (Number.ofDigits 10 (whole ++ digits)) (power.getD 0 - digits.length))
    match fraction, power with
    | none, none =>
      match rest with
      | 'n' :: more => closeNumber .bigNumber .wordBehindNumber more
      | _ => closeNumber token .wordBehindNumber rest
    | none, some _ => closeNumber token .poweredBigNumber rest
    | some _, _ => closeNumber token .brokenBigNumber rest

/-- The name of the digits of a base, for a number without any. -/
def digitName (base : Nat) : String :=
  if base = 16 then "Hexadecimal digit" else if base = 8 then "Octal digit" else "Binary digit"

/-- Reads a number; `signed` says that a minus sign stands before it. -/
def readNumber (signed : Bool) (cs : List Char) : Except Fault (Lexeme × List Char) := do
  match cs with
  | '0' :: mark :: rest =>
    match Number.baseOfPrefix? mark with
    | some base =>
      let (digits, after) ← readDigits base rest
      if digits.isEmpty then .error (.badDigit (digitName base))
      else match after with
        | 'n' :: after' => pure (.bigNumber, after')
        | _ => pure (.number (.ofDecimal false (Number.ofDigits base digits) 0), after)
    | none =>
      if mark = '_' then .error .badSeparator
      else if mark.isDigit then
        let digits := (mark :: rest).takeWhile Char.isDigit
        if digits.all (Number.isDigitIn 8) then
          let octal := Nat.toDigits 8 (Number.ofDigits 8 digits)
          .error (.octalNumber (String.ofList ((if signed then ['-'] else []) ++ ['0', 'o'] ++ octal)))
        else readDecimal digits ((mark :: rest).drop digits.length) true
      else readDecimal ['0'] (mark :: rest) false
  | _ =>
    let (whole, rest) ← readDigits 10 cs
    readDecimal whole rest false

/-! ## Tokens -/

/-- A mark of the notation is one of these characters. -/
def isMarkChar (c : Char) : Bool :=
  0x20 < c.toNat && c.toNat < 0x7F && c ≠ '\\' && c ≠ '#'

/-- The next token and what follows it. -/
def next (signed : Bool) (cs : List Char) : Except Fault (Lexeme × List Char) := do
  match ← skipAll cs with
  | [] => pure (.stop, [])
  | c :: rest =>
    if c = '"' || c = '\'' then
      let (units, after) ← readText c (rest.length + 1) rest
      pure (.text (String.ofList (Text.charsOfUnits units)) (c = '"'), after)
    else if c.isDigit || (c = '.' && rest.head?.any Char.isDigit) then readNumber signed (c :: rest)
    else if c = '#' then
      if rest.head?.any Text.isLetter then pure (.hidden, rest.dropWhile Text.isLetterFollower)
      else if rest.head? = some '!' then .error .lateInterpreter
      else .error .badCharacter
    else if Text.isLetter c || c = '\\' then
      let (name, after) := Source.readName (rest.length + 1) (c :: rest)
      if name.head?.any Text.isLetter then pure (.word (String.ofList name), after)
      else .error .badCharacter
    else if isMarkChar c then
      match Source.readMark (c :: rest) with
      | (.mark m, after) => pure (.mark m, after)
      | (_, after) => pure (.mark (String.ofList [c]), after)
    else .error .badCharacter

end TypeLineage.CommentedJson
