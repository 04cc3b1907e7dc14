import TypeLineage.Files.Path

/-! # The fixed part of a glob

    A glob in which nothing is a pattern names one file.  Another one is
    walked for from its base, the directory its leading parts name; a lone
    question mark does not make a part a pattern there, so a base may name a
    directory that does not exist. -/

namespace TypeLineage.Glob

/-- A path without a leading `./`. -/
def dropDot (path : String) : String :=
  if path.startsWith "./" then (path.drop 2).toString else path

/-- The text holds this character before that one. -/
def hasBefore (first second : Char) (cs : List Char) : Bool :=
  (cs.dropWhile (· ≠ first)).contains second

/-- A set in brackets begins somewhere in the characters and is closed. -/
def hasSet : List Char → Bool
  | [] => false
  | '[' :: rest => (rest.takeWhile (· ≠ '[')).contains ']' || hasSet rest
  | _ :: rest => hasSet rest

/-- The marks that turn the group behind them into a pattern. -/
def groupMarks : List Char := ['!', '*', '+', '?', '@']

/-- A group behind a mark, or one with alternatives. -/
def hasGroup : (previous : Option Char) → List Char → Bool
  | _, [] => false
  | previous, '(' :: rest =>
    let marked := previous.any groupMarks.contains
    (if marked then (rest.takeWhile (· ≠ '(')).contains ')'
      else hasAlternatives rest) || hasGroup (some '(') rest
  | _, c :: rest => hasGroup (some c) rest
where
  hasAlternatives (cs : List Char) : Bool :=
    match cs.dropWhile (· ≠ '|') with
    | '|' :: after =>
      !(cs.takeWhile (· ≠ '|')).contains '(' && (after.takeWhile (· ≠ '|')).contains ')'
    | _ => false

/-- Braces that would be expanded. -/
def hasBraces (cs : List Char) : Bool :=
  match cs.dropWhile (· ≠ '\x7b') with
  | _ :: rest =>
    let inside := rest.takeWhile (· ≠ '\x7d')
    rest.contains '\x7d' && (inside.contains ',' || hasPoints inside)
  | [] => false
where
  hasPoints : List Char → Bool
    | '.' :: '.' :: _ => true
    | _ :: rest => hasPoints rest
    | [] => false

/-- Nothing in the text is a pattern. -/
def isFixed (text : String) : Bool :=
  let cs := text.toList
  !(cs.contains '*' || cs.contains '?' || cs.contains '\\' || cs.head? == some '!' || hasSet cs
    || hasGroup none cs || hasBraces cs)

/-! ## The base -/

/-- A mark that makes the front of a glob a pattern stands in the text. -/
def hasMark : (previous : Option Char) → List Char → Bool
  | _, [] => false
  | _, '\\' :: _ :: rest => hasMark none rest
  | _, '*' :: _ => true
  | previous, '?' :: rest =>
    previous.any [']', '.', '+', ')'].contains || isClosedGroup rest || hasMark (some '?') rest
  | _, '[' :: rest => (rest.head? != some ']' && rest.contains ']') || hasMark (some '[') rest
  | _, '\x7b' :: rest =>
    (rest.head? != some '\x7d' && rest.contains '\x7d') || hasMark (some '\x7b') rest
  | _, '(' :: rest =>
    (match rest with
      | '?' :: mark :: c :: after => [':', '!', '='].contains mark && c != ')' && after.contains ')'
      | _ => false)
    || (rest.head? != some '|' && hasBefore '|' ')' rest)
    || hasMark (some '(') rest
  | _, c :: rest =>
    (groupMarks.contains c && isClosedGroup rest) || hasMark (some c) rest
where
  isClosedGroup (rest : List Char) : Bool := rest.head? == some '(' && rest.contains ')'

/-- A bracket or brace opens, or a parenthesis that is not closed. -/
def hasOpening : List Char → Bool
  | [] => false
  | '\\' :: _ :: rest => hasOpening rest
  | '[' :: _ => true
  | '\x7b' :: _ => true
  | '(' :: rest => (!rest.isEmpty && !rest.contains ')') || hasOpening rest
  | _ :: rest => hasOpening rest

/-- The front of a glob is a pattern itself. -/
def isMoving (text : String) : Bool :=
  text.startsWith "!" || hasMark none text.toList || hasOpening text.toList

/-- The text ends in a bracket or brace that was opened before. -/
def endsEnclosed (text : String) : Bool :=
  let cs := text.toList
  (cs.getLast? == some ']' || cs.getLast? == some '\x7d')
    && (cs.dropLast.contains '[' || cs.dropLast.contains '\x7b')

/-- The longest front of the parts that is no pattern; a text alone in its
    directory stands in `.`. -/
def frontOf : (steps : Nat) → List String → String
  | 0, _ => "."
  | steps + 1, parts =>
    match parts.dropLast with
    | [] => "."
    | [""] => "/"
    | front =>
      let text := "/".intercalate front
      if isMoving text then frontOf steps front else text

/-- The directory a walk for the glob starts at: its leading fixed parts, `.`
    if there are none. -/
def base (text : String) : String :=
  let parts := Path.segments (if endsEnclosed text then text ++ "/" else text)
  frontOf (parts.length + 1) parts

/-- A directory that the glob takes is not entered: so for globs that end in
    `/**` or in a fixed name. -/
def prunes (text : String) : Bool :=
  text.endsWith "/**" || isFixed (Path.baseName text)

/-- The glob leads out of the directory it is read from. -/
def leadsOut (text : String) : Bool :=
  text.startsWith ".." || text.startsWith "./.."

end TypeLineage.Glob
