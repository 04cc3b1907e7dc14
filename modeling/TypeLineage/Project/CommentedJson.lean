import TypeLineage.Project.CommentedJson.Token

/-! # JSON with comments

    Project configurations are JSON with comments and trailing commas, read by
    a reader of expressions: other expressions can be read too, but are no
    values.  An empty text is an empty object, and the root must be an object.

    The first fault of the notation is told; where there is none, a root that
    is no object, or else the first part that is no JSON value. -/

namespace TypeLineage.CommentedJson

/-! ## Reading -/

/-- What reading carries along: the first part that is no JSON value. -/
abbrev Reading := StateT (Option Fault) (Except Fault)

/-- The next token and what follows it. -/
def peek (cs : List Char) : Reading (Lexeme × List Char) := fun late => (next false cs).map (·, late)

/-- Remembers a part that is no JSON value. -/
def note (fault : Fault) : Reading Unit := modify fun late => late.or (some fault)

/-- Reads something in which no value is expected: what is no value in it is not told. -/
def unnoted {α : Type} (r : Reading α) : Reading α := do
  let late ← get
  let found ← r
  set late
  pure found

/-- What an expression is. -/
inductive Shape where
  | value (v : Json)
  | name
  /-- Something that can be assigned to or called. -/
  | target
  | other
  deriving Repr

/-- The words that are values. -/
def words : List (String × Json) := [("true", .bool true), ("false", .bool false), ("null", .null)]

/-- The words that are no names. -/
def reservedWords : List String := [
  "break", "case", "catch", "class", "const", "continue", "debugger", "default", "delete", "do",
  "else", "enum", "export", "extends", "false", "finally", "for", "function", "if", "import", "in",
  "instanceof", "new", "null", "return", "super", "switch", "this", "throw", "true", "try",
  "typeof", "var", "void", "while", "with"]

/-- Words before an operand. -/
def operandWords : List String := ["typeof", "void", "delete"]

/-- Marks before an operand. -/
def operandMarks : List String := ["+", "-", "~", "!", "++", "--"]

/-- Reserved words that begin an expression. -/
def startWords : List String :=
  ["true", "false", "null", "this", "super", "function", "class", "new", "import"] ++ operandWords

/-- Marks between two operands. -/
def binaryMarks : List String := [
  "??", "||", "&&", "|", "^", "&", "==", "!=", "===", "!==", "<", ">", "<=", "<<", "+", "-", "*",
  "/", "%", "**"]

/-- Marks that assign to what stands before them. -/
def assigningMarks : List String := [
  "=", "+=", "-=", "*=", "**=", "%=", "<<=", "&=", "|=", "^=", "||=", "&&=", "??="]

/-- A token begins an expression. -/
def startsExpression : Lexeme → Bool
  | .mark m => ["(", "[", "\x7b", "/", "\x60", "<", "@"].contains m || operandMarks.contains m
      || binaryMarks.contains m
  | .word w => startWords.contains w || !reservedWords.contains w || w = "in" || w = "instanceof"
  | .stop => false
  | _ => true

/-- What follows the mark that closes what is open, and the marks before it. -/
def skipClosed : (steps depth : Nat) → List Char → Reading (List Char)
  | 0, _, cs => pure cs
  | steps + 1, depth, cs => do
    let (token, rest) ← peek cs
    match token with
    | .stop => pure cs
    | .mark m =>
      if ["(", "[", "\x7b"].contains m then skipClosed steps (depth + 1) rest
      else if [")", "]", "\x7d"].contains m then
        if depth = 0 then pure rest else skipClosed steps (depth - 1) rest
      else if m = "\x60" then skipClosed steps depth ((rest.dropWhile (· ≠ '\x60')).drop 1)
      else skipClosed steps depth rest
    | _ => skipClosed steps depth rest

/-- What follows a type behind an expression. -/
def skipType : (steps : Nat) → List Char → Reading (List Char)
  | 0, cs => pure cs
  | steps + 1, cs => do
    let (token, rest) ← peek cs
    match token with
    | .mark m =>
      if [".", "|", "&", "<", ">", "=>"].contains m then skipType steps rest
      else if ["(", "[", "\x7b"].contains m then do
        let after ← skipClosed rest.length 0 rest
        skipType steps after
      else pure cs
    | .stop => pure cs
    | _ => skipType steps rest

/-- Passes over a mark that must follow. -/
def expect (m : String) (cs : List Char) : Reading (List Char) := do
  let (token, rest) ← peek cs
  match token with
  | .mark found => if found = m then pure rest else throw (.expected m)
  | _ => throw (.expected m)

/-- Passes over what stands between an opening mark, which must follow, and the mark that
    closes it. -/
def expectGroup (m : String) (cs : List Char) : Reading (List Char) := do
  let rest ← expect m cs
  skipClosed rest.length 0 rest

/-- The list of parameters that begins here is one of a function with an arrow. -/
def arrowFollows (cs : List Char) : Reading Bool := do
  let late ← get
  pure <| match (do next false (← (skipClosed cs.length 0 cs).run late).1) with
    | .ok (.mark "=>", _) => true
    | _ => false

/-! ## Values -/

/-- A number with its sign changed. -/
def negate : JsonNumber → JsonNumber
  | .int n => if n = 0 then .real (.zero true) else .int (-n)
  | .real (.finite s m e) => .real (.finite (!s) m e)
  | .real (.infinite s) => .real (.infinite (!s))
  | .real .notANumber => .real .notANumber

/-- The members of an object.  The name of the hidden parent of an object is no
    member. -/
def orderedMembers (members : List (String × Json)) : List (String × Json) :=
  Json.orderMembers (members.filter (·.1 ≠ "__proto__"))

/-- A token may be the name of a member. -/
def isMemberName : Lexeme → Bool
  | .word _ | .text _ _ | .number _ | .bigNumber => true
  | _ => false

/-- A modifier may stand before the token. -/
def followsModifier (token : Lexeme) : Bool :=
  isMemberName token || match token with
    | .mark m => ["[", "\x7b", "*", "..."].contains m
    | _ => false

/-- Words that may stand before the name of a member on the same line. -/
def modifierWords : List String := [
  "abstract", "accessor", "async", "declare", "in", "public", "private", "protected", "out",
  "override", "readonly"]

/-- The word is a modifier of the member behind it. -/
def isModifier (w : String) (token : Lexeme) (broken : Bool) : Bool :=
  followsModifier token && (w = "static" || (modifierWords.contains w && !broken))

/-- A number of steps within which reading ends. -/
def enough (cs : List Char) : Nat := 8 * cs.length + 8

mutual

/-- Reads an expression without commas. -/
def readExpression : Nat → List Char → Reading (Shape × List Char)
  | 0, _ => throw .noValue
  | fuel + 1, cs => do
    let (token, rest) ← peek cs
    match token with
    | .mark "(" =>
      if ← arrowFollows rest then do
        let after ← skipClosed rest.length 0 rest
        readArrow fuel after
      else readOperands fuel cs
    | .word "async" => do
      let (token', rest') ← peek rest
      match token' with
      | .mark "(" =>
        if ← arrowFollows rest' then do
          let after ← skipClosed rest'.length 0 rest'
          readArrow fuel after
        else readOperands fuel cs
      | .word "function" => readOperands fuel rest
      | .word _ => do
        match (← peek rest').1 with
        | .mark "=>" => readArrow fuel rest'
        | _ => readOperands fuel cs
      | _ => readOperands fuel cs
    | _ => readOperands fuel cs

/-- Reads the arrow of a function and what follows it. -/
def readArrow : Nat → List Char → Reading (Shape × List Char)
  | 0, _ => throw .noValue
  | fuel + 1, cs => do
    let rest ← expect "=>" cs
    match (← peek rest).1 with
    | .mark "\x7b" => do
      let after ← expectGroup "\x7b" rest
      pure (.other, after)
    | _ => do
      let (_, after) ← unnoted (readExpression fuel rest)
      pure (.other, after)

/-- Reads an operand and the operators behind it. -/
def readOperands : Nat → List Char → Reading (Shape × List Char)
  | 0, _ => throw .noValue
  | fuel + 1, cs => do
    let late ← get
    let (shape, rest) ← readOperand fuel cs
    let isTarget := match shape with
      | .other => false
      | _ => true
    let (token, after) ← peek rest
    let (whole, end') ← match token, shape with
      | .mark "=>", .name => readArrow fuel rest
      | .mark m, _ =>
        if isTarget && assigningMarks.contains m then do
          let (_, after') ← readExpression fuel after
          pure (Shape.other, after')
        else readOperators fuel shape rest
      | _, _ => readOperators fuel shape rest
    match whole with
    | .value _ => pure ()
    | _ => set late
    pure (whole, end')

/-- Reads the operators behind an operand. -/
def readOperators : Nat → Shape → List Char → Reading (Shape × List Char)
  | 0, _, _ => throw .noValue
  | fuel + 1, shape, cs => do
    let (token, rest) ← peek cs
    match token with
    | .mark "?" => do
      let (_, after) ← readExpression fuel rest
      let after ← expect ":" after
      let (_, after) ← readExpression fuel after
      pure (.other, after)
    | .mark m =>
      if binaryMarks.contains m then do
        let rest := if m = ">" then rest.dropWhile (fun c => c = '>' || c = '=') else rest
        let (_, after) ← readOperand fuel rest
        readOperators fuel .other after
      else pure (shape, cs)
    | .word w =>
      if w = "in" || w = "instanceof" then do
        let (_, after) ← readOperand fuel rest
        readOperators fuel .other after
      else if (w = "as" || w = "satisfies") && !breaksLine cs then do
        let after ← skipType rest.length rest
        readOperators fuel .other after
      else pure (shape, cs)
    | _ => pure (shape, cs)

/-- Reads an operand with the operators before it. -/
def readOperand : Nat → List Char → Reading (Shape × List Char)
  | 0, _ => throw .noValue
  | fuel + 1, cs => do
    let (token, rest) ← peek cs
    match token with
    | .mark "-" => do
      let (operand, after) ← StateT.lift (next true rest)
      match operand with
      | .number n => do
        let (shape, end') ← readSuffixes fuel (.value (.number (negate n))) after
        match shape with
        | .value v => pure (.value v, end')
        | _ => pure (.other, end')
      | _ => do
        let (_, end') ← readOperand fuel rest
        pure (.other, end')
    | .mark m =>
      if operandMarks.contains m then do
        let (_, after) ← readOperand fuel rest
        pure (.other, after)
      else readTarget fuel cs
    | .word w => do
      let awaits ← if w = "await" && !breaksLine rest then
          pure <| match (← peek rest).1 with
            | .word _ | .text _ _ | .number _ | .bigNumber => true
            | _ => false
        else pure false
      if operandWords.contains w || awaits then do
        let (_, after) ← readOperand fuel rest
        pure (.other, after)
      else readTarget fuel cs
    | _ => readTarget fuel cs

/-- Reads what can be assigned to or called. -/
def readTarget : Nat → List Char → Reading (Shape × List Char)
  | 0, _ => throw .noValue
  | fuel + 1, cs => do
    let (token, rest) ← peek cs
    match token with
    | .text s double => do
      if !double then note .otherQuotes
      readSuffixes fuel (.value (.string s)) rest
    | .number n => readSuffixes fuel (.value (.number n)) rest
    | .bigNumber | .hidden => readSuffixes fuel .target rest
    | .word "function" => do
      let rest ← match (← peek rest) with
        | (.mark "*", after) => pure after
        | _ => pure rest
      let rest ← match (← peek rest) with
        | (.word _, after) => pure after
        | _ => pure rest
      let after ← expectGroup "(" rest
      let after ← expectGroup "\x7b" after
      readSuffixes fuel .target after
    | .word "class" => do
      let rest ← match (← peek rest) with
        | (.word _, after) => pure after
        | _ => pure rest
      let after ← expectGroup "\x7b" rest
      readSuffixes fuel .target after
    | .word "new" => do
      let (_, after) ← readTarget fuel rest
      pure (.target, after)
    | .word w =>
      match words.lookup w with
      | some v => readSuffixes fuel (.value v) rest
      | none =>
        if reservedWords.contains w && !startWords.contains w then throw .noValue
        else readSuffixes fuel .name rest
    | .mark "\x7b" => do
      let (members, after) ← readMembers fuel rest
      readSuffixes fuel (.value (.object (orderedMembers members))) after
    | .mark "[" => do
      let (items, after) ← readItems fuel rest
      readSuffixes fuel (.value (.array items)) after
    | .mark "(" => do
      let (_, after) ← readSequence fuel rest
      let after ← expect ")" after
      readSuffixes fuel .target after
    | .mark "\x60" => readSuffixes fuel .target ((rest.dropWhile (· ≠ '\x60')).drop 1)
    | .mark "/" => readSuffixes fuel .target (Source.afterPattern rest)
    | _ => throw .noValue

/-- Reads expressions with commas between them. -/
def readSequence : Nat → List Char → Reading (Shape × List Char)
  | 0, _ => throw .noValue
  | fuel + 1, cs => do
    let (shape, rest) ← unnoted (readExpression fuel cs)
    match ← peek rest with
    | (.mark ",", after) => readSequence fuel after
    | _ => pure (shape, rest)

/-- Reads what is got from a value: members, parts and results. -/
def readSuffixes : Nat → Shape → List Char → Reading (Shape × List Char)
  | 0, _, _ => throw .noValue
  | fuel + 1, shape, cs => do
    let (token, rest) ← peek cs
    match token with
    | .mark "." => do
      match ← peek rest with
      | (.word _, after) => readSuffixes fuel .target after
      | (.hidden, after) => readSuffixes fuel .target after
      | _ => throw .noName
    | .mark "?." => do
      match ← peek rest with
      | (.word _, after) => readSuffixes fuel .target after
      | (.mark "[", _) => readSuffixes fuel .target rest
      | (.mark "(", _) => readSuffixes fuel .target rest
      | _ => throw .noName
    | .mark "[" => do
      let (_, after) ← readSequence fuel rest
      let after ← expect "]" after
      readSuffixes fuel .target after
    | .mark "(" => do
      let after ← readArguments fuel rest
      readSuffixes fuel .target after
    | .mark "\x60" => readSuffixes fuel .target ((rest.dropWhile (· ≠ '\x60')).drop 1)
    | .mark m =>
      if m = "!" && !breaksLine cs then readSuffixes fuel .target rest
      else if (m = "++" || m = "--") && !breaksLine cs then pure (.other, rest)
      else pure (shape, cs)
    | _ => pure (shape, cs)

/-- Reads what a function is called with, up to the mark that closes it. -/
def readArguments : Nat → List Char → Reading (List Char)
  | 0, _ => throw .noValue
  | fuel + 1, cs => do
    let (token, rest) ← peek cs
    match token with
    | .mark ")" => pure rest
    | .stop => throw (.expected ")")
    | _ => do
      let isRest := match token with
        | .mark m => m = "..."
        | _ => false
      if !isRest && !startsExpression token then throw .noArgument
      let (_, after) ← unnoted (readExpression fuel (if isRest then rest else cs))
      match ← peek after with
      | (.mark ",", after) => readArguments fuel after
      | (.mark ")", after) => pure after
      | (.stop, _) => throw (.expected ")")
      | _ => throw (.expected ",")

/-- Reads a value; none where an expression is no value. -/
def readValue : Nat → List Char → Reading (Option Json × List Char)
  | 0, _ => throw .noValue
  | fuel + 1, cs => do
    let (shape, rest) ← readExpression fuel cs
    match shape with
    | .value v => pure (some v, rest)
    | _ => do
      note .otherValue
      pure (none, rest)

/-- Reads items up to the bracket that closes them. -/
def readItems : Nat → List Char → Reading (List Json × List Char)
  | 0, _ => throw .noValue
  | fuel + 1, cs => do
    let (token, rest) ← peek cs
    match token with
    | .mark "]" => pure ([], rest)
    | .stop => throw (.expected "]")
    | .mark "," => do
      note .otherValue
      readItems fuel rest
    | .mark "..." => do
      note .otherValue
      let (_, after) ← unnoted (readExpression fuel rest)
      readMoreItems fuel none after
    | _ => do
      let isPoint := match token with
        | .mark m => m = "."
        | _ => false
      if !isPoint && !startsExpression token then throw .noItem
      let (item, after) ← readValue fuel cs
      readMoreItems fuel item after

/-- Reads what follows an item. -/
def readMoreItems : Nat → Option Json → List Char → Reading (List Json × List Char)
  | 0, _, _ => throw .noValue
  | fuel + 1, item, cs => do
    match ← peek cs with
    | (.mark ",", rest) => do
      let (items, after) ← readItems fuel rest
      pure (item.toList ++ items, after)
    | (.mark "]", rest) => pure (item.toList, rest)
    | (.stop, _) => throw (.expected "]")
    | _ => throw (.expected ",")

/-- Reads members up to the brace that closes them. -/
def readMembers : Nat → List Char → Reading (List (String × Json) × List Char)
  | 0, _ => throw .noValue
  | fuel + 1, cs => do
    let (token, rest) ← peek cs
    match token with
    | .mark "\x7d" => pure ([], rest)
    | .stop => throw (.expected "\x7d")
    | .mark "..." => do
      note .noProperty
      let (_, after) ← unnoted (readExpression fuel rest)
      readMoreMembers fuel none after
    | _ => readMember fuel cs

/-- Reads a member and those behind it. -/
def readMember : Nat → List Char → Reading (List (String × Json) × List Char)
  | 0, _ => throw .noValue
  | fuel + 1, cs => do
    let (token, rest) ← peek cs
    match token with
    | .text s double => readNamed fuel s double false rest
    | .number _ | .bigNumber => readNamed fuel "" false false rest
    | .mark "[" => do
      let (_, after) ← readSequence fuel rest
      let after ← expect "]" after
      readNamed fuel "" false false after
    | .mark "*" => do
      note .noProperty
      match ← peek rest with
      | (.mark "[", _) | (.word _, _) | (.text _ _, _) | (.number _, _) | (.bigNumber, _) =>
        let (_, after) ← peek rest
        readFunction fuel after
      | _ => throw .noName
    | .word w => do
      let (token', rest') ← peek rest
      if (w = "get" || w = "set") && followsModifier token' then do
        note .noProperty
        readFunction fuel rest'
      else if isModifier w token' (breaksLine rest) then readMember fuel rest
      else readNamed fuel w false (!reservedWords.contains w) rest
    | _ => throw .noProperty

/-- Reads a function from its parameters on, and the members behind it. -/
def readFunction : Nat → List Char → Reading (List (String × Json) × List Char)
  | 0, _ => throw .noValue
  | fuel + 1, cs => do
    let after ← expectGroup "(" cs
    let after ← expectGroup "\x7b" after
    readMoreMembers fuel none after

/-- Reads the rest of a member behind its name, and the members behind it. -/
def readNamed : Nat → (key : String) → (double isWord : Bool) → List Char →
    Reading (List (String × Json) × List Char)
  | 0, _, _, _, _ => throw .noValue
  | fuel + 1, key, double, isWord, cs => do
    let (isOptional, cs) ← match ← peek cs with
      | (.mark "?", rest) => pure (true, rest)
      | _ => pure (false, cs)
    let cs ← match ← peek cs with
      | (.mark "!", rest) => pure rest
      | _ => pure cs
    let (token, rest) ← peek cs
    match token with
    | .mark "(" => do
      note .noProperty
      readFunction fuel cs
    | .mark ":" => do
      if isOptional then note .optionalProperty
      if !double then note .otherQuotes
      let (value, after) ← readValue fuel rest
      readMoreMembers fuel (value.map (key, ·)) after
    | .mark "=" =>
      if isWord then do
        note .noProperty
        let (_, after) ← unnoted (readExpression fuel rest)
        readMoreMembers fuel none after
      else throw (.expected ":")
    | _ =>
      if isWord then do
        note .noProperty
        readMoreMembers fuel none cs
      else throw (.expected ":")

/-- Reads what follows a member. -/
def readMoreMembers : Nat → Option (String × Json) → List Char →
    Reading (List (String × Json) × List Char)
  | 0, _, _ => throw .noValue
  | fuel + 1, member, cs => do
    match ← peek cs with
    | (.mark ",", rest) => do
      let (members, after) ← readMembers fuel rest
      pure (member.toList ++ members, after)
    | (.mark "\x7d", rest) => pure (member.toList, rest)
    | (.stop, _) => throw (.expected "\x7d")
    | _ => throw (.expected ",")

end

/-! ## Texts -/

/-- Reads the root: an object, or a value that stands where an object should. -/
def readRoot (fuel : Nat) (cs : List Char) : Reading Json := do
  let (token, rest) ← peek cs
  let leadsNoMember (after : List Char) : Reading Bool := do
    match ← peek after with
    | (.mark ":", _) => pure false
    | _ => pure true
  let (value, after) ← match token with
    | .mark "[" => do
      let (items, after) ← readItems fuel rest
      pure (Json.array items, after)
    | .mark "\x7b" => do
      let (members, after) ← readMembers fuel rest
      pure (Json.object (orderedMembers members), after)
    | .mark "-" => do
      match ← StateT.lift (next true rest) with
      | (.number _, after) =>
        if ← leadsNoMember after then do
          let (_, end') ← readOperand fuel cs
          pure (Json.null, end')
        else throw (.expected "\x7b")
      | _ => throw (.expected "\x7b")
    | .word w =>
      if (words.lookup w).isSome then pure (Json.null, rest) else throw (.expected "\x7b")
    | .text _ _ | .number _ =>
      if ← leadsNoMember rest then pure (Json.null, rest) else throw (.expected "\x7b")
    | _ => throw (.expected "\x7b")
  match (← peek after).1 with
  | .stop => pure value
  | _ => throw .moreTokens

/-- The object that a text spells. -/
def parse (text : String) : Except Fault Json := do
  let cs := Source.Cursor.dropInterpreter text.toList
  match ← skipAll cs with
  | [] => pure (.object [])
  | start =>
    let (value, late) ← (readRoot (enough cs) start).run none
    match value, late with
    | .object members, none => pure (.object members)
    | .object _, some fault => .error fault
    | _, _ => .error .rootNoObject

end TypeLineage.CommentedJson
