import TypeLineage.Source.Lexer

/-! # What begins what

    Whether something begins at a cursor is told from the tokens there, without
    reading it.  A list goes on as long as an item begins, and ends at what
    closes it.  Where neither is the case, a token is passed over, unless some
    list around begins an item with it or is closed by it. -/

namespace TypeLineage.Source

/-- The precedences of the operations between two values. -/
def precedences : List (String × Nat) := [
  ("??", 1), ("||", 1), ("&&", 2), ("|", 3), ("^", 4), ("&", 5), ("==", 6), ("!=", 6),
  ("===", 6), ("!==", 6), ("<", 7), (">", 7), ("<=", 7), (">=", 7), ("instanceof", 7),
  ("in", 7), ("as", 7), ("satisfies", 7), ("<<", 8), (">>", 8), (">>>", 8), ("+", 9), ("-", 9),
  ("*", 10), ("/", 10), ("%", 10), ("**", 11)]

namespace Cursor

/-! ## Names and the ends of statements -/

/-- The cursor stands at a name. -/
def isName (c : Cursor) : Bool :=
  match c.token with
  | .word w =>
    if w = "yield" && c.around.yields then false
    else if w = "await" && c.around.awaits then false
    else !reservedWords.contains w
  | _ => false

/-- The cursor stands at a name that may be given to something. -/
def isBinding (c : Cursor) : Bool := c.token.name?.isSome

/-- A name or pattern begins. -/
def startsBinding (c : Cursor) : Bool :=
  c.isBinding || match c.token with
    | .hidden _ => true
    | .mark m => m == "[" || m == "\x7b"
    | _ => false

/-- A statement may end before the token. -/
def endsStatement (c : Cursor) : Bool :=
  c.isFirst || c.token == .finish || c.token.isAnyMark [";", "\x7d"]

/-- The next token has a property. -/
def nextIs (c : Cursor) (p : Token → Bool) : Bool := p c.next.token

/-- The next token has a property and stands on the same line. -/
def nextOnLineIs (c : Cursor) (p : Token → Bool) : Bool :=
  let d := c.next
  !d.isFirst && p d.token

/-- A list of clauses goes on with this word, and it names nothing. -/
def isClause (c : Cursor) : Bool := c.token.isAnyWord ["extends", "implements"]

/-! ## Modifiers -/

/-- What may stand behind a modifier. -/
def followsModifier (c : Cursor) : Bool :=
  c.token.isAnyMark ["[", "\x7b", "*", "..."] || c.token.isMemberName

/-- What may stand behind a word that makes a declaration the default. -/
def followsDefault (c : Cursor) : Bool :=
  c.token.isAnyWord ["class", "function", "interface"] || c.token.isMark "@"
    || (c.token.isWord "abstract" && c.nextOnLineIs (·.isWord "class"))
    || (c.token.isWord "async" && c.nextOnLineIs (·.isWord "function"))

/-- What may stand behind a word that makes a declaration known. -/
def followsExport (c : Cursor) : Bool :=
  c.token.isMark "@"
    || (!c.token.isAnyMark ["*", "\x7b"] && !c.token.isWord "as" && c.followsModifier)

/-- The cursor stands at a modifier, and not at a name. -/
def isModifier (c : Cursor) : Bool :=
  match c.token with
  | .word w =>
    if !modifierWords.contains w then false
    else
      let d := c.next
      if w = "const" then d.token.isWord "enum"
      else if w = "export" then
        if d.token.isWord "default" then d.next.followsDefault
        else if d.token.isWord "type" then d.next.followsExport
        else d.followsExport
      else if w = "default" then d.followsDefault
      else if w = "static" then d.followsModifier
      else !d.isFirst && d.followsModifier
  | _ => false

/-- The cursor stands before the name of an accessor. -/
def startsAccessor (c : Cursor) : Bool :=
  c.token.isAnyWord ["get", "set"] && c.nextIs fun t => t.isMark "[" || t.isMemberName

/-! ## Types and parameters -/

/-- A type begins; what stands in parentheses is left open. -/
def startsTypeBut (c : Cursor) (inParameter : Bool) : Bool :=
  c.isName || match c.token with
    | .word w =>
      ["void", "null", "this", "typeof", "new", "true", "false", "import"].contains w
        || (w == "function" && !inParameter)
    | .mark m =>
      ["\x7b", "[", "<", "|", "&", "*", "?", "!", "..."].contains m
        || (m == "-" && !inParameter && c.nextIs Token.isNumber)
    | t => t.isText || t.isNumber || t.isTemplate

/-- A parameter begins. -/
def startsParameter (c : Cursor) : Bool :=
  c.token.isAnyMark ["...", "@"] || c.startsBinding || c.token.isAnyWord modifierWords
    || c.startsTypeBut true

/-- A type begins. -/
def startsType (c : Cursor) : Bool := loop longest c
where
  loop : Nat → Cursor → Bool
    | 0, _ => false
    | n + 1, c =>
      if c.token.isMark "(" then
        let d := c.next
        d.token.isMark ")" || d.startsParameter || loop n d
      else c.startsTypeBut false

/-! ## Values -/

/-- A value begins that may be assigned to. -/
def startsReference (c : Cursor) : Bool :=
  c.isName || match c.token with
    | .word w =>
      ["this", "super", "null", "true", "false", "function", "class", "new"].contains w
        || (w == "import" && c.nextIs (·.isAnyMark ["(", "<", "."]))
    | .mark m => ["(", "[", "\x7b", "/"].contains m
    | t => t.isText || t.isNumber || t.isTemplate

/-- An operation between two values stands at the cursor. -/
def isOperation (c : Cursor) : Bool :=
  match c.token with
  | .mark m => (precedences.lookup m).isSome
  | .word w => (precedences.lookup w).isSome && !(w = "in" && c.around.excludesIn)
  | _ => false

/-- A value begins. -/
def startsValue (c : Cursor) : Bool :=
  c.startsReference || c.isOperation || match c.token with
    | .hidden _ => true
    | .word w => ["delete", "typeof", "void", "await", "yield"].contains w
    | .mark m => ["+", "-", "~", "!", "++", "--", "<", "@"].contains m
    | _ => false

/-! ## Statements -/

/-- Variables that are given up at the end of their block are declared. -/
def startsUsing (c : Cursor) : Bool :=
  c.token.isWord "using" &&
    let d := c.next
    !d.isFirst && (d.isBinding || d.token.isMark "\x7b")

/-- Such variables are declared that are waited for. -/
def startsAwaitUsing (c : Cursor) : Bool :=
  c.token.isWord "await" &&
    let d := c.next
    !d.isFirst && d.startsUsing

/-- A declaration begins. -/
def startsDeclaration (c : Cursor) : Bool := loop longest c
where
  loop : Nat → Cursor → Bool
    | 0, _ => false
    | n + 1, c =>
      let d := c.next
      match c.token with
      | .word w =>
        if ["var", "let", "const", "function", "class", "enum"].contains w then true
        else if w = "using" then c.startsUsing
        else if w = "await" then c.startsAwaitUsing
        else if ["interface", "type", "defer"].contains w then !d.isFirst && d.isName
        else if w = "module" || w = "namespace" then !d.isFirst && (d.isName || d.token.isText)
        else if ["abstract", "accessor", "async", "declare", "private", "protected", "public",
            "readonly"].contains w then
          if d.isFirst then false
          else if w = "declare" && d.token.isWord "type" then true
          else loop n d
        else if w = "global" then
          d.token.isMark "\x7b" || d.token.isWord "export"
            || (d.isName && !d.token.isAnyWord contextualWords)
        else if w = "import" then
          d.token.isText || d.token.isAnyMark ["*", "\x7b"] || d.token.isNameOrKeyword
        else if w = "export" then
          let e := if d.token.isWord "type" then d.next else d
          if e.token.isAnyMark ["=", "*", "\x7b", "@"] || e.token.isAnyWord ["default", "as"] then
            true
          else loop n d
        else if w = "static" then loop n d
        else false
      | _ => false

/-- A statement begins. -/
def startsStatement (c : Cursor) : Bool :=
  match c.token with
  | .mark m => m == "@" || m == ";" || m == "\x7b" || c.startsValue
  | .word w =>
    if ["var", "let", "using", "function", "class", "enum", "if", "do", "while", "for", "continue",
        "break", "return", "with", "switch", "throw", "try", "debugger", "catch", "finally",
        "async", "declare", "interface", "module", "namespace", "type", "global",
        "defer"].contains w then true
    else if w = "import" then
      c.startsDeclaration || c.nextIs (·.isAnyMark ["(", "<", "."])
    else if w = "const" || w = "export" then c.startsDeclaration
    else if ["accessor", "public", "private", "protected", "static", "readonly"].contains w then
      c.startsDeclaration || !c.nextOnLineIs Token.isNameOrKeyword
    else c.startsValue
  | _ => c.startsValue

/-- A statement begins that is a value. -/
def startsValueStatement (c : Cursor) : Bool :=
  !c.token.isAnyMark ["\x7b", "@"] && !c.token.isAnyWord ["function", "class"] && c.startsValue

/-! ## Members -/

/-- The keyword, if the token is one, stands for itself only in places of its own. -/
def isKeyword (t : Token) : Bool := t.isAnyWord reservedWords || t.isAnyWord contextualWords

/-- The modifiers at the cursor are passed over, with the last of them. -/
def passModifiers : Nat → Option Token → Cursor → Option Token × Cursor
  | 0, last, c => (last, c)
  | n + 1, last, c =>
    if c.token.isAnyWord modifierWords then passModifiers n (some c.token) c.next else (last, c)

/-- The modifiers at the cursor say at once that a member follows. -/
def startsSurely : Nat → Cursor → Bool
  | 0, _ => false
  | n + 1, c =>
    c.token.isAnyWord memberModifierWords
      || (c.token.isAnyWord modifierWords && startsSurely n c.next)

/-- A member of a class begins. -/
def startsClassMember (c : Cursor) : Bool :=
  if c.token.isMark "@" || startsSurely longest c then true
  else
    let (last, c) := passModifiers longest none c
    if c.token.isMark "*" then true
    else
      let (last, c) := if c.token.isMemberName then (some c.token, c.next) else (last, c)
      if c.token.isMark "[" then true
      else match last with
        | none => false
        | some t =>
          !isKeyword t || t.isAnyWord ["get", "set"]
            || c.token.isAnyMark ["(", "<", "!", ":", "=", "?"] || c.endsStatement

/-- A member of an object type begins. -/
def startsTypeMember (c : Cursor) : Bool :=
  if c.token.isAnyMark ["(", "<"] || c.token.isAnyWord ["get", "set"] then true
  else
    let (last, c) := passModifiers longest none c
    if c.token.isMark "[" then true
    else
      let (isNamed, c) := if c.token.isMemberName then (true, c.next) else (last.isSome, c)
      isNamed && (c.token.isAnyMark ["(", "<", "?", ":", ","] || c.endsStatement)

/-! ## Lists -/

/-- Braces at the cursor are an object that a clause names, and not the members. -/
def startsNamedObject (c : Cursor) : Bool :=
  let d := c.next
  if d.token.isMark "\x7d" then
    let e := d.next
    e.token.isAnyMark [",", "\x7b"] || e.isClause
  else true

/-- The cursor stands at a word for a clause, behind which a value begins. -/
def isClauseWord (c : Cursor) : Bool := c.isClause && c.next.startsValue

/-- An item of a list begins; in a list that is left, less counts as one. -/
def startsItem (c : Cursor) (isLeft : Bool) : ListKind → Bool
  | .source | .block | .caseBody => !(c.token.isMark ";" && isLeft) && c.startsStatement
  | .cases => c.token.isAnyWord ["case", "default"]
  | .typeMembers => c.startsTypeMember
  | .classMembers => c.startsClassMember || (c.token.isMark ";" && !isLeft)
  | .enumMembers => c.token.isMark "[" || c.token.isMemberName
  | .objectItems => c.token.isAnyMark ["[", "*", "...", "."] || c.token.isMemberName
  | .objectPattern => c.token.isAnyMark ["[", "..."] || c.token.isMemberName
  | .heritageItems =>
    if c.token.isMark "\x7b" then c.startsNamedObject
    else (if isLeft then c.isName else c.startsReference) && !c.isClauseWord
  | .variables => c.startsBinding
  | .arrayPattern => c.token.isAnyMark [",", "..."] || c.startsBinding
  | .typeParameters => c.token.isAnyWord ["in", "const"] || c.isName
  | .arrayItems => c.token.isAnyMark [",", ".", "..."] || c.startsValue
  | .arguments => c.token.isMark "..." || c.startsValue
  | .parameters => c.startsParameter
  | .typeArguments | .tupleItems => c.token.isMark "," || c.startsType
  | .heritage => c.isClause
  | .specifiers =>
    if c.token.isWord "from" && c.nextIs Token.isText then false
    else c.token.isText || c.token.isNameOrKeyword

/-- A list ends at the token. -/
def endsList (c : Cursor) (kind : ListKind) : Bool :=
  c.token == .finish || match kind with
    | .source => false
    | .block | .cases | .typeMembers | .classMembers | .enumMembers | .objectItems
    | .objectPattern | .specifiers => c.token.isMark "\x7d"
    | .caseBody => c.token.isMark "\x7d" || c.token.isAnyWord ["case", "default"]
    | .heritageItems => c.token.isMark "\x7b" || c.isClause
    | .variables => c.endsStatement || c.token.isAnyWord ["in", "of"] || c.token.isMark "=>"
    | .typeParameters => c.token.isAnyMark [">", "(", "\x7b"] || c.isClause
    | .arguments => c.token.isAnyMark [")", ";"]
    | .arrayItems | .tupleItems | .arrayPattern => c.token.isMark "]"
    | .parameters => c.token.isAnyMark [")", "]"]
    | .typeArguments => !c.token.isMark ","
    | .heritage => c.token.isAnyMark ["\x7b", "\x7d"]

/-- Some list around goes on or ends with the token. -/
def isExpected (c : Cursor) : Bool :=
  c.around.lists.any fun k => c.startsItem true k || c.endsList k

end Cursor

end TypeLineage.Source
