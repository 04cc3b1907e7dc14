import TypeLineage.Text.Letters

/-! # Tokens of source texts

    A token is a lexeme of a source text.  A template comes in pieces: one up to
    each hole and one up to its end, with the tokens of the holes between
    them. -/

namespace TypeLineage.Source

/-- A lexeme. -/
inductive Token where
  /-- A name or keyword. -/
  | word (text : String)
  /-- A name behind a hash. -/
  | hidden (text : String)
  /-- A number, by its shortest text. -/
  | number (text : String)
  /-- An integer of any size, by its digits. -/
  | bigNumber (text : String)
  | text (content : String) (isSingle : Bool)
  /-- A piece of a template; the last has no hole behind it. -/
  | template (content : String) (isLast : Bool)
  /-- A regular expression. -/
  | pattern
  | mark (text : String)
  /-- The end of the text. -/
  | finish
  deriving DecidableEq, Repr, Inhabited

/-- The words that are never names. -/
def reservedWords : List String := [
  "break", "case", "catch", "class", "const", "continue", "debugger", "default", "delete", "do",
  "else", "enum", "export", "extends", "false", "finally", "for", "function", "if", "import",
  "in", "instanceof", "new", "null", "return", "super", "switch", "this", "throw", "true", "try",
  "typeof", "var", "void", "while", "with"]

/-- The words that have a meaning of their own in some places and are names elsewhere. -/
def contextualWords : List String := [
  "implements", "interface", "let", "package", "private", "protected", "public", "static",
  "yield", "abstract", "accessor", "as", "asserts", "assert", "any", "async", "await", "boolean",
  "constructor", "declare", "get", "infer", "intrinsic", "is", "keyof", "module", "namespace",
  "never", "out", "readonly", "require", "number", "object", "satisfies", "set", "string",
  "symbol", "type", "undefined", "unique", "unknown", "using", "from", "global", "bigint",
  "override", "of", "defer"]

/-- The words that may stand before a declaration or a member. -/
def modifierWords : List String := [
  "abstract", "accessor", "async", "const", "declare", "default", "export", "in", "public",
  "private", "protected", "readonly", "static", "out", "override"]

/-- The words before a member that say at once that one follows. -/
def memberModifierWords : List String := [
  "public", "private", "protected", "readonly", "override", "static", "accessor"]

namespace Token

/-- The token is the keyword. -/
def isWord (t : Token) (text : String) : Bool :=
  match t with
  | .word w => w == text
  | _ => false

/-- The token is one of the keywords. -/
def isAnyWord (t : Token) (words : List String) : Bool :=
  match t with
  | .word w => words.contains w
  | _ => false

/-- The token is the mark. -/
def isMark (t : Token) (text : String) : Bool :=
  match t with
  | .mark m => m == text
  | _ => false

/-- The token is one of the marks. -/
def isAnyMark (t : Token) (marks : List String) : Bool :=
  match t with
  | .mark m => marks.contains m
  | _ => false

/-- The text of a name or keyword. -/
def word? : Token → Option String
  | .word w => some w
  | _ => none

/-- The word of a token that is a name. -/
def name? : Token → Option String
  | .word w => if reservedWords.contains w then none else some w
  | _ => none

/-- The token is a text in quotes. -/
def isText : Token → Bool
  | .text .. => true
  | _ => false

/-- The token begins a template. -/
def isTemplate : Token → Bool
  | .template .. => true
  | _ => false

/-- The token is a number. -/
def isNumber : Token → Bool
  | .number _ | .bigNumber _ => true
  | _ => false

/-- The token is a name, a keyword or a hidden name. -/
def isNameOrKeyword : Token → Bool
  | .word _ | .hidden _ => true
  | _ => false

/-- The token names a member as it stands. -/
def isMemberName (t : Token) : Bool := t.isNameOrKeyword || t.isText || t.isNumber

end Token

end TypeLineage.Source
