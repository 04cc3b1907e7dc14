import TypeLineage.Source.Lexer

/-! # Syntax of types

    Types and the heads of functions as they are written.  Parentheses are left
    out.  Values are not read here: a default, a body or a name in brackets is
    kept as the passage where it begins, to be read when it is asked for.
    Whatever gives rise to a type of its own remembers its spot, the number of
    the token it begins with, by which it is told from others of the same
    file. -/

namespace TypeLineage.Source

/-- A stretch of source that is read when it is asked for, by where it begins. -/
abbrev Passage := Cursor

/-- The name of a member. -/
inductive MemberName where
  | plain (text : String)
  | quoted (text : String) (isSingle : Bool)
  /-- A number, by its shortest text. -/
  | number (text : String)
  /-- A name behind a hash. -/
  | hidden (text : String)
  /-- A name that is the value of something. -/
  | computed (value : Passage)
  deriving Inhabited

/-- The name of a member that is known without running the program. -/
def MemberName.known? : MemberName → Option String
  | .plain text => some text
  | .quoted text _ => some text
  | .number text => some text
  | _ => none

mutual

/-- A name, or what takes a value apart into names.  The flag tells of a comma behind
    the last item. -/
inductive Pattern where
  | name (spot : Nat) (text : String)
  | object (spot : Nat) (items : List PatternItem) (trails : Bool)
  | array (spot : Nat) (items : List PatternItem) (trails : Bool)

/-- A part of a pattern. -/
inductive PatternItem where
  | hole
  | item (key : Option MemberName) (isRest : Bool) (pattern : Pattern) (initial : Option Passage)

end

instance : Inhabited Pattern := ⟨.name 0 ""⟩

namespace Pattern

/-- The name of a pattern that is one. -/
def name? : Pattern → Option String
  | .name _ text => some text
  | _ => none

/-- The spot of a pattern. -/
def spot : Pattern → Nat
  | .name spot _ => spot
  | .object spot _ _ => spot
  | .array spot _ _ => spot

end Pattern

/-- What a function does. -/
inductive Body where
  | none
  | block (statements : Passage)
  | value (value : Passage)
  deriving Inhabited

mutual

/-- A type as it is written. -/
inductive TypeExpr where
  /-- A type that the language itself names. -/
  | keyword (word : String)
  /-- The type of the object itself. -/
  | self
  /-- A declared type by its path, with type arguments. -/
  | named (path : List String) (arguments : List TypeExpr)
  | text (content : String)
  | number (text : String)
  /-- An integer of any size, by its sign and digits. -/
  | bigNumber (isNegative : Bool) (digits : String)
  | truth (value : Bool)
  | array (element : TypeExpr)
  /-- A type or null. -/
  | nullable (type : TypeExpr)
  | tuple (spot : Nat) (items : List TupleItem)
  | union (members : List TypeExpr)
  | intersection (members : List TypeExpr)
  /-- A function, or what constructs objects. -/
  | function (constructs isAbstract : Bool) (function : Function)
  | object (spot : Nat) (members : List Member)
  /-- A type behind a word that acts on types. -/
  | operator (word : String) (operand : TypeExpr)
  /-- The type of a value. -/
  | query (path : List String) (arguments : List TypeExpr)
  | index (object key : TypeExpr)
  | conditional (spot : Nat) (check bound yes no : TypeExpr)
  /-- A mapped type: its parameter, what it ranges over and the new name, the marks on
      it, and what it maps to. -/
  | mapped (spot : Nat) (parameter : String) (domain : TypeExpr) (renamed : Option TypeExpr)
      (readonlyMark optionalMark : String) (result : Option TypeExpr)
  | infer (spot : Nat) (parameter : String) (bound : Option TypeExpr)
  /-- A declared type or value of another file. -/
  | imported (file : String) (isValue : Bool) (path : List String) (arguments : List TypeExpr)
  | template (start : String) (holes : List TemplateHole)
  /-- What a function tells about its argument or about the object itself. -/
  | predicate (asserts : Bool) (subject : String) (claim : Option TypeExpr)

/-- A hole of a template type, and the text behind it. -/
structure TemplateHole where
  type : TypeExpr
  behind : String

/-- An element of a tuple type. -/
structure TupleItem where
  name : Option String
  isRest : Bool
  isOptional : Bool
  type : TypeExpr

/-- A type parameter with its bound and default. -/
structure TypeParameter where
  spot : Nat
  name : String
  /-- Single values are kept where it is inferred. -/
  isConstant : Bool
  /-- Values of it are taken in, or given out. -/
  isInward : Bool
  isOutward : Bool
  bound : Option TypeExpr
  default' : Option TypeExpr

/-- A function with its own name if it has one. -/
structure Function where
  spot : Nat
  name : Option String
  typeParameters : List TypeParameter
  parameters : List Parameter
  result : Option TypeExpr
  isAsync : Bool
  isGenerator : Bool
  isArrow : Bool
  body : Body

/-- A parameter. -/
structure Parameter where
  spot : Nat
  modifiers : List String
  pattern : Pattern
  isRest : Bool
  isOptional : Bool
  type : Option TypeExpr
  initial : Option Passage

/-- A member of a class, an interface or an object type. -/
inductive Member where
  | method (modifiers : List String) (name : MemberName) (isOptional : Bool)
      (function : Function)
  | field (spot : Nat) (modifiers : List String) (name : MemberName) (isOptional : Bool)
      (type : Option TypeExpr) (initial : Option Passage)
  | getter (modifiers : List String) (name : MemberName) (function : Function)
  | setter (modifiers : List String) (name : MemberName) (function : Function)
  | construction (modifiers : List String) (function : Function)
  /-- A call, or a construction, of the object itself. -/
  | call (constructs : Bool) (function : Function)
  | indexer (modifiers : List String) (parameter : String) (key : TypeExpr)
      (type : Option TypeExpr)
  /-- What runs when the class is made. -/
  | start (statements : Passage)

end

/-- The type that is not there where one is expected. -/
def TypeExpr.missing : TypeExpr := .keyword ""

/-- The type is not there; neither is that of a function whose result is not. -/
def TypeExpr.isMissing : TypeExpr → Bool
  | .keyword w => w.isEmpty
  | .function _ _ ⟨_, _, _, _, some (.keyword w), _, _, _, _⟩ => w.isEmpty
  | _ => false

instance : Inhabited TypeExpr := ⟨.missing⟩
instance : Inhabited Function := ⟨⟨0, none, [], [], none, false, false, false, .none⟩⟩
instance : Inhabited Parameter := ⟨⟨0, [], default, false, false, none, none⟩⟩
instance : Inhabited TypeParameter := ⟨⟨0, "", false, false, false, none, none⟩⟩
instance : Inhabited TupleItem := ⟨⟨none, false, false, default⟩⟩
instance : Inhabited Member := ⟨.start default⟩

end TypeLineage.Source
