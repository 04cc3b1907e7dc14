import TypeLineage.Source.TypeSyntax

/-! # Syntax of values

    Values, classes and interfaces as they are written.  What says nothing about
    types, as decorators, is left out.  What functions do is not
    read here. -/

namespace TypeLineage.Source

/-- How a type is declared. -/
inductive TypeForm where
  | interface
  | classStatement
  /-- A class is a value, which may be handed on at once to something that has a name. -/
  | classValue (assigned : Option String)
  deriving DecidableEq

mutual

/-- A class or an interface. -/
structure TypeDeclaration where
  spot : Nat
  form : TypeForm
  isAbstract : Bool
  name : Option String
  typeParameters : List TypeParameter
  heritage : List HeritageClause
  members : List Member

/-- What a declaration extends or implements. -/
structure HeritageClause where
  isExtends : Bool
  entries : List HeritageEntry

/-- A value or type that a declaration refers to, with type arguments. -/
structure HeritageEntry where
  expression : Expr
  typeArguments : List TypeExpr

/-- A value as it is written. -/
inductive Expr where
  | name (text : String)
  | self
  /-- The object as one of the class that is extended. -/
  | parent
  | text (content : String)
  | number (text : String)
  | bigNumber (digits : String)
  | truth (value : Bool)
  | null
  /-- A regular expression. -/
  | pattern
  | template (start : String) (holes : List ValueHole)
  /-- A template handed to a function. -/
  | tagged (spot : Nat) (tag : Expr) (typeArguments : List TypeExpr) (holes : List ValueHole)
  | array (items : List Expr)
  /-- All items of a value, one by one. -/
  | spread (value : Expr)
  /-- Nothing, where an item may stand. -/
  | hole
  | object (items : List ObjectItem)
  | function (function : Function)
  | classValue (d : TypeDeclaration)
  /-- A member of a value, which may be missing if the flag is set. -/
  | access (object : Expr) (member : String) (isOptional : Bool)
  | index (object key : Expr) (isOptional : Bool)
  | call (spot : Nat) (callee : Expr) (typeArguments : List TypeExpr) (arguments : List Expr)
      (isOptional : Bool)
  /-- A value with type arguments. -/
  | instantiation (value : Expr) (typeArguments : List TypeExpr)
  | construct (spot : Nat) (callee : Expr) (typeArguments : List TypeExpr) (arguments : List Expr)
  /-- A mark or word before a value. -/
  | unary (operator : String) (operand : Expr)
  /-- A value counted up or down after it is read. -/
  | count (operand : Expr)
  | binary (operator : String) (left right : Expr)
  | assign (operator : String) (target value : Expr)
  | conditional (test yes no : Expr)
  /-- A value whose type is written with it. -/
  | cast (value : Expr) (type : TypeExpr)
  /-- A value that stands for nothing but itself. -/
  | constant (value : Expr)
  /-- A value that is compared with a type. -/
  | satisfies (value : Expr) (type : TypeExpr)
  /-- A value that is asserted to be there. -/
  | assured (value : Expr)
  | awaited (value : Expr)
  | yield (delegates : Bool) (value : Option Expr)
  /-- A value in parentheses. -/
  | group (value : Expr)
  /-- A file taken in while the program runs. -/
  | fetched (arguments : List Expr)
  /-- What was constructed, or the file itself. -/
  | special (isTarget : Bool)
  /-- An element of markup, or several without one around them, and the values in it. -/
  | markup (isFragment : Bool) (values : List Expr)
  /-- A value of which nothing is known. -/
  | other

/-- A hole of a template, and the text behind it. -/
structure ValueHole where
  value : Expr
  behind : String

/-- A part of an object as it is written. -/
inductive ObjectItem where
  | property (spot : Nat) (name : MemberName) (value : Expr)
  | shorthand (spot : Nat) (name : String)
  | spread (value : Expr)
  | method (name : MemberName) (function : Function)
  | getter (name : MemberName) (function : Function)
  | setter (name : MemberName) (function : Function)

end

instance : Inhabited Expr := ⟨.other⟩
instance : Inhabited TypeDeclaration := ⟨⟨0, .interface, false, none, [], [], []⟩⟩

namespace TypeDeclaration

/-- The declaration is one of a class. -/
def isClass (d : TypeDeclaration) : Bool := d.form ≠ .interface

/-- The declaration is a value. -/
def isValue (d : TypeDeclaration) : Bool := match d.form with
  | .classValue _ => true
  | _ => false

/-- The name of what a class is handed on to. -/
def assigned? (d : TypeDeclaration) : Option String :=
  match d.form with
  | .classValue name => name
  | _ => none

end TypeDeclaration

/-- The last name of a reference. -/
def Expr.lastName? : Expr → Option String
  | .name own => some own
  | .access _ member _ => some member
  | .index _ (.text content) _ => some content
  | _ => none

/-- The value where it is handed on to something of a name. -/
def Expr.handedTo (name : Option String) : Expr → Expr
  | .classValue d => .classValue { d with form := .classValue name }
  | e => e

end TypeLineage.Source
