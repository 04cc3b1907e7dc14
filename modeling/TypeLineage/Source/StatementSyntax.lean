import TypeLineage.Source.ValueSyntax

/-! # Syntax of statements

    Statements of files, namespaces and functions as they are written. -/

namespace TypeLineage.Source

/-- How a statement is made known outside its block. -/
inductive Visibility where
  | inner
  | exported
  | isDefault
  deriving DecidableEq, Repr, Inhabited

/-- The name of a namespace: a path, the text of a module's name, or the space
    that all files share. -/
inductive SpaceName where
  | path (first : String) (others : List String)
  | file (name : String)
  | shared
  deriving DecidableEq, Repr, Inhabited

/-- A name taken from another file or given to it: the name there and the name
    here. -/
structure Renaming where
  source : String
  target : String
  deriving Repr, DecidableEq

/-- Where and how often a declared variable is there. -/
inductive Binding where
  /-- Once, in its block, and never changed. -/
  | constant
  /-- In its block. -/
  | block
  /-- In its function. -/
  | function
  deriving DecidableEq, Repr, Inhabited

/-- A declared variable. -/
structure Variable where
  pattern : Pattern
  type : Option TypeExpr
  initial : Option Expr

/-- A member of an enumeration. -/
structure EnumMember where
  name : MemberName
  initial : Option Expr

/-- What a statement declares. -/
inductive Declaration where
  | type (d : TypeDeclaration)
  | synonym (spot : Nat) (name : String) (typeParameters : List TypeParameter) (body : TypeExpr)
  | enumeration (spot : Nat) (name : String) (members : List EnumMember)
  | function (function : Function)
  | variables (binding : Binding) (vs : List Variable)

/-- What a loop begins with. -/
inductive LoopStart where
  | none
  | variables (binding : Binding) (vs : List Variable)
  | value (value : Expr)

mutual

/-- A case of a switch; the one without a value is for all others. -/
structure SwitchCase where
  value : Option Expr
  body : List Statement

/-- What is done when something fails. -/
structure Handler where
  pattern : Option Pattern
  type : Option TypeExpr
  body : List Statement

/-- A statement of a file, a namespace or a function. -/
inductive Statement where
  | declaration (visibility : Visibility) (isAmbient : Bool) (d : Declaration)
  | space (visibility : Visibility) (isAmbient : Bool) (name : SpaceName)
      (body : List Statement)
  /-- Names taken from a file: those that are renamed, one for its default and one for
      the whole. -/
  | importNames (file : String) (default' whole : Option String) (names : List Renaming)
  /-- A name for a whole file. -/
  | importFile (visibility : Visibility) (name file : String)
  /-- A name for a path. -/
  | importPath (visibility : Visibility) (name : String) (path : List String)
  /-- Names made known, of this file or of another. -/
  | exportNames (file : Option String) (names : List Renaming)
  /-- All names of a file made known, under one name or each under its own. -/
  | exportAll (file : String) (name : Option String)
  /-- The file made known to all others under a name. -/
  | exportSpace (name : String)
  /-- A value made known as the default or in place of the file. -/
  | exportValue (inPlace : Bool) (value : Expr)
  /-- A value made known under a name. -/
  | exportMember (name : String) (value : Expr)
  | value (value : Expr)
  | block (statements : List Statement)
  | conditional (test : Expr) (yes : Statement) (no : Option Statement)
  | whileLoop (spot : Nat) (test : Expr) (body : Statement)
  | doLoop (spot : Nat) (body : Statement) (test : Expr)
  | forLoop (spot : Nat) (start : LoopStart) (test step : Option Expr) (body : Statement)
  /-- A loop over the items of a value, or over its keys. -/
  | forEach (spot : Nat) (overKeys isAsync : Bool) (start : LoopStart) (subject : Expr)
      (body : Statement)
  | switch (spot : Nat) (subject : Expr) (cases : List SwitchCase)
  | attempt (body : List Statement) (handler : Option Handler) (last : Option (List Statement))
  | result (value : Option Expr)
  | fail (value : Expr)
  | leave (label : Option String)
  | again (label : Option String)
  | labeled (label : String) (body : Statement)
  | empty

end

instance : Inhabited Statement := ⟨.empty⟩
instance : Inhabited Variable := ⟨⟨default, none, none⟩⟩

/-! ## Namespaces of a path

    A namespace may be declared by a path.  That stands for namespaces one inside
    the other, the inner ones exported. -/

/-- The namespaces that a path stands for, with the statements of the innermost. -/
def Statement.nested (isAmbient : Bool) (body : List Statement) :
    Visibility → String → List String → Statement
  | visibility, first, [] => .space visibility isAmbient (.path first []) body
  | visibility, first, next :: others =>
    .space visibility isAmbient (.path first []) [nested isAmbient body .exported next others]

mutual

/-- The statement with all namespaces of paths written out. -/
def Statement.unfolded : Statement → Statement
  | .space visibility isAmbient (.path first others) body =>
    .nested isAmbient (unfoldedAll body) visibility first others
  | .space visibility isAmbient name body => .space visibility isAmbient name (unfoldedAll body)
  | s => s

/-- The statements with all namespaces of paths written out. -/
def unfoldedAll : List Statement → List Statement
  | [] => []
  | s :: rest => s.unfolded :: unfoldedAll rest

end

/-! ## What a function leaves in its object

    In a script the fields of an object are not declared: they are what its
    functions leave in it, by assigning to members of the object itself. -/

/-- The values that a value, when it is worked out, leaves in the object itself. -/
def Expr.left : Expr → List (String × Expr)
  | .assign "=" (.access .self n _) v => (n, v) :: v.left
  | .assign "=" (.index .self (.text n) _) v => (n, v) :: v.left
  | .assign _ _ v => v.left
  | .binary _ a b => a.left ++ b.left
  | .conditional _ a b => a.left ++ b.left
  | .group e => e.left
  | .cast (.access .self n mark) t => [(n, .cast (.access .self n mark) t)]
  | .cast e _ => e.left
  | _ => []

mutual

/-- The values that a statement leaves in the object itself. -/
def Statement.left : Statement → List (String × Expr)
  | .value e => e.left
  | .block ss => leftByAll ss
  | .conditional test yes no => test.left ++ yes.left ++ match no with
    | some s => s.left
    | none => []
  | .whileLoop _ _ body => body.left
  | .doLoop _ body _ => body.left
  | .forLoop _ _ _ _ body => body.left
  | .forEach _ _ _ _ _ body => body.left
  | .switch _ _ cases => leftByCases cases
  | .attempt body handler last => leftByAll body
      ++ (match handler with
        | some h => leftByHandler h
        | none => [])
      ++ (match last with
        | some ss => leftByAll ss
        | none => [])
  | .result (some e) => e.left
  | .labeled _ body => body.left
  | _ => []

/-- The values that statements leave in the object itself. -/
def leftByAll : List Statement → List (String × Expr)
  | [] => []
  | s :: rest => s.left ++ leftByAll rest

/-- The values that the cases of a switch leave in the object itself. -/
def leftByCases : List SwitchCase → List (String × Expr)
  | [] => []
  | ⟨_, body⟩ :: rest => leftByAll body ++ leftByCases rest

/-- The values that the handling of a failure leaves in the object itself. -/
def leftByHandler : Handler → List (String × Expr)
  | ⟨_, _, body⟩ => leftByAll body

end

/-- The value is told by a remark. -/
def Expr.isTold : Expr → Bool
  | .cast .. => true
  | _ => false

end TypeLineage.Source
