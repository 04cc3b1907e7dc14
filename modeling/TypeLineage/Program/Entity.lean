import TypeLineage.Program.File

/-! # What is declared

    A scope is a place in a file with the frames around it, innermost first:
    blocks, functions, types and namespaces.  What a frame declares under a name
    is a list of entities, as several declarations may share a name and are
    then merged. -/

namespace TypeLineage.Program

open Source

/-- A block of a namespace. -/
structure Block where
  name : String
  statements : List Statement
  isAmbient : Bool
  deriving Inhabited

/-- Where a variable takes its value from. -/
inductive VariableSource where
  /-- What is written with it. -/
  | initial
  /-- The items of a value, one by one. -/
  | items (isAsync : Bool) (subject : Expr)
  /-- The keys of a value. -/
  | keys (subject : Expr)
  /-- Whatever failed. -/
  | failure
  deriving Inhabited

/-- The part of a class or an interface that something is written in. -/
inductive TypePart where
  /-- What belongs to each of its objects. -/
  | objects
  /-- What belongs to the class itself. -/
  | whole
  /-- The types that it extends, where there are no objects of it yet. -/
  | heading
  /-- The value that it extends. -/
  | parent
  deriving DecidableEq, Repr, Inhabited

/-- What stands around a place and declares names. -/
inductive Frame where
  | space (block : Block)
  /-- Statements in a function: all of them, or those of a block in it. -/
  | statements (ss : List Statement) (isWhole : Bool)
  | function (f : Function)
  | typeParameters (ps : List TypeParameter)
  /-- A part of a class or an interface. -/
  | type (d : TypeDeclaration) (part : TypePart)
  /-- The members of an object type, or of an object as it is written. -/
  | object (items : Option (List ObjectItem))
  /-- Variables that belong to a loop or to the handling of a failure. -/
  | variables (binding : Binding) (vs : List Variable) (source : VariableSource)
  deriving Inhabited

/-- A place in a file with the frames around it, innermost first. -/
structure Scope where
  file : SourceFile
  frames : List Frame
  deriving Inhabited

/-- A statement and where it is written. -/
structure Site where
  statement : Statement
  scope : Scope

/-- Where something that goes by another name is found. -/
inductive Origin where
  | member (file name : String)
  | whole (file : String)
  /-- The whole, asked for as a value. -/
  | asked (file : String)
  | path (names : List String)
  /-- A name of the block itself. -/
  | within (name : String)
  /-- The file itself. -/
  | itself
  deriving DecidableEq, Repr, Inhabited

/-- A declared variable by the name and its spot. -/
structure DeclaredVariable where
  name : String
  spot : Nat
  binding : Binding
  written : Variable
  source : VariableSource
  /-- It is made known outside where it is declared. -/
  isKnown : Bool
  deriving Inhabited

/-- What a name stands for. -/
inductive Entity where
  | type (d : TypeDeclaration) (scope : Scope)
  | synonym (spot : Nat) (name : String) (typeParameters : List TypeParameter) (body : TypeExpr)
      (scope : Scope)
  | enumeration (spot : Nat) (name : String) (members : List EnumMember) (scope : Scope)
  /-- A member of an enumeration, which may be declared in parts. -/
  | enumMember (name : String) (enumeration : List Entity)
  | function (f : Function) (scope : Scope)
  | variable (v : DeclaredVariable) (scope : Scope)
  /-- A name that a parameter of a function declares. -/
  | argument (name : String) (spot : Nat) (p : Parameter) (f : Function) (scope : Scope)
  /-- All that a function is called with. -/
  | arguments (f : Function) (scope : Scope)
  | space (block : Block) (scope : Scope)
  | file (f : SourceFile)
  | parameter (p : TypeParameter) (scope : Scope)
  /-- A name for what a value gives, or for all that is assigned to it. -/
  | values (spot : Nat) (name : String) (isAssigned : Bool) (es : List Expr) (scope : Scope)
  /-- Something that goes by another name. -/
  | elsewhere (name : String) (origin : Origin) (scope : Scope)
  deriving Inhabited

/-- What tells a declaration from all others of the program. -/
structure Key where
  file : Nat
  spot : Nat
  name : String
  deriving DecidableEq, Repr, Inhabited, Hashable

/-- What a name is looked up as. -/
inductive Meaning where
  | type
  | value
  | space
  /-- A name for something elsewhere, whatever that is. -/
  | elsewhere
  deriving DecidableEq, Repr

namespace Scope

/-- The scope inside a frame. -/
def enter (scope : Scope) (frame : Frame) : Scope :=
  { scope with frames := frame :: scope.frames }

/-- The key of what begins at a spot. -/
def key (scope : Scope) (spot : Nat) (name : String) : Key := ⟨scope.file.index, spot, name⟩

end Scope

/-- The statements that declare names in the same block. -/
def Scope.statements (scope : Scope) : List Statement :=
  match scope.frames with
  | [] => scope.file.statements
  | .space b :: _ => b.statements
  | .statements ss _ :: _ => ss
  | _ => []

mutual

/-- The statement does something when the program runs. -/
def runs : Statement → Bool
  | .declaration _ _ d =>
    match d with
    | .type t => t.isClass
    | .synonym .. => false
    | _ => true
  | .space _ _ _ body => runsAll body
  | .importNames .. | .importFile .. | .exportSpace _ => false
  | .importPath visibility _ _ => visibility = .exported
  | .empty => false
  | _ => true

/-- Some of the statements do something when the program runs. -/
def runsAll : List Statement → Bool
  | [] => false
  | s :: rest => runs s || runsAll rest

end

namespace Entity

/-- The name under which something is declared. -/
def name : Entity → String
  | .type d _ => d.name.getD ""
  | .synonym _ n _ _ _ => n
  | .enumeration _ n _ _ => n
  | .enumMember n _ => n
  | .function f _ => f.name.getD ""
  | .variable v _ => v.name
  | .argument n _ _ _ _ => n
  | .arguments _ _ => "arguments"
  | .space block _ => block.name
  | .file _ => ""
  | .parameter p _ => p.name
  | .values _ n _ _ _ => n
  | .elsewhere n _ _ => n

/-- The scope of a declaration. -/
def scope? : Entity → Option Scope
  | .type _ s => some s
  | .synonym _ _ _ _ s => some s
  | .enumeration _ _ _ s => some s
  | .enumMember _ _ => none
  | .function _ s => some s
  | .variable _ s => some s
  | .argument _ _ _ _ s => some s
  | .arguments _ s => some s
  | .space _ s => some s
  | .file _ => none
  | .parameter _ s => some s
  | .values _ _ _ _ s => some s
  | .elsewhere _ _ s => some s

/-- The names of the blocks around a place, behind one that comes first. -/
def pathFrom (first : String) (scope : Scope) : String :=
  String.intercalate "." (first :: scope.frames.filterMap fun
    | .space b => some b.name
    | _ => none)

/-- The key of a declaration. -/
def key : Entity → Key
  | .type d s => s.key d.spot (d.name.getD "")
  | .synonym spot n _ _ s => s.key spot n
  | .enumeration spot n _ s => s.key spot n
  | .enumMember n es =>
    match es with
    | .enumeration spot e _ s :: _ => s.key spot (e ++ "." ++ n)
    | _ => ⟨0, 0, n⟩
  | .function f s => s.key f.spot (f.name.getD "")
  | .variable v s => s.key v.spot v.name
  | .argument n spot _ _ s => s.key spot n
  | .arguments f s => s.key f.spot "arguments"
  | .space block s => s.key 0 (pathFrom block.name s)
  | .file f => ⟨f.index, 0, ""⟩
  | .parameter p s => s.key p.spot p.name
  | .values spot n _ _ s => s.key spot ("=" ++ pathFrom n s)
  | .elsewhere n _ s => s.key 0 n

/-- The declaration where it is made known outside. -/
def known : Entity → Entity
  | .variable v scope => .variable { v with isKnown := true } scope
  | e => e

/-- The declaration is a name for something elsewhere. -/
def isElsewhere : Entity → Bool
  | .elsewhere .. => true
  | _ => false

/-- The declaration has a meaning. -/
def means (m : Meaning) : Entity → Bool
  | .type d _ => m = .type || (m = .value && d.isClass)
  | .synonym .. => m = .type
  | .enumeration .. => true
  | .enumMember .. => m = .type || m = .value
  | .function .. => m = .value
  | .variable .. => m = .value
  | .argument .. => m = .value
  | .arguments .. => m = .value
  | .space block _ => m = .space || (m = .value && runsAll block.statements)
  | .file _ => m = .space || m = .value
  | .parameter .. => m = .type
  | .values .. => m = .value
  | .elsewhere .. => true

end Entity

/-! ## Merging -/

/-- The kinds of declarations, for what may be merged. -/
inductive DeclarationKind where
  | classType
  | interface
  | function
  | synonym
  | enumeration
  | space
  | blockVariable
  | variable
  | other
  deriving DecidableEq, Repr

/-- The kind of a declaration. -/
def Entity.kind : Entity → DeclarationKind
  | .type d _ => if d.isClass then .classType else .interface
  | .synonym .. => .synonym
  | .enumeration .. => .enumeration
  | .function .. => .function
  | .variable v _ => if v.binding = .function then .variable else .blockVariable
  | .space .. => .space
  | _ => .other

/-- The earlier declarations that a later one is not merged with. -/
def DeclarationKind.excludes : DeclarationKind → List DeclarationKind
  | .classType => [.classType, .synonym, .enumeration, .blockVariable, .variable]
  | .interface => [.synonym, .enumeration]
  | .function => [.enumeration, .blockVariable, .variable]
  | .synonym => [.classType, .interface, .synonym, .enumeration]
  | .enumeration => [.classType, .interface, .function, .synonym, .blockVariable, .variable]
  | .space => [.blockVariable, .variable]
  | .blockVariable => [.classType, .function, .enumeration, .blockVariable, .variable]
  | .variable => [.classType, .function, .enumeration, .blockVariable]
  | .other => []

/-- The declarations that are merged: functions first, and none that the ones
    before it exclude. -/
def merge (es : List Entity) : List Entity :=
  match es with
  | [] => []
  | [e] => [e]
  | _ =>
    let isFunction (e : Entity) := e.kind == .function
    (es.filter isFunction ++ es.filter (!isFunction ·)).foldl (fun kept e =>
      if kept.any fun k => e.kind.excludes.contains k.kind then kept else kept ++ [e]) []

/-! ## Variables -/

mutual

/-- The names that a pattern declares, with their spots. -/
def namesOf : Pattern → List (String × Nat)
  | .name spot text => [(text, spot)]
  | .object _ items _ => namesOfItems items
  | .array _ items _ => namesOfItems items

/-- The names that the parts of a pattern declare. -/
def namesOfItems : List PatternItem → List (String × Nat)
  | [] => []
  | .hole :: rest => namesOfItems rest
  | .item _ _ p _ :: rest => namesOf p ++ namesOfItems rest

end

/-- What variables declare under a name. -/
def declaredVariables (name : String) (binding : Binding) (source : VariableSource)
    (vs : List Variable) : List DeclaredVariable :=
  vs.flatMap fun v => ((namesOf v.pattern).filter (·.1 = name)).map fun (n, spot) =>
    ⟨n, spot, binding, v, source, false⟩

mutual

/-- The variables of a function that a statement declares, also deep inside it. -/
def hoisted (name : String) : Statement → List DeclaredVariable
  | .declaration _ _ (.variables .function vs) => declaredVariables name .function .initial vs
  | .block ss => hoistedAll name ss
  | .conditional _ yes no => hoisted name yes ++ match no with
    | some s => hoisted name s
    | none => []
  | .whileLoop _ _ body => hoisted name body
  | .doLoop _ body _ => hoisted name body
  | .forLoop _ start _ _ body =>
    (match start with
      | .variables .function vs => declaredVariables name .function .initial vs
      | _ => []) ++ hoisted name body
  | .forEach _ overKeys isAsync start subject body =>
    (match start with
      | .variables .function vs =>
        declaredVariables name .function
          (if overKeys then .keys subject else .items isAsync subject) vs
      | _ => []) ++ hoisted name body
  | .switch _ _ cases => hoistedCases name cases
  | .attempt body handler last =>
    hoistedAll name body
      ++ (match handler with
        | some h => hoistedHandler name h
        | none => [])
      ++ (match last with
        | some ss => hoistedAll name ss
        | none => [])
  | .labeled _ body => hoisted name body
  | _ => []

/-- The variables of a function that statements declare. -/
def hoistedAll (name : String) : List Statement → List DeclaredVariable
  | [] => []
  | s :: rest => hoisted name s ++ hoistedAll name rest

/-- The variables of a function that the cases of a switch declare. -/
def hoistedCases (name : String) : List SwitchCase → List DeclaredVariable
  | [] => []
  | ⟨_, body⟩ :: rest => hoistedAll name body ++ hoistedCases name rest

/-- The variables of a function that the handling of a failure declares. -/
def hoistedHandler (name : String) : Handler → List DeclaredVariable
  | ⟨_, _, body⟩ => hoistedAll name body

end

end TypeLineage.Program
