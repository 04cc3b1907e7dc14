import TypeLineage.Number.Binary64
import TypeLineage.Program.Scope
import TypeLineage.Source.Inferred

/-! # Types

    A type is a number into a store, which holds its shape.  Types are numbered
    in the order in which they are made, and equal shapes get the same number
    wherever shapes are compared.  A declared type is made when it is first
    needed; so are members of types, whose own types are kept as the origin
    from which they follow. -/

namespace TypeLineage.Typing

open Source Program

/-- A type by its number. -/
abbrev TypeId := Nat

/-- What type parameters stand for. -/
abbrev Substitution := List (TypeId × TypeId)

/-- The types that the language itself names. -/
inductive Keyword where
  | any
  /-- Anything, where the way through a function tells more. -/
  | auto
  /-- Anything, as something was wrong. -/
  | error
  | unknown
  | undefined
  /-- Undefined as the value of what was left out. -/
  | missing
  | null
  | string
  | number
  | bigint
  | symbol
  | void
  | never
  | object
  deriving DecidableEq, Repr, Inhabited

/-- What a member of an enumeration stands for. -/
inductive EnumValue where
  | number (x : Number.Binary64)
  | text (content : String)
  deriving DecidableEq, Repr, Inhabited

/-! ## Ways through functions -/

/-- What changes the value of a reference. -/
inductive Assignment where
  /-- A declared variable takes its value. -/
  | declared (v : Variable) (source : VariableSource)
  /-- A value is assigned. -/
  | assigned (operator : String) (target value : Expr)
  /-- Something is counted up or down. -/
  | counted (target : Expr)
  /-- A reference takes the items, or the keys, of a value. -/
  | looped (target : Expr) (source : VariableSource)
  /-- A list takes in items. -/
  | grown (list : Expr) (items : List Expr)
  /-- A member is taken away. -/
  | removed (target : Expr)
  deriving Inhabited

/-- The ways that lead to a place in a function.  Each step keeps its scope and the whole way
    to it, with which values that it mentions are looked at. -/
inductive Flow where
  | start
  /-- The beginning of a function that is a value, with the ways to where it is written. -/
  | within (outside : Flow)
  | unreachable
  /-- Where ways part that come together again. -/
  | fork
  /-- The head of a loop on a way back to it. -/
  | head (file spot : Nat)
  | assign (what : Assignment) (scope : Scope) (whole before : Flow)
  /-- A test came out one way. -/
  | test (condition : Expr) (holds : Bool) (scope : Scope) (whole before : Flow)
  /-- A switch went to one of some cases; none stand for the end without a case. -/
  | case (subject : Expr) (cases : List SwitchCase) (first last : Nat) (scope : Scope)
      (whole before : Flow)
  /-- A call was made, which may tell about its arguments. -/
  | call (e : Expr) (scope : Scope) (whole before : Flow)
  /-- Ways that part behind others and come together again. -/
  | split (before : Flow) (ways : List Flow)
  /-- The head of a loop, with the ways back to it. -/
  | loop (file spot : Nat) (whole before : Flow) (back : List Flow)
  deriving Inhabited

/-- Where a value is written: its scope, and the ways that lead there. -/
structure Env where
  scope : Scope
  flow : Flow
  deriving Inhabited

/-- What a reference begins with. -/
inductive Root where
  | name (key : Key) (text : String)
  | self
  | parent
  /-- The value that a pattern takes apart. -/
  | pattern (key : Key)
  deriving DecidableEq, Repr, Inhabited

/-- A value that is reached by names alone. -/
structure Reference where
  root : Root
  path : List String
  deriving DecidableEq, Repr, Inhabited

/-- What is asked about a reference where it stands. -/
structure Query where
  reference : Reference
  declared : TypeId
  /-- The type at the beginning of the function. -/
  initial : TypeId
  /-- Nothing is assigned to the reference but once. -/
  isSettled : Bool
  /-- Functions that are values find the reference as it is where they are written. -/
  goesOut : Bool
  deriving Inhabited

/-- What a reference is found to be where it stands. -/
inductive Outcome where
  | type (t : TypeId)
  /-- A list that has only taken in elements of a type so far. -/
  | growing (element : TypeId)
  | unreachable
  deriving DecidableEq, Repr, Inhabited

/-! ## Members -/

/-- What kind of function something is. -/
inductive FunctionKind where
  | plain
  | method
  /-- A method of an object as it is written. -/
  | objectMethod
  | getter
  | setter
  | construction
  /-- A function that is a value. -/
  | value
  deriving DecidableEq, Repr, Inhabited

/-- The function belongs to objects or makes them. -/
def FunctionKind.isMethod : FunctionKind → Bool
  | .method | .objectMethod | .construction => true
  | _ => false

/-- A function where it is written. -/
structure FunctionSite where
  function : Function
  env : Env
  kind : FunctionKind
  isStatic : Bool
  deriving Inhabited

/-- The key of a function. -/
def FunctionSite.key (s : FunctionSite) : Key :=
  s.env.scope.key s.function.spot ""

/-- The scope inside a function. -/
def FunctionSite.scope (s : FunctionSite) : Scope := s.env.scope.enter (.function s.function)

/-- A member where it is written. -/
structure MemberSite where
  member : Member
  scope : Scope
  deriving Inhabited

/-- How a name of a member is written. -/
inductive NameStyle where
  | plain
  | number
  | doubleQuoted
  | singleQuoted
  deriving DecidableEq, Repr, Inhabited

/-- What the type of a member or an argument follows from. -/
inductive Holding where
  | known (t : TypeId)
  /-- Members of one name. -/
  | members (key : Key) (sites : List MemberSite)
  /-- A parameter of a constructor that is a field too. -/
  | field (p : Parameter) (f : FunctionSite)
  | entities (es : List Entity)
  /-- Members of one name of several types. -/
  | shared (isUnion : Bool) (types : List TypeId) (name : String)
  /-- What a mapped type makes of a key. -/
  | mapped (type key : TypeId) (strips : Bool)
  /-- What a mapped type, of given keys, must have been made of to give a type. -/
  | reversed (type mapped keys : TypeId)
  deriving Inhabited

/-- A member of a type. -/
structure Property where
  /-- The name; one that only a symbol has begins with two underscores and an at sign. -/
  name : String
  style : NameStyle
  isOptional : Bool
  isReadonly : Bool
  isMethod : Bool
  isAccessor : Bool
  /-- The class that keeps the member to itself. -/
  owner : Option Key
  holding : Holding
  substitution : Substitution
  /-- The name follows from a type rather than from how it is written. -/
  isDerived : Bool
  /-- The type that the value is taken for where it is written, if that is said there. -/
  claimed : Option (Scope × TypeExpr) := none
  /-- The type that the name follows from, if it does. -/
  key : Option TypeId := none
  /-- Classes that derive from the one that keeps the member to itself have it too. -/
  isProtected : Bool := false
  /-- The class or interface that declares the member. -/
  home : Option Key := none
  /-- The member stands in the object itself as it is written. -/
  isWritten : Bool := false
  deriving Inhabited

/-- A parameter of a signature. -/
structure Argument where
  name : String
  /-- How the parameter is written, if it is. -/
  parameter : Option Parameter
  site : Option FunctionSite
  /-- The type where it is known. -/
  known : Option TypeId
  substitution : Substitution
  isOptional : Bool
  isRest : Bool
  deriving Inhabited

/-- What a function tells about an argument, or about the object itself. -/
structure Claim where
  asserts : Bool
  subject : String
  /-- The place of the argument. -/
  index : Option Nat
  type : Option TypeId
  deriving Inhabited

/-- What a call takes and gives. -/
structure Signature where
  site : Option FunctionSite
  typeParameters : List TypeId
  self : Option Argument
  arguments : List Argument
  /-- What it gives where it is known. -/
  known : Option TypeId
  /-- Signatures of the members of a union that are called at once. -/
  parts : List Signature
  substitution : Substitution
  /-- How many arguments there must be. -/
  least : Nat
  hasRest : Bool
  constructs : Bool
  isAbstract : Bool
  deriving Inhabited

/-- What a call leads to. -/
inductive CallOutcome where
  /-- It is made by a signature. -/
  | made (s : Signature)
  /-- Nothing is known of what is called. -/
  | untyped
  | wrong
  deriving Inhabited

/-- What stands under any key of a kind. -/
structure Indexer where
  key : TypeId
  type : TypeId
  isReadonly : Bool
  name : String
  deriving Inhabited

/-- The members of a type. -/
structure Members where
  properties : List Property
  calls : List Signature
  constructs : List Signature
  indexers : List Indexer
  deriving Inhabited

/-- No members. -/
def Members.none : Members := ⟨[], [], [], []⟩

/-! ## Shapes -/

/-- What a type parameter follows from. -/
inductive ParameterSource where
  | declared (p : TypeParameter) (scope : Scope)
  /-- The object itself, of a class or interface. -/
  | self (owner : TypeId)
  /-- A copy of another with what its bound mentions replaced. -/
  | copy (of : TypeId) (s : Substitution)
  /-- Nothing is known of it. -/
  | free
  /-- It stands for an argument where it is found out how types change with that. -/
  | marker (bound : Option TypeId)
  deriving Inhabited

/-- A class or an interface with its type parameters. -/
structure Declared where
  key : Key
  name : String
  entities : List Entity
  isClass : Bool
  /-- Type parameters of what the declaration stands in. -/
  outer : List TypeId
  own : List TypeId
  self : TypeId
  deriving Inhabited

/-- An element of a tuple. -/
inductive ElementKind where
  | required
  | optional
  /-- Any number of elements of a type. -/
  | rest
  /-- The elements of a list that is not known yet. -/
  | variadic
  deriving DecidableEq, Repr, Inhabited, Hashable

/-- What a tuple is like apart from the types of its elements. -/
structure TupleForm where
  kinds : List ElementKind
  names : List (Option String)
  isReadonly : Bool
  deriving DecidableEq, Repr, Inhabited, Hashable

/-- How an object with known members came about. -/
inductive ObjectForm where
  | plain
  /-- It is written as a value. -/
  | value
  /-- It is written as a value that takes in others. -/
  | spread
  /-- It was written as a value, and may have other members besides. -/
  | regular
  /-- It was written as a value that takes in others, and may have other members besides. -/
  | regularSpread
  deriving DecidableEq, Repr, Inhabited

/-- The object has no members but those that it is written with. -/
def ObjectForm.isFresh (f : ObjectForm) : Bool := f = .value || f = .spread

/-- What an object type follows from. -/
inductive ObjectSource where
  | literal (spot : Nat) (members : List Member) (scope : Scope)
  /-- A function type. -/
  | signature (f : Function) (constructs isAbstract : Bool) (scope : Scope)
  /-- A declared function, a method or a function that is a value. -/
  | functions (sites : List FunctionSite) (isMethod : Bool)
  /-- A declared function with the members that namespaces of its name declare, and with those
      that are assigned to it. -/
  | extended (sites : List FunctionSite) (es added : List Entity)
  /-- A class as a value. -/
  | statics (es : List Entity)
  | enumeration (es : List Entity)
  /-- Namespaces or a file as a value. -/
  | space (es : List Entity)
  | mapped (spot : Nat) (parameter : String) (domain : TypeExpr) (renamed : Option TypeExpr)
      (readonlyMark optionalMark : String) (result : Option TypeExpr) (scope : Scope)
  /-- An object whose members are known, and the scope where it is written. -/
  | made (members : Members) (form : ObjectForm) (scope : Option Scope)
  deriving Inhabited

/-- Another name for a type, with type arguments. -/
structure Synonym where
  key : Key
  name : String
  arguments : List TypeId
  deriving DecidableEq, Repr, Inhabited, Hashable

/-- A conditional type where it is written. -/
structure Conditional where
  spot : Nat
  /-- The name that it is declared under. -/
  synonym : Option Synonym
  check : TypeExpr
  bound : TypeExpr
  yes : TypeExpr
  no : TypeExpr
  scope : Scope
  /-- The checked type parameter, whose members are taken one by one. -/
  distributed : Option TypeId
  /-- The type parameters around it. -/
  outer : List TypeId
  inferred : List TypeId
  deriving Inhabited

/-- What a union was formed from, where it is told by that. -/
inductive UnionOrigin where
  /-- Unions with names of their own and other types. -/
  | union (types : List TypeId)
  /-- Types of which some are unions. -/
  | intersection (types : List TypeId)
  /-- A type whose keys it stands for. -/
  | keys (of : TypeId)
  deriving DecidableEq, Repr, Inhabited, Hashable

/-- The shape of a type. -/
inductive Shape where
  | keyword (k : Keyword)
  /-- A name that stands for nothing. -/
  | unresolved (path : List String) (arguments : List TypeId)
  | text (content : String)
  | number (text : String)
  | bigNumber (isNegative : Bool) (digits : String)
  | truth (value : Bool)
  | enumMember (member : Key) (name : String) (enumeration : Key) (enumName : String)
      (value : Option EnumValue)
  | uniqueSymbol (key : Key) (name : String)
  | parameter (name : String) (source : ParameterSource)
  | declared (d : Declared)
  | reference (target : TypeId) (arguments : List TypeId)
  /-- A reference whose arguments are looked at later. -/
  | deferred (target : TypeId) (node : TypeExpr) (scope : Scope) (s : Substitution)
  | tuple (form : TupleForm) (parameters : List TypeId)
  | object (source : ObjectSource) (s : Substitution)
  | union (members : List TypeId) (origin : Option UnionOrigin)
  | intersection (members : List TypeId)
  /-- The keys of a type. -/
  | keys (of : TypeId)
  | index (object key : TypeId)
  | conditional (c : Conditional) (s : Substitution) (check bound : TypeId)
  | template (texts : List String) (types : List TypeId)
  /-- Texts changed by a word that the library names. -/
  | changed (word : String) (of : TypeId)
  /-- A type that takes nothing in where type parameters are inferred. -/
  | held (of : TypeId)
  deriving Inhabited

/-- How a type changes with a type argument. -/
inductive Direction where
  /-- With the argument, both ways. -/
  | fixed
  /-- With the argument. -/
  | along
  /-- Against the argument. -/
  | against
  /-- Either way. -/
  | either
  /-- Not at all. -/
  | none
  deriving DecidableEq, Repr, Inhabited

/-- How a type changes with a type argument, and how far that can be relied on. -/
structure Variance where
  direction : Direction
  /-- The types have to be looked into in any case. -/
  isUnmeasurable : Bool
  /-- The types have to be looked into if the arguments are not related. -/
  isUnreliable : Bool
  deriving DecidableEq, Repr, Inhabited

/-- What a type parameter of a call may stand for, as far as is known. -/
structure Guess where
  parameter : TypeId
  /-- What is handed in for it. -/
  candidates : List TypeId
  /-- What takes it in. -/
  bounds : List TypeId
  /-- What it is taken for. -/
  inferred : Option TypeId
  /-- How indirect the candidates are; the less, the better. -/
  priority : Nat
  /-- All candidates stand where the parameter itself stands. -/
  isTopLevel : Bool
  /-- What it stands for is settled. -/
  isFixed : Bool
  /-- How many values are handed in that it takes together. -/
  span : Option Nat
  deriving Inhabited

/-- The type parameters of a call that are being inferred. -/
structure Inference where
  guesses : List Guess
  /-- What is known from where the result goes. -/
  fromResult : Substitution
  /-- What the parameters are declared in, to tell their bounds. -/
  signature : Option Signature
  /-- Nothing known gives anything. -/
  isLoose : Bool
  /-- The type with the parameters that is being compared. -/
  root : TypeId
  /-- The best priority with which something was taken in. -/
  reached : Int
  /-- The pairs that were compared, with the best priority that was reached there. -/
  visited : List ((TypeId × TypeId) × Int)
  deriving Inhabited

/-- How something is taken in by an inference. -/
structure Intake where
  inference : Nat
  priority : Nat
  /-- The types stand the other way round. -/
  isTurned : Bool
  /-- The types may stand either way round. -/
  isBivariant : Bool
  /-- What is taken in instead of what is found. -/
  instead : Option TypeId
  /-- The types that are compared one inside another, the last first. -/
  sources : List TypeId
  targets : List TypeId
  isSourceDeep : Bool
  isTargetDeep : Bool
  deriving Inhabited

/-- What a function is expected to speak of as itself. -/
structure ExpectedSelf where
  type : TypeId
  /-- The call whose type parameters are inferred meanwhile. -/
  inference : Option Nat
  /-- It is the object around the function, as far as it is expected. -/
  isAround : Bool
  deriving Inhabited

/-- A type as it is stored. -/
structure TypeEntry where
  shape : Shape
  synonym : Option Synonym
  /-- The type of which this is the fresh form. -/
  regular : Option TypeId
  /-- The written form of a list of values. -/
  isListValue : Bool
  deriving Inhabited

end TypeLineage.Typing
