import Std.Data.HashMap
import Std.Data.HashSet
import TypeLineage.Typing.Type

/-! # The store of types

    Checking reads the world and keeps a store: the types made so far, the
    tables by which equal shapes are found again, and what is known about
    declarations.  What is being found out is kept too, so that what follows
    from itself is noticed. -/

namespace TypeLineage.Typing

open Source Program Std

/-- What is found out about a declaration or a type. -/
inductive Task where
  | value (key : Key)
  | result (key : Key)
  | synonym (key : Key)
  | bases (t : TypeId)
  | baseConstructor (t : TypeId)
  | bound (t : TypeId)
  | base (t : TypeId)
  | arguments (t : TypeId)
  | enumeration (key : Key)
  | members (t : TypeId)
  | file (index : Nat)
  deriving DecidableEq, Repr, Inhabited, Hashable

/-- The parts by which an object type is found again: what it is written as, and what its
    type parameters stand for. -/
structure ObjectKey where
  kind : String
  key : Key
  arguments : List TypeId
  synonym : Option Synonym
  deriving DecidableEq, Hashable

/-- By what a comparison of two types is found again. -/
structure PairKey where
  relation : Nat
  joining : Nat
  /-- The types, unless they are told by how they are made of others. -/
  source : TypeId
  target : TypeId
  /-- How the types are made of others, apart from which type parameters are among them. -/
  form : String
  /-- Some of those type parameters are bound by something. -/
  isBounded : Bool
  deriving DecidableEq, Hashable, Inhabited

/-- What has turned out about how types change with their arguments. -/
structure Reports where
  isUnmeasurable : Bool
  isUnreliable : Bool
  deriving DecidableEq, Inhabited

/-- What is being compared. -/
structure Comparing where
  /-- The pairs that are taken to be related meanwhile, the last first, and how many they are. -/
  pending : List PairKey
  count : Nat
  pendingSet : HashSet PairKey
  /-- The types that are compared one inside another, the last first. -/
  sources : List TypeId
  targets : List TypeId
  /-- The types on one side have given rise to others of their kind again and again. -/
  isSourceDeep : Bool
  isTargetDeep : Bool
  /-- Types were compared too deep inside others. -/
  isTooDeep : Bool
  deriving Inhabited

/-- Nothing is being compared. -/
def Comparing.none : Comparing := ⟨[], 0, ∅, [], [], false, false, false⟩

/-- Types and what is known of declarations. -/
structure Store where
  types : Array TypeEntry
  texts : HashMap String TypeId
  numbers : HashMap String TypeId
  bigNumbers : HashMap (Bool × String) TypeId
  enumMembers : HashMap (Key × String) TypeId
  /-- The fresh forms of single values, and those of lists as they are written. -/
  freshForms : HashMap TypeId TypeId
  references : HashMap (TypeId × List TypeId) TypeId
  tuples : HashMap TupleForm TypeId
  unions : HashMap (Option UnionOrigin × List TypeId × Option Synonym) TypeId
  intersections : HashMap (List TypeId × Option Synonym) TypeId
  operations : HashMap (String × List String × List TypeId) TypeId
  objects : HashMap ObjectKey TypeId
  /-- Declared types, type parameters, enumerations and their members. -/
  declared : HashMap Key TypeId
  synonyms : HashMap Key (TypeId × List TypeId)
  instances : HashMap (Key × List TypeId × Option Synonym) TypeId
  values : HashMap Key TypeId
  results : HashMap Key TypeId
  signatures : HashMap Key Signature
  members : HashMap TypeId Members
  bases : HashMap TypeId (List TypeId)
  /-- The types of which others that look at their arguments later are instances. -/
  origins : HashMap TypeId TypeId
  /-- The type parameters that types mention. -/
  mentions : HashMap TypeId (List TypeId)
  /-- Type parameters of which nothing is known, in place of others. -/
  freed : HashMap TypeId TypeId
  /-- What mapped types are undone to, by what they are to give. -/
  reversed : HashMap (TypeId × TypeId × TypeId) (Option TypeId)
  /-- What mapped types are being undone from, the last first. -/
  reversing : List (TypeId × TypeId × Bool × Bool)
  /-- Unions and intersections without what has no values. -/
  reductions : HashMap TypeId TypeId
  baseConstructors : HashMap TypeId TypeId
  bounds : HashMap TypeId (Option TypeId)
  /-- What places tell of the bounds of type parameters that are inferred. -/
  implied : HashMap TypeId (List ImpliedBound)
  /-- What types amount to in the end. -/
  baseBounds : HashMap TypeId (Option TypeId)
  /-- What stands under keys, and conditions, as far as it can be told; the flag tells whether it
      is set. -/
  simplified : HashMap (Bool × TypeId) TypeId
  arguments : HashMap TypeId (List TypeId)
  enumValues : HashMap Key EnumValue
  /-- Types of the library that the language itself rests on. -/
  globals : HashMap String (Option TypeId)
  /-- What is being found out, the last first; the flag tells that it follows from
      itself. -/
  tasks : List (Task × Bool)
  comparing : Comparing
  /-- The pairs that are known to be related or not, with what turned out meanwhile. -/
  related : HashMap PairKey (Bool × Reports)
  /-- What turns out while it is found out how a type changes with an argument. -/
  reports : Option Reports
  /-- How types change with their arguments; nothing is told while that is being found out. -/
  variances : HashMap Key (Option (List Variance))
  /-- Types with arguments that only stand for others. -/
  marked : HashSet TypeId
  /-- Objects as they are written, where they may have other members besides. -/
  regularForms : HashMap TypeId TypeId
  /-- Widened types. -/
  widened : HashMap TypeId TypeId
  /-- What loops are taken to give a reference so far. -/
  turns : List ((Nat × Nat × String) × List Outcome)
  /-- The loops that were met. -/
  loops : HashMap (Nat × Nat) Flow
  /-- The ways that lead to declared variables. -/
  places : HashMap Key Flow
  /-- What calls were found to lead to. -/
  calls : HashMap Key CallOutcome
  /-- What the bodies of functions tell about their arguments. -/
  claims : HashMap Key (Option Claim)
  /-- The calls whose type parameters are being inferred. -/
  inferences : Array Inference
  /-- The functions that were looked at where something is expected of them. -/
  looked : HashSet Key
  /-- What is expected of what functions give, with the call that is inferred from it. -/
  expected : HashMap Key (TypeId × Option Nat)
  /-- The functions of which nothing is expected but what they are. -/
  alone : HashSet Key
  /-- What functions are expected to speak of as itself. -/
  selves : HashMap Key ExpectedSelf
  /-- Types of values with type arguments, by how they are asked for. -/
  queries : HashMap TypeId TypeExpr
  /-- Objects as they are written that stand alone. -/
  writtenObjects : HashMap Key TypeId
  /-- How deep types are being replaced one inside another. -/
  depth : Nat
  /-- How many steps may still be taken. -/
  left : Nat
  deriving Inhabited

/-- A computation that reads the world and keeps the store. -/
abbrev Check := ReaderT World (StateM Store)

/-! ## The first types -/

def anyType : TypeId := 0
def autoType : TypeId := 1
def errorType : TypeId := 2
def unknownType : TypeId := 3
def undefinedType : TypeId := 4
/-- Undefined that gives way to any other type. -/
def wideningUndefinedType : TypeId := 5
def missingType : TypeId := 6
def nullType : TypeId := 7
/-- Null that gives way to any other type. -/
def wideningNullType : TypeId := 8
def stringType : TypeId := 9
def numberType : TypeId := 10
def bigintType : TypeId := 11
def freshFalseType : TypeId := 12
def falseType : TypeId := 13
def freshTrueType : TypeId := 14
def trueType : TypeId := 15
def booleanType : TypeId := 16
def symbolType : TypeId := 17
def voidType : TypeId := 18
def neverType : TypeId := 19
def objectType : TypeId := 20
/-- The type of any object without known members. -/
def emptyObjectType : TypeId := 21
/-- An object type that is written without members. -/
def emptyLiteralType : TypeId := 22
/-- A function that is not looked at yet. -/
def unreadFunctionType : TypeId := 23
def emptyTextType : TypeId := 24
def zeroType : TypeId := 25
def bigZeroType : TypeId := 26
/-- The words that tell what kind of value something is. -/
def kindWordsType : TypeId := 35
/-- No value, as nothing is known yet. -/
def untoldType : TypeId := 36
/-- What may stand for any type at all. -/
def wildType : TypeId := 37
/-- An argument of which nothing is known. -/
def wideArgument : TypeId := 38
/-- An argument that is bound by the one of which nothing is known. -/
def narrowArgument : TypeId := 39
/-- Another argument of which nothing is known. -/
def otherArgument : TypeId := 40

/-- The words that tell what kind of value something is. -/
def kindWords : List String :=
  ["string", "number", "bigint", "boolean", "symbol", "undefined", "object", "function"]

/-- An entry of a shape. -/
def TypeEntry.of (shape : Shape) : TypeEntry := ⟨shape, none, none, false⟩

/-- The types that are there from the start, in order. -/
def firstEntries : List TypeEntry :=
  let plain (k : Keyword) : TypeEntry := .of (.keyword k)
  [plain .any, plain .auto, plain .error, plain .unknown, plain .undefined, plain .undefined,
    plain .missing, plain .null, plain .null, plain .string, plain .number, plain .bigint,
    ⟨.truth false, none, some 13, false⟩, .of (.truth false),
    ⟨.truth true, none, some 15, false⟩, .of (.truth true),
    .of (.union [13, 15] none), plain .symbol, plain .void, plain .never, plain .object,
    .of (.object (.made .none .plain none) []), .of (.object (.made .none .plain none) []),
    .of (.object (.made .none .plain none) []), .of (.text ""), .of (.number "0"),
    .of (.bigNumber false "0")]
    ++ kindWords.map (fun w => .of (.text w))
    ++ [.of (.union [27, 28, 29, 30, 31, 32, 33, 34] none), plain .never, plain .any,
      .of (.parameter "" (.marker none)), .of (.parameter "" (.marker (some 38))),
      .of (.parameter "" (.marker none))]

/-- The store in which nothing has been looked at. -/
def Store.start (left : Nat) : Store :=
  { types := firstEntries.toArray
    texts := .ofList (("", 24) :: kindWords.zipIdx.map fun (w, i) => (w, 27 + i))
    numbers := .ofList [("0", 25)]
    bigNumbers := .ofList [((false, "0"), 26)]
    enumMembers := ∅
    freshForms := .ofList [(13, 12), (15, 14)]
    references := ∅, tuples := ∅
    unions := .ofList [((none, [13, 15], none), 16),
      ((none, [27, 28, 29, 30, 31, 32, 33, 34], none), 35)]
    intersections := ∅, operations := ∅, objects := ∅, declared := ∅
    synonyms := ∅, instances := ∅, values := ∅, results := ∅, signatures := ∅, members := ∅
    bases := ∅, origins := ∅, mentions := ∅, reversed := ∅, reversing := [], freed := ∅, reductions := ∅, baseConstructors := ∅, bounds := ∅, implied := ∅, baseBounds := ∅, simplified := ∅, arguments := ∅, enumValues := ∅, globals := ∅, tasks := []
    comparing := .none, related := ∅, reports := none, variances := ∅, marked := ∅
    regularForms := ∅, widened := ∅, turns := [], loops := ∅, places := ∅, calls := ∅, claims := ∅, inferences := #[]
    looked := ∅, expected := ∅, alone := ∅, selves := ∅, queries := ∅, writtenObjects := ∅, depth := 0, left }

/-! ## Entries -/

/-- The entry of a type. -/
def entry (t : TypeId) : Check TypeEntry := return (← get).types.getD t (.of (.keyword .error))

/-- The shape of a type. -/
def shape (t : TypeId) : Check Shape := return (← entry t).shape

/-- Makes a type. -/
def make (e : TypeEntry) : Check TypeId := do
  let s ← get
  let t := s.types.size
  set { s with types := s.types.push e }
  return t

/-- Makes a type of a shape. -/
def makeShape (shape : Shape) : Check TypeId := make (.of shape)

/-- Makes a type of a shape that goes by another name. -/
def makeNamed (shape : Shape) (synonym : Option Synonym) : Check TypeId :=
  make { TypeEntry.of shape with synonym }

/-- Changes the shape of a type. -/
def reshape (t : TypeId) (shape : Shape) : Check Unit := modify fun s =>
  { s with types := s.types.modify t fun e => { e with shape } }

/-- The options of the project. -/
def settings : Check Settings := return (← read).settings

/-- Whether null and undefined are types of their own. -/
def strictNull : Check Bool := return (← settings).strictNull

/-! ## Single values -/

/-- The type of one text. -/
def textType (content : String) : Check TypeId := do
  match (← get).texts[content]? with
  | some t => return t
  | none =>
    let t ← makeShape (.text content)
    modify fun s => { s with texts := s.texts.insert content t }
    return t

/-- The type of one number, by its text. -/
def numberTypeOf (text : String) : Check TypeId := do
  let text := if text = "-0" then "0" else text
  match (← get).numbers[text]? with
  | some t => return t
  | none =>
    let t ← makeShape (.number text)
    modify fun s => { s with numbers := s.numbers.insert text t }
    return t

/-- The type of one integer of any size. -/
def bigNumberTypeOf (isNegative : Bool) (digits : String) : Check TypeId := do
  let key := (isNegative && digits != "0", digits)
  match (← get).bigNumbers[key]? with
  | some t => return t
  | none =>
    let t ← makeShape (.bigNumber key.1 key.2)
    modify fun s => { s with bigNumbers := s.bigNumbers.insert key t }
    return t

/-- The type of a truth value. -/
def truthType (value : Bool) : TypeId := if value then trueType else falseType

/-- The type is one of a single value that may be fresh. -/
def isLiteralShape : Shape → Bool
  | .text _ => true
  | .number _ => true
  | .bigNumber .. => true
  | .truth _ => true
  | .enumMember .. => true
  | _ => false

/-- The fresh form of the type of a single value. -/
def freshOf (t : TypeId) : Check TypeId := do
  let e ← entry t
  if e.regular.isSome || !isLiteralShape e.shape then return t
  else match (← get).freshForms[t]? with
    | some f => return f
    | none =>
      let f ← make { e with regular := some t }
      modify fun s => { s with freshForms := s.freshForms.insert t f }
      return f

/-- The type is the fresh form of another. -/
def isFresh (t : TypeId) : Check Bool := do
  let e ← entry t
  return e.regular.isSome && isLiteralShape e.shape

/-! ## Tasks -/

/-- Finds something out that may follow from itself.  A task that is under way is marked, with
    all that came after it, and gives `circular`; when it ends it then gives
    what `marked` makes of it. -/
def attemptTask (task : Task) (circular : α) (marked : α → Check α) (work : Check α) :
    Check α := do
  let s ← get
  match s.tasks.findIdx? (·.1 = task) with
  | some i =>
    set { s with tasks := s.tasks.mapIdx fun j (t, m) => (t, m || j ≤ i) }
    return circular
  | none =>
    set { s with tasks := (task, false) :: s.tasks }
    let x ← work
    let s ← get
    set { s with tasks := s.tasks.drop 1 }
    match s.tasks with
    | (_, true) :: _ => marked x
    | _ => return x

/-! ## Shapes that are found again -/

/-- The type parameters of a declared type, those of what it stands in first. -/
def Declared.parameters (d : Declared) : List TypeId := d.outer ++ d.own

/-- A declared type or tuple with type arguments. -/
def reference (target : TypeId) (arguments : List TypeId) : Check TypeId := do
  let own := match ← shape target with
    | .declared d => d.parameters
    | .tuple _ ps => ps
    | _ => []
  if own = arguments then return target
  else match (← get).references[(target, arguments)]? with
    | some t => return t
    | none =>
      let t ← makeShape (.reference target arguments)
      modify fun s => { s with references := s.references.insert (target, arguments) t }
      return t

/-- A type that follows from texts and types by a word, made once. -/
def operation (word : String) (texts : List String) (types : List TypeId) (shape : Shape) :
    Check TypeId := do
  match (← get).operations[(word, texts, types)]? with
  | some t => return t
  | none =>
    let t ← makeShape shape
    modify fun s => { s with operations := s.operations.insert (word, texts, types) t }
    return t

/-- The types of how many elements a tuple may have. -/
def lengthsOf (form : TupleForm) : Check (List TypeId) :=
  if form.kinds.all fun kind => kind = .required || kind = .optional then
    let least := form.kinds.count .required
    (List.range (form.kinds.length + 1 - least)).mapM fun i => numberTypeOf (toString (least + i))
  else return [numberType]

/-- The tuple of a form, before its elements are known.  How many they may be is known
    from the start. -/
def tupleTarget (form : TupleForm) : Check TypeId := do
  match (← get).tuples[form]? with
  | some t => return t
  | none =>
    let ps ← form.kinds.mapM fun _ => makeShape (.parameter "T" .free)
    discard (lengthsOf form)
    let t ← makeShape (.tuple form ps)
    modify fun s => { s with tuples := s.tuples.insert form t }
    return t

end TypeLineage.Typing
