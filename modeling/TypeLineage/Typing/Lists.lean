import TypeLineage.Typing.Widening

/-! # Lists and tuples

    A list has any number of elements of one type; a tuple has a form, which
    tells of each element whether it must be there.  A tuple that takes in
    another list is unrolled when that list is known. -/

namespace TypeLineage.Typing

open Source Program

/-! ## Lists -/

/-- The type of lists of elements. -/
def listOf (k : Rules) (isReadonly : Bool) (element : TypeId) : Check TypeId := do
  match ← globalType? k (if isReadonly then "ReadonlyArray" else "Array") with
  | some target => reference target [element]
  | none => return emptyObjectType

/-- A type of the library with type arguments. -/
def globalReference? (k : Rules) (name : String) (arguments : List TypeId) :
    Check (Option TypeId) := do
  match ← globalType? k name with
  | some target => return some (← reference target arguments)
  | none => return none

/-! ## Tuples -/

namespace TupleForm

/-- The element stands for any number of elements. -/
def isOpen (kind : ElementKind) : Bool := kind = .rest || kind = .variadic

/-- How many elements stand before the first that stands for any number. -/
def fixedLength (f : TupleForm) : Nat := (f.kinds.takeWhile (!isOpen ·)).length

/-- Some element stands for any number. -/
def hasOpen (f : TupleForm) : Bool := f.kinds.any isOpen

/-- How many elements there must be. -/
def leastLength (f : TupleForm) : Nat :=
  (f.kinds.reverse.dropWhile fun kind => kind = .optional || isOpen kind).length

/-- The form with the same mark on all of a list. -/
def ofKinds (kinds : List ElementKind) : TupleForm := ⟨kinds, kinds.map fun _ => none, false⟩

end TupleForm

/-- An element of a tuple that is being formed. -/
structure Element where
  kind : ElementKind
  name : Option String
  type : TypeId
  deriving Inhabited

/-- The reference to a tuple whose elements need no unrolling. -/
def tupleReference (k : Rules) (isReadonly : Bool) (es : List Element) : Check TypeId := do
  match es with
  | [⟨.rest, _, t⟩] => listOf k isReadonly t
  | _ =>
    let names := if es.any (·.name.isSome) then es.map (·.name) else es.map fun _ => none
    let target ← tupleTarget ⟨es.map (·.kind), names, isReadonly⟩
    if es.isEmpty then return target else reference target (es.map (·.type))

/-- The type as an element that takes in a list, unrolled as far as it is known. -/
def unroll (k : Rules) (e : Element) : Check (List Element) := do
  if e.kind ≠ .variadic then return [e]
  let s ← shape e.type
  if ← isAny e.type then return [{ e with kind := .rest }]
  else if isOpenShape s then return [e]
  else match ← tupleForm? k e.type with
    | some (form, types) =>
      return (form.kinds.zip (form.names.zip types)).map fun (kind, name, t) => ⟨kind, name, t⟩
    | none =>
      match ← listForm? k e.type with
      | some l => return [{ e with kind := .rest, type := l.element }]
      | none =>
        let m ← k.members (← k.apparent e.type)
        let t := (m.indexers.find? (·.key = numberType)).map (·.type)
        return [{ e with kind := .rest, type := t.getD errorType }]

/-- What stands under any number in an open type. -/
def openElement (t : TypeId) : Check TypeId := do
  let s ← shape t
  if isOpenShape s then operation "index" [] [t, numberType] (.index t numberType) else return t

/-- Elements in order: what must be there goes before what need not, and only one element
    stands for any number. -/
def settleElements (k : Rules) (es : List Element) : Check (List Element) := do
  let lastRequired := (es.reverse.dropWhile (·.kind ≠ .required)).length
  let es := es.mapIdx fun i e =>
    if e.kind = .optional && i + 1 < lastRequired then { e with kind := .required } else e
  let firstRest := es.findIdx? (·.kind = .rest)
  let lastLoose := (es.reverse.dropWhile fun e =>
    e.kind ≠ .optional && e.kind ≠ .rest && e.kind ≠ .variadic).length
  match firstRest with
  | some i =>
    if i + 1 < lastLoose then
      let middle := (es.take lastLoose).drop i
      let types ← middle.mapM fun e => if e.kind = .variadic then openElement e.type else pure e.type
      let t ← union k types
      let name := (es[i]?.map (·.name)).join
      return es.take i ++ [⟨.rest, name, t⟩] ++ es.drop lastLoose
    else return es
  | none => return es

/-- The tuple of elements, one for each choice among those that take in one of several
    lists. -/
def tupleOf (k : Rules) (isReadonly : Bool) (es : List Element) : Check TypeId := do
  let flags ← es.mapM fun e => do
    if e.kind = .variadic then return (← isUnion e.type) || (← isNever e.type) else return false
  match flags.findIdx? id with
  | some i =>
    let e := es.getD i default
    mapUnion k (fun t => return some (← whole (es.set i { e with type := t }))) e.type
  | none => whole es
where
  whole (es : List Element) : Check TypeId := do
    let unrolled ← es.flatMapM (unroll k)
    let whole ← unrolled.mapM fun e =>
      if e.kind = .optional then return { e with type := ← orMissing k e.type } else return e
    tupleReference k isReadonly (← settleElements k whole)

/-- The elements of a tuple. -/
def elementsOf (form : TupleForm) (types : List TypeId) : List Element :=
  (form.kinds.zip (form.names.zip types)).map fun (kind, name, t) => ⟨kind, name, t⟩

/-- A declared type or tuple with type arguments, unrolled. -/
def settledReference (k : Rules) (target : TypeId) (arguments : List TypeId) : Check TypeId := do
  match ← shape target with
  | .tuple form _ =>
    if form.kinds.all (· = .required) then reference target arguments
    else tupleOf k form.isReadonly (elementsOf form arguments)
  | _ => reference target arguments

/-- What any element of a tuple may be. -/
def tupleElement (k : Rules) (form : TupleForm) (types : List TypeId) : Check TypeId := do
  let ts ← (elementsOf form types).mapM fun e =>
    if e.kind = .variadic then openElement e.type else pure e.type
  union k ts

/-- What stands under any number of a list or tuple. -/
def elementOf? (k : Rules) (t : TypeId) : Check (Option TypeId) := do
  match ← listForm? k t with
  | some l => return some l.element
  | none =>
    match ← tupleForm? k t with
    | some (form, types) => return some (← tupleElement k form types)
    | none => return none

/-- The part of a tuple from a place on. -/
def tupleFrom (k : Rules) (form : TupleForm) (types : List TypeId) (start : Nat) : Check TypeId :=
  tupleOf k false ((elementsOf form types).drop start)

/-- The element of a list or tuple at a place. -/
def elementAt? (k : Rules) (t : TypeId) (i : Nat) : Check (Option TypeId) := do
  match ← tupleForm? k t with
  | some (form, types) =>
    if i < form.fixedLength then return types[i]?
    else if form.hasOpen then
      let rest := (elementsOf form types).drop form.fixedLength
      let ts ← rest.mapM fun e => if e.kind = .variadic then openElement e.type else pure e.type
      return some (← union k ts)
    else return none
  | none => return (← listForm? k t).map (·.element)

end TypeLineage.Typing
