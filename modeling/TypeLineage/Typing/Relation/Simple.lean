import TypeLineage.Typing.Members

/-! # Simple types

    Of types without parts it is known at once how they compare.  Anything is
    taken for anything; single values belong to the type of their kind, and
    without strictness null and undefined belong to every type.  Where types are
    only compared loosely a number may be any member of an enumeration. -/

namespace TypeLineage.Typing

open Source Program

/-! ## Kinds of shapes -/

/-- The type is the type of anything. -/
def isAnyShape : Shape → Bool
  | .keyword .any | .keyword .auto | .keyword .error | .unresolved .. => true
  | _ => false

/-- The type is undefined. -/
def isUndefinedShape : Shape → Bool
  | .keyword .undefined | .keyword .missing => true
  | _ => false

/-- The type is of no object and depends on no type parameter. -/
def isPrimitiveShape : Shape → Bool
  | .keyword k => match k with
    | .object | .any | .unknown | .auto | .error | .never => false
    | _ => true
  | .text _ | .number _ | .bigNumber .. | .truth _ | .enumMember .. | .uniqueSymbol .. => true
  | .template .. | .changed .. => true
  | _ => false

/-- The type is a union or an intersection. -/
def isGroupShape : Shape → Bool
  | .union .. | .intersection _ => true
  | _ => false

/-- The type depends on type parameters as a whole, or is of texts that may. -/
def isInstantiableShape : Shape → Bool
  | .template .. | .changed .. => true
  | s => isOpenShape s

/-- The type has parts, or depends on type parameters. -/
def isStructuredShape (s : Shape) : Bool :=
  isObjectShape s || isGroupShape s || isInstantiableShape s

/-! ## Comparing -/

/-- Types of single values, and the types of their kinds, are related. -/
def ofOneKind (isLoose : Bool) (s t : Shape) : Bool :=
  match t with
  | .keyword .string => isTextShape s
  | .keyword .number => isNumberShape s
  | .keyword .bigint => (s matches .keyword .bigint) || (s matches .bigNumber ..)
  | .keyword .symbol => isSymbolShape s
  | .keyword .undefined | .keyword .missing | .keyword .void => isUndefinedShape s
  | .keyword .null => (s matches .keyword .null)
  | .text b => match s with
    | .enumMember _ _ _ _ (some (.text a)) => a = b
    | _ => false
  | .number b => match s with
    | .enumMember _ _ _ _ (some (.number x)) => x.text .plain = b
    | _ => false
  | .enumMember _ _ e _ w => match s, w with
    | .enumMember _ _ f _ v, _ => e = f && v = w && v.isSome
    | .keyword .number, some (.text _) => false
    | .keyword .number, _ => isLoose
    | .number a, some (.number x) => isLoose && x.text .plain = a
    | .number _, none => isLoose
    | _, _ => false
  | _ => false

/-- Anything may be taken for a union of undefined, null and any object. -/
def takesAnything (t : TypeId) : Check Bool := do
  if !(← strictNull) then return false
  match ← shape t with
  | .union (first :: second :: others) _ =>
    if !(← isUndefined first) || !(← isKeyword .null second) then return false
    else others.anyM isEmptyObject
  | _ => return false

/-- Types are related, as can be told without looking into them. -/
def simplyRelated (r : Relation) (source target : TypeId) : Check Bool := do
  let s ← shape source
  let t ← shape target
  let isLoose := r = .assignable || r = .comparable
  if isAnyShape t || s matches .keyword .never || source = wildType then return true
  if t matches .keyword .unknown then
    if !(r = .strictSubtype && isAnyShape s) then return true
  if t matches .keyword .never then return false
  if ofOneKind isLoose s t then return true
  if target = booleanType && (source = booleanType || s matches .truth _) then return true
  if isUndefinedShape s || s matches .keyword .null then
    if !(← strictNull) && !isGroupShape t then return true
  if isObjectShape s && t matches .keyword .object then
    let isOpen ← if r = .strictSubtype then isOpenEmpty source else pure false
    if !isOpen then return true
  if isLoose then
    if isAnyShape s then return true
    if ← takesAnything target then return true
  return false
where
  /-- An object of which no members are known, and that may have any. -/
  isOpenEmpty (t : TypeId) : Check Bool := do
    match ← shape t with
    | .object (.made _ form _) _ => if form.isFresh then return false else isEmptyObject t
    | _ => isEmptyObject t

/-! ## Reports -/

/-- A type that stands for others in order to find out how types change with them is compared in
    a way that does not tell that, or only where types are related. -/
def reportMarked (k : Rules) (isUnreliable : Bool) (t : TypeId) : Check Unit := do
  match (← get).reports with
  | none => return
  | some own =>
    let ps ← mentioned k t
    if [wideArgument, narrowArgument, otherArgument].any ps.contains then
      modify fun store => { store with
        reports := some (if isUnreliable then { own with isUnreliable := true }
          else { own with isUnmeasurable := true }) }

end TypeLineage.Typing
