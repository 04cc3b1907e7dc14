import TypeLineage.Typing.Parameter

/-! # Widening

    The type of a value as it is written is narrow: a single value, null that
    gives way, an object that is only just made.  Where the type is kept it is
    widened.  Objects that are widened together get each other's members as
    missing ones. -/

namespace TypeLineage.Typing

open Source Program

/-! ## Single values -/

/-- The type with fresh single values in their regular form. -/
def regular (k : Rules) (t : TypeId) : Check TypeId := do
  match ← shape t with
  | .union .. => mapUnion k (fun u => return some (← regularOf u)) t
  | _ => regularOf t

/-- The enumeration that a member belongs to. -/
def enumerationOf (enumeration : Key) (otherwise : TypeId) : Check TypeId :=
  return ((← get).declared[enumeration]?).getD otherwise

/-- The type that a single value belongs to. -/
def baseOfValue (t : TypeId) : Check TypeId := do
  match ← shape t with
  | .text _ | .template .. | .changed .. => return stringType
  | .number _ => return numberType
  | .bigNumber .. => return bigintType
  | .truth _ => return booleanType
  | .enumMember _ _ enumeration _ _ => enumerationOf enumeration t
  | _ => return t

/-- The type with single values in place of which their types stand. -/
def baseOfValues (k : Rules) (t : TypeId) : Check TypeId := do
  match ← shape t with
  | .union .. => mapUnion k (fun u => return some (← baseOfValue u)) t
  | _ => baseOfValue t

/-- The type that a fresh single value gives way to. -/
def widenFresh (t : TypeId) : Check TypeId := do
  if ← isFresh t then baseOfValue t else return t

/-- The type in which fresh single values have given way. -/
def widenValues (k : Rules) (t : TypeId) : Check TypeId := do
  match ← shape t with
  | .union .. => mapUnion k (fun u => return some (← widenFresh u)) t
  | _ => widenFresh t

/-- The type in which symbols of their own have given way. -/
def widenSymbols (k : Rules) (t : TypeId) : Check TypeId :=
  mapUnion k (fun u => do
    match ← shape u with
    | .uniqueSymbol .. => return some symbolType
    | _ => return some u) t

/-! ## Kinds of objects -/

/-- The declaration that a list follows, if the type is a list: whether it may be changed, and
    what it holds. -/
structure ListForm where
  isReadonly : Bool
  element : TypeId

/-- A type of the library that the language itself rests on. -/
def globalType? (k : Rules) (name : String) : Check (Option TypeId) := do
  match (← get).globals[name]? with
  | some t => return t
  | none =>
    let es := ((← read).shared name).filter (·.means .type)
    let t ← if es.isEmpty then pure none else pure (some (← k.declared es))
    modify fun s => { s with globals := s.globals.insert name t }
    return t

/-- The type's target and arguments, if it is a reference. -/
def referenceOf? (k : Rules) (t : TypeId) : Check (Option (TypeId × List TypeId)) := do
  match ← shape t with
  | .reference target arguments => return some (target, arguments)
  | .deferred target _ _ _ => return some (target, ← k.arguments t)
  | .declared d => return some (t, d.parameters)
  | .tuple _ ps => return some (t, ps)
  | _ => return none

/-- The type as a list. -/
def listForm? (k : Rules) (t : TypeId) : Check (Option ListForm) := do
  let target? ← match ← shape t with
    | .reference target _ => pure (some target)
    | .deferred target _ _ _ => pure (some target)
    | .declared _ => pure (some t)
    | _ => pure none
  match target? with
  | none => return none
  | some target =>
    match ← shape target with
    | .declared d =>
      if d.name ≠ "Array" && d.name ≠ "ReadonlyArray" then return none
      else
        let list := ((← get).globals["Array"]?).join
        let fixed := ((← get).globals["ReadonlyArray"]?).join
        if some target = list || some target = fixed then
          return (← k.arguments t).head?.map (⟨some target = fixed, ·⟩)
        else return none
    | _ => return none

/-- The type is a list. -/
def isList (k : Rules) (t : TypeId) : Check Bool := return (← listForm? k t).isSome

/-- The form of a tuple, and the types of its elements. -/
def tupleForm? (k : Rules) (t : TypeId) : Check (Option (TupleForm × List TypeId)) := do
  match ← shape t with
  | .tuple form ps => return some (form, ps)
  | .reference target arguments =>
    match ← shape target with
    | .tuple form _ => return some (form, arguments)
    | _ => return none
  | .deferred target _ _ _ =>
    match ← shape target with
    | .tuple form _ => return some (form, ← k.arguments t)
    | _ => return none
  | _ => return none

/-- The type is a tuple. -/
def isTuple (t : TypeId) : Check Bool := do
  let target ← match ← shape t with
    | .reference target _ => pure target
    | .deferred target _ _ _ => pure target
    | _ => pure t
  match ← shape target with
  | .tuple .. => return true
  | _ => return false

/-- The type is an object as it is written. -/
def isObjectValue (t : TypeId) : Check Bool := do
  match ← shape t with
  | .object (.made _ form _) _ => return form ≠ .plain
  | _ => return false

/-! ## Widening -/

/-- Something in the type gives way. -/
def needsWidening (k : Rules) : Nat → TypeId → Check Bool
  | 0, _ => return false
  | n + 1, t => do
    match ← shape t with
    | .keyword .undefined => return t = wideningUndefinedType
    | .keyword .null => return t = wideningNullType
    | .object (.made _ form _) _ => return form ≠ .plain
    | .union ts _ => ts.anyM (needsWidening k n)
    | .intersection ts => ts.anyM (needsWidening k n)
    | .reference _ arguments =>
      if (← entry t).isListValue then return true else arguments.anyM (needsWidening k n)
    | _ => return false

/-- The members of objects that are widened together, the last of each name. -/
def siblingProperties (k : Rules) (siblings : List TypeId) : Check (List Property) := do
  siblings.foldlM (fun found t => do
    match ← shape t with
    | .object (.made _ form _) _ =>
      if form ≠ .value && form ≠ .regular then return found
      let m ← k.members t
      return m.properties.foldl (fun found p =>
        if found.any (·.name = p.name) then
          found.map fun q => if q.name = p.name then p else q
        else found ++ [p]) found
    | _ => return found) []

/-- The types of a member of objects that are widened together. -/
def siblingsAt (k : Rules) (siblings : List TypeId) (name : String) : Check (List TypeId) := do
  siblings.flatMapM fun t => do
    if ← isObjectValue t then
      let m ← k.members t
      match m.properties.find? (·.name = name) with
      | some p => membersOf (← k.property p)
      | none => return []
    else return []

/-- The widened type, given what is widened with it.  One that is widened alone is widened
    once. -/
def widenWith (k : Rules) : Nat → Option (List TypeId) → TypeId → Check TypeId
  | 0, _, t => return t
  | n + 1, siblings, t => do
    if !(← needsWidening k 64 t) then return t
    match siblings, (← get).widened[t]? with
    | none, some u => return u
    | _, _ =>
      let u ← widenParts n siblings t
      if siblings.isNone then
        modify fun s => { s with widened := s.widened.insert t u }
      return u
where
  /-- The type with its parts widened. -/
  widenParts (n : Nat) (siblings : Option (List TypeId)) (t : TypeId) : Check TypeId := do
    match ← shape t with
    | .keyword _ => return anyType
    | .object (.made _ _ scope) _ =>
      let m ← k.members t
      let own ← m.properties.mapM fun p => do
        if p.isMethod || p.isAccessor then return p
        else
          let original ← k.property p
          let inner ← siblings.mapM (siblingsAt k · p.name)
          let widened ← widenWith k n inner original
          return if widened = original then p
            else { p with holding := .known widened, substitution := [] }
      let others ← match siblings with
        | some ts =>
          let found ← siblingProperties k ts
          let absent := if (← settings).exactOptional then missingType else undefinedType
          pure ((found.filter fun p => !own.any (·.name = p.name)).map fun p =>
            { p with holding := .known absent, substitution := [], isOptional := true })
        | none => pure []
      let indexers ← m.indexers.mapM fun i => return { i with type := ← widenWith k n none i.type }
      makeShape (.object (.made ⟨own ++ others, [], [], indexers⟩ .plain scope) [])
    | .union ts _ =>
      let context := some (siblings.getD ts)
      let widened ← ts.mapM fun u => do
        if ← isAbsent u then return u else widenWith k n context u
      let hasEmpty ← widened.anyM isEmptyObject
      unionOf k (if hasEmpty then .subtype else .literal) widened none
    | .intersection ts => intersection k (← ts.mapM (widenWith k n none)) none
    | .reference target arguments =>
      if (← isList k t) || (← isTuple t) then
        reference target (← arguments.mapM (widenWith k n none))
      else return t
    | _ => return t

/-- The widened type. -/
def widen (k : Rules) (t : TypeId) : Check TypeId := widenWith k 64 none t

/-- The type of a list as it is written. -/
def listValue (t : TypeId) : Check TypeId := do
  let e ← entry t
  match e.shape with
  | .reference .. =>
    if e.isListValue then return t
    else match (← get).freshForms[t]? with
      | some l => return l
      | none =>
        let l ← make { e with isListValue := true }
        modify fun s => { s with freshForms := s.freshForms.insert t l }
        return l
  | _ => return t

end TypeLineage.Typing
