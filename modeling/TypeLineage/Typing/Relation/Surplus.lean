import TypeLineage.Typing.Relation.Normal

/-! # Members that are not asked for

    An object as it is written must not have members that the type it is taken
    for knows nothing of.  Where a type has only members that need not be there,
    what is taken for it must have one of them at least. -/

namespace TypeLineage.Typing

open Source Program

/-! ## Members by which types are told apart

    The members of a union are told apart by a member of single values that not
    all of them have alike.  What is known of such members of a value tells
    which members of the union it may be of. -/

/-- The type of a member, or of what stands under its name. -/
def memberType? (k : Rules) (name : String) (t : TypeId) : Check (Option TypeId) := do
  match ← propertyOf? k t name with
  | some p => return some (← k.property p)
  | none =>
    let key ← textType name
    return (← indexerFor? k t key).map (·.type)

/-- The type of a member that some value has, if there is one. -/
def declaredMember? (k : Rules) (name : String) (t : TypeId) : Check (Option TypeId) := do
  if (← isNever t) || (← isError t) then return none
  match ← propertyOf? k t name with
  | some p => return some (← k.property p)
  | none => return none

/-- All values of the type are single ones. -/
def isOfUnits (t : TypeId) : Check Bool := do
  match ← shape t with
  | .union ts _ => ts.allM isUnit
  | _ => isUnit t

/-- The members of a union are told apart by a member. -/
def tellsApart (k : Rules) (name : String) (t : TypeId) : Check Bool := do
  match ← shape t with
  | .union ts _ =>
    let found ← ts.filterMapM (declaredMember? k name)
    match found with
    | [] => return false
    | first :: others =>
      if others.all (· = first) then return false
      let tells ← found.anyM fun u => do
        if ← isOfUnits u then return true else isPattern 16 u
      if !tells then return false
      return !(← isGeneric k (← union k found))
  | _ => return false

/-- A member of a value by which the members of a union are told apart. -/
structure Telltale where
  name : String
  /-- The type of the member. -/
  type : Check TypeId

/-- What is left of the members of a union, each with whether it is still in question, when one
    more member is known. -/
def narrowByTell (k : Rules) (related : TypeId → TypeId → Check Bool)
    (rows : List (TypeId × Bool)) (tell : Telltale) : Check (List (TypeId × Bool)) := do
  let checked ← rows.mapM fun (t, isIn) => do
    if !isIn then return (t, isIn, true)
    match ← memberType? k tell.name t with
    | none => return (t, isIn, true)
    | some u =>
      let fits ← someMember (related · u) (← tell.type)
      return (t, isIn, fits)
  let matched ← checked.anyM fun (t, isIn, fits) => do
    if isIn && fits then return (← memberType? k tell.name t).isSome else return false
  return checked.map fun (t, isIn, fits) => (t, isIn && (fits || !matched))

/-- What is left of a union where some members of a value are known.  A member that fits none of
    the types in question tells nothing. -/
def narrowedByTells (k : Rules) (related : TypeId → TypeId → Check Bool) (t : TypeId)
    (tells : List Telltale) : Check TypeId := do
  match ← shape t with
  | .union ts _ =>
    let start ← ts.mapM fun u => return (u, !isPrimitiveShape (← shape u))
    let rows ← tells.foldlM (narrowByTell k related) start
    if rows.all (·.2) then return t
    let left ← unionOf k .none ((rows.filter (·.2)).map (·.1)) none
    if ← isNever left then return t else return left
  | _ => return t

/-- The members of a value by which those of a union are told apart. -/
def tellsOf (k : Rules) (source target : TypeId) : Check (List Property) := do
  let m ← k.members (← k.apparent source)
  m.properties.filterM fun p => tellsApart k p.name target

/-! ## What a type knows -/

/-- The type has no members at all. -/
def hasNoMembers (k : Rules) : Nat → TypeId → Check Bool
  | 0, _ => return false
  | n + 1, t => do
    match ← shape t with
    | .keyword .object => return true
    | .union ts _ => ts.anyM (hasNoMembers k n)
    | .intersection ts => ts.allM (hasNoMembers k n)
    | s =>
      if !isObjectShape s || t = unreadFunctionType then return false
      if (← openMap? k t).isSome then return false
      let m ← k.members t
      return m.properties.isEmpty && m.calls.isEmpty && m.constructs.isEmpty && m.indexers.isEmpty

/-- The members of an object as it is written are looked for in the type. -/
def isChecked : Nat → TypeId → Check Bool
  | 0, _ => return false
  | n + 1, t => do
    match ← shape t with
    | .keyword .object => return true
    | .union ts _ => ts.anyM (isChecked n)
    | .intersection ts => ts.allM (isChecked n)
    | s => return isObjectShape s

/-- The type of the name of a member. -/
def nameTypeOf (p : Property) : Check TypeId := do
  match ← keyOfProperty? p with
  | some t => return t
  | none => if p.name.startsWith "__@" then return symbolType else textType p.name

/-- The type knows of a member of the name. -/
def knows (k : Rules) (p : Property) : Nat → TypeId → Check Bool
  | 0, _ => return false
  | n + 1, t => do
    match ← shape t with
    | .union ts _ | .intersection ts =>
      if ← isChecked 16 t then ts.anyM (knows k p n) else return false
    | s =>
      if !isObjectShape s then return false
      let m ← k.members t
      if m.properties.any (·.name = p.name) then return true
      if (← exportedProperty? t p.name).isSome then return true
      let key ← if p.name.startsWith "__@" then pure symbolType else textType p.name
      if (← indexerAmong? k m.indexers key).isSome then return true
      return p.name.startsWith "__@" && m.indexers.any (·.key = stringType)

/-- The type of a member in any of some types; one that lacks it has no value there. -/
def memberAmong (k : Rules) (name : String) (types : List TypeId) : Check TypeId := do
  let found ← types.mapM fun t => do
    let a ← k.apparent t
    match (← k.members a).properties.find? (·.name = name) with
    | some p => k.property p
    | none => return (← memberType? k name a).getD undefinedType
  union k found

/-! ## Members too many -/

/-- The members of a union that an object is taken for. -/
def soughtIn (k : Rules) (r : Relation) (source target : TypeId) : Check TypeId := do
  let tells := (← tellsOf k source target).map fun p => Telltale.mk p.name (k.property p)
  let related (s t : TypeId) : Check Bool := return (← k.compared ⟨r, .both, .none⟩ s t) ≠ .no
  let chosen ← if tells.isEmpty then pure target else narrowedByTells k related target tells
  if chosen ≠ target then return chosen
  if ← someMember (isKeyword .object) target then
    let objects ← filterUnion (fun t => return !isPrimitiveShape (← shape t)) target
    if ← isNever objects then return target else return objects
  else return target

/-- An object as it is written has a member that the other type knows nothing of, or one that is
    of none of the types that know of it. -/
def hasExcess (k : Rules) (r : Relation) (source target : TypeId) : Check Bool := do
  if !(← isFreshObject source) then return false
  if !(← isChecked 16 target) then return false
  if r = .assignable || r = .comparable then
    match ← globalType? k "Object" with
    | some o => if (← membersOf target).contains o then return false
    | none => pure ()
    if ← hasNoMembers k 16 target then return false
  let isMany ← isUnion target
  let sought ← if isMany then soughtIn k r source target else pure target
  let parts ← membersOf sought
  let m ← k.members source
  (m.properties.filter (·.isWritten)).anyM fun p => do
    if !(← knows k p 16 sought) then return true
    if !isMany then return false
    let wanted ← memberAmong k p.name parts
    return (← k.compared ⟨r, .both, .none⟩ (← k.property p) wanted) = .no

/-! ## Members in common -/

/-- The type has nothing but members that need not be there. -/
def isWeak (k : Rules) : Nat → TypeId → Check Bool
  | 0, _ => return false
  | n + 1, t => do
    match ← shape t with
    | .intersection ts => ts.allM (isWeak k n)
    | s =>
      if !isObjectShape s then return false
      let m ← k.members t
      return !m.properties.isEmpty && m.properties.all (·.isOptional) && m.calls.isEmpty
        && m.constructs.isEmpty && m.indexers.isEmpty

/-- The type has none of the members of another, of which none need be there. -/
def lacksCommon (k : Rules) (r : Relation) (source target : TypeId) : Check Bool := do
  let s ← shape source
  let t ← shape target
  if r = .comparable && !(← isUnit source) then return false
  if !(isPrimitiveShape s || isObjectShape s || s matches .intersection _) then return false
  if !(isObjectShape t || t matches .intersection _) then return false
  if some source = (← globalType? k "Object") then return false
  if !(← isWeak k 16 target) then return false
  let m ← k.members (← k.apparent source)
  if m.properties.isEmpty && m.calls.isEmpty && m.constructs.isEmpty then return false
  return !(← m.properties.anyM fun p => knows k p 16 target)

end TypeLineage.Typing
