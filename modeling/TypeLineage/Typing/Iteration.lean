import TypeLineage.Typing.Facts

/-! # Promises and items

    A promise gives a value when it is awaited; what can be gone through gives
    items.  Both are told by the members of a type.  A function that waits
    gives a promise; one that yields gives a generator. -/

namespace TypeLineage.Typing

open Source Program

/-! ## Promises -/

/-- The argument of a reference to a type of the library. -/
def argumentOfGlobal? (k : Rules) (name : String) (t : TypeId) : Check (Option TypeId) := do
  match ← referenceOf? k t, ← globalType? k name with
  | some (target, arguments), some g => return if target = g then arguments.head? else none
  | _, _ => return none

/-- The type is that of something awaited that is not known yet. -/
def awaitedOf? (t : TypeId) : Check (Option TypeId) := do
  match (← entry t).synonym with
  | some y => return if y.name = "Awaited" && y.key.isOfLibrary then y.arguments.head? else none
  | none => return none

/-- The types of the first argument of functions. -/
def firstArguments (k : Rules) (sigs : List Signature) : Check (List TypeId) :=
  sigs.mapM fun sig => sig.typeAt k 0

/-- What a promise gives, if the type is one. -/
def promised? (k : Rules) (t : TypeId) : Check (Option TypeId) := do
  if ← isAny t then return none
  match ← argumentOfGlobal? k "Promise" t with
  | some u => return some u
  | none =>
    if isPrimitiveShape (← shape t) then return none
    match ← propertyOf? k t "then" with
    | none => return none
    | some p =>
      let f ← k.property p
      if ← isAny f then return none
      let calls := (← k.members (← k.apparent f)).calls
      if calls.isEmpty then return none
      let taken ← present k (← union k (← firstArguments k calls))
      if ← isAny taken then return none
      let inner := (← k.members (← k.apparent taken)).calls
      if inner.isEmpty then return none
      return some (← unionOf k .subtype (← firstArguments k inner) none)

/-- What awaiting gives has to wait for the type. -/
def awaitsLater (k : Rules) (t : TypeId) : Check Bool := do
  if ← isAny t then return false
  if (← awaitedOf? t).isSome then return false
  if !(← isGenericObject k 16 t) then return false
  let b ← baseBound k t
  if (← isAny b) || (← isKeyword .unknown b) || (← isEmptyObject b) then return true
  someMember (fun u => return (← promised? k u).isSome) b

/-- What awaiting a type gives, before a name is given to it. -/
def awaitedParts (k : Rules) : Nat → TypeId → Check TypeId
  | 0, t => return t
  | n + 1, t => do
    if ← isAny t then return t
    if (← awaitedOf? t).isSome then return t
    match ← shape t with
    | .union .. => mapUnion k (fun u => return some (← awaitedParts k n u)) t
    | _ =>
      if ← awaitsLater k t then return t
      match ← promised? k t with
      | some u => if u = t then return errorType else awaitedParts k n u
      | none => return t

/-- What awaiting a type gives. -/
def awaited (k : Rules) (t : TypeId) : Check TypeId := do
  let u ← awaitedParts k 16 t
  if ← awaitsLater k u then return (← globalSynonym? k "Awaited" [u]).getD u else return u

/-- What is behind a type that is awaited later. -/
def unawaited (k : Rules) (t : TypeId) : Check TypeId :=
  mapUnion k (fun u => return some ((← awaitedOf? u).getD u)) t

/-- The type of promises that give a type. -/
def promiseOf (k : Rules) (t : TypeId) : Check TypeId := do
  let inner ← awaitedParts k 16 (← unawaited k t)
  return (← globalReference? k "Promise" [inner]).getD unknownType

/-! ## Items -/

/-- The member that only a well-known symbol names. -/
def symbolProperty? (k : Rules) (t : TypeId) (name : String) : Check (Option Property) := do
  let m ← k.members (← k.apparent t)
  return m.properties.find? fun p => p.name.startsWith ("__@Symbol." ++ name ++ "@")

/-- What going through something gives: its items, what comes at the end, and what is handed
    back in between. -/
structure Passing where
  item : TypeId
  result : TypeId
  next : TypeId

/-- Declared types of the library whose arguments tell what going through them gives. -/
def passingNames : List String :=
  ["Iterator", "IterableIterator", "IteratorObject", "Generator", "AsyncIterator",
    "AsyncIterableIterator", "AsyncIteratorObject", "AsyncGenerator", "Iterable",
    "AsyncIterable"]

/-- Declared types of the library that are gone through to their end and tell only of their
    items. -/
def listingNames : List String :=
  ["ArrayIterator", "MapIterator", "SetIterator", "StringIterator", "RegExpStringIterator"]

/-- What comes at the end of what the library goes through. -/
def endOfList (k : Rules) : Check TypeId :=
  intrinsic k "BuiltinIteratorReturn" []

/-- Going through a list of items. -/
def passingOfList (k : Rules) (item : TypeId) : Check Passing :=
  return ⟨item, ← endOfList k, unknownType⟩

/-- The value of results that are the last, or that are not. -/
def valueOfResults (k : Rules) (isLast : Bool) (t : TypeId) : Check TypeId := do
  let parts ← filterUnion (fun u => do
    match ← propertyOf? k u "done" with
    | some p => hasFact k (if isLast then .truthy else .falsy) (← k.property p)
    | none => return !isLast) t
  let types ← (← membersOf parts).filterMapM fun u => do
    match ← propertyOf? k u "value" with
    | some p => return some (← k.property p)
    | none => return none
  union k types

/-- What an iterator gives. -/
def passingOfIterator? (k : Rules) (isAsync : Bool) (t : TypeId) : Check (Option Passing) := do
  if ← isAny t then return some ⟨anyType, anyType, anyType⟩
  let named ← match ← referenceOf? k t with
    | some (target, arguments) =>
      match ← shape target, arguments with
      | .declared d, item :: others =>
        if !d.key.isOfLibrary then pure none
        else if listingNames.contains d.name then some <$> passingOfList k item
        else if passingNames.contains d.name then
          match others with
          | [result, next] => pure (some ⟨item, result, next⟩)
          | _ => pure (some ⟨item, anyType, unknownType⟩)
        else pure none
      | _, _ => pure none
    | none => pure none
  match named with
  | some p => return some p
  | none =>
    match ← propertyOf? k t "next" with
    | none => return none
    | some p =>
      match (← k.members (← k.apparent (← k.property p))).calls with
      | [] => return none
      | sig :: _ =>
        let result ← k.result sig
        let result ← if isAsync then awaited k result else pure result
        let next := (← sig.typeAt? k 0).getD unknownType
        return some ⟨← valueOfResults k false result, ← valueOfResults k true result, next⟩

/-- What a type gives through the member that a well-known symbol names. -/
def passingThrough? (k : Rules) (name : String) (isAsync : Bool) (t : TypeId) :
    Check (Option Passing) := do
  match ← symbolProperty? k t name with
  | none => return none
  | some p =>
    let f ← k.property p
    if ← isAny f then return some ⟨anyType, anyType, anyType⟩
    match (← k.members (← k.apparent f)).calls with
    | [] => return none
    | sig :: _ => passingOfIterator? k isAsync (← k.result sig)

/-- What going through a type gives that is no union. -/
def passingOfOne? (k : Rules) (isAsync : Bool) (t : TypeId) : Check (Option Passing) := do
  if ← isAny t then return some ⟨t, anyType, anyType⟩
  let own ← if isAsync then passingThrough? k "asyncIterator" true t else pure none
  match own with
  | some p => return some p
  | none =>
    let direct ← match ← elementOf? k t with
      | some e => some <$> passingOfList k e
      | none =>
        if isTextShape (← shape t) then
          match ← passingThrough? k "iterator" false (← k.apparent t) with
          | some p => pure (some p)
          | none => some <$> passingOfList k stringType
        else passingThrough? k "iterator" false t
    match direct with
    | some p =>
      if isAsync then return some { p with item := ← awaited k p.item, result := ← awaited k p.result }
      else return some p
    | none => return none

/-- What going through a type gives. -/
def passingOf? (k : Rules) (isAsync : Bool) (t : TypeId) : Check (Option Passing) := do
  let base ← if isOpenShape (← shape t) then baseBound k t else pure t
  match ← shape base with
  | .union ts _ =>
    let found ← ts.mapM (passingOfOne? k isAsync)
    if found.any (·.isNone) then return none
    let all := found.filterMap id
    return some ⟨← union k (all.map (·.item)), ← union k (all.map (·.result)),
      ← intersection k (all.map (·.next)) none⟩
  | _ => passingOfOne? k isAsync base

/-- Under an early edition of the language only lists are gone through. -/
def takesListsOnly : Check Bool := do
  let s ← settings
  return s.target < 2015 && !s.stepsEarly

/-- The items of a type that is a list, or also a text if the flag is set. -/
def listedItem? (k : Rules) (takesText : Bool) (t : TypeId) : Check (Option TypeId) := do
  if ← isAny t then return some t
  let isText (u : TypeId) : Check Bool := do
    if takesText then return isTextShape (← shape u) else return false
  let hasText ← someMember isText t
  let list ← if hasText then filterUnion (fun u => return !(← isText u)) t else pure t
  if hasText && (← isNever list) then return some stringType
  if !(← k.related .assignable list (← listOf k true anyType)) then
    return if hasText then some stringType else none
  let items ← (← membersOf list).mapM fun u => do
    match ← elementOf? k u with
    | some e => return e
    | none => return (← elementOf? k (← k.base u)).getD anyType
  let item ← union k items
  if !hasText then return some item
  else if ← everyMember (fun u => return isTextShape (← shape u)) item then return some stringType
  else return some (← unionOf k .subtype [item, stringType] none)

/-- The items that a type is gone through by. -/
def itemOf? (k : Rules) (isAsync : Bool) (t : TypeId) : Check (Option TypeId) := do
  if !isAsync && (← takesListsOnly) then listedItem? k false t
  else return (← passingOf? k isAsync t).map (·.item)

/-- The items that a loop over a type goes through, or something wrong. -/
def loopItem (k : Rules) (isAsync : Bool) (t : TypeId) : Check TypeId := do
  if ← takesListsOnly then
    let found ← if isAsync then passingOf? k true t else pure none
    match found with
    | some p => return p.item
    | none => return (← listedItem? k true t).getD errorType
  else return ((← passingOf? k isAsync t).map (·.item)).getD errorType

/-- The items that a type is gone through by, or something wrong. -/
def itemOf (k : Rules) (isAsync : Bool) (t : TypeId) : Check TypeId :=
  return (← itemOf? k isAsync t).getD errorType

/-- What the result of a generator tells that is written. -/
def passingOfGenerator? (k : Rules) (isAsync : Bool) (t : TypeId) : Check (Option Passing) := do
  if ← isAny t then return some ⟨anyType, anyType, anyType⟩
  match ← passingOf? k isAsync t with
  | some p => return some p
  | none => passingOfIterator? k isAsync t

/-- The generator that yields and gives types. -/
def generatorOf (k : Rules) (isAsync : Bool) (yielded result next : TypeId) : Check TypeId := do
  let name := if isAsync then "AsyncGenerator" else "Generator"
  match ← globalReference? k name [yielded, result, next] with
  | some t => return t
  | none =>
    let name := if isAsync then "AsyncIterableIterator" else "IterableIterator"
    return (← globalReference? k name [yielded, result, next]).getD emptyObjectType

end TypeLineage.Typing
