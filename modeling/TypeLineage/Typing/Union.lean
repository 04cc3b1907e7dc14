import TypeLineage.Typing.Rules

/-! # Unions and intersections

    A union has each of its members once, in the order in which types were
    made.  Anything takes over, a single value gives way to the type it belongs
    to, and without strictness null and undefined give way to everything else.
    A union that was formed from named unions which share no member remembers
    them, to be told by their names. -/

namespace TypeLineage.Typing

open Source Program

/-! ## Kinds of types -/

/-- The members of a union, or the type itself. -/
def membersOf (t : TypeId) : Check (List TypeId) := do
  match ← shape t with
  | .union ts _ => return ts
  | _ => return [t]

/-- The type is of a keyword. -/
def isKeyword (k : Keyword) (t : TypeId) : Check Bool := do
  match ← shape t with
  | .keyword k' => return k' = k
  | _ => return false

/-- The type is the type of anything. -/
def isAny (t : TypeId) : Check Bool := do
  match ← shape t with
  | .keyword .any => return true
  | .keyword .auto => return true
  | .keyword .error => return true
  | .unresolved .. => return true
  | _ => return false

/-- The type is that of something wrong. -/
def isError (t : TypeId) : Check Bool := do
  match ← shape t with
  | .keyword .error => return true
  | .unresolved .. => return true
  | _ => return false

/-- The type is a union. -/
def isUnion (t : TypeId) : Check Bool := do
  match ← shape t with
  | .union .. => return true
  | _ => return false

/-- The type has no value. -/
def isNever (t : TypeId) : Check Bool := isKeyword .never t

/-- The type is undefined. -/
def isUndefined (t : TypeId) : Check Bool := do
  match ← shape t with
  | .keyword .undefined => return true
  | .keyword .missing => return true
  | _ => return false

/-- The type is null or undefined. -/
def isAbsent (t : TypeId) : Check Bool := do
  match ← shape t with
  | .keyword .undefined => return true
  | .keyword .missing => return true
  | .keyword .null => return true
  | _ => return false

/-- The shape is one of objects. -/
def isObjectShape : Shape → Bool
  | .declared _ => true
  | .reference .. => true
  | .deferred .. => true
  | .tuple .. => true
  | .object .. => true
  | _ => false

/-- The type is one of objects. -/
def isObject (t : TypeId) : Check Bool := return isObjectShape (← shape t)

/-- The shape depends on type parameters as a whole. -/
def isOpenShape : Shape → Bool
  | .parameter .. => true
  | .keys _ => true
  | .index .. => true
  | .conditional .. => true
  | .held _ => true
  | _ => false

/-- The type has only one value. -/
def isUnit (t : TypeId) : Check Bool := do
  match ← shape t with
  | .keyword .undefined | .keyword .missing | .keyword .null => return true
  | .uniqueSymbol .. => return true
  | s => return isLiteralShape s

/-- The regular form of the type of a single value. -/
def regularOf (t : TypeId) : Check TypeId := do
  let e ← entry t
  if isLiteralShape e.shape then return e.regular.getD t else return t

/-- The type goes by a name of its own, or remembers the names of others. -/
def isNamedUnion (t : TypeId) : Check Bool := do
  let e ← entry t
  match e.shape with
  | .union _ origin => return e.synonym.isSome || origin.isSome
  | _ => return false

/-! ## Forming unions -/

/-- How far a union is simplified. -/
inductive Reduction where
  /-- Not at all. -/
  | none
  /-- Single values give way to their types. -/
  | literal
  /-- Types give way to those they are subtypes of. -/
  | subtype
  deriving DecidableEq, Repr

/-- What has been seen of the members of a union. -/
structure Seen where
  types : List TypeId
  hasAny : Bool
  hasError : Bool
  hasUnknown : Bool
  hasNull : Bool
  hasUndefined : Bool
  /-- Null or undefined that gives way to nothing. -/
  hasFirmAbsent : Bool
  hasVoid : Bool
  hasNamed : Bool
  hasObject : Bool
  deriving Inhabited

/-- A number in a rising list. -/
def insertRising (t : TypeId) : List TypeId → List TypeId
  | [] => [t]
  | u :: rest => if t < u then t :: u :: rest else if t = u then u :: rest else u :: insertRising t rest

/-- Takes in a member that is no union. -/
def Seen.add (strict : Bool) (seen : Seen) (t : TypeId) (s : Shape) : Seen :=
  let put (seen : Seen) : Seen := { seen with types := insertRising t seen.types }
  let absent (seen : Seen) (isFirm : Bool) : Seen :=
    if strict then put seen else { seen with hasFirmAbsent := seen.hasFirmAbsent || isFirm }
  match s with
  | .keyword .never => seen
  | .keyword .any | .keyword .auto => put { seen with hasAny := true }
  | .keyword .error | .unresolved .. => put { seen with hasAny := true, hasError := true }
  | .keyword .unknown => put { seen with hasUnknown := true }
  | .keyword .null => absent { seen with hasNull := true } (t ≠ wideningNullType)
  | .keyword .undefined | .keyword .missing =>
    absent { seen with hasUndefined := true } (t ≠ wideningUndefinedType)
  | .keyword .void => put { seen with hasVoid := true }
  | s => put { seen with hasObject := seen.hasObject || isObjectShape s }

/-- Takes in types. -/
def Seen.addAll (seen : Seen) (types : List TypeId) : Check Seen := do
  let strict ← strictNull
  types.foldlM (fun seen t => do
    match ← shape t with
    | .union ts _ =>
      let named ← isNamedUnion t
      ts.foldlM (fun seen u => return seen.add strict u (← shape u))
        { seen with hasNamed := seen.hasNamed || named }
    | s => return seen.add strict t s) seen

/-- The keyword type that a single value belongs to. -/
def baseKeyword? : Shape → Option TypeId
  | .text _ => some stringType
  | .template .. => some stringType
  | .changed .. => some stringType
  | .number _ => some numberType
  | .enumMember _ _ _ _ (some (.text _)) => some stringType
  | .enumMember _ _ _ _ _ => some numberType
  | .bigNumber .. => some bigintType
  | .uniqueSymbol .. => some symbolType
  | _ => none

/-- The texts without those that a template among the types takes in. -/
def dropRedundant (types : List TypeId) (hasVoid isSubtype : Bool) : Check (List TypeId) := do
  types.filterM fun t => do
    let e ← entry t
    let isIn := match baseKeyword? e.shape with
      | some base => types.contains base
      | none => false
    let isFreshTwin := match e.regular with
      | some r => isLiteralShape e.shape && types.contains r
      | none => false
    let isCovered := isSubtype && hasVoid && (t = undefinedType || t = missingType)
    return !(isIn || isFreshTwin || isCovered)

/-- The named unions among types, each once. -/
def namedUnions (types : List TypeId) : Check (List TypeId) := go 8 [] types
where
  go : Nat → List TypeId → List TypeId → Check (List TypeId)
    | 0, found, _ => return found
    | n + 1, found, types => types.foldlM (fun found t => do
        let e ← entry t
        match e.shape with
        | .union _ origin =>
          match e.synonym, origin with
          | none, none => return found
          | none, some (.union ts) => go n found ts
          | _, _ => return if found.contains t then found else found ++ [t]
        | _ => return found) found

/-- The type of a union whose members are known. -/
def unionOfSorted (types : List TypeId) (synonym : Option Synonym)
    (origin : Option UnionOrigin) : Check TypeId := do
  match types with
  | [] => return neverType
  | [t] => return t
  | ts =>
    let parts := match origin with
      | some (.union _) => []
      | some (.intersection _) => []
      | _ => ts
    let key := (origin, parts, synonym)
    match (← get).unions[key]? with
    | some t => return t
    | none =>
      let t ← makeNamed (.union ts origin) synonym
      modify fun s => { s with unions := s.unions.insert key t }
      return t

/-- Anything a text may be matched with in a template. -/
def templateTakes (k : Rules) (text : TypeId) (types : List TypeId) : Check Bool :=
  types.anyM fun t => do
    match ← shape t with
    | .template .. => k.related .strictSubtype text t
    | .changed .. => k.related .strictSubtype text t
    | _ => return false

/-- The class that a type is an instance of. -/
def classOf? (t : TypeId) : Check (Option Declared) := do
  let target ← match ← shape t with
    | .reference u _ => shape u
    | .deferred u _ _ _ => shape u
    | s => pure s
  match target with
  | .declared d => return if d.isClass then some d else none
  | _ => return none

/-- One class derives from another, in however many steps. -/
def derives (k : Rules) : Nat → TypeId → Key → Check Bool
  | 0, _, _ => return false
  | n + 1, t, key => do
    match ← classOf? t with
    | some d =>
      if d.key = key then return true
      else (← k.bases t).anyM fun b => derives k n b key
    | none => return false

/-- The type is a type parameter that stands for one of several types. -/
def isChoice (k : Rules) (t : TypeId) : Check Bool := do
  match ← shape t with
  | .parameter .. =>
    match ← k.base? t with
    | some b => isUnion b
    | none => return false
  | _ => return false

/-- The types of which none is a subtype of another; a type parameter that stands for one of
    several types may be a subtype of all others together.  Where two are subtypes of each other the
    later gives way. -/
def dropSubtypes (k : Rules) (hasObject : Bool) (types : List TypeId) : Check (List TypeId) := do
  if types.length < 2 then return types
  let hasEmpty ← if hasObject then types.anyM fun t => do
      if ← isObject t then
        let m ← k.members t
        return m.properties.isEmpty && m.calls.isEmpty && m.constructs.isEmpty
          && m.indexers.isEmpty
      else return false
    else pure false
  types.reverse.foldlM (fun kept source => do
    let s ← shape source
    let isStructured := isObjectShape s || isOpenShape s || match s with
      | .intersection _ => true
      | .template .. => true
      | .changed .. => true
      | _ => false
    if !(hasEmpty || isStructured) then return kept
    if ← isChoice k source then
      let others ← unionOfSorted (kept.filter (· ≠ source)) none none
      return if ← k.related .strictSubtype source others then kept.filter (· ≠ source) else kept
    let gives ← kept.anyM fun target => do
      if target = source then return false
      else if ← k.related .strictSubtype source target then
        match ← classOf? source, ← classOf? target with
        | some _, some d => derives k 64 source d.key
        | _, _ => return true
      else return false
    return if gives then kept.filter (· ≠ source) else kept) types

/-- The union of types, given what it was formed from if that is known. -/
def unionFrom (k : Rules) (reduction : Reduction) (types : List TypeId)
    (synonym : Option Synonym) (given : Option UnionOrigin) : Check TypeId := do
  match types with
  | [] => return neverType
  | [t] => return t
  | _ =>
    let seen ← Seen.addAll ⟨[], false, false, false, false, false, false, false, false, false⟩ types
    let mut ts := seen.types
    if reduction ≠ .none then
      if seen.hasAny then return if seen.hasError then errorType else anyType
      if seen.hasUnknown then return unknownType
      if ts.contains undefinedType then ts := ts.filter (· ≠ missingType)
      ts ← dropRedundant ts seen.hasVoid (reduction = .subtype)
      ts ← ts.filterM fun t => do
        match ← shape t with
        | .text _ => return !(← templateTakes k t ts)
        | _ => return true
      if reduction = .subtype then ts ← dropSubtypes k seen.hasObject ts
      if ts.isEmpty then
        if seen.hasNull then
          return if seen.hasFirmAbsent then nullType else wideningNullType
        if seen.hasUndefined then
          return if seen.hasFirmAbsent then undefinedType else wideningUndefinedType
        return neverType
    let mut origin := given
    if seen.hasNamed && given.isNone then
      let named ← namedUnions types
      let lists ← named.mapM membersOf
      let free := ts.filter fun t => !lists.any (·.contains t)
      match synonym, named, free with
      | none, [t], [] => return t
      | _, _, _ =>
        if lists.flatten.length + free.length = ts.length then
          origin := some (.union (named.foldl (fun all t => insertRising t all) free))
    unionOfSorted ts synonym origin

/-- The union of types. -/
def unionOf (k : Rules) (reduction : Reduction) (types : List TypeId)
    (synonym : Option Synonym) : Check TypeId := unionFrom k reduction types synonym none

/-- The union of types, in which single values give way to their types. -/
def union (k : Rules) (types : List TypeId) : Check TypeId := unionOf k .literal types none

/-- A type, or undefined; without strictness every type has that value. -/
def orUndefined (k : Rules) (t : TypeId) : Check TypeId := do
  if ← strictNull then union k [t, undefinedType] else return t

/-- A type of a member that need not be there: it takes undefined, too, unless what is left out
    differs from that. -/
def orMissing (k : Rules) (t : TypeId) : Check TypeId := do
  if (← strictNull) && (← settings).exactOptional then
    if (← membersOf t).contains missingType then return t else union k [t, missingType]
  else orUndefined k t

/-- What a function makes of each member of a union. -/
def mapUnion (k : Rules) (f : TypeId → Check (Option TypeId)) (t : TypeId) : Check TypeId := do
  if ← isNever t then return t
  let e ← entry t
  match e.shape with
  | .union ts origin =>
    let from' := match origin with
      | some (.union os) => os
      | _ => ts
    let mapped ← from'.filterMapM fun u => do
      if ← isUnion u then return some (← do
        let inner ← membersOf u
        let made ← inner.filterMapM f
        if made = inner then pure u else union k made)
      else f u
    if mapped = from' then return t else union k mapped
  | _ => return (← f t).getD neverType

/-- The members of a union that have a property. -/
def filterUnion (p : TypeId → Check Bool) (t : TypeId) : Check TypeId := do
  let e ← entry t
  match e.shape with
  | .union ts origin =>
    let kept ← ts.filterM p
    if kept = ts then return t
    else match origin with
      | some (.union os) =>
        let whole ← os.filterM fun o => do
          if ← isUnion o then return true else p o
        if os.length - whole.length = ts.length - kept.length then
          match whole with
          | [t] => return t
          | _ => unionOfSorted kept none (some (.union whole))
        else unionOfSorted kept none none
      | _ => unionOfSorted kept none none
  | _ =>
    if ← isNever t then return t
    else if ← p t then return t
    else return neverType

/-- What a member or an element is where it is there. -/
def whereThere (isOptional : Bool) (t : TypeId) : Check TypeId := do
  if isOptional && (← settings).exactOptional then filterUnion (fun u => return u ≠ missingType) t
  else return t

/-- Some member of a union has a property. -/
def someMember (p : TypeId → Check Bool) (t : TypeId) : Check Bool := do
  (← membersOf t).anyM p

/-- Every member of a union has a property. -/
def everyMember (p : TypeId → Check Bool) (t : TypeId) : Check Bool := do
  (← membersOf t).allM p

/-! ## Intersections -/

/-- What kind of value a type is of; types of different kinds have none in common. -/
def domain? : Shape → Option Nat
  | .keyword .string | .text _ | .template .. | .changed .. => some 1
  | .keyword .number | .number _ => some 2
  | .enumMember _ _ _ _ (some (.text _)) => some 1
  | .enumMember .. => some 2
  | .keyword .bigint | .bigNumber .. => some 3
  | .truth _ => some 4
  | .keyword .symbol | .uniqueSymbol .. => some 5
  | .keyword .void | .keyword .undefined | .keyword .missing => some 6
  | .keyword .null => some 7
  | .keyword .object => some 8
  | _ => none

/-- The object type has no members. -/
def isEmptyObject (t : TypeId) : Check Bool := do
  match ← shape t with
  | .object (.made m _ _) _ =>
    return t ≠ unreadFunctionType && m.properties.isEmpty && m.calls.isEmpty
      && m.constructs.isEmpty && m.indexers.isEmpty
  | .object (.literal _ [] _) _ => return true
  | _ => return false

/-- Members of intersections in place of the intersections. -/
def flattenIntersections (types : List TypeId) : Check (List TypeId) := do
  let parts ← types.mapM fun t => do
    match ← shape t with
    | .intersection ts => return ts
    | _ => return [t]
  return parts.flatten.eraseDups

/-- One of each list, in all ways. -/
def choices : List (List TypeId) → List (List TypeId)
  | [] => [[]]
  | ts :: rest => ts.flatMap fun t => (choices rest).map (t :: ·)

/-- How many types a type is told by. -/
def weightOf : Nat → TypeId → Check Nat
  | 0, _ => return 1
  | n + 1, t => do
    let e ← entry t
    if e.synonym.isSome then return 1
    match e.shape with
    | .union _ (some (.union os)) => os.foldlM (fun w u => return w + (← weightOf n u)) 0
    | .union _ (some (.intersection os)) => os.foldlM (fun w u => return w + (← weightOf n u)) 0
    | .union _ (some (.keys of)) => weightOf n of
    | .union ts none => ts.foldlM (fun w u => return w + (← weightOf n u)) 0
    | .intersection ts => ts.foldlM (fun w u => return w + (← weightOf n u)) 0
    | _ => return 1

/-- How many types some types are told by. -/
def weightOfAll (types : List TypeId) : Check Nat :=
  types.foldlM (fun w t => return w + (← weightOf 16 t)) 0

/-- What is known of the members of an intersection. -/
structure Joined where
  types : List TypeId
  /-- The kinds of values that they are of. -/
  domains : List Nat
  hasObject : Bool
  hasEmpty : Bool
  unions : List TypeId
  deriving Inhabited

/-- Sorts the members of an intersection; of empty objects one is enough, and what may be
    anything says nothing. -/
def Joined.of (types : List TypeId) : Check Joined := do
  let strict ← strictNull
  let domains ← types.filterMapM fun t => return domain? (← shape t)
  let ts ← types.filterM fun t => do
    if ← isKeyword .unknown t then return false
    else return strict || !(← isAbsent t)
  let empty ← ts.filterM isEmptyObject
  let ts := ts.filter fun t => !(empty.drop 1).contains t
  let full ← ts.filterM fun t => return isObjectShape (← shape t) && !empty.contains t
  return {
    types := ts
    domains := domains.eraseDups
    hasObject := !full.isEmpty
    hasEmpty := !empty.isEmpty
    unions := ← ts.filterM isUnion }

/-- No value is of all the types. -/
def Joined.isImpossible (j : Joined) : Check Bool := do
  let strict ← strictNull
  let hasAbsent := j.domains.any fun d => d = 6 || d = 7
  if j.domains.length > 1 then return true
  if strict && hasAbsent && (j.hasObject || j.hasEmpty) then return true
  return (← j.types.filterM isUnit).length > 1

/-- The members that are not implied by others. -/
def Joined.needed (j : Joined) (keepsEmpty : Bool) : Check (List TypeId) := do
  let shapes ← j.types.mapM shape
  let isFirm := j.hasObject || j.domains.any (· ∉ [6, 7])
  j.types.filterM fun t => do
    if keepsEmpty then return true
    let isBase := shapes.any fun u => baseKeyword? u = some t
    let isVoid := t = voidType && j.types.contains undefinedType
    return !(isBase || isVoid || (isFirm && (← isEmptyObject t)))

/-- The bound of a type parameter that is no type parameter itself. -/
def boundBehind? (k : Rules) : Nat → TypeId → Check (Option TypeId)
  | 0, _ => return none
  | n + 1, t => do
    match ← k.bound t with
    | some b => if isOpenShape (← shape b) then boundBehind? k n b else return some b
    | none => return none

/-- What a type parameter and a plain type come to, where the bound of the parameter tells. -/
def withBound? (k : Rules) (types : List TypeId) : Check (Option TypeId) := do
  match types with
  | [a, b] =>
    let isParameter (t : TypeId) : Check Bool := do
      match ← shape t with
      | .parameter .. | .index .. => return true
      | _ => return false
    let isPlain (t : TypeId) : Check Bool := do
      if ← isEmptyObject t then return true else return (domain? (← shape t)).isSome
    let (p, other) ← if ← isParameter a then pure (a, b) else pure (b, a)
    if !(← isParameter p) || !(← isPlain other) then return none
    match ← boundBehind? k 16 p with
    | none => return none
    | some bound =>
      if !(← everyMember isPlain bound) then return none
      if ← k.related .strictSubtype bound other then return some p
      let isPart ← if ← isUnion bound then
          someMember (fun u => k.related .strictSubtype u other) bound
        else pure false
      if !isPart && !(← k.related .strictSubtype other bound) then return some neverType
      return none
  | _ => return none

/-- The types without those templates that take in a text among them; nothing if one does
    not. -/
def withoutTemplates? (k : Rules) (types : List TypeId) : Check (Option (List TypeId)) := do
  let texts ← types.filterM fun t => return (← shape t) matches .text _
  let isTemplate (t : TypeId) : Check Bool := do
    match ← shape t with
    | .template .. | .changed .. => return true
    | _ => return false
  match texts with
  | [text] =>
    let templates ← types.filterM isTemplate
    if ← templates.allM (k.related .strictSubtype text ·) then
      return some (types.filter (!templates.contains ·))
    else return none
  | _ => return some types

/-- The members that unions of plain values have in common. -/
def commonMembers (unions : List (List TypeId)) : Check (List TypeId) := do
  let all := unions.flatten.eraseDups
  let kept ← all.filterM fun t => do
    let base := baseKeyword? (← shape t)
    return unions.all fun ts => ts.contains t || base.any ts.contains
  return kept.foldl (fun ts t => insertRising t ts) []

/-- The intersection of types, given how deep their unions are taken apart. -/
def intersectionAt (k : Rules) (keepsEmpty : Bool) : Nat → List TypeId → Option Synonym → Check TypeId
  | 0, _, _ => return errorType
  | n + 1, types, synonym => do
    let given ← flattenIntersections types
    if ← given.anyM isNever then return neverType
    let j ← Joined.of given
    if ← j.isImpossible then return neverType
    match ← withoutTemplates? k j.types with
    | none => return neverType
    | some kept =>
      if ← given.anyM isError then return errorType
      if ← given.anyM isAny then return anyType
      if !(← strictNull) && (← given.anyM isAbsent) then
        if j.hasEmpty then return neverType
        return if ← given.anyM isUndefined then undefinedType else nullType
      let ts ← { j with types := kept }.needed keepsEmpty
      match ts with
      | [] => return unknownType
      | [t] => return t
      | ts =>
        match ← withBound? k ts with
        | some t => return t
        | none =>
          match (← get).intersections[(ts, synonym)]? with
          | some t => return t
          | none =>
            let made ← if j.unions.isEmpty then makeNamed (.intersection ts) synonym
              else
                let inner := intersectionAt k false n
                let plain ← j.unions.filterM fun u => everyMember (fun t =>
                  return !isObjectShape (← shape t) && (← isUnit t)) u
                let without (p : TypeId → Check Bool) (t : TypeId) : Check TypeId := do
                  unionOfSorted (← (← membersOf t).filterM fun u => return !(← p u)) none none
                if plain.length > 1 then
                  let common ← unionOfSorted (← commonMembers (← plain.mapM membersOf)) none none
                  let first := plain.headD neverType
                  inner ((ts.filter fun t => t = first || !plain.contains t).map fun t =>
                    if t = first then common else t) synonym
                else if ← ts.allM fun t => return (← isUnion t) && (← someMember isUndefined t) then
                  union k [← inner (← ts.mapM (without isUndefined)) none, undefinedType]
                else if ← ts.allM fun t => return (← isUnion t) && (← someMember (isKeyword .null) t) then
                  union k [← inner (← ts.mapM (without (isKeyword .null))) none, nullType]
                else if ts.length ≥ 3 && types.length > 2 then
                  let middle := ts.length / 2
                  inner [← inner (ts.take middle) none, ← inner (ts.drop middle) none] synonym
                else
                  let parts ← (choices (← ts.mapM membersOf)).mapM (inner · none)
                  let hasIntersection ← parts.anyM fun t => return (← shape t) matches .intersection _
                  let lighter := (← weightOfAll ts) < (← weightOfAll parts)
                  unionFrom k .literal parts synonym
                    (if hasIntersection && lighter then some (.intersection ts) else none)
            modify fun s => { s with intersections := s.intersections.insert (ts, synonym) made }
            return made

/-- The intersection of types. -/
def intersection (k : Rules) (types : List TypeId) (synonym : Option Synonym) : Check TypeId :=
  intersectionAt k false 16 types synonym

/-- The intersection of types as they are written: the empty object next to all texts or all
    numbers stays. -/
def writtenIntersection (k : Rules) (types : List TypeId) (synonym : Option Synonym) :
    Check TypeId := do
  let keepsEmpty ← match types with
    | [a, b] =>
      let other := if a = emptyLiteralType then b else a
      if a ≠ emptyLiteralType && b ≠ emptyLiteralType then pure false
      else match ← shape other with
        | .keyword .string | .keyword .number | .keyword .bigint | .template .. => pure true
        | _ => pure false
    | _ => pure false
  intersectionAt k keepsEmpty 16 types synonym

end TypeLineage.Typing
