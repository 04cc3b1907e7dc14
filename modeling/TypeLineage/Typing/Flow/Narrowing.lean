import TypeLineage.Typing.Flow.Reference
import TypeLineage.Typing.Pattern

/-! # What tests tell

    A test that came out one way tells something about the references in it:
    what they are equal to, what kind of value they are, what they are instances
    of, which members they have.  What is left of a type are the members that
    pass. -/

namespace TypeLineage.Typing

open Source Program

/-! ## Comparing -/

/-- Values of one type may be equal to values of the other. -/
def areComparable (k : Rules) (a b : TypeId) : Check Bool := do
  if ← k.related .comparable a b then return true else k.related .comparable b a

/-- The members of a type are among those of another. -/
def isSubset (t whole : TypeId) : Check Bool := do
  if t = whole then return true
  if ← isNever t then return true
  match ← shape whole with
  | .union ws _ => return (← membersOf t).all ws.contains
  | _ => return false

/-- Texts and numbers among the members of a type, in place of all texts or numbers. -/
def withValuesOf (k : Rules) (t values : TypeId) : Check TypeId := do
  let vs ← membersOf values
  let shapes ← vs.mapM shape
  let pick (base : TypeId) (isOf : Shape → Bool) (u : TypeId) : Check (Option TypeId) := do
    if shapes.any isOf then
      let own := (vs.zip shapes).filter fun (v, s) => isOf s || v = base
      return some (← union k (own.map (·.1)))
    else return some u
  mapUnion k (fun u => do
    match ← shape u with
    | .keyword .string => pick stringType isTextUnit u
    | .keyword .number => pick numberType isNumberUnit u
    | .keyword .bigint => pick bigintType isBigUnit u
    | _ => return some u) t
where
  /-- The shape is of one text. -/
  isTextUnit : Shape → Bool
    | .text _ => true
    | .enumMember _ _ _ _ (some (.text _)) => true
    | _ => false
  /-- The shape is of one number. -/
  isNumberUnit : Shape → Bool
    | .number _ => true
    | .enumMember _ _ _ _ (some (.number _)) => true
    | _ => false
  /-- The shape is of one integer of any size. -/
  isBigUnit : Shape → Bool
    | .bigNumber .. => true
    | _ => false

/-- The type has only one value, or holds such a type together with others. -/
def isUnitLike (t : TypeId) : Check Bool := do
  match ← shape t with
  | .intersection ts => ts.anyM isUnit
  | _ => isUnit t

/-- What is left of a type whose values are equal, or not, to a value. -/
def narrowByEquality (k : Rules) (isLoose holds : Bool) (value t : TypeId) : Check TypeId := do
  if ← isAny t then return t
  let strict ← strictNull
  if ← isAbsent value then
    if !strict then return t
    let ofNull ← isKeyword .null value
    let f : Fact := if isLoose then (if holds then .isAbsent else .isPresent)
      else if ofNull then (if holds then .isNull else .notNull)
      else if holds then .isUndefined else .notUndefined
    narrowedBy k f t
  else if holds then
    let isOpen ← do
      if t = unknownType then pure true else someMember isEmptyObject t
    if !isLoose && isOpen then
      let s ← shape value
      if isPrimitiveShape s || value = objectType then return value
      if ← isEmptyObject value then return value
      if isObjectShape s then return objectType
    let kept ← filterUnion (fun u => do
      if ← areComparable k u value then return true
      else if isLoose then
        let isText := isTextShape (← shape value)
        let isNumber := isNumberShape (← shape value)
        let s ← shape u
        return (isText && isNumberShape s) || (isNumber && isTextShape s)
      else return false) t
    withValuesOf k kept value
  else if ← isUnit value then
    filterUnion (fun u => do
      if ← isUnitLike u then return !(← areComparable k u value) else return true) t
  else return t

/-! ## Kinds of values -/

/-- What is left of a type whose values are of a kind with a type of its own. -/
def narrowByOwn (k : Rules) (f : Fact) (own t : TypeId) : Check TypeId :=
  mapUnion k (fun u => do
    if ← k.related .strictSubtype u own then return if ← hasFact k f u then some u else none
    else if ← k.related .subtype own u then return some own
    else if ← hasFact k f u then return some (← intersection k [u, own] none)
    else return none) t

/-- What is left of a type whose values are of a kind that a word tells. -/
def narrowByKind (k : Rules) (word : String) (holds : Bool) (t : TypeId) : Check TypeId := do
  if !holds then
    narrowedBy k (if word = "undefined" then .notUndefined else .notKind word) t
  else
    let ofKind (own : TypeId) : Check TypeId := narrowByOwn k (.isKind word) own t
    match word with
    | "string" => ofKind stringType
    | "number" => ofKind numberType
    | "bigint" => ofKind bigintType
    | "boolean" => ofKind booleanType
    | "symbol" => ofKind symbolType
    | "undefined" => narrowByOwn k .isUndefined undefinedType t
    | "function" =>
      if ← isAny t then return t else ofKind ((← globalType? k "Function").getD objectType)
    | _ =>
      if ← isAny t then return t
      else union k [← ofKind objectType, ← narrowByOwn k .isNull nullType t]

/-! ## Instances -/

/-- One type derives from another by what is declared. -/
def derivesFrom (k : Rules) : Nat → (t base : TypeId) → Check Bool
  | 0, _, _ => return false
  | n + 1, t, base => do
    let s ← shape t
    match s, ← shape base with
    | .union ts _, _ => ts.allM (derivesFrom k n · base)
    | _, .union bs _ => bs.anyM (derivesFrom k n t ·)
    | .intersection ts, _ => ts.anyM (derivesFrom k n · base)
    | _, _ =>
      if isOpenShape s then derivesFrom k n (← baseBound k t) base
      else if ← isEmptyObject base then return isObjectShape s || t = objectType
      else if (← globalType? k "Object") = some base then
        return (isObjectShape s || t = objectType) && !(← isEmptyObject t)
      else if (← globalType? k "Function") = some base then
        if isObjectShape s then isFunctionType k t else return false
      else
        let target ← match ← referenceOf? k base with
          | some (u, _) => pure u
          | none => pure base
        if ← comesFrom k target 64 t then return true
        match ← listForm? k base with
        | some l => return !l.isReadonly && (← isTuple t)
        | none => return false

/-- What is left of a type whose values are, or are not, of another type; whether one derives
    from the other is told by what is declared, or else by comparing. -/
def narrowToAt (k : Rules) (isDeclared : Bool) : Nat → (holds : Bool) → (t wanted : TypeId) →
    Check TypeId
  | 0, _, t, _ => return t
  | n + 1, holds, t, wanted => do
    if !holds then
      if t = wanted then return neverType
      if isDeclared then filterUnion (fun u => return !(← derivesFrom k 32 u wanted)) t
      else
        let whole ← if t = unknownType then unknownParts k else pure t
        let inside ← narrowToAt k false n true whole wanted
        recombined k (← filterUnion (fun u => return !(← isSubset u inside)) whole)
    else
      if (← isAny t) || t = unknownType then return wanted
      if t = wanted then return wanted
      let found ← mapUnion k (fun c => do
        let direct ← mapUnion k (fun u => do
          if isDeclared then
            if ← derivesFrom k 32 u c then return some u
            else if ← derivesFrom k 32 c u then return some c
            else return none
          else
            if ← k.related .strictSubtype u c then return some u
            else if ← k.related .strictSubtype c u then return some c
            else if ← k.related .subtype u c then return some u
            else if ← k.related .subtype c u then return some c
            else return none) t
        if !(← isNever direct) then return some direct
        else some <$> mapUnion k (fun u => do
          if !isOpenShape (← shape u) then return none
          let b ← baseBound k u
          let fits ← if isDeclared then derivesFrom k 32 c b else k.related .subtype c b
          if fits then return some (← intersection k [u, c] none) else return none) t) wanted
      if !(← isNever found) then return found
      else if ← k.related .subtype wanted t then return wanted
      else if ← k.related .assignable t wanted then return t
      else if ← k.related .assignable wanted t then return wanted
      else intersection k [t, wanted] none

/-- What is left of a type whose values are, or are not, of another type. -/
def narrowTo (k : Rules) (isDeclared holds : Bool) (t wanted : TypeId) : Check TypeId :=
  narrowToAt k isDeclared 4 holds t wanted

/-- What a class as a value makes. -/
def instanceOf (k : Rules) (t : TypeId) : Check TypeId :=
  mapUnion k (fun u => do
    let own ← match ← propertyOf? k u "prototype" with
      | some p =>
        let v ← k.property p
        pure (if ← isAny v then none else some v)
      | none => pure none
    match own with
    | some v => return some v
    | none =>
      match (← k.members (← k.apparent u)).constructs with
      | [] => return some emptyObjectType
      | sigs => return some (← union k (← sigs.mapM fun s => do k.result (← s.erase k)))) t

/-- What is left of a type whose values are, or are not, made by a value. -/
def narrowByInstance (k : Rules) (holds : Bool) (maker t : TypeId) : Check TypeId := do
  let isMaker ← do
    if ← isAny maker then pure false
    else match ← globalType? k "Function" with
      | some f => derivesFrom k 32 maker f
      | none => pure false
  if !isMaker then return t
  let wanted ← instanceOf k maker
  let isWide := some wanted = (← globalType? k "Object")
    || some wanted = (← globalType? k "Function")
  if (← isAny t) && isWide then return t
  let isNarrow := isObjectShape (← shape wanted) && !(← isEmptyObject wanted)
  if !holds && !isNarrow then return t
  narrowTo k true holds t wanted

/-- A type and another are of the same class; where neither is a class, the one may stand for
    the other. -/
def isMadeAs (k : Rules) (u wanted : TypeId) : Check Bool := do
  match ← classOf? u, ← classOf? wanted with
  | none, none => k.related .subtype u wanted
  | a, b => return a = b
where
  /-- The declared class that a type is. -/
  classOf? (t : TypeId) : Check (Option Key) := do
    match ← shape t with
    | .declared info => return if info.isClass then some info.key else none
    | _ => return none

/-- What is left of a type whose values are made by nothing but a value. -/
def narrowByMaker (k : Rules) (holds : Bool) (maker t : TypeId) : Check TypeId := do
  if !holds then return t
  let m ← k.members (← k.apparent maker)
  if m.calls.isEmpty && m.constructs.isEmpty then return t
  match ← propertyOf? k maker "prototype" with
  | none => return t
  | some p =>
    let wanted ← k.property p
    let isWide := some wanted = (← globalType? k "Object")
      || some wanted = (← globalType? k "Function")
    if (← isAny wanted) || isWide then return t
    if ← isAny t then return wanted
    filterUnion (fun u => isMadeAs k u wanted) t

/-! ## Members -/

/-- A value of the type may have, or lack, a member. -/
def mayHave (k : Rules) (name : String) (key : TypeId) (holds : Bool) (t : TypeId) :
    Check Bool := do
  match ← propertyOf? k t name with
  | some p => return p.isOptional || holds
  | none => return (← indexerFor? k t key).isSome || !holds

/-- What is left of a type whose values have, or lack, a member. -/
def narrowByMember (k : Rules) (holds : Bool) (key t : TypeId) : Check TypeId := do
  match ← nameOfKey? key with
  | none => return t
  | some name =>
    if ← someMember (mayHave k name key true) t then filterUnion (mayHave k name key holds) t
    else if holds then
      match ← globalSynonym? k "Record" [key, unknownType] with
      | some r => intersection k [t, r] none
      | none => return t
    else return t

/-- What is left of a type of whose values one member is narrowed. -/
def narrowThrough (k : Rules) (name : String) (isChain : Bool)
    (narrow : TypeId → Check TypeId) (t : TypeId) : Check TypeId := do
  let strict ← strictNull
  let drops ← if strict && isChain then someMember isAbsent t else pure false
  let whole ← if drops then withFact k .isPresent t else pure t
  match ← whole |> fun w => do
      match ← shape w with
      | .union ts _ =>
        let found ← ts.filterMapM (memberType? k name)
        if found.isEmpty then return none
        else return some (← union k found)
      | _ => memberType? k name w with
  | none => return t
  | some own =>
    let own ← if drops then orUndefined k own else pure own
    let narrowed ← narrow own
    if ← isNever narrowed then return neverType
    filterUnion (fun u => do
      let v := (← if ← isAbsent u then pure none else memberType? k name u).getD
        (if ← isAbsent u then undefinedType else unknownType)
      if ← isNever v then return false else areComparable k narrowed v) t

/-! ## Switches -/

/-- The type of a case, or never for the one for all others. -/
def caseType (k : Rules) (env : Env) (c : SwitchCase) : Check TypeId := do
  match c.value with
  | some e => regular k (← k.value env e .none)
  | none => return neverType

/-- What is left of a type whose values led to some cases. -/
def narrowByCases (k : Rules) (types : List TypeId) (first last : Nat) (t : TypeId) :
    Check TypeId := do
  if types.isEmpty then return t
  let own := (types.take last).drop first
  let hasOther := first = last || own.contains neverType
  let value ← union k own
  let ofCases ← if ← isNever value then pure neverType else do
    let kept ← filterUnion (fun u => areComparable k value u) t
    withValuesOf k kept value
  if !hasOther then
    if t = unknownType then return value else return ofCases
  let rest ← filterUnion (fun u => do
    if !(← isUnitLike u) then return true
    let v ← regularOf u
    return !(← types.anyM fun c => do
      if ← isUnit c then areComparable k c v else return false)) t
  if ← isNever ofCases then return rest else union k [ofCases, rest]

/-- The word that a case compares a kind with. -/
def caseWord? (c : SwitchCase) : Option String :=
  match c.value with
  | some (.text content) => some content
  | some (.group (.text content)) => some content
  | _ => none

/-- What is left of a type whose values' kind led to some cases. -/
def narrowByKindCases (k : Rules) (cases : List SwitchCase) (first last : Nat) (t : TypeId) :
    Check TypeId := do
  let own := (cases.take last).drop first
  let hasOther := first = last || own.any (·.value.isNone)
  if hasOther then
    let others := cases.zipIdx.filter fun (_, i) => !(first ≤ i && i < last)
    (others.filterMap fun (c, _) => caseWord? c).foldlM (fun t word =>
      narrowByKind k word false t) t
  else
    union k (← (own.filterMap caseWord?).mapM fun word => narrowByKind k word true t)

/-- Every value of the subject has a case. -/
def isExhaustive (k : Rules) (env : Env) (subject : Expr) (cases : List SwitchCase) :
    Check Bool := do
  match candidate subject with
  | .unary "typeof" e =>
    let t ← k.value env e .none
    let base ← if isOpenShape (← shape t) then baseBound k t else pure t
    if (← isAny base) || base = unknownType then
      let words := cases.filterMap caseWord?
      return kindWords.all words.contains
    let rest ← (cases.filterMap caseWord?).foldlM (fun t word => narrowByKind k word false t) base
    isNever rest
  | _ =>
    let t ← k.value env subject .none
    let base ← if isOpenShape (← shape t) then baseBound k t else pure t
    if !(← isOfUnits base) then return false
    let types ← cases.mapM (caseType k env)
    if types.isEmpty then return false
    if !(← types.allM fun c => do return (← isUnit c) || (← isNever c)) then return false
    (← membersOf base).allM fun u => return types.contains (← regularOf u)

end TypeLineage.Typing
