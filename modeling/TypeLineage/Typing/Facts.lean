import TypeLineage.Typing.Relation

/-! # What values of a type may be

    A test on a value tells that the value passes it.  Here it is told of a type
    whether some value of it may pass a test, and what is left of the type. -/

namespace TypeLineage.Typing

open Source Program

/-- A test on a value. -/
inductive Fact where
  | truthy
  | falsy
  | isUndefined
  | isNull
  /-- The value is null or undefined. -/
  | isAbsent
  /-- The value is null or undefined, of which the type speaks. -/
  | isLacking
  | notUndefined
  | notNull
  | isPresent
  /-- The value is of a kind that a word tells. -/
  | isKind (word : String)
  | notKind (word : String)
  deriving DecidableEq, Repr

namespace Fact

/-- Without strictness any value may also be null or undefined, as far as that matters
    to the test. -/
def passesAbsent : Fact → Bool
  | .falsy | .isUndefined | .isNull | .isAbsent => true
  | _ => false

/-- Null or undefined passes the test. -/
def takesAbsent (isNull : Bool) : Fact → Bool
  | .falsy | .isAbsent | .isLacking => true
  | .isUndefined => !isNull
  | .isNull => isNull
  | .notUndefined => isNull
  | .notNull => !isNull
  | .truthy | .isPresent => false
  | .isKind word => word = (if isNull then "object" else "undefined")
  | .notKind word => word ≠ (if isNull then "object" else "undefined")

/-- A value of a kind passes the test, given whether it may be truthy and falsy. -/
def takesKind (kind : String) (mayBeTrue mayBeFalse : Bool) : Fact → Bool
  | .truthy => mayBeTrue
  | .falsy => mayBeFalse
  | .isUndefined | .isNull | .isAbsent | .isLacking => false
  | .notUndefined | .notNull | .isPresent => true
  | .isKind word => word = kind
  | .notKind word => word ≠ kind

end Fact

/-- The object can be called or constructs others. -/
def isFunctionType (k : Rules) (t : TypeId) : Check Bool := do
  let m ← k.members t
  if !m.calls.isEmpty || !m.constructs.isEmpty then return true
  else return (← globalType? k "Function") = some t

/-- Whether some value of the type may pass the test. -/
def mayPass (k : Rules) : Nat → Fact → TypeId → Check Bool
  | 0, _, _ => return true
  | n + 1, f, t => do
    let strict ← strictNull
    let plain (kind : String) (mayBeTrue mayBeFalse : Bool) : Check Bool :=
      return f.takesKind kind mayBeTrue mayBeFalse || (!strict && f.passesAbsent)
    match ← shape t with
    | .keyword .never => return false
    | .keyword .string => plain "string" true true
    | .text content => plain "string" (content ≠ "") (content = "")
    | .template .. | .changed .. => plain "string" true true
    | .keyword .number => plain "number" true true
    | .number text => plain "number" (text ≠ "0" && text ≠ "NaN") (text = "0" || text = "NaN")
    | .enumMember _ _ _ _ (some (.text content)) => plain "string" (content ≠ "") (content = "")
    | .enumMember _ _ _ _ (some (.number x)) =>
      let isZero := x.text .plain = "0"
      plain "number" (!isZero) isZero
    | .enumMember .. => plain "number" true true
    | .keyword .bigint => plain "bigint" true true
    | .bigNumber _ digits => plain "bigint" (digits ≠ "0") (digits = "0")
    | .truth value => plain "boolean" value (!value)
    | .keyword .symbol | .uniqueSymbol .. => plain "symbol" true false
    | .keyword .void | .keyword .undefined | .keyword .missing => return f.takesAbsent false
    | .keyword .null => return f.takesAbsent true
    | .keyword .object => do
      return (← plain "object" true false) || (← plain "function" true false)
    | .keyword _ | .unresolved .. => return f ≠ .isLacking
    | .union ts _ => ts.anyM (mayPass k n f)
    | .intersection ts =>
      let primitive ← ts.anyM fun u => return isPrimitiveShape (← shape u)
      (← ts.filterM fun u => do
        return !(primitive && isObjectShape (← shape u))).allM (mayPass k n f)
    | .parameter .. | .index .. | .conditional .. | .keys _ | .held _ =>
      mayPass k n f (← baseBound k t)
    | _ =>
      if ← isEmptyObject t then
        return f ≠ .isLacking && !(strict && (f = .isUndefined || f = .isNull || f = .isAbsent))
      else if ← isFunctionType k t then plain "function" true false
      else plain "object" true false

/-- Some value of the type may pass the test. -/
def hasFact (k : Rules) (f : Fact) (t : TypeId) : Check Bool := mayPass k 32 f t

/-- The members of a type of which some value may pass the test. -/
def withFact (k : Rules) (f : Fact) (t : TypeId) : Check TypeId := filterUnion (hasFact k f) t

/-- Anything, taken apart into what is absent and what is there. -/
def unknownParts (k : Rules) : Check TypeId :=
  unionOf k .literal [undefinedType, nullType, emptyObjectType] none

/-- Anything again, if all of its parts are there. -/
def recombined (k : Rules) (t : TypeId) : Check TypeId := do
  if t = (← unknownParts k) then return unknownType else return t

/-- The type without one of undefined and null, also where a type parameter hides it. -/
def withoutOne (k : Rules) (one other : Fact) (otherType t : TypeId) : Check TypeId := do
  if !(← hasFact k one t) then return t
  let isOther ← match ← shape t with
    | .union ts _ => pure (ts.contains otherType)
    | _ => pure false
  mapUnion k (fun u => do
    if !(← hasFact k one u) || (← isAny u) then return some u
    else if !isOther && (← hasFact k other u) then
      return some (← intersection k
        [u, ← unionOf k .literal [emptyObjectType, otherType] none] none)
    else return some (← intersection k [u, emptyObjectType] none)) t

/-- What is left of a type when its values pass a test.  Of a type parameter only what is
    there is left. -/
def narrowedBy (k : Rules) (f : Fact) (t : TypeId) : Check TypeId := do
  let strict ← strictNull
  let from' ← if strict && t = unknownType then unknownParts k else pure t
  let reduced ← recombined k (← withFact k f from')
  if strict && f = .notUndefined then withoutOne k .isUndefined .isNull nullType reduced
  else if strict && f = .notNull then withoutOne k .isNull .isUndefined undefinedType reduced
  else if strict && (f = .isPresent || f = .truthy) then
    mapUnion k (fun u => do
      if isOpenShape (← shape u) then
        if ← hasFact k .isAbsent u then
          match ← globalSynonym? k "NonNullable" [u] with
          | some v => return some v
          | none => return some (← intersection k [u, emptyObjectType] none)
        else return some u
      else return some u) reduced
  else return reduced

/-- The type without null and undefined. -/
def present (k : Rules) (t : TypeId) : Check TypeId := do
  if ← strictNull then narrowedBy k .isPresent t else return t

/-- The type without undefined. -/
def withoutUndefined (k : Rules) (t : TypeId) : Check TypeId := do
  if ← strictNull then withFact k .notUndefined t else return t

/-- The default of a parameter may be undefined itself. -/
def defaultMayLack (k : Rules) (site : FunctionSite) (p : Parameter) (initial : Passage) :
    Check Bool := do
  let key := site.scope.key p.spot "default"
  match (← get).values[key]? with
  | some t => hasFact k .isUndefined t
  | none =>
    let t ← attemptTask (.value key) anyType (fun _ => pure anyType) default'
    modify fun s => { s with values := s.values.insert key t }
    hasFact k .isUndefined t
where
  /-- The type of the default. -/
  default' : Check TypeId := do
    let env : Env := ⟨site.scope, site.env.flow⟩
    match p.type with
    | some e => k.value env initial.value (.of (some (← k.written site.scope e)))
    | none => initialType k env p.pattern initial

/-- The type of a parameter once its default has been taken where there was nothing. -/
def defaulted (k : Rules) (site : FunctionSite) (p : Parameter) (t : TypeId) : Check TypeId := do
  match p.initial with
  | some initial =>
    if !(← strictNull) || !(← hasFact k .isUndefined t) || (← defaultMayLack k site p initial) then
      return t
    else withoutUndefined k t
  | none => return t

/-- The type without what stands for a member that is not there. -/
def withoutMissing (k : Rules) (t : TypeId) : Check TypeId := do
  if (← settings).exactOptional then whereThere true t else withoutUndefined k t

/-- What is left of a type of which undefined is taken away, also from what type parameters are
    bound by. -/
def definedPart (k : Rules) (t : TypeId) : Check TypeId := do
  let mayLack (u : TypeId) : Check Bool := do
    if isOpenShape (← shape u) then someMember isUndefined (← baseBound k u) else return false
  let t ← if ← someMember mayLack t then
      mapUnion k (fun u => do
        if !isOpenShape (← shape u) then return some u
        let b ← baseBound k u
        return some (if b = unknownType then u else b)) t
    else pure t
  withoutUndefined k t

/-- What is surely falsy of a type. -/
def falsyPart (k : Rules) (t : TypeId) : Check TypeId :=
  mapUnion k (fun u => do
    match ← shape u with
    | .keyword .string => return some emptyTextType
    | .keyword .number => return some zeroType
    | .keyword .bigint => return some bigZeroType
    | .text content => return if content = "" then some u else none
    | .number text => return if text = "0" then some u else none
    | .bigNumber _ digits => return if digits = "0" then some u else none
    | .truth value => return if value then none else some u
    | .enumMember .. => return if ← hasFact k .truthy u then none else some u
    | .keyword k => match k with
      | .void | .undefined | .missing | .null | .any | .auto | .error | .unknown => return some u
      | _ => return none
    | .unresolved .. => return some u
    | _ => return none) t

end TypeLineage.Typing
