import TypeLineage.Typing.Value.Operator

/-! # Names and members

    A name stands for what is declared, and the ways to where it stands may tell
    more of a variable.  A member of a value is that of its type, and the ways
    may tell more of it too.  The object that a function speaks of as itself is
    that of the class, or the object as it is written, around the function. -/

namespace TypeLineage.Typing

open Source Program

section

variable (k : Rules)

/-! ## References -/

/-- The type of a value that is a reference, as the ways to it tell. -/
def narrowed (env : Env) (e : Expr) (declared initial : TypeId) (isSettled goesOut : Bool) :
    Check TypeId := do
  match ← referenceTo? env.scope e with
  | some r => referenceType k ⟨r, declared, initial, isSettled, goesOut⟩ env.flow
  | none => return declared

/-- A part of the type depends on type parameters and amounts to several types, or to none that
    is there. -/
def hasChoiceBelow : Nat → TypeId → Check Bool
  | 0, _ => return false
  | n + 1, t => do
    match ← shape t with
    | .intersection ts => ts.anyM (hasChoiceBelow n)
    | s =>
      if !isInstantiableShape s then return false
      let b ← k.base t
      if ← isUnion b then return true else isAbsent b

/-- A part of the type depends on type parameters and amounts to something that is surely
    there. -/
def isSurelyThere : Nat → TypeId → Check Bool
  | 0, _ => return false
  | n + 1, t => do
    match ← shape t with
    | .intersection ts => ts.anyM (isSurelyThere n)
    | s =>
      if isInstantiableShape s then return !(← mayBe (fun s => match s with
        | .keyword .undefined | .keyword .missing | .keyword .null => true
        | _ => false) 8 (← k.base t))
      else return false

/-- What a value is used for tells nothing but what its type amounts to. -/
def asksForBase (env : Env) (x : Expectation) (t : TypeId) : Check Bool := do
  let isHead ← match x.usage with
    | .whole => pure false
    | .head => pure true
    | .under key =>
      if ← someMember (isSurelyThere k 8) t then
        pure !(← isGenericKey 16 (← k.value env key .none))
      else pure true
  if isHead then return true
  match x.type, x.inference with
  | some c, none => return !(← isGeneric k c)
  | _, _ => return false

/-- The type of a reference as the ways to it may narrow it: what depends on type parameters
    gives way to what it amounts to where nothing else is asked for. -/
def narrowable (env : Env) (x : Expectation) (t : TypeId) : Check TypeId := do
  let t ← match ← shape t with
    | .held u => pure u
    | _ => pure t
  if !(← someMember (hasChoiceBelow k 8) t) then return t
  if ← asksForBase k env x t then mapUnion k (fun u => some <$> k.base u) t else return t

/-- Nothing is assigned to a reference but once. -/
def isSettledReference (env : Env) : Expr → Check Bool
  | .name text => return isSettled (← valueEntities env.scope text)
  | .self => return true
  | .access object member _ => do
    if !(← isSettledReference env object) then return false
    isFixed object member
  | .index object (.text content) _ => do
    if !(← isSettledReference env object) then return false
    isFixed object content
  | _ => return false
where
  /-- The member of a value is never assigned to. -/
  isFixed (object : Expr) (name : String) : Check Bool := do
    match ← propertyOf? k (← present k (← k.value env object (.used .head))) name with
    | some p => return p.isReadonly
    | none => return false

/-- Some function or class stands between two places, the one inside the other. -/
def isOutside (inner outer : Scope) : Bool :=
  inner.file.index ≠ outer.file.index
    || (inner.frames.take (inner.frames.length - outer.frames.length)).any fun
      | .function _ => true
      | .type .. => true
      | _ => false

/-- Undefined is among the values of a type. -/
def mayBeUndefined (t : TypeId) : Check Bool := someMember isUndefined t

/-! ## Names in patterns -/

/-- The type of a name in a pattern where others of the pattern tell which of some types the
    whole value has, given the type of the whole. -/
def partValue? (env : Env) (key : Key) (whole : TypeId) (isWritten isConstant : Bool)
    (steps : List (PatternStep × Option Passage)) : Check (Option TypeId) := do
  match steps.getLast? with
  | some (step, none) =>
    if step.name?.isNone then return none
    let outer ← partType k env isWritten isConstant whole steps.dropLast
    let base ← mapUnion k (fun u => some <$> baseBound k u) outer
    if !(← isUnion base) then return none
    let t ← referenceType k ⟨⟨.pattern key, []⟩, base, base, true, true⟩ env.flow
    if ← isNever t then return some neverType else some <$> stepType k env t step
  | _ => return none

/-- The type of a constant in a pattern, as far as others of the pattern tell it. -/
def constantPart? (env : Env) (v : DeclaredVariable) (scope : Scope) : Check (Option TypeId) := do
  if v.binding ≠ .constant then return none
  match holderOf? v.spot v.written.pattern, stepsTo? v.spot v.written.pattern with
  | some (spot, count), some steps =>
    if count < 2 then return none
    let place : Env := ⟨scope, ← placeOf scope (scope.key v.spot v.name)⟩
    let whole ← onceFound (scope.key v.written.pattern.spot "") (wholeType k v place)
    match ← partValue? k env (scope.key spot "") whole v.written.type.isSome true steps with
    | none => return none
    | some t =>
      match steps, v.written.type, v.source, v.written.initial with
      | [(.member (.plain name), _)], none, .initial, some e =>
        if isPlainReference e then
          return some (← narrowed k place (.access e name false) t t false false)
        else return some t
      | _, _, _, _ => return some t
  | _, _ => return none

/-- The type of a name in the pattern of a parameter, as far as others of the pattern tell
    it. -/
def argumentPart? (env : Env) (spot : Nat) (p : Parameter) (f : Function) (scope : Scope) :
    Check (Option TypeId) := do
  match holderOf? spot p.pattern, stepsTo? spot p.pattern with
  | some (holder, count), some steps =>
    if count < 2 || (namesOf p.pattern).any fun (n, _) => bodyAssigns n f.body then return none
    let whole ← typeOfParameter k (siteAround f scope) p
    let whole ← defaulted k (siteAround f scope) p whole
    partValue? k env (scope.key holder "") whole p.type.isSome false steps
  | _, _ => return none

/-! ## Names -/

/-- The type of a variable where it stands. -/
def variableValue (env : Env) (e : Expr) (es : List Entity) (v : DeclaredVariable)
    (scope : Scope) (x : Expectation) : Check TypeId := do
  let declared ← narrowable k env x (← match ← constantPart? k env v scope with
    | some t => pure t
    | none => k.entity es)
  let strict ← strictNull
  let isAuto ← isAutomatic k declared
  let isOuter := isOutside env.scope scope
  let isVague := (← isAny declared) || declared = unknownType || declared = voidType
  let isGiven := v.written.initial.isNone && !(v.source matches .initial)
  let isAssumed := isOuter || isGiven || scope.file.isAmbient || (!isAuto && (!strict || isVague))
  let initial ← if isAssumed then pure declared
    else if isAuto then pure undefinedType
    else orUndefined k declared
  let goesOut := if v.binding = .constant then !isAuto else isKeptAt env.scope es
  let found ← narrowed k env e declared initial (isSettled es) goesOut
  if isAuto then
    if found = autoType then return anyType
    else if (← listForm? k found).any (·.element = autoType) then listOf k false anyType
    else return found
  else if !isAssumed && !(← mayBeUndefined declared) && (← mayBeUndefined found) then
    return declared
  else return found

/-- The type of a name where it stands. -/
def nameValue (env : Env) (text : String) (x : Expectation) : Check TypeId := do
  let es ← valueEntities env.scope text
  match es with
  | [] => if text = "undefined" then absentValue else return errorType
  | .variable v scope :: _ => variableValue k env (.name text) es v scope x
  | .argument _ spot p f scope :: _ =>
    let declared ← narrowable k env x (← match ← argumentPart? k env spot p f scope with
      | some t => pure t
      | none => k.entity es)
    let initial ← match p.pattern with
      | .name .. => defaulted k (siteAround f scope) p declared
      | _ => pure declared
    narrowed k env (.name text) declared initial (isSettled es) (isKeptAt env.scope es)
  | es =>
    match es.find? fun e => e.kind == .variable || e.kind == .blockVariable with
    | some (.variable v scope) => variableValue k env (.name text) es v scope x
    | _ => k.entity es

/-! ## The object itself -/

/-- What a function speaks of as itself. -/
inductive SelfSource where
  | parameter (p : Parameter) (scope : Scope)
  | type (d : TypeDeclaration) (scope : Scope) (isStatic : Bool)
  | object (items : List ObjectItem) (scope : Scope)
  | file
  | nothing

/-- What is spoken of as itself at a place, given the function with an object of its own that
    was just left. -/
def selfSource (file : SourceFile) : (left : Option Function) → List Frame → SelfSource
  | left, .type d .objects :: outer =>
    if left.all (hasFunction d) then .type d ⟨file, outer⟩ false else .nothing
  | left, .type d .whole :: outer =>
    if left.all (hasFunction d) then .type d ⟨file, outer⟩ true else .nothing
  | _, .object (some items) :: outer => .object items ⟨file, outer⟩
  | some _, _ => .nothing
  | none, .function f :: outer =>
    if f.isArrow then selfSource file none outer
    else match f.parameters.find? (·.pattern.name? = some "this") with
      | some p => .parameter p ⟨file, .function f :: outer⟩
      | none => selfSource file (some f) outer
  | none, .object none :: _ => .nothing
  | none, .space _ :: _ => .nothing
  | none, _ :: outer => selfSource file none outer
  | none, [] => .file

/-- The nearest function around that speaks of an object of its own. -/
def speaker? : List Frame → Option Function
  | .function f :: outer => if f.isArrow then speaker? outer else some f
  | .type .. :: _ => none
  | .object _ :: _ => none
  | .space _ :: _ => none
  | _ :: outer => speaker? outer
  | [] => none

/-- What is expected to be spoken of as itself at a place. -/
def askedSelf? (scope : Scope) : Check (Option TypeId) := do
  match speaker? scope.frames with
  | none => return none
  | some f =>
    if tellsSelf f then return none
    let s ← get
    let isChecked := (← settings).noImplicitThis
    let around := if isChecked then s.selves[scope.key f.spot "around"]? else none
    match s.selves[scope.key f.spot ""]?.orElse fun _ => around with
    | none => return none
    | some own =>
      let t ← match own.inference with
        | some i => settled k i own.type
        | none => pure own.type
      if !own.isAround then return some t
      let u ← mapUnion k (fun u => do
        match ← shape u with
        | .object (.mapped ..) _ => return some u
        | _ => some <$> k.apparent u) t
      some <$> widen k (← present k u)

/-- The class whose construction a place is in, apart from functions of its own. -/
def constructedIn? (scope : Scope) : Option (TypeDeclaration × Scope) :=
  match scope.frames.dropWhile fun
    | .function f => f.isArrow
    | .type .. => false
    | .object _ => false
    | _ => true with
  | .function f :: .type d _ :: outer =>
    if d.members.any fun
      | .construction _ g => g.spot = f.spot
      | _ => false
    then some (d, { scope with frames := outer }) else none
  | _ => none

/-- The declared function that a place is in, apart from functions that have no object of their
    own. -/
def namedFunction? (scope : Scope) : Check (Option (List Entity)) := do
  match scope.frames.dropWhile fun
    | .function f => f.isArrow
    | .type .. => false
    | .object _ => false
    | _ => true with
  | .function f :: outer =>
    let es ← valueEntities { scope with frames := outer } (f.name.getD "")
    return if es.any (isWrittenAt f.spot) then some es else none
  | _ => return none
where
  /-- It is a function that is written at the spot. -/
  isWrittenAt (spot : Nat) : Entity → Bool
    | .function g _ => g.spot = spot
    | _ => false

/-- The type of an object as it is written, for what is inside it. -/
def writtenObject (items : List ObjectItem) (outer : Scope) : Check TypeId := do
  let key? := writtenKey? outer items
  match ← key?.bindM fun key => return (← get).writtenObjects[key]? with
  | some t => return t
  | none =>
    let t ← k.value ⟨outer, .start⟩ (.object items) .none
    keepWritten outer (.object items) t
    return t

/-- The type of the object itself, apart from what the ways tell. -/
def selfType (scope : Scope) : Check TypeId := do
  if let some t ← askedSelf? k scope then return t
  match selfSource scope.file none scope.frames with
  | .parameter p inner =>
    match p.type with
    | some e => k.written inner e
    | none => return anyType
  | .type d outer isStatic =>
    let es ← mergedWith d outer
    if isStatic then k.entity es else return (← selfOf k d outer).getD errorType
  | .object items outer =>
    if (← settings).noImplicitThis then widen k (← writtenObject k items outer) else return anyType
  | .file =>
    if scope.file.isModule then return undefinedType
    else match ← valueEntities scope "globalThis" with
      | [] => return anyType
      | es => k.entity es
  | .nothing => return anyType

/-- The type of the object itself. -/
def selfValue (env : Env) : Check TypeId := do
  let t ← selfType k env.scope
  referenceType k ⟨⟨.self, []⟩, t, t, true, !(← isAny t)⟩ env.flow

/-- The object itself as one of what its class extends. -/
def parentValue (env : Env) : Check TypeId := do
  match selfSource env.scope.file none env.scope.frames with
  | .type d outer isStatic =>
    let t ← k.declared (← mergedWith d outer)
    match ← shape t with
    | .declared info =>
      if isStatic then return (← baseValue k t info).getD errorType
      else match ← k.bases t with
        | b :: _ => withSelf k b info.self
        | [] => return errorType
    | _ => return errorType
  | _ => return errorType

/-! ## Members -/

/-- The ways may tell more of a member. -/
def isTold (p : Property) (t : TypeId) : Check Bool := do
  match p.holding with
  | .entities (.variable .. :: _) => return true
  | .entities _ => return false
  | _ => if p.isMethod then isUnion t else return true

/-- The type of a member of a value, as it is written in a whole. -/
def memberValue (env : Env) (whole : Expr) (t : TypeId) (name : String) (x : Expectation) :
    Check TypeId := do
  if ← isAny t then return if ← isError t then errorType else anyType
  let a ← k.apparent t
  if ← isAny a then return if ← isError a then errorType else anyType
  match ← propertyOf? k t name with
  | some p =>
    let own ← k.property p
    if ← isTold p own then
      let isSettled ← if p.isReadonly then isSettledReference k env whole else pure false
      let own ← narrowable k env x own
      narrowed k env whole own own isSettled false
    else return own
  | none =>
    match ← indexerFor? k t (← textType name) with
    | some i =>
      let own ← if (← settings).uncheckedIndex then orUndefined k i.type else pure i.type
      let own ← narrowable k env x own
      narrowed k env whole own own false false
    | none => return errorType

/-- What stands behind the last of a tuple's fixed elements. -/
def behindElements (t : TypeId) : Check TypeId :=
  mapUnion k (fun u => do
    match ← tupleForm? k u with
    | some (form, types) =>
      if form.hasOpen then
        let rest := (elementsOf form types).drop form.fixedLength
        return some (← union k (← rest.mapM fun e =>
          if e.kind = .variadic then openElement e.type else pure e.type))
      else return some undefinedType
    | none => return some undefinedType) t

/-- The type of what stands under a key of a value, as it is written in a whole. -/
def elementValue (env : Env) (whole key : Expr) (t : TypeId) (x : Expectation) :
    Check TypeId := do
  let keyType ← k.value env key .none
  if ← isError t then return errorType
  let name? ← nameOfKey? keyType
  let isNamed ← match name? with
    | some n => pure (← propertyOf? k t n).isSome
    | none => pure false
  match ← under? k .value t keyType none with
  | some own =>
    let own ← if (← settings).uncheckedIndex && !isNamed && !(← isGeneric k own) then
        orUndefined k own
      else pure own
    let own ← narrowable k env x own
    narrowed k env whole own own false false
  | none =>
    match name? with
    | some n =>
      if n.toNat?.isSome && (← everyMember isTuple t) then behindElements k t
      else if (← isObjectValue t) && (← settings).noImplicitAny then return undefinedType
      else return errorType
    | none =>
      if ← isObjectValue t then
        let m ← k.members t
        union k ((← m.properties.mapM k.property) ++ [undefinedType])
      else return errorType

end

end TypeLineage.Typing
