import TypeLineage.Typing.Iteration

/-! # Parts that patterns take

    A pattern takes a value apart.  A name in it is reached by steps from the
    whole value: to a member, to an element, or to all that others leave.  A
    part that is missing is replaced by a default. -/

namespace TypeLineage.Typing

open Source Program

/-- A step from a value to a part of it. -/
inductive PatternStep where
  | member (name : MemberName)
  | element (place : Nat)
  /-- All members but some. -/
  | otherMembers (names : List MemberName)
  /-- All elements from a place on. -/
  | elementsFrom (place : Nat)
  deriving Inhabited

/-- The names that the items of an object's pattern take. -/
def takenNames : List PatternItem → List MemberName
  | [] => []
  | .item key false p _ :: rest =>
    let own := match key, p with
      | some name, _ => [name]
      | none, .name _ text => [.plain text]
      | none, _ => []
    own ++ takenNames rest
  | _ :: rest => takenNames rest

mutual

/-- The steps to the name at a spot, each with its default. -/
def stepsTo? (spot : Nat) : Pattern → Option (List (PatternStep × Option Passage))
  | .name s _ => if s = spot then some [] else none
  | .object _ items _ => memberSteps? spot (takenNames items) items
  | .array _ items _ => elementSteps? spot 0 items

/-- The steps through the items of an object's pattern. -/
def memberSteps? (spot : Nat) (taken : List MemberName) :
    List PatternItem → Option (List (PatternStep × Option Passage))
  | [] => none
  | .hole :: rest => memberSteps? spot taken rest
  | .item key isRest p initial :: rest =>
    match stepsTo? spot p with
    | some inner =>
      let step : PatternStep := if isRest then .otherMembers taken else match key, p with
        | some name, _ => .member name
        | none, .name _ text => .member (.plain text)
        | none, _ => .otherMembers taken
      some ((step, initial) :: inner)
    | none => memberSteps? spot taken rest

/-- The steps through the items of a list's pattern. -/
def elementSteps? (spot place : Nat) :
    List PatternItem → Option (List (PatternStep × Option Passage))
  | [] => none
  | .hole :: rest => elementSteps? spot (place + 1) rest
  | .item _ isRest p initial :: rest =>
    match stepsTo? spot p with
    | some inner => some ((if isRest then .elementsFrom place else .element place, initial) :: inner)
    | none => elementSteps? spot (place + 1) rest

end

mutual

/-- The pattern that the name at a spot is an item of, by its own spot and how many items it
    has. -/
def holderOf? (spot : Nat) : Pattern → Option (Nat × Nat)
  | .name .. => none
  | .object s items _ => holderAmong? spot (s, items.length) items
  | .array s items _ => holderAmong? spot (s, items.length) items

/-- The pattern that the name at a spot is an item of, among the items of one. -/
def holderAmong? (spot : Nat) (whole : Nat × Nat) : List PatternItem → Option (Nat × Nat)
  | [] => none
  | .hole :: rest => holderAmong? spot whole rest
  | .item _ _ p _ :: rest =>
    match p with
    | .name s _ => if s = spot then some whole else holderAmong? spot whole rest
    | p => match holderOf? spot p with
      | some found => some found
      | none => holderAmong? spot whole rest

end

/-- The name of the member that a step leads to. -/
def PatternStep.name? : PatternStep → Option String
  | .member name => name.known?
  | .element place => some (toString place)
  | _ => none

/-- The type of the name of a member. -/
def keyOfName (k : Rules) (env : Env) (name : MemberName) : Check TypeId := do
  match name with
  | .number text => numberTypeOf text
  | .computed passage => do k.value env passage.value .none
  | name => textType (name.known?.getD "")

/-- The member may be handed on with others. -/
def isSpreadable (p : Property) : Bool :=
  !p.name.startsWith "#" && match p.holding with
    | .members _ sites => sites.all fun s => match s.member, s.scope.frames with
      | .field .., _ => true
      | _, .type d _ :: _ => !d.isClass
      | _, _ => true
    | _ => true

/-- The member can only be set. -/
def isOnlySet (p : Property) : Bool :=
  match p.holding with
  | .members _ sites => !sites.isEmpty && sites.all (·.member matches .setter ..)
  | _ => false

/-- A member as that of an object that holds copies. -/
def copiedProperty (k : Rules) (isReadonly : Bool) (p : Property) : Check Property := do
  let isSet := isOnlySet p
  let isKept := p.isReadonly = isReadonly && !isSet
  if isKept && !p.isAccessor then return p
  let t ← if isSet then pure undefinedType else k.property p
  return { p with
    isReadonly, isMethod := false, isAccessor := false, holding := .known t, substitution := []
    isWritten := p.isWritten && isKept }

/-- An object without some of its members. -/
def withoutMembers (k : Rules) (env : Env) (names : List MemberName) (t : TypeId) :
    Check TypeId := do
  let keys ← names.mapM (keyOfName k env)
  let taken ← keys.filterMapM nameOfKey?
  mapUnion k (fun u => do
    if ← isAny u then return some u
    if ← isGenericObject k 16 u then
      if keys.isEmpty then return some u
      match ← globalSynonym? k "Omit" [u, ← union k keys] with
      | some v => return some v
      | none => return some u
    let m ← k.members (← k.apparent u)
    let kept := m.properties.filter fun p =>
      !taken.contains p.name && p.owner.isNone && isSpreadable p
    let properties ← kept.mapM (copiedProperty k false)
    return some (← makeShape
      (.object (.made ⟨properties, [], [], m.indexers⟩ .plain (some env.scope)) []))) t

/-- The type is a list, or may be taken for one that is only read. -/
def isListLikeType (k : Rules) (t : TypeId) : Check Bool := do
  if (← isList k t) || (← isTuple t) then return true
  if ← isAbsent t then return false
  match ← globalReference? k "ReadonlyArray" [anyType] with
  | some any => k.related .assignable t any
  | none => return false

/-- The part of a value that a step leads to. -/
def stepType (k : Rules) (env : Env) (t : TypeId) (step : PatternStep) : Check TypeId := do
  if ← isAny t then
    match step with
    | .elementsFrom _ =>
      if !(← isError t) then return ← listOf k false anyType
    | _ => pure ()
    return t
  match step with
  | .member name => return (← under? k .value t (← keyOfName k env name) none).getD errorType
  | .otherMembers names => withoutMembers k env names t
  | .element place =>
    let key ← numberTypeOf (toString place)
    if ← isListLikeType k t then
      match ← under? k .value t key none with
      | some u =>
        let isFixed ← everyMember (fun u => return (← isTuple u)) t
        if (← settings).uncheckedIndex && !isFixed then orUndefined k u else return u
      | none => return if ← everyMember isTuple t then undefinedType else errorType
    else itemOf k false t
  | .elementsFrom place =>
    let item ← itemOf k false t
    let base ← mapUnion k (fun u => do
      if isOpenShape (← shape u) then some <$> k.base u else return some u) t
    if ← everyMember isTuple base then
      mapUnion k (fun u => do
        match ← tupleForm? k u with
        | some (form, types) => return some (← tupleFrom k form types place)
        | none => return some u) base
    else listOf k false item

/-- A part with its default, given whether the type of the whole is written and whether single
    values are kept. -/
def withDefault (k : Rules) (env : Env) (isWritten isConstant : Bool) (t : TypeId)
    (initial : Option Passage) : Check TypeId := do
  match initial with
  | none => return t
  | some passage =>
    let d ← k.value env passage.value (.of (some t))
    if isWritten then
      if ← hasFact k .isUndefined d then return t else definedPart k t
    else
      let u ← unionOf k .subtype [← definedPart k t, d] none
      if isConstant then return u else widenValues k u

/-- The part of a value at the end of some steps. -/
def partType (k : Rules) (env : Env) (isWritten isConstant : Bool) (t : TypeId)
    (steps : List (PatternStep × Option Passage)) : Check TypeId :=
  steps.foldlM (fun t (step, initial) => do
    withDefault k env isWritten isConstant (← stepType k env t step) initial) t

end TypeLineage.Typing
