import TypeLineage.Typing.Call

/-! # Objects and lists as they are written

    An object as it is written has the members that it names, and those of the
    objects that it takes in; of two members of one name the later counts.  A
    list as it is written has elements of the types of its items; where a list
    of a fixed length is expected it is a tuple. -/

namespace TypeLineage.Typing

open Source Program

section

variable (k : Rules)

/-! ## Taking in objects -/

/-- Nothing is taken in of the type. -/
def addsNothing (t : TypeId) : Check Bool := do
  match ← shape t with
  | .keyword w =>
    return [Keyword.null, .undefined, .missing, .string, .number, .bigint, .object].contains w
  | .truth _ | .text _ | .number _ | .bigNumber .. | .enumMember .. | .template .. => return true
  | .changed .. | .keys _ => return true
  | .union .. => return t = booleanType
  | .object (.made m _ _) _ =>
    return m.properties.isEmpty && m.calls.isEmpty && m.constructs.isEmpty && m.indexers.isEmpty
  | _ => isEmptyObject t

/-- The type is one of objects, or may stand for one, apart from its values that are surely
    falsy. -/
def maySpread : Nat → TypeId → Check Bool
  | 0, _ => return false
  | n + 1, t => do
    let bases ← mapUnion k (fun u => return some ((← k.base? u).getD u)) t
    let held ← withFact k .truthy bases
    match ← shape held with
    | .union ts _ | .intersection ts => ts.allM (maySpread n)
    | .keyword .any | .keyword .error | .keyword .auto | .keyword .object => return true
    | .unresolved .. | .parameter .. | .index .. | .conditional .. | .held _ => return true
    | s => return isObjectShape s

/-- An object whose members need not be there. -/
def partialOf (scope : Scope) (t : TypeId) : Check TypeId := do
  let m ← k.members (← k.apparent t)
  let kept := m.properties.filter fun p => p.owner.isNone && isSpreadable p
  let properties ← kept.mapM fun p => do
    let u ← orMissing k (← k.property p)
    return { p with isOptional := true, isMethod := false, isAccessor := false, isWritten := false
                    holding := .known u, substitution := [] }
  makeShape (.object (.made ⟨properties, [], [], m.indexers⟩ .regular (some scope)) [])

/-- An object that may be left out is taken in as one whose members may be. -/
def mergedEmpty (scope : Scope) (t : TypeId) : Check TypeId := do
  match ← shape t with
  | .union ts _ =>
    match ← ts.filterM fun u => return !(← addsNothing u) with
    | [] => return (← ts.findM? isEmptyObject).getD emptyObjectType
    | [u] => partialOf k scope u
    | _ => return t
  | _ => return t

/-- What stands under any key of both objects. -/
def sharedIndexers (left right : Members) : Check (List Indexer) :=
  left.indexers.filterMapM fun i => do
    match right.indexers.find? (·.key = i.key) with
    | some j => return some { i with
        type := ← union k [i.type, j.type], isReadonly := i.isReadonly || j.isReadonly }
    | none => return none

/-- A member of an object that is followed by one of the same name. -/
def overlaid (left right : Property) : Check Property := do
  if !right.isOptional then return right
  let t ← k.property left
  let u ← withoutMissing k (← k.property right)
  let whole ← if (← withoutMissing k t) = u then pure t else unionOf k .subtype [t, u] none
  return { left with
    isMethod := false, isAccessor := false, isReadonly := false, isWritten := false
    holding := .known whole, substitution := [] }

/-- One object with the members of another taken in; the flag tells whether those are written in
    the object itself. -/
def joinedObject (scope : Scope) (isReadonly isOwn : Bool) (left : Option TypeId)
    (right : TypeId) : Check TypeId := do
  let m ← match left with
    | some l => k.members (← k.apparent l)
    | none => pure .none
  let n ← k.members (← k.apparent right)
  let own ← (n.properties.filter fun p => p.owner.isNone && isSpreadable p).mapM fun p => do
    let copied ← copiedProperty k isReadonly p
    return { copied with isWritten := isOwn && copied.isWritten }
  let hidden := n.properties.filter (·.owner.isSome)
  let earlier := m.properties.filter fun p =>
    isSpreadable p && !hidden.any (·.name = p.name)
  let own ← own.mapM fun p => do
    match earlier.find? (·.name = p.name) with
    | some q => overlaid k q p
    | none => return p
  let others ← (earlier.filter fun p => !own.any (·.name = p.name)).mapM
    (copiedProperty k isReadonly)
  let indexers ← if left.isNone then pure n.indexers else sharedIndexers k m n
  let indexers := indexers.map fun i => { i with isReadonly }
  makeShape (.object (.made ⟨own ++ others, [], [], indexers⟩ .spread (some scope)) [])

/-- One type with another taken in, whose members may be written in the object itself; nothing on
    the left stands for no members. -/
def spreadOver (scope : Scope) (isReadonly isOwn : Bool) :
    Nat → Option TypeId → TypeId → Check TypeId
  | 0, _, _ => return errorType
  | n + 1, left, right => do
    if ← isAny right then return anyType
    match left with
    | some l => if ← isAny l then return anyType
    | none => pure ()
    let left ← left.mapM (mergedEmpty k scope)
    let leftUnion ← match left with
      | some l => if ← isUnion l then pure (some l) else pure none
      | none => pure none
    match leftUnion with
    | some l =>
      mapUnion k (fun u => return some (← spreadOver scope isReadonly isOwn n (some u) right)) l
    | none =>
      let right ← mergedEmpty k scope right
      if (← isUnion right) && right ≠ booleanType then
        mapUnion k (fun u => return some (← spreadOver scope isReadonly isOwn n left u)) right
      else if (← addsNothing right) && !(← isObject right) then
        return left.getD emptyObjectType
      else
        let isOpen ← match left with
          | some l => pure ((← isGenericObject k 16 l) || (← isGenericObject k 16 right))
          | none => isGenericObject k 16 right
        if isOpen then
          match left with
          | some l =>
            if ← isEmptyObject l then return right
            match ← shape l with
            | .intersection ts =>
              match ts.getLast? with
              | some last =>
                if !(← isGenericObject k 16 last) && !(← isGenericObject k 16 right) then
                  let joined ← spreadOver scope isReadonly isOwn n (some last) right
                  intersection k (ts.dropLast ++ [joined]) none
                else intersection k [l, right] none
              | none => intersection k [l, right] none
            | _ => intersection k [l, right] none
          | none => return right
        else joinedObject k scope isReadonly isOwn left right

/-! ## Objects -/

/-- What has been read of an object as it is written. -/
structure ObjectSoFar where
  /-- What was taken in, with what stands before it. -/
  spread : Option TypeId
  properties : List Property
  /-- Members whose names are not known, by the keys that they stand under. -/
  open' : List (TypeId × Property)
  /-- Something is taken in that may be anything, or is wrong. -/
  isWrong : Bool

/-- The kind of keys that a type of a name belongs to, if the name is not known. -/
def keyKind? (t : TypeId) : Check (Option TypeId) := do
  if (← nameOfKey? t).isSome then return none
  if ← k.related .assignable t numberType then return some numberType
  if ← k.related .assignable t symbolType then return some symbolType
  let any ← union k [stringType, numberType, symbolType]
  return if ← k.related .assignable t any then some stringType else none

/-- What stands under the keys of an object whose names are not all known. -/
def openIndexers (isReadonly : Bool) (o : ObjectSoFar) : Check (List Indexer) := do
  let kinds := (o.open'.map (·.1)).eraseDups
  let all := o.properties.map (fun p => (none, p)) ++ o.open'.map fun (t, p) => (some t, p)
  [stringType, numberType, symbolType].filterMapM fun kind => do
    if !kinds.contains kind then return none
    let own := all.filter fun (key?, p) => match key? with
      | some key => if kind = stringType then key ≠ symbolType else key = kind
      | none =>
        if kind = stringType then !p.name.startsWith "__@"
        else if kind = numberType then isNumberText p.name
        else p.name.startsWith "__@"
    let types ← own.mapM fun (_, p) => k.property p
    let t ← if types.isEmpty then pure undefinedType else unionOf k .subtype types none
    return some ⟨kind, t, isReadonly, "x"⟩

/-- The object of the members that were read behind what was taken in last. -/
def lastObject (scope : Scope) (isReadonly : Bool) (o : ObjectSoFar) : Check TypeId := do
  let indexers ← openIndexers k isReadonly o
  makeShape (.object (.made ⟨o.properties, [], [], indexers⟩ .value (some scope)) [])

/-- Adds a member; an earlier one of its name gives way. -/
def ObjectSoFar.put (o : ObjectSoFar) (p : Property) : ObjectSoFar :=
  if o.properties.any (·.name = p.name) then
    { o with properties := o.properties.map fun q => if q.name = p.name then p else q }
  else { o with properties := o.properties ++ [p] }

/-- The name of a member of an object as it is written, or the kind of keys it stands under. -/
def writtenName (env : Env) (name : MemberName) :
    Check (Option KnownName × Option TypeId) := do
  match name with
  | .computed passage =>
    match passage.value with
    | .text content => return (some ⟨content, .doubleQuoted, none⟩, none)
    | .number text => return (some ⟨text, .number, none⟩, none)
    | e =>
      let t ← k.value env e .none
      match ← nameOfType? t with
      | some n => return (some n, none)
      | none => return (none, ← keyKind? k t)
  | name => return (← resolveName k env.scope name, none)

/-- A member of an object as it is written. -/
def memberOf (name : KnownName) (isReadonly isMethod : Bool)
    (claimed : Option (Scope × TypeExpr)) (t : TypeId) : Property :=
  { name := name.text, style := name.style, isOptional := false, isReadonly, isMethod
    isAccessor := false, owner := none, holding := .known t, substitution := []
    isDerived := name.key.isSome, claimed, key := name.key, isWritten := true }

/-- What is expected of a member. -/
def expectedMember (x : Expectation) (isConstant : Bool) (whole : Option TypeId)
    (name : Option KnownName) (kind : Option TypeId) : Check Expectation := do
  let t ← match whole, name with
    | some w, some n => do
      let key ← match n.key with
        | some key => pure key
        | none => if n.style = .number then numberTypeOf n.text else textType n.text
      expectedUnder? k w n.text key
    | some w, none =>
      match kind with
      | some kind => mapPlainly? k (fun u => do
          return (← indexerFor? k u kind).map (·.type)) w
      | none => pure none
    | none, _ => pure none
  return { x.to t with isConstant }

/-- Adds a member whose name may not be known. -/
def ObjectSoFar.add (o : ObjectSoFar) (isReadonly isMethod : Bool)
    (name : Option KnownName) (kind : Option TypeId)
    (claimed : Option (Scope × TypeExpr)) (t : TypeId) : ObjectSoFar :=
  match name, kind with
  | some n, _ => o.put (memberOf n isReadonly isMethod claimed t)
  | none, some kind =>
    let own := { memberOf ⟨"", .plain, none⟩ isReadonly isMethod none t with isDerived := true }
    { o with open' := o.open' ++ [(kind, own)] }
  | none, none => o

/-- Adds a part that gets or sets a member. -/
def ObjectSoFar.addAccessor (o : ObjectSoFar) (scope : Scope) (member : Member)
    (name : Option KnownName) : ObjectSoFar :=
  match name with
  | some ⟨n, style, key⟩ =>
    let site : MemberSite := ⟨member, scope⟩
    let own := { propertyOfMember none n style site with key, isWritten := true }
    { o with properties := addMember own site o.properties }
  | none => o

/-- What the library says a type's functions speak of as themselves, if it does. -/
def namedSelf? (t : TypeId) : Check (Option TypeId) := do
  match ← referenceOf? k t with
  | some (target, _) =>
    match ← shape target with
    | .declared d =>
      if d.name = "ThisType" && d.key.isOfLibrary then return (← k.arguments t).head?
      else return none
    | _ => return none
  | none => return none

/-- What a type that is expected of an object says its functions speak of as themselves. -/
def toldSelf? (t : TypeId) : Check (Option TypeId) := do
  let told (u : TypeId) : Check (Option TypeId) := do
    match ← shape u with
    | .intersection ts => ts.findSomeM? (namedSelf? k)
    | _ => namedSelf? k u
  match ← (← membersOf t).filterMapM told with
  | [] => return none
  | ts => some <$> union k ts

/-- What functions in an object are expected to speak of as itself. -/
def expectedSelf? (env : Env) (items : List ObjectItem) (x : Expectation)
    (whole : Option TypeId) : Check (Option ExpectedSelf) := do
  match whole, x.type with
  | some w, some t =>
    match ← toldSelf? k w with
    | some u => return some ⟨u, x.inference, false⟩
    | none =>
      let outer ← match writtenKey? env.scope items with
        | some key => pure (← get).selves[key]?
        | none => pure none
      match outer with
      | some s => return some s
      | none => return some ⟨if x.inference.isSome then t else w, x.inference, true⟩
  | _, _ => return none

/-- The function, or the object, that an item of an object holds. -/
def itemKey? (scope : Scope) : ObjectItem → Option Key
  | .property _ _ (.function f) => if f.isArrow then none else some (scope.key f.spot "around")
  | .property _ _ (.object items) => writtenKey? scope items
  | .method _ f | .getter _ f | .setter _ f => some (scope.key f.spot "around")
  | _ => none

/-- What the items of an object are expected to speak of as itself is kept. -/
def handSelf (env : Env) (items : List ObjectItem) (x : Expectation) (whole : Option TypeId) :
    Check Unit := do
  match ← expectedSelf? k env items x whole with
  | none => return
  | some own => items.forM fun item => do
    let isObject := item matches .property _ _ (.object _)
    match itemKey? env.scope item with
    | some key =>
      unless isObject && own.isAround do
        modify fun s => { s with selves := s.selves.insert key own }
    | none => return

/-- Reads the parts of an object. -/
def readItems (env : Env) (items : List ObjectItem) (x : Expectation) (isConstant : Bool)
    (whole : Option TypeId) : Check ObjectSoFar :=
  items.foldlM (fun o item => do
    let inner := env.scope.enter (.object (some items))
    match item with
    | .property _ name e =>
      let (n, kind) ← writtenName k env name
      let place : Env := match e with
        | .function f => if f.isArrow then env else ⟨inner, env.flow⟩
        | _ => env
      let t ← storedValue k place e (← expectedMember k x isConstant whole n kind)
      let claimed := match e with
        | .cast _ type => some (env.scope, type)
        | _ => none
      return o.add isConstant false n kind claimed t
    | .shorthand _ name =>
      let n := some ⟨name, NameStyle.plain, none⟩
      let t ← storedValue k env (.name name) (← expectedMember k x isConstant whole n none)
      return o.add isConstant false n none none t
    | .method name f =>
      let (n, kind) ← writtenName k env name
      let y ← expectedMember k x isConstant whole n kind
      let t ← functionType k ⟨f, ⟨inner, env.flow⟩, .objectMethod, false⟩ y
      return o.add isConstant true n kind none t
    | .getter name f => return o.addAccessor inner (.getter [] name f) (← writtenName k env name).1
    | .setter name f => return o.addAccessor inner (.setter [] name f) (← writtenName k env name).1
    | .spread e =>
      if o.isWrong then return o
      let before ← if o.properties.isEmpty && o.open'.isEmpty then pure o.spread
        else
          let own ← lastObject k env.scope isConstant o
          match o.spread with
          | some s => some <$> spreadOver k env.scope isConstant true 8 (some s) own
          | none => some <$> spreadOver k env.scope isConstant true 8 none own
      let t ← reduced k (← k.value env e { x with isTuple := false })
      if !(← maySpread k 8 t) then return ⟨some errorType, [], [], false⟩
      let joined ← spreadOver k env.scope isConstant false 8 before t
      return ⟨some joined, [], [], false⟩) ⟨none, [], [], false⟩

/-- The type of an object as it is written. -/
def objectValue (env : Env) (items : List ObjectItem) (x : Expectation) : Check TypeId := do
  let whole ← match ← expectedMembers? k x with
    | some t => some <$> chooseExpected k env items t
    | none => pure none
  let isConstant ← if x.isConstant then pure true
    else match x.type with
      | some t => expectsConstant t
      | none => pure false
  handSelf k env items x whole
  let o ← readItems k env items x isConstant whole
  match o.spread with
  | none => lastObject k env.scope isConstant o
  | some s =>
    let all ← if o.properties.isEmpty && o.open'.isEmpty then pure s
      else do
        let own ← lastObject k env.scope isConstant o
        spreadOver k env.scope isConstant true 8 (some s) own
    if all = emptyObjectType then lastObject k env.scope isConstant ⟨none, [], [], false⟩
    else return all

/-! ## Lists -/

/-- The items of a list as elements. -/
def listElements (env : Env) (items : List Expr) (x : Expectation) (isConstant : Bool)
    (whole : Option TypeId) : Check (List Element) := do
  let isSpread (e : Expr) : Bool := e matches .spread _
  let first := items.findIdx? isSpread
  let last := (items.reverse.findIdx? isSpread).map fun i => items.length - 1 - i
  items.zipIdx.mapM fun (e, place) => do
    match e with
    | .spread inner =>
      let t ← k.value env inner { Expectation.none with isConstant, isTuple := x.isTuple }
      let isListed := (← isList k t) || (← isTuple t)
      let isOpenList ← if isOpenShape (← shape t) then do
          let b ← baseBound k t
          pure ((← isList k b) || (← isTuple b))
        else pure false
      if isListed || isOpenList then return Element.mk .variadic none t
      else return Element.mk .rest none (← itemOf k false t)
    | .hole => return Element.mk .required none (← absentValue)
    | e =>
      let expected ← match whole with
        | some w => expectedElement? k w place items.length first last
        | none => pure none
      let t ← storedValue k env e { x with type := expected, isConstant }
      return Element.mk .required none t

/-- The type of a list as it is written. -/
def arrayValue (env : Env) (items : List Expr) (x : Expectation) : Check TypeId := do
  let whole ← expectedMembers? k x
  let isConstant ← if x.isConstant then pure true
    else match x.type with
      | some t => expectsConstant t
      | none => pure false
  let isFixed ← if x.isTuple || isConstant then pure true
    else match whole with
      | some w => expectsTuple k w
      | none => pure false
  let es ← listElements k env items x isConstant whole
  if isFixed then
    let isChangeable ← match whole with
      | some w => expectsChangeable k w
      | none => pure false
    listValue (← tupleOf k (isConstant && !isChangeable) es)
  else
    let types ← es.mapM fun e => do
      if e.kind = .variadic then
        match ← elementOf? k e.type with
        | some t => return t
        | none => openElement e.type
      else return e.type
    let element ← if types.isEmpty then
        pure (if ← strictNull then neverType else wideningUndefinedType)
      else unionOf k .subtype types none
    listValue (← listOf k false element)

end

end TypeLineage.Typing
