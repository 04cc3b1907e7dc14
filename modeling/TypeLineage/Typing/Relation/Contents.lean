import TypeLineage.Typing.Relation.Functions

/-! # How members compare

    One object takes the place of another if it has the members that are asked
    for, each of a type that may be taken for the one asked for.  Members that a
    class keeps to itself must come from the same class.  Tuples are compared
    element by element.  What stands under any key is compared with all that the
    other object has under such keys. -/

namespace TypeLineage.Typing

open Source Program

/-! ## One member -/

/-- Members that follow from the same declarations, with the same types put in place. -/
def isSameProperty (p q : Property) : Bool :=
  p.substitution = q.substitution && match p.holding, q.holding with
    | .members a _, .members b _ => a = b
    | .field a f, .field b g => a.spot = b.spot && f.key = g.key
    | _, _ => false

/-- The members are declared in one place. -/
def areDeclaredAlike (p q : Property) : Bool :=
  p.owner = q.owner && match p.holding, q.holding with
    | .members a _, .members b _ => a = b
    | .field a f, .field b g => a.spot = b.spot && f.key = g.key
    | .members .., .field .. | .field .., .members .. => false
    | _, _ => true

/-- A class derives from another. -/
def isDerivedFrom (k : Rules) (home base : Key) : Check Bool := do
  match (← get).declared[home]? with
  | some t => derives k 64 t base
  | none => return home = base

/-- Whoever has a member may have it in place of another. -/
def isAsOpen (k : Rules) (source target : Property) : Check Bool := do
  let isPrivate (p : Property) : Bool := p.owner.isSome && !p.isProtected
  if isPrivate source || isPrivate target then return areDeclaredAlike source target
  else if target.isProtected then
    match source.home, target.home with
    | some a, some b => isDerivedFrom k a b
    | _, _ => return false
  else return !source.isProtected

/-- The member is one of a class, an interface or an object. -/
def isOfMembers (p : Property) : Bool :=
  match p.holding with
  | .entities _ => false
  | _ => true

/-- The type of a member where it is there. -/
def typeThere (k : Rules) (p : Property) : Check TypeId := do
  whereThere p.isOptional (← k.property p)

/-- One member takes the place of another, given the type of the one. -/
def propertyRelated (k : Rules) (c : Comparison) (mayLack : Bool) (type : Check TypeId)
    (source target : Property) : Check Verdict := do
  if !(← isAsOpen k source target) then return .no
  if c.relation = .strictSubtype && source.isReadonly && !target.isReadonly then return .no
  let t ← typeThere k target
  let isVague ← if ← isAny t then pure true
    else if c.relation = .strictSubtype then pure false else isKeyword .unknown t
  let v ← if isVague then pure Verdict.yes else do
    k.compared { c with sides := .both } (← type) t
  if v = .no then return .no
  if !mayLack && source.isOptional && isOfMembers target && !target.isOptional then return .no
  return v

/-! ## Tuples -/

/-- A list has some elements of a type, and a tuple some at each place. -/
def elementsAs? (k : Rules) (t : TypeId) : Check (Option (TupleForm × List TypeId)) := do
  match ← tupleForm? k t with
  | some found => return some found
  | none =>
    match ← listForm? k t with
    | some l => return some ({ TupleForm.ofKinds [.rest] with isReadonly := l.isReadonly }, [l.element])
    | none => return none

/-- The element of a tuple is one that a comparison without certain members leaves out. -/
def isLeftOut (without : List String) (i : Nat) : Bool := without.contains (toString i)

/-- A list or a tuple takes the place of a tuple, apart from elements that are left out. -/
def tupleRelated (k : Rules) (c : Comparison) (without : List String) (form : TupleForm)
    (types : List TypeId) (own : TupleForm) (given : List TypeId) : Check Verdict := do
  if !form.isReadonly && own.isReadonly then return .no
  let isRest := own.kinds.contains .rest
  if !isRest && given.length < form.leastLength then return .no
  if !form.hasOpen && types.length < own.leastLength then return .no
  if !form.hasOpen && (isRest || types.length < given.length) then return .no
  let start := (form.kinds.takeWhile (· ≠ .rest)).length
  let ending := if form.kinds.contains .rest
    then (form.kinds.reverse.takeWhile (· ≠ .rest)).length else types.length
  let openAt := min (own.kinds.takeWhile (!TupleForm.isOpen ·)).length
    (form.kinds.takeWhile (!TupleForm.isOpen ·)).length
  Verdict.all (fun (s, i) => do
    let kind := own.kinds.getD i .required
    let fromEnd := given.length - 1 - i
    let place := if form.hasOpen && start ≤ i then types.length - 1 - min fromEnd ending else i
    let wanted := form.kinds.getD place .required
    if wanted = .variadic && kind ≠ .variadic then return .no
    if kind = .variadic && !TupleForm.isOpen wanted then return .no
    if wanted = .required && kind ≠ .required then return .no
    if i < openAt && isLeftOut without i then return .yes
    let t := types.getD place errorType
    let s ← whereThere (kind = .optional && wanted = .optional) s
    let t ← if kind = .variadic && wanted = .rest then listOf k false t
      else whereThere (wanted = .optional) t
    k.compared { c with sides := .both } s t) given.zipIdx

/-! ## All members -/

/-- An object is as it was written. -/
def isWrittenObject (t : TypeId) : Check Bool := isObjectValue t

/-- The list is as it was written, and holds nothing. -/
def isEmptyList (k : Rules) (t : TypeId) : Check Bool := do
  if !(← entry t).isListValue then return false
  match ← listForm? k t with
  | some l => return (← isNever l.element) || l.element = wideningUndefinedType
  | none => return false

/-- The name is one of an element. -/
def isElementName (name : String) : Bool := isNumberText name

/-- The members of an object take the place of those of another, apart from some that are left
    out; the flag tells whether only those count that need not be there. -/
def propertiesRelated (k : Rules) (c : Comparison) (without : List String) (optionalOnly : Bool)
    (source target : TypeId) : Check Verdict := do
  let isOfTuple ← isTuple target
  let ofElements? ← match ← tupleForm? k target with
    | some (form, types) =>
      match ← elementsAs? k source with
      | some (own, given) => some <$> tupleRelated k c without form types own given
      | none => pure (if form.hasOpen then some .no else none)
    | none => pure none
  match ofElements? with
  | some v => return v
  | none =>
    let wanted := (← k.members target).properties
    let isStrict := c.relation = .subtype || c.relation = .strictSubtype
    let isLiteral ← isWrittenObject source
    let needsAll ← if !isStrict || isLiteral || (← isEmptyList k source) then pure false
      else pure (!(← isTuple source))
    let found ← wanted.mapM fun p => return (p, ← propertyOf? k source p.name)
    if found.any fun (p, q) => (needsAll || !p.isOptional) && q.isNone then return .no
    if ← isWrittenObject target then
      let a ← k.members (← k.apparent source)
      let isExtra ← a.properties.anyM fun p => do
        if without.contains p.name || wanted.any (·.name = p.name) then return false
        return !(← isUndefined (← k.property p))
      if isExtra then return .no
    let onlyElements := isOfTuple && (← isTuple source)
    let mayLack := c.relation = .comparable
    Verdict.all (fun (p, q?) => do
      match q? with
      | none => return .yes
      | some q =>
        if without.contains p.name || p.name = "prototype" then return .yes
        if onlyElements && !isElementName p.name && p.name ≠ "length" then return .yes
        if optionalOnly && !p.isOptional then return .yes
        if isSameProperty p q then return .yes
        propertyRelated k c mayLack (typeThere k q) q p) found

/-- The members of objects are the same. -/
def propertiesIdentical (k : Rules) (c : Comparison) (source target : TypeId) : Check Verdict := do
  if !(isObjectShape (← shape source) && isObjectShape (← shape target)) then return .no
  let own := (← k.members source).properties
  let others := (← k.members target).properties
  if own.length ≠ others.length then return .no
  Verdict.all (fun p => do
    match others.find? (·.name = p.name) with
    | none => return .no
    | some q =>
      if isSameProperty p q then return .yes
      if p.isProtected ≠ q.isProtected || p.owner.isSome ≠ q.owner.isSome then return .no
      if p.owner.isSome && !areDeclaredAlike p q then return .no
      if p.isOptional ≠ q.isOptional || p.isReadonly ≠ q.isReadonly then return .no
      k.compared { c with sides := .both } (← k.property p) (← k.property q)) own

/-! ## What stands under any key -/

/-- All that an object has under keys of a kind takes the place of what is asked for there. -/
def membersUnder (k : Rules) (c : Comparison) (source : TypeId) (wanted : Indexer) :
    Check Verdict := do
  let m ← k.members source
  let compare := k.compared { c with sides := .both }
  let exact := (← settings).exactOptional
  let own ← m.properties.filterM (isUnderKey k wanted.key)
  let ofMembers ← Verdict.all (fun p => do
    let t ← typeThere k p
    let t ← if exact || wanted.key = numberType || !p.isOptional || (← isUndefined t) then pure t
      else filterUnion (fun u => return !(← isUndefined u)) t
    compare t wanted.type) own
  if ofMembers = .no then return .no
  let others ← m.indexers.filterM fun i => standsUnder k i.key wanted.key
  return ofMembers.and (← Verdict.all (fun (i : Indexer) => compare i.type wanted.type) others)

/-- What stands under any key of an object takes the place of what is asked for there. -/
def indexersRelated (k : Rules) (c : Comparison) (isPrimitive : Bool) (source target : TypeId) :
    Check Verdict := do
  let wanted := (← k.members target).indexers
  let compare := k.compared { c with sides := .both }
  if c.relation = .identity then
    let own := (← k.members source).indexers
    if own.length ≠ wanted.length then return .no
    return ← Verdict.all (fun (j : Indexer) => do
      match own.find? (·.key = j.key) with
      | some i => if i.isReadonly ≠ j.isReadonly then return .no else compare i.type j.type
      | none => return .no) wanted
  let hasTexts := wanted.any (·.key = stringType)
  Verdict.all (fun (j : Indexer) => do
    let ofAny ← isAny j.type
    if c.relation ≠ .strictSubtype && !isPrimitive && hasTexts && ofAny then return .yes
    match hasTexts, ← openMap? k source with
    | true, some m => compare (← m.template k) j.type
    | _, _ =>
      match ← indexerFor? k source j.key with
      | some i => compare i.type j.type
      | none =>
        let isClosed ← if c.joining = .source then pure false
          else if c.relation ≠ .strictSubtype then pure true else isFreshObject source
        if isClosed && (← hasOnlyMembers k 16 source) then membersUnder k c source j
        else return .no) wanted

end TypeLineage.Typing
