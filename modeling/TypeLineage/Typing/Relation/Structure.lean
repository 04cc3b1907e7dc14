import TypeLineage.Typing.Relation.Open

/-! # How types compare by their structure

    Instances of one declaration are compared by their type arguments, as far as
    it is known how the declaration changes with them.  Where that does not
    settle it, objects are compared by what they have.  What holds several types
    together may be bound by more than its parts on their own. -/

namespace TypeLineage.Typing

open Source Program

section

variable (k : Rules) (c : Comparison)

/-! ## Type arguments -/

/-- A type with arguments that only stand for others. -/
def isMarked (t : TypeId) : Check Bool := return (← get).marked.contains t

/-- One argument takes the place of another, as a type changes with it. -/
def argumentRelated (v : Variance) (s t : TypeId) : Check Verdict := do
  if v.direction = .none then return .yes
  if v.isUnmeasurable then
    if c.relation = .identity then compareBoth k c s t
    else return .ofBool (← k.related .identity s t)
  else match v.direction with
    | .along => compareBoth k c s t
    | .against => compareBoth k c t s
    | .either => orElse (compareBoth k c t s) (compareBoth k c s t)
    | _ => andAlso (compareBoth k c s t) (compareBoth k c t s)

/-- A type that changes with its argument, and can be relied on to. -/
def Variance.plain : Variance := ⟨.along, false, false⟩

/-- Types that differ in their arguments are related, as the types change with them; nothing if
    they have to be looked into. -/
def byArguments (variances : List Variance) (sources targets : List TypeId) :
    Check (Option Verdict) := do
  let v ← if c.relation = .identity && sources.length ≠ targets.length then pure .no
    else Verdict.all (fun (((s, t), i) : (TypeId × TypeId) × Nat) =>
      argumentRelated k c (variances.getD i .plain) s t) (sources.zip targets).zipIdx
  if v ≠ .no then return some v
  if variances.any fun v => v.isUnmeasurable || v.isUnreliable then return none
  let givesNothing := (targets.zip variances).any fun (t, v) =>
    v.direction = .along && t = voidType
  return if givesNothing then none else some .no

/-- Types of one name with arguments are compared by those. -/
def bySynonyms (source target : TypeId) : Check (Option Verdict) := do
  let s ← shape source
  if !(isObjectShape s || s matches .conditional ..) then return none
  match (← entry source).synonym, (← entry target).synonym with
  | some a, some b =>
    if a.key ≠ b.key || a.arguments.isEmpty then return none
    if (← isMarked source) || (← isMarked target) then return none
    match ← k.synonymVariances a with
    | none => return some .unknown
    | some variances => byArguments k c variances a.arguments b.arguments
  | _, _ => return none

/-! ## Tuples of one list -/

/-- What a tuple takes in that is nothing else. -/
def soleSpread? (t : TypeId) : Check (Option (TupleForm × TypeId)) := do
  match ← tupleForm? k t with
  | some (form, [e]) => return if form.kinds = [.variadic] then some (form, e) else none
  | _ => return none

/-- The type is a list or a tuple that may be changed. -/
def isChangeableList (t : TypeId) : Check Bool := do
  match ← tupleForm? k t with
  | some (form, _) => return !form.isReadonly
  | none => return (← listForm? k t).any (!·.isReadonly)

/-- A tuple that only takes in one list is compared as that list. -/
def bySpread (source target : TypeId) : Check Verdict := do
  let own ← match ← soleSpread? k source with
    | some (form, e) =>
      if form.isReadonly then pure .no else compareParts k c .source .none e target
    | none => pure .no
  if own ≠ .no then return own
  match ← soleSpread? k target with
  | some (form, e) =>
    if form.isReadonly || (← isChangeableList k ((← k.base? source).getD source)) then
      compareParts k c .target .none source e
    else return .no
  | none => return .no

/-! ## Objects -/

/-- Objects are compared by all that they have. -/
def byContents (isPrimitive : Bool) (source target : TypeId) : Check Verdict := do
  let ofProperties ← if c.relation = .identity then propertiesIdentical k c source target
    else propertiesRelated k c [] false source target
  if ofProperties = .no then return .no
  let m ← k.members source
  let n ← k.members target
  andAlso (pure ofProperties) <|
    andAlso (signaturesRelated k c source target m.calls n.calls) <|
    andAlso (signaturesRelated k c source target m.constructs n.constructs) <|
    indexersRelated k c isPrimitive source target

/-- Instances of one declaration. -/
def areOfOne? (source target : TypeId) : Check (Option (List TypeId × List TypeId)) := do
  match ← referenceOf? k source, ← referenceOf? k target with
  | some (a, xs), some (b, ys) =>
    let isFit := a = b && !xs.isEmpty && !(← isTuple a)
    if !isFit || (← isMarked source) || (← isMarked target) then return none
    return some (xs, ys)
  | _, _ => return none

/-- A list may be taken for another list whatever their elements are. -/
def areLists (source target : TypeId) : Check Bool := do
  match ← listForm? k target with
  | none => return false
  | some l =>
    if l.isReadonly then everyMember (Mapped.isListLike k) source
    else everyMember (fun u => do
      match ← tupleForm? k u with
      | some (form, _) => return !form.isReadonly
      | none => return false) source

/-- Tuples of one form are the same if their elements are. -/
def tuplesIdentical? (source target : TypeId) : Check (Option Verdict) := do
  if c.relation ≠ .identity then return none
  match ← tupleForm? k source, ← tupleForm? k target with
  | some (f, xs), some (g, ys) =>
    if f.kinds ≠ g.kinds || f.isReadonly ≠ g.isReadonly then return some .no
    some <$> Verdict.all (fun (s, t) => compareBoth k c s t) (xs.zip ys)
  | some _, none | none, some _ => return some .no
  | none, none => return none

/-- An object, or what is none, is taken for another type. -/
def objectSource (source target : TypeId) : Check Verdict := do
  let isStrict := c.relation = .subtype || c.relation = .strictSubtype
  let map? ← openMap? k target
  match ← mapped? target with
  | some m =>
    if !isStrict && addsOptional m.optionalMark && (← hasNoMembers k 16 source) then return .yes
  | none => pure ()
  match map? with
  | some n =>
    match ← openMap? k source with
    | some m => return ← mapRelated k c m n
    | none => return .no
  | none => pure ()
  let isPrimitive := isPrimitiveShape (← shape source)
  if c.relation = .identity && (← openMap? k source).isSome then return .no
  let source ← if c.relation = .identity then pure source else k.apparent source
  let ofArguments ← match ← areOfOne? k source target with
    | some (xs, ys) =>
      if ← isEmptyList k source then pure (some .yes)
      else match ← k.variances source with
        | none => pure (some .unknown)
        | some variances => byArguments k c variances xs ys
    | none => byForm? source target isStrict
  match ofArguments with
  | some v => return v
  | none =>
    let s ← shape source
    let t ← shape target
    let isWhole := isObjectShape s || s matches .intersection _
    let direct ← if isWhole && isObjectShape t then byContents k c isPrimitive source target
      else pure .no
    if direct ≠ .no then return direct
    match isWhole, t with
    | true, .union .. =>
      let objects ← filterUnion (fun u => do
        let s ← shape u
        return isObjectShape s || s matches .intersection _) target
      if ← isUnion objects then choiceRelated k c source objects else return .no
    | _, _ => return .no
where
  /-- Lists and tuples by their elements, and empty objects that may have no members. -/
  byForm? (source target : TypeId) (isStrict : Bool) : Check (Option Verdict) := do
    match ← tuplesIdentical? k c source target with
    | some v => return some v
    | none =>
      if ← areLists k source target then
        if c.relation = .identity then return some .no
        let s := (← elementOf? k source).getD anyType
        let t := (← elementOf? k target).getD anyType
        return some (← compareBoth k c s t)
      else if (← isOpenTuple source) && (← isTuple target) && !(← isOpenTuple target) then
        let b := (← k.base? source).getD source
        if b ≠ source then return some (← compareParts k c .source .none b target) else return none
      else if isStrict && (← isFreshObject target) && (← hasNoMembers k 16 target)
          && !(← hasNoMembers k 16 source) then
        return some .no
      else return none

/-! ## All types -/

/-- Types are the same, though neither is an object. -/
def partsIdentical (source target : TypeId) : Check (Option Verdict) := do
  match ← shape source, ← shape target with
  | .union ss _, .union ts _ =>
    some <$> andAlso (eachAmong k c target ss ts) (eachAmong k c source ts ss)
  | .intersection ss, .intersection ts =>
    some <$> andAlso (eachAmong k c target ss ts) (eachAmong k c source ts ss)
  | .keys a, .keys b => some <$> compareBoth k c a b
  | .index a i, .index b j => some <$> andAlso (compareBoth k c a b) (compareBoth k c i j)
  | .conditional a s x u, .conditional b t y v =>
    if a.distributed.isSome ≠ b.distributed.isSome then return some .no
    some <$> (andAlso (compareBoth k c x y) <| andAlso (compareBoth k c u v) <| andAlso
      (do compareBoth k c (← branchOf k a s true) (← branchOf k b t true))
      (do compareBoth k c (← branchOf k a s false) (← branchOf k b t false)))
  | .template a us, .template b vs =>
    if a ≠ b then return some .no
    some <$> Verdict.all (fun (u, v) => compareBoth k c u v) (us.zip vs)
  | .changed v a, .changed w b =>
    if v ≠ w then return some .no else some <$> compareBoth k c a b
  | s, t => return if isObjectShape s && isObjectShape t then none else some .no

/-- Types of which one depends on type parameters, or that are objects, are related. -/
def byKind (source target : TypeId) : Check Verdict := do
  match ← openTarget k c source target with
  | some v => return v
  | none =>
    let s ← shape source
    let t ← shape target
    match s with
    | .parameter .. => variableSource k c source target
    | .index .. => if t matches .index .. then return .no else variableSource k c source target
    | .keys of => keysSource k c of target
    | .conditional n u check bound => conditionalSource k c source target n u check bound
    | .changed word of =>
      match t with
      | .changed other u => if word ≠ other then return .no else compareBoth k c of u
      | _ => ofBase source target
    | .template .. =>
      if isObjectShape t then objectSource k c source target
      else if t matches .template .. then return .no
      else ofBase source target
    | _ => objectSource k c source target
where
  /-- What texts amount to is taken for a type. -/
  ofBase (source target : TypeId) : Check Verdict := do
    match ← k.base? source with
    | some b => if b = source then return .no else compareParts k c .source .none b target
    | none => return .no

/-- Types are related by their structure, apart from what bounds those that hold several
    together. -/
def byStructure (source target : TypeId) : Check Verdict := do
  let s ← shape source
  let t ← shape target
  let settled? ← if c.relation = .identity then partsIdentical k c source target
    else if isGroupShape s || isGroupShape t then do
      let v ← groupRelated k c source target
      let mayGoOn := isInstantiableShape s || (isObjectShape s && t matches .union ..)
        || (s matches .intersection _
          && (isObjectShape t || t matches .union .. || isInstantiableShape t))
      pure (if v ≠ .no || !mayGoOn then some v else none)
    else pure none
  match settled? with
  | some v => return v
  | none =>
    match ← bySynonyms k c source target with
    | some v => return v
    | none => orElse (bySpread k c source target) (byKind k c source target)

/-! ## What bounds several types together -/

/-- The types are of one kind of value each, so that they may contradict others. -/
def isOfDomain (t : TypeId) : Check Bool := do
  match ← shape t with
  | .keyword .object | .keyword .void => return true
  | s => if isPrimitiveShape s then return true else isEmptyObject t

/-- A bound that is followed as long as it is known to come to an end. -/
def followedBound? : Nat → TypeId → Check (Option TypeId)
  | 0, _ => return none
  | n + 1, t => do
    match ← k.bound t with
    | none => return none
    | some b =>
      match ← shape b with
      | .parameter .. | .keys _ | .conditional .. => followedBound? n b
      | _ => return some b

/-- What bounds several types together, where that may tell more than each of the bounds. -/
def commonBound? (types : List TypeId) (forUnion : Bool) : Check (Option TypeId) := do
  let domains ← types.filterM isOfDomain
  let bounds ← types.flatMapM fun t => do
    if !isInstantiableShape (← shape t) then return []
    match ← followedBound? k 64 t with
    | some b => return if forUnion then [b, t] else [b]
    | none => return []
  let others ← domains.filterM fun t => return !isInstantiableShape (← shape t)
  if bounds.isEmpty || (!forUnion && others.isEmpty) then return none
  some <$> do normal k false (← intersection k (bounds ++ others) none)

/-- Types are related by their structure. -/
def structureRelated (source target : TypeId) : Check Verdict := do
  let first ← byStructure k c source target
  if c.relation = .identity then return first
  let s ← shape source
  let t ← shape target
  let isParameter := s matches .parameter ..
  let v ← if first ≠ .no then pure first
    else if s matches .intersection _ || (isParameter && t matches .union ..) then do
      let types := match s with
        | .intersection ts => ts
        | _ => [source]
      match ← commonBound? k types (t matches .union ..) with
      | some b =>
        if ← everyMember (fun u => return u ≠ source) b then
          compareParts k c .source c.joining b target
        else pure .no
      | none => pure .no
    else pure .no
  if v = .no then return .no
  let isIntersection := s matches .intersection _
  if c.joining ≠ .target && t matches .intersection _ && (isObjectShape s || isIntersection)
      && !(← isGenericObject k 16 target) then
    let inner := { c with joining := .none }
    andAlso (pure v) <| andAlso (propertiesRelated k inner [] false source target) <| do
      if ← isFreshObject source then indexersRelated k inner false source target else return .yes
  else match s with
    | .intersection ss =>
      let isPlain ← if isObjectShape t then pure (openMap? k target) else pure (pure none)
      let isChecked := isObjectShape t && (← isPlain).isNone && !(← Mapped.isListLike k target)
        && !ss.contains target
      let a ← if isChecked then shape (← k.apparent source) else pure s
      if isChecked && (isObjectShape a || isGroupShape a) then
        andAlso (pure v) (propertiesRelated k c [] true source target)
      else return v
    | _ => return v

end

end TypeLineage.Typing
