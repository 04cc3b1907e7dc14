import TypeLineage.Typing.Relation.Groups

/-! # How types compare that depend on type parameters

    What depends on a type parameter takes the place of another type if what
    bounds it does.  Taken the other way round, a value must be fit for whatever
    the type parameter stands for: for all that may be set under a key, for both
    branches of a condition, for every member that a mapped type makes. -/

namespace TypeLineage.Typing

open Source Program

section

variable (k : Rules) (c : Comparison)

/-- Compares the same parts of both types. -/
def compareBoth (s t : TypeId) : Check Verdict := compareParts k c .both .none s t

/-- Where a verdict is no, another way to compare is tried. -/
def orElse (first second : Check Verdict) : Check Verdict := do
  match ← first with
  | .no => second
  | v => return v

/-- Where a verdict is not no, another must hold, too. -/
def andAlso (first second : Check Verdict) : Check Verdict := do
  match ← first with
  | .no => return .no
  | v => return v.and (← second)

/-! ## Type parameters -/

/-- Type parameters that bound one another, one after another, compared with one of them. -/
def boundsCompared (target : TypeId) : Nat → TypeId → Check Verdict
  | 0, _ => return .no
  | n + 1, t => do
    match ← k.bound t with
    | none => return .no
    | some b =>
      let hasParameter ← someMember (fun u => do
        return (← shape u) matches .parameter ..) b
      if !hasParameter then return .no
      orElse (compareParts k c .source .none b target) (boundsCompared target n b)

/-- A mapped type is taken for a type parameter if it makes all members as that has them. -/
def mappedAsParameter (m : Mapped) (target : TypeId) : Check Verdict := do
  if m.renamed.isSome || addsOptional m.optionalMark then return .no
  if (← compareBoth k c (← k.keys target) (← m.keys k)) = .no then return .no
  let under ← underKnown k target m.parameter none
  compareBoth k c (← m.template k) under

/-- A type is taken for a type parameter, if it is known. -/
def parameterTarget (source target : TypeId) : Check (Option Verdict) := do
  match ← mapped? source with
  | some m =>
    match ← mappedAsParameter k c m target with
    | .no => pure ()
    | v => return some v
  | none => pure ()
  if c.relation = .comparable && (← shape source) matches .parameter .. then
    return some (← boundsCompared k c target 64 source)
  return none

/-! ## Keys -/

/-- The keys that are known of a tuple. -/
def knownTupleKeys (form : TupleForm) : Check TypeId := do
  let own ← (List.range form.fixedLength).mapM fun i => textType (toString i)
  let name := if form.isReadonly then "ReadonlyArray" else "Array"
  let list := (← globalType? k name).getD emptyObjectType
  union k (own ++ [← k.keys list])

/-- The names that a mapped type gives to the keys that are known. -/
def apparentNames (m : Mapped) : Check TypeId := do
  union k (← (← keysGoneThrough k m).mapM (m.named k))

/-- A type is taken for the keys of another. -/
def keysTarget (source of : TypeId) : Check Verdict := do
  let direct ← match ← shape source with
    | .keys own => compareBoth k c of own
    | _ => pure .no
  if direct ≠ .no then return direct
  match ← tupleForm? k of with
  | some (form, _) => compareParts k c .target .none source (← knownTupleKeys k form)
  | none =>
    let isSure (t : TypeId) : Check Verdict := do
      match ← compareParts k c .target .none source t with
      | .yes => return .yes
      | _ => return .no
    match ← simplifiedOrBound? k of with
    | some b => isSure (← k.keys b)
    | none =>
      match ← openMap? k of with
      | none => return .no
      | some m =>
        match ← m.nameType? k with
        | some name =>
          if m.isOfKeys then isSure (← union k [← apparentNames k m, name]) else isSure name
        | none => isSure (← m.keys k)

/-- The keys of a type are taken for another type. -/
def keysSource (of target : TypeId) : Check Verdict := do
  match ← compareParts k c .source .none (← anyKeys k) target with
  | .no =>
    match ← openMap? k of with
    | none => return .no
    | some m =>
      if !(← areKeysOpen k of) then return .no
      let keys ← match ← m.nameType? k with
        | some name => if m.isOfKeys then apparentNames k m else pure name
        | none => m.keys k
      compareParts k c .source .none keys target
  | v => return v

/-! ## What stands under keys -/

/-- What may be set under a key, whatever the type parameters stand for. -/
def settable? (object key : TypeId) : Check (Option TypeId) := do
  let o := (← k.base? object).getD object
  let i := (← k.base? key).getD key
  if (← isGenericObject k 16 o) || (← isGenericKey 16 i) then return none
  let isNamed (u : TypeId) : Check Bool := do
    if o = object then return true
    match ← nameOfKey? u with
    | some name =>
      if (← propertyOf? k o name).isSome then return true
      return (← indexerFor? k o u).any (·.key = numberType)
    | none => return u = numberType
  let keys ← membersOf i
  let found ← keys.mapM fun u => do
    if ← isNamed u then under? k .known o u none else return none
  if found.any (·.isNone) then return none
  some <$> intersection k (found.filterMap id) none

/-- A type is taken for what stands under a key. -/
def indexTarget (source object key : TypeId) : Check Verdict := do
  let direct ← match ← shape source with
    | .index o i => andAlso (compareBoth k c o object) (compareBoth k c i key)
    | _ => pure .no
  if direct ≠ .no then return direct
  if c.relation ≠ .assignable && c.relation ≠ .comparable then return .no
  match ← settable? k object key with
  | some t => compareParts k c .target c.joining source t
  | none => return .no

/-! ## Mapped types -/

/-- How much the marks of a mapped type, and of what it follows, make of its members. -/
def markRank (m : Mapped) : Check Int := do
  match ← Mapped.optionality k 16 m.type with
  | some true => return 1
  | some false => return -1
  | none => return 0

/-- One mapped type takes the place of another. -/
def mapRelated (m n : Mapped) : Check Verdict := do
  let own ← markRank k m
  let other ← markRank k n
  let isIn := match c.relation with
    | .comparable => true
    | .identity => m.optionalMark = n.optionalMark && m.readonlyMark = n.readonlyMark
    | _ => own ≤ other
  if !isIn then return .no
  let keys ← m.keys k
  reportMarked k (0 ≤ own) keys
  andAlso (compareBoth k c (← n.keys k) keys) <| do
    let s := [(m.parameter, n.parameter)]
    let name? ← (← m.nameType? k).mapM (k.instantiate s)
    if name? ≠ (← n.nameType? k) then return .no
    compareBoth k c (← k.instantiate s (← m.template k)) (← n.template k)

/-- A type is taken for a mapped type whose keys are not known. -/
def mappedTarget (source : TypeId) (m : Mapped) : Check Verdict := do
  if m.optionalMark = "-?" then return .no
  let template ← m.template k
  let isRenamed := m.renamed.isSome
  if !isRenamed then
    match ← shape template with
    | .index o i => if o = source && i = m.parameter then return .yes
    | _ => pure ()
  if (← openMap? k source).isSome then return .no
  let wanted ← match ← m.nameType? k with
    | some name => pure name
    | none => m.keys k
  let own ← writtenKeys k source
  let isPartial := addsOptional m.optionalMark
  let common? ← if isPartial then some <$> intersection k [wanted, own] none else pure none
  let applies ← match common? with
    | some t => pure (!(← isNever t))
    | none => pure ((← compareBoth k c wanted own) ≠ .no)
  if !applies then return .no
  let present ← filterUnion (fun u => return !(← isAbsent u)) template
  match isRenamed, ← shape present with
  | false, .index o i =>
    if i = m.parameter then return ← compareParts k c .target .none source o
  | _, _ => pure ()
  let key ← if isRenamed then pure (common?.getD wanted)
    else match common? with
      | some t => intersection k [t, m.parameter] none
      | none => pure m.parameter
  compareBoth k c (← underKnown k source key none) template

/-! ## Conditions -/

/-- The branches of a condition mention what is checked member by member. -/
def dependsOnMembers (n : Conditional) : Check Bool := do
  match n.distributed with
  | none => return false
  | some p =>
    if (← mentioned k (← k.written n.scope n.yes)).contains p then return true
    return (← mentioned k (← k.written n.scopeOfNo n.no)).contains p

/-- Two conditions are written in one place. -/
def areWrittenAlike (a b : Conditional) : Bool :=
  a.spot = b.spot && a.scope.key a.spot "" = b.scope.key b.spot ""

/-- How deep a condition may give rise to others of its kind. -/
def conditionLimit : Nat := 10

/-- A type is taken for what a condition gives. -/
def conditionalTarget (source target : TypeId) (n : Conditional) (s : Substitution)
    (check bound : TypeId) : Check Verdict := do
  if ← isDeepAmong k conditionLimit (← get).comparing.targets target then return .maybe
  if !n.inferred.isEmpty || (← dependsOnMembers k n) then return .no
  match ← shape source with
  | .conditional own .. => if areWrittenAlike own n then return .no
  | _ => pure ()
  let skipsYes := !(← k.related .assignable (← permissive k check) (← permissive k bound))
  let skipsNo ← if skipsYes then pure false
    else k.related .assignable (← restrictive k check) (← restrictive k bound)
  andAlso
    (if skipsYes then return .yes
      else do compareParts k c .target c.joining source (← branchOf k n s true))
    (if skipsNo then return .yes
      else do compareParts k c .target c.joining source (← branchOf k n s false))

/-- One condition takes the place of another. -/
def conditionsRelated (a : Conditional) (s : Substitution) (check bound : TypeId)
    (b : Conditional) (t : Substitution) (otherCheck otherBound : TypeId) : Check Verdict := do
  let (bound, found) ← if a.inferred.isEmpty then pure (bound, []) else do
    let i ← startInference a.inferred none false
    inferFrom k i (withoutBounds ||| alwaysTurned) otherBound bound
    let found ← guesses k i
    pure (← k.instantiate found bound, found)
  if !(← k.related .identity bound otherBound) then return .no
  let areAlike ← orElse (compareBoth k c check otherCheck) (compareBoth k c otherCheck check)
  if areAlike = .no then return .no
  andAlso
    (do compareBoth k c (← k.instantiate found (← branchOf k a s true)) (← branchOf k b t true))
    (do compareBoth k c (← branchOf k a s false) (← branchOf k b t false))

/-- What a condition gives is taken for another type. -/
def conditionalSource (source target : TypeId) (n : Conditional) (s : Substitution)
    (check bound : TypeId) : Check Verdict := do
  if ← isDeepAmong k conditionLimit (← get).comparing.sources source then return .maybe
  let other ← shape target
  let direct ← match other with
    | .conditional b t otherCheck otherBound =>
      conditionsRelated k c n s check bound b t otherCheck otherBound
    | _ => pure .no
  if direct ≠ .no then return direct
  let given ← eitherBranch k (← inferredBranch k n s check bound) (← branchOf k n s false)
  orElse (compareParts k c .source .none given target) <| do
    if other matches .conditional .. then return .no
    match ← distributedBound? k n s check with
    | some b => compareParts k c .source .none b target
    | none => return .no

/-! ## What bounds a type -/

/-- A type parameter, or what stands under a key, is taken for another type. -/
def variableSource (source target : TypeId) : Check Verdict := do
  let b := (← k.bound source).getD unknownType
  let compare (t : TypeId) : Check Verdict := compareParts k c .source c.joining t target
  orElse (compare b) <| orElse (do compare (← withSelf k b source)) <| do
    match ← shape source with
    | .index object key =>
      match ← mapped? object with
      | some m =>
        if m.optionalMark = "-?" || m.renamed.isSome || (← m.isOpen k) then return .no
        if !(← isGenericKey 16 key) then return .no
        match ← k.bound key with
        | some i => compareParts k c .source .none (← underKnown k object i none) target
        | none => return .no
      | none => return .no
    | _ => return .no

/-- A type is taken for one that depends on type parameters; nothing if that does not settle
    how they compare. -/
def openTarget (source target : TypeId) : Check (Option Verdict) := do
  let settle (v : Verdict) : Option Verdict := if v = .no then none else some v
  match ← shape target with
  | .parameter .. => parameterTarget k c source target
  | .keys of => settle <$> keysTarget k c source of
  | .index object key => settle <$> indexTarget k c source object key
  | .conditional n s check bound =>
    settle <$> conditionalTarget k c source target n s check bound
  | .template texts types =>
    match ← shape source with
    | .template own _ =>
      if c.relation = .comparable then
        return some (.ofBool (areTextsAlike own texts))
      reportMarked k true source
    | _ => pure ()
    return if ← fitsTemplate k 16 source texts types then some .yes else none
  | .changed .. =>
    match ← shape source with
    | .changed .. => return none
    | _ => return if ← isMatched k source target then some .yes else none
  | _ =>
    if c.relation = .identity then return none
    match ← openMap? k target with
    | some m => settle <$> mappedTarget k c source m
    | none => return none
where
  /-- Texts of templates may begin and end alike. -/
  areTextsAlike (a b : List String) : Bool :=
    let start := a.headD ""
    let other := b.headD ""
    let stop := a.getLast?.getD ""
    let otherStop := b.getLast?.getD ""
    (start.startsWith other || other.startsWith start)
      && (stop.endsWith otherStop || otherStop.endsWith stop)

end

end TypeLineage.Typing
