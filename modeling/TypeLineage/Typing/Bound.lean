import TypeLineage.Typing.Instantiation

/-! # What bounds types

    A type that depends on type parameters is bound by another, of which all
    its values are.  What stands under a key may often be told without knowing
    the type parameters; so may some conditions.  What a type amounts to in the
    end is found by following bounds until nothing is open. -/

namespace TypeLineage.Typing

open Source Program

/-- The keys that anything may have. -/
def anyKeys (k : Rules) : Check TypeId := union k [stringType, numberType, symbolType]

/-! ## What stands under keys that are not known -/

/-- A key of the type may lead to a member that need not be there. -/
def mayLeadToOptional (k : Rules) (object key : TypeId) : Check Bool := do
  match ← k.base? key with
  | none => return false
  | some b =>
    (← k.members object).properties.anyM fun p => do
      if !p.isOptional then return false
      match ← keyOfProperty? p with
      | some t => k.related .assignable t b
      | none => return false

/-- What a mapped type makes of a key that is not known yet. -/
def Mapped.substituted (k : Rules) (m : Mapped) (key : TypeId) : Check TypeId := do
  let t ← m.under k key false
  let isOptional ← if addsOptional m.optionalMark then pure true
    else if ← isGeneric k m.type then
      match ← m.followed? k with
      | some u => pure ((← Mapped.optionality k 16 u) = some true)
      | none => pure false
    else mayLeadToOptional k m.type key
  if isOptional then orMissing k t else return t

/-- What a mapped type of known keys makes of a key that is not known yet. -/
def mappedUnder? (k : Rules) (object key : TypeId) : Check (Option TypeId) := do
  match ← mapped? object with
  | none => return none
  | some m =>
    if m.optionalMark = "-?" || m.renamed.isSome then return none
    if (← m.isOpen k) || !(← isGenericKey 16 key) then return none
    some <$> m.substituted k key

/-! ## Simplifying -/

/-- The type is a number, or of numbers. -/
def isOfNumbers (t : TypeId) : Check Bool := return isNumberShape (← shape t)

/-- What elements of an open tuple may be, from a place on. -/
def elementsFrom (k : Rules) (isSet : Bool) (form : TupleForm) (types : List TypeId)
    (start : Nat) : Check (Option TypeId) := do
  let es := (elementsOf form types).drop start
  if es.isEmpty then return none
  let ts ← es.mapM fun e => if e.kind = .variadic then openElement e.type else pure e.type
  if isSet then some <$> intersection k ts none else some <$> union k ts

/-- What stands under a key, simplified. -/
def simplifiedIndex (k : Rules) (isSet : Bool) (t object key : TypeId) : Check TypeId := do
  let o ← k.simplified isSet object
  let i ← k.simplified isSet key
  let at' (o i : TypeId) : Check TypeId := do k.simplified isSet (← underKnown k o i none)
  match ← shape i with
  | .union is _ =>
    let ts ← is.mapM (at' o)
    if isSet then intersection k ts none else union k ts
  | s =>
    let isWaiting := isOpenShape s || s matches .template .. || s matches .changed ..
    let distributed? ← if isWaiting then pure none else do
      match ← shape o with
      | .union os _ =>
        let ts ← os.mapM (at' · i)
        some <$> (if isSet then intersection k ts none else union k ts)
      | .intersection os =>
        if ← areKeysOpen k o then pure none
        else some <$> intersection k (← os.mapM (at' · i)) none
      | _ => pure none
    match distributed? with
    | some u => return u
    | none =>
      match ← tupleForm? k o with
      | some (form, types) =>
        if form.kinds.contains .variadic && (← isOfNumbers i) then
          let start := if i = numberType then 0 else form.fixedLength
          return (← elementsFrom k isSet form types start).getD t
        else return t
      | none =>
        match ← openMap? k o with
        | some m =>
          if ← m.isRenaming k then return t
          else mapUnion k (fun u => some <$> k.simplified isSet u) (← m.substituted k key)
        | none => return t

/-- A condition of which one branch has no values and the other is what is checked. -/
def simplifiedConditional (k : Rules) (isSet : Bool) (t : TypeId) (c : Conditional)
    (s : Substitution) (check bound : TypeId) : Check TypeId := do
  let yes ← branchOf k c s true
  let no ← branchOf k c s false
  let ofAny ← isAny check
  let always : Check Bool := do
    k.related .assignable (← restrictive k check) (← restrictive k bound)
  let never : Check Bool := do isNever (← intersection k [check, bound] none)
  if (← isNever no) && yes = check then
    if ofAny || (← always) then k.simplified isSet yes
    else if ← never then return neverType
    else return t
  else if (← isNever yes) && no = check then
    if !ofAny && (← always) then return neverType
    else if ofAny || (← never) then k.simplified isSet no
    else return t
  else return t

/-- What stands under a key, or a condition, as far as it can be told. -/
def simplifiedType (k : Rules) (isSet : Bool) (t : TypeId) : Check TypeId := do
  match ← shape t with
  | .index object key =>
    match (← get).simplified[(isSet, t)]? with
    | some u => return u
    | none =>
      modify fun s => { s with simplified := s.simplified.insert (isSet, t) t }
      let u ← simplifiedIndex k isSet t object key
      modify fun s => { s with simplified := s.simplified.insert (isSet, t) u }
      return u
  | .conditional c s check bound => simplifiedConditional k isSet t c s check bound
  | _ => return t

/-! ## Bounds -/

/-- What is bound as a type parameter of what a reference leads to. -/
def argumentBound? (k : Rules) (t : TypeId) (scope : Scope) (reference : TypeExpr)
    (place : Nat) : Check (Option TypeId) := do
  match reference with
  | .named path arguments =>
    let es ← typeAt scope path
    let d ← k.declared (es.filter (·.means .type))
    let ps ← match ← shape d with
      | .declared d => pure d.own
      | _ =>
        match es.find? isSynonym with
        | some e => pure (((← get).synonyms[e.key]?).map (·.2)).toList.flatten
        | none => pure []
    match ps[place]? with
    | none => return none
    | some p =>
      match ← k.bound p with
      | none => return none
      | some b =>
        let given ← arguments.mapM (k.written scope)
        let u ← k.instantiate (ps.zip (← fillArguments k ps given)) b
        return if u = t then none else some u
  | _ => return none

/-- What the place tells of the bound of a type parameter that is inferred. -/
def impliedBound? (k : Rules) (t : TypeId) (scope : Scope) (implied : List ImpliedBound) :
    Check (Option TypeId) := do
  let found ← implied.filterMapM fun
    | .list => some <$> listOf k false unknownType
    | .text => return some stringType
    | .key => some <$> anyKeys k
    | .argument reference place => argumentBound? k t scope reference place
  if found.isEmpty then return none else some <$> intersection k found none

/-- What a type parameter is bound by where it comes from. -/
def boundFrom? (k : Rules) (t : TypeId) (source : ParameterSource) : Check (Option TypeId) := do
  match source with
  | .declared p scope =>
    match ← declaredBound? k p scope with
    | some b => return some b
    | none => impliedBound? k t scope (((← get).implied[t]?).getD [])
  | .self owner => return some owner
  | .copy of s => (← k.bound of).mapM (k.instantiate s)
  | .free => return none
  | .marker b => return b

/-- What a type parameter is bound by. -/
def parameterBound? (k : Rules) (t : TypeId) : Check (Option TypeId) := do
  match (← get).bounds[t]? with
  | some b => return b
  | none =>
    let b ← attemptTask (.bound t) none (fun _ => pure none) <| do
      match ← shape t with
      | .parameter _ source => boundFrom? k t source
      | _ => pure none
    modify fun s => { s with bounds := s.bounds.insert t b }
    return b

/-- A type parameter is bound by itself, in however many steps. -/
def isBoundByItself (k : Rules) (t : TypeId) : Nat → TypeId → Check Bool
  | 0, _ => return true
  | n + 1, u => do
    match ← shape u with
    | .parameter .. =>
      match ← parameterBound? k u with
      | some b => if b = t then return true else isBoundByItself k t n b
      | none => return false
    | _ => return false

/-- A type in a simpler form, or what it is bound by. -/
def simplifiedOrBound? (k : Rules) (t : TypeId) : Check (Option TypeId) := do
  let u ← k.simplified false t
  if u ≠ t then return some u else k.bound t

/-- What stands under a key is bound by what stands there in what bounds the object or the key. -/
def indexBound? (k : Rules) (object key : TypeId) : Check (Option TypeId) := do
  match ← mappedUnder? k object key with
  | some t => return some t
  | none =>
    let ofKey ← match ← simplifiedOrBound? k key with
      | some i => if i = key then pure none else under? k .known object i none
      | none => pure none
    match ofKey with
    | some t => return some t
    | none =>
      match ← simplifiedOrBound? k object with
      | some o => if o = object then return none else under? k .known o key none
      | none => return none

/-- What a condition gives at most, given what the checked type parameter is bound by. -/
def distributedBound? (k : Rules) (c : Conditional) (s : Substitution) (check : TypeId) :
    Check (Option TypeId) := do
  match c.distributed with
  | none => return none
  | some p =>
    match ← simplifiedOrBound? k check with
    | none => return none
    | some b =>
      if b = check then return none
      let whole := (p, b) :: s.filter (·.1 ≠ p)
      let arguments := c.outer.map fun q => (whole.lookup q).getD q
      let t ← foundAgain ⟨"bound", c.scope.key c.spot "", arguments, none⟩
        (conditionalWith k true c (c.outer.zip arguments) none)
      if ← isNever t then return none else return some t

/-- What a condition gives at most. -/
def conditionalBound (k : Rules) (c : Conditional) (s : Substitution) (check bound : TypeId) :
    Check TypeId := do
  match ← distributedBound? k c s check with
  | some t => return t
  | none => eitherBranch k (← inferredBranch k c s check bound) (← branchOf k c s false)

/-- What a type that depends on type parameters is bound by. -/
def boundOf (k : Rules) (t : TypeId) : Check (Option TypeId) := do
  match ← shape t with
  | .parameter .. =>
    match ← parameterBound? k t with
    | some b => if ← isBoundByItself k t 64 b then return none else return some b
    | none => return none
  | .index object key => indexBound? k object key
  | .conditional c s check bound => some <$> conditionalBound k c s check bound
  | .keys _ | .template .. | .changed .. | .union .. | .intersection _ | .held _ => k.base? t
  | _ => if ← isOpenTuple t then k.base? t else return none

/-! ## What types amount to -/

/-- What a type amounts to in the end, from its parts. -/
def baseFrom? (k : Rules) (t : TypeId) : Check (Option TypeId) := do
  match ← shape t with
  | .parameter _ source =>
    match ← parameterBound? k t with
    | none => return none
    | some b => if source matches .self _ then return some b else k.base? b
  | .union ts _ =>
    let found ← ts.mapM k.base?
    if found = ts.map some then return some t
    else if found.any (·.isNone) then return none
    else some <$> union k (found.filterMap id)
  | .intersection ts =>
    let found ← ts.mapM k.base?
    if found = ts.map some then return some t
    else match found.filterMap id with
      | [] => return none
      | us => some <$> intersection k us none
  | .keys _ => some <$> anyKeys k
  | .held of => k.base? of
  | .template texts ts =>
    let found ← ts.mapM k.base?
    if found.any (·.isNone) then return some stringType
    else some <$> templateOf k texts (found.filterMap id)
  | .changed word of =>
    match ← k.base? of with
    | some b => if b = of then return some stringType else some <$> changedOf k word b
    | none => return some stringType
  | .index object key =>
    match ← mappedUnder? k object key with
    | some u => k.base? u
    | none =>
      match ← k.base? object, ← k.base? key with
      | some o, some i =>
        match ← under? k .known o i none with
        | some u => k.base? u
        | none => return none
      | _, _ => return none
  | .conditional c s check bound => k.base? (← conditionalBound k c s check bound)
  | _ =>
    match ← tupleForm? k t with
    | some (form, types) =>
      if !form.kinds.contains .variadic then return some t
      let es ← (elementsOf form types).mapM fun e => do
        if e.kind ≠ .variadic || !((← shape e.type) matches .parameter ..) then return e
        let b := (← k.base? e.type).getD e.type
        let isList (u : TypeId) : Check Bool := do
          if ← isOpenTuple u then return false
          else if ← isTuple u then return true
          else isList k u
        return if b ≠ e.type && (← everyMember isList b) then { e with type := b } else e
      some <$> tupleOf k form.isReadonly es
    | none => return some t

/-- The task is to find out what a type amounts to. -/
def baseTask? : Task × Bool → Option TypeId
  | (.base t, _) => some t
  | _ => none

/-- What a type amounts to in the end, if anything is known. -/
def baseOf? (k : Rules) (t : TypeId) : Check (Option TypeId) := do
  match (← get).baseBounds[t]? with
  | some b => return b
  | none =>
    let s ← shape t
    let isOpen := isOpenShape s || match s with
      | .union .. | .intersection _ | .template .. | .changed .. => true
      | _ => false
    let isOpen ← if isOpen then pure true else isOpenTuple t
    if !isOpen then return some t
    let above := (← get).tasks.filterMap baseTask?
    let kindred ← kindredOf t
    let mayGoOn ← if above.length < 10 then pure true
      else if above.length < 50 then
        pure (!(← above.anyM fun u => return (← kindredOf u) = kindred))
      else pure false
    let b ← attemptTask (.base t) none (fun _ => pure none) <| do
      if mayGoOn then baseFrom? k (← k.simplified false t) else pure none
    modify fun s => { s with baseBounds := s.baseBounds.insert t b }
    return b

/-- What a type amounts to in the end; of one of which nothing is known anything may be. -/
def baseBound (k : Rules) (t : TypeId) : Check TypeId := return (← k.base? t).getD unknownType

/-! ## Where members are asked for -/

/-- A mapped type that goes through lists amounts to lists. -/
def apparentMapped (k : Rules) (t : TypeId) (m : Mapped) : Check TypeId := do
  match ← m.source? k with
  | some v =>
    if m.renamed.isSome then return t
    let u := (m.substitution.lookup v).getD v
    let b? ← match ← openMap? k u with
      | some _ => some <$> k.apparent u
      | none => k.base? u
    match b? with
    | some b =>
      let isListLike (u : TypeId) : Check Bool := do
        match ← shape u with
        | .intersection ts => ts.allM (Mapped.isListLike k)
        | _ => Mapped.isListLike k u
      if b ≠ u && (← everyMember isListLike b) then
        k.instantiate (m.with' v b) (← originOf t)
      else return t
    | none => return t
  | none => return t

/-- Parts of a type that holds together, each speaking of the whole as itself. -/
def apparentPart (k : Rules) (self t : TypeId) : Check TypeId := do
  if isObjectShape (← shape t) && !((← shape t) matches .object ..) then withSelf k t self
  else k.apparent t

/-- What a type amounts to where its members are asked for. -/
def apparentType (k : Rules) (t : TypeId) : Check TypeId := do
  let t ← reduced k t
  let s ← shape t
  let isOpen := isOpenShape s || s matches .template .. || s matches .changed ..
  let u ← if isOpen then pure ((← k.base? t).getD unknownType) else pure t
  let named (name : String) : Check TypeId := return (← globalType? k name).getD emptyObjectType
  match ← shape u with
  | .object (.mapped ..) _ =>
    match ← mapped? u with
    | some m => reduced k (← apparentMapped k u m)
    | none => return u
  | .declared _ | .reference .. | .deferred .. => if u ≠ t then withSelf k u t else return u
  | .intersection ts =>
    let parts ← ts.mapM (apparentPart k t)
    if parts = ts then return u else reduced k (← intersection k parts none)
  | .keyword .string | .text _ | .template .. | .changed .. => named "String"
  | .keyword .number | .number _ => named "Number"
  | .enumMember _ _ _ _ (some (.text _)) => named "String"
  | .enumMember .. => named "Number"
  | .truth _ => named "Boolean"
  | .keyword .bigint | .bigNumber .. => named "BigInt"
  | .keyword .symbol | .uniqueSymbol .. => named "Symbol"
  | .keyword .object => return emptyObjectType
  | .keyword .unknown => return if ← strictNull then u else emptyObjectType
  | .union .. => if u = booleanType then named "Boolean" else reduced k u
  | _ => return u

end TypeLineage.Typing
