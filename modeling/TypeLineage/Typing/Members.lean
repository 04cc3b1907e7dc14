import TypeLineage.Typing.Bases

/-! # Members of types

    The members of a type are gathered from its declarations, from what it
    extends, or from the members of the types it is made of.  A member keeps
    what its type follows from, which is looked at when it is asked for. -/

namespace TypeLineage.Typing

open Source Program

/-! ## Names of members -/

/-- The name of a member, if it has one. -/
def nameOfMember? : Member → Option MemberName
  | .method _ n _ _ => some n
  | .field _ _ n _ _ _ => some n
  | .getter _ n _ => some n
  | .setter _ n _ => some n
  | _ => none

/-- The spot of a member. -/
def spotOfMember : Member → Nat
  | .method _ _ _ f => f.spot
  | .field spot _ _ _ _ _ => spot
  | .getter _ _ f => f.spot
  | .setter _ _ f => f.spot
  | .construction _ f => f.spot
  | .call _ f => f.spot
  | _ => 0

/-! ## Gathering -/

/-- What has been gathered. -/
structure Gathered where
  early : List Property
  late : List Property
  calls : List FunctionSite
  constructs : List FunctionSite
  indexers : List (MemberSite × TypeId)
  /-- Members whose names are only known by their types, with these. -/
  computed : List (MemberSite × TypeId)
  deriving Inhabited

/-- The class that keeps a member to itself. -/
def ownerOf (owner : Option Key) (modifiers : List String) : Option Key :=
  if modifiers.contains "private" || modifiers.contains "protected" then owner else none

/-- Classes that derive from the one that keeps a member to itself have it too. -/
def isProtectedBy (modifiers : List String) : Bool :=
  modifiers.contains "protected" && !modifiers.contains "private"

/-- A member as a property. -/
def propertyOfMember (owner : Option Key) (name : String) (style : NameStyle) (site : MemberSite) :
    Property :=
  let modifiers := modifiersOf site.member
  let isHidden := name.startsWith "#"
  let isOptional := match site.member with
    | .method _ _ isOptional _ => isOptional
    | .field _ _ _ isOptional _ _ => isOptional
    | _ => false
  let isMethod := match site.member with
    | .method .. => true
    | _ => false
  let isGetter := match site.member with
    | .getter .. => true
    | _ => false
  let isAccessor := isGetter || match site.member with
    | .setter .. => true
    | _ => false
  { name, style, isOptional, isMethod, isAccessor
    isReadonly := modifiers.contains "readonly" || isGetter
    owner := if isHidden then owner else ownerOf owner modifiers
    holding := .members (site.scope.key (spotOfMember site.member) "member") [site]
    substitution := [], isDerived := false, isProtected := isProtectedBy modifiers, home := owner }

/-- Adds a member to those of its name. -/
def addMember (p : Property) (site : MemberSite) : List Property → List Property
  | [] => [p]
  | q :: rest =>
    if q.name = p.name then
      match q.holding with
      | .members key sites =>
        { q with holding := .members key (sites ++ [site])
                 isReadonly := q.isReadonly && p.isReadonly } :: rest
      | _ => q :: rest
    else q :: addMember p site rest

/-- The fields that a constructor's parameters declare. -/
def parameterFields (owner : Option Key) (f : FunctionSite) : List Property :=
  f.function.parameters.filterMap fun p =>
    match p.pattern.name? with
    | some name =>
      if p.modifiers.isEmpty then none
      else some
        { name, style := .plain, isOptional := p.isOptional
          isReadonly := p.modifiers.contains "readonly", isMethod := false, isAccessor := false
          owner := ownerOf owner p.modifiers, holding := .field p f, substitution := []
          isDerived := false, isProtected := isProtectedBy p.modifiers, home := owner }
    | none => none

/-- A function of a member. -/
def memberFunction (site : MemberSite) (f : Function) (kind : FunctionKind) : FunctionSite :=
  ⟨f, ⟨site.scope, .start⟩, kind, (modifiersOf site.member).contains "static"⟩

/-- Takes in a member. -/
def gatherMember (k : Rules) (owner : Option Key) (g : Gathered) (site : MemberSite) :
    Check Gathered := do
  match site.member with
  | .construction _ f =>
    let s := memberFunction site f .construction
    return { g with constructs := g.constructs ++ [s]
                    early := g.early ++ parameterFields owner s }
  | .call constructs f =>
    let s := memberFunction site f .plain
    return if constructs then { g with constructs := g.constructs ++ [s] }
      else { g with calls := g.calls ++ [s] }
  | .indexer _ _ key _ =>
    let t ← k.written site.scope key
    return { g with indexers := g.indexers ++ [(site, t)] }
  | .start _ => return g
  | m =>
    match nameOfMember? m with
    | none => return g
    | some name =>
      match ← resolveName k site.scope name with
      | none =>
        match name with
        | .computed passage =>
          let e := passage.value
          if (pathOf? e).isNone then return g
          let t ← k.value ⟨site.scope, .start⟩ e .none
          let keys ← unionOf k .none [stringType, numberType, symbolType] none
          if ← k.related .assignable t keys then
            return { g with computed := g.computed ++ [(site, t)] }
          else return g
        | _ => return g
      | some ⟨n, style, key⟩ =>
        let p := { propertyOfMember owner n style site with key }
        return if key.isSome && !g.early.any (·.name = n) then { g with late := addMember p site g.late }
          else { g with early := addMember p site g.early }

/-- What stands under keys of the written kinds. -/
def indexersOf (k : Rules) (site : MemberSite) (key : TypeId) : Check (List Indexer) := do
  match site.member with
  | .indexer modifiers parameter _ type =>
    let t ← match type with
      | some e => k.written site.scope e
      | none => pure anyType
    let isReadonly := modifiers.contains "readonly"
    return (← membersOf key).map fun u => ⟨u, t, isReadonly, parameter⟩
  | _ => return []

/-- What stands under the keys of the members whose names are only known by their types: all that
    may have such a key. -/
def computedIndexers (k : Rules) (g : Gathered) (written : List Indexer) :
    Check (List Indexer) := do
  let isOf (kind t : TypeId) : Check Bool := k.related .assignable t kind
  let computed := g.computed.filter fun (_, t) => !written.any (·.key = t)
  let kinds ← computed.mapM fun (site, t) => do
    let kind ← if ← isOf numberType t then pure numberType
      else if ← isOf symbolType t then pure symbolType
      else pure stringType
    return (kind, (modifiersOf site.member).contains "readonly")
  let own := computed.map fun (site, t) => (propertyOfMember none "" .plain site, some t)
  let all := own ++ (g.early ++ g.late).map fun p => (p, none)
  let fits (kind : TypeId) (p : Property × Option TypeId) : Check Bool := do
    match p.2 with
    | some t =>
      if kind = stringType then return !(← isOf symbolType t) else isOf kind t
    | none =>
      let isSymbol := p.1.name.startsWith "__@"
      return if kind = symbolType then isSymbol
        else if kind = numberType then isNumberText p.1.name
        else !isSymbol
  [stringType, numberType, symbolType].filterMapM fun kind => do
    let ofKind := kinds.filter (·.1 = kind)
    if ofKind.isEmpty || written.any (·.key = kind) then return none
    let types ← (← all.filterM (fits kind)).mapM fun p => k.property p.1
    let t ← if types.isEmpty then pure undefinedType else unionOf k .subtype types none
    return some ⟨kind, t, ofKind.all (·.2), "x"⟩

/-- Members from what was gathered. -/
def Gathered.members (k : Rules) (g : Gathered) : Check Members := do
  let calls ← (announced g.calls).mapM fun s => signatureOf s
  let constructs ← (announced g.constructs).mapM fun s => do
    return { ← signatureOf s with constructs := true }
  let indexers ← g.indexers.flatMapM fun (site, key) => indexersOf k site key
  let computed ← if g.computed.isEmpty then pure [] else computedIndexers k g indexers
  return ⟨g.early ++ g.late, calls, constructs, indexers ++ computed⟩

/-- Members gathered from places. -/
def gather (k : Rules) (owner : Option Key) (sites : List MemberSite) : Check Gathered :=
  sites.foldlM (gatherMember k owner) ⟨[], [], [], [], [], []⟩

/-! ## Replacing in members -/

/-- A property with what its type mentions replaced. -/
def replaceProperty (k : Rules) (s : Substitution) (p : Property) : Check Property := do
  return { p with substitution := ← compose k p.substitution s }

/-- Members with what they mention replaced. -/
def replaceMembers (k : Rules) (s : Substitution) (m : Members) : Check Members := do
  if s.isEmpty then return m
  let properties ← m.properties.mapM (replaceProperty k s)
  let calls ← m.calls.mapM (Signature.instantiate k s)
  let constructs ← m.constructs.mapM (Signature.instantiate k s)
  let indexers ← m.indexers.mapM fun i => return { i with type := ← k.instantiate s i.type }
  return ⟨properties, calls, constructs, indexers⟩

/-! ## Declared types -/

/-- The places of the members of a class or an interface that belong to its objects, or to the
    class itself. -/
def memberSites (isStatic : Bool) (es : List Entity) : List MemberSite :=
  (typeParts es).flatMap fun (d, scope) =>
    (d.members.filter fun m =>
      match m with
      | .construction .. => !isStatic || !d.isClass
      | .start _ => false
      | m => ((modifiersOf m).contains "static") = isStatic).map
      (⟨·, inside d scope (if isStatic then .whole else .objects)⟩)

/-- The members that the declarations of a type give. -/
def declaredMembers (k : Rules) (d : Declared) : Check Members := do
  let g ← gather k (some d.key) (memberSites false d.entities)
  let isClass := d.isClass
  let m ← g.members k
  return if isClass then { m with constructs := [] } else m

/-- Members that are added unless a member of that name is there. -/
def inherit (own base : Members) : Members :=
  { properties := own.properties ++ base.properties.filter fun p =>
      !own.properties.any (·.name = p.name)
    calls := own.calls ++ base.calls
    constructs := own.constructs ++ base.constructs
    indexers := own.indexers ++ base.indexers.filter fun i =>
      !own.indexers.any (·.key = i.key) }

/-- Keeps the members of a type. -/
def keepMembers (t : TypeId) (m : Members) : Check Unit :=
  modify fun s => { s with members := s.members.insert t m }

/-- The members of a declared type with type arguments. -/
def referenceMembers (k : Rules) (t target : TypeId) (d : Declared) (arguments : List TypeId) :
    Check Members := do
  let parameters := d.parameters ++ [d.self]
  let whole := if arguments.length = parameters.length then arguments else arguments ++ [t]
  let self := whole.getLast?.getD t
  let s := parameters.zip whole
  let own ← replaceMembers k s (← declaredMembers k d)
  keepMembers t own
  let bases ← k.bases target
  bases.foldlM (fun m b => do
    let base ← withSelf k (← k.instantiate s b) self
    let found ← if base = anyType then
        pure ⟨[], [], [], [⟨stringType, anyType, false, "x"⟩]⟩
      else k.members base
    return inherit m found) own

/-! ## Lists -/

/-- A member of a known type. -/
def knownProperty (name : String) (isReadonly : Bool) (t : TypeId) : Property :=
  { askedProperty name .plain false t with isReadonly, isDerived := false }

/-- The members of a tuple: those of lists, its elements and its length. -/
def tupleMembers (k : Rules) (form : TupleForm) (types : List TypeId) : Check Members := do
  let e ← tupleElement k form types
  let base ← k.members (← listOf k form.isReadonly e)
  let elements := ((elementsOf form types).take form.fixedLength).mapIdx fun i e =>
    { knownProperty (toString i) form.isReadonly e.type with isOptional := e.kind = .optional }
  let length ← union k (← lengthsOf form)
  let own : Members :=
    ⟨elements ++ [knownProperty "length" form.isReadonly length], [], [], []⟩
  return inherit own base

/-! ## Unions and intersections -/

/-- The members that all types of a union have. -/
def sharedMembers (k : Rules) (types : List TypeId) : Check (List Property) := do
  match types with
  | [] => return []
  | first :: others =>
    let m ← k.members (← k.apparent first)
    m.properties.filterMapM fun p => do
      let found ← others.mapM (propertyOf? k · p.name)
      if found.any (·.isNone) then return none
      let all := p :: found.filterMap id
      return some
        { p with
          isOptional := all.any (·.isOptional)
          isReadonly := all.any (·.isReadonly)
          isMethod := all.all (·.isMethod)
          isAccessor := false
          owner := if all.any (·.owner.isSome) then p.owner else none
          holding := .shared true types p.name
          substitution := [] }

/-- A call of all members of a union at once, if each can be called in one way. -/
def sharedCalls (k : Rules) (lists : List (List Signature)) : Check (List Signature) := do
  let firsts := lists.filterMap List.head?
  if firsts.length ≠ lists.length then return []
  match firsts with
  | [] => return []
  | first :: others =>
    if others.isEmpty then return lists.headD []
    if firsts.any (!·.typeParameters.isEmpty) && lists.any (·.length > 1) then return []
    let count := (← firsts.mapM (Signature.positions k)).foldl max 0
    let longest := firsts.foldl (fun a b => if b.arguments.length > a.arguments.length then b else a)
      first
    let least := (← firsts.mapM (Signature.leastPositions k)).foldl max 0
    let arguments ← (List.range count).mapM fun i => do
      let types ← firsts.filterMapM (Signature.typeAt? k · i)
      let t ← intersection k types none
      return Argument.ofType (← longest.nameAt k i) t (least ≤ i) false
    return [{ site := none, typeParameters := first.typeParameters, self := none, arguments
              known := none, parts := firsts, substitution := [], least, hasRest := false
              constructs := false, isAbstract := false }]

/-- The members of a union. -/
def unionMembers (k : Rules) (types : List TypeId) : Check Members := do
  let properties ← sharedMembers k types
  let all ← types.mapM fun t => do k.members (← k.apparent t)
  let calls ← sharedCalls k (all.map (·.calls))
  let constructs ← sharedCalls k (all.map (·.constructs))
  let indexers ← match all with
    | [] => pure []
    | first :: others => first.indexers.filterMapM fun i => do
      let found := others.filterMap fun m => m.indexers.find? (·.key = i.key)
      if found.length ≠ others.length then return none
      else return some { i with
        type := ← union k (i.type :: found.map (·.type))
        isReadonly := i.isReadonly || found.any (·.isReadonly) }
  return ⟨properties, calls, constructs.map fun s => { s with constructs := true }, indexers⟩

/-- The constructions take in anything, so that what they give is added to what others
    construct. -/
def areAdded (k : Rules) (constructs : List Signature) : Check Bool := do
  match constructs with
  | [sig] =>
    match sig.typeParameters, sig.arguments with
    | [], [a] =>
      if !a.isRest then return false
      let t ← k.argument a
      if ← isAny t then return true
      match ← listForm? k t with
      | some l => return l.element = anyType
      | none => return false
    | _, _ => return false
  | _ => return false

/-- The constructions of types that hold together, given those of each.  One that adds to what
    others construct counts for itself only where there is no other. -/
def joinedConstructs (k : Rules) (lists : List (List Signature)) : Check (List Signature) := do
  let flags ← lists.mapM (areAdded k)
  let flags := if flags.contains true
      && (flags.filter id).length = (lists.filter fun l => !l.isEmpty).length then
    flags.set (flags.idxOf true) false else flags
  if !flags.contains true then return lists.flatten
  let found ← (lists.zip flags).mapIdxM fun i (sigs, isAdded) => do
    if isAdded then return []
    sigs.mapM fun sig => do
      let parts ← (lists.zip flags).mapIdxM fun j (others, isAdded) => do
        if j = i then return some (← k.result sig)
        else if isAdded then others.head?.mapM k.result
        else return none
      return { sig with known := some (← intersection k (parts.filterMap id) none) }
  return found.flatten

/-- The members of types that hold together. -/
def joinedMembers (k : Rules) (types : List TypeId) : Check Members := do
  let all ← types.mapM fun t => do k.members (← k.apparent t)
  let properties := all.foldl (fun (found : List Property) m =>
    m.properties.foldl (fun found p =>
      if found.any (·.name = p.name) then
        found.map fun q => if q.name = p.name then
          { q with
            isOptional := q.isOptional && p.isOptional
            isReadonly := q.isReadonly && p.isReadonly
            holding := .shared false types p.name
            substitution := [] } else q
      else found ++ [p]) found) []
  let indexers ← all.foldlM (fun (found : List Indexer) m =>
    m.indexers.foldlM (fun found i => do
      if found.any (·.key = i.key) then
        found.mapM fun j => do
          if j.key = i.key then
            return { j with
              type := ← intersection k [j.type, i.type] none
              isReadonly := j.isReadonly && i.isReadonly }
          else return j
      else return found ++ [i]) found) []
  return ⟨properties, all.flatMap (·.calls), ← joinedConstructs k (all.map (·.constructs)), indexers⟩

/-! ## Objects -/

/-- The constructions of a class: its own, or those of what it extends. -/
def classConstructs (k : Rules) (es : List Entity) : Check (List Signature) := do
  let t ← k.declared es
  match ← shape t with
  | .declared d =>
    match classPart? es with
    | none => return []
    | some (c, scope) =>
      let written := (c.members.filterMap fun
        | .construction ms f => some (memberFunction ⟨.construction ms f, inside c scope .objects⟩ f
            .construction)
        | _ => none)
      let settle (sig : Signature) : Signature :=
        { sig with
          typeParameters := d.own, known := some t, constructs := true, isAbstract := c.isAbstract }
      if !written.isEmpty then
        (announced written).mapM fun s => return settle (← signatureOf s)
      else
        let plain := settle
          { site := none, typeParameters := [], self := none, arguments := [], known := none
            parts := [], substitution := [], least := 0, hasRest := false, constructs := true
            isAbstract := false }
        match ← baseValue k t d, extendedEntry? c with
        | some value, some entry =>
          if ← isAny value then
            return [{ plain with
              arguments := [Argument.ofType "args" (← listOf k false anyType) false true]
              hasRest := true }]
          let arguments ← entry.typeArguments.mapM (k.written (inside c scope .heading))
          let found ← appliedConstructs k value arguments
          return if found.isEmpty then [plain] else found.map settle
        | _, _ => return [plain]
  | _ => return []

/-- The members of a class as a value. -/
def staticMembers (k : Rules) (es : List Entity) : Check Members := do
  let t ← k.declared es
  let g ← gather k (es.head?.map Entity.key) (memberSites true es)
  let own ← g.members k
  let constructs ← classConstructs k es
  let prototype ← match ← shape t with
    | .declared d =>
      if d.parameters.isEmpty then pure t else reference t (d.parameters.map fun _ => anyType)
    | _ => pure t
  let mine : Members :=
    ⟨knownProperty "prototype" false prototype :: own.properties, [], constructs, own.indexers⟩
  match ← shape t with
  | .declared d =>
    match ← baseValue k t d with
    | some value =>
      let s ← shape value
      let hasMembers := isObjectShape s || match s with
        | .intersection _ | .parameter .. | .index .. => true
        | _ => false
      if (← isAny value) || !hasMembers then return mine
      let base ← k.members (← k.apparent value)
      return inherit mine { base with calls := [], constructs := [] }
    | none => return mine
  | _ => return mine

/-- A name stands for what is found under any key of a kind. -/
def isKind (t : TypeId) : Nat → TypeId → Check Bool
  | 0, _ => return false
  | n + 1, u => do
    match ← shape u with
    | .keyword .string | .keyword .number | .keyword .symbol => return true
    | .intersection us => us.anyM (isKind t n)
    | _ => isPattern 16 u

/-- The kind of keys that a name of a mapped type stands for. -/
def kindOfName? (k : Rules) (name : TypeId) : Check (Option TypeId) := do
  match ← shape name with
  | .keyword .any => return some stringType
  | .enumMember _ _ _ _ none => return some numberType
  | _ =>
    if ← isGeneric k name then return none
    return if ← isKind name 8 name then some name else none

/-- What is gathered of a mapped type. -/
structure MappedMembers where
  properties : List Property
  indexers : List Indexer

/-- A member that a mapped type makes of a key under a name. -/
def mappedProperty (k : Rules) (m : Mapped) (marks : TypeId) (isRenaming : Bool)
    (key name : TypeId) (text : String) : Check Property := do
  let base ← match ← nameOfKey? key with
    | some n => propertyOf? k marks n
    | none => pure none
  let wasOptional := base.any (·.isOptional)
  let isOptional := addsOptional m.optionalMark || (wasOptional && m.optionalMark ≠ "-?")
  let own : NameStyle := match ← shape name with
    | .number _ => .number
    | _ => .plain
  return {
    name := text
    style := if isRenaming then own else (base.map (·.style)).getD own
    isOptional, isReadonly := changedMark m.readonlyMark (base.any (·.isReadonly))
    isMethod := false, isAccessor := false, owner := none
    holding := .mapped m.type key (wasOptional && !isOptional)
    substitution := [], isDerived := base.isNone || isRenaming, key := some name }

/-- Adds what a mapped type makes of a key under a name. -/
def MappedMembers.add (k : Rules) (m : Mapped) (marks : TypeId) (isRenaming : Bool)
    (key : TypeId) (found : MappedMembers) (name : TypeId) : Check MappedMembers := do
  match ← nameOfKey? name with
  | some text =>
    if found.properties.any (·.name = text) then
      let properties ← found.properties.mapM fun p => do
        match p.holding with
        | .mapped t other strips =>
          if p.name ≠ text then return p
          return { p with
            holding := .mapped t (← union k [other, key]) strips
            key := ← p.key.mapM fun n => union k [n, name] }
        | _ => return p
      return { found with properties }
    else
      let p ← mappedProperty k m marks isRenaming key name text
      return { found with properties := found.properties ++ [p] }
  | none =>
    match ← kindOfName? k name with
    | none => return found
    | some kind =>
      let t ← m.under k key false
      let base ← indexerFor? k marks name
      let isReadonly := changedMark m.readonlyMark (base.any (·.isReadonly))
      if found.indexers.any (·.key = kind) then
        let indexers ← found.indexers.mapM fun i => do
          if i.key ≠ kind then return i
          return { i with type := ← union k [i.type, t], isReadonly := i.isReadonly || isReadonly }
        return { found with indexers }
      else return { found with indexers := found.indexers ++ [⟨kind, t, isReadonly, "x"⟩] }

/-- The members of a mapped type. -/
def mappedMembers (k : Rules) (m : Mapped) : Check Members := do
  keepMembers m.type .none
  let marks ← k.apparent ((← m.followed? k).getD unknownType)
  let isRenaming ← m.isRenaming k
  let found ← (← keysGoneThrough k m).foldlM (fun (found : MappedMembers) key => do
    (← membersOf (← m.named k key)).foldlM (MappedMembers.add k m marks isRenaming key) found) ⟨[], []⟩
  return ⟨found.properties, [], [], found.indexers⟩

/-- The members that namespaces and files give to the outside, and those that are added to
    them. -/
def exportedMembers (t : TypeId) (es added : List Entity) : Check (List Property) := do
  let w ← read
  let names := w.namesGiven w.reach [] es ++ added.map Entity.name
  names.eraseDups.filterMapM (exportedProperty? t)

/-- The members of an object before type parameters are replaced. -/
def sourceMembers (k : Rules) (t : TypeId) (source : ObjectSource) (s : Substitution) :
    Check Members := do
  match source with
  | .literal _ ms scope =>
    let g ← gather k none (ms.map (⟨·, scope.enter (.object none)⟩))
    replaceMembers k s (← g.members k)
  | .signature f constructs isAbstract scope =>
    let sig ← typeSignature f scope constructs isAbstract
    replaceMembers k s
      (if constructs then ⟨[], [], [sig], []⟩ else ⟨[], [sig], [], []⟩)
  | .functions sites _ =>
    let sigs ← (announced sites).mapM signatureOf
    replaceMembers k s ⟨[], sigs, [], []⟩
  | .statics es => replaceMembers k s (← staticMembers k es)
  | .enumeration es =>
    let names := (enumParts es).filterMap (·.1.name.known?)
    let properties := names.map fun n =>
      { knownProperty n true anyType with holding := .entities [.enumMember n es] }
    let hasNumbers ← (← membersOf (← k.declared es)).anyM fun t => do
      match ← shape t with
      | .enumMember _ _ _ _ (some (.text _)) => return false
      | _ => return true
    return ⟨properties, [], [], if hasNumbers then [⟨numberType, stringType, true, "x"⟩] else []⟩
  | .extended sites es added =>
    let sigs ← (announced sites).mapM signatureOf
    replaceMembers k s ⟨← exportedMembers t es added, sigs, [], []⟩
  | .space es => return ⟨← exportedMembers t es [], [], [], []⟩
  | .mapped .. =>
    match ← mapped? t with
    | some m => mappedMembers k m
    | none => return .none
  | .made m _ _ => replaceMembers k s m

/-! ## Types -/

/-- The members of a type, found out. -/
def findMembers (k : Rules) (t : TypeId) : Check Members := do
  match ← shape t with
  | .declared d => referenceMembers k t t d d.parameters
  | .tuple form ps => tupleMembers k form ps
  | .reference target arguments =>
    match ← shape target with
    | .declared d => referenceMembers k t target d arguments
    | .tuple form _ => tupleMembers k form arguments
    | _ => return .none
  | .deferred target _ _ _ =>
    let arguments ← k.arguments t
    match ← shape target with
    | .declared d => referenceMembers k t target d arguments
    | .tuple form _ => tupleMembers k form arguments
    | _ => return .none
  | .object source s => sourceMembers k t source s
  | .union ts _ => unionMembers k ts
  | .intersection ts => joinedMembers k ts
  | _ => return .none

/-- The members of a type. -/
def membersOfType (k : Rules) (t : TypeId) : Check Members := do
  match (← get).members[t]? with
  | some m => return m
  | none =>
    let m ← findMembers k t
    keepMembers t m
    return m

/-! ## Types of members -/

/-- The type of a field. -/
def fieldType (k : Rules) (site : MemberSite) : Check TypeId := do
  match site.member with
  | .field spot modifiers name isOptional type initial =>
    let isReadonly := modifiers.contains "readonly"
    match type, initial with
    | some (.operator "unique" _), _ =>
      let key := site.scope.key spot "symbol"
      let own := match site.scope.frames, name.known? with
        | .type d _ :: _, some n =>
          if d.name = some "SymbolConstructor" then "Symbol." ++ n
          else (d.name.map (· ++ "." ++ n)).getD n
        | _, some n => n
        | _, none => ""
      foundAgain ⟨"symbol", key, [], none⟩ (makeShape (.uniqueSymbol key own))
    | some e, _ =>
      let t ← k.written site.scope e
      if isOptional then orMissing k t else return t
    | none, some p =>
      let t ← k.value ⟨site.scope, .start⟩ p.value .none
      keepWritten site.scope p.value t
      let t ← if isReadonly then pure t else widenValues k t
      let t ← widen k t
      if isOptional then orMissing k t else return t
    | none, none =>
      match site.scope.frames, name.known? with
      | .type d part :: _, some n =>
        if d.isClass && (part = .objects || site.scope.file.isScript) then
          match ← k.constructed d site.scope n with
          | some t => if isOptional then orMissing k t else return t
          | none => return anyType
        else return anyType
      | _, _ => return anyType
  | _ => return anyType

/-- The type of what is got and set under one name. -/
def accessorType (k : Rules) (sites : List MemberSite) : Check TypeId := do
  let getter := sites.findSome? fun s => match s.member with
    | .getter _ _ f => some (memberFunction s f .getter)
    | _ => none
  let setter := sites.findSome? fun s => match s.member with
    | .setter _ _ f => some (memberFunction s f .setter)
    | _ => none
  let ofGetter ← match getter with
    | some g => writtenResult k g
    | none => pure none
  let ofSetter ← match ofGetter, setter with
    | none, some s =>
      match s.function.parameters.head?.bind (·.type) with
      | some e => pure (some (← k.written s.scope e))
      | none => pure none
    | _, _ => pure none
  match ofGetter, ofSetter, getter with
  | some t, _, _ => return t
  | none, some t, _ => return t
  | none, none, some g =>
    match g.function.body with
    | .none => return anyType
    | _ => k.result (← signatureOf g)
  | none, none, none => return anyType

/-- The type of members of one name. -/
def typeOfSites (k : Rules) (key : Key) (sites : List MemberSite) : Check TypeId := do
  match sites with
  | [] => return anyType
  | first :: _ =>
    match first.member with
    | .method _ _ isOptional _ =>
      let functions := sites.filterMap fun s => match s.member with
        | .method _ _ _ f => some (memberFunction s f .method)
        | _ => none
      let t ← foundAgain ⟨"functions", key, [], none⟩
        (makeShape (.object (.functions functions true) []))
      if isOptional then orMissing k t else return t
    | .field .. => attemptTask (.value key) anyType (fun _ => pure anyType) (fieldType k first)
    | _ => attemptTask (.value key) anyType (fun _ => pure anyType) (accessorType k sites)

/-- The type of a member before type parameters are replaced. -/
def heldType (k : Rules) (p : Property) : Check TypeId := do
  match p.holding with
  | .known t => return t
  | .members key sites =>
    match (← get).values[key]? with
    | some t => return t
    | none =>
      let t ← typeOfSites k key sites
      match (← get).values[key]? with
      | some t => return t
      | none =>
        if (← get).tasks.any (fun (task, _) => task == Task.value key) then return t
        modify fun s => { s with values := s.values.insert key t }
        return t
  | .field q f => typeOfParameter k f q
  | .entities es => k.entity es
  | .shared isUnion types name =>
    let found ← types.filterMapM fun t => do
      match ← propertyOf? k t name with
      | some q => return some (← k.property q)
      | none => return none
    if isUnion then union k found else intersection k found none
  | .mapped t key strips =>
    match ← mapped? t with
    | some m =>
      let own ← m.under k key strips
      let isAbsent ← someMember (fun u => do return (← isUndefined u) || u = voidType) own
      if p.isOptional && !isAbsent then orMissing k own else return own
    | none => return anyType
  | .reversed t mapped keys => return (← undone? k t mapped keys).getD unknownType

/-- The type of a member. -/
def typeOfProperty (k : Rules) (p : Property) : Check TypeId := do
  k.instantiate p.substitution (← heldType k p)

end TypeLineage.Typing
