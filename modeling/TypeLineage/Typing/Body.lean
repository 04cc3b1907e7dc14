import TypeLineage.Typing.Value

/-! # What functions do

    A function without a written result gives any of what it returns, widened,
    and undefined if its end may be reached beside them.  One that waits gives a
    promise of that, one that yields a generator.  A function that returns one
    test may tell about an argument.  What constructing an object leaves in a
    field tells the field's type. -/

namespace TypeLineage.Typing

open Source Program

section

variable (k : Rules)

/-! ## What is returned -/

/-- The value behind parentheses. -/
def bare : Expr → Expr
  | .group e => bare e
  | e => e

/-- The value is a function at a spot. -/
def isFunctionAt (spot : Nat) : Expr → Bool
  | .function f => f.spot = spot
  | .group e => isFunctionAt spot e
  | _ => false

/-- The value calls the function itself by its name. -/
def callsItself (site : FunctionSite) (env : Env) : Expr → Check Bool
  | .call _ (.name text) _ _ _ => do
    let es ← valueEntities env.scope text
    return es.any fun
      | .function f scope =>
        scope.file.index = site.env.scope.file.index
          && (f.spot = site.function.spot || f.name = site.function.name && f.name.isSome
            && site.kind = .plain)
      | .variable v scope =>
        scope.file.index = site.env.scope.file.index && v.binding = .constant
          && v.written.initial.any (isFunctionAt site.function.spot)
      | _ => false
  | _ => return false

/-- What is expected of what a function returns. -/
def expectedResult (site : FunctionSite) : Check Expectation := do
  match (← get).expected[site.key]? with
  | none => return .none
  | some (t, i) =>
    let t ← if site.function.isGenerator then pure none
      else if site.function.isAsync then do
        let inner ← mapPlainly? k (fun u => some <$> awaitedParts k 16 u) t
        expectedAwaited? k inner
      else pure (some t)
    return { Expectation.of t with inference := i }

/-- The type of what is returned. -/
def returnedType (site : FunctionSite) (env : Env) (e : Expr) (x : Expectation) :
    Check TypeId := do
  let t ← outsideLoops (k.value env e x)
  if site.function.isAsync then unawaited k (← awaited k t) else return t

/-- The function may be taken never to come back if it returns nothing. -/
def mayNeverReturn (site : FunctionSite) : Bool :=
  site.kind = .value || site.kind = .objectMethod

/-- The types of what a function returns, given whether its end is reached; nothing if it never
    comes back. -/
def returnedTypes? (site : FunctionSite) (results : List (Option Expr × Env)) (reachesEnd : Bool) :
    Check (Option (List TypeId)) := do
  let x ← expectedResult k site
  let mut types : List TypeId := []
  let mut isBare := reachesEnd
  let mut isNever' := false
  for (value, env) in results do
    match value with
    | none => isBare := true
    | some whole =>
      let e := match bare whole with
        | .awaited inner => if site.function.isAsync then bare inner else .awaited inner
        | e => e
      if ← callsItself site env e then isNever' := true
      else
        let t ← returnedType k site env e x
        keepWritten env.scope (if site.function.body matches .value _ then whole else e) t
        if ← isNever t then isNever' := true
        if !types.contains t then types := types ++ [t]
  if types.isEmpty && !isBare && (isNever' || mayNeverReturn site) then return none
  if (← strictNull) && !types.isEmpty && isBare && !types.contains undefinedType then
    types := types ++ [undefinedType]
  return some types

/-- A single value gives way unless it is expected. -/
def settledResult (site : FunctionSite) (t : TypeId) : Check TypeId := do
  if !(← isUnit t) then return t
  let isPlain := !site.function.isGenerator && !site.function.isAsync
  if isPlain && (← get).alone.contains site.key then return ← regular k t
  let expected ← match (← get).expected[site.key]? with
    | some (e, i) =>
      let e ← if site.function.isGenerator then pure none
        else if site.function.isAsync then promised? k e else pure (some e)
      match e with
      | some e => expectedType? k { Expectation.of (some e) with inference := i }
      | none => pure none
    | none => pure none
  settleValues k t expected

/-! ## What is yielded -/

/-- The type of something yielded. -/
def yieldedType (isAsync : Bool) (y : Yielded) (env : Env) : Check TypeId := do
  let t ← match y.value with
    | some e => outsideLoops (k.value env e .none)
    | none => absentValue
  let item ← if y.delegates then itemOf k isAsync t else pure t
  if isAsync then awaited k item else return item

/-- The type that is handed back where something is yielded, as far as it is told. -/
def handedBack? (isAsync : Bool) (y : Yielded) (env : Env) : Check (Option TypeId) := do
  if y.delegates then
    match y.value with
    | some e =>
      let t ← outsideLoops (k.value env e .none)
      return (← passingOf? k isAsync t).map (·.next)
    | none => return none
  else match y.uptake with
    | .nothing => return none
    | .written e => some <$> k.written env.scope e
    | .pattern p => some <$> impliedType k env p
    | .target e => outsideLoops (targetType? k env e)
    | .argument call place =>
      match ← outsideLoops (resolvedCall? k env call) with
      | some sig => sig.typeAt? k place
      | none => return none

/-! ## Bodies -/

/-- What a function gives that comes back with types, or with nothing. -/
def resultOfTypes (site : FunctionSite) (types : List TypeId) : Check TypeId := do
  if types.isEmpty then
    let expected ← match (← get).expected[site.key]? with
      | some (t, _) =>
        if site.function.isAsync then pure ((← promised? k t).getD voidType) else pure t
      | none => pure voidType
    return if expected = undefinedType then undefinedType else voidType
  else
    let t ← unionOf k .subtype types none
    widen k (← settledResult k site t)

/-- What the body of a generator gives. -/
def generatorType (site : FunctionSite) (exits : Exits) (types? : Option (List TypeId)) :
    Check TypeId := do
  let isAsync := site.function.isAsync
  let result ← match types? with
    | none => pure neverType
    | some [] => pure voidType
    | some types => widen k (← settledResult k site (← unionOf k .subtype types none))
  let yielded ← exits.yielded.mapM fun (y, env) => yieldedType k isAsync y env
  let next ← exits.yielded.filterMapM fun (y, env) => handedBack? k isAsync y env
  let next ← if next.isEmpty then pure unknownType else intersection k next.eraseDups none
  let item ← if yielded.isEmpty then pure neverType
    else widen k (← settledResult k site (← unionOf k .subtype yielded.eraseDups none))
  generatorOf k isAsync item result next

/-- What the body of a function gives. -/
def bodyType (site : FunctionSite) : Check TypeId := do
  let isAsync := site.function.isAsync
  match site.function.body with
  | .none => return anyType
  | .value passage =>
    let x ← expectedResult k site
    let t ← returnedType k site ⟨site.scope, site.entry⟩ passage.value x
    let t ← widen k (← settledResult k site t)
    if isAsync then promiseOf k t else return t
  | .block passage =>
    let (last, exits) := site.walk passage.block
    keepPlaces exits.places
    let reachesEnd ← outsideLoops (reaches k true last)
    let types? ← returnedTypes? k site exits.results reachesEnd
    if site.function.isGenerator then generatorType k site exits types?
    else
      let t ← match types? with
        | none => pure neverType
        | some types => resultOfTypes k site types
      if isAsync then promiseOf k t else return t

/-! ## Claims -/

/-- The one value that a function returns, if it always returns it. -/
def onlyResult? (site : FunctionSite) : Check (Option (Expr × Env)) := do
  match site.function.body with
  | .none => return none
  | .value passage => return some (passage.value, ⟨site.scope, site.entry⟩)
  | .block passage =>
    let (last, exits) := site.walk passage.block
    match exits.results with
    | [(some e, env)] =>
      keepPlaces exits.places
      if ← outsideLoops (reaches k true last) then return none else return some (e, env)
    | _ => return none

/-- What a test tells about a parameter where it holds, if it tells all. -/
def claimOn? (site : FunctionSite) (e : Expr) (env : Env) (p : Parameter) :
    Check (Option TypeId) := do
  match p.pattern with
  | .name spot text =>
    let t ← typeOfParameter k site p
    if t = booleanType then return none
    if p.isRest || bodyAssigns text site.function.body then return none
    let r : Reference := ⟨.name (site.scope.key spot text) text, []⟩
    let branch (holds : Bool) (initial : TypeId) : Check TypeId :=
      referenceType k ⟨r, t, initial, true, true⟩ (.test e holds env.scope env.flow env.flow)
    let own ← branch true t
    if own = t then return none
    let other ← found k ⟨r, t, own, true, true⟩ (.test e false env.scope env.flow env.flow)
    match other with
    | .type u => if ← isNever u then return some own else return none
    | _ => return none
  | _ => return none

/-- What the body of a function tells about an argument where it gives true, found out. -/
def findClaim (site : FunctionSite) : Check (Option Claim) := do
  let isPlain := site.kind ≠ .construction && site.kind ≠ .getter && site.kind ≠ .setter
  if !isPlain || site.function.isAsync || site.function.isGenerator then return none
  match ← onlyResult? k site with
  | none => return none
  | some (e, env) =>
    let t ← outsideLoops (k.value env (bare e) .none)
    if t ≠ booleanType then return none
    for (p, i) in (ownArguments site.function).zipIdx do
      match ← claimOn? k site (bare e) env p with
      | some u => return some ⟨false, p.pattern.name?.getD "", some i, some u⟩
      | none => pure ()
    return none

/-- What the body of a function tells about an argument where it gives true. -/
def claimOf (site : FunctionSite) : Check (Option Claim) := do
  let s ← get
  match s.claims[site.key]?, s.results[site.key]? with
  | some c, _ => return c
  | none, result =>
    if result.any (· ≠ booleanType) then return none
    let keep (c : Option Claim) : Check Unit :=
      modify fun s => { s with claims := s.claims.insert site.key c }
    keep none
    let c ← findClaim k site
    keep c
    return c

/-! ## Construction -/

/-- What the functions of a class of a script leave in a field of its objects, or of the class
    itself; the flags tell of those that construct objects. -/
def leftIn (d : TypeDeclaration) (scope : Scope) (isStatic : Bool) (name : String) :
    List (Bool × Expr × Env) :=
  d.members.flatMap fun m =>
    let found (kind : FunctionKind) (f : Function) : List (Bool × Expr × Env) :=
      match f.body with
      | .block passage =>
        let (_, exits) := (memberFunction ⟨m, scope⟩ f kind).walk passage.block
        (exits.left.filter (·.1 = name)).map fun (_, e, env) => (kind = .construction, e, env)
      | _ => []
    match m with
    | .construction _ f => if isStatic then [] else found .construction f
    | .method words _ _ f => if words.contains "static" = isStatic then found .method f else []
    | .getter words _ f => if words.contains "static" = isStatic then found .getter f else []
    | .setter words _ f => if words.contains "static" = isStatic then found .setter f else []
    | _ => []

/-- The type of a field that a remark tells where something is left in it. -/
def toldType (found : List (Bool × Expr × Env)) : Check (Option TypeId) := do
  match found.find? fun (_, e, _) => e.isTold with
  | some (_, .cast _ t, env) => some <$> k.written env.scope t
  | _ => return none

/-- The type of a field that is only told by what functions leave in it. -/
def leftType (found : List (Bool × Expr × Env)) : Check (Option TypeId) := do
  if found.isEmpty then return none
  let types ← found.mapM fun (constructs, e, env) => do
    return (constructs, ← widenValues k (← outsideLoops (k.value env e .none)))
  let own := (types.filter (·.1)).map (·.2)
  let isOwn ← own.anyM fun t => return !(← everyMember isAbsent t)
  let t ← union k (if isOwn then own else types.map (·.2))
  let t ← if types.any (·.1) then pure t else orUndefined k t
  let t ← widen k t
  if ← everyMember isAbsent t then return some anyType else return some t

/-- What the construction of a class leaves in a field that tells no type. -/
def constructedType (d : TypeDeclaration) (scope : Scope) (name : String) :
    Check (Option TypeId) := do
  let isScript := scope.file.isScript
  if !isScript && !(← settings).noImplicitAny then return none
  let isStatic := scope.frames.head?.any fun
    | .type _ .whole => true
    | _ => false
  let left := if isScript then leftIn d scope isStatic name else []
  match ← toldType k left with
  | some t => return some t
  | none => pure ()
  if isScript && !left.any (·.1) then return ← leftType k left
  let found ← ofConstruction
  if found.isSome || !isScript then return found else leftType k left
where
  /-- What is left in the field where construction ends. -/
  ofConstruction : Check (Option TypeId) := do
    let own := d.members.findSome? fun
      | .construction ms f => match f.body with
        | .block passage => some (ms, f, passage)
        | _ => none
      | _ => none
    match own with
    | none => return none
    | some (ms, f, passage) =>
      let site := memberFunction ⟨.construction ms f, scope⟩ f .construction
      let (last, exits) := site.walk passage.block
      keepPlaces exits.places
      let flow := Flow.join .start (last :: exits.results.map (·.2.flow))
      let q : Query := ⟨⟨.self, [name]⟩, autoType, undefinedType, false, false⟩
      let t ← outsideLoops (referenceType k q flow)
      if t = autoType then return none
      if ← everyMember isAbsent t then return none
      if (← listForm? k t).any (·.element = autoType) then some <$> listOf k false anyType
      else return some t

end

end TypeLineage.Typing
