import TypeLineage.Typing.Nesting

/-! # Inferring type parameters

    What a value's type tells about the type parameters in the type it is taken
    in by is collected as candidates, the less indirect the better.  From the
    candidates follows what a type parameter stands for: their union or what
    they have in common, widened where the parameter stands alone. -/

namespace TypeLineage.Typing

open Source Program

/-! ## Priorities -/

/-- A type parameter among other members of a union. -/
def amongOthers : Nat := 1
/-- A list that may end with elements that need not be there. -/
def beforeOptional : Nat := 2
/-- An object from which a mapped type may be undone. -/
def fromMapped : Nat := 8
/-- An object from which a mapped type may be undone in part. -/
def fromMappedPart : Nat := 16
/-- The keys of an object for what a mapped type ranges over. -/
def fromKeys : Nat := 32
/-- A branch of a conditional type. -/
def fromBranch : Nat := 64
/-- What is expected of a result. -/
def fromResult : Nat := 128
/-- Single texts for the keys of a type. -/
def fromTexts : Nat := 256
/-- What bounds type parameters tells nothing. -/
def withoutBounds : Nat := 512
/-- Parameters of functions are always taken in the other way round. -/
def alwaysTurned : Nat := 1024
/-- The lowest priority. -/
def lowestPriority : Nat := 2048

/-- Candidates of the priority are taken together. -/
def takesTogether (priority : Nat) : Bool :=
  priority &&& (fromResult ||| fromKeys ||| fromTexts ||| alwaysTurned) != 0

/-! ## The state of an inference -/

/-- An inference by its place. -/
def inferenceAt (i : Nat) : Check Inference := return (← get).inferences.getD i default

/-- Changes an inference. -/
def changeInference (i : Nat) (f : Inference → Inference) : Check Unit :=
  modify fun s => { s with inferences := s.inferences.modify i f }

/-- A guess of which nothing is known. -/
def Guess.of (parameter : TypeId) : Guess :=
  ⟨parameter, [], [], none, lowestPriority, true, false, none⟩

/-- Begins to infer type parameters. -/
def startInference (parameters : List TypeId) (signature : Option Signature) (isLoose : Bool) :
    Check Nat := do
  let s ← get
  let i := s.inferences.size
  let x : Inference :=
    ⟨parameters.map Guess.of, [], signature, isLoose, errorType, lowestPriority, []⟩
  set { s with inferences := s.inferences.push x }
  return i

/-- The guess for a type. -/
def guessFor? (i : Nat) (t : TypeId) : Check (Option Guess) :=
  return (← inferenceAt i).guesses.find? (·.parameter = t)

/-- Changes the guess for a type; what others were taken for is forgotten unless it is
    settled. -/
def changeGuess (i : Nat) (t : TypeId) (f : Guess → Guess) : Check Unit :=
  changeInference i fun x =>
    { x with guesses := x.guesses.map fun g =>
        let g := if g.isFixed then g else { g with inferred := none }
        if g.parameter = t then f g else g }

/-! ## Where type parameters may be found -/

/-- The type may mention type parameters. -/
def mayMention (k : Rules) (t : TypeId) : Check Bool := do
  match ← shape t with
  | .object (.made m _ none) _ => return !m.calls.isEmpty || !m.properties.isEmpty
  | _ => return !(← mentioned k t).isEmpty

/-- Where the branch of a condition is written that it gives if it does not hold. -/
def Conditional.scopeOfNo (c : Conditional) : Scope :=
  if c.inferred.isEmpty then c.scope else { c.scope with frames := c.scope.frames.drop 1 }

/-- What a condition gives where it holds, or where it does not. -/
def branchOf (k : Rules) (c : Conditional) (s : Substitution) (holds : Bool) : Check TypeId := do
  k.instantiate s (← if holds then k.written c.scope c.yes else k.written c.scopeOfNo c.no)

/-- A parameter stands alone in a type, or as a member of a union, given how deep conditions are
    gone into. -/
def standsAlone (k : Rules) (p : TypeId) : Nat → Nat → TypeId → Check Bool
  | 0, _, _ => return false
  | n + 1, depth, t => do
    if t = p then return true
    match ← shape t with
    | .union ts _ => ts.anyM (standsAlone k p n depth)
    | .intersection ts => ts.anyM (standsAlone k p n depth)
    | .conditional c s _ _ =>
      match depth with
      | 0 => return false
      | d + 1 =>
        if ← standsAlone k p n d (← branchOf k c s true) then return true
        standsAlone k p n d (← branchOf k c s false)
    | _ => return false

/-- The type holds functions that are not looked at yet, or what is not told yet. -/
def holdsUnread : Nat → TypeId → Check Bool
  | 0, _ => return false
  | n + 1, t => do
    if t = unreadFunctionType || t = untoldType then return true
    match ← shape t with
    | .keyword .auto => return true
    | .union ts _ => ts.anyM (holdsUnread n)
    | .intersection ts => ts.anyM (holdsUnread n)
    | .reference _ arguments => arguments.anyM (holdsUnread n)
    | .object (.made m form _) _ =>
      if form = .plain then return false
      m.properties.anyM fun p => do
        match p.holding with
        | .known u => holdsUnread n u
        | _ => return false
    | _ => return false

/-- Something in the type may be taken in though it holds what is not looked at yet. -/
def isPartlyRead (k : Rules) : Nat → TypeId → Check Bool
  | 0, _ => return true
  | n + 1, t => do
    if !(← holdsUnread 16 t) then return true
    if ← isObjectValue t then
      (← k.members t).properties.anyM fun p => do isPartlyRead k n (← k.property p)
    else match ← tupleForm? k t with
      | some (_, ts) => ts.anyM (isPartlyRead k n)
      | none => return false

/-! ## Taking in -/

namespace Intake

/-- The intake of an inference. -/
def of (inference priority : Nat) : Intake :=
  ⟨inference, priority, false, false, none, [], [], false, false⟩

/-- A candidate for a type parameter. -/
def candidate (x : Intake) (g : Guess) (source : TypeId) (k : Rules) : Check Unit := do
  if ← holdsUnread 16 source then return
  if !g.isFixed then
    let taken := x.instead.getD source
    if x.priority < g.priority then
      changeGuess x.inference g.parameter fun g =>
        { g with candidates := [], bounds := [], isTopLevel := true, priority := x.priority
                 inferred := none }
    let g := (← guessFor? x.inference g.parameter).getD g
    if x.priority = g.priority then
      if x.isTurned && !x.isBivariant then
        if !g.bounds.contains taken then
          changeGuess x.inference g.parameter fun g =>
            { g with bounds := g.bounds ++ [taken], inferred := none }
      else if !g.candidates.contains taken then
        changeGuess x.inference g.parameter fun g =>
          { g with candidates := g.candidates ++ [taken], inferred := none }
    let i ← inferenceAt x.inference
    let isParameter := (← shape g.parameter) matches .parameter ..
    if x.priority &&& fromResult = 0 && isParameter && g.isTopLevel
        && !(← standsAlone k g.parameter 16 3 i.root) then
      changeGuess x.inference g.parameter fun g => { g with isTopLevel := false, inferred := none }
  changeInference x.inference fun i => { i with reached := min i.reached x.priority }

/-- The same, but more indirect. -/
def lower (x : Intake) (priority : Nat) : Intake := { x with priority := x.priority ||| priority }

/-- The same the other way round. -/
def turn (x : Intake) : Intake := { x with isTurned := !x.isTurned }

/-- What a step reaches on its own. -/
def reaching (x : Intake) (work : Check Unit) : Check Int := do
  let saved := (← inferenceAt x.inference).reached
  changeInference x.inference fun i => { i with reached := lowestPriority }
  work
  let reached := (← inferenceAt x.inference).reached
  changeInference x.inference fun i => { i with reached := min saved reached }
  return reached

/-- Takes in from a pair of types once.  Where both only go on to give rise to others, nothing
    more is taken in. -/
def once (k : Rules) (x : Intake) (source target : TypeId) (work : Intake → Check Unit) :
    Check Unit := do
  match (← inferenceAt x.inference).visited.lookup (source, target) with
  | some status =>
    changeInference x.inference fun i => { i with reached := min i.reached status }
  | none =>
    changeInference x.inference fun i => { i with visited := ((source, target), -1) :: i.visited }
    let sources := source :: x.sources
    let targets := target :: x.targets
    let isSourceDeep ← if x.isSourceDeep then pure true else isDeepAmong k 2 sources source
    let isTargetDeep ← if x.isTargetDeep then pure true else isDeepAmong k 2 targets target
    let reached ← x.reaching <| do
      if isSourceDeep && isTargetDeep then
        changeInference x.inference fun i => { i with reached := -1 }
      else work { x with sources, targets, isSourceDeep, isTargetDeep }
    changeInference x.inference fun i =>
      { i with visited := ((source, target), reached) :: i.visited }

end Intake

/-- Takes in what a type tells about the parameters of a call. -/
def inferFrom (k : Rules) (i priority : Nat) (source target : TypeId) : Check Unit := do
  changeInference i fun x => { x with root := target, reached := lowestPriority, visited := [] }
  k.infer (.of i priority) source target

/-- Two types are the same, or one is a single value of the other. -/
def isSameOrBase (k : Rules) (s t : TypeId) : Check Bool := do
  if s = t then return true
  else if t = missingType then return false
  else if ← k.related .identity s t then return true
  else match ← shape s with
    | .number _ => return t = numberType
    | .enumMember _ _ _ _ (some (.number _)) => return t = numberType
    | s => return t = stringType && (contentOf? s).isSome

/-- Two types are declared alike. -/
def isClose (s t : TypeId) : Check Bool := do
  let a ← symbolOf s
  if a ≠ .none && a = (← symbolOf t) then return true
  else match (← entry s).synonym, (← entry t).synonym with
    | some x, some y => return !x.arguments.isEmpty && x.key = y.key
    | _, _ => return false

/-- Takes in from members that match, and gives those that are left on both sides. -/
def takeMatching (k : Rules) (x : Intake) (sources targets : List TypeId)
    (same : TypeId → TypeId → Check Bool) : Check (List TypeId × List TypeId) := do
  let mut usedSources : List TypeId := []
  let mut usedTargets : List TypeId := []
  for t in targets do
    for s in sources do
      if ← same s t then
        k.infer x s t
        usedSources := usedSources ++ [s]
        usedTargets := usedTargets ++ [t]
  return (sources.filter (!usedSources.contains ·), targets.filter (!usedTargets.contains ·))

/-- Takes in arguments of the same declaration, one by one; those that stand the other way
    round are taken in so. -/
def takeArguments (k : Rules) (x : Intake) (variances : List Variance)
    (sources targets : List TypeId) : Check Unit :=
  (sources.zip targets).zipIdx.forM fun ((s, t), i) =>
    k.infer (if (variances[i]?).any (·.direction = .against) then x.turn else x) s t

/-- The type parameter that intersections have in common, if they are nothing else. -/
def sharedVariable? (x : Intake) (targets : List TypeId) : Check (Option TypeId) := do
  let found ← targets.mapM fun t => do
    match ← shape t with
    | .intersection ts => ts.findM? fun u => return (← guessFor? x.inference u).isSome
    | _ => return none
  match found with
  | some p :: others => return if others.all (· = some p) then some p else none
  | _ => return none

/-- Takes in for several types. -/
def takeSeveral (k : Rules) (x : Intake) (isUnion : Bool) (source : TypeId)
    (targets : List TypeId) : Check Unit := do
  let flags ← targets.mapM fun t => return (← guessFor? x.inference t).isSome
  let naked := (targets.zip flags).filterMap fun (t, isNaked) => if isNaked then some t else none
  let others := (targets.zip flags).filterMap fun (t, isNaked) => if isNaked then none else some t
  if isUnion then
    let sources ← membersOf source
    let mut matched : List Nat := []
    let mut isCircular := false
    for t in others do
      for (s, j) in sources.zipIdx do
        let reached ← x.reaching (k.infer x s t)
        if reached = x.priority then matched := matched ++ [j]
        if reached = -1 then isCircular := true
    match naked with
    | [] =>
      match ← sharedVariable? x targets with
      | some p => k.infer (x.lower amongOthers) source p
      | none => return
    | [t] =>
      let unmatched := sources.zipIdx.filterMap fun (s, j) =>
        if matched.contains j then none else some s
      if !isCircular && !unmatched.isEmpty then k.infer x (← union k unmatched) t
      else k.infer (x.lower amongOthers) source t
    | ts => ts.forM fun t => k.infer (x.lower amongOthers) source t
  else
    others.forM fun t => k.infer x source t
    match naked with
    | [t] => k.infer (x.lower amongOthers) source t
    | _ => return

/-! ## Functions -/

/-- Takes in from one signature for another. -/
def takeSignature (k : Rules) (x : Intake) (source target : Signature) : Check Unit := do
  let strict := (← settings).strictFunctions
  let isMethod := match target.site with
    | some site => site.kind.isMethod
    | none => false
  let y := { x with isBivariant := x.isBivariant || isMethod }
  let y := if strict || x.priority &&& alwaysTurned ≠ 0 then y.turn else y
  let sourceCount ← source.positions k
  let targetCount ← target.positions k
  let sourceRest ← source.restList? k
  let targetRest ← target.restList? k
  let plain := if targetRest.isSome then targetCount - 1 else targetCount
  let count := if sourceRest.isSome then plain else min sourceCount plain
  match source.self, target.self with
  | some a, some b => k.infer y (← k.argument a) (← k.argument b)
  | _, _ => pure ()
  for i in List.range count do
    k.infer y (← source.typeAt k i) (← target.typeAt k i)
  match targetRest with
  | some rest => k.infer y (← source.listFrom k count) rest
  | none => pure ()
  let result : Check Unit := do
    let t ← k.result target
    if ← mayMention k t then k.infer x (← k.result source) t
  match ← target.claim? k with
  | some b =>
    match ← source.claim? k with
    | some a =>
      match a.type, b.type with
      | some s, some t =>
        if a.asserts = b.asserts && a.index = b.index then k.infer x s t else result
      | _, _ => result
    | none => result
  | none => result

/-- A signature with what bounds its type parameters in their place. -/
def Signature.withBounds (k : Rules) (sig : Signature) : Check Signature := do
  if sig.typeParameters.isEmpty then return sig
  let ps := sig.typeParameters
  let direct ← ps.mapM fun p => return (p, (← k.bound p).getD unknownType)
  let settled ← (List.range (ps.length - 1)).foldlM
    (fun ts _ => ts.mapM (k.instantiate direct)) (direct.map (·.2))
  let types ← settled.mapM (k.instantiate (ps.map fun p => (p, anyType)))
  sig.apply k types

/-- Takes in from the signatures of objects, the last ones first. -/
def takeSignatures (k : Rules) (x : Intake) (sources targets : List Signature) : Check Unit := do
  if sources.isEmpty then return
  for (target, i) in targets.zipIdx do
    match sources[sources.length + i - targets.length]? with
    | some source => takeSignature k x (← source.withBounds k) (← target.erase k)
    | none => pure ()

/-! ## Lists -/

/-- The elements of a list or a tuple from a place on, without some at the end, as a tuple. -/
def sliceOf (k : Rules) (t : TypeId) (start ending : Nat) : Check TypeId := do
  match ← tupleForm? k t with
  | some (form, types) =>
    let es := (elementsOf form types).drop start
    tupleOf k false (es.take (es.length - ending))
  | none => return t

/-- What the elements of a tuple from a place on, without some at the end, may be. -/
def elementOfSlice? (k : Rules) (t : TypeId) (start ending : Nat) : Check (Option TypeId) := do
  match ← tupleForm? k t with
  | some (form, types) =>
    let es := (elementsOf form types).drop start
    let es := es.take (es.length - ending)
    if es.isEmpty then return none
    let ts ← es.mapM fun e => if e.kind = .variadic then openElement e.type else pure e.type
    some <$> union k ts
  | none => return none

/-- How many elements stand behind the last that stands for any number. -/
def TupleForm.endLength (f : TupleForm) : Nat := (f.kinds.reverse.takeWhile (!isOpen ·)).length

/-- How many elements a type parameter stands for that is bound by a tuple of known length. -/
def boundLength? (k : Rules) (x : Intake) (t : TypeId) : Check (Option Nat) := do
  match ← guessFor? x.inference t with
  | some g =>
    match ← k.base? g.parameter with
    | some b =>
      match ← tupleForm? k b with
      | some (form, _) => return if form.hasOpen then none else some form.fixedLength
      | none => return none
    | none => return none
  | none => return none

/-- Takes in from the elements of lists and tuples for those of a tuple. -/
def takeTuple (k : Rules) (x : Intake) (source : TypeId) (form : TupleForm)
    (types : List TypeId) : Check Unit := do
  let own? ← tupleForm? k source
  let isAlike := match own? with
    | some (own, _) =>
      own.kinds.length = form.kinds.length && (own.kinds.zip form.kinds).all fun (a, b) =>
        (a = ElementKind.rest) = (b = ElementKind.rest)
          && (a = ElementKind.variadic) = (b = ElementKind.variadic)
    | none => false
  let given ← match own? with
    | some (_, ts) => pure ts
    | none => pure ((← elementOf? k source).toList)
  if isAlike then (given.zip types).forM fun (s, t) => k.infer x s t
  else
    let start := match own? with
      | some (own, _) => min own.fixedLength form.fixedLength
      | none => 0
    let ending := if !form.hasOpen then 0 else match own? with
      | some (own, _) => min (if own.hasOpen then own.endLength else own.kinds.length) form.endLength
      | none => 0
    let ending := min ending (given.length - start)
    (List.range start).forM fun i =>
      match given[i]?, types[i]? with
      | some s, some t => k.infer x s t
      | _, _ => return
    let isRest := match own? with
      | some (own, _) => given.length - start - ending = 1 && own.kinds[start]? = some ElementKind.rest
      | none => true
    let kindAt (i : Nat) : ElementKind := (form.kinds[i]?).getD .required
    let typeAt (i : Nat) : TypeId := (types[i]?).getD errorType
    let middle := types.length - start - ending
    if isRest then
      match given[start]? with
      | some rest =>
        (List.range middle).forM fun j => do
          let i := start + j
          let s ← if kindAt i = ElementKind.variadic then listOf k false rest else pure rest
          k.infer x s (typeAt i)
      | none => pure ()
    else if middle = 2 then
      let a := typeAt start
      let b := typeAt (start + 1)
      match kindAt start, kindAt (start + 1) with
      | .variadic, .variadic =>
        match (← guessFor? x.inference a).bind (·.span) with
        | some span =>
          k.infer x (← sliceOf k source start (given.length - start - span)) a
          k.infer x (← sliceOf k source (start + span) ending) b
        | none => pure ()
      | .variadic, .rest =>
        match ← boundLength? k x a with
        | some n =>
          k.infer x (← sliceOf k source start (given.length - (start + n))) a
          match ← elementOfSlice? k source (start + n) ending with
          | some e => k.infer x e b
          | none => pure ()
        | none => pure ()
      | .rest, .variadic =>
        match ← boundLength? k x b with
        | some n =>
          let stop := given.length - form.endLength
          match ← elementOfSlice? k source start (ending + n) with
          | some e => k.infer x e a
          | none => pure ()
          k.infer x (← sliceOf k source (stop - n) (given.length - stop)) b
        | none => pure ()
      | _, _ => pure ()
    else if middle = 1 then
      match kindAt start with
      | .variadic =>
        let isOptional := form.kinds.getLast? = some ElementKind.optional
        k.infer (if isOptional then x.lower beforeOptional else x)
          (← sliceOf k source start ending) (typeAt start)
      | .rest =>
        match ← elementOfSlice? k source start ending with
        | some e => k.infer x e (typeAt start)
        | none => pure ()
      | _ => pure ()
    (List.range ending).forM fun i =>
      match given[given.length - i - 1]?, types[types.length - i - 1]? with
      | some s, some t => k.infer x s t
      | _, _ => return

/-! ## Objects -/

/-- What is known of the members of the type is all that there is, so that it has something
    under any key of them. -/
def hasOnlyMembers (k : Rules) : Nat → TypeId → Check Bool
  | 0, _ => return false
  | n + 1, t => do
    match ← shape t with
    | .intersection ts => ts.allM (hasOnlyMembers k n)
    | .object source _ =>
      let isKind := match source with
        | .literal .. | .mapped .. | .made .. | .enumeration _ | .space _ => true
        | _ => false
      if !isKind || t = emptyObjectType then return false
      let m ← k.members t
      return m.calls.isEmpty && m.constructs.isEmpty
    | _ => return false

/-- A member is found under keys of a kind. -/
def isUnderKey (k : Rules) (kind : TypeId) (p : Property) : Check Bool := do
  match ← keyOfProperty? p with
  | some key => standsUnder k key kind
  | none => return false

/-- What a member may be where it is there. -/
def presentMember (k : Rules) (p : Property) : Check TypeId := do
  let t ← k.property p
  if !p.isOptional || (← isUndefined t) then return t
  else filterUnion (fun u => return !(← isUndefined u)) t

/-- Takes in from what objects have under any key. -/
def takeIndexers (k : Rules) (x : Intake) (s t : TypeId) (source target : Members) :
    Check Unit := do
  if target.indexers.isEmpty then return
  let areMapped := (← mapped? s).isSome && (← mapped? t).isSome
  let x := if areMapped then x.lower fromMapped else x
  if ← hasOnlyMembers k 16 s then
    for i in target.indexers do
      let types ← (← source.properties.filterM (isUnderKey k i.key)).mapM (presentMember k)
      let others ← source.indexers.filterM fun j => standsUnder k j.key i.key
      let all := types ++ others.map (·.type)
      if !all.isEmpty then k.infer x (← union k all) i.type
  for i in target.indexers do
    match ← indexerAmong? k source.indexers i.key with
    | some j => k.infer x j.type i.type
    | none => pure ()

/-- What a single type parameter stands for, from what was taken in for it. -/
def Guess.taken? (k : Rules) (g : Guess) : Check (Option TypeId) := do
  if !g.candidates.isEmpty then some <$> unionOf k .subtype g.candidates none
  else if !g.bounds.isEmpty then some <$> intersection k g.bounds none
  else return none

/-- What a mapped type must have made a type of, where its keys are known. -/
def undone? (k : Rules) (source mapped keys : TypeId) : Check (Option TypeId) := do
  match (← get).reversed[(source, mapped, keys)]? with
  | some t => return t
  | none =>
    let before := (← get).reversing
    let sources := source :: before.map (·.1)
    let targets := mapped :: before.map (·.2.1)
    let isSourceDeep ← if before.head?.any (·.2.2.1) then pure true
      else isDeepAmong k 2 sources source
    let isTargetDeep ← if before.head?.any (·.2.2.2) then pure true
      else isDeepAmong k 2 targets mapped
    let t ← if isSourceDeep && isTargetDeep then pure none else do
      modify fun s => { s with reversing := (source, mapped, isSourceDeep, isTargetDeep) :: before }
      let found ← match ← mapped? mapped, ← shape keys with
        | some m, .keys of => do
          let p ← underKnown k of m.parameter none
          let i ← startInference [p] none false
          inferFrom k i 0 source (← m.template k)
          match ← guessFor? i p with
          | some g => pure ((← g.taken? k).getD unknownType)
          | none => pure unknownType
        | _, _ => pure unknownType
      modify fun s => { s with reversing := before }
      pure (some found)
    modify fun s => { s with reversed := s.reversed.insert (source, mapped, keys) t }
    return t

/-- The keys to which a mapped type limits the members it takes in from. -/
def limitOf? (k : Rules) (m : Mapped) (keys : TypeId) : Check (Option TypeId) := do
  let parts ← match ← shape (← m.keys k) with
    | .union _ (some (.intersection ts)) => pure ts
    | .intersection ts => pure ts
    | _ => pure []
  if parts.isEmpty then return none
  let t ← intersection k (parts.filter (· ≠ keys)) none
  if ← isNever t then return none else return some t

/-- The object that a mapped type must have followed to give a type. -/
def undoneObject? (k : Rules) (source : TypeId) (m : Mapped) (keys : TypeId) :
    Check (Option TypeId) := do
  let found ← k.members source
  let hasAny := found.indexers.any (·.key = stringType)
    || (!found.properties.isEmpty && (← isPartlyRead k 16 source))
  if !hasAny then return none
  match ← listForm? k source, ← tupleForm? k source with
  | some l, _ =>
    match ← undone? k l.element m.type keys with
    | some e => some <$> listOf k l.isReadonly e
    | none => return none
  | none, some (form, types) =>
    let us ← types.mapM (undone? k · m.type keys)
    if us.any (·.isNone) then return none
    let es := (elementsOf form (us.filterMap id)).map fun e =>
      if e.kind = .optional && addsOptional m.optionalMark then { e with kind := .required } else e
    some <$> tupleOf k form.isReadonly es
  | none, none =>
    let limit ← limitOf? k m keys
    let keepsReadonly := !(m.readonlyMark = "readonly" || m.readonlyMark = "+readonly")
    let properties ← found.properties.filterMapM fun p => do
      let isOut ← match limit, ← keyOfProperty? p with
        | some l, some key => pure (!(← k.related .assignable key l))
        | _, _ => pure false
      if isOut then return none
      return some
        { p with
          isOptional := p.isOptional && !addsOptional m.optionalMark
          isReadonly := p.isReadonly && keepsReadonly
          isMethod := false, isAccessor := false, owner := none, claimed := none
          holding := .reversed (← k.property p) m.type keys, substitution := [] }
    let indexers ← match found.indexers.find? (·.key = stringType) with
      | some i =>
        let t := (← undone? k i.type m.type keys).getD unknownType
        pure [{ i with type := t, isReadonly := i.isReadonly && keepsReadonly }]
      | none => pure []
    some <$> makeShape (.object (.made ⟨properties, [], [], indexers⟩ .plain none) [])

/-- Takes in from an object for a mapped type; the flag tells whether anything could be. -/
def takeMapped (k : Rules) (x : Intake) (source : TypeId) (m : Mapped) : Nat → TypeId → Check Bool
  | 0, _ => return false
  | n + 1, domain => do
    match ← shape domain with
    | .union ts _ | .intersection ts =>
      let found ← ts.mapM (takeMapped k x source m n)
      return found.any id
    | .keys of =>
      match ← guessFor? x.inference of with
      | some g =>
        if !g.isFixed then
          match ← undoneObject? k source m domain with
          | some t =>
            let isPart ← holdsUnread 16 source
            k.infer (x.lower (if isPart then fromMappedPart else fromMapped)) t g.parameter
          | none => pure ()
      | none => pure ()
      return true
    | .parameter .. =>
      k.infer (x.lower fromKeys) (← k.keys source) domain
      let isTaken ← match ← k.bound domain with
        | some b => takeMapped k x source m n b
        | none => pure false
      if isTaken then return true
      let found ← k.members source
      let types ← found.properties.mapM k.property
      let isEnum ← isEnumeration source
      let others := if isEnum then [] else found.indexers.map (·.type)
      k.infer x (← union k (types ++ others)) (← m.template k)
      return true
    | _ => return false

/-- A member that must be there is missing in others, or is there as another single value. -/
def lacksMember (k : Rules) (tellsApart : Bool) (source : TypeId) (wanted : Members) :
    Check Bool :=
  wanted.properties.anyM fun p => do
    if p.isOptional then return false
    match ← propertyOf? k source p.name with
    | none => return true
    | some q =>
      if !tellsApart then return false
      let t ← k.property p
      if !(← isUnit t) then return false
      let s ← k.property q
      if ← isAny s then return false
      return (← regularOf s) ≠ (← regularOf t)

/-- Two types can have nothing to do with each other. -/
def areUnrelated (k : Rules) (source target : TypeId) (m wanted : Members) : Check Bool := do
  match ← tupleForm? k source, ← tupleForm? k target with
  | some (own, _), some (form, _) =>
    if !form.kinds.contains .variadic && form.leastLength > own.leastLength then return true
    return !form.hasOpen && (own.hasOpen || form.fixedLength < own.fixedLength)
  | _, _ =>
    if ← lacksMember k true source wanted then lacksMember k false target m
    else return false

/-- Takes in from one object for another. -/
def takeObjects (k : Rules) (x : Intake) (source target : TypeId) : Check Unit := do
  let areAlike ← do
    match ← referenceOf? k source, ← referenceOf? k target with
    | some (a, _), some (b, _) =>
      if a = b then pure true else pure ((← isList k source) && (← isList k target))
    | _, _ => pure false
  if areAlike then
    let variances := (← k.variances source).getD []
    takeArguments k x variances (← k.arguments source) (← k.arguments target)
    return
  match ← mapped? target with
  | some m =>
    if m.renamed.isNone then
      if ← takeMapped k x source m 16 (← m.keys k) then return
  | none => pure ()
  let m ← k.members source
  let wanted ← k.members target
  if ← areUnrelated k source target m wanted then return
  if (← isTuple source) || (← isList k source) then
    match ← tupleForm? k target with
    | some (form, types) =>
      takeTuple k x source form types
      return
    | none => pure ()
    if ← isList k target then
      takeIndexers k x source target m wanted
      return
  for p in wanted.properties do
    match ← propertyOf? k source p.name with
    | some q =>
      let t ← k.property p
      if ← mayMention k t then k.infer x (← k.property q) t
    | none => pure ()
  takeSignatures k x m.calls wanted.calls
  takeSignatures k x m.constructs wanted.constructs
  takeIndexers k x source target m wanted

/-! ## Templates -/

/-- A type in what bounds a type parameter that a text may be taken for; the greater the rank,
    the better. -/
def valueForText? (k : Rules) (text : TypeId) (content : String) (t : TypeId) :
    Check (Option (Nat × TypeId)) := do
  let isNumber := isNumberText content && spellsNumber content
  let isInteger := isIntegerText content
  match ← shape t with
  | .template .. => return if ← isMatched k text t then some (13, text) else none
  | .changed word _ => return if changeText word content = content then some (12, text) else none
  | .text own => return if own = content then some (11, t) else none
  | .enumMember _ _ _ _ (some (.text own)) => return if own = content then some (11, t) else none
  | .keyword .number =>
    if isNumber then return some (10, ← numberTypeOf content) else return none
  | .enumMember _ _ _ _ (some (.number y)) =>
    return if isNumber && y.text .plain = content then some (8, t) else none
  | .enumMember _ _ _ _ none =>
    if isNumber then return some (9, ← numberTypeOf content) else return none
  | .number own => return if isNumber && own = content then some (8, t) else none
  | .keyword .bigint =>
    if !isInteger then return none
    let (isNegative, n) := (integerOfText? content).getD (false, 0)
    return some (7, ← bigNumberTypeOf isNegative (Number.decimalText n))
  | .bigNumber isNegative digits =>
    let own := (if isNegative then "-" else "") ++ digits
    return if isInteger && own = content then some (6, t) else none
  | .truth value => return if (if value then "true" else "false") = content then some (4, t) else none
  | .keyword .undefined => return if content = "undefined" then some (3, t) else none
  | .keyword .null => return if content = "null" then some (2, t) else none
  | _ => return none

/-- What a text is taken for where what bounds a type parameter asks for other values. -/
def boundedText? (k : Rules) (x : Intake) (text target : TypeId) : Check (Option TypeId) := do
  match contentOf? (← shape text), ← guessFor? x.inference target with
  | some content, some g =>
    match ← k.base? g.parameter with
    | none => return none
    | some b =>
      if ← isAny b then return none
      let parts ← membersOf b
      if parts.contains stringType then return none
      let ranked ← parts.filterMapM (valueForText? k text content)
      let best := ranked.foldl (fun best y =>
        match best with
        | none => some y
        | some z => if y.1 > z.1 then some y else some z) none
      return best.map (·.2)
  | _, _ => return none

/-- Takes in what fills the holes of a template. -/
def takeTemplate (k : Rules) (x : Intake) (source : TypeId) (texts : List String)
    (types : List TypeId) : Check Unit := do
  match ← partsOf? k source texts types with
  | some parts =>
    (parts.zip types).forM fun (s, t) => do
      match ← boundedText? k x s t with
      | some u => k.infer x u t
      | none => k.infer x s t
  | none => if texts.all (·.isEmpty) then types.forM (k.infer x neverType)

/-! ## All types -/

/-- An object with a member of any type under each text, or under any. -/
def objectOfTexts (key : TypeId) : Check TypeId := do
  let members ← match contentOf? (← shape key) with
    | some content =>
      let p : Property :=
        { name := content, style := .doubleQuoted, isOptional := false, isReadonly := false
          isMethod := false, isAccessor := false, owner := none, holding := .known anyType
          substitution := [], isDerived := true, key := some key }
      pure (⟨[p], [], [], []⟩ : Members)
    | none => pure ⟨[], [], [], if key = stringType then [⟨stringType, emptyObjectType, false, "x"⟩] else []⟩
  makeShape (.object (.made members .plain none) [])

/-- Takes in from an open mapped type for another. -/
def takeOpenMaps (k : Rules) (x : Intake) (m n : Mapped) : Check Unit := do
  k.infer x (← m.keys k) (← n.keys k)
  k.infer x (← m.template k) (← n.template k)
  match ← m.nameType? k, ← n.nameType? k with
  | some s, some t => k.infer x s t
  | _, _ => return

/-- Takes in for a condition. -/
def takeConditional (k : Rules) (x : Intake) (source : TypeId) (c : Conditional)
    (s : Substitution) (check bound : TypeId) : Check Unit := do
  match ← shape source with
  | .conditional d u ownCheck ownBound =>
    k.infer x ownCheck check
    k.infer x ownBound bound
    k.infer x (← branchOf k d u true) (← branchOf k c s true)
    k.infer x (← branchOf k d u false) (← branchOf k c s false)
  | _ =>
    let y := if x.isTurned then x.lower fromBranch else x
    takeSeveral k y false source [← branchOf k c s true, ← branchOf k c s false]

/-- Takes in from objects, or from what a type amounts to. -/
def takeApparent (k : Rules) (x : Intake) (source target : TypeId) : Check Unit := do
  let source ← reduced k source
  match ← openMap? k source, ← openMap? k target with
  | some m, some n => x.once k source target fun y => takeOpenMaps k y m n
  | _, _ => pure ()
  let s ← shape source
  let isBounded := isOpenShape s || s matches .intersection _
  let isStructured (s : Shape) : Bool := isObjectShape s || s matches .intersection _
  if x.priority &&& withoutBounds ≠ 0 && isBounded then
    if isStructured s then x.once k source target fun y => takeObjects k y source target
  else
    let apparent ← k.apparent source
    if apparent ≠ source && !isStructured (← shape apparent) then k.infer x apparent target
    else if isStructured (← shape apparent) then
      x.once k apparent target fun y => takeObjects k y apparent target

/-- Takes in from a type for one that is no union, and no type parameter that is inferred. -/
def takePlain (k : Rules) (x : Intake) (source target : TypeId) : Check Unit := do
  let t ← shape target
  let s ← shape source
  let areAlike ← do
    match ← referenceOf? k source, ← referenceOf? k target with
    | some (a, _), some (b, _) =>
      let areDeferred := s matches .deferred .. && t matches .deferred ..
      if areDeferred then pure false
      else if a = b then pure true
      else pure ((← isList k source) && (← isList k target))
    | _, _ => pure false
  if areAlike then
    takeArguments k x ((← k.variances source).getD []) (← k.arguments source) (← k.arguments target)
  else match s, t with
    | .keys a, .keys b => k.infer x.turn a b
    | _, .keys b =>
      if isLiteralShape s || s matches .keyword .string then
        k.infer (x.turn.lower fromTexts) (← objectOfTexts source) b
      else match s with
        | .union ss _ => ss.forM fun u => k.infer x u target
        | _ => takeApparent k x source target
    | .index a i, .index b j =>
      k.infer x a b
      k.infer x i j
    | .changed v a, .changed w b => if v = w then k.infer x a b
    | .held a, _ => k.infer x a target
    | _, .conditional c u check bound =>
      x.once k source target fun y => takeConditional k y source c u check bound
    | _, .union ts _ => takeSeveral k x true source ts
    | _, .intersection ts => takeSeveral k x false source ts
    | .union ss _, _ => ss.forM fun u => k.infer x u target
    | _, .template texts types => takeTemplate k x source texts types
    | _, _ => takeApparent k x source target

/-- Takes in for a type parameter that is inferred, or for what stands under a key; the flag
    tells whether that is all. -/
def takeVariable (k : Rules) (x : Intake) (source target : TypeId) : Check Bool := do
  match ← guessFor? x.inference target with
  | some g =>
    x.candidate g source k
    return true
  | none =>
    match ← shape target with
    | .index object key =>
      let simple ← k.simplified false target
      if simple ≠ target then k.infer x source simple
      else
        let key ← k.simplified false key
        let isWaiting := isOpenShape (← shape key)
        if isWaiting then
          match ← shape (← k.simplified false object) with
          | .union ts _ =>
            k.infer x source (← union k (← ts.mapM fun u => do
              k.simplified false (← underKnown k u key none)))
          | .intersection ts =>
            k.infer x source (← intersection k (← ts.mapM fun u => do
              k.simplified false (← underKnown k u key none)) none)
          | _ => pure ()
      return false
    | _ => return false

/-- Takes in what one type tells about the parameters in another. -/
def takeIn (k : Rules) (x : Intake) (source target : TypeId) : Check Unit := do
  if !(← mayMention k target) || (← shape target) matches .held _ then return
  if source = wildType && target ≠ wildType then
    k.infer { x with instead := some source } target target
    return
  let e ← entry source
  let f ← entry target
  match e.synonym, f.synonym with
  | some a, some b =>
    if a.key = b.key then
      if !a.arguments.isEmpty then
        takeArguments k x ((← k.synonymVariances a).getD []) a.arguments b.arguments
      return
  | _, _ => pure ()
  match e.shape, f.shape with
  | .union ts _, .union .. =>
    if source = target then
      ts.forM fun t => k.infer x t t
      return
  | .intersection ts, .intersection _ =>
    if source = target then
      ts.forM fun t => k.infer x t t
      return
  | _, _ => pure ()
  match f.shape with
  | .union ts _ =>
    let (ss, ts) ← takeMatching k x (← membersOf source) ts (isSameOrBase k)
    let (ss, ts) ← takeMatching k x ss ts isClose
    if ts.isEmpty then return
    let rest ← union k ts
    if ss.isEmpty then k.infer (x.lower amongOthers) source rest
    else onward (← union k ss) rest
  | .intersection ts =>
    let arePlain ← ts.allM fun t => do
      if ← isObject t then return (← openMap? k t).isNone else return false
    let isUnion := e.shape matches .union ..
    if arePlain || isUnion then onward source target
    else
      let own := match e.shape with
        | .intersection ss => ss
        | _ => [source]
      let (ss, ts) ← takeMatching k x own ts (isSameOrBase k)
      if ss.isEmpty || ts.isEmpty then return
      onward (← intersection k ss none) (← intersection k ts none)
  | _ => onward source target
where
  /-- Takes in where what matches is left out. -/
  onward (source target : TypeId) : Check Unit := do
    match ← shape target with
    | .parameter .. | .index .. =>
      if ← takeVariable k x source target then return
    | _ => pure ()
    takePlain k x source target

/-! ## What type parameters stand for -/

/-- The type, or a part of it, is of values that are no objects. -/
def mayBePlain : Nat → TypeId → Check Bool
  | 0, _ => return false
  | n + 1, t => do
    match ← shape t with
    | .union ts _ => ts.anyM (mayBePlain n)
    | .intersection ts => ts.anyM (mayBePlain n)
    | .keyword .string | .keyword .number | .keyword .bigint | .keyword .symbol
    | .keyword .void | .keyword .undefined | .keyword .missing | .keyword .null => return true
    | .keys _ | .template .. | .changed .. | .uniqueSymbol .. => return true
    | s => return isLiteralShape s

/-- What a condition gives at most: what one of its branches gives, where the other may give
    anything. -/
def eitherBranch (k : Rules) (yes no : TypeId) : Check TypeId := do
  if ← isAny yes then return no
  else if ← isAny no then return yes
  else union k [yes, no]

/-- The bound of a parameter takes in single values. -/
def boundTakesValues (k : Rules) (p : TypeId) : Check Bool := do
  match ← declarationOf? 64 p with
  | some (d, _, _) => if d.isConstant then return true
  | none => pure ()
  match ← k.bound p with
  | some b =>
    match ← shape b with
    | .conditional c s _ _ =>
      mayBePlain 8 (← eitherBranch k (← branchOf k c s true) (← branchOf k c s false))
    | _ => mayBePlain 8 b
  | none => return false

/-- Single values of one type. -/
def areValuesOfOne (types : List TypeId) : Check Bool := do
  let mut base : Option TypeId := none
  for t in types do
    if !(← isNever t) then
      let b ← baseOfValue t
      if b = t then return false
      match base with
      | some c => if c ≠ b then return false
      | none => base := some b
  return true

/-- What types have in common that are no absent values. -/
def supertypeOf (k : Rules) (types : List TypeId) : Check TypeId := do
  match types with
  | [] => return neverType
  | first :: others =>
    if ← areValuesOfOne types then union k types
    else
      let last ← others.foldlM (fun s t => do
        if ← k.related .strictSubtype s t then return t else return s) first
      if ← types.allM fun t => do
          if t = last then return true else k.related .strictSubtype t last then
        return last
      else others.foldlM (fun s t => do
        if ← k.related .subtype s t then return t else return s) first

/-- What types have in common. -/
def commonType (k : Rules) (types : List TypeId) : Check TypeId := do
  match types with
  | [t] => return t
  | _ =>
    let strict ← strictNull
    let present ← if strict then
        types.mapM (filterUnion fun t => return !(← isAbsent t))
      else pure types
    let common ← supertypeOf k present
    if present = types then return common
    else
      let absent ← types.flatMapM fun t => do
        (← membersOf t).filterM isAbsent
      union k (common :: absent)

/-- Objects and lists as they are written are taken together. -/
def joinValues (k : Rules) (types : List TypeId) : Check (List TypeId) := do
  if types.length < 2 then return types
  let isValue (t : TypeId) : Check Bool := do
    if (← entry t).isListValue then return true else isObjectValue t
  let values ← types.filterM isValue
  if values.isEmpty then return types
  else
    let others ← types.filterM fun t => return !(← isValue t)
    return others ++ [← unionOf k .subtype values none]

/-- The parameter stands alone in what a signature gives, or in what it tells of an argument. -/
def standsInResult (k : Rules) (signature : Signature) (p : TypeId) : Check Bool := do
  match ← signature.claim? k with
  | some c =>
    match c.type with
    | some t => standsAlone k p 16 3 t
    | none => return false
  | none => standsAlone k p 16 3 (← k.result signature)

/-- What follows from the candidates of a guess. -/
def fromCandidates (k : Rules) (g : Guess) (signature : Signature) : Check TypeId := do
  let candidates ← joinValues k g.candidates
  let keeps ← boundTakesValues k g.parameter
  let widens ← if keeps || !g.isTopLevel then pure false
    else if g.isFixed then pure true
    else pure (!(← standsInResult k signature g.parameter))
  let base ← if keeps then candidates.mapM (regular k)
    else if widens then candidates.mapM (widenValues k)
    else pure candidates
  let t ← if takesTogether g.priority then unionOf k .subtype base none else commonType k base
  widen k t

/-- What takes in all of the bounds of a guess. -/
def fromBounds (k : Rules) (g : Guess) : Check TypeId := do
  if takesTogether g.priority then intersection k g.bounds none
  else match g.bounds with
    | first :: others =>
      others.foldlM (fun s t => do
        if ← k.related .subtype t s then return t else return s) first
    | [] => return unknownType

/-- Candidates are preferred to bounds: they are something, some bound takes them in, and all
    candidates of parameters that are bound by this one fit. -/
def prefersCandidates (k : Rules) (x : Inference) (g : Guess) (found : TypeId) : Check Bool := do
  if (← isNever found) || (← isAny found) then return false
  if !(← g.bounds.anyM fun b => k.related .assignable found b) then return false
  x.guesses.allM fun h => do
    let isBound ← if h.parameter = g.parameter then pure true
      else pure ((← k.bound h.parameter) = some g.parameter)
    if isBound then h.candidates.allM fun t => k.related .assignable t found else return true

mutual

/-- What a type parameter is taken for so far. -/
def guessed (k : Rules) : Nat → Nat → TypeId → Check TypeId
  | 0, _, _ => return unknownType
  | n + 1, i, p => do
    match ← guessFor? i p with
    | none => return p
    | some g =>
      match g.inferred with
      | some t => return t
      | none =>
        let x ← inferenceAt i
        let (own, other) ← match x.signature with
          | some sig => fromBoth k n i g sig
          | none => pure (← g.taken? k, none)
        let settle (t : TypeId) : Check Unit :=
          changeInference i fun x => { x with guesses := x.guesses.map fun h =>
            if h.parameter = p then { h with inferred := some t } else h }
        let t := own.getD (if x.isLoose then anyType else unknownType)
        settle t
        match ← k.bound p with
        | some b =>
          let b ← k.instantiate (← guessedAll k n i) b
          let fits (t : TypeId) : Check Bool := do k.related .assignable t (← withSelf k b t)
          match own with
          | some t => if ← fits t then return t
          | none => pure ()
          let part ← match own with
            | some t => if g.priority = fromResult then filterUnion fits t else pure neverType
            | none => pure neverType
          let t ← if !(← isNever part) then pure part
            else match other with
              | some t => if ← fits t then pure t else pure b
              | none => pure b
          settle t
          return t
        | none => return t

/-- What follows from candidates and bounds, or else from the default; and what follows from
    those that are not preferred. -/
def fromBoth (k : Rules) (n i : Nat) (g : Guess) (sig : Signature) :
    Check (Option TypeId × Option TypeId) := do
  let lower ← if g.candidates.isEmpty then pure none else pure (some (← fromCandidates k g sig))
  let upper ← if g.bounds.isEmpty then pure none else pure (some (← fromBounds k g))
  match lower, upper with
  | some t, some u =>
    return if ← prefersCandidates k (← inferenceAt i) g t then (some t, some u) else (some u, some t)
  | some t, none => return (some t, none)
  | none, some u => return (some u, none)
  | none, none =>
    match ← default? k g.parameter with
    | some d =>
      let s ← guessedBefore k n i g.parameter
      return (some (← k.instantiate s d), none)
    | none => return (none, none)

/-- What all type parameters are taken for so far. -/
def guessedAll (k : Rules) (n i : Nat) : Check Substitution := do
  let x ← inferenceAt i
  match n with
  | 0 => return []
  | m + 1 => x.guesses.mapM fun g => return (g.parameter, ← guessed k m i g.parameter)

/-- What the type parameters before one are taken for, and nothing for the others. -/
def guessedBefore (k : Rules) (n i : Nat) (p : TypeId) : Check Substitution := do
  let x ← inferenceAt i
  let before := x.guesses.takeWhile (·.parameter ≠ p)
  let others := x.guesses.drop before.length
  match n with
  | 0 => return []
  | m + 1 =>
    let known ← before.mapM fun g => return (g.parameter, ← guessed k m i g.parameter)
    return known ++ others.map fun g => (g.parameter, unknownType)

end

/-- What all type parameters of an inference are taken for. -/
def guesses (k : Rules) (i : Nat) : Check Substitution := guessedAll k 32 i

/-- A type as far as it is inferred, without settling anything. -/
def inferred (k : Rules) (i : Nat) (t : TypeId) : Check TypeId := do
  k.instantiate (← guesses k i) t

/-- A type as far as it is inferred; what it mentions is settled. -/
def settled (k : Rules) (i : Nat) (t : TypeId) : Check TypeId := do
  let x ← inferenceAt i
  let mut s : Substitution := []
  for g in x.guesses do
    if (← k.instantiate [(g.parameter, neverType)] t) ≠ t then
      changeInference i fun x => { x with guesses := x.guesses.map fun h =>
        if h.parameter = g.parameter && !h.isFixed then { h with isFixed := true, inferred := none }
        else h }
      s := s ++ [(g.parameter, ← guessed k 32 i g.parameter)]
  k.instantiate s t

end TypeLineage.Typing
