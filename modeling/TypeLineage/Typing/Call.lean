import TypeLineage.Typing.Expected

/-! # Calls

    A call is made by the first signature that takes what is handed to it, or
    else by the one that comes closest.  Type parameters are inferred from what
    is handed in and from what is expected of the result: first without the
    functions that depend on what is expected of them, then with them. -/

namespace TypeLineage.Typing

open Source Program

/-! ## What is handed in -/

/-- Something that is handed to a call. -/
inductive Given where
  | value (e : Expr)
  /-- The items of a value. -/
  | items (e : Expr)
  | known (t : TypeId)
  /-- The items of a list. -/
  | knownItems (list : TypeId)
  deriving Inhabited

/-- It stands for any number of values. -/
def Given.isMany : Given → Bool
  | .items _ => true
  | .knownItems _ => true
  | _ => false

/-- It depends on what is expected of it. -/
def Given.isSensitive : Given → Bool
  | .value e => Typing.isSensitive e
  | _ => false

/-- A call where it is written. -/
structure CallSite where
  env : Env
  typeArguments : List TypeExpr
  given : List Given
  /-- The object whose member is called. -/
  self : Option TypeId
  expected : Expectation

/-- The elements of a tuple as something handed in. -/
def givenElements (k : Rules) (form : TupleForm) (types : List TypeId) : Check (List Given) :=
  (form.kinds.zip types).mapM fun (kind, t) => do
    match kind with
    | .rest => return .knownItems (← listOf k false t)
    | .variadic => return .knownItems t
    | _ => return .known t

/-- What is handed in by values. -/
def givenBy (k : Rules) (env : Env) (es : List Expr) : Check (List Given) :=
  es.flatMapM fun e => do
    match e with
    | .spread inner =>
      let t ← k.value env inner { Expectation.none with isTuple := true }
      match ← tupleForm? k t with
      | some (form, types) => givenElements k form types
      | none => return [.items inner]
    | e => return [.value e]

/-- The type of something handed in. -/
def Given.type (k : Rules) (env : Env) (x : Expectation) : Given → Check TypeId
  | .value e => handedValue k env e x
  | .items e => do itemOf k false (← k.value env e .none)
  | .known t => return t
  | .knownItems list => return (← elementOf? k list).getD anyType

/-! ## Counting -/

/-- As many values are handed in as a signature takes. -/
def takesCount (k : Rules) (sig : Signature) (given : List Given) : Check Bool := do
  let count := given.length
  let positions ← sig.positions k
  let least ← sig.leastPositions k
  let isOpen ← sig.hasOpenEnd k
  match given.findIdx? Given.isMany with
  | some i => return least ≤ i && (isOpen || i < positions)
  | none =>
    if !isOpen && positions < count then return false
    (List.range (least - count)).allM fun j => do
      someMember (fun t => return t = voidType) (← sig.typeAt k (count + j))

/-- As many type arguments are written as a signature takes. -/
def takesTypes (sig : Signature) (s : CallSite) : Check Bool := do
  if s.typeArguments.isEmpty then return true
  else isCountRight sig.typeParameters s.typeArguments.length

/-! ## Order -/

/-- A parameter is written as a single value. -/
def hasSingleValue (sig : Signature) : Bool :=
  sig.arguments.any fun a => match a.parameter with
    | some p => match p.type with
      | some (.text _) | some (.number _) | some (.bigNumber ..) | some (.truth _) => true
      | some (.keyword "null") => true
      | _ => false
    | none => false

/-- What tells where a signature is written: what belongs together, and the block. -/
def writtenIn (sig : Signature) : String × Nat × Nat :=
  match sig.site with
  | some site =>
    let scope := site.env.scope
    match scope.frames with
    | .type d _ :: _ => (d.name.getD "", scope.file.index, d.spot)
    | _ => ("", scope.file.index, 0)
  | none => ("", 0, 0)

/-- Signatures in the order in which they are tried: those of later blocks first, and those
    that ask for single values before all others. -/
def ordered (sigs : List Signature) : List Signature :=
  (sigs.foldl place ([], none, 0, 0, 0)).1
where
  /-- Puts in a signature, given the block of the last one, where the signatures of what belongs
      together begin, where the next goes, and how many ask for single values. -/
  place : List Signature × Option (String × Nat × Nat) × Nat × Nat × Nat → Signature →
      List Signature × Option (String × Nat × Nat) × Nat × Nat × Nat
    | (done, last, cut, next, singles), sig =>
      let own := writtenIn sig
      let (cut, next) := match last with
        | none => (cut, cut)
        | some before =>
          if before.1 = own.1 then (cut, if before = own then next + 1 else cut)
          else (done.length, done.length)
      if hasSingleValue sig then
        (done.take singles ++ [sig] ++ done.drop singles, some own, cut + 1, next, singles + 1)
      else (done.take next ++ [sig] ++ done.drop next, some own, cut, next, singles)

/-! ## Functions with type parameters that are handed in -/

/-- The type of a function with type parameters where a function without them is expected. -/
def fitted (k : Rules) (skips : Bool) (x : Expectation) (t : TypeId) : Check TypeId := do
  match ← onlyCall? k false t, x.type, x.inference with
  | some sig, some expected, some i =>
    if sig.typeParameters.isEmpty then return t
    match ← onlyCall? k true (← present k expected) with
    | some context =>
      if !context.typeParameters.isEmpty then return t
      else if skips then return unreadFunctionType
      else
        let put (t : TypeId) : Check TypeId := do
          match ← context.openRest? k with
          | some rest => if (← shape rest) matches .parameter .. then inferred k i t else settled k i t
          | none => settled k i t
        let own ← sig.inContext k context put false
        makeShape (.object (.made ⟨[], [own], [], []⟩ .plain none) [])
    | none => return t
  | _, _, _ => return t

section

variable (k : Rules)

/-! ## Inferring type parameters -/

/-- What the type parameters of an inference are taken for, and no value for those of which
    nothing is known. -/
def toldSoFar (i : Nat) : Check Substitution := do
  (← inferenceAt i).guesses.mapM fun g => do
    if g.candidates.isEmpty && g.bounds.isEmpty then return (g.parameter, untoldType)
    else return (g.parameter, ← guessed k 32 i g.parameter)

/-- What is known of type parameters of which something is known. -/
def knownOnly (i : Nat) : Check Substitution := do
  (← inferenceAt i).guesses.filterMapM fun g => do
    if g.candidates.isEmpty && g.bounds.isEmpty then return none
    else return some (g.parameter, ← guessed k 32 i g.parameter)

/-- Takes in what is expected of the result of a call. -/
def inferFromExpected (x : Expectation) (sig : Signature) (i : Nat) : Check Unit := do
  match x.type with
  | none => return
  | some expected =>
    let result ← k.result sig
    if !(← mayMention k result) then return
    if x.isImplied && (← sig.typeParameters.allM hasDefault) then return
    let outer ← match x.inference with
      | some o => k.instantiate (← toldSoFar k o) expected
      | none => pure expected
    if !x.isImplied then inferFrom k i fromResult outer result
    let j ← startInference sig.typeParameters (some sig) false
    let source ← match x.inference with
      | some o => k.instantiate (← inferenceAt o).fromResult expected
      | none => pure expected
    inferFrom k j 0 source result
    let known ← knownOnly k j
    changeInference i fun a => { a with fromResult := known }

/-- What is expected of something that is handed in where a type is taken. -/
def handing (t : TypeId) (i : Option Nat) (skips : Bool) : Expectation :=
  ⟨some t, i, skips, false, false, .whole, false⟩

/-- The list that what is handed in forms where the last parameter takes it in. -/
def handedList (s : CallSite) (given : List Given) (rest : TypeId) (i : Option Nat)
    (skips : Bool) : Check TypeId := do
  let isConstant ← expectsConstant rest
  let whole (t : TypeId) : Check TypeId := do
    match ← tupleForm? k t with
    | some (form, types) => tupleOf k false (elementsOf form types)
    | none =>
      match ← listForm? k t with
      | some l => listOf k false l.element
      | none =>
        if isOpenShape (← shape t) then return t
        else listOf k isConstant (← itemOf k false t)
  match given with
  | [.items e] => whole (← k.value s.env e (handing rest i skips))
  | [.knownItems list] => whole list
  | _ =>
    let es ← given.zipIdx.mapM fun (g, place) => do
      match g with
      | .items e =>
        let t ← k.value s.env e .none
        let isListed := (← isList k t) || (← isTuple t) || isOpenShape (← shape t)
        if isListed then return Element.mk .variadic none t
        else return Element.mk .rest none (← itemOf k false t)
      | .knownItems list => return Element.mk .variadic none list
      | g =>
        let expected ← match ← tupleForm? k rest with
          | some _ => expectedElement? k rest place given.length none none
          | none =>
            let key ← numberTypeOf (toString place)
            if isOpenShape (← shape rest) then
              some <$> operation "index" [] [rest, key] (.index rest key)
            else elementAt? k rest place
        let t ← g.type k s.env (handing (expected.getD unknownType) i skips)
        let keeps ← match expected with
          | some c => do
            let b ← if isOpenShape (← shape c) then baseBound k c else pure c
            mayBe (fun s => isPrimitiveShape s || s matches .keys _) 8 b
          | none => pure false
        let t ← if isConstant || keeps then regular k t else widenValues k t
        return Element.mk .required none t
    tupleOf k (isConstant && !(← expectsChangeable k rest)) es

/-- Takes in what is handed to a call; tells whether some function with type parameters was
    left out. -/
def inferFromGiven (s : CallSite) (sig : Signature) (i : Nat) (skips skipsGeneric : Bool) :
    Check Bool := do
  inferFromExpected k s.expected sig i
  let rest? ← sig.openRest? k
  let count ← match rest? with
    | some _ => pure (min ((← sig.positions k) - 1) s.given.length)
    | none => pure s.given.length
  match rest? with
  | some rest =>
    let isOpen := (s.given.drop count).any fun
      | .items _ => true
      | .knownItems _ => true
      | _ => false
    if !isOpen then changeGuess i rest fun g => { g with span := some (s.given.length - count) }
  | none => pure ()
  match sig.self, s.self with
  | some a, some t => inferFrom k i 0 t (← k.argument a)
  | _, _ => pure ()
  let mut hasSkipped := false
  for (g, place) in (s.given.take count).zipIdx do
    let taken ← sig.typeAt k place
    if ← mayMention k taken then
      let x := handing taken (some i) skips
      let own ← g.type k s.env x
      let t ← fitted k skipsGeneric x own
      if t = unreadFunctionType && own ≠ t then hasSkipped := true
      inferFrom k i 0 t taken
  match rest? with
  | some rest =>
    if ← mayMention k rest then
      inferFrom k i 0 (← handedList k s (s.given.drop count) rest (some i) skips) rest
  | none => pure ()
  return hasSkipped

/-! ## What a signature takes -/

/-- What is handed in may be taken for what a signature takes. -/
def takesGiven (r : Relation) (s : CallSite) (sig : Signature) (i : Option Nat) (skips : Bool) :
    Check Bool := do
  match sig.self, s.self with
  | some a, some t =>
    let wanted ← k.argument a
    if wanted ≠ voidType then
      if !(← k.related r t wanted) then return false
  | _, _ => pure ()
  let rest? ← sig.openRest? k
  let count ← match rest? with
    | some _ => pure (min ((← sig.positions k) - 1) s.given.length)
    | none => pure s.given.length
  for (g, place) in (s.given.take count).zipIdx do
    let taken ← sig.typeAt k place
    let own ← g.type k s.env (handing taken none skips)
    let t ← match i with
      | some j => inferred k j own
      | none => pure own
    if !(← k.related r t taken) then return false
  match rest? with
  | some rest => k.related r (← handedList k s (s.given.drop count) rest none skips) rest
  | none => return true

/-- A signature with type arguments in place of its type parameters, if their bounds allow
    them. -/
def withTypes? (sig : Signature) (types : List TypeId) : Check (Option Signature) := do
  let filled ← fillArguments k sig.typeParameters types
  let pairs := sig.typeParameters.zip filled
  let fits ← (pairs.take types.length).allM fun (p, t) => do
    match ← k.bound p with
    | some b => k.related .assignable t (← k.instantiate pairs b)
    | none => return true
  if fits then some <$> sig.apply k filled else return none

/-- A signature with what is inferred so far in place of its type parameters. -/
def withGuesses (sig : Signature) (i : Nat) : Check Signature := do
  sig.apply k ((← guesses k i).map (·.2))

/-- What becomes of a signature that is tried. -/
inductive Trial where
  | fits (sig : Signature)
  /-- It does not fit; what depends on what is expected was looked at if the flag is set. -/
  | fails (hasLooked : Bool)

/-- Tries one signature. -/
def attemptWith (r : Relation) (s : CallSite) (skips : Bool) (sig : Signature) : Check Trial := do
  if !(← takesTypes sig s) || !(← takesCount k sig s.given) then return .fails false
  let isGeneric := !sig.typeParameters.isEmpty
  if isGeneric && s.typeArguments.isEmpty then
    let i ← startInference sig.typeParameters (some sig) false
    let hasSkipped ← inferFromGiven k s sig i skips true
    let first ← withGuesses k sig i
    if ← isShort sig first then return .fails false
    if !(← takesGiven k r s first (some i) (skips || hasSkipped)) then return .fails false
    if !(skips || hasSkipped) then return .fits first
    discard (inferFromGiven k s sig i false false)
    let last ← withGuesses k sig i
    if ← isShort sig last then return .fails true
    if ← takesGiven k r s last (some i) false then return .fits last
    return .fails true
  else
    let made? ← if isGeneric then withTypes? k sig (← s.typeArguments.mapM (k.written s.env.scope))
      else pure (some sig)
    match made? with
    | none => return .fails false
    | some made =>
      if !(← takesGiven k r s made none skips) then return .fails false
      if !skips then return .fits made
      if ← takesGiven k r s made none false then return .fits made
      return .fails true
where
  /-- With its last parameter known the signature takes less than is handed in. -/
  isShort (sig made : Signature) : Check Bool := do
    if (← sig.openRest? k).isSome then return !(← takesCount k made s.given) else return false

/-- The first of some signatures that takes what is handed in, and whether functions that depend
    on what is expected of them are still to be looked at. -/
def choose (r : Relation) (s : CallSite) : (skips : Bool) → List Signature →
    Check (Option Signature × Bool)
  | skips, [] => return (none, skips)
  | skips, sig :: rest => do
    match ← attemptWith k r s skips sig with
    | .fits made => return (some made, skips)
    | .fails hasLooked => choose r s (skips && !hasLooked) rest

/-! ## Calls that are wrong -/

/-- The signature that takes enough, or else the most. -/
def longest (count : Nat) (sigs : List Signature) : Check (Option Signature) := do
  let sized ← sigs.mapM fun sig => do
    return (sig, ← sig.positions k, ← sig.hasOpenEnd k)
  match sized.find? fun (_, n, isOpen) => isOpen || count ≤ n with
  | some (sig, _) => return some sig
  | none =>
    return (sized.foldl (fun best (sig, n, _) => match best with
      | some (_, m) => if m < n then some (sig, n) else best
      | none => some (sig, n)) (none : Option (Signature × Nat))).map (·.1)

/-- The signature that a call which is wrong is taken to be made by. -/
def closest (s : CallSite) (sigs : List Signature) : Check (Option Signature) := do
  if sigs.length = 1 || sigs.any (!·.typeParameters.isEmpty) then
    match ← longest k s.given.length sigs with
    | none => return none
    | some sig =>
      if sig.typeParameters.isEmpty then return some sig
      else if !s.typeArguments.isEmpty then
        let types ← s.typeArguments.mapM (k.written s.env.scope)
        some <$> sig.apply k (← fillArguments k sig.typeParameters types)
      else
        let i ← startInference sig.typeParameters (some sig) false
        discard (inferFromGiven k s sig i true true)
        some <$> withGuesses k sig i
  else
    match sigs with
    | [] => return none
    | first :: _ =>
      let result ← intersection k (← sigs.mapM k.result) none
      return some { first with known := some result, substitution := [] }

/-! ## Resolving -/

/-- The classes and interfaces around a place, each with the scope around it. -/
def classesAround (file : SourceFile) : List Frame → List (TypeDeclaration × Scope)
  | [] => []
  | .type d _ :: outer => (d, ⟨file, outer⟩) :: classesAround file outer
  | _ :: outer => classesAround file outer

/-- A type is, or has among its members, the one of a function where it is written. -/
def isOfFunction (key : Key) (t : TypeId) : Check Bool :=
  someMember (fun u => do
    match ← shape u with
    | .object (.functions [site] _) [] => return site.key = key
    | _ => return false) t

/-- Of functions in a value that is handed in nothing is expected but what they are, where the
    call takes exactly that.  So what they give stands for itself, unless it is known already. -/
def leaveAlone (env : Env) : Nat → Expr → TypeId → Check Unit
  | 0, _, _ => return
  | n + 1, e, taken => do
    match e with
    | .group e => leaveAlone env n e taken
    | .function f => leaveFunction f taken
    | .conditional _ yes no =>
      leaveAlone env n yes taken
      leaveAlone env n no taken
    | .array items =>
      let taken ← present k taken
      for (item, place) in items.zipIdx do
        if holdsFunction 16 item then
          match ← expectedElement? k taken place items.length none none with
          | some t => leaveAlone env n item t
          | none => pure ()
    | .object items =>
      let taken ← present k taken
      for item in items do
        match item with
        | .property _ name e =>
          if holdsFunction 16 e then
            match ← memberOf? taken name with
            | some t => leaveAlone env n e t
            | none => pure ()
        | .method name f =>
          match ← memberOf? taken name with
          | some t => leaveFunction f t
          | none => pure ()
        | _ => pure ()
    | _ => return
where
  /-- The type of a member of what is taken. -/
  memberOf? (taken : TypeId) (name : MemberName) : Check (Option TypeId) := do
    match name.known? with
    | some name =>
      match (← k.members (← k.apparent taken)).properties.find? (·.name = name) with
      | some p => some <$> k.property p
      | none => return none
    | none => return none
  /-- Nothing is expected of a function but what it is. -/
  leaveFunction (f : Function) (t : TypeId) : Check Unit := do
    let key := env.scope.key f.spot ""
    let s ← get
    if f.result.isNone && !s.results.contains key && !s.expected.contains key then
      if ← isOfFunction key t then
        modify fun s => { s with alone := s.alone.insert key }
  /-- Some part of a value is a function. -/
  holdsFunction : Nat → Expr → Bool
    | 0, _ => false
    | n + 1, e =>
      match e with
      | .group e => holdsFunction n e
      | .function _ => true
      | .conditional _ yes no => holdsFunction n yes || holdsFunction n no
      | .array items => items.any (holdsFunction n)
      | .object items => items.any fun
        | .property _ _ e => holdsFunction n e
        | .method .. => true
        | _ => false
      | _ => false

/-- A call is made by a signature. -/
def settleCall (s : CallSite) (sig : Signature) : Check CallOutcome := do
  for (g, place) in s.given.zipIdx do
    match g with
    | .value e => if leaveAlone.holdsFunction 16 e then leaveAlone k s.env 16 e (← sig.typeAt k place)
    | _ => pure ()
  return .made sig

/-- The signature by which a call is made, of those that it may be made by. -/
def resolveAmong (s : CallSite) (sigs : List Signature) : Check CallOutcome := do
  let candidates := ordered sigs
  let isSimple := match candidates with
    | [sig] => sig.typeParameters.isEmpty
    | _ => false
  let skips := !isSimple && s.given.any Given.isSensitive
  let (found, skips) ← if candidates.length > 1 then choose k .subtype s skips candidates
    else pure (none, skips)
  let found ← match found with
    | some sig => pure (some sig)
    | none => Prod.fst <$> choose k .assignable s skips candidates
  match found with
  | some sig => settleCall k s sig
  | none =>
    match ← closest k s candidates with
    | some sig => settleCall k s sig
    | none => return .wrong

/-- What a call of a type leads to. -/
def resolveCalled (s : CallSite) (t : TypeId) : Check CallOutcome := do
  let a ← k.apparent t
  if ← isError a then return .wrong
  if ← isAny t then return .untyped
  let m ← k.members a
  if !m.calls.isEmpty then resolveAmong k s m.calls
  else if !m.constructs.isEmpty || (← isUnion a) || (← isNever a) then return .wrong
  else
    match ← globalType? k "Function" with
    | some f => return if ← k.related .assignable t f then .untyped else .wrong
    | none => return .wrong

/-- Where objects of a class are made, the class lets them be made. -/
def mayConstruct (scope : Scope) (sig : Signature) : Check Bool := do
  let own := match sig.site with
    | some site => match site.env.scope.frames with
      | .type d _ :: _ => some (d, site.env.scope.key d.spot (d.name.getD ""))
      | _ => none
    | none => none
  match own with
  | some (d, key) =>
    let words := d.members.filterMap fun
      | .construction ms _ => some ms
      | _ => none
    let isPrivate := words.any (·.contains "private")
    if !isPrivate && !words.any (·.contains "protected") then return true
    (classesAround scope.file scope.frames).anyM fun (c, s) => do
      if s.key c.spot (c.name.getD "") = key then return true
      else if isPrivate then return false
      else derives k 64 (← k.declared (← mergedWith c s)) key
  | none => return true

/-- What a construction by a type leads to. -/
def resolveConstructed (s : CallSite) (t : TypeId) : Check CallOutcome := do
  let a ← k.apparent t
  if ← isError a then return .wrong
  if ← isAny a then return .untyped
  let m ← k.members a
  match m.constructs with
  | first :: _ =>
    if !(← mayConstruct k s.env.scope first) then return .wrong
    if m.constructs.any (·.isAbstract) then return .wrong
    resolveAmong k s m.constructs
  | [] =>
    if m.calls.isEmpty then return .wrong
    match ← resolveAmong k s m.calls with
    | .made _ => return .untyped
    | o => return o

end

end TypeLineage.Typing
