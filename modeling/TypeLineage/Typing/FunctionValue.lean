import TypeLineage.Typing.Entities

/-! # Functions as values

    A function that is written as a value takes the types of its parameters from
    what is expected of it, once.  As long as a call is not known well enough
    such a function is not looked at. -/

namespace TypeLineage.Typing

open Source Program

/-! ## What depends on what is expected -/

/-- Some parameter has no type. -/
def hasOpenParameters (f : Function) : Bool :=
  f.typeParameters.isEmpty && f.parameters.any (·.type.isNone)

/-- The function says what it speaks of as itself. -/
def tellsSelf (f : Function) : Bool := f.parameters.any (·.pattern.name? = some "this")

/-- What the function is handed depends on what is expected of it, be it only what it speaks of
    as itself. -/
def takesExpected (f : Function) : Bool :=
  hasOpenParameters f || (f.typeParameters.isEmpty && !f.isArrow && !tellsSelf f)

mutual

/-- The type of a value depends on what is expected of it; fuel bounds how deep functions are
    read. -/
def needsContext : Nat → Expr → Bool
  | 0, _ => false
  | n + 1, e =>
    match e with
    | .function f => functionNeedsContext n f
    | .object items => items.any fun
      | .property _ _ e => needsContext n e
      | .method _ f => functionNeedsContext n f
      | _ => false
    | .array items => items.any (needsContext n)
    | .conditional _ yes no => needsContext n yes || needsContext n no
    | .binary operator a b =>
      (operator = "||" || operator = "??") && (needsContext n a || needsContext n b)
    | .group e => needsContext n e
    | _ => false

/-- A function depends on what is expected of it, by its parameters or by what it gives. -/
def functionNeedsContext : Nat → Function → Bool
  | 0, _ => false
  | n + 1, f =>
    takesExpected f
      || (f.typeParameters.isEmpty && f.result.isNone && match f.body with
        | .none => false
        | .value value => needsContext n value.value
        | .block statements =>
          ((FunctionSite.walk ⟨f, default, .value, false⟩ statements.block).2.results).any
            fun (e, _) => e.any (needsContext n))

end

/-- The value depends on what is expected of it. -/
def isSensitive (e : Expr) : Bool := needsContext 16 e

/-! ## What is expected -/

/-- What is expected, with what a call's result tells put in place. -/
def expectedType? (k : Rules) (x : Expectation) : Check (Option TypeId) := do
  match x.type, x.inference with
  | some t, some i =>
    let s := (← inferenceAt i).fromResult
    if s.isEmpty then return some t
    else return some (← mapUnion k (fun u => do
      if isOpenShape (← shape u) then return some (← k.instantiate s u) else return some u) t)
  | t, _ => return t

/-- Something is known of some type parameter. -/
def hasCandidates (i : Nat) : Check Bool := do
  (← inferenceAt i).guesses.anyM fun g => do
    return !g.candidates.isEmpty || !g.bounds.isEmpty || (← hasDefault g.parameter)

/-- What is expected of a function, with what is inferred so far put in place. -/
def expectedFunction? (k : Rules) (x : Expectation) : Check (Option TypeId) := do
  match x.type, x.inference with
  | some t, some i =>
    if ← hasCandidates i then
      some <$> mapUnion k (fun u => do
        if isOpenShape (← shape u) then return some (← inferred k i u) else return some u) t
    else expectedType? k x
  | _, _ => expectedType? k x

/-- How many arguments a function must be handed. -/
def neededCount (f : Function) : Nat :=
  let own := ownArguments f
  (own.takeWhile fun p => p.initial.isNone && !p.isOptional && !p.isRest).length

/-- The one signature of a type that has enough parameters for a function. -/
def oneSignature? (k : Rules) (f : Function) (t : TypeId) : Check (Option Signature) := do
  let calls := (← k.members (← k.apparent t)).calls
  let fit ← calls.filterM fun sig => do
    if ← sig.hasOpenEnd k then return true
    else return (← sig.positions k) ≥ neededCount f
  match fit with
  | [sig] => return some sig
  | _ => return none

/-- Two signatures take in the same. -/
def takeTheSame (k : Rules) (a b : Signature) : Check Bool := do
  let count ← a.positions k
  if count ≠ (← b.positions k) || a.typeParameters.length ≠ b.typeParameters.length then
    return false
  (List.range count).allM fun i => do
    k.related .identity (← a.typeAt k i) (← b.typeAt k i)

/-- The signature that is expected of a function. -/
def expectedSignature? (k : Rules) (f : Function) (x : Expectation) :
    Check (Option Signature) := do
  match ← expectedFunction? k x with
  | none => return none
  | some t =>
    match ← shape t with
    | .union ts _ =>
      let found ← ts.filterMapM (oneSignature? k f)
      match found with
      | [] => return none
      | [sig] => return some sig
      | first :: others =>
        if ← others.allM (takeTheSame k first) then
          return some { first with parts := found, known := none, substitution := [] }
        else return none
    | _ => oneSignature? k f t

/-! ## Handing types to parameters -/

/-- A parameter takes on a type. -/
def handType (k : Rules) (site : FunctionSite) (p : Parameter) (t : TypeId) : Check Unit := do
  let key := parameterKey site p
  if !(← get).values.contains key then
    let t ← if p.isOptional && p.initial.isNone then orUndefined k t else pure t
    let t ← match p.pattern with
      | .name .. => pure t
      | pattern => if t = unknownType then impliedType k site.env pattern else pure t
    modify fun s => { s with values := s.values.insert key t }

/-- A call is inferred from the written types of a function's parameters. -/
def inferFromParameters (k : Rules) (site : FunctionSite) (sig : Signature) (i : Nat) :
    Check Unit := do
  for (p, j) in (ownArguments site.function).zipIdx do
    match p.type with
    | some e =>
      if !p.isRest then
        let t ← k.written site.scope e
        let t ← if p.isOptional then orUndefined k t else pure t
        inferFrom k i 0 t (← sig.typeAt k j)
    | none => pure ()

/-- A function takes on the type parameters of what is expected.  Copies of them stand in their
    place where it is still found out what their bounds mention. -/
def handParameters (k : Rules) (site : FunctionSite) (sig : Signature) (i : Option Nat) :
    Check Substitution := do
  if sig.typeParameters.isEmpty || !site.function.typeParameters.isEmpty then return []
  let (own, s) ← match i with
    | none => pure (sig.typeParameters, [])
    | some i => do
      sig.typeParameters.forM fun p => do
        match ← k.bound p with
        | some b => discard (settled k i b)
        | none => pure ()
      let fixed := ((← inferenceAt i).guesses.filter (·.isFixed)).map (·.parameter)
      copyParameters k sig.typeParameters ((← guesses k i).filter (fixed.contains ·.1))
  let made ← signatureOf site
  modify fun s => { s with
    signatures := s.signatures.insert site.key { made with typeParameters := own } }
  return s

/-- The parameters of a function take on what is expected. -/
def handTypes (k : Rules) (site : FunctionSite) (sig : Signature) (i : Option Nat) :
    Check Unit := do
  let copied ← handParameters k site sig i
  let settle (t : TypeId) : Check TypeId := match i with
    | some i => do k.instantiate copied (← settled k i t)
    | none => pure t
  for (p, j) in (ownArguments site.function).zipIdx do
    if p.type.isNone then
      if p.isRest then handType k site p (← settle (← sig.listFrom k j))
      else match ← sig.typeAt? k j with
        | some t => handType k site p (← settle t)
        | none => pure ()

/-- A function is looked at where something is expected of it. -/
def lookAt (k : Rules) (site : FunctionSite) (x : Expectation) : Check Unit := do
  if (← get).looked.contains site.key then return
  let f := site.function
  let sig? ← expectedSignature? k f x
  if (← get).looked.contains site.key then return
  modify fun s => { s with looked := s.looked.insert site.key }
  match sig? with
  | none => return
  | some sig =>
    if functionNeedsContext 16 f then
      match x.inference with
      | some i => inferFromParameters k site sig i
      | none => pure ()
      handTypes k site sig x.inference
      match sig.self with
      | some a =>
        let own : ExpectedSelf := ⟨← k.argument a, x.inference, false⟩
        modify fun s => { s with selves := s.selves.insert site.key own }
      | none => pure ()
    else if f.typeParameters.isEmpty && sig.arguments.length > f.parameters.length then
      match x.inference with
      | some i => inferFromParameters k site sig i
      | none => pure ()
    if f.result.isNone && !(← get).results.contains site.key then
      let result ← k.result sig
      modify fun s => { s with expected := s.expected.insert site.key (result, x.inference) }
      discard (k.result (← signatureOf site))

/-- The type of a function as a value. -/
def functionType (k : Rules) (site : FunctionSite) (x : Expectation) : Check TypeId := do
  let f := site.function
  if x.skipsFunctions && functionNeedsContext 16 f then
    if f.result.isNone && !takesExpected f then
      match ← expectedSignature? k f x with
      | some sig =>
        if ← mayMention k (← k.result sig) then
          let t ← k.body site
          return ← makeShape (.object (.made ⟨[], [.ofTypes [] t], [], []⟩ .plain none) [])
      | none => pure ()
    return unreadFunctionType
  else
    lookAt k site x
    foundAgain ⟨"functions", site.key, [], none⟩
      (makeShape (.object (.functions [site] (site.kind.isMethod)) []))

end TypeLineage.Typing
