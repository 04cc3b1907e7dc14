import TypeLineage.Typing.Relation.Surplus

/-! # How signatures compare

    A signature takes the place of another if it takes whatever that takes and
    gives nothing that that would not give.  It may ask for fewer arguments.  A
    function that is handed to both is compared the other way round once more.
    A signature with type parameters of its own is first fitted to the other. -/

namespace TypeLineage.Typing

open Source Program

namespace Verdict

/-- The place of a verdict among them. -/
def rank : Verdict → Nat
  | .no => 0
  | .unknown => 1
  | .maybe => 2
  | .yes => 3

/-- The verdict where both must hold. -/
def and (a b : Verdict) : Verdict := if a.rank ≤ b.rank then a else b

/-- A verdict that is known. -/
def ofBool (b : Bool) : Verdict := if b then .yes else .no

/-- The verdict where all must hold; the first that does not ends it. -/
def all (f : α → Check Verdict) : List α → Check Verdict
  | [] => return .yes
  | x :: rest => do
    match ← f x with
    | .no => return .no
    | v => return v.and (← all f rest)

/-- The verdict where one must hold; the first that does ends it. -/
def any (f : α → Check Verdict) : List α → Check Verdict
  | [] => return .no
  | x :: rest => do
    match ← f x with
    | .no => any f rest
    | v => return v

end Verdict

/-! ## Signatures in place of others -/

/-- The one signature of a function that is nothing else. -/
def onlyCall? (k : Rules) (isPlain : Bool) (t : TypeId) : Check (Option Signature) := do
  if !(← isObject t) then return none
  let m ← k.members t
  match m.calls, m.constructs with
  | [sig], [] =>
    if isPlain && !(m.properties.isEmpty && m.indexers.isEmpty) then return none
    else return some sig
  | _, _ => return none

namespace Signature

/-- A signature as it is taken where another is expected, with what is made of the types of
    that. -/
def inContext (k : Rules) (sig context : Signature) (put : TypeId → Check TypeId)
    (withResult : Bool) : Check Signature := do
  let j ← startInference sig.typeParameters (some sig) false
  let take (priority : Nat) (s t : TypeId) : Check Unit := do inferFrom k j priority (← put s) t
  let rest? ← sig.restList? k
  let positions ← sig.positions k
  let plain := if rest?.isSome then positions - 1 else positions
  let count ← if ← context.hasOpenEnd k then pure plain
    else pure (min (← context.positions k) plain)
  match context.self, sig.self with
  | some a, some b => take 0 (← k.argument a) (← k.argument b)
  | _, _ => pure ()
  for p in List.range count do
    take 0 (← context.typeAt k p) (← sig.typeAt k p)
  match rest? with
  | some rest => take 0 (← context.listFrom k count) rest
  | none => pure ()
  if withResult then
    let claimed? ← match ← context.claim? k, ← sig.claim? k with
      | some a, some b =>
        if a.asserts = b.asserts && a.index = b.index then pure (a.type, b.type)
        else pure (none, none)
      | _, _ => pure (none, none)
    match claimed? with
    | (some s, some t) => take fromResult s t
    | _ =>
      let t ← k.result sig
      if ← mayMention k t then take fromResult (← k.result context) t
  sig.apply k ((← guesses k j).map (·.2))

/-- A signature with the type parameters that it shares with others in place of its copies of
    them, where nothing bounds them. -/
def canonical (k : Rules) (sig : Signature) : Check Signature := do
  if sig.typeParameters.isEmpty then return sig
  sig.apply k (← sig.typeParameters.mapM fun p => do
    match ← shape p with
    | .parameter _ (.copy of _) => return if (← k.bound of).isNone then of else p
    | _ => return p)

/-- The list that all further arguments form, if it is not known what lists they form. -/
def openRest? (k : Rules) (sig : Signature) : Check (Option TypeId) := do
  match ← sig.restList? k with
  | some t => if (← isList k t) || (← isAny t) then return none else return some t
  | none => return none

/-- The arguments from a position on, as a list, or anything. -/
def restAt (k : Rules) (sig : Signature) (i : Nat) : Check TypeId := do
  let t ← sig.listFrom k i
  match ← listForm? k t with
  | some l => if ← isAny l.element then return anyType else return t
  | none => return t

/-- The signature takes anything and gives anything. -/
def isTop (k : Rules) (sig : Signature) : Check Bool := do
  if !sig.typeParameters.isEmpty || !sig.hasRest then return false
  let ofAny ← match sig.self with
    | some a => do isAny (← k.argument a)
    | none => pure true
  if !ofAny then return false
  match sig.arguments with
  | [a] =>
    let t ← k.argument a
    let element := ((← listForm? k t).map (·.element)).getD t
    let isVague (u : TypeId) : Check Bool := do
      if ← isAny u then return true else isKeyword .unknown u
    if ← isVague element then isVague (← k.result sig) else return false
  | _ => return false

/-- The signature as it is declared, with what it mentions as it was there. -/
def declaredType? (k : Rules) (sig : Signature) (i : Nat) : Check (Option TypeId) := do
  if sig.substitution.isEmpty then return none
  let arguments := sig.arguments.map fun a =>
    if a.known.isSome then a else { a with substitution := [] }
  { sig with arguments }.typeAt? k i

/-- The argument is of a type that depended on type parameters before they were replaced. -/
def isReplacedAt (k : Rules) (sig : Signature) (i : Nat) : Check Bool := do
  match ← sig.declaredType? k i with
  | some t => isGeneric k t
  | none => return false

/-- The function belongs to objects or makes them. -/
def isOfMethod (sig : Signature) : Bool := sig.site.any (·.kind.isMethod)

/-- What a signature gives, or anything while that is being found out. -/
def resultSoFar (k : Rules) (sig : Signature) : Check TypeId := do
  match sig.known, sig.site with
  | none, some site =>
    if (← get).tasks.any (fun (t, _) => t = Task.result site.key) then return anyType
    else k.result sig
  | _, _ => k.result sig

end Signature

/-! ## Comparing -/

/-- How strictly signatures are compared. -/
structure Strictness where
  /-- The functions are handed to functions that are compared. -/
  isCallback : Bool
  /-- What they give may be related either way. -/
  isBivariant : Bool
  /-- They take equally many arguments. -/
  ofArity : Bool
  /-- Only what takes and gives anything takes the place of what does. -/
  ofTop : Bool

/-- Null and undefined are among the members of both types, or of neither. -/
def areAlikeAbsent (s t : TypeId) : Check Bool := do
  let ofUndefined (u : TypeId) : Check Bool := someMember isUndefined u
  let ofNull (u : TypeId) : Check Bool := someMember (isKeyword .null) u
  return (← ofUndefined s) = (← ofUndefined t) && (← ofNull s) = (← ofNull t)

/-- What one function tells about its arguments is at least what another tells. -/
def claimsRelated (compare : TypeId → TypeId → Check Verdict) (a b : Claim) : Check Verdict := do
  if a.asserts ≠ b.asserts || a.index ≠ b.index then return .no
  match a.type, b.type with
  | some s, some t => if s = t then return .yes else compare s t
  | none, none => return .yes
  | _, _ => return .no

/-- One of two arguments may be taken for the other, as the signatures are compared. -/
def argumentsRelated (compare : TypeId → TypeId → Check Verdict) (isStrict isCallback : Bool)
    (s t : TypeId) : Check Verdict := do
  if !isCallback && !isStrict then
    match ← compare s t with
    | .no => compare t s
    | v => return v
  else compare t s

/-- One signature takes the place of another, given how deep functions that are handed in are
    compared. -/
def functionRelated (k : Rules) (compare : TypeId → TypeId → Check Verdict) :
    Nat → Strictness → (source target : Signature) → Check Verdict
  | 0, _, _, _ => return .yes
  | n + 1, x, source, target => do
    let isTop ← source.isTop k
    let isTargetTop ← target.isTop k
    if !(x.ofTop && isTop) && isTargetTop then return .yes
    if x.ofTop && isTop && !isTargetTop then return .no
    let targetCount ← target.positions k
    let hasMore ← if ← target.hasOpenEnd k then pure false
      else if x.ofArity then pure ((← source.hasOpenEnd k) || (← source.positions k) > targetCount)
      else pure ((← source.leastPositions k) > targetCount)
    if hasMore then return .no
    let isFitted := !source.typeParameters.isEmpty
      && source.typeParameters ≠ target.typeParameters
    let target ← if isFitted then target.canonical k else pure target
    let source ← if isFitted then source.inContext k target pure true else pure source
    let sourceCount ← source.positions k
    let sourceRest? ← source.openRest? k
    let targetRest? ← target.openRest? k
    match sourceRest?.or targetRest? with
    | some t => reportMarked k false t
    | none => pure ()
    let isStrict := !x.isCallback && (← settings).strictFunctions && !target.isOfMethod
    let ofSelf ← match source.self, target.self with
      | some a, some b => do
        let s ← k.argument a
        if s = voidType then pure Verdict.yes
        else argumentsRelated compare isStrict false s (← k.argument b)
      | _, _ => pure .yes
    if ofSelf = .no then return .no
    let hasRest := sourceRest?.isSome || targetRest?.isSome
    let count := if hasRest then min sourceCount targetCount else max sourceCount targetCount
    let ofArguments ← Verdict.all (fun i => do
      let isLast := hasRest && i + 1 = count
      let s? ← if isLast then some <$> source.restAt k i else source.typeAt? k i
      let t? ← if isLast then some <$> target.restAt k i else target.typeAt? k i
      match s?, t? with
      | some s, some t =>
        if s = t && !x.ofArity then return .yes
        let callbacks? ← if x.isCallback then pure none else callbacks? source target i s t
        let v ← match callbacks? with
          | some (a, b) =>
            functionRelated k compare n ⟨true, !isStrict, x.ofArity, false⟩ b a
          | none => argumentsRelated compare isStrict x.isCallback s t
        if v ≠ .no && x.ofArity && (← source.leastPositions k) ≤ i
            && i < (← target.leastPositions k) then
          if (← compare s t) ≠ .no then return .no
        return v
      | _, _ => return .yes) (List.range count)
    if ofArguments = .no then return .no
    let soFar := ofSelf.and ofArguments
    let result ← target.resultSoFar k
    if result = voidType || (← isAny result) then return soFar
    let own ← source.resultSoFar k
    match ← target.claim? k with
    | some c =>
      match ← source.claim? k with
      | some d => return soFar.and (← claimsRelated compare d c)
      | none => return .no
    | none =>
      if x.isCallback && x.isBivariant then
        match ← compare result own with
        | .no => return soFar.and (← compare own result)
        | v => return soFar.and v
      else return soFar.and (← compare own result)
where
  /-- Functions that are handed to both, if both are nothing else. -/
  callbacks? (source target : Signature) (i : Nat) (s t : TypeId) :
      Check (Option (Signature × Signature)) := do
    let one? (sig : Signature) (u : TypeId) : Check (Option Signature) := do
      match ← onlyCall? k true (← filterUnion (fun v => return !(← isAbsent v)) u) with
      | none => return none
      | some f =>
        if ← sig.isReplacedAt k i then return none
        if (← f.claim? k).isSome then return none
        return some f
    match ← one? source s with
    | none => return none
    | some a =>
      match ← one? target t with
      | none => return none
      | some b => if ← areAlikeAbsent s t then return some (a, b) else return none

/-- Two signatures are the same. -/
def functionIdentical (k : Rules) (compare : TypeId → TypeId → Check Verdict)
    (source target : Signature) : Check Verdict := do
  let count ← target.positions k
  if (← source.positions k) ≠ count then return .no
  if (← source.leastPositions k) ≠ (← target.leastPositions k) then return .no
  if (← source.hasOpenEnd k) ≠ (← target.hasOpenEnd k) then return .no
  let own := source.typeParameters
  let others := target.typeParameters
  if own.length ≠ others.length then return .no
  let s := own.zip others
  let areBoundAlike ← Verdict.all (fun (p, q) => do
    if p = q then return .yes
    let b ← k.instantiate s ((← k.bound p).getD unknownType)
    let d ← k.instantiate s ((← default? k p).getD unknownType)
    match ← compare b ((← k.bound q).getD unknownType) with
    | .no => return .no
    | v => return v.and (← compare d ((← default? k q).getD unknownType))) s
  if areBoundAlike = .no then return .no
  let source ← if own.isEmpty then pure source else source.apply k others
  let ofSelf ← match source.self, target.self with
    | some a, some b => do compare (← k.argument a) (← k.argument b)
    | _, _ => pure .yes
  if ofSelf = .no then return .no
  let ofArguments ← Verdict.all
    (fun i => do compare (← target.typeAt k i) (← source.typeAt k i)) (List.range count)
  if ofArguments = .no then return .no
  let ofResult ← match ← source.claim? k, ← target.claim? k with
    | none, none => do compare (← k.result source) (← k.result target)
    | some a, some b => claimsRelated compare a b
    | _, _ => pure .no
  return (ofSelf.and ofArguments).and ofResult

/-! ## Signatures of objects -/

/-- How strictly a relation compares signatures. -/
def Relation.strictness (r : Relation) : Strictness :=
  ⟨false, false, r = .strictSubtype, r = .subtype || r = .strictSubtype⟩

/-- Who may construct objects: all, derived classes, or the class itself. -/
def constructionRank (sig : Signature) : Option Nat :=
  sig.site.bind fun site =>
    match site.env.scope.frames with
    | .type d _ :: _ => some ((d.members.findSome? fun
      | .construction modifiers f =>
        if f.spot ≠ site.function.spot then none
        else some (if modifiers.contains "private" then 2
          else if modifiers.contains "protected" then 1 else 0)
      | _ => none).getD 0)
    | _ => some 0

/-- Whoever may construct objects by one signature may do so by another. -/
def isConstructedAsOpenly (source target : Signature) : Bool :=
  match constructionRank source, constructionRank target with
  | some a, some b => b = 2 || (b = 1 && a ≠ 2) || (b = 0 && a = 0)
  | _, _ => true

/-- Both types are instances of the same object type, or of the same declared type. -/
def areInstancesOfOne (source target : TypeId) : Check Bool := do
  match ← shape source, ← shape target with
  | .reference a _, .reference b _ => return a = b
  | .object a s, .object b u =>
    return !s.isEmpty && !u.isEmpty && a.key?.isSome && a.key? = b.key?
  | _, _ => return false

/-- The signatures that are asked for are there. -/
def signaturesRelated (k : Rules) (c : Comparison) (source target : TypeId)
    (sources targets : List Signature) : Check Verdict := do
  let compare := k.compared { c with sides := .both }
  if c.relation = .identity then
    if sources.length ≠ targets.length then return .no
    return ← Verdict.all (fun (s, t) => functionIdentical k compare s t) (sources.zip targets)
  if source = unreadFunctionType || target = unreadFunctionType then return .yes
  match sources, targets with
  | s :: _, t :: _ =>
    let isFit := !(s.isAbstract && !t.isAbstract) && isConstructedAsOpenly s t
    if s.constructs && !isFit then return .no
  | _, _ => pure ()
  let related (erases : Bool) (s t : Signature) : Check Verdict := do
    let s ← if erases then s.erase k else pure s
    let t ← if erases then t.erase k else pure t
    functionRelated k compare 2 c.relation.strictness s t
  if (← areInstancesOfOne source target) && sources.length = targets.length then
    Verdict.all (fun (s, t) => related true s t) (sources.zip targets)
  else match sources, targets with
    | [s], [t] => related (c.relation = .comparable) s t
    | _, _ => Verdict.all (fun t => Verdict.any (fun s => related true s t) sources) targets

end TypeLineage.Typing
