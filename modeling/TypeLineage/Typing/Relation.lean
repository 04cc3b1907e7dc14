import TypeLineage.Typing.Relation.Structure

/-! # How types compare

    A type is related to another if its values may be taken for values of the
    other.  Objects are compared by their members, functions by what they take
    and give.  The stricter relations, by which unions are simplified, order
    types that are otherwise interchangeable.

    What is being compared is taken to be related until it turns out not to be.
    A pair of types that was found related only as long as others are is kept
    until those are known; types that only go on to give rise to others of their
    kind are taken to be related, too. -/

namespace TypeLineage.Typing

open Source Program

/-! ## Pairs of types -/

/-- A declared type or a tuple with its type arguments, if they are known. -/
def knownReference? (t : TypeId) : Check (Option (TypeId × List TypeId)) := do
  match ← shape t with
  | .reference target arguments => return some (target, arguments)
  | .declared d => return some (t, d.parameters)
  | .tuple _ ps => return some (t, ps)
  | _ => return none

/-- The type is a type parameter. -/
def isParameter (t : TypeId) : Check Bool := return (← shape t) matches .parameter ..

/-- A type with type arguments, some of which are type parameters. -/
def isOpenReference : Nat → TypeId → Check Bool
  | 0, _ => return false
  | n + 1, t => do
    match ← knownReference? t with
    | some (_, arguments) => arguments.anyM fun a => do
      if ← isParameter a then return true else isOpenReference n a
    | none => return false

/-- The form of a type as far as it was told. -/
structure PairForm where
  text : String
  /-- The type parameters that were met. -/
  met : List TypeId
  isBounded : Bool

/-- Tells the form of a type with type arguments.  Type parameters stand by their place among
    those that were met before, unless they are bound by something. -/
def PairForm.tell (k : Rules) (ignoresBounds : Bool) : Nat → TypeId → PairForm → Check PairForm
  | 0, t, x => return { x with text := x.text ++ toString t }
  | n + 1, t, x => do
    match ← knownReference? t with
    | none => return { x with text := x.text ++ toString t }
    | some (target, arguments) =>
      arguments.foldlM (fun x a => do
        let plain : PairForm := { x with text := x.text ++ "-" ++ toString a }
        if ← isParameter a then
          if !ignoresBounds && (← k.bound a).isSome then return { plain with isBounded := true }
          else
            let i := x.met.idxOf a
            let met := if i = x.met.length then x.met ++ [a] else x.met
            return { x with text := x.text ++ "=" ++ toString i, met }
        else if n = 0 || !(← isOpenReference 64 a) then return plain
        else do
          let y ← PairForm.tell k ignoresBounds n a { x with text := x.text ++ "<" }
          return { y with text := y.text ++ ">" }) { x with text := x.text ++ toString target }

/-- By what a comparison is found again. -/
def pairKey (k : Rules) (ignoresBounds : Bool) (c : Comparison) (source target : TypeId) :
    Check PairKey := do
  let isTurned := c.relation = .identity && target < source
  let (s, t) := if isTurned then (target, source) else (source, target)
  let joining := match c.joining with
    | .none => 0
    | .source => 1
    | .target => 2
  if (← isOpenReference 64 s) && (← isOpenReference 64 t) then
    let own ← PairForm.tell k ignoresBounds 5 s ⟨"", [], false⟩
    let x ← PairForm.tell k ignoresBounds 5 t { own with text := own.text ++ "," }
    return ⟨c.relation.index, joining, 0, 0, x.text, x.isBounded⟩
  else return ⟨c.relation.index, joining, s, t, "", false⟩

/-! ## Types that are being compared -/

/-- What turned out on one and on another occasion. -/
def Reports.or (a b : Reports) : Reports :=
  ⟨a.isUnmeasurable || b.isUnmeasurable, a.isUnreliable || b.isUnreliable⟩

/-- Takes in what turned out when a pair of types was compared before. -/
def reportAgain (k : Rules) (found : Reports) (source : TypeId) : Check Unit := do
  if found.isUnmeasurable then reportMarked k false source
  if found.isUnreliable then reportMarked k true source

/-- Ends the comparison of a pair of types, and of all that rested on it. -/
def Comparing.endedAt (c : Comparing) (count : Nat) : Comparing :=
  let ended := c.pending.take (c.count - count)
  { c with
    pending := c.pending.drop (c.count - count)
    count := min c.count count
    pendingSet := ended.foldl (·.erase ·) c.pendingSet }

/-- Keeps what came of the comparison of a pair of types, with all pairs that rested on it. -/
def settle (key : PairKey) (count : Nat) (found : Reports) (v : Verdict) : Check Unit := do
  let now := (← get).comparing
  let isOver := now.sources.isEmpty && now.targets.isEmpty
  let ended := now.pending.take (now.count - count)
  match v with
  | .no => modify fun store => { store with
      related := store.related.insert key (false, found), comparing := now.endedAt count }
  | .unknown =>
    if isOver then modify fun store => { store with comparing := now.endedAt count }
  | .maybe | .yes =>
    if v = .yes || isOver then
      modify fun store => { store with
        related := ended.foldl (fun m own => m.insert own (true, found)) store.related
        comparing := now.endedAt count }

/-- How deep types may be compared one inside another. -/
def comparingLimit : Nat := 100

/-- How often a type may give rise to others of its kind where it is compared. -/
def givingRiseLimit : Nat := 3

/-- Works out whether two types are related, which are taken to be so meanwhile. -/
def pairCompared (k : Rules) (c : Comparison) (source target : TypeId) (key : PairKey) :
    Check Verdict := do
  let before := (← get).comparing
  let outer := (← get).reports
  let isOfSource := c.sides ≠ .target
  let isOfTarget := c.sides ≠ .source
  let sources := if isOfSource then source :: before.sources else before.sources
  let targets := if isOfTarget then target :: before.targets else before.targets
  let isSourceDeep ← if before.isSourceDeep || !isOfSource then pure before.isSourceDeep
    else isDeepAmong k givingRiseLimit sources source
  let isTargetDeep ← if before.isTargetDeep || !isOfTarget then pure before.isTargetDeep
    else isDeepAmong k givingRiseLimit targets target
  modify fun store => { store with
    comparing := { store.comparing with
      pending := key :: before.pending
      count := before.count + 1
      pendingSet := before.pendingSet.insert key
      sources, targets, isSourceDeep, isTargetDeep }
    reports := outer.map fun _ => ⟨false, false⟩
    left := store.left - 1 }
  let v ← if isSourceDeep && isTargetDeep then pure Verdict.maybe
    else structureRelated k c source target
  let found := ((← get).reports).getD ⟨false, false⟩
  modify fun store => { store with
    comparing := { store.comparing with
      sources := before.sources
      targets := before.targets
      isSourceDeep := before.isSourceDeep
      isTargetDeep := before.isTargetDeep }
    reports := outer.map (·.or found) }
  settle key before.count found v
  return v

/-- Two types are related, as was found out before or as their structure tells. -/
def pairRelated (k : Rules) (c : Comparison) (source target : TypeId) : Check Verdict := do
  let now := (← get).comparing
  if now.isTooDeep then return .no
  let key ← pairKey k false c source target
  match (← get).related[key]? with
  | some (holds, found) =>
    reportAgain k found source
    return .ofBool holds
  | none =>
    if now.pendingSet.contains key then return .maybe
    let broadest ← if key.isBounded then pairKey k true c source target else pure key
    if key.isBounded && now.pendingSet.contains { broadest with isBounded := false } then
      return .maybe
    let isTooDeep := now.sources.length ≥ comparingLimit || now.targets.length ≥ comparingLimit
      || (← get).left = 0
    if isTooDeep then
      modify fun store => { store with comparing := { store.comparing with isTooDeep } }
      return .no
    else pairCompared k c source target key

/-! ## Comparing -/

/-- Types of which one has no parts are related either way where they are only compared
    loosely. -/
def simplyComparable (r : Relation) (source target : TypeId) : Check Bool := do
  if r = .comparable && !(← isNever target) then
    if ← simplyRelated r target source then return true
  simplyRelated r source target

/-- The place of a shape among the kinds of shapes. -/
def kindOfShape : Shape → Nat
  | .keyword k => match k with
    | .any | .auto | .error => 0
    | .unknown => 1
    | .undefined | .missing => 2
    | .null => 3
    | .string => 4
    | .number => 5
    | .bigint => 6
    | .symbol => 7
    | .void => 8
    | .never => 9
    | .object => 10
  | .unresolved .. => 0
  | .text _ => 11
  | .number _ => 12
  | .bigNumber .. => 13
  | .truth _ => 14
  | .enumMember .. => 15
  | .uniqueSymbol .. => 16
  | .parameter .. => 17
  | .declared _ | .reference .. | .deferred .. | .tuple .. | .object .. => 18
  | .union .. => 19
  | .intersection _ => 20
  | .keys _ => 21
  | .index .. => 22
  | .conditional .. => 23
  | .template .. => 24
  | .changed .. => 25
  | .held _ => 26

/-- There is but one type of the kind. -/
def isSingular (s : Shape) : Bool := kindOfShape s ≤ 10

/-- The values of the type are neither null nor undefined. -/
def isPresentShape (t : TypeId) (s : Shape) : Bool :=
  match s with
  | .keyword .null | .keyword .undefined | .keyword .missing | .keyword .void => false
  | .keyword .object => true
  | _ => t = booleanType || isPrimitiveShape s || isObjectShape s

/-- What is left of a union of null or undefined and one other type. -/
def otherThanAbsent? (t : TypeId) : Check (Option TypeId) := do
  match ← shape t with
  | .union [a, b] _ => return if (← isAbsent a) && !(← isAbsent b) then some b else none
  | .union [a, b, c] _ =>
    return if (← isAbsent a) && (← isAbsent b) && !(← isAbsent c) then some c else none
  | _ => return none

/-- Types in the form in which they are compared, of which one has parts, are related. -/
def partsRelated (k : Rules) (c : Comparison) (source target : TypeId) : Check Verdict := do
  if c.joining ≠ .target then
    if ← hasExcess k c.relation source target then return .no
    if ← lacksCommon k c.relation source target then return .no
  let s ← shape source
  let t ← shape target
  let isPlain := match s, t with
    | .union .., .union .. => false
    | .union ss _, _ => ss.length < 4
    | _, .union ts _ => ts.length < 4 && !isStructuredShape s
    | _, _ => false
  if isPlain then groupRelated k c source target else pairRelated k c source target

/-- Types in the form in which they are compared are related. -/
def normalRelated (k : Rules) (c : Comparison) (source target : TypeId) : Check Verdict := do
  if source = target then return .yes
  let s ← shape source
  let t ← shape target
  if c.relation = .identity then
    if kindOfShape s ≠ kindOfShape t then return .no
    if isSingular s then return .yes
    return ← pairRelated k { c with joining := .none } source target
  if s matches .parameter .. then
    if (← k.bound source) = some target then return .yes
  let present? ← if isPresentShape source s then otherThanAbsent? target else pure none
  let target ← match present? with
    | some u => normal k true u
    | none => pure target
  if source = target then return .yes
  if ← simplyComparable c.relation source target then return .yes
  if isStructuredShape s || isStructuredShape (← shape target) then partsRelated k c source target
  else return .no

/-- Compares two types where others are being compared. -/
def typesCompared (k : Rules) (c : Comparison) (source target : TypeId) : Check Verdict := do
  if source = target then return .yes
  if isObjectShape (← shape source) && isPrimitiveShape (← shape target) then
    return .ofBool (← simplyComparable c.relation source target)
  else normalRelated k c (← normal k false source) (← normal k true target)

/-- It is known whether two objects are related. -/
def knownRelated? (k : Rules) (r : Relation) (source target : TypeId) : Check (Option Bool) := do
  if isObjectShape (← shape source) && isObjectShape (← shape target) then
    let key ← pairKey k false ⟨r, .both, .none⟩ source target
    return (← get).related[key]?.map (·.1)
  else return none

/-- Two types are related. -/
def typesRelated (k : Rules) (r : Relation) (source target : TypeId) : Check Bool := do
  let source ← regularOf source
  let target ← regularOf target
  if source = target then return true
  let isSimple ← if r = .identity then pure false else simplyComparable r source target
  if isSimple then return true
  match ← knownRelated? k r source target with
  | some b => return b
  | none =>
    let c : Comparison := ⟨r, .both, .none⟩
    let s ← shape source
    let t ← shape target
    if !(isStructuredShape s || isStructuredShape t) then
      return r = .identity && kindOfShape s = kindOfShape t && isSingular s
    else
      let before := (← get).comparing
      modify fun store => { store with comparing := .none }
      let v ← typesCompared k c source target
      modify fun store => { store with comparing := before }
      return v ≠ .no

end TypeLineage.Typing
