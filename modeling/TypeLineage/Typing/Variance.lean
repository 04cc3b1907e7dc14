import TypeLineage.Typing.Relation

/-! # How types change with their arguments

    How a declared type changes with a type argument is found out by a trial: of
    two arguments, of which one is bound by the other, the instances are
    compared both ways.  If both ways hold, a third argument tells whether the
    type changes with it at all.  Lists and tuples change with their elements.

    While a trial is under way nothing is told about the type; what turns out
    during the trial tells how far its result can be relied on. -/

namespace TypeLineage.Typing

open Source Program

/-! ## Trials -/

/-- Makes an instance for a trial. -/
def markedInstance (make : TypeId → Check TypeId) (argument : TypeId) : Check TypeId := do
  let t ← make argument
  modify fun store => { store with marked := store.marked.insert t }
  return t

/-- How a type changes, as instances for two arguments compare. -/
def directionOf (isAlong isAgainst isNone : Bool) : Direction :=
  match isAlong, isAgainst with
  | true, true => if isNone then .none else .either
  | true, false => .along
  | false, true => .against
  | false, false => .fixed

/-- Finds out how a type changes with an argument, given how instances are made. -/
def tried (k : Rules) (make : TypeId → Check TypeId) : Check Variance := do
  let outer := (← get).reports
  modify fun store => { store with reports := some ⟨false, false⟩ }
  let wide ← markedInstance make wideArgument
  let narrow ← markedInstance make narrowArgument
  let isAlong ← k.related .assignable narrow wide
  let isAgainst ← k.related .assignable wide narrow
  let isNone ← if isAlong && isAgainst then do
      let other ← markedInstance make otherArgument
      k.related .assignable other wide
    else pure false
  let found := ((← get).reports).getD ⟨false, false⟩
  modify fun store => { store with reports := outer }
  return ⟨directionOf isAlong isAgainst isNone, found.isUnmeasurable, found.isUnreliable⟩

/-- How a type is declared to change with a type parameter. -/
def written? (p : TypeId) : Check (Option Direction) := do
  match ← shape p with
  | .parameter _ (.declared own _) =>
    return match own.isInward, own.isOutward with
      | true, true => some .fixed
      | true, false => some .against
      | false, true => some .along
      | false, false => none
  | _ => return none

/-- How what is declared under a key changes with its type parameters, given how instances are
    made. -/
def variancesUnder (k : Rules) (key : Key) (ps : List TypeId)
    (make : List TypeId → Check TypeId) : Check (Option (List Variance)) := do
  match (← get).variances[key]? with
  | some found => return found
  | none =>
    let tasks := (← get).tasks
    let isFirst := (← get).reports.isNone
    modify fun store => { store with
      variances := store.variances.insert key none
      tasks := if isFirst then [] else store.tasks }
    let found ← ps.mapM fun p => do
      match ← written? p with
      | some direction => return ⟨direction, false, false⟩
      | none => tried k fun t => make (ps.map fun q => if q = p then t else q)
    modify fun store => { store with
      variances := store.variances.insert key (some found)
      tasks }
    return some found

/-! ## Declarations -/

/-- The type is that of lists. -/
def isListDeclaration (k : Rules) (t : TypeId) : Check Bool := do
  if some t = (← globalType? k "Array") then return true
  else return some t = (← globalType? k "ReadonlyArray")

/-- How a declared type changes with its type arguments, unless that is being found out. -/
def variancesOf (k : Rules) (t : TypeId) : Check (Option (List Variance)) := do
  let target ← match ← shape t with
    | .reference target _ => pure target
    | .deferred target .. => pure target
    | _ => pure t
  match ← shape target with
  | .declared d =>
    if ← isListDeclaration k target then return some (d.parameters.map fun _ => .plain)
    else variancesUnder k d.key d.parameters (reference target)
  | .tuple form _ => return some (form.kinds.map fun _ => .plain)
  | _ => return some []

/-- How what goes by another name changes with its type arguments, unless that is being found
    out. -/
def synonymVariancesOf (k : Rules) (y : Synonym) : Check (Option (List Variance)) := do
  match (← get).synonyms[y.key]? with
  | some (body, ps) =>
    variancesUnder k y.key ps fun types => synonymWith k y.key ps body types none
  | none => return some []

end TypeLineage.Typing
