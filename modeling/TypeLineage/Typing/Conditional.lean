import TypeLineage.Typing.Inference

/-! # Conditions

    A condition compares a type with another and gives one of two types.  It is
    decided as soon as that does not depend on what type parameters stand for:
    it does not hold if it would not hold even with anything in their place, and
    holds if it does with nothing known of them.  Otherwise it waits.  The
    branch that is taken may be a condition again, which is then decided in the
    place of the first. -/

namespace TypeLineage.Typing

open Source Program

/-! ## Type parameters set aside -/

/-- The type with what may be anything in place of type parameters. -/
def permissive (k : Rules) (t : TypeId) : Check TypeId := do
  match ← mentioned k t with
  | [] => return t
  | ps => k.instantiate (ps.map fun p => (p, wildType)) t

/-- The type parameter is bound by something. -/
def isBounded (p : TypeId) : Check Bool := do
  match ← shape p with
  | .parameter _ (.self _) => return true
  | .parameter _ (.marker b) => return b.isSome
  | _ =>
    match ← declarationOf? 64 p with
    | some (d, _, _) => return d.bound.isSome
    | none => return false

/-- A type parameter of which nothing is known, in place of another. -/
def freedParameter (p : TypeId) : Check TypeId := do
  match (← get).freed[p]? with
  | some q => return q
  | none =>
    let q ← match ← shape p with
      | .parameter name _ => makeShape (.parameter name .free)
      | _ => pure p
    modify fun s => { s with freed := s.freed.insert p q }
    return q

/-- The type with nothing known of its type parameters. -/
def restrictive (k : Rules) (t : TypeId) : Check TypeId := do
  match ← (← mentioned k t).filterM isBounded with
  | [] => return t
  | ps => k.instantiate (← ps.mapM fun p => return (p, ← freedParameter p)) t

/-! ## Comparing -/

/-- The elements of a tuple as it is written, if each of them must be there once. -/
def plainItems? : TypeExpr → Option (List TupleItem)
  | .tuple _ items =>
    if !items.isEmpty && items.all (fun i => !i.isRest && !i.isOptional) then some items else none
  | _ => none

/-- Two tuples as they are written have equally many elements. -/
def areTuplesAlike (check bound : TypeExpr) : Bool :=
  match plainItems? check, plainItems? bound with
  | some a, some b => a.length = b.length
  | _, _ => false

/-- A condition waits for the type. -/
def isWaiting (k : Rules) (ofTuples : Bool) (t : TypeId) : Check Bool := do
  if ← isGeneric k t then return true
  if !ofTuples then return false
  match ← tupleForm? k t with
  | some (_, types) => types.anyM (isGeneric k)
  | none => return false

/-- A name for a type, with what its arguments mention replaced. -/
def replaceSynonym (k : Rules) (s : Substitution) (y : Option Synonym) :
    Check (Option Synonym) :=
  y.mapM fun y => return { y with arguments := ← y.arguments.mapM (k.instantiate s) }

/-- What stands for type parameters where others are inferred from a comparison. -/
def withInferred (k : Rules) (c : Conditional) (s : Substitution) (check bound : TypeId) :
    Check Substitution := do
  if c.inferred.isEmpty then return s
  let isCopied ← c.inferred.mapM fun p => do
    match ← k.bound p with
    | some b => isGeneric k b
    | none => return false
  let copied := (c.inferred.zip isCopied).filterMap fun (p, flag) => if flag then some p else none
  let (copies, _) ← copyParameters k copied s
  let fresh : Substitution := copied.zip copies
  let parameters := c.inferred.map fun p => (fresh.lookup p).getD p
  let i ← startInference parameters none false
  if !(← isWaiting k (areTuplesAlike c.check c.bound) check) then
    inferFrom k i (withoutBounds ||| alwaysTurned) check (← k.instantiate fresh bound)
  let found ← guesses k i
  let inner ← c.inferred.mapM fun p => do
    let q := (fresh.lookup p).getD p
    return (p, ← k.instantiate s ((found.lookup q).getD q))
  return inner ++ s.filter fun (p, _) => !c.inferred.contains p

/-! ## Deciding -/

/-- A condition that is being decided. -/
structure Deciding where
  conditional : Conditional
  substitution : Substitution
  /-- The name that the outcome is given. -/
  synonym : Option Synonym
  /-- How many conditions with names were decided before it. -/
  turns : Nat

/-- The condition that a branch is, if it may be decided in place of another. -/
def Deciding.onward? (k : Rules) (d : Deciding) (branch : TypeId) (s : Substitution) :
    Check (Option Deciding) := do
  if s.isEmpty then return none
  match ← shape branch with
  | .conditional c own _ _ =>
    if c.outer.isEmpty then return none
    let whole ← c.outer.mapM fun p => do
      return (p, ← k.instantiate s ((own.lookup p).getD p))
    let turns := d.turns + (if c.synonym.isSome then 1 else 0)
    let next : Deciding := ⟨c, whole, none, turns⟩
    match c.distributed with
    | none => return some next
    | some p =>
      let t ← reduced k ((whole.lookup p).getD p)
      let isMany := (← isUnion t) || (← isNever t)
      return if t = p || !isMany then some next else none
  | _ => return none

/-- Decides a condition as far as that is possible, given how many steps may be taken and what
    it gives besides. -/
def decideWith (k : Rules) (forBound : Bool) : Nat → Deciding → List TypeId → Check TypeId
  | 0, _, _ => return errorType
  | n + 1, d, extra => do
    let give (t : TypeId) : Check TypeId :=
      if extra.isEmpty then return t else union k (extra ++ [t])
    if d.turns ≥ 1000 then return ← give errorType
    let c := d.conditional
    let s := d.substitution
    let check ← k.instantiate s (← k.written c.scope c.check)
    let written ← k.written c.scope c.bound
    let bound ← k.instantiate s written
    if check = errorType || bound = errorType then return errorType
    if check = wildType || bound = wildType then return wildType
    let ofTuples := areTuplesAlike c.check c.bound
    let whole ← withInferred k c s check bound
    let target ← if c.inferred.isEmpty then pure bound else k.instantiate whole written
    if !(← isWaiting k ofTuples check) && !(← isWaiting k ofTuples target) then
      let isTop := (← isAny target) || (← isKeyword .unknown target)
      let ofAny ← isAny check
      let loose ← permissive k check
      let looseTarget ← permissive k target
      let fails ← if isTop then pure false
        else if ofAny then pure true
        else pure (!(← k.related .assignable loose looseTarget))
      if fails then
        let isBoth ← if ofAny then pure true
          else if !forBound || (← isNever target) then pure false
          else someMember (fun t => k.related .assignable t loose) looseTarget
        let extra ← if isBoth then
            pure (extra ++ [← k.instantiate whole (← k.written c.scope c.yes)])
          else pure extra
        let no ← k.written c.scopeOfNo c.no
        let isNested := c.no matches .conditional ..
        let nested? ← match isNested, ← shape no with
          | true, .conditional c' _ _ _ =>
            let isAlike ← if c'.distributed.isNone then pure true
              else pure (c'.distributed = c.distributed)
            pure (if isAlike then some { d with conditional := c' } else none)
          | _, _ => pure none
        match nested? with
        | some next => return ← decideWith k forBound n next extra
        | none =>
          match ← d.onward? k no s with
          | some next => return ← decideWith k forBound n next extra
          | none =>
            let t ← k.instantiate s no
            return ← if extra.isEmpty then pure t else union k (extra ++ [t])
      let holds ← if isTop then pure true
        else k.related .assignable (← restrictive k check) (← restrictive k target)
      if holds then
        let yes ← k.written c.scope c.yes
        match ← d.onward? k yes whole with
        | some next => return ← decideWith k forBound n next extra
        | none => return ← give (← k.instantiate whole yes)
    let named ← if d.synonym.isSome then pure d.synonym else replaceSynonym k s c.synonym
    give (← makeNamed (.conditional c s check bound) named)

/-- What a condition amounts to, given what type parameters stand for and the name that it is
    given. -/
def decide (k : Rules) (forBound : Bool) (c : Conditional) (s : Substitution)
    (synonym : Option Synonym) : Check TypeId :=
  decideWith k forBound 4000 ⟨c, s, synonym, 0⟩ []

/-- A conditional type with type parameters replaced; the members of the checked type are
    taken one by one. -/
def conditionalWith (k : Rules) (forBound : Bool) (c : Conditional) (s : Substitution)
    (synonym : Option Synonym) : Check TypeId := do
  match c.distributed with
  | some p =>
    let t ← reduced k ((s.lookup p).getD p)
    let isMany := (← isUnion t) || (← isNever t)
    if t ≠ p && isMany then
      let each (u : TypeId) : Check TypeId :=
        decide k forBound c ((p, u) :: s.filter (·.1 ≠ p)) none
      match synonym, ← shape t with
      | some _, .union ts _ => unionOf k .literal (← ts.mapM each) synonym
      | _, _ => mapUnion k (fun u => some <$> each u) t
    else decide k forBound c s synonym
  | none => decide k forBound c s synonym

/-- What a condition gives where it holds, with what it infers. -/
def inferredBranch (k : Rules) (c : Conditional) (s : Substitution) (check bound : TypeId) :
    Check TypeId := do
  let whole ← withInferred k c s check bound
  k.instantiate whole (← k.written c.scope c.yes)

end TypeLineage.Typing
