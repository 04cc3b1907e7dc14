import TypeLineage.Typing.Signature

/-! # Types that turn out to have no values

    An intersection of objects has no values if they disagree on a member by
    which values are told apart, or if different classes keep a member of one
    name to themselves.  That is only looked at when the members are asked for;
    a union is then left without such types. -/

namespace TypeLineage.Typing

open Source Program

/-- The modifiers of a member. -/
def modifiersOf : Member → List String
  | .method ms _ _ _ => ms
  | .field _ ms _ _ _ _ => ms
  | .getter ms _ _ => ms
  | .setter ms _ _ => ms
  | .construction ms _ => ms
  | .indexer ms _ _ _ => ms
  | _ => []

/-- A class keeps the member to itself alone. -/
def isPrivate (p : Property) : Bool :=
  match p.holding with
  | .members _ sites => sites.any fun s => (modifiersOf s.member).contains "private"
  | .field q _ => q.modifiers.contains "private"
  | _ => false

/-- Two members are one and the same. -/
def isSameMember (p q : Property) : Bool :=
  match p.holding, q.holding with
  | .members a _, .members b _ => a = b && p.substitution = q.substitution
  | _, _ => false

/-- The type stands for single values, or for texts of a pattern. -/
def isOfValues (t : TypeId) : Check Bool := do
  match ← shape t with
  | .template .. | .changed .. => return true
  | _ => if t = booleanType then return true else everyMember isUnit t

/-- Members of one name of types that hold together contradict each other. -/
def contradict (k : Rules) (ps : List Property) : Check Bool := do
  match ps with
  | p :: q :: others =>
    if (q :: others).all (isSameMember p) then return false
    if ps.any isPrivate then return true
    if ps.all (·.isOptional) then return false
    let types ← ps.mapM k.property
    let first := types.headD neverType
    if types.all (· = first) then return false
    if ← types.anyM isNever then return false
    if !(← types.anyM isOfValues) then return false
    isNever (← intersection k types none)
  | _ => return false

/-- Types that hold together contradict each other in a member. -/
def haveContradiction (k : Rules) (types : List TypeId) : Check Bool := do
  let lists ← types.mapM fun t => do return (← k.members (← k.apparent t)).properties
  let mut byName : Std.HashMap String (List Property) := ∅
  for p in lists.flatten do
    byName := byName.alter p.name fun known => some ((known.getD []) ++ [p])
  let mut seen : Std.HashSet String := ∅
  for p in lists.flatten do
    if !seen.contains p.name then
      seen := seen.insert p.name
      if ← contradict k (byName.getD p.name []) then return true
  return false

/-- The type without what has no values. -/
def reduced (k : Rules) (t : TypeId) : Check TypeId := do
  match ← shape t with
  | .intersection ts => ofIntersection t ts
  | .union ts _ =>
    match (← get).reductions[t]? with
    | some u => return u
    | none =>
      let us ← ts.mapM fun u => do
        match ← shape u with
        | .intersection vs => ofIntersection u vs
        | _ => return u
      let u ← if us = ts then pure t else union k us
      modify fun s => { s with reductions := s.reductions.insert t u }
      return u
  | _ => return t
where
  /-- An intersection, looked at once. -/
  ofIntersection (t : TypeId) (ts : List TypeId) : Check TypeId := do
    match (← get).reductions[t]? with
    | some u => return u
    | none =>
      modify fun s => { s with reductions := s.reductions.insert t t }
      let u := if ← haveContradiction k ts then neverType else t
      modify fun s => { s with reductions := s.reductions.insert t u }
      return u

end TypeLineage.Typing
