import TypeLineage.Typing.Operations

/-! # Types that give rise to others

    A type may give rise to others of its kind without end.  Types are of one
    kind if they come from the same place.  Among types that are looked at one
    inside another, a type is deep if others of its kind were looked at before
    it, each of which arose from the one before. -/

namespace TypeLineage.Typing

open Source Program

/-- The key of what an object follows from. -/
def ObjectSource.key? : ObjectSource → Option Key
  | .literal spot _ scope => some (scope.key spot "")
  | .signature f _ _ scope => some (scope.key f.spot "")
  | .functions sites _ => sites.head?.map (·.key)
  | .extended sites _ _ => sites.head?.map (·.key)
  | .statics es => es.head?.map Entity.key
  | .enumeration es => es.head?.map Entity.key
  | .space es => es.head?.map Entity.key
  | .mapped spot _ _ _ _ _ _ scope => some (scope.key spot "")
  | .made .. => none

/-- A word for what an object type follows from. -/
def ObjectSource.word : ObjectSource → String
  | .literal .. => "literal"
  | .signature .. => "signature"
  | .functions .. => "functions"
  | .extended .. => "extended"
  | .statics _ => "statics"
  | .enumeration _ => "enumeration"
  | .space _ => "space"
  | .mapped .. => "mapped"
  | .made .. => "made"

/-- What a type is declared as. -/
inductive Symbol where
  | declared (key : Key)
  | object (key : Key)
  | none
  deriving DecidableEq

/-- What a type is declared as. -/
def symbolOf (t : TypeId) : Check Symbol := do
  let target ← match ← shape t with
    | .reference target _ => pure target
    | .deferred target _ _ _ => pure target
    | _ => pure t
  match ← shape target with
  | .declared d => return .declared d.key
  | .object source _ => return (source.key?.map Symbol.object).getD .none
  | _ => return .none

/-- Where a type comes from. -/
inductive Kindred where
  | declared (key : Key)
  | object (key : Key)
  | type (t : TypeId)
  deriving DecidableEq

/-- The type parameter of which others are copies. -/
def firstParameter : Nat → TypeId → Check TypeId
  | 0, t => return t
  | n + 1, t => do
    match ← shape t with
    | .parameter _ (.copy of _) => firstParameter n of
    | _ => return t

/-- The object of which a chain of keys is taken. -/
def firstObject : Nat → TypeId → Check TypeId
  | 0, t => return t
  | n + 1, t => do
    match ← shape t with
    | .index object _ => firstObject n object
    | _ => return t

/-- Where a type comes from. -/
def kindredOf (t : TypeId) : Check Kindred := do
  let e ← entry t
  match e.shape with
  | .declared d => return .declared d.key
  | .reference target _ =>
    if e.isListValue then return .type t
    match ← shape target with
    | .declared d => return .declared d.key
    | _ => return .type target
  | .deferred .. => return .type (((← get).origins[t]?).getD t)
  | .object source _ =>
    match source with
    | .statics _ => return .type t
    | _ => return (source.key?.map Kindred.object).getD (.type t)
  | .parameter .. => return .type (← firstParameter 64 t)
  | .index .. => return .type (← firstObject 64 t)
  | .conditional c .. => return .object (c.scope.key c.spot "conditional")
  | _ => return .type t

/-- The type is written or declared somewhere. -/
def hasPlace (t : TypeId) : Check Bool := do
  match ← shape t with
  | .declared _ | .reference .. | .deferred .. | .parameter .. => return true
  | .object source _ => return source.key?.isSome || (source matches .made _ _ (some _))
  | _ => return false

/-- What a mapped type with something put in place follows in the end, if that is written
    somewhere. -/
def followedThrough (k : Rules) : Nat → TypeId → Check TypeId
  | 0, t => return t
  | n + 1, t => do
    match ← mapped? t with
    | none => return t
    | some m =>
      if m.substitution.isEmpty then return t
      match ← m.followed? k with
      | none => return t
      | some u =>
        let parts ← match ← shape u with
          | .intersection ts => pure ts
          | _ => pure [u]
        if ← parts.anyM hasPlace then followedThrough k n u else return t

/-- The types that count for where a type comes from. -/
def kindredParts (k : Rules) (t : TypeId) : Check (List TypeId) := do
  let u ← followedThrough k 64 t
  match ← shape u with
  | .intersection ts => return ts
  | _ => return [u]

/-- The type, or a part of an intersection, comes from a place. -/
def isKindred (k : Rules) (kindred : Kindred) (t : TypeId) : Check Bool := do
  (← kindredParts k t).anyM fun u => return (← kindredOf u) = kindred

/-- A type is deep among types that are looked at one inside another, the last first. -/
def isDeepAmong (k : Rules) (limit : Nat) (looked : List TypeId) (t : TypeId) : Check Bool := do
  if looked.length < limit then return false
  (← kindredParts k t).anyM fun u => do
    let kindred ← kindredOf u
    let alike ← looked.reverse.filterM (isKindred k kindred)
    let (count, _) := alike.foldl
      (fun (count, last) v => (if v > last then count + 1 else count, v)) (0, 0)
    return count ≥ limit

end TypeLineage.Typing
