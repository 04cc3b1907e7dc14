import TypeLineage.Typing.Relation.Contents

/-! # How unions and intersections compare

    Each member of a union must be taken for the other type; a type is taken for
    a union if it is taken for some member of it, and for an intersection if it
    is taken for all of its members.  An object may be taken for a union none of
    whose members takes all of its values, if for each choice of the members by
    which the union is told apart some member of the union takes it. -/

namespace TypeLineage.Typing

open Source Program

section

variable (k : Rules) (c : Comparison)

/-- Compares parts of types. -/
def compareParts (sides : Sides) (joining : Joining) (s t : TypeId) : Check Verdict :=
  k.compared ⟨c.relation, sides, joining⟩ s t

/-! ## Members one by one -/

/-- The type is a single value of which only the value itself, or the type of its kind, takes
    the place. -/
def isSettledBy (r : Relation) (s : Shape) : Bool :=
  match s with
  | .text _ | .truth _ | .bigNumber .. => true
  | .number _ => r = .subtype || r = .strictSubtype
  | _ => false

/-- All members of a union are of no objects and depend on nothing. -/
def isPrimitiveUnion (t : TypeId) : Check Bool := everyMember (fun u => do
  let s ← shape u
  return isPrimitiveShape s && !isInstantiableShape s) t

/-- A type is taken for some member of others. -/
def someTarget (joining : Joining) (source target : TypeId) (types : List TypeId) :
    Check Verdict := do
  let isUnion ← isUnion target
  if isUnion then
    if types.contains source then return .yes
    let s ← shape source
    if c.relation ≠ .comparable && isSettledBy c.relation s && (← isPrimitiveUnion target) then
      let own ← regularOf source
      let kind := (baseKeyword? s).toList
      let isIn ← types.anyM fun t => return (← regularOf t) = own || kind.contains t
      return .ofBool isIn
  Verdict.any (fun t => compareParts k c .target joining source t) types

/-- Some member of a type is taken for another. -/
def someSource (joining : Joining) (source target : TypeId) (types : List TypeId) :
    Check Verdict := do
  if (← isUnion source) && types.contains target then return .yes
  Verdict.any (fun s => compareParts k c .source joining s target) types

/-- The union without undefined, if the other has none. -/
def withoutSpare (sources : List TypeId) (target : TypeId) : Check TypeId := do
  match sources, ← shape target with
  | s :: _, .union (t :: _) _ =>
    if !(← isUndefined s) && (← isUndefined t) then
      filterUnion (fun u => return !(← isUndefined u)) target
    else return target
  | _, _ => return target

/-- Every member of a union is taken for another type.  Unions that follow from one another often
    have their members in the same order. -/
def eachSource (joining : Joining) (target : TypeId) (types : List TypeId) : Check Verdict := do
  let spare ← withoutSpare types target
  let others ← match ← shape spare with
    | .union ts _ => pure ts
    | _ => pure []
  let isInStep := !others.isEmpty && others.length ≤ types.length
    && types.length % others.length = 0
  Verdict.all (fun (s, i) => do
    let v ← if isInStep then
        match others[i % others.length]? with
        | some t => compareParts k c .both joining s t
        | none => pure .no
      else pure .no
    if v ≠ .no then return v
    compareParts k c .source joining s target) types.zipIdx

/-- Each member of a type is one of another. -/
def eachAmong (target : TypeId) (sources targets : List TypeId) : Check Verdict :=
  Verdict.all (fun s => someTarget k c .none s target targets) sources

/-- One union was formed with the other in it. -/
def isFormedFrom (source target : TypeId) : Check Bool := do
  let s ← entry source
  let t ← entry target
  match s.shape, t.shape with
  | .union _ a, .union _ b =>
    let isOwn := match a with
      | some (.intersection ts) => t.synonym.isSome && ts.contains target
      | _ => false
    let isOther := match b with
      | some (.union ts) => s.synonym.isSome && ts.contains source
      | _ => false
    return isOwn || isOther
  | _, _ => return false

/-- Types of which one holds others together are related by their members. -/
def groupRelated (source target : TypeId) : Check Verdict := do
  let s ← shape source
  let t ← shape target
  match s, t with
  | .union ss _, _ =>
    if ← isFormedFrom source target then return .yes
    if c.relation = .comparable then someSource k c c.joining source target ss
    else eachSource k c c.joining target ss
  | _, .union ts _ => someTarget k c c.joining (← regularObject k source) target ts
  | _, .intersection ts => Verdict.all (fun u => compareParts k c .target .target source u) ts
  | .intersection ss, _ =>
    let ss? ← if c.relation = .comparable && isPrimitiveShape t then do
        let bases ← ss.mapM fun u => do
          if isInstantiableShape (← shape u) then baseBound k u else return u
        pure (if bases = ss then none else some bases)
      else pure none
    match ss? with
    | none => someSource k c .source source target ss
    | some bases =>
      let u ← intersection k bases none
      if ← isNever u then return .no
      match ← shape u with
      | .intersection us => someSource k c .source u target us
      | _ =>
        match ← compareParts k c .source .none u target with
        | .no => compareParts k c .source .none target u
        | v => return v
  | _, _ => return .no

/-! ## Objects for unions -/

/-- Every choice of one from each of some lists. -/
def selections : List (List α) → List (List α)
  | [] => [[]]
  | xs :: rest => xs.flatMap fun x => (selections rest).map (x :: ·)

/-- How many choices there may be. -/
def choiceLimit : Nat := 25

/-- A member of a union takes the place of an object, as far as the members tell by which the
    union is told apart. -/
def fitsChoice (tells : List Property) (choice : List TypeId) (t : TypeId) : Check Bool := do
  let mayLack := (← strictNull) || c.relation = .comparable
  (tells.zip choice).allM fun (p, u) => do
    match ← propertyOf? k t p.name with
    | none => return false
    | some q =>
      if isSameProperty p q then return true
      return (← propertyRelated k { c with joining := .none } mayLack (pure u) p q) ≠ .no

/-- An object is taken for a union as each choice of its telling members is. -/
def choiceRelated (source target : TypeId) : Check Verdict := do
  let tells ← tellsOf k source target
  if tells.isEmpty then return .no
  let lists ← tells.mapM fun p => do membersOf (← typeThere k p)
  if lists.foldl (fun n l => n * l.length) 1 > choiceLimit then return .no
  let types ← membersOf target
  let names := tells.map (·.name)
  let found ← (selections lists).mapM fun choice => types.filterM (fitsChoice k c tells choice)
  if found.any (·.isEmpty) then return .no
  let inner := { c with joining := .none }
  let m ← k.members (← k.apparent source)
  Verdict.all (fun t => do
    let n ← k.members t
    let bothTuples := (← isTuple source) && (← isTuple t)
    Verdict.all id [
      propertiesRelated k inner names false source t,
      signaturesRelated k inner source t m.calls n.calls,
      signaturesRelated k inner source t m.constructs n.constructs,
      if bothTuples then return .yes else indexersRelated k inner false source t])
    found.flatten.eraseDups

end

end TypeLineage.Typing
