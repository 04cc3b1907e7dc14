import TypeLineage.Typing.Relation.Simple

/-! # Types in the form in which they are compared

    Before types are compared they are brought into a form that does not depend
    on how they came about: single values lose their freshness, references know
    their arguments, what has no values is left out, and what stands under a key
    is simplified as far as it can be told. -/

namespace TypeLineage.Typing

open Source Program

/-! ## Objects as they are written -/

/-- An object as it is written, where it may have other members besides. -/
def regularObjectAt (k : Rules) : Nat → TypeId → Check TypeId
  | 0, t => return t
  | n + 1, t => do
    match ← shape t with
    | .object (.made m form scope) s =>
      if !form.isFresh then return t
      match (← get).regularForms[t]? with
      | some u => return u
      | none =>
        let properties ← m.properties.mapM fun p => do
          let own ← k.property p
          let u ← regularObjectAt k n own
          return if u = own then p else { p with holding := .known u, substitution := [] }
        let form := if form = .spread then ObjectForm.regularSpread else .regular
        let u ← makeShape (.object (.made { m with properties } form scope) s)
        modify fun store => { store with regularForms := store.regularForms.insert t u }
        return u
    | _ => return t

/-- An object as it is written, where it may have other members besides. -/
def regularObject (k : Rules) (t : TypeId) : Check TypeId := regularObjectAt k 32 t

/-- The object is as it is written, and has no other members. -/
def isFreshObject (t : TypeId) : Check Bool := do
  match ← shape t with
  | .object (.made _ form _) _ => return form.isFresh
  | _ => return false

/-! ## Declared types that add nothing -/

/-- The declarations of a type have members for its objects. -/
def hasOwnMembers (es : List Entity) : Bool :=
  (typeParts es).any fun (d, _) => d.members.any fun
    | .start _ => false
    | m => !(modifiersOf m).contains "static"

/-- The class extends what a mere name stands for, if anything. -/
def extendsPlainly (es : List Entity) : Bool :=
  match (classPart? es).bind fun (c, _) => extendedEntry? c with
  | some entry => (pathOf? entry.expression).isSome
  | none => true

/-- The one type that a class or an interface extends, if it adds nothing to that. -/
def soleBase? (k : Rules) (t : TypeId) : Check (Option TypeId) := do
  let found ← match ← shape t with
    | .declared d => pure (some (t, d, d.parameters))
    | .reference target arguments =>
      match ← shape target with
      | .declared d => pure (some (target, d, arguments))
      | _ => pure none
    | _ => pure none
  match found with
  | none => return none
  | some (target, d, arguments) =>
    if !d.own.isEmpty || hasOwnMembers d.entities || !extendsPlainly d.entities then return none
    match ← k.bases target with
    | [b] =>
      let b ← if d.parameters.isEmpty then pure b
        else k.instantiate (d.parameters.zip arguments) b
      match arguments.drop d.parameters.length with
      | self :: _ => some <$> withSelf k b self
      | [] => return some b
    | _ => return none

/-! ## The form -/

/-- The type may be told more simply. -/
def isSimplifiable : Shape → Bool
  | .index .. | .conditional .. => true
  | _ => false

/-- One step towards the form in which types are compared. -/
def normalStep (k : Rules) (isSet : Bool) (again : TypeId → Check TypeId) (t : TypeId) :
    Check TypeId := do
  if ← isFresh t then return ← regularOf t
  let s ← shape t
  match s with
  | .deferred target .. => reference target (← k.arguments t)
  | .held u => return u
  | .union .. => reduced k t
  | .intersection ts =>
    let u ← reduced k t
    if u ≠ t then return u
    let hasOpen ← ts.anyM fun u => return isInstantiableShape (← shape u)
    let hasLittle ← ts.anyM fun u => do
      if ← isAbsent u then return true else isEmptyObject u
    if !(hasOpen && hasLittle) then return t
    let us ← ts.mapM again
    if us = ts then return t else intersection k us none
  | .index .. | .conditional .. => k.simplified isSet t
  | .declared _ | .reference .. | .tuple .. =>
    if ← isOpenTuple t then
      match ← tupleForm? k t with
      | some (form, types) =>
        let us ← types.mapM fun u => do
          if isSimplifiable (← shape u) then k.simplified isSet u else return u
        if us = types then return t else tupleOf k form.isReadonly (elementsOf form us)
      | none => return t
    else return (← soleBase? k t).getD t
  | _ => return t

/-- The form in which a type is compared, given how many steps may be taken. -/
def normalAt (k : Rules) (isSet : Bool) : Nat → TypeId → Check TypeId
  | 0, t => return t
  | n + 1, t => do
    let u ← normalStep k isSet (normalAt k isSet n) t
    if u = t then return t else normalAt k isSet n u

/-- The form in which a type is compared; the flag tells whether values are taken for those of
    the type. -/
def normal (k : Rules) (isSet : Bool) (t : TypeId) : Check TypeId := normalAt k isSet 32 t

end TypeLineage.Typing
