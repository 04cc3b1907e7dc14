import TypeLineage.Typing.Template

/-! # Mapped types

    A mapped type goes through keys and makes a member of each.  If the keys
    are those of a type, the members take over how its members are marked, and
    the mapped type is said to follow that type. -/

namespace TypeLineage.Typing

open Source Program

/-- A mapped type taken apart. -/
structure Mapped where
  type : TypeId
  spot : Nat
  /-- The type parameter that stands for a key. -/
  parameter : TypeId
  domain : TypeExpr
  renamed : Option TypeExpr
  readonlyMark : String
  optionalMark : String
  result : Option TypeExpr
  scope : Scope
  substitution : Substitution

/-- The type parameter of a mapped type, given the scope that has it. -/
def mappedParameter (scope : Scope) : Check TypeId := do
  match scope.frames with
  | .typeParameters (p :: _) :: _ => parameterType p scope
  | _ => return errorType

/-- The type as a mapped type. -/
def mapped? (t : TypeId) : Check (Option Mapped) := do
  match ← shape t with
  | .object (.mapped spot _ domain renamed readonlyMark optionalMark result scope) s =>
    return some
      ⟨t, spot, ← mappedParameter scope, domain, renamed, readonlyMark, optionalMark, result, scope, s⟩
  | _ => return none

/-- The mark of a mapped type makes members ones that need not be there. -/
def addsOptional (mark : String) : Bool := mark = "?" || mark = "+?"

/-- The mark on what may only be read, changed by that of a mapped type. -/
def changedMark (mark : String) (isReadonly : Bool) : Bool :=
  mark = "readonly" || mark = "+readonly" || (isReadonly && mark ≠ "-readonly")

namespace Mapped

/-- What stands for type parameters where the parameter stands for a key. -/
def at' (m : Mapped) (key : TypeId) : Substitution :=
  (m.parameter, key) :: m.substitution.filter (·.1 ≠ m.parameter)

/-- What the keys are taken from, as it is declared. -/
def declaredDomain (k : Rules) (m : Mapped) : Check TypeId := k.written m.scope m.domain

/-- What the keys are taken from. -/
def keys (k : Rules) (m : Mapped) : Check TypeId := do
  k.instantiate m.substitution (← m.declaredDomain k)

/-- The keys are written as those of a type. -/
def isOfKeys (m : Mapped) : Bool :=
  match m.domain with
  | .operator "keyof" _ => true
  | _ => false

/-- What the keys are renamed to. -/
def nameType? (k : Rules) (m : Mapped) : Check (Option TypeId) :=
  m.renamed.mapM fun e => do k.instantiate m.substitution (← k.written m.scope e)

/-- A type, with no value for a member that need not be there. -/
def withMark (k : Rules) (m : Mapped) (t : TypeId) : Check TypeId := do
  if (← strictNull) && addsOptional m.optionalMark then
    if ← someMember (fun u => do return (← isUndefined u) || u = voidType) t then return t
    else orMissing k t
  else return t

/-- What a key is mapped to, with the parameter standing for it. -/
def template (k : Rules) (m : Mapped) : Check TypeId := do
  match m.result with
  | none => return anyType
  | some e => m.withMark k (← k.instantiate m.substitution (← k.written m.scope e))

/-- What a key is mapped to. -/
def under (k : Rules) (m : Mapped) (key : TypeId) (wasOptional : Bool) : Check TypeId := do
  match m.result with
  | none => return anyType
  | some e =>
    let t ← k.instantiate (m.at' key) (← k.written m.scope e)
    if (← strictNull) && m.optionalMark = "-?" && wasOptional then
      if (← settings).exactOptional then whereThere true t
      else filterUnion (fun u => return !(← isUndefined u)) t
    else m.withMark k t

/-- The mapped type waits until it is known what it goes through, or what the keys are renamed
    to. -/
def isOpen (k : Rules) (m : Mapped) : Check Bool := do
  let d ← m.keys k
  if ← isGenericKey 16 d then return true
  match m.renamed with
  | none => return false
  | some e => isGenericKey 16 (← k.instantiate (m.at' d) (← k.written m.scope e))

/-- The type parameter whose members the mapped type goes through. -/
def source? (k : Rules) (m : Mapped) : Check (Option TypeId) := do
  match ← shape (← m.declaredDomain k) with
  | .keys v =>
    match ← shape v with
    | .parameter .. => return some v
    | _ => return none
  | _ => return none

/-- The type whose marks the members take over. -/
def followed? (k : Rules) (m : Mapped) : Check (Option TypeId) := do
  match m.domain with
  | .operator "keyof" whole =>
    return some (← k.instantiate m.substitution (← k.written m.scope whole))
  | _ =>
    let declared ← m.declaredDomain k
    let extended ← match ← shape declared with
      | .parameter .. => pure ((← k.bound declared).getD declared)
      | _ => pure declared
    match ← shape extended with
    | .keys of => some <$> k.instantiate m.substitution of
    | _ => return none

/-- The keys keep their names, and some may be left out. -/
def isFilter (k : Rules) (m : Mapped) : Check Bool := do
  match ← m.nameType? k with
  | some t => k.related .assignable t m.parameter
  | none => return false

/-- The keys get other names. -/
def isRenaming (k : Rules) (m : Mapped) : Check Bool := do
  match ← m.nameType? k with
  | some t => return !(← k.related .assignable t m.parameter)
  | none => return false

/-- What a type comes to for several keys is what it comes to for each of them. -/
def isShared (m : Mapped) : Nat → TypeId → Check Bool
  | 0, _ => return false
  | n + 1, t => do
    match ← shape t with
    | .conditional c _ check _ => return c.distributed.isSome && check = m.parameter
    | .union ts _ => ts.allM (m.isShared n)
    | .intersection ts => ts.allM (m.isShared n)
    | .template _ ts => ts.allM (m.isShared n)
    | .index a b => if ← m.isShared n a then m.isShared n b else return false
    | .changed _ u => m.isShared n u
    | .held u => m.isShared n u
    | .keys _ => return false
    | _ => return true

/-- Whether members need not be there, as the marks on the mapped type and on what it follows
    tell: yes, no, or as it may be. -/
def optionality (k : Rules) : Nat → TypeId → Check (Option Bool)
  | 0, _ => return none
  | n + 1, t => do
    match ← mapped? t, ← shape t with
    | some m, _ =>
      if m.optionalMark = "-?" then return some false
      else if addsOptional m.optionalMark then return some true
      else match ← m.followed? k with
        | some u => optionality k n u
        | none => return none
    | none, .intersection (first :: others) =>
      let own ← optionality k n first
      if ← others.allM fun u => return (← optionality k n u) = own then return own else return none
    | none, _ => return none

end Mapped

end TypeLineage.Typing
