import TypeLineage.Typing.Callable

/-! # What declared types extend

    A class extends what its base value constructs; an interface extends the
    types it names.  A type does not extend itself. -/

namespace TypeLineage.Typing

open Source Program

/-- The entry that tells what a class extends. -/
def extendedEntry? (d : TypeDeclaration) : Option HeritageEntry :=
  d.heritage.findSome? fun c => if c.isExtends then c.entries.head? else none

/-- The declaration of the class among declarations. -/
def classPart? (es : List Entity) : Option (TypeDeclaration × Scope) :=
  (typeParts es).find? (·.1.isClass)

/-- The value that a class extends. -/
def baseValue (k : Rules) (t : TypeId) (d : Declared) : Check (Option TypeId) := do
  match classPart? d.entities with
  | none => return none
  | some (c, scope) =>
    match extendedEntry? c with
    | none => return none
    | some entry =>
      match (← get).baseConstructors[t]? with
      | some b => return some b
      | none =>
        let b ← attemptTask (.baseConstructor t) errorType (fun _ => pure errorType) <|
          k.value ⟨inside c scope .parent, .start⟩ entry.expression .none
        modify fun s => { s with baseConstructors := s.baseConstructors.insert t b }
        return some b

/-- The type parameter that a class extends, or extends together with others. -/
def openBase? (k : Rules) (es : List Entity) : Check (Option TypeId) := do
  let t ← k.declared es
  match ← shape t with
  | .declared d =>
    match ← baseValue k t d with
    | some b =>
      let isOpen (u : TypeId) : Check Bool := do
        match ← shape u with
        | .parameter .. | .index .. => return true
        | _ => return false
      match ← shape b with
      | .intersection ts => return (← ts.filterM isOpen).head?
      | _ => return if ← isOpen b then some b else none
    | none => return none
  | _ => return none

/-- The class that a value is, if it depends on no type parameters around it. -/
def classOfValue? (k : Rules) (t : TypeId) : Check (Option TypeId) := do
  match ← shape t with
  | .object (.statics es) _ =>
    let u ← k.declared es
    match ← shape u with
    | .declared d => return if d.outer.isEmpty then some u else none
    | _ => return some u
  | _ => return none

/-- The type is an object or a part of several. -/
def isBaseType (k : Rules) (t : TypeId) : Check Bool := do
  match ← shape t with
  | .intersection _ => return true
  | .keyword .object | .keyword .any => return true
  | .object (.mapped ..) _ => return (← openMap? k t).isNone
  | s => return isObjectShape s

/-- The type derives from a declared type. -/
def comesFrom (k : Rules) (target : TypeId) : Nat → TypeId → Check Bool
  | 0, _ => return false
  | n + 1, t => do
    let u ← match ← shape t with
      | .reference u _ => pure u
      | .deferred u _ _ _ => pure u
      | _ => pure t
    if u = target then return true
    match ← shape u with
    | .declared _ => (← k.bases u).anyM (comesFrom k target n)
    | _ => return false

/-- The constructions of a type that take so many type arguments, with them in place. -/
def appliedConstructs (k : Rules) (t : TypeId) (arguments : List TypeId) :
    Check (List Signature) := do
  let m ← k.members (← k.apparent t)
  m.constructs.filterMapM fun sig => do
    if !(← isCountRight sig.typeParameters arguments.length) then return none
    else if sig.typeParameters.isEmpty then return some sig
    else return some (← sig.apply k (← fillArguments k sig.typeParameters arguments))

/-- What a class extends. -/
def classBases (k : Rules) (t : TypeId) (d : Declared) : Check (List TypeId) := do
  match ← baseValue k t d, classPart? d.entities with
  | some value, some (c, scope) =>
    match extendedEntry? c with
    | none => return []
    | some entry =>
      if ← isError value then return []
      if ← isAny value then return [anyType]
      let inner := inside c scope .heading
      let base ← match ← classOfValue? k value with
        | some u =>
          match ← shape u with
          | .declared b =>
            let node := TypeExpr.named [b.name] entry.typeArguments
            declaredReference k .none inner b.entities node entry.typeArguments
          | _ => pure errorType
        | none =>
          let arguments ← entry.typeArguments.mapM (k.written inner)
          match ← appliedConstructs k value arguments with
          | sig :: _ => k.result sig
          | [] => pure errorType
      if ← isError base then return []
      if !(← isBaseType k base) then return []
      if ← comesFrom k t 64 base then return []
      return [base]
  | _, _ => return []

/-- What an interface extends. -/
def interfaceBases (k : Rules) (t : TypeId) (d : Declared) : Check (List TypeId) := do
  let entries := (typeParts d.entities).flatMap fun (i, scope) =>
    if i.isClass then []
    else i.heritage.flatMap fun c => c.entries.map (·, inside i scope .heading)
  entries.filterMapM fun (entry, scope) => do
    match pathOf? entry.expression with
    | none => return none
    | some path =>
      let base ← k.written scope (.named path entry.typeArguments)
      if ← isError base then return none
      if !(← isBaseType k base) then return none
      if ← comesFrom k t 64 base then return none
      return some base

/-- The types that a declared type extends. -/
def basesOf (k : Rules) (t : TypeId) : Check (List TypeId) := do
  match ← shape t with
  | .declared d =>
    match (← get).bases[t]? with
    | some bs => return bs
    | none =>
      let bs ← attemptTask (.bases t) [] pure <| do
        let ofClass ← if d.isClass then classBases k t d else pure []
        let ofInterface ← interfaceBases k t d
        pure (ofClass ++ ofInterface)
      modify fun s => { s with bases := s.bases.insert t bs }
      return bs
  | .tuple form ps =>
    let e ← tupleElement k form ps
    return [← listOf k form.isReadonly e]
  | .reference target arguments =>
    match ← shape target with
    | .declared d =>
      (← k.bases target).mapM (k.instantiate (d.parameters.zip arguments))
    | .tuple form _ => return [← listOf k form.isReadonly (← tupleElement k form arguments)]
    | _ => return []
  | .deferred target _ _ _ =>
    match ← shape target with
    | .declared d =>
      let arguments ← k.arguments t
      (← k.bases target).mapM (k.instantiate (d.parameters.zip arguments))
    | _ => return []
  | _ => return []

end TypeLineage.Typing
