import TypeLineage.Typing.Conditional

/-! # Replacing type parameters

    What type parameters stand for is put in their place all through a type.
    An object is not taken apart for that: it keeps what the type parameters
    around it stand for, and its members follow when they are asked for.  The
    same object with the same types in place is one type. -/

namespace TypeLineage.Typing

open Source Program

/-- A type that is found again by what it follows from and what stands in place of type
    parameters. -/
def foundAgain (key : ObjectKey) (work : Check TypeId) : Check TypeId := do
  match (← get).objects[key]? with
  | some t => return t
  | none =>
    let t ← work
    modify fun s => { s with objects := s.objects.insert key t }
    return t

/-! ## Mapped types -/

/-- What a function makes of each member of a union that goes by another name. -/
def mapNamed (k : Rules) (f : TypeId → Check TypeId) (t : TypeId) (synonym : Option Synonym) :
    Check TypeId := do
  match synonym, ← shape t with
  | some _, .union ts _ => unionOf k .literal (← ts.mapM f) synonym
  | _, _ => mapUnion k (fun u => some <$> f u) t

/-- The kind of an element of a tuple that a mapped type goes through. -/
def changedKind (mark : String) (kind : ElementKind) : ElementKind :=
  if kind = .required && addsOptional mark then .optional
  else if kind = .optional && mark = "-?" then .required
  else kind

/-- Makes an instance of a type. -/
def makeInstance (origin : TypeId) (shape : Shape) (synonym : Option Synonym) : Check TypeId := do
  let t ← makeNamed shape synonym
  modify fun store => { store with origins := store.origins.insert t origin }
  return t

namespace Mapped

/-- What stands for type parameters where a type stands for one. -/
def with' (m : Mapped) (v t : TypeId) : Substitution := (v, t) :: m.substitution.filter (·.1 ≠ v)

/-- A mapped type with type parameters replaced, none of which it goes through. -/
def instance' (m : Mapped) (s : Substitution) (synonym : Option Synonym) : Check TypeId := do
  match ← shape m.type with
  | .object source _ => makeInstance m.type (.object source s) synonym
  | _ => return m.type

/-- A tuple that a mapped type goes through, element by element.  What takes in a list is gone
    through as that list. -/
def throughTuple (k : Rules) (m : Mapped) (v t : TypeId) (form : TupleForm)
    (types : List TypeId) : Check TypeId := do
  let through (u : TypeId) : Check TypeId := k.instantiate (m.with' v u) m.type
  let es ← (elementsOf form types).mapIdxM fun i e => do
    let u ← if i < form.fixedLength then do
        let key ← textType (toString i)
        { m with substitution := m.with' v t }.under k key (e.kind = ElementKind.optional)
      else if e.kind = ElementKind.variadic then through e.type
      else do
        let list ← through (← listOf k false e.type)
        pure ((← elementOf? k list).getD unknownType)
    return { e with kind := changedKind m.optionalMark e.kind, type := u }
  if es.any (·.type = errorType) then return errorType
  tupleOf k (changedMark m.readonlyMark form.isReadonly) es

/-- A type is a list or a tuple. -/
def isListLike (k : Rules) (t : TypeId) : Check Bool := do
  if ← isTuple t then return true else isList k t

/-- The list that a type is gone through as.  Anything is one if what bounds the type parameter
    is a list. -/
def listFor? (k : Rules) (v t : TypeId) : Check (Option ListForm) := do
  match ← shape t with
  | .keyword .any =>
    match ← k.bound v with
    | some b => return if ← everyMember (isListLike k) b then some ⟨false, anyType⟩ else none
    | none => return none
  | _ => listForm? k t

/-- A mapped type that goes through the members of a type parameter, with a type in place of
    it.  Lists stay lists, what holds several of them is gone through, and what has no members
    stays as it is. -/
def through (k : Rules) (m : Mapped) (v : TypeId) : Nat → TypeId → Check TypeId
  | 0, t => return t
  | n + 1, t => do
    let inner := m.with' v t
    let plain : Check TypeId := do
      m.instance' inner (← replaceSynonym k inner (← entry m.type).synonym)
    let s ← shape t
    let isIn := isObjectShape s || isOpenShape s || match s with
      | .intersection _ | .keyword .any | .keyword .unknown => true
      | _ => false
    if !isIn || t = wildType then return t
    if m.renamed.isSome then return ← plain
    match ← listFor? k v t, ← tupleForm? k t, s with
    | some l, _, _ =>
      let e ← { m with substitution := inner }.under k numberType true
      if e = errorType then return errorType
      listOf k (changedMark m.readonlyMark l.isReadonly) e
    | none, some (form, types), _ => m.throughTuple k v t form types
    | none, none, .intersection ts =>
      if ← ts.allM (isListLike k) then intersection k (← ts.mapM (m.through k v n)) none
      else plain
    | none, none, _ => plain

/-- A mapped type with type parameters replaced. -/
def replace (k : Rules) (m : Mapped) (s : Substitution) (synonym : Option Synonym) :
    Check TypeId := do
  let m := { m with substitution := s }
  let whole : Check TypeId := do
    if (← m.keys k) = wildType then return wildType else m.instance' s synonym
  match ← m.source? k with
  | some v =>
    let t := (s.lookup v).getD v
    if t = v then whole else mapNamed k (m.through k v 16) (← reduced k t) synonym
  | none => whole

end Mapped

/-! ## Types -/

/-- The name of a type with what it mentions replaced, unless another is given. -/
def newSynonym (k : Rules) (given : Option Synonym) (s : Substitution) (own : Option Synonym) :
    Check (Option Synonym) :=
  if given.isSome then return given else replaceSynonym k s own

/-- An object type with type parameters replaced. -/
def replaceObject (k : Rules) (t : TypeId) (e : TypeEntry) (source : ObjectSource)
    (own s : Substitution) (given : Option Synonym) : Check TypeId := do
  let origin ← originOf t
  let ps ← objectParameters k t source
  if ps.isEmpty then return t
  let current := ps.map fun p => (own.lookup p).getD p
  let arguments ← current.mapM (k.instantiate s)
  let named ← newSynonym k given s e.synonym
  if arguments = current && named = e.synonym then return t
  if arguments = ps && named = (← entry origin).synonym then return origin
  let key := source.key?.getD ⟨0, origin, ""⟩
  foundAgain ⟨source.word, key, arguments, named⟩ <| do
    match ← mapped? origin with
    | some m => m.replace k (ps.zip arguments) named
    | none => makeInstance origin (.object source (ps.zip arguments)) named

/-- A reference that looks at its arguments later, with type parameters replaced. -/
def replaceDeferred (k : Rules) (t : TypeId) (e : TypeEntry) (target : TypeId) (node : TypeExpr)
    (scope : Scope) (own s : Substitution) (given : Option Synonym) : Check TypeId := do
  let origin ← originOf t
  let ps ← deferredParameters k t node scope
  if ps.isEmpty then return t
  let current := ps.map fun p => (own.lookup p).getD p
  let arguments ← current.mapM (k.instantiate s)
  let named ← newSynonym k given s e.synonym
  if arguments = current && named = e.synonym then return t
  if arguments = ps && named = (← entry origin).synonym then return origin
  foundAgain ⟨"deferred", ⟨0, origin, ""⟩, arguments, named⟩
    (makeInstance origin (.deferred target node scope (ps.zip arguments)) named)

/-- A type with type parameters replaced, which may get another name by that. -/
def replaceAs (k : Rules) (given : Option Synonym) (s : Substitution) (t : TypeId) :
    Check TypeId := do
  let e ← entry t
  match e.shape with
  | .parameter .. => return (s.lookup t).getD t
  | .declared d =>
    if d.parameters.isEmpty then return t
    else reference t (← d.parameters.mapM (k.instantiate s))
  | .reference target arguments =>
    let replaced ← arguments.mapM (k.instantiate s)
    if replaced = arguments then return t
    let made ← settledReference k target replaced
    if e.isListValue then listValue made else return made
  | .deferred target node scope own => replaceDeferred k t e target node scope own s given
  | .object source own => replaceObject k t e source own s given
  | .union ts origin =>
    let from' := match origin with
      | some (.union os) => os
      | some (.intersection os) => os
      | _ => ts
    let replaced ← from'.mapM (k.instantiate s)
    if replaced = from' && (given.isNone || given = e.synonym) then return t
    let named ← newSynonym k given s e.synonym
    match origin with
    | some (.intersection _) => intersection k replaced named
    | _ => unionOf k .literal replaced named
  | .intersection ts =>
    let replaced ← ts.mapM (k.instantiate s)
    if replaced = ts && (given.isNone || given = e.synonym) then return t
    intersection k replaced (← newSynonym k given s e.synonym)
  | .keys of => keysOf k (← k.instantiate s of)
  | .index object key =>
    let named ← newSynonym k given s e.synonym
    underKnown k (← k.instantiate s object) (← k.instantiate s key) named
  | .template texts types => templateOf k texts (← types.mapM (k.instantiate s))
  | .changed word of => changedOf k word (← k.instantiate s of)
  | .held of => heldOf (← k.instantiate s of)
  | .conditional c own _ _ =>
    if c.outer.isEmpty then return t
    let arguments ← c.outer.mapM fun p => k.instantiate s ((own.lookup p).getD p)
    foundAgain ⟨"conditional", c.scope.key c.spot "", arguments, given⟩
      (conditionalWith k false c (c.outer.zip arguments) given)
  | _ => return t

/-- How deep types may be replaced one inside another. -/
def replaceDepth : Nat := 100

/-- A type with type parameters replaced.  One that gives rise to others without end is
    anything. -/
def replace (k : Rules) (s : Substitution) (t : TypeId) : Check TypeId := do
  if s.isEmpty then return t
  let store ← get
  if store.left = 0 || store.depth ≥ replaceDepth then return errorType
  set { store with left := store.left - 1, depth := store.depth + 1 }
  let u ← replaceAs k none s t
  modify fun store => { store with depth := store.depth - 1 }
  return u

end TypeLineage.Typing
