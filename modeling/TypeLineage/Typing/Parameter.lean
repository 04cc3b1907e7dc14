import TypeLineage.Source.Mentions
import TypeLineage.Typing.Union

/-! # Type parameters

    A type parameter is a type of its own, made where its name is first met.
    The declarations of a class or an interface share their type parameters by
    name.  A type that is written inside others may mention their type
    parameters and that of the object itself. -/

namespace TypeLineage.Typing

open Source Program

/-! ## Declarations that belong together -/

/-- The declarations that one of a class or an interface is merged with. -/
def mergedWith (d : TypeDeclaration) (scope : Scope) : Check (List Entity) := do
  let own := Entity.type d scope
  match d.name with
  | none => return [own]
  | some name =>
    let es := (← read).namedInFrame name scope
    return if es.any (·.key = own.key) then es else [own]

/-- The classes and interfaces among declarations, each with the scope inside it. -/
def typeParts (es : List Entity) : List (TypeDeclaration × Scope) :=
  es.filterMap fun
    | .type d scope => some (d, scope)
    | _ => none

/-- The scope inside a part of a class or an interface. -/
def inside (d : TypeDeclaration) (scope : Scope) (part : TypePart) : Scope :=
  scope.enter (.type d part)

/-! ## Names -/

/-- What a path stands for as a type where it is written. -/
def typeAt (scope : Scope) (path : List String) : Check (List Entity) := do
  let w ← read
  return w.pathOf w.reach scope [.type] path

/-- The entity is another name for a type. -/
def isSynonym : Entity → Bool
  | .synonym .. => true
  | _ => false

/-- The entity is a class or an interface. -/
def isTypeDeclaration : Entity → Bool
  | .type .. => true
  | _ => false

/-- The declaration is a class. -/
def isClassEntity : Entity → Bool
  | .type d _ => d.isClass
  | _ => false

/-! ## Parameters as types -/

/-- The first declaration of a type parameter, by its key. -/
def firstKey (p : TypeParameter) (scope : Scope) : Check Key := do
  match scope.frames with
  | .type d _ :: outer =>
    let parts := typeParts (← mergedWith d { scope with frames := outer })
    let key? := parts.findSome? fun (d, s) =>
      (d.typeParameters.find? (·.name = p.name)).map fun q => s.key q.spot q.name
    return key?.getD (scope.key p.spot p.name)
  | _ => return scope.key p.spot p.name

/-- The type that a type parameter is, given the scope that has it innermost. -/
def parameterType (p : TypeParameter) (scope : Scope) : Check TypeId := do
  let own := scope.key p.spot p.name
  match (← get).declared[own]? with
  | some t => return t
  | none =>
    let key ← firstKey p scope
    let t ← match (← get).declared[key]? with
      | some t => pure t
      | none => makeShape (.parameter p.name (.declared p scope))
    modify fun s => { s with declared := (s.declared.insert key t).insert own t }
    return t

/-- The type parameters of declarations, each name once. -/
def ownParameters (es : List Entity) : Check (List TypeId) := do
  let ts ← (typeParts es).flatMapM fun (d, scope) =>
    d.typeParameters.mapM (parameterType · (inside d scope .objects))
  return ts.eraseDups

/-- The key of an object as it is written. -/
def writtenKey? (scope : Scope) (items : List ObjectItem) : Option Key :=
  (items.findSome? fun
    | .property spot _ _ => some spot
    | .shorthand spot _ => some spot
    | .method _ f => some f.spot
    | .getter _ f => some f.spot
    | .setter _ f => some f.spot
    | .spread _ => none).map (scope.key · "object")

/-- Keeps the type of a value that stands alone if that is an object as it is written, as what
    its functions speak of. -/
def keepWritten (scope : Scope) (e : Expr) (t : TypeId) : Check Unit := do
  match e with
  | .object items =>
    match writtenKey? scope items with
    | some key =>
      if (← get).turns.isEmpty then
        modify fun s => { s with writtenObjects := s.writtenObjects.insert key t }
    | none => return
  | _ => return

/-- The type of the object itself in a class or an interface. -/
def selfOf (k : Rules) (d : TypeDeclaration) (scope : Scope) : Check (Option TypeId) := do
  match ← shape (← k.declared (← mergedWith d scope)) with
  | .declared info => return some info.self
  | _ => return none

/-- A member of a class or an interface is the function. -/
def hasFunction (d : TypeDeclaration) (f : Function) : Bool :=
  d.members.any fun
    | .method _ _ _ g => g.spot = f.spot
    | .getter _ _ g => g.spot = f.spot
    | .setter _ _ g => g.spot = f.spot
    | .construction _ g => g.spot = f.spot
    | .call _ g => g.spot = f.spot
    | _ => false

/-- The class or interface whose object a place speaks of, given the function with an object of
    its own that was just left. -/
def selfFrame? (file : SourceFile) : (left : Option Function) → List Frame →
    Option (TypeDeclaration × Scope × Bool)
  | left, .type d .objects :: outer =>
    if left.all (hasFunction d) then some (d, ⟨file, outer⟩, false) else none
  | left, .type d .whole :: outer =>
    if left.all (hasFunction d) then some (d, ⟨file, outer⟩, true) else none
  | some _, _ => none
  | none, .function f :: outer => selfFrame? file (if f.isArrow then none else some f) outer
  | none, .object _ :: _ => none
  | none, .space _ :: _ => none
  | none, _ :: outer => selfFrame? file none outer
  | none, [] => none

/-- The class or interface whose object a place speaks of, the scope around it, and whether
    the class itself is meant. -/
def selfPlace? (scope : Scope) : Option (TypeDeclaration × Scope × Bool) :=
  selfFrame? scope.file none scope.frames

/-- The type parameters that frames bring in, from the outermost on, those of objects
    themselves too.  Where it is known what is mentioned, the others are left out, but for those
    that a condition infers; behind the statements of a function anything may be mentioned. -/
def frameParameters (k : Rules) (file : SourceFile) (mentions : Option (List Mention)) :
    List Frame → Check (List TypeId)
  | [] => return []
  | frame :: outer => do
    let beyond := match frame with
      | .statements .. => none
      | _ => mentions
    let rest ← frameParameters k file beyond outer
    let scope : Scope := ⟨file, frame :: outer⟩
    let keeps (m : Mention) : Bool :=
      mentions.all fun ms => ms.contains m || ms.contains .anything
    let kept (ps : List TypeParameter) : List TypeParameter := ps.filter (keeps <| .name ·.name)
    match frame with
    | .function f => return rest ++ (← (kept f.typeParameters).mapM (parameterType · scope))
    | .typeParameters ps =>
      let own ← ps.filterMapM fun p => do
        let t ← parameterType p scope
        return if keeps (.name p.name) || (← get).implied.contains t then some t else none
      return rest ++ own
    | .type d _ =>
      let isMerged := (typeParts (← mergedWith d ⟨file, outer⟩)).length > 1
      let own ← (if isMerged then d.typeParameters else kept d.typeParameters).mapM
        (parameterType · scope)
      let self ← selfOf k d ⟨file, outer⟩
      return rest ++ own ++ (if isMerged || keeps .self then self.toList else [])
    | _ => return rest

/-- The type parameters that may be mentioned at a place, or those of them that are mentioned
    where that is known. -/
def parametersAround (k : Rules) (mentions : Option (List Mention)) (scope : Scope) :
    Check (List TypeId) :=
  return (← frameParameters k scope.file mentions scope.frames).eraseDups

/-! ## What types mention -/

/-- Where an object type is written. -/
def ObjectSource.scope? : ObjectSource → Option Scope
  | .literal _ _ scope => some scope
  | .signature _ _ _ scope => some scope
  | .functions sites _ => sites.head?.map (·.env.scope)
  | .extended sites _ _ => sites.head?.map (·.env.scope)
  | .statics es => es.head?.bind Entity.scope?
  | .enumeration _ => none
  | .space _ => none
  | .mapped _ _ _ _ _ _ _ scope => some scope
  | .made _ _ scope => scope

/-- What an object type mentions, if that can be told from how it is written. -/
def ObjectSource.mentions? : ObjectSource → Option (List Mention)
  | .literal _ ms _ => some (mentionsInMembers ms)
  | .signature f _ _ _ => some (mentionsInFunction f)
  | .mapped _ _ domain renamed _ _ result _ =>
    some (mentionsIn domain ++ mentionsInOption renamed ++ mentionsInOption result)
  | .functions sites true => some (sites.flatMap (·.function.mentions))
  | _ => none

/-- The type of which one is an instance. -/
def originOf (t : TypeId) : Check TypeId := return ((← get).origins[t]?).getD t

/-- The type goes by a name with type arguments. -/
def goesByArguments (t : TypeId) : Check Bool :=
  return (← entry t).synonym.any (!·.arguments.isEmpty)

/-- The type parameters around an object type that it may mention.  One that goes by a name with
    type arguments may mention any. -/
def objectParameters (k : Rules) (t : TypeId) (source : ObjectSource) : Check (List TypeId) := do
  match source.scope? with
  | none => return []
  | some scope =>
    let isNamed ← goesByArguments (← originOf t)
    parametersAround k (if isNamed then none else source.mentions?) scope

/-- The type parameters around a reference that looks at its arguments later. -/
def deferredParameters (k : Rules) (t : TypeId) (node : TypeExpr) (scope : Scope) :
    Check (List TypeId) := do
  let isNamed ← goesByArguments (← originOf t)
  parametersAround k (if isNamed then none else some (mentionsIn node)) scope

/-- The type parameters that a type may mention, found out. -/
def findMentioned (k : Rules) : Nat → TypeId → Check (List TypeId)
  | 0, _ => return []
  | n + 1, t => do
    let current (ps : List TypeId) (s : Substitution) : Check (List TypeId) :=
      (ps.map fun p => (s.lookup p).getD p).flatMapM (findMentioned k n)
    match ← shape t with
    | .parameter .. => return [t]
    | .declared d => return d.parameters
    | .reference _ arguments => arguments.flatMapM (findMentioned k n)
    | .deferred _ node scope s =>
      current (← deferredParameters k t node scope) s
    | .object source s =>
      let ps ← objectParameters k t source
      let ps ← match source with
        | .mapped _ _ _ _ _ _ _ scope =>
          match scope.frames with
          | .typeParameters (p :: _) :: _ => do
            let own ← parameterType p scope
            pure (ps.filter (· ≠ own))
          | _ => pure ps
        | _ => pure ps
      current ps s
    | .union ts _ => ts.flatMapM (findMentioned k n)
    | .intersection ts => ts.flatMapM (findMentioned k n)
    | .keys u => findMentioned k n u
    | .index a b => return (← findMentioned k n a) ++ (← findMentioned k n b)
    | .conditional c s _ _ => current c.outer s
    | .template _ ts => ts.flatMapM (findMentioned k n)
    | .changed _ u => findMentioned k n u
    | .held u => findMentioned k n u
    | _ => return []

/-- The type parameters that a type may mention. -/
def mentioned (k : Rules) (t : TypeId) : Check (List TypeId) := do
  match (← get).mentions[t]? with
  | some ps => return ps
  | none =>
    let ps := (← findMentioned k 32 t).eraseDups
    modify fun s => { s with mentions := s.mentions.insert t ps }
    return ps

/-- The type parameters of what a class stands in, without those of objects. -/
def parametersOutside (file : SourceFile) : List Frame → Check (List TypeId)
  | [] => return []
  | frame :: outer => do
    let rest ← parametersOutside file outer
    let scope : Scope := ⟨file, frame :: outer⟩
    match frame with
    | .function f => return rest ++ (← f.typeParameters.mapM (parameterType · scope))
    | .typeParameters ps => return rest ++ (← ps.mapM (parameterType · scope))
    | .type d _ => return rest ++ (← d.typeParameters.mapM (parameterType · scope))
    | _ => return rest

/-! ## Bounds and defaults -/

/-- The declared bound of a type parameter. -/
def declaredBound? (k : Rules) (p : TypeParameter) (scope : Scope) : Check (Option TypeId) := do
  match p.bound with
  | some e =>
    let t ← k.written scope e
    if ← isError t then return some unknownType
    else if ← isAny t then return some unknownType
    else return some t
  | none => return none

/-- The declaration that a type parameter or a copy of it follows from, with what replaces
    what it mentions, in order. -/
def declarationOf? : Nat → TypeId → Check (Option (TypeParameter × Scope × List Substitution))
  | 0, _ => return none
  | n + 1, t => do
    match ← shape t with
    | .parameter _ (.declared p scope) => return some (p, scope, [])
    | .parameter _ (.copy of s) =>
      return (← declarationOf? n of).map fun (p, scope, ss) => (p, scope, ss ++ [s])
    | _ => return none

/-- The default of a type parameter. -/
def default? (k : Rules) (t : TypeId) : Check (Option TypeId) := do
  match ← declarationOf? 64 t with
  | some (p, scope, ss) =>
    match p.default' with
    | some e => return some (← ss.foldlM (fun t s => k.instantiate s t) (← k.written scope e))
    | none => return none
  | none => return none

/-- The type parameter has a default. -/
def hasDefault (t : TypeId) : Check Bool := do
  match ← declarationOf? 64 t with
  | some (p, _, _) => return p.default'.isSome
  | none => return false

/-- How many type arguments there must be. -/
def leastArguments (parameters : List TypeId) : Check Nat := do
  let flags ← parameters.mapM hasDefault
  return (flags.reverse.dropWhile id).length

/-- The arguments with the defaults of those that are missing. -/
def fillArguments (k : Rules) (parameters arguments : List TypeId) : Check (List TypeId) := do
  if arguments.length ≥ parameters.length then return arguments.take parameters.length
  let missing := parameters.drop arguments.length
  let start := arguments ++ missing.map fun _ => errorType
  let mut filled := start
  let mut i := arguments.length
  for p in missing do
    let t ← match ← default? k p with
      | some d => k.instantiate (parameters.zip filled) d
      | none => pure unknownType
    filled := filled.set i t
    i := i + 1
  return filled

/-- The number of type arguments is right. -/
def isCountRight (parameters : List TypeId) (count : Nat) : Check Bool := do
  return count ≤ parameters.length && (← leastArguments parameters) ≤ count

/-! ## Substitutions -/

/-- One substitution after another. -/
def compose (k : Rules) (first second : Substitution) : Check Substitution := do
  if first.isEmpty then return second
  if second.isEmpty then return first
  let mapped ← first.mapM fun (p, t) => return (p, ← k.instantiate second t)
  return mapped ++ second.filter fun (p, _) => !first.any (·.1 = p)

/-- Copies of type parameters, whose bounds and defaults follow a substitution and mention
    one another.  With them comes the substitution that puts them in place. -/
def copyParameters (k : Rules) (ts : List TypeId) (s : Substitution) :
    Check (List TypeId × Substitution) := do
  let copies ← ts.mapM fun t => do
    match ← shape t with
    | .parameter name _ => makeShape (.parameter name (.copy t []))
    | _ => return t
  let whole ← compose k (ts.zip copies) s
  for c in copies do
    match ← shape c with
    | .parameter name (.copy of _) => reshape c (.parameter name (.copy of whole))
    | _ => pure ()
  return (copies, whole)

/-! ## The object itself -/

/-- A type that speaks of another object as itself. -/
def withSelf (k : Rules) (t self : TypeId) : Check TypeId := do
  match ← shape t with
  | .declared d => reference t (d.parameters ++ [self])
  | .intersection ts =>
    let own ← ts.mapM fun u => do
      match ← shape u with
      | .declared d => reference u (d.parameters ++ [self])
      | .reference target arguments =>
        match ← shape target with
        | .declared d =>
          if d.parameters.length = arguments.length then reference target (arguments ++ [self])
          else return u
        | _ => return u
      | _ => return u
    if own = ts then return t else intersection k own none
  | .reference target arguments =>
    match ← shape target with
    | .declared d =>
      if d.parameters.length = arguments.length then reference target (arguments ++ [self])
      else return t
    | _ => return t
  | .deferred target _ _ _ =>
    match ← shape target with
    | .declared d =>
      let arguments ← k.arguments t
      if d.parameters.length = arguments.length then reference target (arguments ++ [self])
      else return t
    | _ => return t
  | _ => return t

end TypeLineage.Typing
