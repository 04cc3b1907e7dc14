import TypeLineage.Typing.Flow.Search

/-! # Types of what is declared

    A variable without a written type has that of its first value, widened
    unless it never changes.  One that begins with nothing, or with an empty
    list, is told by the ways alone where types may not be left out.  A
    function, a class, an enumeration and a namespace are values too. -/

namespace TypeLineage.Typing

open Source Program

/-! ## Ways to declared variables -/

/-- Keeps the ways to declared variables. -/
def keepPlaces (places : List (Key × Flow)) : Check Unit :=
  modify fun s => { s with places := s.places.insertMany places }

/-- The ways to a variable of a file that no function holds. -/
def placeOf (scope : Scope) (key : Key) : Check Flow := do
  match (← get).places[key]? with
  | some flow => return flow
  | none =>
    let inFunction := scope.frames.any fun
      | .function _ => true
      | .type .. => true
      | _ => false
    let mark : Key := ⟨scope.file.index, 0, "walked"⟩
    if inFunction || (← get).places.contains mark then return .start
    let (_, x) := walkAll ⟨scope.file, []⟩ .start scope.file.statements
    keepPlaces ((mark, .start) :: x.places)
    return ((← get).places[key]?).getD .start

/-- Works something out apart from the loops that are being gone round. -/
def outsideLoops (work : Check α) : Check α := do
  let turns := (← get).turns
  modify fun s => { s with turns := [] }
  let x ← work
  modify fun s => { s with turns }
  return x

/-! ## Objects -/

/-- An object that follows from declarations, made once. -/
def objectOf (source : ObjectSource) : Check TypeId :=
  foundAgain ⟨source.word, source.key?.getD ⟨0, 0, ""⟩, [], none⟩ (makeShape (.object source []))

/-- The members that are assigned to a name in its block. -/
def assignedTo (spot : Nat) (name : String) (scope : Scope) : List Entity :=
  let pairs := scope.statements.filterMap fun
    | .value (.assign "=" (.access (.name text) member _) e) =>
      if text = name then some (member, e) else none
    | .value (.assign "=" (.index (.name text) (.text member) _) e) =>
      if text = name then some (member, e) else none
    | _ => none
  ((pairs.map (·.1)).eraseDups).map fun member =>
    .values spot member true ((pairs.filter (·.1 = member)).map (·.2)) scope

/-- The type of a function with members that are assigned to it, which functions among them speak
    of as themselves. -/
def extendedFunction (sites : List FunctionSite) (spaces added : List Entity) : Check TypeId := do
  let t ← objectOf (.extended sites spaces added)
  added.forM fun
    | .values _ _ _ values scope => values.forM fun
      | .function f =>
        modify fun s => { s with selves := s.selves.insert (scope.key f.spot "around") ⟨t, none, false⟩ }
      | _ => return
    | _ => return
  return t

/-! ## Variables -/

/-- The value is null or undefined as it is written. -/
def isNothing : Expr → Bool
  | .null => true
  | .name "undefined" => true
  | .group e => isNothing e
  | _ => false

/-- The value makes a new symbol. -/
def makesSymbol : Expr → Bool
  | .call _ (.name "Symbol") _ _ false => true
  | .group e => makesSymbol e
  | _ => false

/-- The type of a symbol of its own. -/
def symbolTypeOf (key : Key) (name : String) : Check TypeId :=
  foundAgain ⟨"symbol", key, [], none⟩ (makeShape (.uniqueSymbol key name))

/-- The keys of a value that is gone through by its keys. -/
def textKeysOf (k : Rules) (t : TypeId) : Check TypeId := do
  let keys ← keysOf k (← present k t)
  match ← shape keys with
  | .keys _ | .parameter .. =>
    return (← globalSynonym? k "Extract" [keys, stringType]).getD stringType
  | _ => return stringType

/-- The value is reached by names alone, so that the ways may tell more of its members. -/
def isPlainReference : Expr → Bool
  | .name _ => true
  | .self => true
  | .access object _ false => isPlainReference object
  | _ => false

/-- The type of the first value of a variable that is a name. -/
def namedInitialType (k : Rules) (v : DeclaredVariable) (env : Env) : Check TypeId := do
  let isConstant := v.binding = .constant
  let file := env.scope.file
  let isChecked := ((← settings).noImplicitAny || file.isScript) && !file.isAmbient && !v.isKnown
  match v.written.initial with
  | none =>
    if isChecked && !isConstant then return autoType else return anyType
  | some e =>
    if isChecked && !isConstant && isNothing e then return autoType
    if isChecked && isEmptyArray e then return ← listOf k false autoType
    if isConstant && makesSymbol e then
      if (← valueEntities env.scope "Symbol").all fun e => e.key.isOfLibrary then
        return ← symbolTypeOf (env.scope.key v.spot v.name) v.name
    let t ← k.value env e .none
    keepWritten env.scope e t
    let added := match e with
      | .function f => if isConstant then assignedTo f.spot v.name env.scope else []
      | _ => []
    let t ← match e, added with
      | .function f, _ :: _ => extendedFunction [⟨f, env, .value, false⟩] [] added
      | _, _ => pure t
    let t ← if isConstant then pure t else widenValues k t
    widen k (← if isConstant && !makesSymbol e then pure t else widenSymbols k t)

/-- The type of the whole value that a variable's pattern takes apart. -/
def wholeType (k : Rules) (v : DeclaredVariable) (env : Env) : Check TypeId := do
  match v.written.type with
  | some e => k.written env.scope e
  | none =>
    match v.source with
    | .initial =>
      match v.written.initial with
      | some e =>
        let implied ← match v.written.pattern with
          | .object _ [] _ | .array _ [] _ => pure none
          | p => some <$> impliedType k env p
        k.value env e (.implied implied)
      | none => return anyType
    | .items isAsync subject => loopItem k isAsync (← k.value env subject .none)
    | .keys _ => return stringType
    | .failure => return if (← settings).unknownFailure then unknownType else anyType

/-- The type of a variable, found out. -/
def findVariable (k : Rules) (v : DeclaredVariable) (scope : Scope) : Check TypeId := do
  let env : Env := ⟨scope, ← placeOf scope (scope.key v.spot v.name)⟩
  match v.written.pattern with
  | .name .. =>
    match v.written.type, v.source with
    | some (.operator "unique" _), _ => symbolTypeOf (scope.key v.spot v.name) v.name
    | some e, _ => k.written scope e
    | none, .initial => namedInitialType k v env
    | none, .keys subject => textKeysOf k (← k.value env subject .none)
    | none, _ => widen k (← wholeType k v env)
  | p =>
    let steps := (stepsTo? v.spot p).getD []
    match steps, v.written.type, v.source, v.written.initial with
    | [(.member (.plain name), none)], none, .initial, some e =>
      if isPlainReference e then
        return ← widen k (← k.value env (.access e name false) .none)
    | _, _, _, _ => pure ()
    let whole ← wholeType k v env
    let t ← partType k env v.written.type.isSome (v.binding = .constant) whole steps
    widen k (← widenSymbols k t)

/-- Finds the type of a value once; a value that follows from itself may be anything. -/
def onceFound (key : Key) (work : Check TypeId) : Check TypeId := do
  match (← get).values[key]? with
  | some t => return t
  | none =>
    let t ← attemptTask (.value key) anyType (fun _ => pure anyType) (outsideLoops work)
    match (← get).values[key]? with
    | some t => return t
    | none =>
      if (← get).tasks.any (fun (task, _) => task == Task.value key) then return t
      modify fun s => { s with values := s.values.insert key t }
      return t

/-! ## Arguments -/

/-- A function that a parameter belongs to, given the scope inside it. -/
def siteAround (f : Function) (scope : Scope) : FunctionSite :=
  ⟨f, ⟨{ scope with frames := scope.frames.drop 1 }, .start⟩, .plain, false⟩

/-- The type of a name that a parameter declares. -/
def argumentType (k : Rules) (name : String) (spot : Nat) (p : Parameter) (f : Function)
    (scope : Scope) : Check TypeId := do
  let site := siteAround f scope
  match p.pattern with
  | .name .. => typeOfParameter k site p
  | pattern =>
    onceFound (scope.key spot name) do
      let whole ← typeOfParameter k site p
      let whole ← defaulted k site p whole
      let t ← partType k ⟨scope, .start⟩ p.type.isSome false whole
        ((stepsTo? spot pattern).getD [])
      widen k (← widenSymbols k t)

/-! ## Declarations as values -/

/-- A declared function where it is written. -/
def declaredSite? : Entity → Option FunctionSite
  | .function f scope => some ⟨f, ⟨scope, .start⟩, .plain, false⟩
  | _ => none

/-- The type of a class as a value: it has the members of a type parameter that it extends,
    too. -/
def classValue (k : Rules) (es : List Entity) : Check TypeId := do
  let own ← objectOf (.statics es)
  match ← openBase? k es with
  | some b => intersection k [own, b] none
  | none => return own

/-- The type of declared functions, given the namespaces of their name. -/
def functionValue (sites : List FunctionSite) (spaces : List Entity) : Check TypeId := do
  let added := match sites with
    | s :: _ => (s.function.name.map (assignedTo s.function.spot · s.env.scope)).getD []
    | [] => []
  if spaces.isEmpty && added.isEmpty then objectOf (.functions sites false)
  else extendedFunction sites spaces added

/-- The type of a name for values; a part of a value is looked at where the whole is. -/
def valuesType (k : Rules) (name : String) (key : Key) (isAssigned : Bool) (values : List Expr)
    (scope : Scope) : Check TypeId :=
  onceFound key do
    let whole := (name.splitOn ".").headD name
    let flow ← if isAssigned then pure .start
      else placeOf scope (Entity.values 0 whole false values scope).key
    let types ← values.mapM fun v => do
      let t ← k.value ⟨scope, flow⟩ v .none
      if isAssigned then widenValues k t else return t
    widen k (← unionOf k .subtype types none)

/-- The type of what is declared, as a value. -/
def typeOfEntities (k : Rules) (es : List Entity) : Check TypeId := do
  match es.find? fun e => e.kind == .variable || e.kind == .blockVariable with
  | some (.variable v scope) =>
    onceFound (scope.key v.spot v.name) (findVariable k v scope)
  | _ =>
    let sites := es.filterMap declaredSite?
    if es.any isClassEntity then classValue k es
    else if !sites.isEmpty then
      let spaces := es.filter fun e => (e matches .space ..) && e.means .value
      functionValue sites spaces
    else match es.find? (·.means .value) with
      | some (.enumeration ..) => objectOf (.enumeration es)
      | some (.enumMember name parts) => freshOf (← k.declared [.enumMember name parts])
      | some (.argument name spot p f scope) => argumentType k name spot p f scope
      | some (.arguments ..) => return (← globalType? k "IArguments").getD anyType
      | some (.space ..) => objectOf (.space es)
      | some (.file _) => objectOf (.space es)
      | some (.values spot name isAssigned values scope) =>
        valuesType k name (Entity.values spot name isAssigned values scope).key isAssigned values
          scope
      | _ => return errorType

end TypeLineage.Typing
