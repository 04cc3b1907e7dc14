import TypeLineage.Typing.Declared

/-! # Functions as they are written

    A function that is written gives a signature.  A parameter without a type
    has that of its default, widened, or of its pattern.  A function without a
    written result gives what its body gives. -/

namespace TypeLineage.Typing

open Source Program

/-! ## Signatures -/

/-- The parameter must be there. -/
def isRequired (p : Parameter) : Bool := !p.isOptional && !p.isRest && p.initial.isNone

/-- The parameters without the one that tells of the object itself. -/
def ownArguments (f : Function) : List Parameter :=
  f.parameters.filter (·.pattern.name? ≠ some "this")

/-- How many arguments a function must be called with. -/
def leastCount (f : Function) : Nat :=
  ((ownArguments f).reverse.dropWhile (!isRequired ·)).length

/-- A parameter as an argument of a signature. -/
def argumentOf (site : FunctionSite) (least i : Nat) (p : Parameter) : Argument :=
  { name := p.pattern.name?.getD ("__" ++ toString i)
    parameter := some p
    site := some site
    known := none
    substitution := []
    isOptional := p.isOptional || (p.initial.isSome && least ≤ i)
    isRest := p.isRest }

/-- The signature of a function. -/
def signatureOf (site : FunctionSite) : Check Signature := do
  match (← get).signatures[site.key]? with
  | some sig => return sig
  | none =>
    let f := site.function
    let least := leastCount f
    let typeParameters ← f.typeParameters.mapM (parameterType · site.scope)
    let self := (f.parameters.find? (·.pattern.name? = some "this")).map (argumentOf site least 0)
    let arguments := (ownArguments f).mapIdx (argumentOf site least)
    let sig : Signature :=
      { site := some site, typeParameters, self, arguments, known := none, parts := []
        substitution := [], least, hasRest := (ownArguments f).any (·.isRest)
        constructs := false, isAbstract := false }
    modify fun s => { s with signatures := s.signatures.insert site.key sig }
    return sig

/-- The signature of a function type. -/
def typeSignature (f : Function) (scope : Scope) (constructs isAbstract : Bool) :
    Check Signature := do
  let sig ← signatureOf ⟨f, ⟨scope, .start⟩, .plain, false⟩
  return { sig with constructs, isAbstract }

/-- The functions that count where several share a name: one that does what others announce
    does not. -/
def announced (sites : List FunctionSite) : List FunctionSite :=
  match sites with
  | first :: rest => first :: rest.filter (fun s => match s.function.body with
      | .none => true
      | _ => false)
  | [] => []

/-! ## Patterns -/

/-- A member that a pattern asks for. -/
def askedProperty (name : String) (style : NameStyle) (isOptional : Bool) (t : TypeId) : Property :=
  { name, style, isOptional, isReadonly := false, isMethod := false, isAccessor := false
    owner := none, holding := .known t, substitution := [], isDerived := true }

/-- The type of lists that can only be gone through. -/
def iterableOf (k : Rules) (element : TypeId) : Check TypeId := do
  match ← globalType? k "Iterable" with
  | some target =>
    match ← shape target with
    | .declared d => reference target (← fillArguments k d.own [element])
    | _ => return errorType
  | none => listOf k false element

mutual

/-- The type that a pattern implies. -/
def patternType (k : Rules) (env : Env) : Nat → Pattern → Check TypeId
  | 0, _ => return anyType
  | n + 1, p => do
    match p with
    | .name .. => return anyType
    | .object _ items _ =>
      let properties ← askedProperties k env n items
      let hasRest := items.any fun
        | .item _ true _ _ => true
        | _ => false
      let indexers := if hasRest then [⟨stringType, anyType, false, "x"⟩] else []
      makeShape (.object (.made ⟨properties, [], [], indexers⟩ .plain (some env.scope)) [])
    | .array _ items _ =>
      let hasRest := match items.getLast? with
        | some (.item _ true _ _) => true
        | _ => false
      if items.isEmpty || (items.length = 1 && hasRest) then
        if (← settings).target ≥ 2015 then iterableOf k anyType else listOf k false anyType
      else
        let types ← itemTypes k env n items
        let least := (items.reverse.dropWhile fun
          | .item _ false _ none => false
          | _ => true).length
        let kinds : List ElementKind := items.mapIdx fun i item =>
          match item with
          | .item _ true _ _ => .rest
          | _ => if i < least then .required else .optional
        tupleOf k false ((kinds.zip types).map fun (kind, t) => ⟨kind, none, t⟩)

/-- The members that the items of a pattern ask for. -/
def askedProperties (k : Rules) (env : Env) : Nat → List PatternItem → Check (List Property)
  | 0, _ => return []
  | n + 1, items => do
    match items with
    | [] => return []
    | .item key false p initial :: rest =>
      let t ← itemType k env n p initial
      let others ← askedProperties k env n rest
      let name? ← match key with
        | some (.number text) => pure (some (text, NameStyle.number))
        | some m => do
          pure ((← resolveName k env.scope m).map fun n => (n.text, NameStyle.plain))
        | none => pure (p.name?.map (·, NameStyle.plain))
      match name? with
      | some (name, style) => return askedProperty name style initial.isSome t :: others
      | none => return others
    | _ :: rest => askedProperties k env n rest

/-- The types that the items of a pattern imply. -/
def itemTypes (k : Rules) (env : Env) : Nat → List PatternItem → Check (List TypeId)
  | 0, _ => return []
  | n + 1, items => do
    match items with
    | [] => return []
    | .hole :: rest => return anyType :: (← itemTypes k env n rest)
    | .item _ _ p initial :: rest =>
      let t ← itemType k env n p initial
      return t :: (← itemTypes k env n rest)

/-- The type that an item of a pattern implies. -/
def itemType (k : Rules) (env : Env) : Nat → Pattern → Option Passage → Check TypeId
  | 0, _, _ => return anyType
  | n + 1, p, initial => do
    match initial with
    | some passage =>
      let expected ← match p with
        | .name .. => pure none
        | _ => pure (some (← patternType k env n p))
      let t ← k.value env passage.value (.of expected)
      orUndefined k (← widenValues k t)
    | none => patternType k env n p

end

/-- The type that a pattern implies. -/
def impliedType (k : Rules) (env : Env) (p : Pattern) : Check TypeId := patternType k env 256 p

/-! ## Parameters -/

/-- The key of a parameter. -/
def parameterKey (site : FunctionSite) (p : Parameter) : Key := site.scope.key p.spot "parameter"

/-- An object gets the members, and a tuple the elements, that a pattern has defaults for. -/
def padded (k : Rules) (env : Env) (p : Pattern) (t : TypeId) : Check TypeId := do
  match p, ← shape t with
  | .object _ items _, .object (.made m form scope) s =>
    if form = .plain then return t
    let missing ← items.filterMapM fun item => do
      match item with
      | .item key false q (some initial) =>
        let name? := match key with
          | some m => m.known?
          | none => q.name?
        match name? with
        | some name =>
          if m.properties.any (·.name = name) then return none
          else return some (askedProperty name .plain true (← itemType k env 256 q (some initial)))
        | none => return none
      | _ => return none
    if missing.isEmpty then return t
    makeShape (.object (.made { m with properties := m.properties ++ missing } form scope) s)
  | .array _ items _, _ =>
    match ← tupleForm? k t with
    | none => return t
    | some (form, types) =>
      if form.hasOpen || types.length ≥ items.length then return t
      let added ← (items.drop types.length).filterMapM fun item => do
        match item with
        | .item _ true _ _ => return none
        | .item _ false q (some initial) =>
          return some ⟨.optional, none, ← itemType k env 256 q (some initial)⟩
        | _ => return some (Element.mk .optional none anyType)
      tupleOf k form.isReadonly (elementsOf form types ++ added)
  | _, _ => return t

/-- The type of a parameter's default. -/
def initialType (k : Rules) (env : Env) (p : Pattern) (initial : Passage) : Check TypeId := do
  let expected ← match p with
    | .name .. => pure none
    | _ => pure (some (← impliedType k env p))
  let t ← k.value env initial.value (.implied expected)
  keepWritten env.scope initial.value t
  padded k env p t

/-- The type of a parameter without regard to what is expected of its function. -/
def parameterTypeOf (k : Rules) (site : FunctionSite) (p : Parameter) : Check TypeId := do
  let env : Env := ⟨site.scope, site.env.flow⟩
  match p.type, p.initial with
  | some e, _ =>
    let t ← k.written site.scope e
    if p.isOptional then orUndefined k t else return t
  | none, some initial =>
    let t ← widen k (← widenValues k (← initialType k env p.pattern initial))
    if p.isOptional then orUndefined k t else return t
  | none, none =>
    match p.pattern with
    | .name .. => if p.isRest then listOf k false anyType else return anyType
    | pattern => widen k (← impliedType k env pattern)

/-- The type of a parameter. -/
def typeOfParameter (k : Rules) (site : FunctionSite) (p : Parameter) : Check TypeId := do
  let key := parameterKey site p
  match (← get).values[key]? with
  | some t => return t
  | none =>
    let t ← attemptTask (.value key) anyType (fun _ => pure anyType) (parameterTypeOf k site p)
    match (← get).values[key]? with
    | some t => return t
    | none =>
      modify fun s => { s with values := s.values.insert key t }
      return t

/-- The type of an argument. -/
def typeOfArgument (k : Rules) (a : Argument) : Check TypeId := do
  match a.known, a.parameter, a.site with
  | some t, _, _ => return t
  | none, some p, some site => k.instantiate a.substitution (← typeOfParameter k site p)
  | _, _, _ => return anyType

/-! ## Results -/

/-- The result of a function where it is written. -/
def writtenResult (k : Rules) (site : FunctionSite) : Check (Option TypeId) := do
  match site.function.result with
  | some e => return some (← k.written site.scope e)
  | none => return none

/-- What a function gives. -/
def resultOfSite (k : Rules) (site : FunctionSite) : Check TypeId := do
  match (← get).results[site.key]? with
  | some t => return t
  | none =>
    let t ← attemptTask (.result site.key) anyType (fun _ => pure anyType) <| do
      match ← writtenResult k site, site.function.body with
      | some t, _ => pure t
      | none, .none => pure anyType
      | none, _ => k.body site
    match (← get).results[site.key]? with
    | some t => return t
    | none =>
      modify fun s => { s with results := s.results.insert site.key t }
      return t

/-- What a signature gives. -/
def resultOfSignature (k : Rules) (sig : Signature) : Check TypeId := do
  match sig.known with
  | some t => return t
  | none =>
    if !sig.parts.isEmpty then
      let types ← sig.parts.mapM k.result
      k.instantiate sig.substitution (← unionOf k .subtype types none)
    else match sig.site with
      | some site => k.instantiate sig.substitution (← resultOfSite k site)
      | none => return anyType

end TypeLineage.Typing
