import TypeLineage.Typing.Value.Access
import TypeLineage.Typing.Value.Object

/-! # Types of values

    The type of a value follows from how it is written, from what is expected
    of it and from the ways that lead to it.  A chain that may end early is
    followed as a whole: it may give undefined if one of its links may. -/

namespace TypeLineage.Typing

open Source Program

section

variable (k : Rules)

/-! ## Calls -/

/-- What a call leads to, found out once; what loops tell in between is not kept. -/
def onceResolved (env : Env) (spot : Nat) (work : Check CallOutcome) : Check CallOutcome := do
  let key := env.scope.key spot "call"
  match (← get).calls[key]? with
  | some o => return o
  | none =>
    let o ← work
    if (← get).turns.isEmpty then
      modify fun s => { s with calls := s.calls.insert key o }
    return o

/-- What a call gives. -/
def outcomeType : CallOutcome → Check TypeId
  | .made sig => k.result sig
  | .untyped => return anyType
  | .wrong => return errorType

/-- The object whose member is called. -/
def calledObject? : Expr → Option Expr
  | .access object _ _ => some object
  | .index object _ _ => some object
  | .group e => calledObject? e
  | _ => none

/-- The call asks for the object whose member is called. -/
def asksForSelf (t : TypeId) : Check Bool := do
  let m ← k.members (← k.apparent t)
  return m.calls.any (·.self.isSome)

/-- What a call of a type leads to where it is written. -/
def resolveCallOf (env : Env) (callee : Expr) (t : TypeId) (types : List TypeExpr)
    (arguments : List Expr) (x : Expectation) : Check CallOutcome := do
  let t ← assured k t
  let self ← if ← asksForSelf k t then
      match calledObject? callee with
      | some o => do some <$> present k (← k.value env o (.used .head))
      | none => pure (some voidType)
    else pure none
  resolveCalled k ⟨env, types, ← givenBy k env arguments, self, x⟩ t

/-- The places where a chain may end early. -/
def chainRoots : Expr → List Expr
  | .access object _ isOptional => chainRoots object ++ (if isOptional then [object] else [])
  | .index object _ isOptional => chainRoots object ++ (if isOptional then [object] else [])
  | .call _ callee _ _ isOptional => chainRoots callee ++ (if isOptional then [callee] else [])
  | .assured e => chainRoots e
  | _ => []

/-- Where the rest of a chain is looked at. -/
def Env.withinChain (env : Env) (e : Expr) : Env :=
  (chainRoots e).foldl (fun env root => env.leading true (.binary "!=" root .null)) env

/-! ## Chains -/

/-- What is left of the type in front of a link, and whether the chain may have ended before,
    given whether the link asks for that. -/
def linkBase (isOptional : Bool) (t : TypeId) (mayEnd : Bool) : Check (TypeId × Bool) := do
  if isOptional then
    let u ← present k t
    return (u, mayEnd || u ≠ t)
  else return (t, mayEnd)

/-- The function that is called where it is written. -/
def calledInPlace? : Expr → Option Function
  | .group e => calledInPlace? e
  | .function f => some f
  | _ => none

/-- A function that is called where it is written takes the types of what it is handed, and what
    is expected of the call is expected of what it gives. -/
def handInPlace (env : Env) (callee : Expr) (arguments : List Expr) (x : Expectation) :
    Check Unit := do
  match calledInPlace? callee with
  | none => return
  | some f =>
    let site : FunctionSite := ⟨f, env, .value, false⟩
    let isSpread := arguments.any fun
      | .spread _ => true
      | _ => false
    if hasOpenParameters f && !isSpread then
      for (p, place) in (ownArguments f).zipIdx do
        if p.type.isNone then
          let given ← (arguments.drop place).mapM fun e => do
            widenValues k (← k.value env e .none)
          match p.isRest, given with
          | true, ts => handType k site p (← tupleOf k false (ts.map (⟨.required, none, ·⟩)))
          | false, t :: _ => handType k site p t
          | false, [] => if p.initial.isNone then handType k site p (← absentValue)
    match x.type with
    | some t =>
      if f.result.isNone then
        modify fun s => { s with expected := s.expected.insert site.key (t, x.inference) }
    | none => return

/-- The type of a link of a chain, and whether the chain may have ended before it. -/
def linkValue (env : Env) : Expr → Expectation → Check (TypeId × Bool)
  | .access object member isOptional, x => do
    let (t, ended) ← linkValue env object (.used .head)
    let (t, mayEnd) ← linkBase k isOptional t ended
    let u ← memberValue k env (.access object member isOptional) (← assured k t) member x
    return (u, mayEnd)
  | .index object key isOptional, x => do
    let (t, ended) ← linkValue env object (.used (.under key))
    let (t, mayEnd) ← linkBase k isOptional t ended
    let inner := env.withinChain (.index object key isOptional)
    let u ← elementValue k inner (.index object key isOptional) key (← assured k t) x
    return (u, mayEnd)
  | .call spot callee types arguments isOptional, x => do
    if callee matches .parent then return (voidType, false)
    handInPlace k env callee arguments x
    let (t, ended) ← linkValue env callee (.used .head)
    let (t, mayEnd) ← linkBase k isOptional t ended
    let inner := env.withinChain (.call spot callee types arguments isOptional)
    let o ← onceResolved env spot (resolveCallOf k inner callee t types arguments x)
    return (← outcomeType k o, mayEnd)
  | .assured e, x => do
    let (t, ended) ← linkValue env e { x with usage := .whole }
    return (← present k t, ended)
  | e, x => return (← k.value env e x, false)

/-- The signature by which a call is made. -/
def resolvedCall? (env : Env) (e : Expr) : Check (Option Signature) := do
  match e with
  | .call spot callee types arguments isOptional =>
    if callee matches .parent then return none
    let o ← onceResolved env spot do
      let (t, ended) ← linkValue k env callee (.used .head)
      let (t, _) ← linkBase k isOptional t ended
      resolveCallOf k (env.withinChain e) callee t types arguments .none
    match o with
    | .made sig => return some sig
    | _ => return none
  | _ => return none

/-! ## Yielding -/

/-- The type that is handed back where something is yielded. -/
def yieldValue (env : Env) (delegates : Bool) (value : Option Expr) : Check TypeId := do
  let around := env.scope.frames.dropWhile fun
    | .function _ => false
    | _ => true
  match around with
  | .function f :: _ =>
    if !f.isGenerator then return anyType
    if delegates then
      match value with
      | some e =>
        return ((← passingOf? k f.isAsync (← k.value env e .none)).map (·.result)).getD anyType
      | none => return anyType
    else
      let scope : Scope := { env.scope with frames := around }
      match f.result with
      | some e =>
        return ((← passingOfGenerator? k f.isAsync (← k.written scope e)).map (·.next)).getD anyType
      | none => return anyType
  | _ => return anyType

/-! ## Templates -/

/-- Texts are expected one by one. -/
def expectsText (t : TypeId) : Check Bool :=
  someMember (fun u => do
    match ← shape u with
    | .text _ | .template .. => return true
    | .parameter .. | .index .. | .conditional .. | .held _ =>
      let b ← baseBound k u
      mayBe (fun s => isTextShape s || s matches .changed ..) 8 b
    | _ => return false) t

/-- The type of a template. -/
def templateValue (env : Env) (start : String) (holes : List ValueHole) (x : Expectation) :
    Check TypeId := do
  if holes.isEmpty then return ← freshOf (← textType start)
  let types ← holes.mapM fun ⟨e, _⟩ => k.value env e .none
  let asksText ← match ← expectedType? k x with
    | some t => expectsText k t
    | none => pure false
  if x.isConstant || asksText then
    let parts ← types.mapM fun t => do
      if (← mayBe isSymbolShape 8 t) then return stringType
      else if ← k.related .assignable t (← union k
          [stringType, numberType, bigintType, booleanType, nullType, undefinedType]) then return t
      else return stringType
    templateOf k (start :: holes.map (·.behind)) parts
  else
    match ← valueOf? k [] "" env.scope 64 (.template start holes) with
    | some v => freshOf (← textType v.content)
    | none => return stringType

/-! ## Operators -/

mutual

/-- The declared type of a target of an assignment; of one that takes a value apart, the type
    of the values that it takes. -/
def targetType? (env : Env) : Expr → Check (Option TypeId)
  | .group e => targetType? env e
  | .assured e => targetType? env e
  | .array items => do
    some <$> tupleOf k false (← targetElements env items)
  | .object items => do
    let properties ← targetMembers env items
    some <$> makeShape (.object (.made ⟨properties, [], [], []⟩ .plain (some env.scope)) [])
  | .name text => do
    let es ← valueEntities env.scope text
    if es.isEmpty then return none
    let t ← k.entity es
    if ← isAutomatic k t then return none else return some t
  | .access object member _ => do
    let t ← present k (← k.value env object (.used .head))
    match ← propertyOf? k t member with
    | some p => some <$> k.property p
    | none => return (← indexerFor? k t (← textType member)).map (·.type)
  | .index object key _ => do
    let t ← k.value env object (.used (.under key))
    under? k .value (← present k t) (← k.value env key .none) none
  | _ => return none

/-- The type of what a part of a target takes. -/
def targetPart (env : Env) : Expr → Check TypeId
  | .assign "=" _ initial => do widenValues k (← k.value env initial .none)
  | e => do return (← targetType? env e).getD anyType

/-- The elements of the lists that a target takes. -/
def targetElements (env : Env) : List Expr → Check (List Element)
  | [] => return []
  | .hole :: rest => do
    let others ← targetElements env rest
    return ⟨.optional, none, undefinedType⟩ :: others
  | .spread e :: rest => do
    let t ← targetPart env e
    let others ← targetElements env rest
    return ⟨.rest, none, (← elementOf? k t).getD unknownType⟩ :: others
  | .assign "=" e initial :: rest => do
    let t ← targetPart env (.assign "=" e initial)
    let others ← targetElements env rest
    return ⟨.optional, none, ← orUndefined k t⟩ :: others
  | e :: rest => do
    let t ← targetPart env e
    let others ← targetElements env rest
    return ⟨.required, none, t⟩ :: others

/-- The members of the objects that a target takes. -/
def targetMembers (env : Env) : List ObjectItem → Check (List Property)
  | [] => return []
  | .property _ name e :: rest => do
    let t ← targetPart env e
    let others ← targetMembers env rest
    match ← resolveName k env.scope name with
    | some ⟨n, style, _⟩ =>
      return askedProperty n style (e matches .assign "=" _ _) t :: others
    | none => return others
  | .shorthand _ name :: rest => do
    let t ← targetPart env (.name name)
    let others ← targetMembers env rest
    return askedProperty name .plain false t :: others
  | _ :: rest => targetMembers env rest

end

/-- The type of an operation on two values. -/
def binaryValue (env : Env) (operator : String) (a b : Expr) (x : Expectation) :
    Check TypeId := do
  match operator with
  | "&&" =>
    let t ← k.value env a .none
    chosenOf k operator t (← k.value (env.leading true a) b x)
  | "||" | "??" =>
    let test := if operator = "||" then a else .binary "!=" a .null
    let t ← k.value env a x
    let y := if x.type.isSome then x else .of (some t)
    chosenOf k operator t (← k.value (env.leading false test) b y)
  | "," => k.value (env.after a) b x
  | _ =>
    let t ← k.value env a .none
    let u ← k.value (env.after a) b .none
    combined k operator t u

/-- A function that is assigned to a member of a value speaks of that value as itself. -/
def handAssigned (env : Env) (target value : Expr) : Check Unit := do
  match calledInPlace? value, target with
  | some f, .access object _ _ | some f, .index object _ _ =>
    let own : ExpectedSelf := ⟨← widen k (← k.value env object .none), none, false⟩
    modify fun s => { s with selves := s.selves.insert (env.scope.key f.spot "around") own }
  | _, _ => return

/-- The type of an assignment. -/
def assignValue (env : Env) (operator : String) (target value : Expr) : Check TypeId := do
  handAssigned k env target value
  let asked ← targetType? k env target
  match operator with
  | "=" => k.value env value (.of asked)
  | "&&=" | "||=" | "??=" =>
    let own := (operator.dropEnd 1).toString
    let test := if own = "??" then Expr.binary "!=" target .null else target
    let t ← k.value env target .none
    let u ← k.value (env.leading (own = "&&") test) value (.of (asked.orElse fun _ => some t))
    chosenOf k own t u
  | _ =>
    let t ← baseOfValues k (← k.value env target .none)
    combined k (operator.dropEnd 1).toString t (← k.value env value .none)

/-- The type of a value behind a mark or a word. -/
def unaryValue (env : Env) (operator : String) (e : Expr) : Check TypeId := do
  let t ← k.value env e .none
  match operator, e with
  | "!", _ => negated k t
  | "typeof", _ => return kindWordsType
  | "void", _ => absentValue
  | "delete", _ => return booleanType
  | "-", .number text => freshOf (← numberTypeOf (if text = "0" then text else "-" ++ text))
  | "+", .number text => freshOf (← numberTypeOf text)
  | "-", .bigNumber digits => freshOf (← bigNumberTypeOf true digits)
  | "+", _ => return numberType
  | _, _ => markedNumber k (← assured k t)

/-! ## Other values -/

/-- The type of a value with type arguments. -/
def instantiatedValue (env : Env) (e : Expr) (types : List TypeExpr) : Check TypeId := do
  let t ← k.value env e .none
  if ← isAny t then return t
  let arguments ← types.mapM (k.written env.scope)
  whole arguments 8 t
where
  /-- The signatures that take so many type arguments, with them. -/
  apply (arguments : List TypeId) (sigs : List Signature) : Check (List Signature) :=
    sigs.filterMapM fun sig => do
      if sig.typeParameters.isEmpty then return none
      else if ← isCountRight sig.typeParameters arguments.length then
        some <$> sig.apply k (← fillArguments k sig.typeParameters arguments)
      else return none
  /-- The type with type arguments; those parts that take none stay. -/
  whole (arguments : List TypeId) : Nat → TypeId → Check TypeId
    | 0, t => return t
    | n + 1, t => do
      match ← shape t with
      | .union .. => mapUnion k (fun u => some <$> whole arguments n u) t
      | .intersection ts => intersection k (← ts.mapM (whole arguments n)) none
      | s =>
        if isObjectShape s then
          let m ← k.members t
          if m.calls.isEmpty && m.constructs.isEmpty then return t
          let calls ← apply arguments m.calls
          let constructs ← apply arguments m.constructs
          makeShape (.object (.made { m with calls, constructs } .plain (some env.scope)) [])
        else if isOpenShape s then
          let b ← k.base t
          let made ← whole arguments n b
          return if made = b then t else made
        else return t

/-- The type of a file that is taken in while the program runs. -/
def fetchedValue (env : Env) (arguments : List Expr) : Check TypeId := do
  match arguments with
  | .text name :: _ =>
    let w ← read
    match w.wholeFile w.reach env.scope.file .names name with
    | [] => promiseOf k anyType
    | es => promiseOf k (← k.entity es)
  | _ => promiseOf k anyType

/-- The type of an element of markup. -/
def markupValue (env : Env) : Check TypeId := do
  let w ← read
  match w.markupType w.reach env.scope.file "Element" with
  | [] => return anyType
  | es => declaredType k es

/-- The type of a value may follow from what is expected of it. -/
def heedsExpected : Expr → Bool
  | .group e => heedsExpected e
  | .array _ | .object _ | .function _ | .call .. | .construct .. | .template .. => true
  | .conditional .. | .binary .. | .awaited _ | .satisfies .. => true
  | _ => false

/-- The type of a value. -/
def valueType (env : Env) (e : Expr) (x : Expectation) : Check TypeId := do
  let asUsed := x
  let x := { x with usage := .whole }
  match e with
  | .name text => nameValue k env text asUsed
  | .self => selfValue k env
  | .parent => parentValue k env
  | .text content => freshOf (← textType content)
  | .number text => freshOf (← numberTypeOf text)
  | .bigNumber digits => freshOf (← bigNumberTypeOf false digits)
  | .truth value => return if value then freshTrueType else freshFalseType
  | .null => return if ← strictNull then nullType else wideningNullType
  | .pattern => return (← globalType? k "RegExp").getD emptyObjectType
  | .template start holes => templateValue k env start holes x
  | .tagged spot tag types holes =>
    let t ← k.value env tag .none
    let strings := (← globalType? k "TemplateStringsArray").getD anyType
    let given := Given.known strings :: holes.map fun ⟨e, _⟩ => .value e
    outcomeType k (← onceResolved env spot (resolveCalled k ⟨env, types, given, none, x⟩ t))
  | .array items => arrayValue k env items x
  | .spread inner => itemOf k false (← k.value env inner .none)
  | .hole => absentValue
  | .object items => objectValue k env items x
  | .function f => functionType k ⟨f, env, .value, false⟩ x
  | .classValue d => classValue k [.type d env.scope]
  | .access .. | .index .. | .call .. | .assured _ =>
    let (t, mayEnd) ← linkValue k env e asUsed
    if mayEnd then orUndefined k t else return t
  | .instantiation inner types => instantiatedValue k env inner types
  | .construct spot callee types arguments =>
    let t ← assured k (← k.value env callee (.used .head))
    outcomeType k (← onceResolved env spot do
      resolveConstructed k ⟨env, types, ← givenBy k env arguments, none, x⟩ t)
  | .unary operator inner =>
    if operator = "++" || operator = "--" then markedNumber k (← k.value env inner .none)
    else unaryValue k env operator inner
  | .count inner => markedNumber k (← k.value env inner .none)
  | .binary operator a b => binaryValue k env operator a b x
  | .assign operator target value => assignValue k env operator target value
  | .conditional test yes no =>
    let t ← k.value (env.leading true test) yes x
    let u ← k.value (env.leading false test) no x
    unionOf k .subtype [t, u] none
  | .cast inner type =>
    if heedsExpected inner then
      let t ← k.written env.scope type
      discard (k.value env inner (.of (some t)))
      return t
    else
      discard (k.value env inner .none)
      k.written env.scope type
  | .constant inner =>
    regular k (← k.value env inner { Expectation.of x.type with isConstant := true })
  | .satisfies inner type => k.value env inner (.of (some (← k.written env.scope type)))
  | .awaited inner => awaited k (← k.value env inner
      { Expectation.of (← expectedAwaited? k x.type) with isImplied := x.isImplied })
  | .yield delegates e => yieldValue k env delegates e
  | .group inner => k.value env inner x
  | .fetched arguments => fetchedValue k env arguments
  | .markup _ _ => markupValue k env
  | .special true =>
    match constructedIn? env.scope with
    | some (d, outer) => do k.entity (← mergedWith d outer)
    | none =>
      match ← namedFunction? env.scope with
      | some es => k.entity es
      | none => return anyType
  | .special false => return (← globalType? k "ImportMeta").getD errorType
  | .other => return anyType

end

end TypeLineage.Typing
