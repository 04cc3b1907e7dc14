import TypeLineage.Typing.Flow.Narrowing

/-! # What references are found to be

    The type of a reference follows from the ways that lead to where it stands.
    An assignment gives its type, a test narrows it, and where ways come
    together it is any of what they give.  A loop is entered once and then gone
    round once for each way back. -/

namespace TypeLineage.Typing

open Source Program

/-! ## What calls tell -/

/-- The type of a value reached by names, if the declarations say it themselves. -/
def explicitType? (k : Rules) (env : Env) : Expr → Check (Option TypeId)
  | .group e => explicitType? k env e
  | .self => return some (← k.value ⟨env.scope, .start⟩ .self .none)
  | .name text => do
    let es ← valueEntities env.scope text
    match es with
    | .variable v scope :: _ =>
      if v.written.pattern.name?.isSome then
        return ← v.written.type.mapM (k.written scope)
      else return none
    | .argument _ _ p _ scope :: _ =>
      if p.pattern.name?.isSome then
        return ← p.type.mapM (k.written scope)
      else return none
    | [] => return none
    | es => return some (← k.entity es)
  | .access object member _ => do
    match ← explicitType? k env object with
    | none => return none
    | some t =>
      match ← propertyOf? k (← present k t) member with
      | none => return none
      | some p =>
        let isExplicit := match p.holding with
          | .members _ (s :: _) => match s.member with
            | .method .. => true
            | .field _ _ _ _ type _ => type.isSome
            | .getter _ _ f => f.result.isSome
            | _ => false
          | .field q _ => q.type.isSome
          | .members _ [] => false
          | .entities (.variable v _ :: _) => v.written.type.isSome
          | _ => true
        if isExplicit then return some (← k.property p) else return none
  | _ => return none

/-- The signature tells about an argument, or never comes back. -/
def hasEffect (k : Rules) (sig : Signature) : Check Bool := do
  if (← sig.claim? k).isSome then return true
  match sig.site with
  | some site => if site.function.result.isSome then isNever (← k.result sig) else return false
  | none => return false

/-- The signature of a call that tells about its arguments or never comes back. -/
def effectOf? (k : Rules) (env : Env) (isStatement : Bool) (e : Expr) :
    Check (Option Signature) := do
  let t? ← match e with
    | .call _ callee _ _ _ =>
      if isStatement then explicitType? k env callee else some <$> k.value env callee .none
    | _ => pure none
  match t? with
  | none => return none
  | some t =>
    let sigs := (← k.members (← k.apparent (← present k t))).calls
    let found ← match sigs with
      | [sig] =>
        if sig.typeParameters.isEmpty then pure (some sig)
        else if ← hasEffect k sig then k.resolved env e
        else pure none
      | _ =>
        if ← sigs.anyM (hasEffect k) then k.resolved env e else pure none
    match found with
    | some sig => if ← hasEffect k sig then return some sig else return none
    | none => return none

/-- What a claim is about in a call. -/
def claimed? (c : Claim) (callee : Expr) (arguments : List Expr) : Option Expr :=
  match c.index with
  | some i => arguments[i]?
  | none =>
    if c.subject = "this" then
      match callee with
      | .access object _ _ => some object
      | .index object _ _ => some object
      | _ => none
    else none

section

variable (k : Rules) (q : Query)

/-! ## What a test tells -/

/-- The member that stands under a constant key. -/
def constantKey? (env : Env) (key : String) : Check (Option String) := do
  match ← valueEntities env.scope key with
  | [.variable v _] =>
    if v.binding = .constant then nameOfKey? (← k.value env (.name key) .none) else return none
  | _ => return none

/-- The member of the reference that a value is, and whether the reference is known to be there
    if the member is. -/
def memberIn? (scope : Scope) (e : Expr) : Check (Option (String × Bool)) := do
  let isAssured (object : Expr) (isOptional : Bool) : Bool :=
    isOptional || object matches .assured _
  match e with
  | .access object member isOptional =>
    if ← q.reference.isAt scope object then return some (member, isAssured object isOptional)
    else return none
  | .index object key isOptional =>
    if !(← q.reference.isAt scope object) then return none
    let name? ← match key with
      | .text content => pure (some content)
      | .number text => pure (some text)
      | .name text => constantKey? k ⟨scope, .start⟩ text
      | _ => pure none
    return name?.map (·, isAssured object isOptional)
  | _ => return none

/-- A value that is a member of something. -/
def isMember : Expr → Bool
  | .access .. => true
  | .index .. => true
  | _ => false

/-- The member of the reference that a name stands for: a constant that is given the member, or
    a name in a pattern that takes the reference apart. -/
def memberNamed? (scope : Scope) (text : String) : Check (Option (String × Bool)) := do
  let es ← valueEntities scope text
  match q.reference.root with
  | .pattern key =>
    let found := match es with
      | [.variable v inner] => some (inner, v.spot, v.written.pattern)
      | [.argument _ spot p _ inner] => some (inner, spot, p.pattern)
      | _ => none
    match found with
    | some (inner, spot, p) =>
      match holderOf? spot p, (stepsTo? spot p).bind (·.getLast?) with
      | some (s, _), some (step, none) =>
        return if inner.key s "" = key then step.name?.map (·, false) else none
      | _, _ => return none
    | none => return none
  | _ =>
    match es with
    | [.variable v inner] =>
      match v.binding, v.written.type, v.source, v.written.initial with
      | .constant, none, .initial, some e =>
        if v.written.pattern.name?.isSome then memberIn? k q inner e
        else match stepsTo? v.spot v.written.pattern with
          | some [(step, none)] =>
            if (e matches .name _ || isMember e) && (← q.reference.isAt inner e) then return step.name?.map (·, false)
            else return none
          | _ => return none
      | _, _, _, _ => return none
    | _ => return none

/-- The member of the reference that a value stands for, and whether the reference is known to
    be there if the member is. -/
def memberTold? (scope : Scope) (e : Expr) : Check (Option (String × Bool)) := do
  match q.reference.root, e with
  | .pattern _, .name text => memberNamed? k q scope text
  | .pattern _, _ => return none
  | _, .name text => memberNamed? k q scope text
  | _, e => memberIn? k q scope e

/-- A member of the reference that tells the members of its type apart, and whether it is taken
    only if the reference is there. -/
def discriminant? (scope : Scope) (e : Expr) (t : TypeId) : Check (Option (String × Bool)) := do
  let isUnionDeclared ← isUnion q.declared
  let whole ← if isUnionDeclared && (← isSubset t q.declared) then pure q.declared else pure t
  if !(← isUnion whole) then return none
  match ← memberTold? k q scope (candidate e) with
  | some (name, isChain) =>
    if ← tellsApart k name whole then return some (name, isChain) else return none
  | none => return none

/-- Narrows by a member that tells members apart, if a value is one. -/
def throughDiscriminant (scope : Scope) (e : Expr) (narrow : TypeId → Check TypeId) (t : TypeId) :
    Check TypeId := do
  match ← discriminant? k q scope e t with
  | some (name, isChain) => narrowThrough k name isChain narrow t
  | none => return t

/-- The reference is in a chain that a value ends. -/
def isChained (scope : Scope) (e : Expr) : Check Bool := do
  if !(← strictNull) then return false
  if q.reference.mayBegin e then q.reference.isInChain scope e else return false

/-- What is left when a value is truthy or falsy. -/
def narrowByTruth (scope : Scope) (holds : Bool) (e : Expr) (t : TypeId) : Check TypeId := do
  let f : Fact := if holds then .truthy else .falsy
  if ← q.reference.isAt scope e then narrowedBy k f t
  else
    let t ← if holds && (← isChained q scope e) then narrowedBy k .isPresent t else pure t
    throughDiscriminant k q scope e (withFact k f) t

/-- What is left when a call tells about an argument. -/
def narrowByClaim (scope : Scope) (c : Claim) (callee : Expr) (arguments : List Expr)
    (holds : Bool) (t : TypeId) : Check TypeId := do
  match c.type, claimed? c callee arguments with
  | some wanted, some e =>
    let isWide := some wanted = (← globalType? k "Object")
      || some wanted = (← globalType? k "Function")
    if isWide && (← isAny t) then return t
    if ← q.reference.isAt scope e then return ← narrowTo k false holds t wanted
    let t ← if ← isChained q scope e then
        let drops ← if holds then pure !(← hasFact k .isUndefined wanted)
          else everyMember isAbsent wanted
        if drops then narrowedBy k .isPresent t else pure t
      else pure t
    throughDiscriminant k q scope e (fun u => narrowTo k false holds u wanted) t
  | _, _ => return t

/-- What is left when a kind is compared with a word. -/
def narrowByWord (scope : Scope) (e : Expr) (word : String) (holds : Bool) (t : TypeId) :
    Check TypeId := do
  let e := candidate e
  if ← q.reference.isAt scope e then narrowByKind k word holds t
  else
    let isThere := holds = (word != "undefined")
    let t ← if isThere && (← isChained q scope e) then narrowedBy k .isPresent t else pure t
    throughDiscriminant k q scope e (narrowByKind k word holds) t

/-- The value is what made the reference. -/
def isMakerOf (scope : Scope) : Expr → Check Bool
  | .access object "constructor" _ => q.reference.isAt scope object
  | .index object (.text "constructor") _ => q.reference.isAt scope object
  | _ => return false

/-- What is left when values are compared; nothing if the comparison is not about the
    reference. -/
def narrowByComparison? (env : Env) (isLoose : Bool) (a b : Expr) (holds : Bool) (t : TypeId) :
    Check (Option TypeId) := do
  let value (e : Expr) : Check TypeId := k.value env e .none
  let ofChain (e against : Expr) (t : TypeId) : Check TypeId := do
    if ← isChained q env.scope e then
      let v ← value against
      let isGone (u : TypeId) : Check Bool :=
        if isLoose then isAbsent u else isUndefined u
      let drops ← if holds then everyMember (fun u => do
          return !((← isGone u) || (← isAny u) || u = unknownType)) v
        else everyMember isGone v
      if drops then narrowedBy k .isPresent t else return t
    else return t
  match candidate a, candidate b with
  | .unary "typeof" e, .text word => some <$> narrowByWord k q env.scope e word holds t
  | .text word, .unary "typeof" e => some <$> narrowByWord k q env.scope e word holds t
  | x, y =>
    if ← q.reference.isAt env.scope x then
      some <$> narrowByEquality k isLoose holds (← value y) t
    else if ← q.reference.isAt env.scope y then
      some <$> narrowByEquality k isLoose holds (← value x) t
    else
      let t ← ofChain x y t
      let t ← ofChain y x t
      match ← discriminant? k q env.scope x t, ← discriminant? k q env.scope y t with
      | some (name, isChain), _ =>
        let v ← value y
        some <$> narrowThrough k name isChain (narrowByEquality k isLoose holds v) t
      | none, some (name, isChain) =>
        let v ← value x
        some <$> narrowThrough k name isChain (narrowByEquality k isLoose holds v) t
      | none, none =>
        if ← isMakerOf q env.scope x then some <$> narrowByMaker k holds (← value y) t
        else if ← isMakerOf q env.scope y then some <$> narrowByMaker k holds (← value x) t
        else match x, y with
          | .truth _, _ => return none
          | _, .truth _ => return none
          | _, _ => return some t

/-- The first value of a constant that is a test by another name. -/
def namedTest? (scope : Scope) (text : String) : Check (Option (Expr × Scope)) := do
  if !q.isSettled then return none
  match ← valueEntities scope text with
  | [.variable v inner] =>
    match v.binding, v.written.type, v.written.pattern.name?, v.source with
    | .constant, none, some _, .initial => return v.written.initial.map (·, inner)
    | _, _, _, _ => return none
  | _ => return none

/-- The type of what has a hidden member: the objects of the class around that declares it, or
    the class itself. -/
def hiddenIn? (name : String) (file : SourceFile) : List Frame → Check (Option TypeId)
  | [] => return none
  | .type d _ :: outer => do
    let own := d.members.findSome? fun
      | .method ms (.hidden n) _ _ => if n = name then some ms else none
      | .field _ ms (.hidden n) _ _ _ => if n = name then some ms else none
      | .getter ms (.hidden n) _ => if n = name then some ms else none
      | .setter ms (.hidden n) _ => if n = name then some ms else none
      | _ => none
    match own with
    | some ms =>
      let es ← mergedWith d ⟨file, outer⟩
      if ms.contains "static" then some <$> k.entity es else some <$> k.declared es
    | none => hiddenIn? name file outer
  | _ :: outer => hiddenIn? name file outer

/-- What is left of the reference's type when a test comes out one way. -/
def narrow : Nat → Env → (holds : Bool) → Expr → TypeId → Check TypeId
  | 0, _, _, _, t => return t
  | n + 1, env, holds, e, t => do
    let truth := narrowByTruth k q env.scope holds e t
    match e with
    | .group e => narrow n env holds e t
    | .assured e => narrow n env holds e t
    | .satisfies e _ => narrow n env holds e t
    | .unary "!" e => narrow n env (!holds) e t
    | .name text =>
      if ← q.reference.isAt env.scope e then truth
      else
        match ← namedTest? q env.scope text with
        | some (test, scope) => narrow n { env with scope } holds test t
        | none => truth
    | .assign operator target value =>
      if ["=", "||=", "&&=", "??="].contains operator then
        narrowByTruth k q env.scope holds target (← narrow n env holds value t)
      else return t
    | .call _ callee _ arguments _ =>
      let object := match callee with
        | .access object _ _ => [object]
        | .index object _ _ => [object]
        | _ => []
      let isAbout ← do
        if (arguments ++ object).any q.reference.mayBegin then pure true
        else arguments.anyM fun e => return (← memberTold? k q env.scope e).isSome
      if isAbout then
        match ← effectOf? k env false e with
        | some sig =>
          match ← sig.claim? k with
          | some c =>
            if c.asserts then return t
            else narrowByClaim k q env.scope c callee arguments holds t
          | none => return t
        | none =>
          if holds && (← isChained q env.scope e) then narrowedBy k .isPresent t else return t
      else return t
    | .binary operator a b =>
      match operator with
      | "===" | "!==" | "==" | "!=" =>
        let isLoose := operator = "==" || operator = "!="
        let holds := holds = (operator = "===" || operator = "==")
        match ← narrowByComparison? k q env isLoose a b holds t with
        | some u => return u
        | none =>
          match candidate a, candidate b with
          | a, .truth v => if isMember a then return t else narrow n env (holds = v) a t
          | .truth v, b => if isMember b then return t else narrow n env (holds = v) b t
          | _, _ => return t
      | "instanceof" =>
        let x := candidate a
        if ← q.reference.isAt env.scope x then
          narrowByInstance k holds (← k.value env b .none) t
        else if holds && (← isChained q env.scope x) then narrowedBy k .isPresent t
        else return t
      | "in" =>
        if (← membersOf t).contains missingType && !q.reference.path.isEmpty then
          let holder := { q.reference with path := q.reference.path.dropLast }
          if ← holder.isAt env.scope (candidate b) then
            if (← nameOfKey? (← k.value env a .none)) = q.reference.path.getLast? then
              return ← withFact k (if holds then .notUndefined else .isUndefined) t
        if !(← q.reference.isAt env.scope (candidate b)) then return t
        match a with
        | .name text =>
          if text.startsWith "#" then
            match ← hiddenIn? k text env.scope.file env.scope.frames with
            | some wanted => narrowTo k true holds t wanted
            | none => return t
          else narrowByMember k holds (← k.value env a .none) t
        | _ => narrowByMember k holds (← k.value env a .none) t
      | "&&" =>
        if holds then narrow n env true b (← narrow n env true a t)
        else union k [← narrow n env false a t, ← narrow n env false b t]
      | "||" =>
        if holds then union k [← narrow n env true a t, ← narrow n env true b t]
        else narrow n env false b (← narrow n env false a t)
      | "," => narrow n env holds b t
      | _ => return t
    | e => if q.reference.mayBegin e then truth else return t

/-! ## What an assignment gives -/

/-- The list of the elements that a list took in. -/
def grownList (element : TypeId) : Check TypeId := do
  match ← shape element with
  | .keyword .never => listOf k false anyType
  | .union ts _ => listOf k false (← unionOf k .subtype ts none)
  | _ => listOf k false element

/-- The type of an outcome. -/
def Outcome.final (o : Outcome) : Check TypeId :=
  match o with
  | .type t => return t
  | .growing e => grownList k e
  | .unreachable => return q.declared

/-- The declared type is told by the ways alone. -/
def isAutomatic (t : TypeId) : Check Bool := do
  if t = autoType then return true
  return (← listForm? k t).any (·.element = autoType)

/-- What is left of a declared type when a value is assigned. -/
def reduceTo (declared assigned : TypeId) : Check TypeId := do
  if declared = assigned then return declared
  if ← isNever assigned then return assigned
  let parts ← membersOf assigned
  let kept ← filterUnion (fun u => parts.anyM fun v => k.related .assignable v u) declared
  let kept ← match ← shape assigned with
    | .truth _ =>
      if ← isFresh assigned then mapUnion k (fun u => some <$> freshOf u) kept else pure kept
    | _ => pure kept
  if ← k.related .assignable assigned kept then return kept else return declared

/-- What the reference is where it is given a value. -/
def givenValue (isEmptyList : Bool) (value : Check TypeId) : Check Outcome := do
  if ← isAutomatic k q.declared then
    if isEmptyList then return .growing neverType
    let t ← widenValues k (← value)
    if q.declared = autoType then return .type t
    else if ← isList k t then return .type t
    else return .type (← listOf k false anyType)
  else if ← isUnion q.declared then return .type (← reduceTo k q.declared (← value))
  else return .type q.declared

/-- The value is a list without items. -/
def isEmptyArray : Expr → Bool
  | .array [] => true
  | .group e => isEmptyArray e
  | _ => false

/-- The type that a variable is given. -/
def givenType (scope : Scope) (whole : Flow) (v : Variable) (source : VariableSource) :
    Check TypeId := do
  let env : Env := ⟨scope, whole⟩
  let t ← match source with
    | .initial =>
      match v.initial with
      | some e =>
        let expected ← v.type.mapM (k.written scope)
        k.value env e (.of expected)
      | none => pure undefinedType
    | .items isAsync subject => loopItem k isAsync (← k.value env subject .none)
    | .keys _ => pure stringType
    | .failure => pure anyType
  match v.pattern, q.reference.root with
  | .name .., _ => return t
  | p, .name key _ =>
    match stepsTo? key.spot p with
    | some steps => partType k env false true t steps
    | none => return t
  | _, _ => return t

/-- The part of a value that a target hands to the reference. -/
def handedType? (env : Env) : Nat → Expr → TypeId → Check (Option TypeId)
  | 0, _, _ => return none
  | n + 1, target, t => do
    match target with
    | .group e => handedType? env n e t
    | .array items =>
      for (item, i) in items.zipIdx do
        let found ← match item with
          | .spread e => do handedType? env n e (← listOf k false (← itemOf k false t))
          | e => do handedType? env n e (← stepType k env t (.element i))
        if found.isSome then return found
      return none
    | .object items =>
      for item in items do
        match item with
        | .property _ name e =>
          let found ← handedType? env n e (← stepType k env t (.member name))
          if found.isSome then return found
        | .shorthand _ name =>
          if ← q.reference.isAt env.scope (.name name) then
            return some (← stepType k env t (.member (.plain name)))
        | _ => pure ()
      return none
    | .assign "=" e initial =>
      handedType? env n e (← union k [← definedPart k t, ← k.value env initial .none])
    | e =>
      if q.reference.mayBegin e && (← q.reference.isAt env.scope e) then return some t
      else return none

/-- The target is a place that holds the reference. -/
def holdsReference (scope : Scope) (target : Expr) : Check Bool := do
  if q.reference.path.isEmpty then return false
  match ← q.reference.at? scope target with
  | some r => return q.reference.contains r
  | none => return false

/-- What an assignment gives the reference, given what it is before. -/
def assigned? (what : Assignment) (scope : Scope) (whole : Flow) (before : Check Outcome) :
    Check (Option Outcome) := do
  let env : Env := ⟨scope, whole⟩
  let base : Check (Option Outcome) := do
    match ← before with
    | .type t => return some (.type (← baseOfValues k t))
    | o => return some o
  match what with
  | .declared v source =>
    match q.reference.root with
    | .name key text =>
      if key.file = scope.file.index && (namesOf v.pattern).contains (text, key.spot) then
        if !q.reference.path.isEmpty then return some (.type q.declared)
        else
          let isEmpty := source matches .initial && v.initial.any isEmptyArray
          return some (← givenValue k q isEmpty (givenType k q scope whole v source))
      else return none
    | _ => return none
  | .assigned operator target value =>
    let target := match target with
      | .group e => e
      | e => e
    match target with
    | .array _ | .object _ =>
      if assignsPart target then
        match ← handedType? k q env 8 target (← k.value env (.assign operator target value) .none) with
        | some t => return some (← givenValue k q false (pure t))
        | none => return none
      else return none
    | _ =>
      if !(q.reference.mayBegin target) then return none
      else if ← q.reference.isAt scope target then
        if ["=", "||=", "&&=", "??="].contains operator then
          return some (← givenValue k q (isEmptyArray value)
            (k.value env value (.of (some q.declared))))
        else base
      else if ← holdsReference q scope target then return some (.type q.declared)
      else return none
  | .counted target =>
    if !(q.reference.mayBegin target) then return none
    else if ← q.reference.isAt scope target then base
    else if ← holdsReference q scope target then return some (.type q.declared)
    else return none
  | .looped target source =>
    if !(q.reference.mayBegin target) then return none
    else if ← q.reference.isAt scope target then
      return some (← givenValue k q false (givenType k q scope whole ⟨.name 0 "", none, none⟩ source))
    else return none
  | .removed target =>
    if !(q.reference.mayBegin target) then return none
    else if ← q.reference.isAt scope target then
      return some (← givenValue k q false (pure undefinedType))
    else return none
  | .grown list items =>
    if !(q.reference.mayBegin list) then return none
    if !(← isAutomatic k q.declared) then return none
    if !(← q.reference.isAt scope (candidate list)) then return none
    match ← before with
    | .growing element =>
      let types ← items.mapM fun e => do
        baseOfValues k (← k.value env e .none)
      let t ← types.foldlM (fun element t => do
        if ← isSubset t element then return element else union k [element, t]) element
      return some (.growing t)
    | o => return some o
where
  /-- The reference may be among the targets. -/
  assignsPart (target : Expr) : Bool :=
    match q.reference.root with
    | .name _ text => isTarget (some text) target || !q.reference.path.isEmpty
    | _ => true

/-! ## Where ways come together -/

/-- The ways end where a switch went to no case. -/
def isBypass : Flow → Bool
  | .case _ _ first last _ _ _ => first = last
  | _ => false

/-- What the reference is where ways come together. -/
def together (outcomes : List Outcome) : Check Outcome := do
  let found := outcomes.filter (· ≠ .unreachable)
  if found.isEmpty then return .unreachable
  let lists := found.filterMap fun
    | .growing e => some e
    | _ => none
  if lists.length = found.length then return .growing (← union k lists)
  else
    let types := (← found.mapM (Outcome.final k q ·)).eraseDups
    if types.contains q.declared && q.declared = q.initial then return .type q.declared
    let isForeign ← types.anyM fun t => return !(← isSubset t q.initial)
    let t ← recombined k (← unionOf k (if isForeign then .subtype else .literal) types none)
    if t ≠ q.declared && (← isUnion t) && (← membersOf t) = (← membersOf q.declared) then
      return .type q.declared
    else return .type t

/-! ## Going back along the ways -/

/-- What a step of a call tells. -/
def afterCall (e : Expr) (scope : Scope) (whole : Flow) (before : Check Outcome) :
    Check Outcome := do
  let env : Env := ⟨scope, whole⟩
  match ← effectOf? k env true e, e with
  | some sig, .call _ callee _ arguments _ =>
    match ← sig.claim? k with
    | some c =>
      let o ← before
      if !c.asserts || o = .unreachable then return o
      let t ← o.final k q
      let u ← match c.type with
        | some _ => narrowByClaim k q scope c callee arguments true t
        | none => match claimed? c callee arguments with
          | some (.truth false) => return .unreachable
          | some e => narrow k q 32 env true e t
          | none => pure t
      return if u = t then o else .type u
    | none => if ← isNever (← k.result sig) then return .unreachable else before
  | _, _ => before

/-- What a step of a switch tells. -/
def afterCases (subject : Expr) (cases : List SwitchCase) (first last : Nat) (env : Env)
    (o : Outcome) : Check Outcome := do
  if o = .unreachable then return o
  let t ← o.final k q
  let e := candidate subject
  let types : Check (List TypeId) := cases.mapM (caseType k env)
  let u ← match e with
    | .unary "typeof" inner =>
      if ← q.reference.isAt env.scope (candidate inner) then
        narrowByKindCases k cases first last t
      else throughDiscriminant k q env.scope inner (narrowByKindCases k cases first last) t
    | .truth true =>
      let tests := (cases.take first).filterMap (·.value)
      let t ← tests.foldlM (fun t e => narrow k q 32 env false e t) t
      let own := (cases.take last).drop first
      if first = last || own.any (·.value.isNone) then
        (cases.filterMap (·.value)).foldlM (fun t e => narrow k q 32 env false e t) t
      else
        union k (← (own.filterMap (·.value)).mapM fun e => narrow k q 32 env true e t)
    | e =>
      if ← q.reference.isAt env.scope e then narrowByCases k (← types) first last t
      else
        let isPresent ← if ← isChained q env.scope e then do
            let own := ((← types).take last).drop first
            pure (!own.isEmpty && (← own.allM fun c => do
              return !((← isUndefined c) || (← isNever c))))
          else pure false
        let t ← if isPresent then narrowedBy k .isPresent t else pure t
        match ← discriminant? k q env.scope e t with
        | some (name, isChain) =>
          let ts ← types
          narrowThrough k name isChain (narrowByCases k ts first last) t
        | none => pure t
  return if u = t then o else .type u

mutual

/-- What the reference is where ways lead, given what it is where they part from others. -/
def findOn (parting : Outcome) : Flow → Check Outcome
  | .start => return .type q.initial
  | .within outside =>
    if q.goesOut then findOn .unreachable outside else return .type q.initial
  | .unreachable => return .unreachable
  | .fork => return parting
  | .head file spot => do
    let s ← get
    match s.turns.lookup (file, spot, q.tag) with
    | some os => together k q os
    | none =>
      match s.loops[(file, spot)]? with
      | some flow => k.found q flow
      | none => return .type q.initial
  | .assign what scope whole before => do
    let earlier := findOn parting before
    match ← assigned? k q what scope whole earlier with
    | some o => return o
    | none => earlier
  | .test e holds scope whole before => do
    let o ← findOn parting before
    match o with
    | .unreachable => return o
    | .growing _ => return o
    | .type t =>
      if ← isNever t then return o
      else return .type (← narrow k q 32 ⟨scope, whole⟩ holds e t)
  | .case subject cases first last scope whole before => do
    afterCases k q subject cases first last ⟨scope, whole⟩ (← findOn parting before)
  | .call e scope whole before => do
    afterCall k q e scope whole (findOn parting before)
  | .split before ways => do
    let o ← findOn parting before
    if o = .unreachable then return o
    together k q (← findOnEach o ways)
  | .loop file spot whole before back => do
    let key := (file, spot, q.tag)
    match (← get).turns.lookup key with
    | some os => together k q os
    | none =>
      modify fun s =>
        { s with loops := s.loops.insert (file, spot) (.loop file spot whole whole back) }
      let o ← findOn parting before
      if o = .unreachable then return o
      if o = .type q.declared && q.declared = q.initial then return o
      turnRound key [o] back

/-- What the reference is on each of some ways; a way past a switch counts only if some value
    has no case. -/
def findOnEach (parting : Outcome) : List Flow → Check (List Outcome)
  | [] => return []
  | way :: rest => do
    match way with
    | .case subject cases first last scope whole before =>
      let others ← findOnEach parting rest
      let o ← afterCases k q subject cases first last ⟨scope, whole⟩ (← findOn parting before)
      if first = last && o ≠ .unreachable && !others.contains o then
        if ← isExhaustive k ⟨scope, whole⟩ subject cases then return others
        else return others ++ [o]
      else return o :: others
    | way =>
      let o ← findOn parting way
      return o :: (← findOnEach parting rest)

/-- What the reference is at the head of a loop, given what it is so far. -/
def turnRound (key : Nat × Nat × String) (soFar : List Outcome) : List Flow → Check Outcome
  | [] => together k q soFar
  | way :: rest => do
    modify fun s => { s with turns := (key, soFar) :: s.turns }
    let o ← findOn .unreachable way
    modify fun s => { s with turns := s.turns.drop 1 }
    turnRound key (soFar ++ [o]) rest

end

end

/-- What a reference is where ways lead. -/
def found (k : Rules) (q : Query) (flow : Flow) : Check Outcome := findOn k q .unreachable flow

/-- The type of a reference where it stands. -/
def referenceType (k : Rules) (q : Query) (flow : Flow) : Check TypeId := do
  match flow with
  | .unreachable => return q.declared
  | _ =>
    let o ← found k q flow
    o.final k q

/-! ## Reaching -/

mutual

/-- Some way leads there, given whether one leads to where the ways part from others. -/
def reaches (k : Rules) (parting : Bool) : Flow → Check Bool
  | .unreachable => return false
  | .fork => return parting
  | .assign _ _ _ before => reaches k parting before
  | .test _ _ _ _ before => reaches k parting before
  | .case subject cases first last scope whole before => do
    if first = last then
      if ← isExhaustive k ⟨scope, whole⟩ subject cases then return false
    reaches k parting before
  | .call e scope whole before => do
    match ← effectOf? k ⟨scope, whole⟩ true e, e with
    | some sig, .call _ callee _ arguments _ =>
      match ← sig.claim? k with
      | some c =>
        match c.asserts, c.type, claimed? c callee arguments with
        | true, none, some (.truth false) => return false
        | _, _, _ => pure ()
      | none => if ← isNever (← k.result sig) then return false
    | _, _ => pure ()
    reaches k parting before
  | .split before ways => do
    if ← reaches k parting before then anyReaches k ways else return false
  | .loop _ _ _ before _ => reaches k parting before
  | _ => return true

/-- Some of the ways leads on. -/
def anyReaches (k : Rules) : List Flow → Check Bool
  | [] => return false
  | way :: rest => do if ← reaches k true way then return true else anyReaches k rest

end

end TypeLineage.Typing
