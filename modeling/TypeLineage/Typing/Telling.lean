import TypeLineage.Typing.Flow.Statement
import TypeLineage.Typing.Members
import TypeLineage.Typing.Verbatim

/-! # Telling types

    How a type is told.  A type that goes by a name is told by the name.  A
    type inside itself and whatever lies too deep are left out; a list that
    comes late in a long text is cut short.  How long the text will be is only
    estimated on the way. -/

namespace TypeLineage.Typing

open Source Program

/-- What is known while a type is told. -/
structure Telling where
  /-- How long the text is, roughly. -/
  size : Nat
  /-- The types that are being told. -/
  met : List TypeId
  /-- How often what is written in one place is being told. -/
  depths : List ((String × Key) × Nat)
  /-- The type parameters that a condition infers. -/
  inferred : List TypeId
  /-- Names are told with where they are declared. -/
  isFull : Bool
  /-- The size from which on lists are cut short. -/
  limit : Nat
  deriving Inhabited

/-- Telling a type, with the store of types. -/
abbrev Tell := StateT Telling Check

/-- The text grows. -/
def grow (n : Nat) : Tell Unit := modify fun s => { s with size := s.size + n }

/-- The size from which on lists are cut short. -/
def usualLimit : Nat := 160

/-- The size from which on lists are cut short where all is to be told. -/
def wideLimit : Nat := 1000000

/-- The text is so long that lists are cut short. -/
def isLong : Tell Bool := return (← get).size > (← get).limit

/-- What is left out. -/
def leaveOut : Tell Told := do
  grow 3
  return if (← get).limit = usualLimit then .elided else .untold

/-- A name with type arguments that were told before. -/
def tellNamed (e? : Option Entity) (name : String) (arguments : List Told) : Tell Told := do
  grow (2 * (widthOf name + 1))
  if (← get).isFull then
    let path := (e?.map pathBefore).getD ""
    grow (widthOf path)
    if path ≠ "" then
      return .plain (Told.named (path ++ name) arguments).text
  return .named name arguments

/-- The type of declarations as a value. -/
def tellQuery (es : List Entity) : Tell Told := do
  match es with
  | .file f :: _ => return .ofForm .query ("typeof import(\"" ++ filePath f ++ "\")")
  | .space block _ :: _ =>
    if block.name.startsWith "\"" then
      return .ofForm .query ("typeof import(" ++ block.name ++ ")")
    else tellName
  | _ => tellName
where
  /-- The type is told by the name of the declarations. -/
  tellName : Tell Told := do
    let told ← tellNamed es.head? (toldName es) []
    return .ofForm .query ("typeof " ++ told.text)

/-- What is written in one place is told, but not too deep inside itself. -/
def visit (t : TypeId) (place : Option (String × Key)) (work : Tell Told) : Tell Told := do
  let s ← get
  let depth := (place.bind fun p => s.depths.lookup p).getD 0
  if depth > 10 then leaveOut
  else
    let depths := match place with
      | some p => (p, depth + 1) :: s.depths
      | none => s.depths
    set { s with met := t :: s.met, depths }
    let told ← work
    modify fun after => { after with met := s.met, depths := s.depths }
    return told

/-! ## What is told -/

/-- The members of a union as they are told: truth values and the members of an enumeration
    together, null and undefined last. -/
def toldMembers (types : List TypeId) : Check (List TypeId) := do
  let absent ← types.filterM isAbsent
  let present ← go (types.length + 1) types
  let hasNull ← absent.anyM (isKeyword .null)
  let hasUndefined ← absent.anyM isUndefined
  return present ++ (if hasNull then [nullType] else [])
    ++ (if hasUndefined then [undefinedType] else [])
where
  go : Nat → List TypeId → Check (List TypeId)
    | 0, _ => return []
    | _ + 1, [] => return []
    | n + 1, t :: rest => do
      if ← isAbsent t then return ← go n rest
      let whole ← match ← shape t with
        | .truth _ => pure booleanType
        | .enumMember _ _ enumeration _ _ => enumerationOf enumeration t
        | _ => pure t
      match ← shape whole with
      | .union ts _ =>
        let last ← ((t :: rest)[ts.length - 1]?).mapM regularOf
        if ts.length > 1 && whole ≠ t && last = ts.getLast? then
          return whole :: (← go n ((t :: rest).drop ts.length))
        else return t :: (← go n rest)
      | _ => return t :: (← go n rest)

/-- What two types of one name have in common if it is the same name. -/
def nameKey (t : TypeId) : Check (Option Key) := do
  let e ← entry t
  match e.synonym with
  | some y => return some y.key
  | none =>
    let target ← match e.shape with
      | .reference u _ => shape u
      | .deferred u _ _ _ => shape u
      | s => pure s
    match target with
    | .declared d => return some d.key
    | .enumMember _ _ enumeration _ _ => return some enumeration
    | _ => return none

/-- The texts of which some name stands for different types. -/
def clashing (types : List TypeId) (told : List Told) : Check (List String) := do
  let pairs ← (types.zip told).filterMapM fun (t, x) => do
    match x.name with
    | some name => return some (name, ← nameKey t, t)
    | none => return none
  return (pairs.filter fun (name, key, t) =>
    pairs.any fun (other, key', t') => other = name && t ≠ t' && (key ≠ key' || key.isNone)).map (·.1)

/-- How many type arguments of a reference to a list that can only be gone through are told: the
    last are left out where they are the defaults. -/
def toldArguments (k : Rules) (t : TypeId) (d : Declared) (own : List TypeId) : Check Nat := do
  let elides := d.key.isOfLibrary
    && ["Iterable", "IterableIterator", "AsyncIterable", "AsyncIterableIterator"].contains d.name
  if !elides then return own.length
  match ← shape t with
  | .deferred _ (.named _ written) _ _ => if written.length ≥ d.own.length then return own.length
  | _ => pure ()
  let defaults ← (d.own.zip own).mapM fun (p, u) => do
    match ← default? k p with
    | some v => k.related .identity u v
    | none => return false
  return (defaults.reverse.dropWhile id).length

/-- A type parameter's place of declaration, to tell those of one declaration from others. -/
def declarerOf (p : TypeId) : Check (Option Scope) := do
  return (← declarationOf? 64 p).map (·.2.1)

/-- The name that a function has as a member, or as the value of a variable. -/
def nameInFrame? (f : Function) (file : SourceFile) : List Frame → Option String
  | .type d _ :: _ => d.members.findSome? fun
    | .method _ name _ g => if g.spot = f.spot then name.known? else none
    | _ => none
  | .object (some items) :: _ => items.findSome? fun
    | .method name g => if g.spot = f.spot then name.known? else none
    | .property _ name (.function g) => if g.spot = f.spot then name.known? else none
    | _ => none
  | frames =>
    let statements := match frames with
      | .statements ss _ :: _ => ss
      | .space b :: _ => b.statements
      | _ => file.statements
    statements.findSome? fun
      | .declaration _ _ (.variables _ vs) => vs.findSome? fun v =>
        match v.initial with
        | some (.function g) => if g.spot = f.spot then v.pattern.name? else none
        | _ => none
      | _ => none

/-- The name of what declares type parameters. -/
def declarerName (scope : Scope) : String :=
  match scope.frames with
  | .function f :: outer =>
    (f.name.orElse fun _ => nameInFrame? f scope.file outer).getD "(Anonymous function)"
  | .type d _ :: _ => ((d.name.orElse fun _ => d.assigned?)).getD "(Anonymous class)"
  | _ => ""

/-- The spot of what declares type parameters. -/
def declarerSpot (scope : Scope) : Nat :=
  match scope.frames with
  | .function f :: _ => f.spot
  | .type d _ :: _ => d.spot
  | _ => 0

/-- The type arguments for the type parameters around a declaration, by what declares them. -/
def argumentGroups : List (TypeId × TypeId) → Check (List (String × List (TypeId × TypeId)))
  | [] => return []
  | (p, t) :: rest => do
    let groups ← argumentGroups rest
    let owner ← declarerOf p
    let name := (owner.map declarerName).getD ""
    match rest, groups with
    | (q, _) :: _, (_, pairs) :: others =>
      if (← declarerOf q).map declarerSpot = owner.map declarerSpot then
        return (name, (p, t) :: pairs) :: others
      else return (name, [(p, t)]) :: groups
    | _, _ => return (name, [(p, t)]) :: groups

/-- The arguments with numbers behind the names that stand among them before. -/
def toldApart (all : List Argument) : List Argument :=
  let firsts := (all.map (·.name)).eraseDups
  (all.foldl (fun (done, taken, left) a =>
    if left.contains a.name then (done ++ [a], taken, left.erase a.name)
    else
      let fresh := ((List.range (all.length + 1)).map fun i =>
        a.name ++ "_" ++ toString (i + 1)).find? (!taken.contains ·)
      let name := fresh.getD a.name
      (done ++ [{ a with name }], taken ++ [name], left)) ([], firsts, firsts)).1

/-- The arguments with the elements of a tuple in place of a last one that takes it in. -/
def toldParameters (k : Rules) (sig : Signature) : Check (List Argument) := do
  match ← sig.restType? k, sig.arguments.getLast? with
  | some t, some last =>
    match ← tupleForm? k t with
    | some (form, types) =>
      let elements ← (elementsOf form types).mapIdxM fun i e => do
        let name := e.name.getD (last.elementName i e.kind)
        let type ← if e.kind = .rest then listOf k false e.type else pure e.type
        return Argument.ofType name type (e.kind = .optional) (TupleForm.isOpen e.kind)
      let elements := if form.names.any (·.isSome) then toldApart elements else elements
      let whole := sig.arguments.dropLast ++ elements
      return if whole.dropLast.any (·.isRest) then sig.arguments else whole
    | none => return sig.arguments
  | _, _ => return sig.arguments

/-- The type of an argument as it is told: one that has a default but may not be left out takes
    undefined, too. -/
def toldArgumentType (k : Rules) (a : Argument) : Check TypeId := do
  let t ← k.argument a
  match a.parameter with
  | some p => if p.initial.isSome && !a.isOptional then orUndefined k t else return t
  | none => return t

/-- The getter and the setter of a member whose types differ. -/
def accessorsOf? (k : Rules) (p : Property) : Check (Option (TypeId × Argument)) := do
  match p.isAccessor, p.holding with
  | true, .members _ sites =>
    let setter := sites.findSome? fun s => match s.member with
      | .setter _ _ f => some (memberFunction s f .setter)
      | _ => none
    match setter with
    | some site =>
      let sig ← signatureOf site
      match sig.arguments with
      | [a] =>
        if (a.parameter.bind (·.type)).isNone then return none
        let a ← a.instantiate k p.substitution
        let t ← k.property p
        let u ← k.argument a
        return if t ≠ u then some (t, a) else none
      | _ => return none
    | none => return none
  | _, _ => return none

/-- A function is declared outside all others, or belongs to a class itself. -/
def isTopLevel (sites : List FunctionSite) : Bool :=
  match sites with
  | s :: _ =>
    s.isStatic || (s.kind = .plain && !s.function.isArrow && match s.env.scope.frames with
      | [] => true
      | .space _ :: _ => true
      | _ => false)
  | [] => false

/-! ## What is told as it is written -/

/-- A value is taken for a type that is written with it. -/
def claimedIn? (scope : Scope) : Expr → Option (Scope × TypeExpr)
  | .cast _ type => some (scope, type)
  | _ => none

/-- The type that the one value is taken for that a function returns. -/
def claimedResult? (site : FunctionSite) : Option (Scope × TypeExpr) :=
  let f := site.function
  if f.isAsync || f.isGenerator then none
  else match f.body with
    | .none => none
    | .value passage => claimedIn? site.scope passage.value
    | .block passage =>
      let body := passage.block
      let isOwn := body.any fun
        | .result (some (.cast ..)) => true
        | _ => false
      if !isOwn then none
      else match (site.walk body).2.results with
        | [(some e, env)] => claimedIn? env.scope e
        | _ => none

/-- The one value that a function returns if that is a function, with the place where it is
    written. -/
def returnedFunction? (site : FunctionSite) : Option (Function × Scope) :=
  let f := site.function
  if f.isAsync || f.isGenerator || f.result.isSome then none
  else match f.body with
    | .none => none
    | .value passage => functionIn? site.scope passage.value
    | .block passage =>
      let body := passage.block
      let isOwn := body.any fun
        | .result (some e) => (functionIn? site.scope e).isSome
        | _ => false
      if !isOwn then none
      else match (site.walk body).2.results with
        | [(some e, env)] => functionIn? env.scope e
        | _ => none
where
  /-- The value is a function. -/
  functionIn? (scope : Scope) : Expr → Option (Function × Scope)
    | .function f => some (f, scope)
    | .group e => functionIn? scope e
    | _ => none

/-- The type that the value of a member is taken for where it is written. -/
def claimedMember? (p : Property) : Option (Scope × TypeExpr) :=
  match p.claimed, p.holding with
  | some c, _ => some c
  | none, .members _ (site :: _) =>
    match site.member with
    | .field _ _ _ _ none (some passage) => claimedIn? site.scope passage.value
    | .getter _ _ f => if f.result.isNone then claimedResult? (memberFunction site f .getter) else none
    | _ => none
  | none, _ => none

/-- The signature of the function that a function returns, if what it gives is just that. -/
def returnedSignature? (k : Rules) (sig : Signature) (t : TypeId) : Check (Option Signature) := do
  match sig.site.bind returnedFunction? with
  | none => return none
  | some (f, scope) =>
    match ← shape t with
    | .object (.functions [site] _) _ =>
      if site.key ≠ scope.key f.spot "" then return none
      match (← k.members t).calls with
      | [inner] =>
        return if inner.self.isSome || (← inner.claim? k).isSome then none else some inner
      | _ => return none
    | _ => return none

/-- The type as it is written, if it is the one that is written there. -/
def tellClaimed? (k : Rules) (claimed : Option (Scope × TypeExpr)) (t : TypeId) :
    Tell (Option Told) := do
  match claimed with
  | some (scope, e) =>
    if (← (k.written scope e : Check _)) = t then
      let told := writtenTold e
      grow (widthOf told.text + 1)
      return some told
    else return none
  | none => return none

/-- The type of a parameter as that of its default is written. -/
def claimedArgument? (k : Rules) (a : Argument) (t : TypeId) : Tell (Option Told) := do
  match a.parameter, a.site with
  | some ⟨_, _, _, _, _, none, some passage⟩, some site =>
    let claimed := claimedIn? site.scope passage.value
    match ← tellClaimed? k claimed t with
    | some told => return some told
    | none =>
      let u ← (k.argument a : Check _)
      if u = t then return none
      else
        let told? ← tellClaimed? k claimed u
        return told?.map fun told => .joined true [told, .plain "undefined"]
  | _, _ => return none

/-- The declared functions by which an object type is told: those of a namespace of their name,
    or of members that are assigned where nothing is around. -/
def functionsWithName (source : ObjectSource) : List Entity :=
  match source with
  | .extended sites es _ =>
    let isOutermost := sites.any fun s => s.kind = .plain && s.env.scope.frames.isEmpty
    if es.isEmpty && !isOutermost then []
    else sites.map fun s => .function s.function s.env.scope
  | _ => []

mutual

/-- Tells a type. -/
def tellType (k : Rules) : Nat → TypeId → Tell Told
  | 0, _ => return .elided
  | n + 1, t => do
    let t ← (reduced k t : Check _)
    let e ← (entry t : Check _)
    match e.synonym with
    | some y =>
      let arguments ← tellTypes k n false y.arguments
      let es := (← read).sources.files.find? fun f => f.index = y.key.file
      let scope? := es.map fun f => Entity.parameter ⟨y.key.spot, y.name, false, false, false, none, none⟩ ⟨f, []⟩
      tellNamed scope? y.name arguments
    | none => tellShape k n t e.shape

/-- Tells a type that goes by no other name. -/
def tellShape (k : Rules) : Nat → TypeId → Shape → Tell Told
  | 0, _, _ => return .elided
  | n + 1, t, s => do
    let word (size : Nat) (text : String) : Tell Told := do
      grow size
      return .plain text
    match s with
    | .keyword .any | .keyword .auto | .keyword .error => word 3 "any"
    | .keyword .unknown => return .plain "unknown"
    | .keyword .undefined | .keyword .missing => word 9 "undefined"
    | .keyword .null => word 4 "null"
    | .keyword .string => word 6 "string"
    | .keyword .number => word 6 "number"
    | .keyword .bigint => word 6 "bigint"
    | .keyword .symbol => word 6 "symbol"
    | .keyword .void => word 4 "void"
    | .keyword .never => word 5 "never"
    | .keyword .object => word 6 "object"
    | .unresolved path arguments =>
      let told ← tellTypes k n false arguments
      return .named (".".intercalate path) told
    | .text content => word (widthOf content + 2) (Text.Quoting.plain.quoted content)
    | .number text => word (widthOf text) text
    | .bigNumber isNegative digits =>
      let text := (if isNegative then "-" else "") ++ digits
      word (widthOf text + 1) (text ++ "n")
    | .truth value => if value then word 4 "true" else word 5 "false"
    | .enumMember _ name enumeration enumName _ =>
      let whole ← (enumerationOf enumeration t : Check _)
      let told ← tellNamed none enumName []
      if whole = (← (regularOf t : Check _)) then return told
      else if Text.isName name then return .plain (told.text ++ "." ++ name)
      else return .plain ("(typeof " ++ told.text ++ ")["
        ++ Text.Quoting.quoted ⟨'"', true, false⟩ name ++ "]")
    | .uniqueSymbol .. =>
      grow 13
      return .ofForm .operator "unique symbol"
    | .parameter name source =>
      match source with
      | .self _ => word 4 "this"
      | _ =>
        if (← get).inferred.contains t then
          grow (widthOf name + 6)
          match ← (k.bound t : Check _) with
          | some b =>
            grow 9
            let bound ← tellType k n b
            return .ofForm .infer ("infer " ++ name ++ " extends " ++ bound.text)
          | none => return .ofForm .infer ("infer " ++ name)
        else tellNamed none name []
    | .declared d => tellReference k n t d d.parameters
    | .reference target arguments => tellTarget k n t target arguments
    | .deferred target _ scope _ =>
      let arguments ← (k.arguments t : Check _)
      visit t (some ("reference", scope.key t "")) (tellTarget k n t target arguments)
    | .tuple form ps => tellTuple k n form ps
    | .union types origin =>
      if t = booleanType then word 7 "boolean"
      else match origin with
        | some (.keys whole) =>
          grow 6
          let told ← tellType k n whole
          return .ofForm .operator ("keyof " ++ told.asMember)
        | some (.intersection os) => return .joined false (← tellTypes k n true os)
        | _ =>
          let from' := match origin with
            | some (.union os) => os
            | _ => types
          let shown ← (toldMembers from' : Check _)
          match shown with
          | [u] => tellType k n u
          | _ => return .joined true (← tellTypes k n true shown)
    | .intersection types => return .joined false (← tellTypes k n true types)
    | .object source s' => tellObject k n t source s'
    | .keys of =>
      grow 6
      let told ← tellType k n of
      return .ofForm .operator ("keyof " ++ told.asMember)
    | .index object key =>
      let o ← tellType k n object
      let i ← tellType k n key
      grow 2
      return .plain (o.asElement ++ "[" ++ i.text ++ "]")
    | .conditional c s' check bound =>
      visit t (some ("conditional", c.scope.key c.spot "")) do
        let checked ← tellType k n check
        grow 15
        let before := (← get).inferred
        modify fun x => { x with inferred := c.inferred }
        let extended ← tellType k n bound
        modify fun x => { x with inferred := before }
        let yes ← tellBranch k n (← (k.instantiate s' (← k.written c.scope c.yes) : Check _))
        let no ← tellBranch k n (← (k.instantiate s' (← k.written c.scope c.no) : Check _))
        return .ofForm .conditional
          (checked.asChecked ++ " extends " ++ extended.asBound ++ " ? " ++ yes.text ++ " : " ++ no.text)
    | .template texts types =>
      let told ← types.mapM (tellType k n)
      grow 2
      let q := Text.Quoting.template
      let rest := (told.zip (texts.drop 1)).map fun (x, text) =>
        "$\x7b" ++ x.text ++ "\x7d" ++ q.escapeText text
      return .plain ("`" ++ q.escapeText (texts.headD "") ++ String.join rest ++ "`")
    | .changed word of =>
      let told ← tellType k n of
      tellNamed none word [told]
    | .held of =>
      let told ← tellType k n of
      tellNamed none "NoInfer" [told]

/-- Tells what a condition leads to. -/
def tellBranch (k : Rules) : Nat → TypeId → Tell Told
  | 0, _ => return .elided
  | n + 1, t => do
    match ← (shape t : Check _) with
    | .union .. =>
      if (← get).met.contains t then leaveOut else visit t none (tellType k n t)
    | _ => tellType k n t

/-- Tells types one by one; the flag tells that they are the members of a union or an
    intersection. -/
def tellTypes (k : Rules) : Nat → (isBare : Bool) → List TypeId → Tell (List Told)
  | 0, _, _ => return [.elided]
  | n + 1, isBare, types => do
    if types.isEmpty then return []
    let count := types.length
    let more (m : Nat) : Told := .named ("... " ++ toString m ++ " more ...") []
    let long ← isLong
    if long && !isBare then return [.elided]
    match types, types.getLast? with
    | first :: _ :: _ :: _, some last =>
      if long then
        let a ← tellType k n first
        let b ← tellType k n last
        return [a, more (count - 2), b]
    | _, _ => pure ()
    let told ← tellFrom k n count types
    let clashes ← (clashing types told : Check _)
    if clashes.isEmpty then return told
    let before := (← get).isFull
    modify fun s => { s with isFull := true }
    let again ← (types.zip told).mapM fun (t, x) =>
      if x.name.any clashes.contains then tellType k n t else pure x
    modify fun s => { s with isFull := before }
    return again ++ told.drop types.length

/-- Tells the rest of some types, given how many there are. -/
def tellFrom (k : Rules) : Nat → (count : Nat) → List TypeId → Tell (List Told)
  | 0, _, _ => return [.elided]
  | _ + 1, _, [] => return []
  | n + 1, count, t :: rest => do
    let i := count - rest.length
    if (← isLong) && i + 2 < count - 1 then
      let last ← match rest.getLast? with
        | some u => tellType k n u
        | none => pure .elided
      return [.named ("... " ++ toString (count - i) ++ " more ...") [], last]
    grow 2
    let told ← tellType k n t
    return told :: (← tellFrom k n count rest)

/-- Tells a reference by what it refers to. -/
def tellTarget (k : Rules) : Nat → TypeId → TypeId → List TypeId → Tell Told
  | 0, _, _, _ => return .elided
  | n + 1, t, target, arguments => do
    match ← (shape target : Check _) with
    | .declared d => tellReference k n t d arguments
    | .tuple form _ => tellTuple k n form arguments
    | _ => return .plain "any"

/-- Tells a class or an interface with its type arguments. -/
def tellReference (k : Rules) : Nat → TypeId → Declared → List TypeId → Tell Told
  | 0, _, _, _ => return .elided
  | n + 1, t, d, arguments => do
    let isGlobal := d.key.isOfLibrary
    match arguments with
    | [e] =>
      if isGlobal && d.name = "Array" then return (← tellType k n e).list
      if isGlobal && d.name = "ReadonlyArray" then return (← tellType k n e).list.readonly
    | _ => pure ()
    do
      let groups ← (argumentGroups (d.outer.zip arguments) : Check _)
      let mut before := ""
      for (name, pairs) in groups do
        if pairs.any fun (p, u) => p ≠ u then
          let told ← tellTypes k n false (pairs.map (·.2))
          before := before ++ (← tellNamed none name told).text ++ "."
      let own := arguments.drop d.outer.length
      let count ← (toldArguments k t d own : Check _)
      let told ← tellTypes k n false (own.take count)
      let whole ← tellNamed d.entities.head? (toldName d.entities) told
      if before = "" then return whole else return .plain (before ++ whole.text)

/-- Tells a tuple. -/
def tellTuple (k : Rules) : Nat → TupleForm → List TypeId → Tell Told
  | 0, _, _ => return .elided
  | n + 1, form, types => do
    let kept ← ((form.kinds.zip types).mapM fun (kind, t) =>
      whereThere (kind = ElementKind.optional) t : Check _)
    let told ← tellTypes k n false kept
    let parts := told.mapIdx fun i x =>
      let kind := (form.kinds[i]?).getD .required
      let listed := if kind = .rest then x.list else x
      match (form.names[i]?).join with
      | some name =>
        (if TupleForm.isOpen kind then "..." else "") ++ name ++ (if kind = .optional then "?" else "")
          ++ ": " ++ listed.text
      | none =>
        if TupleForm.isOpen kind then "..." ++ listed.text
        else if kind = .optional then x.asElement ++ "?"
        else x.text
    let whole := Told.plain ("[" ++ ", ".intercalate parts ++ "]")
    return if form.isReadonly then whole.readonly else whole

/-- Tells an object type. -/
def tellObject (k : Rules) : Nat → TypeId → ObjectSource → Substitution → Tell Told
  | 0, _, _, _ => return .elided
  | n + 1, t, source, s => do
    let asked := (← (getThe Store : Check _)).queries[t]?
    if let some node := asked then
      let told := writtenTold node
      grow (widthOf told.text)
      return told
    match source with
    | .statics es =>
      match ← (openBase? k es : Check _) with
      | none => tellQuery es
      | some _ =>
        if (← get).met.contains t then leaveOut
        else
          let place := source.key?.map fun key => (source.word, key)
          visit t place (tellContents k n t source s)
    | .enumeration es => tellQuery es
    | .space es => tellQuery es
    | _ =>
      let declared := functionsWithName source
      if !declared.isEmpty then tellQuery declared
      else if (← get).met.contains t then
        match source with
        | .functions sites _ | .extended sites _ _ =>
          if isTopLevel sites then
            let f := (sites.head?.map (·.function)).getD default
            let told ← tellNamed none (f.name.getD "") []
            return .ofForm .query ("typeof " ++ told.text)
          else leaveOut
        | _ => leaveOut
      else
        let place := source.key?.map fun key => (source.word, key)
        visit t place (tellContents k n t source s)

/-- Tells an object type by its members. -/
def tellContents (k : Rules) : Nat → TypeId → ObjectSource → Substitution → Tell Told
  | 0, _, _, _ => return .elided
  | n + 1, t, source, s => do
    let waits := (← (openMap? k t : Check _)).isSome
    if waits then tellMapped k n source s
    else
      let m ← (k.members t : Check _)
      match m.properties, m.indexers, m.calls, m.constructs with
      | [], [], [], [] =>
        grow 2
        return .object []
      | [], [], [sig], [] => return .ofForm .function (← tellSignature k n " => " sig)
      | [], [], [], [sig] =>
        let told ← tellSignature k n " => " sig
        return .ofForm .function ((if sig.isAbstract then "abstract new " else "new ") ++ told)
      | _, _, _, _ =>
        match m.constructs.filter (·.isAbstract) with
        | [] => tellParts k n m
        | sigs =>
          let abstract' ← sigs.mapM fun sig => do
            return Told.ofForm .function ("abstract new " ++ (← tellSignature k n " => " sig))
          let rest : Members := { m with constructs := m.constructs.filter (!·.isAbstract) }
          let others ← match rest.properties, rest.indexers, rest.calls, rest.constructs with
            | [], [], [], [] => pure []
            | [], [], [sig], [] => do
              pure [Told.ofForm .function (← tellSignature k n " => " sig)]
            | [], [], [], [sig] => do
              pure [Told.ofForm .function ("new " ++ (← tellSignature k n " => " sig))]
            | _, _, _, _ => do pure [← tellParts k n rest]
          match abstract' ++ others with
          | [told] => return told
          | all => return .joined false all

/-- Tells members one after the other. -/
def tellParts (k : Rules) : Nat → Members → Tell Told
  | 0, _ => return .elided
  | n + 1, m => do
    if ← isLong then
      grow 2
      return .object ["..."]
    let calls ← m.calls.mapM (tellSignature k n ": ")
    let constructs ← m.constructs.mapM fun sig => do
      return "new " ++ (← tellSignature k n ": " sig)
    let indexers ← m.indexers.mapM (tellIndexer k n)
    let properties ← tellProperties k n m.properties.length m.properties
    grow 2
    return .object (calls ++ constructs ++ indexers ++ properties)

/-- Tells a mapped type whose keys are not known yet. -/
def tellMapped (k : Rules) : Nat → ObjectSource → Substitution → Tell Told
  | 0, _, _ => return .elided
  | n + 1, source, s => do
    match source with
    | .mapped _ parameter domain renamed readonlyMark optionalMark result scope =>
      let d ← (k.instantiate s (← k.written scope domain) : Check _)
      let range ← tellType k n d
      let rename ← match renamed with
        | some e => do
          let told ← tellType k n (← (k.instantiate s (← k.written scope e) : Check _))
          pure (" as " ++ told.text)
        | none => pure ""
      let result ← match result with
        | some e => (do
          let u ← k.instantiate s (← k.written scope e)
          if optionalMark = "?" || optionalMark = "+?" then orMissing k u >>= whereThere true
          else return u : Check _)
        | none => pure anyType
      let told ← tellType k n result
      grow 10
      let mark := if readonlyMark = "" then "" else readonlyMark ++ " "
      return .object [mark ++ "[" ++ parameter ++ " in " ++ range.text ++ rename ++ "]"
        ++ optionalMark ++ ": " ++ told.text]
    | _ => return .elided

/-- Tells what stands under any key. -/
def tellIndexer (k : Rules) : Nat → Indexer → Tell String
  | 0, _ => return "..."
  | n + 1, i => do
    let key ← tellType k n i.key
    let told ← tellType k n i.type
    grow (widthOf i.name + 4)
    return (if i.isReadonly then "readonly " else "") ++ "[" ++ i.name ++ ": " ++ key.text ++ "]: "
      ++ told.text

/-- Tells the rest of some members, given how many there are. -/
def tellProperties (k : Rules) : Nat → (count : Nat) → List Property → Tell (List String)
  | 0, _, _ => return []
  | _ + 1, _, [] => return []
  | n + 1, count, p :: rest => do
    let i := count - rest.length
    if (← isLong) && i + 2 < count - 1 then
      let last ← match rest.getLast? with
        | some q => tellProperty k n q
        | none => pure []
      return ("... " ++ toString (count - i) ++ " more ...") :: last
    let told ← tellProperty k n p
    return told ++ (← tellProperties k n count rest)

/-- Tells a member. -/
def tellProperty (k : Rules) : Nat → Property → Tell (List String)
  | 0, _ => return []
  | n + 1, p => do
    let name := memberName p
    let t ← (k.property p >>= whereThere p.isOptional : Check _)
    grow (widthOf p.name + 1)
    match ← (accessorsOf? k p : Check _) with
    | some (got, a) =>
      grow 3
      let g ← tellType k n got
      grow 3
      let taken ← tellArgument k n a
      return ["get " ++ name ++ "(): " ++ g.text, "set " ++ name ++ "(" ++ taken ++ ")"]
    | none =>
      let mark := if p.isOptional then "?" else ""
      let sigs ← (if p.isMethod && !p.isReadonly then do
          let u ← filterUnion (fun u => return !(← isUndefined u)) t
          let m ← k.members u
          if m.properties.isEmpty then return m.calls else return []
        else return [] : Check (List Signature))
      if !sigs.isEmpty then
        sigs.mapM fun sig => return name ++ mark ++ (← tellSignature k n ": " sig)
      else if p.isMethod && !p.isReadonly && !p.isOptional
          && (← (shape t : Check _)) matches .object (.functions ..) _ then return []
      else
        let told ← match ← tellClaimed? k (claimedMember? p) t with
          | some told => pure told
          | none => tellType k n t
        if p.isReadonly then grow 9
        return [(if p.isReadonly then "readonly " else "") ++ name ++ mark ++ ": " ++ told.text]

/-- Tells a signature, given what stands before its result. -/
def tellSignature (k : Rules) : Nat → (arrow : String) → Signature → Tell String
  | 0, _, _ => return "..."
  | n + 1, arrow, sig => do
    grow 3
    let parameters ← sig.typeParameters.mapM (tellParameter k n)
    let arguments ← (toldParameters k sig : Check _)
    let told ← (arguments).mapM (tellArgument k n)
    let self ← sig.self.toList.mapM (tellArgument k n)
    let result ← match ← (sig.claim? k : Check _) with
      | some c => do
        let claimed ← match c.type with
          | some u => do
            let told ← tellType k n u
            pure (" is " ++ told.text)
          | none => pure ""
        pure ((if c.asserts then "asserts " else "") ++ c.subject ++ claimed)
      | none => do
        let t ← (k.result sig : Check _)
        let claimed := sig.site.bind fun site =>
          if site.function.result.isNone then claimedResult? site else none
        match ← tellClaimed? k claimed t with
        | some told => pure told.text
        | none =>
          match ← (returnedSignature? k sig t : Check _) with
          | some inner => tellReturned k n inner
          | none => do
            let told ← tellType k n t
            pure told.text
    let generic := if parameters.isEmpty then "" else "<" ++ ", ".intercalate parameters ++ ">"
    return generic ++ "(" ++ ", ".intercalate (self ++ told) ++ ")" ++ arrow ++ result

/-- Tells a function that is written where another one returns it: what it gives comes first. -/
def tellReturned (k : Rules) : Nat → Signature → Tell String
  | 0, _ => return "..."
  | n + 1, sig => do
    let t ← (k.result sig : Check _)
    let claimed := sig.site.bind fun site =>
      if site.function.result.isNone then claimedResult? site else none
    let result ← match ← tellClaimed? k claimed t with
      | some told => pure told.text
      | none =>
        match ← (returnedSignature? k sig t : Check _) with
        | some inner => tellReturned k n inner
        | none => do
          let told ← tellType k n t
          pure told.text
    let parameters ← sig.typeParameters.mapM (tellParameter k n)
    let told ← (← (toldParameters k sig : Check _)).mapM fun a => do
      let size := (← get).size
      let text ← tellArgument k n a
      modify fun s => { s with size := max size (s.size - (widthOf a.name + 3)) }
      return text
    let generic := if parameters.isEmpty then "" else "<" ++ ", ".intercalate parameters ++ ">"
    return generic ++ "(" ++ ", ".intercalate told ++ ") => " ++ result

/-- Tells a type parameter as it is declared. -/
def tellParameter (k : Rules) : Nat → TypeId → Tell String
  | 0, _ => return "..."
  | n + 1, p => do
    let declared ← (declarationOf? 64 p : Check _)
    let name ← match ← (shape p : Check _) with
      | .parameter name _ => pure name
      | _ => pure ""
    let bound ← match ← (k.bound p : Check _) with
      | some b => do
        let written := declared.bind fun (q, scope, _) => q.bound.map fun e => (scope, e)
        let isWrong ← (match written with
          | some (scope, e) => do isError (← k.written scope e)
          | none => return false : Check Bool)
        let told ← match written, isWrong with
          | some (_, e), true => pure (writtenTold e)
          | _, _ => match ← tellClaimed? k written b with
            | some told => pure told
            | none => tellType k n b
        pure (" extends " ++ told.text)
      | none => pure ""
    let fallback ← match ← (default? k p : Check _) with
      | some d => do
        let told ← tellType k n d
        pure (" = " ++ told.text)
      | none => pure ""
    let has (mark : TypeParameter → Bool) : Bool := declared.any fun (q, _, _) => mark q
    let marks := parameterMarks (has (·.isConstant)) (has (·.isInward)) (has (·.isOutward))
    return marks ++ name ++ bound ++ fallback

/-- Tells a parameter. -/
def tellArgument (k : Rules) : Nat → Argument → Tell String
  | 0, _ => return "..."
  | n + 1, a => do
    let t ← (toldArgumentType k a : Check _)
    let told ← match ← claimedArgument? k a t with
      | some told => pure told
      | none => tellType k n t
    grow (widthOf a.name + 3)
    let name := match a.parameter with
      | some p => patternText p.pattern
      | none => a.name
    return (if a.isRest then "..." else "") ++ name ++ (if a.isOptional then "?" else "") ++ ": "
      ++ told.text

end

/-! ## Texts -/

/-- A text that is longer than a limit, cut off. -/
def cutOff (limit : Nat) (s : String) : String :=
  if widthOf s < limit then s
  else String.ofList (take (limit - 3) s.toList) ++ "..."
where
  take : Nat → List Char → List Char
    | _, [] => []
    | n, c :: rest =>
      let units := (Text.unitsOf c).length
      if units ≤ n then c :: take (n - units) rest else []

/-- The text that tells a type. -/
def textOf (k : Rules) (t : TypeId) : Check String := do
  let limit := if (← settings).tellsAll then wideLimit else usualLimit
  let (told, _) ← (tellType k 4096 t).run ⟨0, [], [], [], false, limit⟩
  return cutOff (2 * limit) told.text

end TypeLineage.Typing
