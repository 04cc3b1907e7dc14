import TypeLineage.Typing.Bound

/-! # Types as they are written

    A name stands for a declared type or for another type that goes by the
    name; one that stands for nothing keeps its name.  What is written in the
    declaration of another name goes by that name.  There, references and lists
    look at their arguments only when these are asked for, so that a name may
    be used in its own declaration. -/

namespace TypeLineage.Typing

open Source Program

/-! ## Names -/

mutual

/-- A written type may lead to another name for a type. -/
def mayBeSynonym (scope : Scope) : Nat → TypeExpr → Check Bool
  | 0, _ => return true
  | n + 1, e => do
    match e with
    | .named path _ =>
      let es ← typeAt scope path
      return es.isEmpty || es.any isSynonym
    | .query .. => return true
    | .operator word t => if word = "unique" then return false else mayBeSynonym scope n t
    | .index a b => anyMayBeSynonym scope n [a, b]
    | .union ts => anyMayBeSynonym scope n ts
    | .intersection ts => anyMayBeSynonym scope n ts
    | .conditional _ a b c d => anyMayBeSynonym scope n [a, b, c, d]
    | .array t => mayBeSynonym scope n t
    | .tuple _ items => anyMayBeSynonym scope n (items.map (·.type))
    | _ => return false

/-- One of several written types may lead to another name for a type. -/
def anyMayBeSynonym (scope : Scope) : Nat → List TypeExpr → Check Bool
  | 0, _ => return true
  | n + 1, es => do
    match es with
    | [] => return false
    | e :: rest =>
      if ← mayBeSynonym scope n e then return true else anyMayBeSynonym scope n rest

end

/-- A reference waits for its arguments where it is part of a name's declaration. -/
def isDeferred (n : Naming) (scope : Scope) (arguments : List TypeExpr) (hasDefaults : Bool) :
    Check Bool := do
  if n.synonym.isSome then return true
  if !n.isInSynonym then return false
  if hasDefaults then return true
  arguments.anyM (mayBeSynonym scope 64)

/-! ## References -/

/-- A reference to a class or an interface. -/
def declaredReference (k : Rules) (n : Naming) (scope : Scope) (es : List Entity) (node : TypeExpr)
    (arguments : List TypeExpr) : Check TypeId := do
  let t ← k.declared es
  match ← shape t with
  | .declared d =>
    if d.own.isEmpty then return if arguments.isEmpty then t else errorType
    else if scope.file.isScript && arguments.length < d.own.length then
      let types ← arguments.mapM (k.writtenAs n.part scope)
      reference t (d.outer ++ types ++ (d.own.drop types.length).map fun _ => anyType)
    else if !(← isCountRight d.own arguments.length) then return errorType
    else if ← isDeferred n scope arguments (arguments.length ≠ d.own.length) then
      makeNamed (.deferred t node scope []) n.synonym
    else
      let types ← arguments.mapM (k.writtenAs n.part scope)
      reference t (d.outer ++ (← fillArguments k d.own types))
  | _ => return t

/-- What a word of the library makes of a type. -/
def intrinsic (k : Rules) (word : String) (types : List TypeId) : Check TypeId := do
  match types with
  | [t] => if word = "NoInfer" then heldOf t else changedOf k word t
  | _ => return if (← settings).strictIterators then undefinedType else anyType

/-- What another name stands for with type arguments. -/
def synonymWith (k : Rules) (key : Key) (ps : List TypeId) (body : TypeId)
    (arguments : List TypeId) (named : Option Synonym) : Check TypeId := do
  match (← get).instances[(key, arguments, named)]? with
  | some t => return t
  | none =>
    let t ← replaceAs k named (ps.zip arguments) body
    modify fun s => { s with instances := s.instances.insert (key, arguments, named) t }
    return t

/-- What another name of the library stands for with type arguments. -/
def globalSynonym? (k : Rules) (name : String) (types : List TypeId) : Check (Option TypeId) := do
  match ((← read).shared name).find? isSynonym with
  | some e =>
    discard (k.declared [e])
    match (← get).synonyms[e.key]? with
    | some (body, ps) =>
      return some (← synonymWith k e.key ps body types (some ⟨e.key, name, types⟩))
    | none => return none
  | none => return none

/-- A reference to another name for a type. -/
def synonymReference (k : Rules) (n : Naming) (scope : Scope) (e : Entity) (path : List String)
    (arguments : List TypeExpr) : Check TypeId := do
  let t ← k.declared [e]
  match (← get).synonyms[e.key]? with
  | none => return t
  | some (body, ps) =>
    if ps.isEmpty then
      match e, arguments with
      | .synonym _ name _ (.keyword "intrinsic") _, [] => intrinsic k name []
      | _, [] => return body
      | _, _ => return errorType
    else if !(← isCountRight ps arguments.length) then return errorType
    else
      let types ← arguments.mapM (k.writtenAs n.part scope)
      match e with
      | .synonym _ name _ (.keyword "intrinsic") _ => intrinsic k name types
      | _ =>
        let w ← read
        let isTaken := path.length = 1 && w.isTaken scope.file (path.headD "") scope.frames
        let named := match n.synonym with
          | some y => some y
          | none => if isTaken then some ⟨e.key, e.name, types⟩ else none
        synonymWith k e.key ps body (← fillArguments k ps types) named

/-- A reference to what a path stands for. -/
def referenceTo (k : Rules) (n : Naming) (scope : Scope) (es : List Entity) (node : TypeExpr)
    (path : List String) (arguments : List TypeExpr) : Check TypeId := do
  if scope.file.isScript && path = ["Object"] && arguments.isEmpty
      && !(← settings).noImplicitAny then
    return anyType
  match es.find? isTypeDeclaration with
  | some _ => declaredReference k n scope es node arguments
  | none =>
    match es.find? isSynonym with
    | some e => synonymReference k n scope e path arguments
    | none =>
      match es.find? (·.means .type) with
      | some (.parameter p s) =>
        if arguments.isEmpty then parameterType p s else return errorType
      | some _ =>
        if !arguments.isEmpty then return errorType
        regular k (← k.declared (es.filter (·.means .type)))
      | none => return errorType

/-! ## Lists and tuples -/

/-- The elements of a tuple as it is written; a list that is taken in gives its element
    where its type is written as a list. -/
def writtenKind (i : TupleItem) : ElementKind × TypeExpr :=
  if i.isRest then
    match i.type with
    | .array t => (.rest, t)
    | t => (.variadic, t)
  else (if i.isOptional then .optional else .required, i.type)

/-- The elements of a tuple. -/
def writtenElements (k : Rules) (n : Naming) (scope : Scope) (items : List TupleItem) :
    Check (List Element) :=
  items.mapM fun i => do
    let (kind, e) := writtenKind i
    let t ← k.writtenAs n.part scope e
    let t ← if kind = .optional then orMissing k t else pure t
    return ⟨kind, i.name, t⟩

/-- The declaration that a list follows. -/
def listTarget? (k : Rules) (isReadonly : Bool) : Check (Option TypeId) :=
  globalType? k (if isReadonly then "ReadonlyArray" else "Array")

/-- A list or a tuple. -/
def writtenList (k : Rules) (n : Naming) (scope : Scope) (isReadonly : Bool) (node : TypeExpr) :
    Check TypeId := do
  match node with
  | .array e =>
    match ← listTarget? k isReadonly with
    | none => return emptyObjectType
    | some target =>
      if ← isDeferred n scope [e] false then makeNamed (.deferred target node scope []) n.synonym
      else reference target [← k.writtenAs n.part scope e]
  | .tuple _ items =>
    let kinds := items.map (writtenKind · |>.1)
    let names := if items.any (·.name.isSome) then items.map (·.name)
      else items.map fun _ => none
    let target? ← if kinds = [.rest] then listTarget? k isReadonly
      else some <$> tupleTarget ⟨kinds, names, isReadonly⟩
    match target? with
    | none => return emptyObjectType
    | some target =>
      if kinds.isEmpty then return target
      else if !kinds.contains .variadic && (← isDeferred n scope (items.map (·.type)) false) then
        makeNamed (.deferred target node scope []) n.synonym
      else tupleOf k isReadonly (← writtenElements k n scope items)
  | e => k.writtenAs n scope e

/-! ## Values -/

/-- The value that a path leads to. -/
def pathValue : List String → Expr
  | [] => .other
  | first :: others =>
    others.foldl (fun e m => .access e m false) (if first = "this" then .self else .name first)

/-- The type of the value that a path leads to. -/
def writtenQuery (k : Rules) (scope : Scope) (path : List String) (arguments : List TypeExpr) :
    Check TypeId := do
  let value := pathValue path
  let value := if arguments.isEmpty then value else .instantiation value arguments
  let t ← k.value ⟨scope, .start⟩ value .none
  let t ← regular k (← widen k t)
  if !arguments.isEmpty then
    modify fun s => { s with queries := s.queries.insert t (.query path arguments) }
  return t

/-- A type or value of another file. -/
def writtenImport (k : Rules) (n : Naming) (scope : Scope) (file : String) (isValue : Bool)
    (path : List String) (arguments : List TypeExpr) (node : TypeExpr) : Check TypeId := do
  let w ← read
  let whole := w.wholeFile w.reach scope.file .names file
  let es := match path with
    | [] => whole
    | _ => w.alongPath w.reach whole (if isValue then [.value] else [.type]) path
  if isValue then
    let vs := es.filter (·.means .value)
    if vs.isEmpty then return errorType else regular k (← widen k (← k.entity vs))
  else if es.any (·.means .type) then referenceTo k n scope es node path arguments
  else return errorType

/-! ## Types -/

/-- The type of a keyword. -/
def keywordType : String → TypeId
  | "any" => anyType
  | "unknown" => unknownType
  | "never" => neverType
  | "void" => voidType
  | "string" => stringType
  | "number" => numberType
  | "bigint" => bigintType
  | "boolean" => booleanType
  | "symbol" => symbolType
  | "object" => objectType
  | "undefined" => undefinedType
  | "null" => nullType
  | _ => errorType

/-- The type of a single value as it is written, made with its fresh form. -/
def writtenValue (t : TypeId) : Check TypeId := do
  discard (freshOf t)
  return t

/-- The type of one number; a negative one is made after the number itself. -/
def writtenNumber (text : String) : Check TypeId := do
  if text.startsWith "-" then
    discard (writtenValue (← numberTypeOf (text.drop 1).toString))
  writtenValue (← numberTypeOf text)

/-- The type that a condition stands for. -/
def writtenConditional (k : Rules) (n : Naming) (scope : Scope) (spot : Nat)
    (check bound yes no : TypeExpr) : Check TypeId := do
  let names := bound.inferredNames
  let inner := if names.isEmpty then scope
    else scope.enter (.typeParameters (names.map (·.parameter)))
  let inferred ← names.mapM fun n => do
    let p ← parameterType n.parameter inner
    modify fun s => { s with implied := s.implied.insert p n.implied }
    return p
  let checked ← k.written scope check
  discard (k.written inner bound)
  let distributed ← match ← shape checked with
    | .parameter .. => pure (some checked)
    | _ => pure none
  let mentions := if n.synonym.any (!·.arguments.isEmpty) then none
    else some (mentionsIn (.conditional spot check bound yes no))
  let outer ← parametersAround k mentions scope
  let c : Conditional :=
    { spot, synonym := n.synonym, check, bound, yes, no, scope := inner, distributed, outer, inferred }
  let t ← foundAgain ⟨"conditional", scope.key spot "", outer, n.synonym⟩ (decide k false c [] n.synonym)
  foundAgain ⟨"conditional", scope.key spot "", outer, none⟩ (pure t)

/-- The type that a written type stands for. -/
def writtenType (k : Rules) (n : Naming) (scope : Scope) (e : TypeExpr) : Check TypeId := do
  match e with
  | .keyword word => return keywordType word
  | .self =>
    match selfPlace? scope with
    | some (d, outer, false) => return (← selfOf k d outer).getD errorType
    | _ => return errorType
  | .named path arguments =>
    let es ← typeAt scope path
    if es.isEmpty then
      let types ← arguments.mapM (k.writtenAs n.part scope)
      operation "unresolved" path types (.unresolved path types)
    else referenceTo k n scope es e path arguments
  | .text content => writtenValue (← textType content)
  | .number text => writtenNumber text
  | .bigNumber isNegative digits =>
    if isNegative then discard (writtenValue (← bigNumberTypeOf false digits))
    writtenValue (← bigNumberTypeOf isNegative digits)
  | .truth value => return truthType value
  | .array _ => writtenList k n scope false e
  | .nullable t => unionOf k .literal [← k.written scope t, nullType] none
  | .tuple .. => writtenList k n scope false e
  | .union ts => unionOf k .literal (← ts.mapM (k.writtenAs n.part scope)) n.synonym
  | .intersection ts => writtenIntersection k (← ts.mapM (k.writtenAs n.part scope)) n.synonym
  | .function constructs isAbstract f =>
    foundAgain ⟨"signature", scope.key f.spot "", [], n.synonym⟩
      (makeNamed (.object (.signature f constructs isAbstract scope) []) n.synonym)
  | .object spot members =>
    if members.isEmpty && n.synonym.isNone then return emptyLiteralType
    foundAgain ⟨"literal", scope.key spot "", [], n.synonym⟩
      (makeNamed (.object (.literal spot members scope) []) n.synonym)
  | .operator word t =>
    match word with
    | "keyof" => keysOf k (← k.writtenAs n.part scope t)
    | "readonly" => writtenList k n scope true t
    | _ => return symbolType
  | .query path arguments => writtenQuery k scope path arguments
  | .index object key =>
    let o ← k.writtenAs n.part scope object
    under k o (← k.writtenAs n.part scope key) n.synonym
  | .conditional spot check bound yes no => writtenConditional k n scope spot check bound yes no
  | .mapped spot parameter domain renamed readonlyMark optionalMark result =>
    let inner := scope.enter (.typeParameters [⟨spot, parameter, false, false, false, some domain, none⟩])
    foundAgain ⟨"mapped", scope.key spot "", [], n.synonym⟩ <| makeNamed
      (.object (.mapped spot parameter domain renamed readonlyMark optionalMark result inner) [])
      n.synonym
  | .infer spot parameter bound =>
    let w ← read
    match w.pathOf w.reach scope [.type] [parameter] with
    | [.parameter p s] => parameterType p s
    | _ => parameterType ⟨spot, parameter, false, false, false, bound, none⟩ scope
  | .imported file isValue path arguments => writtenImport k n scope file isValue path arguments e
  | .template start holes =>
    let types ← holes.mapM fun h => k.writtenAs n.part scope h.type
    templateOf k (start :: holes.map (·.behind)) types
  | .predicate asserts _ _ => return if asserts then voidType else booleanType

/-- The type arguments of a reference, which may have waited for them. -/
def argumentsOf (k : Rules) (t : TypeId) : Check (List TypeId) := do
  match ← shape t with
  | .reference _ arguments => return arguments
  | .declared d => return d.parameters
  | .tuple _ ps => return ps
  | .deferred target node scope s =>
    match (← get).arguments[t]? with
    | some arguments => return arguments
    | none =>
      let count ← match ← shape target with
        | .declared d => pure d.parameters.length
        | .tuple _ ps => pure ps.length
        | _ => pure 0
      let n : Naming := ⟨none, true⟩
      let circular := List.replicate count errorType
      let arguments ← attemptTask (.arguments t) circular (fun _ => pure circular) <| do
        let own ← match node with
          | .array e => pure [← k.writtenAs n scope e]
          | .tuple _ items => pure ((← writtenElements k n scope items).map (·.type))
          | .named _ es =>
            match ← shape target with
            | .declared d =>
              pure (d.outer ++ (← fillArguments k d.own (← es.mapM (k.writtenAs n scope))))
            | _ => pure []
          | .imported _ _ _ es =>
            match ← shape target with
            | .declared d =>
              pure (d.outer ++ (← fillArguments k d.own (← es.mapM (k.writtenAs n scope))))
            | _ => pure []
          | _ => pure []
        own.mapM (k.instantiate s)
      modify fun store => { store with arguments := store.arguments.insert t arguments }
      return arguments
  | _ => return []

end TypeLineage.Typing
