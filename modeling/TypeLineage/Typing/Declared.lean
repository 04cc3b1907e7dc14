import TypeLineage.Number.Binary64
import TypeLineage.Typing.Written

/-! # Declared types

    A class or an interface is a type with the type parameters of all its
    declarations.  An enumeration is the union of its members.  Another name
    for a type stands for the type behind it. -/

namespace TypeLineage.Typing

open Source Program

/-! ## Classes and interfaces -/

/-- Keeps the type of declarations. -/
def keepDeclared (es : List Entity) (t : TypeId) : Check Unit := modify fun s =>
  { s with declared := es.foldl (fun m e => m.insert e.key t) s.declared }

/-- A class or an interface as a type. -/
def declareType (es : List Entity) : Check TypeId := do
  match es with
  | [] => return errorType
  | first :: _ =>
    let t ← makeShape (.keyword .error)
    keepDeclared es t
    let isClass := es.any fun
      | .type d _ => d.isClass
      | _ => false
    let outer ← match first.scope? with
      | some scope => pure (← parametersOutside scope.file scope.frames).eraseDups
      | none => pure []
    let own ← ownParameters es
    let self ← makeShape (.parameter "this" (.self t))
    reshape t (.declared ⟨first.key, first.name, es, isClass, outer, own, self⟩)
    return t

/-! ## Enumerations -/

/-- The members of the declarations of an enumeration, each with its scope. -/
def enumParts (es : List Entity) : List (EnumMember × Scope) :=
  es.flatMap fun
    | .enumeration _ _ ms scope => ms.map (·, scope)
    | _ => []

/-- What a mark makes of a value. -/
def unaryValue? (operator : String) : EnumValue → Option EnumValue
  | .number x =>
    match operator with
    | "+" => some (.number x)
    | "-" => some (.number x.negate)
    | "~" => some (.number (Number.Binary64.ofBits (Number.Binary64.bitRange - 1 - x.bits)))
    | _ => none
  | .text _ => none

/-- The text of a value. -/
def EnumValue.content : EnumValue → String
  | .number x => x.text .plain
  | .text content => content

/-- What an operation makes of two values. -/
def binaryValue? (operator : String) (a b : EnumValue) : Option EnumValue :=
  match a, b with
  | .number x, .number y =>
    match operator with
    | "+" => some (.number (x.add y))
    | "-" => some (.number (x.subtract y))
    | "*" => some (.number (x.multiply y))
    | "/" => some (.number (x.divide y))
    | "%" => some (.number (x.remainder y))
    | "**" => some (.number (x.power y))
    | _ => (x.onBits? operator y).map .number
  | _, _ => if operator = "+" then some (.text (a.content ++ b.content)) else none

/-- The value that a member of an enumeration or a constant is given, as far as it is known
    without running the program, from the members before it. -/
def valueOf? (k : Rules) (known : List (String × Option EnumValue)) (own : String)
    (scope : Scope) : Nat → Expr → Check (Option EnumValue)
  | 0, _ => return none
  | n + 1, e => do
    let inner := valueOf? k known own scope n
    match e with
    | .text content => return some (.text content)
    | .number text => return some (.number (Number.ofTyped text.toList))
    | .group e => inner e
    | .template start holes =>
      let values ← holes.mapM fun h => return (← inner h.value, h.behind)
      return values.foldl (fun whole (v, behind) => do
        let text ← whole
        let v ← v
        some (text ++ v.content ++ behind)) (some start) |>.map .text
    | .unary operator e => return (← inner e).bind (unaryValue? operator)
    | .binary operator a b =>
      match ← inner a, ← inner b with
      | some x, some y => return binaryValue? operator x y
      | _, _ => return none
    | .name name =>
      match known.find? (·.1 = name) with
      | some (_, v) => return v
      | none =>
        if name = "NaN" then return some (.number .notANumber)
        if name = "Infinity" then return some (.number (.infinite false))
        let w ← read
        match w.lookup w.reach scope [.value] name with
        | [.variable v s] =>
          match v.binding, v.written.type, v.written.initial with
          | .constant, none, some e => valueOf? k [] "" s n e
          | _, _, _ => return none
        | _ => return none
    | .access (.name object) member _ =>
      if object = own && known.any (·.1 = member) then return (known.lookup member).join
      let w ← read
      match w.pathOf w.reach scope [.value] [object, member] with
      | [.enumMember name es] =>
        discard (k.declared es)
        return (← get).enumValues[(Entity.enumMember name es).key]?
      | _ => return none
    | .index (.name object) (.text member) _ => inner (.access (.name object) member false)
    | _ => return none

/-- The value behind one, if it is a number. -/
def valueBehind? : Option (Option EnumValue) → Option EnumValue
  | none => some (.number (.zero false))
  | some (some (.number x)) => some (.number (x.add (.ofInt 1)))
  | some _ => none

/-- The values of the members of an enumeration, in order. -/
def enumValues (k : Rules) (own : String) : List (EnumMember × Scope) →
    (known : List (String × Option EnumValue)) → (last : Option (Option EnumValue)) →
    Check (List (String × Option EnumValue))
  | [], known, _ => return known
  | (m, scope) :: rest, known, last => do
    match m.name.known? with
    | none => enumValues k own rest known last
    | some name =>
      let value ← match m.initial with
        | some e => valueOf? k known own scope 64 e
        | none => pure (valueBehind? last)
      enumValues k own rest (known ++ [(name, value)]) (some value)

/-- A text by which values are told apart. -/
def EnumValue.tag : EnumValue → String
  | .number x => "#" ++ x.text .plain
  | .text content => "$" ++ content

/-- The type of a member of an enumeration; members of the same value are of one type. -/
def memberType (enumeration : Key) (enumName : String) (name : String) (key : Key)
    (value : Option EnumValue) : Check TypeId := do
  let tag := match value with
    | some v => v.tag
    | none => "." ++ name
  match (← get).enumMembers[(enumeration, tag)]? with
  | some t => return t
  | none =>
    let t ← makeShape (.enumMember key name enumeration enumName value)
    modify fun s => { s with enumMembers := s.enumMembers.insert (enumeration, tag) t }
    discard (freshOf t)
    return t

/-- An enumeration as a type. -/
def declareEnumeration (k : Rules) (es : List Entity) : Check TypeId := do
  match es with
  | [] => return errorType
  | first :: _ =>
    let known ← enumValues k first.name (enumParts es) [] none
    let types : List TypeId ← known.mapM fun (name, value) => do
      let key := (Entity.enumMember name es).key
      let t ← memberType first.key first.name name key value
      modify fun s => { s with
        declared := s.declared.insert key t
        enumValues := match value with
          | some v => s.enumValues.insert key v
          | none => s.enumValues }
      return t
    let distinct : List TypeId := types.eraseDups
    let t ← match distinct with
      | [] => makeShape (.enumMember first.key first.name first.key first.name none)
      | [t] => pure t
      | _ => unionOf k .literal types (some ⟨first.key, first.name, []⟩)
    keepDeclared es t
    return t

/-! ## Other names -/

/-- The type behind another name. -/
def declareSynonym (k : Rules) (e : Entity) : Check TypeId := do
  match e with
  | .synonym _ name ps body scope =>
    let key := e.key
    match (← get).synonyms[key]? with
    | some (t, _) => return t
    | none =>
      let inner := scope.enter (.typeParameters ps)
      let found ← attemptTask (.synonym key) errorType (fun _ => pure errorType) <| do
        let own ← ps.mapM (parameterType · inner)
        k.writtenAs ⟨some ⟨key, name, own⟩, true⟩ inner body
      match (← get).synonyms[key]? with
      | some (t, _) => return t
      | none =>
        let own ← ps.mapM (parameterType · inner)
        if (← get).tasks.all (fun (t, _) => t != Task.synonym key) then
          modify fun s => { s with synonyms := s.synonyms.insert key (found, own) }
        return found
  | _ => return errorType

/-! ## Declarations -/

/-- The first declaration's type, if it is known. -/
def knownDeclared? (es : List Entity) : Check (Option TypeId) := do
  let s ← get
  return es.findSome? fun e => s.declared[e.key]?

/-- The type that declarations declare. -/
def declaredType (k : Rules) (es : List Entity) : Check TypeId := do
  let types := es.filter isTypeDeclaration
  if !types.isEmpty then
    match ← knownDeclared? types with
    | some t => return t
    | none => declareType types
  else match es.find? isSynonym with
    | some e => declareSynonym k e
    | none =>
      let enums := es.filter fun
        | .enumeration .. => true
        | _ => false
      if !enums.isEmpty then
        match ← knownDeclared? enums with
        | some t => return t
        | none => declareEnumeration k enums
      else match es with
        | .enumMember name parts :: _ =>
          let whole ← k.declared parts
          return ((← get).declared[(Entity.enumMember name parts).key]?).getD whole
        | .parameter p scope :: _ => parameterType p scope
        | _ => return errorType

end TypeLineage.Typing
