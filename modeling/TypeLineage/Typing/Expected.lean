import TypeLineage.Typing.FunctionValue

/-! # What is expected of values

    What is expected of a whole value tells what is expected of its parts.
    Single values are kept where single values are expected; elsewhere they give
    way where they are stored. -/

namespace TypeLineage.Typing

open Source Program

/-! ## Where single values are kept -/

/-- The type, or a part of it, has a shape. -/
def mayBe (p : Shape → Bool) : Nat → TypeId → Check Bool
  | 0, _ => return false
  | n + 1, t => do
    match ← shape t with
    | .union ts _ => ts.anyM (mayBe p n)
    | .intersection ts => ts.anyM (mayBe p n)
    | s => return p s

/-- Kinds of single values. -/
inductive ValueKind where
  | text
  | number
  | bigNumber
  | truth
  | symbol
  deriving DecidableEq, Repr

/-- The kind of single value that a shape is. -/
def valueKind? : Shape → Option ValueKind
  | .text _ => some .text
  | .enumMember _ _ _ _ (some (.text _)) => some .text
  | .number _ => some .number
  | .enumMember _ _ _ _ (some (.number _)) => some .number
  | .bigNumber .. => some .bigNumber
  | .truth _ => some .truth
  | .uniqueSymbol .. => some .symbol
  | _ => none

/-- The kind of single value that is expected where a type is. -/
def askedKind? : Shape → Option ValueKind
  | .keys _ | .template .. | .changed .. => some .text
  | s => valueKind? s

/-- The keyword of all values of a kind. -/
def ValueKind.keyword? : ValueKind → Option Keyword
  | .text => some .string
  | .number => some .number
  | .bigNumber => some .bigint
  | .symbol => some .symbol
  | .truth => none

/-- Single values of a type are kept where another is expected. -/
def keepsValues (k : Rules) (t : TypeId) : Nat → (expected : TypeId) → Check Bool
  | 0, _ => return false
  | n + 1, c => do
    match ← shape c with
    | .union ts _ => ts.anyM (keepsValues k t n)
    | .intersection ts => ts.anyM (keepsValues k t n)
    | .parameter .. | .index .. | .conditional .. | .held _ =>
      let b ← baseBound k c
      let isBroad ← [ValueKind.text, .number, .bigNumber, .symbol].anyM fun kind => do
        let broad (s : Shape) : Bool := match s with
          | .keyword w => kind.keyword? = some w
          | _ => false
        if ← mayBe broad 8 b then mayBe (fun s => valueKind? s = some kind) 8 t else return false
      if isBroad then return true else keepsValues k t n b
    | s =>
      match askedKind? s with
      | some kind => mayBe (fun s => valueKind? s = some kind) 8 t
      | none => return false

/-- The type of a value where something is expected and it may be changed later. -/
def settleValues (k : Rules) (t : TypeId) (expected : Option TypeId) : Check TypeId := do
  let keeps ← match expected with
    | some c => keepsValues k t 8 c
    | none => pure false
  if keeps then regular k t else regular k (← widenSymbols k (← widenValues k t))

/-- The value is one whose type is written with it. -/
def isCast : Expr → Bool
  | .cast .. => true
  | .constant _ => true
  | _ => false

/-- The type of a value where it is stored. -/
def storedValue (k : Rules) (env : Env) (e : Expr) (x : Expectation) : Check TypeId := do
  let t ← k.value env e x
  if x.isConstant then regular k t
  else if isCast e then return t
  else settleValues k t (← expectedType? k x)

/-- The type of a value that is handed to a call. -/
def handedValue (k : Rules) (env : Env) (e : Expr) (x : Expectation) : Check TypeId := do
  let t ← k.value env e x
  if ← mayBe isLiteralShape 8 t then
    match ← expectedType? k x with
    | some c => if ← keepsValues k t 8 c then regular k t else return t
    | none => return t
  else return t

/-- The type of nothing as a value. -/
def absentValue : Check TypeId :=
  return if ← strictNull then undefinedType else wideningUndefinedType

/-! ## What is expected of parts -/

/-- What a function makes of each member of a union, with nothing simplified. -/
def mapPlainly? (k : Rules) (f : TypeId → Check (Option TypeId)) (t : TypeId) :
    Check (Option TypeId) := do
  match ← (← membersOf t).filterMapM f with
  | [] => return none
  | [u] => return some u
  | ts => some <$> unionOf k .none ts none

/-- What is expected as far as its members are asked for. -/
def expectedMembers? (k : Rules) (x : Expectation) : Check (Option TypeId) := do
  match ← expectedType? k x with
  | some t => mapPlainly? k (fun u => do
      match ← shape u with
      | .object (.mapped ..) _ => return some u
      | _ => some <$> k.apparent u) t
  | none => return none

/-- What is expected under a name. -/
def expectedUnder? (k : Rules) (t : TypeId) (name : String) (key : TypeId) :
    Check (Option TypeId) :=
  mapPlainly? k (fun u => do
    match ← openMap? k u with
    | some m => if ← m.isRenaming k then plain u else mapped? m
    | none =>
      let s ← shape u
      if isObjectShape s || s matches .intersection _ then plain u else return none) t
where
  /-- What a mapped type makes of the name, if it may go through it. -/
  mapped? (m : Mapped) : Check (Option TypeId) := do
    let keys ← m.keys k
    if ← k.related .assignable key (← k.base keys) then some <$> m.substituted k key
    else return none
  plain (u : TypeId) : Check (Option TypeId) := do
    let m ← k.members u
    match m.properties.find? (·.name = name) with
    | some p => some <$> k.property p
    | none =>
      match ← tupleForm? k u, name.toNat? with
      | some _, some i => elementAt? k u i
      | _, _ => return (← indexerFor? k u key).map (·.type)

/-- What is expected of an element of a list, by its place, the number of elements and the
    places of the first and last among them that stand for many. -/
def expectedElement? (k : Rules) (t : TypeId) (place length : Nat) (first last : Option Nat) :
    Check (Option TypeId) :=
  mapPlainly? k (fun u => do
    let isBefore := first.all (place < ·)
    match ← tupleForm? k u with
    | some (form, types) =>
      if isBefore && place < form.fixedLength then return types[place]?
      else
        let offset := if last.all (· < place) then length - place else 0
        let ending := (form.kinds.reverse.takeWhile (!TupleForm.isOpen ·)).length
        let fixed := if offset > 0 && form.hasOpen then ending else 0
        if 0 < offset && offset ≤ fixed then return types[types.length - offset]?
        else
          let start := match first with
            | some i => min form.fixedLength i
            | none => form.fixedLength
          let stop := if form.hasOpen then fixed else 0
          let middle := ((elementsOf form types).take (types.length - stop)).drop start
          let ts ← middle.mapM fun e =>
            if e.kind = .variadic then openElement e.type else pure e.type
          match ts with
          | [] => return none
          | [t] => return some t
          | ts => some <$> unionOf k .none ts none
    | none =>
      let own ← if isBefore then do
          let m ← k.members (← k.apparent u)
          match m.properties.find? (·.name = toString place) with
          | some p => some <$> k.property p
          | none => pure none
        else pure none
      match own with
      | some t => return some t
      | none => itemOf? k false u) t

/-- Lists of a fixed length are expected. -/
def expectsTuple (k : Rules) (t : TypeId) : Check Bool :=
  someMember (fun u => do
    if ← isTuple u then return true
    match ← mapped? u, ← shape u with
    | some m, _ => if m.renamed.isNone then return (← m.source? k).isSome else return false
    | none, s =>
      if isObjectShape s then
        return (← k.members u).properties.any (·.name = "0")
      else return false) t

/-- A type parameter is expected that keeps single values. -/
def expectsConstant (t : TypeId) : Check Bool :=
  someMember (fun u => do
    match ← declarationOf? 64 u with
    | some (p, _, _) => return p.isConstant
    | none => return false) t

/-- Lists that may be changed are expected. -/
def expectsChangeable (k : Rules) (t : TypeId) : Check Bool :=
  someMember (fun u => do
    match ← tupleForm? k u with
    | some (form, _) => return !form.isReadonly
    | none => return (← listForm? k u).any (!·.isReadonly)) t

/-! ## Choosing among expected objects -/

/-- The value may tell members of a union apart. -/
def mayTell : Expr → Bool
  | .text _ | .number _ | .bigNumber _ | .truth _ | .null | .template .. | .name _ => true
  | .access e _ _ => mayTell e
  | .group e => mayTell e
  | _ => false

/-- The name of a part of an object as it is written, with the value that may tell what object it
    is. -/
def tellingItem? : ObjectItem → Option (String × Option Expr)
  | .property _ name e => name.known?.map (·, if mayTell e then some e else none)
  | .shorthand _ name => some (name, some (.name name))
  | .method name _ | .getter name _ | .setter name _ => name.known?.map (·, none)
  | .spread _ => none

/-- The expected objects that an object as it is written may be, as far as single values tell.
    Members that it leaves out have no value. -/
def chooseExpected (k : Rules) (env : Env) (items : List ObjectItem) (t : TypeId) :
    Check TypeId := do
  if !(← isUnion t) then return t
  let named := items.filterMap tellingItem?
  let own ← named.filterMapM fun (name, e?) => do
    match e? with
    | some e =>
      return if ← tellsApart k name t then some (Telltale.mk name (k.value env e .none)) else none
    | none => return none
  let others := (← k.members t).properties.filter fun p =>
    p.isOptional && !named.any (·.1 = p.name)
  let left ← others.filterM fun p => tellsApart k p.name t
  narrowedByTells k (k.related .assignable) t
    (own ++ left.map fun p => Telltale.mk p.name (pure undefinedType))

/-! ## What is awaited -/

/-- What is expected of a value that is awaited. -/
def expectedAwaited? (k : Rules) (t : Option TypeId) : Check (Option TypeId) := do
  match t with
  | some t =>
    match ← globalReference? k "PromiseLike" [t] with
    | some p => some <$> unionOf k .none [t, p] none
    | none => return some t
  | none => return none

end TypeLineage.Typing
