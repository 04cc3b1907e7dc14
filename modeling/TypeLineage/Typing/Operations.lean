import TypeLineage.Typing.Mapped

/-! # Operations on types

    The keys of a type and what stands under a key.  An operation on a type that
    depends on type parameters waits until they are known. -/

namespace TypeLineage.Typing

open Source Program

/-! ## Members by name -/

/-- The name under which a symbol of its own stands. -/
def symbolName (key : Key) (name : String) : String :=
  "__@" ++ name ++ "@" ++ toString key.file ++ ":" ++ toString key.spot

/-- A member that is declared in a namespace, a file or an enumeration. -/
def exportedProperty? (t : TypeId) (name : String) : Check (Option Property) := do
  let (es, added) := match ← shape t with
    | .object (.space es) _ => (es, [])
    | .object (.enumeration es) _ => (es, [])
    | .object (.statics es) _ => (es, [])
    | .object (.extended _ es added) _ => (es, added)
    | _ => ([], [])
  if es.isEmpty && added.isEmpty then return none
  let w ← read
  let isShared := es.any isSharedSpace
  let given := (w.settle w.reach (w.memberOf w.reach [] es name)).filter fun e =>
    e.means .value && !(isShared && isClassEntity e)
  let found := given ++ added.filter (·.name = name)
  if found.isEmpty then return none
  let isMethod := found.any fun
    | .values _ _ true (.function _ :: _) _ => true
    | .function .. => true
    | _ => false
  let isReadonly := found.any fun
    | .variable v _ => v.binding = .constant
    | _ => false
  return some
    { name, style := .plain, isOptional := false, isReadonly, isMethod
      isAccessor := false, owner := none, holding := .entities found, substitution := []
      isDerived := false }

/-- The member that a type has under a name. -/
def propertyOf? (k : Rules) (t : TypeId) (name : String) : Check (Option Property) := do
  let a ← k.apparent t
  let m ← k.members a
  let own ← match m.properties.find? (·.name = name) with
    | some p => pure (some p)
    | none => exportedProperty? a name
  match own with
  | some p => return some p
  | none =>
    let s ← shape a
    let isStructured := isObjectShape s
    if !isStructured then return none
    let strict := (← settings).strictBind
    let base := if !m.calls.isEmpty then some (if strict then "CallableFunction" else "Function")
      else if !m.constructs.isEmpty then some (if strict then "NewableFunction" else "Function")
      else none
    let own ← match base with
      | some g =>
        match ← globalType? k g with
        | some f => pure ((← k.members f).properties.find? (·.name = name))
        | none => pure none
      | none => pure none
    match own with
    | some p => return some p
    | none =>
      match ← globalType? k "Object" with
      | some o => return (← k.members o).properties.find? (·.name = name)
      | none => return none

/-- The name of a member, how it is written, and the type that it follows from if it is known
    only from a value. -/
structure KnownName where
  text : String
  style : NameStyle
  key : Option TypeId

/-- The name of a member that a type of a single value stands for. -/
def nameOfKey? (t : TypeId) : Check (Option String) := do
  match ← shape t with
  | .text content => return some content
  | .number text => return some text
  | .enumMember _ _ _ _ (some (.text content)) => return some content
  | .enumMember _ _ _ _ (some (.number x)) => return some (x.text .plain)
  | .uniqueSymbol key name => return some (symbolName key name)
  | _ => return none

/-- A name that a type stands for. -/
def nameOfType? (t : TypeId) : Check (Option KnownName) := do
  let key ← regularOf t
  match ← nameOfKey? t, ← shape t with
  | some n, .number _ => return some ⟨n, .number, some key⟩
  | some n, .uniqueSymbol .. => return some ⟨n, .plain, some key⟩
  | some n, _ => return some ⟨n, .doubleQuoted, some key⟩
  | none, _ => return none

/-- The name under which a member stands, if it can be told. -/
def resolveName (k : Rules) (scope : Scope) (name : MemberName) : Check (Option KnownName) := do
  match name with
  | .plain text => return some ⟨text, .plain, none⟩
  | .quoted text isSingle =>
    return some ⟨text, if isSingle then .singleQuoted else .doubleQuoted, none⟩
  | .number text => return some ⟨text, .number, none⟩
  | .hidden text => return some ⟨text, .plain, none⟩
  | .computed passage =>
    match passage.value with
    | .text content => return some ⟨content, .doubleQuoted, none⟩
    | .number text => return some ⟨text, .number, none⟩
    | e => nameOfType? (← k.value ⟨scope, .start⟩ e .none)

/-- The type is one of texts. -/
def isTextShape : Shape → Bool
  | .keyword .string | .text _ | .template .. | .changed .. => true
  | .enumMember _ _ _ _ (some (.text _)) => true
  | _ => false

/-- The type is one of numbers. -/
def isNumberShape : Shape → Bool
  | .keyword .number | .number _ => true
  | .enumMember _ _ _ _ (some (.text _)) => false
  | .enumMember .. => true
  | _ => false

/-- The type is one of symbols. -/
def isSymbolShape : Shape → Bool
  | .keyword .symbol | .uniqueSymbol .. => true
  | _ => false

/-- What has a key is found under keys of a kind.  Numbers are found under texts too, and texts of
    numbers under numbers. -/
def standsUnder (k : Rules) (key kind : TypeId) : Check Bool := do
  let s ← shape key
  if key = kind then return true
  let isText := kind = stringType && (isTextShape s || isNumberShape s)
  let isNumber := kind = numberType && (isNumberShape s || (contentOf? s).any isNumberText)
  let isSymbol := kind = symbolType && isSymbolShape s
  if isText || isNumber || isSymbol then return true
  if ← k.related .assignable key kind then return true
  if kind = stringType then k.related .assignable key numberType else return false

/-- What stands under keys, among what stands under any key. -/
def indexerAmong? (k : Rules) (indexers : List Indexer) (key : TypeId) : Check (Option Indexer) := do
  let (plain, others) := indexers.partition (·.key = stringType)
  match ← others.filterM fun i => standsUnder k key i.key with
  | [i] => return some i
  | i :: rest =>
    return some
      { i with
        key := unknownType
        type := ← intersection k ((i :: rest).map (·.type)) none
        isReadonly := (i :: rest).all (·.isReadonly) }
  | [] => plain.findM? fun i => standsUnder k key i.key

/-- What stands under keys of a type. -/
def indexerFor? (k : Rules) (t key : TypeId) : Check (Option Indexer) := do
  indexerAmong? k (← k.members (← k.apparent t)).indexers key

/-! ## Generic types -/

/-- An operation waits for the type as the object. -/
def isGenericObject (k : Rules) : Nat → TypeId → Check Bool
  | 0, _ => return false
  | n + 1, t => do
    match ← shape t with
    | .parameter .. | .index .. | .conditional .. => return true
    | .held u => isGenericObject k n u
    | .union ts _ => ts.anyM (isGenericObject k n)
    | .intersection ts => ts.anyM (isGenericObject k n)
    | .object (.mapped ..) _ =>
      match ← mapped? t with
      | some m => m.isOpen k
      | none => return false
    | .reference target _ =>
      match ← shape target with
      | .tuple form _ => return form.kinds.contains .variadic
      | _ => return false
    | .tuple form _ => return form.kinds.contains .variadic
    | _ => return false

/-- An operation waits for the type. -/
def isGeneric (k : Rules) (t : TypeId) : Check Bool := do
  if ← isGenericObject k 16 t then return true else isGenericKey 16 t

/-- The type is a mapped type that waits for its keys. -/
def openMap? (k : Rules) (t : TypeId) : Check (Option Mapped) := do
  match ← mapped? t with
  | some m => if ← m.isOpen k then return some m else return none
  | none => return none

/-- The type is a tuple that waits for lists it takes in. -/
def isOpenTuple (t : TypeId) : Check Bool := do
  match ← shape t with
  | .reference target _ =>
    match ← shape target with
    | .tuple form _ => return form.kinds.contains .variadic
    | _ => return false
  | .tuple form _ => return form.kinds.contains .variadic
  | _ => return false

/-! ## Keys -/

/-- The type of a member's name, where it is known outside the class. -/
def keyOfProperty? (p : Property) : Check (Option TypeId) := do
  if p.owner.isSome then return none
  match p.key with
  | some t => return some t
  | none =>
    if p.name.startsWith "__@" then return none
    else if p.style = .number then some <$> numberTypeOf p.name
    else some <$> textType p.name

/-- The keys of members and of what stands under any key. -/
def keysOfMembers (m : Members) : Check (List TypeId × List TypeId) :=
  return (← m.properties.filterMapM keyOfProperty?, m.indexers.map (·.key))

/-- What stands under any number where an enumeration is a value is no key. -/
def isEnumeration (t : TypeId) : Check Bool := do
  match ← shape t with
  | .object (.enumeration _) _ => return true
  | _ => return false

/-- The keys of a type whose members are known.  What stands under any text stands under any
    number too, unless only what is written counts. -/
def knownKeys (k : Rules) (writtenOnly : Bool) (t : TypeId) : Check TypeId := do
  let m ← k.members (← k.apparent t)
  let (names, kinds) ← keysOfMembers m
  let kinds := if ← isEnumeration t then [] else kinds
  let kinds := if writtenOnly then kinds.filter (· ≠ stringType)
    else kinds.flatMap fun i => if i = stringType then [stringType, numberType] else [i]
  let e ← entry t
  let isNamed := e.synonym.isSome || match e.shape with
    | .declared _ | .reference .. | .deferred .. | .tuple .. => true
    | _ => false
  let u ← union k (names ++ kinds)
  if isNamed && !writtenOnly then
    match ← shape u with
    | .union ts _ => unionOfSorted ts none (some (.keys t))
    | _ => return u
  else return u

/-- The keys that a type has at least, whatever its type parameters stand for. -/
def lowerKeys (k : Rules) : Nat → TypeId → Check TypeId
  | 0, t => return t
  | n + 1, t => do
    match ← shape t with
    | .keys of => k.keys (← k.apparent of)
    | .union ts _ => unionOf k .none (← ts.mapM (lowerKeys k n)) none
    | .intersection ts =>
      let lower ← ts.mapM (lowerKeys k n)
      if lower = ts then return t else intersection k lower none
    | _ => return t

/-- The keys that a mapped type goes through, one by one. -/
def keysGoneThrough (k : Rules) (m : Mapped) : Check (List TypeId) := do
  match m.isOfKeys, ← m.followed? k with
  | true, some t =>
    let isAnything ← isAny t
    let a ← k.apparent t
    let (names, kinds) ← keysOfMembers (← k.members a)
    return names ++ kinds ++ (if isAnything then [stringType] else [])
  | _, _ => membersOf (← lowerKeys k 16 (← m.keys k))

/-- The names that a mapped type gives to a key, where the keys are renamed. -/
def Mapped.named (k : Rules) (m : Mapped) (key : TypeId) : Check TypeId := do
  match m.renamed with
  | some e => k.instantiate (m.at' key) (← k.written m.scope e)
  | none => return key

/-- The keys of a mapped type. -/
def keysOfMapped (k : Rules) (writtenOnly : Bool) (m : Mapped) : Check TypeId := do
  let d ← m.keys k
  if m.renamed.isNone && !writtenOnly then return d
  let isWaiting ← isGenericKey 16 d
  if isWaiting && m.isOfKeys then return ← operation "keyof" [] [m.type] (.keys m.type)
  let keys ← if isWaiting then membersOf d else keysGoneThrough k m
  let names ← keys.flatMapM fun key => do
    let name ← m.named k key
    if name = stringType then return [stringType, numberType] else return [name]
  let u ← union k names
  if writtenOnly then filterUnion (fun t => return !((← isAny t) || t = stringType)) u
  else match ← shape u, ← shape d with
    | .union us _, .union ds _ => if us = ds then return d else return u
    | _, _ => return u

/-- The keys of a type wait until the type is known. -/
def areKeysOpen (k : Rules) (t : TypeId) : Check Bool := do
  match ← shape t with
  | .parameter .. | .index .. | .conditional .. => return true
  | .intersection ts =>
    if ← ts.anyM isEmptyObject then
      ts.anyM fun u => do
        let s ← shape u
        return isOpenShape s || s matches .template .. || s matches .changed ..
    else return false
  | .object (.mapped ..) _ =>
    match ← openMap? k t with
    | some m =>
      let name := (← m.nameType? k).getD m.parameter
      if !(← m.isShared 16 name) then return true else m.isRenaming k
    | none => return false
  | _ => isOpenTuple t

/-- The keys of a type, given how deep unions are taken apart. -/
def keysAt (k : Rules) (writtenOnly : Bool) : Nat → TypeId → Check TypeId
  | 0, _ => return neverType
  | n + 1, t => do
    let t ← reduced k t
    if ← areKeysOpen k t then return ← operation "keyof" [] [t] (.keys t)
    match ← shape t with
    | .held u => heldOf (← keysAt k writtenOnly n u)
    | .union ts _ => intersection k (← ts.mapM (keysAt k writtenOnly n)) none
    | .intersection ts => union k (← ts.mapM (keysAt k writtenOnly n))
    | .keyword .unknown => return neverType
    | .keyword .any | .keyword .error | .keyword .never | .keyword .auto | .unresolved .. =>
      if t = wildType then return wildType
      union k [stringType, numberType, symbolType]
    | _ =>
      match ← mapped? t with
      | some m => keysOfMapped k writtenOnly m
      | none => knownKeys k writtenOnly t

/-- The keys of a type. -/
def keysOf (k : Rules) (t : TypeId) : Check TypeId := keysAt k false 16 t

/-- The keys of the members that are written of a type. -/
def writtenKeys (k : Rules) (t : TypeId) : Check TypeId := keysAt k true 16 t

/-! ## What stands under a key -/

/-- The keys are of texts, numbers or symbols. -/
def areKeys (k : Rules) (key : TypeId) : Check Bool := do
  let s ← shape key
  if isTextShape s || isNumberShape s || isSymbolShape s then return true
  if ← k.related .assignable key numberType then return true
  k.related .assignable key stringType

/-- Where what stands under a key is asked for. -/
inductive KeyUse where
  /-- It follows from other types. -/
  | known
  /-- It is written as a type. -/
  | written
  /-- It is a value's. -/
  | value
deriving DecidableEq

/-- What stands under one key of a type, if anything does. -/
def underKey? (k : Rules) (use : KeyUse) (apparent key : TypeId) : Check (Option TypeId) := do
  let ofName ← match ← nameOfKey? key with
    | some name =>
      match ← propertyOf? k apparent name with
      | some p => pure (some (← k.property p))
      | none =>
        if !isNumberText name || !(← everyMember isTuple apparent) then pure none
        else match name.toNat? with
          | some i => tupleAt k i apparent
          | none =>
            if name.startsWith "-" then
              pure (if use ≠ .known && (← hasFixedLength apparent) then some undefinedType else none)
            else tupleAt k (wholePart name) apparent
    | none => pure none
  match ofName with
  | some t => return some t
  | none =>
    if !(← isAbsent key) && (← areKeys k key) then
      if (← isAny apparent) || (← isNever apparent) then return some apparent
      let m ← k.members apparent
      let found ← do
        match ← indexerFor? k apparent key with
        | some i => pure (some i)
        | none => pure (m.indexers.find? (·.key = stringType))
      match found with
      | some i => return some i.type
      | none => if ← isNever key then return some neverType
    if ← isAny key then return some key else return none
where
  /-- The element of tuples at a place behind all that are named. -/
  tupleAt (k : Rules) (i : Nat) (t : TypeId) : Check (Option TypeId) := do
    let ts ← (← membersOf t).mapM fun u => return (← elementAt? k u i).getD undefinedType
    some <$> union k ts
  /-- The type is one tuple of so many elements. -/
  hasFixedLength (t : TypeId) : Check Bool :=
    return (← tupleForm? k t).any fun (form, _) => !form.hasOpen
  /-- The digits before the point. -/
  wholePart (name : String) : Nat :=
    ((String.ofList (name.toList.takeWhile Char.isDigit)).toNat?).getD 0

/-- The type has nothing but what stands under any text. -/
def isTable (k : Rules) : Nat → TypeId → Check Bool
  | 0, _ => return false
  | n + 1, t => do
    match ← shape t with
    | .union ts _ => ts.allM (isTable k n)
    | .intersection ts => ts.allM (isTable k n)
    | .object .. | .declared _ | .reference .. | .deferred .. =>
      if ← isGenericObject k 16 t then return false
      let m ← k.members t
      return m.properties.isEmpty && m.calls.isEmpty && m.constructs.isEmpty &&
        m.indexers.length = 1 && m.indexers.all (·.key = stringType)
    | _ => return false

/-- All that keys mean lies before a place. -/
def isBefore (key : TypeId) (limit : Nat) : Check Bool := do
  if !(← isUnion key) && (← nameOfKey? key).isNone then return false
  everyMember (fun u => return (← nameOfKey? u).any fun name => name.toNat?.any (· < limit)) key

/-- What stands under keys of a type, if all of them lead somewhere.  Where the object is a
    value, it is looked into though an operation on its type would wait. -/
def under? (k : Rules) (use : KeyUse) (object key : TypeId) (synonym : Option Synonym) :
    Check (Option TypeId) := do
  if object = wildType || key = wildType then return some wildType
  let object ← reduced k object
  let key ← if (← isTable k 16 object) && !(← isAbsent key) &&
      ((← k.related .assignable key stringType) || (← k.related .assignable key numberType)) then
    pure stringType else pure key
  let isElement ← match ← tupleForm? k object with
    | some (form, _) =>
      let ending := (form.kinds.reverse.takeWhile (!TupleForm.isOpen ·)).length
      isBefore key (form.fixedLength + (if form.hasOpen then ending else 0))
    | none => pure false
  let waits ← if ← isGenericKey 16 key then pure true
    else if isElement then pure false
    else if use = .value then isOpenTuple object
    else isGenericObject k 16 object
  if waits then
    if (← isAny object) || (← isKeyword .unknown object) then return some object
    match synonym with
    | none => return some (← operation "index" [] [object, key] (.index object key))
    | some _ => return some (← makeNamed (.index object key) synonym)
  else
    let apparent ← k.apparent object
    match ← shape key with
    | .union ts _ =>
      if key = booleanType then underKey? k use apparent key
      else
        let found ← ts.mapM (underKey? k use apparent)
        if found.any (·.isNone) then return none
        else return some (← unionOf k .literal (found.filterMap id) synonym)
    | _ => underKey? k use apparent key

/-- What stands under keys of a type, as it is written. -/
def under (k : Rules) (object key : TypeId) (synonym : Option Synonym) :
    Check TypeId :=
  return (← under? k .written object key synonym).getD errorType

/-- What stands under keys of a type that follows from others. -/
def underKnown (k : Rules) (object key : TypeId) (synonym : Option Synonym) : Check TypeId :=
  return (← under? k .known object key synonym).getD unknownType

end TypeLineage.Typing
