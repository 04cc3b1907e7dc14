import TypeLineage.Typing.Lists

/-! # Signatures

    What a call takes and gives.  The last parameter may take in a list or a
    tuple; then there are as many positions as the tuple has elements. -/

namespace TypeLineage.Typing

open Source Program

namespace Argument

/-- An argument of a known type. -/
def ofType (name : String) (t : TypeId) (isOptional isRest : Bool) : Argument :=
  ⟨name, none, none, some t, [], isOptional, isRest⟩

/-- The argument with what its type mentions replaced. -/
def instantiate (k : Rules) (s : Substitution) (a : Argument) : Check Argument := do
  match a.known with
  | some t => return { a with known := some (← k.instantiate s t) }
  | none => return { a with substitution := ← compose k a.substitution s }

end Argument

/-- The name of an element of a list that a pattern takes in, by its place. -/
def patternName : Nat → Pattern → (isRest : Bool) → Nat → ElementKind → String
  | _, .name _ text, isRest, place, kind =>
    let isMany := TupleForm.isOpen kind
    if isRest then (if isMany then text else text ++ "_" ++ toString place)
    else if isMany then text ++ "_n" else text
  | n + 1, .array _ items _, true, place, kind =>
    let rest := match items.getLast? with
      | some (.item _ true p _) => some p
      | _ => none
    let count := items.length - (if rest.isSome then 1 else 0)
    match (if place < count then items[place]? else none), rest with
    | some (.item _ isRest p _), _ => patternName n p isRest place kind
    | none, some p => if place < count then "arg_" ++ toString place
      else patternName n p true (place - count) kind
    | _, _ => "arg_" ++ toString place
  | _, _, _, place, _ => "arg_" ++ toString place

/-- The name of an element of the list that an argument takes in, by its place. -/
def Argument.elementName (a : Argument) (place : Nat) (kind : ElementKind) : String :=
  match a.parameter with
  | some p => patternName 16 p.pattern p.isRest place kind
  | none => a.name ++ "_" ++ toString place

namespace Signature

/-- A signature that gives a known type. -/
def ofTypes (arguments : List Argument) (result : TypeId) : Signature :=
  { site := none, typeParameters := [], self := none, arguments, known := some result, parts := []
    substitution := [], least := (arguments.takeWhile fun a => !a.isOptional && !a.isRest).length
    hasRest := arguments.any (·.isRest), constructs := false, isAbstract := false }

/-- The signature with what it mentions replaced; its own type parameters stay as they
    are. -/
def replace (k : Rules) (s : Substitution) (sig : Signature) : Check Signature := do
  if s.isEmpty then return sig
  let self ← sig.self.mapM (Argument.instantiate k s)
  let arguments ← sig.arguments.mapM (Argument.instantiate k s)
  let known ← sig.known.mapM (k.instantiate s)
  return { sig with
    self, arguments, known
    substitution := ← compose k sig.substitution s }

/-- The signature with what it mentions replaced and type parameters of its own. -/
def instantiate (k : Rules) (s : Substitution) (sig : Signature) : Check Signature := do
  if s.isEmpty then return sig
  if sig.typeParameters.isEmpty then sig.replace k s
  else
    let (copies, whole) ← copyParameters k sig.typeParameters s
    let made ← sig.replace k whole
    return { made with typeParameters := copies }

/-- The signature with types in place of its type parameters. -/
def apply (k : Rules) (types : List TypeId) (sig : Signature) : Check Signature := do
  let made ← sig.replace k (sig.typeParameters.zip types)
  return { made with typeParameters := [] }

/-- The signature with anything in place of its type parameters. -/
def erase (k : Rules) (sig : Signature) : Check Signature :=
  if sig.typeParameters.isEmpty then return sig
  else sig.apply k (sig.typeParameters.map fun _ => anyType)

/-- What the last parameter takes in, if it takes in a list. -/
def restType? (k : Rules) (sig : Signature) : Check (Option TypeId) := do
  if !sig.hasRest then return none
  match sig.arguments.getLast? with
  | some a => return some (← k.argument a)
  | none => return none

/-- How many positions there are. -/
def positions (k : Rules) (sig : Signature) : Check Nat := do
  match ← sig.restType? k with
  | some t =>
    match ← tupleForm? k t with
    | some (form, _) =>
      return sig.arguments.length - 1 + form.fixedLength + (if form.hasOpen then 1 else 0)
    | none => return sig.arguments.length
  | none => return sig.arguments.length

/-- The list that all further arguments form. -/
def restList? (k : Rules) (sig : Signature) : Check (Option TypeId) := do
  match ← sig.restType? k with
  | some t =>
    match ← tupleForm? k t with
    | some (form, types) =>
      if form.hasOpen then return some (← tupleFrom k form types form.fixedLength) else return none
    | none => if ← isAny t then return some (← listOf k false anyType) else return some t
  | none => return none

/-- There may be any number of arguments. -/
def hasOpenEnd (k : Rules) (sig : Signature) : Check Bool := return (← sig.restList? k).isSome

/-- What is taken in by a parameter that may be left out as it has a default. -/
def argumentType (k : Rules) (a : Argument) : Check TypeId := do
  let t ← k.argument a
  match a.parameter with
  | some p => if p.initial.isSome then orUndefined k t else return t
  | none => return t

/-- What is taken in at a position. -/
def typeAt? (k : Rules) (sig : Signature) (i : Nat) : Check (Option TypeId) := do
  let plain := sig.arguments.length - (if sig.hasRest then 1 else 0)
  if i < plain then
    match sig.arguments[i]? with
    | some a => return some (← argumentType k a)
    | none => return none
  else match ← sig.restType? k with
    | some t =>
      if ← isAny t then return some anyType
      else match ← elementAt? k t (i - plain) with
        | some u => return some u
        | none => if ← isTuple t then return none else
            let key ← numberTypeOf (toString (i - plain))
            return some (← operation "index" [] [t, key] (.index t key))
    | none => return none

/-- What is taken in at a position, or anything. -/
def typeAt (k : Rules) (sig : Signature) (i : Nat) : Check TypeId :=
  return (← sig.typeAt? k i).getD anyType

/-- How many arguments there must be, as the signature is written. -/
def leastWritten (k : Rules) (sig : Signature) : Check Nat := do
  match ← sig.restType? k with
  | some t =>
    match ← tupleForm? k t with
    | some (form, _) =>
      let least := (form.kinds.takeWhile (· = .required)).length
      return if least > 0 then sig.arguments.length - 1 + least else sig.least
    | none => return sig.least
  | none => return sig.least

/-- How many arguments there must be, of so many; the last may be left out if they take what
    gives nothing. -/
def leastOf (k : Rules) (sig : Signature) : Nat → Check Nat
  | 0 => return 0
  | n + 1 => do
    if ← someMember (fun t => return t = voidType) (← sig.typeAt k n) then leastOf k sig n
    else return n + 1

/-- How many arguments there must be. -/
def leastPositions (k : Rules) (sig : Signature) : Check Nat := do
  leastOf k sig (← sig.leastWritten k)

/-- The name at a position. -/
def nameAt (k : Rules) (sig : Signature) (i : Nat) : Check String := do
  let plain := sig.arguments.length - (if sig.hasRest then 1 else 0)
  if i < plain then return ((sig.arguments[i]?).map (·.name)).getD ""
  else match sig.arguments.getLast?, ← sig.restType? k with
    | some last, some t =>
      match ← tupleForm? k t with
      | some (form, _) =>
        match form.names[i - plain]? with
        | some (some name) => return name
        | _ => return last.elementName (i - plain) ((form.kinds[i - plain]?).getD .required)
      | none => return last.name
    | last?, _ => return (last?.map (·.name)).getD ""

/-- The name that is written for a position. -/
def writtenNameAt? (k : Rules) (sig : Signature) (i : Nat) : Check (Option String) := do
  let plain := sig.arguments.length - (if sig.hasRest then 1 else 0)
  let written (a : Argument) : Option String := match a.parameter with
    | some p => p.pattern.name?
    | none => some a.name
  if i < plain then return (sig.arguments[i]?).bind written
  else match ← sig.restType? k with
    | some t =>
      match ← tupleForm? k t with
      | some (form, _) => return (form.names[i - plain]?).join
      | none => return sig.arguments.getLast?.bind written
    | none => return none

/-- The arguments from a position on, as a list. -/
def listFrom (k : Rules) (sig : Signature) (start : Nat) : Check TypeId := do
  let count ← sig.positions k
  let least ← sig.leastPositions k
  match ← sig.restList? k with
  | some rest =>
    if start + 1 = count then return rest
    else if start + 1 > count then
      listOf k false ((← elementOf? k rest).getD anyType)
    else
      let es ← (List.range (count - 1 - start)).mapM fun j => do
        let i := start + j
        let kind : ElementKind := if i < least then .required else .optional
        return Element.mk kind (← sig.writtenNameAt? k i) (← sig.typeAt k i)
      tupleOf k false (es ++ [⟨.variadic, ← sig.writtenNameAt? k (count - 1), rest⟩])
  | none =>
    let es ← (List.range (count - start)).mapM fun j => do
      let i := start + j
      let kind : ElementKind := if i < least then .required else .optional
      return Element.mk kind (← sig.writtenNameAt? k i) (← sig.typeAt k i)
    tupleOf k false es

/-- What a signature tells about an argument or the object itself. -/
def claim? (k : Rules) (sig : Signature) : Check (Option Claim) := do
  match sig.site with
  | some site =>
    match site.function.result with
    | some (.predicate asserts subject e) =>
      let type ← e.mapM fun e => do k.instantiate sig.substitution (← k.written site.scope e)
      return some ⟨asserts, subject, sig.arguments.findIdx? (·.name = subject), type⟩
    | some _ => return none
    | none =>
      if sig.constructs || sig.arguments.isEmpty then return none
      (← k.claimed site).mapM fun c => do
        let type ← c.type.mapM (k.instantiate sig.substitution)
        return { c with type }
  | none => return none

end Signature

end TypeLineage.Typing
