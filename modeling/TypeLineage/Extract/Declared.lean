import TypeLineage.Extract.Heritage
import TypeLineage.Fact.Basic
import TypeLineage.Source.ValueSyntax
import TypeLineage.Typing.Checking

/-! # Facts about the declarations of a program

    A fact is drawn from every class and interface that has a name and stands
    in a file or in namespaces of it; what stands inside functions, blocks or
    classes is left alone.  The types that a fact mentions are told in the
    order in which they are written, as what is found out of one may show in
    how the next is told. -/

namespace TypeLineage.Extract

open Source Program Typing

/-! ## The members a declaration makes public

    A member is public unless it is private, hidden behind a hash or named by a
    value.  Of methods that share a name the first counts.  Properties are the
    fields, also those that a constructor declares with its parameters, and
    behind them the getters that are no fields. -/

/-- A public method as it is declared. -/
structure DeclaredMethod where
  name : String
  isStatic : Bool
  member : Member
  function : Function
  deriving Inhabited

/-- The public members of a declaration. -/
structure Members where
  methods : List DeclaredMethod
  properties : List String
  deriving Inhabited

/-- The name of a member unless the modifiers hide it. -/
def publicName? (modifiers : List String) (name : MemberName) : Option String :=
  if modifiers.contains "private" then none else name.known?

/-- A member as a public method. -/
def methodOf? (m : Member) : Option DeclaredMethod :=
  match m with
  | .method modifiers name _ function =>
    (publicName? modifiers name).map (⟨·, modifiers.contains "static", m, function⟩)
  | _ => none

/-- The methods of which none before has the same name. -/
def firstOfEach (seen : List String) : List DeclaredMethod → List DeclaredMethod
  | [] => []
  | m :: rest =>
    if seen.contains m.name then firstOfEach seen rest else m :: firstOfEach (m.name :: seen) rest

/-- The modifiers with which a constructor's parameter declares a field. -/
def fieldModifiers : List String := ["public", "private", "protected", "readonly", "override"]

/-- The field that a constructor's parameter declares. -/
def fieldOfParameter? (p : Parameter) : Option String :=
  if !p.modifiers.any fieldModifiers.contains || p.modifiers.contains "private" then none
  else p.pattern.name?

/-- The public fields that a member declares. -/
def fieldsOf : Member → List String
  | .field _ modifiers name _ _ _ => (publicName? modifiers name).toList
  | .construction _ function => function.parameters.filterMap fieldOfParameter?
  | _ => []

/-- The public getter that a member declares. -/
def getterOf? : Member → Option String
  | .getter modifiers name _ => publicName? modifiers name
  | _ => none

/-- The public members of a declaration. -/
def membersOf (d : TypeDeclaration) : Members :=
  let fields := d.members.flatMap fieldsOf
  { methods := firstOfEach [] (d.members.filterMap methodOf?)
    properties := fields ++ (d.members.filterMap getterOf?).filter (!fields.contains ·) }

/-! ## Finding declarations -/

/-- A named class or interface, with the scope around it. -/
structure Declared where
  name : String
  declaration : TypeDeclaration
  scope : Scope

mutual

/-- The named types that a statement declares. -/
def declaredBy (scope : Scope) : Statement → List Declared
  | .declaration _ _ (.type d) => (d.name.map (⟨·, d, scope⟩)).toList
  | .space _ isAmbient name body => declaredIn (scope.enterSpace isAmbient body name) body
  | _ => []

/-- The named types that statements declare, in order. -/
def declaredIn (scope : Scope) : List Statement → List Declared
  | [] => []
  | s :: rest => declaredBy scope s ++ declaredIn scope rest

end

/-- The named types that a file declares. -/
def declaredInFile (f : SourceFile) : List Declared := declaredIn ⟨f, []⟩ f.statements

/-! ## Type parameters -/

/-- The first names that are not empty. -/
def firstNonEmpty (lists : List (List String)) : List String :=
  (lists.find? (!·.isEmpty)).getD []

/-- The names of a function's type parameters. -/
def parameterNames (f : Function) : List String := f.typeParameters.map (·.name)

/-- The type parameters of the first declaration that has some; a variable with a
    function has those of the function, even none. -/
def firstParameters : List Entity → List String
  | [] => []
  | e :: rest =>
    let names := match e with
      | .type d _ => d.typeParameters.map (·.name)
      | .function f _ => parameterNames f
      | _ => []
    match e with
    | .variable v _ =>
      match v.written.initial with
      | some (.function f) => parameterNames f
      | _ => firstParameters rest
    | _ => if names.isEmpty then firstParameters rest else names

/-- The type parameters of a member as it is declared. -/
def parametersOfProperty (p : Property) : Check (List String) := do
  match p.holding with
  | .members _ sites =>
    return firstNonEmpty (sites.map fun s => match s.member with
      | .method _ _ _ f => parameterNames f
      | _ => [])
  | .entities es => return firstParameters es
  | _ =>
    if !p.isMethod then return []
    match ← shape (← Rules.all.property p) with
    | .object (.functions sites _) _ =>
      return firstNonEmpty (sites.map fun s => parameterNames s.function)
    | _ => return []

/-- The type parameters of a member of a value. -/
def parametersOfMember (scope : Scope) (object : Expr) (member : String) : Check (List String) := do
  let t ← Rules.all.value ⟨scope, .start⟩ object .none
  match ← propertyOf? .all (← Rules.all.apparent t) member with
  | some p => parametersOfProperty p
  | none => return []

/-- The meanings in which a reference looks up its path.  Where type arguments may
    follow, a name for something elsewhere counts whatever that is. -/
def meanings : Reference → List Meaning
  | .extended => [.value, .elsewhere]
  | .implemented => [.type, .elsewhere]
  | .applied => [.value]

/-- The type parameters of what a value refers to. -/
def parametersAt (w : World) (scope : Scope) : ParameterNames := fun r value =>
  match pathOf? value with
  | none => []
  | some path =>
    match w.pathOf w.reach scope (meanings r) path, value with
    | [], .access object member _ =>
      if r = .implemented then [] else (parametersOfMember scope object member).start w
    | es, _ => firstParameters es

/-! ## Facts -/

/-- Tells type arguments in order; the last binding of a key counts. -/
def tellArguments (scope : Scope) (arguments : List WrittenArgument) : Check Bindings :=
  arguments.foldlM (fun bindings a => do
    let t ← Rules.all.written scope a.type
    return bindKey a.key (← textOf .all t) bindings) []

/-- Tells the types of a method: first what it gives, then what it takes. -/
def tellMethod (d : TypeDeclaration) (scope : Scope) (m : DeclaredMethod) : Check Method := do
  let site := memberFunction ⟨m.member, inside d scope (if m.isStatic then .whole else .objects)⟩ m.function .method
  let sig ← signatureOf site
  let returnType ← textOf .all (← Rules.all.result sig)
  let parameterTypes ← m.function.parameters.mapM fun p => do
    textOf .all (← typeOfParameter .all site p)
  return ⟨m.name, returnType, parameterTypes, m.isStatic⟩

/-- The fact about a declared type of a library. -/
def factOf (w : World) (library : String) (d : Declared) : Check TypeFact := do
  let inner := inside d.declaration d.scope .heading
  let heritage := (parametersAt w inner).heritage d.declaration
  let members := membersOf d.declaration
  let genericArguments ← tellArguments inner heritage.arguments
  let methods ← members.methods.mapM (tellMethod d.declaration d.scope)
  return {
    name := d.name
    library
    superclass := TypeFact.superclassOf heritage.superclass
    interfaces := heritage.interfaces
    mixins := heritage.mixins
    typeParameters := d.declaration.typeParameters.map (·.name)
    genericArguments
    methods
    properties := members.properties }

end TypeLineage.Extract
