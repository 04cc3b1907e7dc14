import TypeLineage.Source.StatementReader

/-! # Scripts

    A script may take in other files, and give to others, by plain values: it
    calls a function for a file, and assigns to the object that stands for
    itself.  Its functions may construct objects, whose members they leave in
    the object itself or in what all objects of the function share.  Such a
    script is read as the statements that say the same. -/

namespace TypeLineage.Source

/-! ## What is taken in -/

/-- The file that a call takes in. -/
def Expr.required? : Expr → Option String
  | .call _ (.name "require") _ [.text file] _ => some file
  | _ => none

/-- The names that a pattern takes from a file, if it only renames them. -/
def renamingsOf? : List PatternItem → Option (List Renaming)
  | [] => some []
  | .item key false (.name _ target) _ :: rest =>
    match key with
    | none => (renamingsOf? rest).map (⟨target, target⟩ :: ·)
    | some n => (n.known?.bind fun source => (renamingsOf? rest).map (⟨source, target⟩ :: ·))
  | _ => none

/-- The statement that takes in what a variable stands for. -/
def Variable.taken? (v : Variable) : Option Statement :=
  match v.pattern, v.initial with
  | .name _ own, some (.access whole member _) =>
    whole.required?.map fun file => .importNames file none none [⟨member, own⟩]
  | .name _ own, some e => e.required?.map fun file => .importFile .inner own file
  | .object _ items _, some e => e.required?.bind fun file =>
    (renamingsOf? items).map fun names => .importNames file none none names
  | _, _ => none

/-- The statements that stand for the variables of a declaration. -/
def takenFrom (visibility : Visibility) (binding : Binding) (vs : List Variable) :
    List Statement :=
  let kept := vs.filter (·.taken?.isNone)
  vs.filterMap Variable.taken?
    ++ (if kept.isEmpty then [] else [.declaration visibility false (.variables binding kept)])

/-! ## What is given -/

/-- The value is the object that stands for the script. -/
def Expr.isGiven : Expr → Bool
  | .name n => n = "exports"
  | .access (.name "module") "exports" _ => true
  | .assign "=" target _ => target.isGiven
  | .group e => e.isGiven
  | _ => false

/-- What is assigned to. -/
inductive Target where
  /-- The script as a whole. -/
  | whole
  /-- A member of the script. -/
  | member (name : String)
  /-- A member of a function or an object. -/
  | part (owner name : String)
  /-- A member of what all objects of a function share. -/
  | shared (owner name : String)
  /-- All that they share. -/
  | allShared (owner : String)
  deriving DecidableEq

/-- The name of a member of a value, with the value. -/
def Expr.memberOf? : Expr → Option (Expr × String)
  | .access e n _ => some (e, n)
  | .index e (.text n) _ => some (e, n)
  | _ => none

/-- What a value is as something that is assigned to. -/
def Expr.target? (e : Expr) : Option Target :=
  match e with
  | .access (.name "module") "exports" _ => some .whole
  | _ =>
    match e.memberOf? with
    | none => none
    | some (holder, n) =>
      if holder.isGiven then some (.member n)
      else match holder with
        | .name owner => if n = "prototype" then some (.allShared owner) else some (.part owner n)
        | .access (.name owner) "prototype" _ => some (.shared owner n)
        | _ => none

/-- A value that says no more than that there is none. -/
def Expr.isVoid : Expr → Bool
  | .unary "void" (.number "0") => true
  | _ => false

/-- What is assigned to in a row, and the value. -/
def Expr.assigned : Expr → List Target × Expr
  | .assign "=" target value =>
    let (targets, last) := value.assigned
    (target.target?.toList ++ targets, last)
  | e => ([], e)

/-- An assignment of a script. -/
structure Assignment where
  here : Passage
  targets : List Target
  value : Expr

/-- The value that is defined for a member of the script by a call. -/
def Expr.defined? : Expr → Option (String × Expr)
  | .call _ (.access (.name "Object") "defineProperty" _) _ [holder, .text n, .object items] _ =>
    if !holder.isGiven then none
    else items.findSome? fun
      | .property _ (.plain "value") e => some (n, e)
      | _ => none
  | _ => none

/-- The assignment that a statement is. -/
def assignment? (here : Passage) : Statement → Option Assignment
  | .value e =>
    match e.defined? with
    | some (n, value) => some ⟨here, [.member n], value⟩
    | none =>
      let (targets, value) := e.assigned
      if targets.isEmpty || value.isVoid then none else some ⟨here, targets, value⟩
  | _ => none

/-- A value that stands for itself. -/
def Expr.isSingle : Expr → Bool
  | .text _ | .number _ | .bigNumber _ | .truth _ => true
  | .template _ holes => holes.isEmpty
  | .unary "-" (.number _) => true
  | _ => false

/-- The names that an object consists of, if it lists only those. -/
def shorthands? : List ObjectItem → Option (List Renaming)
  | [] => some []
  | .shorthand _ n :: rest => (shorthands? rest).map (⟨n, n⟩ :: ·)
  | _ => none

/-- A class as a statement, under a name if it has none. -/
def TypeDeclaration.stated (d : TypeDeclaration) (name : String) : TypeDeclaration :=
  { d with form := .classStatement, name := some (d.name.getD name) }

/-- A value as it is given: one that stands for itself does so for good. -/
def Expr.given (e : Expr) : Expr := if e.isSingle then .constant e else e

/-- The statements that give a value under a name. -/
def givenUnder (name : String) (value : Expr) : List Statement :=
  match value with
  | .name own => [.exportNames none [⟨own, name⟩]]
  | .classValue d =>
    let d := d.stated name
    [.declaration .inner false (.type d), .exportNames none [⟨d.name.getD name, name⟩]]
  | _ => [.exportMember name value.given]

/-- The statements that give a value in place of the script. -/
def givenInPlace (more : List (String × Expr)) (value : Expr) : List Statement :=
  match value with
  | .object items =>
    match more, shorthands? items with
    | [], some (n :: names) => [.exportNames none (n :: names)]
    | _, _ =>
      let added := more.map fun (n, e) => ObjectItem.property 0 (.plain n) e
      [.exportValue true (.object (items ++ added))]
  | .classValue d =>
    let d := d.stated "exports"
    [.declaration .inner false (.type d), .exportValue true (.name (d.name.getD ""))]
  | _ => [.exportValue true value]

/-! ## Functions that construct objects -/

/-- A function by its name, with how it is declared. -/
structure Named where
  name : String
  function : Function

/-- The function that a statement declares under a name. -/
def named? : Statement → Option Named
  | .declaration _ _ (.function f) => f.name.map (⟨·, f⟩)
  | .declaration _ _ (.variables _ [v]) =>
    match v.pattern, v.initial with
    | .name _ own, some (.function f) => if f.isArrow then none else some ⟨own, f⟩
    | _, _ => none
  | _ => none

/-- Where the value of an assignment begins. -/
def Assignment.passage (a : Assignment) : Passage :=
  ((do
    for _ in a.targets do
      discard allReaders.reference
      Read.skip "=" : Read Unit).run a.here).2

/-- What is assigned to what all objects of a function share. -/
def sharedBy (name : String) (all : List Assignment) : List Member :=
  all.flatMap fun a => a.targets.flatMap fun
    | .shared owner n =>
      if owner ≠ name || n = "constructor" then []
      else match a.value with
        | .function f => [Member.method [] (.plain n) false f]
        | _ => [Member.field a.here.index [] (.plain n) false none (some a.passage)]
    | .allShared owner =>
      match a.value with
      | .object items =>
        if owner ≠ name then [] else items.filterMap fun
          | .method n f => some (.method [] n false f)
          | .property _ n (.function f) => some (.method [] n false f)
          | .getter n f => some (.getter [] n f)
          | .setter n f => some (.setter [] n f)
          | _ => none
      | _ => []
    | _ => []

/-- The class that a function stands for, if it constructs objects. -/
def Named.class? (x : Named) (constructs : Bool) (all : List Assignment) :
    Option TypeDeclaration :=
  let own : List Member := [.construction [] { x.function with typeParameters := [] }]
  let shared := sharedBy x.name all
  let fields := allReaders.leftFields x.function.spot (own ++ shared)
  if shared.isEmpty && fields.isEmpty && !constructs then none
  else some
    { spot := x.function.spot, form := .classStatement, isAbstract := false, name := some x.name
      typeParameters := x.function.typeParameters, heritage := [], members := own ++ fields ++ shared }

/-- What is assigned to members of a name. -/
def partsIn (name : String) (all : List Assignment) : List (String × Expr) :=
  all.flatMap fun a => a.targets.filterMap fun
    | .part owner n => if owner = name then some (n, a.value) else none
    | _ => none

/-- The names with a value each, as variables of a namespace. -/
def spaceOf (visibility : Visibility) (name : String) (at' : Nat) (parts : List (String × Expr)) :
    List Statement :=
  if parts.isEmpty then []
  else [.space visibility false (.path name []) (parts.zipIdx.map fun ((n, e), i) =>
    .declaration .exported false
      (.variables .block [⟨.name (2 * at' + i + 2 * longest) n, none, some e⟩]))]

/-- The variable begins with an object without members. -/
def isEmptyObject (v : Variable) : Bool :=
  v.type.isNone && match v.initial with
    | some (.object []) => true
    | _ => false

/-! ## Scripts as a whole -/

/-- The statements that a statement of a script stands for. -/
def restated (all : List Assignment) (here : Passage) (s : Statement) : List Statement :=
  let constructs := match (allReaders.notesAt here).run here with
    | (n, _) => n.constructs
  match s with
  | .declaration visibility isAmbient (.type d) =>
    .declaration visibility isAmbient (.type d)
      :: spaceOf visibility (d.name.getD "") d.spot (partsIn (d.name.getD "") all)
  | .declaration visibility isAmbient d =>
    match (named? s).bind fun x => (x.class? constructs all).map (x, ·) with
    | some (x, c) =>
      .declaration visibility isAmbient (.type c)
        :: spaceOf visibility x.name x.function.spot (partsIn x.name all)
    | none =>
      match d with
      | .variables binding vs =>
        let (spaces, plain) := vs.partition fun v => isEmptyObject v
          && !(partsIn (v.pattern.name?.getD "") all).isEmpty
        spaces.flatMap (fun v => spaceOf visibility (v.pattern.name?.getD "") v.pattern.spot
            (partsIn (v.pattern.name?.getD "") all))
          ++ (if plain.isEmpty && !spaces.isEmpty then [] else takenFrom visibility binding plain)
      | _ => [s]
  | _ => [s]

/-- What a script gives, told by its assignments. -/
def givenBy (all : List Assignment) : List Statement :=
  let members := all.flatMap fun a => a.targets.filterMap fun
    | .member n => some (n, a.value)
    | _ => none
  let wholes : List Expr := (all.filter (·.targets.contains .whole)).map (·.value)
  match wholes.getLast? with
  | none => members.flatMap fun (n, e) => givenUnder n e
  | some (.object items) => givenInPlace members (.object items)
  | some value => givenInPlace [] value ++ match value with
    | .name own => spaceOf .inner own 0 (members.map fun (n, e) => (n, e.given))
    | _ => []

/-- A name that a remark declares is known outside. -/
def asKnown : Statement → Statement
  | .declaration _ isAmbient (.synonym at' n ps body) =>
    .declaration .exported isAmbient (.synonym at' n ps body)
  | s => s

/-- The statement takes in a file by a call. -/
def requires : Statement → Bool
  | .value e => e.required?.isSome
  | .declaration _ _ (.variables _ vs) => vs.any (·.taken?.isSome)
  | _ => false

/-- The statements of a script, given which of them mark it as one that shares no names; the flag
    tells that it takes in files and gives to others by plain values. -/
def statementsOfScript (marks : Statement → Bool) (items : List (Passage × Statement)) :
    List Statement × Bool :=
  let all := items.filterMap fun (here, s) => assignment? here s
  let isMarked := items.any fun (_, s) => marks s
  let own := items.flatMap fun (here, s) => restated all here s
  let given := if isMarked then [] else givenBy all
  let isPlain := !isMarked && (!given.isEmpty || items.any fun (_, s) => requires s)
  let known := if isMarked || isPlain then own.map asKnown else own
  (known ++ given ++ (if isPlain then [.exportNames none []] else []), isPlain)

end TypeLineage.Source
