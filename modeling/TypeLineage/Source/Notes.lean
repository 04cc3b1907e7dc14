import TypeLineage.Source.TypeReader
import TypeLineage.Source.StatementSyntax

/-! # What remarks note

    The remark before a function tells of its parameters and of what it gives,
    the one before a value tells its type.  A remark may also declare types of
    its own, which go on with some of the tags behind them. -/

namespace TypeLineage.Source

open Read

/-! ## What remarks note -/

/-- A type in a remark, which may be missing or stand for a list of arguments. -/
structure NotedType where
  type : TypeExpr
  isOptional : Bool
  isRest : Bool

/-- A value that a remark names, or a part of one. -/
structure Noted where
  spot : Nat
  path : List String
  type : Option NotedType
  isOptional : Bool

/-- What a remark notes about what it stands before. -/
structure Notes where
  parameters : List Noted
  result : Option TypeExpr
  type : Option TypeExpr
  /-- What a value is compared with. -/
  bound : Option TypeExpr
  /-- What a function speaks of as itself. -/
  self : Option TypeExpr
  typeParameters : List TypeParameter
  /-- The class that is extended, with type arguments. -/
  base : Option TypeExpr
  /-- What a class keeps to. -/
  kept : List TypeExpr
  /-- The type of the members of an object that lists kinds. -/
  kinds : Option TypeExpr
  /-- The function constructs objects. -/
  constructs : Bool
  deriving Inhabited

/-- A remark that notes nothing. -/
def Notes.none : Notes := ⟨[], .none, .none, .none, .none, [], .none, [], .none, false⟩

namespace Readers

variable (r : Readers)

/-- A type in braces. -/
def notedType : Read NotedType := do
  let isRest ← accept "..."
  let type ← r.type
  let isOptional ← accept "="
  return ⟨type, isOptional, isRest⟩

/-- A value that a tag names; its type may stand behind the name. -/
def namedTag? (m : Remark) (t : Tag) : Read (Option Noted) := do
  let text := withoutGap t.text
  let isOpen := text.head? = some '['
  match pathAt? (if isOpen then withoutGap (text.drop 1) else text) with
  | none => return none
  | some (path, rest) =>
    let inside := match t.type, withoutGap rest with
      | some cs, _ => some cs
      | none, '\x7b' :: cs => some cs
      | none, _ => none
    let type ← inside.mapM fun cs => inRemark m cs r.notedType
    let isOptional := isOpen || type.any (·.isOptional)
    return some ⟨2 * longest - (m.behind + text.length), path, type, isOptional⟩

/-- The type parameters of a tag: names with commas between them, the first of which may have a
    bound in braces. -/
def typeParametersOfTag (m : Remark) (t : Tag) : Read (List TypeParameter) := do
  let bound ← r.typeOfTag? m t
  let item : Read TypeParameter := do
    if ← accept "[" then
      let p ← r.typeParameter
      skip "]"
      return p
    else r.typeParameter
  let ps ← inRemark m t.text do
    let first ← item
    let others ← many do
      if ← accept "," then return some (← item) else return none
    return first :: others
  match ps.filter (·.name ≠ "") with
  | [] => return []
  | p :: others => return { p with bound := if bound.isSome then bound else p.bound } :: others

end Readers

/-! ## Types of what has parts -/

/-- The type is told by parts if there are any. -/
def isToldByParts : TypeExpr → Bool
  | .keyword w => w = "object"
  | .named path ts => path = ["Object"] && ts.isEmpty
  | .array t => isToldByParts t
  | _ => false

/-- A type told by parts, in place of objects. -/
def withParts (parts : TypeExpr) : TypeExpr → TypeExpr
  | .array t => .array (withParts parts t)
  | _ => parts

/-- The type of a value, given what is noted of its parts, which may have parts themselves. -/
def Noted.whole? (n : Noted) : Nat → List Noted → Option TypeExpr
  | 0, _ => none
  | fuel + 1, below =>
    let isParted := n.type.all fun t => isToldByParts t.type
    if below.isEmpty || !isParted then n.type.map (·.type)
    else
      let fields := (below.filter (·.path.length = 1)).map fun p =>
        let name := p.path.headD ""
        let inner := (below.filter fun q => q.path.length > 1 && q.path.head? = some name).map
          fun q => { q with path := q.path.drop 1 }
        Member.field p.spot [] (.plain name) p.isOptional
          (some ((p.whole? fuel inner).getD (.keyword "any"))) none
      let parts := TypeExpr.object n.spot fields
      some (withParts parts ((n.type.map (·.type)).getD (.keyword "object")))

/-- What is noted of the parts of a name. -/
def partsOf (name : String) (all : List Noted) : List Noted :=
  (all.filter fun q => q.path.length > 1 && q.path.head? = some name).map fun q =>
    { q with path := q.path.drop 1 }

/-- The values that are noted, each with its type. -/
def wholesOf (all : List Noted) : List (Noted × Option TypeExpr) :=
  (all.filter (·.path.length = 1)).map fun n => (n, n.whole? 16 (partsOf (n.path.headD "") all))

/-! ## Functions with remarks -/

/-- A parameter with what is noted about it. -/
def Parameter.noted (p : Parameter) (n : Noted) (type : Option TypeExpr) : Parameter :=
  if p.type.isSome then p
  else
    let isRest := n.type.any (·.isRest)
    { p with
      type := if isRest then type.map .array else type
      isRest := p.isRest || isRest
      isOptional := p.isOptional || (n.isOptional && p.initial.isNone) }

/-- A function with what a remark notes about it. -/
def Function.noted (f : Function) (n : Notes) : Function :=
  let wholes := wholesOf n.parameters
  let parameters := f.parameters.zipIdx.map fun (p, i) =>
    match p.pattern with
    | .name _ text =>
      match wholes.find? fun (w, _) => w.path = [text] with
      | some (w, type) => p.noted w type
      | none => p
    | _ =>
      match wholes[i]? with
      | some (w, type) => p.noted w type
      | none => p
  let own := { f with
    typeParameters := if f.typeParameters.isEmpty then n.typeParameters else f.typeParameters
    result := if f.result.isSome then f.result else n.result
    parameters }
  let own := match n.type with
    | some (.function false _ g) =>
      let parameters := own.parameters.zipIdx.map fun (p, i) =>
        match g.parameters[i]? with
        | some q => if p.type.isSome then p else { p with type := q.type, isOptional := q.isOptional }
        | none => p
      { own with
        typeParameters := if own.typeParameters.isEmpty then g.typeParameters else own.typeParameters
        result := if own.result.isSome then own.result else g.result
        parameters }
    | _ => own
  match n.self with
  | some t =>
    { own with parameters :=
        ⟨f.spot, [], .name f.spot "this", false, false, some t, none⟩ :: own.parameters }
  | none => own

/-! ## Values and declarations with remarks -/

/-- A value with what a remark notes about it. -/
def Expr.noted (n : Notes) (e : Expr) : Expr :=
  let own := match e with
    | .function f => .function (f.noted { n with type := none })
    | e => e
  match n.type, n.bound with
  | some t, _ => .cast own t
  | none, some t => .satisfies own t
  | none, none => own

/-- The last of the values that are assigned in a row, with what a remark notes about it. -/
def Expr.assignedNoted (n : Notes) : Expr → Expr
  | .assign operator target value => .assign operator target (assignedNoted n value)
  | e => e.noted n

/-- A member with what a remark notes about it. -/
def Member.noted (n : Notes) : Member → Member
  | .method ms own isOptional f => .method ms own isOptional (f.noted n)
  | .field spot ms own isOptional type initial =>
    .field spot ms own isOptional (if type.isSome then type else n.type) initial
  | .getter ms own f =>
    let f := f.noted n
    .getter ms own { f with result := if f.result.isSome then f.result else n.type }
  | .setter ms own f => .setter ms own (f.noted n)
  | .construction ms f => .construction ms (f.noted n)
  | m => m

/-- The value by a path of names. -/
def Expr.ofPath : List String → Expr
  | [] => .other
  | first :: rest => rest.foldl (fun e name => .access e name false) (.name first)

/-- A class or interface that a remark names. -/
def HeritageEntry.ofType? : TypeExpr → Option HeritageEntry
  | .named path ts => some ⟨.ofPath path, ts⟩
  | _ => none

/-- A clause with the type arguments that a remark tells. -/
def HeritageClause.noted (n : Notes) (c : HeritageClause) : HeritageClause :=
  match c.isExtends, c.entries, n.base with
  | true, [e], some (.named _ ts) =>
    { c with entries := [if e.typeArguments.isEmpty then { e with typeArguments := ts } else e] }
  | _, _, _ => c

/-- A class with what a remark notes about it. -/
def TypeDeclaration.noted (d : TypeDeclaration) (n : Notes) : TypeDeclaration :=
  let kept := n.kept.filterMap HeritageEntry.ofType?
  { d with
    typeParameters := if d.typeParameters.isEmpty then n.typeParameters else d.typeParameters
    heritage := d.heritage.map (·.noted n) ++ (if kept.isEmpty then [] else [⟨false, kept⟩]) }

/-- A variable with what a remark notes about it. -/
def Variable.noted (n : Notes) (v : Variable) : Variable :=
  let plain := { n with type := none }
  { v with
    type := if v.type.isSome then v.type else n.type
    initial := v.initial.map fun
      | .classValue d => .classValue (d.noted plain)
      | e => e.noted plain }

/-- A statement with what a remark notes about it. -/
def Statement.noted (n : Notes) : Statement → Statement
  | .declaration v isAmbient (.function f) => .declaration v isAmbient (.function (f.noted n))
  | .declaration v isAmbient (.type d) => .declaration v isAmbient (.type (d.noted n))
  | .declaration v isAmbient (.variables binding (x :: rest)) =>
    .declaration v isAmbient (.variables binding (x.noted n :: rest))
  | .value (.assign operator target e) =>
    .value ((Expr.assign operator target e).assignedNoted n)
  | .value e =>
    match n.type with
    | some t => .value (.cast e t)
    | none => .value e
  | .exportValue inPlace e => .exportValue inPlace (e.noted n)
  | .result (some e) => .result (some (e.noted n))
  | s => s

namespace Readers

variable (r : Readers)

/-! ## Reading remarks -/

/-- The words of the tags that go on with a declaration of a type. -/
def partWords : List String := ["property", "prop", "type"]

/-- The words of the tags that go on with a declaration of a function. -/
def callWords : List String := ["param", "arg", "argument", "returns", "return", "this"]

/-- A tag and those behind it that go on with it. -/
def declaringTags : List Tag → List (Tag × List Tag)
  | [] => []
  | t :: rest =>
    let parts := if t.word = "typedef" then rest.takeWhile fun s => partWords.contains s.word
      else if t.word = "callback" || t.word = "overload" then
        rest.takeWhile fun s => callWords.contains s.word
      else []
    (t, parts) :: declaringTags rest

/-- The tags that tell of what the remark stands before. -/
def plainTags : (isPart : List String) → List Tag → List Tag
  | _, [] => []
  | isPart, t :: rest =>
    if isPart.contains t.word then plainTags isPart rest
    else if t.word = "typedef" then plainTags partWords rest
    else if t.word = "callback" || t.word = "overload" then plainTags callWords rest
    else t :: plainTags [] rest

/-- The type that a tag tells in braces, or without them. -/
def typeNamed (m : Remark) (t : Tag) : Read TypeExpr := do
  match ← r.typeOfTag? m t with
  | some own => return own
  | none => inRemark m t.text r.type

/-- What a tag adds to what is noted. -/
def noteTag (m : Remark) (n : Notes) (t : Tag) : Read Notes := do
  match t.word with
  | "param" | "arg" | "argument" =>
    match ← r.namedTag? m t with
    | some p => return { n with parameters := n.parameters ++ [p] }
    | none => return n
  | "returns" | "return" =>
    match t.type with
    | some cs => return { n with result := some (← inRemark m cs r.result) }
    | none => return n
  | "type" => return { n with type := ← r.typeOfTag? m t }
  | "satisfies" => return { n with bound := ← r.typeOfTag? m t }
  | "this" => return { n with self := ← r.typeOfTag? m t }
  | "template" =>
    return { n with typeParameters := n.typeParameters ++ (← r.typeParametersOfTag m t) }
  | "extends" | "augments" =>
    return { n with base := some (← r.typeNamed m t) }
  | "implements" =>
    return { n with kept := n.kept ++ [← r.typeNamed m t] }
  | "enum" => return { n with kinds := ← r.typeOfTag? m t }
  | "class" | "constructor" => return { n with constructs := true }
  | _ => return n

/-- What a remark notes. -/
def notesOf (m : Remark) : Read Notes := do
  let tags := m.tags
  let declares := tags.any fun t => ["typedef", "callback", "overload"].contains t.word
  let plain := (plainTags [] tags).filter fun t => !declares || t.word ≠ "template"
  plain.foldlM (r.noteTag m) .none

/-- What the last remark before a cursor notes. -/
def notesAt (c : Cursor) : Read Notes := do
  match (remarksBefore c).getLast? with
  | some m => r.notesOf m
  | none => return .none

/-! ## Types that remarks declare -/

/-- The function that a tag and those that go on with it declare. -/
def notedFunction (m : Remark) (at' : Nat) (parts : List Tag) : Read TypeExpr := do
  let n ← parts.foldlM (r.noteTag m) .none
  let parameters := (wholesOf n.parameters).map fun (p, type) =>
    let isRest := p.type.any (·.isRest)
    Parameter.mk p.spot [] (.name p.spot (p.path.headD "")) isRest p.isOptional
      (if isRest then type.map .array else type) none
  let f : Function :=
    { spot := at', name := none, typeParameters := [], parameters := [], result := none
      isAsync := false, isGenerator := false, isArrow := true, body := .none }
  let f := { f with parameters, result := some (n.result.getD (.keyword "any")) }
  return .function false false (f.noted { Notes.none with self := n.self })

/-- The type that a tag declares, with the tags that go on with it. -/
def declaredType? (m : Remark) (typeParameters : List TypeParameter) (t : Tag)
    (parts : List Tag) : Read (Option Statement) := do
  let at' := 2 * longest - (m.behind + t.text.length)
  match pathAt? (withoutGap t.text) with
  | none => return none
  | some (path, _) =>
    let own := path.getLast?.getD ""
    let declared (body : TypeExpr) : Statement :=
      .declaration .inner false (.synonym at' own typeParameters body)
    if t.word = "callback" then return some (declared (← r.notedFunction m at' parts))
    else
      let whole ← match ← r.typeOfTag? m t with
        | some type => pure (some type)
        | none =>
          match parts.find? (·.word = "type") with
          | some p => r.typeOfTag? m p
          | none => pure none
      let fields ← (parts.filter (·.word ≠ "type")).filterMapM (r.namedTag? m)
      let n : Noted := ⟨at', [own], whole.map fun type => ⟨type, false, false⟩, false⟩
      return some (declared ((n.whole? 16 fields).getD (.keyword "any")))

/-- The types that the remarks before a cursor declare. -/
def declaredTypes (c : Cursor) : Read (List Statement) := do
  let found ← (remarksBefore c).mapM fun m => do
    let tags := m.tags
    let typeParameters ← (tags.filter (·.word = "template")).mapM (r.typeParametersOfTag m)
    (declaringTags tags).filterMapM fun (t, parts) => do
      if t.word = "typedef" || t.word = "callback" then
        r.declaredType? m typeParameters.flatten t parts
      else return none
  return found.flatten

end Readers

end TypeLineage.Source
