import TypeLineage.Source.StatementSyntax
import TypeLineage.Source.Notes

/-! # Reading values

    A value is a function with an arrow, or operands with operations between
    them, which bind as tightly as their precedence says.  An operand is a
    reference behind marks and words that act on it; a reference is a simple
    value with members, calls and type arguments behind it. -/

namespace TypeLineage.Source

open Read

/-- The marks of assignments. -/
def assignmentMarks : List String :=
  ["=", "+=", "-=", "*=", "/=", "%=", "&=", "|=", "^=", "**=", "&&=", "||=", "??=", "<<=", ">>=",
    ">>>="]

/-- The cursor with a mark of several characters taken as one, where strokes or closing
    angles stand alone otherwise. -/
def Cursor.asLongMark (c : Cursor) : Cursor :=
  let marks := [">>>=", ">>=", ">>>", ">>", ">=", "/="]
  match c.token with
  | .mark m =>
    if m = ">" || m = "/" then
      match marks.find? fun l => l.toList.isPrefixOf c.here with
      | some l => { c with token := .mark l, rest := c.here.drop l.length }
      | none => c
    else c
  | _ => c

namespace Readers

variable (r : Readers)

/-! ## Markup -/

/-- The text of markup up to what stands in it. -/
def markupText (c : Cursor) : List Char → Cursor
  | [] => { c with token := .finish, here := [], rest := [] }
  | ch :: rest =>
    if ch = '<' || ch = '\x7b' then c.goTo false (ch :: rest)
    else markupText c rest

/-- The cursor behind a value in quotes, which may take several lines. -/
def markupQuoted (c : Cursor) : Cursor :=
  match c.here with
  | quote :: rest =>
    c.goTo false ((rest.dropWhile (· != quote)).drop 1)
  | [] => c

/-- An element of markup, of which only the values in it are read; the cursor stays at its
    closing angle. -/
def markup : Nat → Read Expr
  | 0 => return .other
  | n + 1 => do
    skip "<"
    let isFragment ← atMark ">"
    discard <| many do
      match ← token with
      | .word .. => advance; return some ()
      | .mark m =>
        if m = "." || m = "-" || m = ":" then
          advance
          return some ()
        else return none
      | _ => return none
    if (← atMark "<") then discard r.typeArguments?
    let attributes ← many do
      match ← token with
      | .word .. => advance; return some []
      | .mark m =>
        if m = "-" || m = ":" then
          advance
          return some []
        else if m = "=" then
          advance
          let c ← get
          match c.here.head? with
          | some '"' => set (markupQuoted c); return some []
          | some '\'' => set (markupQuoted c); return some []
          | some '<' =>
            let e ← markup n
            skip ">"
            return some [e]
          | _ =>
            skip "\x7b"
            let e ← r.inner
            skip "\x7d"
            return some [e]
        else if m = "\x7b" then
          advance
          skip "..."
          let e ← r.inner
          skip "\x7d"
          return some [e]
        else return none
      | _ => return none
    modify fun c => { c with usesMarkup := true }
    if ← accept "/" then return .markup isFragment attributes.flatten
    else
      modify fun c => markupText c c.rest
      let children ← many do
        match ← token with
        | .mark "\x7b" =>
          advance
          skip "..."
          let es ← if ← atMark "\x7d" then pure [] else pure [← r.inner]
          modify fun c => markupText c c.rest
          return some es
        | .mark "<" =>
          if ← nextIs (·.isMark "/") then return none
          else
            let e ← markup n
            modify fun c => markupText c c.rest
            return some [e]
        | _ => return none
      advance
      discard <| many do
        if (← atMark ">") || (← atFinish) then return none
        else
          advance
          return some ()
      return .markup isFragment (attributes.flatten ++ children.flatten)

/-! ## Functions -/

/-- What a function with an arrow does. -/
def arrowBody (isAsync inBranch : Bool) : Read Body := do
  let c ← get
  let around (s : Surroundings) : Surroundings := { s with awaits := isAsync }
  if c.token.isMark "\x7b" then r.body false isAsync false
  else if !c.token.isMark ";" && !c.token.isAnyWord ["function", "class"] && c.startsStatement
      && !c.startsValueStatement then
    r.body false isAsync true
  else within around do
    let here ← get
    discard (r.value inBranch)
    return .value here

/-- How surely a function with an arrow begins. -/
inductive Likelihood where
  | no
  | perhaps
  | surely
  deriving DecidableEq, Repr

/-- How surely a function with an arrow begins whose parameters stand in parentheses. -/
def arrowLikelihood (c : Cursor) : Likelihood :=
  if c.token.isMark "=>" then .surely
  else if c.token.isWord "async" then
    let d := c.next
    if d.isFirst then .no else opened d
  else opened c
where
  opened (c : Cursor) : Likelihood :=
    let second := c.next
    if c.token.isMark "(" then
      let third := second.next
      if second.token.isMark ")" then
        if third.token.isAnyMark ["=>", ":", "\x7b"] then .surely else .no
      else if second.token.isAnyMark ["[", "\x7b"] then .perhaps
      else if second.token.isMark "..." then .surely
      else if second.token.isAnyWord modifierWords && !second.token.isWord "async"
          && third.isName then
        if third.token.isWord "as" then .no else .surely
      else if !second.isName && !second.token.isWord "this" then .no
      else if third.token.isMark ":" then .surely
      else if third.token.isMark "?" then
        if third.nextIs (·.isAnyMark [":", ",", "=", ")"]) then .surely else .no
      else if third.token.isAnyMark [",", "=", ")"] then .perhaps
      else .no
    else if c.token.isMark "<" then
      if !second.isName && !second.token.isWord "const" then .no
      else if c.hasMarkup then
        let named := if second.token.isWord "const" then second.next else second
        let third := named.next
        if third.token.isWord "extends" then
          if third.nextIs (·.isAnyMark ["=", ">", "/"]) then .no else .surely
        else if third.token.isAnyMark [",", "="] then .surely
        else .no
      else .perhaps
    else .no

/-- A parameter that is not taken for one unless a name or pattern is there. -/
def likelyParameter? : Read (Option Parameter) := do
  let c ← get
  discard (r.modifiers true false false)
  let isThere ← do
    discard (accept "...")
    let d ← get
    pure (d.isBinding || d.token.isAnyMark ["[", "\x7b"] || d.token.isWord "this")
  set c
  if isThere then return some (← r.parameter) else return none

/-- A function with an arrow whose parameters stand in parentheses.  If it is only likely
    to be one, all of it has to be there. -/
def longArrow? (isSure inBranch : Bool) : Read (Option Expr) := do
  let at' ← spot
  let isAsync ← acceptWord "async"
  let ps ← r.typeParameters
  let parameters? ← do
    if ← expect "(" then
      let around (s : Surroundings) : Surroundings := { s with awaits := isAsync, yields := false }
      let item := if isSure then some <$> r.parameter else r.likelyParameter?
      let xs ← within around (separated? .parameters false item)
      if !(← expect ")") && !isSure then pure none else pure (xs.map (·.1))
    else if isSure then pure (some [])
    else pure none
  match parameters? with
  | none => return none
  | some parameters =>
    let hasResult ← atMark ":"
    let result ← r.resultBehind? ":" false
    if !isSure && result.any TypeExpr.isMissing then return none
    let c ← get
    if !isSure && !c.token.isAnyMark ["=>", "\x7b"] then return none
    discard (expect "=>")
    let body ← do
      if c.token.isAnyMark ["=>", "\x7b"] then r.arrowBody isAsync inBranch
      else
        let here ← get
        discard name
        pure (.value here)
    if inBranch && hasResult && !(← atMark ":") then return none
    return some (.function
      { spot := at', name := none, typeParameters := ps, parameters, result, isAsync
        isGenerator := false, isArrow := true, body })

/-- A function with an arrow behind the name that is its parameter. -/
def shortArrow (at' : Nat) (isAsync inBranch : Bool) (here : Nat) (parameter : String) :
    Read Expr := do
  discard (expect "=>")
  let p : Parameter := ⟨here, [], .name here parameter, false, false, none, none⟩
  let body ← r.arrowBody isAsync inBranch
  return .function
    { spot := at', name := none, typeParameters := [], parameters := [p], result := none, isAsync
      isGenerator := false, isArrow := true, body }

/-- A function with an arrow, if there is one; one whose only parameter stands without
    parentheses is found behind its word. -/
def arrow? (inBranch : Bool) : Read (Option Expr) := do
  let c ← get
  let long ← match arrowLikelihood c with
    | .no => pure none
    | .perhaps => attempt (r.longArrow? false inBranch)
    | .surely => attempt (r.longArrow? true inBranch)
  match long with
  | some f => return some f
  | none =>
    let second := c.next
    if c.token.isWord "async" && !second.isFirst && second.isName then
      let third := second.next
      if third.token.isMark "=>" && !third.isFirst then
        advance
        let here ← spot
        let parameter ← name
        return some (← r.shortArrow c.index true inBranch here parameter)
      else return none
    else return none

/-- A function behind its keyword; only one that is declared may lack a body. -/
def functionRest (at' : Nat) (isAsync isDeclared : Bool) : Read Function := do
  let isGenerator ← accept "*"
  let name ← if (← get).isBinding then some <$> binding else pure none
  let f ← r.signature at' ":" false isGenerator isAsync
  let f := { f with name }
  if isDeclared then r.functionBody false f
  else r.withBody f

/-! ## Members of objects -/

/-- A method behind its name. -/
def methodRest (at' : Nat) (isAsync isGenerator : Bool) : Read Function := do
  r.functionBody false (← r.signature at' ":" false isGenerator isAsync)

/-- A part of an object with what a remark notes about it. -/
def notedItem (n : Notes) : ObjectItem → ObjectItem
  | .property at' name value => .property at' name (value.noted n)
  | .method name f => .method name (f.noted n)
  | .getter name f => .getter name (f.noted n)
  | .setter name f => .setter name (f.noted n)
  | item => item

/-- A part of an object. -/
def plainItem : Read ObjectItem := do
  let at' ← spot
  if ← accept "..." then return .spread (← r.value false)
  else
    let modifiers ← r.modifiers true false false
    match ← r.accessor? at' modifiers false with
    | some (.getter _ name f) => return .getter name f
    | some (.setter _ name f) => return .setter name f
    | _ =>
      let isGenerator ← accept "*"
      let here ← get
      let name ← r.memberName
      discard (accept "?")
      discard (accept "!")
      if isGenerator || (← atMark "(") || (← atMark "<") then
        return .method name (← r.methodRest at' (modifiers.contains "async") isGenerator)
      else if here.isName && !(← atMark ":") then
        if ← accept "=" then discard (within (·.inBrackets) (r.value false))
        return .shorthand here.index (name.known?.getD "")
      else
        discard (expect ":")
        let value ← within (·.inBrackets) (r.value false)
        return .property here.index name (value.handedTo name.known?)

/-- A part of an object, in a script with what a remark notes about it. -/
def objectItem : Read ObjectItem := do
  let c ← get
  if c.isScript then
    let n ← r.notesAt c
    return notedItem n (← r.plainItem)
  else r.plainItem

/-- The parts of an object in braces. -/
def objectItems : Read (List ObjectItem) := do
  if ← expect "\x7b" then
    let xs ← within (·.inBrackets) (separated? .objectItems true (some <$> r.objectItem))
    discard (expect "\x7d")
    return (xs.map (·.1)).getD []
  else return []

/-! ## Classes -/

/-- A constructor at its word, if one begins. -/
def construction? (at' : Nat) (modifiers : List String) : Read (Option Member) := do
  let c ← get
  let isConstruction := match c.token with
    | .word "constructor" => true
    | .text "constructor" _ => c.nextIs (·.isMark "(")
    | _ => false
  if isConstruction then
    advance
    return some (.construction modifiers (← r.methodRest at' false false))
  else return none

/-- What follows the name of a field, up to the end of the member. -/
def fieldRest (at' : Nat) (modifiers : List String) (name : MemberName) (isOptional : Bool) :
    Read Member := do
  if !isOptional && !(← isFirst) then skip "!"
  let type ← r.typeBehind? ":"
  let around (s : Surroundings) : Surroundings :=
    { s with yields := false, awaits := false, excludesIn := false }
  let initial ← within around r.initial?
  if ← atMark "(" then
    fault
    advance
  else unless (← atMark "@") && !(← isFirst) do endStatement
  return .field at' modifiers name isOptional type initial

/-- A member of a class; a semicolon is none. -/
def plainMember : Read (Option Member) := do
  if ← accept ";" then return none
  else some <$> do
    let at' ← spot
    let words ← r.modifiers true true true
    if (← atWord "static") && (← nextIs (·.isMark "\x7b")) then
      advance
      match ← r.body false true false with
      | .block here => return .start here
      | _ => return .start (← get)
    else match ← r.accessor? at' words false with
      | some m => return m
      | none => match ← r.construction? at' words with
        | some m => return m
        | none =>
          if ← startsIndexer then r.indexer words
          else
            let c ← get
            if c.token.isMemberName || c.token.isAnyMark ["*", "["] then
              let isGenerator ← accept "*"
              let here ← spot
              let name ← r.memberName
              let isOptional ← accept "?"
              if isGenerator || (← atMark "(") || (← atMark "<") then
                let f ← r.methodRest at' (words.contains "async") isGenerator
                return .method words name isOptional f
              else r.fieldRest here words name isOptional
            else
              fault
              r.fieldRest c.index words (.plain "") false

/-- A member of a class, in a script with what a remark notes about it. -/
def classMember : Read (Option Member) := do
  let c ← get
  if c.isScript then
    let n ← r.notesAt c
    return (← r.plainMember).map (·.noted n)
  else r.plainMember

/-- What a function leaves in its object. -/
def leftBy (f : Function) : List (String × Expr) :=
  match f.body with
  | .block here => leftByAll ((r.statements false).run here).1
  | _ => []

/-- The fields that the functions of a class leave in its objects, or in the class itself. -/
def leftFields (at' : Nat) (ms : List Member) : List Member :=
  let functions := ms.filterMap fun
    | .method words _ _ f => some (words, f)
    | .getter words _ f => some (words, f)
    | .setter words _ f => some (words, f)
    | .construction _ f => some ([], f)
    | _ => none
  let known (isStatic : Bool) := ms.filterMap fun
    | .method words n _ _ => if words.contains "static" = isStatic then n.known? else none
    | .getter words n _ => if words.contains "static" = isStatic then n.known? else none
    | .setter words n _ => if words.contains "static" = isStatic then n.known? else none
    | .field _ words n _ _ _ => if words.contains "static" = isStatic then n.known? else none
    | _ => none
  let fields (isStatic : Bool) : List Member :=
    let names := functions.flatMap fun (words, f) =>
      if words.contains "static" = isStatic then (r.leftBy f).map (·.1) else []
    (names.eraseDups.filter fun n => !(known isStatic).contains n).zipIdx.map fun (n, i) =>
      .field (4 * longest + 8192 * at' + 2 * i + isStatic.toNat)
        (if isStatic then ["static"] else []) (.plain n) false none none
  fields false ++ fields true

/-- The members of a class in braces.  In a script what functions leave in objects belongs to
    them. -/
def classMembers : Read (List Member) := do
  let c ← get
  if ← expect "\x7b" then
    let ms ← items .classMembers r.classMember
    discard (expect "\x7d")
    let ms := ms.filterMap id
    return if c.isScript then ms ++ r.leftFields c.index ms else ms
  else return []

/-- A value or type that a declaration refers to. -/
def heritageItem : Read HeritageEntry := do
  match ← r.reference with
  | .instantiation value types => return ⟨value, types⟩
  | value =>
    let types ← if ← atMark "<" then bracketed .typeArguments "<" ">" r.type else pure []
    return ⟨value, types⟩

/-- The clauses that tell what a declaration extends and implements. -/
def heritage : Read (List HeritageClause) := do
  if (← get).isClause then
    items .heritage do
      let isExtends ← atWord "extends"
      advance
      return ⟨isExtends, ← separated .heritageItems r.heritageItem⟩
  else return []

/-- A class behind its keyword. -/
def classRest (at' : Nat) (form : TypeForm) (isAbstract : Bool) : Read TypeDeclaration := do
  let c ← get
  let isClause := c.token.isWord "implements" && c.nextIs Token.isNameOrKeyword
  let name ← if c.isBinding && !isClause then some <$> binding else pure none
  let typeParameters ← r.typeParameters
  let heritage ← r.heritage
  let members ← r.classMembers
  return { spot := at', form, isAbstract, name, typeParameters, heritage, members }

/-! ## References -/

/-- The holes of a template, the first of which begins at the cursor. -/
def valueHoles : Read (List ValueHole) := loop longest
where
  loop : Nat → Read (List ValueHole)
    | 0 => return []
    | n + 1 => do
      let value ← r.inner
      if ← atMark "\x7d" then modify Cursor.asTemplate
      match ← token with
      | .template content isLast =>
        advance
        if isLast then return [⟨value, content⟩] else return ⟨value, content⟩ :: (← loop n)
      | _ =>
        fault
        return [⟨value, ""⟩]

/-- An argument or an item of an array. -/
def argument : Read Expr := within (·.inBrackets) do
  if ← accept "..." then return .spread (← r.value false)
  else if ← atMark "," then return .hole
  else r.value false

/-- The arguments of a call in parentheses. -/
def arguments : Read (List Expr) := do
  discard (expect "(")
  let xs ← separated .arguments r.argument
  discard (expect ")")
  return xs

/-- Type arguments of a value, if the bracket opens any. -/
def valueArguments? : Read (Option (List TypeExpr)) := attempt do
  if (← token).isMark "<<" then modify Cursor.asFirstMark
  if !(← accept "<") then return none
  let types ← separated .typeArguments r.type
  let c ← get
  if !c.token.isMark ">" || !c.asLongMark.token.isMark ">" then return none
  advance
  let d ← get
  if d.token.isMark "(" || d.token.isTemplate then return some types
  else if d.token.isAnyMark ["<", ">", "+", "-"] then return none
  else return if d.isFirst || d.isOperation || !d.startsValue then some types else none

/-- A value with its type arguments taken off. -/
def apart : Expr → Expr × List TypeExpr
  | .instantiation v types => (v, types)
  | v => (v, [])

/-- A template at the cursor, handed to a function. -/
def tagged (value : Expr) (types : List TypeExpr) : Read Expr := do
  let at' ← spot
  match ← token with
  | .template _ isLast =>
    advance
    if isLast then return .tagged at' value types []
    else return .tagged at' value types (← r.valueHoles)
  | _ => return value

/-- A key in brackets, behind the first. -/
def keyRest : Read Expr := do
  if ← accept "]" then
    fault
    return .other
  else
    let key ← r.inner
    discard (expect "]")
    return key

/-- What follows a value and belongs to it. -/
def suffixes (hasCalls : Bool) (head : Expr) : Read Expr := loop longest head
where
  loop : Nat → Expr → Read Expr
    | 0, value => return value
    | n + 1, value => do
      let c ← get
      match c.token with
      | .mark "." =>
        advance
        loop n (.access value (← nameBehindPoint) false)
      | .mark "?." =>
        if !hasCalls then return value
        advance
        let d ← get
        if d.token.isNameOrKeyword then loop n (.access value (← nameBehindPoint) true)
        else if ← accept "[" then loop n (.index value (← r.keyRest) true)
        else if d.token.isTemplate then loop n (← r.tagged value [])
        else
          let types ← r.valueArguments?
          if (← token).isTemplate then loop n (← r.tagged value (types.getD []))
          else if types.isSome || (← atMark "(") then
            loop n (.call c.index value (types.getD []) (← r.arguments) true)
          else
            fault
            return .access value "" true
      | .mark "!" =>
        if c.isFirst then return value
        advance
        loop n (.assured value)
      | .mark "[" =>
        if c.around.excludesKeys then return value
        advance
        loop n (.index value (← r.keyRest) false)
      | .mark "(" =>
        if !hasCalls then return value
        let (value, types) := apart value
        if c.isScript && value matches .name "require" then
          match c.next.token with
          | .text file _ => noteFile file
          | _ => pure ()
        loop n (.call c.index value types (← r.arguments) false)
      | .template .. =>
        let (tag, types) := apart value
        loop n (← r.tagged tag types)
      | .mark "<" | .mark "<<" =>
        match ← r.valueArguments? with
        | some types => loop n (.instantiation value types)
        | none => return value
      | _ => return value

/-- The object as one of the class that is extended, with what has to follow it. -/
def parent : Read Expr := do
  advance
  let types ← r.valueArguments?
  let c ← get
  let value := match types with
    | some types => if c.token.isTemplate then Expr.parent else .instantiation .parent types
    | none => .parent
  if c.token.isAnyMark ["(", ".", "["] then return value
  else
    discard (expect ".")
    return .access value (← nameBehindPoint) false

/-- A class as a value. -/
def classValue : Read Expr := do
  let at' ← spot
  expectWord "class"
  return .classValue (← r.classRest at' (.classValue none) false)

/-- A value without what may follow it. -/
def atom : Read Expr := do
  let c ← get
  match c.token with
  | .text content _ => advance; return .text content
  | .template content isLast =>
    advance
    if isLast then return .template content [] else return .template content (← r.valueHoles)
  | .number text => advance; return .number text
  | .bigNumber digits => advance; return .bigNumber digits
  | .hidden w => advance; return .name w
  | .mark "(" =>
    let n ← r.notesAt c
    advance
    let inside ← r.inner
    discard (expect ")")
    return .group (if c.isScript then inside.noted n else inside)
  | .mark "[" =>
    advance
    let xs ← separated .arrayItems r.argument
    discard (expect "]")
    return .array xs
  | .mark "\x7b" => return .object (← r.objectItems)
  | .mark "/" =>
    modify Cursor.asPattern
    advance
    return .pattern
  | .mark "<" =>
    return .other
  | .mark "@" =>
    discard (r.modifiers true false false)
    if ← atWord "class" then r.classValue
    else
      fault
      return .other
  | .word "this" => advance; return .self
  | .word "super" => r.parent
  | .word "null" => advance; return .null
  | .word "true" => advance; return .truth true
  | .word "false" => advance; return .truth false
  | .word "class" => r.classValue
  | .word "function" =>
    let n ← r.notesAt c
    advance
    let f ← r.functionRest c.index false false
    return .function (if c.isScript then f.noted n else f)
  | .word "async" =>
    let n ← r.notesAt c
    advance
    if (← atWord "function") && !(← isFirst) then
      advance
      let f ← r.functionRest c.index true false
      return .function (if c.isScript then f.noted n else f)
    else return .name "async"
  | .word w =>
    if c.isName then
      advance
      if w = "arguments" then modify fun c => { c with usesAll := true }
      return .name w
    else
      fault
      return .other
  | _ =>
    fault
    return .other

/-- What is constructed, behind its word. -/
def constructed : Read Expr := loop longest
where
  loop : Nat → Read Expr
    | 0 => return .other
    | n + 1 => do
      let c ← get
      advance
      if ← accept "." then
        discard anyName
        return .special true
      else
        let first ← if ← atWord "new" then loop n else if ← atWord "super" then do
            advance
            pure .parent
          else r.atom
        let (callee, types) := apart (← r.suffixes false first)
        if ← atMark "(" then return .construct c.index callee types (← r.arguments)
        else return .construct c.index callee types []

/-- What is taken in from a file, or the file itself. -/
def taken : Read Expr := do
  advance
  if ← accept "." then
    let word ← anyName
    if word = "defer" && (← atMark "(") then fetched else return .special false
  else fetched
where
  fetched : Read Expr := do
    if ← atMark "<" then discard r.valueArguments?
    match (← get).next.token with
    | .text file _ => noteFile file
    | .template file true => noteFile file
    | _ => pure ()
    return .fetched (← r.arguments)

/-- A value with its members, calls and type arguments. -/
def referenced : Read Expr := do
  let c ← get
  let head ←
    if c.token.isWord "new" then r.constructed
    else if c.token.isWord "import" && c.nextIs (·.isAnyMark ["(", "<", "."]) then r.taken
    else r.atom
  r.suffixes true head

/-! ## Operations -/

/-- A word begins a value behind itself, rather than naming something. -/
def actsOnValue (c : Cursor) : Bool :=
  let d := c.next
  !d.isFirst && (d.token.isNameOrKeyword || d.token.isNumber || d.token.isText)

/-- A value behind the marks and words that act on it. -/
def operand : Read Expr := loop longest
where
  loop : Nat → Read Expr
    | 0 => return .other
    | n + 1 => do
      let c ← get
      match c.token with
      | .mark m =>
        if ["!", "~", "+", "-"].contains m then
          advance
          return .unary m (← loop n)
        else if m = "++" || m = "--" then
          advance
          return .unary m (← r.reference)
        else if m = "<" && !c.hasMarkup then
          advance
          let type ← r.type
          discard (expect ">")
          let value ← loop n
          match type with
          | .named ["const"] [] => return .constant value
          | _ => return .cast value type
        else if m = "<" && c.nextIs fun t => t.isNameOrKeyword || t.isMark ">" then elements n
        else postfixed
      | .word w =>
        if w = "typeof" || w = "void" || w = "delete" then
          advance
          return .unary w (← loop n)
        else if w = "await" && (c.around.awaits || actsOnValue c) then
          advance
          return .awaited (← loop n)
        else postfixed
      | _ => postfixed
  /-- Elements of markup one behind the other, of which the last one counts. -/
  elements : Nat → Read Expr
    | 0 => return .other
    | n + 1 => do
      let e ← r.markup 256
      skip ">"
      if (← atMark "<") && (← nextIs fun t => t.isNameOrKeyword || t.isMark ">") then
        return .binary "," e (← elements n)
      else return e
  /-- A value that may be counted up or down. -/
  postfixed : Read Expr := do
    let value ← r.reference
    if ((← atMark "++") || (← atMark "--")) && !(← isFirst) then
      advance
      return .count value
    else return value

/-- The operations that go on with a value and bind more tightly than `least`. -/
def operations : Nat → (least : Nat) → Expr → Read Expr
  | 0, _, left => return left
  | n + 1, least, left => do
    let c := (← get).asLongMark
    let mark := match c.token with
      | .mark m => m
      | .word w => w
      | _ => ""
    match precedences.lookup mark with
    | none => return left
    | some p =>
      if p ≤ least || (mark = "in" && c.around.excludesIn) then return left
      else if mark = "as" || mark = "satisfies" then
        if c.isFirst then return left
        set c.next
        if (← atWord "const") && mark = "as" then
          advance
          operations n least (.constant left)
        else
          let type ← r.type
          operations n least
            (if mark = "as" then .cast left type else .satisfies left type)
      else
        set c.next
        let right ← r.operand
        let right ← operations n (if mark = "**" then p - 1 else p) right
        operations n least (.binary mark left right)

/-- The value may stand before the mark of an assignment. -/
def isReference : Expr → Bool
  | .unary .. | .count _ | .binary .. | .assign .. | .conditional .. | .cast .. | .constant _
  | .satisfies .. | .awaited _ | .yield .. => false
  | _ => true

/-- A value that is yielded. -/
def yielded : Read Expr := do
  advance
  let c ← get
  if !c.isFirst && (c.token.isMark "*" || c.startsValue) then
    let delegates ← accept "*"
    return .yield delegates (some (← r.value false))
  else return .yield false none

/-- What an arrow, a word or operations make of a value, up to a comma. -/
def assignment (inBranch : Bool) : Read Expr := do
  let c ← get
  if c.token.isWord "yield" && (c.around.yields || actsOnValue c) then r.yielded
  else match ← r.arrow? inBranch with
    | some f =>
      let n ← r.notesAt c
      return if c.isScript then f.noted n else f
    | none =>
      let first ← r.operand
      let left ← r.operations longest 0 first
      let d := (← get).asLongMark
      match d.token, left with
      | .mark "=>", .name parameter => r.shortArrow c.index false inBranch c.index parameter
      | .mark m, _ =>
        if assignmentMarks.contains m && isReference left then
          set d.next
          return .assign m left ((← r.value inBranch).handedTo left.lastName?)
        else if m = "?" then
          advance
          let yes ← within (·.inBrackets) (r.value true)
          if ← expect ":" then return .conditional left yes (← r.value inBranch)
          else return .conditional left yes .other
        else return left
      | _, _ => return left

end Readers

end TypeLineage.Source
