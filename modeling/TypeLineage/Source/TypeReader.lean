import TypeLineage.Source.Remark

/-! # Reading types and the heads of functions

    A type is read as alternatives, each of them types that hold together, each
    of those behind words that act on types, each with brackets behind it.  The
    heads of functions are the same in types and in values; a default or a body
    is passed over, and where it begins is kept. -/

namespace TypeLineage.Source

open Read

/-- The words for types of the language. -/
def typeWords : List String := [
  "any", "unknown", "never", "void", "string", "number", "bigint", "boolean", "symbol", "object",
  "undefined", "null"]

/-- Several types side by side as one. -/
def joinTypes (join : List TypeExpr → TypeExpr) : TypeExpr → List TypeExpr → TypeExpr
  | first, [] => first
  | first, others => join (first :: others)

namespace Readers

variable (r : Readers)

/-! ## Modifiers, names and patterns -/

/-- The modifiers at the cursor, behind those that were seen.  A constant may be meant by
    one, and where a class starts is none. -/
def modifierRun (allowsConst stopsAtStart : Bool) (seen : List String) : Read (List String) :=
  loop longest seen
where
  loop : Nat → List String → Read (List String)
    | 0, seen => return seen
    | n + 1, seen => do
      let c ← get
      match c.token with
      | .word w =>
        let holds :=
          if w = "const" && allowsConst then
            let d := c.next
            !d.isFirst && d.followsModifier
          else if w = "static" && stopsAtStart && c.nextIs (·.isMark "\x7b") then false
          else if w = "static" && seen.contains w then false
          else c.isModifier
        if holds then
          advance
          loop n (seen ++ [w])
        else return seen
      | _ => return seen

/-- The modifiers before a declaration or member; decorators are passed over. -/
def modifiers (hasDecorators allowsConst stopsAtStart : Bool) : Read (List String) := do
  if hasDecorators then r.skipDecorators
  let words ← modifierRun allowsConst stopsAtStart []
  if hasDecorators && !words.isEmpty && (← atMark "@") then
    r.skipDecorators
    modifierRun allowsConst stopsAtStart words
  else return words

/-- The name of a member. -/
def memberName : Read MemberName := do
  let c ← get
  match c.token with
  | .hidden w => advance; return .hidden w
  | .number n => advance; return .number n
  | .bigNumber _ => advance; return .computed c
  | .text content isSingle => advance; return .quoted content isSingle
  | .mark "[" =>
    advance
    let here ← get
    discard r.inner
    discard (expect "]")
    return .computed here
  | _ => return .plain (← anyName)

/-- A default behind its mark, which is not kept. -/
def initial? : Read (Option Passage) := do
  if ← accept "=" then return some (← r.passage) else return none

/-- A name or a pattern, given the reader for patterns one deeper. -/
def patternWith (inside : Read Pattern) : Read Pattern := do
  let at' ← spot
  if ← accept "\x7b" then
    let (items, trails) ← within (·.inBrackets) <| trailed .objectPattern do
      let isRest ← accept "..."
      let here ← get
      let key ← r.memberName
      match key with
      | .plain name =>
        if here.isBinding && !(← atMark ":") then
          return PatternItem.item none isRest (.name here.index name) (← r.initial?)
      | _ => pure ()
      discard (expect ":")
      let p ← inside
      return .item (if isRest then none else some key) isRest p (← r.initial?)
    discard (expect "\x7d")
    return .object at' items trails
  else if ← accept "[" then
    let (items, trails) ← within (·.inBrackets) <| trailed .arrayPattern do
      if ← atMark "," then return PatternItem.hole
      else
        let isRest ← accept "..."
        let p ← inside
        return .item none isRest p (← r.initial?)
    discard (expect "]")
    return .array at' items trails
  else return .name at' (← binding)

/-- A name or a pattern. -/
def pattern : Read Pattern := deepen 64
where
  deepen : Nat → Read Pattern
    | 0 => return default
    | n + 1 => r.patternWith (deepen n)

/-! ## Heads of functions -/

/-- A type behind a mark, if the mark is there. -/
def typeBehind? (mark : String) : Read (Option TypeExpr) := do
  if ← accept mark then return some (← r.type) else return none

/-- What a function gives back: a type or what it tells. -/
def result : Read TypeExpr := within ({ · with excludesConditions := false }) do
  let c ← get
  if c.isName && c.nextOnLineIs (·.isWord "is") then
    advance
    advance
    return .predicate false (c.token.word?.getD "") (some (← r.type))
  else r.type

/-- What a function gives back behind a mark; an arrow always stands before one. -/
def resultBehind? (mark : String) (isType : Bool) : Read (Option TypeExpr) := do
  if mark = "=>" then
    discard (expect mark)
    return some (← r.result)
  else if ← accept mark then return some (← r.result)
  else if isType && (← atMark "=>") then
    fault
    advance
    return some (← r.result)
  else return none

/-- The type that a tag tells in braces. -/
def typeOfTag? (m : Remark) (t : Tag) : Read (Option TypeExpr) :=
  t.type.mapM fun cs => inRemark m cs r.type

/-- The type that the last remark before a cursor tells. -/
def remarkedType? (c : Cursor) : Read (Option TypeExpr) := do
  match (remarksBefore c).getLast? with
  | some m =>
    match m.tags.find? (·.word = "type") with
    | some t => r.typeOfTag? m t
    | none => return none
  | none => return none

/-- A parameter. -/
def parameter : Read Parameter := do
  let start ← get
  let modifiers ← r.modifiers true false false
  let at' ← spot
  if ← acceptWord "this" then
    return ⟨at', modifiers, .name at' "this", false, false, ← r.typeBehind? ":", none⟩
  else
    let isRest ← accept "..."
    let here ← get
    let pattern ← r.pattern
    if (← spot) = here.index && modifiers.isEmpty && here.token.isAnyWord modifierWords then advance
    let isOptional ← accept "?"
    let type ← r.typeBehind? ":"
    let initial ← r.initial?
    let type ← if type.isSome then pure type else r.remarkedType? start
    return ⟨at', modifiers, pattern, isRest, isOptional, type, initial⟩

/-- A type parameter. -/
def typeParameter : Read TypeParameter := do
  let modifiers ← r.modifiers false true false
  let at' ← spot
  let own ← name
  let bound ← do
    if ← acceptWord "extends" then
      let c ← get
      if c.startsType || !c.startsValue then pure (some (← r.type))
      else
        discard (r.value false)
        pure none
    else pure none
  let default' ← r.typeBehind? "="
  return ⟨at', own, modifiers.contains "const", modifiers.contains "in", modifiers.contains "out",
    bound, default'⟩

/-- Type parameters, if there are any. -/
def typeParameters : Read (List TypeParameter) := do
  if ← atMark "<" then bracketed .typeParameters "<" ">" r.typeParameter else return []

/-- Parameters in parentheses. -/
def parameters (yields awaits : Bool) : Read (List Parameter) := do
  if ← expect "(" then
    let ps ← within (fun s => { s with yields, awaits }) (separated .parameters r.parameter)
    discard (expect ")")
    return ps
  else return []

/-- The head of a function from its type parameters on; its result stands behind a
    mark. -/
def signature (at' : Nat) (mark : String) (isType isGenerator isAsync : Bool) :
    Read Function := do
  let ps ← r.typeParameters
  let parameters ← r.parameters isGenerator isAsync
  let result ← r.resultBehind? mark isType
  return { spot := at', name := none, typeParameters := ps, parameters, result, isAsync
           isGenerator, isArrow := false, body := .none }

/-- The end of a member of an object type. -/
def endTypeMember : Read Unit := do unless ← accept "," do endStatement

/-- A function with its body.  In a script one that speaks of all that it is called with takes
    in any arguments. -/
def withBody (f : Function) : Read Function := do
  let outer := (← get).usesAll
  modify fun c => { c with usesAll := false }
  let body ← r.body f.isGenerator f.isAsync false
  let c ← get
  set { c with usesAll := outer }
  if c.isScript && c.usesAll && !f.parameters.any (·.isRest) then
    let rest : Parameter := ⟨f.spot, [], .name f.spot "args", true, false, none, none⟩
    return { f with body, parameters := f.parameters ++ [rest] }
  else return { f with body }

/-- A function with its body, if it has one. -/
def functionBody (isType : Bool) (f : Function) : Read Function := do
  let c ← get
  if c.token.isMark "\x7b" || !(isType || c.endsStatement) then r.withBody f
  else
    if isType then endTypeMember else endStatement
    return f

/-! ## Members -/

/-- An index signature begins at the cursor. -/
def startsIndexer : Read Bool := do
  let c ← get
  if !c.token.isMark "[" then return false
  let d := c.next
  if d.token.isAnyMark ["...", "]"] then return true
  let isModifier := d.token.isAnyWord modifierWords
  let e := d.next
  if isModifier && e.isName then return true
  else if !isModifier && !d.isName then return false
  else if e.token.isAnyMark [":", ","] then return true
  else return e.token.isMark "?" && e.nextIs (·.isAnyMark [":", ",", "]"])

/-- An index signature. -/
def indexer (modifiers : List String) : Read Member := do
  let ps ← bracketed .parameters "[" "]" r.parameter
  let type ← r.typeBehind? ":"
  endTypeMember
  match ps with
  | [p] => return .indexer modifiers (p.pattern.name?.getD "") (p.type.getD default) type
  | _ => return .indexer modifiers "" default type

/-- An accessor at its word, if one begins. -/
def accessor? (at' : Nat) (modifiers : List String) (isType : Bool) : Read (Option Member) := do
  let c ← get
  if c.startsAccessor then
    advance
    let name ← r.memberName
    let f ← r.functionBody isType (← r.signature at' ":" false false false)
    return some (if c.token.isWord "get" then .getter modifiers name f else .setter modifiers name f)
  else return none

/-- A call signature, to the end of the member. -/
def callMember (at' : Nat) (constructs : Bool) : Read Member := do
  let f ← r.signature at' ":" true false false
  endTypeMember
  return .call constructs f

/-- A member of an object type. -/
def typeMember : Read Member := do
  let c ← get
  let at' := c.index
  if c.token.isAnyMark ["(", "<"] then r.callMember at' false
  else if c.token.isWord "new" && c.nextIs (·.isAnyMark ["(", "<"]) then
    advance
    r.callMember at' true
  else
    let modifiers ← r.modifiers false false false
    match ← r.accessor? at' modifiers true with
    | some m => return m
    | none =>
      if ← startsIndexer then r.indexer modifiers
      else
        let name ← r.memberName
        let isOptional ← accept "?"
        if (← atMark "(") || (← atMark "<") then
          let f ← r.signature at' ":" true false false
          endTypeMember
          return .method modifiers name isOptional f
        else
          let type ← r.typeBehind? ":"
          let initial ← r.initial?
          endTypeMember
          return .field at' modifiers name isOptional type initial

/-- The members of an object type in braces. -/
def typeMembers : Read (List Member) := do
  if ← expect "\x7b" then
    let ms ← items .typeMembers r.typeMember
    discard (expect "\x7d")
    return ms
  else return []

/-! ## Types -/

/-- A function type begins at the cursor. -/
def startsFunction : Read Bool := do
  let c ← get
  if c.token.isMark "<" || c.token.isWord "new" then return true
  else if c.token.isWord "abstract" then return c.nextIs (·.isWord "new")
  else if c.token.isMark "(" then ahead do
    advance
    if (← atMark ")") || (← atMark "...") then return true
    if (← token).isAnyWord modifierWords then discard (r.modifiers false false false)
    let c ← get
    let isParameter ← do
      if c.isName || c.token.isWord "this" then
        advance
        pure true
      else if c.token.isAnyMark ["[", "\x7b"] then
        discard r.pattern
        pure ((← get).faults = c.faults)
      else pure false
    let d ← get
    return isParameter && (d.token.isAnyMark [":", ",", "?", "="]
      || (d.token.isMark ")" && d.nextIs (·.isMark "=>")))
  else return false

/-- A function type, or the type of what constructs objects. -/
def function : Read TypeExpr := do
  let at' ← spot
  let isAbstract ← acceptWord "abstract"
  let constructs ← acceptWord "new"
  let f ← r.signature at' "=>" false false false
  return .function constructs isAbstract { f with isArrow := true }

/-- The name behind a point. -/
def nameBehindPoint : Read String := do
  let c ← get
  if c.isFirst && c.token.isNameOrKeyword && c.nextOnLineIs Token.isNameOrKeyword then
    fault
    return ""
  else match c.token with
    | .hidden w =>
      advance
      return w
    | _ => anyName

/-- Names with points between them. -/
def path : Read (List String) := do
  let first ← anyName
  let others ← many do
    if (← atMark ".") && !(← nextIs (·.isMark "<")) then
      advance
      return some (← nameBehindPoint)
    else return none
  discard (accept ".")
  return first :: others

/-- Type arguments in their brackets, if there are any on the line. -/
def typeArguments? : Read (List TypeExpr) := do
  if ← isFirst then return []
  if (← token).isMark "<<" then modify Cursor.asFirstMark
  if ← atMark "<" then bracketed .typeArguments "<" ">" r.type else return []

/-- A type or value of another file behind its keyword. -/
def imported (isValue : Bool) : Read TypeExpr := do
  discard (expect "(")
  let file ← do
    match ← r.type with
    | .text content =>
      noteFile content
      pure content
    | _ => pure ""
  if ← accept "," then
    if ← accept "\x7b" then leaveGroup 1
    discard (accept ",")
  discard (expect ")")
  let names ← do
    if ← accept "." then path else pure []
  return .imported file isValue names (← r.typeArguments?)

/-- The holes of a template type, the first of which begins at the cursor. -/
def typeHoles : Read (List TemplateHole) := loop longest
where
  loop : Nat → Read (List TemplateHole)
    | 0 => return []
    | n + 1 => do
      let type ← r.type
      if ← atMark "\x7d" then modify Cursor.asTemplate
      match ← token with
      | .template content isLast =>
        advance
        if isLast then return [⟨type, content⟩] else return ⟨type, content⟩ :: (← loop n)
      | _ =>
        fault
        return [⟨type, ""⟩]

/-- An element of a tuple type without its label. -/
def tupleElement : Read TupleItem := do
  if ← accept "..." then return ⟨none, true, false, ← r.type⟩
  else match ← r.type with
    | .nullable type => return ⟨none, false, true, type⟩
    | type => return ⟨none, false, false, type⟩

/-- An element of a tuple type. -/
def tupleItem : Read TupleItem := do
  let c ← get
  let name := if c.token.isMark "..." then c.next else c
  let behind := name.next
  let isLabeled := name.token.isNameOrKeyword
    && (behind.token.isMark ":" || (behind.token.isMark "?" && behind.nextIs (·.isMark ":")))
  if isLabeled then
    let isRest ← accept "..."
    let label ← anyName
    let isOptional ← accept "?"
    discard (expect ":")
    let e ← r.tupleElement
    return ⟨some label, isRest, isOptional, e.type⟩
  else r.tupleElement

/-- A mapped type begins at the cursor, at its brace. -/
def startsMapped : Read Bool := do
  let c := (← get).next
  if c.token.isAnyMark ["+", "-"] then return c.nextIs (·.isWord "readonly")
  else
    let c := if c.token.isWord "readonly" then c.next else c
    let d := c.next
    return c.token.isMark "[" && d.isName && d.nextIs (·.isWord "in")

/-- A word or mark that may be added or taken away: itself, behind a plus or a minus,
    or nothing. -/
def markOf (isThere : Read Bool) (shown : String) : Read String := do
  if ← isThere then return shown
  else if ← accept "-" then
    discard isThere
    return "-" ++ shown
  else if ← accept "+" then
    discard isThere
    return "+" ++ shown
  else return ""

/-- A mapped type behind its brace. -/
def mapped (at' : Nat) : Read TypeExpr := do
  let readonlyMark ← markOf (acceptWord "readonly") "readonly"
  discard (expect "[")
  let parameter ← anyName
  expectWord "in"
  let domain ← r.type
  let renamed ← do
    if ← acceptWord "as" then pure (some (← r.type)) else pure none
  discard (expect "]")
  let optionalMark ← markOf (accept "?") "?"
  let result ← r.typeBehind? ":"
  endStatement
  discard (items .typeMembers r.typeMember)
  discard (expect "\x7d")
  return .mapped at' parameter domain renamed readonlyMark optionalMark result

/-- A type as a remark calls it, where types of the language have other names, too. -/
def calledType (at' : Nat) (names : List String) (arguments : List TypeExpr) : TypeExpr :=
  match names, arguments with
  | ["String"], [] => .keyword "string"
  | ["Number"], [] => .keyword "number"
  | ["BigInt"], [] => .keyword "bigint"
  | ["Boolean"], [] => .keyword "boolean"
  | ["Void"], [] => .keyword "void"
  | ["Undefined"], [] => .keyword "undefined"
  | ["Null"], [] => .keyword "null"
  | ["function"], [] => .named ["Function"] []
  | ["Array"], [] | ["array"], [] => .array (.keyword "any")
  | ["promise"], [] => .named ["Promise"] [.keyword "any"]
  | ["Object"], [key, value] =>
    match key with
    | .keyword "string" | .keyword "number" =>
      .object at' [.indexer [] "x" key (some value)]
    | _ => .keyword "any"
  | _, _ => .named names arguments

/-- A declared type by its path. -/
def reference' : Read TypeExpr := do
  let c ← get
  let names ← path
  let arguments ← r.typeArguments?
  if names.getLast? = some "" then return .missing
  else if c.isScript then return calledType c.index names arguments
  else return .named names arguments

/-- A parameter of which only the type is written, perhaps behind a word for what it is. -/
def bareParameter : Read Parameter := do
  let c ← get
  let isSpecial := c.token.isAnyWord ["this", "new"] && c.nextIs (·.isMark ":")
  if isSpecial then
    advance
    advance
  let isRest ← accept "..."
  let type ← r.type
  let isOptional ← accept "="
  let type := if isRest then .array type else type
  let own := if isSpecial then c.token.word?.getD "" else ""
  return ⟨c.index, [], .name c.index own, isRest, isOptional, some type, none⟩

/-- A function type whose parameters have no names, behind its word. -/
def bareFunction : Read TypeExpr := do
  let at' ← spot
  let given ← bracketed .parameters "(" ")" r.bareParameter
  let result ← r.resultBehind? ":" false
  let named := given.zipIdx.map fun (p, i) => match p.pattern with
    | .name s "" => { p with pattern := .name s ("arg" ++ toString i) }
    | _ => p
  let (constructs, parameters, result) := match named with
    | p :: ps => if p.pattern.name? = some "new" then (true, ps, p.type) else (false, named, result)
    | [] => (false, named, result)
  return .function constructs false
    { spot := at', name := none, typeParameters := [], parameters, result, isAsync := false
      isGenerator := false, isArrow := true, body := .none }

/-- A type without words before and brackets behind it. -/
def primaryType : Read TypeExpr := do
  let c ← get
  match c.token with
  | .text content _ => advance; return .text content
  | .template content isLast =>
    advance
    if isLast then return .text content else return .template content (← r.typeHoles)
  | .number text => advance; return .number text
  | .bigNumber digits => advance; return .bigNumber false digits
  | .mark "-" =>
    match c.next.token with
    | .number text => advance; advance; return .number ("-" ++ text)
    | .bigNumber digits => advance; advance; return .bigNumber true digits
    | _ => r.reference'
  | .mark "*" => advance; return .keyword "any"
  | .mark "?" | .mark "??" =>
    modify Cursor.asFirstMark
    advance
    if (← token).isAnyMark [",", "\x7d", ")", ">", "=", "|"] then return .keyword "any"
    else return .union [← r.type, .keyword "null"]
  | .mark "(" =>
    advance
    let inside ← r.type
    discard (expect ")")
    return inside
  | .mark "[" => return .tuple c.index (← bracketed .tupleItems "[" "]" r.tupleItem)
  | .mark "\x7b" =>
    if ← startsMapped then
      advance
      r.mapped c.index
    else return .object c.index (← r.typeMembers)
  | .word "this" =>
    advance
    if (← atWord "is") && !(← isFirst) then
      advance
      return .predicate false "this" (some (← r.type))
    else return .self
  | .word "true" => advance; return .truth true
  | .word "false" => advance; return .truth false
  | .word "typeof" =>
    advance
    if ← acceptWord "import" then r.imported true
    else
      let names ← path
      return .query names (← r.typeArguments?)
  | .word "import" => advance; r.imported false
  | .word "function" =>
    if c.nextIs (·.isMark "(") then
      advance
      r.bareFunction
    else r.reference'
  | .word "asserts" =>
    let d := c.next
    if !d.isFirst && (d.isName || d.token.isWord "this") then
      advance
      let subject ← anyName
      if ← acceptWord "is" then return .predicate true subject (some (← r.type))
      else return .predicate true subject none
    else r.reference'
  | .word w =>
    if typeWords.contains w && (w = "void" || w = "null" || !(← nextIs (·.isMark "."))) then
      advance
      return .keyword w
    else r.reference'
  | _ => r.reference'

/-- The brackets and marks behind a type. -/
def brackets (head : TypeExpr) : Read TypeExpr := loop longest head
where
  loop : Nat → TypeExpr → Read TypeExpr
    | 0, head => return head
    | n + 1, head => do
      let c ← get
      if c.isFirst then return head
      else if c.token.isMark "[" then
        advance
        if (← get).startsType then
          let key ← r.type
          discard (expect "]")
          loop n (.index head key)
        else
          discard (expect "]")
          loop n (.array head)
      else if c.token.isMark "!" then
        advance
        loop n head
      else if c.token.isMark "?" && !c.next.startsType then
        advance
        loop n (.nullable head)
      else return head

/-- A type with what stands behind it, where conditions are not left out. -/
def postfixType : Read TypeExpr := within ({ · with excludesConditions := false }) do
  discard <| many do
    if ← accept "!" then return some () else return none
  r.brackets (← r.primaryType)

/-- A type that is inferred, behind its word. -/
def inferred : Read TypeExpr := do
  let at' ← spot
  let parameter ← name
  let bound ← attempt do
    if ← acceptWord "extends" then
      let bound ← within ({ · with excludesConditions := true }) r.type
      let c ← get
      return if c.around.excludesConditions || !c.token.isMark "?" then some bound else none
    else return none
  return .infer at' parameter bound

/-- A type behind words that act on it. -/
def operatorType : Read TypeExpr := loop longest
where
  loop : Nat → Read TypeExpr
    | 0 => return default
    | n + 1 => do
      match ← token with
      | .word w =>
        if w = "keyof" || w = "unique" || w = "readonly" then
          advance
          return .operator w (← loop n)
        else if w = "infer" then
          advance
          r.inferred
        else r.postfixType
      | _ => r.postfixType

/-- Types with a mark between them, and perhaps before the first.  A function needs no
    parentheses there. -/
def joined (mark : String) (join : List TypeExpr → TypeExpr) (item : Read TypeExpr) :
    Read TypeExpr := do
  let operand : Read TypeExpr := do if ← r.startsFunction then r.function else item
  let first ← if ← accept mark then operand else item
  let others ← many do
    if ← accept mark then return some (← operand) else return none
  return joinTypes join first others

/-- Alternatives of types that hold together. -/
def union : Read TypeExpr := r.joined "|" .union (r.joined "&" .intersection r.operatorType)

/-- A type. -/
def anyType : Read TypeExpr := within ({ · with yields := false, awaits := false }) do
  if ← r.startsFunction then r.function
  else
    let at' ← spot
    let check ← r.union
    let c ← get
    if !c.around.excludesConditions && c.token.isWord "extends" && !c.isFirst then
      advance
      let bound ← within ({ · with excludesConditions := true }) r.type
      discard (expect "?")
      let yes ← within ({ · with excludesConditions := false }) r.type
      discard (expect ":")
      let no ← within ({ · with excludesConditions := false }) r.type
      return .conditional at' check bound yes no
    else return check

end Readers

end TypeLineage.Source
