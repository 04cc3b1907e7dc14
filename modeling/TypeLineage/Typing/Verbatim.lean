import TypeLineage.Typing.Told

/-! # Types told as they are written

    Where a type is written, it may be told as it is written there: names keep
    their arguments and unions their order.  Only the layout is that of all types
    that are told. -/

namespace TypeLineage.Typing

open Source Program

/-- Modifiers before what they belong to. -/
def modifiersText (words : List String) : String := String.join (words.map (· ++ " "))

/-- The marks before the name of a type parameter. -/
def parameterMarks (isConstant isInward isOutward : Bool) : String :=
  (if isConstant then "const " else "") ++ (if isInward then "in " else "")
    ++ (if isOutward then "out " else "")

/-- The name of a member as it is written. -/
def memberNameText : MemberName → String
  | .plain text => text
  | .quoted text _ => Text.Quoting.plain.quoted text
  | .number text => text
  | .hidden text => text
  | .computed passage =>
    let inner := match passage.value with
      | .text content => Text.Quoting.plain.quoted content
      | .number text => text
      | e => ".".intercalate ((pathOf? e).getD [])
    "[" ++ inner ++ "]"

/-- A mark behind what need not be there. -/
def optionalText (isOptional : Bool) : String := if isOptional then "?" else ""

mutual

/-- A type as it is written. -/
def writtenTold : TypeExpr → Told
  | .keyword word => .plain word
  | .self => .plain "this"
  | .named path arguments => .named (".".intercalate path) (writtenTolds arguments)
  | .text content => .plain (Text.Quoting.plain.quoted content)
  | .number text => .plain text
  | .bigNumber isNegative digits => .plain ((if isNegative then "-" else "") ++ digits ++ "n")
  | .truth value => .plain (if value then "true" else "false")
  | .array element => (writtenTold element).list
  | .nullable type => .plain ((writtenTold type).asElement ++ "?")
  | .tuple _ items => .plain ("[" ++ ", ".intercalate (writtenItems items) ++ "]")
  | .union types => .joined true (writtenTolds types)
  | .intersection types => .joined false (writtenTolds types)
  | .function constructs isAbstract f =>
    .ofForm .function ((if isAbstract then "abstract " else "") ++ (if constructs then "new " else "")
      ++ writtenFunction " => " f)
  | .object _ members => .object (writtenMembers members)
  | .operator word operand => .ofForm .operator (word ++ " " ++ (writtenTold operand).asMember)
  | .query path arguments =>
    .ofForm .query ("typeof " ++ (Told.named (".".intercalate path) (writtenTolds arguments)).text)
  | .index object key => .plain ((writtenTold object).asElement ++ "[" ++ (writtenTold key).text ++ "]")
  | .conditional _ check bound yes no =>
    .ofForm .conditional ((writtenTold check).asChecked ++ " extends " ++ (writtenTold bound).asBound
      ++ " ? " ++ (writtenTold yes).text ++ " : " ++ (writtenTold no).text)
  | .mapped _ parameter domain renamed readonlyMark optionalMark result =>
    let mark := if readonlyMark = "" then "" else readonlyMark ++ " "
    .object [mark ++ "[" ++ parameter ++ " in " ++ (writtenTold domain).text
      ++ writtenBehind " as " renamed ++ "]" ++ optionalMark ++ writtenBehind ": " result]
  | .infer _ parameter bound => .ofForm .infer ("infer " ++ parameter ++ writtenBehind " extends " bound)
  | .imported file isValue path arguments =>
    let names := ("import(" ++ Text.Quoting.plain.quoted file ++ ")") :: path
    let told := Told.named (".".intercalate names) (writtenTolds arguments)
    if isValue then .ofForm .query ("typeof " ++ told.text) else told
  | .template start holes =>
    .plain ("`" ++ Text.Quoting.template.escapeText start ++ writtenHoles holes ++ "`")
  | .predicate asserts subject claim =>
    .plain ((if asserts then "asserts " else "") ++ subject ++ writtenBehind " is " claim)

/-- Types as they are written. -/
def writtenTolds : List TypeExpr → List Told
  | [] => []
  | t :: rest => writtenTold t :: writtenTolds rest

/-- A type behind a mark, if it is there. -/
def writtenBehind (mark : String) : Option TypeExpr → String
  | none => ""
  | some t => mark ++ (writtenTold t).text

/-- The elements of a tuple as they are written. -/
def writtenItems : List TupleItem → List String
  | [] => []
  | ⟨name, isRest, isOptional, t⟩ :: rest =>
    let told := writtenTold t
    let own := match name with
      | some label => label ++ optionalText isOptional ++ ": " ++ told.text
      | none => if isOptional then told.asElement ++ "?" else told.text
    ((if isRest then "..." else "") ++ own) :: writtenItems rest

/-- The holes of a template as they are written, with the texts behind them. -/
def writtenHoles : List TemplateHole → String
  | [] => ""
  | ⟨t, behind⟩ :: rest =>
    "$\x7b" ++ (writtenTold t).text ++ "\x7d" ++ Text.Quoting.template.escapeText behind
      ++ writtenHoles rest

/-- The head of a function as it is written, with a mark before its result. -/
def writtenFunction (mark : String) : Function → String
  | ⟨_, _, typeParameters, parameters, result, _, _, _, _⟩ =>
    let generic := writtenTypeParameters typeParameters
    (if generic.isEmpty then "" else "<" ++ ", ".intercalate generic ++ ">")
      ++ "(" ++ ", ".intercalate (writtenParameters parameters) ++ ")"
      ++ (match result with
        | some t => mark ++ (writtenTold t).text
        | none => mark ++ "any")

/-- Type parameters as they are written. -/
def writtenTypeParameters : List TypeParameter → List String
  | [] => []
  | ⟨_, name, isConstant, isInward, isOutward, bound, default'⟩ :: rest =>
    (parameterMarks isConstant isInward isOutward ++ name ++ writtenBehind " extends " bound
      ++ writtenBehind " = " default') :: writtenTypeParameters rest

/-- Parameters as they are written. -/
def writtenParameters : List Parameter → List String
  | [] => []
  | ⟨_, modifiers, pattern, isRest, isOptional, type, _⟩ :: rest =>
    let own := match type with
      | some t => modifiersText modifiers ++ (if isRest then "..." else "") ++ patternText pattern
        ++ optionalText isOptional ++ ": " ++ (writtenTold t).text
      | none => (if isRest then "..." else "") ++ patternText pattern ++ optionalText isOptional
        ++ ": any"
    own :: writtenParameters rest

/-- The members of an object type as they are written. -/
def writtenMembers : List Member → List String
  | [] => []
  | m :: rest =>
    (match m with
      | .method modifiers name isOptional f =>
        modifiersText modifiers ++ memberNameText name ++ optionalText isOptional
          ++ writtenFunction ": " f
      | .field _ modifiers name isOptional type _ =>
        modifiersText modifiers ++ memberNameText name ++ optionalText isOptional
          ++ (match type with
            | some t => ": " ++ (writtenTold t).text
            | none => ": any")
      | .getter modifiers name f =>
        modifiersText modifiers ++ "get " ++ memberNameText name ++ writtenFunction ": " f
      | .setter modifiers name ⟨_, _, _, parameters, _, _, _, _, _⟩ =>
        modifiersText modifiers ++ "set " ++ memberNameText name
          ++ "(" ++ ", ".intercalate (writtenParameters parameters) ++ ")"
      | .construction _ f => writtenFunction ": " f
      | .call constructs f => (if constructs then "new " else "") ++ writtenFunction ": " f
      | .indexer modifiers parameter key type =>
        modifiersText modifiers ++ "[" ++ parameter ++ ": " ++ (writtenTold key).text ++ "]"
          ++ (match type with
            | some t => ": " ++ (writtenTold t).text
            | none => ": any")
      | .start _ => "") :: writtenMembers rest

end

end TypeLineage.Typing
