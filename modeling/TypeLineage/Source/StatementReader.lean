import TypeLineage.Source.ValueReader

/-! # Reading statements

    A file is read into its statements.  Nothing is refused: where no statement
    can be read, a token is passed over.  What functions do is passed over too,
    and read when it is asked for. -/

namespace TypeLineage.Source

open Read

/-- The binding that a keyword announces. -/
def Binding.ofKeyword (keyword : String) : Binding :=
  if keyword = "let" then .block else if keyword = "var" then .function else .constant

namespace Readers

variable (r : Readers)

/-! ## Names of other files -/

/-- A name taken from a file or given to others, perhaps under another name. -/
def renamed : Read Renaming := do
  let words ← many do
    match ← token with
    | .word w => advance; return some w
    | .text content _ => advance; return some content
    | _ => return none
  match words with
  | [a] | ["type", a] => return ⟨a, a⟩
  | ["type", "as", "as", b] => return ⟨"as", b⟩
  | [a, "as", b] | ["type", a, "as", b] => return ⟨a, b⟩
  | a :: _ => return ⟨a, a⟩
  | [] => return ⟨"", ""⟩

/-- The names of a list in braces, each with what it is renamed to. -/
def renamings : Read (List Renaming) := do
  let names ← bracketed .specifiers "\x7b" "\x7d" renamed
  return names.filter (·.source ≠ "")

/-- The name of a file. -/
def fileName : Read (Option String) := do
  match ← token with
  | .text file _ =>
    advance
    return some file
  | _ =>
    discard r.sequence
    return none

/-- What is said about a file is passed over, to the end of the statement. -/
def endAttributes : Read Unit := do
  if (← atWord "with") || ((← atWord "assert") && !(← isFirst)) then
    advance
    if ← expect "\x7b" then leaveGroup 1
  endStatement

/-- An import behind its keyword. -/
def importRest (visibility : Visibility) : Read Statement := do
  let own ← if ← atName then some <$> name else pure none
  let c ← get
  let isTypes := own = some "type"
    && (!c.token.isWord "from" || (c.isName && c.nextIs fun t => t.isWord "from" || t.isMark "="))
    && (c.isName || c.token.isAnyMark ["*", "\x7b"])
  let isLate := own = some "defer" && if c.token.isWord "from" then !c.nextIs Token.isText
    else !c.token.isAnyMark [",", "="]
  let own ← if isTypes || isLate then
      if c.isName then some <$> name else pure none
    else pure own
  let c ← get
  if own.isSome && !c.token.isMark "," && !c.token.isWord "from" && !isLate then
    discard (expect "=")
    if (← atWord "require") && (← nextIs (·.isMark "(")) then
      advance
      advance
      let file ← r.fileName
      discard (expect ")")
      endStatement
      return .importFile visibility (own.getD "") (file.getD "")
    else
      let names ← path
      endStatement
      return .importPath visibility (own.getD "") names
  else
    let hasClause := own.isSome || c.token.isAnyMark ["*", "\x7b"]
    let (whole, names) ← do
      if hasClause && (own.isNone || (← accept ",")) then
        if ← accept "*" then
          expectWord "as"
          pure (some (← name), [])
        else pure (none, ← renamings)
      else pure (none, [])
    if hasClause then expectWord "from"
    let file ← r.fileName
    endAttributes
    return .importNames (file.getD "") own whole names

/-! ## Declarations -/

/-- The variables of a declaration. -/
def declaredVariables (inLoop : Bool) : Read (List Variable) := do
  if (← atWord "of") && (← nextIs fun t => t.name?.isSome)
      && (← ahead do advance; nextIs (·.isMark ")")) then
    return []
  else within ({ · with excludesIn := inLoop }) <| separated .variables do
    let pattern ← r.pattern
    if !inLoop && pattern.name?.isSome && !(← isFirst) then skip "!"
    let type ← r.typeBehind? ":"
    let initial ← do
      if ← accept "=" then
        pure (some ((← r.value false).handedTo pattern.name?))
      else pure none
    return ⟨pattern, type, initial⟩

/-- A member of an enumeration. -/
def enumMember : Read EnumMember := do
  let name ← r.memberName
  let initial ← do
    if ← accept "=" then pure (some (← within (·.inBrackets) (r.value false))) else pure none
  return ⟨name, initial⟩

/-- The statements of a namespace in braces. -/
def spaceBody (isAmbient : Bool) : Read (List Statement) := do
  if ← expect "\x7b" then
    let ss ← r.statements isAmbient
    discard (expect "\x7d")
    return ss
  else return []

/-- A namespace that has the name of a file or is shared by all; it may lack a body. -/
def ambientSpace (visibility : Visibility) (name : SpaceName) : Read Statement := do
  if ← atMark "\x7b" then return .space visibility true name (← r.spaceBody true)
  else
    endStatement
    return .space visibility true name []

/-- A namespace behind its keyword. -/
def pathSpace (visibility : Visibility) (isAmbient : Bool) : Read Statement := do
  let first ← name
  let others ← many do
    if ← accept "." then return some (← anyName) else return none
  return .space visibility isAmbient (.path first others) (← r.spaceBody isAmbient)

/-- What is made known behind the keyword, and is no declaration. -/
def exportRest : Read Statement := do
  let c ← get
  if c.token.isWord "default" || c.token.isMark "=" then
    advance
    let value ← r.value false
    endStatement
    return .exportValue (c.token.isMark "=") value
  else if c.token.isWord "as" then
    advance
    expectWord "namespace"
    let name ← name
    endStatement
    return .exportSpace name
  else
    discard (acceptWord "type")
    if ← accept "*" then
      let name ← do
        if ← acceptWord "as" then
          match ← token with
          | .text content _ => do advance; pure (some content)
          | _ => some <$> anyName
        else pure none
      expectWord "from"
      let file ← r.fileName
      endAttributes
      return .exportAll (file.getD "") name
    else
      let names ← renamings
      let c ← get
      if c.token.isWord "from" || (c.token.isText && !c.isFirst) then
        expectWord "from"
        let file ← r.fileName
        endAttributes
        return .exportNames file names
      else
        endAttributes
        return .exportNames none names

/-- A declaration behind its modifiers. -/
def declarationRest (at' : Nat) (modifiers : List String) (isAmbient : Bool) : Read Statement := do
  let c ← get
  let visibility : Visibility := if !modifiers.contains "export" then .inner
    else if modifiers.contains "default" then .isDefault else .exported
  let isAmbient := isAmbient || modifiers.contains "declare"
  let declared (d : Declaration) : Statement := .declaration visibility isAmbient d
  match c.token with
  | .word w =>
    if w = "class" then
      advance
      return declared (.type (← r.classRest at' .classStatement (modifiers.contains "abstract")))
    else if w = "function" then
      advance
      return declared (.function (← r.functionRest at' (modifiers.contains "async") true))
    else if w = "interface" then
      advance
      let own ← name
      let typeParameters ← r.typeParameters
      let heritage ← r.heritage
      let members ← r.typeMembers
      return declared (.type
        { spot := at', form := .interface, isAbstract := false, name := some own
          typeParameters, heritage, members })
    else if w = "type" then
      advance
      let own ← name
      let typeParameters ← r.typeParameters
      discard (expect "=")
      let body ← if (← atWord "intrinsic") && !(← nextIs (·.isMark ".")) then
          advance
          pure (TypeExpr.keyword "intrinsic")
        else r.type
      endStatement
      return declared (.synonym at' own typeParameters body)
    else if w = "enum" then
      advance
      let own ← name
      let around (s : Surroundings) : Surroundings := { s with yields := false, awaits := false }
      let members ← within around (bracketed .enumMembers "\x7b" "\x7d" r.enumMember)
      return declared (.enumeration at' own members)
    else if ["var", "let", "const", "using", "await"].contains w then
      advance
      if w = "await" then advance
      let vs ← r.declaredVariables false
      endStatement
      return declared (.variables (.ofKeyword w) vs)
    else if w = "global" then
      advance
      r.ambientSpace visibility .shared
    else if w = "namespace" then
      advance
      r.pathSpace visibility isAmbient
    else if w = "module" then
      advance
      match ← token with
      | .text file _ =>
        advance
        r.ambientSpace visibility (.file file)
      | _ => r.pathSpace visibility isAmbient
    else if w = "import" then
      advance
      r.importRest visibility
    else if w = "export" then
      advance
      r.exportRest
    else
      fault
      return .empty
  | _ =>
    fault
    return .empty

/-- A declaration. -/
def declaration (isAmbient : Bool) : Read Statement := do
  let at' ← spot
  r.declarationRest at' (← r.modifiers true false false) isAmbient

/-! ## Statements that declare nothing -/

/-- A value in parentheses. -/
def condition : Read Expr := do
  discard (expect "(")
  let value ← r.inner
  discard (expect ")")
  return value

/-- A name behind a word, on the same line. -/
def label? : Read (Option String) := do
  let own ← if (← get).endsStatement then pure none else some <$> name
  endStatement
  return own

/-- A loop behind its keyword. -/
def loopRest (at' : Nat) : Read Statement := do
  let isAsync ← acceptWord "await"
  discard (expect "(")
  let c ← get
  let start : LoopStart ← do
    if c.token.isMark ";" then pure .none
    else if c.token.isAnyWord ["var", "let", "const"] then
      advance
      pure (.variables (.ofKeyword (c.token.word?.getD "")) (← r.declaredVariables true))
    else if c.startsUsing && !c.nextIs (·.isWord "of") then
      advance
      pure (.variables .constant (← r.declaredVariables true))
    else if c.startsAwaitUsing then
      advance
      advance
      pure (.variables .constant (← r.declaredVariables true))
    else pure (.value (← within ({ · with excludesIn := true }) r.sequence))
  if isAsync || (← atWord "of") then
    expectWord "of"
    let subject ← within (·.inBrackets) (r.value false)
    discard (expect ")")
    return .forEach at' false isAsync start subject (← r.statement false)
  else if ← acceptWord "in" then
    let subject ← r.inner
    discard (expect ")")
    return .forEach at' true isAsync start subject (← r.statement false)
  else
    discard (expect ";")
    let test ← if (← atMark ";") || (← atMark ")") then pure none else some <$> r.inner
    discard (expect ";")
    let step ← if ← atMark ")" then pure none else some <$> r.inner
    discard (expect ")")
    return .forLoop at' start test step (← r.statement false)

/-- A case of a switch. -/
def switchCase : Read SwitchCase := do
  let value ← do
    if ← acceptWord "default" then pure none
    else
      expectWord "case"
      some <$> r.inner
  discard (expect ":")
  return ⟨value, ← items .caseBody (r.statement false)⟩

/-- What is done when something fails, behind its word. -/
def handler : Read Handler := do
  if ← accept "(" then
    let p ← r.pattern
    let type ← r.typeBehind? ":"
    discard r.initial?
    discard (expect ")")
    return ⟨some p, type, ← r.block false⟩
  else return ⟨none, none, ← r.block false⟩

/-- A statement that is a value, or one with a label. -/
def valueStatement : Read Statement := do
  match ← r.inner with
  | .name label =>
    if ← accept ":" then return .labeled label (← r.statement false)
    else
      endStatement
      return .value (.name label)
  | value =>
    endStatement
    return .value value

/-- A statement that declares nothing. -/
def plainStatement : Read Statement := do
  let c ← get
  match c.token with
  | .mark "\x7b" => return .block (← r.block false)
  | .mark ";" => advance; return .empty
  | .word keyword =>
    match keyword with
    | "return" =>
      advance
      if (← get).endsStatement then
        endStatement
        return .result none
      else
        let value ← r.inner
        endStatement
        return .result (some value)
    | "throw" =>
      advance
      let value ← if ← isFirst then pure .other else r.inner
      endStatement
      return .fail value
    | "if" =>
      advance
      let test ← r.condition
      let yes ← r.statement false
      if ← acceptWord "else" then return .conditional test yes (some (← r.statement false))
      else return .conditional test yes none
    | "for" =>
      advance
      r.loopRest c.index
    | "while" =>
      advance
      let test ← r.condition
      return .whileLoop c.index test (← r.statement false)
    | "with" =>
      advance
      discard r.condition
      r.statement false
    | "do" =>
      advance
      let body ← r.statement false
      expectWord "while"
      let test ← r.condition
      skip ";"
      return .doLoop c.index body test
    | "switch" =>
      advance
      let subject ← r.condition
      if ← expect "\x7b" then
        let cases ← items .cases r.switchCase
        discard (expect "\x7d")
        return .switch c.index subject cases
      else return .switch c.index subject []
    | "try" | "catch" | "finally" =>
      expectWord "try"
      let body ← r.block false
      let handler ← do
        if ← acceptWord "catch" then some <$> r.handler else pure none
      let last ← do
        if handler.isNone || (← atWord "finally") then
          let isThere ← atWord "finally"
          expectWord "finally"
          let isBlock ← atMark "\x7b"
          let body ← r.block false
          pure (if isThere || isBlock then some body else none)
        else pure none
      return .attempt body handler last
    | "break" =>
      advance
      return .leave (← label?)
    | "continue" =>
      advance
      return .again (← label?)
    | "debugger" =>
      advance
      endStatement
      return .empty
    | _ => r.valueStatement
  | _ => r.valueStatement

/-- A statement without what remarks note about it. -/
def bareStatement (isAmbient : Bool) : Read Statement := do
  let c ← get
  let declares := match c.token with
    | .mark m => m == "@"
    | .word w =>
      if ["var", "function", "class"].contains w then true
      else if w = "let" then
        let d := c.next
        d.isBinding || d.token.isAnyMark ["[", "\x7b"]
      else if w = "using" then c.startsUsing
      else if w = "await" then c.startsAwaitUsing
      else ["async", "interface", "type", "module", "namespace", "declare", "const", "enum",
        "export", "import", "private", "protected", "public", "abstract", "accessor", "static",
        "readonly", "global"].contains w && c.startsDeclaration
    | _ => false
  if declares then r.declaration isAmbient else r.plainStatement

/-- A statement, in a script with what a remark notes about it. -/
def anyStatement (isAmbient : Bool) : Read Statement := do
  let c ← get
  if c.isScript then
    let n ← r.notesAt c
    return (← r.bareStatement isAmbient).noted n
  else r.bareStatement isAmbient

/-- What the remarks before a cursor take in from other files. -/
def importedTypes (c : Cursor) : Read (List Statement) := do
  let found ← (remarksBefore c).mapM fun m =>
    (m.tags.filter (·.word = "import")).mapM fun t => do
      let cs := match t.type with
        | some inside => '\x7b' :: inside
        | none => t.text
      inRemark m cs (r.importRest .inner)
  return found.flatten

/-- A name for the kinds that a remark tells of a listed object. -/
def kindsNamed (c : Cursor) (s : Statement) : Read (List Statement) := do
  match (← r.notesAt c).kinds, s with
  | some t, .declaration visibility _ (.variables _ (v :: _)) =>
    match v.pattern with
    | .name at' own => return [.declaration visibility false (.synonym at' own [] t)]
    | _ => return []
  | _, _ => return []

/-- The statements of a script, with where each begins and with what remarks declare. -/
def scriptStatements : Read (List (Passage × Statement)) := do
  let ss ← items .source do
    let here ← get
    let declared ← r.declaredTypes here
    let taken ← r.importedTypes here
    let s ← r.anyStatement false
    let kinds ← r.kindsNamed here s
    return (taken ++ declared ++ kinds ++ [s]).map fun s => (here, s)
  let last ← get
  let declared ← r.declaredTypes last
  let taken ← r.importedTypes last
  return ss.flatten ++ (taken ++ declared).map fun s => (last, s)

end Readers

/-! ## Files and passages -/

/-- Readers that read what is nested up to a depth. -/
def readers : (depth : Nat) → Readers
  | 0 => .nothing
  | depth + 1 =>
    let r := readers depth
    { type := r.anyType
      value := r.assignment
      reference := r.referenced
      statement := r.anyStatement }

/-- Nothing is nested more deeply than this. -/
def deepest : Nat := 4096

/-- The readers of all that is written. -/
def allReaders : Readers := readers deepest

/-- The statements of a text, which may hold markup, the names of files in its values and
    types, and whether there is markup.  The statements of a file of declarations are
    ambient. -/
def readSource (isAmbient hasMarkup : Bool) (cs : List Char) :
    List Statement × List String × Bool :=
  let all := Read.items .source (allReaders.statement isAmbient)
  let (ss, last) := all.run (.start hasMarkup false cs)
  (ss, last.files.reverse, last.usesMarkup)

/-- The statements of a script with where each begins, the names of files in its values and
    types, and whether there is markup. -/
def readScript (cs : List Char) : List (Passage × Statement) × List String × Bool :=
  let (ss, last) := allReaders.scriptStatements.run (.start true true cs)
  (ss, last.files.reverse, last.usesMarkup)

/-- The value that begins at a passage. -/
def Cursor.value (p : Passage) : Expr := ((allReaders.value false).run p).1

/-- The statements that begin at a passage, up to the brace that closes them. -/
def Cursor.block (p : Passage) : List Statement := ((allReaders.statements false).run p).1

end TypeLineage.Source
