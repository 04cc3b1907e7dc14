import TypeLineage.Source.Beginning
import TypeLineage.Source.StatementSyntax

/-! # Readers

    A reader goes on from a cursor and gives what it read.  Readers never fail:
    where something is missing they go on without it.  What can be read in two
    ways is attempted in one of them first.  Types, values and statements hold
    one another, so their readers are given to one another in a record, one for
    each depth of nesting. -/

namespace TypeLineage.Source

/-- Something that is read from a cursor on. -/
abbrev Read := StateM Cursor

namespace Read

/-- The token at the cursor. -/
def token : Read Token := return (← get).token

/-- The number of the token at the cursor. -/
def spot : Read Nat := return (← get).index

/-- The token at the cursor stands first on its line. -/
def isFirst : Read Bool := return (← get).isFirst

/-- Goes to the next token. -/
def advance : Read Unit := modify Cursor.next

/-- The cursor stands at a mark. -/
def atMark (mark : String) : Read Bool := return (← token).isMark mark

/-- The cursor stands at a keyword. -/
def atWord (word : String) : Read Bool := return (← token).isWord word

/-- The cursor stands at one of the keywords. -/
def atAnyWord (words : List String) : Read Bool := return (← token).isAnyWord words

/-- The cursor stands at a name. -/
def atName : Read Bool := return (← get).isName

/-- The text is at its end. -/
def atFinish : Read Bool := return (← token) == .finish

/-- Something is missing or too much. -/
def fault : Read Unit := modify fun c => { c with faults := c.faults + 1 }

/-- Goes past a mark, if it is there. -/
def accept (mark : String) : Read Bool := do
  if ← atMark mark then advance; return true
  else return false

/-- Goes past a keyword, if it is there. -/
def acceptWord (word : String) : Read Bool := do
  if ← atWord word then advance; return true
  else return false

/-- Goes past a mark; nothing happens if it is missing. -/
def skip (mark : String) : Read Unit := discard (accept mark)

/-- What a reader gives, without going on. -/
def ahead (p : Read α) : Read α := do
  let c ← get
  let x ← p
  set c
  return x

/-- What a reader gives, without going on if that is nothing. -/
def attempt (p : Read (Option α)) : Read (Option α) := do
  let c ← get
  let x? ← p
  if x?.isNone then set c
  return x?

/-- The next token has a property. -/
def nextIs (p : Token → Bool) : Read Bool := return p (← get).next.token

/-- The next token has a property and stands on the same line. -/
def nextOnLineIs (p : Token → Bool) : Read Bool := return (← get).nextOnLineIs p

/-- The name at the cursor, which is gone past; a missing one is empty. -/
def named (isThere : Bool) : Read String := do
  match ← token with
  | .word w =>
    if isThere then
      advance
      return w
    else
      fault
      return ""
  | .hidden w =>
    fault
    advance
    return w
  | _ =>
    fault
    return ""

/-- A name. -/
def name : Read String := do named (← get).isName

/-- A name that is given to something. -/
def binding : Read String := do named (← get).isBinding

/-- A name that may also be a keyword. -/
def anyName : Read String := named true

/-- Keeps the name of a file. -/
def noteFile (name : String) : Read Unit := modify fun c => { c with files := name :: c.files }

/-- What a step gives as long as it gives something and goes on. -/
def many (step : Read (Option α)) : Read (List α) := loop longest
where
  loop : Nat → Read (List α)
    | 0 => return []
    | n + 1 => do
      let before ← spot
      match ← step with
      | none => return []
      | some x => if (← spot) ≤ before then return [x] else return x :: (← loop n)

/-- Goes past a mark; it is a fault if it is missing. -/
def expect (mark : String) : Read Bool := do
  if ← accept mark then return true
  else
    fault
    return false

/-- Goes past a keyword; it is a fault if it is missing. -/
def expectWord (word : String) : Read Unit := do unless ← acceptWord word do fault

/-- Goes past the rest of a group, `depth` groups deep. -/
def leaveGroup (depth : Nat) : Read Unit := loop longest depth
where
  loop : Nat → Nat → Read Unit
    | 0, _ => return
    | n + 1, depth => do
      match ← token with
      | .finish => return
      | .mark m =>
        advance
        if m = "(" || m = "[" || m = "\x7b" then loop n (depth + 1)
        else if m = ")" || m = "]" || m = "\x7d" then
          if depth ≤ 1 then return else loop n (depth - 1)
        else loop n depth
      | _ =>
        advance
        loop n depth

/-- Reads with something else around, for as long as it takes. -/
def within (change : Surroundings → Surroundings) (p : Read α) : Read α := do
  let around := (← get).around
  modify fun c => { c with around := change around }
  let x ← p
  modify fun c => { c with around }
  return x

/-- Items one after another, as far as they go. -/
def items (kind : ListKind) (item : Read α) : Read (List α) := within (·.inList kind) (loop longest)
where
  loop : Nat → Read (List α)
    | 0 => return []
    | n + 1 => do
      let c ← get
      if c.endsList kind then return []
      else if c.startsItem false kind then
        let x ← item
        if (← spot) ≤ c.index then advance
        return x :: (← loop n)
      else
        fault
        if c.isExpected then return []
        else
          advance
          loop n

/-- Items with commas between them, as far as they go, unless one of them is not there.
    The flag tells of a comma behind the last. -/
def separated? (kind : ListKind) (allowsSemicolon : Bool) (item : Read (Option α)) :
    Read (Option (List α × Bool)) :=
  within (·.inList kind) (loop longest false)
where
  loop : Nat → Bool → Read (Option (List α × Bool))
    | 0, trails => return some ([], trails)
    | n + 1, trails => do
      let c ← get
      if c.startsItem false kind then
        match ← item with
        | none => return none
        | some x =>
          let others ← do
            if ← accept "," then loop n true
            else if (← get).endsList kind then pure (some ([], false))
            else
              fault
              if allowsSemicolon && (← atMark ";") && !(← isFirst) then advance
              if (← spot) ≤ c.index then advance
              loop n false
          return others.map fun (xs, last) => (x :: xs, last)
      else if c.endsList kind then return some ([], trails)
      else
        fault
        if c.isExpected then return some ([], trails)
        else
          advance
          loop n trails

/-- Items with commas between them, as far as they go.  The flag tells of a comma behind
    the last. -/
def trailed (kind : ListKind) (item : Read α) : Read (List α × Bool) := do
  return (← separated? kind false (some <$> item)).getD ([], false)

/-- Items with commas between them, as far as they go. -/
def separated (kind : ListKind) (item : Read α) : Read (List α) := do
  return (← trailed kind item).1

/-- Items with commas between them, in brackets. -/
def bracketed (kind : ListKind) (open' close : String) (item : Read α) : Read (List α) := do
  if ← expect open' then
    let xs ← separated kind item
    discard (expect close)
    return xs
  else return []

/-- The end of a statement. -/
def endStatement : Read Unit := do
  if ← atMark ";" then advance
  else unless (← get).endsStatement do fault

end Read

/-- The readers that hold one another. -/
structure Readers where
  type : Read TypeExpr
  /-- A value up to a comma.  One that stands between a question mark and its colon is read
      up to that colon. -/
  value : (inBranch : Bool) → Read Expr
  /-- A value without operations around it. -/
  reference : Read Expr
  statement : (isAmbient : Bool) → Read Statement

namespace Readers

/-- Values with commas between them, of which the last counts. -/
def sequence (r : Readers) : Read Expr := Read.within ({ · with excludesKeys := false }) do
  let first ← r.value false
  let others ← Read.many do
    if ← Read.accept "," then return some (← r.value false) else return none
  return others.foldl (.binary ",") first

/-- Values with commas between them, in brackets. -/
def inner (r : Readers) : Read Expr := Read.within (·.inBrackets) r.sequence

/-- A value that is not kept, by where it begins. -/
def passage (r : Readers) : Read Passage := do
  let here ← get
  discard (r.value false)
  return here

/-- The statements of a block. -/
def statements (r : Readers) (isAmbient : Bool) : Read (List Statement) :=
  Read.items .block (r.statement isAmbient)

/-- A block in braces; without the first brace it has no statements. -/
def block (r : Readers) (isAmbient : Bool) : Read (List Statement) := do
  if ← Read.expect "\x7b" then
    let ss ← r.statements isAmbient
    discard (Read.expect "\x7d")
    if ← Read.accept "=" then Read.fault
    return ss
  else return []

/-- What a function does that stands in braces; it is not kept, but where it begins. -/
def body (r : Readers) (yields awaits allowsOpen : Bool) : Read Body :=
  Read.within (fun s => { s with yields, awaits, excludesKeys := false }) do
    if (← Read.expect "\x7b") || allowsOpen then
      let here ← get
      discard (r.statements false)
      discard (Read.expect "\x7d")
      if ← Read.accept "=" then Read.fault
      return .block here
    else return .none

/-- Decorators are passed over. -/
def skipDecorators (r : Readers) : Read Unit := discard <| Read.many do
  if ← Read.accept "@" then
    discard (Read.within ({ · with excludesKeys := true }) r.reference)
    return some ()
  else return none

/-- Readers that read nothing. -/
def nothing : Readers where
  type := return default
  value _ := return default
  reference := return default
  statement _ := return default

end Readers

end TypeLineage.Source
