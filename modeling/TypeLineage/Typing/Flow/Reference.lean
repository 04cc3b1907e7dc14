import TypeLineage.Typing.Flow.Assigned
import TypeLineage.Typing.Facts

/-! # References

    A reference is a value that is reached by names alone, from a declared name
    or from the object itself.  Two values are the same reference if they begin
    with the same declaration and go the same path. -/

namespace TypeLineage.Typing

open Source Program

/-- What a name stands for as a value where it is written. -/
def valueEntities (scope : Scope) (name : String) : Check (List Entity) := do
  let w ← read
  return (w.lookup w.reach scope [.value] name).filter (·.means .value)

/-! ## References -/

/-- A reference with a further name. -/
def Reference.push (r : Reference) (name : String) : Reference := { r with path := r.path ++ [name] }

/-- The reference is part of another. -/
def Reference.contains (whole part : Reference) : Bool :=
  whole.root = part.root && part.path.length < whole.path.length
    && whole.path.take part.path.length = part.path

/-- A text for a reference. -/
def Reference.tag (r : Reference) : String :=
  let start := match r.root with
    | .name key text => toString key.file ++ ":" ++ toString key.spot ++ ":" ++ text
    | .self => "this"
    | .parent => "super"
    | .pattern key => toString key.file ++ ":" ++ toString key.spot
  String.intercalate "." (start :: r.path)

/-- A text for a question about a reference. -/
def Query.tag (q : Query) : String := q.reference.tag ++ "#" ++ toString q.declared

/-- What a reference begins with, as it is written. -/
inductive WrittenRoot where
  | name (text : String)
  | self
  | parent
  deriving DecidableEq

/-- What a value begins with if it is a reference. -/
def rootOf? : Expr → Option WrittenRoot
  | .name text => some (.name text)
  | .self => some .self
  | .parent => some .parent
  | .access object _ _ => rootOf? object
  | .index object _ _ => rootOf? object
  | .group e => rootOf? e
  | .assured e => rootOf? e
  | .satisfies e _ => rootOf? e
  | .assign _ target _ => rootOf? target
  | .binary operator _ b => if operator = "," then rootOf? b else none
  | _ => none

/-- The reference that a value is. -/
def referenceTo? (scope : Scope) : Expr → Check (Option Reference)
  | .name text => do
    match ← valueEntities scope text with
    | e :: _ => return some ⟨.name e.key text, []⟩
    | [] => return none
  | .self => return some ⟨.self, []⟩
  | .parent => return some ⟨.parent, []⟩
  | .access object member _ => return (← referenceTo? scope object).map (·.push member)
  | .index object (.text content) _ => return (← referenceTo? scope object).map (·.push content)
  | .index object (.number text) _ => return (← referenceTo? scope object).map (·.push text)
  | .index object (.name key) _ => do
    let es ← valueEntities scope key
    match es with
    | e :: _ =>
      if isSettled es then
        let tag := "[" ++ toString e.key.file ++ ":" ++ toString e.key.spot ++ ":" ++ key ++ "]"
        return (← referenceTo? scope object).map (·.push tag)
      else return none
    | [] => return none
  | .group e => referenceTo? scope e
  | .assured e => referenceTo? scope e
  | .satisfies e _ => referenceTo? scope e
  | .assign operator target _ =>
    if operator = "=" then referenceTo? scope target else return none
  | .binary operator _ b => if operator = "," then referenceTo? scope b else return none
  | _ => return none

/-- A value begins like a reference, as far as that can be told from how it is written. -/
def Reference.mayBegin (r : Reference) (e : Expr) : Bool :=
  match r.root, rootOf? e with
  | .name _ text, some (.name other) => text = other
  | .self, some .self => true
  | .parent, some .parent => true
  | _, _ => false

/-- The reference that a value is, if it begins like another. -/
def Reference.at? (r : Reference) (scope : Scope) (e : Expr) : Check (Option Reference) :=
  if r.mayBegin e then referenceTo? scope e else return none

/-- A value is the reference. -/
def Reference.isAt (r : Reference) (scope : Scope) (e : Expr) : Check Bool :=
  return (← r.at? scope e) = some r

/-- The value behind parentheses and assignments. -/
def candidate : Expr → Expr
  | .group e => candidate e
  | .satisfies e _ => candidate e
  | .assign operator target value =>
    if ["=", "||=", "&&=", "??="].contains operator then candidate target
    else .assign operator target value
  | .binary "," _ b => candidate b
  | e => e

/-- The reference stands in a chain that ends if the reference is missing. -/
def Reference.isInChain (r : Reference) (scope : Scope) : Expr → Check Bool
  | .access object _ isOptional => do
    if isOptional then
      if ← r.isAt scope object then return true
    if hasChain object || isOptional then r.isInChain scope object else return false
  | .index object _ isOptional => do
    if isOptional then
      if ← r.isAt scope object then return true
    if hasChain object || isOptional then r.isInChain scope object else return false
  | .call _ callee _ _ isOptional => do
    if isOptional then
      if ← r.isAt scope callee then return true
    if hasChain callee || isOptional then r.isInChain scope callee else return false
  | .assured e => r.isInChain scope e
  | _ => return false
where
  /-- The value is part of a chain that may end early. -/
  hasChain : Expr → Bool
    | .access object _ isOptional => isOptional || hasChain object
    | .index object _ isOptional => isOptional || hasChain object
    | .call _ callee _ _ isOptional => isOptional || hasChain callee
    | .assured e => hasChain e
    | _ => false

end TypeLineage.Typing
