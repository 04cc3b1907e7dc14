import TypeLineage.Json.Basic

/-! # Reading a command line

    An argument that begins with a dash names an option, by its name behind two
    dashes or by its letter behind one.  An option is alone, takes a value, may
    take one, or takes several.  Letters may stand together behind one dash, a
    value may follow an equals sign, and behind two dashes alone there are no
    more options.  From the first option on that is not known, nothing that
    stands alone is taken for an operand. -/

namespace TypeLineage.CommandLine

/-- How an option takes values. -/
inductive Arity where
  | none
  /-- One value, whatever it looks like. -/
  | one
  /-- One value, unless an option follows. -/
  | optional
  /-- One value or more. -/
  | many
  deriving DecidableEq, Repr, Inhabited

/-- What is known of an option. -/
structure Rule where
  name : String
  letter : Option Char
  arity : Arity
  /-- The command does not run without it. -/
  isMandatory : Bool
  deriving DecidableEq, Repr, Inhabited

/-- An option by its name, with its value where it was given one. -/
abbrev Setting := String × Option String

/-- What was read: the options, the operands, and all from the first option on
    that is not known. -/
structure Reading where
  settings : List Setting
  operands : List String
  unknown : List String
  deriving DecidableEq, Repr, Inhabited

namespace Reading

/-- Nothing. -/
def empty : Reading := ⟨[], [], []⟩

/-- With one more option. -/
def set (r : Reading) (rule : Rule) (value : Option String) : Reading :=
  { r with settings := r.settings ++ [(rule.name, value)] }

/-- With one more argument that is no known option. -/
def add (r : Reading) (isOption : Bool) (argument : String) : Reading :=
  if isOption || !r.unknown.isEmpty then { r with unknown := r.unknown ++ [argument] }
  else { r with operands := r.operands ++ [argument] }

/-- With all arguments behind two dashes. -/
def close (r : Reading) (arguments : List String) : Reading :=
  if r.unknown.isEmpty then { r with operands := r.operands ++ arguments }
  else { r with unknown := r.unknown ++ "--" :: arguments }

/-- The value of an option that was given last. -/
def last? (r : Reading) (name : String) : Option (Option String) :=
  (r.settings.reverse.find? (·.1 = name)).map (·.2)

/-- The values of an option, in order. -/
def values (r : Reading) (name : String) : List String :=
  r.settings.filterMap fun s => if s.1 = name then s.2 else none

/-- The value of an option; its presence counts as true. -/
def value? (r : Reading) (name : String) : Option Json :=
  (r.last? name).map fun v => (v.map Json.string).getD (.bool true)

end Reading

/-- An option that takes a value was given none. -/
structure MissingValue where
  rule : Rule
  deriving DecidableEq, Repr

/-- The argument looks like an option. -/
def isOption : List Char → Bool
  | '-' :: _ :: _ => true
  | _ => false

/-- The option that an argument names. -/
def ruleOf? (rules : List Rule) (argument : List Char) : Option Rule :=
  match argument with
  | '-' :: '-' :: name => rules.find? (·.name.toList = name)
  | ['-', letter] => rules.find? (·.letter = some letter)
  | _ => none

/-- The option of the first letter, and what stands with it. -/
def groupOf? (rules : List Rule) : List Char → Option (Rule × List Char)
  | '-' :: letter :: more =>
    if letter = '-' || more.isEmpty then none
    else (rules.find? (·.letter = some letter)).map (·, more)
  | _ => none

/-- The first letter and its dash are not among what stands with it. -/
theorem length_of_groupOf? {rules : List Rule} {argument more : List Char} {rule : Rule}
    (h : groupOf? rules argument = some (rule, more)) : more.length + 2 = argument.length := by
  unfold groupOf? at h
  split at h
  · split at h
    · simp at h
    · simp only [Option.map_eq_some_iff, Prod.mk.injEq] at h
      obtain ⟨_, _, _, rfl⟩ := h
      simp
  · simp at h

/-- The option before an equals sign, and the value behind it. -/
def inlineOf? (rules : List Rule) (argument : List Char) : Option (Rule × String) :=
  match argument with
  | '-' :: '-' :: _ =>
    let name := argument.takeWhile (· ≠ '=')
    if name.length = argument.length then none
    else match ruleOf? rules name with
      | some rule =>
        if rule.arity = .none then none
        else some (rule, String.ofList (argument.drop (name.length + 1)))
      | none => none
  | _ => none

/-- Reads arguments; an option that takes several values may be open. -/
def readFrom (rules : List Rule) :
    List (List Char) → Option Rule → Reading → Except MissingValue Reading
  | [], _, r => .ok r
  | argument :: rest, active, r =>
    let text := String.ofList argument
    if text = "--" then .ok (r.close (rest.map String.ofList))
    else
      match active.filter fun _ => !isOption argument with
      | some rule => readFrom rules rest (some rule) (r.set rule (some text))
      | none =>
        match ruleOf? rules argument with
        | some rule =>
          match rule.arity, rest with
          | .none, rest => readFrom rules rest none (r.set rule none)
          | .optional, value :: rest' =>
            if isOption value then readFrom rules (value :: rest') none (r.set rule none)
            else readFrom rules rest' none (r.set rule (some (String.ofList value)))
          | .optional, [] => .ok (r.set rule none)
          | .one, value :: rest' => readFrom rules rest' none (r.set rule (some (String.ofList value)))
          | .many, value :: rest' =>
            readFrom rules rest' (some rule) (r.set rule (some (String.ofList value)))
          | _, [] => .error ⟨rule⟩
        | none =>
          match _h : groupOf? rules argument with
          | some (rule, more) =>
            if rule.arity = .none then readFrom rules (('-' :: more) :: rest) none (r.set rule none)
            else readFrom rules rest none (r.set rule (some (String.ofList more)))
          | none =>
            match inlineOf? rules argument with
            | some (rule, value) => readFrom rules rest none (r.set rule (some value))
            | none => readFrom rules rest none (r.add (isOption argument) text)
termination_by arguments => arguments.foldr (fun cs n => cs.length + 1 + n) 0
decreasing_by
  all_goals simp only [List.foldr_cons, List.length_cons]
  any_goals omega
  have := length_of_groupOf? ‹groupOf? _ _ = some _›
  omega

/-- Reads arguments. -/
def read (rules : List Rule) (arguments : List String) : Except MissingValue Reading :=
  readFrom rules (arguments.map String.toList) none .empty

end TypeLineage.CommandLine
