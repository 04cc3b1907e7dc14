import TypeLineage.Source.TypeSyntax

/-! # What a type mentions

    The names that a written type begins its paths with, as far as they can be
    told from how it is written.  What depends on the values around it may
    mention anything. -/

namespace TypeLineage.Source

/-- Something that a written type mentions. -/
inductive Mention where
  | name (text : String)
  /-- The object itself. -/
  | self
  /-- Something that cannot be told from how the type is written. -/
  | anything
  deriving DecidableEq, Repr, Inhabited

mutual

/-- What a type mentions. -/
def mentionsIn : TypeExpr → List Mention
  | .self => [.self]
  | .named path ts => (path.head?.map Mention.name).toList ++ mentionsInAll ts
  | .array t => mentionsIn t
  | .nullable t => mentionsIn t
  | .tuple _ items => mentionsInItems items
  | .union ts => mentionsInAll ts
  | .intersection ts => mentionsInAll ts
  | .function _ _ f => mentionsInFunction f
  | .object _ ms => mentionsInMembers ms
  | .operator _ t => mentionsIn t
  | .query .. => [.anything]
  | .index a b => mentionsIn a ++ mentionsIn b
  | .conditional _ a b c d => mentionsIn a ++ mentionsIn b ++ mentionsIn c ++ mentionsIn d
  | .mapped _ _ domain renamed _ _ result =>
    mentionsIn domain ++ mentionsInOption renamed ++ mentionsInOption result
  | .infer _ _ bound => mentionsInOption bound
  | .imported _ _ _ ts => mentionsInAll ts
  | .template _ holes => mentionsInHoles holes
  | .predicate _ subject claim =>
    (if subject = "this" then [.self] else []) ++ mentionsInOption claim
  | .keyword _ | .text _ | .number _ | .bigNumber .. | .truth _ => []

/-- What types mention. -/
def mentionsInAll : List TypeExpr → List Mention
  | [] => []
  | t :: rest => mentionsIn t ++ mentionsInAll rest

/-- What the elements of a tuple mention. -/
def mentionsInItems : List TupleItem → List Mention
  | [] => []
  | ⟨_, _, _, t⟩ :: rest => mentionsIn t ++ mentionsInItems rest

/-- What the holes of a template mention. -/
def mentionsInHoles : List TemplateHole → List Mention
  | [] => []
  | ⟨t, _⟩ :: rest => mentionsIn t ++ mentionsInHoles rest

/-- What a type mentions, if there is one. -/
def mentionsInOption : Option TypeExpr → List Mention
  | none => []
  | some t => mentionsIn t

/-- What type parameters mention. -/
def mentionsInParameters : List TypeParameter → List Mention
  | [] => []
  | ⟨_, _, _, _, _, bound, default'⟩ :: rest =>
    mentionsInOption bound ++ mentionsInOption default' ++ mentionsInParameters rest

/-- What the parameters of a function mention. -/
def mentionsInArguments : List Parameter → List Mention
  | [] => []
  | ⟨_, _, _, _, _, type, _⟩ :: rest => mentionsInOption type ++ mentionsInArguments rest

/-- What the head of a function mentions. -/
def mentionsInFunction : Function → List Mention
  | ⟨_, _, typeParameters, parameters, result, _, _, _, _⟩ =>
    mentionsInParameters typeParameters ++ mentionsInArguments parameters ++ mentionsInOption result

/-- What members mention. -/
def mentionsInMembers : List Member → List Mention
  | [] => []
  | m :: rest =>
    (match m with
      | .method _ _ _ f => mentionsInFunction f
      | .field _ _ _ _ type _ => mentionsInOption type
      | .getter _ _ f => mentionsInFunction f
      | .setter _ _ f => mentionsInFunction f
      | .construction _ f => mentionsInFunction f
      | .call _ f => mentionsInFunction f
      | .indexer _ _ key type => mentionsIn key ++ mentionsInOption type
      | .start _ => []) ++ mentionsInMembers rest

end

/-- What a method mentions where its result is not written but follows from what it does. -/
def Function.mentions (f : Function) : List Mention :=
  match f.result, f.body with
  | none, .block _ | none, .value _ => [.anything]
  | _, _ => mentionsInFunction f

end TypeLineage.Source
