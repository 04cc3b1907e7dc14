import TypeLineage.Source.TypeSyntax

/-! # What a condition infers

    The bound of a conditional type may name parts of the checked type.  These
    are the type parameters that the condition infers.  The place where one is
    named may tell what bounds it. -/

namespace TypeLineage.Source

/-- What the place where a type parameter is inferred tells of its bound. -/
inductive ImpliedBound where
  /-- It stands for a list. -/
  | list
  /-- It stands for texts. -/
  | text
  /-- It stands for keys. -/
  | key
  /-- It is bound as a type parameter of what is referred to, by its place. -/
  | argument (reference : TypeExpr) (place : Nat)
  deriving Inhabited

/-- A type parameter that is inferred. -/
structure Inferred where
  parameter : TypeParameter
  implied : Option ImpliedBound
  deriving Inhabited

mutual

/-- The type parameters that a bound infers, given what its place tells. -/
def inferredIn (implied : Option ImpliedBound) : TypeExpr → List Inferred
  | .named path ts => inferredInArguments (.named path ts) 0 ts
  | .array t => inferredIn none t
  | .nullable t => inferredIn none t
  | .tuple _ items => inferredInItems items
  | .union ts => inferredInAll ts
  | .intersection ts => inferredInAll ts
  | .function _ _ f => inferredInFunction f
  | .object _ ms => inferredInMembers ms
  | .operator _ t => inferredIn none t
  | .query _ ts => inferredInAll ts
  | .index a b => inferredIn none a ++ inferredIn none b
  | .conditional _ check _ yes no =>
    inferredIn none check ++ inferredIn none yes ++ inferredIn none no
  | .mapped _ _ domain renamed _ _ result =>
    inferredIn (some .key) domain ++ inferredInOption none renamed ++ inferredInOption none result
  | .infer spot parameter bound =>
    ⟨⟨spot, parameter, false, false, false, bound, none⟩, implied⟩ :: inferredInOption none bound
  | .imported file isValue path ts =>
    inferredInArguments (.imported file isValue path ts) 0 ts
  | .template _ holes => inferredInHoles holes
  | .predicate _ _ claim => inferredInOption none claim
  | .keyword _ | .self | .text _ | .number _ | .bigNumber .. | .truth _ => []

/-- The type parameters that types infer. -/
def inferredInAll : List TypeExpr → List Inferred
  | [] => []
  | t :: rest => inferredIn none t ++ inferredInAll rest

/-- The type parameters that the arguments of a reference infer, from a place on. -/
def inferredInArguments (reference : TypeExpr) (place : Nat) : List TypeExpr → List Inferred
  | [] => []
  | t :: rest =>
    inferredIn (some (.argument reference place)) t
      ++ inferredInArguments reference (place + 1) rest

/-- The type parameters that the elements of a tuple infer. -/
def inferredInItems : List TupleItem → List Inferred
  | [] => []
  | ⟨_, isRest, _, t⟩ :: rest =>
    inferredIn (if isRest then some .list else none) t ++ inferredInItems rest

/-- The type parameters that the holes of a template infer. -/
def inferredInHoles : List TemplateHole → List Inferred
  | [] => []
  | ⟨t, _⟩ :: rest => inferredIn (some .text) t ++ inferredInHoles rest

/-- The type parameters that a type infers, if there is one. -/
def inferredInOption (implied : Option ImpliedBound) : Option TypeExpr → List Inferred
  | none => []
  | some t => inferredIn implied t

/-- The type parameters that the head of a function infers. -/
def inferredInFunction : Function → List Inferred
  | ⟨_, _, _, parameters, result, _, _, _, _⟩ =>
    inferredInParameters parameters ++ inferredInOption none result

/-- The type parameters that parameters infer. -/
def inferredInParameters : List Parameter → List Inferred
  | [] => []
  | ⟨_, _, _, isRest, _, type, _⟩ :: rest =>
    inferredInOption (if isRest then some .list else none) type ++ inferredInParameters rest

/-- The type parameters that members infer. -/
def inferredInMembers : List Member → List Inferred
  | [] => []
  | m :: rest =>
    (match m with
      | .method _ _ _ f => inferredInFunction f
      | .field _ _ _ _ type _ => inferredInOption none type
      | .getter _ _ f => inferredInFunction f
      | .setter _ _ f => inferredInFunction f
      | .construction _ f => inferredInFunction f
      | .call _ f => inferredInFunction f
      | .indexer _ _ key type => inferredIn none key ++ inferredInOption none type
      | .start _ => []) ++ inferredInMembers rest

end

/-- One of a name with what all of them tell. -/
structure InferredName where
  parameter : TypeParameter
  implied : List ImpliedBound
  deriving Inhabited

/-- Takes in a type parameter that is inferred; those of one name are one, whose bound is the
    first that is written. -/
def takeInferred (names : List InferredName) (i : Inferred) : List InferredName :=
  if names.any (·.parameter.name = i.parameter.name) then
    names.map fun n =>
      if n.parameter.name ≠ i.parameter.name then n
      else
        let p := n.parameter
        { parameter := { p with bound := p.bound.orElse fun _ => i.parameter.bound }
          implied := n.implied ++ i.implied.toList }
  else names ++ [⟨i.parameter, i.implied.toList⟩]

/-- The type parameters that a bound infers, each name once. -/
def TypeExpr.inferredNames (bound : TypeExpr) : List InferredName :=
  (inferredIn none bound).foldl takeInferred []

end TypeLineage.Source
