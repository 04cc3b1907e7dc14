import TypeLineage.Typing.Store

/-! # Rules that rest on one another

    What a type has for members, what a value's type is and how types compare
    rest on one another.  The rules are given to one another in a record, one
    for each depth to which they may still be followed. -/

namespace TypeLineage.Typing

open Source Program

/-- How types are compared. -/
inductive Relation where
  | identity
  | strictSubtype
  | subtype
  | assignable
  | comparable
  deriving DecidableEq, Repr, Inhabited

/-- The place of a relation among the relations. -/
def Relation.index : Relation → Nat
  | .identity => 0
  | .strictSubtype => 1
  | .subtype => 2
  | .assignable => 3
  | .comparable => 4

/-- What comes of a comparison of types, from the least to the best. -/
inductive Verdict where
  | no
  /-- It rests on something that is being found out. -/
  | unknown
  /-- It holds if what is being compared turns out to hold. -/
  | maybe
  | yes
  deriving DecidableEq, Repr, Inhabited

/-- The types that arise anew where types are compared one inside another. -/
inductive Sides where
  | both
  | source
  | target
  deriving DecidableEq, Repr, Inhabited

/-- Types are compared as parts of one that holds several together. -/
inductive Joining where
  | none
  | source
  | target
  deriving DecidableEq, Repr, Inhabited

/-- How two types are compared. -/
structure Comparison where
  relation : Relation
  sides : Sides
  joining : Joining
  deriving Inhabited

/-- How a value is used where it stands. -/
inductive Usage where
  | whole
  /-- A member of it is asked for, or it is called. -/
  | head
  /-- What stands under a key of it is asked for. -/
  | under (key : Expr)
  deriving Inhabited

/-- What is expected of a value where it stands. -/
structure Expectation where
  /-- The type that is expected. -/
  type : Option TypeId
  /-- The call whose type parameters are inferred from the value. -/
  inference : Option Nat
  /-- Functions whose parameters have no types are not looked at yet. -/
  skipsFunctions : Bool
  /-- The value stands for nothing but itself. -/
  isConstant : Bool
  /-- A list is taken for one of a fixed length. -/
  isTuple : Bool
  usage : Usage
  /-- Only a pattern that takes the value apart says what is expected. -/
  isImplied : Bool
  deriving Inhabited

/-- Nothing is expected. -/
def Expectation.none : Expectation := ⟨.none, .none, false, false, false, .whole, false⟩

/-- Nothing is expected of a value that is used somehow. -/
def Expectation.used (u : Usage) : Expectation := { Expectation.none with usage := u }

/-- A type is expected. -/
def Expectation.of (t : Option TypeId) : Expectation := { Expectation.none with type := t }

/-- A type is expected by a pattern. -/
def Expectation.implied (t : Option TypeId) : Expectation :=
  { Expectation.of t with isImplied := true }

/-- The same is expected, but of another type. -/
def Expectation.to (x : Expectation) (t : Option TypeId) : Expectation :=
  { x with type := t, isConstant := false, isTuple := false, usage := .whole }

/-- What is known of the place where a type is written. -/
structure Naming where
  /-- The name that the type is given. -/
  synonym : Option Synonym
  /-- The type is part of one that is given a name. -/
  isInSynonym : Bool
  deriving Inhabited

/-- A type that is given no name. -/
def Naming.none : Naming := ⟨.none, false⟩

/-- A part of a type. -/
def Naming.part (n : Naming) : Naming := ⟨.none, n.isInSynonym⟩

/-- The rules. -/
structure Rules where
  /-- The type that a written type stands for. -/
  writtenAs : Naming → Scope → TypeExpr → Check TypeId
  /-- The type of a value. -/
  value : Env → Expr → Expectation → Check TypeId
  /-- The type of what is declared, as a value. -/
  entity : List Entity → Check TypeId
  /-- The type that declarations declare. -/
  declared : List Entity → Check TypeId
  /-- The members of a type. -/
  members : TypeId → Check Members
  property : Property → Check TypeId
  argument : Argument → Check TypeId
  result : Signature → Check TypeId
  /-- What the body of a function gives. -/
  body : FunctionSite → Check TypeId
  /-- What the construction of a class leaves in a field that tells no type. -/
  constructed : TypeDeclaration → Scope → (name : String) → Check (Option TypeId)
  /-- A type with what it mentions replaced. -/
  instantiate : Substitution → TypeId → Check TypeId
  /-- Two types are related. -/
  related : Relation → TypeId → TypeId → Check Bool
  /-- Two types are related where others are being compared. -/
  compared : Comparison → TypeId → TypeId → Check Verdict
  /-- What a type that depends on type parameters is bound by. -/
  bound : TypeId → Check (Option TypeId)
  /-- What a type that depends on type parameters amounts to in the end, if anything is known. -/
  base? : TypeId → Check (Option TypeId)
  /-- What stands under a key, or a condition, as far as it can be told; the flag tells whether
      it is set rather than read. -/
  simplified : Bool → TypeId → Check TypeId
  /-- The keys of a type. -/
  keys : TypeId → Check TypeId
  /-- How a declared type changes with its type arguments, unless that is being found out. -/
  variances : TypeId → Check (Option (List Variance))
  /-- How what goes by another name changes with its type arguments, unless that is being found
      out. -/
  synonymVariances : Synonym → Check (Option (List Variance))
  /-- The types that a declared type extends. -/
  bases : TypeId → Check (List TypeId)
  /-- What a type amounts to where its members are asked for. -/
  apparent : TypeId → Check TypeId
  /-- The type arguments of a reference. -/
  arguments : TypeId → Check (List TypeId)
  /-- Takes in what one type tells about the parameters in another. -/
  infer : Intake → (source target : TypeId) → Check Unit
  /-- What the body of a function tells about an argument where it gives true. -/
  claimed : FunctionSite → Check (Option Claim)
  /-- The signature by which a call is made. -/
  resolved : Env → Expr → Check (Option Signature)
  /-- What a reference is where some ways lead. -/
  found : Query → Flow → Check Outcome

/-- The type that a written type stands for. -/
def Rules.written (k : Rules) (scope : Scope) (e : TypeExpr) : Check TypeId :=
  k.writtenAs .none scope e

/-- What a type that depends on type parameters amounts to in the end, or the type itself. -/
def Rules.base (k : Rules) (t : TypeId) : Check TypeId := return (← k.base? t).getD t

/-- Rules that know nothing. -/
def Rules.nothing : Rules where
  writtenAs _ _ _ := return errorType
  value _ _ _ := return errorType
  entity _ := return errorType
  declared _ := return errorType
  members _ := return .none
  property _ := return errorType
  argument _ := return errorType
  result _ := return errorType
  body _ := return errorType
  constructed _ _ _ := return none
  instantiate _ t := return t
  related _ _ _ := return true
  compared _ _ _ := return .yes
  bound _ := return none
  base? _ := return none
  simplified _ t := return t
  keys _ := return neverType
  variances _ := return none
  synonymVariances _ := return none
  bases _ := return []
  apparent t := return t
  arguments _ := return []
  infer _ _ _ := return
  claimed _ := return none
  resolved _ _ := return none
  found q _ := return .type q.declared

end TypeLineage.Typing
