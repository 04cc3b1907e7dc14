import TypeLineage.Typing.Body
import TypeLineage.Typing.Telling
import TypeLineage.Typing.Variance

/-! # The rules together

    The rules for types rest on one another; they are tied together here, up to
    a depth.  Checking starts with the types of the library on which the
    language rests. -/

namespace TypeLineage.Typing

open Source Program

/-- Rules that may be followed to a depth. -/
def rules : Nat → Rules
  | 0 => .nothing
  | n + 1 =>
    let k := rules n
    { writtenAs := writtenType k
      value := valueType k
      entity := typeOfEntities k
      declared := declaredType k
      members := membersOfType k
      property := typeOfProperty k
      argument := typeOfArgument k
      result := resultOfSignature k
      body := bodyType k
      constructed := constructedType k
      instantiate := replace k
      related := typesRelated k
      compared := typesCompared k
      bound := boundOf k
      base? := baseOf? k
      simplified := simplifiedType k
      keys := keysOf k
      variances := variancesOf k
      synonymVariances := synonymVariancesOf k
      bases := basesOf k
      apparent := apparentType k
      arguments := argumentsOf k
      infer := takeIn k
      claimed := claimOf k
      resolved := resolvedCall? k
      found := found k }

/-- The rules by which programs are checked. -/
def Rules.all : Rules := rules 1000

/-- The library's types on which the language rests, in the order in which they are made. -/
def firstGlobals : List String :=
  ["IArguments", "Array", "Object", "Function", "CallableFunction", "NewableFunction", "String",
    "Number", "Boolean", "RegExp"]

/-- Makes the types on which the language rests. -/
def startChecking : Check Unit := do
  for name in firstGlobals do
    discard (globalType? .all name)
  discard (listOf .all false anyType)
  discard (listOf .all false autoType)
  for name in ["ReadonlyArray", "ThisType"] do
    discard (globalType? .all name)

/-- What a computation finds in a world of which nothing is known yet. -/
def Check.start (work : Check α) (w : World) : α :=
  ((startChecking *> work).run w |>.run (Store.start 100000000)).1

end TypeLineage.Typing
