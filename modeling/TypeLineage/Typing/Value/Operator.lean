import TypeLineage.Typing.Call

/-! # Operators

    What operators make of the types of their operands.  Addition joins texts
    and adds numbers; the other operations on numbers give numbers of the kind
    of their operands; tests that choose an operand give what may be left of
    the first, or the second. -/

namespace TypeLineage.Typing

section

variable (k : Rules)

/-- The type of a value that has to be there. -/
def assured (t : TypeId) : Check TypeId := do
  if !(← strictNull) then return t
  if ← isKeyword .unknown t then return errorType
  if ← hasFact k .isLacking t then
    let u ← present k t
    if (← isNever u) || (← isAbsent u) then return errorType else return u
  else return t

/-- All values of the type are of a kind: the shape says so, or the type may be taken for a
    keyword.  Nothing and anything do not count if the flag is set. -/
def isAllOf (p : Shape → Bool) (keyword : TypeId) (isStrict : Bool) (t : TypeId) :
    Check Bool := do
  let s ← shape t
  if p s then return true
  let isVague := match s with
    | .keyword w => [Keyword.any, .auto, .error, .unknown, .void, .undefined, .missing, .null].contains w
    | .unresolved .. => true
    | _ => false
  if isStrict && isVague then return false else k.related .assignable t keyword

/-- The shape is one of integers of any size. -/
def isBigShape : Shape → Bool
  | .keyword .bigint => true
  | .bigNumber .. => true
  | _ => false

/-- Something of the type may be an integer of any size. -/
def mayBeBig (t : TypeId) : Check Bool := mayBe isBigShape 8 t

/-- The sum of two values, or the text that they form. -/
def sumOf (a b : TypeId) : Check TypeId := do
  let text (isStrict : Bool) (t : TypeId) := isAllOf k isTextShape stringType isStrict t
  let hasText := (← text false a) || (← text false b)
  let a ← if hasText then pure a else assured k a
  let b ← if hasText then pure b else assured k b
  let number := isAllOf k isNumberShape numberType true
  let big := isAllOf k isBigShape bigintType true
  if (← number a) && (← number b) then return numberType
  if (← big a) && (← big b) then return bigintType
  if (← text true a) || (← text true b) then return stringType
  if (← isAny a) || (← isAny b) then
    return if (← isError a) || (← isError b) then errorType else anyType
  return anyType

/-- What an operation on numbers gives. -/
def numberResult (a b : TypeId) : Check TypeId := do
  let a ← assured k a
  let b ← assured k b
  let isVague (t : TypeId) : Check Bool := return (← isAny t) || (← isKeyword .unknown t)
  if ((← isVague a) && (← isVague b)) || !((← mayBeBig a) || (← mayBeBig b)) then
    return numberType
  let big := isAllOf k isBigShape bigintType false
  if (← big a) && (← big b) then return bigintType else return errorType

/-- What a mark on a number gives. -/
def markedNumber (t : TypeId) : Check TypeId := do
  if ← mayBeBig t then
    if (← isAny t) || (← mayBe isNumberShape 8 t) then union k [numberType, bigintType]
    else return bigintType
  else return numberType

/-- What is left of the first operand, or the second. -/
def chosenOf (operator : String) (a b : TypeId) : Check TypeId := do
  match operator with
  | "&&" =>
    if ← hasFact k .truthy a then
      let from' ← if ← strictNull then pure a else baseOfValues k b
      union k [← falsyPart k from', b]
    else return a
  | "||" =>
    if ← hasFact k .falsy a then
      unionOf k .subtype [← definedPart k (← narrowedBy k .truthy a), b] none
    else return a
  | _ =>
    if ← hasFact k .isAbsent a then unionOf k .subtype [← present k a, b] none
    else return a

/-- What an operator that is no choice makes of two values. -/
def combined (operator : String) (a b : TypeId) : Check TypeId := do
  match operator with
  | "+" => sumOf k a b
  | "-" | "*" | "/" | "%" | "**" | "&" | "|" | "^" | "<<" | ">>" | ">>>" => numberResult k a b
  | _ => return booleanType

/-- The negation of a value. -/
def negated (t : TypeId) : Check TypeId := do
  let mayHold ← hasFact k .truthy t
  let mayFail ← hasFact k .falsy t
  return if mayHold && !mayFail then freshFalseType
    else if mayFail && !mayHold then freshTrueType
    else booleanType

end

end TypeLineage.Typing
