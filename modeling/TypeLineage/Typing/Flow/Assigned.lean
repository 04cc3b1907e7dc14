import TypeLineage.Typing.Flow.Statement

/-! # Names that are assigned

    A name that nothing assigns to but its declaration stands for the same value
    throughout.  One that is assigned does so from the end of the last statement
    that assigns to it, unless a function inside assigns to it. -/

namespace TypeLineage.Typing

open Source Program

/-! ## Targets -/

section

variable (name : Option String)

mutual

/-- Something is assigned to a name as a target or a part of one. -/
def isTarget : Expr → Bool
  | .name n => name = some n
  | .group e => isTarget e
  | .assured e => isTarget e
  | .cast e _ => isTarget e
  | .satisfies e _ => isTarget e
  | .spread e => isTarget e
  | .assign _ target _ => isTarget target
  | .array items => anyTarget items
  | .object items => anyItemTarget items
  | _ => false

/-- Something is assigned to a name as one of several targets. -/
def anyTarget : List Expr → Bool
  | [] => false
  | e :: rest => isTarget e || anyTarget rest

/-- Something is assigned to a name as a part of an object. -/
def anyItemTarget : List ObjectItem → Bool
  | [] => false
  | .property _ _ e :: rest => isTarget e || anyItemTarget rest
  | .shorthand _ n :: rest => name = some n || anyItemTarget rest
  | .spread e :: rest => isTarget e || anyItemTarget rest
  | _ :: rest => anyItemTarget rest

end

end

/-! ## Where something is assigned -/

section

/- What is asked of a function inside, and the name that is assigned to, if one is sought. -/
variable (within : Function → Bool) (name : Option String)

/-- A member of a class holds a function that is asked for. -/
def memberAssigns : Member → Bool
  | .method _ _ _ f => within f
  | .getter _ _ f => within f
  | .setter _ _ f => within f
  | .construction _ f => within f
  | _ => false

mutual

/-- A value assigns to a name, or holds a function that is asked for. -/
def assigns : Expr → Bool
  | .assign _ target value => isTarget name target || assigns target || assigns value
  | .count e => isTarget name e || assigns e
  | .unary operator e => ((operator = "++" || operator = "--") && isTarget name e) || assigns e
  | .call _ callee _ arguments _ => assigns callee || anyAssigns arguments
  | .construct _ callee _ arguments => assigns callee || anyAssigns arguments
  | .template _ holes => anyHoleAssigns holes
  | .tagged _ tag _ holes => assigns tag || anyHoleAssigns holes
  | .array items => anyAssigns items
  | .spread e => assigns e
  | .object items => anyItemAssigns items
  | .function f => within f
  | .classValue d => d.members.any (memberAssigns within)
  | .access object _ _ => assigns object
  | .index object key _ => assigns object || assigns key
  | .binary _ a b => assigns a || assigns b
  | .conditional test yes no => assigns test || assigns yes || assigns no
  | .instantiation e _ => assigns e
  | .cast e _ => assigns e
  | .constant e => assigns e
  | .satisfies e _ => assigns e
  | .assured e => assigns e
  | .awaited e => assigns e
  | .yield _ (some e) => assigns e
  | .group e => assigns e
  | .fetched arguments => anyAssigns arguments
  | .markup _ values => anyAssigns values
  | _ => false

/-- Some value assigns to a name, or holds a function that is asked for. -/
def anyAssigns : List Expr → Bool
  | [] => false
  | e :: rest => assigns e || anyAssigns rest

/-- Some hole of a template assigns to a name, or holds a function that is asked for. -/
def anyHoleAssigns : List ValueHole → Bool
  | [] => false
  | ⟨e, _⟩ :: rest => assigns e || anyHoleAssigns rest

/-- Some part of an object assigns to a name, or holds a function that is asked for. -/
def anyItemAssigns : List ObjectItem → Bool
  | [] => false
  | .property _ _ e :: rest => assigns e || anyItemAssigns rest
  | .spread e :: rest => assigns e || anyItemAssigns rest
  | .method _ f :: rest => within f || anyItemAssigns rest
  | .getter _ f :: rest => within f || anyItemAssigns rest
  | .setter _ f :: rest => within f || anyItemAssigns rest
  | .shorthand .. :: rest => anyItemAssigns rest

end

/-- Some value assigns to a name, if there is one. -/
def maybeAssigns : Option Expr → Bool
  | some e => assigns within name e
  | none => false

/-- The first values of variables assign to a name. -/
def variablesAssign (vs : List Variable) : Bool :=
  vs.any fun v => maybeAssigns within name v.initial

/-- What a declaration does where it stands assigns to a name. -/
def declarationAssigns : Declaration → Bool
  | .variables _ vs => variablesAssign within name vs
  | .function f => within f
  | .type d => d.members.any (memberAssigns within)
  | _ => false

/-- What a loop begins with assigns to a name. -/
def startAssigns (isTaken : Bool) : LoopStart → Bool
  | .none => false
  | .variables _ vs => variablesAssign within name vs
  | .value e => assigns within name e || (isTaken && isTarget name e)

mutual

/-- A statement assigns to a name, or holds a function that is asked for. -/
def assignsTo : Statement → Bool
  | .declaration _ _ d => declarationAssigns within name d
  | .value e => assigns within name e
  | .block ss => anyAssignsTo ss
  | .conditional test yes no => assigns within name test || assignsTo yes || match no with
    | some s => assignsTo s
    | none => false
  | .whileLoop _ test body => assigns within name test || assignsTo body
  | .doLoop _ body test => assignsTo body || assigns within name test
  | .forLoop _ start test step body =>
    startAssigns within name false start || maybeAssigns within name test
      || maybeAssigns within name step || assignsTo body
  | .forEach _ _ _ start subject body =>
    startAssigns within name true start || assigns within name subject || assignsTo body
  | .switch _ subject cases => assigns within name subject || anyCaseAssignsTo cases
  | .attempt body handler last =>
    anyAssignsTo body
      || (match handler with
        | some ⟨_, _, ss⟩ => anyAssignsTo ss
        | none => false)
      || (match last with
        | some ss => anyAssignsTo ss
        | none => false)
  | .result value => maybeAssigns within name value
  | .fail value => assigns within name value
  | .labeled _ body => assignsTo body
  | _ => false

/-- Some statement assigns to a name, or holds a function that is asked for. -/
def anyAssignsTo : List Statement → Bool
  | [] => false
  | s :: rest => assignsTo s || anyAssignsTo rest

/-- Some case of a switch assigns to a name, or holds a function that is asked for. -/
def anyCaseAssignsTo : List SwitchCase → Bool
  | [] => false
  | ⟨_, ss⟩ :: rest => anyAssignsTo ss || anyCaseAssignsTo rest

end

end

/-! ## What functions assign to -/

/-- How far functions inside functions are looked through. -/
def functionDepth : Nat := 32

/-- A function, or one inside it, assigns to a name that it does not declare as a parameter. -/
def functionAssigns (name : String) : Nat → Function → Bool
  | 0, _ => false
  | n + 1, f =>
    let isOwn := f.parameters.any fun p => (namesOf p.pattern).any (·.1 = name)
    !isOwn && match f.body with
      | .none => false
      | .block statements =>
        anyAssignsTo (functionAssigns name n) (some name) statements.block
      | .value value => assigns (functionAssigns name n) (some name) value.value

/-- The body of a function assigns to a name. -/
def bodyAssigns (name : String) : Body → Bool
  | .none => false
  | .block statements =>
    anyAssignsTo (functionAssigns name functionDepth) (some name) statements.block
  | .value value => assigns (functionAssigns name functionDepth) (some name) value.value

/-! ## What is assigned once -/

/-- The statements of a function around a scope. -/
def wholeBody? (scope : Scope) : Option (List Statement) :=
  scope.frames.findSome? fun
    | .statements ss true => some ss
    | _ => none

/-- The variable may be assigned again, though only where it is declared. -/
def isLocal (v : DeclaredVariable) : Bool := v.binding = .block || v.source matches .failure

/-- The declared name is assigned once. -/
def isSettled : List Entity → Bool
  | [.variable v scope] =>
    v.binding = .constant || (isLocal v && match wholeBody? scope with
      | some ss => !anyAssignsTo (functionAssigns v.name functionDepth) (some v.name) ss
      | none => false)
  | [.argument name _ _ f _] => !bodyAssigns name f.body
  | _ => false

/-- The function that a place stands in as seen from outside, the outermost one. -/
def functionSeen? (inner outer : Scope) : Option Function :=
  (inner.frames.take (inner.frames.length - outer.frames.length)).reverse.findSome? fun
    | .function f => some f
    | _ => none

/-- No statement assigns to a name from the one on that holds a function, and no function
    does. -/
def isAssignedBefore (f : Function) (name : String) (ss : List Statement) : Bool :=
  !anyAssignsTo (functionAssigns name functionDepth) none ss
    && !anyAssignsTo (fun _ => false) (some name)
      (ss.dropWhile fun s => !assignsTo (fun g => g.spot = f.spot) none s)

/-- The declared name keeps its value once a place is reached. -/
def isKeptAt (inner : Scope) (es : List Entity) : Bool :=
  isSettled es || match es with
    | [.variable v scope] =>
      isLocal v && match functionSeen? inner scope, scope.frames with
        | some f, .statements ss _ :: _ => isAssignedBefore f v.name ss
        | _, _ => false
    | [.argument name _ _ f scope] =>
      match functionSeen? inner scope, f.body with
      | some g, .block statements => isAssignedBefore g name statements.block
      | _, _ => false
    | _ => false

end TypeLineage.Typing
