import TypeLineage.Typing.Type

/-! # Ways through values

    Looking at a value leads on: it may assign to references, and a test leads
    two ways.  What changes nothing is passed by.  Ways that part and come
    together again are kept behind the place where they part, so that what lies
    before it is looked at once. -/

namespace TypeLineage.Typing

open Source Program

namespace Flow

/-! ## Parting and coming together -/

/-- How many steps lead to a place. -/
def depth : Flow → Nat
  | .assign _ _ _ before => before.depth + 1
  | .test _ _ _ _ before => before.depth + 1
  | .case _ _ _ _ _ _ before => before.depth + 1
  | .call _ _ _ before => before.depth + 1
  | .split before _ => before.depth + 1
  | .loop _ _ _ before _ => before.depth + 1
  | _ => 0

/-- The last steps of a way, behind the place where it parts from others. -/
def lastSteps : Nat → Flow → Flow
  | 0, _ => .fork
  | n + 1, .assign what scope whole before => .assign what scope whole (lastSteps n before)
  | n + 1, .test e holds scope whole before => .test e holds scope whole (lastSteps n before)
  | n + 1, .case e cs first last scope whole before =>
    .case e cs first last scope whole (lastSteps n before)
  | n + 1, .call e scope whole before => .call e scope whole (lastSteps n before)
  | n + 1, .split before ways => .split (lastSteps n before) ways
  | n + 1, .loop file spot whole before back => .loop file spot whole (lastSteps n before) back
  | _ + 1, f => f

/-- Nothing leads there. -/
def isUnreachable : Flow → Bool
  | .unreachable => true
  | _ => false

/-- Ways that part behind a place come together. -/
def join (before : Flow) (ways : List Flow) : Flow :=
  match ways.filter (!·.isUnreachable) with
  | [] => .unreachable
  | [way] => way
  | open' =>
    let d := before.depth
    if open'.all (·.depth = d) then before
    else .split before (open'.map fun way => way.lastSteps (way.depth - d))

/-- A step of an assignment. -/
def assigning (scope : Scope) (what : Assignment) (before : Flow) : Flow :=
  if before.isUnreachable then before else .assign what scope before before

/-- A step of a test. -/
def testing (scope : Scope) (condition : Expr) (holds : Bool) (whole before : Flow) : Flow :=
  if before.isUnreachable then before else .test condition holds scope whole before

end Flow

/-! ## What changes something -/

mutual

/-- Looking at the value may change what references stand for. -/
def changes : Expr → Bool
  | .assign .. => true
  | .count _ => true
  | .unary operator e => operator = "++" || operator = "--" || operator = "delete" || changes e
  | .call _ (.access object member _) _ arguments _ =>
    member = "push" || member = "unshift" || changes object || anyChanges arguments
  | .call _ callee _ arguments _ => changes callee || anyChanges arguments
  | .construct _ callee _ arguments => changes callee || anyChanges arguments
  | .template _ holes => anyHoleChanges holes
  | .tagged _ tag _ holes => changes tag || anyHoleChanges holes
  | .array items => anyChanges items
  | .spread e => changes e
  | .object items => anyItemChanges items
  | .access object _ _ => changes object
  | .index object key _ => changes object || changes key
  | .instantiation e _ => changes e
  | .binary _ a b => changes a || changes b
  | .conditional test yes no => changes test || changes yes || changes no
  | .cast e _ => changes e
  | .constant e => changes e
  | .satisfies e _ => changes e
  | .assured e => changes e
  | .awaited e => changes e
  | .yield _ (some e) => changes e
  | .group e => changes e
  | .fetched arguments => anyChanges arguments
  | .markup _ values => anyChanges values
  | _ => false

/-- Looking at some values may change what references stand for. -/
def anyChanges : List Expr → Bool
  | [] => false
  | e :: rest => changes e || anyChanges rest

/-- Looking at the holes of a template may change what references stand for. -/
def anyHoleChanges : List ValueHole → Bool
  | [] => false
  | ⟨e, _⟩ :: rest => changes e || anyHoleChanges rest

/-- Looking at the parts of an object may change what references stand for. -/
def anyItemChanges : List ObjectItem → Bool
  | [] => false
  | .property _ _ e :: rest => changes e || anyItemChanges rest
  | .spread e :: rest => changes e || anyItemChanges rest
  | _ :: rest => anyItemChanges rest

end

/-! ## Looking at values -/

/-- The operator assigns only if the reference came out one way; given is that way. -/
def shortOperator? (operator : String) : Option Bool :=
  match operator with
  | "&&=" => some false
  | "||=" => some true
  | "??=" => some true
  | _ => none

/-- Where a value leads, and where it leads as a test that comes out one way. -/
structure Steps where
  after : Flow → Flow
  leading : Bool → Flow → Flow

/-- The steps of a value that is a test as a whole. -/
def Steps.whole (scope : Scope) (e : Expr) (after : Flow → Flow) : Steps :=
  ⟨after, fun holds before => .testing scope e holds before (after before)⟩

/-- The steps of an assignment. -/
def Steps.ofAssignment (scope : Scope) (operator : String) (target value : Expr)
    (steps : Steps) : Steps :=
  .whole scope (.assign operator target value) fun before =>
    match shortOperator? operator with
    | some short =>
      let other := Flow.testing scope target (!short) before before
      .join before [.testing scope target short before before,
        (steps.after other).assigning scope (.assigned operator target value)]
    | none =>
      let behind := steps.after before
      let own := if behind.isUnreachable then behind
        else .assign (.assigned operator target value) scope before behind
      match target with
      | .index object _ _ => own.assigning scope (.grown object [value])
      | _ => own

/-- The steps of an operation on two values. -/
def Steps.ofBinary (scope : Scope) (operator : String) (a b : Expr) (x y : Steps) : Steps :=
  let isPlain := !(changes a || changes b)
  if operator = "&&" then
    ⟨fun before => if isPlain then before
        else .join before [x.leading false before, y.after (x.leading true before)],
      fun holds before =>
        if holds then y.leading true (x.leading true before)
        else .join before [x.leading false before, y.leading false (x.leading true before)]⟩
  else if operator = "||" || operator = "??" then
    let x := if operator = "||" then x else .whole scope (.binary "!=" a .null) x.after
    ⟨fun before => if isPlain then before
        else .join before [x.leading true before, y.after (x.leading false before)],
      fun holds before =>
        if holds then
          .join before [x.leading true before, y.leading true (x.leading false before)]
        else y.leading false (x.leading false before)⟩
  else if operator = "," then
    ⟨fun before => y.after (x.after before), fun holds before => y.leading holds (x.after before)⟩
  else .whole scope (.binary operator a b) fun before => y.after (x.after before)

mutual

/-- The steps of a value. -/
def stepsOf (scope : Scope) : Expr → Steps
  | .group e => stepsOf scope e
  | .truth value =>
    ⟨id, fun holds before => if value = holds then before else .unreachable⟩
  | .assign operator target value => .ofAssignment scope operator target value (stepsOf scope value)
  | .count e => .whole scope (.count e) (·.assigning scope (.counted e))
  | .unary operator e =>
    let x := stepsOf scope e
    if operator = "!" then ⟨x.after, fun holds before => x.leading (!holds) before⟩
    else .whole scope (.unary operator e) fun before =>
      if operator = "++" || operator = "--" then before.assigning scope (.counted e)
      else if operator = "delete" then (x.after before).assigning scope (.removed e)
      else x.after before
  | .binary operator a b => .ofBinary scope operator a b (stepsOf scope a) (stepsOf scope b)
  | .conditional test yes no =>
    let t := stepsOf scope test
    let x := stepsOf scope yes
    let y := stepsOf scope no
    let isPlain := !(changes test || changes yes || changes no)
    .whole scope (.conditional test yes no) fun before => if isPlain then before
      else .join before [x.after (t.leading true before), y.after (t.leading false before)]
  | .call spot (.access object member isOptional) types arguments isOptionalCall =>
    let x := stepsOf scope object
    let inner := afterAll scope arguments
    let grows := (member = "push" || member = "unshift") && !isOptional && !isOptionalCall
      && types.isEmpty
    .whole scope (.call spot (.access object member isOptional) types arguments isOptionalCall)
      fun before =>
        let own := inner (x.after before)
        if grows then own.assigning scope (.grown object arguments) else own
  | .call spot callee types arguments isOptional =>
    let x := stepsOf scope callee
    let inner := afterAll scope arguments
    .whole scope (.call spot callee types arguments isOptional) fun before => inner (x.after before)
  | .construct spot callee types arguments =>
    let x := stepsOf scope callee
    let inner := afterAll scope arguments
    .whole scope (.construct spot callee types arguments) fun before => inner (x.after before)
  | .template start holes => .whole scope (.template start holes) (afterHoles scope holes)
  | .tagged spot tag types holes =>
    let x := stepsOf scope tag
    let inner := afterHoles scope holes
    .whole scope (.tagged spot tag types holes) fun before => inner (x.after before)
  | .array items => .whole scope (.array items) (afterAll scope items)
  | .spread e => .whole scope (.spread e) (stepsOf scope e).after
  | .object items => .whole scope (.object items) (afterItems scope items)
  | .access object member isOptional =>
    .whole scope (.access object member isOptional) (stepsOf scope object).after
  | .index object key isOptional =>
    let x := stepsOf scope object
    let y := stepsOf scope key
    .whole scope (.index object key isOptional) fun before => y.after (x.after before)
  | .instantiation e types => .whole scope (.instantiation e types) (stepsOf scope e).after
  | .cast e type => .whole scope (.cast e type) (stepsOf scope e).after
  | .constant e => .whole scope (.constant e) (stepsOf scope e).after
  | .satisfies e type => .whole scope (.satisfies e type) (stepsOf scope e).after
  | .assured e => .whole scope (.assured e) (stepsOf scope e).after
  | .awaited e => .whole scope (.awaited e) (stepsOf scope e).after
  | .yield delegates (some e) => .whole scope (.yield delegates (some e)) (stepsOf scope e).after
  | .fetched arguments => .whole scope (.fetched arguments) (afterAll scope arguments)
  | .markup isFragment values => .whole scope (.markup isFragment values) (afterAll scope values)
  | e => .whole scope e id

/-- Where values lead one after another. -/
def afterAll (scope : Scope) : List Expr → Flow → Flow
  | [] => id
  | e :: rest =>
    let x := stepsOf scope e
    let inner := afterAll scope rest
    fun before => inner (x.after before)

/-- Where the holes of a template lead. -/
def afterHoles (scope : Scope) : List ValueHole → Flow → Flow
  | [] => id
  | ⟨e, _⟩ :: rest =>
    let x := stepsOf scope e
    let inner := afterHoles scope rest
    fun before => inner (x.after before)

/-- Where the parts of an object lead. -/
def afterItems (scope : Scope) : List ObjectItem → Flow → Flow
  | [] => id
  | .property _ _ e :: rest =>
    let x := stepsOf scope e
    let inner := afterItems scope rest
    fun before => inner (x.after before)
  | .spread e :: rest =>
    let x := stepsOf scope e
    let inner := afterItems scope rest
    fun before => inner (x.after before)
  | _ :: rest => afterItems scope rest

end

/-- Where a value leads. -/
def after (scope : Scope) (before : Flow) (e : Expr) : Flow := (stepsOf scope e).after before

/-- Where a value leads as a test that comes out one way. -/
def leading (scope : Scope) (before : Flow) (holds : Bool) (e : Expr) : Flow :=
  (stepsOf scope e).leading holds before

namespace Env

/-- Where a value leads. -/
def after (env : Env) (e : Expr) : Env := { env with flow := Typing.after env.scope env.flow e }

/-- Where a value leads as a test that comes out one way. -/
def leading (env : Env) (holds : Bool) (e : Expr) : Env :=
  { env with flow := Typing.leading env.scope env.flow holds e }

end Env

/-! ## Values that hand something on -/

/-- What is made of the value that is handed back where something is yielded. -/
inductive Uptake where
  | nothing
  /-- It is of a type that is written with it. -/
  | written (type : TypeExpr)
  | pattern (p : Pattern)
  /-- It is assigned. -/
  | target (e : Expr)
  /-- It is handed to a call. -/
  | argument (call : Expr) (place : Nat)
  deriving Inhabited

/-- Something that is yielded; it delegates if the items of a value are yielded. -/
structure Yielded where
  delegates : Bool
  value : Option Expr
  uptake : Uptake
  deriving Inhabited

mutual

/-- What a value yields, in order, given what is made of the value. -/
def yields (u : Uptake) : Expr → List Yielded
  | .yield delegates value =>
    (match value with
      | some e => yields .nothing e
      | none => []) ++ [⟨delegates, value, u⟩]
  | .assign operator target value =>
    let isPlain := ["=", "&&=", "||=", "??="].contains operator
    yields .nothing target ++ yields (if isPlain then .target target else .nothing) value
  | .count e => yields .nothing e
  | .unary _ e => yields .nothing e
  | .call spot callee types arguments isOptional =>
    yields .nothing callee
      ++ allYields (some (.call spot callee types arguments isOptional)) 0 arguments
  | .construct _ callee _ arguments => yields .nothing callee ++ allYields none 0 arguments
  | .template _ holes => holeYields holes
  | .tagged _ tag _ holes => yields .nothing tag ++ holeYields holes
  | .array items => allYields none 0 items
  | .spread e => yields .nothing e
  | .object items => itemYields items
  | .access object _ _ => yields .nothing object
  | .index object key _ => yields .nothing object ++ yields .nothing key
  | .instantiation e _ => yields .nothing e
  | .binary operator a b =>
    let takesLeft := operator = "||" || operator = "??"
    let takesRight := takesLeft || operator = "&&" || operator = ","
    yields (if takesLeft then u else .nothing) a ++ yields (if takesRight then u else .nothing) b
  | .conditional test yes no => yields .nothing test ++ yields u yes ++ yields u no
  | .cast e t => yields (.written t) e
  | .constant e => yields .nothing e
  | .satisfies e t => yields (.written t) e
  | .assured e => yields u e
  | .awaited e => yields .nothing e
  | .group e => yields u e
  | .fetched arguments => allYields none 0 arguments
  | .markup _ values => allYields none 0 values
  | _ => []

/-- What values yield that are handed to a call from a place on, or stand side by side. -/
def allYields (call : Option Expr) (place : Nat) : List Expr → List Yielded
  | [] => []
  | e :: rest =>
    let u : Uptake := match call with
      | some c => .argument c place
      | none => .nothing
    yields u e ++ allYields call (place + 1) rest

/-- What the holes of a template yield. -/
def holeYields : List ValueHole → List Yielded
  | [] => []
  | ⟨e, _⟩ :: rest => yields .nothing e ++ holeYields rest

/-- What the parts of an object yield. -/
def itemYields : List ObjectItem → List Yielded
  | [] => []
  | .property _ _ e :: rest => yields .nothing e ++ itemYields rest
  | .spread e :: rest => yields .nothing e ++ itemYields rest
  | _ :: rest => itemYields rest

end

end TypeLineage.Typing
