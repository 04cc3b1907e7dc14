import TypeLineage.Typing.Flow.Value

/-! # Ways through statements

    Statements lead on to their end, or leave it: they give a result, fail, or
    leave a loop.  A loop is gone through twice: first from its head alone, to
    find the ways back, then from its head with these. -/

namespace TypeLineage.Typing

open Source Program

/-- What is met on the ways through statements. -/
structure Exits where
  results : List (Option Expr × Env)
  yielded : List (Yielded × Env)
  /-- The ways that leave a loop or another statement, with its label. -/
  breaks : List (Option String × Flow)
  /-- The ways that begin a loop again. -/
  agains : List (Option String × Flow)
  /-- The ways to declared variables. -/
  places : List (Key × Flow)
  /-- The ways on which something may have been changed before a failure. -/
  failures : List Flow
  /-- What a script leaves in the object itself, by name. -/
  left : List (String × Expr × Env)
  deriving Inhabited

namespace Exits

/-- Nothing is met. -/
def none : Exits := ⟨[], [], [], [], [], [], []⟩

/-- What is met on one way and then on another. -/
def append (a b : Exits) : Exits :=
  ⟨a.results ++ b.results, a.yielded ++ b.yielded, a.breaks ++ b.breaks, a.agains ++ b.agains,
    a.places ++ b.places, a.failures ++ b.failures, a.left ++ b.left⟩

instance : Append Exits := ⟨append⟩

/-- What is met where a value is looked at, given what is made of it. -/
def ofTaken (u : Uptake) (env : Env) (e : Expr) : Exits :=
  { none with
    yielded := (Typing.yields u e).map (·, env)
    failures := if changes e then [(env.after e).flow] else []
    left := if env.scope.file.isScript then e.left.map fun (n, v) => (n, v, env) else [] }

/-- What is met where a value is looked at. -/
def ofValue (env : Env) (e : Expr) : Exits := ofTaken .nothing env e

/-- What is met where a value is looked at, if there is one. -/
def ofValue? (env : Env) : Option Expr → Exits
  | some e => ofValue env e
  | .none => none

/-- The ways that leave a statement without a label, or with one of some labels. -/
def leaving (labels : List String) (ways : List (Option String × Flow)) : List Flow :=
  (ways.filter fun (label, _) => label.all labels.contains).map (·.2)

/-- What is left of what is met when a loop with some labels is behind. -/
def outside (labels : List String) (x : Exits) : Exits :=
  { x with
    breaks := x.breaks.filter fun (label, _) => !label.all labels.contains
    agains := x.agains.filter fun (label, _) => !label.all labels.contains }

end Exits

/-! ## Variables -/

/-- The ways to the names that a variable declares. -/
def placesOf (scope : Scope) (flow : Flow) (v : Variable) : List (Key × Flow) :=
  (namesOf v.pattern).map fun (name, spot) => (scope.key spot name, flow)

/-- Where declared variables lead. -/
def walkVariables (scope : Scope) : Flow → List Variable → Flow × Exits
  | flow, [] => (flow, .none)
  | flow, v :: rest =>
    let uptake : Uptake := match v.type, v.pattern with
      | some t, _ => .written t
      | none, .name .. => .nothing
      | none, p => .pattern p
    let met := match v.initial with
      | some e => Exits.ofTaken uptake ⟨scope, flow⟩ e
      | none => .none
    let own : Exits := { met with places := placesOf scope flow v }
    let behind := match v.initial with
      | some e => (after scope flow e).assigning scope (.declared v .initial)
      | none => flow
    let (last, others) := walkVariables scope behind rest
    (last, own ++ others)

/-- The scope of a loop, and the flow and what is met where it begins. -/
def walkStart (scope : Scope) (flow : Flow) : LoopStart → Scope × Flow × Exits
  | .none => (scope, flow, .none)
  | .variables binding vs =>
    let inner := if binding = .function then scope else scope.enter (.variables binding vs .initial)
    let (behind, own) := walkVariables inner flow vs
    (inner, behind, own)
  | .value e => (scope, after scope flow e, .ofValue ⟨scope, flow⟩ e)

/-- The scope in a loop over items, what is met where it begins, and where taking an item
    leads. -/
def walkItem (scope : Scope) (flow : Flow) (source : VariableSource) :
    LoopStart → Scope × Exits × (Flow → Flow)
  | .none => (scope, .none, id)
  | .variables binding vs =>
    let inner := if binding = .function then scope else scope.enter (.variables binding vs source)
    let own : Exits := { Exits.none with places := vs.flatMap (placesOf inner flow) }
    (inner, own, fun f => vs.foldl (fun f v => f.assigning inner (.declared v source)) f)
  | .value e => (scope, .none, (·.assigning scope (.looped e source)))

/-- The value is reached by names alone. -/
def isDotted : Expr → Bool
  | .name _ => true
  | .self => true
  | .group e => isDotted e
  | .access object _ _ => isDotted object
  | _ => false

/-- Where a value leads that is a statement. -/
def afterStatement (scope : Scope) (flow : Flow) : Expr → Flow
  | .group e => afterStatement scope flow e
  | .binary "," a b => afterStatement scope (afterStatement scope flow a) b
  | e =>
    let behind := after scope flow e
    match e with
    | .call _ callee _ _ _ =>
      if isDotted callee && !behind.isUnreachable then .call e scope flow behind else behind
    | _ => behind

/-- Where a value leads that is given to the outside under a name. -/
def walkGiven (scope : Scope) (flow : Flow) (name : String) (e : Expr) : Flow × Exits :=
  let key := (Entity.values 0 name false [e] scope).key
  (after scope flow e, { Exits.ofValue ⟨scope, flow⟩ e with places := [(key, flow)] })

/-! ## Statements -/

/-- The head of a loop with the ways back to it. -/
def loopOf (scope : Scope) (before : Flow) (spot : Nat) (back : List Flow) : Flow :=
  if before.isUnreachable then before
  else .loop scope.file.index spot before before (back.filter (!·.isUnreachable))

mutual

/-- Where a statement leads that has some labels. -/
def walk (scope : Scope) (flow : Flow) (labels : List String) : Statement → Flow × Exits
  | .declaration _ _ (.variables _ vs) => walkVariables scope flow vs
  | .space _ isAmbient name body => walkAll (scope.enterSpace isAmbient body name) flow body
  | .value e => (afterStatement scope flow e, .ofValue ⟨scope, flow⟩ e)
  | .exportValue inPlace e => walkGiven scope flow (if inPlace then "export=" else "default") e
  | .exportMember name e => walkGiven scope flow name e
  | .block ss => walkAll (scope.enter (.statements ss false)) flow ss
  | .conditional test yes no =>
    let (a, x) := walk scope (leading scope flow true test) [] yes
    let (b, y) := match no with
      | some s => walk scope (leading scope flow false test) [] s
      | none => (leading scope flow false test, .none)
    (.join flow [a, b], .ofValue ⟨scope, flow⟩ test ++ x ++ y)
  | .whileLoop spot test body =>
    let turn (from' : Flow) := walk scope (leading scope from' true test) [] body
    let (last, x) := turn (.head scope.file.index spot)
    let head := loopOf scope flow spot (last :: Exits.leaving labels x.agains)
    let (_, x) := turn head
    (.join head (leading scope head false test :: Exits.leaving labels x.breaks),
      .ofValue ⟨scope, head⟩ test ++ x.outside labels)
  | .doLoop spot body test =>
    let turn (from' : Flow) :=
      let (last, x) := walk scope from' [] body
      (Flow.join from' (last :: Exits.leaving labels x.agains), x)
    let (last, _) := turn (.head scope.file.index spot)
    let head := loopOf scope flow spot [leading scope last true test]
    let (last, x) := turn head
    (.join head (leading scope last false test :: Exits.leaving labels x.breaks),
      x.outside labels ++ .ofValue ⟨scope, last⟩ test)
  | .forLoop spot start test step body =>
    let (inner, flow, own) := walkStart scope flow start
    let tested (from' : Flow) (holds : Bool) : Flow := match test with
      | some e => leading inner from' holds e
      | none => if holds then from' else .unreachable
    let turn (from' : Flow) :=
      let (last, x) := walk inner (tested from' true) [] body
      let last := Flow.join from' (last :: Exits.leaving labels x.agains)
      (match step with
        | some e => after inner last e
        | none => last, x)
    let (last, _) := turn (.head scope.file.index spot)
    let head := loopOf inner flow spot [last]
    let (_, x) := turn head
    (.join head (tested head false :: Exits.leaving labels x.breaks), own ++ x.outside labels)
  | .forEach spot overKeys isAsync start subject body =>
    let source : VariableSource := if overKeys then .keys subject else .items isAsync subject
    let behind := after scope flow subject
    let (inner, own, taken) := walkItem scope flow source start
    let turn (from' : Flow) := walk inner (taken from') [] body
    let (last, x) := turn (.head scope.file.index spot)
    let head := loopOf scope behind spot (last :: Exits.leaving labels x.agains)
    let (_, x) := turn head
    (.join head (head :: Exits.leaving labels x.breaks),
      .ofValue ⟨scope, flow⟩ subject ++ own ++ x.outside labels)
  | .switch _ subject cases =>
    let behind := after scope flow subject
    let inner := scope.enter (.statements (cases.flatMap fun ⟨_, body⟩ => body) false)
    let (last, x) := walkCases inner subject cases behind 0 0 .unreachable cases
    let hasOther := cases.any fun ⟨value, _⟩ => value.isNone
    let rest := if hasOther || behind.isUnreachable then Flow.unreachable
      else .case subject cases 0 0 inner behind behind
    (.join behind (last :: rest :: Exits.leaving labels x.breaks),
      .ofValue ⟨scope, flow⟩ subject ++ { x.outside labels with agains := x.agains })
  | .attempt body handler last =>
    let (a, x) := walkAll (scope.enter (.statements body false)) flow body
    let broken := Flow.join flow (flow :: x.failures)
    let (b, y) := match handler with
      | some h => walkHandler scope broken h
      | none => (.unreachable, .none)
    let whole := Flow.join flow [a, b]
    let (c, z) := match last with
      | some ss =>
        let entered := if whole.isUnreachable then Flow.join flow (broken :: y.failures) else whole
        let (c, z) := walkAll (scope.enter (.statements ss false)) entered ss
        (if whole.isUnreachable then .unreachable else c, z)
      | none => (whole, .none)
    (c, x ++ y ++ z)
  | .result value =>
    (.unreachable,
      { Exits.ofValue? ⟨scope, flow⟩ value with results := [(value, ⟨scope, flow⟩)] })
  | .fail value => (.unreachable, .ofValue ⟨scope, flow⟩ value)
  | .leave label => (.unreachable, { Exits.none with breaks := [(label, flow)] })
  | .again label => (.unreachable, { Exits.none with agains := [(label, flow)] })
  | .labeled label body =>
    let (last, x) := walk scope flow (label :: labels) body
    let left := (x.breaks.filter (·.1 = some label)).map (·.2)
    (.join flow (last :: left), { x with breaks := x.breaks.filter (·.1 ≠ some label) })
  | _ => (flow, .none)

/-- Where statements lead. -/
def walkAll (scope : Scope) (flow : Flow) : List Statement → Flow × Exits
  | [] => (flow, .none)
  | s :: rest =>
    let (behind, x) := walk scope flow [] s
    let (last, y) := walkAll scope behind rest
    (last, x ++ y)

/-- Where the cases of a switch lead, given the place of the first of them, that of the first
    case that shares what it does, and where the case before leads. -/
def walkCases (scope : Scope) (subject : Expr) (all : List SwitchCase) (flow : Flow)
    (place first : Nat) (before : Flow) : List SwitchCase → Flow × Exits
  | [] => (before, .none)
  | ⟨_, body⟩ :: rest =>
    if body.isEmpty && !rest.isEmpty then
      walkCases scope subject all flow (place + 1) first before rest
    else
      let own := if flow.isUnreachable then flow
        else .case subject all first (place + 1) scope flow flow
      let (last, x) := walkAll scope (.join flow [own, before]) body
      let (last, y) := walkCases scope subject all flow (place + 1) (place + 1) last rest
      (last, x ++ y)

/-- Where the handling of a failure leads. -/
def walkHandler (scope : Scope) (flow : Flow) : Handler → Flow × Exits
  | ⟨pattern, type, body⟩ =>
    let inner := match pattern with
      | some p => scope.enter (.variables .block [⟨p, type, none⟩] .failure)
      | none => scope
    walkAll (inner.enter (.statements body false)) flow body

end

/-! ## Functions -/

/-- Where the body of a function begins. -/
def FunctionSite.entry (s : FunctionSite) : Flow :=
  match s.env.flow with
  | .start => .start
  | outside => .within outside

/-- The ways through the body of a function that is a block. -/
def FunctionSite.walk (s : FunctionSite) (body : List Statement) : Flow × Exits :=
  walkAll (s.scope.enter (.statements body true)) s.entry body

end TypeLineage.Typing
