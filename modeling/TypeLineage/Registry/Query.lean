import TypeLineage.Registry.Hierarchy

/-! # Queries by name

    A query is an operation with arguments, and its answer a list of lines.
    Types that are not registered give no lines; only an operation that does
    not exist or a wrong number of arguments is an error. -/

namespace TypeLineage

/-- What can be asked. -/
inductive Operation where
  | show
  | subclasses
  | implementers
  | mixin
  | anyBase
  | descendants
  | generic
  | genericArgument
  | tree
  | typeMap
  deriving DecidableEq, Repr

namespace Operation

/-- All operations, in the order they are listed. -/
def all : List Operation :=
  [.show, .subclasses, .implementers, .mixin, .anyBase, .descendants, .generic,
    .genericArgument, .tree, .typeMap]

/-- The word for an operation. -/
def word : Operation → String
  | .show => "show"
  | .subclasses => "subclasses"
  | .implementers => "implementers"
  | .mixin => "mixin"
  | .anyBase => "any-base"
  | .descendants => "descendants"
  | .generic => "generic"
  | .genericArgument => "generic-arg"
  | .tree => "tree"
  | .typeMap => "type-map"

/-- The names of the arguments, as a usage line shows them. -/
def parameters : Operation → List String
  | .show => ["<Type>"]
  | .subclasses => ["<Base>"]
  | .implementers => ["<Interface>"]
  | .mixin => ["<Mixin>"]
  | .anyBase => ["<Base...>"]
  | .descendants => ["<Base>"]
  | .generic => ["<Base>", "<Param>", "<ConcreteType>"]
  | .genericArgument => ["<Type>", "<Base>", "<Param>"]
  | .tree => ["<Root>"]
  | .typeMap => []

/-- The operation a word stands for. -/
def ofWord? (word : String) : Option Operation := all.find? (·.word = word)

/-- The operation takes that many arguments. -/
def takes (o : Operation) (count : Nat) : Bool :=
  if o = .anyBase then 1 ≤ count else count = o.parameters.length

end Operation

/-- Why a query has no answer. -/
inductive QueryError where
  | unknownOperation (word : String)
  | wrongArguments (operation : Operation)
  deriving DecidableEq, Repr

/-- The error in words. -/
def QueryError.message : QueryError → String
  | .unknownOperation word =>
    "Unknown query operation: " ++ word ++ " (expected one of "
      ++ ", ".intercalate (Operation.all.map Operation.word) ++ ")"
  | .wrongArguments operation =>
    "Usage: query " ++ " ".intercalate (operation.word :: operation.parameters)

namespace TypeFact

/-- A line for a list, unless it is empty. -/
def listLine (label : String) (names : List String) : List String :=
  if names.isEmpty then [] else [label ++ ", ".intercalate names]

/-- Everything a fact says, line by line. -/
def details (f : TypeFact) : List String :=
  let bindings := Text.sortByUnits (·.1) f.genericArguments
  [f.describe]
    ++ listLine "  extends " f.superclass.toList
    ++ listLine "  implements " f.interfaces
    ++ listLine "  mixins " f.mixins
    ++ listLine "  type parameters " f.typeParameters
    ++ bindings.map (fun b => "  " ++ b.1 ++ " = " ++ b.2)
    ++ f.methods.map (fun m => "  method " ++ m.signature)
    ++ f.properties.map ("  property " ++ ·)

end TypeFact

namespace Registry

/-- A text cut at its line feeds, without the one at its end. -/
def linesOf (text : String) : List String :=
  if text = "" then [] else ((text.dropEnd 1).toString.splitOn "\n")

/-- The answer to an operation with the right number of arguments. -/
def answer (r : Registry) : Operation → List String → List String
  | .show, name :: _ => ((r.find? name).map TypeFact.details).getD []
  | .subclasses, base :: _ => r.subclassNames base
  | .implementers, base :: _ => (r.implementersOf base).map (·.name)
  | .mixin, base :: _ => (r.mixinUsersOf base).map (·.name)
  | .anyBase, bases => (r.findByAnyBase (distinct bases)).map (·.name)
  | .descendants, base :: _ => (r.descendantsOf base).map (·.name)
  | .generic, base :: param :: argument :: _ =>
    (r.findByGenericArgument base param argument).map (·.name)
  | .genericArgument, name :: base :: param :: _ =>
    ((r.find? name).bind (·.genericArgument? base param)).toList
  | .tree, root :: _ => linesOf (r.renderHierarchy root)
  | .typeMap, _ => (r.typeMap (·.name)).map fun (key, name) => key ++ "\t" ++ name
  | _, _ => []

/-- The lines that answer a query. -/
def query (r : Registry) (word : String) (arguments : List String) :
    Except QueryError (List String) :=
  match Operation.ofWord? word with
  | none => .error (.unknownOperation word)
  | some operation =>
    if operation.takes arguments.length then .ok (r.answer operation arguments)
    else .error (.wrongArguments operation)

end Registry

end TypeLineage
