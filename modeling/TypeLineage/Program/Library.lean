import Std.Data.HashMap
import TypeLineage.Library.Part
import TypeLineage.Program.Entity

/-! # The language's library in a program

    The library declares names that every file sees.  It comes in parts; which
    of them a project sees follows from its options and from what its files ask
    for. -/

namespace TypeLineage.Program

open Source

/-- The files of the library are counted from here, behind those of any program. -/
def libraryStart : Nat := 1048576

/-- What the library declares. -/
def Key.isOfLibrary (k : Key) : Bool := k.file ≥ libraryStart

/-- The file of a part of the library. -/
def libraryFile (part : Nat) : SourceFile :=
  { place := ["library"], index := libraryStart + part, isAmbient := true, isModule := false
    statements := [], references := [], libraries := [], packages := [], pragmas := []
    isPlain := false, size := 0 }

/-- The names of a statement of the library, with what they stand for. -/
def libraryNames (scope : Scope) : Statement → List (String × Entity)
  | .declaration _ _ (.type d) => [(d.name.getD "", .type d scope)]
  | .declaration _ _ (.synonym spot name ps body) => [(name, .synonym spot name ps body scope)]
  | .declaration _ _ (.function f) => [(f.name.getD "", .function f scope)]
  | .declaration _ _ (.variables binding vs) => vs.flatMap fun v =>
      (namesOf v.pattern).map fun (n, spot) => (n, .variable ⟨n, spot, binding, v, .initial, false⟩ scope)
  | .space _ isAmbient (.path first _) body => [(first, .space ⟨first, body, isAmbient⟩ scope)]
  | _ => []

/-- What the parts of the library declare, with the numbers of the parts. -/
def libraryDeclarations : List (Nat × List (String × Entity)) :=
  Library.Part.all.zipIdx.map fun (part, number) =>
    let scope : Scope := ⟨libraryFile number, []⟩
    (number, (Library.declarations part.lines).flatMap (libraryNames scope))

/-- What the library declares under each name, with the numbers of the parts. -/
def libraryTable : Std.HashMap String (List (Nat × Entity)) :=
  libraryDeclarations.foldl (fun table (number, declared) =>
    declared.foldl (fun table (name, e) =>
      table.alter name fun known => some ((known.getD []) ++ [(number, e)])) table) ∅

/-- What the parts of the library that are seen declare under a name. -/
def libraryEntities (seen : Array Bool) (name : String) : List Entity :=
  ((libraryTable.getD name []).filter fun (number, _) => seen.getD number false).map (·.2)

/-- The names that the parts of the library that are seen declare. -/
def namesOfLibrary (seen : Array Bool) : List String :=
  libraryDeclarations.flatMap fun (number, declared) =>
    if seen.getD number false then declared.map (·.1) else []

/-- The editions of the language, by their words. -/
def editionOf? (word : String) : Option Nat :=
  match word.toLower with
  | "es3" => some 3
  | "es5" => some 5
  | "es6" | "es2015" => some 2015
  | "es2016" => some 2016
  | "es2017" => some 2017
  | "es2018" => some 2018
  | "es2019" => some 2019
  | "es2020" => some 2020
  | "es2021" => some 2021
  | "es2022" => some 2022
  | "es2023" => some 2023
  | "es2024" => some 2024
  | "esnext" => some latestEdition
  | _ => none
where
  /-- It comes after all others. -/
  latestEdition : Nat := 9999

/-- The edition of the language that a project's programs run under. -/
def targetOf (options : Project.Options) : Nat :=
  let own := (wordOf? options "target").bind editionOf?
  match own with
  | some edition => max 5 edition
  | none => match wordOf? options "module" with
    | some "node16" | some "node18" => 2022
    | some "node20" => 2023
    | some "nodenext" => 9999
    | _ => 5

/-- The parts of the library that a project asks for by name. -/
def libraryNamesOf (options : Project.Options) : List String :=
  if (options.flag? "noLib").getD false then []
  else match options.value? "lib" with
    | some (.array words) => words.filterMap Json.string?
    | _ =>
      let target := targetOf options
      let browser := ["dom", "webworker.importscripts", "scripthost"]
      if target < 2015 then "es5" :: browser
      else if target = 2015 then "es2015" :: "dom.iterable" :: browser
      else
        let edition := if target = 9999 then "esnext" else "es" ++ toString target
        edition :: "dom.iterable" :: "dom.asynciterable" :: browser

/-- What the options of a project say about types. -/
structure Settings where
  /-- Which parts of the library are seen. -/
  library : Array Bool
  /-- The edition of the language that programs run under. -/
  target : Nat
  /-- What is not a list can be gone through under an early edition too. -/
  stepsEarly : Bool
  /-- Null and undefined are types of their own. -/
  strictNull : Bool
  /-- What is not known is told apart from what may be anything. -/
  noImplicitAny : Bool
  /-- Functions in an object as it is written speak of that object. -/
  noImplicitThis : Bool
  strictFunctions : Bool
  strictBind : Bool
  /-- What failed is of an unknown type. -/
  unknownFailure : Bool
  /-- What is left out differs from undefined. -/
  exactOptional : Bool
  /-- What stands under an index may be missing. -/
  uncheckedIndex : Bool
  /-- The iterators of the library give nothing at their end. -/
  strictIterators : Bool
  /-- What stands in place of a whole file counts as its default too. -/
  wholeIsDefault : Bool
  /-- Long texts of types are told to their end. -/
  tellsAll : Bool
  markup : MarkupForm
  deriving DecidableEq, Repr, Inhabited

/-- What stands in place of a whole file counts as its default too. -/
def takesWholeAsDefault (options : Project.Options) : Bool :=
  let word := wordOf? options "module"
  (options.flag? "allowSyntheticDefaultImports").getD
    (((options.flag? "esModuleInterop").getD
      ((word.map fun w => platformModules.contains w || w = "preserve").getD false))
      || word = some "system" || Way.ofOptions options = .exports)

/-- What the options of a project say about types, where its files ask for parts of the
    library too. -/
def Settings.ofOptions (options : Project.Options) (libraries : List String) : Settings :=
  let isStrict := (options.flag? "strict").getD false
  let strict (key : String) : Bool := (options.flag? key).getD isStrict
  { library := Library.Part.seen (libraryNamesOf options ++ libraries)
    target := targetOf options
    stepsEarly := (options.flag? "downlevelIteration").getD false
    strictNull := strict "strictNullChecks"
    noImplicitAny := strict "noImplicitAny"
    noImplicitThis := strict "noImplicitThis"
    strictFunctions := strict "strictFunctionTypes"
    strictBind := strict "strictBindCallApply"
    unknownFailure := strict "useUnknownInCatchVariables"
    exactOptional := (options.flag? "exactOptionalPropertyTypes").getD false
    uncheckedIndex := (options.flag? "noUncheckedIndexedAccess").getD false
    strictIterators := strict "strictBuiltinIteratorReturn"
    wholeIsDefault := takesWholeAsDefault options
    tellsAll := (options.flag? "noErrorTruncation").getD false
    markup := .ofOptions options }

end TypeLineage.Program
