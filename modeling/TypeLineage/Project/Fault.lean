import TypeLineage.Json.Printer
import TypeLineage.Project.CommentedJson
import TypeLineage.Project.Option
import TypeLineage.Text.CodeUnits

/-! # Faults of project configurations

    What can be wrong with a configuration that is an object, and how it is
    said.  A configuration may have several faults; they are told in the order
    in which they are met. -/

/-! ## Likeness of words

    How far two words are apart is counted in tenths: ten for a character that
    only one of them has, twenty for two characters that differ, one for two
    that differ in case.  `closest?` finds, among known words, the one a
    mistyped word most likely stands for. -/

namespace TypeLineage.Text

/-- What it costs to put one character in the place of another. -/
def substitutionCost (a b : Char) : Nat :=
  if a = b then 0 else if a.toLower = b.toLower then 1 else 20

/-- The distances from a word that ends in `a` to the beginnings of `bs`, from
    the distances of the word without that `a`: `diagonal` and `above` are the
    distances of the shorter word, `left` the one found last. -/
def nextDistances (a : Char) (left diagonal : Nat) : List Char → List Nat → List Nat
  | b :: bs, above :: row =>
    let d := if a = b then diagonal
      else min (min (above + 10) (left + 10)) (diagonal + substitutionCost a b)
    d :: nextDistances a d above bs row
  | _, _ => []

/-- The distances from no word to the beginnings of a word. -/
def firstDistances (bs : List Char) : List Nat :=
  (List.range (bs.length + 1)).map (10 * ·)

/-- The distance between two words, in tenths. -/
def wordDistance (a b : String) : Nat :=
  let bs := b.toList
  let row := a.toList.foldl (fun row c =>
    match row with
    | first :: rest => (first + 10) :: nextDistances c (first + 10) first bs rest
    | [] => []) (firstDistances bs)
  row.getLast?.getD 0

/-- The word is of a length to be compared with another: short words only when
    they differ in case alone. -/
def isComparable (word known : String) : Bool :=
  let n := word.length
  let m := known.length
  let widest := max 2 (n * 34 / 100)
  n ≤ m + widest && m ≤ n + widest && word ≠ known
    && (3 ≤ m || word.toLower = known.toLower)

/-- The known word closest to `word`, the first of several; none when even the
    closest is too far away to be meant. -/
def closest? (word : String) (known : List String) : Option String :=
  let farthest := (word.length * 4 / 10 + 1) * 10
  (known.foldl (fun (best : Nat × Option String) k =>
    if isComparable word k && wordDistance word k < best.1 then (wordDistance word k, some k)
    else best) (farthest, none)).2

end TypeLineage.Text

namespace TypeLineage.Project

/-! ## What can be wrong -/

/-- What can be wrong with a configuration. -/
inductive Fault where
  | unknownOption (family : OptionFamily) (name : String)
  | wrongKind (name kind : String)
  | notAChoice (name : String) (words : List String)
  | onlyCommandLine (name : String)
  | excludesForExclude
  | emptyFiles (path : String)
  | noInputs (path : String) (includes excludes : List Json)
  | trailingRecursion (spec : String)
  | parentAfterRecursion (spec : String)
  | baseNotFound (name : String)
  | baseNameless
  | baseUnreadable (path : String)
  | circular (paths : List String)
  | malformed (fileName : String) (fault : CommentedJson.Fault)
  deriving Repr

/-- The words that tell of a configuration that takes in no file. -/
def noInputsWords : String := "No inputs were found in config file"

/-- An unknown option, with what it may be meant for. -/
def unknownOptionMessage (family : OptionFamily) (name : String) : String :=
  if family = .compiler
      && (buildOptions.contains name.toLower || sharedOptions.contains name.toLower) then
    "Compiler option '--" ++ name ++ "' may only be used with '--build'."
  else if family = .compiler && name.toLower = "build" then
    "Option '--build' must be the first command line argument."
  else
    let plain := "Unknown " ++ family.word ++ " option '" ++ name ++ "'."
    match Text.closest? name (family.options.map (·.1)) with
    | some known => plain ++ " Did you mean '" ++ known ++ "'?"
    | none => plain

/-- The fault in words. -/
def Fault.message : Fault → String
  | .unknownOption family name => unknownOptionMessage family name
  | .wrongKind name kind =>
    "Compiler option '" ++ name ++ "' requires a value of type " ++ kind ++ "."
  | .notAChoice name words =>
    "Argument for '--" ++ name ++ "' option must be: "
      ++ ", ".intercalate (words.map fun w => "'" ++ w ++ "'") ++ "."
  | .onlyCommandLine name =>
    "Option '" ++ name ++ "' can only be specified on command line."
  | .excludesForExclude => "Unknown option 'excludes'. Did you mean 'exclude'?"
  | .emptyFiles path => "The 'files' list in config file '" ++ path ++ "' is empty."
  | .noInputs path includes excludes =>
    noInputsWords ++ " '" ++ path ++ "'. Specified 'include' paths were '"
      ++ (Json.array includes).text 0 ++ "' and 'exclude' paths were '"
      ++ (Json.array excludes).text 0 ++ "'."
  | .trailingRecursion spec =>
    "File specification cannot end in a recursive directory wildcard ('**'): '" ++ spec ++ "'."
  | .parentAfterRecursion spec =>
    "File specification cannot contain a parent directory ('..') that appears after a recursive "
      ++ "directory wildcard ('**'): '" ++ spec ++ "'."
  | .baseNotFound name => "File '" ++ name ++ "' not found."
  | .baseNameless => "Compiler option 'extends' cannot be given an empty string."
  | .baseUnreadable path => "Cannot read file '" ++ path ++ "'."
  | .circular paths =>
    "Circularity detected while resolving configuration: " ++ " -> ".intercalate paths
  | .malformed fileName fault => fault.message fileName

/-- What is wrong with the value of an option of a kind. -/
def checkValue (name : String) : OptionKind → Json → List Fault
  | .commandLine, _ => [.onlyCommandLine name]
  | .choice words, .string word =>
    if words.contains word.toLower then []
    else [.notAChoice name (words.filter (!outdatedWords.contains ·))]
  | .list item element, .array items => items.flatMap (checkValue item element)
  | kind, value => if kind.admits value then [] else [.wrongKind name kind.word]

/-- What is wrong with an option of a family. -/
def checkOption (family : OptionFamily) (name : String) (value : Json) : List Fault :=
  match family.options.lookup name with
  | none => [.unknownOption family name]
  | some kind => checkValue name kind value

end TypeLineage.Project
