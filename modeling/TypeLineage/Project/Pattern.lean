import TypeLineage.Text.CodeUnits
import TypeLineage.Files.Path

/-! # File patterns of configurations

    The patterns that say which files a project includes are stricter than
    globs: a wildcard takes no name that begins with a point, none of the
    folders that packages are installed in, and nothing that ends a minified
    file.  The patterns that exclude have plain wildcards and take, with a
    directory, all that is in it. -/

namespace TypeLineage.Project

/-- The folders that packages are installed in. -/
def packageFolders : List String := ["node_modules", "bower_components", "jspm_packages"]

/-- A part of a pattern for one name. -/
inductive Mark where
  | unit (u : Nat)
  /-- One code unit. -/
  | one
  /-- Any number of code units. -/
  | run
  deriving DecidableEq, Repr

/-- The marks of a part of a pattern. -/
def marksOf (part : String) : List Mark :=
  part.toList.flatMap fun c =>
    if c = '*' then [.run] else if c = '?' then [.one] else (Text.unitsOf c).map .unit

/-- The code unit of a point. -/
def pointUnit : Nat := '.'.toNat

/-- The end of a minified file behind its point. -/
def minifiedEnd : List Nat := Text.codeUnits "min.js"

/-- A wildcard may take the code unit before the given ones: not the point of a
    minified file's end, unless the pattern excludes. -/
def mayTake (excluding : Bool) (u : Nat) (rest : List Nat) : Bool :=
  excluding || u != pointUnit || rest != minifiedEnd

/-- The marks take all the code units. -/
def matchMarks (excluding : Bool) : List Mark → List Nat → Bool
  | [], [] => true
  | [], _ :: _ => false
  | .run :: ms, [] => matchMarks excluding ms []
  | .run :: ms, u :: us =>
    matchMarks excluding ms (u :: us)
      || (mayTake excluding u us && matchMarks excluding (.run :: ms) us)
  | _ :: _, [] => false
  | .unit v :: ms, u :: us => u == v && matchMarks excluding ms us
  | .one :: ms, _ :: us => matchMarks excluding ms us
termination_by ms us => ms.length + us.length

/-- The part has a wildcard or a point, and so leaves out package folders. -/
def isGuarded (part : String) : Bool :=
  part.toList.any fun c => c = '*' || c = '?' || c = '.'

/-- An including part takes the name. -/
def includesName (part name : String) : Bool :=
  let marks := marksOf part
  let units := Text.codeUnits name
  let guarded := isGuarded part && packageFolders.contains name
  let hidden := units.head? == some pointUnit && match marks with
    | .run :: rest => !matchMarks false rest units
    | .one :: _ => true
    | _ => false
  !guarded && !hidden && matchMarks false marks units

/-- A directory that a pattern for any depth goes into. -/
def isOpen (name : String) : Bool :=
  !name.startsWith "." && !packageFolders.contains name

/-- The parts of an including pattern take the names of a file. -/
def includesFile : List String → List String → Bool
  | [], [] => true
  | [], _ :: _ => false
  | "**" :: parts, [] => includesFile parts []
  | "**" :: parts, name :: names =>
    includesFile parts (name :: names) || (isOpen name && includesFile ("**" :: parts) names)
  | _ :: _, [] => false
  | part :: parts, name :: names => includesName part name && includesFile parts names
termination_by parts names => parts.length + names.length

/-- The parts of an excluding pattern take a beginning of the names. -/
def excludesFile : List String → List String → Bool
  | [], _ => true
  | "**" :: parts, [] => excludesFile parts []
  | "**" :: parts, name :: names =>
    excludesFile parts (name :: names) || excludesFile ("**" :: parts) names
  | _ :: _, [] => false
  | part :: parts, name :: names =>
    matchMarks true (marksOf part) (Text.codeUnits name) && excludesFile parts names
termination_by parts names => parts.length + names.length

/-- The parts of a written pattern, from the root of all files on.  A last part
    without point and wildcard is a directory and stands for all in it. -/
def partsOf (base : Place) (spec : String) : List String :=
  let parts := Path.resolve base (Path.toPosix spec)
  match parts.getLast? with
  | some part => if isGuarded part then parts else parts ++ ["**", "*"]
  | none => ["**", "*"]

/-- An including pattern takes a file.  An empty one takes none. -/
def isIncludedBy (base : Place) (spec : String) (file : Place) : Bool :=
  spec ≠ "" && includesFile (partsOf base spec) file

/-- An excluding pattern takes a file or a directory it is in; an empty one
    takes none. -/
def isExcludedBy (base : Place) (spec : String) (file : Place) : Bool :=
  spec ≠ "" && excludesFile (partsOf base spec) file

/-- The pattern ends at any depth, and names no files. -/
def endsRecursive (spec : String) : Bool :=
  match (Path.segments spec).reverse with
  | "" :: "**" :: _ => true
  | "**" :: _ => true
  | _ => false

/-- A parent directory follows a pattern for any depth, or a last name that
    ends like one. -/
def climbsAfterRecursion (spec : String) : Bool :=
  match (Path.segments spec).dropWhile (· ≠ "**") with
  | _ :: name :: names => (name :: names).contains ".." || spec.endsWith ".."
  | _ => false

end TypeLineage.Project
