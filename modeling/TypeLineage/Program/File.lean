import TypeLineage.Program.Markup
import TypeLineage.Program.Search
import TypeLineage.Source.Script

/-! # The files of a program

    A program starts from the files that were scanned and takes in what they
    import.  Its files are in the order in which they are complete: a file
    comes after those it refers to, except where they refer to one another. -/

namespace TypeLineage.Program

open Source

/-- A file as another one names it. -/
structure Reference where
  name : String
  demand : Demand
  deriving DecidableEq, Repr, Inhabited

/-- A file of the program. -/
structure SourceFile where
  place : Place
  /-- Tells the file from the others; zero is the library's. -/
  index : Nat
  /-- Only declares what is defined elsewhere. -/
  isAmbient : Bool
  /-- Shares no names with others but those it exports. -/
  isModule : Bool
  statements : List Statement
  /-- The names of the files it refers to, in order. -/
  references : List Reference
  /-- The parts of the library that it asks for. -/
  libraries : List String
  /-- The packages of declarations that it asks for. -/
  packages : List String
  pragmas : Pragmas
  /-- It is a script that takes in files and gives to others by plain values. -/
  isPlain : Bool
  /-- How many characters its text has. -/
  size : Nat
  deriving Inhabited

/-! ## Reading files -/

/-- The files a statement refers to. -/
def statementReferences : Statement → List Reference
  | .importNames file _ _ _ => [⟨file, .names⟩]
  | .importFile _ _ file => [⟨file, .value⟩]
  | .exportNames (some file) _ => [⟨file, .names⟩]
  | .exportAll file _ => [⟨file, .names⟩]
  | _ => []

/-- What a quoted value behind a key in a comment is. -/
def attribute? (key line : List Char) : Option String :=
  match line with
  | [] => none
  | _ :: rest =>
    if key.isPrefixOf line then
      match line.drop key.length with
      | quote :: value =>
        if quote = '"' ∨ quote = '\'' then some (String.ofList (value.takeWhile (· ≠ quote)))
        else attribute? key rest
      | [] => none
    else attribute? key rest

/-- What comments at the head of a text say behind a key about what the text refers to. -/
def headReferences (key : String) : Nat → List Char → List String
  | 0, _ => []
  | fuel + 1, cs =>
    match cs.dropWhile fun c => isGap c || isBreak c with
    | '/' :: '/' :: rest =>
      let line := rest.takeWhile (!isBreak ·)
      let found := if line.head? = some '/' && Project.occursIn "<reference".toList line
          && Project.occursIn "/>".toList line then
        (attribute? (key ++ "=").toList line).toList else []
      found ++ headReferences key fuel (rest.dropWhile (!isBreak ·))
    | '/' :: '*' :: rest => headReferences key fuel (afterComment rest).2
    | _ => []

/-- The file is one of declarations. -/
def isDeclarationFile (place : Place) : Bool :=
  let name := lastName place
  name.endsWith ".d.ts" || name.endsWith ".d.mts" || name.endsWith ".d.cts"

/-- A path in a comment leads from the file, also without a mark. -/
def relativeName (path : String) : String := if isRelative path then path else "./" ++ path

/-- The statement makes its file one that shares no names with others. -/
def marksModule : Statement → Bool
  | .declaration visibility _ _ => visibility != .inner
  | .space visibility _ _ _ => visibility != .inner
  | .importFile _ _ _ => true
  | .importNames .. => true
  | .importPath visibility _ _ => visibility != .inner
  | .exportNames .. => true
  | .exportAll .. => true
  | .exportValue .. => true
  | .exportMember .. => true
  | _ => false

/-- Which files share no names with others. -/
inductive ModuleDetection where
  /-- Those that import or export something. -/
  | byContent
  /-- Those, and the ones whose ending says so. -/
  | byEnding
  /-- All that do not only declare what is defined elsewhere. -/
  | always
  deriving DecidableEq, Repr, Inhabited

/-- The detection that a project's options ask for. -/
def ModuleDetection.ofOptions (options : Project.Options) : ModuleDetection :=
  let word (key : String) := (((options.value? key).bind Json.string?).map String.toLower)
  match word "moduleDetection" with
  | some "legacy" => .byContent
  | some "force" => .always
  | some _ => .byEnding
  | none => if ((word "module").map (["node16", "node18", "node20", "nodenext"].contains ·)).getD false
      then .always else .byEnding

/-- The file at a place shares no names with others. -/
def ModuleDetection.holds (m : ModuleDetection) (place : Place) (statements : List Statement)
    (isMarked : Bool) : Bool :=
  let name := lastName place
  let declares := isDeclarationFile place
  statements.any marksModule || match m with
    | .byContent => false
    | .byEnding => !declares && (isMarked
        || [".mts", ".cts", ".mjs", ".cjs"].any fun ending => name.endsWith ending)
    | .always => !declares

/-- The file is a script, whose types are not written. -/
def isScriptFile (place : Place) : Bool :=
  [".js", ".jsx", ".mjs", ".cjs"].contains (splitEnding (lastName place)).2

/-- The file is a script. -/
def SourceFile.isScript (f : SourceFile) : Bool := isScriptFile f.place

/-- The file holds a value. -/
def isValueFile (place : Place) : Bool := (splitEnding (lastName place)).2 = ".json"

/-- The file of a text. -/
def SourceFile.read (m : ModuleDetection) (form : MarkupForm) (place : Place) (cs : List Char) :
    SourceFile :=
  let isAmbient := isDeclarationFile place
  let hasMarkup := (lastName place).endsWith ".tsx" || isScriptFile place
  if isValueFile place then
    let value : Passage := .start hasMarkup false cs
    { place, index := 0, isAmbient, isModule := true
      statements := [.exportValue true value.value], references := [], libraries := []
      packages := [], pragmas := [], isPlain := false, size := cs.length }
  else
    let (statements, inner, usesMarkup, isPlain) :=
      if isScriptFile place then
        let (items, inner, usesMarkup) := readScript cs
        let (statements, isPlain) := statementsOfScript marksModule items
        (statements, inner, usesMarkup, isPlain)
      else
        let (statements, inner, usesMarkup) := readSource isAmbient hasMarkup cs
        (statements, inner, usesMarkup, false)
    let head (key : String) := headReferences key (cs.length + 1) cs
    let pragmas := Pragmas.atHead (cs.length + 1) cs
    let isModule := m.holds place statements (form.marksFiles && usesMarkup)
    let implied := if isModule && !isAmbient then (form.fileFor pragmas).toList else []
    { place, index := 0, isAmbient, isModule, statements, pragmas, isPlain
      size := cs.length
      libraries := head "lib"
      packages := head "types"
      references := (head "path").map (⟨relativeName ·, .value⟩)
        ++ implied.map (⟨·, .names⟩) ++ statements.flatMap statementReferences ++ inner.map (⟨·, .names⟩) }

/-- The file with all namespaces of paths written out. -/
def SourceFile.unfolded (f : SourceFile) : SourceFile :=
  { f with statements := unfoldedAll f.statements }

/-- The files of a program, and how their names for one another are read. -/
structure Sources where
  tree : FileTree
  resolution : Resolution
  files : List SourceFile

/-- The file that a name stands for in the file at a place. -/
def Sources.locate (s : Sources) (from' : Place) (demand : Demand) (name : String) :
    Option Place :=
  s.resolution.locate s.tree from' demand name

/-- The file at a place. -/
def Sources.file? (s : Sources) (place : Place) : Option SourceFile :=
  s.files.find? (·.place = place)

/-- The files with all namespaces of paths written out. -/
def Sources.unfolded (s : Sources) : Sources := { s with files := s.files.map SourceFile.unfolded }

/-- What has been taken in: the places that were come upon, and the files that
    are complete. -/
structure Gathered where
  seen : List Place
  files : List SourceFile

/-- The directories below which packages of declarations lie. -/
def packageRoots (options : Project.Options) (directory : Place) : List Place :=
  match (options.value? "typeRoots").bind Json.array? with
  | some texts => (texts.filterMap Json.string?).map (Path.resolve directory)
  | none => (Project.ancestors directory).map (· ++ [Project.packageDirectory, "@types"])

/-- Takes in a file behind those it refers to. -/
def gather (t : FileTree) (r : Resolution) (m : ModuleDetection) (form : MarkupForm)
    (roots : List Place) : (fuel : Nat) → Gathered → Place → Gathered
  | 0, g, _ => g
  | fuel + 1, g, place =>
    if g.seen.contains place then g
    else match t.markedText? place with
      | none => g
      | some cs =>
        let file := SourceFile.read m form place cs
        let packages := file.packages.filterMap (r.typePackage t roots place.dropLast)
        let named := file.references.filterMap fun x => r.locate t place x.demand x.name
        let referred := packages ++ named.filter r.takes
        let inner := referred.foldl (gather t r m form roots fuel) ⟨g.seen ++ [place], g.files⟩
        ⟨inner.seen, inner.files ++ [file]⟩

/-- The names of the packages of declarations that a project takes in without demand them in its
    files. -/
def typePackages (t : FileTree) (options : Project.Options) (directory : Place) : List String :=
  let isLeftOut (place : Place) : Bool :=
    ((Project.manifest? t place).bind (·.get? "typings")).any fun
      | .null => true
      | _ => false
  let below (root : Place) : List String :=
    (((t.below root).map fun p => p.take (root.length + 1)).eraseDups.filter fun p =>
      t.isDirectory p && !(lastName p).startsWith "." && !isLeftOut p).map lastName
  match (options.value? "types").bind Json.array? with
  | some names => names.filterMap Json.string?
  | none => ((packageRoots options directory).flatMap below).eraseDups

/-- The files of a program that starts from the given ones, in the project of a directory. -/
def Sources.ofRoots (t : FileTree) (options : Project.Options) (directory : Place)
    (roots : List Place) : Sources :=
  let r := Resolution.ofOptions options directory
  let m := ModuleDetection.ofOptions options
  let form := MarkupForm.ofOptions options
  let seenFrom := if (options.value? "typeRoots").isSome then none else some directory
  let named := (typePackages t options directory).filterMap
    (r.typePackage t (packageRoots options directory) seenFrom)
  let files := ((roots ++ named).foldl
    (gather t r m form (packageRoots options directory) (t.files.length + 1)) ⟨[], []⟩).files
  ⟨t, r, files.mapIdx fun i f => { f with index := i + 1 }⟩

end TypeLineage.Program
