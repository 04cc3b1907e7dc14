import TypeLineage.Project.Package
import TypeLineage.Project.Setup

/-! # How names of files are read

    A file names others by paths whose ending may be missing or stand for
    another one, and by the names of packages.  Which endings there are, and
    what the options of a project say about names of files. -/

namespace TypeLineage.Program

/-- The last name of a place. -/
def lastName (place : Place) : String := place.getLast?.getD ""

/-- The place beside another, under the other's name with an ending. -/
def withEnding (place : Place) (ending : String) : Place :=
  place.dropLast ++ [lastName place ++ ending]

/-! ## Endings -/

/-- The endings of names of files, the longer first. -/
def knownEndings : List String := [
  ".d.ts", ".d.mts", ".d.cts", ".mjs", ".mts", ".cjs", ".cts", ".ts", ".js", ".tsx", ".jsx",
  ".json"]

/-- A name without its ending, and the ending. -/
def splitEnding (name : String) : String × String :=
  match knownEndings.find? fun e => name.endsWith e && e.length < name.length with
  | some e => ((name.take (name.length - e.length)).toString, e)
  | none =>
    let ending := Path.extension name
    ((name.take (name.length - ending.length)).toString, ending)

/-- The files that are looked for. -/
inductive Wanted where
  /-- Sources with types, and declarations. -/
  | typed
  /-- Only declarations. -/
  | declarations
  /-- Scripts and values. -/
  | plain
  /-- All of them. -/
  | any
  deriving DecidableEq, Repr

/-- The endings of files that a written ending may stand for. -/
def Wanted.endings (w : Wanted) (written : String) : List String :=
  let groups : List String × List String × List String :=
    if [".mjs", ".mts", ".d.mts"].contains written then ([".mts"], [".d.mts"], [".mjs"])
    else if [".cjs", ".cts", ".d.cts"].contains written then ([".cts"], [".d.cts"], [".cjs"])
    else if written = ".tsx" || written = ".jsx" then
      ([".tsx", ".ts"], [".d.ts"], [".jsx", ".js"])
    else if ["", ".ts", ".d.ts", ".js"].contains written then
      ([".ts", ".tsx"], [".d.ts"], [".js", ".jsx"])
    else if written = ".json" then ([], [".d.json.ts"], [".json"])
    else ([], [".d" ++ written ++ ".ts"], [])
  match w with
  | .typed => groups.1 ++ groups.2.1
  | .declarations => groups.2.1
  | .plain => groups.2.2
  | .any => groups.1 ++ groups.2.1 ++ groups.2.2

/-! ## Ways of resolution -/

/-- How names of files are read. -/
inductive Way where
  /-- A directory stands for no file, and a bare name is looked for beside the file and
      above it. -/
  | classic
  /-- A directory stands for the file it is entered by, and a bare name for an installed
      package. -/
  | packages
  /-- So too, but a package may tell what it exports. -/
  | exports
  /-- So too, and a file that says so names others only in full. -/
  | formats
  /-- So too, and nothing follows the star of a pattern. -/
  | earlyFormats
  deriving DecidableEq, Repr, Inhabited

/-- Files may be named differently by what the file says that names them. -/
def Way.hasFormats (w : Way) : Bool := w = .formats || w = .earlyFormats

/-- A package may tell what it exports. -/
def Way.isLate (w : Way) : Bool := w = .exports || w.hasFormats

/-- What the options say about names of files. -/
structure Resolution where
  way : Way
  /-- Names lead from here too. -/
  base : Option Place
  /-- The names that are paths to elsewhere: patterns with the paths they stand for. -/
  paths : List (String × List String)
  /-- The paths lead from here. -/
  pathsBase : Place
  /-- Directories that count as one. -/
  roots : List Place
  /-- What a name may have before its ending; if there is anything, the file has one of it. -/
  suffixes : List String
  /-- Where packages of declarations are looked for besides. -/
  typeRoots : List Place
  readsExports : Bool
  readsImports : Bool
  /-- The directories that the program writes to, with where their sources lie. -/
  written : List Place
  sourceRoot : Option Place
  conditions : List String
  /-- Files of markup are taken in where they are named. -/
  takesMarkup : Bool
  takesScripts : Bool
  takesValues : Bool
  /-- Named files are taken in. -/
  takesNamed : Bool
  deriving Inhabited

/-- The word that an option is set to, in small letters. -/
def wordOf? (options : Project.Options) (key : String) : Option String :=
  ((options.value? key).bind Json.string?).map String.toLower

/-- The words for the ways modules are written, that of the platform from the first on. -/
def platformModules : List String := ["node16", "node18", "node20", "nodenext"]

/-- The edition that the options ask for by name, for what follows from it. -/
def isModern (options : Project.Options) : Bool :=
  match wordOf? options "target" with
  | some w => !(["es3", "es5"].contains w)
  | none => ((wordOf? options "module").map platformModules.contains).getD false

/-- The way that a project's options ask for. -/
def Way.ofOptions (options : Project.Options) : Way :=
  match wordOf? options "moduleResolution" with
  | some "classic" => .classic
  | some "bundler" => .exports
  | some "nodenext" => .formats
  | some "node16" => .earlyFormats
  | some _ => .packages
  | none =>
    match wordOf? options "module" with
    | some w =>
      if ["none", "amd", "umd", "system", "es6", "es2015", "es2020", "es2022",
        "esnext"].contains w then .classic
      else if w = "nodenext" then .formats
      else if platformModules.contains w then .earlyFormats
      else if w = "preserve" then .exports
      else .packages
    | none => if isModern options then .classic else .packages

/-- Files with values may be named. -/
def allowsValues (options : Project.Options) (way : Way) : Bool :=
  (options.flag? "resolveJsonModule").getD (way = .exports
    || ((wordOf? options "module").map ["node20", "nodenext"].contains).getD false)

/-- The resolution that the options ask for of a project in a directory. -/
def Resolution.ofOptions (options : Project.Options) (directory : Place) : Resolution :=
  let way := Way.ofOptions options
  let base := ((options.value? "baseUrl").bind Json.string?).map (Path.resolve directory)
  let texts (v : Json) : List String := ((v.array?).getD []).filterMap Json.string?
  { way, base
    paths := (((options.value? "paths").bind Json.object?).getD []).map fun (p, v) => (p, texts v)
    pathsBase := base.getD directory
    roots := (((options.value? "rootDirs").map texts).getD []).map (Path.resolve directory)
    suffixes := ((options.value? "moduleSuffixes").map texts).getD []
    typeRoots := (((options.value? "typeRoots").map texts).getD []).map (Path.resolve directory)
    readsExports := way.isLate && (options.flag? "resolvePackageJsonExports").getD true
    readsImports := way.isLate && (options.flag? "resolvePackageJsonImports").getD true
    written := ["declarationDir", "outDir"].filterMap fun key =>
      ((options.value? key).bind Json.string?).map (Path.resolve directory)
    sourceRoot := (((options.value? "rootDir").bind Json.string?).map
      (Path.resolve directory)).orElse fun _ =>
        if (options.flag? "composite").getD false then some directory else none
    conditions := ((options.value? "customConditions").map texts).getD []
    takesMarkup := (options.value? "jsx").isSome
    takesScripts := (options.flag? "allowJs").getD ((options.flag? "checkJs").getD false)
    takesValues := allowsValues options way
    takesNamed := !(options.flag? "noResolve").getD false }

/-- The name leads from the file's directory, or from the root. -/
def isRelative (name : String) : Bool :=
  name.startsWith "./" || name.startsWith "../" || name = "." || name = ".." || Path.isAbsolute name

end TypeLineage.Program
