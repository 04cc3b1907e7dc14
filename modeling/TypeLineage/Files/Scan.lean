import TypeLineage.Files.Glob
import TypeLineage.Files.Tree

/-! # Selecting files

    A scan selects the files below a root that some including glob takes and
    no excluding glob does.  Directories that an excluding glob takes are not
    entered, except those a walk starts at.  The selection is a list of
    relative paths in ascending order, cut at the cap if there is one. -/

namespace TypeLineage

/-- Why nothing could be selected. -/
inductive ScanError where
  | emptyPattern
  | file (e : FileError)
  deriving DecidableEq, Repr

/-- What stands in the way of a scan, in words. -/
def ScanError.message : ScanError → String
  | .emptyPattern => "Patterns must be a string (non empty) or an array of strings"
  | .file e => e.message

/-- What to select. -/
structure Selection where
  root : String
  includes : List String
  excludes : List String
  includeTests : Bool
  cap : Option Nat
  deriving Repr, Inhabited

namespace Selection

/-- Never selected. -/
def alwaysExcluded : List String := [
  "**/node_modules/**",
  "**/dist/**",
  "**/build/**",
  "**/.cache/**",
  "**/coverage/**",
  "**/.git/**",
  "**/out/**",
  "**/*.d.ts"]

/-- Selected only when tests are. -/
def testPatterns : List String := [
  "**/__tests__/**",
  "**/*.test.*",
  "**/*.spec.*",
  "**/test/**",
  "**/tests/**"]

/-- The source files. -/
def sourceFiles : List String := ["**/*.ts", "**/*.tsx", "**/*.mts", "**/*.cts"]

/-- The fact documents. -/
def factFiles : List String := ["**/*.facts.json"]

/-- The given globs, or others where there are none. -/
def orDefault (globs default' : List String) : List String :=
  if globs.isEmpty then default' else globs

/-- The exclusions that hold for a selection. -/
def allExcludes (s : Selection) : List String :=
  alwaysExcluded ++ s.excludes ++ (if s.includeTests then [] else testPatterns)

end Selection

namespace Scan

/-- A written glob that excludes: one behind an exclamation mark. -/
def isNegated (text : String) : Bool :=
  text.startsWith "!" && !text.startsWith "!("

/-- A glob without its exclamation mark. -/
def withoutMark (text : String) : String :=
  if isNegated text then (text.drop 1).toString else text

/-- The globs to include and those to exclude. -/
structure Patterns where
  includes : List String
  excludes : List String
  deriving Repr

/-- The globs that the written ones stand for, braces expanded. -/
def patternsOf (includes excludes : List String) : Patterns :=
  let written := includes.flatMap Glob.expand
  { includes := written.filter (!isNegated ·)
    excludes := (written.filter isNegated ++ excludes.flatMap Glob.expand).map withoutMark }

/-- A file that a walk comes upon: the path it is listed under, the path that
    globs are held against, where it stands, and the directories that are
    entered between the start of the walk and the file. -/
structure Candidate where
  path : String
  held : String
  place : Place
  entered : List String
  deriving DecidableEq, Repr

/-- A candidate under a path, with no directory on the way. -/
def Candidate.ofPath (path : String) (place : Place) : Candidate :=
  ⟨path, Glob.dropDot path, place, []⟩

/-- A glob that excludes, read once. -/
structure Exclusion where
  glob : Glob
  /-- Held against absolute paths and not against those below the root. -/
  isAbsolute : Bool
  /-- Directories that the glob takes are not entered. -/
  prunes : Bool
  deriving Repr

/-- The exclusion that a written glob stands for. -/
def Exclusion.read (text : String) : Exclusion :=
  ⟨Glob.read text, Path.isAbsolute text, Glob.prunes text⟩

/-- The exclusion takes the file. -/
def Exclusion.takes (e : Exclusion) (root : Place) (c : Candidate) : Bool :=
  e.glob.accepts (if e.isAbsolute then Path.absolute (Path.resolve root c.held) else c.held)

/-- Some glob of the list takes the file and no excluding one does. -/
def isSelected (root : Place) (globs : List Glob) (excludes : List Exclusion) (c : Candidate) :
    Bool :=
  globs.any (·.accepts c.held) && !excludes.any (·.takes root c)

/-- The directory is not entered. -/
def isPruned (excludes : List Exclusion) (directory : String) : Bool :=
  excludes.any fun e => e.prunes && e.glob.accepts directory

/-- The directories between the base of a walk, `fixed` names long, and a file. -/
def directoriesBetween (fixed : Nat) (path : String) : List String :=
  let names := Path.segments path
  ((List.range names.length).filter (fixed < ·)).map fun n => "/".intercalate (names.take n)

/-- The files that a walk from the base meets, with the paths it lists them
    under. -/
def walk (t : FileTree) (root : Place) (excludes : List Exclusion) (base : String) :
    List Candidate :=
  let start := Path.resolve root base
  let front := Path.front base
  let fixed := (Path.segments (Glob.dropDot (front ++ "x"))).length - 1
  (t.below start).filterMap fun place =>
    let path := front ++ "/".intercalate (place.drop start.length)
    let entered := directoriesBetween fixed (Glob.dropDot path)
    if entered.any (isPruned excludes) then none
    else some { Candidate.ofPath path place with entered }

/-- The files a list of globs with one base selects. -/
def walkSelected (t : FileTree) (root : Place) (excludes : List Exclusion)
    (base : String) (globs : List String) : Except ScanError (List Candidate) :=
  let start := Path.resolve root base
  if t.isFile start || t.isBlocked start then .error (.file .notADirectory)
  else
    let globs := globs.map Glob.read
    .ok ((walk t root excludes base).filter (isSelected root globs excludes))

/-- The file that a fixed path names, if it is selected. -/
def fixedSelected (t : FileTree) (root : Place) (globs : List Glob)
    (excludes : List Exclusion) (path : String) : Except ScanError (List Candidate) :=
  let place := Path.resolve root path
  if t.isBlocked place then .error (.file .notADirectory)
  else if t.isFile place && !path.endsWith "/" then
    .ok ([Candidate.ofPath path place].filter (isSelected root globs excludes))
  else .ok []

/-- The globs that share a base, for each base in the order of its first. -/
def byBase (globs : List String) : List (String × List String) :=
  globs.foldl (fun walks g => addTo (Glob.base g) g walks) []
where
  addTo (base glob : String) : List (String × List String) → List (String × List String)
    | [] => [(base, [glob])]
    | (b, gs) :: rest => if b = base then (b, gs ++ [glob]) :: rest else (b, gs) :: addTo base glob rest

/-- The walks for globs that are no fixed paths: one from each base, but one
    walk from the root for all globs inside it if any of them starts there. -/
def walksFor (globs : List String) : List (String × List String) :=
  let inside := globs.filter (!Glob.leadsOut ·)
  byBase (globs.filter Glob.leadsOut)
    ++ (if inside.any (Glob.base · = ".") then [(".", inside)] else byBase inside)

/-- One candidate for each file, the first under its names. -/
def distinctCandidates (candidates : List Candidate) : List Candidate :=
  candidates.foldl (fun kept c => if kept.any (·.held = c.held) then kept else kept ++ [c]) []

/-- Of the candidates that are held as one path those that are met first.  Walks
    go on side by side, and each enters its directories level by level. -/
def nearest (candidates : List Candidate) : List Candidate :=
  candidates.filter fun c => candidates.all fun d =>
    d.held ≠ c.held || c.entered.length ≤ d.entered.length

/-- One candidate for each path that is held: the first of those met first. -/
def listed (candidates : List Candidate) : List Candidate :=
  distinctCandidates (nearest candidates)

/-- The selected files, each as it is met first. -/
def candidates (t : FileTree) (root : Place) (p : Patterns) :
    Except ScanError (List Candidate) := do
  let fixed := p.includes.filter Glob.isFixed
  let moving := p.includes.filter (!Glob.isFixed ·)
  let excludes := p.excludes.map Exclusion.read
  let named ← fixed.mapM (fixedSelected t root (fixed.map Glob.read) excludes)
  let walked ← (walksFor moving).mapM fun (base, globs) =>
    walkSelected t root excludes base globs
  pure (listed (named.flatten ++ walked.flatten))

/-- The first so many of a list, or all. -/
def capped {α : Type} (cap : Option Nat) (items : List α) : List α :=
  match cap with
  | some n => if n = 0 then items else items.take n
  | none => items

end Scan

/-- The paths that a selection takes from a tree, with strokes of one kind, in
    ascending order. -/
def Selection.paths (s : Selection) (home : Place) (t : FileTree) :
    Except ScanError (List String) := do
  let includes := Selection.orDefault s.includes Selection.sourceFiles
  if includes.contains "" then .error .emptyPattern
  else
    let root := Path.resolve home s.root
    let found ← Scan.candidates t root (Scan.patternsOf includes s.allExcludes)
    pure (Scan.capped s.cap (Text.sorted (found.map fun c => Path.toPosix c.path)))

end TypeLineage
