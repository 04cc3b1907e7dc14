import TypeLineage.Files.Tree
import TypeLineage.Project.CommentedJson
import TypeLineage.Project.Version

/-! # Installed packages

    A bare name stands for a file of a package: the package's own name comes
    first, and a path inside the package may follow it.  The manifest of a
    package may tell which files its paths stand for; a path or a target may
    hold a star, which stands for any text. -/

namespace TypeLineage.Project

/-- The directory of the installed packages. -/
def packageDirectory : String := "node_modules"

/-- The manifest of the package in a directory. -/
def manifest? (t : FileTree) (directory : Place) : Option Json :=
  (t.markedText? (directory ++ ["package.json"])).map fun cs =>
    ((CommentedJson.parse (String.ofList cs)).toOption).getD (.object [])

/-- The name of the package, and the path inside it. -/
def splitPackageName (name : String) : List String × List String :=
  let segments := Path.segments name
  let count := if name.startsWith "@" then 2 else 1
  (segments.take count, segments.drop count)

/-! ## Patterns -/

/-- What stands for the star if a name has the form of a pattern. -/
def starIn? (pattern name : String) : Option String :=
  let cs := pattern.toList
  let front := cs.takeWhile (· ≠ '*')
  let back := (cs.dropWhile (· ≠ '*')).drop 1
  let ns := name.toList
  if cs.contains '*' && front.isPrefixOf ns && back.isSuffixOf (ns.drop front.length) then
    some (String.ofList ((ns.drop front.length).take (ns.length - front.length - back.length)))
  else none

/-- A text with what its stars stand for. -/
def fillStars (star text : String) : String :=
  String.ofList (text.toList.flatMap fun c => if c = '*' then star.toList else [c])

/-- A text with what its first star stands for. -/
def fillStar (star text : String) : String :=
  let cs := text.toList
  if cs.contains '*' then
    String.ofList (cs.takeWhile (· ≠ '*') ++ star.toList ++ (cs.dropWhile (· ≠ '*')).drop 1)
  else text

/-- How many characters of a pattern stand before its star. -/
def starPlace (pattern : String) : Nat := (pattern.toList.takeWhile (· ≠ '*')).length

/-- The pattern that a name has the form of, with what stands for its star.  Of several, the one
    that says most before its star counts; a name without a star is the first to count. -/
def bestPattern? (patterns : List String) (name : String) : Option (String × Option String) :=
  if patterns.contains name && !name.toList.contains '*' then some (name, none)
  else
    let found := patterns.filterMap fun pattern =>
      if pattern.toList.count '*' = 1 then
        (starIn? pattern name).map fun star => (pattern, some star)
      else none
    found.foldl (fun (best : Option (String × Option String)) p =>
      match best with
      | some b => if starPlace b.1 < starPlace p.1 then some p else best
      | none => some p) none

/-! ## Tables of exports and imports -/

/-- What holds where a package's tables are read. -/
structure Circumstances where
  conditions : List String
  /-- Something may follow the star of a pattern. -/
  allowsTrailers : Bool

/-- A condition holds: always, by the circumstances, or for this version of the compiler. -/
def Circumstances.meet (c : Circumstances) (condition : String) : Bool :=
  condition = "default" || c.conditions.contains condition
    || (c.conditions.contains "types" && condition.startsWith "types@"
      && (inRange? .current (condition.drop 6).toString).getD false)

mutual

/-- The targets that an entry leads to, the ones to try first before the others. -/
def targetsOf (c : Circumstances) : Json → List String
  | .string s => [s]
  | .array items => targetsOfItems c items
  | .object members => targetsOfMembers c members
  | _ => []

/-- The targets of several entries. -/
def targetsOfItems (c : Circumstances) : List Json → List String
  | [] => []
  | v :: rest => targetsOf c v ++ targetsOfItems c rest

/-- The targets under the conditions that are met. -/
def targetsOfMembers (c : Circumstances) : List (String × Json) → List String
  | [] => []
  | (condition, v) :: rest =>
    (if c.meet condition then targetsOf c v else []) ++ targetsOfMembers c rest

end

/-- The first of two entries with patterns is the one to try first. -/
def isTriedBefore (a b : String) : Bool :=
  let stars (s : String) : Bool := s.toList.contains '*'
  let base (s : String) : Nat := if stars s then starPlace s + 1 else s.length
  if base a ≠ base b then base b < base a
  else if !stars a then false
  else !stars b || b.length ≤ a.length

/-- The targets of a name by a table whose entries may be patterns and directories. -/
def tableTargets (c : Circumstances) (table : List (String × Json)) (name : String) :
    List String :=
  let exact := if name.endsWith "/" || name.toList.contains '*' then none else table.lookup name
  match exact with
  | some v => targetsOf c v
  | none =>
    let patterns := (table.filter fun (key, _) =>
      key.toList.count '*' = 1 || key.endsWith "/").mergeSort fun a b => isTriedBefore a.1 b.1
    (patterns.findSome? fun (key, v) =>
      if key.toList.contains '*' then
        if key.endsWith "*" || c.allowsTrailers then
          (starIn? key name).map fun star => (targetsOf c v).map (fillStars star)
        else none
      else if name.startsWith key then
        let rest := (name.drop key.length).toString
        some (((targetsOf c v).filter fun t => rest = "" || t.endsWith "/").map (· ++ rest))
      else none).getD []

/-- The targets of a path inside a package, given what the package exports. -/
def exportTargets (c : Circumstances) (exports : Json) (path : String) : List String :=
  let members := match exports with
    | .object ms => ms
    | _ => []
  let isPath (key : String) : Bool := key.startsWith "."
  if path = "." then
    if !members.any (isPath ·.1) then targetsOf c exports
    else ((members.lookup ".").map (targetsOf c)).getD []
  else if members.isEmpty || !members.all (isPath ·.1) then []
  else tableTargets c members path

/-- A target leads to something inside the package. -/
def leadsInside (target : String) : Bool :=
  target.startsWith "./" && (((target.splitOn "/").drop 1).filter (· ≠ "")).all
    fun part => !([".", "..", packageDirectory].contains part)

/-! ## Files by version -/

/-- The paths that the package's files have for this version of the compiler. -/
def versionPaths? (manifest : Json) : Option (List (String × List String)) :=
  let texts (v : Json) : List String := ((v.array?).getD []).filterMap Json.string?
  let ranges := ((manifest.get? "typesVersions").bind Json.object?).getD []
  (ranges.find? fun (range, _) => (inRange? .current range).getD false).bind fun (_, paths) =>
    paths.object?.map fun ps => ps.map fun (p, v) => (p, texts v)

/-! ## Configurations -/

/-- The file of a configuration whose ending may be left out. -/
def configFile? (t : FileTree) (place : Place) : Option Place :=
  let name := place.getLast?.getD ""
  [place.dropLast ++ [name ++ ".json"], place].find?
    fun p => t.isFile p && (p.getLast?.getD "").endsWith ".json"

/-- The configuration that a directory holds, or that a path to a file or directory leads to. -/
def configAt? (t : FileTree) (place : Place) : Option Place :=
  (configFile? t place).orElse fun _ => configFile? t (place ++ ["tsconfig"])

/-- What holds where configurations are looked for. -/
def configCircumstances : Circumstances := ⟨["require", "types", "node"], true⟩

/-- The configuration that a bare name stands for among the packages of a directory. -/
def packagedConfig? (t : FileTree) (name : String) (directory : Place) : Option Place :=
  let packages := directory ++ [packageDirectory]
  let place := Path.resolve packages name
  let (package, inner) := splitPackageName name
  let root := Path.resolve packages ("/".intercalate package)
  let ofManifest (directory : Place) : Option Place :=
    (((manifest? t directory).bind (·.get? "tsconfig")).bind Json.string?).bind fun path =>
      let target := Path.resolve directory path
      if t.isFile target && path.endsWith ".json" then some target else configAt? t target
  let exports := ((manifest? t root).bind (·.get? "exports")).filter fun v => match v with
    | .null => false
    | _ => true
  match exports with
  | some exports =>
    let path := "/".intercalate ("." :: inner)
    (exportTargets configCircumstances exports path).findSome? fun target =>
      if leadsInside target then
        let file := Path.resolve root target
        if t.isFile file && target.endsWith ".json" then some file else none
      else none
  | none =>
    (if inner.isEmpty then none else configFile? t place).orElse fun _ =>
      (ofManifest place).orElse fun _ => (if inner.isEmpty then configFile? t place else none).orElse
        fun _ => configFile? t (place ++ ["tsconfig"])

end TypeLineage.Project
