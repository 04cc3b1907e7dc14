import TypeLineage.Program.Resolution

/-! # What a name of a file stands for

    A name is looked for beside the file that writes it, where the options say
    that names lead to, in the package around the file, and among the installed
    packages.  `Resolution.locate` finds the file that is meant. -/

namespace TypeLineage.Program

/-- What a file asks another one for. -/
inductive Demand where
  /-- Names that it gives to the outside. -/
  | names
  /-- The whole, as a value. -/
  | value
  deriving DecidableEq, Repr, Inhabited

/-- What a name is looked up under. -/
structure Search where
  tree : FileTree
  resolution : Resolution
  wanted : Wanted
  /-- Names are written in full. -/
  inFull : Bool
  /-- The conditions under which a package gives its files to the outside. -/
  conditions : List String

namespace Search

/-! ## Files -/

/-- The file at a place; with something before its ending if the options ask for that. -/
def there? (s : Search) (place : Place) : Option Place :=
  match s.resolution.suffixes with
  | [] => if s.tree.isFile place then some place else none
  | suffixes =>
    let name := lastName place
    let ending := (knownEndings.find? fun e => name.endsWith e).getD ""
    let stem := (name.take (name.length - ending.length)).toString
    (suffixes.map fun suffix => place.dropLast ++ [stem ++ suffix ++ ending]).find? s.tree.isFile

/-- The file at a place whose name may have another ending. -/
def changed (s : Search) (place : Place) : Option Place :=
  let name := lastName place
  let (stem, ending) := splitEnding name
  if ending = "" || ending = name then none
  else ((s.wanted.endings ending).map fun e => place.dropLast ++ [stem ++ e]).findSome? s.there?

/-- The file at a place whose name may lack its ending or have another. -/
def file (s : Search) (place : Place) : Option Place :=
  (s.changed place).orElse fun _ =>
    if s.inFull then none
    else ((s.wanted.endings "").map (withEnding place)).findSome? s.there?

/-- The name is one of a file that a manifest may name as it is. -/
def isNamedSource (s : Search) (place : Place) : Bool :=
  let ending := (splitEnding (lastName place)).2
  let declares := [".d.ts", ".d.mts", ".d.cts"].contains ending
  let isSource := [".ts", ".tsx", ".mts", ".cts"].contains ending
  match s.wanted with
  | .typed | .any => declares || isSource
  | .declarations => declares
  | .plain => false

/-- The file that a manifest's path leads to, the path without or with the rest left out. -/
def named (s : Search) (place : Place) : Option Place :=
  if s.isNamedSource place then if (s.there? place).isSome then some place else none
  else s.changed place

/-! ## Directories -/

/-- A path that stands under a key in a manifest. -/
def pathAt (manifest : Json) (key : String) : Option String :=
  ((manifest.get? key).bind Json.string?).filter (· ≠ "")

/-- The file that a manifest says a directory is entered by. -/
def mainPath? (s : Search) (manifest : Json) : Option String :=
  let typed := (pathAt manifest "typings").orElse fun _ => pathAt manifest "types"
  let main := pathAt manifest "main"
  match s.wanted with
  | .plain => main
  | _ => typed.orElse fun _ => main

/-- The paths that a name stands for by some patterns with their paths. -/
def mapped (paths : List (String × List String)) (name : String) : Option (List String) :=
  (bestPattern? (paths.map (·.1)) name).map fun (pattern, star) =>
    let targets := (paths.lookup pattern).getD []
    match star with
    | some star => if star = "" then targets else targets.map (fillStar star)
    | none => targets
where
  bestPattern? := Project.bestPattern?
  fillStar := Project.fillStar

/-- The file that the first of some paths leads to that leads anywhere. -/
def firstOf (s : Search) (base : Place) (targets : List String)
    (load : Bool → Place → Option Place) : Option Place :=
  targets.findSome? fun target =>
    let place := Path.resolve base target
    let whole := if knownEndings.contains (splitEnding target).2 then s.there? place else none
    whole.orElse fun _ => load (target.endsWith "/") place

/-- The file at a place, or the one by which the directory there is entered; the manifests in
    the directory do not count. -/
def plainly (s : Search) (isDirectory : Bool) (place : Place) : Option Place :=
  (if isDirectory then none else s.file place).orElse fun _ =>
    if s.inFull then none else s.file (place ++ ["index"])

/-- The file that a directory is entered by, given the manifest of a package. -/
def entryBy (s : Search) (directory : Place) (manifest? : Option (Place × Json)) : Option Place :=
  let path := (manifest?.bind fun (root, manifest) =>
    if root = directory then s.mainPath? manifest else none).map (Path.resolve directory)
  let saysModule := (manifest?.bind fun (_, m) => (m.get? "type").bind Json.string?) = some "module"
  let inner := { s with
    wanted := if s.wanted = Wanted.declarations then Wanted.typed else s.wanted
    inFull := s.inFull && saysModule }
  let load (isDirectory : Bool) (place : Place) : Option Place :=
    (s.named place).orElse fun _ => inner.plainly isDirectory place
  let isInside := path.all fun p => directory.isPrefixOf p
  let byVersion := if isInside then
      (manifest?.bind fun (_, m) => Project.versionPaths? m).bind fun paths =>
        let name := (path.getD (directory ++ ["index"])).drop directory.length
        (mapped paths ("/".intercalate name)).map fun targets => s.firstOf directory targets load
    else none
  match byVersion with
  | some found => found
  | none =>
    (path.bind (load false)).orElse fun _ =>
      if s.inFull then none else s.file (directory ++ ["index"])

/-- The manifest in a directory, with the directory. -/
def manifestAt? (s : Search) (directory : Place) : Option (Place × Json) :=
  (Project.manifest? s.tree directory).map fun m => (directory, m)

/-- The file that a directory is entered by. -/
def entry (s : Search) (directory : Place) : Option Place :=
  s.entryBy directory (s.manifestAt? directory)

/-- The file or directory at a place. -/
def path (s : Search) (isDirectory : Bool) (place : Place) : Option Place :=
  (if isDirectory then none else s.file place).orElse fun _ =>
    if s.inFull || s.resolution.way = .classic then none else s.entry place

/-! ## Packages -/

/-- What holds where a package's tables are read. -/
def circumstances (s : Search) : Project.Circumstances :=
  ⟨s.conditions, s.resolution.way ≠ .earlyFormats⟩

/-- The source of a file that the program would write. -/
def sourceOf? (s : Search) (around place : Place) : Option Place :=
  if place.contains Project.packageDirectory then none
  else
    let bases := match s.resolution.sourceRoot with
      | some root => [root]
      | none => (List.range (around.length + 1)).map around.take
    let (stem, ending) := splitEnding (lastName place)
    let endings :=
      if [".mjs", ".d.mts"].contains ending then [".mts", ".mjs"]
      else if [".cjs", ".d.cts"].contains ending then [".cts", ".cjs"]
      else if [".js", ".d.ts"].contains ending then [".tsx", ".ts", ".jsx", ".js"]
      else if ending = ".json" then [".json"]
      else []
    bases.findSome? fun base => s.resolution.written.findSome? fun directory =>
      if directory.isPrefixOf place then
        let inner := (place.drop directory.length).dropLast
        (endings.map fun e => base ++ inner ++ [stem ++ e]).findSome? fun p =>
          if s.tree.isFile p then s.named p else none
      else none

/-- The file that a target in a table of a package leads to. -/
def target (s : Search) (root : Place) (target : String) : Option Place :=
  if Project.leadsInside target then
    let place := Path.resolve root target
    (s.sourceOf? root place).orElse fun _ => s.named place
  else none

/-- What a package exports. -/
def exportsOf? (manifest : Json) : Option Json :=
  (manifest.get? "exports").filter fun
    | .null | .bool false | .string "" => false
    | _ => true

/-- The file that a path inside a package stands for by what the package exports. -/
def exported (s : Search) (root : Place) (exports : Json) (inner : List String) : Option Place :=
  (Project.exportTargets s.circumstances exports ("/".intercalate ("." :: inner))).findSome?
    (s.target root)

/-- The name as it stands for a package of declarations only. -/
def declarationName (name : String) : String :=
  if name.startsWith "@" then "__".intercalate (Path.segments (name.drop 1).toString) else name

/-- The file that a bare name stands for among the packages of a directory. -/
def package (s : Search) (packages : Place) (name : String) : Option Place :=
  let place := Path.resolve packages name
  let (package, inner) := Project.splitPackageName name
  let root := Path.resolve packages ("/".intercalate package)
  let whole := s.manifestAt? root
  let nested := if inner.isEmpty then none else s.manifestAt? place
  let mayExport := s.resolution.readsExports
  let tellsExports := mayExport && (whole.bind fun (_, m) => m.get? "exports").isSome
  let isNested := nested.isSome && !tellsExports
  if isNested then (s.file place).orElse fun _ => s.entryBy place nested
  else
    let load (place : Place) : Option Place :=
      (if inner.isEmpty && s.inFull then none else s.file place).orElse fun _ =>
        (s.entryBy place whole).orElse fun _ =>
          let isOpen := inner.isEmpty && s.inFull && whole.any fun (_, m) =>
            match m.get? "exports" with
            | none | some .null => true
            | _ => false
          if isOpen then s.file (place ++ ["index.js"]) else none
    match if mayExport then whole.bind fun (_, m) => exportsOf? m else none with
    | some exports => s.exported root exports inner
    | none =>
      let paths := if inner.isEmpty then none
        else whole.bind fun (_, m) => Project.versionPaths? m
      match paths.bind fun ps => mapped ps ("/".intercalate inner) with
      | some targets => s.firstOf root targets fun _ place => load place
      | none => load place

/-- The file that a bare name stands for among the packages in sight of a directory. -/
def installed (s : Search) (directory : Place) (name : String) : Option Place :=
  let above := (Project.ancestors directory).filter fun d => lastName d ≠ Project.packageDirectory
  let among (s : Search) : Option Place := above.findSome? fun d =>
    let packages := d ++ [Project.packageDirectory]
    (if s.resolution.way = .classic then none else s.package packages name).orElse fun _ =>
      if s.wanted = .plain then none
      else ({ s with wanted := .declarations }).package (packages ++ ["@types"])
        (declarationName name)
  if s.wanted = .any then
    (among { s with wanted := .typed }).orElse fun _ => among { s with wanted := .plain }
  else among s

/-- The file that a bare name stands for among the packages of declarations that the options
    point to. -/
def declared (s : Search) (name : String) : Option Place :=
  if s.wanted = .plain then none
  else s.resolution.typeRoots.findSome? fun root =>
    let isInstalled := [Project.packageDirectory, "@types"].isSuffixOf root
    let place := Path.resolve root (if isInstalled then declarationName name else name)
    let s := { s with wanted := .declarations }
    (s.file place).orElse fun _ => s.entry place

/-- The package around a directory. -/
def around (s : Search) (directory : Place) : Option (Place × Json) :=
  (Project.ancestors directory).findSome? s.manifestAt?

/-- The file that a name stands for if it is in the package of that name. -/
def ofOwnName (s : Search) (directory : Place) (name : String) : Option Place :=
  (s.around directory).bind fun (root, manifest) => do
    let exports ← exportsOf? manifest
    let own ← (manifest.get? "name").bind Json.string?
    let parts := name.splitOn "/"
    let ownParts := own.splitOn "/"
    if !ownParts.isPrefixOf parts then none
    else
      let inner := parts.drop ownParts.length
      let try' (wanted : Wanted) := ({ s with wanted }).exported root exports inner
      if s.resolution.takesScripts && !directory.contains Project.packageDirectory then
        try' s.wanted
      else (try' .typed).orElse fun _ => try' .plain

/-! ## Names -/

/-- The file that a name stands for by the project's options. -/
def chosen (s : Search) (directory : Place) (name : String) : Option Place :=
  let isDirectory := name.endsWith "/"
  let byPaths := if name.startsWith "./" || name.startsWith "../" || name = "." || name = ".." then
      none
    else mapped s.resolution.paths name
  match byPaths with
  | some targets =>
    s.firstOf s.resolution.pathsBase targets fun isDirectory place => s.path isDirectory place
  | none =>
    if isRelative name then
      let place := Path.resolve directory name
      let inRoots := s.resolution.roots.filter (·.isPrefixOf place)
      match inRoots.mergeSort fun a b => b.length ≤ a.length with
      | [] => none
      | root :: _ =>
        (s.path isDirectory place).orElse fun _ =>
          (s.resolution.roots.filter (· ≠ root)).findSome? fun other =>
            s.path isDirectory (other ++ place.drop root.length)
    else s.resolution.base.bind fun base => s.path isDirectory (Path.resolve base name)

/-- The file that a name stands for in a file of the directory.  What a package imports under a
    name may be another name in turn, so often at most. -/
def find (s : Search) : (depth : Nat) → (directory : Place) → (name : String) → Option Place
  | depth, directory, name =>
    (s.chosen directory name).orElse fun _ =>
      if isRelative name then
        let isDirectory := name.endsWith "/" || name = "." || name = ".." || name.endsWith "/.."
          || name.endsWith "/."
        s.path isDirectory (Path.resolve directory name)
      else if s.resolution.way = .classic then
        let beside := (Project.ancestors directory).findSome? fun d => s.file (Path.resolve d name)
        beside.orElse fun _ => (s.installed directory name).orElse fun _ => s.declared name
      else
        let imported := if s.resolution.readsImports && name.startsWith "#" then
            match depth with
            | 0 => none
            | depth + 1 => imported s (s.find depth) directory name
          else none
        imported.orElse fun _ =>
          (if s.resolution.way.isLate then s.ofOwnName directory name else none).orElse fun _ =>
            if name.toList.contains ':' then none
            else (s.installed directory name).orElse fun _ => s.declared name
where
  /-- The file that a name stands for by what the package around a directory imports. -/
  imported (s : Search) (find : Place → String → Option Place) (directory : Place)
      (name : String) : Option Place :=
    if name = "#" || name.startsWith "#/" then none
    else (s.around directory).bind fun (root, manifest) => do
      let table ← (manifest.get? "imports").bind Json.object?
      (Project.tableTargets s.circumstances table name).findSome? fun target =>
        if target.startsWith "./" then s.target root target
        else if target.startsWith "../" || Path.isAbsolute target then none
        else find root target

end Search

/-- The nearest manifest above a file says that files are named in full. -/
def saysModule (t : FileTree) (place : Place) : Bool :=
  let manifest := (Project.ancestors place.dropLast).findSome? fun d =>
    (Project.manifest? t d).map fun m => m
  ((manifest.bind (·.get? "type")).bind Json.string?) = some "module"

/-- The file at a place names others in full. -/
def namesInFull (t : FileTree) (r : Resolution) (place : Place) : Bool :=
  r.way.hasFormats && match (splitEnding (lastName place)).2 with
    | ".mts" | ".mjs" | ".d.mts" => true
    | ".cts" | ".cjs" | ".d.cts" => false
    | _ => saysModule t place

/-- The conditions under which packages give their files to a file. -/
def conditionsFor (r : Resolution) (inFull : Bool) (demand : Demand) : List String :=
  if !r.way.isLate then []
  else
    let takes := if r.way = .exports then demand = .names else inFull
    (if takes then "import" else "require") :: "types" ::
      ((if r.way = .exports then [] else ["node"]) ++ r.conditions)

/-- A search for what a file names in a way. -/
def Resolution.search (r : Resolution) (t : FileTree) (wanted : Wanted) (inFull : Bool)
    (demand : Demand) : Search :=
  ⟨t, r, wanted, inFull, conditionsFor r inFull demand⟩

/-- The file of a package of declarations that is asked for by its name: one below the given
    directories, or one that is installed in sight of a directory. -/
def Resolution.typePackage (r : Resolution) (t : FileTree) (roots : List Place)
    (seenFrom : Option Place) (name : String) : Option Place :=
  let s := r.search t .declarations false .value
  let below (root : Place) : Option Place :=
    let isInstalled := [Project.packageDirectory, "@types"].isSuffixOf root
    let place := Path.resolve root (if isInstalled then Search.declarationName name else name)
    (if r.typeRoots.isEmpty then none else s.file place).orElse fun _ => s.entry place
  (roots.findSome? below).orElse fun _ => seenFrom.bind fun directory =>
    if isRelative name then s.path false (Path.resolve directory name)
    else s.installed directory name

/-- The file that a name stands for in the file at a place. -/
def Resolution.locate (r : Resolution) (t : FileTree) (from' : Place) (demand : Demand)
    (name : String) : Option Place :=
  if name = "" then none
  else
    let inFull := demand = .names && namesInFull t r from'
    let find (wanted : Wanted) : Option Place :=
      ((r.search t wanted inFull demand).find 64 from'.dropLast name).filter fun found =>
        (lastName found).endsWith ".json" → r.takesValues
    if r.way.isLate then find .any else (find .typed).orElse fun _ => find .plain

/-- The file at a place is taken in where another one names it. -/
def Resolution.takes (r : Resolution) (place : Place) : Bool :=
  r.takesNamed && match (splitEnding (lastName place)).2 with
    | ".tsx" => r.takesMarkup
    | ".jsx" => r.takesMarkup && r.takesScripts
    | ".js" | ".mjs" | ".cjs" => r.takesScripts && !place.contains Project.packageDirectory
    | ".json" => r.takesValues
    | _ => true

end TypeLineage.Program
