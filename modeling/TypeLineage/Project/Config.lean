import TypeLineage.Files.Tree
import TypeLineage.Project.Fault
import TypeLineage.Project.Package
import TypeLineage.Project.Pattern

/-! # Project configurations

    A configuration is read together with the configurations it extends: its
    own options win over theirs, and their file patterns hold, seen from their
    own directories, where it has none.  `Config.read` gives the options and
    the files taken in, together with the faults met on the way. -/

namespace TypeLineage.Project

/-- The text by which a pattern refers to the directory of the configuration
    that is read first. -/
def ownDirectory : String := "$\x7bconfigDir\x7d"

/-- Options by name.  A null says that the option is unset again. -/
abbrev Options := List (String × Json)

/-- The options of a configuration over those it starts from. -/
def Options.over (own bases : Options) : Options :=
  own.foldl (fun options o => Json.assign options o.1 o.2) bases

/-- What the option is set to. -/
def Options.value? (options : Options) (name : String) : Option Json :=
  (options.lookup name).filter fun v => match v with
    | .null => false
    | _ => true

/-- The truth of an option. -/
def Options.flag? (options : Options) (name : String) : Option Bool :=
  (options.value? name).bind Json.bool?

/-- The keys under which files are taken in. -/
def fileKeys : List String := ["include", "exclude", "files"]

/-- A member that counts as given: present and neither null, false, zero nor
    empty. -/
def givenMember? (raw : Json) (key : String) : Option Json :=
  (raw.get? key).filter fun v => match v with
    | .null => false
    | .bool b => b
    | .string s => s != ""
    | .number (.int n) => n != 0
    | _ => true

/-- A configuration as it is read, before any files are looked for. -/
structure Config where
  /-- The members of the configuration, with what it inherits. -/
  raw : Json
  options : Options
  faults : List Fault

/-! ## Extending -/

/-- The members of what should be an object of options; a text or an array has
    its positions for names. -/
def optionMembers : Json → List (String × Json)
  | .object members => members
  | .array items => items.mapIdx fun i item => (toString i, item)
  | .string s => (Text.codeUnits s).mapIdx fun i _ => (toString i, .string "")
  | _ => []

/-- The directories from a place up to the root. -/
def upward : Nat → Place → List Place
  | 0, place => [place]
  | n + 1, place => if place.isEmpty then [place] else place :: upward n place.dropLast

/-- A place and all directories above it, the nearest first. -/
def ancestors (place : Place) : List Place := upward place.length place

/-- The configuration that a name refers to from a directory. -/
def findBase (t : FileTree) (directory : Place) (written : String) : Except Fault Place :=
  let name := Path.toPosix written
  if Path.isAbsolute name || name.startsWith "./" || name.startsWith "../" then
    let place := Path.resolve directory name
    let withEnding := place.dropLast ++ [place.getLast?.getD "" ++ ".json"]
    if t.isFile place || (place.getLast?.getD "").endsWith ".json" then .ok place
    else if t.isFile withEnding then .ok withEnding
    else .error (.baseNotFound name)
  else match (ancestors directory).findSome? (packagedConfig? t name) with
    | some place => .ok place
    | none => .error (if name = "" then .baseNameless else .baseNotFound name)

/-- The configurations that a configuration extends, and faults of their
    names. -/
def findBases (t : FileTree) (directory : Place) : Option Json → List Place × List Fault
  | some (.string name) => split [findBase t directory name]
  | some (.array names) => split (names.map fun
      | .string name => findBase t directory name
      | _ => .error (.wrongKind "extends" "string"))
  | some .null | some (.bool false) | some (.number (.int 0)) | none => ([], [])
  | some _ => ([], [.wrongKind "extends" "string or Array"])
where
  split (found : List (Except Fault Place)) : List Place × List Fault :=
    (found.filterMap Except.toOption, found.filterMap fun
      | .error e => some e
      | .ok _ => none)

/-- A file pattern of a configuration in one directory, as it reads from
    another. -/
def rebase (own base : Place) (spec : Json) : Json :=
  match spec with
  | .string s =>
    if s.startsWith ownDirectory || Path.isAbsolute s then .string s
    else
      let difference := Path.relative own base
      .string (if difference = "" || s = "" then difference ++ s else difference ++ "/" ++ s)
  | v => v

/-- Options whose values are paths lead there from the configuration's
    directory. -/
def settle (directory : Place) (name : String) (value : Json) : Json :=
  match optionKind? name, value with
  | some .path, .string s =>
    if s.startsWith ownDirectory then value
    else .string (Path.absolute (Path.resolve directory (Path.toPosix s)))
  | _, v => v

/-- The faults and options that an object of options holds. -/
def readOptions (directory : Place) (written : Option Json) : Options × List Fault :=
  let members := (written.map optionMembers).getD []
  (members.filterMap fun m => if (checkOption .compiler m.1 m.2).isEmpty then some (m.1, settle directory m.1 m.2)
      else none,
    members.flatMap fun m => checkOption .compiler m.1 m.2)

/-- The faults of a configuration's own members. -/
def ownFaults (raw : Json) (optionFaults : List Fault) : List Fault :=
  (if (raw.get? "excludes").isSome then [.excludesForExclude] else []) ++ optionFaults
    ++ faultsUnder .acquisition "typeAcquisition" ++ faultsUnder .watch "watchOptions"
    ++ (match raw.get? "compileOnSave" with
      | some v => checkValue "compileOnSave" .boolean v
      | none => [])
where
  faultsUnder (family : OptionFamily) (key : String) : List Fault :=
    ((raw.get? key).map optionMembers).getD [] |>.flatMap fun m => checkOption family m.1 m.2

/-- What a configuration takes over from those it extends, the last of them
    first to say. -/
structure Inherited where
  options : Options
  files : List (String × Json)
  faults : List Fault

/-- Takes over from one more configuration. -/
def Inherited.extend (i : Inherited) (own base : Place) (raw : Json) (c : Config) : Inherited :=
  { options := c.options.over i.options
    files := fileKeys.foldl (fun files key =>
      if (givenMember? raw key).isSome then files
      else match givenMember? c.raw key with
        | some (.array specs) => Json.assign files key (.array (specs.map (rebase own base)))
        | _ => files) i.files
    faults := i.faults ++ c.faults }

/-- The members with others put in their places. -/
def withMembers (raw : Json) (members : List (String × Json)) : Json :=
  match raw with
  | .object own => .object (members.foldl (fun all m => Json.assign all m.1 m.2) own)
  | v => v

/-- The name by which a configuration is told of. -/
def kindOfFile (place : Place) : String :=
  if place.getLast? = some "jsconfig.json" then "jsconfig.json" else "tsconfig.json"

/-- The configuration at a place, with all it extends; `above` are the
    configurations that led to it. -/
def readConfig (t : FileTree) : (fuel : Nat) → (above : List Place) → Place → Json → Config
  | 0, _, _, raw => ⟨raw, [], []⟩
  | fuel + 1, above, place, raw =>
    let directory := place.dropLast
    let (options, optionFaults) := readOptions directory (raw.get? "compilerOptions")
    let (bases, baseFaults) := findBases t directory (raw.get? "extends")
    let start : Inherited := ⟨[], [], ownFaults raw optionFaults ++ baseFaults⟩
    let inherited := bases.foldl (fun i base =>
      if (above ++ [place]).contains base then
        { i with faults := i.faults ++ [.circular ((above ++ [place, base]).map Path.absolute)] }
      else match t.markedText? base with
        | none => { i with faults := i.faults ++ [.baseUnreadable (Path.absolute base)] }
        | some text =>
          match CommentedJson.parse (String.ofList text) with
          | .error .rootNoObject =>
            { i with faults := i.faults ++ [.malformed (kindOfFile base) .rootNoObject] }
          | .error e => { i with faults := i.faults ++ [.malformed (kindOfFile base) e] }
          | .ok baseRaw =>
            i.extend directory base.dropLast raw
              (readConfig t fuel (above ++ [place]) base baseRaw)) start
    ⟨withMembers raw inherited.files, options.over inherited.options, inherited.faults⟩

/-! ## Files -/

/-- The list under a key, if there is one, and what is wrong with it. -/
def listAt (raw : Json) (key : String) (admits : Json → Bool) (element : String) :
    Option (List Json) × List Fault :=
  match raw.get? key with
  | none | some .null => (none, [])
  | some (.array items) => (some items, if items.all admits then [] else [.wrongKind key element])
  | some _ => (none, [.wrongKind key "Array"])

/-- The value is a text. -/
def isText : Json → Bool
  | .string _ => true
  | _ => false

/-- The value is an object, an array or null. -/
def isComposite : Json → Bool
  | .object _ | .array _ | .null => true
  | _ => false

/-- The patterns that hold, and the faults of the others. -/
def checkPatterns (including : Bool) (specs : List Json) : List String × List Fault :=
  let written := specs.filterMap Json.string?
  let fault? (spec : String) : Option Fault :=
    if including && endsRecursive spec then some (.trailingRecursion spec)
    else if climbsAfterRecursion spec then some (.parentAfterRecursion spec)
    else none
  (written.filter fun s => (fault? s).isNone, written.filterMap fault?)

/-- A pattern with the directory it refers to written out. -/
def writeOut (directory : Place) (spec : String) : String :=
  if spec.startsWith ownDirectory then
    Path.absolute (Path.resolve directory ("./" ++ (spec.drop ownDirectory.length).toString))
  else spec

/-- The endings of source files in groups: of files that differ only by an
    ending of one group, the first ending wins. -/
def endingGroups (withScripts : Bool) : List (List String) :=
  if withScripts then
    [[".ts", ".tsx", ".d.ts", ".js", ".jsx"], [".cts", ".d.cts", ".cjs"], [".mts", ".d.mts", ".mjs"]]
  else [[".ts", ".tsx", ".d.ts"], [".cts", ".d.cts"], [".mts", ".d.mts"]]

/-- The ending of a group that a name has; a longer one before a shorter. -/
def endingIn? (group : List String) (name : String) : Option String :=
  ((group.filter (·.startsWith ".d.")) ++ group).find? (name.endsWith ·)

/-- The file's name with each ending that wins over its own. -/
def rivals (groups : List (List String)) (file : Place) : List Place :=
  let name := file.getLast?.getD ""
  match groups.find? fun g => (endingIn? g name).isSome with
  | none => []
  | some group =>
    let ending := (endingIn? group name).getD ""
    let stem := (name.take (name.length - ending.length)).toString
    let better := group.takeWhile (· ≠ ending)
    (better.filter fun e => !(e == ".d.ts" && (ending == ".js" || ending == ".jsx"))).map
      fun e => file.dropLast ++ [stem ++ e]

/-- A text file of values may be taken in too. -/
def takesJson (options : Options) : Bool :=
  match options.flag? "resolveJsonModule" with
  | some b => b
  | none =>
    let word (name : String) := (((options.value? name).bind Json.string?).getD "").toLower
    word "moduleResolution" = "bundler"
      || ["node20", "nodenext", "preserve"].contains (word "module")

/-- The files a configuration takes in. -/
def takenFiles (t : FileTree) (directory : Place) (options : Options)
    (files includes excludes : List String) : List Place :=
  let groups := endingGroups ((options.flag? "allowJs").getD ((options.flag? "checkJs").getD false))
  let literal := (files.map fun f => Path.resolve directory (Path.toPosix f)).eraseDups
  let has (endings : List String) (p : Place) := endings.any ((p.getLast?.getD "").endsWith ·)
  let matching := t.places.filter fun p =>
    includes.any (isIncludedBy directory · p) && !excludes.any (isExcludedBy directory · p)
  let sources := matching.filter (has groups.flatten)
  let values := matching.filter fun p => takesJson options && has [".json"] p
    && (includes.filter (·.endsWith ".json")).any (isIncludedBy directory · p)
  let kept := sources.filter fun p =>
    (rivals groups p).all fun r => !(literal.contains r || sources.contains r)
  literal ++ (kept ++ values).filter (!literal.contains ·)

/-- A configuration with the files it takes in. -/
structure Taken where
  options : Options
  files : List Place
  faults : List Fault

/-- What a configuration takes in. -/
def Config.take (c : Config) (t : FileTree) (place : Place) : Taken :=
  let directory := place.dropLast
  let (references, f₁) := listAt c.raw "references" isComposite "object"
  let (files, f₂) := listAt c.raw "files" isText "string"
  let lonely := (c.raw.get? "extends").isNone && match c.raw.get? "references", references with
    | none, _ | some .null, _ => true
    | _, some items => items.isEmpty
    | _, none => false
  let f₃ := if files.any List.isEmpty && lonely then [.emptyFiles (Path.absolute place)] else []
  let (includes, f₄) := listAt c.raw "include" isText "string"
  let (excludes, f₅) := listAt c.raw "exclude" isText "string"
  let includes := if files.isNone && includes.isNone then [.string "**/*"] else includes.getD []
  let outputs := ["outDir", "declarationDir"].filterMap fun name =>
    ((c.options.value? name).bind Json.string?).filter (· ≠ "")
  let excludes := match excludes, c.raw.get? "exclude" with
    | some specs, _ => specs
    | none, none | none, some .null => outputs.map fun s => .string (writeOut directory s)
    | none, some _ => []
  let (includeSpecs, f₆) := checkPatterns true includes
  let (excludeSpecs, f₇) := checkPatterns false excludes
  let fileSpecs := (files.getD []).filterMap Json.string?
  let found := takenFiles t directory c.options (fileSpecs.map (writeOut directory))
    (includeSpecs.map (writeOut directory)) (excludeSpecs.map (writeOut directory))
  let mayReport := (c.raw.get? "files").isNone && (c.raw.get? "references").isNone
  let f₈ := if found.isEmpty && mayReport then
    [.noInputs (Path.absolute place) includes excludes] else []
  let f₉ := (references.getD []).filterMap fun r =>
    if ((r.get? "path").bind Json.string?).isSome then none
    else some (.wrongKind "reference.path" "string")
  ⟨c.options, found, c.faults ++ f₁ ++ f₂ ++ f₃ ++ f₄ ++ f₅ ++ f₆ ++ f₇ ++ f₈ ++ f₁ ++ f₉⟩

/-! ## Loading -/

/-- Why a project has no configuration. -/
inductive ConfigError where
  | notFound (root : Place)
  | unreadable (place : Place) (fault : CommentedJson.Fault)
  | faulty (place : Place) (faults : List Fault)
  deriving Repr

/-- The error in words. -/
def ConfigError.message : ConfigError → String
  | .notFound root => "Unable to find tsconfig.json under: " ++ Path.absolute root
  | .unreadable place fault =>
    "Failed to read tsconfig: " ++ Path.absolute place ++ "\n" ++ fault.message (kindOfFile place)
  | .faulty place faults =>
    "Failed to parse tsconfig: " ++ Path.absolute place ++ "\n"
      ++ "\n".intercalate (faults.map Fault.message)

/-- A configuration without faults, and where it stands. -/
structure LoadedConfig where
  place : Place
  options : Options
  files : List Place

/-- The nearest configuration in a directory or above it. -/
def findConfig? (t : FileTree) (root : Place) : Option Place :=
  ((ancestors root).map (· ++ ["tsconfig.json"])).find? t.isFile

/-- How many configurations may lead to one another. -/
def extensionDepth (t : FileTree) : Nat := t.files.length + 1

/-- The configuration at a place. -/
def loadAt (t : FileTree) (place : Place) (text : List Char) : Except ConfigError LoadedConfig :=
  match CommentedJson.parse (String.ofList text) with
  | .error fault => .error (.unreadable place fault)
  | .ok raw =>
    let taken := (readConfig t (extensionDepth t) [] place raw).take t place
    if taken.faults.isEmpty then .ok ⟨place, taken.options, taken.files⟩
    else .error (.faulty place taken.faults)

/-- The configuration of the project at `root`: the one at a path, or else the
    nearest. -/
def loadConfig (t : FileTree) (root : Place) (path : Option String) :
    Except ConfigError LoadedConfig :=
  let place? := match path.filter (· ≠ "") with
    | some p => some (Path.resolve root p)
    | none => findConfig? t root
  match place?.bind fun place => (t.markedText? place).map (place, ·) with
  | some (place, text) => loadAt t place text
  | none => .error (.notFound root)

end TypeLineage.Project
