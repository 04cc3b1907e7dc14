import TypeLineage.Program.Library

/-! # What names stand for

    A name is looked up in the frames around the place where it is written,
    innermost first, then in the file, then among the names that all files
    share, to which the library belongs.  Names that were taken from elsewhere
    are followed to what is declared there; fuel bounds how far. -/

namespace TypeLineage.Program

open Source

/-- What is read to look names up. -/
structure World where
  sources : Sources
  settings : Settings

/-- The world of the files of a program. -/
def World.ofSources (sources : Sources) (settings : Settings) : World :=
  ⟨sources.unfolded, settings⟩

/-! ## Blocks -/

/-- The name under which the blocks of a namespace belong together. -/
def SpaceName.key : SpaceName → String
  | .path first _ => first
  | .file name => "\"" ++ name ++ "\""
  | .shared => "declare global"

/-- The block that a namespace opens; a path opens one inside the other. -/
def blockOf? : Statement → Option Block
  | .space _ isAmbient (.path first (next :: others)) body =>
    some ⟨first, [.space .exported isAmbient (.path next others) body], isAmbient⟩
  | .space _ isAmbient name body => some ⟨SpaceName.key name, body, isAmbient⟩
  | _ => none

/-- The scope inside the blocks of a path. -/
def Scope.enterPath (isAmbient : Bool) (body : List Statement) :
    String → List String → Scope → Scope
  | first, [], scope => scope.enter (.space ⟨first, body, isAmbient⟩)
  | first, next :: others, scope =>
    enterPath isAmbient body next others (scope.enter
      (.space ⟨first, [.space .exported isAmbient (.path next others) body], isAmbient⟩))

/-- The scope inside a namespace. -/
def Scope.enterSpace (isAmbient : Bool) (body : List Statement) (scope : Scope) :
    SpaceName → Scope
  | .path first others => enterPath isAmbient body first others scope
  | name => scope.enter (.space ⟨SpaceName.key name, body, isAmbient⟩)

/-- The statements of a block where it is written. -/
def Block.sites (block : Block) (scope : Scope) : List Site :=
  block.statements.map (⟨·, scope.enter (.space block)⟩)

/-- The statements of a file. -/
def fileSites (f : SourceFile) : List Site := f.statements.map (⟨·, ⟨f, []⟩⟩)

/-- Exports are listed, so that what is not listed is not exported. -/
def listsExports (statements : List Statement) : Bool :=
  statements.any fun
    | .exportNames .. => true
    | .exportAll .. => true
    | .exportValue .. => true
    | _ => false

/-- Declarations only, and all of them are exported. -/
def exportsAll (isAmbient : Bool) (statements : List Statement) : Bool :=
  isAmbient && !listsExports statements

/-- The statement is made known outside its block. -/
def isExported (all : Bool) : Statement → Bool
  | .declaration visibility _ _ => all || visibility = .exported
  | .space visibility _ _ _ => all || visibility = .exported
  | .importFile visibility _ _ => visibility = .exported
  | .importPath visibility _ _ => visibility = .exported
  | _ => false

/-- The statements that all files share. -/
def World.sharedSites (w : World) : List Site :=
  w.sources.files.flatMap fun f =>
    let shared := (fileSites f).flatMap fun site =>
      match site.statement with
      | .space _ _ .shared body => Block.sites ⟨SpaceName.key .shared, body, true⟩ site.scope
      | _ => []
    if f.isModule then shared else fileSites f ++ shared

/-- What other files add to a file that shares no names with them. -/
def World.additions (w : World) (f : SourceFile) : List Site :=
  w.sources.files.flatMap fun g =>
    if !g.isModule then []
    else (fileSites g).flatMap fun site =>
      match site.statement with
      | .space _ _ (.file name) body =>
        if w.sources.locate g.place .names name = some f.place then
          Block.sites ⟨SpaceName.key (.file name), body, true⟩ site.scope
        else []
      | _ => []

/-- The statements of a file's outermost block. -/
def World.outerSites (w : World) (f : SourceFile) : List Site :=
  if f.isModule then fileSites f ++ w.additions f else w.sharedSites

/-- The file that a block adds to. -/
def World.addedTo? (w : World) (file : SourceFile) (block : Block) : Option SourceFile :=
  let quoted := block.name.toList
  if file.isModule && quoted.head? = some '"' then
    (w.sources.locate file.place .names (String.ofList (quoted.drop 1).dropLast)).bind w.sources.file?
  else none

/-- The statements in sight in the innermost of some blocks: its own, and what the other
    blocks of the same name export. -/
def World.sitesIn (w : World) (file : SourceFile) : List Frame → List Site
  | .space block :: outer =>
    let own := block.sites ⟨file, outer⟩
    let given (b : Block) (scope : Scope) :=
      (b.sites scope).filter (isExported (exportsAll b.isAmbient b.statements) ·.statement)
    let ofLibrary := if outer.isEmpty && !file.isModule then
        (libraryEntities w.settings.library block.name).flatMap fun
          | .space b scope => given b scope
          | _ => []
      else []
    let others := (w.sitesIn file outer).flatMap fun site =>
      match blockOf? site.statement with
      | some b => if b.name = block.name then given b site.scope else []
      | none => []
    let added := match w.addedTo? file block with
      | some f => (fileSites f).filter (isExported (exportsAll f.isAmbient f.statements) ·.statement)
      | none => []
    let inner := own.filter (!isExported (exportsAll block.isAmbient block.statements) ·.statement)
    added ++ ofLibrary ++ others ++ inner
  | _ => w.outerSites file

/-! ## Declared names -/

/-- What the declaration of a statement declares under a name. -/
def declaredAs (name : String) (scope : Scope) : Declaration → List Entity
  | .type d => if d.name = some name then [.type d scope] else []
  | .synonym spot n ps body => if n = name then [.synonym spot n ps body scope] else []
  | .enumeration spot n ms => if n = name then [.enumeration spot n ms scope] else []
  | .function f => if f.name = some name then [.function f scope] else []
  | .variables binding vs => (declaredVariables name binding .initial vs).map (.variable · scope)

/-- What a statement declares under a name. -/
def Site.named (name : String) (site : Site) : List Entity :=
  match site.statement with
  | .declaration visibility _ d =>
    let declared := declaredAs name site.scope d
    if visibility = .inner then declared else declared.map Entity.known
  | .space _ _ _ _ =>
    match blockOf? site.statement with
    | some block => if block.name = name then [.space block site.scope] else []
    | none => []
  | .importNames file default' whole names =>
    (if default' = some name then [.elsewhere name (.member file "default") site.scope] else [])
      ++ (if whole = some name then [.elsewhere name (.whole file) site.scope] else [])
      ++ (names.filter (·.target = name)).map fun r =>
        .elsewhere name (.member file r.source) site.scope
  | .importFile _ n file => if n = name then [.elsewhere name (.asked file) site.scope] else []
  | .importPath _ n path => if n = name then [.elsewhere name (.path path) site.scope] else []
  | _ => []

/-- What the statements declare under a name. -/
def namedIn (name : String) (sites : List Site) : List Entity :=
  merge (sites.flatMap (Site.named name))

/-- The space of all that files share, which is there as a value, too. -/
def sharedSpace : Entity := .space ⟨"globalThis", [.value .null], true⟩ ⟨libraryFile 0, []⟩

/-- The space is that of all that files share. -/
def isSharedSpace (e : Entity) : Bool :=
  match e with
  | .space block scope =>
    block.name = sharedSpace.name && scope.file.place = (libraryFile 0).place
  | _ => false

/-- What all files share under a name. -/
def World.shared (w : World) (name : String) : List Entity :=
  let declared := libraryEntities w.settings.library name
    ++ w.sharedSites.flatMap (Site.named name)
  if !declared.isEmpty then merge declared
  else if name = sharedSpace.name then [sharedSpace]
  else (w.sources.files.find? (givesItself name)).toList.map fun f => .elsewhere name .itself ⟨f, []⟩
where
  /-- The file makes itself known to all others under the name. -/
  givesItself (name : String) (f : SourceFile) : Bool :=
    f.isModule && f.isAmbient && f.statements.any fun
      | .exportSpace n => n = name
      | _ => false

/-- What the innermost frame of a scope declares under a name. -/
def World.namedInFrame (w : World) (name : String) (scope : Scope) : List Entity :=
  match scope.frames with
  | [] => if scope.file.isModule then namedIn name (w.outerSites scope.file) else w.shared name
  | frame :: _ =>
    match frame with
    | .space block =>
      let found := namedIn name (w.sitesIn scope.file scope.frames)
      if block.name = SpaceName.key .shared && !found.isEmpty then w.shared name else found
    | .statements ss isWhole =>
      let direct := ss.flatMap fun s => Site.named name ⟨s, scope⟩
      let inner := if isWhole then
          (hoistedAll name ss).filterMap fun v =>
            if direct.any (·.key.spot = v.spot) then none else some (Entity.variable v scope)
        else []
      merge (direct ++ inner)
    | .function f =>
      let named := f.parameters.flatMap fun p =>
        ((namesOf p.pattern).filter (·.1 = name)).map fun (n, spot) =>
          Entity.argument n spot p f scope
      let types := (f.typeParameters.filter (·.name = name)).map (Entity.parameter · scope)
      let all := if name = "arguments" && !f.isArrow && named.isEmpty then
          [Entity.arguments f scope] else []
      named.drop (named.length - 1) ++ types ++ all
    | .typeParameters ps => (ps.filter (·.name = name)).map (.parameter · scope)
    | .type d _ =>
      let own := if d.isValue && d.name = some name then
          [Entity.type d { scope with frames := scope.frames.drop 1 }]
        else []
      (d.typeParameters.filter (·.name = name)).map (.parameter · scope) ++ own
    | .object _ => []
    | .variables binding vs source =>
      (declaredVariables name binding source vs).map (.variable · scope)

/-! ## Looking names up -/

/-- The value is a path of names. -/
def pathOf? : Expr → Option (List String)
  | .name n => some [n]
  | .access object member _ => (pathOf? object).map (· ++ [member])
  | _ => none

/-- Some of the declarations have one of the meanings. -/
def haveMeaning (ms : List Meaning) (es : List Entity) : Bool :=
  es.any fun e => ms.any (Entity.means · e)

/-- What was found is meant, given what it leads to.  What leads nowhere is taken
    for anything. -/
def isMeant (ms : List Meaning) (found settled : List Entity) : Bool :=
  haveMeaning ms settled
    || (found.any Entity.isElsewhere && (ms.contains .elsewhere || settled.isEmpty))

/-- A name is searched no further: it is a type parameter of a class, and what is static in
    the class does not see it. -/
def endsSearch (ms : List Meaning) (found : List Entity) (frame : Frame) : Bool :=
  match frame with
  | .type _ .whole | .type _ .parent => ms.contains .type && !found.isEmpty
  | _ => false

/-- The statements of a namespace. -/
def spaceSites : Entity → List Site
  | .space block scope => block.sites scope
  | _ => []

/-- The files that are declared under a name, with what other files add to them. -/
def World.declaredFile (w : World) (name : String) : List Entity :=
  if isRelative name then []
  else
    let key := SpaceName.key (.file name)
    match namedIn key w.sharedSites with
    | [] => []
    | declared =>
      let added := (w.sources.files.filter (·.isModule)).flatMap fun f =>
        (fileSites f).flatMap fun site =>
          match site.statement with
          | .space _ _ (.file _) _ => site.named key
          | _ => []
      declared ++ added

/-- The files that are declared under a pattern that a name is like; of several patterns, the one
    that says most at its beginning counts. -/
def World.likenedFile (w : World) (name : String) : List Entity :=
  let patterns := w.sharedSites.filterMap fun site =>
    match site.statement with
    | .space _ _ (.file pattern) _ =>
      if pattern.toList.count '*' = 1 && (Project.starIn? pattern name).isSome then some pattern
      else none
    | _ => none
  let best := patterns.foldl (fun (best : Option String) p =>
    match best with
    | some q => if Project.starPlace q < Project.starPlace p then some p else best
    | none => some p) none
  match best with
  | some pattern => namedIn (SpaceName.key (.file pattern)) w.sharedSites
  | none => []

/-- The file of a name as it is written: declared, in the file tree, or declared under a
    pattern. -/
def World.writtenFile (w : World) (from' : SourceFile) (demand : Demand) (name : String) :
    List Entity :=
  match w.declaredFile name with
  | [] =>
    match (w.sources.locate from'.place demand name).bind w.sources.file? with
    | some f => if f.isModule then [.file f] else []
    | none => w.likenedFile name
  | declared => declared

/-- The value that a file gives to the outside in place of itself. -/
def givenInPlace? (whole : List Entity) : Option (Expr × Scope) :=
  let sites := whole.flatMap fun
    | .file f => fileSites f
    | e => spaceSites e
  sites.findSome? fun site =>
    match site.statement with
    | .exportValue true value => some (value, site.scope)
    | _ => none

/-- It is a file as a whole, or is declared as one. -/
def isWholeFile : Entity → Bool
  | .file _ => true
  | .space block _ => block.name.startsWith "\""
  | _ => false

/-- It may stand for its default: it only declares what is defined elsewhere, or gives by plain
    values. -/
def standsForAll : Entity → Bool
  | .file f => f.isAmbient || f.isPlain
  | .space block _ => block.isAmbient
  | _ => false

/-- The member of an enumeration, which may be declared in parts. -/
def enumMemberOf (es : List Entity) (name : String) : List Entity :=
  let parts := es.filter fun
    | .enumeration .. => true
    | _ => false
  let isMember := parts.any fun
    | .enumeration _ _ ms _ => ms.any (·.name.known? = some name)
    | _ => false
  if isMember then [.enumMember name parts] else []

mutual

/-- What a name stands for where it is written, as far as it has one of the
    meanings.  A name that was taken from elsewhere and leads nowhere ends the
    search. -/
def World.lookup (w : World) : Nat → Scope → List Meaning → String → List Entity
  | 0, _, _, _ => []
  | fuel + 1, scope, ms, name =>
    let found := w.namedInFrame name scope
    let settled := w.settle fuel found
    match scope.frames with
    | frame :: outer =>
      if endsSearch ms found frame then []
      else if isMeant ms found settled then settled
      else w.lookup fuel { scope with frames := outer } ms name
    | [] =>
      if isMeant ms found settled then settled
      else if scope.file.isModule then
        let shared := w.shared name
        let settled := w.settle fuel shared
        if isMeant ms shared settled then settled else []
      else []

/-- What a name leads to that was taken from elsewhere. -/
def World.follow (w : World) : Nat → Entity → List Entity
  | 0, _ => []
  | fuel + 1, .elsewhere _ origin scope =>
    match origin with
    | .member file name => w.fileMember fuel scope.file file name
    | .whole file => w.wholeFile fuel scope.file .names file
    | .asked file => w.wholeFile fuel scope.file .value file
    | .path names => w.pathOf fuel scope [.type, .value, .space] names
    | .within name => w.lookup fuel scope [.type, .value, .space] name
    | .itself => w.wholeOf fuel [.file scope.file]
  | _ + 1, e => [e]

/-- The declarations that others lead to; what goes by another name counts
    before what is declared beside it. -/
def World.settle (w : World) : Nat → List Entity → List Entity
  | 0, _ => []
  | fuel + 1, es =>
    match es.find? Entity.isElsewhere with
    | some e => w.follow fuel e
    | none => es

/-- The file, or the declared file, of a name. -/
def World.wholeFile (w : World) : Nat → SourceFile → Demand → String → List Entity
  | 0, _, _, _ => []
  | fuel + 1, from', demand, name => w.wholeOf fuel (w.writtenFile from' demand name)

/-- What is given in place of a whole file, or the file. -/
def World.wholeOf (w : World) : Nat → List Entity → List Entity
  | 0, _ => []
  | fuel + 1, whole =>
    match givenInPlace? whole with
    | none => whole
    | some (value, scope) =>
      match pathOf? value with
      | some path => w.pathOf fuel scope [.type, .value, .space] path
      | none => [.values 0 "export=" false [value] scope]

/-- What a file gives under a name. -/
def World.fileMember (w : World) : Nat → SourceFile → String → String → List Entity
  | 0, _, _, _ => []
  | fuel + 1, from', file, name =>
    let whole := w.wholeFile fuel from' .names file
    if name = "default" && w.settings.wholeIsDefault then
      if !whole.any isWholeFile then whole
      else
        let found := w.settle fuel (w.memberOf fuel [] whole name)
        let marked := w.memberOf fuel [] whole "__esModule"
        if found.isEmpty && whole.all standsForAll && marked.isEmpty then whole else found
    else
      let found := w.settle fuel (w.memberOf fuel [] whole name)
      match givenInPlace? (w.writtenFile from' .names file) with
      | some (value, scope) =>
        if found.isEmpty then [.values 0 ("export=." ++ name) false [.access value name false] scope]
        else found
      | none => found

/-- What namespaces, files and enumerations give under a name; the files that were seen are
    left out of what they pass on. -/
def World.memberOf (w : World) : Nat → List Place → List Entity → String → List Entity
  | 0, _, _, _ => []
  | fuel + 1, seen, es, name =>
    merge (enumMemberOf es name ++ es.flatMap fun
      | .space block scope =>
        if isSharedSpace (.space block scope) then
          (w.shared name).filter (·.kind ≠ .blockVariable)
        else w.exported fuel seen (block.sites scope) (exportsAll block.isAmbient block.statements) name
      | .file f =>
        if seen.contains f.place then []
        else
          w.exported fuel (f.place :: seen) (fileSites f) (exportsAll f.isAmbient f.statements) name
            ++ w.exported fuel (f.place :: seen) (w.additions f) true name
      | _ => [])

/-- What statements give to the outside under a name. -/
def World.exported (w : World) : Nat → List Place → List Site → (all : Bool) → String → List Entity
  | 0, _, _, _, _ => []
  | fuel + 1, seen, sites, all, name =>
    let direct := sites.flatMap fun site =>
      match site.statement with
      | .declaration .isDefault _ d =>
        if name = "default" then defaultOf site.scope d else []
      | .exportNames file names =>
        (names.filter (·.target = name)).map fun r => match file with
          | some file => .elsewhere name (.member file r.source) site.scope
          | none => .elsewhere name (.within r.source) site.scope
      | .exportAll file (some n) =>
        if n = name then [.elsewhere name (.whole file) site.scope] else []
      | .exportValue false value =>
        if name = "default" then
          match pathOf? value with
          | some path => [.elsewhere name (.path path) site.scope]
          | none => [.values 0 name false [value] site.scope]
        else []
      | .exportMember n _ => if n = name then (membersGiven name sites).take 1 else []
      | statement => if isExported all statement then site.named name else []
    if !direct.isEmpty || name = "default" then merge direct
    else
      (sites.findSome? fun site =>
        match site.statement with
        | .exportAll file none =>
          let found := w.memberOf fuel seen (w.wholeFile fuel site.scope.file .names file) name
          if found.isEmpty then none else some found
        | _ => none).getD []
where
  /-- The values that are given under a name. -/
  membersGiven (name : String) (sites : List Site) : List Entity :=
    let given := sites.filterMap fun site =>
      match site.statement with
      | .exportMember n e => if n = name then some (e, site.scope) else none
      | _ => none
    given.take 1 |>.map fun (_, scope) => .values 0 name false (given.map (·.1)) scope
  /-- What is declared as the default. -/
  defaultOf (scope : Scope) : Declaration → List Entity
    | .type d => [.type d scope]
    | .function f => [.function f scope]
    | _ => []

/-- What a path stands for where it is written. -/
def World.pathOf (w : World) : Nat → Scope → List Meaning → List String → List Entity
  | 0, _, _, _ => []
  | _ + 1, _, _, [] => []
  | fuel + 1, scope, ms, first :: others =>
    match others with
    | [] => w.lookup fuel scope ms first
    | _ => w.alongPath fuel (w.lookup fuel scope [.space] first) ms others

/-- What a path stands for that begins in namespaces. -/
def World.alongPath (w : World) : Nat → List Entity → List Meaning → List String → List Entity
  | 0, _, _, _ => []
  | _ + 1, es, _, [] => es
  | fuel + 1, es, ms, name :: others =>
    let found := w.memberOf fuel [] es name
    let settled := w.settle fuel found
    match others with
    | [] => if isMeant ms found settled then settled else []
    | _ => if haveMeaning [.space] settled then w.alongPath fuel settled ms others else []

end

/-- The names that a statement declares. -/
def declaredNames : Statement → List String
  | .declaration _ _ d =>
    match d with
    | .type t => t.name.toList
    | .synonym _ name _ _ => [name]
    | .enumeration _ name _ => [name]
    | .function f => f.name.toList
    | .variables _ vs => vs.flatMap fun v => (namesOf v.pattern).map (·.1)
  | .space _ _ name _ => [SpaceName.key name]
  | .importPath _ name _ => [name]
  | .importFile _ name _ => [name]
  | _ => []

/-- The statement declares a function, which counts before all other statements of its block. -/
def declaresFunction : Statement → Bool
  | .declaration _ _ (.function _) => true
  | _ => false

mutual

/-- The names that namespaces and files give to the outside. -/
def World.namesGiven (w : World) : Nat → List Place → List Entity → List String
  | 0, _, _ => []
  | fuel + 1, seen, es => es.flatMap fun
    | .space block scope =>
      if isSharedSpace (.space block scope) then
        sharedSpace.name :: namesOfLibrary w.settings.library
          ++ w.sharedSites.flatMap (declaredNames ·.statement)
      else w.namesExported fuel seen (block.sites scope) (exportsAll block.isAmbient block.statements)
    | .file f =>
      if seen.contains f.place then []
      else
        w.namesExported fuel (f.place :: seen) (fileSites f)
            (exportsAll f.isAmbient f.statements)
          ++ w.namesExported fuel (f.place :: seen) (w.additions f) true
    | _ => []

/-- The names that statements give to the outside. -/
def World.namesExported (w : World) : Nat → List Place → List Site → (all : Bool) → List String
  | 0, _, _, _ => []
  | fuel + 1, seen, sites, all =>
    let (functions, others) := sites.partition (declaresFunction ·.statement)
    let direct := (functions ++ others).flatMap fun site =>
      match site.statement with
      | .declaration .isDefault _ _ => ["default"]
      | .exportNames _ names => names.map (·.target)
      | .exportAll _ (some name) => [name]
      | .exportValue false _ => ["default"]
      | .exportMember n _ => [n]
      | statement => if isExported all statement then declaredNames statement else []
    let passed := sites.flatMap fun site =>
      match site.statement with
      | .exportAll file none =>
        (w.namesGiven fuel seen (w.wholeFile fuel site.scope.file .names file)).filter
          (· ≠ "default")
      | _ => []
    direct ++ passed

end

/-- The name was taken from elsewhere. -/
def World.isTaken (w : World) (file : SourceFile) (name : String) : List Frame → Bool
  | [] =>
    let found := w.namedInFrame name ⟨file, []⟩
    found.any Entity.isElsewhere
  | frame :: outer =>
    let found := w.namedInFrame name ⟨file, frame :: outer⟩
    if found.isEmpty then w.isTaken file name outer else found.any Entity.isElsewhere

/-- The types of markup of a name, as a file sees them. -/
def World.markupType (w : World) (fuel : Nat) (file : SourceFile) (name : String) : List Entity :=
  let form := w.settings.markup
  let implied := match form.fileFor file.pragmas with
    | some n => w.wholeFile fuel file .names n
    | none => []
  let holder := if implied.isEmpty then
      w.lookup fuel ⟨file, []⟩ [.space] (form.spaceFor file.pragmas)
    else implied
  let inner := (w.alongPath fuel holder [.space] ["JSX"]).filter (·.means .space)
  let space := if inner.isEmpty then w.settle fuel (w.shared "JSX") else inner
  w.alongPath fuel space [.type] [name]

/-- Enough steps to follow a name through all files, and to go down into a type
    that is written in one of them. -/
def World.reach (w : World) : Nat := w.sources.files.foldr (fun file n => file.size + n) 1024

end TypeLineage.Program
