import Std.Time.DateTime.Timestamp
import TypeLineage.Command.Run
import TypeLineage.Number.Digits

/-! # The program

    Reads the files a command may need, runs it, writes what has changed and
    prints what it has to say. -/

/-! ## Instants

    An instant is a number of milliseconds since the beginning of 1970 and is
    told by its date and its time of day in universal time. -/

namespace TypeLineage.Instant

/-- A number in at least so many digits. -/
def padded (width n : Nat) : String :=
  let digits := Number.decimalDigits n
  String.ofList (List.replicate (width - digits.length) '0' ++ digits)

/-- The year, the month and the day of a day, counted from the beginning of 1970.
    Years begin in March here, so that the leap day is a year's last. -/
def dateOfDay (day : Nat) : Nat × Nat × Nat :=
  let shifted := day + 719468
  let cycle := shifted / 146097
  let inCycle := shifted % 146097
  let year := (inCycle - inCycle / 1460 + inCycle / 36524 - inCycle / 146096) / 365
  let inYear := inCycle - (365 * year + year / 4 - year / 100)
  let month := (5 * inYear + 2) / 153
  let dayOfMonth := inYear - (153 * month + 2) / 5 + 1
  if month < 10 then (cycle * 400 + year, month + 3, dayOfMonth)
  else (cycle * 400 + year + 1, month - 9, dayOfMonth)

/-- The text of an instant, to the millisecond. -/
def text (milliseconds : Nat) : String :=
  let (year, month, day) := dateOfDay (milliseconds / 86400000)
  let inDay := milliseconds % 86400000
  padded 4 year ++ "-" ++ padded 2 month ++ "-" ++ padded 2 day ++ "T"
    ++ padded 2 (inDay / 3600000) ++ ":" ++ padded 2 (inDay / 60000 % 60) ++ ":"
    ++ padded 2 (inDay / 1000 % 60) ++ "." ++ padded 3 (inDay % 1000) ++ "Z"

end TypeLineage.Instant

/-! ## Running -/

open TypeLineage

/-- The names in a directory; none where there is no directory. -/
def namesIn? (place : Place) : IO (Option (List String)) := do
  let here ← IO.currentDir
  try
    let entries ← (here / Path.absolute place).readDir
    pure (some (entries.toList.map (·.fileName)))
  catch _ => pure none

/-- Of installed packages only declarations and descriptions are read. -/
def isWanted (place : Place) : Bool :=
  let name := place.getLast?.getD ""
  !place.contains "node_modules" || name.endsWith ".d.ts" || name.endsWith ".json"

/-- Reads the file at a place. -/
def readFile (t : FileTree) (place : Place) : IO FileTree := do
  try
    let bytes ← IO.FS.readBinFile (Path.absolute place)
    pure (t.put place bytes.toList)
  catch _ => pure t

/-- Reads all that stands at a place. -/
partial def readBelow (t : FileTree) (place : Place) : IO FileTree := do
  match ← namesIn? place with
  | some names =>
    names.foldlM (fun t name => if name = ".git" then pure t else readBelow t (place ++ [name]))
      (t.putDirectory place)
  | none => if isWanted place then readFile t place else pure t

/-- Reads the directory that a command runs in, the one it starts from, and the
    configurations above that. -/
def readFiles (home : Place) (source : Option String) : IO FileTree := do
  let t ← readBelow .empty home
  match source with
  | none => pure t
  | some path =>
    let root := Path.resolve home path
    let t ← if home.isPrefixOf root then pure t else readBelow t root
    (Project.ancestors root).foldlM (fun t place => readFile t (place ++ ["tsconfig.json"])) t

/-- Writes the files that have changed. -/
def writeFiles (before after : FileTree) : IO Unit :=
  for (place, content) in after.files do
    if before.content? place ≠ some content then
      IO.FS.createDirAll (Path.absolute place.dropLast)
      IO.FS.writeBinFile (Path.absolute place) ⟨content.toArray⟩

/-- What is printed besides the lines of a command. -/
def manual (invocation : Invocation) : List String :=
  match invocation with
  | .help => CommandName.all.map fun c => Tool.name ++ " " ++ c.usage
  | .version => [Tool.version]
  | _ => []

def main (arguments : List String) : IO UInt32 := do
  let home := Path.resolve [] (← IO.currentDir).toString
  let now := Instant.text (← Std.Time.Timestamp.now).toMillisecondsSinceUnixEpoch.val.toNat
  let invocation := Invocation.ofArguments arguments
  let files ← if invocation.source?.isSome then readFiles home invocation.source? else pure .empty
  let outcome := Command.run home now files invocation
  (manual invocation ++ outcome.out).forM IO.println
  match outcome.failure with
  | some (.misuse m) => IO.eprintln ("error: " ++ m.message)
  | some f => f.message?.forM IO.eprintln
  | none => pure ()
  try
    writeFiles files outcome.tree
    pure outcome.code.toUInt32
  catch e =>
    IO.eprintln e.toString
    pure 2
