/-! # Paths

    A written path is a text with strokes; a `Place` is the list of names that
    leads from the root of all files to a file or directory.  `Place.resolve`
    reads a written path from a place, taking `.` and `..` for what they mean.
    The strokes are `/`; `toPosix` turns backslashes into them. -/

namespace TypeLineage

/-- The names on the way from the root of all files. -/
abbrev Place := List String

namespace Path

/-- The names between the strokes of a written path. -/
def segments (path : String) : List String := (path.toList.splitOn '/').map String.ofList

/-- The path with strokes in the place of backslashes. -/
def toPosix (path : String) : String :=
  path.map fun c => if c = '\\' then '/' else c

/-- Begins at the root of all files. -/
def isAbsolute (path : String) : Bool := path.startsWith "/"

/-- The last name of a written path; strokes at the end do not count. -/
def baseName (path : String) : String :=
  ((segments path).filter (· ≠ "")).getLast?.getD ""

/-- The end of the last name from its last point on.  A point before which
    there is nothing begins no extension, and neither does the name `..`. -/
def extension (path : String) : String :=
  let name := (baseName path).toList
  let suffix := name.reverse.takeWhile (· ≠ '.')
  let stem := name.take (name.length - suffix.length - 1)
  if suffix.length = name.length || stem.isEmpty || name = ['.', '.'] then ""
  else String.ofList ('.' :: suffix.reverse)

/-- Follows one name from a place. -/
def step (place : Place) (name : String) : Place :=
  if name = "" || name = "." then place
  else if name = ".." then place.dropLast
  else place ++ [name]

/-- The place a written path leads to from `base`. -/
def resolve (base : Place) (path : String) : Place :=
  (segments path).foldl step (if isAbsolute path then [] else base)

/-- The place of a written path below a directory: a stroke in front of it does
    not lead to the root of all files. -/
def inside (directory : Place) (path : String) : Place := (segments path).foldl step directory

/-- What stands before the names below a directory in their paths. -/
def front (directory : String) : String :=
  if directory = "." then "" else if directory.endsWith "/" then directory else directory ++ "/"

/-- The places that a written path passes before its last name. -/
def passed (base : Place) (path : String) : List Place :=
  let names := (segments path).dropLast
  (List.range (names.length + 1)).map fun n =>
    (names.take n).foldl step (if isAbsolute path then [] else base)

/-- The path ends in a name of its own, as a path to a file does. -/
def namesFile (path : String) : Bool :=
  let name := (segments path).getLast?.getD ""
  name ≠ "" && name ≠ "." && name ≠ ".."

/-- A place as an absolute path. -/
def absolute (place : Place) : String :=
  match place with
  | [] => "/"
  | names => String.join (names.map ("/" ++ ·))

/-- The path from a directory to a place. -/
def relative (directory place : Place) : String :=
  "/".intercalate (go directory place)
where
  go : Place → Place → List String
    | d :: ds, p :: ps => if d = p then go ds ps else (d :: ds).map (fun _ => "..") ++ p :: ps
    | ds, ps => ds.map (fun _ => "..") ++ ps

end Path

end TypeLineage
