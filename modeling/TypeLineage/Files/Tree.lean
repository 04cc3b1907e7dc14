import TypeLineage.Files.Path
import TypeLineage.Text.CodeUnits
import TypeLineage.Text.Utf8

/-! # Trees of files

    A `FileTree` holds the contents of files by place and knows which
    directories there are beyond those that hold files.  Everything a run
    reads it reads from such a tree, and what it writes is a tree again. -/

namespace TypeLineage

/-- Files with their contents, and directories that may be empty. -/
structure FileTree where
  files : List (Place × List UInt8)
  directories : List Place
  deriving Inhabited

/-- A request the file system refuses. -/
inductive FileError where
  /-- The way leads through a file. -/
  | notADirectory
  /-- A directory stands where a file is asked for. -/
  | isADirectory
  deriving DecidableEq, Repr

/-- The refusal in words. -/
def FileError.message : FileError → String
  | .notADirectory => "not a directory"
  | .isADirectory => "is a directory"

namespace FileTree

/-- No files. -/
def empty : FileTree := ⟨[], []⟩

/-- The content of the file at a place. -/
def content? (t : FileTree) (place : Place) : Option (List UInt8) := t.files.lookup place

/-- A file stands at the place. -/
def isFile (t : FileTree) (place : Place) : Bool := (t.content? place).isSome

/-- A directory stands at the place: one that was made, or one on the way to a
    file or a directory. -/
def isDirectory (t : FileTree) (place : Place) : Bool :=
  place.isEmpty || t.directories.any (place.isPrefixOf ·)
    || t.files.any fun f => place.isPrefixOf f.1.dropLast

/-- The way to the place leads through a file. -/
def isBlocked (t : FileTree) (place : Place) : Bool :=
  t.files.any fun f => f.1.isPrefixOf place && f.1.length < place.length

/-- The text of the file at a place. -/
def text? (t : FileTree) (place : Place) : Option String :=
  (t.content? place).map Text.decodeUtf8

/-- The tree with a file of the given content at a place. -/
def put (t : FileTree) (place : Place) (content : List UInt8) : FileTree :=
  { t with files := insert t.files }
where
  insert : List (Place × List UInt8) → List (Place × List UInt8)
    | [] => [(place, content)]
    | (p, c) :: rest => if p = place then (p, content) :: rest else (p, c) :: insert rest

/-- The tree with a directory at a place. -/
def putDirectory (t : FileTree) (place : Place) : FileTree :=
  { t with directories := t.directories ++ [place] }

/-- Writes a text, making the directories on the way. -/
def write (t : FileTree) (place : Place) (text : String) : Except FileError FileTree :=
  if t.isBlocked place then .error .notADirectory
  else if t.isDirectory place then .error .isADirectory
  else .ok (t.put place text.toUTF8.toList)

/-- Writes a text under a written path. -/
def writeAt (t : FileTree) (base : Place) (path text : String) : Except FileError FileTree :=
  if (Path.passed base path).any t.isFile then .error .notADirectory
  else if !Path.namesFile path then .error .isADirectory
  else t.write (Path.resolve base path) text

/-- The places of all files. -/
def places (t : FileTree) : List Place := t.files.map (·.1)

/-- The places of the files below a directory. -/
def below (t : FileTree) (directory : Place) : List Place :=
  t.places.filter fun p => directory.isPrefixOf p && directory.length < p.length

end FileTree

/-! ## Files as texts

    Source files and configurations say by their first bytes how they are
    encoded: a mark of two bytes announces 16-bit code units, the three bytes
    that are the mark in UTF-8 are dropped, and any other file is UTF-8. -/

namespace Text

/-- Pairs of bytes as code units; a last single byte is dropped. -/
def pairUnits (lowFirst : Bool) : List UInt8 → List Nat
  | a :: b :: rest =>
    (if lowFirst then b.toNat * 256 + a.toNat else a.toNat * 256 + b.toNat)
      :: pairUnits lowFirst rest
  | _ => []

/-- The unit is the first of a surrogate pair. -/
def isHighSurrogate (u : Nat) : Bool := 0xD800 ≤ u && u ≤ 0xDBFF

/-- The unit is the second of a surrogate pair. -/
def isLowSurrogate (u : Nat) : Bool := 0xDC00 ≤ u && u ≤ 0xDFFF

/-- The characters that code units encode; a lone surrogate is replaced. -/
def charsOfUnits : List Nat → List Char
  | [] => []
  | [u] => [if isHighSurrogate u || isLowSurrogate u then replacement else Char.ofNat u]
  | u :: v :: rest =>
    if isHighSurrogate u && isLowSurrogate v then
      Char.ofNat (0x10000 + (u - 0xD800) * 0x400 + (v - 0xDC00)) :: charsOfUnits rest
    else
      (if isHighSurrogate u || isLowSurrogate u then replacement else Char.ofNat u)
        :: charsOfUnits (v :: rest)

/-- The characters of a file that may announce its encoding. -/
def decodeMarked : List UInt8 → List Char
  | 0xFF :: 0xFE :: rest => charsOfUnits (pairUnits true rest)
  | 0xFE :: 0xFF :: rest => charsOfUnits (pairUnits false rest)
  | 0xEF :: 0xBB :: 0xBF :: rest => decodeFrom none rest
  | bytes => decodeFrom none bytes

end Text

/-- The characters of the file at a place, read as it announces. -/
def FileTree.markedText? (t : FileTree) (place : Place) : Option (List Char) :=
  (t.content? place).map Text.decodeMarked

end TypeLineage
