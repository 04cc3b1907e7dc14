import TypeLineage.Source.Reader

/-! # Remarks

    A script writes no types: remarks tell them, comments that begin with two
    stars.  A remark stands before what it is about.  It is made of tags, each a
    word behind an at sign, and what a tag tells is a type in braces, a name, or
    both.  Types in remarks are read as others are; their spots are counted from
    the end of the file, so that they are apart from those of its tokens. -/

namespace TypeLineage.Source

open Read

/-! ## Remarks and their tags -/

/-- A remark: what it says, with blanks for the stars that its lines begin with, and how much of
    the file follows it. -/
structure Remark where
  text : List Char
  behind : Nat

/-- A tag of a remark. -/
structure Tag where
  word : String
  /-- The text from behind the brace that opens the type. -/
  type : Option (List Char)
  /-- The text behind the word and the type. -/
  text : List Char

/-- A text with blanks for the stars that its lines begin with. -/
def withoutStars (atLine : Bool) : List Char → List Char
  | [] => []
  | c :: rest =>
    if isBreak c then c :: withoutStars true rest
    else if atLine && isGap c then c :: withoutStars true rest
    else if atLine && c = '*' then ' ' :: withoutStars false rest
    else c :: withoutStars false rest

/-- The remarks before the next token. -/
def remarksIn : Nat → List Char → List Remark
  | 0, _ => []
  | fuel + 1, '/' :: '/' :: rest => remarksIn fuel (rest.dropWhile (!isBreak ·))
  | fuel + 1, '/' :: '*' :: rest =>
    let behind := (afterComment rest).2
    let inside := rest.take (rest.length - behind.length - 2)
    match inside with
    | '*' :: text => ⟨withoutStars false text, behind.length + 2⟩ :: remarksIn fuel behind
    | _ => remarksIn fuel behind
  | fuel + 1, c :: rest => if isGap c || isBreak c then remarksIn fuel rest else []
  | _ + 1, [] => []

/-- What follows a group in braces that is open. -/
def afterGroup : (depth : Nat) → List Char → List Char
  | _, [] => []
  | depth, c :: rest =>
    if c = '\x7b' then afterGroup (depth + 1) rest
    else if c = '\x7d' then
      match depth with
      | 0 => rest
      | depth + 1 => afterGroup depth rest
    else afterGroup depth rest

/-- The text without the blanks at its beginning. -/
def withoutGap (cs : List Char) : List Char := cs.dropWhile fun c => isGap c || isBreak c

/-- The tags of a remark; a blank stands before each. -/
def tagsIn : Nat → (isApart : Bool) → List Char → List Tag
  | 0, _, _ => []
  | _ + 1, _, [] => []
  | fuel + 1, isApart, c :: rest =>
    if c = '@' && isApart && rest.head?.any Text.isLetter then
      let word := rest.takeWhile Text.isLetterFollower
      match withoutGap (rest.drop word.length) with
      | '\x7b' :: inside =>
        let text := afterGroup 0 inside
        ⟨String.ofList word, some inside, text⟩ :: tagsIn fuel true text
      | text => ⟨String.ofList word, none, text⟩ :: tagsIn fuel true text
    else tagsIn fuel (isGap c || isBreak c) rest

/-- The tags of a remark. -/
def Remark.tags (m : Remark) : List Tag := tagsIn (m.text.length + 1) true m.text

/-- A name at the beginning of a text, and what follows. -/
def nameAt? (cs : List Char) : Option (String × List Char) :=
  if cs.head?.any Text.isLetter then
    let (name, rest) := readName longest cs
    some (String.ofList name, rest)
  else none

/-- The names of a path behind its first, and what follows. -/
def pathBehind : Nat → List Char → List String × List Char
  | 0, cs => ([], cs)
  | fuel + 1, '[' :: ']' :: rest => pathBehind fuel rest
  | fuel + 1, '.' :: rest =>
    match nameAt? rest with
    | some (name, rest) =>
      let (names, rest) := pathBehind fuel rest
      (name :: names, rest)
    | none => ([], rest)
  | _ + 1, cs => ([], cs)

/-- A path of names at the beginning of a text, and what follows. -/
def pathAt? (cs : List Char) : Option (List String × List Char) :=
  (nameAt? cs).map fun (first, rest) =>
    let (names, rest) := pathBehind (rest.length + 1) rest
    (first :: names, rest)

/-! ## Reading in remarks -/

/-- Reads from a place in a remark on, without leaving the place of the remark. -/
def inRemark (m : Remark) (cs : List Char) (p : Read α) : Read α := do
  let c ← get
  let start := { c with index := 2 * longest - (m.behind + cs.length), around := .ofFile }
  set (start.goTo false cs)
  let x ← p
  let files := (← get).files
  set { c with files }
  return x

/-- The remarks before a cursor, if it reads a script. -/
def remarksBefore (c : Cursor) : List Remark :=
  if c.isScript then remarksIn (c.before.length + 1) c.before else []

end TypeLineage.Source
