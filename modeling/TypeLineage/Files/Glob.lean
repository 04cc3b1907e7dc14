import TypeLineage.Text.Regex
import TypeLineage.Files.Glob.Braces
import TypeLineage.Files.Glob.Fixed

/-! # Globs

    A glob is a path with patterns in it: `*` stands for any run of code units
    of a name, `?` for one, and brackets for one of a set; `**` as a whole name
    stands for any number of names, none included.  Groups in parentheses hold
    alternatives, with a mark in front that says how often they occur.
    `Glob.read` turns a glob without braces into the regular expression of the
    paths that it takes. -/

namespace TypeLineage

/-- A pattern for paths.  A negated one takes what its body does not; a text
    that is no pattern takes nothing. -/
structure Glob where
  negated : Bool
  body : Option Regex
  deriving Repr, Inhabited

namespace Glob

/-! ## Notation -/

/-- Any code unit of a name. -/
def oneUnit : String := "[^/]"

/-- Any run of code units of a name. -/
def anyRun : String := "[^/]*?"

/-- Something follows on the line. -/
def oneAhead : String := "(?=.)"

/-- A whole name of one or two points. -/
def pointsName : String := "\\.\x7b1,2\x7d(?:\\/|$)"

/-- No name of points begins here. -/
def noPoints : String := "(?!" ++ pointsName ++ ")"

/-- No name of points begins here or behind a stroke here. -/
def noPointsName : String := "(?!(?:^|\\/)" ++ pointsName ++ ")"

/-- Any run within a line that passes no name of points. -/
def anyDepth : String := "(?:(?:(?!(?:^|\\/)" ++ pointsName ++ ").)*?)"

/-- Characters that mean something in an expression. -/
def specialChars : List Char :=
  ['-', '*', '+', '?', '.', '^', '$', '\x7b', '\x7d', '(', '|', ')', '[', ']']

/-- The notation that takes exactly these characters. -/
def escaped (cs : List Char) : String :=
  String.ofList (cs.flatMap fun c => if specialChars.contains c then ['\\', c] else [c])

/-! ## Short globs -/

/-- The notation of the most common globs. -/
def commonSource? : (steps : Nat) → String → Option String
  | 0, _ => none
  | steps + 1, text =>
    match text with
    | "*" => some (noPointsName ++ oneAhead ++ anyRun)
    | ".*" => some ("\\." ++ oneAhead ++ anyRun)
    | "*.*" => some (noPointsName ++ anyRun ++ "\\." ++ oneAhead ++ anyRun)
    | "*/*" => some (noPointsName ++ anyRun ++ "\\/" ++ oneAhead ++ noPoints ++ anyRun)
    | "**" => some (noPointsName ++ anyDepth)
    | "**/*" => some (deep ++ noPoints ++ oneAhead ++ anyRun)
    | "**/*.*" => some (deep ++ noPoints ++ anyRun ++ "\\." ++ oneAhead ++ anyRun)
    | "**/.*" => some (deep ++ "\\." ++ oneAhead ++ anyRun)
    | _ =>
      let cs := text.toList.reverse
      let suffix := cs.takeWhile fun c => c.isAlphanum || c == '_'
      match cs.dropWhile fun c => c.isAlphanum || c == '_' with
      | '.' :: front =>
        if suffix.isEmpty then none
        else (commonSource? steps (String.ofList front.reverse)).map
          (· ++ "\\." ++ String.ofList suffix.reverse)
      | _ => none
where
  deep : String := "(?:" ++ noPointsName ++ anyDepth ++ "\\/)?"

/-- What is left behind some characters is no longer than all of them. -/
theorem length_dropWhile_le (p : Char → Bool) (cs : List Char) :
    (cs.dropWhile p).length ≤ cs.length :=
  (List.dropWhile_suffix p).length_le

/-- The notation of a glob for a single name without sets and groups. -/
def plainSource : List Char → String
  | [] => ""
  | '\\' :: c :: rest => String.ofList ['\\', c] ++ plainSource rest
  | '?' :: rest => oneUnit ++ plainSource rest
  | '.' :: rest => "\\." ++ plainSource rest
  | '*' :: rest => anyRun ++ plainSource (rest.dropWhile (· = '*'))
  | c :: rest =>
    if c.isAlphanum || c == '_' then String.singleton c ++ plainSource rest
    else
      let run := rest.takeWhile (· = c)
      "\\" ++ String.ofList (c :: run) ++ plainSource (rest.dropWhile (· = c))
termination_by cs => cs.length
decreasing_by all_goals grind [length_dropWhile_le]

/-! ## Parts of a glob -/

/-- What a part of a glob is. -/
inductive PartKind where
  | start
  | stroke
  | point
  | text
  | run
  | depth
  | set
  | group
  | brace
  | comma
  | mark
  deriving DecidableEq, Repr, Inhabited

/-- A part of a glob with its notation. -/
structure Part where
  kind : PartKind
  /-- The part opens a plain group. -/
  opens : Bool := false
  /-- Three or more stars in a row. -/
  long : Bool := false
  source : String
  deriving Repr, Inhabited

/-- A group that is open: the mark before it, how many parentheses were open
    before, what stands in it so far, and whether it begins the glob. -/
structure OpenGroup where
  mark : Char
  outside : Nat
  inner : String
  first : Bool
  deriving Repr

/-- What has been read of a glob; the latest part comes first. -/
structure Reading where
  parts : List Part
  groups : List OpenGroup
  parentheses : Nat
  braces : Nat
  deriving Repr

namespace Reading

/-- Nothing read. -/
def begun : Reading := ⟨[⟨.start, false, false, ""⟩], [], 0, 0⟩

/-- The latest part. -/
def latest (r : Reading) : Part := r.parts.headD ⟨.start, false, false, ""⟩

/-- Adds a part.  Two stars that no stroke follows are a run like one. -/
def push (r : Reading) (p : Part) (source : String) : Reading :=
  let keeps := match p.kind with
    | .stroke | .group => true
    | .comma | .brace => r.braces > 0
    | _ => false
  let parts := match r.parts with
    | q :: rest =>
      if q.kind = .depth && !keeps then ⟨.run, false, false, anyRun⟩ :: rest else r.parts
    | [] => []
  let groups := match r.groups with
    | g :: rest => if p.kind = .group then r.groups else { g with inner := g.inner ++ source } :: rest
    | [] => []
  { r with parts := p :: parts, groups := groups }

/-- Adds a part of the given kind. -/
def add (r : Reading) (kind : PartKind) (source text : String) : Reading :=
  r.push ⟨kind, false, false, text⟩ source

/-- Changes the latest part. -/
def amend (r : Reading) (change : Part → Part) : Reading :=
  match r.parts with
  | p :: rest => { r with parts := change p :: rest }
  | [] => r

/-- The characters of the whole notation. -/
def chars (r : Reading) : List Char := r.parts.reverse.flatMap (·.source.toList)

/-- Opens a group behind a mark. -/
def openGroup (r : Reading) (mark : Char) : Reading :=
  let first := r.parts.length ≤ 1
  let front := if mark = '!' then "(?:(?!(?:" else "(?:"
  let r := r.push ⟨.mark, false, false, if r.chars.isEmpty then oneAhead else ""⟩ (String.singleton mark)
  let r := r.push ⟨.group, false, false, front⟩ "("
  { r with groups := ⟨mark, r.parentheses, "", first⟩ :: r.groups, parentheses := r.parentheses + 1 }

/-- Closes a group behind a mark; `rest` follows it. -/
def closeGroup (r : Reading) (g : OpenGroup) (rest : List Char) : Reading :=
  let text := match g.mark with
    | '!' =>
      let run := if g.inner.length > 1 && g.inner.contains '/' then anyDepth else anyRun
      if run ≠ anyRun || rest.all (· = ')') then ")$))" ++ run else "))" ++ run ++ ")"
    | '@' => ")"
    | mark => ")" ++ String.singleton mark
  let r := { r with groups := r.groups.drop 1 }
  let r := r.push ⟨.group, false, false, text⟩ ")"
  { r with parentheses := r.parentheses - 1 }

end Reading

/-! ## Sets -/

/-- The notation of a set up to its closing bracket, without its opening one,
    and what follows the closing one; `none` where nothing closes it. -/
def cutSet? : (inside : List Char) → List Char → Option (List Char × List Char)
  | _, [] => none
  | inside, '\\' :: c :: rest => cutSet? (inside ++ ['\\', c]) rest
  | inside, ']' :: rest =>
    if inside = [] || inside = ['^'] then cutSet? (inside ++ ['\\', ']']) rest
    else some (inside, rest)
  | inside, '[' :: rest => cutSet? (inside ++ ['\\', '[']) rest
  | inside, '-' :: ']' :: rest => some (inside ++ ['\\', '-'], rest)
  | [], '!' :: rest => cutSet? ['^'] rest
  | inside, c :: rest => cutSet? (inside ++ [c]) rest

/-- The notation of a set with the given inside.  A set without characters
    that mean something also stands for itself, brackets and all. -/
def setSource (inside : List Char) : String :=
  let guarded := if inside.head? = some '^' && !inside.contains '/' then inside ++ ['/'] else inside
  let written := String.ofList ('[' :: guarded ++ [']'])
  if inside.any specialChars.contains then written
  else "(?:" ++ escaped ('[' :: inside ++ [']']) ++ "|" ++ written ++ ")"

/-! ## Stars -/

/-- What follows any further `/**` in a row. -/
def dropRepeated : (steps : Nat) → List Char → List Char
  | 0, cs => cs
  | steps + 1, '/' :: '*' :: '*' :: rest =>
    match rest with
    | [] => dropRepeated steps rest
    | '/' :: _ => dropRepeated steps rest
    | _ => '/' :: '*' :: '*' :: rest
  | _ + 1, cs => cs

/-- The parts with a first star behind them. -/
def firstStar (r : Reading) (atStart : Bool) (rest : List Char) : Reading :=
  let kind := r.latest.kind
  let guarded :=
    if atStart || kind = .stroke || kind = .point then
      let front := if kind = .point then "(?!\\.\x7b0,1\x7d(?:\\/|$))" else noPoints
      let ahead := if rest.head? = some '*' then "" else oneAhead
      r.amend fun p => { p with source := p.source ++ front ++ ahead }
    else r
  guarded.add .run "*" anyRun

/-- The parts with a second star behind a first, and what is left to read. -/
def secondStar (r : Reading) (rest : List Char) : Reading × List Char :=
  match r.parts with
  | star :: prior :: front =>
    let begins := prior.kind = .stroke || prior.kind = .start
    let inBrace := r.braces > 0 && (prior.kind = .comma || prior.kind = .brace)
    if !begins && prior.kind ≠ .group && !inBrace then (r.add .run "*" "", rest)
    else
      let rest := dropRepeated rest.length rest
      let inner := prior.kind = .stroke && (front.head?.map (·.kind)) != some .start
      let afterStar := match front with
        | p :: _ => p.kind = .run || p.kind = .depth
        | [] => false
      let depth (text : String) : Part := { star with kind := .depth, source := text }
      if prior.kind = .start && rest.isEmpty then
        ({ r with parts := depth anyDepth :: { prior with source := "" } :: front }, rest)
      else if inner && !afterStar && rest.isEmpty then
        ({ r with parts := depth (anyDepth ++ "|$)")
            :: { prior with source := "(?:" ++ prior.source } :: front }, rest)
      else match rest with
        | '/' :: after =>
          if inner then
            let stop := if after.isEmpty then "" else "|$"
            let parts := depth (anyDepth ++ "\\/|\\/" ++ stop ++ ")")
              :: { prior with source := "(?:" ++ prior.source } :: front
            (({ r with parts := parts } : Reading).add .stroke "/" "", after)
          else if prior.kind = .start then
            let parts := depth ("(?:^|\\/|" ++ anyDepth ++ "\\/)")
              :: { prior with source := "" } :: front
            (({ r with parts := parts } : Reading).add .stroke "/" "", after)
          else ({ r with parts := depth anyDepth :: prior :: front }, rest)
        | _ => ({ r with parts := depth anyDepth :: prior :: front }, rest)
  | _ => (r, rest)

/-! ## Reading -/

/-- Reads what begins with the character `c`; the parts and what is left. -/
def readPart (r : Reading) (atStart : Bool) (c : Char) (rest : List Char) :
    Reading × List Char :=
  let last := r.latest
  let group := rest.head? = some '(' && rest[1]? ≠ some '?'
  match c with
  | '\\' =>
    match rest with
    | '/' :: _ => (r, rest)
    | '.' :: _ => (r, rest)
    | next :: after => (r.add .text (String.ofList ['\\', next]) (String.ofList ['\\', next]), after)
    | [] => (r.add .text "\\" "\\\\", [])
  | '"' =>
    let inside := rest.takeWhile (· ≠ '"')
    (r.add .text (String.ofList inside) (escaped inside), (rest.dropWhile (· ≠ '"')).drop 1)
  | '(' =>
    ({ r.push ⟨.group, true, false, "("⟩ "(" with parentheses := r.parentheses + 1 }, rest)
  | ')' =>
    match r.groups with
    | g :: _ =>
      if r.parentheses = g.outside + 1 then (r.closeGroup g rest, rest)
      else ({ r.push ⟨.group, false, false, ")"⟩ ")" with parentheses := r.parentheses - 1 }, rest)
    | [] =>
      let text := if r.parentheses = 0 then "\\)" else ")"
      ({ r.push ⟨.group, false, false, text⟩ ")" with parentheses := r.parentheses - 1 }, rest)
  | '[' =>
    if !rest.contains ']' then (r.add .set "[" "\\[", rest)
    else match cutSet? [] rest with
      | some (inside, after) =>
        (r.add .set (String.ofList ('[' :: inside ++ [']'])) (setSource inside), after)
      | none =>
        let inside := String.ofList ((rest.takeWhile (· ≠ ']')) ++ ['\\', ']']
          ++ (rest.dropWhile (· ≠ ']')).drop 1)
        (r.add .set "[" ("\\[" ++ inside), [])
  | ']' => (r.add .text "]" "\\]", rest)
  | '\x7b' =>
    let closed := rest.contains '\x7d'
    ({ r.add .brace "\x7b" (if closed then "\\\x7b" else "(") with braces := r.braces + 1 }, rest)
  | '\x7d' =>
    if r.braces = 0 then (r.add .text "\x7d" "\x7d", rest)
    else ({ r.add .brace "\x7d" "\\\x7d" with braces := r.braces - 1 }, rest)
  | ',' =>
    let alternative := r.braces > 0 && !rest.contains '\x7d'
    (r.add .comma "," (if alternative then "|" else ","), rest)
  | '/' =>
    match r.parts with
    | [⟨.point, _, _, _⟩, _] => (.begun, rest)
    | _ => (r.add .stroke "/" "\\/", rest)
  | '.' =>
    let plain := r.braces + r.parentheses = 0 && last.kind ≠ .start && last.kind ≠ .stroke
    (r.add (if plain then .text else .point) "." "\\.", rest)
  | '?' =>
    if group && !last.opens then (r.openGroup '?', rest.drop 1)
    else if last.kind = .group then
      let special := rest.head?.any ['!', '=', '<', ':'].contains
      (r.add .text "?" (if last.opens && !special then "\\?" else "?"), rest)
    else (r.add .mark "?" oneUnit, rest)
  | '+' =>
    if group then (r.openGroup '+', rest.drop 1)
    else if last.opens then (r.add .mark "+" "\\+", rest)
    else if last.kind = .set || last.kind = .group || last.kind = .brace || r.parentheses > 0 then
      (r.add .mark "+" "+", rest)
    else (r.add .mark "+" "\\+", rest)
  | '@' => if group then (r.openGroup '@', rest.drop 1) else (r.add .text "@" "@", rest)
  | '!' => if group then (r.openGroup '!', rest.drop 1) else (r.add .text "!" "!", rest)
  | '*' =>
    if last.kind = .depth || last.long then
      (r.amend fun p => { p with kind := .run, long := true, source := anyRun }, rest)
    else if group then (r.openGroup '*', rest.drop 1)
    else if last.kind = .run then secondStar r rest
    else (firstStar r atStart rest, rest)
  | c =>
    let text := if c = '$' || c = '^' then String.ofList ['\\', c] else String.singleton c
    (r.add .text (String.singleton c) text, rest)

/-- Reads a glob in at most so many parts. -/
def readParts : (steps : Nat) → Reading → (atStart : Bool) → List Char → Reading
  | 0, r, _, _ => r
  | _ + 1, r, _, [] =>
    if r.latest.kind = .run || r.latest.kind = .set then r.add .stroke "" "\\/?" else r
  | steps + 1, r, atStart, c :: rest =>
    let (r', rest') := readPart r atStart c rest
    readParts steps r' false rest'

/-- The exclamation marks in front of a glob that negate it. -/
def negations : List Char → Nat
  | '!' :: '!' :: rest => 1 + negations ('!' :: rest)
  | '!' :: '(' :: '?' :: _ => 1
  | '!' :: '(' :: _ => 0
  | '!' :: _ => 1
  | _ => 0

/-- A glob for a single name without sets and groups. -/
def isPlain (cs : List Char) : Bool :=
  cs.head? ≠ some '*' && cs.head? ≠ some '!'
    && !cs.any ['/', '(', ')', '[', ']', '\x7b', '\x7d', '"'].contains

/-- A glob of nothing but doubled stars, written shortly. -/
def shortened : String → String
  | "***" => "*"
  | "**/**" => "**"
  | "**/**/**" => "**"
  | text => text

/-- The glob of a text without braces. -/
def read (text : String) : Glob :=
  let whole := shortened text
  let cs := (dropDot whole).toList
  let common :=
    if text.startsWith "." || text.startsWith "*" then
      commonSource? (cs.length + 1) (String.ofList cs)
    else none
  match common with
  | some source => ⟨false, Regex.read? (source ++ "\\/?")⟩
  | none =>
    if isPlain cs then ⟨false, Regex.read? (plainSource cs)⟩
    else
      let count := negations cs
      let r := readParts (cs.length + 1) .begun true (cs.drop count)
      ⟨count % 2 = 1, Regex.ofChars? r.chars⟩

/-- The text is one line. -/
def isLine (text : String) : Bool :=
  (Text.codeUnits text).all fun u => !Regex.lineEnds.any fun r => r.1 ≤ u && u ≤ r.2

/-- The glob takes a path. -/
def accepts (g : Glob) (path : String) : Bool :=
  match g.body with
  | none => false
  | some body => if g.negated then !body.takes path && isLine path else body.takes path

end Glob

end TypeLineage
