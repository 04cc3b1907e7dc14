import TypeLineage.Number.Literal
import TypeLineage.Number.Shortest
import TypeLineage.Text.Letters
import TypeLineage.Text.Casing
import TypeLineage.Typing.Reduction

/-! # Templates

    A template has fixed texts with types between them, the holes.  It stands
    for the texts in which something fills each hole.  Texts may also be
    changed by a word of the library.  A text is taken apart along a template
    from the left: a hole reaches to the next fixed text, or takes one
    character if no fixed text follows, and the last hole takes the rest. -/

namespace TypeLineage.Typing

open Source Program

/-! ## Texts of numbers -/

/-- The text is the text of a number. -/
def isNumberText (text : String) : Bool :=
  !text.isEmpty && (Number.ofTyped text.toList).text .plain = text

/-- The number that a text spells, with blanks around it. -/
def numberOfText (text : String) : Number.Binary64 := Number.ofTyped (Text.trimmed text.toList)

/-- The text spells a number, however it is written. -/
def spellsNumber (text : String) : Bool :=
  !text.isEmpty && match numberOfText text with
    | .finite .. => true
    | _ => false

/-- The sign and the value of the integer that a text spells. -/
def integerOfText? (text : String) : Option (Bool × Nat) :=
  let (isNegative, digits) := match text.toList with
    | '-' :: rest => (true, rest)
    | cs => (false, cs)
  match digits with
  | [] => none
  | ['0'] => some (isNegative, 0)
  | '0' :: mark :: rest =>
    match Number.baseOfPrefix? mark with
    | some base =>
      if rest.isEmpty || !rest.all (Number.isDigitIn base) then none
      else some (isNegative, Number.ofDigits base rest)
    | none => none
  | cs => if cs.all Number.isDigit then some (isNegative, Number.ofDigits 10 cs) else none

/-- The text is the text of an integer. -/
def isIntegerText (text : String) : Bool :=
  match integerOfText? text with
  | some (isNegative, n) =>
    text = (if isNegative && n ≠ 0 then "-" else "") ++ Number.decimalText n
  | none => false

/-! ## Holes -/

mutual

/-- The type may fill a hole as it is: it stands for texts of a kind and depends on nothing. -/
def isHole : Nat → TypeId → Check Bool
  | 0, _ => return false
  | n + 1, t => do
    match ← shape t with
    | .keyword .any | .keyword .string | .keyword .number | .keyword .bigint => return true
    | .intersection ts =>
      let flags ← ts.mapM fun u => do
        let s ← shape u
        let isValue := isLiteralShape s || s matches .keyword .null || s matches .keyword .undefined
        if isValue then return some true
        else if ← isHole n u then return some true
        else if isObjectShape s then return some false
        else return none
      return !flags.contains none && flags.contains (some true)
    | _ => isPattern n t

/-- The type stands for texts of a pattern that depends on nothing. -/
def isPattern : Nat → TypeId → Check Bool
  | 0, _ => return false
  | n + 1, t => do
    match ← shape t with
    | .template _ ts => ts.allM (isHole n)
    | .changed _ u => isHole n u
    | _ => return false

end

/-- An operation waits for the type as a key. -/
def isGenericKey : Nat → TypeId → Check Bool
  | 0, _ => return false
  | n + 1, t => do
    match ← shape t with
    | .parameter .. | .index .. | .conditional .. | .keys _ => return true
    | .template .. | .changed .. => return !(← isPattern 16 t)
    | .held u => isGenericKey n u
    | .union ts _ => ts.anyM (isGenericKey n)
    | .intersection ts => ts.anyM (isGenericKey n)
    | _ => return false

/-! ## Forming templates -/

/-- The text of a type that stands for one text. -/
def contentOf? : Shape → Option String
  | .text content => some content
  | .enumMember _ _ _ _ (some (.text content)) => some content
  | _ => none

/-- The text of a single value. -/
def textOfValue? (t : TypeId) : Check (Option String) := do
  match ← shape t with
  | .number text => return some text
  | .bigNumber isNegative digits => return some ((if isNegative then "-" else "") ++ digits)
  | .truth value => return some (if value then "true" else "false")
  | .enumMember _ _ _ _ (some (.number x)) => return some (x.text .plain)
  | .keyword .undefined => return some "undefined"
  | .keyword .null => return some "null"
  | s => return contentOf? s

/-- Texts with types between them, with single values made part of the texts; nothing if
    one of the types is of no texts. -/
def fillTemplate : List String → List TypeId → Check (Option (List String × List TypeId))
  | [], _ => return some ([""], [])
  | [text], _ => return some ([text], [])
  | text :: others, [] => return some ([text ++ String.join others], [])
  | text :: others, t :: ts => do
    match ← fillTemplate others ts with
    | none => return none
    | some (texts, types) =>
      match ← textOfValue? t, ← shape t with
      | some content, _ =>
        return some ((text ++ content ++ texts.headD "") :: texts.drop 1, types)
      | none, .template inner us =>
        let last := inner.getLast?.getD ""
        let middle := (inner.drop 1).dropLast
        return some ([text ++ inner.headD ""] ++ middle ++ [last ++ texts.headD ""]
          ++ texts.drop 1, us ++ types)
      | none, _ =>
        if (← isGenericKey 16 t) || (← isHole 16 t) then
          return some (text :: texts, t :: types)
        else return none

/-- The type of a template, given how many unions may be taken apart. -/
def templateAt (k : Rules) : Nat → List String → List TypeId → Check TypeId
  | 0, _, _ => return stringType
  | n + 1, texts, types => do
    let flags ← types.mapM fun t => do return (← isUnion t) || (← isNever t)
    match flags.findIdx? id with
    | some i =>
      mapUnion k (fun t => return some (← templateAt k n texts (types.set i t)))
        (types.getD i neverType)
    | none =>
      match ← fillTemplate texts types with
      | none => return stringType
      | some (texts, []) => textType (texts.headD "")
      | some (texts, types) =>
        if texts.all (·.isEmpty) && types.all (· = stringType) then return stringType
        match texts, types with
        | ["", ""], [t] =>
          if ← isPattern 16 t then return t else operation "template" texts types (.template texts types)
        | _, _ => operation "template" texts types (.template texts types)

/-- The type of a template. -/
def templateOf (k : Rules) (texts : List String) (types : List TypeId) : Check TypeId :=
  templateAt k 32 texts types

/-! ## Changed texts -/

/-- A text changed by a word of the library. -/
def changeText (word content : String) : String :=
  match word with
  | "Uppercase" => Text.upper content
  | "Lowercase" => Text.lower content
  | "Capitalize" => Text.changeFirst Text.upperChar content
  | "Uncapitalize" => Text.changeFirst Text.lowerChar content
  | _ => content

/-- The word changes a whole text and not only its beginning. -/
def changesAll (word : String) : Bool := word = "Uppercase" || word = "Lowercase"

/-- Texts changed by a word of the library, given how deep templates are gone into. -/
def changedAt (k : Rules) (word : String) : Nat → TypeId → Check TypeId
  | 0, t => return t
  | n + 1, t => mapUnion k (fun u => do
      let waiting (v : TypeId) : Check TypeId := operation word [] [v] (.changed word v)
      let s ← shape u
      match contentOf? s, s with
      | some content, _ => some <$> textType (changeText word content)
      | none, .template texts types =>
        if changesAll word then
          some <$> templateOf k (texts.map (changeText word)) (← types.mapM (changedAt k word n))
        else match texts, types with
          | "" :: _, first :: others =>
            some <$> templateOf k texts ((← changedAt k word n first) :: others)
          | start :: behind, _ => some <$> templateOf k (changeText word start :: behind) types
          | [], _ => return some u
      | none, .changed w _ => if w = word then return some u else some <$> waiting u
      | none, .keyword .any | none, .keyword .error | none, .keyword .string => some <$> waiting u
      | none, _ =>
        if ← isGenericKey 16 u then some <$> waiting u
        else if ← isHole 16 u then some <$> waiting (← templateOf k ["", ""] [u])
        else return some u) t

/-- Texts changed by a word of the library. -/
def changedOf (k : Rules) (word : String) (t : TypeId) : Check TypeId := changedAt k word 16 t

/-! ## Types that take nothing in -/

/-- Something may be inferred from the type as a whole or from a part of it. -/
def mayTakeIn : Nat → TypeId → Check Bool
  | 0, _ => return false
  | n + 1, t => do
    match ← shape t with
    | .union ts _ => ts.anyM (mayTakeIn n)
    | .intersection ts => ts.anyM (mayTakeIn n)
    | .template .. | .changed .. => return !(← isPattern 16 t)
    | .held _ => return false
    | s =>
      if isObjectShape s then return !(← isEmptyObject t) else return isOpenShape s

/-- The type, but one that takes nothing in where type parameters are inferred. -/
def heldOf (t : TypeId) : Check TypeId := do
  if ← mayTakeIn 16 t then operation "held" [] [t] (.held t) else return t

/-! ## Taking texts apart -/

/-- How far the taking apart of a text has come: the part that is reached, the place in it,
    and what fills the holes so far, the last first. -/
structure Apart where
  part : Nat
  place : Nat
  found : List TypeId

/-- Texts with types between them that are taken apart; of the last text only what goes
    before the end of the template. -/
structure Whole where
  texts : List (List Char)
  types : List TypeId

/-- The part at a place. -/
def Whole.text (w : Whole) (i : Nat) : List Char := w.texts.getD i []

/-- What lies between the place that is reached and another fills a hole. -/
def Whole.upTo (k : Rules) (w : Whole) (a : Apart) (part place : Nat) : Check Apart := do
  let t ← if part = a.part then
      textType (String.ofList ((w.text part).take place |>.drop a.place))
    else
      let inner := (List.range (part - a.part - 1)).map fun j => w.text (a.part + 1 + j)
      let texts := ((w.text a.part).drop a.place :: inner) ++ [(w.text part).take place]
      templateOf k (texts.map String.ofList) ((w.types.take part).drop a.part)
  return ⟨part, place, t :: a.found⟩

/-- The place where characters stand in others, counted from a place on. -/
def placeIn? (wanted : List Char) (place : Nat) : List Char → Option Nat
  | [] => if wanted.isEmpty then some place else none
  | c :: rest =>
    if wanted.isPrefixOf (c :: rest) then some place else placeIn? wanted (place + 1) rest

/-- The part and the place where characters stand next. -/
def Whole.find? (w : Whole) (wanted : List Char) : Nat → (part place : Nat) → Option (Nat × Nat)
  | 0, _, _ => none
  | n + 1, part, place =>
    match placeIn? wanted place ((w.text part).drop place) with
    | some i => some (part, i)
    | none => if part + 1 = w.texts.length then none else w.find? wanted n (part + 1) 0

/-- Takes apart what lies before the last hole, along the fixed texts between the holes. -/
def Whole.along? (k : Rules) (w : Whole) : Apart → List String → Check (Option Apart)
  | a, [] => return some a
  | a, fixed :: others => do
    if !fixed.isEmpty then
      match w.find? fixed.toList (w.texts.length + 1) a.part a.place with
      | some (part, place) =>
        let b ← w.upTo k a part place
        w.along? k { b with place := b.place + fixed.length } others
      | none => return none
    else if a.place < (w.text a.part).length then
      w.along? k (← w.upTo k a a.part (a.place + 1)) others
    else if a.part + 1 < w.texts.length then
      w.along? k (← w.upTo k a (a.part + 1) 0) others
    else return none

/-- What fills the holes of a template where texts with types between them are taken apart
    along it. -/
def partsAlong? (k : Rules) (texts : List String) (types : List TypeId) (fixed : List String) :
    Check (Option (List TypeId)) := do
  let start := fixed.headD ""
  let stop := fixed.getLast?.getD ""
  let first := texts.headD ""
  let last := texts.getLast?.getD ""
  let isShort := texts.length = 1 && first.length < start.length + stop.length
  if isShort || !first.startsWith start || !last.endsWith stop then return none
  let end' := last.toList.take (last.length - stop.length)
  let w : Whole := ⟨texts.dropLast.map String.toList ++ [end'], types⟩
  match ← w.along? k ⟨0, start.length, []⟩ (fixed.drop 1).dropLast with
  | none => return none
  | some a => return some ((← w.upTo k a (w.texts.length - 1) end'.length).found.reverse)

/-- The type as one of texts. -/
def asText (k : Rules) (t : TypeId) : Check TypeId := do
  match ← shape t with
  | .keyword .any | .keyword .error | .keyword .string | .template .. | .changed .. => return t
  | s => if (contentOf? s).isSome then return t else templateOf k ["", ""] [t]

/-- What fills the holes of a template if it is to give a type. -/
def partsOf? (k : Rules) (source : TypeId) (texts : List String) (types : List TypeId) :
    Check (Option (List TypeId)) := do
  let s ← shape source
  match contentOf? s, s with
  | some content, _ => partsAlong? k [content] [] texts
  | none, .template own inner =>
    if own = texts then
      some <$> (inner.zip types).mapM fun (u, t) => do
        if ← k.related .assignable (← k.base u) (← k.base t) then return u else asText k u
    else partsAlong? k own inner texts
  | none, _ => return none

/-! ## What holes take -/

/-- What lies under changes of texts, and the words that change it, the innermost first. -/
def unchanged : Nat → TypeId → Check (List String × TypeId)
  | 0, t => return ([], t)
  | n + 1, t => do
    match ← shape t with
    | .changed word u =>
      let (words, v) ← unchanged n u
      return (words ++ [word], v)
    | _ => return ([], t)

/-- The type is one of the changed texts: the changes leave it as it is. -/
def isAmongChanged (k : Rules) (source target : TypeId) : Check Bool := do
  let (words, inner) ← unchanged 16 target
  let again ← words.foldlM (fun t word => changedOf k word t) source
  if again ≠ source then return false
  match ← shape inner with
  | .keyword .any | .keyword .error => return true
  | .keyword .string | .template .. => k.related .assignable source inner
  | _ => return false

mutual

/-- The type may stand in a hole. -/
def fitsHole (k : Rules) : Nat → (source target : TypeId) → Check Bool
  | 0, _, _ => return false
  | n + 1, source, target => do
    let t ← shape target
    match t with
    | .intersection ts =>
      ts.allM fun u => do
        if u = emptyLiteralType then return true else fitsHole k n source u
    | .keyword .string => return true
    | _ =>
      if ← k.related .assignable source target then return true
      let s ← shape source
      match contentOf? s, s with
      | some content, _ =>
        match t with
        | .keyword .number => return spellsNumber content
        | .keyword .bigint => return (integerOfText? content).isSome
        | .truth _ | .keyword .undefined | .keyword .null =>
          return (← textOfValue? target) = some content
        | .changed .. => isAmongChanged k source target
        | .template texts types => fitsTemplate k n source texts types
        | _ => return false
      | none, .template ["", ""] [u] => k.related .assignable u target
      | none, _ => return false

/-- The type is of texts that a template stands for. -/
def fitsTemplate (k : Rules) : Nat → (source : TypeId) → List String → List TypeId → Check Bool
  | 0, _, _, _ => return false
  | n + 1, source, texts, types => do
    match ← partsOf? k source texts types with
    | some parts => (parts.zip types).allM fun (u, t) => fitsHole k n u t
    | none => return false

end

/-- A text is one that a template or a change of texts stands for. -/
def isMatched (k : Rules) (source target : TypeId) : Check Bool := do
  match ← shape target with
  | .template texts types => fitsTemplate k 16 source texts types
  | .changed .. => isAmongChanged k source target
  | _ => return false

end TypeLineage.Typing
