/-! # Dictionary order

    Tables for readers are sorted as in a dictionary.  Three levels decide,
    each over the whole text before the next: the base characters, where
    punctuation counts and stands before digits and digits before letters; the
    accents, none before any; and the case, small before capital.  Texts that
    agree on all levels keep their order. -/

namespace TypeLineage.Text

/-- The characters before the digits and letters, in order. -/
def punctuationOrder : List Char :=
  ['\t', '\n', '\x0b', '\x0c', '\r', ' ', '_', '-', ',', ';', ':', '!', '?', '.', '\'', '"',
    '(', ')', '[', ']', '\x7b', '\x7d', '@', '*', '/', '\\', '&', '#', '%', '\x60', '^', '+',
    '<', '=', '>', '|', '~', '$']

/-- The accents, in order. -/
inductive Accent where
  | acute
  | grave
  | breve
  | circumflex
  | caron
  | ring
  | diaeresis
  | doubleAcute
  | tilde
  | dotAbove
  | stroke
  | cedilla
  | ogonek
  | macron
  | hookAbove
  | horn
  | dotBelow
  | ringBelow
  | commaBelow
  deriving DecidableEq, Repr

/-- The place of an accent on the second level, after the unaccented. -/
def Accent.rank : Accent → Nat
  | .acute => 0x24
  | .grave => 0x25
  | .breve => 0x26
  | .circumflex => 0x27
  | .caron => 0x28
  | .ring => 0x29
  | .diaeresis => 0x2B
  | .doubleAcute => 0x2C
  | .tilde => 0x2D
  | .dotAbove => 0x2E
  | .stroke => 0x2F
  | .cedilla => 0x30
  | .ogonek => 0x31
  | .macron => 0x32
  | .hookAbove => 0x3B
  | .horn => 0x3F
  | .dotBelow => 0x42
  | .ringBelow => 0x44
  | .commaBelow => 0x45

/-- The marks that put an accent on the letter before them. -/
def combiningMarks : List (Char × Accent) := [
  ('\u0301', .acute), ('\u0300', .grave), ('\u0306', .breve), ('\u0302', .circumflex),
  ('\u030c', .caron), ('\u030a', .ring), ('\u0308', .diaeresis), ('\u030b', .doubleAcute),
  ('\u0303', .tilde), ('\u0307', .dotAbove), ('\u0327', .cedilla), ('\u0328', .ogonek),
  ('\u0304', .macron), ('\u0309', .hookAbove), ('\u031b', .horn), ('\u0323', .dotBelow),
  ('\u0325', .ringBelow), ('\u0326', .commaBelow)]

/-- The accented letters by their accents: each behind the letter it is without
    them. -/
def accentedLetters : List (List Accent × String) := [
  ([.acute], "AÁEÉIÍOÓUÚYÝaáeéiíoóuúyýCĆcćLĹlĺNŃnńRŔrŕSŚsśZŹzźGǴgǵKḰkḱMḾmḿ"
    ++ "PṔpṕWẂwẃ"),
  ([.grave], "AÀEÈIÌOÒUÙaàeèiìoòuùNǸnǹWẀwẁYỲyỳ"),
  ([.breve], "AĂaăEĔeĕGĞgğIĬiĭOŎoŏUŬuŭ"),
  ([.circumflex], "AÂEÊIÎOÔUÛaâeêiîoôuûCĈcĉGĜgĝHĤhĥJĴjĵSŜsŝWŴwŵYŶyŷZẐzẑ"),
  ([.caron], "CČcčDĎdďEĚeěLĽlľNŇnňRŘrřSŠsšTŤtťZŽzžAǍaǎIǏiǐOǑoǒUǓuǔGǦgǧKǨkǩ"
    ++ "jǰHȞhȟ"),
  ([.ring], "AÅaåUŮuůwẘyẙ"),
  ([.diaeresis], "AÄEËIÏOÖUÜaäeëiïoöuüyÿYŸHḦhḧWẄwẅXẌxẍtẗ"),
  ([.doubleAcute], "OŐoőUŰuű"),
  ([.tilde], "AÃNÑOÕaãnñoõIĨiĩUŨuũVṼvṽEẼeẽYỸyỹ"),
  ([.dotAbove], "CĊcċEĖeėGĠgġIİZŻzżAȦaȧOȮoȯBḂbḃDḊdḋFḞfḟHḢhḣMṀmṁNṄnṅPṖpṗRṘrṙSṠ"
    ++ "sṡTṪtṫWẆwẇXẊxẋYẎyẏ"),
  ([.stroke], "oøOØlłLŁdđDĐhħHĦ"),
  ([.cedilla], "CÇcçGĢgģKĶkķLĻlļNŅnņRŖrŗSŞsşTŢtţEȨeȩDḐdḑHḨhḩ"),
  ([.ogonek], "AĄaąEĘeęIĮiįUŲuųOǪoǫ"),
  ([.macron], "AĀaāEĒeēIĪiīOŌoōUŪuūYȲyȳGḠgḡ"),
  ([.hookAbove], "AẢaảEẺeẻIỈiỉOỎoỏUỦuủYỶyỷ"),
  ([.horn], "OƠoơUƯuư"),
  ([.dotBelow], "BḄbḅDḌdḍHḤhḥKḲkḳLḶlḷMṂmṃNṆnṇRṚrṛSṢsṣTṬtṭVṾvṿWẈwẉZẒzẓAẠaạEẸeẹ"
    ++ "IỊiịOỌoọUỤuụYỴyỵ"),
  ([.ringBelow], "AḀaḁ"),
  ([.commaBelow], "SȘsșTȚtț"),
  ([.acute, .dotAbove], "SṤsṥ"),
  ([.breve, .acute], "AẮaắ"),
  ([.breve, .grave], "AẰaằ"),
  ([.breve, .tilde], "AẴaẵ"),
  ([.breve, .hookAbove], "AẲaẳ"),
  ([.circumflex, .acute], "AẤaấEẾeếOỐoố"),
  ([.circumflex, .grave], "AẦaầEỀeềOỒoồ"),
  ([.circumflex, .tilde], "AẪaẫEỄeễOỖoỗ"),
  ([.circumflex, .hookAbove], "AẨaẩEỂeểOỔoổ"),
  ([.caron, .dotAbove], "SṦsṧ"),
  ([.ring, .acute], "AǺaǻ"),
  ([.diaeresis, .acute], "UǗuǘIḮiḯ"),
  ([.diaeresis, .grave], "UǛuǜ"),
  ([.diaeresis, .caron], "UǙuǚ"),
  ([.diaeresis, .macron], "UǕuǖAǞaǟOȪoȫ"),
  ([.tilde, .acute], "OṌoṍUṸuṹ"),
  ([.tilde, .diaeresis], "OṎoṏ"),
  ([.tilde, .macron], "OȬoȭ"),
  ([.dotAbove, .macron], "AǠaǡOȰoȱ"),
  ([.stroke, .acute], "oǿOǾ"),
  ([.cedilla, .acute], "CḈcḉ"),
  ([.cedilla, .breve], "EḜeḝ"),
  ([.ogonek, .macron], "OǬoǭ"),
  ([.macron, .acute], "EḖeḗOṒoṓ"),
  ([.macron, .grave], "EḔeḕOṐoṑ"),
  ([.macron, .diaeresis], "UṺuṻ"),
  ([.horn, .acute], "OỚoớUỨuứ"),
  ([.horn, .grave], "OỜoờUỪuừ"),
  ([.horn, .tilde], "OỠoỡUỮuữ"),
  ([.horn, .hookAbove], "OỞoởUỬuử"),
  ([.horn, .dotBelow], "OỢoợUỰuự"),
  ([.dotBelow, .breve], "AẶaặ"),
  ([.dotBelow, .circumflex], "AẬaậEỆeệOỘoộ"),
  ([.dotBelow, .dotAbove], "SṨsṩ"),
  ([.dotBelow, .macron], "LḸlḹRṜrṝ")]

/-- The letter that an accented one is behind in a list. -/
def plainLetter? (c : Char) : List Char → Option Char
  | base :: accented :: rest => if c = accented then some base else plainLetter? c rest
  | _ => none

/-- A letter without its accents, and the accents. -/
def unaccented (c : Char) : Char × List Accent :=
  if c.toNat < 0x80 then (c, [])
  else
    (accentedLetters.findSome? fun (accents, letters) =>
      (plainLetter? c letters.toList).map (·, accents)).getD (c, [])

/-- The letters that are written for two, with those two. -/
def doubledLetters : List (Char × Char × Char) := [
  ('æ', 'a', 'e'), ('Æ', 'A', 'E'), ('œ', 'o', 'e'), ('Œ', 'O', 'E'), ('ß', 's', 's'),
  ('ẞ', 'S', 'S'), ('ĳ', 'i', 'j'), ('Ĳ', 'I', 'J')]

/-- What a character contributes to the three levels. -/
structure SortKey where
  primary : List Nat
  secondary : List Nat
  tertiary : List Nat
  deriving DecidableEq, Repr

/-- The letters beyond the plain alphabet, each behind the letter it follows. -/
def lettersBetween : List (Char × Char) := [
  ('ð', 'd'), ('ŋ', 'n'), ('ı', 'i'), ('ĸ', 'q'), ('ŧ', 't'), ('þ', 'z')]

/-- The small form of a letter without accents, and whether the letter is a
    capital. -/
def smallForm (c : Char) : Char × Bool :=
  if 'A' ≤ c ∧ c ≤ 'Z' then (c.toLower, true)
  else match [('Ð', 'ð'), ('Ŋ', 'ŋ'), ('Ŧ', 'ŧ'), ('Þ', 'þ')].lookup c with
    | some small => (small, true)
    | none => (c, false)

/-- The place of an unaccented small character on the first level. -/
def primaryRank (c : Char) : Nat :=
  if punctuationOrder.contains c then punctuationOrder.idxOf c + 1
  else if '0' ≤ c ∧ c ≤ '9' then 0x100 + c.toNat
  else if 'a' ≤ c ∧ c ≤ 'z' then 0x200 + 2 * c.toNat
  else match lettersBetween.lookup c with
    | some before => 0x201 + 2 * before.toNat
    | none => 0x400 + c.toNat

/-- A control character that no level sees. -/
def isIgnored (c : Char) : Bool :=
  c.toNat == 0x7F || (c.toNat < 0x20 && !punctuationOrder.contains c)

/-- The key of a letter; `small` and `capital` are the places of the two cases on
    the third level. -/
def letterKey (c : Char) (small capital : Nat) : SortKey :=
  let (base, accents) := unaccented c
  let (letter, isCapital) := smallForm base
  ⟨[primaryRank letter], 0x20 :: accents.map Accent.rank,
    (if isCapital then capital else small) :: accents.map fun _ => 2⟩

/-- One key behind another. -/
def SortKey.append (a b : SortKey) : SortKey :=
  ⟨a.primary ++ b.primary, a.secondary ++ b.secondary, a.tertiary ++ b.tertiary⟩

/-- The key of one character.  A letter written for two comes behind the two. -/
def sortKeyOf (c : Char) : SortKey :=
  if isIgnored c then ⟨[], [], []⟩
  else match combiningMarks.lookup c with
    | some accent => ⟨[], [accent.rank], [2]⟩
    | none =>
      match doubledLetters.lookup c with
      | some (first, second) =>
        ((letterKey first 4 10).append ⟨[], [0x110], [4]⟩).append (letterKey second 4 10)
      | none => letterKey c 2 8

/-- The key of a text. -/
def sortKey (s : String) : SortKey :=
  let keys := s.toList.map sortKeyOf
  ⟨keys.flatMap (·.primary), keys.flatMap (·.secondary), keys.flatMap (·.tertiary)⟩

/-- Compares two lists, the first difference deciding, a prefix before what
    continues it. -/
def compareRanks : List Nat → List Nat → Ordering
  | [], [] => .eq
  | [], _ :: _ => .lt
  | _ :: _, [] => .gt
  | a :: as, b :: bs => (compare a b).then (compareRanks as bs)

/-- Compares two texts as a dictionary does. -/
def collate (a b : String) : Ordering :=
  let ka := sortKey a
  let kb := sortKey b
  ((compareRanks ka.primary kb.primary).then (compareRanks ka.secondary kb.secondary)).then
    (compareRanks ka.tertiary kb.tertiary)

end TypeLineage.Text
