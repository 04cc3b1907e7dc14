import Mathlib
import TypeLineage.Proofs.Json.Token

/-! # Reading the keys of a text

    A reader that knows strings, braces and colons only goes through a text once
    and keeps the keys of the objects that are open on a stack; when an object
    ends, its keys are put down (`keyLists`).

    The text of a value lists the keys of the objects in it (`lists_write`), by
    induction on values.  What carries it is `Lists`, which says what becomes of
    the innermost object and of those that end, whatever the reader has seen;
    texts that follow each other list together what each of them lists. -/

namespace TypeLineage.Json

variable {cs ds : List Char} {c : Char} {keys more : List String} {lists others : List (List String)}
  {items : List Json} {members : List (String × Json)} {indent : Nat}

/-- Values are built from the values in them. -/
theorem inductionOn {P : Json → Prop} (null : P .null) (bool : ∀ b, P (.bool b))
    (number : ∀ n, P (.number n)) (string : ∀ s, P (.string s))
    (array : ∀ items, (∀ x ∈ items, P x) → P (.array items))
    (object : ∀ members : List (String × Json), (∀ m ∈ members, P m.2) → P (.object members)) :
    ∀ v, P v
  | .null => null
  | .bool b => bool b
  | .number n => number n
  | .string s => string s
  | .array items => array items fun x hx =>
      have := List.sizeOf_lt_of_mem hx
      inductionOn null bool number string array object x
  | .object members => object members fun m hm =>
      have := List.sizeOf_lt_of_mem hm
      have : sizeOf m.2 < sizeOf m := by
        cases m
        simp +arith
      inductionOn null bool number string array object m.2
termination_by v => sizeOf v
decreasing_by
  all_goals
    simp only [Json.array.sizeOf_spec, Json.object.sizeOf_spec]
    omega

/-! ## Reading the keys -/

/-- Where a reader of a text stands: between strings, in a string, or in a
    string behind a backslash. -/
inductive Mode where
  | between
  | quoted
  | escaped
  deriving DecidableEq

/-- What a reader of keys knows. -/
structure KeyReader where
  mode : Mode
  /-- What stands between the quotes of the last string. -/
  last : List Char
  /-- The keys of the objects that are open, the innermost first. -/
  opened : List (List String)
  /-- The keys of the objects that have ended. -/
  ended : List (List String)

/-- The text that is written between quotes. -/
def unquote (cs : List Char) : String :=
  ((readString (cs.length + 1) (cs ++ ['"'])).map fun p => String.ofList p.1).getD ""

/-- A colon makes the last string a key of the innermost object. -/
def KeyReader.step (s : KeyReader) (c : Char) : KeyReader :=
  match s.mode with
  | .between =>
    if c = '"' then { s with mode := .quoted, last := [] }
    else if c = ':' then { s with opened := s.opened.modifyHead (· ++ [unquote s.last]) }
    else if c = '\x7b' then { s with opened := [] :: s.opened }
    else if c = '\x7d' then
      { s with opened := s.opened.drop 1, ended := s.ended ++ s.opened.take 1 }
    else s
  | .quoted =>
    if c = '"' then { s with mode := .between }
    else { s with mode := if c = '\\' then .escaped else .quoted, last := s.last ++ [c] }
  | .escaped => { s with mode := .quoted, last := s.last ++ [c] }

/-- The keys of the objects in a text, in the order in which the objects end. -/
def keyLists (text : String) : List (List String) :=
  (text.toList.foldl KeyReader.step ⟨.between, [], [], []⟩).ended

/-! ## What is read over -/

/-- Between strings, the reader goes over the text, finding some keys of the
    innermost object and the keys of some objects that end. -/
def Lists (cs : List Char) (keys : List String) (lists : List (List String)) : Prop :=
  ∀ s : KeyReader, s.mode = .between → ∃ last, cs.foldl KeyReader.step s
    = { s with
        last := last
        opened := s.opened.modifyHead (· ++ keys)
        ended := s.ended ++ lists }

theorem modifyHead_append_nil (stack : List (List String)) :
    stack.modifyHead (· ++ []) = stack := by
  cases stack <;> simp

theorem Lists.append (h : Lists cs keys lists) (h' : Lists ds more others) :
    Lists (cs ++ ds) (keys ++ more) (lists ++ others) := by
  intro s hs
  obtain ⟨last, hfirst⟩ := h s hs
  obtain ⟨last', hsecond⟩ := h' { s with
    last := last
    opened := s.opened.modifyHead (· ++ keys)
    ended := s.ended ++ lists } hs
  refine ⟨last', ?_⟩
  rw [List.foldl_append, hfirst, hsecond]
  cases hopened : s.opened <;> simp [List.append_assoc]

/-- The character says nothing between strings. -/
def Inert (c : Char) : Prop := c ≠ '"' ∧ c ≠ ':' ∧ c ≠ '\x7b' ∧ c ≠ '\x7d'

theorem foldl_inert (h : ∀ c ∈ cs, Inert c) (s : KeyReader) (hs : s.mode = .between) :
    cs.foldl KeyReader.step s = s := by
  induction cs with
  | nil => rfl
  | cons c cs ih =>
      rw [List.forall_mem_cons] at h
      obtain ⟨⟨hquote, hcolon, hopen, hclose⟩, hcs⟩ := h
      have hstep : s.step c = s := by
        unfold KeyReader.step
        rw [hs]
        dsimp only
        rw [if_neg hquote, if_neg hcolon, if_neg hopen, if_neg hclose]
      rw [List.foldl_cons, hstep, ih hcs]

theorem lists_inert (h : ∀ c ∈ cs, Inert c) : Lists cs [] [] := by
  intro s hs
  refine ⟨s.last, ?_⟩
  rw [foldl_inert h s hs, modifyHead_append_nil, List.append_nil]

/-! ### Strings -/

/-- Characters that neither end a string nor escape another one are kept. -/
theorem foldl_plain {s : KeyReader} (hs : s.mode = .quoted) (h : ∀ c ∈ cs, c ≠ '"' ∧ c ≠ '\\') :
    cs.foldl KeyReader.step s = { s with last := s.last ++ cs } := by
  obtain ⟨mode, last, opened, ended⟩ := s
  obtain rfl : mode = .quoted := hs
  induction cs generalizing last with
  | nil => rw [List.append_nil]; rfl
  | cons c cs ih =>
      rw [List.forall_mem_cons] at h
      obtain ⟨⟨hquote, hslash⟩, hcs⟩ := h
      have hstep : KeyReader.step ⟨.quoted, last, opened, ended⟩ c
          = ⟨.quoted, last ++ [c], opened, ended⟩ := by
        unfold KeyReader.step
        dsimp only
        rw [if_neg hquote, if_neg hslash]
      rw [List.foldl_cons, hstep, ih hcs, List.append_assoc]
      rfl

theorem hexDigit_plain {d : Nat} (h : d < 16) : hexDigit d ≠ '"' ∧ hexDigit d ≠ '\\' := by
  revert d
  decide

/-- The escape of a character leaves the reader in the string. -/
theorem foldl_escapeChar {s : KeyReader} (hs : s.mode = .quoted) (c : Char) :
    (escapeChar c).foldl KeyReader.step s = { s with last := s.last ++ escapeChar c } := by
  obtain ⟨mode, last, opened, ended⟩ := s
  obtain rfl : mode = .quoted := hs
  have hshort : ∀ d : Char, ['\\', d].foldl KeyReader.step ⟨.quoted, last, opened, ended⟩
      = ⟨.quoted, last ++ ['\\', d], opened, ended⟩ := by
    intro d
    show KeyReader.mk .quoted (last ++ ['\\'] ++ [d]) opened ended = _
    rw [List.append_assoc]
    rfl
  unfold escapeChar
  -- the characters with an escape of one letter
  iterate 7
    split
    · exact hshort _
  split
  · -- another control character: no digit of its code ends the string
    rename_i h
    have hcode : ∀ d ∈ ['0', '0', hexDigit (c.toNat / 16), hexDigit (c.toNat % 16)],
        d ≠ '"' ∧ d ≠ '\\' := by
      simp only [List.forall_mem_cons]
      exact ⟨by decide, by decide, hexDigit_plain (by omega), hexDigit_plain (by omega),
        List.forall_mem_nil _⟩
    have hsplit : ['\\', 'u', '0', '0', hexDigit (c.toNat / 16), hexDigit (c.toNat % 16)]
        = ['\\', 'u'] ++ ['0', '0', hexDigit (c.toNat / 16), hexDigit (c.toNat % 16)] := rfl
    rw [hsplit, List.foldl_append, hshort, foldl_plain rfl hcode, List.append_assoc]
  · rename_i hquote hslash _ _ _ _ _ _
    exact foldl_plain rfl (by simpa using ⟨hquote, hslash⟩)

theorem foldl_escaped {s : KeyReader} (hs : s.mode = .quoted) (cs : List Char) :
    (cs.flatMap escapeChar).foldl KeyReader.step s
      = { s with last := s.last ++ cs.flatMap escapeChar } := by
  induction cs generalizing s with
  | nil => simp
  | cons c cs ih =>
      have hquoted : { s with last := s.last ++ escapeChar c }.mode = .quoted := hs
      rw [List.flatMap_cons, List.foldl_append, foldl_escapeChar hs, ih hquoted,
        List.append_assoc]

theorem unquote_escaped (s : String) : unquote (s.toList.flatMap escapeChar) = s := by
  unfold unquote
  rw [readString_escaped (Nat.lt_succ_of_le (length_le_escaped _))]
  exact String.ofList_toList

/-- A string is the last one behind its quotes. -/
theorem foldl_quote {s : KeyReader} (hs : s.mode = .between) (text : String) :
    (quote text).foldl KeyReader.step s = { s with last := text.toList.flatMap escapeChar } := by
  obtain ⟨mode, last, opened, ended⟩ := s
  obtain rfl : mode = .between := hs
  unfold quote
  rw [List.cons_append, List.foldl_cons, List.foldl_append]
  show List.foldl _ (List.foldl _ (KeyReader.mk .quoted [] opened ended) _) _ = _
  rw [foldl_escaped rfl]
  rfl

theorem lists_quote (text : String) : Lists (quote text) [] [] := by
  intro s hs
  refine ⟨text.toList.flatMap escapeChar, ?_⟩
  rw [foldl_quote hs, modifyHead_append_nil, List.append_nil]

/-- What stands before a colon is a key. -/
theorem lists_key (key : String) (indent : Nat) :
    Lists (quote key ++ colon indent) [key] [] := by
  intro s hs
  refine ⟨key.toList.flatMap escapeChar, ?_⟩
  rw [List.foldl_append, foldl_quote hs]
  obtain ⟨mode, last, opened, ended⟩ := s
  obtain rfl : mode = .between := hs
  have hcolon : KeyReader.step ⟨.between, key.toList.flatMap escapeChar, opened, ended⟩ ':'
      = ⟨.between, key.toList.flatMap escapeChar, opened.modifyHead (· ++ [key]), ended⟩ := by
    unfold KeyReader.step
    dsimp only
    rw [if_neg (by decide), if_pos rfl, unquote_escaped]
  have hblank : ∀ c ∈ [' '], Inert c := by simp [Inert]
  rw [List.append_nil]
  unfold colon
  split
  · exact hcolon
  · rw [List.foldl_cons, hcolon]
    exact foldl_inert hblank _ rfl

/-! ### Numbers -/

theorem inert_of_isDigit (h : Number.isDigit c = true) : Inert c := by
  refine ⟨?_, ?_, ?_, ?_⟩
  all_goals
    rintro rfl
    exact absurd h (by decide)

theorem isDigit_of_mem_shortest {m : Nat} {e : Int} (h : c ∈ (Number.shortest m e).digits) :
    Number.isDigit c = true := by
  unfold Number.shortest at h
  dsimp only at h
  split at h
  · next digits power hcandidate =>
      obtain ⟨count, -, hcount⟩ := List.exists_of_findSome?_eq_some hcandidate
      obtain ⟨d, -, heq⟩ := Option.map_eq_some_iff.mp hcount
      obtain ⟨rfl, -⟩ := Prod.mk.inj heq
      unfold Number.withoutTrailingZeros at h
      have hmem := (List.dropWhile_sublist _).subset (List.mem_reverse.mp h)
      exact Number.isDigit_of_mem_decimalDigits (List.mem_reverse.mp hmem)
  · rw [List.mem_singleton.mp h]
    decide

theorem inert_layout {f : Number.NumberFormat} {s : Number.Shortest}
    (hs : ∀ c ∈ s.digits, Number.isDigit c = true) : ∀ c ∈ s.layout f, Inert c := by
  have hdigits : ∀ c ∈ s.digits, Inert c := fun c hc => inert_of_isDigit (hs c hc)
  have hzeros : ∀ n, ∀ c ∈ List.replicate n '0', Inert c := fun n c hc =>
    List.eq_of_mem_replicate hc ▸ inert_of_isDigit rfl
  have htake : ∀ n, ∀ c ∈ s.digits.take n, Inert c := fun n c hc =>
    hdigits c (List.mem_of_mem_take hc)
  have hdrop : ∀ n, ∀ c ∈ s.digits.drop n, Inert c := fun n c hc =>
    hdigits c (List.mem_of_mem_drop hc)
  have hpower : ∀ n, ∀ c ∈ Number.decimalDigits n, Inert c := fun n c hc =>
    inert_of_isDigit (Number.isDigit_of_mem_decimalDigits hc)
  have hpoint : Inert '.' := by simp [Inert]
  have hzero : Inert '0' := inert_of_isDigit rfl
  unfold Number.Shortest.layout
  dsimp only
  split_ifs
  · exact List.forall_mem_append.mpr ⟨hdigits, hzeros _⟩
  · exact List.forall_mem_append.mpr
      ⟨htake _, List.forall_mem_cons.mpr ⟨hpoint, hdrop _⟩⟩
  · exact List.forall_mem_append.mpr
      ⟨List.forall_mem_cons.mpr ⟨hzero, List.forall_mem_cons.mpr ⟨hpoint, hzeros _⟩⟩, hdigits⟩
  all_goals
    -- the scientific form, with the mark of either sign
    refine List.forall_mem_append.mpr ⟨List.forall_mem_append.mpr
      ⟨List.forall_mem_append.mpr ⟨htake 1, ?_⟩, by simp [Inert]⟩, hpower _⟩
    split
    · exact List.forall_mem_nil _
    · exact List.forall_mem_cons.mpr ⟨hpoint, hdrop 1⟩

theorem inert_numberText (n : JsonNumber) : ∀ c ∈ numberText n, Inert c := by
  have hword : ∀ c ∈ ['n', 'u', 'l', 'l'], Inert c := by simp [Inert]
  have hminus : Inert '-' := by simp [Inert]
  have hzero : ∀ c ∈ "0".toList, Inert c := by simp [Inert]
  cases n with
  | int n =>
      have hdigits : ∀ c ∈ Number.decimalDigits n.natAbs, Inert c := fun c hc =>
        inert_of_isDigit (Number.isDigit_of_mem_decimalDigits hc)
      show ∀ c ∈ JsonNumber.intDigits n, Inert c
      unfold JsonNumber.intDigits
      split
      · exact List.forall_mem_cons.mpr ⟨hminus, hdigits⟩
      · exact hdigits
  | real x =>
      cases x with
      | infinite negative => exact hword
      | notANumber => exact hword
      | finite negative m e =>
          show ∀ c ∈ (Number.Binary64.text .plain (.finite negative m e)).toList, Inert c
          cases m with
          | zero => cases negative <;> exact hzero
          | succ m =>
              have hdigits : ∀ c ∈ ((Number.shortest (m + 1) e).layout .plain), Inert c :=
                inert_layout fun c => isDigit_of_mem_shortest
              cases negative with
              | false =>
                  show ∀ c ∈ (String.ofList _).toList, Inert c
                  rwa [String.toList_ofList]
              | true =>
                  show ∀ c ∈ ("-" ++ String.ofList _).toList, Inert c
                  rw [String.toList_append]
                  refine List.forall_mem_append.mpr ⟨List.forall_mem_singleton.mpr hminus, ?_⟩
                  rwa [String.toList_ofList]

theorem inert_lineBreak (indent depth : Nat) : ∀ c ∈ lineBreak indent depth, Inert c := by
  unfold lineBreak
  split
  · exact List.forall_mem_nil _
  · refine List.forall_mem_cons.mpr ⟨by simp [Inert], fun c hc => ?_⟩
    rw [List.eq_of_mem_replicate hc]
    simp [Inert]

/-! ### Values -/

mutual

/-- The keys of the objects in a value, as it stands, in the order in which the
    objects end. -/
def keysOf : Json → List (List String)
  | .array items => keysOfItems items
  | .object members => keysOfMembers members ++ [members.map (·.1)]
  | _ => []

/-- The keys of the objects in the items of an array. -/
def keysOfItems : List Json → List (List String)
  | [] => []
  | item :: items => keysOf item ++ keysOfItems items

/-- The keys of the objects in the members of an object. -/
def keysOfMembers : List (String × Json) → List (List String)
  | [] => []
  | (_, value) :: members => keysOf value ++ keysOfMembers members

end

theorem keysOfItems_eq_flatMap (items : List Json) : keysOfItems items = items.flatMap keysOf := by
  induction items with
  | nil => rfl
  | cons item items ih => rw [keysOfItems, ih, List.flatMap_cons]

theorem keysOfMembers_eq_flatMap (members : List (String × Json)) :
    keysOfMembers members = members.flatMap fun m => keysOf m.2 := by
  induction members with
  | nil => rfl
  | cons m members ih => rw [keysOfMembers, ih, List.flatMap_cons]

theorem lists_writeItems {depth : Nat}
    (h : ∀ x ∈ items, Lists (write indent depth x) [] (keysOf x)) :
    Lists (writeItems indent depth items) [] (keysOfItems items) := by
  induction items with
  | nil => exact lists_inert (List.forall_mem_nil _)
  | cons item items ih =>
      rw [List.forall_mem_cons] at h
      have hbreak : Lists (',' :: lineBreak indent depth) [] [] :=
        lists_inert (List.forall_mem_cons.mpr ⟨by simp [Inert], inert_lineBreak _ _⟩)
      rw [writeItems, keysOfItems]
      exact (hbreak.append h.1).append (ih h.2)

theorem lists_writeMembers {depth : Nat}
    (h : ∀ m ∈ members, Lists (write indent depth m.2) [] (keysOf m.2)) :
    Lists (writeMembers indent depth members) (members.map (·.1)) (keysOfMembers members) := by
  induction members with
  | nil => exact lists_inert (List.forall_mem_nil _)
  | cons m members ih =>
      obtain ⟨key, value⟩ := m
      rw [List.forall_mem_cons] at h
      have hbreak : Lists (',' :: lineBreak indent depth) [] [] :=
        lists_inert (List.forall_mem_cons.mpr ⟨by simp [Inert], inert_lineBreak _ _⟩)
      rw [writeMembers, keysOfMembers, List.append_assoc (',' :: lineBreak indent depth)]
      exact ((hbreak.append (lists_key key indent)).append h.1).append (ih h.2)

/-- Between its braces an object is open; behind them it has ended. -/
theorem lists_braces (h : Lists cs keys lists) :
    Lists ('\x7b' :: cs ++ ['\x7d']) [] (lists ++ [keys]) := by
  intro s hs
  obtain ⟨mode, last, opened, ended⟩ := s
  obtain rfl : mode = .between := hs
  obtain ⟨last', hinside⟩ := h ⟨.between, last, [] :: opened, ended⟩ rfl
  refine ⟨last', ?_⟩
  rw [List.foldl_append]
  show (cs.foldl KeyReader.step ⟨.between, last, [] :: opened, ended⟩).step '\x7d' = _
  rw [hinside, modifyHead_append_nil]
  show KeyReader.mk _ _ _ (ended ++ lists ++ [[] ++ keys]) = _
  rw [List.append_assoc]
  rfl

/-- The text of a value lists the keys of the objects in it. -/
theorem lists_write (v : Json) : ∀ indent depth, Lists (write indent depth v) [] (keysOf v) := by
  induction v using inductionOn with
  | null => exact fun _ _ => lists_inert (by simp [write, Inert])
  | bool b => cases b <;> exact fun _ _ => lists_inert (by simp [write, Inert])
  | number n => exact fun _ _ => lists_inert (inert_numberText n)
  | string s => exact fun _ _ => lists_quote s
  | array items ih =>
      intro indent depth
      have hopen : Lists ('[' :: lineBreak indent (depth + 1)) [] [] :=
        lists_inert (List.forall_mem_cons.mpr ⟨by simp [Inert], inert_lineBreak _ _⟩)
      have hclose : Lists (lineBreak indent depth ++ [']']) [] [] :=
        lists_inert (List.forall_mem_append.mpr ⟨inert_lineBreak _ _, by simp [Inert]⟩)
      cases items with
      | nil => exact lists_inert (by simp [write, Inert])
      | cons item items =>
          rw [List.forall_mem_cons] at ih
          have hitems := lists_writeItems fun x hx => ih.2 x hx indent (depth + 1)
          have hall := ((hopen.append (ih.1 indent (depth + 1))).append hitems).append hclose
          simpa [write, keysOf, keysOfItems] using hall
  | object members ih =>
      intro indent depth
      have hbreak : ∀ depth, Lists (lineBreak indent depth) [] [] := fun depth =>
        lists_inert (inert_lineBreak indent depth)
      cases members with
      | nil => exact lists_braces (lists_inert (List.forall_mem_nil _))
      | cons m members =>
          obtain ⟨key, value⟩ := m
          rw [List.forall_mem_cons] at ih
          have hmembers := lists_writeMembers fun m hm => ih.2 m hm indent (depth + 1)
          have hall := ((((hbreak (depth + 1)).append (lists_key key indent)).append
            (ih.1 indent (depth + 1))).append hmembers).append (hbreak depth)
          simpa [write, keysOf, keysOfMembers] using lists_braces hall

/-- The keys that are found in the canonical text of a value. -/
theorem keyLists_stableText (v : Json) (indent : Int) :
    keyLists (stableText v indent) = keysOf v.canonical := by
  have hfeed : Lists "\n".toList [] [] := lists_inert (by simp [Inert])
  obtain ⟨last, h⟩ := ((lists_write v.canonical (indentOf indent) 0).append hfeed)
    ⟨.between, [], [], []⟩ rfl
  unfold keyLists stableText text
  rw [String.toList_append, String.toList_ofList, h]
  exact List.append_nil _

end TypeLineage.Json
