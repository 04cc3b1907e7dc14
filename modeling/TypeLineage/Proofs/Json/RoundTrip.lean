import TypeLineage.Proofs.Json.Order
import TypeLineage.Proofs.Json.Token

/-! # Written values are read back

    `reread v` is what the text of `v` is read as: its numbers are rounded and
    its members put in order, and nothing else changes.  The induction is on
    values; what carries it is `ReadsBack`, which leaves open what follows the
    text of a value as long as it does not go on with a number, and how much
    fuel there is as long as it covers the text.

    For the canonical form of a value this gives `settled v`, under whose keys
    stands what stood under the keys of `v`, settled. -/

namespace TypeLineage.Json

variable {fuel indent depth : Nat} {cs rest : List Char} {v item : Json} {items : List Json}
  {members : List (String × Json)} {key : String}

/-! ## Values without fractions -/

/-- All numbers are integers. -/
inductive Integral : Json → Prop where
  | null : Integral .null
  | bool (b : Bool) : Integral (.bool b)
  | int (n : Int) : Integral (.number (.int n))
  | string (s : String) : Integral (.string s)
  | array {items : List Json} (h : ∀ x ∈ items, Integral x) : Integral (.array items)
  | object {members : List (String × Json)} (h : ∀ m ∈ members, Integral m.2) :
      Integral (.object members)

/-- What an integer is read as. -/
def rereadNumber : JsonNumber → JsonNumber
  | .int n => .ofDecimal (decide (n < 0)) n.natAbs 0
  | .real x => .real x

mutual

/-- What a value without fractions is read as. -/
def reread : Json → Json
  | .number n => .number (rereadNumber n)
  | .array items => .array (rereadItems items)
  | .object members => .object (orderMembers (rereadMembers members))
  | v => v

/-- What the items of an array are read as. -/
def rereadItems : List Json → List Json
  | [] => []
  | item :: items => reread item :: rereadItems items

/-- What the members of an object are read as, in the order of the text. -/
def rereadMembers : List (String × Json) → List (String × Json)
  | [] => []
  | (key, value) :: members => (key, reread value) :: rereadMembers members

end

theorem rereadItems_eq_map (items : List Json) : rereadItems items = items.map reread := by
  induction items with
  | nil => rfl
  | cons item items ih => rw [rereadItems, ih, List.map_cons]

theorem rereadMembers_eq_map (members : List (String × Json)) :
    rereadMembers members = members.map fun m => (m.1, reread m.2) := by
  induction members with
  | nil => rfl
  | cons m members ih => rw [rereadMembers, ih, List.map_cons]

/-! ## Blanks -/

theorem skipSpace_lineBreak (indent depth : Nat) (cs : List Char) :
    skipSpace (lineBreak indent depth ++ cs) = skipSpace cs := by
  unfold lineBreak skipSpace
  split
  · rfl
  · rw [List.dropWhile_append_of_pos]
    intro c hc
    rcases List.mem_cons.mp hc with rfl | hc
    · rfl
    · rw [List.eq_of_mem_replicate hc]
      rfl

theorem skipSpace_cons {c : Char} (h : isSpace c = false) (cs : List Char) :
    skipSpace (c :: cs) = c :: cs :=
  List.dropWhile_cons_of_neg (Bool.eq_false_iff.mp h)

theorem readValue_congr {ds : List Char} (h : skipSpace cs = skipSpace ds) :
    readValue fuel cs = readValue fuel ds := by
  cases fuel with
  | zero => rfl
  | succ n => rw [readValue, readValue, h]

theorem readItems_congr {ds : List Char} (h : skipSpace cs = skipSpace ds) :
    readItems fuel cs = readItems fuel ds := by
  cases fuel with
  | zero => rfl
  | succ n => rw [readItems, readItems, readValue_congr h]

theorem readMembers_congr {ds : List Char} (h : skipSpace cs = skipSpace ds) :
    readMembers fuel cs = readMembers fuel ds := by
  cases fuel with
  | zero => rfl
  | succ n => rw [readMembers, readMembers, h]

theorem endsNumber_lineBreak (h : EndsNumber rest) : EndsNumber (lineBreak indent depth ++ rest) := by
  unfold lineBreak
  split
  · exact h
  · exact endsNumber_cons (by simp)

/-! ## One step of the reader -/

theorem readValue_array (h : (skipSpace cs).head? ≠ some ']') :
    readValue (fuel + 1) ('[' :: cs)
      = (readItems fuel (skipSpace cs)).bind fun p => some (.array p.1, p.2) := by
  rw [readValue, skipSpace_cons rfl]
  split
  case h_1 heq => exact nomatch heq
  case h_2 heq =>
    obtain ⟨-, rfl⟩ := List.cons.inj heq
    split
    case h_1 heq =>
      rw [heq] at h
      exact absurd rfl h
    case h_2 => rfl
  case h_8 hne _ _ _ _ _ heq => exact absurd (List.cons.inj heq).1.symm hne
  all_goals
    rename_i heq
    exact absurd (List.cons.inj heq).1 (by decide)

theorem readValue_object (h : (skipSpace cs).head? ≠ some '\x7d') :
    readValue (fuel + 1) ('\x7b' :: cs)
      = (readMembers fuel (skipSpace cs)).bind fun p =>
          some (.object (orderMembers p.1), p.2) := by
  rw [readValue, skipSpace_cons rfl]
  split
  case h_1 heq => exact nomatch heq
  case h_3 heq =>
    obtain ⟨-, rfl⟩ := List.cons.inj heq
    split
    case h_1 heq =>
      rw [heq] at h
      exact absurd rfl h
    case h_2 => rfl
  case h_8 _ hne _ _ _ _ heq => exact absurd (List.cons.inj heq).1.symm hne
  all_goals
    rename_i heq
    exact absurd (List.cons.inj heq).1 (by decide)

theorem readValue_string (s : String) (rest : List Char) :
    readValue (fuel + 1) (quote s ++ rest) = some (.string s, rest) := by
  have hquote : quote s ++ rest = '"' :: (s.toList.flatMap escapeChar ++ '"' :: rest) := by
    simp [quote]
  have hfuel := length_le_escaped s.toList
  rw [hquote]
  show (readString _ (s.toList.flatMap escapeChar ++ '"' :: rest)).bind _ = _
  rw [readString_escaped (by rw [List.length_append]; omega)]
  show some (Json.string (String.ofList s.toList), rest) = _
  rw [String.ofList_toList]

/-- What begins an integer begins nothing else. -/
theorem not_mem_of_begins {c : Char} (h : c = '-' ∨ Number.isDigit c = true) :
    c ∉ [' ', '\t', '\n', '\r', '[', ']', '\x7b', '\x7d', '"', 'n', 't', 'f'] := by
  intro hmem
  simp only [List.mem_cons, List.not_mem_nil, or_false] at hmem
  rcases hmem with rfl | rfl | rfl | rfl | rfl | rfl | rfl | rfl | rfl | rfl | rfl | rfl
  all_goals exact absurd h (by decide)

theorem isSpace_of_begins {c : Char} (h : c = '-' ∨ Number.isDigit c = true) :
    isSpace c = false := by
  have hc := not_mem_of_begins h
  simp only [List.mem_cons, not_or] at hc
  simp [isSpace, hc]

theorem readValue_number {c : Char} (h : c = '-' ∨ Number.isDigit c = true) :
    readValue (fuel + 1) (c :: cs)
      = (readNumber (c :: cs)).bind fun p => some (.number p.1, p.2) := by
  have hc := not_mem_of_begins h
  rw [readValue, skipSpace_cons (isSpace_of_begins h)]
  split
  case h_1 heq => exact nomatch heq
  case h_8 heq =>
    rw [← heq]
    rfl
  -- a bracket, a brace, a quote or a letter
  all_goals
    rename_i heq
    rw [(List.cons.inj heq).1] at hc
    exact absurd (by decide) hc

theorem readItems_last {after : List Char} (hv : readValue fuel cs = some (item, after))
    (hafter : skipSpace after = ']' :: rest) : readItems (fuel + 1) cs = some ([item], rest) := by
  simp only [readItems, hv, Option.bind_eq_bind, Option.bind_some, hafter]
  rfl

theorem readItems_more {after more : List Char} (hv : readValue fuel cs = some (item, after))
    (hafter : skipSpace after = ',' :: more) :
    readItems (fuel + 1) cs = (readItems fuel more).bind fun p => some (item :: p.1, p.2) := by
  simp only [readItems, hv, Option.bind_eq_bind, Option.bind_some, hafter]
  rfl

/-- A key and its colon are passed. -/
theorem readMembers_key (key : String) (indent : Nat) (cs : List Char) :
    readMembers (fuel + 1) (quote key ++ (colon indent ++ cs))
      = (readValue fuel cs).bind fun p => match skipSpace p.2 with
        | ',' :: rest' => (readMembers fuel rest').bind fun q => some ((key, p.1) :: q.1, q.2)
        | '\x7d' :: rest' => some ([(key, p.1)], rest')
        | _ => none := by
  have hquote : quote key ++ (colon indent ++ cs)
      = '"' :: (key.toList.flatMap escapeChar ++ '"' :: (colon indent ++ cs)) := by
    simp [quote]
  have hfuel := length_le_escaped key.toList
  -- after the colon there may be a blank
  obtain ⟨ds, hcolon, hds⟩ : ∃ ds, skipSpace (colon indent ++ cs) = ':' :: ds
      ∧ skipSpace ds = skipSpace cs := by
    unfold colon
    split
    · exact ⟨cs, rfl, rfl⟩
    · exact ⟨' ' :: cs, rfl, rfl⟩
  rw [hquote]
  show ((readString _ (key.toList.flatMap escapeChar ++ '"' :: (colon indent ++ cs))).bind _) = _
  rw [readString_escaped (by rw [List.length_append]; omega)]
  simp only [Option.bind_some, hcolon, String.ofList_toList, readValue_congr hds]
  rfl

/-! ## Values -/

/-- The text of the value is read as it should be, wherever it stands. -/
def ReadsBack (v : Json) : Prop :=
  ∀ fuel indent depth rest, (write indent depth v).length ≤ fuel → EndsNumber rest →
    readValue fuel (write indent depth v ++ rest) = some (reread v, rest)

/-- The text of a value begins with neither a blank nor a closing bracket. -/
theorem write_head (h : Integral v) (indent depth : Nat) :
    ∃ c cs, write indent depth v = c :: cs ∧ isSpace c = false ∧ c ≠ ']' := by
  cases h with
  | null => exact ⟨_, _, rfl, rfl, by decide⟩
  | bool b => cases b <;> exact ⟨_, _, rfl, rfl, by decide⟩
  | int n =>
      obtain ⟨c, cs, hcons, hc⟩ := intDigits_head n
      refine ⟨c, cs, hcons, isSpace_of_begins hc, ?_⟩
      rintro rfl
      exact not_mem_of_begins hc (by decide)
  | string s => exact ⟨_, _, rfl, rfl, by decide⟩
  | @array items _ => cases items <;> exact ⟨_, _, rfl, rfl, by decide⟩
  | @object members _ => cases members <;> exact ⟨_, _, rfl, rfl, by decide⟩

theorem skipSpace_write (h : Integral v) (indent depth : Nat) (after : List Char) :
    skipSpace (write indent depth v ++ after) = write indent depth v ++ after := by
  obtain ⟨c, cs, hcons, hspace, -⟩ := write_head h indent depth
  rw [hcons]
  exact skipSpace_cons hspace _

theorem head?_write_ne (h : Integral v) (indent depth : Nat) (after : List Char) :
    (write indent depth v ++ after).head? ≠ some ']' := by
  obtain ⟨c, cs, hcons, -, hbracket⟩ := write_head h indent depth
  rw [hcons]
  exact fun heq => hbracket (Option.some.inj heq)

theorem endsNumber_writeItems (indent depth : Nat) (items : List Json) (h : EndsNumber rest) :
    EndsNumber (writeItems indent depth items ++ rest) := by
  cases items with
  | nil => exact h
  | cons item items => exact endsNumber_cons (by decide)

theorem endsNumber_writeMembers (indent depth : Nat) (members : List (String × Json))
    (h : EndsNumber rest) :
    EndsNumber (writeMembers indent depth members ++ rest) := by
  cases members with
  | nil => exact h
  | cons m members => exact endsNumber_cons (by decide)

theorem writeItems_cons_append (next : Json) (items : List Json) (after : List Char) :
    writeItems indent depth (next :: items) ++ after
      = ',' :: (lineBreak indent depth
          ++ (write indent depth next ++ (writeItems indent depth items ++ after))) := by
  simp [writeItems]

theorem length_writeItems_cons (indent depth : Nat) (next : Json) (items : List Json) :
    (write indent depth next).length + (writeItems indent depth items).length
      < (writeItems indent depth (next :: items)).length := by
  simp only [writeItems, List.length_cons, List.length_append]
  omega

theorem writeMembers_cons_append (key : String) (v : Json) (members : List (String × Json))
    (after : List Char) :
    writeMembers indent depth ((key, v) :: members) ++ after
      = ',' :: (lineBreak indent depth ++ (quote key ++ (colon indent
          ++ (write indent depth v ++ (writeMembers indent depth members ++ after))))) := by
  simp [writeMembers]

theorem length_writeMembers_cons (indent depth : Nat) (key : String) (v : Json)
    (members : List (String × Json)) :
    (write indent depth v).length + (writeMembers indent depth members).length
      < (writeMembers indent depth ((key, v) :: members)).length := by
  simp only [writeMembers, List.length_cons, List.length_append]
  omega

/-- The items of an array are read up to its bracket. -/
theorem readItems_write (hitem : ReadsBack item) (hitems : ∀ x ∈ items, ReadsBack x) {outer : Nat}
    (hfuel : (write indent depth item).length + (writeItems indent depth items).length < fuel) :
    readItems fuel (write indent depth item ++ (writeItems indent depth items
        ++ (lineBreak indent outer ++ ']' :: rest)))
      = some (reread item :: items.map reread, rest) := by
  have hend : EndsNumber (lineBreak indent outer ++ ']' :: rest) :=
    endsNumber_lineBreak (endsNumber_cons (by decide))
  induction items generalizing item fuel with
  | nil =>
      obtain ⟨n, rfl⟩ : ∃ n, fuel = n + 1 := ⟨fuel - 1, by omega⟩
      exact readItems_last (hitem n indent depth _ (by omega) hend)
        (skipSpace_lineBreak indent outer _)
  | cons next items ih =>
      obtain ⟨n, rfl⟩ : ∃ n, fuel = n + 1 := ⟨fuel - 1, by omega⟩
      rw [List.forall_mem_cons] at hitems
      -- the rest of the items begins with a comma, so it ends a number
      have hlength := length_writeItems_cons indent depth next items
      have hread := hitem n indent depth _ (by omega)
        (endsNumber_writeItems indent depth (next :: items) hend)
      rw [writeItems_cons_append] at hread ⊢
      rw [readItems_more hread rfl, readItems_congr (skipSpace_lineBreak indent depth _),
        ih hitems.1 hitems.2 (by omega)]
      rfl

/-- The members of an object are read up to its brace. -/
theorem readMembers_write (hv : ReadsBack v) (hmembers : ∀ m ∈ members, ReadsBack m.2)
    {outer : Nat} (hfuel : (write indent depth v).length
      + (writeMembers indent depth members).length < fuel) :
    readMembers fuel (quote key ++ (colon indent ++ (write indent depth v
        ++ (writeMembers indent depth members ++ (lineBreak indent outer ++ '\x7d' :: rest)))))
      = some ((key, reread v) :: members.map fun m => (m.1, reread m.2), rest) := by
  have hend : EndsNumber (lineBreak indent outer ++ '\x7d' :: rest) :=
    endsNumber_lineBreak (endsNumber_cons (by decide))
  -- the first member is apart, so the induction is on those behind their commas
  induction members generalizing v key fuel with
  | nil =>
      obtain ⟨n, rfl⟩ : ∃ n, fuel = n + 1 := ⟨fuel - 1, by omega⟩
      rw [readMembers_key, hv n indent depth _ (by omega) (endsNumber_writeMembers _ _ [] hend)]
      have hafter : skipSpace (writeMembers indent depth []
          ++ (lineBreak indent outer ++ '\x7d' :: rest)) = '\x7d' :: rest :=
        skipSpace_lineBreak indent outer _
      simp only [Option.bind_some, hafter]
      rfl
  | cons next members ih =>
      obtain ⟨n, rfl⟩ : ∃ n, fuel = n + 1 := ⟨fuel - 1, by omega⟩
      obtain ⟨k, w⟩ := next
      rw [List.forall_mem_cons] at hmembers
      obtain ⟨hw, hrest⟩ : ReadsBack w ∧ ∀ m ∈ members, ReadsBack m.2 := hmembers
      have hlength := length_writeMembers_cons indent depth k w members
      rw [readMembers_key, hv n indent depth _ (by omega) (endsNumber_writeMembers _ _ _ hend),
        writeMembers_cons_append]
      show (readMembers n (lineBreak indent depth ++ _)).bind _ = _
      rw [readMembers_congr (skipSpace_lineBreak indent depth _),
        ih hw hrest (by omega)]
      rfl

theorem exists_fuel {c : Char} (h : (c :: cs).length ≤ fuel) : ∃ n, fuel = n + 1 :=
  Nat.exists_eq_add_one.mpr (Nat.lt_of_lt_of_le (Nat.zero_lt_succ _) h)

theorem readsBack_array (h : ∀ x ∈ items, Integral x) (ih : ∀ x ∈ items, ReadsBack x) :
    ReadsBack (.array items) := by
  intro fuel indent depth rest hfuel _
  cases items with
  | nil =>
      obtain ⟨n, rfl⟩ := exists_fuel hfuel
      rfl
  | cons item items =>
      rw [List.forall_mem_cons] at h ih
      have hwrite : write indent depth (.array (item :: items)) ++ rest
          = '[' :: (lineBreak indent (depth + 1) ++ (write indent (depth + 1) item
              ++ (writeItems indent (depth + 1) items
                ++ (lineBreak indent depth ++ ']' :: rest)))) := by
        simp [write]
      have hlength : (write indent (depth + 1) item).length
          + (writeItems indent (depth + 1) items).length + 1 < fuel := by
        simp only [write, List.length_cons, List.length_append] at hfuel
        omega
      obtain ⟨n, rfl⟩ : ∃ n, fuel = n + 1 := ⟨fuel - 1, by omega⟩
      have hskip := (skipSpace_lineBreak indent (depth + 1) _).trans (skipSpace_write h.1 indent
        (depth + 1) (writeItems indent (depth + 1) items ++ (lineBreak indent depth ++ ']' :: rest)))
      have hhead := head?_write_ne h.1 indent (depth + 1)
        (writeItems indent (depth + 1) items ++ (lineBreak indent depth ++ ']' :: rest))
      rw [← hskip] at hhead
      rw [hwrite, readValue_array hhead, hskip, readItems_write ih.1 ih.2 (by omega)]
      show some (Json.array (reread item :: items.map reread), rest) = _
      rw [← List.map_cons, ← rereadItems_eq_map]
      rfl

theorem readsBack_object (ih : ∀ m ∈ members, ReadsBack m.2) : ReadsBack (.object members) := by
  intro fuel indent depth rest hfuel _
  cases members with
  | nil =>
      obtain ⟨n, rfl⟩ := exists_fuel hfuel
      show some (Json.object [], rest) = some (Json.object (orderMembers []), rest)
      rw [orderMembers_nil]
  | cons m members =>
      obtain ⟨key, v⟩ := m
      rw [List.forall_mem_cons] at ih
      obtain ⟨hv, hrest⟩ : ReadsBack v ∧ ∀ m ∈ members, ReadsBack m.2 := ih
      have hwrite : write indent depth (.object ((key, v) :: members)) ++ rest
          = '\x7b' :: (lineBreak indent (depth + 1) ++ (quote key ++ (colon indent
              ++ (write indent (depth + 1) v ++ (writeMembers indent (depth + 1) members
                ++ (lineBreak indent depth ++ '\x7d' :: rest)))))) := by
        simp [write]
      have hlength : (write indent (depth + 1) v).length
          + (writeMembers indent (depth + 1) members).length + 1 < fuel := by
        simp only [write, List.length_cons, List.length_append] at hfuel
        omega
      obtain ⟨n, rfl⟩ : ∃ n, fuel = n + 1 := ⟨fuel - 1, by omega⟩
      have hskip := skipSpace_lineBreak indent (depth + 1) (quote key ++ (colon indent
        ++ (write indent (depth + 1) v ++ (writeMembers indent (depth + 1) members
          ++ (lineBreak indent depth ++ '\x7d' :: rest)))))
      -- what follows the blanks is a quote
      rw [hwrite, readValue_object (by rw [hskip]; exact fun heq => nomatch heq), hskip]
      show (readMembers n (quote key ++ _)).bind _ = _
      rw [readMembers_write hv hrest (by omega)]
      show some (Json.object (orderMembers
        ((key, reread v) :: members.map fun m => (m.1, reread m.2))), rest) = _
      rw [← rereadMembers_eq_map]
      rfl

/-- The text of a value without fractions is read back. -/
theorem Integral.readsBack (h : Integral v) : ReadsBack v := by
  induction h with
  | array h ih => exact readsBack_array h ih
  | object h ih => exact readsBack_object ih
  | null =>
      intro fuel indent depth rest hfuel _
      obtain ⟨n, rfl⟩ := exists_fuel hfuel
      rfl
  | bool b =>
      intro fuel indent depth rest hfuel _
      cases b
      all_goals
        obtain ⟨n, rfl⟩ := exists_fuel hfuel
        rfl
  | int n =>
      intro fuel indent depth rest hfuel hend
      obtain ⟨c, cs, hcons, hc⟩ := intDigits_head n
      have hwrite : write indent depth (.number (.int n)) = c :: cs := hcons
      have hread := readNumber_intDigits n hend
      rw [hcons, List.cons_append] at hread
      rw [hwrite] at hfuel ⊢
      obtain ⟨m, rfl⟩ := exists_fuel hfuel
      rw [List.cons_append, readValue_number hc, hread]
      rfl
  | string s =>
      intro fuel indent depth rest hfuel _
      obtain ⟨n, rfl⟩ := exists_fuel hfuel
      exact readValue_string s rest

end TypeLineage.Json
