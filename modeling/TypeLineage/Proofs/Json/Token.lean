import TypeLineage.Json.Printer
import TypeLineage.Json.Reader
import TypeLineage.Proofs.Number.Digits

/-! # Strings and numbers are read back

    A string between its quotes is read as its characters, whatever is escaped
    in it.  An integer is read as the decimal it is written as, provided that
    the text after it does not go on with a number. -/

namespace TypeLineage.Json

variable {fuel : Nat} {cs rest : List Char}

/-! ## Strings -/

theorem hexUnit?_control {u : Nat} (h : u < 0x20) :
    hexUnit? ('0' :: '0' :: hexDigit (u / 16) :: hexDigit (u % 16) :: rest) = some (u, rest) := by
  have hdigits : ∀ u < 0x20, (['0', '0', hexDigit (u / 16), hexDigit (u % 16)].all
      (Number.isDigitIn 16)) = true := by decide
  have hvalue : ∀ u < 0x20,
      Number.ofDigits 16 ['0', '0', hexDigit (u / 16), hexDigit (u % 16)] = u := by decide
  show (if _ then some (Number.ofDigits 16 ['0', '0', _, _], rest) else none) = _
  rw [if_pos (hdigits u h), hvalue u h]

theorem readUnicodeEscape_control {c : Char} (h : c.toNat < 0x20) :
    readUnicodeEscape ('0' :: '0' :: hexDigit (c.toNat / 16) :: hexDigit (c.toNat % 16) :: rest)
      = some (c, rest) := by
  have hhigh : ¬ (0xD800 ≤ c.toNat ∧ c.toNat ≤ 0xDBFF) := by omega
  have hunit : charOfUnit c.toNat = c := by
    unfold charOfUnit
    rw [if_neg (by omega), Char.ofNat_toNat]
  unfold readUnicodeEscape
  rw [hexUnit?_control h]
  show (if _ then _ else some (charOfUnit c.toNat, rest)) = _
  rw [if_neg hhigh, hunit]

/-- One character is read from what it is written as. -/
theorem readString_escapeChar (fuel : Nat) (c : Char) (rest : List Char) :
    readString (fuel + 1) (escapeChar c ++ rest)
      = (readString fuel rest).bind fun p => some (c :: p.1, p.2) := by
  unfold escapeChar
  -- the characters with an escape of one letter
  iterate 7
    split
    · rename_i h
      subst h
      rfl
  split
  · -- another control character, by its code
    rename_i h
    show (readUnicodeEscape ('0' :: '0' :: _ :: _ :: rest)).bind _ = _
    rw [readUnicodeEscape_control h]
    rfl
  · rename_i hquote hslash _ _ _ _ _ hcontrol
    show (if c = '"' then _ else if c = '\\' then _ else if c.toNat < 0x20 then none else _) = _
    rw [if_neg hquote, if_neg hslash, if_neg hcontrol]
    rfl

theorem readString_escaped (h : cs.length < fuel) :
    readString fuel (cs.flatMap escapeChar ++ '"' :: rest) = some (cs, rest) := by
  induction cs generalizing fuel with
  | nil =>
      obtain ⟨n, rfl⟩ := Nat.exists_eq_succ_of_ne_zero (Nat.ne_of_gt h)
      rfl
  | cons c cs ih =>
      rw [List.length_cons] at h
      obtain ⟨n, rfl⟩ : ∃ n, fuel = n + 1 := ⟨fuel - 1, by omega⟩
      rw [List.flatMap_cons, List.append_assoc, readString_escapeChar, ih (by omega)]
      rfl

theorem length_le_escaped (cs : List Char) : cs.length ≤ (cs.flatMap escapeChar).length := by
  induction cs with
  | nil => exact Nat.le_refl 0
  | cons c cs ih =>
      have hc : 0 < (escapeChar c).length := by
        unfold escapeChar
        repeat' split
        all_goals exact Nat.zero_lt_succ _
      rw [List.length_cons, List.flatMap_cons, List.length_append]
      omega

/-! ## Numbers -/

/-- The text does not go on with a number. -/
def EndsNumber (rest : List Char) : Prop :=
  ∀ c, rest.head? = some c → Number.isDigit c = false ∧ c ≠ '.' ∧ c ≠ 'e' ∧ c ≠ 'E'

theorem endsNumber_cons {c : Char} (h : c ∈ [',', ']', '\x7d', '\n']) : EndsNumber (c :: rest) := by
  intro d hd
  obtain rfl := Option.some.inj hd
  simp only [List.mem_cons, List.not_mem_nil, or_false] at h
  rcases h with rfl | rfl | rfl | rfl <;> decide

theorem spanDigits_append (hcs : ∀ c ∈ cs, Number.isDigit c = true) (h : EndsNumber rest) :
    spanDigits (cs ++ rest) = (cs, rest) := by
  unfold spanDigits
  have hrest : rest.takeWhile Number.isDigit = [] ∧ rest.dropWhile Number.isDigit = rest := by
    cases rest with
    | nil => exact ⟨rfl, rfl⟩
    | cons c cs =>
        have hc := (h c rfl).1
        simp [hc]
  rw [List.takeWhile_append_of_pos hcs, List.dropWhile_append_of_pos hcs, hrest.1, hrest.2,
    List.append_nil]

theorem readFraction_none (h : EndsNumber rest) : readFraction rest = some ([], rest) := by
  unfold readFraction
  split
  · exact absurd rfl (h _ rfl).2.1
  · rfl

theorem readExponent_none (h : EndsNumber rest) : readExponent rest = some (0, rest) := by
  unfold readExponent
  cases rest with
  | nil => rfl
  | cons c cs =>
      obtain ⟨-, -, he, hE⟩ := h c rfl
      exact if_neg (not_or.mpr ⟨he, hE⟩)

/-- The first character of an integer is a sign or a digit. -/
theorem intDigits_head (n : Int) :
    ∃ c cs, JsonNumber.intDigits n = c :: cs ∧ (c = '-' ∨ Number.isDigit c = true) := by
  unfold JsonNumber.intDigits
  split
  · exact ⟨_, _, rfl, Or.inl rfl⟩
  · obtain ⟨c, cs, hcons⟩ := List.exists_cons_of_ne_nil (Number.decimalDigits_ne_nil n.natAbs)
    refine ⟨c, cs, hcons, Or.inr ?_⟩
    exact Number.isDigit_of_mem_decimalDigits (hcons ▸ List.mem_cons_self)

/-- Reads a number behind its sign. -/
def readMagnitude (negative : Bool) (cs : List Char) : Option (JsonNumber × List Char) := do
  let (whole, cs) := spanDigits cs
  if whole.isEmpty || (whole.head? == some '0' && whole.length > 1) then none
  else
    let (fraction, cs) ← readFraction cs
    let (power, cs) ← readExponent cs
    let digits := Number.ofDigits 10 (whole ++ fraction)
    pure (JsonNumber.ofDecimal negative digits (power - fraction.length), cs)

theorem readNumber_minus (cs : List Char) : readNumber ('-' :: cs) = readMagnitude true cs := rfl

theorem readNumber_plain (h : cs.head? ≠ some '-') : readNumber cs = readMagnitude false cs := by
  unfold readNumber
  split
  rename_i negative rest heq
  split at heq
  · exact absurd rfl h
  · obtain ⟨rfl, rfl⟩ := Prod.mk.inj heq
    rfl

theorem readMagnitude_decimalDigits (negative : Bool) (m : Nat) (h : EndsNumber rest) :
    readMagnitude negative (Number.decimalDigits m ++ rest)
      = some (JsonNumber.ofDecimal negative m 0, rest) := by
  have hplain : ¬ ((Number.decimalDigits m).isEmpty
      || ((Number.decimalDigits m).head? == some '0' && (Number.decimalDigits m).length > 1))
        = true := by
    cases hds : Number.decimalDigits m with
    | nil => exact absurd hds (Number.decimalDigits_ne_nil m)
    | cons c cs =>
        by_cases hc : c = '0'
        · subst hc
          obtain rfl := (Number.decimalDigits_zero_cons hds).2
          decide
        · simp [hc]
  unfold readMagnitude
  rw [spanDigits_append (fun c => Number.isDigit_of_mem_decimalDigits) h]
  show (if _ then none else (readFraction rest).bind _) = _
  rw [if_neg hplain, readFraction_none h]
  show (readExponent rest).bind _ = _
  rw [readExponent_none h]
  show some (JsonNumber.ofDecimal negative (Number.ofDigits 10 (_ ++ [])) 0, rest) = _
  rw [List.append_nil, Number.ofDigits_decimalDigits]

theorem readNumber_intDigits (n : Int) (h : EndsNumber rest) :
    readNumber (JsonNumber.intDigits n ++ rest)
      = some (JsonNumber.ofDecimal (decide (n < 0)) n.natAbs 0, rest) := by
  unfold JsonNumber.intDigits
  by_cases hn : n < 0
  · rw [if_pos hn, decide_eq_true hn, List.cons_append, readNumber_minus]
    exact readMagnitude_decimalDigits true _ h
  · have hsign : (Number.decimalDigits n.natAbs ++ rest).head? ≠ some '-' := by
      cases hds : Number.decimalDigits n.natAbs with
      | nil => exact absurd hds (Number.decimalDigits_ne_nil _)
      | cons c cs =>
          intro heq
          obtain rfl := Option.some.inj heq
          have hdigit := Number.isDigit_of_mem_decimalDigits (hds ▸ List.mem_cons_self)
          exact absurd hdigit (by decide)
    rw [if_neg hn, decide_eq_false hn, readNumber_plain hsign]
    exact readMagnitude_decimalDigits false _ h

end TypeLineage.Json
