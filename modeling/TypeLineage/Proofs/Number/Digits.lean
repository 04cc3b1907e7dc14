import TypeLineage.Number.Digits

/-! # Decimal digits are read back

    The digits of a natural number are digits, spell the number, and begin with
    a zero only if they are a single zero. -/

namespace TypeLineage.Number

variable {n d : Nat} {c : Char} {cs : List Char}

theorem digitValue?_digitChar (h : d < 10) : digitValue? (digitChar d) = some d := by
  revert d
  decide

theorem isDigit_digitChar (h : d < 10) : isDigit (digitChar d) = true := by
  revert d
  decide

theorem ofDigits_concat (base : Nat) (cs : List Char) (c : Char) :
    ofDigits base (cs ++ [c]) = ofDigits base cs * base + (digitValue? c).getD 0 := by
  unfold ofDigits
  rw [List.foldl_append]
  rfl

/-- Digits are read as the number they were written from. -/
theorem ofDigits_decimalDigits (n : Nat) : ofDigits 10 (decimalDigits n) = n := by
  induction n using decimalDigits.induct with
  | case1 n h =>
      rw [decimalDigits, if_pos h]
      show 0 * 10 + (digitValue? (digitChar n)).getD 0 = n
      rw [digitValue?_digitChar h, Nat.zero_mul, Nat.zero_add, Option.getD_some]
  | case2 n h ih =>
      rw [decimalDigits, if_neg h, ofDigits_concat, ih,
        digitValue?_digitChar (Nat.mod_lt n (by omega)), Option.getD_some]
      omega

theorem isDigit_of_mem_decimalDigits (h : c ∈ decimalDigits n) : isDigit c = true := by
  induction n using decimalDigits.induct with
  | case1 n hn =>
      rw [decimalDigits, if_pos hn, List.mem_singleton] at h
      rw [h]
      exact isDigit_digitChar hn
  | case2 n hn ih =>
      rw [decimalDigits, if_neg hn, List.mem_append, List.mem_singleton] at h
      rcases h with h | rfl
      · exact ih h
      · exact isDigit_digitChar (Nat.mod_lt n (by omega))

theorem decimalDigits_ne_nil (n : Nat) : decimalDigits n ≠ [] := by
  rw [decimalDigits]
  split <;> simp

/-- No zero leads, unless there is nothing else. -/
theorem decimalDigits_zero_cons (h : decimalDigits n = '0' :: cs) : n = 0 ∧ cs = [] := by
  induction n using decimalDigits.induct generalizing cs with
  | case1 n hn =>
      rw [decimalDigits, if_pos hn] at h
      obtain ⟨hzero, hnil⟩ := List.cons.inj h
      have hvalue : some n = digitValue? '0' := by
        rw [← digitValue?_digitChar hn, hzero]
      exact ⟨Option.some.inj hvalue, hnil.symm⟩
  | case2 n hn ih =>
      rw [decimalDigits, if_neg hn] at h
      obtain ⟨c, rest, hcons⟩ := List.exists_cons_of_ne_nil (decimalDigits_ne_nil (n / 10))
      rw [hcons, List.cons_append] at h
      obtain ⟨rfl, -⟩ := List.cons.inj h
      have := (ih hcons).1
      omega

end TypeLineage.Number
