import Mathlib
import TypeLineage.Json.Basic

/-! # Whole numbers are added exactly

    A natural number below 2^53 is exact in 64-bit floating point, whatever
    quotient it is rounded from.  `Spells x n` says that `x` is the number `n`,
    written with some binary places; sums of such numbers spell the sum as long
    as it stays below the bound. -/

namespace TypeLineage.Number.Binary64

variable {x y : Binary64} {a b n places : Nat}

/-- The number is `n`, with that many binary places behind the point. -/
def Spells (x : Binary64) (n : Nat) : Prop :=
  ∃ places : Nat, x = .finite false (n * 2 ^ places) (-places)

theorem spells_zero : Spells (zero false) 0 :=  by
  obtain ⟨places, hplaces⟩ : ∃ places : Nat, leastExponent = -(places : Int) := ⟨1074, rfl⟩
  refine ⟨places, ?_⟩
  rw [Nat.zero_mul, ← hplaces]
  rfl

theorem roundEven_mul (q : Nat) {d : Nat} (hd : 0 < d) : roundEven (q * d) d = q := by
  unfold roundEven
  rw [Nat.mul_div_cancel q hd, Nat.mul_mod_left]
  simp [Nat.ne_of_lt hd]

theorem scaled_neg (num den places : Nat) : scaled num den (-(places : Int)) = (num * 2 ^ places, den) := by
  unfold scaled
  cases places with
  | zero => simp
  | succ k =>
      rw [if_neg (by omega), Int.neg_neg, Int.toNat_natCast]
      rfl

theorem scaled_natCast (num places : Nat) : scaled num 1 (places : Int) = (num, 2 ^ places) := by
  unfold scaled
  rw [if_pos (Int.natCast_nonneg places), Int.toNat_natCast, Nat.one_mul]
  rfl

theorem log2_mul_two_pow (hn : n ≠ 0) : Nat.log2 (n * 2 ^ places) = Nat.log2 n + places := by
  have hpow := Nat.two_pow_pos places
  rw [Nat.log2_eq_iff (Nat.mul_ne_zero hn (Nat.ne_of_gt hpow)), Nat.pow_add, Nat.add_right_comm,
    Nat.pow_add]
  exact ⟨Nat.mul_le_mul_right _ (Nat.log2_self_le hn),
    Nat.mul_lt_mul_of_pos_right Nat.lt_log2_self hpow⟩

/-- A fraction that is a small whole number is not rounded. -/
theorem spells_ofRatio (h : n < 2 ^ 53) : Spells (ofRatio false (n * 2 ^ places) (2 ^ places)) n := by
  have hpow := Nat.two_pow_pos places
  by_cases hn : n = 0
  · subst hn
    unfold ofRatio
    rw [if_pos (Nat.zero_mul _)]
    exact spells_zero
  have hlog : Nat.log2 n ≤ 52 := by
    have := (Nat.log2_lt hn).mpr h
    omega
  -- the significand takes as many places as fill it up
  obtain ⟨fill, hfill⟩ : ∃ fill, Nat.log2 n + fill = 52 := ⟨52 - Nat.log2 n, by omega⟩
  have hguess : (Nat.log2 (n * 2 ^ places) : Int) - (Nat.log2 (2 ^ places) : Int) - 52
      = -(fill : Int) := by
    rw [log2_mul_two_pow hn, Nat.log2_two_pow]
    omega
  have hmultiple : n * 2 ^ places * 2 ^ fill = n * 2 ^ fill * 2 ^ places := Nat.mul_right_comm _ _ _
  have hlow : 2 ^ 52 ≤ n * 2 ^ fill := by
    rw [← hfill, Nat.pow_add]
    exact Nat.mul_le_mul_right _ (Nat.log2_self_le hn)
  have hhigh : n * 2 ^ fill < 2 ^ 53 := by
    have hsucc : 53 = Nat.log2 n + 1 + fill := by omega
    rw [hsucc, Nat.pow_add]
    exact Nat.mul_lt_mul_of_pos_right Nat.lt_log2_self (Nat.two_pow_pos fill)
  have hexponent : max (-(fill : Int)) leastExponent = -(fill : Int) := by
    unfold leastExponent
    omega
  have hnarrow : ¬ n * 2 ^ fill < Nat.pow 2 52 := Nat.not_lt.mpr hlow
  have hwide : n * 2 ^ fill ≠ Nat.pow 2 53 := Nat.ne_of_lt hhigh
  unfold ofRatio
  rw [if_neg (Nat.mul_ne_zero hn (Nat.ne_of_gt hpow)), hguess]
  dsimp only
  rw [scaled_neg]
  dsimp only
  rw [hmultiple, Nat.mul_div_cancel _ hpow, if_neg hnarrow, hexponent, scaled_neg]
  dsimp only
  rw [hmultiple, roundEven_mul _ hpow, if_neg hwide]
  dsimp only
  rw [if_neg (by unfold greatestExponent; omega)]
  exact ⟨fill, rfl⟩

theorem spells_ofInt (h : n < 2 ^ 53) : Spells (ofInt n) n := by
  have hspells : Spells (ofRatio false (n * 2 ^ 0) (2 ^ 0)) n := spells_ofRatio h
  rw [Nat.pow_zero, Nat.mul_one] at hspells
  unfold ofInt
  rw [decide_eq_false (by omega), Int.natAbs_natCast]
  exact hspells

theorem Spells.add (hx : Spells x a) (hy : Spells y b) (h : a + b < 2 ^ 53) :
    Spells (x.add y) (a + b) := by
  obtain ⟨i, rfl⟩ := hx
  obtain ⟨j, rfl⟩ := hy
  obtain ⟨most, hmost⟩ : ∃ most, max i j = most := ⟨_, rfl⟩
  have hleast : min (-(i : Int)) (-(j : Int)) = -(most : Int) := by omega
  have hterm : ∀ n k : Nat, k ≤ most →
      ((n * 2 ^ k : Nat) : Int) * (Nat.pow 2 (-(k : Int) - -(most : Int)).toNat : Nat)
        = (n * 2 ^ most : Nat) := by
    intro n k hk
    have hshift : (-(k : Int) - -(most : Int)).toNat = most - k := by omega
    have hpow : n * 2 ^ k * 2 ^ (most - k) = n * 2 ^ most := by
      rw [Nat.mul_assoc, ← Nat.pow_add, Nat.add_sub_cancel' hk]
    rw [hshift, ← hpow, Int.natCast_mul (n * 2 ^ k)]
    rfl
  have hsum : ((a * 2 ^ most : Nat) : Int) + (b * 2 ^ most : Nat) = ((a + b) * 2 ^ most : Nat) := by
    rw [Nat.add_mul]
    rfl
  show Spells (addFinite false _ _ false _ _) _
  unfold addFinite
  dsimp only
  simp only [hleast, Bool.false_eq_true, if_false, hterm a i (by omega), hterm b j (by omega),
    hsum, Int.natAbs_natCast, Int.neg_neg, scaled_natCast]
  by_cases hzero : a + b = 0
  · rw [hzero, Nat.zero_mul]
    exact spells_zero
  · have hpositive : ((((a + b) * 2 ^ most : Nat) : Int)) ≠ 0 := by
      rw [Int.natCast_ne_zero]
      exact Nat.mul_ne_zero hzero (Nat.ne_of_gt (Nat.two_pow_pos most))
    rw [if_neg hpositive, decide_eq_false (by omega)]
    exact spells_ofRatio h

end TypeLineage.Number.Binary64

namespace TypeLineage.JsonNumber

open Number.Binary64

variable {x : Number.Binary64} {a b n : Nat}

theorem ofBinary64_spells (h : Spells x n) (hn : n < safeLimit) : ofBinary64 x = .int n := by
  obtain ⟨places, rfl⟩ := h
  have hpow := Nat.two_pow_pos places
  have hpart : wholePart (n * 2 ^ places) (-(places : Int)) = n := by
    unfold wholePart
    split
    · obtain rfl : places = 0 := by omega
      exact (Nat.mul_one _).trans (Nat.mul_one n)
    · rw [Int.neg_neg, Int.toNat_natCast]
      exact Nat.mul_div_cancel n hpow
  have hwhole : Number.Binary64.isWhole (n * 2 ^ places) (-(places : Int)) = true := by
    unfold Number.Binary64.isWhole
    rw [Int.neg_neg, Int.toNat_natCast]
    show (_ || n * 2 ^ places % 2 ^ places == 0) = true
    rw [Nat.mul_mod_left]
    exact Bool.or_true _
  unfold ofBinary64
  simp [hpart, hwhole, hn]

/-- **Counts are exact**: natural numbers are added as such up to the limit. -/
theorem add_natCast (h : a + b < safeLimit) : (int a).add (int b) = .int (a + b : Nat) :=
  have hbound : safeLimit = 2 ^ 53 := rfl
  ofBinary64_spells ((spells_ofInt (by omega)).add (spells_ofInt (by omega)) (by omega)) h

end TypeLineage.JsonNumber
