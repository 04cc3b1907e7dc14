import Mathlib
import TypeLineage.Text.Collation

/-! # Dictionary order is an order

    The levels of two texts are compared as lists of numbers are, so the
    comparison of texts is a total preorder, whatever characters they have.  It
    is an order on texts that it tells apart, and items that are sorted by it
    stand in one order however they came (`mergeSort_eq_of_perm`). -/

namespace TypeLineage.Text

theorem compareRanks_eq_compareLex :
    ∀ as bs : List Nat, compareRanks as bs = List.compareLex compare as bs := by
  intro as
  induction as with
  | nil => intro bs; cases bs <;> rfl
  | cons a as ih =>
      intro bs
      cases bs with
      | nil => rfl
      | cons b bs => rw [compareRanks, List.compareLex_cons_cons, ih]

instance : Std.TransCmp compareRanks := by
  have h : compareRanks = List.compareLex compare := funext₂ compareRanks_eq_compareLex
  rw [h]
  infer_instance

/-- Items may be compared by a part of them. -/
theorem transCmp_on {α β : Type} (cmp : β → β → Ordering) [Std.TransCmp cmp] (f : α → β) :
    Std.TransCmp fun a b => cmp (f a) (f b) where
  eq_swap := Std.OrientedCmp.eq_swap
  isLE_trans := Std.TransCmp.isLE_trans

instance : Std.TransCmp collate := by
  have hprimary := transCmp_on compareRanks fun s => (sortKey s).primary
  have hsecondary := transCmp_on compareRanks fun s => (sortKey s).secondary
  have htertiary := transCmp_on compareRanks fun s => (sortKey s).tertiary
  exact inferInstanceAs (Std.TransCmp (compareLex (compareLex
    (fun a b => compareRanks (sortKey a).primary (sortKey b).primary)
    (fun a b => compareRanks (sortKey a).secondary (sortKey b).secondary))
    (fun a b => compareRanks (sortKey a).tertiary (sortKey b).tertiary)))

/-! ## Sorting by a comparison -/

section Sorting

variable {α : Type} {cmp : α → α → Ordering} [Std.TransCmp cmp] {xs ys : List α}

/-- No item of a sorted list comes after a later one. -/
theorem mergeSort_pairwise (cmp : α → α → Ordering) [Std.TransCmp cmp] (xs : List α) :
    (xs.mergeSort fun a b => (cmp a b).isLE).Pairwise fun a b => (cmp a b).isLE = true := by
  apply List.pairwise_mergeSort
  · intro a b c hab hbc
    exact Std.TransCmp.isLE_trans hab hbc
  · intro a b
    have hswap : cmp b a = (cmp a b).swap := Std.OrientedCmp.eq_swap
    rw [hswap]
    cases cmp a b <;> rfl

/-- Sorting forgets the order of items that are told apart. -/
theorem mergeSort_eq_of_perm (hperm : xs.Perm ys)
    (h : ∀ a ∈ xs, ∀ b ∈ xs, cmp a b = .eq → a = b) :
    (xs.mergeSort fun a b => (cmp a b).isLE) = ys.mergeSort fun a b => (cmp a b).isLE := by
  have hx := List.mergeSort_perm xs fun a b => (cmp a b).isLE
  have hy := List.mergeSort_perm ys fun a b => (cmp a b).isLE
  refine List.Perm.eq_of_pairwise ?_ (mergeSort_pairwise cmp xs) (mergeSort_pairwise cmp ys)
    (hx.trans (hperm.trans hy.symm))
  intro a b ha hb hab hba
  exact h a (hx.mem_iff.mp ha) b (hperm.mem_iff.mpr (hy.mem_iff.mp hb))
    (Std.OrientedCmp.isLE_antisymm hab hba)

end Sorting

end TypeLineage.Text
