import Mathlib.Data.List.Sort
import Mathlib.Order.Defs.Unbundled
import TypeLineage.Text.CodeUnits

/-! # The order of code units

    `codeUnits` is injective: a character below the surrogates or above them
    is its own unit, any other is a pair of surrogates, and no first unit of
    one kind is a first unit of the other.  So `precedes` is a strict total
    order on texts, of which `compareUnits` is the comparison, and a list sorted
    by a text that no two of its items share is the only ascending list of those
    items, whatever order they came in.

    What a stable sort promises of its outcome says nothing of how it sorts: no
    item is lost or comes after a greater one, and items that are not told apart
    stand as they came (`IsSorting`).  One list alone keeps the promise
    (`IsSorting.eq`), so whatever sorts by the comparison of texts gives what
    `sortByUnits` gives (`isSorting_iff`). -/

namespace TypeLineage.Text

/-- A character is no surrogate. -/
theorem toNat_not_surrogate (c : Char) :
    c.toNat < 0xD800 ∨ (0xDFFF < c.toNat ∧ c.toNat < 0x110000) :=
  c.valid

/-- The encoding of a character tells where it ends. -/
theorem unitsOf_append_inj {c d : Char} {s t : List Nat}
    (h : unitsOf c ++ s = unitsOf d ++ t) : c = d ∧ s = t := by
  have hc := toNat_not_surrogate c
  have hd := toNat_not_surrogate d
  unfold unitsOf at h
  by_cases hcl : c.toNat < 0x10000
  · by_cases hdl : d.toNat < 0x10000
    · rw [if_pos hcl, if_pos hdl] at h
      obtain ⟨hu, hst⟩ := List.cons.inj h
      exact ⟨Char.toNat_inj.mp hu, hst⟩
    · -- one unit against a leading surrogate
      rw [if_pos hcl, if_neg hdl] at h
      have hu : c.toNat = 0xD800 + (d.toNat - 0x10000) / 0x400 :=
        (List.cons.inj h).1
      omega
  · by_cases hdl : d.toNat < 0x10000
    · rw [if_neg hcl, if_pos hdl] at h
      have hu : 0xD800 + (c.toNat - 0x10000) / 0x400 = d.toNat :=
        (List.cons.inj h).1
      omega
    · rw [if_neg hcl, if_neg hdl] at h
      obtain ⟨hu, hrest⟩ := List.cons.inj h
      obtain ⟨hv, hst⟩ := List.cons.inj hrest
      exact ⟨Char.toNat_inj.mp (by omega), hst⟩

/-- Different lists of characters have different units. -/
theorem flatMap_unitsOf_inj :
    ∀ {cs ds : List Char}, cs.flatMap unitsOf = ds.flatMap unitsOf → cs = ds := by
  intro cs
  induction cs with
  | nil =>
      intro ds h
      cases ds with
      | nil => rfl
      | cons d ds =>
          rw [List.flatMap_nil, List.flatMap_cons] at h
          unfold unitsOf at h
          split at h <;> exact nomatch h
  | cons c cs ih =>
      intro ds h
      cases ds with
      | nil =>
          rw [List.flatMap_nil, List.flatMap_cons] at h
          unfold unitsOf at h
          split at h <;> exact nomatch h
      | cons d ds =>
          rw [List.flatMap_cons, List.flatMap_cons] at h
          obtain ⟨hcd, hrest⟩ := unitsOf_append_inj h
          rw [hcd, ih hrest]

/-- Different texts have different sequences of code units. -/
theorem codeUnits_injective {a b : String} (h : codeUnits a = codeUnits b) : a = b :=
  String.toList_inj.mp (flatMap_unitsOf_inj h)

/-! ## The strict order -/

theorem precedes_iff {a b : String} : precedes a b = true ↔ codeUnits a < codeUnits b :=
  decide_eq_true_iff

theorem precedes_irrefl (a : String) : ¬ precedes a a = true := by
  rw [precedes_iff]
  exact List.lt_irrefl _

theorem precedes_trans {a b c : String}
    (hab : precedes a b = true) (hbc : precedes b c = true) : precedes a c = true := by
  rw [precedes_iff] at *
  exact List.lt_trans hab hbc

theorem precedes_asymm {a b : String} (h : precedes a b = true) : ¬ precedes b a = true := by
  intro h'
  exact precedes_irrefl a (precedes_trans h h')

/-- Of two different texts one comes first. -/
theorem precedes_total {a b : String} (h : a ≠ b) :
    precedes a b = true ∨ precedes b a = true := by
  rw [precedes_iff, precedes_iff]
  rcases Classical.em (codeUnits a < codeUnits b) with hlt | hge
  · exact Or.inl hlt
  · refine Or.inr ((List.le_iff_lt_or_eq.mp (List.not_lt.mp hge)).resolve_right ?_)
    intro heq
    exact h (codeUnits_injective heq.symm)

theorem notAfter_iff {a b : String} : notAfter a b = true ↔ precedes a b = true ∨ a = b := by
  unfold notAfter
  rw [Bool.not_eq_true', ← Bool.not_eq_true]
  constructor
  · intro h
    by_cases hab : a = b
    · exact Or.inr hab
    · exact Or.inl ((precedes_total hab).resolve_right h)
  · rintro (h | rfl)
    · exact precedes_asymm h
    · exact precedes_irrefl a

theorem notAfter_trans {a b c : String}
    (hab : notAfter a b = true) (hbc : notAfter b c = true) : notAfter a c = true := by
  rw [notAfter_iff] at *
  rcases hab with hab | rfl
  · rcases hbc with hbc | rfl
    · exact Or.inl (precedes_trans hab hbc)
    · exact Or.inl hab
  · exact hbc

theorem notAfter_antisymm {a b : String}
    (hab : notAfter a b = true) (hba : notAfter b a = true) : a = b := by
  rcases notAfter_iff.mp hab with h | h
  · exact ((notAfter_iff.mp hba).resolve_left (precedes_asymm h)).symm
  · exact h

theorem notAfter_total (a b : String) : (notAfter a b || notAfter b a) = true := by
  rw [Bool.or_eq_true, notAfter_iff, notAfter_iff]
  by_cases hab : a = b
  · exact Or.inl (Or.inr hab)
  · rcases precedes_total hab with h | h
    · exact Or.inl (Or.inl h)
    · exact Or.inr (Or.inl h)

/-! ## The comparison of texts -/

section Comparison

variable {a b : String}

/-- A comparison of texts is that of a strict total order, the lexicographic
    order of their code units. -/
structure IsUnitOrder (cmp : String → String → Ordering) : Prop where
  strict : IsStrictTotalOrder String fun a b => cmp a b = .lt
  swap : ∀ a b, cmp b a = (cmp a b).swap
  eq_iff : ∀ a b, cmp a b = .eq ↔ a = b
  lex : ∀ a b, cmp a b = .lt ↔ List.Lex (· < ·) (codeUnits a) (codeUnits b)

theorem compareUnits_eq_lt_iff : compareUnits a b = .lt ↔ precedes a b = true := by
  unfold compareUnits
  by_cases hab : precedes a b = true
  · rw [if_pos hab]
    exact iff_of_true rfl hab
  · rw [if_neg hab]
    refine iff_of_false ?_ hab
    split <;> exact fun h => nomatch h

theorem compareUnits_eq_gt_iff : compareUnits a b = .gt ↔ precedes b a = true := by
  unfold compareUnits
  by_cases hab : precedes a b = true
  · rw [if_pos hab]
    exact iff_of_false (fun h => nomatch h) (precedes_asymm hab)
  · rw [if_neg hab]
    by_cases hba : precedes b a = true
    · rw [if_pos hba]
      exact iff_of_true rfl hba
    · rw [if_neg hba]
      exact iff_of_false (fun h => nomatch h) hba

/-- Texts are told apart by the comparison unless they are one. -/
theorem compareUnits_eq_eq_iff : compareUnits a b = .eq ↔ a = b := by
  constructor
  · intro h
    by_contra hne
    rcases precedes_total hne with hab | hba
    · exact nomatch (compareUnits_eq_lt_iff.mpr hab).symm.trans h
    · exact nomatch (compareUnits_eq_gt_iff.mpr hba).symm.trans h
  · rintro rfl
    unfold compareUnits
    rw [if_neg (precedes_irrefl a), if_neg (precedes_irrefl a)]

theorem compareUnits_swap (a b : String) : compareUnits b a = (compareUnits a b).swap := by
  cases h : compareUnits a b with
  | lt => exact compareUnits_eq_gt_iff.mpr (compareUnits_eq_lt_iff.mp h)
  | eq => exact compareUnits_eq_eq_iff.mpr (compareUnits_eq_eq_iff.mp h).symm
  | gt => exact compareUnits_eq_lt_iff.mpr (compareUnits_eq_gt_iff.mp h)

theorem isLE_compareUnits (a b : String) : (compareUnits a b).isLE = notAfter a b := by
  unfold notAfter
  by_cases hba : precedes b a = true
  · rw [compareUnits_eq_gt_iff.mpr hba, hba]
    rfl
  · rw [Bool.eq_false_iff.mpr hba, Bool.not_false, Ordering.isLE_iff_ne_gt]
    exact fun h => hba (compareUnits_eq_gt_iff.mp h)

theorem isUnitOrder_compareUnits : IsUnitOrder compareUnits where
  strict :=
    { trichotomous := fun a b hab hba => by
        rw [compareUnits_eq_lt_iff] at hab hba
        by_contra hne
        exact (precedes_total hne).elim hab hba
      irrefl := fun a h => precedes_irrefl a (compareUnits_eq_lt_iff.mp h)
      trans := fun a b c hab hbc => by
        rw [compareUnits_eq_lt_iff] at *
        exact precedes_trans hab hbc }
  swap := compareUnits_swap
  eq_iff _ _ := compareUnits_eq_eq_iff
  lex _ _ := compareUnits_eq_lt_iff.trans precedes_iff

/-- A character outside the basic plane comes before one at the end of it, though
    its number is greater. -/
example : compareUnits "😀" "\uffee" = .lt ∧ "\uffee" < "😀" := by
  decide

end Comparison

/-! ## Ascending lists -/

section Sorting

variable {α : Type} {key : α → String} {xs ys : List α}

/-- Each item comes strictly before all later ones, by a text they carry. -/
def Ascending (key : α → String) (xs : List α) : Prop :=
  xs.Pairwise fun a b => precedes (key a) (key b) = true

theorem Ascending.nodup (h : Ascending key xs) : xs.Nodup := by
  refine List.Pairwise.imp ?_ h
  rintro a b hab rfl
  exact precedes_irrefl _ hab

/-- An ascending list is determined by what is in it. -/
theorem Ascending.ext (hx : Ascending key xs) (hy : Ascending key ys)
    (h : ∀ a, a ∈ xs ↔ a ∈ ys) : xs = ys := by
  have hperm : xs.Perm ys := (List.perm_ext_iff_of_nodup hx.nodup hy.nodup).mpr h
  refine hperm.eq_of_pairwise ?_ hx hy
  intro a b _ _ hab hba
  exact absurd hba (precedes_asymm hab)

theorem sortByUnits_perm (key : α → String) (xs : List α) : (sortByUnits key xs).Perm xs :=
  List.mergeSort_perm xs _

@[simp] theorem mem_sortByUnits {a : α} : a ∈ sortByUnits key xs ↔ a ∈ xs :=
  (sortByUnits_perm key xs).mem_iff

/-- No item of a sorted list comes after a later one. -/
theorem sortByUnits_pairwise (key : α → String) (xs : List α) :
    (sortByUnits key xs).Pairwise fun a b => notAfter (key a) (key b) = true := by
  unfold sortByUnits
  apply List.pairwise_mergeSort
  · intro a b c hab hbc
    exact notAfter_trans hab hbc
  · intro a b
    exact notAfter_total (key a) (key b)

/-- Where no text is carried twice, the sorted list ascends strictly. -/
theorem sortByUnits_ascending (h : (xs.map key).Nodup) : Ascending key (sortByUnits key xs) := by
  -- sorting leaves open what comes first of equal texts, and no two are equal
  have hle := sortByUnits_pairwise key xs
  have hne : (sortByUnits key xs).Pairwise fun a b => key a ≠ key b :=
    List.pairwise_map.mp (((sortByUnits_perm key xs).map key).nodup_iff.mpr h)
  refine List.Pairwise.imp ?_ (hle.and hne)
  rintro a b ⟨hab, hdiff⟩
  exact (notAfter_iff.mp hab).resolve_right hdiff

/-- Sorting forgets the order in which items with different texts came. -/
theorem sortByUnits_eq_of_perm (hperm : xs.Perm ys) (h : (xs.map key).Nodup) :
    sortByUnits key xs = sortByUnits key ys := by
  have hy : (ys.map key).Nodup := (hperm.map key).nodup_iff.mp h
  refine (sortByUnits_ascending h).ext (sortByUnits_ascending hy) ?_
  intro a
  rw [mem_sortByUnits, mem_sortByUnits]
  exact hperm.mem_iff

/-- Items may be replaced before they are sorted or afterwards. -/
theorem sortByUnits_map {β : Type} (key : β → String) (g : α → β) (xs : List α) :
    sortByUnits key (xs.map g) = (sortByUnits (fun a => key (g a)) xs).map g := by
  unfold sortByUnits
  refine (List.map_mergeSort ?_).symm
  intro a _ b _
  rfl

/-- **The sort is stable**: the items with one text stay in their order. -/
theorem filter_sortByUnits (key : α → String) (text : String) (xs : List α) :
    (sortByUnits key xs).filter (key · = text) = xs.filter (key · = text) := by
  have hkey : ∀ a ∈ xs.filter (key · = text), key a = text :=
    fun a ha => of_decide_eq_true (List.mem_filter.mp ha).2
  -- among equal texts none comes after another
  have hsorted : (xs.filter (key · = text)).Pairwise fun a b => notAfter (key a) (key b) = true :=
    List.pairwise_of_forall_mem_list fun a ha b hb => by
      rw [notAfter_iff, hkey a ha, hkey b hb]
      exact Or.inr rfl
  have hkept : (xs.filter (key · = text)).Sublist (sortByUnits key xs) := by
    unfold sortByUnits
    refine List.sublist_mergeSort ?_ ?_ hsorted List.filter_sublist
    · intro a b c hab hbc
      exact notAfter_trans hab hbc
    · intro a b
      exact notAfter_total (key a) (key b)
  have hsub := hkept.filter (key · = text)
  rw [List.filter_filter] at hsub
  simp only [Bool.and_self] at hsub
  refine (hsub.eq_of_length ?_).symm
  exact ((sortByUnits_perm key xs).filter _).length_eq.symm

end Sorting

theorem pairwise_sorted (xs : List String) :
    (sorted xs).Pairwise fun a b => notAfter a b = true :=
  sortByUnits_pairwise id xs

/-- Texts that stand in their order stay as they are. -/
theorem sorted_eq_self {xs : List String} (h : xs.Pairwise fun a b => notAfter a b = true) :
    sorted xs = xs :=
  List.mergeSort_of_pairwise h

/-- Texts may be taken away before the others are sorted or afterwards. -/
theorem sorted_filter (p : String → Bool) (xs : List String) :
    sorted (xs.filter p) = (sorted xs).filter p := by
  have hperm : (sorted (xs.filter p)).Perm ((sorted xs).filter p) :=
    (sortByUnits_perm id _).trans ((sortByUnits_perm id xs).filter p).symm
  refine hperm.eq_of_pairwise ?_ (pairwise_sorted _) ((pairwise_sorted xs).filter p)
  exact fun a b _ _ hab hba => notAfter_antisymm hab hba

/-- Of fewer texts the sorted list is part of the sorted list of more. -/
theorem sorted_sublist {xs ys : List String} (h : xs.Sublist ys) :
    (sorted xs).Sublist (sorted ys) := by
  have : Std.Antisymm fun a b => notAfter a b = true := ⟨fun _ _ => notAfter_antisymm⟩
  have hsubperm : (sorted xs).Subperm (sorted ys) :=
    ((sortByUnits_perm id xs).subperm.trans h.subperm).trans (sortByUnits_perm id ys).symm.subperm
  exact List.sublist_of_subperm_of_pairwise hsubperm (pairwise_sorted xs) (pairwise_sorted ys)

/-! ## What a stable sort promises -/

section Promise

variable {α : Type} {cmp : α → α → Ordering} {xs ys zs : List α} {key : α → String}

/-- The second list is the first one sorted by the comparison, with the items
    that are not told apart in the order they came. -/
structure IsSorting (cmp : α → α → Ordering) (xs ys : List α) : Prop where
  perm : ys.Perm xs
  pairwise : ys.Pairwise fun a b => (cmp a b).isLE = true
  stable : ∀ a, ys.filter (cmp a · = .eq) = xs.filter (cmp a · = .eq)

/-- No item of a sorted list comes before the first one. -/
theorem isLE_of_mem_cons [Std.OrientedCmp cmp] {y z : α}
    (h : (y :: ys).Pairwise fun a b => (cmp a b).isLE = true) (hz : z ∈ y :: ys) :
    (cmp y z).isLE = true := by
  rcases List.mem_cons.mp hz with rfl | hz
  · have hself : cmp z z = .eq := Std.ReflCmp.compare_self
    rw [hself]
    rfl
  · exact (List.pairwise_cons.mp h).1 z hz

/-- An item stands among those of its own kind. -/
theorem mem_of_filter_eq [Std.OrientedCmp cmp] {a : α}
    (h : ys.filter (cmp a · = .eq) = zs.filter (cmp a · = .eq)) (ha : a ∈ ys) : a ∈ zs := by
  have hkind : a ∈ ys.filter (cmp a · = .eq) :=
    List.mem_filter.mpr ⟨ha, decide_eq_true Std.ReflCmp.compare_self⟩
  exact List.mem_of_mem_filter (h ▸ hkind)

theorem head_eq_of_filter_eq {p : α → Bool} {y z : α}
    (h : (y :: ys).filter p = (z :: zs).filter p) (hy : p y = true) (hz : p z = true) : y = z := by
  rw [List.filter_cons_of_pos hy, List.filter_cons_of_pos hz] at h
  exact (List.cons.inj h).1

theorem filter_eq_of_cons {p : α → Bool} {y : α}
    (h : (y :: ys).filter p = (y :: zs).filter p) : ys.filter p = zs.filter p := by
  by_cases hy : p y = true
  · rw [List.filter_cons_of_pos hy, List.filter_cons_of_pos hy] at h
    exact (List.cons.inj h).2
  · rw [List.filter_cons_of_neg hy, List.filter_cons_of_neg hy] at h
    exact h

/-- Sorted lists are equal if they have the items of each kind in the same
    order. -/
theorem eq_of_filter_eq [Std.OrientedCmp cmp]
    (hys : ys.Pairwise fun a b => (cmp a b).isLE = true)
    (hzs : zs.Pairwise fun a b => (cmp a b).isLE = true)
    (hkinds : ∀ a, ys.filter (cmp a · = .eq) = zs.filter (cmp a · = .eq)) : ys = zs := by
  induction ys generalizing zs with
  | nil =>
      refine (List.eq_nil_iff_forall_not_mem.mpr fun z hz => ?_).symm
      exact nomatch mem_of_filter_eq (hkinds z).symm hz
  | cons y ys ih =>
      cases zs with
      | nil => exact nomatch mem_of_filter_eq (hkinds y) List.mem_cons_self
      | cons z zs =>
          -- neither first item comes after the other, so they are of one kind
          have hz := mem_of_filter_eq (hkinds z).symm List.mem_cons_self
          have hy := mem_of_filter_eq (hkinds y) List.mem_cons_self
          have hkind : cmp y z = .eq :=
            Std.OrientedCmp.isLE_antisymm (isLE_of_mem_cons hys hz) (isLE_of_mem_cons hzs hy)
          -- and each is the first one of that kind
          have hself : cmp y y = .eq := Std.ReflCmp.compare_self
          obtain rfl := head_eq_of_filter_eq (hkinds y) (decide_eq_true hself)
            (decide_eq_true hkind)
          have hrest := ih hys.of_cons hzs.of_cons fun a => filter_eq_of_cons (hkinds a)
          rw [hrest]

/-- **One list alone is the sorted one.** -/
theorem IsSorting.eq [Std.OrientedCmp cmp] (hy : IsSorting cmp xs ys) (hz : IsSorting cmp xs zs) :
    ys = zs :=
  eq_of_filter_eq hy.pairwise hz.pairwise fun a => (hy.stable a).trans (hz.stable a).symm

theorem orientedCmp_on (key : α → String) :
    Std.OrientedCmp fun a b => compareUnits (key a) (key b) :=
  ⟨fun {a b} => compareUnits_swap (key b) (key a)⟩

theorem isSorting_sortByUnits (key : α → String) (xs : List α) :
    IsSorting (fun a b => compareUnits (key a) (key b)) xs (sortByUnits key xs) where
  perm := sortByUnits_perm key xs
  pairwise := (sortByUnits_pairwise key xs).imp fun {a b} h =>
    (isLE_compareUnits (key a) (key b)).trans h
  stable a := by
    have hkind : (fun b => decide (compareUnits (key a) (key b) = .eq))
        = fun b => decide (key b = key a) := by
      funext b
      exact decide_eq_decide.mpr (compareUnits_eq_eq_iff.trans eq_comm)
    rw [hkind]
    exact filter_sortByUnits key (key a) xs

/-- Sorted by the code units of a text is what `sortByUnits` gives, and nothing
    else. -/
theorem isSorting_iff :
    IsSorting (fun a b => compareUnits (key a) (key b)) xs ys ↔ sortByUnits key xs = ys := by
  have := orientedCmp_on key
  constructor
  · exact (isSorting_sortByUnits key xs).eq
  · rintro rfl
    exact isSorting_sortByUnits key xs

/-- There is a sorted list with a property exactly if the one that `sortByUnits`
    gives has it. -/
theorem exists_isSorting_iff {p : List α → Prop} :
    (∃ ys, IsSorting (fun a b => compareUnits (key a) (key b)) xs ys ∧ p ys)
      ↔ p (sortByUnits key xs) := by
  constructor
  · rintro ⟨ys, hys, h⟩
    rwa [isSorting_iff.mp hys]
  · exact fun h => ⟨_, isSorting_sortByUnits key xs, h⟩

theorem isSorting_sorted_iff {texts listed : List String} :
    IsSorting compareUnits texts listed ↔ sorted texts = listed :=
  isSorting_iff

theorem exists_isSorting_sorted_iff {texts : List String} {p : List String → Prop} :
    (∃ ys, IsSorting compareUnits texts ys ∧ p ys) ↔ p (sorted texts) :=
  exists_isSorting_iff

end Promise

end TypeLineage.Text
