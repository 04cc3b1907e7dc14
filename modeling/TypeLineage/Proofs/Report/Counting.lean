import Mathlib
import TypeLineage.Proofs.Json.Order
import TypeLineage.Proofs.Number.Whole
import TypeLineage.Report.Markdown

/-! # How often words occur

    Counts are kept under the words: with each word the count under it goes one
    step on, and a word that is new begins.  So under a word stands the start of
    the word, taken on as many steps as the word occurs (`mem_counted_iff`), and
    the order of the words is not seen but in the order of the counts
    (`counted_perm`).

    Counts of missing names and counts of kinds are both of this form.  The
    counts of kinds are floating-point numbers, which are exact as long as there
    are not too many findings to be told apart by them. -/

namespace TypeLineage.Association

variable {β : Type} {start : String → β} {step : β → β} {pairs : List (String × β)}
  {words others : List String} {word key : String}

/-- The value under a word goes one step on. -/
def advance (start : String → β) (step : β → β) (pairs : List (String × β)) (word : String) :
    List (String × β) :=
  Json.assign pairs word (step ((pairs.lookup word).getD (start word)))

/-- The values after some words. -/
def counted (start : String → β) (step : β → β) (words : List String) : List (String × β) :=
  words.foldl (advance start step) []

theorem lookup_advance (pairs : List (String × β)) (word key : String) :
    (advance start step pairs word).lookup key
      = if key = word then some (step ((pairs.lookup word).getD (start word)))
        else pairs.lookup key :=
  Json.lookup_assign pairs word key _

/-- A word that does not come keeps its value. -/
theorem lookup_foldl_of_not_mem (h : key ∉ words) (pairs : List (String × β)) :
    (words.foldl (advance start step) pairs).lookup key = pairs.lookup key := by
  induction words generalizing pairs with
  | nil => rfl
  | cons word words ih =>
      rw [List.mem_cons, not_or] at h
      rw [List.foldl_cons, ih h.2, lookup_advance, if_neg h.1]

/-- The value of a word has gone as many steps as the word came. -/
theorem lookup_foldl_of_mem (h : key ∈ words) (pairs : List (String × β)) :
    (words.foldl (advance start step) pairs).lookup key
      = some (step^[words.count key] ((pairs.lookup key).getD (start key))) := by
  induction words generalizing pairs with
  | nil => exact nomatch h
  | cons word words ih =>
      rw [List.foldl_cons]
      by_cases hmem : key ∈ words
      · rw [ih hmem, lookup_advance]
        by_cases hkey : key = word
        · subst hkey
          rw [if_pos rfl, List.count_cons_self, Function.iterate_succ_apply, Option.getD_some]
        · rw [if_neg hkey, List.count_cons_of_ne (Ne.symm hkey)]
      · obtain rfl := (List.mem_cons.mp h).resolve_right hmem
        rw [lookup_foldl_of_not_mem hmem, lookup_advance, if_pos rfl, List.count_cons_self,
          List.count_eq_zero_of_not_mem hmem]
        rfl

theorem nodup_counted (words : List String) : ((counted start step words).map (·.1)).Nodup := by
  unfold counted
  suffices ∀ pairs : List (String × β), (pairs.map (·.1)).Nodup →
      ((words.foldl (advance start step) pairs).map (·.1)).Nodup from this [] List.nodup_nil
  induction words with
  | nil => exact fun _ h => h
  | cons word words ih =>
      intro pairs h
      refine ih _ ?_
      unfold advance
      rw [Json.map_fst_assign]
      exact nodup_extended h word

/-- **What is counted**: the words that came, each taken on as many steps as it
    occurs. -/
theorem mem_counted_iff {p : String × β} :
    p ∈ counted start step words ↔ p.1 ∈ words ∧ p.2 = step^[words.count p.1] (start p.1) := by
  rw [← lookup_eq_some_iff_mem (nodup_counted words)]
  unfold counted
  by_cases h : p.1 ∈ words
  · rw [lookup_foldl_of_mem h, Option.some.injEq]
    exact ⟨fun heq => ⟨h, heq.symm⟩, fun heq => heq.2.symm⟩
  · rw [lookup_foldl_of_not_mem h]
    exact ⟨nofun, fun heq => absurd heq.1 h⟩

/-- The order of the words does not matter. -/
theorem counted_perm (h : words.Perm others) :
    (counted start step words).Perm (counted start step others) := by
  rw [List.perm_ext_iff_of_nodup (nodup_counted words).of_map (nodup_counted others).of_map]
  intro p
  rw [mem_counted_iff, mem_counted_iff, h.mem_iff, h.count_eq]

end TypeLineage.Association

/-! ## Missing names -/

namespace TypeLineage.Markdown

theorem bump_eq_advance (counts : List (String × Int)) (label : String) :
    tally.bump counts label = Association.advance (fun _ => 0) (· + 1) counts label := by
  induction counts with
  | nil => rfl
  | cons pair rest ih =>
      obtain ⟨l, n⟩ := pair
      unfold Association.advance at ih ⊢
      rw [tally.bump, Json.assign, ih, Association.lookup_cons_ite]
      by_cases h : l = label
      · rw [if_pos h, if_pos h, if_pos h.symm, Option.getD_some, h]
      · rw [if_neg h, if_neg h, if_neg (Ne.symm h)]

theorem tally_eq_counted (labels : List String) :
    tally labels = Association.counted (fun _ => 0) (· + 1) labels := by
  unfold tally Association.counted
  exact congrArg (labels.foldl · []) (funext₂ bump_eq_advance)

/-- A tally holds the labels with how often each occurs. -/
theorem mem_tally_iff {labels : List String} {p : String × Int} :
    p ∈ tally labels ↔ p.1 ∈ labels ∧ p.2 = labels.count p.1 := by
  have hsteps : (fun n : Int => n + 1)^[labels.count p.1] 0 = labels.count p.1 := by
    simp [add_right_iterate]
  rw [tally_eq_counted, Association.mem_counted_iff, hsteps]

theorem nodup_tally (labels : List String) : ((tally labels).map (·.1)).Nodup := by
  rw [tally_eq_counted]
  exact Association.nodup_counted labels

theorem tally_perm {labels others : List String} (h : labels.Perm others) :
    (tally labels).Perm (tally others) := by
  rw [tally_eq_counted, tally_eq_counted]
  exact Association.counted_perm h

end TypeLineage.Markdown

/-! ## Counts by word -/

namespace TypeLineage.Counts

variable {words others : List String} {word : String} {n : Nat}

theorem go_eq_advance (counts : Counts) (word : String) (amount : JsonNumber) :
    increase.go word amount counts
      = Association.advance Count.initial (·.add amount) counts word := by
  induction counts with
  | nil => rfl
  | cons pair rest ih =>
      obtain ⟨w, c⟩ := pair
      unfold Association.advance at ih ⊢
      rw [increase.go, Json.assign, ih, Association.lookup_cons_ite]
      by_cases h : w = word
      · rw [if_pos h, if_pos h, if_pos h.symm, Option.getD_some, h]
      · rw [if_neg h, if_neg h, if_neg (Ne.symm h)]

theorem ofWords_eq_counted (words : List String) :
    ofWords words = Association.counted Count.initial (·.add (.int 1))
      (words.filter (· ≠ parentName)) := by
  unfold ofWords Association.counted
  suffices ∀ counts : Counts, words.foldl (fun counts word => counts.increase word (.int 1)) counts
      = (words.filter (· ≠ parentName)).foldl
          (Association.advance Count.initial (·.add (.int 1))) counts from this []
  induction words with
  | nil => exact fun _ => rfl
  | cons word words ih =>
      intro counts
      rw [List.foldl_cons, List.filter_cons]
      by_cases h : word = parentName
      · rw [increase, if_pos h, ih, if_neg (by simp [h])]
      · rw [increase, if_neg h, ih, if_pos (by simp [h]), List.foldl_cons, go_eq_advance]

theorem nodup_ofWords (words : List String) : ((ofWords words).map (·.1)).Nodup := by
  rw [ofWords_eq_counted]
  exact Association.nodup_counted _

theorem keys_ofWords_subset (words : List String) : (ofWords words).map (·.1) ⊆ words := by
  intro word h
  obtain ⟨p, hp, rfl⟩ := List.mem_map.mp h
  rw [ofWords_eq_counted, Association.mem_counted_iff] at hp
  exact List.mem_of_mem_filter hp.1

theorem ofWords_perm (h : words.Perm others) : (ofWords words).Perm (ofWords others) := by
  rw [ofWords_eq_counted, ofWords_eq_counted]
  exact Association.counted_perm (h.filter _)

/-- The word is no name that objects give a meaning of their own. -/
def Ordinary (word : String) : Prop := word ≠ parentName ∧ Count.initial word = .number (.int 0)

instance (word : String) : Decidable (Ordinary word) :=
  inferInstanceAs (Decidable (word ≠ parentName ∧ Count.initial word = .number (.int 0)))

theorem iterate_add_one (h : n < JsonNumber.safeLimit) :
    (Count.add · (.int 1))^[n] (.number (.int 0)) = .number (.int n) := by
  induction n with
  | zero => rfl
  | succ n ih =>
      rw [Function.iterate_succ_apply', ih (Nat.lt_of_succ_lt h)]
      exact congrArg Count.number (JsonNumber.add_natCast h)

/-- Ordinary words are counted exactly. -/
theorem mem_ofWords_iff {p : String × Count} (hwords : ∀ w ∈ words, Ordinary w)
    (hlength : words.length < JsonNumber.safeLimit) :
    p ∈ ofWords words ↔ p.1 ∈ words ∧ p.2 = .number (.int (words.count p.1)) := by
  have hall : words.filter (· ≠ parentName) = words :=
    List.filter_eq_self.mpr fun w hw => decide_eq_true (hwords w hw).1
  rw [ofWords_eq_counted, hall, Association.mem_counted_iff]
  refine and_congr_right fun hp => ?_
  rw [(hwords _ hp).2, iterate_add_one (Nat.lt_of_le_of_lt List.count_le_length hlength)]

end TypeLineage.Counts
