import Mathlib.Data.List.Basic
import Mathlib.Data.List.Induction
import TypeLineage.Proofs.Relation.Index

/-! # What an index holds after any requests

    `Stands` reads off a history which pairs are to be held: those that were
    added after everything was last forgotten and not removed since.  Every
    request changes what stands as it changes the index, so a run of any
    length holds exactly the pairs that stand (`run_exact`).

    A bucket is made for its first dependent and dropped with its last one.
    That no bucket is ever empty is what makes a removal without a pair leave
    the index as it is, and what makes the targets those of the pairs. -/

namespace TypeLineage.RelationIndex

variable {requests : List Request} {request : Request} {r : RelationIndex} {t d : String}

/-! ## Histories -/

/-- The pair is added after everything was last forgotten, and is not removed
    after it was last added. -/
def Stands (requests : List Request) (t d : String) : Prop :=
  ∃ before later, requests = before ++ .add t d :: later
    ∧ .add t d ∉ later ∧ .remove t d ∉ later ∧ .clear ∉ later

theorem not_stands_nil : ¬ Stands [] t d := by
  rintro ⟨before, later, h, -⟩
  simp at h

/-- One more request: it adds the pair, or it leaves standing what stood. -/
theorem stands_concat :
    Stands (requests ++ [request]) t d
      ↔ request = .add t d
        ∨ (Stands requests t d ∧ request ≠ .remove t d ∧ request ≠ .clear) := by
  constructor
  · rintro ⟨before, later, heq, hadd, hremove, hclear⟩
    -- the pair was last added by the last request or by one before it
    rcases List.eq_nil_or_concat' later with rfl | ⟨later, last, rfl⟩
    · obtain ⟨-, hlast⟩ := List.append_inj' heq rfl
      exact Or.inl (List.singleton_inj.mp hlast)
    · rw [← List.cons_append, ← List.append_assoc] at heq
      obtain ⟨hfront, hlast⟩ := List.append_inj' heq rfl
      obtain rfl := List.singleton_inj.mp hlast
      simp only [List.mem_append, List.mem_singleton, not_or] at hadd hremove hclear
      exact Or.inr ⟨⟨before, later, hfront, hadd.1, hremove.1, hclear.1⟩,
        Ne.symm hremove.2, Ne.symm hclear.2⟩
  · intro h
    by_cases hlast : request = .add t d
    · exact ⟨requests, [], by rw [hlast], by simp⟩
    · obtain ⟨⟨before, later, rfl, hadd, hremove, hclear⟩, hkept, hnotCleared⟩ :=
        h.resolve_left hlast
      refine ⟨before, later ++ [request], by simp, ?_, ?_, ?_⟩
      · simp [hadd, Ne.symm hlast]
      · simp [hremove, Ne.symm hkept]
      · simp [hclear, Ne.symm hnotCleared]

/-! ## One request -/

theorem dependentsOf_empty : empty.dependentsOf t = [] := rfl

theorem WellFormed.after (h : r.WellFormed) (request : Request) : (r.after request).WellFormed := by
  cases request with
  | add t d => exact h.add t d
  | remove t d => exact h.remove t d
  | ask t => exact h
  | clear => exact wellFormed_empty

/-- What is held after a request, as `stands_concat` says what stands. -/
theorem WellFormed.mem_dependentsOf_after (h : r.WellFormed) :
    d ∈ (r.after request).dependentsOf t
      ↔ request = .add t d
        ∨ (d ∈ r.dependentsOf t ∧ request ≠ .remove t d ∧ request ≠ .clear) := by
  cases request with
  | add t' d' =>
      show d ∈ (r.add t' d').dependentsOf t ↔ _
      rw [mem_dependentsOf_add, or_comm]
      simp [eq_comm]
  | remove t' d' =>
      show d ∈ (r.remove t' d').dependentsOf t ↔ _
      rw [h.mem_dependentsOf_remove]
      simp [eq_comm]
  | ask t' =>
      show d ∈ r.dependentsOf t ↔ _
      simp
  | clear =>
      show d ∈ empty.dependentsOf t ↔ _
      simp [dependentsOf_empty]

/-! ## Requests that change nothing -/

theorem removeFrom_of_not_mem {bs : List (String × List String)}
    (hbuckets : ∀ b ∈ bs, IsBucket b.2) (h : d ∉ (bs.lookup t).getD []) :
    removeFrom t d bs = bs := by
  induction bs with
  | nil => rfl
  | cons hd rest ih =>
      obtain ⟨u, names⟩ := hd
      rw [Association.lookup_cons_ite] at h
      rw [removeFrom]
      by_cases hu : u = t
      · rw [if_pos hu.symm, Option.getD_some] at h
        have hkept : names.filter (· ≠ d) = names := by
          rw [List.filter_eq_self]
          intro n hn
          exact decide_eq_true fun heq => h (heq ▸ hn)
        rw [if_pos hu, hkept]
        -- the bucket was not empty before
        cases names with
        | nil => exact absurd rfl (hbuckets _ List.mem_cons_self).1
        | cons n names => rfl
      · rw [if_neg (Ne.symm hu)] at h
        rw [if_neg hu, ih (fun b hb => hbuckets b (List.mem_cons_of_mem _ hb)) h]

/-- Removing a pair that is not there leaves the index as it is, with all its
    buckets in their order. -/
theorem WellFormed.remove_of_not_mem (h : r.WellFormed) (hd : d ∉ r.dependentsOf t) :
    r.remove t d = r := by
  obtain ⟨bs⟩ := r
  exact congrArg RelationIndex.mk (removeFrom_of_not_mem h.isBucket hd)

theorem WellFormed.mem_targets_iff_ne_nil (h : r.WellFormed) :
    t ∈ r.targets ↔ r.dependentsOf t ≠ [] := by
  rw [h.mem_targets_iff]
  constructor
  · rintro ⟨d, hd⟩ hnil
    rw [hnil] at hd
    exact nomatch hd
  · exact List.exists_mem_of_ne_nil _

/-! ## Runs -/

theorem run_concat (requests : List Request) (request : Request) :
    run (requests ++ [request]) = (run requests).after request := by
  unfold run
  rw [List.foldl_append]
  rfl

theorem wellFormed_run (requests : List Request) : (run requests).WellFormed := by
  induction requests using List.reverseRecOn with
  | nil => exact wellFormed_empty
  | append_singleton requests request ih =>
      rw [run_concat]
      exact ih.after request

theorem mem_dependentsOf_run (requests : List Request) (t d : String) :
    d ∈ (run requests).dependentsOf t ↔ Stands requests t d := by
  induction requests using List.reverseRecOn with
  | nil =>
      constructor
      · intro h
        exact nomatch h
      · intro h
        exact absurd h not_stands_nil
  | append_singleton requests request ih =>
      rw [run_concat, (wellFormed_run requests).mem_dependentsOf_after, stands_concat, ih]

/-- **An index holds what stands** after any requests: under a target the
    dependents that were added since everything was last forgotten and not
    removed since they were last added, each once; as targets those with
    dependents, each once.  Removing a pair that is not there and asking for an
    unknown target leave it as it is. -/
theorem run_exact (requests : List Request) :
    (∀ t d, d ∈ (run requests).dependentsOf t ↔ Stands requests t d)
    ∧ (∀ t, ((run requests).dependentsOf t).Nodup)
    ∧ (∀ t, t ∈ (run requests).targets ↔ (run requests).dependentsOf t ≠ [])
    ∧ (run requests).targets.Nodup
    ∧ (∀ t d, d ∉ (run requests).dependentsOf t →
        run (requests ++ [.remove t d]) = run requests)
    ∧ (∀ t, t ∉ (run requests).targets →
        (run requests).dependentsOf t = [] ∧ run (requests ++ [.ask t]) = run requests) := by
  have hwell := wellFormed_run requests
  refine ⟨mem_dependentsOf_run requests, fun t => hwell.nodup_dependentsOf,
    fun t => hwell.mem_targets_iff_ne_nil, hwell.nodup_targets, ?_, ?_⟩
  · intro t d hd
    rw [run_concat]
    exact hwell.remove_of_not_mem hd
  · intro t ht
    refine ⟨?_, run_concat requests (.ask t)⟩
    rwa [hwell.mem_targets_iff_ne_nil, not_not] at ht

/-- A name added before everything was forgotten is there if it was added again,
    and a pair that was removed is not removed twice. -/
theorem run_exact_of_readded :
    let requests : List Request :=
      [.add "T" "a", .clear, .add "T" "b", .add "T" "a", .remove "T" "b"]
    Stands requests "T" "a"
      ∧ ¬ Stands requests "T" "b"
      ∧ run (requests ++ [.remove "T" "b"]) = run requests
      ∧ (run requests).dependentsOf "U" = [] := by
  intro requests
  obtain ⟨hstands, -, -, -, hremove, hask⟩ := run_exact requests
  have hb : "b" ∉ (run requests).dependentsOf "T" := by decide
  refine ⟨(hstands "T" "a").mp (by decide), fun h => hb ((hstands "T" "b").mpr h), ?_, ?_⟩
  · exact hremove "T" "b" hb
  · exact (hask "U" (by decide)).1

end TypeLineage.RelationIndex
