import TypeLineage.Reach

/-! # What a walk finds

    `Ends` is the walk without a bound: a queue is worked off from its front,
    and what a name newly leads to goes to its end.  A walk that ends has found
    exactly the names that one edge or more leads to from its start.

    The bound of `walk` is never felt: each step takes one name off the queue
    and each name comes onto it once, so the queue and the names that are still
    to be found together grow shorter.  For the same reason the names expanded
    are the start and then the names found, in one order. -/

namespace TypeLineage.Reach

variable {next : String → List String} {queue found result : List String}

/-- Working off the queue ends, and then these names are found. -/
inductive Ends (next : String → List String) : List String → List String → List String → Prop
  | done (found : List String) : Ends next [] found found
  | step {current : String} {queue found result : List String} :
      Ends next (queue ++ fresh found (next current)) (found ++ fresh found (next current)) result →
      Ends next (current :: queue) found result

/-- One edge. -/
def Edge (next : String → List String) (x y : String) : Prop := y ∈ next x

/-! ## New names -/

theorem mem_fresh {y : String} :
    ∀ {names found : List String}, y ∈ fresh found names ↔ y ∈ names ∧ y ∉ found := by
  intro names
  induction names with
  | nil =>
      intro found
      simp [fresh]
  | cons name names ih =>
      intro found
      rw [fresh]
      by_cases h : found.contains name = true
      · have hmem : name ∈ found := List.contains_iff_mem.mp h
        rw [if_pos h, ih, List.mem_cons]
        constructor
        · rintro ⟨hy, hnot⟩
          exact ⟨Or.inr hy, hnot⟩
        · rintro ⟨rfl | hy, hnot⟩
          · exact absurd hmem hnot
          · exact ⟨hy, hnot⟩
      · have hmem : name ∉ found := fun hin => h (List.contains_iff_mem.mpr hin)
        rw [if_neg h, List.mem_cons, ih, List.mem_cons, List.mem_cons, not_or]
        constructor
        · rintro (rfl | ⟨hy, -, hnot⟩)
          · exact ⟨Or.inl rfl, hmem⟩
          · exact ⟨Or.inr hy, hnot⟩
        · rintro ⟨hy, hnot⟩
          by_cases heq : y = name
          · exact Or.inl heq
          · exact Or.inr ⟨hy.resolve_left heq, heq, hnot⟩

theorem nodup_fresh : ∀ {names found : List String}, (fresh found names).Nodup := by
  intro names
  induction names with
  | nil => exact List.nodup_nil
  | cons name names ih =>
      intro found
      rw [fresh]
      by_cases h : found.contains name = true
      · rw [if_pos h]
        exact ih
      · rw [if_neg h, List.nodup_cons]
        exact ⟨fun hin => (mem_fresh.mp hin).2 List.mem_cons_self, ih⟩

/-- No name is found twice. -/
theorem nodup_append_fresh (names : List String) (h : found.Nodup) :
    (found ++ fresh found names).Nodup := by
  rw [List.nodup_append]
  refine ⟨h, nodup_fresh, ?_⟩
  rintro a ha b hb rfl
  exact (mem_fresh.mp hb).2 ha

/-- All that a name leads to is found once the name is expanded. -/
theorem mem_append_fresh {names : List String} {y : String} (h : y ∈ names) :
    y ∈ found ++ fresh found names := by
  by_cases hy : y ∈ found
  · exact List.mem_append_left _ hy
  · exact List.mem_append_right _ (mem_fresh.mpr ⟨h, hy⟩)

/-! ## The bound is never felt -/

/-- With a step for every name that waits or may still be found, the walk
    ends. -/
theorem walkFrom_ends {known : List String} :
    ∀ (steps : Nat) (queue found : List String),
      (∀ x, x ∈ queue ∨ x ∈ known → next x ⊆ known) → found.Nodup → found ⊆ known →
      queue.length + (known.length - found.length) ≤ steps →
      Ends next queue found (walkFrom next steps queue found).found := by
  intro steps
  induction steps with
  | zero =>
      intro queue found _ _ _ hle
      cases queue with
      | nil => exact Ends.done found
      | cons current queue =>
          rw [List.length_cons] at hle
          omega
  | succ steps ih =>
      intro queue found hknown hnd hsub hle
      cases queue with
      | nil => exact Ends.done found
      | cons current queue =>
          have hnew : fresh found (next current) ⊆ known := fun y hy =>
            hknown current (Or.inl List.mem_cons_self) (mem_fresh.mp hy).1
          have hnd' := nodup_append_fresh (next current) hnd
          have hsub' := List.append_subset.mpr ⟨hsub, hnew⟩
          -- a new name takes one from the room that is left and one step to expand
          have hroom := hnd'.length_le_of_subset hsub'
          refine Ends.step (ih _ _ (fun x hx => ?_) hnd' hsub' ?_)
          · rcases hx with hx | hx
            · rcases List.mem_append.mp hx with hq | hn
              · exact hknown x (Or.inl (List.mem_cons_of_mem _ hq))
              · exact hknown x (Or.inr (hnew hn))
            · exact hknown x (Or.inr hx)
          · rw [List.length_append] at hroom ⊢
            rw [List.length_append]
            rw [List.length_cons] at hle
            omega

theorem reachable_ends {known : List String} {bound : Nat} (start : String)
    (hknown : ∀ x, x = start ∨ x ∈ known → next x ⊆ known) (hbound : known.length ≤ bound) :
    Ends next [start] [] (reachable bound next start) := by
  refine walkFrom_ends (bound + 1) [start] [] ?_ List.nodup_nil (List.nil_subset known) ?_
  · intro x hx
    exact hknown x (hx.imp_left List.mem_singleton.mp)
  · rw [List.length_singleton, List.length_nil]
    omega

/-- The names that are expanded are those that wait and, behind them, all that
    are found from then on.  A step for each of them is enough. -/
theorem Ends.walkFrom_eq (h : Ends next queue found result) :
    ∃ later, result = found ++ later ∧ ∀ steps, queue.length + later.length ≤ steps →
      walkFrom next steps queue found = ⟨result, queue ++ later⟩ := by
  induction h with
  | done found =>
      refine ⟨[], (List.append_nil found).symm, fun steps _ => ?_⟩
      cases steps <;> rfl
  | @step current queue found result _ ih =>
      obtain ⟨later, rfl, hwalk⟩ := ih
      refine ⟨fresh found (next current) ++ later, List.append_assoc _ _ _, fun steps hle => ?_⟩
      rw [List.length_cons, List.length_append] at hle
      obtain ⟨steps, rfl⟩ : ∃ n, steps = n + 1 := ⟨steps - 1, by omega⟩
      have hrest := hwalk steps (by
        rw [List.length_append]
        omega)
      rw [walkFrom, hrest, List.append_assoc, List.append_assoc, List.cons_append]

/-- What a walk expands is its start and then what it finds. -/
theorem Ends.walk_eq {start : String} {bound : Nat} (h : Ends next [start] [] result)
    (hbound : result.length ≤ bound) : walk bound next start = ⟨result, start :: result⟩ := by
  obtain ⟨later, hlater, hwalk⟩ := h.walkFrom_eq
  rw [List.nil_append] at hlater
  subst hlater
  refine hwalk (bound + 1) ?_
  rw [List.length_singleton]
  omega

/-! ## What is found is reached -/

theorem Ends.nodup (h : Ends next queue found result) (hnd : found.Nodup) : result.Nodup := by
  induction h with
  | done found => exact hnd
  | step _ ih => exact ih (nodup_append_fresh _ hnd)

/-- What is found beyond the start is reached from a name that waited. -/
theorem Ends.sound (h : Ends next queue found result) :
    ∀ y ∈ result, y ∈ found ∨ ∃ x ∈ queue, Relation.TransGen (Edge next) x y := by
  induction h with
  | done found => exact fun y hy => Or.inl hy
  | @step current queue found result _ ih =>
      intro y hy
      rcases ih y hy with hfound | ⟨x, hx, hxy⟩
      · rcases List.mem_append.mp hfound with hf | hn
        · exact Or.inl hf
        · exact Or.inr ⟨current, List.mem_cons_self, .single (mem_fresh.mp hn).1⟩
      · rcases List.mem_append.mp hx with hq | hn
        · exact Or.inr ⟨x, List.mem_cons_of_mem _ hq, hxy⟩
        · have hstep : Edge next current x := (mem_fresh.mp hn).1
          exact Or.inr ⟨current, List.mem_cons_self, .trans (.single hstep) hxy⟩

/-! ## What is reached is found -/

/-- What is found stays found. -/
theorem Ends.subset (h : Ends next queue found result) : found ⊆ result := by
  induction h with
  | done found => exact List.Subset.refl found
  | step _ ih => exact fun y hy => ih (List.mem_append_left _ hy)

/-- Every name that waits is expanded in the end. -/
theorem Ends.expands (h : Ends next queue found result) : ∀ x ∈ queue, next x ⊆ result := by
  induction h with
  | done found => exact fun x hx => nomatch hx
  | step hrest ih =>
      intro x hx
      rcases List.mem_cons.mp hx with rfl | hq
      · exact fun y hy => hrest.subset (mem_append_fresh hy)
      · exact ih x (List.mem_append_left _ hq)

/-- Every name found so far waits or is expanded: an expansion keeps it so. -/
theorem waits_or_expanded {current : String}
    (hinv : ∀ x ∈ found, x ∈ current :: queue ∨ next x ⊆ found) :
    ∀ x ∈ found ++ fresh found (next current),
      x ∈ queue ++ fresh found (next current) ∨ next x ⊆ found ++ fresh found (next current) := by
  intro x hx
  rcases List.mem_append.mp hx with hf | hn
  · -- found earlier: expanded now, waiting on, or expanded earlier
    rcases hinv x hf with hq | hdone
    · rcases List.mem_cons.mp hq with rfl | hq'
      · exact Or.inr fun y hy => mem_append_fresh hy
      · exact Or.inl (List.mem_append_left _ hq')
    · exact Or.inr fun y hy => List.mem_append_left _ (hdone hy)
  · exact Or.inl (List.mem_append_right _ hn)

/-- Where every name found so far waits or is expanded, nothing leads out of
    what is found in the end. -/
theorem Ends.closed (h : Ends next queue found result)
    (hinv : ∀ x ∈ found, x ∈ queue ∨ next x ⊆ found) : ∀ x ∈ result, next x ⊆ result := by
  induction h with
  | done found => exact fun x hx => (hinv x hx).resolve_left (fun hq => nomatch hq)
  | step _ ih => exact ih (waits_or_expanded hinv)

/-- **Reachability**: a walk that ends has found what one edge or more leads to
    from the start. -/
theorem Ends.mem_iff {start : String} (h : Ends next [start] [] result) (y : String) :
    y ∈ result ↔ Relation.TransGen (Edge next) start y := by
  constructor
  · intro hy
    rcases h.sound y hy with hnil | ⟨x, hx, hxy⟩
    · exact nomatch hnil
    · rwa [List.mem_singleton.mp hx] at hxy
  · intro hpath
    induction hpath with
    | single hedge => exact h.expands start List.mem_cons_self hedge
    | tail _ hedge ih => exact h.closed (fun x hx => nomatch hx) _ ih hedge

end TypeLineage.Reach
