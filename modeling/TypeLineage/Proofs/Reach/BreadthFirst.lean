import Mathlib.Data.Set.Card
import TypeLineage.Proofs.Association
import TypeLineage.Proofs.Reach

/-! # A walk goes outwards

    The names a walk finds come in the order of their distance from its start,
    which is the length of the shortest path of one edge or more.

    The heart is the invariant `Level`: the queue is what is left of one level
    and then what is known of the next.  Whatever can be reached within the
    level is found, so what an expansion newly finds is at exactly the next
    level; and when the level is used up the next one is complete.

    The start waits without being found.  So it can come onto the queue once
    more in the middle of a walk, and is then the one name that is expanded a
    second time. -/

namespace TypeLineage.Reach

variable {next : String → List String} {start current m n x y : String} {d e : Nat}
  {queue now later found result : List String}

/-! ## Distances -/

/-- A path of that many edges leads from the start to the name. -/
inductive Path (next : String → List String) (start : String) : Nat → String → Prop
  | here : Path next start 0 start
  | edge {d : Nat} {x y : String} :
      Path next start d x → Edge next x y → Path next start (d + 1) y

/-- The shortest path of one edge or more from the start to the name has that
    many edges. -/
def Distance (next : String → List String) (start : String) (d : Nat) (y : String) : Prop :=
  IsLeast {k | 0 < k ∧ Path next start k y} d

/-- Some path of one edge or more, and of no more than `d`, leads to the name. -/
def Within (next : String → List String) (start : String) (d : Nat) (y : String) : Prop :=
  ∃ k, 0 < k ∧ k ≤ d ∧ Path next start k y

/-- The first name is no farther from the start than the second. -/
def NoFarther (next : String → List String) (start m n : String) : Prop :=
  ∀ d, Within next start d n → Within next start d m

theorem Within.mono (h : Within next start d y) (hde : d ≤ e) : Within next start e y := by
  obtain ⟨k, hpos, hle, hpath⟩ := h
  exact ⟨k, hpos, Nat.le_trans hle hde, hpath⟩

theorem Path.within (h : Path next start (d + 1) y) : Within next start (d + 1) y :=
  ⟨d + 1, Nat.succ_pos d, Nat.le_refl _, h⟩

theorem not_within_zero : ¬ Within next start 0 y := by
  rintro ⟨k, hpos, hle, -⟩
  omega

/-- A path within one edge more is within as many edges, or its last edge comes
    from the end of a path of that many. -/
theorem within_succ_cases (h : Within next start (d + 1) y) :
    Within next start d y ∨ ∃ x, Path next start d x ∧ Edge next x y := by
  obtain ⟨k, hpos, hle, hpath⟩ := h
  rcases Nat.lt_or_ge d k with hlt | hge
  · obtain rfl : k = d + 1 := by omega
    cases hpath with
    | edge hx hedge => exact Or.inr ⟨_, hx, hedge⟩
  · exact Or.inl ⟨k, hpos, hge, hpath⟩

/-! ## Levels of the queue -/

/-- The queue while level `d` is expanded: `now` is left of that level and
    `later` is what is found of the next. -/
structure Level (next : String → List String) (start : String) (d : Nat)
    (now later found : List String) : Prop where
  now_at : ∀ x ∈ now, Path next start d x
  later_at : ∀ x ∈ later, Path next start (d + 1) x
  within : ∀ y, Within next start d y → y ∈ found
  pending : ∀ y, Within next start (d + 1) y → y ∈ found ∨ ∃ x ∈ now, Edge next x y
  found_within : ∀ y ∈ found, Within next start (d + 1) y
  waits : ∀ x ∈ found, x ∈ now ++ later ∨ next x ⊆ found
  ordered : found.Pairwise (NoFarther next start)

namespace Level

/-- Before anything is found the start waits. -/
theorem initial (next : String → List String) (start : String) :
    Level next start 0 [start] [] [] where
  now_at := fun x hx => by
    rw [List.mem_singleton.mp hx]
    exact .here
  later_at := fun x hx => nomatch hx
  within := fun y hy => absurd hy not_within_zero
  pending := fun y hy => by
    obtain ⟨x, hx, hedge⟩ := (within_succ_cases hy).resolve_left not_within_zero
    cases hx with
    | here => exact Or.inr ⟨start, List.mem_cons_self, hedge⟩
  found_within := fun y hy => nomatch hy
  waits := fun x hx => nomatch hx
  ordered := List.Pairwise.nil

/-- What is not found yet is beyond the level, so no name within the next level
    is farther. -/
theorem noFarther (h : Level next start d now later found) (hm : Within next start (d + 1) m)
    (hn : n ∉ found) : NoFarther next start m n := by
  intro e he
  have hlt : d < e := Nat.lt_of_not_le fun hle => hn (h.within n (he.mono hle))
  exact hm.mono hlt

/-- A name of the level is expanded. -/
theorem expand (h : Level next start d (current :: now) later found) :
    Level next start d now (later ++ fresh found (next current))
      (found ++ fresh found (next current)) := by
  have hcurrent := h.now_at current List.mem_cons_self
  have hnew : ∀ y ∈ fresh found (next current), Path next start (d + 1) y := fun y hy =>
    .edge hcurrent (mem_fresh.mp hy).1
  refine ⟨fun x hx => h.now_at x (List.mem_cons_of_mem _ hx), ?_,
    fun y hy => List.mem_append_left _ (h.within y hy), ?_, ?_, ?_, ?_⟩
  · intro x hx
    exact (List.mem_append.mp hx).elim (h.later_at x) (hnew x)
  · intro y hy
    rcases h.pending y hy with hf | ⟨x, hx, hedge⟩
    · exact Or.inl (List.mem_append_left _ hf)
    · rcases List.mem_cons.mp hx with rfl | hx
      · exact Or.inl (mem_append_fresh hedge)
      · exact Or.inr ⟨x, hx, hedge⟩
  · intro y hy
    exact (List.mem_append.mp hy).elim (h.found_within y) fun hn => (hnew y hn).within
  · rw [← List.append_assoc]
    exact waits_or_expanded h.waits
  · -- what is found anew is beyond the level, and all that is found is within the next
    rw [List.pairwise_append]
    refine ⟨h.ordered, List.pairwise_of_forall_mem_list fun m hm n hn => ?_, fun m hm n hn => ?_⟩
    · exact h.noFarther (hnew m hm).within (mem_fresh.mp hn).2
    · exact h.noFarther (h.found_within m hm) (mem_fresh.mp hn).2

/-- When the level is used up, what is within the next level is found. -/
theorem complete (h : Level next start d [] later found) (hy : Within next start (d + 1) y) :
    y ∈ found :=
  (h.pending y hy).resolve_right fun ⟨_, hx, _⟩ => nomatch hx

/-- The level is used up, and what is known of the next is all of it. -/
theorem turn (h : Level next start d [] later found) :
    Level next start (d + 1) later [] found where
  now_at := h.later_at
  later_at := fun x hx => nomatch hx
  within := fun y hy => h.complete hy
  pending := fun y hy => by
    rcases within_succ_cases hy with hnear | ⟨x, hpath, hedge⟩
    · exact Or.inl (h.complete hnear)
    · -- the edge comes from a name that is found: it is expanded, or is in what is now the level
      rcases h.waits x (h.complete hpath.within) with hwaits | hdone
      · exact Or.inr ⟨x, hwaits, hedge⟩
      · exact Or.inl (hdone hedge)
  found_within := fun y hy => (h.found_within y hy).mono (Nat.le_succ _)
  waits := fun x hx => by
    rw [List.append_nil]
    exact h.waits x hx
  ordered := h.ordered

end Level

/-- The queue consists of the rest of one level and what is found of the next. -/
def InLevels (next : String → List String) (start : String) (queue found : List String) : Prop :=
  ∃ d now later, queue = now ++ later ∧ Level next start d now later found

/-- An expansion keeps the queue in levels. -/
theorem InLevels.expand (h : InLevels next start (current :: queue) found) :
    InLevels next start (queue ++ fresh found (next current))
      (found ++ fresh found (next current)) := by
  obtain ⟨d, now, later, hqueue, hlevel⟩ := h
  cases now with
  | nil =>
      -- the name at the front is the first of the next level
      rw [List.nil_append] at hqueue
      subst hqueue
      exact ⟨d + 1, queue, [] ++ fresh found (next current), rfl, hlevel.turn.expand⟩
  | cons x now =>
      obtain ⟨rfl, rfl⟩ := List.cons.inj hqueue
      exact ⟨d, now, later ++ fresh found (next current), List.append_assoc _ _ _, hlevel.expand⟩

/-- A walk that ends has found names in the order of their distance. -/
theorem Ends.ordered (h : Ends next queue found result)
    (hlevels : InLevels next start queue found) :
    result.Pairwise (NoFarther next start) := by
  induction h with
  | done found =>
      obtain ⟨_, _, _, -, hlevel⟩ := hlevels
      exact hlevel.ordered
  | step _ ih => exact ih hlevels.expand

/-! ## Walks over finitely many names -/

/-- What one edge or more leads to from the start. -/
def reached (next : String → List String) (start : String) : Set String :=
  {y | Relation.TransGen (Edge next) start y}

theorem Path.transGen (h : Path next start d y) (hpos : 0 < d) :
    Relation.TransGen (Edge next) start y := by
  induction h with
  | here => exact absurd hpos (Nat.lt_irrefl 0)
  | @edge d x y hpath hedge ih =>
      rcases Nat.eq_zero_or_pos d with rfl | hd
      · cases hpath with
        | here => exact .single hedge
      · exact .tail (ih hd) hedge

theorem exists_path_of_transGen (h : Relation.TransGen (Edge next) start y) :
    ∃ k, 0 < k ∧ Path next start k y := by
  induction h with
  | single hedge => exact ⟨1, Nat.one_pos, .edge .here hedge⟩
  | tail _ hedge ih =>
      obtain ⟨k, hpos, hpath⟩ := ih
      exact ⟨k + 1, Nat.succ_pos k, .edge hpath hedge⟩

/-- The names that have a distance are those that are reached. -/
theorem exists_distance_iff :
    (∃ d, Distance next start d y) ↔ Relation.TransGen (Edge next) start y := by
  constructor
  · rintro ⟨d, ⟨hpos, hpath⟩, -⟩
    exact hpath.transGen hpos
  · intro h
    classical
    have hpath := exists_path_of_transGen h
    exact ⟨Nat.find hpath, Nat.find_spec hpath, fun k hk => Nat.find_min' hpath hk⟩

/-- Where finitely many names are reached, the walk ends. -/
theorem exists_ends (hfinite : (reached next start).Finite) :
    ∃ found, Ends next [start] [] found := by
  have hknown : ∀ x, x = start ∨ x ∈ hfinite.toFinset.toList →
      next x ⊆ hfinite.toFinset.toList := by
    intro x hx y hy
    rw [Finset.mem_toList, Set.Finite.mem_toFinset] at *
    rcases hx with rfl | hx
    · exact .single hy
    · exact .tail hx hy
  exact ⟨_, reachable_ends start hknown (Nat.le_refl _)⟩

namespace Ends

/-- A walk finds as many names as are reached. -/
theorem length_eq (h : Ends next [start] [] result) :
    result.length = (reached next start).ncard := by
  have hset : reached next start = (result.toFinset : Set String) := by
    ext y
    rw [Finset.mem_coe, List.mem_toFinset, h.mem_iff]
    rfl
  rw [hset, Set.ncard_coe_finset, List.toFinset_card_of_nodup (h.nodup List.nodup_nil)]

/-- Of two names at different distances the nearer is found first. -/
theorem idxOf_lt (h : Ends next [start] [] result) (hm : Distance next start d m)
    (hn : Distance next start e n) (hlt : d < e) : result.idxOf m < result.idxOf n := by
  -- the distance of `n` is least, so a path to it as short as the one to `m` is too short
  have hfarther : ¬ NoFarther next start n m := by
    intro hnm
    obtain ⟨k, hpos, hle, hpath⟩ := hnm d ⟨d, hm.1.1, Nat.le_refl d, hm.1.2⟩
    have hleast : e ≤ k := hn.2 ⟨hpos, hpath⟩
    omega
  have hfound : ∀ {k y}, Distance next start k y → y ∈ result := fun hy =>
    (h.mem_iff _).mpr (exists_distance_iff.mp ⟨_, hy⟩)
  have hi := List.idxOf_lt_length_of_mem (hfound hm)
  have hj := List.idxOf_lt_length_of_mem (hfound hn)
  rcases Nat.lt_trichotomy (result.idxOf m) (result.idxOf n) with hbefore | heq | hafter
  · exact hbefore
  · obtain rfl := (List.idxOf_inj (hfound hm)).mp heq
    exact absurd (fun _ hy => hy) hfarther
  · have hordered := h.ordered ⟨0, [start], [], rfl, Level.initial next start⟩
    have hnm := List.pairwise_iff_getElem.mp hordered _ _ hj hi hafter
    rw [List.getElem_idxOf, List.getElem_idxOf] at hnm
    exact absurd hnm hfarther

end Ends

/-- **Breadth first**: from every start that leads to finitely many names the
    walk ends, and any bound that is no less than their number gives what it
    finds.  That is each name that one edge or more leads to, once, and of two
    names the nearer first. -/
theorem reachable_breadthFirst (next : String → List String) (start : String)
    (hfinite : (reached next start).Finite) :
    ∃ found : List String, Ends next [start] [] found
      ∧ (∀ bound, (reached next start).ncard ≤ bound → reachable bound next start = found)
      ∧ found.Nodup
      ∧ (∀ y, y ∈ found ↔ Relation.TransGen (Edge next) start y)
      ∧ ∀ m n d e, Distance next start d m → Distance next start e n → d < e →
          found.idxOf m < found.idxOf n := by
  obtain ⟨found, hends⟩ := exists_ends hfinite
  refine ⟨found, hends, fun bound hbound => ?_, hends.nodup List.nodup_nil, hends.mem_iff,
    fun m n d e => hends.idxOf_lt⟩
  unfold reachable
  rw [hends.walk_eq (hends.length_eq ▸ hbound)]

/-! ## Walks along a list of edges -/

theorem successors_subset (edges : List (String × List String)) (x : String) :
    successors edges x ⊆ edges.flatMap (·.2) := by
  intro y hy
  unfold successors at hy
  cases hnames : edges.reverse.lookup x with
  | none =>
      rw [hnames] at hy
      exact nomatch hy
  | some names =>
      rw [hnames] at hy
      have hmem := List.mem_reverse.mp (Association.mem_of_lookup hnames)
      exact List.mem_flatMap.mpr ⟨(x, names), hmem, hy⟩

/-- A list of edges reaches no more names than stand in it, so the bound of
    `walkEdges` is enough. -/
theorem finite_reached_successors (edges : List (String × List String)) (start : String) :
    (reached (successors edges) start).Finite
    ∧ (reached (successors edges) start).ncard
        ≤ edges.foldr (fun (_, names) n => names.length + n) 0 := by
  have hsub : reached (successors edges) start
      ⊆ ((edges.flatMap (·.2)).toFinset : Set String) := by
    intro y hy
    obtain ⟨x, -, hedge⟩ := Relation.TransGen.tail'_iff.mp hy
    exact Finset.mem_coe.mpr (List.mem_toFinset.mpr (successors_subset edges x hedge))
  have hlength : (edges.flatMap (·.2)).length
      = edges.foldr (fun (_, names) n => names.length + n) 0 := by
    rw [List.length_flatMap, List.sum_eq_foldr, List.foldr_map]
  have hcard := Set.ncard_le_ncard hsub (Finset.finite_toSet _)
  rw [Set.ncard_coe_finset] at hcard
  refine ⟨(Finset.finite_toSet _).subset hsub, ?_⟩
  rw [← hlength]
  exact hcard.trans (List.toFinset_card_le _)

/-- The start is found in the middle of the walk, behind a name that is nearer
    and before one that is farther. -/
theorem reachable_breadthFirst_of_cycle :
    let next := successors [("a", ["b"]), ("b", ["c", "a"]), ("c", ["d", "b"])]
    (reached next "a").Finite ∧ ∃ found : List String, found = ["b", "c", "a", "d"]
      ∧ (∀ y, y ∈ found ↔ Relation.TransGen (Edge next) "a" y)
      ∧ ∀ m n d e, Distance next "a" d m → Distance next "a" e n → d < e →
          found.idxOf m < found.idxOf n := by
  intro next
  obtain ⟨hfinite, hle⟩ := finite_reached_successors
    [("a", ["b"]), ("b", ["c", "a"]), ("c", ["d", "b"])] "a"
  obtain ⟨found, -, hreachable, -, hmem, hordered⟩ := reachable_breadthFirst next "a" hfinite
  refine ⟨hfinite, found, ?_, hmem, hordered⟩
  rw [← hreachable 5 hle]
  decide

/-! ## What is expanded -/

/-- **Expansions**: what is expanded is the start and then what is found, so no
    name but the start is expanded twice.  The start is, exactly if an edge or
    more leads back to it. -/
theorem expanded_nodup_iff (next : String → List String) (start : String)
    (hfinite : (reached next start).Finite) :
    ∃ w : Walk, Ends next [start] [] w.found
      ∧ (∀ bound, (reached next start).ncard ≤ bound → walk bound next start = w)
      ∧ w.expanded = start :: w.found
      ∧ (∀ n, n ≠ start → w.expanded.count n ≤ 1)
      ∧ (w.expanded.Nodup ↔ ¬ Relation.TransGen (Edge next) start start)
      ∧ (Relation.TransGen (Edge next) start start → w.expanded.count start = 2) := by
  obtain ⟨found, hends⟩ := exists_ends hfinite
  have hnd := hends.nodup List.nodup_nil
  refine ⟨⟨found, start :: found⟩, hends, fun bound hbound => ?_, rfl, fun n hn => ?_, ?_,
    fun hback => ?_⟩
  · exact hends.walk_eq (hends.length_eq ▸ hbound)
  · rw [List.count_cons_of_ne hn.symm]
    exact List.nodup_iff_count_le_one.mp hnd n
  · rw [List.nodup_cons, hends.mem_iff]
    exact and_iff_left hnd
  · rw [List.count_cons_self, List.count_eq_one_of_mem hnd ((hends.mem_iff start).mpr hback)]

/-- Two names that lead to each other, and one that is off their cycle. -/
theorem expanded_nodup_iff_of_cycle :
    let next := successors [("a", ["b"]), ("b", ["c", "a"])]
    (reached next "a").Finite ∧ ∃ w : Walk, walk 3 next "a" = w
      ∧ w.expanded = "a" :: w.found
      ∧ (∀ n, n ≠ "a" → w.expanded.count n ≤ 1)
      ∧ w.expanded.count "a" = 2 := by
  intro next
  obtain ⟨hfinite, hle⟩ := finite_reached_successors [("a", ["b"]), ("b", ["c", "a"])] "a"
  obtain ⟨w, -, hwalk, hexpanded, hother, -, htwice⟩ := expanded_nodup_iff next "a" hfinite
  have hback : Relation.TransGen (Edge next) "a" "a" := by
    refine .head (b := "b") ?_ (.single ?_)
    · show "b" ∈ next "a"
      decide
    · show "a" ∈ next "b"
      decide
  exact ⟨hfinite, w, hwalk 3 hle, hexpanded, hother, htwice hback⟩

/-- A name that leads to itself is expanded twice. -/
theorem not_nodup_expanded_of_loop :
    (walkEdges [("a", ["a"])] "a").expanded = ["a", "a"]
    ∧ ¬ (walkEdges [("a", ["a"])] "a").expanded.Nodup := by
  decide

end TypeLineage.Reach
