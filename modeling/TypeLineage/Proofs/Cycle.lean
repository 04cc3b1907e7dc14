import Mathlib.Data.List.Chain
import TypeLineage.Registry.Cycle
import TypeLineage.Proofs.Text.Order

/-! # Loops of a partial function on names

    `Follows` is the walk up a chain of parents without a bound, `Collects` the
    walks from one start after the other.  A walk keeps to new names, so it
    comes to its end; where it ends is one of three places.  At the top and at
    a name that is done nothing is closed; at a name of the walk itself a loop
    is closed, and it is the whole loop, because a name has one parent.

    The heart is `Walked.last_mem`: a set that every parent leads back into is
    not left by a walk.  A loop that meets a walk is therefore the loop which
    that walk closes, and no later walk meets it again. -/

namespace TypeLineage.Cycle

variable {parent : String → Option String} {starts done path result xs ys l m c d : List String}
  {current : Option String} {found : Option (List String)} {n x y : String}

/-! ## Loops -/

/-- The second name is the parent of the first. -/
def Up (parent : String → Option String) (x y : String) : Prop := parent x = some y

/-- Different names, each followed by its parent and the last by the first. -/
def IsLoop (parent : String → Option String) (c : List String) : Prop :=
  c.Nodup ∧ ∃ first rest, c = first :: rest ∧ (first :: (rest ++ [first])).IsChain (Up parent)

/-- Turned to one of its names a list holds what it held. -/
theorem turned_perm (xs ys : List String) (n : String) :
    (n :: (ys ++ xs)).Perm (xs ++ n :: ys) := by
  show (n :: ys ++ xs).Perm (xs ++ n :: ys)
  exact List.perm_append_comm

/-- A loop may be read from any of its names on. -/
theorem IsLoop.rotate (h : IsLoop parent (xs ++ n :: ys)) :
    IsLoop parent (n :: (ys ++ xs)) := by
  obtain ⟨hnd, first, rest, heq, hchain⟩ := h
  refine ⟨?_, n, ys ++ xs, rfl, ?_⟩
  · exact (turned_perm xs ys n).nodup_iff.mpr hnd
  · cases xs with
    | nil =>
        obtain ⟨rfl, rfl⟩ := List.cons.inj heq
        rwa [List.append_nil]
    | cons x xs =>
        obtain ⟨rfl, rfl⟩ := List.cons.inj heq
        -- the two halves of the loop change places
        have hturn : x :: (xs ++ n :: ys ++ [x]) = x :: xs ++ n :: (ys ++ [x]) := by simp
        obtain ⟨hleft, hright⟩ := List.isChain_split.mp (hturn ▸ hchain)
        have hjoined : (n :: ys ++ x :: (xs ++ [n])).IsChain (Up parent) :=
          List.isChain_split.mpr ⟨hright, hleft⟩
        rw [List.append_assoc, List.cons_append]
        exact hjoined

/-- From any of its names a loop leads through all of them. -/
theorem IsLoop.exists_from (h : IsLoop parent c) (hn : n ∈ c) :
    ∃ rest, IsLoop parent (n :: rest) ∧ (n :: rest).Perm c := by
  obtain ⟨xs, ys, rfl⟩ := List.append_of_mem hn
  exact ⟨ys ++ xs, h.rotate, turned_perm xs ys n⟩

/-- Parents are determined, and so is a chain up to its end. -/
theorem chain_determined (hl : (x :: (l ++ [y])).IsChain (Up parent))
    (hm : (x :: (m ++ [y])).IsChain (Up parent)) (hyl : y ∉ l) (hym : y ∉ m) : l = m := by
  induction l generalizing x m with
  | nil =>
      cases m with
      | nil => rfl
      | cons b m =>
          have hxy : parent x = some y := (List.isChain_cons_cons.mp hl).1
          have hxb : parent x = some b := (List.isChain_cons_cons.mp hm).1
          have hby : b = y := Option.some.inj (hxb.symm.trans hxy)
          exact absurd (hby ▸ List.mem_cons_self) hym
  | cons a l ih =>
      obtain ⟨hxa, hl'⟩ := List.isChain_cons_cons.mp hl
      cases m with
      | nil =>
          have hxy : parent x = some y := (List.isChain_cons_cons.mp hm).1
          have hay : a = y := Option.some.inj (Eq.trans (Eq.symm hxa) hxy)
          exact absurd (hay ▸ List.mem_cons_self) hyl
      | cons b m =>
          obtain ⟨hxb, hm'⟩ := List.isChain_cons_cons.mp hm
          obtain rfl : a = b := Option.some.inj (Eq.trans (Eq.symm hxa) hxb)
          rw [List.mem_cons, not_or] at hyl hym
          rw [ih hl' hm' hyl.2 hym.2]

/-- From one name there is one loop. -/
theorem IsLoop.determined (hl : IsLoop parent (n :: l)) (hm : IsLoop parent (n :: m)) :
    l = m := by
  obtain ⟨hndl, _, _, heql, hchainl⟩ := hl
  obtain ⟨hndm, _, _, heqm, hchainm⟩ := hm
  obtain ⟨rfl, rfl⟩ := List.cons.inj heql
  obtain ⟨rfl, rfl⟩ := List.cons.inj heqm
  exact chain_determined hchainl hchainm (List.nodup_cons.mp hndl).1 (List.nodup_cons.mp hndm).1

/-- Loops that share a name have all their names in common. -/
theorem IsLoop.perm (hc : IsLoop parent c) (hd : IsLoop parent d) (hnc : n ∈ c) (hnd : n ∈ d) :
    c.Perm d := by
  obtain ⟨l, hl, hlc⟩ := hc.exists_from hnc
  obtain ⟨m, hm, hmd⟩ := hd.exists_from hnd
  rw [hl.determined hm] at hlc
  exact hlc.symm.trans hmd

/-- On a loop every name has its parent. -/
theorem IsLoop.parent_mem (h : IsLoop parent c) (hx : x ∈ c) : ∃ y ∈ c, parent x = some y := by
  obtain ⟨rest, ⟨-, _, _, heq, hchain⟩, hperm⟩ := h.exists_from hx
  obtain ⟨rfl, rfl⟩ := List.cons.inj heq
  cases rest with
  | nil => exact ⟨x, hx, (List.isChain_cons_cons.mp hchain).1⟩
  | cons y rest =>
      refine ⟨y, hperm.mem_iff.mp ?_, (List.isChain_cons_cons.mp hchain).1⟩
      exact List.mem_cons_of_mem _ List.mem_cons_self

/-- From each name of a loop parents lead back to it. -/
theorem IsLoop.transGen (h : IsLoop parent c) (hn : n ∈ c) : Relation.TransGen (Up parent) n n := by
  obtain ⟨rest, ⟨-, _, _, heq, hchain⟩, -⟩ := h.exists_from hn
  obtain ⟨rfl, rfl⟩ := List.cons.inj heq
  have hpairs := List.isChain_iff_pairwise.mp (hchain.imp fun _ _ hab => Relation.TransGen.single hab)
  exact (List.pairwise_cons.mp hpairs).1 n (List.mem_append_right _ List.mem_cons_self)

/-- Where parents lead from one name to another, they do so without a
    repetition. -/
theorem exists_nodup_chain (h : Relation.ReflTransGen (Up parent) x y) :
    ∃ xs, (xs ++ [y]).Nodup ∧ (xs ++ [y]).IsChain (Up parent) ∧ (xs ++ [y]).head? = some x := by
  induction h using Relation.ReflTransGen.head_induction_on with
  | refl => exact ⟨[], List.pairwise_singleton _ y, .singleton y, rfl⟩
  | @head x z hxz _ ih =>
      obtain ⟨xs, hnd, hchain, hhead⟩ := ih
      by_cases hx : x ∈ xs ++ [y]
      · -- what lies before `x` was a detour
        obtain ⟨before, after, hsplit⟩ := List.append_of_mem hx
        obtain ⟨ys, hys⟩ : ∃ ys, x :: after = ys ++ [y] := by
          have hlast : (before ++ x :: after).getLast? = some y := by
            rw [← hsplit, List.getLast?_concat]
          rw [List.getLast?_append_cons] at hlast
          exact List.getLast?_eq_some_iff.mp hlast
        rw [hsplit] at hnd hchain
        exact ⟨ys, hys ▸ (List.sublist_append_right _ _).nodup hnd, hys ▸ hchain.right_of_append,
          hys ▸ rfl⟩
      · refine ⟨x :: xs, List.nodup_cons.mpr ⟨hx, hnd⟩, ?_, rfl⟩
        refine List.isChain_cons.mpr ⟨fun w hw => ?_, hchain⟩
        obtain rfl := Option.some.inj (hhead.symm.trans hw)
        exact hxz

/-- A name that parents lead back to lies on a loop. -/
theorem exists_isLoop (h : Relation.TransGen (Up parent) n n) : ∃ rest, IsLoop parent (n :: rest) := by
  obtain ⟨y, hny, hback⟩ := Relation.TransGen.head'_iff.mp h
  obtain ⟨rest, hnd, hchain, hhead⟩ := exists_nodup_chain hback
  refine ⟨rest, List.perm_append_singleton n rest |>.nodup_iff.mp hnd, n, rest, rfl, ?_⟩
  refine List.isChain_cons.mpr ⟨fun w hw => ?_, hchain⟩
  obtain rfl := Option.some.inj (hhead.symm.trans hw)
  exact hny

/-! ## Loops read from their smallest names on -/

/-- The lesser of two names. -/
theorem lesser_spec (a b : String) :
    ((if Text.precedes a b then a else b) = a ∨ (if Text.precedes a b then a else b) = b)
      ∧ Text.notAfter (if Text.precedes a b then a else b) a = true
      ∧ Text.notAfter (if Text.precedes a b then a else b) b = true := by
  by_cases h : Text.precedes a b = true
  · rw [if_pos h]
    exact ⟨Or.inl rfl, Text.notAfter_iff.mpr (Or.inr rfl), Text.notAfter_iff.mpr (Or.inl h)⟩
  · rw [if_neg h]
    refine ⟨Or.inr rfl, ?_, Text.notAfter_iff.mpr (Or.inr rfl)⟩
    unfold Text.notAfter
    rw [Bool.not_eq_true', ← Bool.not_eq_true]
    exact h

theorem smallest_spec (rest : List String) : ∀ first : String,
    smallest first rest ∈ first :: rest
      ∧ ∀ n ∈ first :: rest, Text.notAfter (smallest first rest) n = true := by
  induction rest with
  | nil =>
      intro first
      refine ⟨List.mem_cons_self, fun n hn => ?_⟩
      rw [List.mem_singleton.mp hn]
      exact Text.notAfter_iff.mpr (Or.inr rfl)
  | cons name rest ih =>
      intro first
      rw [smallest]
      obtain ⟨hone, hname, hfirst⟩ := lesser_spec name first
      obtain ⟨hmem, hle⟩ := ih (if Text.precedes name first then name else first)
      have hlesser := hle _ List.mem_cons_self
      constructor
      · rcases List.mem_cons.mp hmem with heq | hmem
        · rcases hone with h | h <;> rw [heq, h] <;> simp
        · exact List.mem_cons_of_mem _ (List.mem_cons_of_mem _ hmem)
      · intro n hn
        rcases List.mem_cons.mp hn with rfl | hn
        · exact Text.notAfter_trans hlesser hfirst
        · rcases List.mem_cons.mp hn with rfl | hn
          · exact Text.notAfter_trans hlesser hname
          · exact hle n (List.mem_cons_of_mem _ hn)

/-- A loop read from its smallest name on. -/
def IsLeastLoop (parent : String → Option String) (c : List String) : Prop :=
  IsLoop parent c ∧ ∀ first ∈ c.head?, ∀ n ∈ c, Text.notAfter first n = true

theorem takeWhile_append_stop (ys : List String) (h : n ∉ xs) :
    (xs ++ n :: ys).takeWhile (· ≠ n) = xs ∧ (xs ++ n :: ys).dropWhile (· ≠ n) = n :: ys := by
  have hxs : ∀ x ∈ xs, decide (x ≠ n) = true := by
    intro x hx
    refine decide_eq_true ?_
    rintro rfl
    exact h hx
  constructor
  · rw [List.takeWhile_append_of_pos hxs, List.takeWhile_cons_of_neg (by simp), List.append_nil]
  · rw [List.dropWhile_append_of_pos hxs, List.dropWhile_cons_of_neg (by simp)]

/-- Turning puts what stands before the smallest name behind the rest. -/
theorem exists_rotateToSmallest_eq (first : String) (rest : List String) :
    ∃ xs ys, first :: rest = xs ++ smallest first rest :: ys
      ∧ rotateToSmallest (first :: rest) = smallest first rest :: (ys ++ xs) := by
  obtain ⟨xs, ys, hsplit, hxs⟩ := List.eq_append_cons_of_mem (smallest_spec rest first).1
  obtain ⟨htake, hdrop⟩ := takeWhile_append_stop ys hxs
  refine ⟨xs, ys, hsplit, ?_⟩
  show (first :: rest).dropWhile _ ++ (first :: rest).takeWhile _ = _
  rw [hsplit, htake, hdrop, List.cons_append]

/-- Names are turned to the least of them. -/
theorem head?_rotateToSmallest_eq_iff {first : String} :
    (rotateToSmallest c).head? = some first
      ↔ first ∈ c ∧ ∀ n ∈ c, Text.notAfter first n = true := by
  cases c with
  | nil => exact iff_of_false (fun h => nomatch h) fun h => nomatch h.1
  | cons name rest =>
      obtain ⟨hmem, hleast⟩ := smallest_spec rest name
      obtain ⟨xs, ys, -, hturned⟩ := exists_rotateToSmallest_eq name rest
      rw [hturned, List.head?_cons, Option.some_inj]
      constructor
      · rintro rfl
        exact ⟨hmem, hleast⟩
      · rintro ⟨hfirst, hle⟩
        exact Text.notAfter_antisymm (hleast first hfirst) (hle _ hmem)

/-- Turning a loop to its smallest name leaves the same loop. -/
theorem IsLoop.rotateToSmallest (h : IsLoop parent c) :
    IsLeastLoop parent (rotateToSmallest c) ∧ (rotateToSmallest c).Perm c := by
  obtain ⟨first, rest, rfl, -⟩ := h.2
  obtain ⟨-, hle⟩ := smallest_spec rest first
  obtain ⟨xs, ys, hsplit, hturned⟩ := exists_rotateToSmallest_eq first rest
  have hperm : (smallest first rest :: (ys ++ xs)).Perm (first :: rest) := by
    rw [hsplit]
    exact turned_perm xs ys _
  rw [hturned]
  refine ⟨⟨?_, ?_⟩, hperm⟩
  · rw [hsplit] at h
    exact h.rotate
  · intro least hleast n hn
    obtain rfl := Option.some.inj hleast
    exact hle n (hperm.mem_iff.mp hn)

/-- Read from their smallest names on, loops that share a name are equal. -/
theorem IsLeastLoop.eq (hc : IsLeastLoop parent c) (hd : IsLeastLoop parent d)
    (hnc : n ∈ c) (hnd : n ∈ d) : c = d := by
  have hperm := hc.1.perm hd.1 hnc hnd
  obtain ⟨first, l, rfl, -⟩ := hc.1.2
  obtain ⟨first', m, rfl, -⟩ := hd.1.2
  have hle : Text.notAfter first first' = true :=
    hc.2 first rfl first' (hperm.mem_iff.mpr List.mem_cons_self)
  have hge : Text.notAfter first' first = true :=
    hd.2 first' rfl first (hperm.mem_iff.mp List.mem_cons_self)
  have hfirst : first = first' := by
    rcases Text.notAfter_iff.mp hle with hlt | heq
    · rcases Text.notAfter_iff.mp hge with hgt | heq
      · exact absurd hgt (Text.precedes_asymm hlt)
      · exact heq.symm
    · exact heq
  subst hfirst
  rw [hc.1.determined hd.1]

/-! ## One walk -/

/-- The walk on from a name ends, and then these names are walked and this loop
    is closed, if one is. -/
inductive Follows (parent : String → Option String) (done : List String) :
    List String → Option String → List String → Option (List String) → Prop
  | top (path : List String) : Follows parent done path none path none
  | known {path : List String} {current : String} :
      current ∈ done → Follows parent done path (some current) path none
  | closed {path : List String} {current : String} :
      current ∉ done → current ∈ path →
      Follows parent done path (some current) path (some (path.dropWhile (· ≠ current)))
  | step {path result : List String} {current : String} {found : Option (List String)} :
      current ∉ done → current ∉ path →
      Follows parent done (path ++ [current]) (parent current) result found →
      Follows parent done path (some current) result found

/-- A walk so far: new names, each followed by its parent, and the parent of
    the last is where the walk stands. -/
structure Walked (parent : String → Option String) (done path : List String)
    (current : Option String) : Prop where
  nodup : path.Nodup
  fresh : ∀ n ∈ path, n ∉ done
  chain : path.IsChain (Up parent)
  last : ∀ n ∈ path.getLast?, parent n = current

theorem Walked.start (parent : String → Option String) (done : List String)
    (current : Option String) : Walked parent done [] current where
  nodup := List.nodup_nil
  fresh := fun _ hn => nomatch hn
  chain := .nil
  last := fun _ hn => nomatch hn

theorem Walked.step (h : Walked parent done path (some n)) (hdone : n ∉ done) (hpath : n ∉ path) :
    Walked parent done (path ++ [n]) (parent n) where
  nodup := by
    rw [List.nodup_append]
    refine ⟨h.nodup, List.pairwise_singleton _ n, ?_⟩
    rintro a ha b hb rfl
    rw [List.mem_singleton.mp hb] at ha
    exact hpath ha
  fresh := by
    intro m hm
    rcases List.mem_append.mp hm with hm | hm
    · exact h.fresh m hm
    · rw [List.mem_singleton.mp hm]
      exact hdone
  chain := by
    refine List.isChain_append.mpr ⟨h.chain, .singleton n, ?_⟩
    intro x hx y hy
    obtain rfl := Option.some.inj hy
    exact h.last x hx
  last := by
    intro m hm
    rw [List.getLast?_concat] at hm
    rw [Option.some.inj hm]

/-- A name of a walk is followed by its parent. -/
theorem Walked.parent_mem (h : Walked parent done path current) (hx : x ∈ path) :
    parent x = current ∨ ∃ y ∈ path, parent x = some y := by
  obtain ⟨xs, ys, rfl⟩ := List.append_of_mem hx
  cases ys with
  | nil => exact Or.inl (h.last x List.getLast?_concat)
  | cons y ys =>
      have hxy := (List.isChain_append_cons_cons.mp h.chain).2.1
      exact Or.inr ⟨y, by simp, hxy⟩

/-- A walk does not leave a set that every parent leads back into. -/
theorem Walked.current_mem (h : Walked parent done path current)
    (hclosed : ∀ x ∈ c, ∃ y ∈ c, parent x = some y) (hx : x ∈ path) (hxc : x ∈ c) :
    ∃ y ∈ c, current = some y := by
  obtain ⟨xs, ys, rfl⟩ := List.append_of_mem hx
  have hchain : (x :: ys).IsChain (Up parent) := h.chain.right_of_append
  have hlast : ∀ n ∈ (x :: ys).getLast?, parent n = current := by
    intro n hn
    refine h.last n ?_
    rw [List.getLast?_append_cons]
    exact hn
  clear h hx
  -- from one name of the set to the next, up to the last
  induction ys generalizing x with
  | nil =>
      obtain ⟨y, hy, hxy⟩ := hclosed x hxc
      exact ⟨y, hy, (hlast x rfl).symm.trans hxy⟩
  | cons z ys ih =>
      obtain ⟨hxz, hrest⟩ := List.isChain_cons_cons.mp hchain
      obtain ⟨y, hy, hxy⟩ := hclosed x hxc
      obtain rfl : z = y := Option.some.inj (Eq.trans (Eq.symm hxz) hxy)
      exact ih hy hrest hlast

/-- Where a walk ends: at the top or at a name that is done, with nothing
    closed, or at one of its own names, from which on it is a loop. -/
theorem Follows.ends (h : Follows parent done path current result found)
    (hw : Walked parent done path current) :
    ∃ last, Walked parent done result last
      ∧ ((found = none ∧ ∀ n ∈ last, n ∈ done)
        ∨ ∃ n, last = some n ∧ n ∉ done ∧ n ∈ result
            ∧ found = some (result.dropWhile (· ≠ n))) := by
  induction h with
  | top path => exact ⟨none, hw, Or.inl ⟨rfl, fun n hn => nomatch hn⟩⟩
  | @known path current hdone =>
      refine ⟨some current, hw, Or.inl ⟨rfl, fun n hn => ?_⟩⟩
      rwa [← Option.some.inj hn]
  | @closed path current hdone hpath =>
      exact ⟨some current, hw, Or.inr ⟨current, rfl, hdone, hpath, rfl⟩⟩
  | step hdone hpath _ ih => exact ih (hw.step hdone hpath)

/-- A walk ends in one way. -/
theorem Follows.unique {result' : List String} {found' : Option (List String)}
    (h : Follows parent done path current result found)
    (h' : Follows parent done path current result' found') : result = result' ∧ found = found' := by
  induction h with
  | top path => cases h' with | top => exact ⟨rfl, rfl⟩
  | known hdone =>
      cases h' with
      | known => exact ⟨rfl, rfl⟩
      | closed hnew => exact absurd hdone hnew
      | step hnew => exact absurd hdone hnew
  | closed hnew hpath =>
      cases h' with
      | known hdone => exact absurd hdone hnew
      | closed => exact ⟨rfl, rfl⟩
      | step _ hoff => exact absurd hpath hoff
  | step hnew hoff _ ih =>
      cases h' with
      | known hdone => exact absurd hdone hnew
      | closed _ hpath => exact absurd hpath hoff
      | step _ _ hrest => exact ih hrest

/-- A walk that stands on one of its own names has walked a loop. -/
theorem Walked.isLoop (h : Walked parent done path (some n)) (hn : n ∈ path) :
    IsLoop parent (path.dropWhile (· ≠ n)) := by
  obtain ⟨xs, ys, rfl, hxs⟩ := List.eq_append_cons_of_mem hn
  rw [(takeWhile_append_stop ys hxs).2]
  refine ⟨(List.sublist_append_right _ _).nodup h.nodup, n, ys, rfl, ?_⟩
  refine List.isChain_append.mpr ⟨h.chain.right_of_append, .singleton n, ?_⟩
  intro x hx y hy
  obtain rfl := Option.some.inj hy
  refine h.last x ?_
  rw [List.getLast?_append_cons]
  exact hx

/-- The bound is never felt: a walk that goes on stands behind names that have
    parents, and there are only so many. -/
theorem follow_follows {known : List String} (hknown : ∀ x y, parent x = some y → x ∈ known) :
    ∀ (steps : Nat) (path : List String) (current : Option String),
      Walked parent done path current → known.length + 1 ≤ steps + path.length →
      Follows parent done path current (follow parent done steps path current).1
        (follow parent done steps path current).2 := by
  intro steps
  induction steps with
  | zero =>
      intro path current hw hle
      cases current with
      | none => exact .top path
      | some n =>
          -- every name of the walk has a parent
          have hsub : path ⊆ known := by
            intro x hx
            rcases hw.parent_mem hx with hxn | ⟨y, -, hxy⟩
            · exact hknown x n hxn
            · exact hknown x y hxy
          have hroom := hw.nodup.length_le_of_subset hsub
          omega
  | succ steps ih =>
      intro path current hw hle
      cases current with
      | none => exact .top path
      | some n =>
          rw [follow]
          by_cases hdone : n ∈ done
          · rw [if_pos (List.contains_iff_mem.mpr hdone)]
            exact .known hdone
          · rw [if_neg fun hc => hdone (List.contains_iff_mem.mp hc)]
            by_cases hpath : n ∈ path
            · rw [if_pos (List.contains_iff_mem.mpr hpath)]
              exact .closed hdone hpath
            · rw [if_neg fun hc => hpath (List.contains_iff_mem.mp hc)]
              refine .step hdone hpath (ih _ _ (hw.step hdone hpath) ?_)
              rw [List.length_append, List.length_singleton]
              omega

/-! ## One walk after the other -/

/-- The walks from the starts end, and then these loops are closed, each turned
    to its smallest name. -/
inductive Collects (parent : String → Option String) :
    List String → List String → List (List String) → Prop
  | done (done : List String) : Collects parent [] done []
  | ended {start : String} {starts done path : List String} {loops : List (List String)} :
      Follows parent done [] (some start) path none →
      Collects parent starts (path ++ done) loops →
      Collects parent (start :: starts) done loops
  | closed {start : String} {starts done path loop : List String} {loops : List (List String)} :
      Follows parent done [] (some start) path (some loop) →
      Collects parent starts (path ++ done) loops →
      Collects parent (start :: starts) done (rotateToSmallest loop :: loops)

theorem collect_collects {known : List String} {steps : Nat}
    (hknown : ∀ x y, parent x = some y → x ∈ known) (hsteps : known.length + 1 ≤ steps) :
    ∀ starts done : List String, Collects parent starts done (collect parent steps starts done) := by
  intro starts
  induction starts with
  | nil => exact fun done => .done done
  | cons start starts ih =>
      intro done
      have hfollows := follow_follows hknown steps [] (some start) (.start parent done _) hsteps
      rw [collect]
      cases hfound : follow parent done steps [] (some start) with
      | mk path found =>
          rw [hfound] at hfollows
          cases found with
          | none => exact .ended hfollows (ih _)
          | some loop => exact .closed hfollows (ih _)

/-- The loops that are collected depend on nothing but the starts and their
    order. -/
theorem Collects.unique {starts : List String} {loops loops' : List (List String)}
    (h : Collects parent starts done loops) (h' : Collects parent starts done loops') :
    loops = loops' := by
  induction h generalizing loops' with
  | done done => cases h' with | done => rfl
  | ended hwalk _ ih =>
      cases h' with
      | ended hwalk' hrest =>
          obtain ⟨rfl, -⟩ := hwalk.unique hwalk'
          exact ih hrest
      | closed hwalk' _ => exact nomatch (hwalk.unique hwalk').2
  | closed hwalk _ ih =>
      cases h' with
      | ended hwalk' _ => exact nomatch (hwalk.unique hwalk').2
      | closed hwalk' hrest =>
          obtain ⟨rfl, hloop⟩ := hwalk.unique hwalk'
          rw [Option.some.inj hloop, ih hrest]

/-- Nothing leads out of the names that are done. -/
def Closed (parent : String → Option String) (done : List String) : Prop :=
  ∀ x ∈ done, ∀ y, parent x = some y → y ∈ done

theorem closed_nil : Closed parent [] := fun _ hx => nomatch hx

section Walk

variable {start : String} {loop : List String} {loops : List (List String)}

/-- A walk leaves nothing open. -/
theorem Follows.closed_append (h : Follows parent done [] (some start) path found)
    (hdone : Closed parent done) : Closed parent (path ++ done) := by
  obtain ⟨last, hw, hend⟩ := h.ends (.start parent done _)
  intro x hx y hxy
  rcases List.mem_append.mp hx with hpath | hx
  · rcases hw.parent_mem hpath with hlast | ⟨z, hz, hxz⟩
    · -- the last name leads to where the walk ended
      have hy : last = some y := hlast.symm.trans hxy
      rcases hend with ⟨-, hknown⟩ | ⟨n, hn, -, hmem, -⟩
      · exact List.mem_append_right _ (hknown y hy)
      · obtain rfl := Option.some.inj (hn.symm.trans hy)
        exact List.mem_append_left _ hmem
    · obtain rfl := Option.some.inj (hxz.symm.trans hxy)
      exact List.mem_append_left _ hz
  · exact List.mem_append_right _ (hdone x hx y hxy)

/-- What is walked stays walked. -/
theorem Follows.subset (h : Follows parent done path current result found) : path ⊆ result := by
  induction h with
  | top path => exact List.Subset.refl path
  | known _ => exact List.Subset.refl _
  | closed _ _ => exact List.Subset.refl _
  | step _ _ _ ih => exact fun x hx => ih (List.mem_append_left _ hx)

/-- The start of a walk is done afterwards. -/
theorem Follows.start_mem (h : Follows parent done [] (some start) path found) :
    start ∈ path ++ done := by
  cases h with
  | known hdone => exact List.mem_append_right _ hdone
  | closed _ hpath => exact List.mem_append_left _ hpath
  | step _ _ hrest => exact List.mem_append_left _ (hrest.subset List.mem_cons_self)

/-- What a walk closes is a loop of new names, which are done afterwards. -/
theorem Follows.isLoop (h : Follows parent done [] (some start) path (some loop)) :
    IsLoop parent loop ∧ ∀ n ∈ loop, n ∈ path ∧ n ∉ done := by
  obtain ⟨last, hw, hend⟩ := h.ends (.start parent done _)
  rcases hend with ⟨hnone, -⟩ | ⟨n, rfl, -, hmem, hfound⟩
  · exact nomatch hnone
  · obtain rfl := Option.some.inj hfound
    refine ⟨hw.isLoop hmem, fun m hm => ?_⟩
    have hpath : m ∈ path := (List.dropWhile_sublist _).subset hm
    exact ⟨hpath, hw.fresh m hpath⟩

/-- A loop that meets a walk, and is not done, is what the walk closes. -/
theorem Follows.closes (h : Follows parent done [] (some start) path found)
    (hc : IsLoop parent c) (hfresh : ∀ n ∈ c, n ∉ done) (hn : n ∈ path) (hnc : n ∈ c) :
    ∃ loop, found = some loop ∧ ∃ m ∈ loop, m ∈ c := by
  obtain ⟨last, hw, hend⟩ := h.ends (.start parent done _)
  obtain ⟨y, hy, hlast⟩ := hw.current_mem (fun x hx => hc.parent_mem hx) hn hnc
  rcases hend with ⟨-, hknown⟩ | ⟨m, hm, -, hmem, hfound⟩
  · exact absurd (hknown y hlast) (hfresh y hy)
  · obtain rfl := Option.some.inj (hm.symm.trans hlast)
    obtain ⟨xs, ys, rfl, hxs⟩ := List.eq_append_cons_of_mem hmem
    rw [(takeWhile_append_stop ys hxs).2] at hfound
    exact ⟨_, hfound, m, List.mem_cons_self, hy⟩

/-- Every loop that is collected is one, and none of its names was done. -/
theorem Collects.sound (h : Collects parent starts done loops) :
    ∀ c ∈ loops, IsLeastLoop parent c ∧ ∀ n ∈ c, n ∉ done := by
  induction h with
  | done done => exact fun c hc => nomatch hc
  | ended _ _ ih =>
      intro c hc
      obtain ⟨hloop, hfresh⟩ := ih c hc
      exact ⟨hloop, fun n hn hdone => hfresh n hn (List.mem_append_right _ hdone)⟩
  | closed hwalk _ ih =>
      intro c hc
      rcases List.mem_cons.mp hc with rfl | hc
      · obtain ⟨hloop, hfresh⟩ := hwalk.isLoop
        obtain ⟨hleast, hperm⟩ := hloop.rotateToSmallest
        exact ⟨hleast, fun n hn => (hfresh n (hperm.mem_iff.mp hn)).2⟩
      · obtain ⟨hloop, hfresh⟩ := ih c hc
        exact ⟨hloop, fun n hn hdone => hfresh n hn (List.mem_append_right _ hdone)⟩

/-- No name occurs in two of the loops. -/
theorem Collects.disjoint (h : Collects parent starts done loops) :
    loops.Pairwise List.Disjoint := by
  induction h with
  | done done => exact List.Pairwise.nil
  | ended _ _ ih => exact ih
  | closed hwalk hrest ih =>
      refine List.Pairwise.cons ?_ ih
      intro d hd n hn hnd
      obtain ⟨hloop, hnames⟩ := hwalk.isLoop
      have hpath := (hnames n (hloop.rotateToSmallest.2.mem_iff.mp hn)).1
      exact (hrest.sound d hd).2 n hnd (List.mem_append_left _ hpath)

/-- A name that a walk leaves out is one of the later starts. -/
theorem Follows.mem_starts (h : Follows parent done [] (some start) path found)
    (hn : n ∈ start :: starts) (hmiss : n ∉ path ++ done) : n ∈ starts := by
  refine (List.mem_cons.mp hn).resolve_left ?_
  rintro rfl
  exact hmiss h.start_mem

/-- Every loop that is not done is collected once one of its names is a
    start. -/
theorem Collects.complete (h : Collects parent starts done loops) (hdone : Closed parent done)
    (hc : IsLoop parent c) (hfresh : ∀ n ∈ c, n ∉ done) (hn : n ∈ starts) (hnc : n ∈ c) :
    ∃ d ∈ loops, ∃ m ∈ d, m ∈ c := by
  induction h with
  | done done => exact nomatch hn
  | @ended start starts done path loops hwalk _ ih =>
      have hmiss : ∀ m ∈ c, m ∉ path ++ done := by
        intro m hm hmem
        rcases List.mem_append.mp hmem with hpath | hold
        · obtain ⟨_, hnone, -⟩ := hwalk.closes hc hfresh hpath hm
          exact nomatch hnone
        · exact hfresh m hm hold
      exact ih (hwalk.closed_append hdone) hmiss (hwalk.mem_starts hn (hmiss n hnc))
  | @closed start starts done path loop loops hwalk _ ih =>
      by_cases hmeet : ∃ m ∈ c, m ∈ path
      · obtain ⟨m, hm, hpath⟩ := hmeet
        obtain ⟨_, hfound, k, hk, hkc⟩ := hwalk.closes hc hfresh hpath hm
        obtain rfl := Option.some.inj hfound
        have hperm := hwalk.isLoop.1.rotateToSmallest.2
        exact ⟨_, List.mem_cons_self, k, hperm.mem_iff.mpr hk, hkc⟩
      · have hmiss : ∀ m ∈ c, m ∉ path ++ done := by
          intro m hm hmem
          rcases List.mem_append.mp hmem with hpath | hold
          · exact hmeet ⟨m, hm, hpath⟩
          · exact hfresh m hm hold
        obtain ⟨d, hd, hshared⟩ :=
          ih (hwalk.closed_append hdone) hmiss (hwalk.mem_starts hn (hmiss n hnc))
        exact ⟨d, List.mem_cons_of_mem _ hd, hshared⟩

end Walk

end TypeLineage.Cycle
