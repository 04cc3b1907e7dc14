import Mathlib.Data.List.Basic
import TypeLineage.Command.OptionValue
import TypeLineage.Proofs.Files.Scan

/-! # Scans with more exclusions

    What a scan meets it meets one file at a time, and an exclusion looks at
    the path of a file and at the directories on the way to it.  So the
    exclusions only drop files from what a scan without any of them meets
    (`Scan.met_eq_filter`).

    A file that two walks come upon is listed as the first of them lists it,
    and one might fear that a directory that is closed to the first walk lets
    the second one list the file anew.  It does not: walks to one file go
    through the same directories, the first one only through the last of them,
    so what is closed to the first is closed to the others
    (`Scan.spares_of_entered`).

    What is left is sorted, and a cap takes from the front. -/

namespace TypeLineage

/-- Where what one step gives is replaced, what a list of steps gives is. -/
theorem mapM_eq_map {ε α β γ : Type} {f : α → Except ε β} {f' : α → Except ε γ} {g : β → γ}
    (hf : ∀ a, f' a = (f a).map g) (as : List α) : as.mapM f' = (as.mapM f).map (List.map g) := by
  induction as with
  | nil => rfl
  | cons a as ih =>
      rw [List.mapM_cons, List.mapM_cons, ih, hf a]
      cases f a with
      | error e => rfl
      | ok b =>
          show ((as.mapM f).map (List.map g) >>= fun cs => pure (g b :: cs))
            = ((as.mapM f) >>= fun bs => pure (b :: bs)).map (List.map g)
          cases as.mapM f with
          | error e => rfl
          | ok bs => rfl

namespace Scan

variable {t : FileTree} {root : Place} {excludes fewer more : List Exclusion}
variable {c k : Candidate} {cs : List Candidate}

/-! ## What exclusions drop -/

/-- No exclusion takes the candidate, and none closes a directory on the way. -/
def spares (root : Place) (excludes : List Exclusion) (c : Candidate) : Bool :=
  !c.entered.any (isPruned excludes) && !excludes.any (·.takes root c)

theorem isPruned_mono (h : fewer ⊆ more) {directory : String}
    (hpruned : isPruned fewer directory = true) : isPruned more directory = true := by
  obtain ⟨e, he, htakes⟩ := List.any_eq_true.mp hpruned
  exact List.any_eq_true.mpr ⟨e, h he, htakes⟩

theorem spares_iff :
    spares root excludes c = true
      ↔ (∀ directory ∈ c.entered, isPruned excludes directory = false)
        ∧ ∀ e ∈ excludes, e.takes root c = false := by
  simp [spares]

/-- What more exclusions spare, fewer spare too. -/
theorem spares_mono (h : fewer ⊆ more) (hspared : spares root more c = true) :
    spares root fewer c = true := by
  rw [spares_iff] at hspared ⊢
  obtain ⟨hentered, htaken⟩ := hspared
  constructor
  · intro directory hdirectory
    by_contra hpruned
    have hmore := isPruned_mono h (Bool.eq_true_of_not_eq_false hpruned)
    exact Bool.false_ne_true ((hentered directory hdirectory).symm.trans hmore)
  · intro e he
    exact htaken e (h he)

theorem isSelected_eq (root : Place) (globs : List Glob) (excludes : List Exclusion)
    (c : Candidate) :
    isSelected root globs excludes c
      = (isSelected root globs [] c && !excludes.any (·.takes root c)) := by
  simp [isSelected]

theorem fixedSelected_eq_map (t : FileTree) (root : Place) (globs : List Glob)
    (excludes : List Exclusion) (path : String) :
    fixedSelected t root globs excludes path
      = (fixedSelected t root globs [] path).map (·.filter (spares root excludes)) := by
  unfold fixedSelected
  dsimp only
  split
  · rfl
  · split
    · show Except.ok _ = Except.ok (List.filter _ (List.filter _ _))
      rw [List.filter_filter]
      congr 1
      refine List.filter_congr fun c hc => ?_
      obtain rfl := List.mem_singleton.mp hc
      rw [isSelected_eq root globs excludes, Bool.and_comm]
      rfl
    · rfl

theorem walk_eq_filter (t : FileTree) (root : Place) (excludes : List Exclusion) (base : String) :
    walk t root excludes base
      = (walk t root [] base).filter fun c => !c.entered.any (isPruned excludes) := by
  have hopen : ∀ directories : List String, directories.any (isPruned []) = false :=
    fun directories => List.any_eq_false.mpr fun _ _ => Bool.false_ne_true
  unfold walk
  dsimp only
  rw [List.filter_filterMap]
  refine congrArg (fun f => List.filterMap f _) (funext fun place => ?_)
  rw [hopen, if_neg Bool.false_ne_true]
  split
  · next hpruned => rw [Option.filter_some, hpruned, Bool.not_true, if_neg Bool.false_ne_true]
  · next hspared => rw [Option.filter_some, if_pos (by simpa using hspared)]

theorem walkSelected_eq_map (t : FileTree) (root : Place) (excludes : List Exclusion)
    (base : String) (texts : List String) :
    walkSelected t root excludes base texts
      = (walkSelected t root [] base texts).map (·.filter (spares root excludes)) := by
  unfold walkSelected
  dsimp only
  split
  · rfl
  · show Except.ok _ = Except.ok (List.filter _ (List.filter _ _))
    rw [walk_eq_filter, List.filter_filter, List.filter_filter]
    congr 1
    refine List.filter_congr fun c _ => ?_
    rw [isSelected_eq root _ excludes]
    -- a walk looks at the directories first, and at the path of what is left
    unfold spares
    generalize isSelected root _ [] c = selected
    cases selected <;> cases c.entered.any (isPruned excludes) <;> simp

/-- Exclusions drop files from what a scan meets without them. -/
theorem met_eq_filter (t : FileTree) (root : Place) (includes excludes : List String) :
    met t root ⟨includes, excludes⟩
      = (met t root ⟨includes, []⟩).map
          (·.filter (spares root (excludes.map Exclusion.read))) := by
  have hnamed := fixedSelected_eq_map t root ((includes.filter Glob.isFixed).map Glob.read)
    (excludes.map Exclusion.read)
  have hwalked := fun w : String × List String =>
    walkSelected_eq_map t root (excludes.map Exclusion.read) w.1 w.2
  unfold met
  dsimp only
  rw [mapM_eq_map hnamed, mapM_eq_map hwalked, List.map_nil]
  -- either both run into the same fault, or both come to an end
  cases (includes.filter Glob.isFixed).mapM
      (fixedSelected t root ((includes.filter Glob.isFixed).map Glob.read) []) with
  | error e => rfl
  | ok named =>
      cases (walksFor (includes.filter (!Glob.isFixed ·))).mapM
          (fun w => walkSelected t root [] w.1 w.2) with
      | error e => rfl
      | ok walked =>
          show Except.ok (List.flatten (named.map _) ++ List.flatten (walked.map _))
            = Except.ok (List.filter _ (named.flatten ++ walked.flatten))
          rw [List.filter_append, List.filter_flatten, List.filter_flatten]

/-! ## What is met first -/

/-- The directories on the way to the candidate are those behind the first so
    many names of its path. -/
def Candidate.IsOnWay (c : Candidate) : Prop :=
  ∃ fixed, c.entered = directoriesBetween fixed c.held

theorem directoriesBetween_sublist {fixed other : Nat} (h : fixed ≤ other) (path : String) :
    (directoriesBetween other path).Sublist (directoriesBetween fixed path) := by
  refine List.Sublist.map _ (List.monotone_filter_right _ fun n hn => ?_)
  exact decide_eq_true (Nat.lt_of_le_of_lt h (of_decide_eq_true hn))

/-- Of two ways to one file the shorter one goes through no other directories. -/
theorem directoriesBetween_subset {fixed other : Nat} {path : String}
    (h : (directoriesBetween fixed path).length ≤ (directoriesBetween other path).length) :
    directoriesBetween fixed path ⊆ directoriesBetween other path := by
  rcases Nat.le_total other fixed with hle | hle
  · exact (directoriesBetween_sublist hle path).subset
  · -- the way that starts further up is no longer, so the two are the same
    have hsame := (directoriesBetween_sublist hle path).eq_of_length_le h
    rw [hsame]
    exact List.Subset.refl _

theorem entered_subset (hc : c.IsOnWay) (hk : k.IsOnWay) (hheld : k.held = c.held)
    (hbefore : k.entered.length ≤ c.entered.length) : k.entered ⊆ c.entered := by
  obtain ⟨fixed, hfixed⟩ := hk
  obtain ⟨other, hother⟩ := hc
  rw [hfixed, hother, hheld] at hbefore ⊢
  exact directoriesBetween_subset hbefore

/-- Where a file is spared that is met later, it is spared where it is met first. -/
theorem spares_of_entered (hc : c.IsOnWay) (hk : k.IsOnWay) (hheld : k.held = c.held)
    (hbefore : k.entered.length ≤ c.entered.length) (hspared : spares root excludes c = true) :
    spares root excludes k = true := by
  rw [spares_iff] at hspared ⊢
  obtain ⟨hentered, htaken⟩ := hspared
  constructor
  · intro directory hdirectory
    exact hentered directory (entered_subset hc hk hheld hbefore hdirectory)
  · intro e he
    have hsame : e.takes root k = e.takes root c := by
      unfold Exclusion.takes
      rw [hheld]
    rw [hsame]
    exact htaken e he

/-- Behind the last name there is no directory. -/
theorem directoriesBetween_segments (path : String) :
    directoriesBetween (Path.segments path).length path = [] := by
  unfold directoriesBetween
  refine List.map_eq_nil_iff.mpr (List.filter_eq_nil_iff.mpr fun n hn hlast => ?_)
  have hbefore := List.mem_range.mp hn
  have hbehind := of_decide_eq_true hlast
  omega

theorem isOnWay_of_mem_met {p : Patterns} (h : met t root p = .ok cs) (hc : c ∈ cs) :
    c.IsOnWay := by
  rcases met_cases h hc with ⟨path, rfl, -⟩ | ⟨w, -, hwalk⟩
  · exact ⟨(Path.segments (Glob.dropDot path)).length, (directoriesBetween_segments _).symm⟩
  · obtain ⟨place, -, path, fixed, -, rfl⟩ := exists_of_mem_walk hwalk
    exact ⟨fixed, rfl⟩

/-! ## What a scan finds -/

theorem filter_spares_filter (h : fewer ⊆ more) (cs : List Candidate) :
    (cs.filter (spares root fewer)).filter (spares root more) = cs.filter (spares root more) := by
  rw [List.filter_filter]
  refine List.filter_congr fun c _ => ?_
  rw [Bool.eq_iff_iff, Bool.and_eq_true]
  exact and_iff_left_of_imp (spares_mono h)

/-- **More exclusions drop files from what a scan finds with fewer.** -/
theorem candidates_eq_filter (t : FileTree) (root : Place) (includes : List String)
    {excludes others : List String} (h : excludes ⊆ others) :
    candidates t root ⟨includes, others⟩
      = (candidates t root ⟨includes, excludes⟩).map
          (·.filter (spares root (others.map Exclusion.read))) := by
  rw [candidates_eq, candidates_eq, met_eq_filter t root includes others,
    met_eq_filter t root includes excludes]
  cases hmet : met t root ⟨includes, []⟩ with
  | error e => rfl
  | ok cs =>
      have hsub := List.map_subset Exclusion.read h
      show Except.ok (listed (cs.filter (spares root (others.map Exclusion.read))))
        = Except.ok ((listed (cs.filter (spares root (excludes.map Exclusion.read)))).filter _)
      rw [← listed_filter, filter_spares_filter hsub]
      -- what is dropped where it is met first is dropped where it is met again
      intro k hk hdropped d hd hheld
      by_contra hspared
      have hd' := isOnWay_of_mem_met hmet (List.mem_of_mem_filter hd)
      have hk' := isOnWay_of_mem_met hmet (List.mem_of_mem_filter (listed_subset hk))
      have hbefore := entered_le_of_mem_listed hk hd hheld
      have hspared' := Bool.eq_true_of_not_eq_false hspared
      have hkept := spares_of_entered hd' hk' hheld.symm hbefore hspared'
      exact Bool.false_ne_true (hdropped.symm.trans hkept)

theorem patternsOf_mono (written : List String) {excludes others : List String}
    (h : excludes ⊆ others) :
    (patternsOf written excludes).excludes ⊆ (patternsOf written others).excludes := by
  refine List.map_subset _ (List.append_subset.mpr ⟨List.subset_append_left _ _, ?_⟩)
  refine List.Subset.trans ?_ (List.subset_append_right _ _)
  intro text htext
  obtain ⟨exclude, hexclude, htext⟩ := List.mem_flatMap.mp htext
  exact List.mem_flatMap.mpr ⟨exclude, h hexclude, htext⟩

/-! ## Caps -/

theorem capped_some {α : Type} {n : Nat} (h : n ≠ 0) (items : List α) :
    capped (some n) items = items.take n :=
  if_neg h

end Scan

/-- Of the whole numbers those above zero are caps. -/
theorem OptionValue.cap?_of_whole {x : Number.Binary64} {m : Int} (h : x.whole? = some m) :
    cap? (some x) = if 0 < m then some m.toNat else none := by
  cases x with
  | infinite negative => exact nomatch h
  | notANumber => exact nomatch h
  | finite negative significand exponent =>
      simp only [Number.Binary64.whole?] at h
      split at h
      · obtain rfl := Option.some.inj h
        cases negative with
        | true => exact (if_neg (by simp)).symm
        | false =>
            show (if 0 < Number.Binary64.wholePart significand exponent then some _ else none) = _
            simp only [Bool.false_eq_true, if_false, Int.natCast_pos, Int.toNat_natCast]
      · exact nomatch h

/-! ## Narrower scans -/

/-- A scan narrows another if both run into one fault, or if what it finds is part
    of what the other finds, in the same order. -/
inductive Narrows : Except ScanError (List String) → Except ScanError (List String) → Prop
  | fault (e : ScanError) : Narrows (.error e) (.error e)
  | files {few many : List String} (h : few.Sublist many) : Narrows (.ok few) (.ok many)

namespace Selection

open Scan

/-- Of two selections that differ in what they exclude the one that excludes
    more is the narrower one. -/
theorem narrows_of_excludes (s wide : Selection) (hroot : s.root = wide.root)
    (hincludes : s.includes = wide.includes) (hexcludes : wide.allExcludes ⊆ s.allExcludes)
    (hcap : s.cap = none) (hwide : wide.cap = none) (home : Place) (t : FileTree) :
    Narrows (s.paths home t) (wide.paths home t) := by
  unfold paths
  rw [hroot, hincludes, hcap, hwide]
  dsimp only
  split
  · exact Narrows.fault .emptyPattern
  · have hfound := candidates_eq_filter t (Path.resolve home wide.root)
      (patternsOf (orDefault wide.includes sourceFiles) wide.allExcludes).includes
      (patternsOf_mono (orDefault wide.includes sourceFiles) hexcludes)
    rw [show candidates t _ (patternsOf _ s.allExcludes) = _ from hfound]
    cases candidates t (Path.resolve home wide.root)
        (patternsOf (orDefault wide.includes sourceFiles) wide.allExcludes) with
    | error e => exact Narrows.fault e
    | ok found =>
        -- the sort puts what is left in the order it had among all
        exact Narrows.files (Text.sorted_sublist (List.filter_sublist.map _))

theorem allExcludes_of_excludes {s : Selection} {excludes : List String}
    (h : s.excludes ⊆ excludes) : s.allExcludes ⊆ { s with excludes }.allExcludes := by
  intro glob hglob
  simp only [allExcludes, List.mem_append] at hglob ⊢
  rcases hglob with (halways | hgiven) | htest
  · exact Or.inl (Or.inl halways)
  · exact Or.inl (Or.inr (h hgiven))
  · exact Or.inr htest

theorem allExcludes_of_tests (s : Selection) :
    { s with includeTests := true }.allExcludes ⊆ { s with includeTests := false }.allExcludes := by
  intro glob hglob
  simp only [allExcludes, List.mem_append, if_true, List.not_mem_nil, or_false] at hglob
  exact List.mem_append_left _ (List.mem_append.mpr hglob)

/-- A cap takes the first files of those that are found without it. -/
theorem paths_of_cap (s : Selection) (cap : Option Nat) (home : Place) (t : FileTree) :
    { s with cap }.paths home t = ({ s with cap := none }.paths home t).map (capped cap) := by
  unfold paths
  dsimp only
  split
  · rfl
  · show (candidates t _ (patternsOf _ s.allExcludes) >>= _)
      = (candidates t _ (patternsOf _ s.allExcludes) >>= _).map _
    cases candidates t (Path.resolve home s.root)
        (patternsOf (orDefault s.includes sourceFiles) s.allExcludes) with
    | error e => rfl
    | ok found => rfl

/-- **More exclusions narrow a scan, and a cap cuts it off.**  With further globs
    to exclude, or without tests, a scan finds part of what it found before, in
    the same order.  A whole number above zero as the cap leaves so many of the
    first files, or all if there are not as many, and any other whole number
    leaves all. -/
theorem paths_narrow (s : Selection) (home : Place) (t : FileTree) :
    (∀ excludes, s.excludes ⊆ excludes →
        Narrows ({ s with excludes, cap := none }.paths home t)
          ({ s with cap := none }.paths home t))
      ∧ Narrows ({ s with includeTests := false, cap := none }.paths home t)
          ({ s with includeTests := true, cap := none }.paths home t)
      ∧ ∀ (x : Number.Binary64) (m : Int), x.whole? = some m →
          { s with cap := OptionValue.cap? (some x) }.paths home t
            = ({ s with cap := none }.paths home t).map fun files : List String =>
                if 0 < m then files.take (min m.toNat files.length) else files := by
  refine ⟨?_, ?_, ?_⟩
  · intro excludes h
    exact narrows_of_excludes { s with excludes, cap := none } { s with cap := none }
      rfl rfl (allExcludes_of_excludes h) rfl rfl home t
  · exact narrows_of_excludes { s with includeTests := false, cap := none }
      { s with includeTests := true, cap := none } rfl rfl (allExcludes_of_tests s) rfl rfl home t
  · intro x m hwhole
    rw [paths_of_cap, OptionValue.cap?_of_whole hwhole]
    refine congrArg (Except.map · _) (funext fun files => ?_)
    by_cases hm : 0 < m
    · rw [if_pos hm, if_pos hm, capped_some (by omega), ← List.take_eq_take_min]
    · rw [if_neg hm, if_neg hm]
      rfl

/-- Two walks come upon one file, and the directory it stands in is closed to the
    one that starts further up: the file stays, and the one in the other closed
    directory is dropped.  A cap drops the last. -/
theorem paths_narrow_of_two_walks :
    let t : FileTree := ⟨[(["a", "b", "x"], []), (["a", "c", "z"], [])], []⟩
    let s : Selection := ⟨".", ["./a/**", "a/b/*"], [], true, none⟩
    let narrow : Selection := { s with excludes := ["a/b", "a/c"] }
    s.paths [] t = .ok ["./a/c/z", "a/b/x"]
      ∧ narrow.paths [] t = .ok ["a/b/x"]
      ∧ Narrows (narrow.paths [] t) (s.paths [] t)
      ∧ Narrows ({ s with includeTests := false }.paths [] t) (s.paths [] t)
      ∧ { s with cap := OptionValue.cap? (some (.ofInt 1)) }.paths [] t = .ok ["./a/c/z"] := by
  intro t s narrow
  have hfound : s.found [] t = .ok [⟨"./a/c/z", "a/c/z", ["a", "c", "z"], ["a/c"]⟩,
      ⟨"a/b/x", "a/b/x", ["a", "b", "x"], []⟩] := by decide +kernel
  have hnarrow : narrow.found [] t = .ok [⟨"a/b/x", "a/b/x", ["a", "b", "x"], []⟩] := by
    decide +kernel
  have hpaths : s.paths [] t = .ok ["./a/c/z", "a/b/x"] :=
    (paths_of_ordered rfl (by decide +kernel) hfound (by decide +kernel)).trans
      (congrArg Except.ok (by decide +kernel))
  have hnarrowed : narrow.paths [] t = .ok ["a/b/x"] :=
    (paths_of_ordered rfl (by decide +kernel) hnarrow (by decide +kernel)).trans
      (congrArg Except.ok (by decide +kernel))
  obtain ⟨hexcludes, htests, hcap⟩ := paths_narrow s [] t
  have hone : (Number.Binary64.ofInt 1).whole? = some 1 := by decide +kernel
  refine ⟨hpaths, hnarrowed, hexcludes ["a/b", "a/c"] (List.nil_subset _), htests, ?_⟩
  exact (hcap (.ofInt 1) 1 hone).trans (congrArg (Except.map _) hpaths)

end Selection

end TypeLineage
