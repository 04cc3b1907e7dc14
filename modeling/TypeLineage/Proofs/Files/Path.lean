import Mathlib.Data.List.Basic
import TypeLineage.Files.Glob
import TypeLineage.Files.Tree

/-! # Where paths lead

    Names that are joined by strokes are the segments of the path, so what is
    written below a directory leads on from there, name by name.  Three things
    that may stand in a path lead nowhere: a stroke at the end of the directory,
    the directory `.`, and `./` in front of it all.

    A path is straight if every segment is a name.  Straight paths that lead
    from one directory to one place are one path. -/

namespace TypeLineage

namespace Path

/-- What a file or a directory can be called. -/
structure IsName (name : String) : Prop where
  ne_empty : name ≠ ""
  ne_here : name ≠ "."
  ne_up : name ≠ ".."
  no_stroke : '/' ∉ name.toList

instance (name : String) : Decidable (IsName name) :=
  decidable_of_iff (name ≠ "" ∧ name ≠ "." ∧ name ≠ ".." ∧ '/' ∉ name.toList)
    ⟨fun ⟨h₁, h₂, h₃, h₄⟩ => ⟨h₁, h₂, h₃, h₄⟩, fun ⟨h₁, h₂, h₃, h₄⟩ => ⟨h₁, h₂, h₃, h₄⟩⟩

/-- The path leads to the place below a directory. -/
def leadsTo (directory place : Place) (path : String) : Bool := inside directory path = place

/-- Every segment of the path is a name. -/
def IsStraight (path : String) : Prop := ∀ name ∈ segments path, IsName name

instance (path : String) : Decidable (IsStraight path) :=
  inferInstanceAs (Decidable (∀ name ∈ segments path, IsName name))

variable {root place : Place} {path other base name : String} {names : List String}

/-! ## Segments -/

theorem segments_append_stroke (a b : String) :
    segments (a ++ "/" ++ b) = segments a ++ segments b := by
  have hchars : (a ++ "/" ++ b).toList = a.toList ++ '/' :: b.toList := by
    rw [String.toList_append, String.toList_append, List.append_assoc]
    rfl
  unfold segments
  rw [hchars, List.splitOn_append_cons_self, List.map_append]

/-- Names that are joined by strokes are found between the strokes again. -/
theorem segments_intercalate (hne : names ≠ []) (h : ∀ n ∈ names, '/' ∉ n.toList) :
    segments ("/".intercalate names) = names := by
  have hsplit : (List.intercalate ['/'] (names.map String.toList)).splitOn '/'
      = names.map String.toList := by
    apply List.splitOn_intercalate
    · simpa using h
    · simpa using hne
  unfold segments
  rw [String.toList_intercalate]
  show ((List.intercalate ['/'] (names.map String.toList)).splitOn '/').map String.ofList = names
  rw [hsplit, List.map_map]
  exact (List.map_congr_left fun n _ => String.ofList_toList).trans (List.map_id names)

theorem segments_injective (h : segments path = segments other) : path = other := by
  have hparts : path.toList.splitOn '/' = other.toList.splitOn '/' :=
    List.map_injective_iff.mpr (fun _ _ => String.ofList_injective) h
  have hwhole : ∀ cs : List Char, List.intercalate ['/'] (cs.splitOn '/') = cs :=
    fun cs => List.intercalate_splitOn '/'
  apply String.toList_inj.mp
  rw [← hwhole path.toList, hparts, hwhole]

theorem segments_here : segments "." = ["."] := by decide +kernel

/-! ## From where a path leads -/

theorem isAbsolute_iff : isAbsolute path = true ↔ path.toList.head? = some '/' := by
  unfold isAbsolute
  rw [String.startsWith_string_iff]
  show ['/'] <+: path.toList ↔ _
  cases path.toList with
  | nil => simp
  | cons c cs => simp [eq_comm]

/-- What is written behind a path does not change where it leads from. -/
theorem isAbsolute_append (hbase : base ≠ "") (rest : String) :
    isAbsolute (base ++ rest) = isAbsolute base := by
  have hne : base.toList ≠ [] := fun h => hbase (String.toList_inj.mp h)
  rw [Bool.eq_iff_iff, isAbsolute_iff, isAbsolute_iff, String.toList_append,
    List.head?_append_of_ne_nil _ hne]

theorem IsStraight.isAbsolute_eq_false (h : IsStraight path) : isAbsolute path = false := by
  -- the first segment of an absolute path is empty
  by_contra habsolute
  rw [Bool.not_eq_false, isAbsolute_iff, List.head?_eq_some_iff] at habsolute
  obtain ⟨rest, hrest⟩ := habsolute
  refine (h "" ?_).ne_empty rfl
  unfold segments
  rw [hrest, ← List.nil_append ('/' :: rest), List.splitOn_append_cons_self]
  exact List.mem_map.mpr ⟨[], List.mem_append_left _ List.mem_cons_self, rfl⟩

theorem inside_eq_resolve (h : isAbsolute path = false) : inside root path = resolve root path := by
  unfold inside resolve
  rw [h]
  rfl

theorem toPosix_eq_self (h : '\\' ∉ path.toList) : toPosix path = path := by
  apply String.toList_inj.mp
  unfold toPosix
  rw [String.toList_map]
  refine (List.map_congr_left fun c hc => ?_).trans (List.map_id path.toList)
  exact if_neg fun (hc' : c = '\\') => h (hc' ▸ hc)

/-! ## Following names -/

theorem IsName.step_eq (h : IsName name) : step place name = place ++ [name] := by
  unfold step
  rw [if_neg (by simp [h.ne_empty, h.ne_here]), if_neg h.ne_up]

theorem foldl_step_names (h : ∀ n ∈ names, IsName n) : names.foldl step place = place ++ names := by
  induction names generalizing place with
  | nil => rw [List.append_nil]; rfl
  | cons n names ih =>
      rw [List.foldl_cons, (h n List.mem_cons_self).step_eq,
        ih fun m hm => h m (List.mem_cons_of_mem n hm), List.append_assoc, List.singleton_append]

theorem IsStraight.resolve_eq (h : IsStraight path) : resolve root path = root ++ segments path := by
  unfold resolve
  rw [h.isAbsolute_eq_false]
  exact foldl_step_names h

/-- Where straight paths from one directory lead tells them apart. -/
theorem IsStraight.eq_of_resolve_eq (hpath : IsStraight path) (hother : IsStraight other)
    (h : resolve root path = resolve root other) : path = other := by
  rw [hpath.resolve_eq, hother.resolve_eq] at h
  exact segments_injective (List.append_cancel_left h)

/-! ## Below a directory -/

theorem exists_of_endsWith_stroke (h : base.endsWith "/" = true) : ∃ bare, base = bare ++ "/" := by
  rw [String.endsWith_eq_endsWith_toSlice, String.Slice.endsWith_string_iff,
    String.copy_toSlice] at h
  obtain ⟨cs, hcs⟩ := h
  refine ⟨String.ofList cs, String.toList_inj.mp ?_⟩
  rw [String.toList_append, String.toList_ofList, hcs]

/-- It does not matter whether a stroke stands at the end of a directory. -/
theorem foldl_step_front (hhere : base ≠ ".") (rest : String) :
    (segments (front base ++ rest)).foldl step place
      = (segments rest).foldl step ((segments base).foldl step place) := by
  unfold front
  rw [if_neg hhere]
  by_cases hend : base.endsWith "/" = true
  · obtain ⟨bare, rfl⟩ := exists_of_endsWith_stroke hend
    have hbare := segments_append_stroke bare ""
    rw [String.append_empty] at hbare
    rw [if_pos hend, segments_append_stroke, hbare, List.foldl_append, List.foldl_append]
    rfl
  · rw [if_neg hend, segments_append_stroke, List.foldl_append]

theorem isAbsolute_front (hbase : base ≠ "") (hhere : base ≠ ".") (rest : String) :
    isAbsolute (front base ++ rest) = isAbsolute base := by
  unfold front
  rw [if_neg hhere]
  split
  · exact isAbsolute_append hbase rest
  · rw [String.append_assoc]
    exact isAbsolute_append hbase _

theorem resolve_here (root : Place) : resolve root "." = root := by
  have hrelative : isAbsolute "." = false := by decide +kernel
  unfold resolve
  rw [segments_here, hrelative]
  rfl

/-- The names below a directory lead on from where the directory is. -/
theorem resolve_front (hbase : base ≠ "") (hne : names ≠ []) (h : ∀ n ∈ names, IsName n) :
    resolve root (front base ++ "/".intercalate names) = resolve root base ++ names := by
  have hsegments := segments_intercalate hne fun n hn => (h n hn).no_stroke
  by_cases hhere : base = "."
  · have hfront : front "." = "" := rfl
    have hstraight : IsStraight ("/".intercalate names) := fun n hn => h n (hsegments ▸ hn)
    rw [hhere, resolve_here, hfront, String.empty_append, hstraight.resolve_eq, hsegments]
  · unfold resolve
    rw [isAbsolute_front hbase hhere, foldl_step_front hhere, hsegments, foldl_step_names h]

end Path

/-- Every file is called by names. -/
def FileTree.IsNamed (t : FileTree) : Prop := ∀ p ∈ t.places, ∀ name ∈ p, Path.IsName name

instance (t : FileTree) : Decidable t.IsNamed :=
  inferInstanceAs (Decidable (∀ p ∈ t.places, ∀ name ∈ p, Path.IsName name))

namespace Glob

open TypeLineage.Path

variable {root : Place} {path : String}

/-- A path is what `dropDot` leaves of it, or that behind `./`. -/
theorem dropDot_cases (path : String) : path = dropDot path ∨ path = "./" ++ dropDot path := by
  unfold dropDot
  split
  · rename_i h
    obtain ⟨cs, hcs⟩ := String.startsWith_string_iff.mp h
    refine Or.inr (String.toList_inj.mp ?_)
    rw [String.toList_append]
    show path.toList = "./".toList ++ (path.drop 2).copy.toList
    rw [String.toList_copy_drop, ← hcs]
    rfl
  · exact Or.inl rfl

theorem resolve_behindDot (h : isAbsolute path = false) :
    resolve root ("./" ++ path) = resolve root path := by
  have hrelative : isAbsolute ("./" ++ path) = false := by
    rw [isAbsolute_append (by decide)]
    decide +kernel
  have hsegments : segments ("./" ++ path) = "." :: segments path := by
    rw [← List.singleton_append, ← segments_here]
    exact segments_append_stroke "." path
  unfold resolve
  rw [hrelative, hsegments, h]
  rfl

/-- A leading `./` leads nowhere. -/
theorem resolve_dropDot (h : isAbsolute (dropDot path) = false) :
    resolve root path = resolve root (dropDot path) := by
  rcases dropDot_cases path with hpath | hpath
  · exact congrArg (resolve root) hpath
  · exact (congrArg (resolve root) hpath).trans (resolve_behindDot h)

/-- A path is no more absolute than what follows its leading `./`. -/
theorem isAbsolute_of_dropDot (h : isAbsolute (dropDot path) = false) : isAbsolute path = false := by
  rcases dropDot_cases path with hpath | hpath
  · rw [hpath, h]
  · rw [hpath, isAbsolute_append (by decide)]
    decide +kernel

end Glob

end TypeLineage

/-! ## Relative paths tell places apart

    A path is plain if no backslash is in it.  Following a plain path from a
    directory goes up some names of it and then down again, so the place that is
    reached begins with some first names of the directory, and plain names follow.

    The path from the directory back to that place is as many `..` as there are
    names to go up and then names down.  None of those is `..` itself, so it can
    be read off the path where the place is: no two places that plain paths
    lead to have one path. -/

namespace TypeLineage

namespace Path

/-- A name as it stands in a plain path. -/
structure IsPlainName (name : String) : Prop extends IsName name where
  no_backslash : '\\' ∉ name.toList

/-- The place begins with names of the directory, and plain names follow. -/
def IsReached (root place : Place) : Prop :=
  ∃ kept up down, root = kept ++ up ∧ place = kept ++ down ∧ ∀ n ∈ down, IsPlainName n

variable {root place other : Place} {path name : String}

/-! ### Following plain paths -/

theorem of_mem_splitOn {a : Char} {cs part : List Char} (h : part ∈ cs.splitOn a) :
    a ∉ part ∧ part ⊆ cs := by
  induction cs generalizing part with
  | nil =>
      rw [List.splitOn_nil, List.mem_singleton] at h
      subst h
      exact ⟨List.not_mem_nil, List.nil_subset _⟩
  | cons c cs ih =>
      rw [List.splitOn_cons_eq_if_modifyHead] at h
      by_cases hc : (c == a) = true
      · rw [if_pos hc] at h
        rcases List.mem_cons.mp h with rfl | h
        · exact ⟨List.not_mem_nil, List.nil_subset _⟩
        · exact ⟨(ih h).1, List.subset_cons_of_subset c (ih h).2⟩
      · -- the character stands in front of the first part
        obtain ⟨first, rest, hsplit⟩ := List.exists_cons_of_ne_nil (List.splitOn_ne_nil a cs)
        rw [if_neg hc, hsplit, List.modifyHead_cons] at h
        rcases List.mem_cons.mp h with rfl | h
        · obtain ⟨hmem, hsubset⟩ := ih (hsplit ▸ List.mem_cons_self)
          refine ⟨?_, List.cons_subset_cons c hsubset⟩
          rw [List.mem_cons, not_or]
          exact ⟨fun heq => hc (beq_iff_eq.mpr heq.symm), hmem⟩
        · obtain ⟨hmem, hsubset⟩ := ih (hsplit ▸ List.mem_cons_of_mem first h)
          exact ⟨hmem, List.subset_cons_of_subset c hsubset⟩

theorem of_mem_segments (h : name ∈ segments path) :
    '/' ∉ name.toList ∧ name.toList ⊆ path.toList := by
  obtain ⟨part, hpart, rfl⟩ := List.mem_map.mp h
  rw [String.toList_ofList]
  exact of_mem_splitOn hpart

theorem isReached_step (h : IsReached root place) (hstroke : '/' ∉ name.toList)
    (hbackslash : '\\' ∉ name.toList) : IsReached root (step place name) := by
  obtain ⟨kept, up, down, hroot, hplace, hdown⟩ := h
  subst hplace
  by_cases hhere : name = "" ∨ name = "."
  · have hstep : step (kept ++ down) name = kept ++ down := if_pos (by simpa using hhere)
    exact ⟨kept, up, down, hroot, hstep, hdown⟩
  · by_cases hup : name = ".."
    · subst hup
      show IsReached root (kept ++ down).dropLast
      rcases List.eq_nil_or_concat' down with rfl | ⟨others, last, rfl⟩
      · -- one more name of the directory is gone up
        rcases List.eq_nil_or_concat' kept with rfl | ⟨front, last, rfl⟩
        · exact ⟨[], up, [], hroot, rfl, hdown⟩
        · refine ⟨front, last :: up, [], ?_, ?_, hdown⟩
          · rw [hroot, List.append_assoc, List.singleton_append]
          · rw [List.append_nil, List.append_nil, List.dropLast_concat]
      · refine ⟨kept, up, others, hroot, ?_, fun n hn => hdown n (List.mem_append_left _ hn)⟩
        rw [← List.append_assoc, List.dropLast_concat]
    · rw [not_or] at hhere
      have hname : IsName name := ⟨hhere.1, hhere.2, hup, hstroke⟩
      refine ⟨kept, up, down ++ [name], hroot, ?_, ?_⟩
      · rw [hname.step_eq, List.append_assoc]
      · exact List.forall_mem_append.mpr
          ⟨hdown, List.forall_mem_singleton.mpr ⟨hname, hbackslash⟩⟩

theorem isReached_foldl_step {start : Place} (h : IsReached root start)
    (hplain : '\\' ∉ path.toList) : IsReached root ((segments path).foldl step start) := by
  have hnames : ∀ n ∈ segments path, '/' ∉ n.toList ∧ '\\' ∉ n.toList := fun n hn =>
    ⟨(of_mem_segments hn).1, fun h => hplain ((of_mem_segments hn).2 h)⟩
  generalize segments path = names at hnames
  induction names generalizing start with
  | nil => exact h
  | cons n rest ih =>
      obtain ⟨hfirst, hrest⟩ := List.forall_mem_cons.mp hnames
      exact ih (isReached_step h hfirst.1 hfirst.2) hrest

theorem isReached_self (root : Place) : IsReached root root :=
  ⟨root, [], [], (List.append_nil _).symm, (List.append_nil _).symm, List.forall_mem_nil _⟩

theorem isReached_inside (root : Place) (hplain : '\\' ∉ path.toList) :
    IsReached root (inside root path) :=
  isReached_foldl_step (isReached_self root) hplain

theorem isReached_resolve (root : Place) (hplain : '\\' ∉ path.toList) :
    IsReached root (resolve root path) := by
  refine isReached_foldl_step ?_ hplain
  split
  · exact ⟨[], root, [], rfl, rfl, List.forall_mem_nil _⟩
  · exact isReached_self root

theorem not_mem_toPosix (path : String) : '\\' ∉ (toPosix path).toList := by
  unfold toPosix
  rw [String.toList_map]
  intro hmem
  obtain ⟨c, -, hc⟩ := List.mem_map.mp hmem
  split at hc
  · exact absurd hc (by decide)
  · rename_i hne
    exact hne hc

/-! ### The way back -/

/-- The way from a directory to a place goes up to where they part, and then down. -/
theorem go_eq (root place : Place) : ∃ kept up down, root = kept ++ up ∧ place = kept ++ down
    ∧ relative.go root place = List.replicate up.length ".." ++ down := by
  have hparted : ∀ up down : Place, relative.go up down = up.map (fun _ => "..") ++ down →
      relative.go up down = List.replicate up.length ".." ++ down := by
    intro up down h
    rw [h, List.map_const']
  induction root generalizing place with
  | nil => exact ⟨[], [], place, rfl, rfl, hparted [] place rfl⟩
  | cons d ds ih =>
      cases place with
      | nil => exact ⟨[], d :: ds, [], rfl, rfl, hparted (d :: ds) [] rfl⟩
      | cons p ps =>
          by_cases heq : d = p
          · obtain ⟨kept, up, down, hroot, hplace, hgo⟩ := ih ps
            refine ⟨d :: kept, up, down, ?_, ?_, ?_⟩
            · rw [hroot, List.cons_append]
            · rw [← heq, hplace, List.cons_append]
            · rw [← hgo]
              exact if_pos heq
          · exact ⟨[], d :: ds, p :: ps, rfl, rfl, hparted _ _ (if_neg heq)⟩

theorem go_append (kept ds ps : Place) :
    relative.go (kept ++ ds) (kept ++ ps) = relative.go ds ps := by
  induction kept with
  | nil => rfl
  | cons k kept ih =>
      rw [← ih]
      exact if_pos rfl

/-- To a place that a plain path leads to the way down has plain names. -/
theorem IsReached.go_eq (h : IsReached root place) : ∃ kept up down, root = kept ++ up
    ∧ place = kept ++ down ∧ relative.go root place = List.replicate up.length ".." ++ down
    ∧ ∀ n ∈ down, IsPlainName n := by
  obtain ⟨front, rest, names, rfl, rfl, hnames⟩ := h
  obtain ⟨kept, up, down, rfl, rfl, hgo⟩ := Path.go_eq rest names
  refine ⟨front ++ kept, up, down, ?_, ?_, ?_, fun n hn => hnames n (List.mem_append_right _ hn)⟩
  · rw [List.append_assoc]
  · rw [List.append_assoc]
  · rw [go_append, hgo]

/-- The way tells where it leads. -/
theorem IsReached.eq_of_go_eq (hplace : IsReached root place) (hother : IsReached root other)
    (h : relative.go root place = relative.go root other) : place = other := by
  obtain ⟨kept, up, down, hroot, rfl, hgo, hdown⟩ := hplace.go_eq
  obtain ⟨kept', up', down', hroot', rfl, hgo', hdown'⟩ := hother.go_eq
  rw [hgo, hgo'] at h
  have hups : ∀ (n : Nat) {names : Place}, (∀ x ∈ names, IsPlainName x) →
      (List.replicate n ".." ++ names).count ".." = n := by
    intro n names hnames
    rw [List.count_append, List.count_replicate_self,
      List.count_eq_zero.mpr fun hmem => (hnames _ hmem).ne_up rfl, Nat.add_zero]
  have hlength : up.length = up'.length := by
    rw [← hups up.length hdown, h, hups up'.length hdown']
  rw [hlength] at h
  have hkept : kept = kept' := List.append_inj_left' (hroot.symm.trans hroot') hlength
  rw [hkept, List.append_cancel_left h]

/-! ### Relative paths -/

theorem IsReached.way (h : IsReached root place) :
    ∀ n ∈ relative.go root place, n ≠ "" ∧ '/' ∉ n.toList ∧ '\\' ∉ n.toList := by
  obtain ⟨kept, up, down, -, -, hgo, hdown⟩ := h.go_eq
  rw [hgo]
  intro n hn
  rcases List.mem_append.mp hn with hup | hmem
  · rw [List.eq_of_mem_replicate hup]
    decide
  · have hname := hdown n hmem
    exact ⟨hname.ne_empty, hname.no_stroke, hname.no_backslash⟩

/-- Names that are not empty are told apart where they are joined by strokes. -/
theorem intercalate_injective {names others : List String}
    (hnames : ∀ n ∈ names, n ≠ "" ∧ '/' ∉ n.toList)
    (hothers : ∀ n ∈ others, n ≠ "" ∧ '/' ∉ n.toList)
    (h : "/".intercalate names = "/".intercalate others) : names = others := by
  have hempty : ∀ parts : List String, (∀ n ∈ parts, n ≠ "" ∧ '/' ∉ n.toList) → parts ≠ [] →
      "/".intercalate parts ≠ "" := by
    intro parts hparts hne heq
    have hsegments := segments_intercalate hne fun n hn => (hparts n hn).2
    rw [heq] at hsegments
    exact (hparts "" (hsegments ▸ List.mem_cons_self)).1 rfl
  by_cases hne : names = []
  · subst hne
    by_contra hother
    exact hempty others hothers (Ne.symm hother) h.symm
  · have hother : others ≠ [] := by
      rintro rfl
      exact hempty names hnames hne h
    rw [← segments_intercalate hne fun n hn => (hnames n hn).2, h,
      segments_intercalate hother fun n hn => (hothers n hn).2]

theorem not_mem_intercalate {c : Char} (hc : c ≠ '/') {names : List String}
    (h : ∀ n ∈ names, c ∉ n.toList) : c ∉ ("/".intercalate names).toList := by
  rw [String.toList_intercalate]
  show c ∉ List.intercalate ['/'] _
  induction names with
  | nil => exact List.not_mem_nil
  | cons first rest ih =>
      obtain ⟨hfirst, hrest⟩ := List.forall_mem_cons.mp h
      cases rest with
      | nil =>
          rw [List.map_singleton, List.intercalate_singleton]
          exact hfirst
      | cons next rest =>
          rw [List.map_cons, List.map_cons, List.intercalate_cons_cons]
          simp only [List.mem_append, List.mem_singleton, not_or]
          exact ⟨⟨hfirst, hc⟩, ih hrest⟩

theorem toPosix_relative (h : IsReached root place) :
    toPosix (relative root place) = relative root place :=
  toPosix_eq_self (not_mem_intercalate (by decide) fun n hn => (h.way n hn).2.2)

/-- **Places that plain paths lead to from a directory have different paths from there.** -/
theorem IsReached.eq_of_relative_eq (hplace : IsReached root place) (hother : IsReached root other)
    (h : toPosix (relative root place) = toPosix (relative root other)) : place = other := by
  rw [toPosix_relative hplace, toPosix_relative hother] at h
  refine hplace.eq_of_go_eq hother (intercalate_injective ?_ ?_ h)
  · exact fun n hn => ⟨(hplace.way n hn).1, (hplace.way n hn).2.1⟩
  · exact fun n hn => ⟨(hother.way n hn).1, (hother.way n hn).2.1⟩

end Path

end TypeLineage
