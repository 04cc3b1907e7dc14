import Mathlib.Data.List.Basic
import TypeLineage.Files.Scan
import TypeLineage.Proofs.Files.Path
import TypeLineage.Proofs.Files.Tree
import TypeLineage.Proofs.Text.Order

/-! # The paths of a selection

    What a scan selects it sorts, and a cap takes from the end.  So the paths
    of a selection are in their order, however the files were met.  A glob
    without patterns asks for one file, and no walk is needed to find it. -/

namespace TypeLineage

/-- A computation that comes to an end came through its first step. -/
theorem exists_of_bind_eq_ok {ε α β : Type} {x : Except ε α} {next : α → Except ε β} {b : β}
    (h : (x >>= next) = .ok b) : ∃ a, x = .ok a ∧ next a = .ok b := by
  cases x with
  | error fault => exact nomatch h
  | ok a => exact ⟨a, rfl, h⟩

/-- A computation that comes to an end was not turned away before. -/
theorem of_ite_error_eq_ok {ε β : Type} {c : Prop} [Decidable c] {e : ε} {x : Except ε β} {b : β}
    (h : (if c then .error e else x) = .ok b) : x = .ok b := by
  by_cases hc : c
  · rw [if_pos hc] at h
    exact nomatch h
  · rwa [if_neg hc] at h

namespace Scan

theorem capped_sublist {α : Type} (cap : Option Nat) (items : List α) :
    (capped cap items).Sublist items := by
  cases cap with
  | none => exact List.Sublist.refl items
  | some n =>
      show (if n = 0 then items else items.take n).Sublist items
      split
      · exact List.Sublist.refl items
      · exact List.take_sublist n items

/-- A lone fixed path selects its file, if nothing excludes it. -/
theorem candidates_of_fixed {t : FileTree} {root : Place} {p : Patterns} {path : String}
    (hincludes : p.includes = [path]) (hfixed : Glob.isFixed path = true)
    (hblocked : t.isBlocked (Path.resolve root path) = false)
    (hfile : t.isFile (Path.resolve root path) = true) (hend : path.endsWith "/" = false)
    (hselected : isSelected root [Glob.read path] (p.excludes.map Exclusion.read)
      (.ofPath path (Path.resolve root path)) = true) :
    candidates t root p = .ok [.ofPath path (Path.resolve root path)] := by
  have hnamed : fixedSelected t root [Glob.read path] (p.excludes.map Exclusion.read) path
      = .ok [.ofPath path (Path.resolve root path)] := by
    simp [fixedSelected, hblocked, hfile, hend, hselected]
  have hwalks : walksFor [] = [] := rfl
  simp only [candidates, hincludes, List.filter_cons, List.filter_nil, hfixed, Bool.not_true,
    if_true, Bool.false_eq_true, if_false, hwalks, List.map_cons, List.map_nil, List.mapM_cons,
    List.mapM_nil, hnamed]
  show Except.ok (listed [_]) = _
  simp [listed, nearest, distinctCandidates]

end Scan

theorem Selection.pairwise_paths {s : Selection} {home : Place} {t : FileTree}
    {files : List String} (h : s.paths home t = .ok files) :
    files.Pairwise fun a b => Text.notAfter a b = true := by
  obtain ⟨found, -, h⟩ := exists_of_bind_eq_ok (of_ite_error_eq_ok h)
  obtain rfl := Except.ok.inj h
  exact (Text.sortByUnits_pairwise id _).sublist (Scan.capped_sublist _ _)

/-! ## A scan when a file is added

    A scan meets every file by itself: whether and under which paths it is found
    does not depend on the other files.  So a scan that comes to an end with a
    file that is new comes to an end without it, and finds the rest
    (`Scan.candidates_of_put`).

    Only the last step compares what was found, and keeps one of those that are
    held against the globs as the same path.  The paths of the new file do not
    take the place of others there, because what is held as one path leads to
    one place (`Scan.Candidate.Leads`). -/

/-- The files that a selection comes upon, in the order of the search. -/
def Selection.found (s : Selection) (home : Place) (t : FileTree) :
    Except ScanError (List Scan.Candidate) :=
  Scan.candidates t (Path.resolve home s.root)
    (Scan.patternsOf (Selection.orDefault s.includes Selection.sourceFiles) s.allExcludes)

theorem bind_eq_ok {ε α β : Type} {x : Except ε α} {next : α → Except ε β} {a : α} {b : β}
    (hx : x = .ok a) (hnext : next a = .ok b) : (x >>= next) = .ok b := by
  rw [hx]
  exact hnext

theorem bind_pure_eq_ok_iff {ε α β : Type} {x : Except ε α} {g : α → β} {b : β} :
    (x >>= fun a => pure (g a)) = .ok b ↔ ∃ a, x = .ok a ∧ g a = b := by
  constructor
  · intro h
    obtain ⟨a, hx, h⟩ := exists_of_bind_eq_ok h
    exact ⟨a, hx, Except.ok.inj h⟩
  · rintro ⟨a, hx, rfl⟩
    exact bind_eq_ok hx rfl

theorem ite_error_eq_ok_iff {ε β : Type} {p : Prop} [Decidable p] {e : ε} {x : Except ε β} {b : β} :
    (if p then .error e else x) = .ok b ↔ ¬ p ∧ x = .ok b := by
  by_cases hp : p
  · rw [if_pos hp]
    exact iff_of_false (fun h => nomatch h) fun h => h.1 hp
  · rw [if_neg hp, and_iff_right hp]

/-- Where one step can be changed, a list of steps can be. -/
theorem mapM_eq_ok_map {ε α β : Type} {f f' : α → Except ε β} {g : β → β}
    (hf : ∀ a b, f' a = .ok b → f a = .ok (g b)) {as : List α} {bs : List β}
    (h : as.mapM f' = .ok bs) : as.mapM f = .ok (bs.map g) := by
  induction as generalizing bs with
  | nil =>
      obtain rfl := Except.ok.inj h
      rfl
  | cons a as ih =>
      rw [List.mapM_cons] at h ⊢
      obtain ⟨b, hb, h⟩ := exists_of_bind_eq_ok h
      obtain ⟨bs, hbs, h⟩ := exists_of_bind_eq_ok h
      obtain rfl := Except.ok.inj h
      exact bind_eq_ok (hf a b hb) (bind_eq_ok (ih hbs) rfl)

/-- What comes of a list of steps comes of one of them. -/
theorem exists_of_mem_mapM {ε α β : Type} {f : α → Except ε β} {as : List α} {bs : List β}
    {b : β} (h : as.mapM f = .ok bs) (hb : b ∈ bs) : ∃ a ∈ as, f a = .ok b := by
  induction as generalizing bs with
  | nil =>
      obtain rfl := Except.ok.inj h
      exact nomatch hb
  | cons a as ih =>
      rw [List.mapM_cons] at h
      obtain ⟨b', hb', h⟩ := exists_of_bind_eq_ok h
      obtain ⟨bs', hbs', h⟩ := exists_of_bind_eq_ok h
      obtain rfl := Except.ok.inj h
      rcases List.mem_cons.mp hb with rfl | hb
      · exact ⟨a, List.mem_cons_self, hb'⟩
      · obtain ⟨a', ha', hfa'⟩ := ih hbs' hb
        exact ⟨a', List.mem_cons_of_mem a ha', hfa'⟩

/-! ## Where walks start -/

namespace Glob

theorem intercalate_ne_empty {parts : List String} (hne : parts ≠ []) (hempty : parts ≠ [""]) :
    "/".intercalate parts ≠ "" := by
  intro h
  have hchars := congrArg String.toList h
  rw [String.toList_intercalate] at hchars
  match parts with
  | [part] =>
      refine hempty (congrArg (fun p => [p]) (String.toList_inj.mp ?_))
      simpa using hchars
  | part :: other :: rest =>
      simp [List.intercalate] at hchars

theorem frontOf_ne_empty (steps : Nat) (parts : List String) : frontOf steps parts ≠ "" := by
  induction steps generalizing parts with
  | zero => exact (by decide : "." ≠ "")
  | succ steps ih =>
      unfold frontOf
      split
      · exact (by decide : "." ≠ "")
      · exact (by decide : "/" ≠ "")
      · rename_i hne hempty
        show (if _ then _ else _) ≠ ""
        split
        · exact ih _
        · exact intercalate_ne_empty hne hempty

theorem base_ne_empty (text : String) : base text ≠ "" := frontOf_ne_empty _ _

end Glob

namespace Scan

variable {t : FileTree} {root place : Place} {content : List UInt8} {excludes : List Exclusion}
variable {globs : List Glob} {texts : List String} {path base : String} {c d : Candidate}
variable {selected kept cs : List Candidate} {walks : List (String × List String)}

theorem fst_ne_empty_of_mem_addTo (hbase : base ≠ "") (hwalks : ∀ w ∈ walks, w.1 ≠ "")
    (glob : String) : ∀ w ∈ byBase.addTo base glob walks, w.1 ≠ "" := by
  induction walks with
  | nil => simpa [byBase.addTo] using hbase
  | cons walk rest ih =>
      obtain ⟨b, gs⟩ := walk
      have hfirst := hwalks _ List.mem_cons_self
      have hrest := ih fun w hw => hwalks w (List.mem_cons_of_mem _ hw)
      unfold byBase.addTo
      split
      · exact List.forall_mem_cons.mpr ⟨hfirst, fun w hw => hwalks w (List.mem_cons_of_mem _ hw)⟩
      · exact List.forall_mem_cons.mpr ⟨hfirst, hrest⟩

theorem fst_ne_empty_of_mem_byBase (texts : List String) : ∀ w ∈ byBase texts, w.1 ≠ "" := by
  unfold byBase
  apply List.foldlRecOn (motive := fun walks : List (String × List String) => ∀ w ∈ walks, w.1 ≠ "")
  · exact List.forall_mem_nil _
  · intro walks hwalks g _
    exact fst_ne_empty_of_mem_addTo (Glob.base_ne_empty g) hwalks g

/-- Every walk starts at a directory that is written down. -/
theorem fst_ne_empty_of_mem_walksFor (texts : List String) : ∀ w ∈ walksFor texts, w.1 ≠ "" := by
  intro w hw
  unfold walksFor at hw
  rcases List.mem_append.mp hw with hw | hw
  · exact fst_ne_empty_of_mem_byBase _ w hw
  · split at hw
    · rw [List.mem_singleton.mp hw]
      exact (by decide : "." ≠ "")
    · exact fst_ne_empty_of_mem_byBase _ w hw

/-! ## Where candidates stand -/

/-- The candidate stands where its path leads, and is held against the globs as
    its path without a leading `./`. -/
structure Candidate.Leads (root : Place) (c : Candidate) : Prop where
  held_eq : c.held = Glob.dropDot c.path
  place_eq : Path.resolve root c.path = c.place

theorem of_mem_fixedSelected
    (h : fixedSelected t root globs excludes path = .ok selected) (hc : c ∈ selected) :
    c = .ofPath path (Path.resolve root path) ∧ t.isFile c.place = true := by
  have hselected := of_ite_error_eq_ok h
  split at hselected
  · next hfile =>
      obtain rfl := Except.ok.inj hselected
      obtain rfl := List.mem_singleton.mp (List.mem_of_mem_filter hc)
      rw [Bool.and_eq_true] at hfile
      exact ⟨rfl, hfile.1⟩
  · obtain rfl := Except.ok.inj hselected
    exact nomatch hc

/-- What a walk comes upon stands below its start, and the path goes on from the
    base by the names below the start. -/
theorem exists_of_mem_walk (hc : c ∈ walk t root excludes base) :
    ∃ place ∈ t.below (Path.resolve root base), ∃ path fixed,
      path = Path.front base ++ "/".intercalate (place.drop (Path.resolve root base).length)
        ∧ c = { Candidate.ofPath path place with
            entered := directoriesBetween fixed (Glob.dropDot path) } := by
  obtain ⟨place, hplace, hcandidate⟩ := List.mem_filterMap.mp hc
  dsimp only at hcandidate
  split at hcandidate
  · exact nomatch hcandidate
  · exact ⟨place, hplace, _, _, rfl, (Option.some.inj hcandidate).symm⟩

theorem leads_of_mem_walk (hnames : t.IsNamed)
    (hbase : base ≠ "") (hc : c ∈ walk t root excludes base) : c.Leads root := by
  obtain ⟨p, hp, path, fixed, hpath, rfl⟩ := exists_of_mem_walk hc
  obtain ⟨hplace, hbelow⟩ := List.mem_filter.mp hp
  rw [Bool.and_eq_true, decide_eq_true_eq, List.isPrefixOf_iff_prefix] at hbelow
  obtain ⟨⟨names, rfl⟩, hlength⟩ := hbelow
  refine ⟨rfl, ?_⟩
  show Path.resolve root path = Path.resolve root base ++ names
  rw [hpath, List.drop_left]
  refine Path.resolve_front hbase ?_ fun name hname => ?_
  · rintro rfl
    simp at hlength
  · exact hnames _ hplace name (List.mem_append_right _ hname)

/-- Where a candidate stands is told by what is held against the globs. -/
theorem Candidate.Leads.place_eq_of_held_eq (hc : c.Leads root) (hd : d.Leads root)
    (hheld : c.held = d.held) (hrelative : Path.isAbsolute d.held = false) :
    c.place = d.place := by
  rw [hd.held_eq] at hrelative
  have hpaths : Glob.dropDot c.path = Glob.dropDot d.path := by
    rw [← hc.held_eq, hheld, hd.held_eq]
  rw [← hc.place_eq, ← hd.place_eq, Glob.resolve_dropDot hrelative,
    Glob.resolve_dropDot (hpaths ▸ hrelative), hpaths]

/-- The path is not absolute and is written without backslashes. -/
structure Candidate.IsPlain (c : Candidate) : Prop where
  relative : Path.isAbsolute c.held = false
  no_backslash : '\\' ∉ c.path.toList

instance (c : Candidate) : Decidable c.IsPlain :=
  decidable_of_iff (Path.isAbsolute c.held = false ∧ '\\' ∉ c.path.toList)
    ⟨fun ⟨h₁, h₂⟩ => ⟨h₁, h₂⟩, fun ⟨h₁, h₂⟩ => ⟨h₁, h₂⟩⟩

/-- A plain path leads from the root of the scan to the candidate, with strokes
    of one kind as well. -/
theorem Candidate.Leads.inside_toPosix (hc : c.Leads root) (hplain : c.IsPlain) :
    Path.inside root (Path.toPosix c.path) = c.place := by
  have hrelative := hplain.relative
  rw [hc.held_eq] at hrelative
  rw [Path.toPosix_eq_self hplain.no_backslash,
    Path.inside_eq_resolve (Glob.isAbsolute_of_dropDot hrelative), hc.place_eq]

/-- All files that a scan meets, also those it meets again. -/
def met (t : FileTree) (root : Place) (p : Patterns) : Except ScanError (List Candidate) := do
  let fixed := p.includes.filter Glob.isFixed
  let moving := p.includes.filter (!Glob.isFixed ·)
  let excludes := p.excludes.map Exclusion.read
  let named ← fixed.mapM (fixedSelected t root (fixed.map Glob.read) excludes)
  let walked ← (walksFor moving).mapM fun (base, globs) =>
    walkSelected t root excludes base globs
  pure (named.flatten ++ walked.flatten)

theorem candidates_eq (t : FileTree) (root : Place) (p : Patterns) :
    candidates t root p = met t root p >>= fun cs => pure (listed cs) := by
  unfold candidates met
  simp only [bind_assoc, pure_bind]

theorem candidates_eq_ok_iff {p : Patterns} :
    candidates t root p = .ok selected
      ↔ ∃ cs, met t root p = .ok cs ∧ listed cs = selected := by
  rw [candidates_eq]
  exact bind_pure_eq_ok_iff

/-- What a scan meets is named by a fixed path, or some walk comes upon it. -/
theorem met_cases {p : Patterns} (h : met t root p = .ok cs) (hc : c ∈ cs) :
    (∃ path, c = .ofPath path (Path.resolve root path) ∧ t.isFile c.place = true)
      ∨ ∃ w ∈ walksFor (p.includes.filter (!Glob.isFixed ·)),
        c ∈ walk t root (p.excludes.map Exclusion.read) w.1 := by
  obtain ⟨named, hnamed, h⟩ := exists_of_bind_eq_ok h
  obtain ⟨walked, hwalked, h⟩ := exists_of_bind_eq_ok h
  obtain rfl := Except.ok.inj h
  rcases List.mem_append.mp hc with hc | hc
  · obtain ⟨selected, hmem, hc⟩ := List.mem_flatten.mp hc
    obtain ⟨path, -, hpath⟩ := exists_of_mem_mapM hnamed hmem
    exact Or.inl ⟨path, of_mem_fixedSelected hpath hc⟩
  · obtain ⟨selected, hmem, hc⟩ := List.mem_flatten.mp hc
    obtain ⟨w, hw, hwalk⟩ := exists_of_mem_mapM hwalked hmem
    obtain rfl := Except.ok.inj (of_ite_error_eq_ok hwalk)
    exact Or.inr ⟨w, hw, List.mem_of_mem_filter hc⟩

theorem leads_of_mem_met {p : Patterns} (hnames : t.IsNamed)
    (h : met t root p = .ok cs) (hc : c ∈ cs) : c.Leads root := by
  rcases met_cases h hc with ⟨path, rfl, -⟩ | ⟨w, hw, hwalk⟩
  · exact ⟨rfl, rfl⟩
  · exact leads_of_mem_walk hnames (fst_ne_empty_of_mem_walksFor _ w hw) hwalk

/-- Candidates that are held as different paths are listed under different ones. -/
theorem nodup_paths (hleads : ∀ c ∈ cs, c.Leads root)
    (hdistinct : cs.Pairwise fun a b => a.held ≠ b.held) : (cs.map (·.path)).Nodup := by
  refine List.pairwise_map.mpr (hdistinct.imp_of_mem fun ha hb hne heq => hne ?_)
  rw [(hleads _ ha).held_eq, (hleads _ hb).held_eq, heq]

/-- A place is reached in one way if all ways are straight. -/
theorem length_le_one_of_straight (hleads : ∀ c ∈ cs, c.Leads root)
    (hdistinct : cs.Pairwise fun a b => a.held ≠ b.held) (hplace : ∀ c ∈ cs, c.place = place)
    (hstraight : ∀ c ∈ cs, Path.IsStraight (Glob.dropDot c.path)) : cs.length ≤ 1 := by
  have hresolve : ∀ c ∈ cs, Path.resolve root (Glob.dropDot c.path) = place := by
    intro c hc
    rw [← Glob.resolve_dropDot (hstraight c hc).isAbsolute_eq_false, (hleads c hc).place_eq,
      hplace c hc]
  match cs with
  | [] => exact Nat.zero_le 1
  | [_] => exact Nat.le_refl 1
  | a :: b :: rest =>
      have ha : a ∈ a :: b :: rest := List.mem_cons_self
      have hb : b ∈ a :: b :: rest := List.mem_cons_of_mem a List.mem_cons_self
      -- the two are held as different paths, but straight paths to one place are one path
      refine absurd ?_ ((List.pairwise_cons.mp hdistinct).1 b List.mem_cons_self)
      rw [(hleads a ha).held_eq, (hleads b hb).held_eq]
      exact (hstraight a ha).eq_of_resolve_eq (hstraight b hb)
        ((hresolve a ha).trans (hresolve b hb).symm)

/-! ## What is kept of several under one name -/

/-- Keeps a candidate if none that is kept is held as the same path. -/
def keepFirst (kept : List Candidate) (c : Candidate) : List Candidate :=
  if kept.any (·.held = c.held) then kept else kept ++ [c]

theorem prefix_keepFirst (kept : List Candidate) (c : Candidate) : kept <+: keepFirst kept c := by
  unfold keepFirst
  split
  · exact List.prefix_rfl
  · exact List.prefix_append kept [c]

theorem prefix_foldl_keepFirst (kept cs : List Candidate) : kept <+: cs.foldl keepFirst kept := by
  induction cs generalizing kept with
  | nil => exact List.prefix_rfl
  | cons c cs ih => exact (prefix_keepFirst kept c).trans (ih _)

theorem exists_keepFirst (kept : List Candidate) (c : Candidate) :
    ∃ k ∈ keepFirst kept c, k.held = c.held := by
  unfold keepFirst
  split
  · next hany =>
      obtain ⟨k, hk, hheld⟩ := List.any_eq_true.mp hany
      exact ⟨k, hk, of_decide_eq_true hheld⟩
  · exact ⟨c, List.mem_append_right _ List.mem_cons_self, rfl⟩

theorem mem_of_mem_foldl_keepFirst (hc : c ∈ cs.foldl keepFirst kept) : c ∈ kept ∨ c ∈ cs := by
  induction cs generalizing kept with
  | nil => exact Or.inl hc
  | cons d cs ih =>
      rcases ih hc with hkept | hcs
      · unfold keepFirst at hkept
        split at hkept
        · exact Or.inl hkept
        · rcases List.mem_append.mp hkept with hkept | hd
          · exact Or.inl hkept
          · exact Or.inr (List.mem_cons.mpr (Or.inl (List.mem_singleton.mp hd)))
      · exact Or.inr (List.mem_cons_of_mem d hcs)

theorem mem_of_mem_distinctCandidates (hc : c ∈ distinctCandidates cs) : c ∈ cs :=
  (mem_of_mem_foldl_keepFirst hc).resolve_left (List.not_mem_nil)

theorem pairwise_foldl_keepFirst (h : kept.Pairwise fun a b => a.held ≠ b.held) :
    (cs.foldl keepFirst kept).Pairwise fun a b => a.held ≠ b.held := by
  induction cs generalizing kept with
  | nil => exact h
  | cons c cs ih =>
      refine ih ?_
      unfold keepFirst
      split
      · exact h
      · -- nothing that is kept is held like the candidate that is added
        rename_i hnone
        refine List.pairwise_append.mpr ⟨h, List.pairwise_singleton _ c, ?_⟩
        intro a ha b hb heq
        obtain rfl := List.mem_singleton.mp hb
        exact hnone (List.any_eq_true.mpr ⟨a, ha, decide_eq_true heq⟩)

/-- No two that are kept are held as one path. -/
theorem pairwise_distinctCandidates (cs : List Candidate) :
    (distinctCandidates cs).Pairwise fun a b => a.held ≠ b.held :=
  pairwise_foldl_keepFirst List.Pairwise.nil

theorem filter_keepFirst_of_dropped {p : Candidate → Bool} (hd : p d = false) :
    (keepFirst kept d).filter p = kept.filter p := by
  unfold keepFirst
  split
  · rfl
  · rw [List.filter_append, List.filter_singleton, hd]
    exact List.append_nil _

theorem filter_keepFirst_of_kept {p : Candidate → Bool} (hd : p d = true)
    (h : ∀ c ∈ kept, c.held = d.held → p c = true) :
    (keepFirst kept d).filter p = keepFirst (kept.filter p) d := by
  -- the one that keeps `d` out is not dropped itself
  have hany : (kept.filter p).any (·.held = d.held) = kept.any (·.held = d.held) := by
    rw [Bool.eq_iff_iff, List.any_eq_true, List.any_eq_true]
    refine exists_congr fun c => and_congr_left fun heq => ?_
    rw [List.mem_filter]
    exact and_iff_left_of_imp fun hc => h c hc (of_decide_eq_true heq)
  unfold keepFirst
  rw [hany]
  split
  · rfl
  · rw [List.filter_append, List.filter_singleton, hd]
    rfl

/-- Candidates may be dropped before the others are compared or afterwards, if
    none of the dropped ones keeps out another. -/
theorem foldl_keepFirst_filter {p : Candidate → Bool}
    (h : ∀ c ∈ cs.foldl keepFirst kept, p c = false → ∀ d ∈ cs, d.held = c.held → p d = false) :
    (cs.filter p).foldl keepFirst (kept.filter p) = (cs.foldl keepFirst kept).filter p := by
  induction cs generalizing kept with
  | nil => rfl
  | cons d cs ih =>
      have hrest := @ih (keepFirst kept d) fun c hc hpc e he =>
        h c hc hpc e (List.mem_cons_of_mem d he)
      rw [List.foldl_cons, ← hrest]
      cases hd : p d with
      | false =>
          rw [filter_keepFirst_of_dropped hd, List.filter_cons_of_neg (by simp [hd])]
      | true =>
          rw [List.filter_cons_of_pos hd, List.foldl_cons, filter_keepFirst_of_kept hd]
          intro c hc heq
          have hkept := (prefix_foldl_keepFirst kept (d :: cs)).subset hc
          by_contra hpc
          have hdropped := h c hkept (Bool.eq_false_iff.mpr hpc) d List.mem_cons_self heq.symm
          exact Bool.false_ne_true (hdropped.symm.trans hd)

theorem distinctCandidates_filter {p : Candidate → Bool}
    (h : ∀ c ∈ distinctCandidates cs, p c = false → ∀ d ∈ cs, d.held = c.held → p d = false) :
    distinctCandidates (cs.filter p) = (distinctCandidates cs).filter p :=
  foldl_keepFirst_filter h

/-- Of several that are held as one path one is kept. -/
theorem exists_distinctCandidate (hc : c ∈ cs) : ∃ k ∈ distinctCandidates cs, k.held = c.held := by
  suffices ∀ kept : List Candidate, ∃ k ∈ cs.foldl keepFirst kept, k.held = c.held from this []
  induction cs with
  | nil => exact nomatch hc
  | cons d cs ih =>
      intro kept
      rcases List.mem_cons.mp hc with rfl | hc
      · obtain ⟨k, hk, hheld⟩ := exists_keepFirst kept c
        exact ⟨k, (prefix_foldl_keepFirst _ cs).subset hk, hheld⟩
      · exact ih hc _

/-! ## What is met first -/

theorem mem_nearest_iff :
    c ∈ nearest cs ↔ c ∈ cs ∧ ∀ d ∈ cs, d.held = c.held → c.entered.length ≤ d.entered.length := by
  unfold nearest
  simp [List.mem_filter, List.all_eq_true, Decidable.imp_iff_not_or]

/-- Of those that are held as one path some is met first. -/
theorem exists_nearest (hc : c ∈ cs) : ∃ d ∈ nearest cs, d.held = c.held := by
  induction hlength : c.entered.length using Nat.strongRecOn generalizing c with
  | ind n ih =>
      by_cases hfirst : c ∈ nearest cs
      · exact ⟨c, hfirst, rfl⟩
      · -- another one is met before, and it is held as the same path
        simp only [mem_nearest_iff, hc, true_and, not_forall, Nat.not_le] at hfirst
        obtain ⟨d, hd, hheld, hbefore⟩ := hfirst
        obtain ⟨k, hk, hkheld⟩ := ih _ (hlength ▸ hbefore) hd rfl
        exact ⟨k, hk, hkheld.trans hheld⟩

theorem listed_subset : listed cs ⊆ cs := by
  intro c hc
  exact (mem_nearest_iff.mp (mem_of_mem_distinctCandidates hc)).1

/-- What is held like a listed candidate is not met before it. -/
theorem entered_le_of_mem_listed (hc : c ∈ listed cs) (hd : d ∈ cs) (hheld : d.held = c.held) :
    c.entered.length ≤ d.entered.length :=
  (mem_nearest_iff.mp (mem_of_mem_distinctCandidates hc)).2 d hd hheld

/-- Each path that is held is listed by a candidate that no other is met before. -/
theorem exists_listed (hc : c ∈ cs) :
    ∃ k ∈ listed cs, k.held = c.held ∧ k.entered.length ≤ c.entered.length := by
  obtain ⟨d, hd, hdheld⟩ := exists_nearest hc
  obtain ⟨k, hk, hkheld⟩ := exists_distinctCandidate hd
  have hheld : k.held = c.held := hkheld.trans hdheld
  exact ⟨k, hk, hheld, entered_le_of_mem_listed hk hc hheld.symm⟩

/-- Candidates may be dropped before those met first are chosen or afterwards, if
    none is dropped while another that is held like it and met after it is kept. -/
theorem nearest_filter {p : Candidate → Bool}
    (h : ∀ c ∈ cs, p c = true → ∀ d ∈ cs, d.held = c.held →
      ∃ k ∈ cs, p k = true ∧ k.held = c.held ∧ k.entered.length ≤ d.entered.length) :
    nearest (cs.filter p) = (nearest cs).filter p := by
  unfold nearest
  rw [List.filter_filter, List.filter_filter]
  refine List.filter_congr fun c hc => ?_
  cases hp : p c with
  | false => rw [Bool.and_false, Bool.false_and]
  | true =>
      rw [Bool.and_true, Bool.true_and, Bool.eq_iff_iff, List.all_eq_true, List.all_eq_true]
      simp only [List.mem_filter, Bool.or_eq_true, decide_eq_true_eq]
      constructor
      · intro hfirst d hd
        by_cases hheld : d.held = c.held
        · obtain ⟨k, hk, hpk, hkheld, hbefore⟩ := h c hc hp d hd hheld
          have hck := (hfirst k ⟨hk, hpk⟩).resolve_left (not_not_intro hkheld)
          exact Or.inr (Nat.le_trans hck hbefore)
        · exact Or.inl hheld
      · intro hfirst d hd
        exact hfirst d hd.1

/-- Candidates may be dropped before the listed ones are chosen or afterwards,
    if with a listed one all are dropped that are held like it. -/
theorem listed_filter {p : Candidate → Bool}
    (h : ∀ k ∈ listed cs, p k = false → ∀ d ∈ cs, d.held = k.held → p d = false) :
    listed (cs.filter p) = (listed cs).filter p := by
  have hnearest : nearest (cs.filter p) = (nearest cs).filter p := by
    refine nearest_filter fun c hc hpc d hd hheld => ?_
    obtain ⟨k, hk, hkheld, hbefore⟩ := exists_listed hd
    refine ⟨k, listed_subset hk, ?_, hkheld.trans hheld, hbefore⟩
    -- the listed one is kept, since `c` is kept and held like it
    by_contra hpk
    have hdropped := h k hk (Bool.eq_false_iff.mpr hpk) c hc (hheld.symm.trans hkheld.symm)
    exact Bool.false_ne_true (hdropped.symm.trans hpc)
  unfold listed
  rw [hnearest]
  exact distinctCandidates_filter fun k hk hp d hd => h k hk hp d (mem_nearest_iff.mp hd).1

/-! ## A new file -/

/-- A fixed path selects at most the one file it names. -/
theorem fixedSelected_eq_ok_iff :
    fixedSelected t root globs excludes path = .ok selected
      ↔ ¬ t.isBlocked (Path.resolve root path) = true
        ∧ [Candidate.ofPath path (Path.resolve root path)].filter (fun c =>
            t.isFile c.place && (!path.endsWith "/" && isSelected root globs excludes c))
          = selected := by
  unfold fixedSelected
  rw [ite_error_eq_ok_iff]
  refine and_congr_right fun _ => ?_
  cases hfile : t.isFile (Path.resolve root path) <;> cases path.endsWith "/" <;>
    simp [Candidate.ofPath, List.filter_cons, hfile]

section NewFile

variable (hnew : t.isFile place = false)
include hnew

theorem fixedSelected_of_put
    (h : fixedSelected (t.put place content) root globs excludes path = .ok selected) :
    fixedSelected t root globs excludes path = .ok (selected.filter (·.place ≠ place)) := by
  rw [fixedSelected_eq_ok_iff] at h ⊢
  obtain ⟨hblocked, rfl⟩ := h
  refine ⟨?_, ?_⟩
  · have hfree := FileTree.isBlocked_of_put hnew (Bool.eq_false_iff.mpr hblocked)
    exact Bool.eq_false_iff.mp hfree
  · rw [List.filter_filter]
    refine List.filter_congr fun c _ => ?_
    rw [FileTree.isFile_put]
    by_cases hplace : c.place = place
    · simp [hplace, hnew]
    · simp [hplace]

theorem walk_eq_filter_put (content : List UInt8) (root : Place) (excludes : List Exclusion)
    (base : String) :
    walk t root excludes base
      = (walk (t.put place content) root excludes base).filter (·.place ≠ place) := by
  unfold walk
  dsimp only
  rw [FileTree.below_eq_filter_put hnew content, List.filter_filterMap, List.filterMap_filter]
  refine congrArg (fun f => List.filterMap f _) (funext fun p => ?_)
  by_cases hp : p = place
  · rw [if_neg (by simp [hp])]
    split
    · rfl
    · exact (if_neg (by simp [Candidate.ofPath, hp])).symm
  · rw [if_pos (by simp [hp])]
    split
    · rfl
    · exact (if_pos (by simp [Candidate.ofPath, hp])).symm

theorem walkSelected_of_put
    (h : walkSelected (t.put place content) root excludes base texts = .ok selected) :
    walkSelected t root excludes base texts = .ok (selected.filter (·.place ≠ place)) := by
  unfold walkSelected at h ⊢
  rw [ite_error_eq_ok_iff, Except.ok.injEq] at h ⊢
  obtain ⟨hstart, rfl⟩ := h
  rw [FileTree.isFile_put] at hstart
  refine ⟨?_, ?_⟩
  · simp only [Bool.or_eq_true, not_or, Bool.not_eq_true] at hstart ⊢
    exact ⟨hstart.1.2, FileTree.isBlocked_of_put hnew hstart.2⟩
  · rw [walk_eq_filter_put hnew content, List.filter_comm]

/-- A scan with a new file meets the rest as it does without it. -/
theorem met_of_put {p : Patterns} (h : met (t.put place content) root p = .ok cs) :
    met t root p = .ok (cs.filter (·.place ≠ place)) := by
  obtain ⟨named, hnamed, h⟩ := exists_of_bind_eq_ok h
  obtain ⟨walked, hwalked, h⟩ := exists_of_bind_eq_ok h
  obtain rfl := Except.ok.inj h
  refine bind_eq_ok (mapM_eq_ok_map (fun _ _ => fixedSelected_of_put hnew) hnamed)
    (bind_eq_ok (mapM_eq_ok_map (fun _ _ => walkSelected_of_put hnew) hwalked) ?_)
  rw [List.filter_append, List.filter_flatten, List.filter_flatten]
  rfl

/-- **A scan with a new file finds the rest as it does without it.** -/
theorem candidates_of_put {p : Patterns}
    (hnames : (t.put place content).IsNamed)
    (h : candidates (t.put place content) root p = .ok cs)
    (hrelative : ∀ c ∈ cs, c.place = place → Path.isAbsolute c.held = false) :
    candidates t root p = .ok (cs.filter (·.place ≠ place)) := by
  obtain ⟨all, hall, rfl⟩ := candidates_eq_ok_iff.mp h
  refine candidates_eq_ok_iff.mpr ⟨_, met_of_put hnew hall, listed_filter ?_⟩
  -- what is held like a path of the new file leads to the new file
  intro c hc hplace d hd hheld
  have hcplace : c.place = place := by simpa using hplace
  have hsame := (leads_of_mem_met hnames hall hd).place_eq_of_held_eq
    (leads_of_mem_met hnames hall (listed_subset hc)) hheld (hrelative c hc hcplace)
  simp [hsame, hcplace]

end NewFile

end Scan

theorem Selection.paths_eq_ok_iff {s : Selection} {home : Place} {t : FileTree}
    {files : List String} :
    s.paths home t = .ok files
      ↔ ¬ (Selection.orDefault s.includes Selection.sourceFiles).contains "" = true
        ∧ ∃ found, s.found home t = .ok found
          ∧ Scan.capped s.cap (Text.sorted (found.map fun c => Path.toPosix c.path)) = files := by
  unfold Selection.paths
  rw [ite_error_eq_ok_iff]
  exact and_congr_right fun _ => bind_pure_eq_ok_iff

namespace Selection

open Scan

variable {s : Selection} {home place : Place} {t : FileTree} {content : List UInt8}
variable {found : List Candidate} {files : List String}

/-- A new file is listed under plain paths, and no other path leads to it. -/
def ListsPlainly (s : Selection) (home place : Place) (found : List Candidate) : Prop :=
  ∀ c ∈ found, c.place = place
    ∨ Path.leadsTo (Path.resolve home s.root) place (Path.toPosix c.path) = true → c.IsPlain

instance (s : Selection) (home place : Place) (found : List Candidate) :
    Decidable (s.ListsPlainly home place found) :=
  inferInstanceAs (Decidable (∀ c ∈ found, _ → c.IsPlain))

theorem leadsTo_toPosix (hplain : s.ListsPlainly home place found)
    (hleads : ∀ c ∈ found, c.Leads (Path.resolve home s.root)) :
    ∀ c ∈ found, Path.leadsTo (Path.resolve home s.root) place (Path.toPosix c.path)
      = decide (c.place = place) := by
  intro c hc
  rw [Bool.eq_iff_iff, decide_eq_true_eq]
  constructor
  · intro hpath
    rw [← (hleads c hc).inside_toPosix (hplain c hc (Or.inr hpath))]
    exact of_decide_eq_true hpath
  · intro hplace
    refine decide_eq_true ?_
    rw [(hleads c hc).inside_toPosix (hplain c hc (Or.inl hplace)), hplace]

theorem leads_of_mem_found (hnames : t.IsNamed)
    (hfound : s.found home t = .ok found) : ∀ c ∈ found, c.Leads (Path.resolve home s.root) := by
  obtain ⟨all, hall, rfl⟩ := candidates_eq_ok_iff.mp hfound
  intro c hc
  exact leads_of_mem_met hnames hall (listed_subset hc)

theorem pairwise_found (hfound : s.found home t = .ok found) :
    found.Pairwise fun a b => a.held ≠ b.held := by
  obtain ⟨all, -, rfl⟩ := candidates_eq_ok_iff.mp hfound
  exact pairwise_distinctCandidates (nearest all)

theorem files_eq_capped (hfound : s.found home t = .ok found)
    (hpaths : s.paths home t = .ok files) :
    files = capped s.cap (Text.sorted (found.map fun c => Path.toPosix c.path)) := by
  obtain ⟨-, found', hfound', hfiles⟩ := paths_eq_ok_iff.mp hpaths
  obtain rfl := Except.ok.inj (hfound.symm.trans hfound')
  exact hfiles.symm

theorem files_eq (hcap : s.cap = none) (hfound : s.found home t = .ok found)
    (hpaths : s.paths home t = .ok files) :
    files = Text.sorted (found.map fun c => Path.toPosix c.path) := by
  rw [files_eq_capped hfound hpaths, hcap]
  rfl

/-- Paths that are found in their order are selected as they are found. -/
theorem paths_of_ordered (hcap : s.cap = none)
    (hempty : (orDefault s.includes sourceFiles).contains "" = false)
    (hfound : s.found home t = .ok found)
    (hordered : (found.map fun c => Path.toPosix c.path).Pairwise
      fun a b => Text.notAfter a b = true) :
    s.paths home t = .ok (found.map fun c => Path.toPosix c.path) := by
  refine paths_eq_ok_iff.mpr ⟨Bool.eq_false_iff.mp hempty, found, hfound, ?_⟩
  rw [hcap]
  exact Text.sorted_eq_self hordered

section NewFile

variable (hcap : s.cap = none)
variable (hnames : (t.put place content).IsNamed)
variable (hfound : s.found home (t.put place content) = .ok found)
variable (hpaths : s.paths home (t.put place content) = .ok files)
variable (hplain : s.ListsPlainly home place found)
include hcap hnames hfound hpaths hplain

/-- **The paths of a selection without a new file** are those that do not lead
    to it. -/
theorem paths_of_put (hnew : t.isFile place = false) :
    s.paths home t = .ok (files.filter (!Path.leadsTo (Path.resolve home s.root) place ·)) := by
  have hleads := leads_of_mem_found hnames hfound
  have hothers := candidates_of_put hnew hnames hfound fun c hc hplace =>
    (hplain c hc (Or.inl hplace)).relative
  obtain ⟨hempty, -⟩ := paths_eq_ok_iff.mp hpaths
  refine paths_eq_ok_iff.mpr ⟨hempty, _, hothers, ?_⟩
  rw [files_eq hcap hfound hpaths, ← Text.sorted_filter, List.filter_map, hcap]
  show Text.sorted _ = Text.sorted _
  congr 2
  refine List.filter_congr fun c hc => ?_
  show decide (c.place ≠ place) = !Path.leadsTo _ place (Path.toPosix c.path)
  rw [leadsTo_toPosix hplain hleads c hc, decide_not]

/-- The paths that lead to the new file are those it was found under. -/
theorem leading_perm :
    (files.filter (Path.leadsTo (Path.resolve home s.root) place)).Perm
      ((found.filter (·.place = place)).map (·.path)) := by
  have hleads := leads_of_mem_found hnames hfound
  have hfilter : (found.map fun c => Path.toPosix c.path).filter
        (Path.leadsTo (Path.resolve home s.root) place)
      = (found.filter (·.place = place)).map (·.path) := by
    have hplaces : found.filter (fun c => Path.leadsTo (Path.resolve home s.root) place
        (Path.toPosix c.path)) = found.filter (·.place = place) :=
      List.filter_congr (leadsTo_toPosix hplain hleads)
    rw [List.filter_map]
    show (found.filter fun c => Path.leadsTo _ place (Path.toPosix c.path)).map _ = _
    rw [hplaces]
    refine List.map_congr_left fun c hc => ?_
    obtain ⟨hc, hplace⟩ := List.mem_filter.mp hc
    exact Path.toPosix_eq_self (hplain c hc (Or.inl (of_decide_eq_true hplace))).no_backslash
  rw [files_eq hcap hfound hpaths, ← hfilter]
  exact (Text.sortByUnits_perm id _).filter _

theorem nodup_leading :
    (files.filter (Path.leadsTo (Path.resolve home s.root) place)).Nodup := by
  rw [(leading_perm hcap hnames hfound hpaths hplain).nodup_iff]
  exact nodup_paths (fun c hc => leads_of_mem_found hnames hfound c (List.mem_of_mem_filter hc))
    ((pairwise_found hfound).filter _)

theorem length_leading_pos (hselected : ∃ c ∈ found, c.place = place) :
    0 < (files.filter (Path.leadsTo (Path.resolve home s.root) place)).length := by
  obtain ⟨c, hc, hplace⟩ := hselected
  rw [(leading_perm hcap hnames hfound hpaths hplain).length_eq, List.length_map]
  exact List.length_pos_of_mem (List.mem_filter.mpr ⟨hc, decide_eq_true hplace⟩)

/-- Of straight paths only one leads to the new file. -/
theorem length_leading_le_one (hstraight : ∀ path ∈ files,
      Path.leadsTo (Path.resolve home s.root) place path = true
        → Path.IsStraight (Glob.dropDot path)) :
    (files.filter (Path.leadsTo (Path.resolve home s.root) place)).length ≤ 1 := by
  have hperm := leading_perm hcap hnames hfound hpaths hplain
  rw [hperm.length_eq, List.length_map]
  refine length_le_one_of_straight
    (fun c hc => leads_of_mem_found hnames hfound c (List.mem_of_mem_filter hc))
    ((pairwise_found hfound).filter _)
    (fun c hc => of_decide_eq_true (List.mem_filter.mp hc).2) fun c hc => ?_
  have hpath := List.mem_filter.mp (hperm.mem_iff.mpr (List.mem_map.mpr ⟨c, hc, rfl⟩))
  exact hstraight c.path hpath.1 hpath.2

end NewFile

end Selection

end TypeLineage
