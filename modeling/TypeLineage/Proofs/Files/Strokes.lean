import Mathlib.Data.List.Basic
import TypeLineage.Proofs.Files.Scan

/-! # Files with backslashes in their names

    A scan matches files under paths that tell them apart and lead to them.
    What it lists is those paths with strokes of one kind, and the loader and
    the extractor go by what is listed: the one goes inside the root, the other
    resolves the path from there.

    Without a backslash nothing is changed, and each listed path is the matched
    one.  A backslash in the name of a file or a directory is a stroke in what
    is listed, and no path without backslashes leads to such a file, since a
    name that is followed is a part of the path (`Path.IsReached`).  So the file
    that was matched is not the one that is read, and two files may be listed as
    one path (`Selection.listed_twice`). -/

namespace TypeLineage

theorem FileTree.isFile_of_mem_places {t : FileTree} {place : Place} (h : place ∈ t.places) :
    t.isFile place = true := by
  by_contra hfile
  exact not_mem_places (Bool.eq_false_iff.mpr hfile) h

/-- Below the directory a plain path follows plain names. -/
theorem Path.IsReached.no_backslash {root names : Place} {name : String}
    (h : IsReached root (root ++ names)) (hname : name ∈ names) : '\\' ∉ name.toList := by
  obtain ⟨kept, up, down, rfl, hplace, hdown⟩ := h
  rw [List.append_assoc] at hplace
  have hmem : name ∈ down := List.append_cancel_left hplace ▸ List.mem_append_right up hname
  exact (hdown name hmem).no_backslash

namespace Scan

variable {t : FileTree} {root : Place} {c : Candidate} {cs : List Candidate}

/-! ## What is matched -/

theorem isFile_of_mem_met {p : Patterns} (h : met t root p = .ok cs) (hc : c ∈ cs) :
    t.isFile c.place = true := by
  rcases met_cases h hc with ⟨path, -, hfile⟩ | ⟨w, -, hwalk⟩
  · exact hfile
  · obtain ⟨place, hplace, path, fixed, -, rfl⟩ := exists_of_mem_walk hwalk
    exact FileTree.isFile_of_mem_places (List.mem_of_mem_filter hplace)

/-! ## What is read -/

/-- The path that the candidate is listed under leads to it, for the loader as
    for the extractor. -/
structure Candidate.IsFaithful (root : Place) (c : Candidate) : Prop where
  inside_eq : Path.inside root (Path.toPosix c.path) = c.place
  resolve_eq : Path.resolve root (Path.toPosix c.path) = c.place

theorem Candidate.Leads.isFaithful (hc : c.Leads root) (hplain : c.IsPlain) :
    c.IsFaithful root := by
  refine ⟨hc.inside_toPosix hplain, ?_⟩
  rw [Path.toPosix_eq_self hplain.no_backslash]
  exact hc.place_eq

/-- No listed path leads to a file below the root with a backslash in its name or
    in that of a directory on the way. -/
theorem not_read_of_backslash {names : Place} {name : String} (hname : name ∈ names)
    (hbackslash : '\\' ∈ name.toList) (path : String) :
    Path.inside root (Path.toPosix path) ≠ root ++ names
      ∧ Path.resolve root (Path.toPosix path) ≠ root ++ names := by
  have hplain := Path.not_mem_toPosix path
  constructor
  · intro hread
    -- names that are followed from the root are parts of the path
    have hreached := Path.isReached_inside root hplain
    rw [hread] at hreached
    exact hreached.no_backslash hname hbackslash
  · intro hread
    have hreached := Path.isReached_resolve root hplain
    rw [hread] at hreached
    exact hreached.no_backslash hname hbackslash

end Scan

namespace Selection

open Scan

variable {s : Selection} {home : Place} {t : FileTree} {found : List Candidate}
variable {files : List String}

theorem isFile_of_mem_found (hfound : s.found home t = .ok found) :
    ∀ c ∈ found, t.isFile c.place = true := by
  obtain ⟨all, hall, rfl⟩ := candidates_eq_ok_iff.mp hfound
  intro c hc
  exact isFile_of_mem_met hall (listed_subset hc)

theorem subperm_found (hfound : s.found home t = .ok found) (hpaths : s.paths home t = .ok files) :
    files.Subperm (found.map fun c => Path.toPosix c.path) := by
  rw [files_eq_capped hfound hpaths]
  exact (capped_sublist _ _).subperm.trans (Text.sortByUnits_perm id _).subperm

theorem ascending_of_nodup (hfound : s.found home t = .ok found)
    (hpaths : s.paths home t = .ok files)
    (hnodup : (found.map fun c => Path.toPosix c.path).Nodup) : Text.Ascending id files := by
  rw [files_eq_capped hfound hpaths]
  refine List.Pairwise.sublist (capped_sublist _ _) (Text.sortByUnits_ascending ?_)
  rwa [List.map_id]

theorem nodup_toPosix (hnames : t.IsNamed) (hfound : s.found home t = .ok found)
    (hplain : ∀ c ∈ found, '\\' ∉ c.path.toList) :
    (found.map fun c => Path.toPosix c.path).Nodup := by
  have hsame : (found.map fun c => Path.toPosix c.path) = found.map (·.path) :=
    List.map_congr_left fun c hc => Path.toPosix_eq_self (hplain c hc)
  rw [hsame]
  exact nodup_paths (leads_of_mem_found hnames hfound) (pairwise_found hfound)

/-- **Where listed paths are faithful.**  Every file that a scan matches is a file
    of the tree, and no two are matched under one path.  The listed paths are
    those of matched files with strokes of one kind, in an order that is strict
    if no backslash is in the matched paths, and without a cap exactly if no two
    of them differ in nothing but that.  A path that is relative and without
    backslashes leads the loader and the extractor to the file that was matched;
    to a file below the root with a backslash in one of its names no listed path
    does. -/
theorem paths_faithful (hnames : t.IsNamed) (hpaths : s.paths home t = .ok files) :
    ∃ found, s.found home t = .ok found
      ∧ (∀ c ∈ found, t.isFile c.place = true
          ∧ Path.resolve (Path.resolve home s.root) c.path = c.place)
      ∧ (found.map (·.path)).Nodup
      ∧ files.Subperm (found.map fun c => Path.toPosix c.path)
      ∧ files.Pairwise (fun a b => Text.notAfter a b = true)
      ∧ ((∀ c ∈ found, '\\' ∉ c.path.toList) → Text.Ascending id files)
      ∧ (s.cap = none → (Text.Ascending id files
          ↔ (found.map fun c => Path.toPosix c.path).Nodup))
      ∧ (∀ c ∈ found, c.IsPlain → c.IsFaithful (Path.resolve home s.root))
      ∧ ∀ c ∈ found, ∀ names, c.place = Path.resolve home s.root ++ names →
          (∃ name ∈ names, '\\' ∈ name.toList) →
          ∀ path ∈ files, Path.inside (Path.resolve home s.root) path ≠ c.place
            ∧ Path.resolve (Path.resolve home s.root) path ≠ c.place := by
  obtain ⟨-, found, hfound, -⟩ := paths_eq_ok_iff.mp hpaths
  have hleads := leads_of_mem_found hnames hfound
  have hlisted := subperm_found hfound hpaths
  refine ⟨found, hfound, ?_, nodup_paths hleads (pairwise_found hfound), hlisted,
    pairwise_paths hpaths, ?_, ?_, fun c hc => (hleads c hc).isFaithful, ?_⟩
  · intro c hc
    exact ⟨isFile_of_mem_found hfound c hc, (hleads c hc).place_eq⟩
  · intro hplain
    exact ascending_of_nodup hfound hpaths (nodup_toPosix hnames hfound hplain)
  · intro hcap
    constructor
    · -- without a cap nothing is cut off, so a path that is there twice is listed twice
      intro hascending
      have hnodup := hascending.nodup
      rw [files_eq hcap hfound hpaths] at hnodup
      exact (Text.sortByUnits_perm id _).nodup_iff.mp hnodup
    · exact ascending_of_nodup hfound hpaths
  · rintro c hc names hplace ⟨name, hname, hbackslash⟩ path hpath
    obtain ⟨d, -, rfl⟩ := List.mem_map.mp (hlisted.subset hpath)
    rw [hplace]
    exact not_read_of_backslash hname hbackslash d.path

/-! ## A tree with backslashes -/

/-- Files with backslashes in their names, and one in a directory. -/
def strokesTree : FileTree :=
  ⟨[(["a\\b"], []), (["a", "b"], []), (["c\\d"], []), (["e"], [])], []⟩

/-- Everything below the root. -/
def everything : Selection := ⟨".", ["**"], [], true, none⟩

theorem found_strokes : everything.found [] strokesTree
    = .ok [⟨"a\\b", "a\\b", ["a\\b"], []⟩, ⟨"a/b", "a/b", ["a", "b"], ["a"]⟩,
        ⟨"c\\d", "c\\d", ["c\\d"], []⟩, ⟨"e", "e", ["e"], []⟩] := by
  decide +kernel

theorem paths_strokes : everything.paths [] strokesTree = .ok ["a/b", "a/b", "c/d", "e"] :=
  (paths_of_ordered rfl (by decide +kernel) found_strokes (by decide +kernel)).trans
    (congrArg Except.ok (by decide +kernel))

/-- The file without a backslash is read, and one with a backslash is not. -/
theorem paths_faithful_of_strokes :
    strokesTree.IsNamed
      ∧ Candidate.IsFaithful [] ⟨"e", "e", ["e"], []⟩
      ∧ ∀ path ∈ ["a/b", "a/b", "c/d", "e"], Path.inside [] path ≠ ["c\\d"] := by
  have hnames : strokesTree.IsNamed := by decide +kernel
  obtain ⟨found, hfound, -, -, -, -, -, -, hread, hunread⟩ := paths_faithful hnames paths_strokes
  obtain rfl := Except.ok.inj (found_strokes.symm.trans hfound)
  have hroot : Path.resolve [] everything.root = [] := by decide +kernel
  rw [hroot] at hread hunread
  refine ⟨hnames, hread _ (by decide) (by decide +kernel), fun path hpath => ?_⟩
  exact (hunread ⟨"c\\d", "c\\d", ["c\\d"], []⟩ (by decide) ["c\\d"] rfl
    (by decide +kernel) path hpath).1

/-- Two files are listed as one path, so that the one is read twice and the other
    not at all, and a third one as a path where there is no file. -/
theorem listed_twice :
    strokesTree.isFile ["a\\b"] = true ∧ strokesTree.isFile ["c\\d"] = true
      ∧ everything.paths [] strokesTree = .ok ["a/b", "a/b", "c/d", "e"]
      ∧ ¬ Text.Ascending id ["a/b", "a/b", "c/d", "e"]
      ∧ ¬ ["a/b", "a/b", "c/d", "e"].Nodup
      ∧ strokesTree.isFile (Path.inside [] "c/d") = false
      ∧ strokesTree.isFile (Path.resolve [] "c/d") = false := by
  have htwice : ¬ ["a/b", "a/b", "c/d", "e"].Nodup := by decide
  exact ⟨by decide +kernel, by decide +kernel, paths_strokes, fun h => htwice h.nodup, htwice,
    by decide +kernel, by decide +kernel⟩

end Selection

end TypeLineage
