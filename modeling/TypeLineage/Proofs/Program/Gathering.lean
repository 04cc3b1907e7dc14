import Mathlib.Data.List.Nodup
import TypeLineage.Program.File

/-! # Which files a program has

    Files are gathered depth first, each behind those that it refers to.  A
    place that was come upon is not gone into again, so gathering from some
    state adds files from places that were not seen before, every place once,
    and what is newly seen is what was added.  This holds for one place by
    induction on the fuel, and for a list of places as one step follows the
    other.

    So the program that starts from some roots has one file from each of them
    that holds any, however they refer to one another. -/

namespace TypeLineage.Program

/-- The file is what is read at its place, whichever number it has. -/
def IsReadFrom (t : FileTree) (m : ModuleDetection) (form : MarkupForm) (f : SourceFile) : Prop :=
  ∃ cs, t.markedText? f.place = some cs
    ∧ f = { SourceFile.read m form f.place cs with index := f.index }

/-- Files are gathered on top of a state: they are read from places not seen
    before, one from each place that is newly seen. -/
structure Gathers (t : FileTree) (m : ModuleDetection) (form : MarkupForm) (g g' : Gathered)
    (added : List SourceFile) : Prop where
  files : g'.files = g.files ++ added
  seen : ∀ p, p ∈ g'.seen ↔ p ∈ g.seen ∨ p ∈ added.map (·.place)
  fresh : ∀ f ∈ added, f.place ∉ g.seen
  nodup : (added.map (·.place)).Nodup
  read : ∀ f ∈ added, IsReadFrom t m form f

variable {t : FileTree} {m : ModuleDetection} {form : MarkupForm} {g g' g'' : Gathered}
  {added later : List SourceFile}

namespace Gathers

theorem refl (g : Gathered) : Gathers t m form g g [] where
  files := (List.append_nil _).symm
  seen _ := (or_iff_left List.not_mem_nil).symm
  fresh := List.forall_mem_nil _
  nodup := List.nodup_nil
  read := List.forall_mem_nil _

theorem trans (h : Gathers t m form g g' added) (hlater : Gathers t m form g' g'' later) :
    Gathers t m form g g'' (added ++ later) where
  files := by rw [hlater.files, h.files, List.append_assoc]
  seen p := by rw [hlater.seen, h.seen, List.map_append, List.mem_append, or_assoc]
  fresh := List.forall_mem_append.mpr
    ⟨h.fresh, fun f hf hseen => hlater.fresh f hf ((h.seen _).mpr (Or.inl hseen))⟩
  nodup := by
    rw [List.map_append, List.nodup_append]
    refine ⟨h.nodup, hlater.nodup, ?_⟩
    rintro p hp q hq rfl
    obtain ⟨f, hf, rfl⟩ := List.mem_map.mp hq
    exact hlater.fresh f hf ((h.seen _).mpr (Or.inr hp))
  read := List.forall_mem_append.mpr ⟨h.read, hlater.read⟩

/-- A file is complete when what it refers to is gathered. -/
theorem complete {file : SourceFile} (hfresh : file.place ∉ g.seen)
    (hread : IsReadFrom t m form file)
    (h : Gathers t m form ⟨g.seen ++ [file.place], g.files⟩ g' added) :
    Gathers t m form g ⟨g'.seen, g'.files ++ [file]⟩ (added ++ [file]) where
  files := by rw [h.files, List.append_assoc]
  seen p := by
    rw [h.seen, List.map_append, List.mem_append, List.mem_append, or_assoc]
    exact or_congr_right or_comm
  fresh := List.forall_mem_append.mpr
    ⟨fun f hf hseen => h.fresh f hf (List.mem_append_left _ hseen),
      List.forall_mem_singleton.mpr hfresh⟩
  nodup := by
    rw [List.map_append, List.nodup_append]
    refine ⟨h.nodup, List.nodup_singleton _, ?_⟩
    intro p hp q hq heq
    rw [List.map_singleton, List.mem_singleton] at hq
    obtain ⟨f, hf, rfl⟩ := List.mem_map.mp hp
    exact h.fresh f hf (List.mem_append_right _ (List.mem_singleton.mpr (heq.trans hq)))
  read := List.forall_mem_append.mpr ⟨h.read, List.forall_mem_singleton.mpr hread⟩

/-- Gathering from one place after the other. -/
theorem foldl {step : Gathered → Place → Gathered}
    (hstep : ∀ g place, ∃ added, Gathers t m form g (step g place) added) (places : List Place)
    (g : Gathered) : ∃ added, Gathers t m form g (places.foldl step g) added := by
  induction places generalizing g with
  | nil => exact ⟨[], refl g⟩
  | cons place rest ih =>
      obtain ⟨added, hadded⟩ := hstep g place
      obtain ⟨later, hlater⟩ := ih (step g place)
      exact ⟨added ++ later, hadded.trans hlater⟩

end Gathers

/-! ## Reading files -/

theorem markedText?_isSome (t : FileTree) (place : Place) :
    (t.markedText? place).isSome = t.isFile place :=
  Option.isSome_map

theorem place_read (m : ModuleDetection) (form : MarkupForm) (place : Place) (cs : List Char) :
    (SourceFile.read m form place cs).place = place := by
  unfold SourceFile.read
  split <;> rfl

theorem IsReadFrom.isFile {f : SourceFile} (h : IsReadFrom t m form f) :
    t.isFile f.place = true := by
  obtain ⟨cs, hcs, -⟩ := h
  rw [← markedText?_isSome, hcs]
  rfl

theorem isReadFrom_read {place : Place} {cs : List Char} (hcs : t.markedText? place = some cs) :
    IsReadFrom t m form (SourceFile.read m form place cs) := by
  refine ⟨cs, ?_, ?_⟩
  · rw [place_read, hcs]
  · rw [place_read]

/-! ## Gathering files -/

variable {r : Resolution} {packages : List Place}

theorem exists_gathers_gather (fuel : Nat) (g : Gathered) (place : Place) :
    ∃ added, Gathers t m form g (gather t r m form packages fuel g place) added := by
  induction fuel generalizing g place with
  | zero => exact ⟨[], .refl g⟩
  | succ fuel ih =>
      unfold gather
      split
      · exact ⟨[], .refl g⟩
      · rename_i hseen
        split
        · exact ⟨[], .refl g⟩
        · rename_i cs hcs
          -- the place is seen by the time at which what the file refers to is gathered
          generalize hfile : SourceFile.read m form place cs = file
          have hplace : file.place = place := hfile ▸ place_read m form place cs
          have hread : IsReadFrom t m form file := hfile ▸ isReadFrom_read hcs
          have hfresh : file.place ∉ g.seen := by
            rw [hplace]
            exact mt List.contains_iff_mem.mpr hseen
          obtain ⟨added, h⟩ := Gathers.foldl ih
            (file.packages.filterMap (r.typePackage t packages place.dropLast)
              ++ (file.references.filterMap fun x => r.locate t place x.demand x.name).filter r.takes)
            ⟨g.seen ++ [place], g.files⟩
          rw [← hplace] at h
          exact ⟨_, hplace ▸ h.complete hfresh hread⟩

/-- Where there is a file, it is gathered if it was not before. -/
theorem mem_seen_gather {fuel : Nat} {place : Place} (hfile : t.isFile place = true) :
    place ∈ (gather t r m form packages (fuel + 1) g place).seen := by
  unfold gather
  split
  · rename_i hseen
    exact List.contains_iff_mem.mp hseen
  · split
    · rename_i hnone
      rw [← markedText?_isSome, hnone] at hfile
      exact nomatch hfile
    · obtain ⟨added, h⟩ := Gathers.foldl (exists_gathers_gather fuel) _ ⟨g.seen ++ [place], g.files⟩
      exact (h.seen place).mpr (Or.inl (List.mem_append_right _ List.mem_cons_self))

theorem mem_seen_foldl_gather {fuel : Nat} {places : List Place} {place : Place}
    (hmem : place ∈ places) (hfile : t.isFile place = true) :
    place ∈ (places.foldl (gather t r m form packages (fuel + 1)) g).seen := by
  induction places generalizing g with
  | nil => exact nomatch hmem
  | cons first rest ih =>
      rcases List.mem_cons.mp hmem with rfl | hmem
      · obtain ⟨added, h⟩ := Gathers.foldl (exists_gathers_gather (fuel + 1)) rest
          (gather t r m form packages (fuel + 1) g place)
        exact (h.seen place).mpr (Or.inl (mem_seen_gather hfile))
      · exact ih hmem

/-! ## The files of a program -/

/-- The file with a number. -/
def numbered (i : Nat) (f : SourceFile) : SourceFile := { f with index := i + 1 }

theorem map_place_mapIdx (files : List SourceFile) :
    (files.mapIdx numbered).map (·.place) = files.map (·.place) := by
  refine List.ext_getElem (by simp) fun i _ _ => ?_
  simp only [List.getElem_map, List.getElem_mapIdx, numbered]

/-- The files of a program are gathered from nothing and numbered, and every root is seen. -/
theorem exists_gathered (t : FileTree) (options : Project.Options) (directory : Place)
    (roots : List Place) :
    ∃ g added, Gathers t (.ofOptions options) (.ofOptions options) ⟨[], []⟩ g added
      ∧ (Sources.ofRoots t options directory roots).files = added.mapIdx numbered
      ∧ ∀ place ∈ roots, t.isFile place = true → place ∈ g.seen := by
  unfold Sources.ofRoots
  dsimp only
  generalize List.filterMap _ (typePackages t options directory) = named
  obtain ⟨added, h⟩ := Gathers.foldl
    (exists_gathers_gather (t.files.length + 1)) (roots ++ named) ⟨[], []⟩
  refine ⟨_, added, h, ?_, ?_⟩
  · rw [h.files, List.nil_append]
    rfl
  · intro place hmem hfile
    exact mem_seen_foldl_gather (List.mem_append_left _ hmem) hfile

section Program

variable (t : FileTree) (options : Project.Options) (directory : Place) (roots : List Place)

/-- A program has one file from each place. -/
theorem nodup_places_ofRoots :
    ((Sources.ofRoots t options directory roots).files.map (·.place)).Nodup := by
  obtain ⟨g, added, h, hfiles, -⟩ := exists_gathered t options directory roots
  rw [hfiles, map_place_mapIdx]
  exact h.nodup

/-- Every file of a program is what is read at its place. -/
theorem isReadFrom_of_mem_ofRoots :
    ∀ f ∈ (Sources.ofRoots t options directory roots).files,
      IsReadFrom t (.ofOptions options) (.ofOptions options) f := by
  obtain ⟨g, added, h, hfiles, -⟩ := exists_gathered t options directory roots
  rw [hfiles]
  intro f hf
  obtain ⟨i, hi, rfl⟩ := List.mem_mapIdx.mp hf
  obtain ⟨cs, hcs, hread⟩ := h.read _ (List.getElem_mem hi)
  -- numbering a file forgets the number that it had
  have hnumbered := congrArg (numbered i) hread
  exact ⟨cs, hcs, hnumbered⟩

/-- There is a file in a program from every root that holds one. -/
theorem mem_places_ofRoots {place : Place} (hroot : place ∈ roots) (hfile : t.isFile place = true) :
    place ∈ (Sources.ofRoots t options directory roots).files.map (·.place) := by
  obtain ⟨g, added, h, hfiles, hseen⟩ := exists_gathered t options directory roots
  rw [hfiles, map_place_mapIdx]
  exact ((h.seen place).mp (hseen place hroot hfile)).resolve_left List.not_mem_nil

end Program

end TypeLineage.Program
