import Mathlib.Data.List.Basic
import TypeLineage.Files.Tree
import TypeLineage.Proofs.Association

/-! # What is put into a tree

    A file is put at its own place and nowhere else.  One that is new there
    comes behind the others and takes nothing away from them: what a tree
    without it has is what the tree with it has, but for the one place. -/

namespace TypeLineage.FileTree

variable {t : FileTree} {place other : Place}

/-- A file is put at its own place and nowhere else. -/
theorem content?_put (t : FileTree) (place : Place) (content : List UInt8) (other : Place) :
    (t.put place content).content? other
      = if other = place then some content else t.content? other := by
  unfold content? put
  show (put.insert place content t.files).lookup other = _
  induction t.files with
  | nil => exact Association.lookup_cons_ite place content []
  | cons file rest ih =>
      obtain ⟨p, c⟩ := file
      rw [put.insert, Association.lookup_cons_ite]
      by_cases hp : p = place
      · -- the file that was there is replaced, the ones behind it stay
        subst hp
        rw [if_pos rfl, Association.lookup_cons_ite]
        by_cases h : other = p
        · rw [if_pos h, if_pos h]
        · rw [if_neg h, if_neg h, if_neg h]
      · rw [if_neg hp, Association.lookup_cons_ite, ih]
        by_cases h : other = p
        · have hne : ¬ other = place := fun heq => hp (h.symm.trans heq)
          rw [if_pos h, if_neg hne, if_pos h]
        · rw [if_neg h, if_neg h]

theorem isFile_put (t : FileTree) (place : Place) (content : List UInt8) (other : Place) :
    (t.put place content).isFile other = (decide (other = place) || t.isFile other) := by
  unfold isFile
  rw [content?_put]
  by_cases h : other = place <;> simp [h]

/-! ## A new file -/

theorem not_mem_places (hnew : t.isFile place = false) : place ∉ t.places := by
  unfold isFile content? at hnew
  rw [Option.isSome_eq_false_iff, Option.isNone_iff_eq_none, List.lookup_eq_none_iff] at hnew
  intro hmem
  obtain ⟨file, hfile, rfl⟩ := List.mem_map.mp hmem
  simpa using hnew file hfile

theorem insert_of_not_mem {files : List (Place × List UInt8)} (h : place ∉ files.map (·.1))
    (content : List UInt8) : put.insert place content files = files ++ [(place, content)] := by
  induction files with
  | nil => rfl
  | cons file rest ih =>
      rw [List.map_cons, List.mem_cons, not_or] at h
      rw [put.insert, if_neg (Ne.symm h.1), ih h.2, List.cons_append]

/-- A new file comes behind the others. -/
theorem files_put (hnew : t.isFile place = false) (content : List UInt8) :
    (t.put place content).files = t.files ++ [(place, content)] :=
  insert_of_not_mem (not_mem_places hnew) content

theorem places_put (hnew : t.isFile place = false) (content : List UInt8) :
    (t.put place content).places = t.places ++ [place] := by
  unfold places
  rw [files_put hnew, List.map_append]
  rfl

/-- No way becomes free where a file is added. -/
theorem isBlocked_of_put {content : List UInt8} (hnew : t.isFile place = false)
    (h : (t.put place content).isBlocked other = false) : t.isBlocked other = false := by
  unfold isBlocked at *
  rw [files_put hnew, List.any_append, Bool.or_eq_false_iff] at h
  exact h.1

/-- Below a directory there are the same files, but for the new one. -/
theorem below_eq_filter_put (hnew : t.isFile place = false) (content : List UInt8)
    (directory : Place) :
    t.below directory = ((t.put place content).below directory).filter (· ≠ place) := by
  have hplaces : t.places.filter (· ≠ place) = t.places :=
    List.filter_eq_self.mpr fun p hp => decide_eq_true fun heq => not_mem_places hnew (heq ▸ hp)
  have hput : (t.put place content).places.filter (· ≠ place) = t.places := by
    rw [places_put hnew, List.filter_append, hplaces]
    simp
  unfold below
  rw [List.filter_comm, hput]

end TypeLineage.FileTree
