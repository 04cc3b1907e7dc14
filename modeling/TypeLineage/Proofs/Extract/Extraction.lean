import TypeLineage.Extract.Extraction
import TypeLineage.Proofs.Extract.Drawing
import TypeLineage.Proofs.Files.Scan
import TypeLineage.Proofs.Registry.Snapshot

/-! # The document of an extraction

    What is extracted is written as a document, and much of what the grammar of
    documents asks holds of every fact that was drawn: no relation has an empty
    name and no key is bound twice.  The names that a source writes are handed
    on as they are.  A quoted name may be empty, and a document in which a
    method has such a name is refused when it is read.

    So the document is accepted exactly if the names that are handed on are such
    as the grammar asks for, and then it gives back what was extracted. -/

namespace TypeLineage.Extract

open Source Program Typing Document Json

variable {library : String} {d : Declared} {f : TypeFact}

/-- What the grammar asks of the names that a fact has from its source. -/
structure Nameable (f : TypeFact) : Prop where
  name : f.name ≠ ""
  typeParameters : ∀ p ∈ f.typeParameters, p ≠ ""
  qualified : ∀ b ∈ f.genericArguments, IsQualifiedKey b.1
  methods : ∀ m ∈ f.methods, m.name ≠ ""

/-! ## One fact -/

theorem IsKeyOfName.ne_unwritableKey {key : String} (h : IsKeyOfName key) :
    key ≠ unwritableKey := by
  obtain ⟨base, param, -, rfl⟩ := h
  refine TypeFact.ne_unwritableKey ?_
  unfold qualifiedParameter
  rw [String.toList_append, String.toList_append]
  exact List.mem_append_left _ (List.mem_append_right _ List.mem_cons_self)

namespace Drawn

theorem sound (h : Drawn library d f) (hnames : Nameable f) : f.Sound where
  name := hnames.name
  superclass := h.superclass
  interfaces := h.interfaces
  mixins := h.mixins
  typeParameters := hnames.typeParameters
  qualified := hnames.qualified
  distinct := h.distinct
  methods := hnames.methods

/-- The entry of a fact that was drawn follows the grammar if its names do. -/
theorem isFact_settled_iff (h : Drawn library d f) :
    IsFact (settled f.toJson) ↔ Nameable f := by
  constructor
  · intro hfact
    have hsound := TypeFact.sound_of_isFact_settled h.distinct
      (fun b hb => (h.keys b hb).ne_unwritableKey) hfact
    exact ⟨hsound.name, hsound.typeParameters, hsound.qualified, hsound.methods⟩
  · intro hnames
    exact TypeFact.isFact_settled (h.sound hnames)

end Drawn

/-! ## The document -/

section Documents

variable {w : World} {root : Place} {scanned : List Place} {facts : List TypeFact}

/-- The document of facts that were drawn is accepted if all their names are
    such as the grammar asks for. -/
theorem accepts_writeFacts_iff (hdrawn : ∀ f ∈ facts, ∃ library d, Drawn library d f)
    (indent : Int) : (∃ read, Document.ofText (writeFacts facts indent) = .ok read)
      ↔ ∀ f ∈ facts, Nameable f := by
  simp only [ofText_writeFacts_eq_ok_iff, exists_and_left, exists_eq, and_true]
  refine forall₂_congr fun f hf => ?_
  obtain ⟨library, d, h⟩ := hdrawn f hf
  exact h.isFact_settled_iff

/-- Whatever is accepted gives back the facts by name. -/
theorem same_of_ofText_writeFacts (hdrawn : ∀ f ∈ facts, ∃ library d, Drawn library d f)
    {indent : Int} {read : List TypeFact}
    (hread : Document.ofText (writeFacts facts indent) = .ok read) :
    List.Forall₂ TypeFact.Same (TypeFact.sortByName facts) read := by
  have hnames := (accepts_writeFacts_iff hdrawn indent).mp ⟨read, hread⟩
  obtain ⟨-, rfl⟩ := ofText_writeFacts_eq_ok_iff.mp hread
  rw [List.forall₂_map_right_iff, List.forall₂_same]
  intro f hf
  have hf := Text.mem_sortByUnits.mp hf
  obtain ⟨library, d, h⟩ := hdrawn f hf
  exact Registry.same_ofJson_settled (h.sound (hnames f hf))

/-- A public method without a name in a scanned file makes the document of the
    program unreadable. -/
theorem not_accepts_of_unnamed_method {source : SourceFile} (hsource : source ∈ w.sources.files)
    (hscanned : source.place ∈ scanned) (hd : d ∈ declaredInFile source)
    (hunnamed : "" ∈ (membersOf d.declaration).methods.map (·.name)) (indent : Int) :
    ¬ ∃ read, Document.ofText
      (writeFacts ((factsOfProgram w root scanned).flatMap (·.facts)) indent) = .ok read := by
  have hdrawn : ∀ f ∈ (factsOfProgram w root scanned).flatMap (·.facts),
      ∃ library d, Drawn library d f := fun f hf => by
    obtain ⟨_, -, -, library, d, -, h⟩ := exists_drawn hf
    exact ⟨library, d, h⟩
  rw [accepts_writeFacts_iff hdrawn]
  intro hnames
  have hin : source ∈ w.sources.files.filter fun f => scanned.contains f.place :=
    List.mem_filter.mpr ⟨hsource, List.contains_iff_mem.mpr hscanned⟩
  obtain ⟨file, hfile, hfacts⟩ := exists_of_mem_left (factsOfProgram_drawn w root scanned) hin
  obtain ⟨f, hf, h⟩ := exists_of_mem_left hfacts hd
  rw [← h.methods] at hunnamed
  obtain ⟨m, hm, hname⟩ := List.mem_map.mp hunnamed
  exact (hnames f (List.mem_flatMap.mpr ⟨file, hfile, hf⟩)).methods m hm hname

end Documents

/-- A source may name a method by an empty text. -/
example : "" ∈ (declaredIn ⟨default, []⟩
    (readSource false false "interface A \x7b ''(): void \x7d".toList).1).flatMap
      fun d => (membersOf d.declaration).methods.map (·.name) := by
  decide +kernel

/-! ## The extraction -/

theorem facts_of_extract {home : Place} {t : FileTree} {r : Request} {e : Extracted}
    (h : extract home t r = .ok e) : ∃ w root scanned,
      e.facts = keepBelow r.bases ((factsOfProgram w root scanned).flatMap (·.facts)) := by
  unfold extract at h
  obtain ⟨scanned, -, h⟩ := exists_of_bind_eq_ok h
  obtain ⟨setup, -, h⟩ := exists_of_bind_eq_ok h
  have hfacts := congrArg Extracted.facts (Except.ok.inj h)
  exact ⟨_, _, _, hfacts.symm⟩

theorem exists_drawn_of_extract {home : Place} {t : FileTree} {r : Request} {e : Extracted}
    (h : extract home t r = .ok e) : ∀ f ∈ e.facts, ∃ library d, Drawn library d f := by
  obtain ⟨w, root, scanned, hfacts⟩ := facts_of_extract h
  intro f hf
  rw [hfacts] at hf
  obtain ⟨_, -, -, library, d, -, hdrawn⟩ := exists_drawn (mem_of_mem_keepBelow hf)
  exact ⟨library, d, hdrawn⟩

/-- **The document of an extraction is read back** if its names allow it: an
    extraction fails, or else its document is accepted exactly if all names that
    the facts have from their sources are such as the grammar asks for, and what
    is then read are the facts by name, equal names in the order in which they
    were extracted. -/
theorem ofText_writeFacts_extract (home : Place) (t : FileTree) (r : Request) (indent : Int) :
    (∃ fault, extract home t r = .error fault)
    ∨ ∃ e, extract home t r = .ok e
      ∧ ((∃ read, Document.ofText (writeFacts e.facts indent) = .ok read)
          ↔ ∀ f ∈ e.facts, Nameable f)
      ∧ ∀ read, Document.ofText (writeFacts e.facts indent) = .ok read →
          List.Forall₂ TypeFact.Same (TypeFact.sortByName e.facts) read := by
  cases h : extract home t r with
  | error fault => exact Or.inl ⟨fault, rfl⟩
  | ok e =>
      have hdrawn := exists_drawn_of_extract h
      exact Or.inr ⟨e, rfl, accepts_writeFacts_iff hdrawn indent,
        fun _ => same_of_ofText_writeFacts hdrawn⟩

end TypeLineage.Extract

/-! ## Names that several files declare

    Going through the facts of a file, every name is known to be declared there
    from its first fact on.  So what a file finds out of one name comes from its
    first fact of that name, and is told apart by the file that declared the name
    last, if it is another one.

    Through all files, a name is handed on from each file that declares it to the
    next, and each but the first tells of the one before. -/

namespace TypeLineage.Extract

/-- The finding tells that a name is declared twice. -/
def IsDuplicateOf (name : String) (f : Finding) : Prop :=
  f.kind = .duplicateType ∧ f.tags = some [("type", name)]

instance (name : String) (f : Finding) : Decidable (IsDuplicateOf name f) :=
  inferInstanceAs (Decidable (_ ∧ _))

/-- A fact of the file bears the name. -/
def Bears (name : String) (file : FileFacts) : Prop := ∃ f ∈ file.facts, f.name = name

instance (name : String) (file : FileFacts) : Decidable (Bears name file) :=
  inferInstanceAs (Decidable (∃ f ∈ file.facts, f.name = name))

/-- The libraries in which a fact bears the name, in order. -/
def bearersOf (name : String) (files : List FileFacts) : List String :=
  (files.filter (Bears name ·)).map (·.library)

/-- What one file finds out of a name that was last declared in some file, or in none. -/
def handedOn (name library : String) : Option String → List Finding
  | some previous => if previous ≠ library then [duplicateFinding library name previous] else []
  | none => []

variable {name library : String} {facts : List TypeFact} {declared : List (String × String)}

/-! ### One file -/

theorem isDuplicateOf_duplicateFinding {other previous : String} :
    IsDuplicateOf name (duplicateFinding library other previous) ↔ other = name := by
  unfold IsDuplicateOf duplicateFinding
  constructor
  · rintro ⟨-, htags⟩
    simpa using htags
  · rintro rfl
    exact ⟨rfl, rfl⟩

theorem findingsOfFile_cons (f : TypeFact) :
    findingsOfFile library declared (f :: facts)
      = (handedOn f.name library (declared.lookup f.name)
          ++ (findingsOfFile library ((f.name, library) :: declared) facts).1,
        (findingsOfFile library ((f.name, library) :: declared) facts).2) := by
  rw [findingsOfFile]
  unfold handedOn
  cases declared.lookup f.name with
  | none => rfl
  | some previous =>
      dsimp only
      split <;> rfl

/-- What is known behind a file: the names of its facts were declared there last. -/
theorem lookup_findingsOfFile :
    (findingsOfFile library declared facts).2.lookup name
      = if ∃ f ∈ facts, f.name = name then some library else declared.lookup name := by
  induction facts generalizing declared with
  | nil => rw [if_neg (by simp)]; rfl
  | cons f rest ih =>
      rw [findingsOfFile_cons, ih, List.lookup_cons]
      by_cases hname : f.name = name
      · subst hname
        simp
      · have hother : (name == f.name) = false := beq_eq_false_iff_ne.mpr (Ne.symm hname)
        simp [hname, hother]

theorem filter_handedOn {other : String} (previous : Option String) :
    (handedOn other library previous).filter (IsDuplicateOf name ·)
      = if other = name then handedOn name library previous else [] := by
  unfold handedOn
  cases previous with
  | none => simp
  | some previous =>
      by_cases hlibrary : previous = library
      · simp [hlibrary]
      · by_cases hname : other = name
        · simp [hlibrary, hname, isDuplicateOf_duplicateFinding]
        · simp [hlibrary, hname, isDuplicateOf_duplicateFinding]

/-- A file finds out of a name what its first fact of that name does. -/
theorem filter_findingsOfFile :
    (findingsOfFile library declared facts).1.filter (IsDuplicateOf name ·)
      = if ∃ f ∈ facts, f.name = name then handedOn name library (declared.lookup name) else [] := by
  induction facts generalizing declared with
  | nil => rw [if_neg (by simp)]; rfl
  | cons f rest ih =>
      rw [findingsOfFile_cons, List.filter_append, filter_handedOn, ih, List.lookup_cons]
      by_cases hname : f.name = name
      · -- the later facts of the name find it declared in this very file
        subst hname
        simp [handedOn]
      · have hother : (name == f.name) = false := beq_eq_false_iff_ne.mpr (Ne.symm hname)
        simp [hname, hother]

/-! ### All files -/

/-- A name is handed on along libraries, from the first of them or from one before. -/
def handedAlong (name : String) : Option String → List String → List Finding
  | _, [] => []
  | previous, library :: rest =>
    handedOn name library previous ++ handedAlong name (some library) rest

theorem bearersOf_cons (file : FileFacts) (rest : List FileFacts) :
    bearersOf name (file :: rest)
      = if Bears name file then file.library :: bearersOf name rest else bearersOf name rest := by
  unfold bearersOf
  by_cases hbears : Bears name file
  · simp [hbears]
  · simp [hbears]

theorem filter_findings_eq_handedAlong (files : List FileFacts) :
    (findings declared files).filter (IsDuplicateOf name ·)
      = handedAlong name (declared.lookup name) (bearersOf name files) := by
  induction files generalizing declared with
  | nil => rfl
  | cons file rest ih =>
      rw [findings, List.filter_append, filter_findingsOfFile, ih, lookup_findingsOfFile,
        bearersOf_cons]
      by_cases hfact : ∃ f ∈ file.facts, f.name = name
      · have hbears : Bears name file := hfact
        rw [if_pos hfact, if_pos hfact, if_pos hbears, handedAlong]
      · have hbears : ¬ Bears name file := hfact
        rw [if_neg hfact, if_neg hfact, if_neg hbears, List.nil_append]

/-- Where no library comes twice, each but the first is told of with the one before. -/
theorem handedAlong_eq (previous : Option String) (libraries : List String)
    (hnodup : (previous.toList ++ libraries).Nodup) :
    handedAlong name previous libraries
      = ((previous.toList ++ libraries).zip (previous.toList ++ libraries).tail).map
          fun pair => duplicateFinding pair.2 name pair.1 := by
  induction libraries generalizing previous with
  | nil => cases previous <;> rfl
  | cons library rest ih =>
      cases previous with
      | none => exact ih (some library) hnodup
      | some previous =>
          have hne : previous ≠ library := fun heq =>
            (List.nodup_cons.mp hnodup).1 (heq ▸ List.mem_cons_self)
          have hown : handedOn name library (some previous)
              = [duplicateFinding library name previous] := if_pos hne
          rw [handedAlong, hown, ih (some library) (List.nodup_cons.mp hnodup).2]
          rfl

/-- Of a name that several files declare, each file but the first tells once, of the closest one
    before. -/
theorem filter_findings {files : List FileFacts} (hnodup : (files.map (·.library)).Nodup) :
    (findings [] files).filter (IsDuplicateOf name ·)
      = ((bearersOf name files).zip (bearersOf name files).tail).map
          fun pair => duplicateFinding pair.2 name pair.1 := by
  rw [filter_findings_eq_handedAlong]
  refine handedAlong_eq none _ ?_
  exact hnodup.sublist (List.filter_sublist.map _)

end TypeLineage.Extract
