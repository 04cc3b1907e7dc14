import TypeLineage.Proofs.Extract.Extraction
import TypeLineage.Proofs.Extract.Description
import TypeLineage.Proofs.Extract.Spaces
import TypeLineage.Proofs.Files.Path
import TypeLineage.Proofs.Files.Scan
import TypeLineage.Proofs.Program.Gathering

/-! # What an extraction is made of

    An extraction takes in every scanned file once and tells, file by file, one
    fact of each named class and interface that stands in it with nothing but
    namespaces around.  As the files have different libraries, a name that
    several of them declare is found by each but the first.

    How the namespaces of a path are written does not matter where the inner ones
    are exported: there is no telling them apart in the program.  Where they are
    not, the facts still correspond one by one, and only what checking tells of
    types may be another. -/

namespace TypeLineage.Extract

open Source Program Typing

namespace Request

variable (r : Request) (home : Place) (t : FileTree) (scanned : List String)
  (setup : Project.Setup)

/-- The directory whose sources are scanned. -/
def directory : Place := Path.resolve home r.root

/-- Where the scanned files stand. -/
def places : List Place := scanned.map (Path.resolve (r.directory home))

/-- The files of the program whose facts are extracted. -/
def sources : Sources :=
  .ofRoots t setup.options ((setup.config.map List.dropLast).getD home) (r.places home scanned)

/-- The scanned files as they are read, in the order of the program. -/
def scannedFiles : List SourceFile :=
  (r.sources home t scanned setup).files.filter fun f => (r.places home scanned).contains f.place

/-- What the options say about the types of that program. -/
def settings : Settings :=
  .ofOptions setup.options ((r.sources home t scanned setup).files.flatMap (·.libraries))

/-- The program whose facts are extracted. -/
def world : World :=
  .ofSources (r.sources home t scanned setup) (r.settings home t scanned setup)

end Request

/-- The name under which a file is known. -/
def libraryOf (root : Place) (source : SourceFile) : String :=
  Path.toPosix (Path.relative root source.place)

/-- The facts of a file are told of the types that stand in it, one of each and in their order. -/
structure IsTold (w : World) (root : Place) (source : SourceFile) (file : FileFacts) : Prop where
  library : file.library = libraryOf root source
  facts : ∃ listing : List (List Nat × Declared), listing.Pairwise (·.1 < ·.1)
    ∧ (∀ address d, (address, d) ∈ listing
        ↔ Stands ⟨source.unfolded, []⟩ source.statements address d)
    ∧ List.Forall₂ (fun x f => MayGive (factOf w file.library x.2) f) listing file.facts

/-- A type of the name stands in the file. -/
def Declares (name : String) (source : SourceFile) : Prop :=
  ∃ address d, Stands ⟨source.unfolded, []⟩ source.statements address d ∧ d.name = name

/-- In the file namespaces of paths are written as namespaces one inside the other. -/
def FileRenested (visibility : Visibility) (f f' : SourceFile) : Prop :=
  ∃ statements, Renested visibility f.statements statements
    ∧ f' = { f with statements := statements }

/-- In files of a program namespaces of paths are written as namespaces one inside the other. -/
structure SourcesRenested (visibility : Visibility) (s s' : Sources) : Prop where
  tree : s'.tree = s.tree
  resolution : s'.resolution = s.resolution
  files : List.Forall₂ (FileRenested visibility) s.files s'.files

/-- The facts differ at most in what checking tells of types. -/
structure SameButTypes (f g : TypeFact) : Prop where
  name : g.name = f.name
  library : g.library = f.library
  superclass : g.superclass = f.superclass
  interfaces : g.interfaces = f.interfaces
  mixins : g.mixins = f.mixins
  typeParameters : g.typeParameters = f.typeParameters
  methods : g.methods.map (fun m => (m.name, m.isStatic, m.parameterTypes.length))
    = f.methods.map fun m => (m.name, m.isStatic, m.parameterTypes.length)
  properties : g.properties = f.properties

/-- An extraction with some scanned sources is made of one file for each of them, and every name
    is told of by the files that declare it, but for the first. -/
structure IsComplete (home : Place) (t : FileTree) (r : Request) (scanned : List String)
    (setup : Project.Setup) (e : Extracted) (sources : List SourceFile) : Prop where
  facts : e.facts = e.files.flatMap (·.facts)
  distinct : (sources.map (·.place)).Nodup
  covers : ∀ place, place ∈ sources.map (·.place)
    ↔ place ∈ r.places home scanned ∧ t.isFile place = true
  read : ∀ source ∈ sources, IsReadFrom t (.ofOptions setup.options) (.ofOptions setup.options) source
  told : List.Forall₂ (IsTold (r.world home t scanned setup) (r.directory home)) sources e.files
  libraries : (sources.map (libraryOf (r.directory home))).Nodup
  duplicates : ∀ (report : Report) (name : String), report.findings = [] →
    ∃ declaring : List SourceFile, declaring.Sublist sources
      ∧ (∀ source ∈ sources, source ∈ declaring ↔ Declares name source)
      ∧ (e.tell report).findings.filter (IsDuplicateOf name ·)
        = (declaring.zip declaring.tail).map (fun pair => duplicateFinding
            (libraryOf (r.directory home) pair.2) name (libraryOf (r.directory home) pair.1))
      ∧ ((e.tell report).findings.filter (IsDuplicateOf name ·)).length = declaring.length - 1

theorem forall₂_comp {α β γ : Type} {R : α → β → Prop} {S : β → γ → Prop} {as : List α}
    {bs : List β} {cs : List γ} (hR : List.Forall₂ R as bs) (hS : List.Forall₂ S bs cs) :
    List.Forall₂ (fun a c => ∃ b, R a b ∧ S b c) as cs := by
  induction hR generalizing cs with
  | nil =>
      cases hS
      exact .nil
  | cons hab _ ih =>
      cases hS with
      | cons hbc hrest => exact .cons ⟨_, hab, hbc⟩ (ih hrest)

/-! ## Facts of a program -/

section Program

variable {w : World} {root : Place} {scanned : List Place}

/-- The facts of a program, file by file. -/
theorem factsOfProgram_told (w : World) (root : Place) (scanned : List Place) :
    List.Forall₂
      (fun (source : SourceFile) (file : FileFacts) => file.library = libraryOf root source
        ∧ List.Forall₂ (fun d f => MayGive (factOf w file.library d) f) (declaredInFile source)
            file.facts)
      (w.sources.files.filter fun f => scanned.contains f.place)
      (factsOfProgram w root scanned) := by
  refine Gives.start (gives_mapM (fun source => ?_) _) w
  refine (gives_mapM (fun d => gives_mayGive (factOf w (libraryOf root source) d)) _).bind
    fun facts hfacts => ?_
  exact gives_pure ⟨rfl, hfacts⟩

/-- The keys of the type arguments in the scanned files of a program. -/
def writtenKeys (w : World) (scanned : List Place) : List String :=
  (w.sources.files.filter fun f => scanned.contains f.place).flatMap fun source =>
    (declaredInFile source).flatMap fun d => (heritageOf w d).arguments.map (·.key)

/-- The facts of a program bind the keys that its files write. -/
theorem mem_writtenKeys_iff (w : World) (root : Place) (scanned : List Place) (key : String) :
    key ∈ writtenKeys w scanned ↔ ∃ f ∈ (factsOfProgram w root scanned).flatMap (·.facts),
      key ∈ f.genericArguments.map (·.1) := by
  have htold := factsOfProgram_told w root scanned
  simp only [writtenKeys, List.mem_flatMap, List.mem_map]
  constructor
  · rintro ⟨source, hsource, d, hd, a, ha, rfl⟩
    obtain ⟨file, hfile, -, hfacts⟩ := exists_of_mem_left htold hsource
    obtain ⟨f, hf, hmay⟩ := exists_of_mem_left hfacts hd
    exact ⟨f, ⟨file, hfile, hf⟩, (hmay.of_gives (gives_described w file.library d)).binds a ha⟩
  · rintro ⟨f, ⟨file, hfile, hf⟩, b, hb, rfl⟩
    obtain ⟨source, hsource, -, hfacts⟩ := exists_of_mem_right htold hfile
    obtain ⟨d, hd, hmay⟩ := exists_of_mem_right hfacts hf
    exact ⟨source, hsource, d, hd, (hmay.of_gives (gives_described w file.library d)).bound b hb⟩

theorem declaredInFile_unfolded (source : SourceFile) :
    declaredInFile source.unfolded
      = (addressedIn ⟨source.unfolded, []⟩ 0 source.statements).map (·.2) :=
  declaredIn_unfoldedAll _ 0 source.statements

/-- Files are chosen by their places, which do not change when paths are written out. -/
theorem filter_unfolded (sources : Sources) (settings : Settings) :
    (World.ofSources sources settings).sources.files.filter (fun f => scanned.contains f.place)
      = (sources.files.filter fun f => scanned.contains f.place).map SourceFile.unfolded := by
  show (sources.files.map SourceFile.unfolded).filter _ = _
  rw [List.filter_map]
  rfl

/-- One fact is told of every type that stands in a scanned file. -/
theorem factsOfProgram_isTold (sources : Sources) (settings : Settings) :
    List.Forall₂ (IsTold (World.ofSources sources settings) root)
      (sources.files.filter fun f => scanned.contains f.place)
      (factsOfProgram (World.ofSources sources settings) root scanned) := by
  have htold := factsOfProgram_told (World.ofSources sources settings) root scanned
  rw [filter_unfolded, List.forall₂_map_left_iff] at htold
  refine htold.imp ?_
  rintro source file ⟨hlibrary, hfacts⟩
  refine ⟨hlibrary, addressedIn ⟨source.unfolded, []⟩ 0 source.statements, ?_, ?_, ?_⟩
  · exact pairwise_addressedIn _ _ _
  · exact fun address d => mem_addressed_iff
  · rw [declaredInFile_unfolded, List.forall₂_map_left_iff] at hfacts
    exact hfacts

/-- A fact of a file bears a name exactly if a type of the name stands in the file. -/
theorem IsTold.bears_iff {source : SourceFile} {file : FileFacts} (h : IsTold w root source file)
    (name : String) : Bears name file ↔ Declares name source := by
  obtain ⟨listing, -, hlisting, hfacts⟩ := h.facts
  constructor
  · rintro ⟨f, hf, hname⟩
    obtain ⟨⟨address, d⟩, hd, htold⟩ := exists_of_mem_right hfacts hf
    refine ⟨address, d, (hlisting address d).mp hd, ?_⟩
    rw [← hname]
    exact (htold.of_gives (gives_described w file.library d)).name.symm
  · rintro ⟨address, d, hd, hname⟩
    obtain ⟨f, hf, htold⟩ := exists_of_mem_left hfacts ((hlisting address d).mpr hd)
    refine ⟨f, hf, ?_⟩
    rw [← hname]
    exact (htold.of_gives (gives_described w file.library d)).name

theorem map_library_eq {sources : List SourceFile} {files : List FileFacts}
    (h : List.Forall₂ (IsTold w root) sources files) :
    files.map (·.library) = sources.map (libraryOf root) := by
  induction h with
  | nil => rfl
  | cons hfirst _ ih => rw [List.map_cons, List.map_cons, ih, hfirst.library]

/-- The files in which the name stands are those with facts of the name. -/
theorem exists_declaring {sources : List SourceFile} {files : List FileFacts}
    (h : List.Forall₂ (IsTold w root) sources files) (name : String) :
    ∃ declaring : List SourceFile, declaring.Sublist sources
      ∧ (∀ source ∈ sources, source ∈ declaring ↔ Declares name source)
      ∧ bearersOf name files = declaring.map (libraryOf root) := by
  induction h with
  | nil => exact ⟨[], .slnil, List.forall_mem_nil _, rfl⟩
  | @cons source file sources files htold _ ih =>
      obtain ⟨declaring, hsublist, hmem, hbearers⟩ := ih
      by_cases hbears : Bears name file
      · have hdeclares := (htold.bears_iff name).mp hbears
        refine ⟨source :: declaring, hsublist.cons_cons source, ?_, ?_⟩
        · intro other hother
          rcases List.mem_cons.mp hother with rfl | hother
          · exact iff_of_true List.mem_cons_self hdeclares
          · rw [List.mem_cons, hmem other hother, or_iff_right_iff_imp]
            rintro rfl
            exact hdeclares
        · rw [bearersOf_cons, if_pos hbears, hbearers, List.map_cons, htold.library]
      · have hdeclares := mt (htold.bears_iff name).mpr hbears
        refine ⟨declaring, hsublist.cons source, ?_, ?_⟩
        · intro other hother
          rcases List.mem_cons.mp hother with rfl | hother
          · refine iff_of_false (fun hdeclaring => ?_) hdeclares
            exact hdeclares ((hmem other (hsublist.subset hdeclaring)).mp hdeclaring)
          · exact hmem other hother
        · rw [bearersOf_cons, if_neg hbears, hbearers]

end Program

/-! ## Namespaces one inside the other -/

section Renesting

variable {visibility : Visibility} {s s' : Sources} {w w' : World} {library : String}
  {d d' : Declared} {f g : TypeFact}

/-- Where the inner namespaces are exported, the program is the same. -/
theorem SourcesRenested.ofSources_eq (h : SourcesRenested .exported s s') (settings : Settings) :
    World.ofSources s' settings = World.ofSources s settings := by
  have hfiles : s'.files.map SourceFile.unfolded = s.files.map SourceFile.unfolded := by
    have hall := h.files
    generalize s.files = files at hall ⊢
    generalize s'.files = files' at hall ⊢
    induction hall with
    | nil => rfl
    | cons hfirst _ ih =>
        obtain ⟨statements, hstatements, rfl⟩ := hfirst
        rw [List.map_cons, List.map_cons, ih]
        congr 1
        unfold SourceFile.unfolded
        rw [hstatements.unfoldedAll_eq]
  unfold World.ofSources Sources.unfolded
  rw [h.tree, h.resolution, hfiles]

/-- Facts of one type that is written differ at most in what checking tells of types. -/
theorem sameButTypes_of_written (hwritten : d'.written = d.written)
    (hf : MayGive (factOf w library d) f) (hg : MayGive (factOf w' library d') g) :
    SameButTypes f g := by
  have hf := hf.of_gives (gives_described w library d)
  have hg := hg.of_gives (gives_described w' library d')
  have hname : d'.name = d.name := congrArg Prod.fst hwritten
  have hd : d'.declaration = d.declaration := congrArg Prod.snd hwritten
  have hshape : ∀ x m told, ToldOf x m told → (told.name, told.isStatic, told.parameterTypes.length)
      = (m.name, m.isStatic, m.function.parameters.length) := by
    intro x m told h
    rw [h.name, h.isStatic, h.parameters]
  constructor
  case name => rw [hf.name, hg.name, hname]
  case library => rw [hf.library, hg.library]
  case superclass =>
    rw [hf.superclass, hg.superclass, heritageOf, heritageOf, ParameterNames.superclass_heritage,
      ParameterNames.superclass_heritage, hd]
  case interfaces =>
    rw [hf.interfaces, hg.interfaces, heritageOf, heritageOf, ParameterNames.interfaces_heritage,
      ParameterNames.interfaces_heritage, hd]
  case mixins =>
    rw [hf.mixins, hg.mixins, heritageOf, heritageOf, ParameterNames.mixins_heritage,
      ParameterNames.mixins_heritage, hd]
  case typeParameters => rw [hf.typeParameters, hg.typeParameters, hd]
  case methods => rw [hf.map_methods (hshape d), hg.map_methods (hshape d'), hd]
  case properties => rw [hf.properties, hg.properties, hd]

theorem FileRenested.place_eq {source source' : SourceFile}
    (h : FileRenested visibility source source') : source'.place = source.place := by
  obtain ⟨statements, -, rfl⟩ := h
  rfl

/-- The types that stand in a file are written in the same order. -/
theorem FileRenested.written_eq {source source' : SourceFile}
    (h : FileRenested visibility source source') :
    List.Forall₂ (fun d d' : Declared => d'.written = d.written)
      (declaredInFile source.unfolded) (declaredInFile source'.unfolded) := by
  obtain ⟨statements, hstatements, rfl⟩ := h
  have hwritten := hstatements.written_eq ⟨source.unfolded, []⟩
    ⟨SourceFile.unfolded { source with statements := statements }, []⟩
  have heq : List.Forall₂ Eq
      ((declaredInFile (SourceFile.unfolded { source with statements := statements })).map
        Declared.written) ((declaredInFile source.unfolded).map Declared.written) := by
    rw [List.forall₂_eq_eq_eq]
    exact hwritten
  rw [List.forall₂_map_left_iff, List.forall₂_map_right_iff] at heq
  exact heq.flip

/-- Whether the inner namespaces are exported or not, the facts of a program correspond one by
    one. -/
theorem SourcesRenested.sameButTypes (h : SourcesRenested visibility s s') (settings : Settings)
    (root : Place) (scanned : List Place) :
    List.Forall₂ (fun file file' : FileFacts => file'.library = file.library
        ∧ List.Forall₂ SameButTypes file.facts file'.facts)
      (factsOfProgram (.ofSources s settings) root scanned)
      (factsOfProgram (.ofSources s' settings) root scanned) := by
  have hfiles : List.Forall₂ (FileRenested visibility)
      (s.files.filter fun f => scanned.contains f.place)
      (s'.files.filter fun f => scanned.contains f.place) := by
    refine List.rel_filter (fun source source' hsource => ?_) h.files
    show scanned.contains source.place = true ↔ scanned.contains source'.place = true
    rw [hsource.place_eq]
  have htold := factsOfProgram_told (.ofSources s settings) root scanned
  have htold' := factsOfProgram_told (.ofSources s' settings) root scanned
  rw [filter_unfolded, List.forall₂_map_left_iff] at htold htold'
  refine (forall₂_comp htold.flip (forall₂_comp hfiles htold')).imp ?_
  rintro file file' ⟨source, ⟨hlibrary, hfacts⟩, source', hsource, hlibrary', hfacts'⟩
  have hsame : file'.library = file.library := by
    rw [hlibrary, hlibrary']
    exact congrArg (fun place => Path.toPosix (Path.relative root place)) hsource.place_eq
  refine ⟨hsame, ?_⟩
  rw [hsame] at hfacts'
  refine (forall₂_comp hfacts.flip (forall₂_comp hsource.written_eq hfacts')).imp ?_
  rintro f g ⟨d, hf, d', hwritten, hg⟩
  exact sameButTypes_of_written hwritten hf hg

end Renesting

/-! ## The extraction -/

section Extraction

variable {home : Place} {t : FileTree} {r : Request} {scanned : List String}
  {setup : Project.Setup}

/-- An extraction comes to an end if the scan and the configuration do. -/
theorem extract_eq_ok (hscan : r.selection.paths home t = .ok scanned)
    (hsetup : Project.setUp t (r.directory home) r.configuration = .ok setup) :
    extract home t r = .ok
      { scanned := scanned
        files := factsOfProgram (r.world home t scanned setup) (r.directory home)
          (r.places home scanned)
        facts := keepBelow r.bases ((factsOfProgram (r.world home t scanned setup)
          (r.directory home) (r.places home scanned)).flatMap (·.facts)) } := by
  unfold Request.directory at hsetup
  unfold extract
  dsimp only
  rw [hscan, hsetup]
  rfl

/-- A scan lists plain paths. -/
theorem plain_of_mem_paths (hscan : r.selection.paths home t = .ok scanned) :
    ∀ path ∈ scanned, '\\' ∉ path.toList := by
  obtain ⟨-, found, -, rfl⟩ := Selection.paths_eq_ok_iff.mp hscan
  intro path hpath
  have hmem := (Scan.capped_sublist _ _).subset hpath
  obtain ⟨c, -, rfl⟩ := List.mem_map.mp (Text.mem_sortByUnits.mp hmem)
  exact Path.not_mem_toPosix c.path

/-- The scanned files of a program, each from one of the places. -/
theorem mem_scannedFiles_iff (place : Place) :
    place ∈ (r.scannedFiles home t scanned setup).map (·.place)
      ↔ place ∈ r.places home scanned ∧ t.isFile place = true := by
  constructor
  · intro hplace
    obtain ⟨source, hsource, rfl⟩ := List.mem_map.mp hplace
    obtain ⟨hmem, hscanned⟩ := List.mem_filter.mp hsource
    exact ⟨List.contains_iff_mem.mp hscanned, (isReadFrom_of_mem_ofRoots _ _ _ _ source hmem).isFile⟩
  · rintro ⟨hscanned, hfile⟩
    obtain ⟨source, hmem, rfl⟩ := List.mem_map.mp
      (mem_places_ofRoots t setup.options ((setup.config.map List.dropLast).getD home) _ hscanned hfile)
    exact List.mem_map_of_mem (List.mem_filter.mpr ⟨hmem, List.contains_iff_mem.mpr hscanned⟩)

/-- Files at different places that a scan has found are known under different names. -/
theorem nodup_libraries (hscan : r.selection.paths home t = .ok scanned) {sources : List SourceFile}
    (hplaces : (sources.map (·.place)).Nodup)
    (hscanned : ∀ source ∈ sources, source.place ∈ r.places home scanned) :
    (sources.map (libraryOf (r.directory home))).Nodup := by
  have hreached : ∀ source ∈ sources, Path.IsReached (r.directory home) source.place := by
    intro source hsource
    obtain ⟨path, hpath, hplace⟩ := List.mem_map.mp (hscanned source hsource)
    rw [← hplace]
    exact Path.isReached_resolve _ (plain_of_mem_paths hscan path hpath)
  rw [List.nodup_iff_pairwise_ne, List.pairwise_map] at hplaces ⊢
  refine hplaces.imp_of_mem ?_
  intro a b ha hb hne heq
  exact hne ((hreached a ha).eq_of_relative_eq (hreached b hb) heq)

/-- What is told of a name by the files that declare it. -/
theorem duplicates_of_told {w : World} {root : Place} {sources : List SourceFile} {e : Extracted}
    (htold : List.Forall₂ (IsTold w root) sources e.files)
    (hlibraries : (sources.map (libraryOf root)).Nodup) {report : Report}
    (hreport : report.findings = []) (name : String) :
    ∃ declaring : List SourceFile, declaring.Sublist sources
      ∧ (∀ source ∈ sources, source ∈ declaring ↔ Declares name source)
      ∧ (e.tell report).findings.filter (IsDuplicateOf name ·)
        = (declaring.zip declaring.tail).map (fun pair => duplicateFinding
            (libraryOf root pair.2) name (libraryOf root pair.1))
      ∧ ((e.tell report).findings.filter (IsDuplicateOf name ·)).length = declaring.length - 1 := by
  obtain ⟨declaring, hsublist, hmem, hbearers⟩ := exists_declaring htold name
  have hnodup : (e.files.map (·.library)).Nodup := by
    rw [map_library_eq htold]
    exact hlibraries
  have hfindings : (e.tell report).findings = findings [] e.files := by
    show report.findings ++ findings [] e.files = _
    rw [hreport, List.nil_append]
  have hpairs : (e.tell report).findings.filter (IsDuplicateOf name ·)
      = (declaring.zip declaring.tail).map (fun pair => duplicateFinding
          (libraryOf root pair.2) name (libraryOf root pair.1)) := by
    rw [hfindings, filter_findings hnodup, hbearers, ← List.map_tail, List.zip_map, List.map_map]
    rfl
  refine ⟨declaring, hsublist, hmem, hpairs, ?_⟩
  rw [hpairs, List.length_map, List.length_zip, List.length_tail]
  exact Nat.min_eq_right (Nat.sub_le _ _)

/-- Without bases, an extraction whose scan and configuration come to an end is complete. -/
theorem exists_isComplete (hbases : r.bases = [])
    (hscan : r.selection.paths home t = .ok scanned)
    (hsetup : Project.setUp t (r.directory home) r.configuration = .ok setup) :
    ∃ e sources, extract home t r = .ok e ∧ IsComplete home t r scanned setup e sources := by
  have hplaces : ((r.scannedFiles home t scanned setup).map (·.place)).Nodup :=
    (nodup_places_ofRoots _ _ _ _).sublist (List.filter_sublist.map _)
  have htold : List.Forall₂ (IsTold (r.world home t scanned setup) (r.directory home))
      (r.scannedFiles home t scanned setup)
      (factsOfProgram (r.world home t scanned setup) (r.directory home) (r.places home scanned)) :=
    factsOfProgram_isTold _ _
  have hlibraries := nodup_libraries hscan hplaces fun source hsource =>
    List.contains_iff_mem.mp (List.mem_filter.mp hsource).2
  have hextract := extract_eq_ok hscan hsetup
  -- what the facts are in the end is of no concern here
  generalize factsOfProgram (r.world home t scanned setup) (r.directory home)
    (r.places home scanned) = files at htold hextract
  have hkept : keepBelow r.bases (files.flatMap (·.facts)) = files.flatMap (·.facts) := by
    rw [hbases]
    rfl
  refine ⟨_, r.scannedFiles home t scanned setup, hextract, ?_⟩
  exact
    { facts := hkept
      distinct := hplaces
      covers := mem_scannedFiles_iff
      read := fun source hsource =>
        isReadFrom_of_mem_ofRoots _ _ _ _ source (List.mem_filter.mp hsource).1
      told := htold
      libraries := hlibraries
      duplicates := fun report name hreport => duplicates_of_told htold hlibraries hreport name }

end Extraction

/-- **Every scanned file gives one fact for each type that stands in it.**  Files of a program in
    which namespaces of paths are written as namespaces one inside the other give the same facts
    if the inner ones are exported, and facts that differ at most in what checking tells of types
    if they are not. -/
theorem facts_of_files :
    (∀ (home : Place) (t : FileTree) (r : Request) (scanned : List String)
      (setup : Project.Setup), r.bases = [] → r.selection.paths home t = .ok scanned →
      Project.setUp t (r.directory home) r.configuration = .ok setup →
      ∃ e sources, extract home t r = .ok e ∧ IsComplete home t r scanned setup e sources)
    ∧ ∀ (visibility : Visibility) (s s' : Sources) (settings : Settings) (root : Place)
      (places : List Place), SourcesRenested visibility s s' →
      (visibility = .exported → factsOfProgram (.ofSources s' settings) root places
        = factsOfProgram (.ofSources s settings) root places)
      ∧ List.Forall₂ (fun file file' : FileFacts => file'.library = file.library
          ∧ List.Forall₂ SameButTypes file.facts file'.facts)
        (factsOfProgram (.ofSources s settings) root places)
        (factsOfProgram (.ofSources s' settings) root places) := by
  constructor
  · intro home t r scanned setup hbases hscan hsetup
    exact exists_isComplete hbases hscan hsetup
  · intro visibility s s' settings root places h
    refine ⟨?_, h.sameButTypes settings root places⟩
    rintro rfl
    rw [h.ofSources_eq]

/-- Everything below the root of all files is extracted. -/
def wholeTree : Request :=
  { root := "/", configuration := none, excludes := [], includeTests := false, cap := none
    bases := [] }

/-- A file that declares a name in namespaces, another one twice and a third in a function. -/
def spacedText : String :=
  "namespace a.b \x7b interface X<T> \x7b\x7d \x7d class Y \x7b\x7d class Y \x7b\x7d function f() \x7b class Z \x7b\x7d \x7d"

/-- That file, and another one that declares the first of the names. -/
def twoFiles : FileTree :=
  ⟨[(["a.ts"], spacedText.toUTF8.toList),
    (["b.ts"], "declare module 'm' \x7b interface X \x7b\x7d \x7d".toUTF8.toList)], []⟩

/-- A namespace with a path of three names, and with the inner ones written one inside the
    other. -/
def pathAndNested : Sources × Sources :=
  let sources (statement : Statement) : Sources :=
    ⟨.empty, default, [{ (default : SourceFile) with statements := [statement] }]⟩
  (sources (.space .exported false (.path "a" ["b", "c"]) []),
    sources (.space .exported false (.path "a" [])
      [.space .exported false (.path "b" []) [.space .exported false (.path "c" []) []]]))

theorem facts_of_files_two :
    (∃ e sources, extract [] twoFiles wholeTree = .ok e
      ∧ IsComplete [] twoFiles wholeTree ["a.ts", "b.ts"] .plain e sources
      ∧ ∀ place, place ∈ sources.map (·.place) ↔ place = ["a.ts"] ∨ place = ["b.ts"])
    ∧ factsOfProgram (.ofSources pathAndNested.2 default) [] [[]]
      = factsOfProgram (.ofSources pathAndNested.1 default) [] [[]] := by
  constructor
  · have hfound : wholeTree.selection.found [] twoFiles
        = .ok [.ofPath "a.ts" ["a.ts"], .ofPath "b.ts" ["b.ts"]] := by decide +kernel
    have hscan : wholeTree.selection.paths [] twoFiles = .ok ["a.ts", "b.ts"] :=
      (Selection.paths_of_ordered rfl (by decide +kernel) hfound (by decide +kernel)).trans
        (congrArg Except.ok (by decide +kernel))
    have hdirectory : wholeTree.directory [] = [] := by decide +kernel
    have hsetup : Project.setUp twoFiles (wholeTree.directory []) wholeTree.configuration
        = .ok .plain := by
      rw [hdirectory]
      rfl
    obtain ⟨e, sources, hextract, hcomplete⟩ :=
      facts_of_files.1 [] twoFiles wholeTree _ _ rfl hscan hsetup
    refine ⟨e, sources, hextract, hcomplete, fun place => ?_⟩
    have hplaces : wholeTree.places [] ["a.ts", "b.ts"] = [["a.ts"], ["b.ts"]] := by decide +kernel
    have hfiles : twoFiles.isFile ["a.ts"] = true ∧ twoFiles.isFile ["b.ts"] = true := by
      decide +kernel
    rw [hcomplete.covers, hplaces, List.mem_cons, List.mem_singleton]
    constructor
    · exact And.left
    · rintro (rfl | rfl)
      · exact ⟨Or.inl rfl, hfiles.1⟩
      · exact ⟨Or.inr rfl, hfiles.2⟩
  · have hnested : SourcesRenested .exported pathAndNested.1 pathAndNested.2 :=
      ⟨rfl, rfl, .cons ⟨_, .tail (.single .here) (.inside .here), rfl⟩ .nil⟩
    exact (facts_of_files.2 .exported _ _ default [] [[]] hnested).1 rfl

/-- A class that implements what stands in three namespaces, which are declared by a path. -/
def pathText : String :=
  "export namespace a.b.c \x7b export interface X<T> \x7b\x7d \x7d export class C implements a.b.c.X<string> \x7b\x7d"

/-- The same with the namespaces one inside the other and the inner ones not exported. -/
def innerText : String :=
  "export namespace a \x7b namespace b \x7b namespace c \x7b export interface X<T> \x7b\x7d \x7d \x7d \x7d export class C implements a.b.c.X<string> \x7b\x7d"

/-- A tree of one source. -/
def oneFile (text : String) : FileTree := ⟨[(["a.ts"], text.toUTF8.toList)], []⟩

/-- Names do not lead to where inner namespaces keep theirs, and the type argument is bound no
    more. -/
theorem facts_differ_of_inner :
    ∃ e e', extract [] (oneFile pathText) wholeTree = .ok e
      ∧ extract [] (oneFile innerText) wholeTree = .ok e' ∧ e.facts ≠ e'.facts := by
  have hdirectory : wholeTree.directory [] = [] := by decide +kernel
  have hsetup : ∀ text, Project.setUp (oneFile text) (wholeTree.directory [])
      wholeTree.configuration = .ok .plain := by
    intro text
    rw [hdirectory]
    rfl
  have hpath : wholeTree.selection.paths [] (oneFile pathText) = .ok ["a.ts"] := by decide +kernel
  have hinner : wholeTree.selection.paths [] (oneFile innerText) = .ok ["a.ts"] := by
    decide +kernel
  have hkeys : writtenKeys (wholeTree.world [] (oneFile pathText) ["a.ts"] .plain)
      (wholeTree.places [] ["a.ts"]) = ["X.T"] := by decide +kernel
  have hinnerKeys : writtenKeys (wholeTree.world [] (oneFile innerText) ["a.ts"] .plain)
      (wholeTree.places [] ["a.ts"]) = [] := by decide +kernel
  refine ⟨_, _, extract_eq_ok hpath (hsetup _), extract_eq_ok hinner (hsetup _), fun heq => ?_⟩
  obtain ⟨f, hf, hkey⟩ := (mem_writtenKeys_iff _ (wholeTree.directory []) _ "X.T").mp
    (hkeys ▸ List.mem_cons_self)
  have hnone := mt (mem_writtenKeys_iff _ (wholeTree.directory []) _ "X.T").mpr
    (hinnerKeys ▸ List.not_mem_nil)
  have hkept : ∀ facts, keepBelow wholeTree.bases facts = facts := fun facts => rfl
  dsimp only at heq
  rw [hkept, hkept] at heq
  exact hnone ⟨f, heq ▸ hf, hkey⟩

end TypeLineage.Extract
