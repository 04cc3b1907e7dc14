import Mathlib.Data.List.Forall2
import TypeLineage.Extract.Extraction
import TypeLineage.Proofs.Extract.Heritage

/-! # What is drawn from a declaration

    Checking a program answers with texts for types, and what is found out on
    the way is kept in a store.  Whatever the store holds, the names in a fact
    are those of the declaration: `Gives` speaks of the answers of a
    computation in every world and from every store, and `Drawn` says what a
    fact has from its declaration.

    So one fact is drawn from every declaration of a scanned file, in order. -/

namespace TypeLineage.Typing

open Source Program

section Gives

variable {α β : Type} {work : Check α} {P : α → Prop} {Q : β → Prop}

/-- Whatever is known, the answer satisfies the condition. -/
def Gives (work : Check α) (P : α → Prop) : Prop :=
  ∀ w s, P ((work.run w).run s).1

theorem gives_true (work : Check α) : Gives work fun _ => True :=
  fun _ _ => trivial

theorem gives_pure {a : α} (h : P a) : Gives (pure a) P :=
  fun _ _ => h

theorem Gives.bind {next : α → Check β} (h : Gives work P) (hnext : ∀ a, P a → Gives (next a) Q) :
    Gives (work >>= next) Q :=
  fun w s => hnext _ (h w s) w _

/-- What comes first does not matter. -/
theorem gives_after {next : α → Check β} (h : ∀ a, Gives (next a) Q) : Gives (work >>= next) Q :=
  (gives_true work).bind fun a _ => h a

theorem gives_mapM {f : α → Check β} {R : α → β → Prop} (h : ∀ a, Gives (f a) (R a))
    (items : List α) : Gives (items.mapM f) (List.Forall₂ R items) := by
  induction items with
  | nil =>
      rw [List.mapM_nil]
      exact gives_pure .nil
  | cons a rest ih =>
      rw [List.mapM_cons]
      refine (h a).bind fun b hb => ?_
      exact ih.bind fun bs hbs => gives_pure (.cons hb hbs)

/-- One step after the other keeps an invariant. -/
theorem gives_foldlM {f : β → α → Check β} {items : List α}
    (h : ∀ a ∈ items, ∀ b, Q b → Gives (f b a) Q) :
    ∀ b, Q b → Gives (items.foldlM f b) Q := by
  induction items with
  | nil => exact fun b hb => gives_pure hb
  | cons a rest ih =>
      intro b hb
      rw [List.forall_mem_cons] at h
      rw [List.foldlM_cons]
      exact (h.1 b hb).bind (ih h.2)

/-- Nor does what is made before anything is checked. -/
theorem Gives.start (h : Gives work P) (w : World) : P (work.start w) := by
  have hlater : Gives (startChecking *> work) P := by
    rw [seqRight_eq_bind]
    exact gives_after fun _ => h
  exact hlater w _

end Gives

end TypeLineage.Typing

namespace TypeLineage.Extract

open Source Program Typing

variable {library : String} {d : Declared} {f : TypeFact}

/-- What the fact has from a declaration in a library. -/
structure Drawn (library : String) (d : Declared) (f : TypeFact) : Prop where
  name : f.name = d.name
  library : f.library = library
  superclass : f.superclass ≠ some ""
  interfaces : ∀ n ∈ f.interfaces, n ≠ ""
  mixins : ∀ n ∈ f.mixins, n ≠ ""
  typeParameters : f.typeParameters = d.declaration.typeParameters.map (·.name)
  keys : ∀ b ∈ f.genericArguments, IsKeyOfName b.1
  distinct : (f.genericArguments.map (·.1)).Nodup
  methods : f.methods.map (·.name) = (membersOf d.declaration).methods.map (·.name)
  properties : f.properties = (membersOf d.declaration).properties

/-! ## One declaration -/

/-- Every binding is one of an argument, and none is made twice. -/
theorem gives_tellArguments (scope : Scope) (arguments : List WrittenArgument) :
    Gives (tellArguments scope arguments) fun bindings =>
      (bindings.map (·.1)).Nodup ∧ ∀ b ∈ bindings, ∃ a ∈ arguments, a.key = b.1 := by
  refine gives_foldlM (fun a ha bindings hbindings => ?_) [] ⟨List.nodup_nil, nofun⟩
  obtain ⟨hnd, hkeys⟩ := hbindings
  refine gives_after fun t => gives_after fun text => gives_pure ⟨nodup_bindKey hnd _ _, ?_⟩
  intro b hb
  -- the binding is the one just made, or its key was there before
  rcases mem_keys_bindKey.mp (List.mem_map.mpr ⟨b, hb, rfl⟩) with hkey | hkey
  · exact ⟨a, ha, hkey.symm⟩
  · obtain ⟨c, hc, heq⟩ := List.mem_map.mp hkey
    obtain ⟨x, hx, hxc⟩ := hkeys c hc
    exact ⟨x, hx, hxc.trans heq⟩

theorem gives_tellMethod (d : TypeDeclaration) (scope : Scope) (m : DeclaredMethod) :
    Gives (tellMethod d scope m) fun method => method.name = m.name :=
  gives_after fun _ => gives_after fun _ => gives_after fun _ => gives_after fun _ => gives_pure rfl

theorem gives_factOf (w : World) (library : String) (d : Declared) :
    Gives (factOf w library d) (Drawn library d) := by
  have hnamed := ParameterNames.named_heritage
    (parametersAt w (inside d.declaration d.scope .heading)) d.declaration
  refine (gives_tellArguments _ _).bind fun bindings hbindings => ?_
  refine (gives_mapM (gives_tellMethod d.declaration d.scope) _).bind fun methods hmethods => ?_
  refine gives_pure
    { name := rfl
      library := rfl
      superclass := ?_
      interfaces := hnamed.interfaces
      mixins := hnamed.mixins
      typeParameters := rfl
      keys := ?_
      distinct := hbindings.1
      methods := ?_
      properties := rfl }
  · intro hempty
    exact of_decide_eq_true (Option.filter_eq_some_iff.mp hempty).2 rfl
  · intro b hb
    obtain ⟨a, ha, heq⟩ := hbindings.2 b hb
    exact heq ▸ hnamed.keys a ha
  · show methods.map (·.name) = _
    generalize (membersOf d.declaration).methods = declared at hmethods ⊢
    induction hmethods with
    | nil => rfl
    | cons hname _ ih => rw [List.map_cons, List.map_cons, hname, ih]

/-! ## All files -/

/-- One fact is drawn from every declaration of a scanned file. -/
theorem factsOfProgram_drawn (w : World) (root : Place) (scanned : List Place) :
    List.Forall₂
      (fun (source : SourceFile) (file : FileFacts) =>
        List.Forall₂ (Drawn file.library) (declaredInFile source) file.facts)
      (w.sources.files.filter fun f => scanned.contains f.place)
      (factsOfProgram w root scanned) := by
  refine Gives.start (gives_mapM (fun source => ?_) _) w
  refine (gives_mapM (gives_factOf w _) _).bind fun facts hfacts => ?_
  exact gives_pure hfacts

theorem exists_of_mem_left {α β : Type} {R : α → β → Prop} {xs : List α} {ys : List β}
    (h : List.Forall₂ R xs ys) {x : α} (hx : x ∈ xs) : ∃ y ∈ ys, R x y := by
  induction h with
  | nil => exact nomatch hx
  | @cons _ y _ _ hR _ ih =>
      rcases List.mem_cons.mp hx with rfl | hx
      · exact ⟨y, List.mem_cons_self, hR⟩
      · obtain ⟨z, hz, hR⟩ := ih hx
        exact ⟨z, List.mem_cons_of_mem _ hz, hR⟩

theorem exists_of_mem_right {α β : Type} {R : α → β → Prop} {xs : List α} {ys : List β}
    (h : List.Forall₂ R xs ys) {y : β} (hy : y ∈ ys) : ∃ x ∈ xs, R x y :=
  exists_of_mem_left h.flip hy

/-- Every fact is drawn from a declaration of a scanned file. -/
theorem exists_drawn {w : World} {root : Place} {scanned : List Place}
    (hf : f ∈ (factsOfProgram w root scanned).flatMap (·.facts)) :
    ∃ source ∈ w.sources.files, source.place ∈ scanned
      ∧ ∃ library, ∃ d ∈ declaredInFile source, Drawn library d f := by
  obtain ⟨file, hfile, hf⟩ := List.mem_flatMap.mp hf
  obtain ⟨source, hsource, hfacts⟩ := exists_of_mem_right (factsOfProgram_drawn w root scanned) hfile
  obtain ⟨d, hd, hdrawn⟩ := exists_of_mem_right hfacts hf
  obtain ⟨hmem, hscanned⟩ := List.mem_filter.mp hsource
  exact ⟨source, hmem, List.contains_iff_mem.mp hscanned, file.library, d, hd, hdrawn⟩

theorem mem_of_mem_keepBelow {bases : List String} {facts : List TypeFact}
    (hf : f ∈ keepBelow bases facts) : f ∈ facts := by
  unfold keepBelow at hf
  split at hf
  · exact hf
  · exact List.mem_of_mem_filter hf

end TypeLineage.Extract
