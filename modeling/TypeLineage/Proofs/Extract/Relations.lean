import TypeLineage.Proofs.Extract.Description

/-! # Chains of mixins

    A class extends a chain: mixins applied one on top of the other, and below
    them something that is referred to by its name.  Reading goes down the chain
    call by call, so by induction on the chain every mixin is found, however many
    there are, and so is what they are applied to.

    Type arguments are met on the way, and each is kept under the name of what
    it is written for.  Whatever the shape of the value, that name is recorded
    among the relations when the way goes on, and the parameter is one that is
    declared by what the name refers to. -/

namespace TypeLineage.Extract

open Source Program Typing

/-- The value refers to something by a name, its own or the last of a path.  A
    name that is missing in the source is none. -/
inductive Refers : Expr → String → Prop where
  | name {text : String} : text ≠ "" → Refers (.name text) text
  | access {object : Expr} {member : String} {isOptional : Bool} :
      member ≠ "" → Refers (.access object member isOptional) member

/-- Mixins, the outermost first, that are applied one on top of the other to what
    a name refers to.  The name may have type arguments, and so may the mixins;
    these may be called with more than what they are applied to. -/
inductive Chain : Expr → List String → String → Prop where
  | base {value : Expr} {name : String} : Refers value name → Chain value [] name
  | instantiated {value : Expr} {types : List TypeExpr} {name : String} :
      Refers value name → Chain (.instantiation value types) [] name
  | applied {spot : Nat} {callee argument : Expr} {types : List TypeExpr} {others : List Expr}
      {isOptional : Bool} {mixin base : String} {mixins : List String} :
      Refers callee mixin → Chain argument mixins base →
        Chain (.call spot callee types (argument :: others) isOptional) (mixin :: mixins) base

/-- The way into an extended value leads to a callee on it or to what the mixins
    are applied to. -/
inductive Leads : Expr → Reference → Expr → Prop where
  | base {value : Expr} : Leads value .extended value
  | instantiated {value : Expr} {types : List TypeExpr} :
      Leads (.instantiation value types) .extended value
  | callee {spot : Nat} {callee argument : Expr} {types : List TypeExpr} {others : List Expr}
      {isOptional : Bool} :
      Leads (.call spot callee types (argument :: others) isOptional) .applied callee
  | inner {spot : Nat} {callee argument value : Expr} {types : List TypeExpr}
      {others : List Expr} {isOptional : Bool} {reference : Reference} :
      Leads argument reference value →
        Leads (.call spot callee types (argument :: others) isOptional) reference value

/-- The declaration refers to the value. -/
inductive Mentioned (d : TypeDeclaration) : Reference → Expr → Prop where
  | extended {e : HeritageEntry} {reference : Reference} {value : Expr} :
      e ∈ extendedBy d → Leads e.expression reference value → Mentioned d reference value
  | implemented {e : HeritageEntry} :
      e ∈ implementedBy d → Mentioned d .implemented e.expression

/-- The name is recorded as that of what is referred to. -/
def IsRecorded (superclass : Option String) (interfaces mixins : List String) :
    Reference → String → Prop
  | .extended, name => superclass = some name
  | .implemented, name => name ∈ interfaces
  | .applied, name => name ∈ mixins

variable {value : Expr} {name base : String} {mixins : List String}

/-! ## Names -/

theorem referredName?_eq_some_iff : referredName? value = some name ↔ Refers value name := by
  constructor
  · intro h
    obtain ⟨hname, hne⟩ := Option.filter_eq_some_iff.mp h
    have hne := of_decide_eq_true hne
    cases value with
    | name text =>
        cases hname
        exact .name hne
    | access object member isOptional =>
        cases hname
        exact .access hne
    | _ => exact nomatch hname
  · intro h
    unfold referredName?
    cases h with
    | name hne => exact Option.filter_eq_some_iff.mpr ⟨rfl, decide_eq_true hne⟩
    | access hne => exact Option.filter_eq_some_iff.mpr ⟨rfl, decide_eq_true hne⟩

theorem Refers.applications_eq (h : Refers value name) : applications value = ([], value) := by
  cases h <;> rfl

theorem Refers.ne_empty (h : Refers value name) : name ≠ "" :=
  ne_empty_of_referredName? (referredName?_eq_some_iff.mpr h)

theorem Refers.withoutArguments_eq (h : Refers value name) : withoutArguments value = value := by
  cases h <;> rfl

/-! ## One chain -/

theorem Chain.mixinsOf_eq (h : Chain value mixins base) : mixinsOf value = mixins.reverse := by
  unfold mixinsOf
  congr 1
  induction h with
  | base hvalue => rw [hvalue.applications_eq]; rfl
  | instantiated _ => rfl
  | applied hcallee _ ih =>
      rw [applications, referredName?_eq_some_iff.mpr hcallee]
      exact congrArg _ ih

theorem Chain.baseOf?_eq (h : Chain value mixins base) : baseOf? value = some base := by
  unfold baseOf?
  induction h with
  | base hvalue =>
      rw [hvalue.applications_eq, hvalue.withoutArguments_eq]
      exact referredName?_eq_some_iff.mpr hvalue
  | instantiated hvalue => exact referredName?_eq_some_iff.mpr hvalue
  | applied hcallee _ ih =>
      rw [applications, referredName?_eq_some_iff.mpr hcallee]
      exact ih

theorem Chain.base_ne_empty (h : Chain value mixins base) : base ≠ "" :=
  ne_empty_of_referredName? h.baseOf?_eq

/-! ## The way into a value -/

/-- Every mixin is met on the way, under its name. -/
theorem leads_of_mem_applications (value : Expr) :
    ∀ a ∈ (applications value).1, Leads value .applied a.callee ∧ Refers a.callee a.name := by
  induction value using applications.induct with
  | case1 spot callee types argument others isOptional name hname inner base heq ih =>
      rw [applications, hname]
      refine List.forall_mem_cons.mpr ⟨⟨.callee, referredName?_eq_some_iff.mp hname⟩, ?_⟩
      intro a ha
      obtain ⟨hleads, hrefers⟩ := ih a ha
      exact ⟨.inner hleads, hrefers⟩
  | case2 spot callee types argument others isOptional hname =>
      rw [applications, hname]
      exact List.forall_mem_nil _
  | case3 value hvalue =>
      rw [applications]
      · exact List.forall_mem_nil _
      · exact hvalue

theorem leads_withoutArguments (value : Expr) : Leads value .extended (withoutArguments value) := by
  cases value with
  | instantiation inner types => exact .instantiated
  | _ => exact .base

/-- The way ends at what the mixins are applied to. -/
theorem leads_base (value : Expr) :
    Leads value .extended (withoutArguments (applications value).2) := by
  induction value using applications.induct with
  | case1 spot callee types argument others isOptional name hname inner base heq ih =>
      rw [applications, hname]
      exact .inner ih
  | case2 spot callee types argument others isOptional hname =>
      rw [applications, hname]
      exact leads_withoutArguments _
  | case3 value hvalue =>
      rw [applications]
      · exact leads_withoutArguments _
      · exact hvalue

/-! ## Keys of type arguments -/

namespace ParameterNames

variable {names : ParameterNames} {reference : Reference} {a : WrittenArgument}
  {d : TypeDeclaration}

theorem exists_of_mem_matched {arguments : List TypeExpr}
    (h : a ∈ names.matched reference value name arguments) :
    ∃ parameter ∈ names reference value, a.key = qualifiedParameter name parameter := by
  unfold matched at h
  split at h
  · exact nomatch h
  · obtain ⟨pair, hpair, rfl⟩ := List.mem_map.mp h
    exact ⟨pair.1, (List.of_mem_zip hpair).1, rfl⟩

/-- The type argument is one for a parameter of what the value refers to. -/
structure BindsFor (names : ParameterNames) (a : WrittenArgument) (reference : Reference)
    (value : Expr) (base : String) : Prop where
  refers : Refers value base
  key : ∃ parameter ∈ names reference value, a.key = qualifiedParameter base parameter

theorem bindsFor_of_mem_matched {arguments : List TypeExpr} (hrefers : Refers value name)
    (h : a ∈ names.matched reference value name arguments) :
    names.BindsFor a reference value name :=
  ⟨hrefers, exists_of_mem_matched h⟩

/-- A type argument in an extended value belongs to a mixin or to the base. -/
theorem exists_of_mem_argumentsOf {e : HeritageEntry} (h : a ∈ names.argumentsOf e) :
    ∃ reference value base, Leads e.expression reference value
      ∧ names.BindsFor a reference value base
      ∧ IsRecorded (baseOf? e.expression) [] (mixinsOf e.expression) reference base := by
  unfold argumentsOf at h
  rcases List.mem_append.mp h with hmixed | hbase
  · obtain ⟨m, hm, ha⟩ := List.mem_flatMap.mp hmixed
    obtain ⟨hleads, hrefers⟩ := leads_of_mem_applications _ m hm
    refine ⟨_, _, _, hleads, bindsFor_of_mem_matched hrefers ha, ?_⟩
    exact List.mem_reverse.mpr (List.mem_map_of_mem hm)
  · cases hname : baseOf? e.expression with
    | none =>
        rw [hname] at hbase
        exact nomatch hbase
    | some base =>
        rw [hname] at hbase
        have hrefers := referredName?_eq_some_iff.mp hname
        exact ⟨_, _, _, leads_base _, bindsFor_of_mem_matched hrefers hbase, rfl⟩

theorem exists_of_mem_interfaceArgumentsOf {e : HeritageEntry}
    (h : a ∈ names.interfaceArgumentsOf e) :
    ∃ base, names.BindsFor a .implemented e.expression base
      ∧ referredName? e.expression = some base := by
  unfold interfaceArgumentsOf at h
  cases hname : referredName? e.expression with
  | none =>
      rw [hname] at h
      exact nomatch h
  | some base =>
      rw [hname] at h
      exact ⟨base, bindsFor_of_mem_matched (referredName?_eq_some_iff.mp hname) h, rfl⟩

/-- With one extended entry no superclass that was recorded is recorded over. -/
theorem superclass_of_lone {e : HeritageEntry} (hlone : extendedBy d = [e]) :
    (names.heritage d).superclass = baseOf? e.expression := by
  rw [names.superclass_heritage, hlone, List.filterMap_cons]
  cases baseOf? e.expression with
  | none => rfl
  | some base => rfl

theorem mixins_of_lone {e : HeritageEntry} (hlone : extendedBy d = [e]) :
    (names.heritage d).mixins = mixinsOf e.expression := by
  rw [names.mixins_heritage, hlone, List.flatMap_singleton]

/-- With one extended entry at most, every type argument belongs to a recorded relation. -/
theorem exists_of_mem_arguments (hone : (extendedBy d).length ≤ 1)
    (h : a ∈ (names.heritage d).arguments) :
    ∃ reference value base, Mentioned d reference value ∧ names.BindsFor a reference value base
      ∧ IsRecorded (names.heritage d).superclass (names.heritage d).interfaces
          (names.heritage d).mixins reference base := by
  obtain ⟨⟨isExtended, e⟩, hentry, ha⟩ := (names.mem_arguments_heritage).mp h
  cases isExtended with
  | false =>
      have he : e ∈ implementedBy d :=
        List.mem_map.mpr ⟨(false, e), List.mem_filter.mpr ⟨hentry, rfl⟩, rfl⟩
      obtain ⟨base, hbinds, hname⟩ := exists_of_mem_interfaceArgumentsOf ha
      refine ⟨_, _, base, .implemented he, hbinds, ?_⟩
      rw [names.interfaces_heritage]
      exact List.mem_filterMap.mpr ⟨e, he, hname⟩
  | true =>
      have he : e ∈ extendedBy d :=
        List.mem_map.mpr ⟨(true, e), List.mem_filter.mpr ⟨hentry, rfl⟩, rfl⟩
      -- there is one entry at most, so it is this one that the heritage is read from
      have hlone : extendedBy d = [e] := by
        obtain ⟨x, hx⟩ := List.length_eq_one_iff.mp
          (Nat.le_antisymm hone (List.length_pos_of_mem he))
        rw [hx] at he ⊢
        rw [List.mem_singleton.mp he]
      obtain ⟨reference, value, base, hleads, hbinds, hrecorded⟩ := exists_of_mem_argumentsOf ha
      refine ⟨reference, value, base, .extended he hleads, hbinds, ?_⟩
      rw [superclass_of_lone hlone, mixins_of_lone hlone]
      cases reference with
      | extended => exact hrecorded
      | implemented => exact nomatch hrecorded
      | applied => exact hrecorded

end ParameterNames

/-! ## Declared type parameters -/

/-- The declaration has a type parameter of the name.  A variable has those of
    the function that it holds. -/
inductive HasParameter : Entity → String → Prop where
  | type {d : TypeDeclaration} {scope : Scope} {p : TypeParameter} :
      p ∈ d.typeParameters → HasParameter (.type d scope) p.name
  | function {f : Function} {scope : Scope} {p : TypeParameter} :
      p ∈ f.typeParameters → HasParameter (.function f scope) p.name
  | variable {v : DeclaredVariable} {scope : Scope} {f : Function} {p : TypeParameter} :
      v.written.initial = some (.function f) → p ∈ f.typeParameters →
        HasParameter (.variable v scope) p.name

/-- The property as it is declared has a type parameter of the name. -/
inductive PropertyHasParameter (q : Property) : String → Prop where
  | method {key : Key} {sites : List MemberSite} {site : MemberSite} {modifiers : List String}
      {name : MemberName} {isOptional : Bool} {f : Function} {p : TypeParameter} :
      q.holding = .members key sites → site ∈ sites →
        site.member = .method modifiers name isOptional f → p ∈ f.typeParameters →
        PropertyHasParameter q p.name
  | entity {es : List Entity} {e : Entity} {name : String} :
      q.holding = .entities es → e ∈ es → HasParameter e name → PropertyHasParameter q name
  | function {sites : List FunctionSite} {isMethod : Bool} {substitution : Substitution}
      {site : FunctionSite} {p : TypeParameter} :
      MayGive (Rules.all.property q >>= shape) (.object (.functions sites isMethod) substitution) →
        site ∈ sites → p ∈ site.function.typeParameters → PropertyHasParameter q p.name

/-- The property that a value has as a member. -/
def propertyAt (scope : Scope) (object : Expr) (member : String) : Check (Option Property) := do
  let t ← Rules.all.value ⟨scope, .start⟩ object .none
  propertyOf? .all (← Rules.all.apparent t) member

/-- What the value refers to in a scope declares a type parameter of the name: one
    of its declarations has it, or it is a property that checking finds. -/
inductive DeclaresParameter (w : World) (scope : Scope) (reference : Reference) :
    Expr → String → Prop where
  | declared {value : Expr} {path : List String} {e : Entity} {name : String} :
      pathOf? value = some path → e ∈ w.pathOf w.reach scope (meanings reference) path →
        HasParameter e name → DeclaresParameter w scope reference value name
  | property {object : Expr} {member : String} {isOptional : Bool} {q : Property}
      {name : String} :
      MayGive (propertyAt scope object member) (some q) → PropertyHasParameter q name →
        DeclaresParameter w scope reference (.access object member isOptional) name

theorem exists_of_mem_firstParameters {es : List Entity} (h : name ∈ firstParameters es) :
    ∃ e ∈ es, HasParameter e name := by
  induction es with
  | nil => exact nomatch h
  | cons e rest ih =>
      have hrest : name ∈ firstParameters rest → ∃ x ∈ e :: rest, HasParameter x name := by
        intro hname
        obtain ⟨x, hx, hhas⟩ := ih hname
        exact ⟨x, List.mem_cons_of_mem _ hx, hhas⟩
      cases e with
      | type d scope =>
          rw [firstParameters] at h
          split at h
          · exact hrest h
          · obtain ⟨p, hp, rfl⟩ := List.mem_map.mp h
            exact ⟨_, List.mem_cons_self, .type hp⟩
      | function f scope =>
          rw [firstParameters] at h
          split at h
          · exact hrest h
          · obtain ⟨p, hp, rfl⟩ := List.mem_map.mp h
            exact ⟨_, List.mem_cons_self, .function hp⟩
      | «variable» v scope =>
          rw [firstParameters] at h
          split at h
          · rename_i f hinitial
            obtain ⟨p, hp, rfl⟩ := List.mem_map.mp h
            exact ⟨_, List.mem_cons_self, .variable hinitial hp⟩
          · exact hrest h
      | _ => exact hrest h

theorem exists_of_mem_firstNonEmpty {lists : List (List String)} (h : name ∈ firstNonEmpty lists) :
    ∃ names ∈ lists, name ∈ names := by
  unfold firstNonEmpty at h
  cases hfound : lists.find? (!·.isEmpty) with
  | none =>
      rw [hfound] at h
      exact nomatch h
  | some names =>
      rw [hfound] at h
      exact ⟨names, List.mem_of_find?_eq_some hfound, h⟩

theorem gives_parametersOfProperty (q : Property) :
    Gives (parametersOfProperty q) fun names => ∀ name ∈ names, PropertyHasParameter q name := by
  unfold parametersOfProperty
  split
  · rename_i key sites hholding
    refine gives_pure fun name hname => ?_
    obtain ⟨names, hnames, hname⟩ := exists_of_mem_firstNonEmpty hname
    obtain ⟨site, hsite, rfl⟩ := List.mem_map.mp hnames
    split at hname
    · rename_i hmember
      obtain ⟨p, hp, rfl⟩ := List.mem_map.mp hname
      exact .method hholding hsite hmember hp
    · exact nomatch hname
  · rename_i es hholding
    refine gives_pure fun name hname => ?_
    obtain ⟨e, he, hhas⟩ := exists_of_mem_firstParameters hname
    exact .entity hholding he hhas
  · by_cases hmethod : q.isMethod = true
    · rw [hmethod, Bool.not_true, if_neg Bool.false_ne_true, ← bind_assoc]
      refine (gives_mayGive _).bind fun found hfound => ?_
      split
      · refine gives_pure fun name hname => ?_
        obtain ⟨names, hnames, hname⟩ := exists_of_mem_firstNonEmpty hname
        obtain ⟨site, hsite, rfl⟩ := List.mem_map.mp hnames
        obtain ⟨p, hp, rfl⟩ := List.mem_map.mp hname
        exact .function hfound hsite hp
      · exact gives_pure fun name hname => nomatch hname
    · rw [Bool.eq_false_iff.mpr hmethod, Bool.not_false, if_pos rfl]
      exact gives_pure fun name hname => nomatch hname

theorem gives_parametersOfMember (scope : Scope) (object : Expr) (member : String) :
    Gives (parametersOfMember scope object member) fun names => ∀ name ∈ names,
      ∃ q, MayGive (propertyAt scope object member) (some q) ∧ PropertyHasParameter q name := by
  have heq : parametersOfMember scope object member
      = propertyAt scope object member >>= fun found =>
          found.elim (pure []) parametersOfProperty := by
    refine Eq.trans ?_ (bind_assoc _ _ _).symm
    refine bind_congr fun t => Eq.trans ?_ (bind_assoc _ _ _).symm
    refine bind_congr fun shape => bind_congr fun found => ?_
    cases found with
    | none => rfl
    | some q => rfl
  rw [heq]
  refine (gives_mayGive _).bind fun found hfound => ?_
  cases found with
  | none => exact gives_pure fun name hname => nomatch hname
  | some q =>
      intro w s name hname
      exact ⟨q, hfound, gives_parametersOfProperty q w s name hname⟩

/-- The type parameters that are found are declared. -/
theorem declaresParameter_of_mem {w : World} {scope : Scope} {reference : Reference}
    (h : name ∈ parametersAt w scope reference value) :
    DeclaresParameter w scope reference value name := by
  unfold parametersAt at h
  split at h
  · exact nomatch h
  · rename_i path hpath
    split at h
    · split at h
      · exact nomatch h
      · rename_i object member _ _ _
        obtain ⟨q, hq, hhas⟩ := (gives_parametersOfMember scope object member).start w name h
        exact .property hq hhas
    · obtain ⟨e, he, hhas⟩ := exists_of_mem_firstParameters h
      exact .declared hpath he hhas

/-! ## What facts say of relations -/

/-- An interface extends no value. -/
theorem extendedBy_of_interface {d : TypeDeclaration} (h : d.isClass = false) :
    extendedBy d = [] := by
  unfold extendedBy
  rw [List.filter_eq_nil_iff.mpr, List.map_nil]
  intro x hx hextended
  obtain ⟨c, _, hx⟩ := List.mem_flatMap.mp hx
  obtain ⟨e, _, rfl⟩ := List.mem_map.mp hx
  have hclass : (d.isClass && c.isExtends) = true := hextended
  rw [h, Bool.false_and] at hclass
  exact Bool.false_ne_true hclass

/-- What is recorded of a declaration is recorded in its fact. -/
theorem Described.isRecorded {w : World} {library : String} {d : Declared} {f : TypeFact}
    {reference : Reference} (h : Described w library d f) (hname : name ≠ "")
    (hrecorded : IsRecorded (heritageOf w d).superclass (heritageOf w d).interfaces
      (heritageOf w d).mixins reference name) :
    IsRecorded f.superclass f.interfaces f.mixins reference name := by
  cases reference with
  | extended =>
      show f.superclass = some name
      have hfound : (heritageOf w d).superclass = some name := hrecorded
      rw [h.superclass, hfound]
      exact Option.filter_eq_some_iff.mpr ⟨rfl, decide_eq_true hname⟩
  | implemented => exact h.interfaces ▸ hrecorded
  | applied => exact h.mixins ▸ hrecorded

/-- Two mixins, the inner one from a namespace and with a second argument, that are
    applied to a class with type arguments. -/
def taggedValue : Expr :=
  .call 0 (.name "Timestamped") []
    [.call 1 (.access (.name "tags") "Tagged" false) [.keyword "string"]
      [.instantiation (.name "Repository") [.named ["User"] []], .text "label"] false] false

/-- A class that extends the value and implements an interface. -/
def taggedRepository : TypeDeclaration :=
  { spot := 2
    form := .classStatement
    isAbstract := false
    name := some "UserRepository"
    typeParameters := []
    heritage := [⟨true, [⟨taggedValue, []⟩]⟩, ⟨false, [⟨.name "Auditable", [.keyword "number"]⟩]⟩]
    members := [] }

/-- A file that declares the class behind what it refers to. -/
def taggedFile : SourceFile :=
  { (default : SourceFile) with
    isModule := true
    statements := [
      .space .inner false (.path "tags" []) [.declaration .exported false (.function
        { (default : Function) with
          name := some "Tagged", typeParameters := [{ (default : TypeParameter) with name := "V" }] })],
      .declaration .inner false (.type
        { (default : TypeDeclaration) with
          form := .classStatement
          name := some "Repository"
          typeParameters := [{ (default : TypeParameter) with name := "T" }] }),
      .declaration .inner false (.type
        { (default : TypeDeclaration) with
          name := some "Auditable", typeParameters := [{ (default : TypeParameter) with name := "A" }] }),
      .declaration .inner false (.type taggedRepository)] }

/-- A program of that file. -/
def taggedWorld : World := .ofSources ⟨.empty, default, [taggedFile]⟩ default

/-- The class where it stands in the file. -/
def taggedDeclared : Declared := ⟨"UserRepository", taggedRepository, ⟨taggedFile, []⟩⟩

end TypeLineage.Extract
