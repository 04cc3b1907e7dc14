import TypeLineage.Proofs.Extract.Drawing

/-! # What a fact says

    A fact says of a declaration what is written there, and what checking the
    program tells of the types in it.  `Described` sets down both: the relations
    and members field by field, and every method as an answer of the computation
    that tells it, whatever was known before.

    The relations of a declaration are those of its entries, one after the other.
    What one entry says does not depend on what was said before it, so the
    relations of all entries are joined from those of each. -/

namespace TypeLineage.Extract

open Source Program Typing

/-- The computation may give the answer, depending on what is known. -/
def MayGive {α : Type} (work : Check α) (a : α) : Prop :=
  ∃ w s, ((work.run w).run s).1 = a

theorem gives_mayGive {α : Type} (work : Check α) : Gives work (MayGive work) :=
  fun w s => ⟨w, s, rfl⟩

theorem MayGive.of_gives {α : Type} {work : Check α} {P : α → Prop} {a : α} (h : MayGive work a)
    (hwork : Gives work P) : P a := by
  obtain ⟨w, s, rfl⟩ := h
  exact hwork w s

theorem gives_and {α : Type} {work : Check α} {P Q : α → Prop} (hP : Gives work P)
    (hQ : Gives work Q) : Gives work fun a => P a ∧ Q a :=
  fun w s => ⟨hP w s, hQ w s⟩

/-- What a declaration of a program says about its relations. -/
def heritageOf (w : World) (d : Declared) : Heritage :=
  (parametersAt w (inside d.declaration d.scope .heading)).heritage d.declaration

/-- What the fact about a declaration of a library says. -/
structure Described (w : World) (library : String) (d : Declared) (f : TypeFact) : Prop where
  name : f.name = d.name
  library : f.library = library
  superclass : f.superclass = TypeFact.superclassOf (heritageOf w d).superclass
  interfaces : f.interfaces = (heritageOf w d).interfaces
  mixins : f.mixins = (heritageOf w d).mixins
  typeParameters : f.typeParameters = d.declaration.typeParameters.map (·.name)
  bound : ∀ b ∈ f.genericArguments, ∃ a ∈ (heritageOf w d).arguments, a.key = b.1
  binds : ∀ a ∈ (heritageOf w d).arguments, ∃ b ∈ f.genericArguments, b.1 = a.key
  methods : List.Forall₂ (fun m method => MayGive (tellMethod d.declaration d.scope m) method)
    (membersOf d.declaration).methods f.methods
  properties : f.properties = (membersOf d.declaration).properties

/-- No key is lost where others are bound. -/
theorem gives_foldlM_bindKey {step : Bindings → WrittenArgument → Check Bindings}
    (hstep : ∀ bindings a, Gives (step bindings a) fun bound =>
      ∀ key, key ∈ bound.map (·.1) ↔ key = a.key ∨ key ∈ bindings.map (·.1))
    (arguments : List WrittenArgument) (bindings : Bindings) :
    Gives (arguments.foldlM step bindings) fun bound =>
      ∀ key, key ∈ bindings.map (·.1) ∨ key ∈ arguments.map (·.key) → key ∈ bound.map (·.1) := by
  induction arguments generalizing bindings with
  | nil =>
      refine gives_pure fun key hkey => ?_
      exact hkey.resolve_right List.not_mem_nil
  | cons a rest ih =>
      rw [List.foldlM_cons]
      refine (hstep bindings a).bind fun bound hbound => ?_
      intro world store key hkey
      refine ih bound world store key ?_
      rw [hbound]
      rw [List.map_cons, List.mem_cons] at hkey
      rcases hkey with hbindings | hfirst | hrest
      · exact Or.inl (Or.inr hbindings)
      · exact Or.inl (Or.inl hfirst)
      · exact Or.inr hrest

/-- Every type argument is bound. -/
theorem gives_tellArguments_all (scope : Scope) (arguments : List WrittenArgument) :
    Gives (tellArguments scope arguments) fun bindings =>
      ∀ a ∈ arguments, ∃ b ∈ bindings, b.1 = a.key := by
  intro world store a ha
  refine List.mem_map.mp (gives_foldlM_bindKey (fun bindings a => ?_) arguments [] world store a.key
    (Or.inr (List.mem_map_of_mem ha)))
  exact gives_after fun t => gives_after fun text => gives_pure fun key => mem_keys_bindKey

theorem gives_described (w : World) (library : String) (d : Declared) :
    Gives (factOf w library d) (Described w library d) := by
  refine Gives.bind (gives_and (gives_tellArguments _ _) (gives_tellArguments_all _ _))
    fun bindings hbindings => ?_
  refine (gives_mapM (fun m => gives_mayGive (tellMethod d.declaration d.scope m)) _).bind
    fun methods hmethods => ?_
  exact gives_pure
    { name := rfl
      library := rfl
      superclass := rfl
      interfaces := rfl
      mixins := rfl
      typeParameters := rfl
      bound := hbindings.1.2
      binds := hbindings.2
      methods := hmethods
      properties := rfl }

/-! ## Entries -/

/-- The entries of a declaration in order.  The flag tells of one that a class extends. -/
def entriesOf (d : TypeDeclaration) : List (Bool × HeritageEntry) :=
  d.heritage.flatMap fun c => c.entries.map (d.isClass && c.isExtends, ·)

/-- The entries that a class extends. -/
def extendedBy (d : TypeDeclaration) : List HeritageEntry :=
  ((entriesOf d).filter (·.1)).map (·.2)

/-- The entries that a class implements, or that an interface has. -/
def implementedBy (d : TypeDeclaration) : List HeritageEntry :=
  ((entriesOf d).filter (!·.1)).map (·.2)

namespace Heritage

/-- Nothing is said. -/
def nothing : Heritage := ⟨none, [], [], []⟩

/-- What is said, and what is said behind it; the last superclass counts. -/
def join (h later : Heritage) : Heritage :=
  { superclass := later.superclass.or h.superclass
    interfaces := h.interfaces ++ later.interfaces
    mixins := h.mixins ++ later.mixins
    arguments := h.arguments ++ later.arguments }

/-- What is said one after the other. -/
def joined (hs : List Heritage) : Heritage := hs.foldl join nothing

theorem foldl_join (hs : List Heritage) (h : Heritage) :
    hs.foldl join h =
      { superclass := ((hs.filterMap (·.superclass)).getLast?).or h.superclass
        interfaces := h.interfaces ++ hs.flatMap (·.interfaces)
        mixins := h.mixins ++ hs.flatMap (·.mixins)
        arguments := h.arguments ++ hs.flatMap (·.arguments) } := by
  induction hs generalizing h with
  | nil =>
      simp only [List.foldl_nil, List.filterMap_nil, List.getLast?_nil, Option.none_or,
        List.flatMap_nil, List.append_nil]
  | cons later rest ih =>
      rw [List.foldl_cons, ih]
      simp only [join, List.flatMap_cons, List.append_assoc]
      congr 1
      cases hsuper : later.superclass with
      | none => rw [List.filterMap_cons_none hsuper, Option.none_or]
      | some n =>
          rw [List.filterMap_cons_some hsuper, List.getLast?_cons]
          cases (rest.filterMap (·.superclass)).getLast? with
          | none => rfl
          | some m => rfl

theorem joined_superclass (hs : List Heritage) :
    (joined hs).superclass = (hs.filterMap (·.superclass)).getLast? := by
  rw [joined, foldl_join]
  exact Option.or_none

theorem joined_interfaces (hs : List Heritage) :
    (joined hs).interfaces = hs.flatMap (·.interfaces) := by
  rw [joined, foldl_join]
  rfl

theorem joined_mixins (hs : List Heritage) : (joined hs).mixins = hs.flatMap (·.mixins) := by
  rw [joined, foldl_join]
  rfl

theorem joined_arguments (hs : List Heritage) :
    (joined hs).arguments = hs.flatMap (·.arguments) := by
  rw [joined, foldl_join]
  rfl

end Heritage

/-- A value without the type arguments that are written behind it. -/
def withoutArguments : Expr → Expr
  | .instantiation value _ => value
  | value => value

/-- The type arguments of what a value applies its mixins to: those behind it, or those of
    the entry if no mixin is applied. -/
def innermostArguments (applied : List Application) (written : List TypeExpr) :
    Expr → List TypeExpr
  | .instantiation _ types => types
  | _ => if applied.isEmpty then written else []

/-- The mixins that an extended value applies, the innermost first. -/
def mixinsOf (value : Expr) : List String := ((applications value).1.map (·.name)).reverse

/-- The name of what a value extends in the end. -/
def baseOf? (value : Expr) : Option String :=
  referredName? (withoutArguments (applications value).2)

namespace ParameterNames

variable (names : ParameterNames) (e : HeritageEntry)

/-- The type arguments in an extended value, those of the mixins first. -/
def argumentsOf : List WrittenArgument :=
  let (applied, inner) := applications e.expression
  applied.flatMap (fun a => names.matched .applied a.callee a.name a.typeArguments)
    ++ match baseOf? e.expression with
      | some name => names.matched .extended (withoutArguments inner) name
          (innermostArguments applied e.typeArguments inner)
      | none => []

theorem addExtended_eq (h : Heritage) :
    names.addExtended h e =
      { superclass := (baseOf? e.expression).or h.superclass
        interfaces := h.interfaces
        mixins := h.mixins ++ mixinsOf e.expression
        arguments := h.arguments ++ names.argumentsOf e } := by
  unfold addExtended argumentsOf mixinsOf baseOf?
  generalize applications e.expression = found
  obtain ⟨applied, inner⟩ := found
  dsimp only
  generalize hmixed :
    applied.flatMap (fun a => names.matched .applied a.callee a.name a.typeArguments) = mixed
  calc
    _ = match referredName? (withoutArguments inner) with
        | some name =>
          { superclass := some name
            interfaces := h.interfaces
            mixins := h.mixins ++ (applied.map (·.name)).reverse
            arguments := h.arguments ++ mixed ++ names.matched .extended (withoutArguments inner)
              name (innermostArguments applied e.typeArguments inner) }
        | none =>
          { h with
            mixins := h.mixins ++ (applied.map (·.name)).reverse
            arguments := h.arguments ++ mixed } := by
      -- an instantiation brings arguments of its own, every other value is the base itself
      rw [← hmixed]
      cases inner <;> rfl
    _ = _ := by
      cases referredName? (withoutArguments inner) with
      | none => simp only [Option.none_or, List.append_nil]
      | some name => simp only [Option.some_or, List.append_assoc]

/-- The type arguments of an entry that refers to an interface. -/
def interfaceArgumentsOf : List WrittenArgument :=
  match referredName? e.expression with
  | some name => names.matched .implemented e.expression name e.typeArguments
  | none => []

/-- What one entry says. -/
def ofEntry : Bool × HeritageEntry → Heritage
  | (true, e) => ⟨baseOf? e.expression, [], mixinsOf e.expression, names.argumentsOf e⟩
  | (false, e) => ⟨none, (referredName? e.expression).toList, [], names.interfaceArgumentsOf e⟩

theorem addExtended_eq_join (h : Heritage) :
    names.addExtended h e = h.join (names.ofEntry (true, e)) := by
  rw [addExtended_eq]
  simp only [Heritage.join, ofEntry, List.append_nil]

theorem addInterface_eq_join (h : Heritage) :
    names.addInterface h e = h.join (names.ofEntry (false, e)) := by
  unfold addInterface ofEntry interfaceArgumentsOf
  cases hname : referredName? e.expression with
  | none => simp only [Heritage.join, hname, Option.none_or, Option.toList_none, List.append_nil]
  | some name =>
      simp only [Heritage.join, hname, Option.none_or, Option.toList_some, List.append_nil]

/-- A declaration says what its entries say, one after the other. -/
theorem heritage_eq_joined (d : TypeDeclaration) :
    names.heritage d = .joined ((entriesOf d).map names.ofEntry) := by
  have hclause : ∀ (h : Heritage) (c : HeritageClause), names.addClause d.isClass h c
      = (c.entries.map (d.isClass && c.isExtends, ·)).foldl (fun h x => h.join (names.ofEntry x)) h := by
    intro h c
    unfold addClause
    rw [List.foldl_map]
    congr 1
    funext h e
    cases d.isClass && c.isExtends with
    | false => exact names.addInterface_eq_join e h
    | true => exact names.addExtended_eq_join e h
  unfold heritage Heritage.joined entriesOf
  rw [List.foldl_map, List.foldl_flatMap]
  congr 1
  funext h c
  exact hclause h c

/-! ## What all entries say -/

theorem superclass_heritage (d : TypeDeclaration) : (names.heritage d).superclass
    = ((extendedBy d).filterMap (baseOf? ·.expression)).getLast? := by
  rw [heritage_eq_joined, Heritage.joined_superclass, extendedBy]
  congr 1
  generalize entriesOf d = entries
  induction entries with
  | nil => rfl
  | cons x rest ih =>
      obtain ⟨isExtended, e⟩ := x
      cases isExtended with
      | false => exact ih
      | true =>
          show List.filterMap _ (names.ofEntry (true, e) :: _) = List.filterMap _ (e :: _)
          rw [List.filterMap_cons, List.filterMap_cons, ih]
          rfl

theorem interfaces_heritage (d : TypeDeclaration) : (names.heritage d).interfaces
    = (implementedBy d).filterMap (referredName? ·.expression) := by
  rw [heritage_eq_joined, Heritage.joined_interfaces, implementedBy]
  generalize entriesOf d = entries
  induction entries with
  | nil => rfl
  | cons x rest ih =>
      obtain ⟨isExtended, e⟩ := x
      rw [List.map_cons, List.flatMap_cons, ih]
      cases isExtended with
      | true => rfl
      | false =>
          show (referredName? e.expression).toList ++ _ = List.filterMap _ (e :: _)
          rw [List.filterMap_cons]
          cases referredName? e.expression <;> rfl

theorem mixins_heritage (d : TypeDeclaration) : (names.heritage d).mixins
    = (extendedBy d).flatMap (mixinsOf ·.expression) := by
  rw [heritage_eq_joined, Heritage.joined_mixins, extendedBy]
  generalize entriesOf d = entries
  induction entries with
  | nil => rfl
  | cons x rest ih =>
      obtain ⟨isExtended, e⟩ := x
      rw [List.map_cons, List.flatMap_cons, ih]
      cases isExtended with
      | false => rfl
      | true => rfl

theorem mem_arguments_heritage {d : TypeDeclaration} {a : WrittenArgument} :
    a ∈ (names.heritage d).arguments ↔ ∃ x ∈ entriesOf d, a ∈ (names.ofEntry x).arguments := by
  rw [heritage_eq_joined, Heritage.joined_arguments, List.mem_flatMap]
  simp only [List.mem_map, exists_exists_and_eq_and]

end ParameterNames

end TypeLineage.Extract

/-! ## The methods in a fact

    Public methods are gone through in order, and one is kept unless its name was
    seen before.  What is kept of a name is therefore the first method of that
    name, told as it is declared; `filter_firstOfEach` says so by induction on the
    methods, for any names seen before.

    So overloads contribute one method.  But the name alone tells methods apart
    here: where a static method and one of the objects share a name, only the
    earlier of them is told, and `overloaded` is a class whose fact misses a
    public method. -/

namespace TypeLineage.Extract

open Source Program Typing

/-- The member declares a public method: it is not private, and its name is
    written out. -/
inductive DeclaresMethod : Member → DeclaredMethod → Prop where
  | method {modifiers : List String} {name : MemberName} {isOptional : Bool}
      {function : Function} {text : String} :
      "private" ∉ modifiers → name.known? = some text →
        DeclaresMethod (.method modifiers name isOptional function)
          ⟨text, modifiers.contains "static", .method modifiers name isOptional function, function⟩

/-- The public methods that members declare, in order. -/
def publicMethods (members : List Member) : List DeclaredMethod := members.filterMap methodOf?

/-- What is told of a method bears its name, is static with it and takes as many
    arguments. -/
structure ToldOf (d : Declared) (m : DeclaredMethod) (told : Method) : Prop where
  name : told.name = m.name
  isStatic : told.isStatic = m.isStatic
  parameters : told.parameterTypes.length = m.function.parameters.length
  told : MayGive (tellMethod d.declaration d.scope m) told

/-- Both bear the name, and both are static or none of them is. -/
def SharesPair (m other : DeclaredMethod) : Prop :=
  other.name = m.name ∧ other.isStatic = m.isStatic

instance (m other : DeclaredMethod) : Decidable (SharesPair m other) :=
  inferInstanceAs (Decidable (_ ∧ _))

/-- The methods told under the name of a method that are static with it. -/
def toldLike (m : DeclaredMethod) (methods : List Method) : List Method :=
  methods.filter fun told => told.name = m.name ∧ told.isStatic = m.isStatic

variable {member : Member} {m : DeclaredMethod} {ms : List DeclaredMethod} {seen : List String}
  {before after : List Member} {d : Declared}

/-! ### Public methods -/

theorem methodOf?_eq_some_iff : methodOf? member = some m ↔ DeclaresMethod member m := by
  constructor
  · intro h
    cases member with
    | method modifiers name isOptional function =>
        obtain ⟨text, htext, rfl⟩ := Option.map_eq_some_iff.mp h
        unfold publicName? at htext
        split at htext
        · exact nomatch htext
        · rename_i hpublic
          exact .method (mt List.contains_iff_mem.mpr hpublic) htext
    | _ => exact nomatch h
  · intro h
    cases h with
    | @method modifiers name _ _ text hpublic htext =>
        have hname : publicName? modifiers name = some text := by
          unfold publicName?
          rw [if_neg (mt List.contains_iff_mem.mp hpublic), htext]
        exact congrArg (Option.map _) hname

theorem publicMethods_split (h : DeclaresMethod member m) :
    publicMethods (before ++ member :: after) = publicMethods before ++ m :: publicMethods after := by
  unfold publicMethods
  rw [List.filterMap_append, List.filterMap_cons_some (methodOf?_eq_some_iff.mpr h)]

/-! ### The first of each name -/

theorem firstOfEach_sublist (seen : List String) (ms : List DeclaredMethod) :
    (firstOfEach seen ms).Sublist ms := by
  induction ms generalizing seen with
  | nil => exact .slnil
  | cons m rest ih =>
      unfold firstOfEach
      split
      · exact (ih seen).cons m
      · exact (ih _).cons_cons m

/-- Of a name that was not seen the first is kept, of others none. -/
theorem filter_firstOfEach (name : String) (seen : List String) (ms : List DeclaredMethod) :
    (firstOfEach seen ms).filter (·.name = name)
      = if name ∈ seen then [] else (ms.find? (·.name = name)).toList := by
  induction ms generalizing seen with
  | nil =>
      show [] = _
      split <;> rfl
  | cons m rest ih =>
      unfold firstOfEach
      by_cases hseen : m.name ∈ seen
      · rw [if_pos (List.contains_iff_mem.mpr hseen), ih]
        by_cases hname : m.name = name
        · rw [if_pos (hname ▸ hseen), if_pos (hname ▸ hseen)]
        · simp only [List.find?_cons, hname, decide_false]
      · rw [if_neg (mt List.contains_iff_mem.mp hseen), List.filter_cons, ih]
        by_cases hname : m.name = name
        · -- the first of the name is this one, and the name is seen from here on
          subst hname
          simp only [List.find?_cons, decide_true, if_true, List.mem_cons_self, hseen, if_false,
            Option.toList_some]
        · simp only [List.find?_cons, hname, decide_false, List.mem_cons, Ne.symm hname,
            false_or, Bool.false_eq_true, if_false]

/-- No name is kept twice. -/
theorem nodup_firstOfEach (seen : List String) (ms : List DeclaredMethod) :
    ((firstOfEach seen ms).map (·.name)).Nodup := by
  induction ms generalizing seen with
  | nil => exact List.nodup_nil
  | cons m rest ih =>
      unfold firstOfEach
      split
      · exact ih seen
      · refine List.nodup_cons.mpr ⟨?_, ih _⟩
        intro hmem
        obtain ⟨x, hx, hname⟩ := List.mem_map.mp hmem
        have hnone := filter_firstOfEach m.name (m.name :: seen) rest
        rw [if_pos List.mem_cons_self] at hnone
        exact List.filter_eq_nil_iff.mp hnone x hx (decide_eq_true hname)

/-- Of the methods that share name and staticness with one that is the first of them, that
    one is kept, or none if the name stands before. -/
theorem filter_sharesPair_firstOfEach (earlier later : List DeclaredMethod)
    (hfirst : ∀ x ∈ earlier, ¬ SharesPair m x) :
    (firstOfEach [] (earlier ++ m :: later)).filter (SharesPair m ·)
      = if ∃ x ∈ earlier, x.name = m.name then [] else [m] := by
  have hsplit : ∀ kept : List DeclaredMethod, kept.filter (SharesPair m ·)
      = (kept.filter (·.name = m.name)).filter (·.isStatic = m.isStatic) := by
    intro kept
    rw [List.filter_filter]
    refine List.filter_congr fun x _ => ?_
    rw [Bool.and_comm]
    exact Bool.decide_and _ _
  rw [hsplit, filter_firstOfEach, if_neg List.not_mem_nil, List.find?_append]
  cases hfound : earlier.find? (·.name = m.name) with
  | some x =>
      have hmem := List.mem_of_find?_eq_some hfound
      have hname : x.name = m.name := by simpa using List.find?_some hfound
      have hother : ¬ x.isStatic = m.isStatic := fun hstatic => hfirst x hmem ⟨hname, hstatic⟩
      rw [if_pos ⟨x, hmem, hname⟩]
      exact List.filter_cons_of_neg (mt of_decide_eq_true hother)
  | none =>
      have hnone : ¬ ∃ x ∈ earlier, x.name = m.name := by
        rintro ⟨x, hx, hname⟩
        exact List.find?_eq_none.mp hfound x hx (decide_eq_true hname)
      simp only [if_neg hnone, Option.none_or, List.find?_cons, decide_true, Option.toList_some,
        List.filter_cons, if_true, List.filter_nil]

/-! ### Methods as they are told -/

theorem gives_toldOf (d : Declared) (m : DeclaredMethod) :
    Gives (tellMethod d.declaration d.scope m) (ToldOf d m) := by
  have hshape : Gives (tellMethod d.declaration d.scope m) fun told =>
      told.name = m.name ∧ told.isStatic = m.isStatic
        ∧ told.parameterTypes.length = m.function.parameters.length := by
    refine gives_after fun _ => gives_after fun _ => gives_after fun _ => ?_
    refine (gives_mapM (fun _ => gives_true _) _).bind fun texts htexts => ?_
    exact gives_pure ⟨rfl, rfl, htexts.length_eq.symm⟩
  intro w s
  obtain ⟨hname, hstatic, hparameters⟩ := hshape w s
  exact ⟨hname, hstatic, hparameters, gives_mayGive _ w s⟩

theorem Described.toldOf {w : World} {library : String} {f : TypeFact}
    (h : Described w library d f) :
    List.Forall₂ (ToldOf d) (firstOfEach [] (publicMethods d.declaration.members)) f.methods := by
  refine h.methods.imp ?_
  rintro m told ⟨world, store, rfl⟩
  exact gives_toldOf d m world store

/-- What is the same for a method and for what is told of it stands in the fact as for what
    is kept. -/
theorem Described.map_methods {α : Type} {told : Method → α} {kept : DeclaredMethod → α}
    {w : World} {library : String} {f : TypeFact} (h : Described w library d f)
    (hsame : ∀ m method, ToldOf d m method → told method = kept m) :
    f.methods.map told = (firstOfEach [] (publicMethods d.declaration.members)).map kept := by
  have htold := h.toldOf
  generalize firstOfEach [] (publicMethods d.declaration.members) = methods at htold ⊢
  generalize f.methods = tolds at htold ⊢
  induction htold with
  | nil => rfl
  | cons hfirst _ ih => rw [List.map_cons, List.map_cons, ih, hsame _ _ hfirst]

/-- The class with overloads, with a private method and with a static method that bears the
    name of the overloads. -/
def overloaded : TypeDeclaration :=
  { (default : TypeDeclaration) with
    form := .classStatement
    members := [
      .method [] (.plain "make") false default,
      .method ["private"] (.plain "hide") false default,
      .method [] (.plain "make") false default,
      .method ["static"] (.plain "make") false default,
      .method ["static"] (.quoted "count" true) false default] }

/-- The class in a file of its own. -/
def overloadedDeclared : Declared := ⟨"Overloaded", overloaded, ⟨default, []⟩⟩

/-- Nothing else is declared. -/
def emptyWorld : World := .ofSources ⟨.empty, default, []⟩ default

end TypeLineage.Extract
