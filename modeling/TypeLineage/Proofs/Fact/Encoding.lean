import TypeLineage.Proofs.Fact.Reading
import TypeLineage.Proofs.Json.Canonical
import TypeLineage.Proofs.Json.Keys

/-! # Facts survive their encoding

    A fact that is read from a document is `Sound`: what the grammar asks of
    its entry holds of the fact.  The other way round, the entry a sound fact is
    written as follows the grammar again, also after its canonical text has been
    read, and describes the same fact but for the order of its bindings. -/

namespace TypeLineage

open Document

variable {v x : Json} {key : String} {texts : List String} {P : Json → Prop}

/-- What the grammar asks of a fact. -/
structure TypeFact.Sound (f : TypeFact) : Prop where
  name : f.name ≠ ""
  superclass : f.superclass ≠ some ""
  interfaces : ∀ s ∈ f.interfaces, s ≠ ""
  mixins : ∀ s ∈ f.mixins, s ≠ ""
  typeParameters : ∀ s ∈ f.typeParameters, s ≠ ""
  qualified : ∀ b ∈ f.genericArguments, IsQualifiedKey b.1
  distinct : (f.genericArguments.map (·.1)).Nodup
  methods : ∀ m ∈ f.methods, m.name ≠ ""

/-! ## What is read is sound -/

namespace Document

theorem Required.ne_empty {s : String} (h : Required v key IsName)
    (hs : v.get? key = some (.string s)) : s ≠ "" := by
  obtain ⟨_, hx, t, rfl, ht⟩ := h
  obtain rfl := Json.string.inj (Option.some.inj (hs.symm.trans hx))
  exact ht

theorem Says.forall_text (hs : Says v key WritesTexts texts) (h : Optional v key (IsListOf P)) :
    ∀ s ∈ texts, P (.string s) := by
  rcases hs with ⟨_, hx, rfl⟩ | ⟨-, rfl⟩
  · obtain ⟨items, heq, hall⟩ := h _ hx
    obtain rfl := Json.array.inj heq
    exact List.forall_mem_map.mp hall
  · exact fun s hs => nomatch hs

theorem ne_empty_of_isName {s : String} (h : IsName (.string s)) : s ≠ "" := by
  obtain ⟨t, heq, ht⟩ := h
  obtain rfl := Json.string.inj heq
  exact ht

theorem Says.forall_ne_empty (hs : Says v key WritesTexts texts)
    (h : Optional v key (IsListOf IsName)) : ∀ s ∈ texts, s ≠ "" :=
  fun s hmem => ne_empty_of_isName (hs.forall_text h s hmem)

theorem WritesMethods.forall_ne_empty {methods : List Method} (hx : WritesMethods x methods)
    (h : IsListOf IsMethod x) : ∀ m ∈ methods, m.name ≠ "" := by
  obtain ⟨items, rfl, hall⟩ := hx
  obtain ⟨_, heq, hmethods⟩ := h
  obtain rfl := Json.array.inj heq
  clear heq
  induction hall with
  | nil => exact fun m hm => nomatch hm
  | cons hm hrest ih =>
      rw [List.forall_mem_cons] at hmethods
      exact List.forall_mem_cons.mpr ⟨hmethods.1.name.ne_empty hm.name, ih hmethods.2⟩

end Document

namespace Document

/-- What an object of the grammar describes is sound. -/
theorem Describes.sound {f : TypeFact} (hd : Describes v f) (h : IsFact v)
    (hdistinct : (f.genericArguments.map (·.1)).Nodup) : f.Sound where
  name := h.name.ne_empty hd.name
  superclass := by
    intro hempty
    have hsuper := hd.superclass
    rw [hempty] at hsuper
    rcases h.superclass _ hsuper with hnull | hname
    · exact nomatch hnull
    · exact ne_empty_of_isName hname rfl
  interfaces := hd.interfaces.forall_ne_empty h.interfaces
  mixins := hd.mixins.forall_ne_empty h.mixins
  typeParameters := hd.typeParameters.forall_ne_empty h.typeParameters
  qualified := by
    rcases hd.genericArguments with ⟨_, hx, rfl⟩ | ⟨-, hnil⟩
    · obtain ⟨members, heq, hall⟩ := h.genericArguments _ hx
      obtain rfl := Json.object.inj heq
      exact fun b hb => (List.forall_mem_map.mp hall b hb).1
    · rw [hnil]
      exact fun b hb => nomatch hb
  distinct := hdistinct
  methods := by
    rcases hd.methods with ⟨_, hx, hwrites⟩ | ⟨-, hnil⟩
    · exact hwrites.forall_ne_empty (h.methods _ hx)
    · rw [hnil]
      exact fun m hm => nomatch hm

end Document

theorem TypeFact.sound_ofJson (h : IsFact v) (hkeys : v.DistinctKeys) : (ofJson v).Sound := by
  have hd := describes_ofJson h
  refine hd.sound h ?_
  rcases hd.genericArguments with ⟨_, hx, hwrites⟩ | ⟨-, hnil⟩
  · rw [hwrites] at hx
    cases hkeys.get? hx with
    | object hnd _ =>
        rw [List.map_map] at hnd
        exact hnd
  · rw [hnil]
    exact List.nodup_nil

/-! ## A described fact is read -/

namespace Document

theorem textAt_eq {s : String} (h : v.get? key = some (.string s)) : v.textAt key = s := by
  unfold Json.textAt
  rw [h]
  rfl

theorem filterMap_string? (texts : List String) :
    (texts.map Json.string).filterMap Json.string? = texts := by
  rw [List.filterMap_map]
  exact List.filterMap_some

theorem Says.textsAt_eq (h : Says v key WritesTexts texts) : v.textsAt key = texts := by
  unfold Json.textsAt
  rcases h with ⟨_, hx, rfl⟩ | ⟨hnone, rfl⟩
  · rw [hx]
    exact filterMap_string? texts
  · rw [hnone]
    rfl

theorem Says.bindingsAt_eq {bindings : Bindings} (h : Says v key WritesBindings bindings) :
    v.bindingsAt key = bindings := by
  unfold Json.bindingsAt
  rcases h with ⟨_, hx, rfl⟩ | ⟨hnone, rfl⟩
  · rw [hx]
    show (bindings.map fun b => (b.1, Json.string b.2)).filterMap _ = bindings
    rw [List.filterMap_map]
    exact List.filterMap_some
  · rw [hnone]

theorem DescribesMethod.ofJson_eq {m : Method} (h : DescribesMethod v m) : Method.ofJson v = m := by
  obtain ⟨name, returnType, parameterTypes, isStatic⟩ := m
  have hstatic : ((v.get? "isStatic").bind Json.bool?).getD false = isStatic := by
    rcases h.isStatic with hb | ⟨hnone, rfl⟩
    · rw [hb]
      rfl
    · rw [hnone]
      rfl
  unfold Method.ofJson
  rw [textAt_eq h.name, textAt_eq h.returnType, h.parameterTypes.textsAt_eq, hstatic]

theorem Says.methods_eq {methods : List Method} (h : Says v "methods" WritesMethods methods) :
    (((v.get? "methods").bind Json.array?).getD []).map Method.ofJson = methods := by
  rcases h with ⟨_, hx, items, rfl, hall⟩ | ⟨hnone, rfl⟩
  · rw [hx]
    show items.map Method.ofJson = methods
    clear hx
    induction hall with
    | nil => rfl
    | cons hm _ ih => rw [List.map_cons, hm.ofJson_eq, ih]
  · rw [hnone]
    rfl

theorem Describes.ofJson_eq {f : TypeFact} (h : Describes v f) (hs : f.superclass ≠ some "") :
    TypeFact.ofJson v = f := by
  obtain ⟨name, library, superclass, interfaces, mixins, typeParameters, genericArguments,
    methods, properties⟩ := f
  have hsuper : TypeFact.superclassOf ((v.get? "superclass").bind Json.string?) = superclass := by
    cases superclass with
    | some s =>
        have hs' : s ≠ "" := fun heq => hs (congrArg some heq)
        have hget : v.get? "superclass" = some (.string s) := h.superclass
        rw [hget]
        show TypeFact.superclassOf (some s) = some s
        simp [TypeFact.superclassOf, hs']
    | none =>
        rcases h.superclass with hget | hget
        · rw [hget]
          rfl
        · rw [hget]
          rfl
  unfold TypeFact.ofJson
  rw [textAt_eq h.name, textAt_eq h.library, hsuper, h.interfaces.textsAt_eq, h.mixins.textsAt_eq,
    h.typeParameters.textsAt_eq, h.genericArguments.bindingsAt_eq, h.methods.methods_eq,
    h.properties.textsAt_eq]

end Document

/-! ## The entry of a fact -/

namespace TypeFact

/-- What a list is encoded as, unless it is empty. -/
def unlessEmpty {α : Type} (items : List α) (encode : List α → Json) : Option Json :=
  if items.isEmpty then none else some (encode items)

/-- What a fact has to say under each key. -/
def slots (f : TypeFact) : List (String × Option Json) := [
  ("name", some (.string f.name)),
  ("library", some (.string f.library)),
  ("superclass", f.superclass.map .string),
  ("interfaces", unlessEmpty f.interfaces .ofStrings),
  ("mixins", unlessEmpty f.mixins .ofStrings),
  ("typeParameters", unlessEmpty f.typeParameters .ofStrings),
  ("genericArguments", unlessEmpty f.genericArguments .ofBindings),
  ("methods", unlessEmpty f.methods fun ms => .array (ms.map Method.toJson)),
  ("properties", unlessEmpty f.properties .ofStrings)]

theorem nonEmptyMember_eq {α : Type} (key : String) (items : List α) (encode : List α → Json) :
    nonEmptyMember key items encode = ((unlessEmpty items encode).map (key, ·)).toList := by
  unfold nonEmptyMember unlessEmpty
  split <;> rfl

theorem members_eq_present (f : TypeFact) : f.members = Association.present f.slots := by
  have hsuper : (f.superclass.map fun s => ("superclass", Json.string s)).toList
      = ((f.superclass.map .string).map (("superclass" : String), ·)).toList := by
    rw [Option.map_map]
    rfl
  unfold members Association.present slots
  rw [hsuper]
  simp only [nonEmptyMember_eq, List.flatMap_cons, List.flatMap_nil, List.append_assoc,
    List.append_nil, Option.map_some, Option.toList_some, List.cons_append, List.nil_append]

theorem nodup_slots (f : TypeFact) : (f.slots.map (·.1)).Nodup := by
  show List.Nodup ["name", "library", "superclass", "interfaces", "mixins", "typeParameters",
    "genericArguments", "methods", "properties"]
  decide

theorem nodup_members (f : TypeFact) : (f.members.map (·.1)).Nodup := by
  rw [members_eq_present]
  exact (nodup_slots f).sublist (Association.keys_present_sublist _)

end TypeFact

theorem Method.nodup_keys (m : Method) :
    ([("name", Json.string m.name), ("returnType", .string m.returnType),
      ("parameterTypes", .ofStrings m.parameterTypes), ("isStatic", .bool m.isStatic)].map
        (·.1)).Nodup := by
  show List.Nodup ["name", "returnType", "parameterTypes", "isStatic"]
  decide

/-! ## The entry has no fractions and no key twice -/

open Json in
theorem integral_ofStrings (texts : List String) : Integral (ofStrings texts) :=
  .array (List.forall_mem_map.mpr fun s _ => .string s)

open Json in
theorem Method.integral_toJson (m : Method) : Integral m.toJson := by
  refine .object ?_
  simp only [List.forall_mem_cons]
  exact ⟨.string _, .string _, integral_ofStrings _, .bool _, List.forall_mem_nil _⟩

open Json in
theorem distinctKeys_ofStrings (texts : List String) : DistinctKeys (ofStrings texts) :=
  .array (List.forall_mem_map.mpr fun s _ => .string s)

open Json in
theorem Method.distinctKeys_toJson (m : Method) : DistinctKeys m.toJson := by
  refine .object (nodup_keys m) ?_
  simp only [List.forall_mem_cons]
  exact ⟨.string _, .string _, distinctKeys_ofStrings _, .bool _, List.forall_mem_nil _⟩

namespace TypeFact

variable {f : TypeFact}

theorem forall_unlessEmpty {α : Type} {items : List α} {encode : List α → Json}
    (h : P (encode items)) : ∀ x ∈ unlessEmpty items encode, P x := by
  intro x hx
  unfold unlessEmpty at hx
  split at hx
  · exact nomatch hx
  · obtain rfl := Option.some.inj hx
    exact h

/-- What holds of texts, of lists of them and of the fact's bindings and methods
    holds of whatever the fact has to say. -/
theorem forall_slots (f : TypeFact) (htext : ∀ s, P (.string s)) (htexts : ∀ ss, P (.ofStrings ss))
    (hbindings : P (.ofBindings f.genericArguments))
    (hmethods : P (.array (f.methods.map Method.toJson))) :
    ∀ slot ∈ f.slots, ∀ x ∈ slot.2, P x := by
  have hoptional : ∀ text : Option String, ∀ x ∈ text.map Json.string, P x := by
    intro text x hx
    obtain ⟨s, -, rfl⟩ := Option.map_eq_some_iff.mp hx
    exact htext s
  unfold slots
  simp only [List.forall_mem_cons]
  exact ⟨hoptional (some f.name), hoptional (some f.library), hoptional f.superclass,
    forall_unlessEmpty (htexts _), forall_unlessEmpty (htexts _), forall_unlessEmpty (htexts _),
    forall_unlessEmpty hbindings, forall_unlessEmpty hmethods, forall_unlessEmpty (htexts _),
    List.forall_mem_nil _⟩

theorem forall_members (f : TypeFact) (h : ∀ slot ∈ f.slots, ∀ x ∈ slot.2, P x) :
    ∀ m ∈ f.members, P m.2 := by
  intro m hm
  rw [members_eq_present] at hm
  exact h _ (Association.mem_slots_of_mem_present hm) _ rfl

theorem integral_toJson (f : TypeFact) : f.toJson.Integral :=
  .object (f.forall_members (f.forall_slots .string integral_ofStrings
    (.object (List.forall_mem_map.mpr fun b _ => .string b.2))
    (.array (List.forall_mem_map.mpr fun m _ => m.integral_toJson))))

theorem distinctKeys_toJson (hdistinct : (f.genericArguments.map (·.1)).Nodup) :
    f.toJson.DistinctKeys := by
  refine .object (nodup_members f) (f.forall_members (f.forall_slots .string ?_ ?_ ?_))
  · exact distinctKeys_ofStrings
  · refine .object ?_ (List.forall_mem_map.mpr fun b _ => .string b.2)
    rw [List.map_map]
    exact hdistinct
  · exact .array (List.forall_mem_map.mpr fun m _ => m.distinctKeys_toJson)

end TypeFact

/-! ## A described entry follows the grammar -/

namespace Document

theorem optional_of_some (h : v.get? key = some x) (hx : P x) : Optional v key P := by
  intro y hy
  obtain rfl := Option.some.inj (h.symm.trans hy)
  exact hx

theorem optional_of_none (h : v.get? key = none) : Optional v key P := by
  intro y hy
  rw [h] at hy
  exact nomatch hy

theorem Says.optional_texts (hs : Says v key WritesTexts texts)
    (h : ∀ s ∈ texts, P (.string s)) : Optional v key (IsListOf P) := by
  rcases hs with ⟨_, hx, rfl⟩ | ⟨hnone, -⟩
  · exact optional_of_some hx ⟨_, rfl, List.forall_mem_map.mpr h⟩
  · exact optional_of_none hnone

theorem Says.optional_bindings {bindings : Bindings} (hs : Says v key WritesBindings bindings)
    (h : ∀ b ∈ bindings, IsQualifiedKey b.1) : Optional v key IsBindings := by
  rcases hs with ⟨_, hx, rfl⟩ | ⟨hnone, -⟩
  · refine optional_of_some hx ⟨_, rfl, List.forall_mem_map.mpr fun b hb => ?_⟩
    exact ⟨h b hb, b.2, rfl⟩
  · exact optional_of_none hnone

theorem DescribesMethod.isMethod {m : Method} (h : DescribesMethod v m)
    (declared : HasOnly ["name", "returnType", "parameterTypes", "isStatic"] v)
    (hname : m.name ≠ "") : IsMethod v where
  declared := declared
  name := ⟨_, h.name, _, rfl, hname⟩
  returnType := ⟨_, h.returnType, _, rfl⟩
  parameterTypes := h.parameterTypes.optional_texts fun s _ => ⟨s, rfl⟩
  isStatic := by
    rcases h.isStatic with hb | ⟨hnone, -⟩
    · exact optional_of_some hb ⟨_, rfl⟩
    · exact optional_of_none hnone

theorem Describes.isFact {f : TypeFact} (h : Describes v f)
    (declared : HasOnly ["name", "library", "superclass", "interfaces", "mixins",
      "typeParameters", "genericArguments", "methods", "properties"] v)
    (hs : f.Sound) (hmethods : Optional v "methods" (IsListOf IsMethod)) : IsFact v where
  declared := declared
  name := ⟨_, h.name, _, rfl, hs.name⟩
  library := ⟨_, h.library, _, rfl⟩
  superclass := by
    have hsuper := h.superclass
    cases heq : f.superclass with
    | some s =>
        rw [heq] at hsuper
        refine optional_of_some hsuper (Or.inr ⟨s, rfl, ?_⟩)
        rintro rfl
        exact hs.superclass heq
    | none =>
        rw [heq] at hsuper
        rcases hsuper with hnull | hnone
        · exact optional_of_some hnull (Or.inl rfl)
        · exact optional_of_none hnone
  interfaces := h.interfaces.optional_texts fun s hmem => ⟨s, rfl, hs.interfaces s hmem⟩
  mixins := h.mixins.optional_texts fun s hmem => ⟨s, rfl, hs.mixins s hmem⟩
  typeParameters := h.typeParameters.optional_texts fun s hmem =>
    ⟨s, rfl, hs.typeParameters s hmem⟩
  genericArguments := h.genericArguments.optional_bindings hs.qualified
  methods := hmethods
  properties := h.properties.optional_texts fun s _ => ⟨s, rfl⟩

end Document

/-! ## The entry is read back -/

open Document Json

theorem hasOnly_settled {members : List (String × Json)} {keys : List String}
    (hnd : (members.map (·.1)).Nodup) (h : ∀ m ∈ members, m.1 ∈ keys) :
    HasOnly keys (settled (.object members)) := by
  obtain ⟨written, heq, hperm⟩ := exists_settled_object hnd
  refine ⟨written, heq, fun m hm => ?_⟩
  obtain ⟨x, hx, rfl⟩ := List.mem_map.mp (hperm.mem_iff.mp hm)
  exact h x (List.mem_filter.mp hx).1

theorem settled_ofStrings (texts : List String) : settled (ofStrings texts) = ofStrings texts := by
  unfold ofStrings
  rw [settled_array, List.map_map]
  rfl

namespace Method

theorem describes_settled (m : Method) : DescribesMethod (settled m.toJson) m where
  name := get?_settled (nodup_keys m) (by decide)
  returnType := get?_settled (nodup_keys m) (by decide)
  parameterTypes := by
    refine Or.inl ⟨_, get?_settled (nodup_keys m) (by decide), ?_⟩
    exact settled_ofStrings m.parameterTypes
  isStatic := Or.inl (get?_settled (nodup_keys m) (by decide))

theorem declared_settled (m : Method) :
    HasOnly ["name", "returnType", "parameterTypes", "isStatic"] (settled m.toJson) :=
  hasOnly_settled (nodup_keys m) (by simp)

end Method

namespace TypeFact

variable {f : TypeFact}

theorem get?_settled_toJson (f : TypeFact) (hkey : key ≠ unwritableKey) :
    (settled f.toJson).get? key = ((f.slots.lookup key).join).map settled := by
  unfold toJson
  rw [get?_settled (nodup_members f) hkey, members_eq_present,
    Association.lookup_present (nodup_slots f)]

/-- What is left out when it is empty is read as empty. -/
theorem says_unlessEmpty {α : Type} {items items' : List α} {encode : List α → Json}
    {Written : Json → List α → Prop} {g : Json → Json}
    (h : v.get? key = (unlessEmpty items encode).map g)
    (hwritten : Written (g (encode items)) items') (hnil : items = [] → items' = []) :
    Says v key Written items' := by
  cases items with
  | nil => exact Or.inr ⟨h, hnil rfl⟩
  | cons item rest => exact Or.inl ⟨_, h, hwritten⟩

/-- A key with a point is one that is written. -/
theorem ne_unwritableKey (hpoint : '.' ∈ key.toList) : key ≠ unwritableKey := by
  rintro rfl
  exact absurd hpoint (by decide)

/-- Bindings are read in another order. -/
theorem exists_settled_bindings (hdistinct : (f.genericArguments.map (·.1)).Nodup)
    (hkeys : ∀ b ∈ f.genericArguments, b.1 ≠ unwritableKey) :
    ∃ bindings : Bindings, bindings.Perm f.genericArguments
      ∧ WritesBindings (settled (ofBindings f.genericArguments)) bindings := by
  have hnd : ((f.genericArguments.map fun b => (b.1, Json.string b.2)).map (·.1)).Nodup := by
    rw [List.map_map]
    exact hdistinct
  have hwritten : ∀ m ∈ f.genericArguments.map fun b => (b.1, Json.string b.2),
      decide (m.1 ≠ unwritableKey) = true :=
    List.forall_mem_map.mpr fun b hb => decide_eq_true (hkeys b hb)
  have hsettled : (f.genericArguments.map fun b => (b.1, Json.string b.2)).map
      (fun m => (m.1, settled m.2)) = f.genericArguments.map fun b => (b.1, Json.string b.2) := by
    rw [List.map_map]
    rfl
  -- every key is written and every value is a text, so only the order is lost
  obtain ⟨written, heq, hperm⟩ := exists_settled_object hnd
  rw [List.filter_eq_self.mpr hwritten, hsettled] at hperm
  have htexts : ∀ m ∈ written, IsText m.2 := by
    intro m hm
    obtain ⟨b, -, rfl⟩ := List.mem_map.mp (hperm.mem_iff.mp hm)
    exact ⟨b.2, rfl⟩
  refine ⟨_, ?_, heq.trans (congrArg Json.object (bindings_eq htexts))⟩
  refine (hperm.filterMap _).trans (List.Perm.of_eq ?_)
  rw [List.filterMap_map]
  exact List.filterMap_some

/-- The order of the bindings does not matter. -/
theorem Sound.of_perm {bindings : Bindings} (hs : f.Sound)
    (hperm : bindings.Perm f.genericArguments) :
    TypeFact.Sound { f with genericArguments := bindings } :=
  { hs with
    qualified := fun b hb => hs.qualified b (hperm.mem_iff.mp hb)
    distinct := (hperm.map _).nodup_iff.mpr hs.distinct }

theorem mem_keys_members (f : TypeFact) : ∀ m ∈ f.members, m.1 ∈ f.slots.map (·.1) := by
  intro m hm
  rw [members_eq_present] at hm
  exact (Association.keys_present_sublist f.slots).subset (List.mem_map.mpr ⟨m, hm, rfl⟩)

/-- The object has the members of the fact's entry, each taken through a
    function that leaves texts as they are. -/
structure Renders (g : Json → Json) (v : Json) (f : TypeFact) : Prop where
  declared : HasOnly (f.slots.map (·.1)) v
  get? : ∀ key, key ≠ unwritableKey → v.get? key = ((f.slots.lookup key).join).map g
  text : ∀ s, g (.string s) = .string s
  texts : ∀ texts, g (ofStrings texts) = ofStrings texts
  methods : ∃ items, g (.array (f.methods.map Method.toJson)) = .array items
    ∧ List.Forall₂ (fun x m => DescribesMethod x m
        ∧ HasOnly ["name", "returnType", "parameterTypes", "isStatic"] x) items f.methods

theorem renders_settled (f : TypeFact) : Renders settled (settled f.toJson) f where
  declared := hasOnly_settled (nodup_members f) (mem_keys_members f)
  get? := fun _ => get?_settled_toJson f
  text := fun _ => rfl
  texts := settled_ofStrings
  methods := by
    refine ⟨_, settled_array _, ?_⟩
    rw [List.map_map, List.forall₂_map_left_iff, List.forall₂_same]
    exact fun m _ => ⟨Method.describes_settled m, Method.declared_settled m⟩

theorem renders_toJson (f : TypeFact) : Renders id f.toJson f where
  declared := ⟨_, rfl, mem_keys_members f⟩
  get? := fun key _ => by
    rw [Option.map_id, ← Association.lookup_present (nodup_slots f), ← members_eq_present]
    rfl
  text := fun _ => rfl
  texts := fun _ => rfl
  methods := by
    refine ⟨_, rfl, ?_⟩
    rw [List.forall₂_map_left_iff, List.forall₂_same]
    exact fun m _ => ⟨⟨rfl, rfl, Or.inl ⟨_, rfl, rfl⟩, Or.inl rfl⟩, _, rfl, by simp⟩

namespace Renders

variable {g : Json → Json} {bindings : Bindings}

theorem writesMethods (h : Renders g v f) :
    WritesMethods (g (.array (f.methods.map Method.toJson))) f.methods := by
  obtain ⟨items, heq, hall⟩ := h.methods
  exact ⟨items, heq, hall.imp fun _ _ => And.left⟩

theorem isListOf_methods (h : Renders g v f) (hnames : ∀ m ∈ f.methods, m.name ≠ "") :
    IsListOf IsMethod (g (.array (f.methods.map Method.toJson))) := by
  obtain ⟨items, heq, hall⟩ := h.methods
  refine ⟨items, heq, ?_⟩
  clear heq
  generalize f.methods = methods at hall hnames
  induction hall with
  | nil => exact List.forall_mem_nil _
  | cons hx _ ih =>
      rw [List.forall_mem_cons] at hnames ⊢
      exact ⟨hx.1.isMethod hx.2 hnames.1, ih hnames.2⟩

/-- Such an object describes the fact, with the bindings that stand in it. -/
theorem describes (h : Renders g v f) (hperm : bindings.Perm f.genericArguments)
    (hwrites : WritesBindings (g (ofBindings f.genericArguments)) bindings) :
    Describes v { f with genericArguments := bindings } := by
  have htexts : ∀ key texts, v.get? key = (unlessEmpty texts ofStrings).map g →
      Says v key WritesTexts texts :=
    fun key texts hget => says_unlessEmpty hget (h.texts texts) id
  have hmethods : v.get? "methods"
      = (unlessEmpty f.methods fun ms => .array (ms.map Method.toJson)).map g :=
    h.get? "methods" (by decide)
  refine
    { name := (h.get? "name" (by decide)).trans (congrArg some (h.text f.name))
      library := (h.get? "library" (by decide)).trans (congrArg some (h.text f.library))
      superclass := ?_
      interfaces := htexts _ _ (h.get? "interfaces" (by decide))
      mixins := htexts _ _ (h.get? "mixins" (by decide))
      typeParameters := htexts _ _ (h.get? "typeParameters" (by decide))
      genericArguments := says_unlessEmpty (h.get? "genericArguments" (by decide)) hwrites
        fun hnil => (hnil ▸ hperm).eq_nil
      methods := says_unlessEmpty hmethods h.writesMethods id
      properties := htexts _ _ (h.get? "properties" (by decide)) }
  -- a missing superclass is not written as null but left out
  have hsuper : v.get? "superclass" = (f.superclass.map Json.string).map g :=
    h.get? "superclass" (by decide)
  dsimp only
  cases heq : f.superclass with
  | some s =>
      rw [heq] at hsuper
      exact hsuper.trans (congrArg some (h.text s))
  | none =>
      rw [heq] at hsuper
      exact Or.inr hsuper

/-- Of a sound fact such an object follows the grammar. -/
theorem isFact (h : Renders g v f) (hs : f.Sound) (hperm : bindings.Perm f.genericArguments)
    (hwrites : WritesBindings (g (ofBindings f.genericArguments)) bindings) : IsFact v := by
  have hmethods : ∀ y ∈ unlessEmpty f.methods (fun ms => .array (ms.map Method.toJson)),
      IsListOf IsMethod (g y) :=
    forall_unlessEmpty (h.isListOf_methods hs.methods)
  refine (h.describes hperm hwrites).isFact h.declared (hs.of_perm hperm) fun x hx => ?_
  rw [h.get? "methods" (by decide)] at hx
  obtain ⟨y, hy, rfl⟩ := Option.map_eq_some_iff.mp hx
  exact hmethods y hy

end Renders

/-- The entry that is read back describes the fact, with its bindings in
    another order. -/
theorem describes_settled (hdistinct : (f.genericArguments.map (·.1)).Nodup)
    (hkeys : ∀ b ∈ f.genericArguments, b.1 ≠ unwritableKey) :
    ∃ bindings : Bindings, bindings.Perm f.genericArguments
      ∧ Describes (settled f.toJson) { f with genericArguments := bindings } := by
  obtain ⟨bindings, hperm, hwrites⟩ := exists_settled_bindings hdistinct hkeys
  exact ⟨bindings, hperm, (renders_settled f).describes hperm hwrites⟩

theorem describes_toJson (f : TypeFact) : Describes f.toJson f :=
  (renders_toJson f).describes (.refl _) rfl

/-- The entry of a fact that binds no key twice follows the grammar exactly if
    the fact is sound. -/
theorem isFact_toJson_iff (hdistinct : (f.genericArguments.map (·.1)).Nodup) :
    IsFact f.toJson ↔ f.Sound :=
  ⟨fun h => (describes_toJson f).sound h hdistinct,
    fun hs => (renders_toJson f).isFact hs (.refl _) rfl⟩

/-- Reading an entry back mends nothing that the grammar asks for. -/
theorem sound_of_isFact_settled (hdistinct : (f.genericArguments.map (·.1)).Nodup)
    (hkeys : ∀ b ∈ f.genericArguments, b.1 ≠ unwritableKey) (h : IsFact (settled f.toJson)) :
    f.Sound := by
  obtain ⟨bindings, hperm, hdescribes⟩ := describes_settled hdistinct hkeys
  exact (hdescribes.sound h ((hperm.map _).nodup_iff.mpr hdistinct)).of_perm hperm.symm

theorem Sound.ne_unwritableKey (hs : f.Sound) :
    ∀ b ∈ f.genericArguments, b.1 ≠ unwritableKey := by
  intro b hb
  obtain ⟨⟨before, after, -, -, hsplit⟩, -⟩ := hs.qualified b hb
  refine TypeFact.ne_unwritableKey ?_
  rw [hsplit]
  exact List.mem_append_right _ List.mem_cons_self

theorem isFact_settled (hs : f.Sound) : IsFact (settled f.toJson) := by
  obtain ⟨bindings, hperm, hwrites⟩ := exists_settled_bindings hs.distinct hs.ne_unwritableKey
  exact (renders_settled f).isFact hs hperm hwrites

/-- **An entry is read back** as the fact it was written from, with its
    bindings in another order. -/
theorem ofJson_settled (hs : f.Sound) :
    ∃ bindings : Bindings, bindings.Perm f.genericArguments
      ∧ ofJson (settled f.toJson) = { f with genericArguments := bindings } := by
  obtain ⟨bindings, hperm, hdescribes⟩ := describes_settled hs.distinct hs.ne_unwritableKey
  exact ⟨bindings, hperm, hdescribes.ofJson_eq hs.superclass⟩

end TypeFact

end TypeLineage
