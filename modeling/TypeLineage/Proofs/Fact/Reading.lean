import Mathlib.Data.List.Forall2
import TypeLineage.Proofs.Fact.Grammar

/-! # What an accepted document says

    `Describes` relates the object of a fact to the fact, member by member: null
    and a missing superclass say that there is none, a missing list or map says
    that it is empty, and a method is static only if it says so.

    A value is accepted exactly if it is a document, and then its entries
    describe the facts one by one, in their order. -/

namespace TypeLineage.Document

variable {v x : Json} {key : String} {P : Json → Prop}

/-! ## Entries and facts -/

/-- The value under the key is what something is written as, or there is none
    and it is empty. -/
def Says {α : Type} (v : Json) (key : String) (Written : Json → List α → Prop) (items : List α) :
    Prop :=
  (∃ x, v.get? key = some x ∧ Written x items) ∨ (v.get? key = none ∧ items = [])

/-- The array of some texts. -/
def WritesTexts (x : Json) (texts : List String) : Prop := x = .array (texts.map .string)

/-- The object of some bindings. -/
def WritesBindings (x : Json) (bindings : Bindings) : Prop :=
  x = .object (bindings.map fun b => (b.1, .string b.2))

/-- The method that an object stands for. -/
structure DescribesMethod (v : Json) (m : Method) : Prop where
  name : v.get? "name" = some (.string m.name)
  returnType : v.get? "returnType" = some (.string m.returnType)
  parameterTypes : Says v "parameterTypes" WritesTexts m.parameterTypes
  isStatic : v.get? "isStatic" = some (.bool m.isStatic)
    ∨ (v.get? "isStatic" = none ∧ m.isStatic = false)

/-- The array of some methods. -/
def WritesMethods (x : Json) (methods : List Method) : Prop :=
  ∃ items, x = .array items ∧ List.Forall₂ DescribesMethod items methods

/-- The fact that an object stands for. -/
structure Describes (v : Json) (f : TypeFact) : Prop where
  name : v.get? "name" = some (.string f.name)
  library : v.get? "library" = some (.string f.library)
  superclass : match f.superclass with
    | some s => v.get? "superclass" = some (.string s)
    | none => v.get? "superclass" = some .null ∨ v.get? "superclass" = none
  interfaces : Says v "interfaces" WritesTexts f.interfaces
  mixins : Says v "mixins" WritesTexts f.mixins
  typeParameters : Says v "typeParameters" WritesTexts f.typeParameters
  genericArguments : Says v "genericArguments" WritesBindings f.genericArguments
  methods : Says v "methods" WritesMethods f.methods
  properties : Says v "properties" WritesTexts f.properties

/-! ## Members that are read -/

theorem IsName.isText (h : IsName v) : IsText v := by
  obtain ⟨s, hs, -⟩ := h
  exact ⟨s, hs⟩

theorem get?_textAt (h : Required v key P) (hP : ∀ x, P x → IsText x) :
    v.get? key = some (.string (v.textAt key)) := by
  obtain ⟨x, hx, hPx⟩ := h
  obtain ⟨s, rfl⟩ := hP x hPx
  unfold Json.textAt
  rw [hx]
  rfl

/-- Of texts nothing is lost when the texts are picked out. -/
theorem texts_eq {items : List Json} (h : ∀ x ∈ items, IsText x) :
    items = (items.filterMap Json.string?).map .string := by
  induction items with
  | nil => rfl
  | cons item rest ih =>
      rw [List.forall_mem_cons] at h
      obtain ⟨⟨s, rfl⟩, hrest⟩ := h
      show _ = Json.string s :: (rest.filterMap Json.string?).map .string
      rw [← ih hrest]

theorem says_textsAt (h : Optional v key (IsListOf P)) (hP : ∀ x, P x → IsText x) :
    Says v key WritesTexts (v.textsAt key) := by
  unfold Json.textsAt
  cases hx : v.get? key with
  | none => exact Or.inr ⟨hx, rfl⟩
  | some x =>
      obtain ⟨items, rfl, hall⟩ := h x hx
      refine Or.inl ⟨_, hx, ?_⟩
      exact congrArg Json.array (texts_eq fun x hmem => hP x (hall x hmem))

/-- Of members that are texts none is lost when the texts are picked out. -/
theorem bindings_eq {members : List (String × Json)} (h : ∀ m ∈ members, IsText m.2) :
    members = (members.filterMap fun m => m.2.string?.map (m.1, ·)).map
      fun b => (b.1, .string b.2) := by
  induction members with
  | nil => rfl
  | cons m rest ih =>
      rw [List.forall_mem_cons] at h
      obtain ⟨⟨s, hs⟩, hrest⟩ := h
      obtain ⟨k, y⟩ := m
      obtain rfl : y = .string s := hs
      exact congrArg ((k, Json.string s) :: ·) (ih hrest)

theorem says_bindingsAt (h : Optional v key IsBindings) :
    Says v key WritesBindings (v.bindingsAt key) := by
  unfold Json.bindingsAt
  cases hx : v.get? key with
  | none => exact Or.inr ⟨hx, rfl⟩
  | some x =>
      obtain ⟨members, rfl, hall⟩ := h x hx
      exact Or.inl ⟨_, hx, congrArg Json.object (bindings_eq fun m hm => (hall m hm).2)⟩

theorem describesMethod_ofJson (h : IsMethod v) : DescribesMethod v (Method.ofJson v) where
  name := get?_textAt h.name fun _ => IsName.isText
  returnType := get?_textAt h.returnType fun _ => id
  parameterTypes := says_textsAt h.parameterTypes fun _ => id
  isStatic := by
    show _ = some (Json.bool (((v.get? "isStatic").bind Json.bool?).getD false)) ∨ _
    cases hx : v.get? "isStatic" with
    | none => exact Or.inr ⟨rfl, by simp [Method.ofJson, hx]⟩
    | some x =>
        obtain ⟨b, rfl⟩ := h.isStatic x hx
        exact Or.inl rfl

theorem says_methods (h : Optional v "methods" (IsListOf IsMethod)) :
    Says v "methods" WritesMethods (TypeFact.ofJson v).methods := by
  show Says v "methods" WritesMethods
    ((((v.get? "methods").bind Json.array?).getD []).map Method.ofJson)
  cases hx : v.get? "methods" with
  | none => exact Or.inr ⟨hx, rfl⟩
  | some x =>
      obtain ⟨items, rfl, hall⟩ := h x hx
      refine Or.inl ⟨_, hx, items, rfl, ?_⟩
      show List.Forall₂ DescribesMethod items (items.map Method.ofJson)
      rw [List.forall₂_map_right_iff, List.forall₂_same]
      exact fun x hmem => describesMethod_ofJson (hall x hmem)

/-- The object of a fact describes the fact that is read from it. -/
theorem describes_ofJson (h : IsFact v) : Describes v (TypeFact.ofJson v) where
  name := get?_textAt h.name fun _ => IsName.isText
  library := get?_textAt h.library fun _ => id
  superclass := by
    show match TypeFact.superclassOf ((v.get? "superclass").bind Json.string?) with
      | some s => v.get? "superclass" = some (.string s)
      | none => v.get? "superclass" = some .null ∨ v.get? "superclass" = none
    cases hx : v.get? "superclass" with
    | none => exact Or.inr rfl
    | some x =>
        rcases h.superclass x hx with rfl | ⟨s, rfl, hs⟩
        · exact Or.inl rfl
        · show match TypeFact.superclassOf (some s) with
            | some t => some (Json.string s) = some (.string t)
            | none => _
          have hof : TypeFact.superclassOf (some s) = some s := by
            simp [TypeFact.superclassOf, hs]
          rw [hof]
  interfaces := says_textsAt h.interfaces fun _ => IsName.isText
  mixins := says_textsAt h.mixins fun _ => IsName.isText
  typeParameters := says_textsAt h.typeParameters fun _ => IsName.isText
  genericArguments := says_bindingsAt h.genericArguments
  methods := says_methods h.methods
  properties := says_textsAt h.properties fun _ => id

/-! ## Documents -/

theorem parse_eq_ok_iff {facts : List TypeFact} :
    parse v = .ok facts ↔ IsDocument IsCount v ∧ facts = Document.facts v := by
  rw [← check_eq_nil_iff]
  unfold parse
  cases hcheck : check v with
  | nil => simp [eq_comm]
  | cons c rest => simp

/-- A text gives facts exactly if it is the text of a value that does. -/
theorem ofText_eq_ok_iff {text : String} {facts : List TypeFact} :
    ofText text = .ok facts ↔ ∃ v, Json.parse? text = some v ∧ parse v = .ok facts := by
  unfold ofText
  cases Json.parse? text with
  | none => simp
  | some v => simp

/-- **Reading follows the grammar**: a value gives facts exactly if it is a
    document, and then its entries describe the facts one by one. -/
theorem parse_exact (v : Json) :
    ((∃ facts, parse v = .ok facts) ↔ IsDocument IsCount v)
    ∧ ∀ facts, parse v = .ok facts →
        ∃ entries, v.get? "types" = some (.array entries)
          ∧ List.Forall₂ Describes entries facts := by
  constructor
  · constructor
    · rintro ⟨facts, h⟩
      exact (parse_eq_ok_iff.mp h).1
    · intro h
      exact ⟨facts v, parse_eq_ok_iff.mpr ⟨h, rfl⟩⟩
  · intro facts h
    obtain ⟨hdoc, rfl⟩ := parse_eq_ok_iff.mp h
    obtain ⟨_, htypes, entries, rfl, hall⟩ := hdoc.types
    refine ⟨entries, htypes, ?_⟩
    have hfacts : Document.facts v = entries.map TypeFact.ofJson := by
      unfold Document.facts
      rw [htypes]
      rfl
    rw [hfacts, List.forall₂_map_right_iff, List.forall₂_same]
    exact fun x hmem => describes_ofJson (hall x hmem)

/-- A count too large for a number is read as an infinity and passes, though no
    natural number is meant by it. -/
theorem parse_accepts_overflow :
    ¬ ∀ v, (∃ facts, parse v = .ok facts) ↔ IsDocument IsNaturalNumber v := by
  intro h
  have hok : parse (.object [("types", .array []), ("statistics", .object [("a", overflow)])])
      = .ok [] := rfl
  have hdoc := (h _).mp ⟨[], hok⟩
  obtain ⟨members, hmembers, hcounts⟩ := hdoc.statistics _ rfl
  obtain rfl := Json.object.inj hmembers
  obtain ⟨n, k, hn, hk⟩ := hcounts ("a", overflow) List.mem_cons_self
  obtain rfl := Json.number.inj hn
  exact hk

end TypeLineage.Document
