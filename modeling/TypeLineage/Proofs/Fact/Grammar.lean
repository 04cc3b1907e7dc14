import TypeLineage.Fact.Document

/-! # The grammar of fact documents

    `IsDocument` says what a document is by the shape of its values alone; the
    check of a value has no complaint exactly if the value is a document.

    A check is compared with a condition by `Accepts`, which leaves the place
    of a value out of account.  A record's check is put together from the
    checks of its properties, and so is the condition: `accepts_isRecord` is the
    one lemma for documents, facts and methods. -/

namespace TypeLineage.Document

variable {v x : Json} {key : String} {P : Json → Prop}

/-! ## Shapes of values -/

/-- A text. -/
def IsText (v : Json) : Prop := ∃ s, v = .string s

/-- A text that is not empty. -/
def IsName (v : Json) : Prop := ∃ s, v = .string s ∧ s ≠ ""

/-- A truth value. -/
def IsTruth (v : Json) : Prop := ∃ b, v = .bool b

/-- An array of values that satisfy a condition. -/
def IsListOf (P : Json → Prop) (v : Json) : Prop := ∃ items, v = .array items ∧ ∀ x ∈ items, P x

/-- An object of values that satisfy a condition. -/
def IsMapOf (P : Json → Prop) (v : Json) : Prop :=
  ∃ members, v = .object members ∧ ∀ m ∈ members, P m.2

/-- An object without other keys than these. -/
def HasOnly (keys : List String) (v : Json) : Prop :=
  ∃ members, v = .object members ∧ ∀ m ∈ members, m.1 ∈ keys

/-- Under the key stands a value that satisfies a condition. -/
def Required (v : Json) (key : String) (P : Json → Prop) : Prop :=
  ∃ x, v.get? key = some x ∧ P x

/-- If a value stands under the key it satisfies a condition. -/
def Optional (v : Json) (key : String) (P : Json → Prop) : Prop :=
  ∀ x, v.get? key = some x → P x

/-- The characters that end a line. -/
def lineTerminators : List Char := ['\n', '\r', '\u2028', '\u2029']

/-- A point with something before it and something after it, on one line. -/
def IsQualifiedKey (key : String) : Prop :=
  (∃ before after, before ≠ [] ∧ after ≠ [] ∧ key.toList = before ++ '.' :: after)
    ∧ ∀ c ∈ key.toList, c ∉ lineTerminators

/-- An object of texts under qualified keys. -/
def IsBindings (v : Json) : Prop :=
  ∃ members, v = .object members ∧ ∀ m ∈ members, IsQualifiedKey m.1 ∧ IsText m.2

/-- The number is `k`: a finite one is its significand times a power of two. -/
def IsNatural (k : Nat) : JsonNumber → Prop
  | .int n => n = k
  | .real (.finite negative m e) =>
    m * Nat.pow 2 e.toNat = k * Nat.pow 2 (-e).toNat ∧ (negative = true → m = 0)
  | .real _ => False

/-- A natural number. -/
def IsNaturalNumber (v : Json) : Prop := ∃ n k, v = .number n ∧ IsNatural k n

/-- What a number that is too large is read as. -/
def overflow : Json := .number (.real (.infinite false))

/-- A natural number, be it too large. -/
def IsCount (v : Json) : Prop := IsNaturalNumber v ∨ v = overflow

/-! ## Documents, facts and methods -/

/-- The object of a method. -/
structure IsMethod (v : Json) : Prop where
  declared : HasOnly ["name", "returnType", "parameterTypes", "isStatic"] v
  name : Required v "name" IsName
  returnType : Required v "returnType" IsText
  parameterTypes : Optional v "parameterTypes" (IsListOf IsText)
  isStatic : Optional v "isStatic" IsTruth

/-- The object of a fact. -/
structure IsFact (v : Json) : Prop where
  declared : HasOnly ["name", "library", "superclass", "interfaces", "mixins", "typeParameters",
    "genericArguments", "methods", "properties"] v
  name : Required v "name" IsName
  library : Required v "library" IsText
  superclass : Optional v "superclass" fun x => x = .null ∨ IsName x
  interfaces : Optional v "interfaces" (IsListOf IsName)
  mixins : Optional v "mixins" (IsListOf IsName)
  typeParameters : Optional v "typeParameters" (IsListOf IsName)
  genericArguments : Optional v "genericArguments" IsBindings
  methods : Optional v "methods" (IsListOf IsMethod)
  properties : Optional v "properties" (IsListOf IsText)

/-- The object of a document, for a notion of what may be counted. -/
structure IsDocument (Count : Json → Prop) (v : Json) : Prop where
  declared : HasOnly ["schema", "types", "statistics"] v
  schema : Optional v "schema" fun x => x = .string "type-facts-v1"
  types : Required v "types" (IsListOf IsFact)
  statistics : Optional v "statistics" (IsMapOf Count)

/-! ## What the checks accept -/

/-- Wherever a value stands, the check has no complaint exactly if the
    condition holds. -/
def Accepts (check : Check) (P : Json → Prop) : Prop :=
  ∀ place v, check place v = [] ↔ P v

theorem accepts_isText : Accepts isText IsText := by
  intro place v
  cases v <;> simp [isText, IsText]

theorem accepts_isName : Accepts isName IsName := by
  intro place v
  cases v with
  | string s => by_cases h : s = "" <;> simp [isName, IsName, h]
  | _ => simp [isName, IsName]

theorem accepts_isTruth : Accepts isTruth IsTruth := by
  intro place v
  cases v <;> simp [isTruth, IsTruth]

theorem accepts_isFormat : Accepts isFormat fun v => v = .string "type-facts-v1" := by
  intro place v
  cases v with
  | string s => by_cases h : s = "type-facts-v1" <;> simp [isFormat, formatName, h]
  | _ => simp [isFormat]

theorem accepts_isNameOrNull : Accepts isNameOrNull fun v => v = .null ∨ IsName v := by
  intro place v
  have hname := accepts_isName place v
  unfold isNameOrNull
  split
  · simp
  · rename_i hnull
    split
    · rename_i hnil
      exact iff_of_true rfl (Or.inr (hname.mp hnil))
    · rename_i hne
      refine iff_of_false (by simp) ?_
      rintro (h | h)
      · exact hnull h
      · exact hne (hname.mpr h)

theorem accepts_isListOf {item : Check} (h : Accepts item P) :
    Accepts (isListOf item) (IsListOf P) := by
  intro place v
  cases v with
  | array items =>
      unfold isListOf
      dsimp only
      rw [List.flatten_eq_nil_iff, List.forall_mem_map]
      constructor
      · intro hall
        refine ⟨items, rfl, fun x hx => ?_⟩
        obtain ⟨i, hi⟩ := List.mem_iff_getElem?.mp hx
        exact (h _ x).mp (hall (x, i) (List.mk_mem_zipIdx_iff_getElem?.mpr hi))
      · rintro ⟨_, heq, hall⟩ ⟨x, i⟩ hmem
        obtain rfl := Json.array.inj heq
        exact (h _ x).mpr (hall x (List.fst_mem_of_mem_zipIdx hmem))
  | _ => simp [isListOf, IsListOf]

/-! ## Keys of bindings -/

theorem endsLine_iff {c : Char} : endsLine c = true ↔ c ∈ lineTerminators := by
  have h2028 : c.toNat = 0x2028 ↔ c = '\u2028' := by
    rw [← Char.toNat_inj]
    rfl
  have h2029 : c.toNat = 0x2029 ↔ c = '\u2029' := by
    rw [← Char.toNat_inj]
    rfl
  simp [endsLine, lineTerminators, h2028, h2029, or_assoc]

/-- A point that is neither first nor last. -/
theorem point_inside_iff {cs : List Char} :
    '.' ∈ (cs.drop 1).dropLast ↔
      ∃ before after, before ≠ [] ∧ after ≠ [] ∧ cs = before ++ '.' :: after := by
  constructor
  · intro h
    cases cs with
    | nil => exact nomatch h
    | cons c cs =>
        rw [List.drop_succ_cons, List.drop_zero] at h
        obtain ⟨xs, ys, hsplit⟩ := List.append_of_mem h
        -- the last character stands behind the point
        have hne : cs ≠ [] := by
          rintro rfl
          exact nomatch h
        refine ⟨c :: xs, ys ++ [cs.getLast hne], by simp, by simp, ?_⟩
        calc c :: cs = c :: (cs.dropLast ++ [cs.getLast hne]) := by
              rw [List.dropLast_concat_getLast hne]
          _ = c :: xs ++ '.' :: (ys ++ [cs.getLast hne]) := by
              rw [hsplit]
              simp
  · rintro ⟨before, after, hbefore, hafter, rfl⟩
    obtain ⟨b, bs, rfl⟩ := List.exists_cons_of_ne_nil hbefore
    rw [List.cons_append, List.drop_succ_cons, List.drop_zero,
      List.dropLast_append_of_ne_nil (by simp), List.dropLast_cons_of_ne_nil hafter]
    exact List.mem_append_right _ List.mem_cons_self

theorem isQualified_iff : isQualified key = true ↔ IsQualifiedKey key := by
  have hline : key.toList.any endsLine = false ↔ ∀ c ∈ key.toList, c ∉ lineTerminators := by
    rw [List.any_eq_false]
    exact forall₂_congr fun c _ => not_congr endsLine_iff
  unfold isQualified IsQualifiedKey
  rw [Bool.and_eq_true, Bool.not_eq_true', List.contains_iff_mem, hline, point_inside_iff,
    and_comm]

theorem accepts_isBindings : Accepts isBindings IsBindings := by
  intro place v
  cases v with
  | object members =>
      have hkey : ∀ k : String, (if isQualified k then [] else
          [(⟨place, .unqualifiedKey⟩ : Complaint), ⟨place, .invalidKey⟩]) = []
            ↔ IsQualifiedKey k := by
        intro k
        rw [← isQualified_iff]
        by_cases h : isQualified k = true <;> simp [h]
      simp only [isBindings, IsBindings, List.append_eq_nil_iff, List.flatMap_eq_nil_iff]
      constructor
      · rintro ⟨hkeys, htexts⟩
        refine ⟨members, rfl, fun m hm => ⟨(hkey m.1).mp (hkeys m hm), ?_⟩⟩
        exact (accepts_isText _ _).mp (htexts m hm)
      · rintro ⟨_, heq, hall⟩
        obtain rfl := Json.object.inj heq
        refine ⟨fun m hm => (hkey m.1).mpr (hall m hm).1, fun m hm => ?_⟩
        exact (accepts_isText _ _).mpr (hall m hm).2
  | _ => simp [isBindings, IsBindings]

/-! ## Counts -/

/-- A finite magnitude is whole exactly if it is a natural number. -/
theorem isWhole_iff {m : Nat} {e : Int} :
    Number.Binary64.isWhole m e = true ↔ 
      ∃ k : Nat, m * Nat.pow 2 e.toNat = k * Nat.pow 2 (-e).toNat := by
  unfold Number.Binary64.isWhole
  rw [Bool.or_eq_true, decide_eq_true_iff, beq_iff_eq]
  by_cases h : 0 ≤ e
  · have hneg : (-e).toNat = 0 := by omega
    refine iff_of_true (Or.inl h) ⟨m * Nat.pow 2 e.toNat, ?_⟩
    rw [hneg]
    exact (Nat.mul_one _).symm
  · have hpos : e.toNat = 0 := by omega
    have hone : m * Nat.pow 2 0 = m := Nat.mul_one m
    -- without a positive power, wholeness is divisibility
    rw [hpos, hone]
    constructor
    · rintro (hle | hmod)
      · omega
      · obtain ⟨k, hk⟩ := Nat.dvd_of_mod_eq_zero hmod
        exact ⟨k, hk.trans (Nat.mul_comm _ _)⟩
    · rintro ⟨k, hk⟩
      refine Or.inr ?_
      rw [hk]
      exact Nat.mul_mod_left k _

/-- What is whole and not negative is a natural number, or too large for one. -/
theorem whole_nonnegative_iff {n : JsonNumber} :
    (n.isWhole = true ∧ n.isNegative = false) ↔
      (∃ k, IsNatural k n) ∨ n = .real (.infinite false) := by
  cases n with
  | int n =>
      simp only [JsonNumber.isWhole, JsonNumber.isNegative, IsNatural, true_and,
        decide_eq_false_iff_not, reduceCtorEq, or_false]
      exact ⟨fun h => ⟨n.toNat, by omega⟩, fun ⟨k, hk⟩ => by omega⟩
  | real x =>
      cases x with
      | finite negative m e =>
          simp only [JsonNumber.isWhole, JsonNumber.isNegative, IsNatural,
            Number.Binary64.isNegative, isWhole_iff, exists_and_right, reduceCtorEq, or_false,
            JsonNumber.real.injEq]
          refine and_congr_right fun _ => ?_
          cases negative <;> simp
      | infinite negative =>
          cases negative <;>
            simp [JsonNumber.isWhole, JsonNumber.isNegative, Number.Binary64.isNegative, IsNatural]
      | notANumber => simp [JsonNumber.isWhole, IsNatural]

theorem accepts_isCount : Accepts isCount IsCount := by
  intro place v
  cases v with
  | number n =>
      have hcount : IsCount (.number n) ↔ (∃ k, IsNatural k n) ∨ n = .real (.infinite false) := by
        simp [IsCount, IsNaturalNumber, overflow]
      rw [hcount, ← whole_nonnegative_iff]
      simp only [isCount]
      cases hwhole : n.isWhole <;> cases hnegative : n.isNegative <;> simp
  | _ => simp [isCount, IsCount, IsNaturalNumber, overflow]

theorem accepts_isCounts : Accepts isCounts (IsMapOf IsCount) := by
  intro place v
  cases v with
  | object members =>
      simp only [isCounts, IsMapOf, List.flatMap_eq_nil_iff]
      constructor
      · intro hall
        exact ⟨members, rfl, fun m hm => (accepts_isCount _ _).mp (hall m hm)⟩
      · rintro ⟨_, heq, hall⟩ m hm
        obtain rfl := Json.object.inj heq
        exact (accepts_isCount _ _).mpr (hall m hm)
  | _ => simp [isCounts, IsMapOf]

/-! ## Records -/

/-- A property together with the condition on its value. -/
structure Rule extends Property where
  condition : Json → Prop
  accepts : Accepts check condition

/-- The value of the property satisfies its condition, and is there if it has
    to be. -/
def Rule.Holds (rule : Rule) (v : Json) : Prop :=
  if rule.required then Required v rule.key rule.condition
  else Optional v rule.key rule.condition

theorem Rule.holds_iff {rule : Rule} :
    rule.Holds v ↔ (rule.required = true → ∃ x, v.get? rule.key = some x)
      ∧ Optional v rule.key rule.condition := by
  unfold Rule.Holds
  by_cases hreq : rule.required = true
  · rw [if_pos hreq]
    constructor
    · rintro ⟨x, hx, hP⟩
      refine ⟨fun _ => ⟨x, hx⟩, ?_⟩
      intro y hy
      obtain rfl := Option.some.inj (hx.symm.trans hy)
      exact hP
    · rintro ⟨hpresent, hcondition⟩
      obtain ⟨x, hx⟩ := hpresent hreq
      exact ⟨x, hx, hcondition x hx⟩
  · rw [if_neg hreq]
    exact (and_iff_right fun h => absurd h hreq).symm

/-- A record is accepted if every key is declared and every rule holds. -/
theorem accepts_isRecord (rules : List Rule) :
    Accepts (isRecord (rules.map (·.toProperty)))
      fun v => HasOnly (rules.map (·.key)) v ∧ ∀ rule ∈ rules, rule.Holds v := by
  intro place v
  cases v with
  | object members =>
      -- the three kinds of complaint, in the order of the check
      have hmissing : (∀ rule ∈ rules, ¬ (rule.required && (members.lookup rule.key).isNone) = true)
          ↔ ∀ rule ∈ rules, rule.required = true → ∃ x, members.lookup rule.key = some x := by
        refine forall₂_congr fun rule _ => ?_
        cases members.lookup rule.key <;> cases rule.required <;> simp
      have hdeclared : (∀ m ∈ members, ¬ (rules.map (·.toProperty)).all (·.key ≠ m.1) = true)
          ↔ HasOnly (rules.map (·.key)) (.object members) := by
        simp [HasOnly]
      show (_ ++ _) ++ _ = [] ↔ _
      rw [List.append_eq_nil_iff, List.append_eq_nil_iff, List.map_eq_nil_iff,
        List.map_eq_nil_iff, List.filter_eq_nil_iff, List.filter_eq_nil_iff,
        List.flatMap_eq_nil_iff, List.forall_mem_map, List.forall_mem_map]
      refine (and_congr (d := ∀ rule ∈ rules, Optional (.object members) rule.key rule.condition)
        (and_congr hmissing hdeclared) (forall₂_congr fun rule _ => ?_)).trans ?_
      · unfold Optional Json.get?
        dsimp only
        cases members.lookup rule.key with
        | none => simp
        | some x => simp [rule.accepts (place ++ [rule.key]) x]
      · constructor
        · rintro ⟨⟨hpresent, honly⟩, hconditions⟩
          exact ⟨honly,
            fun rule hr => Rule.holds_iff.mpr ⟨hpresent rule hr, hconditions rule hr⟩⟩
        · rintro ⟨honly, hrules⟩
          exact ⟨⟨fun rule hr => (Rule.holds_iff.mp (hrules rule hr)).1, honly⟩,
            fun rule hr => (Rule.holds_iff.mp (hrules rule hr)).2⟩
  | _ => simp [isRecord, HasOnly]

/-- The rules of a method. -/
def methodRules : List Rule := [
  ⟨⟨"name", true, isName⟩, IsName, accepts_isName⟩,
  ⟨⟨"returnType", true, isText⟩, IsText, accepts_isText⟩,
  ⟨⟨"parameterTypes", false, isListOf isText⟩, IsListOf IsText, accepts_isListOf accepts_isText⟩,
  ⟨⟨"isStatic", false, isTruth⟩, IsTruth, accepts_isTruth⟩]

theorem accepts_isMethod : Accepts isMethod IsMethod := by
  intro place v
  refine (accepts_isRecord methodRules place v).trans ?_
  simp only [methodRules, Rule.Holds, List.map_cons, List.map_nil, List.forall_mem_cons,
    if_true, Bool.false_eq_true, if_false]
  constructor
  · rintro ⟨declared, name, returnType, parameterTypes, isStatic, -⟩
    exact ⟨declared, name, returnType, parameterTypes, isStatic⟩
  · rintro ⟨declared, name, returnType, parameterTypes, isStatic⟩
    exact ⟨declared, name, returnType, parameterTypes, isStatic, List.forall_mem_nil _⟩

/-- The rules of a fact. -/
def factRules : List Rule :=
  let names : Check := isListOf isName
  have accepts_names : Accepts names (IsListOf IsName) := accepts_isListOf accepts_isName
  [⟨⟨"name", true, isName⟩, IsName, accepts_isName⟩,
  ⟨⟨"library", true, isText⟩, IsText, accepts_isText⟩,
  ⟨⟨"superclass", false, isNameOrNull⟩, fun x => x = .null ∨ IsName x, accepts_isNameOrNull⟩,
  ⟨⟨"interfaces", false, names⟩, IsListOf IsName, accepts_names⟩,
  ⟨⟨"mixins", false, names⟩, IsListOf IsName, accepts_names⟩,
  ⟨⟨"typeParameters", false, names⟩, IsListOf IsName, accepts_names⟩,
  ⟨⟨"genericArguments", false, isBindings⟩, IsBindings, accepts_isBindings⟩,
  ⟨⟨"methods", false, isListOf isMethod⟩, IsListOf IsMethod, accepts_isListOf accepts_isMethod⟩,
  ⟨⟨"properties", false, isListOf isText⟩, IsListOf IsText, accepts_isListOf accepts_isText⟩]

theorem accepts_isFact : Accepts isFact IsFact := by
  intro place v
  refine (accepts_isRecord factRules place v).trans ?_
  simp only [factRules, Rule.Holds, List.map_cons, List.map_nil, List.forall_mem_cons,
    if_true, Bool.false_eq_true, if_false]
  constructor
  · rintro ⟨declared, name, library, superclass, interfaces, mixins, typeParameters,
      genericArguments, methods, properties, -⟩
    exact ⟨declared, name, library, superclass, interfaces, mixins, typeParameters,
      genericArguments, methods, properties⟩
  · rintro ⟨declared, name, library, superclass, interfaces, mixins, typeParameters,
      genericArguments, methods, properties⟩
    exact ⟨declared, name, library, superclass, interfaces, mixins, typeParameters,
      genericArguments, methods, properties, List.forall_mem_nil _⟩

/-- The rules of a document. -/
def documentRules : List Rule := [
  ⟨⟨"schema", false, isFormat⟩, fun x => x = .string "type-facts-v1", accepts_isFormat⟩,
  ⟨⟨"types", true, isListOf isFact⟩, IsListOf IsFact, accepts_isListOf accepts_isFact⟩,
  ⟨⟨"statistics", false, isCounts⟩, IsMapOf IsCount, accepts_isCounts⟩]

/-- Nothing is wrong with a value exactly if it is a document. -/
theorem check_eq_nil_iff : check v = [] ↔ IsDocument IsCount v := by
  refine (accepts_isRecord documentRules [] v).trans ?_
  simp only [documentRules, Rule.Holds, List.map_cons, List.map_nil, List.forall_mem_cons,
    if_true, Bool.false_eq_true, if_false]
  constructor
  · rintro ⟨declared, schema, types, statistics, -⟩
    exact ⟨declared, schema, types, statistics⟩
  · rintro ⟨declared, schema, types, statistics⟩
    exact ⟨declared, schema, types, statistics, List.forall_mem_nil _⟩

end TypeLineage.Document
