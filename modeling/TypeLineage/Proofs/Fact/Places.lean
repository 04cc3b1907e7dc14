import Mathlib.Data.List.Basic
import TypeLineage.Proofs.Fact.Grammar
import TypeLineage.Proofs.Number.Digits

/-! # Where complaints stand

    A complaint names its place by the steps that lead to it, keys and indices,
    and its message writes them as a pointer.  The pointer is read back to the
    same steps, and following them leads to a value of the document
    (`Locates`, which every check has and every combination of checks keeps).

    An entry is checked below its own index and nothing else is.  So what is
    said there is said of the entry, whatever stands beside it. -/

namespace TypeLineage

/-! ## Following a pointer -/

namespace Document.Pointer

/-- The index a step spells in decimal digits without leading zeros. -/
def index? (step : String) : Option Nat :=
  let n := Number.ofDigits 10 step.toList
  if Number.decimalText n = step then some n else none

/-- A written step without its escapes: `~0` for `~` and `~1` for a stroke. -/
def unescaped : List Char → List Char
  | [] => []
  | '~' :: '0' :: rest => '~' :: unescaped rest
  | '~' :: '1' :: rest => '/' :: unescaped rest
  | c :: rest => c :: unescaped rest

/-- The steps that a written pointer names; a single stroke is the root. -/
def ofText (text : String) : Pointer :=
  if text = "/" then []
  else ((text.toList.splitOn '/').drop 1).map fun step => String.ofList (unescaped step)

end Document.Pointer

namespace Json

/-- The value one step below: under a key of an object, at an index of an
    array. -/
def child? (v : Json) (step : String) : Option Json :=
  match v with
  | .object members => members.lookup step
  | .array items => (Document.Pointer.index? step).bind (items[·]?)
  | _ => none

/-- The value that some steps lead to. -/
def at? (v : Json) : (steps : Document.Pointer) → Option Json
  | [] => some v
  | step :: rest => (v.child? step).bind (at? · rest)

end Json

namespace Document

/-- The place of a complaint, as it is read off the message. -/
def Complaint.pointer (c : Complaint) : Pointer := Pointer.ofText (pointerText c.place)

/-- What is reported of a value that was not accepted. -/
def reported : Except Problem (List TypeFact) → List Complaint
  | .error (.invalid complaints) => complaints
  | _ => []

variable {v x : Json} {c : Complaint} {place : Pointer} {key : String} {i j : Nat}
  {fault : Fault} {check item : Check} {properties : List Property}

theorem reported_parse (v : Json) : reported (parse v) = Document.check v := by
  unfold parse
  split
  · rename_i hnil
    exact hnil.symm
  · rfl

/-! ## Pointers are read back -/

namespace Pointer

theorem index?_decimalText (n : Nat) : index? (Number.decimalText n) = some n := by
  have hdigits : Number.ofDigits 10 (Number.decimalText n).toList = n := by
    unfold Number.decimalText
    rw [String.toList_ofList, Number.ofDigits_decimalDigits]
  unfold index?
  rw [hdigits]
  exact if_pos rfl

theorem decimalText_injective (h : Number.decimalText i = Number.decimalText j) : i = j :=
  Option.some.inj (by rw [← index?_decimalText i, h, index?_decimalText])

/-- The characters of a written step. -/
def escaped (cs : List Char) : List Char :=
  cs.flatMap fun c => if c = '~' then ['~', '0'] else if c = '/' then ['~', '1'] else [c]

theorem toList_escapeStep (step : String) : (escapeStep step).toList = escaped step.toList :=
  String.toList_ofList

theorem unescaped_escaped (cs : List Char) : unescaped (escaped cs) = cs := by
  unfold escaped
  induction cs with
  | nil => rfl
  | cons c cs ih =>
      rw [List.flatMap_cons]
      by_cases htilde : c = '~'
      · rw [if_pos htilde, htilde]
        exact congrArg _ ih
      · rw [if_neg htilde]
        by_cases hstroke : c = '/'
        · rw [if_pos hstroke, hstroke]
          exact congrArg _ ih
        · rw [if_neg hstroke, List.singleton_append, unescaped, ih]
          · exact fun _ h _ => htilde h
          · exact fun _ h _ => htilde h

theorem stroke_not_mem_escaped (cs : List Char) : '/' ∉ escaped cs := by
  intro h
  obtain ⟨c, -, hc⟩ := List.mem_flatMap.mp h
  by_cases htilde : c = '~'
  · simp [htilde] at hc
  · by_cases hstroke : c = '/'
    · simp [hstroke] at hc
    · rw [if_neg htilde, if_neg hstroke, List.mem_singleton] at hc
      exact hstroke hc.symm

/-- Strokes stand between the steps and nowhere else. -/
theorem splitOn_steps (steps : List (List Char)) :
    ∀ front : List Char, '/' ∉ front →
      (front ++ steps.flatMap ('/' :: escaped ·)).splitOn '/' = front :: steps.map escaped := by
  induction steps with
  | nil =>
      intro front hfront
      rw [List.flatMap_nil, List.append_nil, List.splitOn_eq_singleton hfront, List.map_nil]
  | cons step rest ih =>
      intro front hfront
      rw [List.flatMap_cons, List.cons_append, List.splitOn_append_cons_self_of_not_mem hfront,
        ih _ (stroke_not_mem_escaped step), List.map_cons]

theorem toList_pointerText {steps : Pointer} (h : steps ≠ []) :
    (pointerText steps).toList = (steps.map String.toList).flatMap ('/' :: escaped ·) := by
  have hjoin : pointerText steps = String.join (steps.map fun step => "/" ++ escapeStep step) := by
    unfold pointerText
    split
    · exact absurd rfl h
    · rfl
  rw [hjoin, String.toList_join, List.flatMap_map, List.flatMap_map]
  refine List.flatMap_congr fun step _ => ?_
  rw [String.toList_append, toList_escapeStep]
  rfl

/-- A single stroke could be a step of its own, if that step were empty. -/
theorem ofText_pointerText {steps : Pointer} (h : steps.head? ≠ some "") :
    ofText (pointerText steps) = steps := by
  cases steps with
  | nil => rfl
  | cons step rest =>
      have hlist := toList_pointerText (List.cons_ne_nil step rest)
      have hsplit := splitOn_steps ((step :: rest).map String.toList) [] List.not_mem_nil
      rw [List.nil_append, ← hlist] at hsplit
      have hlone : pointerText (step :: rest) ≠ "/" := by
        intro heq
        -- nothing is left for the first step
        rw [heq, List.map_cons, List.map_cons] at hsplit
        have hempty : escaped step.toList = [] := (List.cons.inj (List.cons.inj hsplit).2).1.symm
        have hnil : step.toList = [] := by rw [← unescaped_escaped step.toList, hempty]; rfl
        exact h (congrArg some (String.toList_eq_nil_iff.mp hnil))
      unfold ofText
      rw [if_neg hlone, hsplit, List.drop_succ_cons, List.drop_zero, List.map_map, List.map_map]
      refine List.map_id'' (fun s => ?_) _
      show String.ofList (unescaped (escaped s.toList)) = s
      rw [unescaped_escaped, String.ofList_toList]

end Pointer

/-! ## Complaints lead to values -/

/-- Each complaint stands in the value that is checked, at the steps that its
    place adds to the place of the value. -/
def Locates (check : Check) : Prop :=
  ∀ place v, ∀ c ∈ check place v, ∃ steps, c.place = place ++ steps ∧ (v.at? steps).isSome

/-- Each complaint stands at the place of the value itself. -/
def Stays (check : Check) : Prop := ∀ place v, ∀ c ∈ check place v, c.place = place

theorem Stays.locates (h : Stays check) : Locates check := fun place v c hc =>
  ⟨[], (h place v c hc).trans (List.append_nil place).symm, rfl⟩

theorem stays_isText : Stays isText := by
  intro place v c hc
  cases v <;> simp_all [isText]

theorem stays_isName : Stays isName := by
  intro place v c hc
  cases v with
  | string s => by_cases h : s = "" <;> simp_all [isName]
  | _ => simp_all [isName]

theorem stays_isTruth : Stays isTruth := by
  intro place v c hc
  cases v <;> simp_all [isTruth]

theorem stays_isFormat : Stays isFormat := by
  intro place v c hc
  cases v with
  | string s => by_cases h : s = formatName <;> simp_all [isFormat]
  | _ => simp_all [isFormat]

theorem stays_isCount : Stays isCount := by
  intro place v c hc
  cases v with
  | number n =>
      rcases List.mem_append.mp hc with hc | hc <;> split at hc <;> simp_all
  | _ => simp_all [isCount]

theorem stays_isNameOrNull : Stays isNameOrNull := by
  intro place v c hc
  unfold isNameOrNull at hc
  split at hc
  · exact nomatch hc
  · split at hc
    · exact nomatch hc
    · rcases List.mem_append.mp hc with hc | hc
      · exact stays_isName place _ c hc
      · simp at hc
        rcases hc with rfl | rfl <;> rfl

/-! ### Lists -/

theorem mem_isListOf {items : List Json} :
    c ∈ isListOf item place (.array items) ↔
      ∃ i x, items[i]? = some x ∧ c ∈ item (place ++ [Number.decimalText i]) x := by
  unfold isListOf
  dsimp only
  rw [List.mem_flatten]
  constructor
  · rintro ⟨_, hl, hc⟩
    obtain ⟨⟨x, i⟩, hx, rfl⟩ := List.mem_map.mp hl
    exact ⟨i, x, List.mk_mem_zipIdx_iff_getElem?.mp hx, hc⟩
  · rintro ⟨i, x, hx, hc⟩
    exact ⟨_, List.mem_map_of_mem (List.mk_mem_zipIdx_iff_getElem?.mpr hx), hc⟩

/-- The complaint that a value is of another kind. -/
theorem exists_steps_self (h : c ∈ [(⟨place, fault⟩ : Complaint)]) (v : Json) :
    ∃ steps, c.place = place ++ steps ∧ (v.at? steps).isSome := by
  obtain rfl := List.mem_singleton.mp h
  exact ⟨[], (List.append_nil place).symm, rfl⟩

/-- What stands one step below a step stands below. -/
theorem exists_steps_of_child {step : String} (hx : v.child? step = some x)
    (h : ∃ steps, c.place = (place ++ [step]) ++ steps ∧ (x.at? steps).isSome) :
    ∃ steps, c.place = place ++ steps ∧ (v.at? steps).isSome := by
  obtain ⟨steps, hplace, hsome⟩ := h
  refine ⟨step :: steps, by rw [hplace, List.append_assoc, List.singleton_append], ?_⟩
  rw [Json.at?, hx, Option.bind_some]
  exact hsome

theorem child?_array {items : List Json} (h : items[i]? = some x) :
    (Json.array items).child? (Number.decimalText i) = some x := by
  rw [Json.child?, Pointer.index?_decimalText, Option.bind_some, h]

theorem Locates.isListOf (h : Locates item) : Locates (isListOf item) := by
  intro place v c hc
  cases v with
  | array items =>
      obtain ⟨i, x, hx, hc⟩ := mem_isListOf.mp hc
      exact exists_steps_of_child (child?_array hx) (h _ x c hc)
  | _ => exact exists_steps_self hc _

/-! ### Objects -/

section

variable {members : List (String × Json)}

/-- A complaint about an object is about its keys, or about a declared property
    and below it. -/
theorem mem_isRecord_cases (h : c ∈ isRecord properties place (.object members)) :
    c.place = place ∨ ∃ p ∈ properties, ∃ x, members.lookup p.key = some x
      ∧ c ∈ p.check (place ++ [p.key]) x := by
  rcases List.mem_append.mp h with h | h
  · rcases List.mem_append.mp h with h | h
    · obtain ⟨p, -, rfl⟩ := List.mem_map.mp h
      exact Or.inl rfl
    · obtain ⟨m, -, rfl⟩ := List.mem_map.mp h
      exact Or.inl rfl
  · obtain ⟨p, hp, h⟩ := List.mem_flatMap.mp h
    cases hx : members.lookup p.key with
    | none =>
        rw [hx] at h
        exact nomatch h
    | some x =>
        rw [hx] at h
        exact Or.inr ⟨p, hp, x, hx, h⟩

theorem mem_isRecord {p : Property} (hp : p ∈ properties) (hx : members.lookup p.key = some x)
    (hc : c ∈ p.check (place ++ [p.key]) x) :
    c ∈ isRecord properties place (.object members) := by
  refine List.mem_append_right _ (List.mem_flatMap.mpr ⟨p, hp, ?_⟩)
  rw [hx]
  exact hc

theorem locates_isRecord (h : ∀ p ∈ properties, Locates p.check) :
    Locates (isRecord properties) := by
  intro place v c hc
  cases v with
  | object members =>
      rcases mem_isRecord_cases hc with hplace | ⟨p, hp, x, hx, hc⟩
      · exact ⟨[], hplace.trans (List.append_nil place).symm, rfl⟩
      · exact exists_steps_of_child hx (h p hp _ x c hc)
  | _ => exact exists_steps_self hc _

/-- A complaint about the value of a member leads at least to its key. -/
theorem exists_steps_of_member (hcheck : Stays check) (hc : c ∈ check (place ++ [key]) x)
    (h : (key, x) ∈ members) :
    ∃ steps, c.place = place ++ steps ∧ ((Json.object members).at? steps).isSome := by
  have hkey : members.lookup key ≠ none := by
    intro hnone
    exact bne_iff_ne.mp (List.lookup_eq_none_iff.mp hnone (key, x) h) rfl
  obtain ⟨y, hy⟩ := Option.ne_none_iff_exists'.mp hkey
  exact exists_steps_of_child hy
    ⟨[], (hcheck _ x c hc).trans (List.append_nil _).symm, rfl⟩

theorem locates_isBindings : Locates isBindings := by
  intro place v c hc
  cases v with
  | object members =>
      rcases List.mem_append.mp hc with hc | hc
      · -- both complaints about a key are about the object
        obtain ⟨m, -, hc⟩ := List.mem_flatMap.mp hc
        refine ⟨[], ?_, rfl⟩
        by_cases hq : isQualified m.1 = true <;> simp [hq] at hc
        rcases hc with rfl | rfl <;> simp
      · obtain ⟨⟨key, x⟩, hm, hc⟩ := List.mem_flatMap.mp hc
        exact exists_steps_of_member stays_isText hc hm
  | _ => exact exists_steps_self hc _

theorem locates_isCounts : Locates isCounts := by
  intro place v c hc
  cases v with
  | object members =>
      obtain ⟨⟨key, x⟩, hm, hc⟩ := List.mem_flatMap.mp hc
      exact exists_steps_of_member stays_isCount hc hm
  | _ => exact exists_steps_self hc _

end

theorem locates_isMethod : Locates isMethod := by
  refine locates_isRecord ?_
  simp only [methodProperties, List.forall_mem_cons]
  exact ⟨stays_isName.locates, stays_isText.locates, stays_isText.locates.isListOf,
    stays_isTruth.locates, List.forall_mem_nil _⟩

theorem locates_isFact : Locates isFact := by
  have hnames := stays_isName.locates.isListOf
  refine locates_isRecord ?_
  simp only [factProperties, List.forall_mem_cons]
  exact ⟨stays_isName.locates, stays_isText.locates, stays_isNameOrNull.locates, hnames, hnames,
    hnames, locates_isBindings, locates_isMethod.isListOf, stays_isText.locates.isListOf,
    List.forall_mem_nil _⟩

/-! ## Documents -/

theorem locates_documentProperties : ∀ p ∈ documentProperties, Locates p.check := by
  simp only [documentProperties, List.forall_mem_cons]
  exact ⟨stays_isFormat.locates, locates_isFact.isListOf, locates_isCounts, List.forall_mem_nil _⟩

theorem key_ne_empty : ∀ p ∈ documentProperties, p.key ≠ "" := by
  simp [documentProperties]

theorem check_of_key_types : ∀ p ∈ documentProperties, p.key = "types" → p.check = isListOf isFact := by
  simp [documentProperties]

/-- A complaint about a document leads to a value of it. -/
theorem isSome_at?_place (h : c ∈ Document.check v) : (v.at? c.place).isSome := by
  obtain ⟨steps, hplace, hsome⟩ := locates_isRecord locates_documentProperties [] v c h
  rwa [hplace]

/-- No complaint about a document stands below an empty key of its own. -/
theorem head?_place (h : c ∈ Document.check v) : c.place.head? ≠ some "" := by
  cases v with
  | object members =>
      rcases mem_isRecord_cases h with hplace | ⟨p, hp, x, -, hc⟩
      · rw [hplace]
        exact nofun
      · obtain ⟨steps, hplace, -⟩ := locates_documentProperties p hp _ x c hc
        rw [hplace]
        exact fun heq => key_ne_empty p hp (Option.some.inj heq)
  | _ =>
      obtain rfl := List.mem_singleton.mp h
      exact nofun

/-- The message of a complaint tells its place. -/
theorem pointer_eq_place (h : c ∈ Document.check v) : c.pointer = c.place :=
  Pointer.ofText_pointerText (head?_place h)

/-- What stands at the place of an entry or below comes from the check of the
    entry. -/
theorem mem_isFact_of_below {items : List Json} (htypes : v.get? "types" = some (.array items))
    (hc : c ∈ Document.check v) (hbelow : ["types", Number.decimalText i] <+: c.place) :
    ∃ x, items[i]? = some x ∧ c ∈ isFact ["types", Number.decimalText i] x := by
  cases v with
  | object members =>
      rcases mem_isRecord_cases hc with hplace | ⟨p, hp, y, hy, hc⟩
      · -- the document itself does not stand below an entry
        rw [hplace] at hbelow
        exact absurd (List.prefix_nil.mp hbelow) (List.cons_ne_nil _ _)
      · obtain ⟨steps, hplace, -⟩ := locates_documentProperties p hp _ y c hc
        have hkey : p.key = "types" := by
          rw [hplace] at hbelow
          exact (List.cons_prefix_cons.mp hbelow).1.symm
        rw [hkey] at hy hc
        rw [check_of_key_types p hp hkey] at hc
        obtain rfl := Option.some.inj (hy.symm.trans htypes)
        obtain ⟨j, x, hx, hc⟩ := mem_isListOf.mp hc
        -- of the two indices in the place there is one
        obtain ⟨rest, hentry, -⟩ := locates_isFact _ x c hc
        rw [hentry] at hbelow
        have hindex := (List.cons_prefix_cons.mp (List.cons_prefix_cons.mp hbelow).2).1
        obtain rfl := Pointer.decimalText_injective hindex
        exact ⟨x, hx, hc⟩
  | _ => exact nomatch htypes

/-- There is something to say of an entry exactly if it is no fact. -/
theorem exists_complaint_below_iff {items : List Json}
    (htypes : v.get? "types" = some (.array items)) (hx : items[i]? = some x) :
    (∃ c ∈ Document.check v, ["types", Number.decimalText i] <+: c.place) ↔ ¬ IsFact x := by
  rw [← accepts_isFact ["types", Number.decimalText i] x]
  constructor
  · rintro ⟨c, hc, hbelow⟩
    obtain ⟨y, hy, hc⟩ := mem_isFact_of_below htypes hc hbelow
    obtain rfl := Option.some.inj (hx.symm.trans hy)
    exact List.ne_nil_of_mem hc
  · intro hne
    obtain ⟨c, hc⟩ := List.exists_mem_of_ne_nil _ hne
    obtain ⟨steps, hplace, -⟩ := locates_isFact _ x c hc
    cases v with
    | object members =>
        have hentries : ⟨"types", true, isListOf isFact⟩ ∈ documentProperties := by
          simp [documentProperties]
        exact ⟨c, mem_isRecord hentries htypes (mem_isListOf.mpr ⟨i, x, hx, hc⟩),
          steps, hplace.symm⟩
    | _ => exact nomatch htypes

/-- **Complaints are local and lead to values**: of a value with a list of
    entries, some complaint points to an entry or below it exactly if the entry
    by itself is no fact, and every complaint points to a value inside. -/
theorem parse_locates {v : Json} {items : List Json}
    (htypes : v.get? "types" = some (.array items)) :
    (∀ i x, items[i]? = some x →
      ((∃ c ∈ reported (parse v), ["types", Number.decimalText i] <+: c.pointer) ↔ ¬ IsFact x))
    ∧ ∀ c ∈ reported (parse v), (v.at? c.pointer).isSome := by
  rw [reported_parse]
  constructor
  · intro i x hx
    rw [← exists_complaint_below_iff htypes hx]
    exact exists_congr fun c => and_congr_right fun hc => by rw [pointer_eq_place hc]
  · intro c hc
    rw [pointer_eq_place hc]
    exact isSome_at?_place hc

/-- A sound entry before a faulty one, whose fault stands under a key with both
    marks in it. -/
theorem parse_locates_of_second :
    let sound : Json := .object [("name", .string "A"), ("library", .string "l")]
    let faulty : Json := .object [("name", .string "B"), ("library", .string "l"),
      ("genericArguments", .object [("x.~/", .null)])]
    let v : Json := .object [("types", .array [sound, faulty])]
    v.get? "types" = some (.array [sound, faulty])
    ∧ (reported (parse v)).map Complaint.message
      = ["/types/1/genericArguments/x.~0~1 must be string"]
    ∧ IsFact sound ∧ ¬ IsFact faulty
    ∧ ∀ c ∈ reported (parse v), c.pointer = ["types", "1", "genericArguments", "x.~/"]
      ∧ (v.at? c.pointer).isSome := by
  intro sound faulty v
  have htypes : v.get? "types" = some (.array [sound, faulty]) := rfl
  have hreported : reported (parse v)
      = [⟨["types", "1", "genericArguments", "x.~/"], .notA .string⟩] := by decide +kernel
  have hpointer : ∀ c ∈ reported (parse v),
      c.pointer = ["types", "1", "genericArguments", "x.~/"] := by
    rw [hreported]
    decide +kernel
  obtain ⟨hentries, hvalues⟩ := parse_locates htypes
  have hone : Number.decimalText 0 = "0" ∧ Number.decimalText 1 = "1" := by decide +kernel
  refine ⟨htypes, by rw [hreported]; decide +kernel, ?_, ?_, fun c hc => ⟨hpointer c hc, hvalues c hc⟩⟩
  · refine Classical.not_not.mp fun hfaulty => ?_
    obtain ⟨c, hc, hbelow⟩ := (hentries 0 sound rfl).mpr hfaulty
    rw [hpointer c hc, hone.1] at hbelow
    revert hbelow
    decide
  · refine (hentries 1 faulty rfl).mp ?_
    rw [hone.2]
    refine ⟨_, hreported ▸ List.mem_singleton_self _, ?_⟩
    rw [hpointer _ (hreported ▸ List.mem_singleton_self _)]
    decide

end Document

end TypeLineage
