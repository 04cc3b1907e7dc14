import Mathlib.Data.List.Infix
import TypeLineage.Project.Setup

/-! # Which found configurations are left aside

    A configuration that is merely found is left aside if what is said against
    it speaks of missing inputs.  What is said is one text: a line that names
    the configuration and then its complaints, one behind the other.  The words
    that are looked for hold no line break, so they stand in that text exactly
    if they stand in the path or in one of the complaints.

    So a found configuration is read as if it were named, unless the words stand
    in one of these places.  A complaint about missing inputs always holds them.
    It excuses all other complaints, and with it a faulty configuration goes
    unnoticed. -/

namespace TypeLineage.Project

variable {t : FileTree} {root place : Place} {e : ConfigError}

/-- The text speaks of a configuration that takes in no file. -/
def TellsNoInputs (text : String) : Prop := noInputsWords.toList <:+: text.toList

instance (text : String) : Decidable (TellsNoInputs text) :=
  inferInstanceAs (Decidable (noInputsWords.toList <:+: text.toList))

/-- What is said against a configuration, one text for each complaint. -/
def ConfigError.complaints : ConfigError → List String
  | .notFound _ => []
  | .unreadable place fault => [fault.message (kindOfFile place)]
  | .faulty _ faults => faults.map Fault.message

/-- The error is about the configuration at a place. -/
inductive ConfigError.IsAbout (place : Place) : ConfigError → Prop where
  | unreadable (fault : CommentedJson.Fault) : IsAbout place (.unreadable place fault)
  | faulty (faults : List Fault) : IsAbout place (.faulty place faults)

/-! ## Words in texts -/

theorem occursIn_iff {part cs : List Char} : occursIn part cs = true ↔ part <:+: cs := by
  induction cs with
  | nil =>
      rw [List.infix_nil]
      exact List.isEmpty_iff
  | cons c cs ih =>
      rw [occursIn, Bool.or_eq_true, List.isPrefixOf_iff_prefix, ih, List.infix_cons_iff]

/-- What begins with a character stands behind whatever does not hold it. -/
theorem infix_append_of_not_mem {c : Char} {words before cs : List Char} (hc : c ∉ before) :
    c :: words <:+: before ++ cs ↔ c :: words <:+: cs := by
  induction before with
  | nil => exact Iff.rfl
  | cons b before ih =>
      rw [List.mem_cons, not_or] at hc
      rw [List.cons_append, List.infix_cons_iff, ih hc.2]
      constructor
      · rintro (hhead | hinfix)
        · exact absurd (List.cons_prefix_cons.mp hhead).1 hc.1
        · exact hinfix
      · exact Or.inr

/-- Words without line breaks do not reach from one line into another. -/
theorem infix_lines {words line cs : List Char} (hwords : '\n' ∉ words) :
    words <:+: line ++ '\n' :: cs ↔ words <:+: line ∨ words <:+: cs := by
  constructor
  · intro h
    rcases List.infix_append_iff.mp h with hline | hrest | ⟨front, back, rfl, hfront, hback⟩
    · exact Or.inl hline
    · rcases List.infix_cons_iff.mp hrest with hhead | hcs
      · cases words with
        | nil => exact Or.inl List.nil_infix
        | cons w words =>
            -- the words would begin with the line break
            have hw := (List.cons_prefix_cons.mp hhead).1
            exact absurd (hw ▸ List.mem_cons_self) hwords
      · exact Or.inr hcs
    · -- the words would go on with the line break
      cases back with
      | nil =>
          rw [List.append_nil]
          exact Or.inl hfront.isInfix
      | cons b back =>
          have hb := (List.cons_prefix_cons.mp hback).1
          exact absurd (List.mem_append_right front (hb ▸ List.mem_cons_self)) hwords
  · rintro (hline | hcs)
    · exact List.infix_append_of_infix_left hline
    · exact List.infix_append_of_infix_right (List.infix_cons hcs)

theorem infix_intercalate {words : List Char} (hne : words ≠ []) (hwords : '\n' ∉ words)
    (lines : List (List Char)) :
    words <:+: List.intercalate ['\n'] lines ↔ ∃ line ∈ lines, words <:+: line := by
  induction lines with
  | nil =>
      rw [List.intercalate_nil, List.infix_nil]
      constructor
      · exact fun h => absurd h hne
      · rintro ⟨line, hline, -⟩
        exact nomatch hline
  | cons line rest ih =>
      cases rest with
      | nil =>
          rw [List.intercalate_singleton]
          constructor
          · exact fun h => ⟨line, List.mem_cons_self, h⟩
          · rintro ⟨other, hother, h⟩
            rwa [← List.mem_singleton.mp hother]
      | cons next rest =>
          rw [List.intercalate_cons_cons]
          show words <:+: line ++ ['\n'] ++ _ ↔ _
          rw [List.append_assoc, List.singleton_append, infix_lines hwords, ih]
          simp only [List.exists_mem_cons_iff]

theorem noInputsWords_eq : noInputsWords.toList = 'N' :: "o inputs were found in config file".toList := by
  decide

theorem lineFeed_not_mem_noInputsWords : '\n' ∉ noInputsWords.toList := by
  decide

/-- The words are told exactly if a line of the text tells them. -/
theorem tellsNoInputs_lines (line : String) (lines : List String) :
    TellsNoInputs (line ++ "\n" ++ "\n".intercalate lines)
      ↔ TellsNoInputs line ∨ ∃ text ∈ lines, TellsNoInputs text := by
  unfold TellsNoInputs
  rw [String.toList_append, String.toList_append, String.toList_intercalate, List.append_assoc]
  show _ <:+: line.toList ++ '\n' :: List.intercalate ['\n'] _ ↔ _
  have hne : noInputsWords.toList ≠ [] := by
    rw [noInputsWords_eq]
    exact List.cons_ne_nil _ _
  rw [infix_lines lineFeed_not_mem_noInputsWords,
    infix_intercalate hne lineFeed_not_mem_noInputsWords]
  simp only [List.mem_map, exists_exists_and_eq_and]

/-- What stands before the path of a configuration does not tell the words. -/
theorem tellsNoInputs_append {before : String} (h : 'N' ∉ before.toList) (text : String) :
    TellsNoInputs (before ++ text) ↔ TellsNoInputs text := by
  unfold TellsNoInputs
  rw [String.toList_append, noInputsWords_eq]
  exact infix_append_of_not_mem h

/-- A complaint about missing inputs tells the words. -/
theorem tellsNoInputs_noInputs (path : String) (includes excludes : List Json) :
    TellsNoInputs (Fault.noInputs path includes excludes).message := by
  unfold TellsNoInputs Fault.message
  simp only [String.toList_append, List.append_assoc]
  exact List.infix_append_left

/-! ## What is said against a configuration -/

/-- The words are told exactly if the path or one of the complaints tells them. -/
theorem tellsNoInputs_iff (h : e.IsAbout place) :
    e.tellsNoInputs = true
      ↔ TellsNoInputs (Path.absolute place) ∨ ∃ text ∈ e.complaints, TellsNoInputs text := by
  have hread : 'N' ∉ "Failed to read tsconfig: ".toList := by decide
  have hparse : 'N' ∉ "Failed to parse tsconfig: ".toList := by decide
  rw [ConfigError.tellsNoInputs, occursIn_iff]
  show TellsNoInputs e.message ↔ _
  cases h with
  | unreadable fault =>
      show TellsNoInputs (_ ++ "\n" ++ fault.message (kindOfFile place)) ↔ _
      rw [← String.intercalate_singleton (s := "\n") (t := fault.message (kindOfFile place)),
        tellsNoInputs_lines, tellsNoInputs_append hread]
      exact Iff.rfl
  | faulty faults =>
      show TellsNoInputs (_ ++ "\n" ++ "\n".intercalate (faults.map Fault.message)) ↔ _
      rw [tellsNoInputs_lines, tellsNoInputs_append hparse]
      exact Iff.rfl

theorem isAbout_of_loadAt {text : List Char} (h : loadAt t place text = .error e) :
    e.IsAbout place := by
  unfold loadAt at h
  split at h
  · cases h
    exact .unreadable _
  · dsimp only at h
    split at h
    · exact nomatch h
    · cases h
      exact .faulty _

/-! ## Found and named configurations -/

/-- A configuration that is found is there. -/
theorem exists_text_of_findConfig? (h : findConfig? t root = some place) :
    ∃ text, t.markedText? place = some text := by
  have hfile : t.isFile place = true := List.find?_some h
  unfold FileTree.isFile at hfile
  obtain ⟨content, hcontent⟩ := Option.isSome_iff_exists.mp hfile
  exact ⟨Text.decodeMarked content, by rw [FileTree.markedText?, hcontent, Option.map_some]⟩

theorem loadConfig_found {text : List Char} (hfound : findConfig? t root = some place)
    (htext : t.markedText? place = some text) : loadConfig t root none = loadAt t place text := by
  unfold loadConfig
  rw [Option.filter_none]
  dsimp only
  rw [hfound, Option.bind_some, htext]
  rfl

section Named

variable {named : String} {text : List Char}

theorem filter_named (hnamed : named ≠ "") : (some named).filter (· ≠ "") = some named :=
  Option.filter_eq_some_iff.mpr ⟨rfl, decide_eq_true hnamed⟩

theorem setUp_named (hnamed : named ≠ "") (hplace : Path.resolve root named = place)
    (htext : t.markedText? place = some text) :
    setUp t root (some named) = (loadAt t place text).map .ofConfig := by
  have hload : loadConfig t root (some named) = loadAt t place text := by
    unfold loadConfig
    rw [filter_named hnamed]
    dsimp only
    rw [hplace, Option.bind_some, htext]
    rfl
  unfold setUp
  rw [filter_named hnamed]
  dsimp only
  rw [hload]

theorem setUp_unnamed {path : Option String} (hpath : path.filter (· ≠ "") = none)
    (hfound : findConfig? t root = some place) (htext : t.markedText? place = some text) :
    setUp t root path = match loadAt t place text with
      | .ok c => .ok (.ofConfig c)
      | .error e => if e.tellsNoInputs then .ok .plain else .error e := by
  unfold setUp
  rw [hpath]
  dsimp only
  rw [hfound, loadConfig_found hfound htext]
  rfl

end Named

/-- **A found configuration is read as if it were named, unless what is said
    against it speaks of missing inputs**: without a name for it, the nearest
    configuration gives the same setup as under its name, and it fails as it
    fails under its name exactly if the words that tell of missing inputs stand
    neither in its path nor in any of its complaints.  Where they do, the project
    is set up as if there were no configuration; so it is whenever missing inputs
    are among its faults, whatever the others are. -/
theorem setUp_found {named : String} {path : Option String}
    (hfound : findConfig? t root = some place) (hpath : path.filter (· ≠ "") = none)
    (hnamed : named ≠ "") (hplace : Path.resolve root named = place) :
    (∀ s, setUp t root (some named) = .ok s → setUp t root path = .ok s)
    ∧ (∀ e, setUp t root (some named) = .error e →
        setUp t root path
          = if TellsNoInputs (Path.absolute place) ∨ ∃ text ∈ e.complaints, TellsNoInputs text
            then .ok .plain else .error e)
    ∧ ∀ faults, setUp t root (some named) = .error (.faulty place faults) →
        (∃ path includes excludes, .noInputs path includes excludes ∈ faults) →
          setUp t root path = .ok .plain := by
  obtain ⟨text, htext⟩ := exists_text_of_findConfig? hfound
  rw [setUp_named hnamed hplace htext, setUp_unnamed hpath hfound htext]
  cases hload : loadAt t place text with
  | ok c => exact ⟨fun s hs => hs, nofun, nofun⟩
  | error e =>
      have hexcused : (if e.tellsNoInputs then Except.ok Setup.plain else .error e)
          = if TellsNoInputs (Path.absolute place) ∨ ∃ text ∈ e.complaints, TellsNoInputs text
            then .ok .plain else .error e := by
        simp only [tellsNoInputs_iff (isAbout_of_loadAt hload)]
      refine ⟨nofun, ?_, ?_⟩
      · intro e' he
        obtain rfl := Except.error.inj he
        exact hexcused
      · rintro faults hfaults ⟨path, includes, excludes, hmem⟩
        obtain rfl := Except.error.inj hfaults
        have htold := tellsNoInputs_noInputs path includes excludes
        exact hexcused.trans (if_pos (Or.inr ⟨_, List.mem_map_of_mem hmem, htold⟩))

/-- The configuration matches no file and gives an option a value of another type. -/
def mistyped : FileTree :=
  ⟨[(["tsconfig.json"],
    "\x7b\"include\":[\"lib\"],\"compilerOptions\":\x7b\"strict\":1\x7d\x7d".toUTF8.toList)], []⟩

/-- What is said where a setup fails. -/
def complaintsIn : Except ConfigError Setup → List String
  | .ok _ => []
  | .error e => e.complaints

/-- A mistyped option is told of under the name of the configuration, and goes
    unnoticed where the configuration is found, as nothing matches its files. -/
theorem setUp_found_mistyped :
    findConfig? mistyped [] = some ["tsconfig.json"]
    ∧ (∃ e, setUp mistyped [] (some "tsconfig.json") = .error e
        ∧ e.complaints = ["Compiler option 'strict' requires a value of type boolean.",
            "No inputs were found in config file '/tsconfig.json'. Specified 'include' paths were "
              ++ "'[\"lib\"]' and 'exclude' paths were '[]'."])
    ∧ setUp mistyped [] none = .ok .plain := by
  have hfound : findConfig? mistyped [] = some ["tsconfig.json"] := by decide +kernel
  have hcomplaints : complaintsIn (setUp mistyped [] (some "tsconfig.json"))
      = ["Compiler option 'strict' requires a value of type boolean.",
          "No inputs were found in config file '/tsconfig.json'. Specified 'include' paths were "
            ++ "'[\"lib\"]' and 'exclude' paths were '[]'."] := by decide +kernel
  cases hnamed : setUp mistyped [] (some "tsconfig.json") with
  | ok s =>
      rw [hnamed] at hcomplaints
      exact nomatch hcomplaints
  | error e =>
      rw [hnamed] at hcomplaints
      refine ⟨hfound, ⟨e, rfl, hcomplaints⟩, ?_⟩
      have hunnamed : (none : Option String).filter (· ≠ "") = none := rfl
      have h := (setUp_found hfound hunnamed (by decide) (by decide +kernel)).2.1 e hnamed
      have htold : ∃ text ∈ e.complaints, TellsNoInputs text := by
        show ∃ text ∈ complaintsIn (.error e), _
        rw [hcomplaints]
        decide +kernel
      rw [h, if_pos (Or.inr htold)]

end TypeLineage.Project
