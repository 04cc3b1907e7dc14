import TypeLineage.Proofs.Json.Canonical
import TypeLineage.Proofs.Json.KeyOrder
import TypeLineage.Proofs.Json.KeyReader

/-! # The members of a canonical text

    What a reader of keys finds in the canonical text of a value are the keys of
    the objects in the value, in canonical order, all but the one that is never
    written (`stableText_lists`).  They are all keys in ascending order where no
    object has that key, nor an index that the ascending order would put
    elsewhere; no other object is listed so (`plain_of_listsAscending`). -/

namespace TypeLineage.Json

variable {keys : List String} {lists : List (List String)} {v : Json} {items : List Json}
  {members : List (String × Json)}

/-! ## What is listed -/

/-- The lists are those of the objects in a value, in the order in which the
    objects end: of each object the keys that are kept, each once and in order. -/
inductive ListedAs (before : String → String → Bool) (kept : String → Prop) :
    Json → List (List String) → Prop where
  | null : ListedAs before kept .null []
  | bool (b : Bool) : ListedAs before kept (.bool b) []
  | number (n : JsonNumber) : ListedAs before kept (.number n) []
  | string (s : String) : ListedAs before kept (.string s) []
  | array {items : List Json} {lists : List (List (List String))}
      (h : List.Forall₂ (ListedAs before kept) items lists) :
      ListedAs before kept (.array items) lists.flatten
  | object {members written : List (String × Json)} {lists : List (List (List String))}
      (hwritten : ∀ m ∈ written, m ∈ members)
      (hkept : ∀ key, key ∈ written.map (·.1) ↔ key ∈ members.map (·.1) ∧ kept key)
      (honce : (written.map (·.1)).Nodup)
      (hbefore : (written.map (·.1)).Pairwise fun a b => before a b = true)
      (h : List.Forall₂ (ListedAs before kept) (written.map (·.2)) lists) :
      ListedAs before kept (.object members) (lists.flatten ++ [written.map (·.1)])

/-- The keys of every object in a value are such. -/
inductive KeysIn (p : List String → Prop) : Json → Prop where
  | null : KeysIn p .null
  | bool (b : Bool) : KeysIn p (.bool b)
  | number (n : JsonNumber) : KeysIn p (.number n)
  | string (s : String) : KeysIn p (.string s)
  | array {items : List Json} (h : ∀ x ∈ items, KeysIn p x) : KeysIn p (.array items)
  | object {members : List (String × Json)} (hkeys : p (members.map (·.1)))
      (h : ∀ m ∈ members, KeysIn p m.2) : KeysIn p (.object members)

theorem KeysIn.of_forall {p : List String → Prop} (h : ∀ keys, p keys) (v : Json) : KeysIn p v := by
  induction v using inductionOn with
  | null => exact .null
  | bool b => exact .bool b
  | number n => exact .number n
  | string s => exact .string s
  | array items ih => exact .array ih
  | object members ih => exact .object (h _) ih

/-- The canonical form is listed as the canonical order of each object is. -/
theorem listedAs_canonical {before : String → String → Bool} {kept : String → Prop}
    {p : List String → Prop}
    (horder : ∀ members : List (String × Json), p (members.map (·.1)) →
      ((canonicalOrder members).map (·.1)).Pairwise (fun a b => before a b = true)
      ∧ ∀ key ∈ members.map (·.1), key ≠ unwritableKey ↔ kept key)
    (hv : KeysIn p v) : ListedAs before kept v (keysOf v.canonical) := by
  induction hv with
  | null => exact .null
  | bool b => exact .bool b
  | number n => exact .number n
  | string s => exact .string s
  | @array items _ ih =>
      rw [canonical, keysOf, keysOfItems_eq_flatMap, canonicalItems_eq_map, List.flatMap_map,
        List.flatMap_def]
      exact .array (List.forall₂_map_right_iff.mpr (List.forall₂_same.mpr ih))
  | @object members hkeys _ ih =>
      obtain ⟨hbefore, hkept⟩ := horder members hkeys
      have hwritten : ∀ m ∈ canonicalOrder members, m ∈ members := fun _ =>
        mem_of_mem_canonicalOrder
      have hlists : keysOf (canonical (.object members))
          = ((canonicalOrder members).map fun m => keysOf m.2.canonical).flatten
            ++ [(canonicalOrder members).map (·.1)] := by
        rw [canonical, keysOf, keysOfMembers_eq_flatMap, canonicalMembers_eq_map,
          canonicalOrder_map, List.flatMap_map, List.map_map, List.flatMap_def]
        rfl
      rw [hlists]
      refine .object hwritten (fun key => ?_) (nodup_orderMembers _) hbefore ?_
      · rw [mem_keys_canonicalOrder_iff]
        exact and_congr_right (hkept key)
      · rw [List.forall₂_map_left_iff, List.forall₂_map_right_iff, List.forall₂_same]
        exact fun m hm => ih m (hwritten m hm)

/-- The canonical text lists all keys of every object, each once and in
    ascending order of their code units. -/
def ListsAscending (v : Json) (indent : Int) : Prop :=
  ListedAs Text.precedes (fun _ => True) v (keyLists (stableText v indent))

/-- The canonical order of keys is the ascending one, with all keys in it. -/
def Plain (keys : List String) : Prop :=
  unwritableKey ∉ keys ∧ ∀ a ∈ keys, ∀ b ∈ keys, keyBefore a b = true → Text.precedes a b = true

instance (keys : List String) : Decidable (Plain keys) :=
  inferInstanceAs (Decidable (unwritableKey ∉ keys
    ∧ ∀ a ∈ keys, ∀ b ∈ keys, keyBefore a b = true → Text.precedes a b = true))

/-- **What the canonical text lists**: of every object all keys but the one that
    is never written, each once and in canonical order.  These are all keys in
    ascending order if no object has the key that is never written, nor an index
    that the ascending order would put elsewhere. -/
theorem stableText_lists (v : Json) (indent : Int) :
    ListedAs keyBefore (· ≠ unwritableKey) v (keyLists (stableText v indent))
    ∧ (KeysIn Plain v → ListsAscending v indent) := by
  unfold ListsAscending
  rw [keyLists_stableText]
  constructor
  · refine listedAs_canonical (fun members _ => ⟨pairwise_canonicalOrder members, ?_⟩)
      (KeysIn.of_forall (fun _ => trivial) v)
    exact fun key _ => Iff.rfl
  · refine listedAs_canonical fun members h => ⟨?_, fun key hkey => ?_⟩
    · refine (pairwise_canonicalOrder members).imp_of_mem fun {a b} ha hb hab => ?_
      exact h.2 a (mem_keys_canonicalOrder_iff.mp ha).1 b (mem_keys_canonicalOrder_iff.mp hb).1 hab
    · exact iff_of_true (ne_of_mem_of_not_mem hkey h.1) trivial

theorem stableText_lists_nested :
    ListsAscending (.object [("2", .null), ("b", .null), ("c", .array [.object []])]) 2 := by
  refine (stableText_lists _ 2).2 (.object (of_decide_eq_true (by cbv)) ?_)
  simp only [List.forall_mem_cons]
  have hempty : KeysIn Plain (.object []) :=
    .object (by decide +kernel) (List.forall_mem_nil _)
  exact ⟨.null, .null, .array (List.forall_mem_singleton.mpr hempty), List.forall_mem_nil _⟩

/-- The keys that are listed last of an object are its own. -/
theorem ListedAs.getLast? {before : String → String → Bool} {kept : String → Prop}
    (h : ListedAs before kept (.object members) lists) (hkeys : lists.getLast? = some keys) :
    keys.Pairwise (fun a b => before a b = true)
      ∧ ∀ key, key ∈ keys ↔ key ∈ members.map (·.1) ∧ kept key := by
  cases h with
  | object _ hkept _ hbefore _ =>
      rw [List.getLast?_concat] at hkeys
      obtain rfl := Option.some.inj hkeys
      exact ⟨hbefore, hkept⟩

/-- An object with other keys is not listed in ascending order. -/
theorem plain_of_listsAscending {indent : Int} (h : ListsAscending (.object members) indent) :
    Plain (members.map (·.1)) := by
  have hcanonical := (stableText_lists (.object members) indent).1
  unfold ListsAscending at h
  obtain ⟨keys, hkeys⟩ : ∃ keys, (keyLists (stableText (.object members) indent)).getLast?
      = some keys := by
    rw [keyLists_stableText, canonical, keysOf, List.getLast?_concat]
    exact ⟨_, rfl⟩
  obtain ⟨hascending, hall⟩ := h.getLast? hkeys
  obtain ⟨hbefore, hkept⟩ := hcanonical.getLast? hkeys
  have hmem : ∀ key ∈ members.map (·.1), key ∈ keys := fun key hkey =>
    (hall key).mpr ⟨hkey, trivial⟩
  refine ⟨fun hkey => ((hkept _).mp (hmem _ hkey)).2 rfl, fun a ha b hb hab => ?_⟩
  -- of two keys one is listed first, in both orders the same
  have hpair : keys.Pairwise fun a b => (keyBefore a b = true ∧ Text.precedes a b = true)
      ∨ keyBefore b a = true ∧ Text.precedes b a = true :=
    (hbefore.and hascending).imp Or.inl
  have hsymm : Std.Symm fun a b => (keyBefore a b = true ∧ Text.precedes a b = true)
      ∨ keyBefore b a = true ∧ Text.precedes b a = true := ⟨fun _ _ => Or.symm⟩
  have hne : a ≠ b := by
    rintro rfl
    exact keyBefore_irrefl a hab
  rcases hpair.forall (hmem a ha) (hmem b hb) hne with h | h
  · exact h.2
  · exact absurd h.1 (keyBefore_asymm hab)

/-- Indices are listed by their numbers, and one key is not listed at all. -/
theorem not_listsAscending :
    stableText (.object [("9", .null), ("10", .null)]) 0 = "\x7b\"9\":null,\"10\":null\x7d\n"
    ∧ ¬ ListsAscending (.object [("9", .null), ("10", .null)]) 0
    ∧ ¬ ListsAscending (.object [("__proto__", .null), ("a", .null)]) 0 := by
  refine ⟨by cbv, fun h => ?_, fun h => ?_⟩
  · have hbefore : keyBefore "9" "10" = true := by cbv
    have hascending := (plain_of_listsAscending h).2 "9" List.mem_cons_self "10" (by simp) hbefore
    exact absurd hascending (by decide +kernel)
  · exact (plain_of_listsAscending h).1 List.mem_cons_self

end TypeLineage.Json
