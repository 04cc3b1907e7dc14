import TypeLineage.Proofs.Json.Keys
import TypeLineage.Proofs.Json.RoundTrip

/-! # The canonical text is read back

    What the canonical text of a value is read as is `settled v`: the value with
    the members of its objects in another order, without those that are never
    written, and with its numbers rounded.  Under a key stands what stood there,
    settled.

    `SameButOrder` is equality up to the order of members.  Storable values have
    one canonical text exactly if they are the same in this sense: where only
    the order differs the canonical forms are equal, by induction on values, and
    values with one text are both what that text is read as. -/

namespace TypeLineage.Json

variable {v : Json} {members : List (String × Json)} {key : String}

theorem canonicalItems_eq_map (items : List Json) : canonicalItems items = items.map canonical := by
  induction items with
  | nil => rfl
  | cons item items ih => rw [canonicalItems, ih, List.map_cons]

theorem canonicalMembers_eq_map (members : List (String × Json)) :
    canonicalMembers members = members.map fun m => (m.1, canonical m.2) := by
  induction members with
  | nil => rfl
  | cons m members ih => rw [canonicalMembers, ih, List.map_cons]

theorem Integral.canonical (h : Integral v) : Integral v.canonical := by
  induction h with
  | null => exact .null
  | bool b => exact .bool b
  | int n => exact .int n
  | string s => exact .string s
  | @array items _ ih =>
      rw [Json.canonical, canonicalItems_eq_map]
      exact .array (List.forall_mem_map.mpr ih)
  | @object members _ ih =>
      rw [Json.canonical, canonicalMembers_eq_map]
      refine .object fun m hm => ?_
      obtain ⟨x, hx, rfl⟩ := List.mem_map.mp (mem_of_mem_canonicalOrder hm)
      exact ih x hx

/-- What the canonical text of a value is read as. -/
def settled (v : Json) : Json := reread v.canonical

theorem parse?_stableText (h : Integral v) (indent : Int) :
    parse? (stableText v indent) = some (settled v) := by
  have htext : (stableText v indent).toList = write (indentOf indent) 0 v.canonical ++ ['\n'] := by
    unfold stableText text
    rw [String.toList_append, String.toList_ofList]
    rfl
  have hread := h.canonical.readsBack
    ((write (indentOf indent) 0 v.canonical ++ ['\n']).length + 1) (indentOf indent) 0 ['\n']
    (by rw [List.length_append]; omega) (endsNumber_cons (by decide))
  unfold parse? ofChars?
  rw [htext, hread]
  rfl

example : parse? (stableText (.object [("b", .ofInt (-1)), ("a", .array [.null])]) 2)
    = some (.object [("a", .array [.null]), ("b", .ofInt (-1))]) := by
  cbv

theorem settled_array (items : List Json) : settled (.array items) = .array (items.map settled) := by
  unfold settled
  rw [canonical, reread, canonicalItems_eq_map, rereadItems_eq_map, List.map_map]
  rfl

/-- No member of distinct keys is lost but those that are never written. -/
theorem exists_settled_object (h : (members.map (·.1)).Nodup) :
    ∃ written, settled (.object members) = .object written
      ∧ written.Perm ((members.filter (·.1 ≠ unwritableKey)).map fun m => (m.1, settled m.2)) := by
  have hkeys : ((canonicalMembers members).map (·.1)).Nodup := by
    rw [canonicalMembers_eq_map, List.map_map]
    exact h
  have hcanonical : (canonicalOrder (canonicalMembers members)).Perm
      ((members.filter (·.1 ≠ unwritableKey)).map fun m => (m.1, canonical m.2)) := by
    refine (canonicalOrder_perm hkeys).trans (List.Perm.of_eq ?_)
    rw [canonicalMembers_eq_map, List.filter_map]
    rfl
  have hreread : ((rereadMembers (canonicalOrder (canonicalMembers members))).map (·.1)).Nodup := by
    rw [rereadMembers_eq_map, List.map_map]
    exact nodup_orderMembers _
  refine ⟨_, rfl, (orderMembers_perm hreread).trans ?_⟩
  rw [rereadMembers_eq_map]
  refine (hcanonical.map _).trans (List.Perm.of_eq ?_)
  rw [List.map_map]
  rfl

/-- Under a key stands what stood there, settled. -/
theorem get?_settled (h : (members.map (·.1)).Nodup) (hkey : key ≠ unwritableKey) :
    (settled (.object members)).get? key = (members.lookup key).map settled := by
  obtain ⟨written, heq, hperm⟩ := exists_settled_object h
  have hnd : (((members.filter (·.1 ≠ unwritableKey)).map fun m => (m.1, settled m.2)).map
      (·.1)).Nodup := by
    rw [List.map_map]
    exact h.sublist (List.filter_sublist.map _)
  rw [heq]
  show written.lookup key = _
  rw [Association.lookup_eq_of_perm hperm ((hperm.map _).nodup_iff.mpr hnd),
    Association.lookup_map_snd]
  exact congrArg (Option.map settled)
    (Association.lookup_filter_key (p := (· ≠ unwritableKey)) (decide_eq_true hkey) members)

/-! ## Nothing is lost -/

/-- The values are equal, but objects may have their members in another order. -/
inductive SameButOrder : Json → Json → Prop where
  | null : SameButOrder .null .null
  | bool (b : Bool) : SameButOrder (.bool b) (.bool b)
  | number (n : JsonNumber) : SameButOrder (.number n) (.number n)
  | string (s : String) : SameButOrder (.string s) (.string s)
  | array {items others : List Json} (hlength : items.length = others.length)
      (h : ∀ p ∈ items.zip others, SameButOrder p.1 p.2) :
      SameButOrder (.array items) (.array others)
  | object {members others : List (String × Json)}
      (hkeys : (members.map (·.1)).Perm (others.map (·.1)))
      (h : ∀ m ∈ members, ∀ o ∈ others, m.1 = o.1 → SameButOrder m.2 o.2) :
      SameButOrder (.object members) (.object others)

/-- Numbers are integers that are exact in 64-bit floating point, and objects
    have one member a key and none under the key that is never written. -/
inductive Storable : Json → Prop where
  | null : Storable .null
  | bool (b : Bool) : Storable (.bool b)
  | int (n : Int) (h : n.natAbs < JsonNumber.safeLimit) : Storable (.number (.int n))
  | string (s : String) : Storable (.string s)
  | array {items : List Json} (h : ∀ x ∈ items, Storable x) : Storable (.array items)
  | object {members : List (String × Json)} (hkeys : (members.map (·.1)).Nodup)
      (hwritable : unwritableKey ∉ members.map (·.1)) (h : ∀ m ∈ members, Storable m.2) :
      Storable (.object members)

theorem Storable.integral (h : Storable v) : Integral v := by
  induction h with
  | null => exact .null
  | bool b => exact .bool b
  | int n _ => exact .int n
  | string s => exact .string s
  | array _ ih => exact .array ih
  | object _ _ _ ih => exact .object ih

theorem rereadNumber_int {n : Int} (h : n.natAbs < JsonNumber.safeLimit) :
    rereadNumber (.int n) = .int n := by
  show JsonNumber.ofDecimal (decide (n < 0)) n.natAbs 0 = _
  have hzero : ¬ (decide (n < 0) = true ∧ n.natAbs = 0) := by
    rw [decide_eq_true_eq]
    omega
  unfold JsonNumber.ofDecimal
  rw [if_pos ⟨rfl, h, hzero⟩]
  by_cases hn : n < 0
  · rw [decide_eq_true hn, if_pos rfl]
    exact congrArg JsonNumber.int (by omega)
  · rw [decide_eq_false hn, if_neg Bool.false_ne_true]
    exact congrArg JsonNumber.int (by omega)

/-- A storable value is read as it was, up to the order of members. -/
theorem Storable.sameButOrder_settled (h : Storable v) : SameButOrder v (settled v) := by
  induction h with
  | null => exact .null
  | bool b => exact .bool b
  | string s => exact .string s
  | int n hn =>
      have hsettled : settled (.number (.int n)) = .number (.int n) :=
        congrArg Json.number (rereadNumber_int hn)
      rw [hsettled]
      exact .number _
  | @array items _ ih =>
      rw [settled_array]
      refine .array (List.length_map _).symm fun p hp => ?_
      rw [← List.map_id items, List.map_map, List.zip_map'] at hp
      obtain ⟨x, hx, rfl⟩ := List.mem_map.mp hp
      exact ih x hx
  | @object members hkeys hwritable _ ih =>
      obtain ⟨written, heq, hperm⟩ := exists_settled_object hkeys
      -- no member is left out
      have hall : members.filter (·.1 ≠ unwritableKey) = members := by
        refine List.filter_eq_self.mpr fun m hm => decide_eq_true fun hkey => hwritable ?_
        exact List.mem_map.mpr ⟨m, hm, hkey⟩
      rw [hall] at hperm
      rw [heq]
      refine .object ?_ fun m hm o ho hmo => ?_
      · refine List.Perm.trans (List.Perm.of_eq ?_) (hperm.map _).symm
        rw [List.map_map]
        rfl
      · -- under one key stands one value
        obtain ⟨n, hn, rfl⟩ := List.mem_map.mp (hperm.mem_iff.mp ho)
        have hvalue : members.lookup m.1 = some n.2 :=
          hmo ▸ (Association.lookup_eq_some_iff_mem hkeys).mpr hn
        rw [(Association.lookup_eq_some_iff_mem hkeys).mpr hm] at hvalue
        rw [← Option.some.inj hvalue]
        exact ih m hm

/-- **Nothing is lost**: the canonical text of a storable value is read, whatever
    its indentation, and what it is read as is the value up to the order of
    members. -/
theorem parse?_stableText_sameButOrder (v : Json) (indent : Int) (h : Storable v) :
    ∃ w, parse? (stableText v indent) = some w ∧ SameButOrder v w :=
  ⟨settled v, parse?_stableText h.integral indent, h.sameButOrder_settled⟩

/-- Members out of order, at two levels, with texts that have to be escaped and
    integers that are just exact. -/
theorem parse?_stableText_sameButOrder_of_nested :
    let v : Json := .object [
      ("b\n", .array [.object [], .array [], .object [("😀", .null), ("\"", .bool true)]]),
      ("10", .string "\\\x01/"),
      ("9", .ofInt (-9007199254740991))]
    Storable v ∧ ∃ w, parse? (stableText v 10) = some w ∧ SameButOrder v w := by
  intro v
  have h : Storable v := by
    refine .object (by decide) (by decide) ?_
    simp only [List.forall_mem_cons]
    refine ⟨.array ?_, .string _, .int _ (by decide), List.forall_mem_nil _⟩
    simp only [List.forall_mem_cons]
    refine ⟨.object (by decide) (by decide) (List.forall_mem_nil _),
      .array (List.forall_mem_nil _), .object (by decide) (by decide) ?_, List.forall_mem_nil _⟩
    simp only [List.forall_mem_cons]
    exact ⟨.null, .bool true, List.forall_mem_nil _⟩
  exact ⟨h, parse?_stableText_sameButOrder v 10 h⟩

/-! ## One text for all orders -/

section Equivalence

variable {w x : Json}

/-- Items at one place in two lists stand side by side. -/
theorem getElem_mem_zip {items others : List Json} {i : Nat} (hi : i < items.length)
    (hi' : i < others.length) : (items[i], others[i]) ∈ items.zip others := by
  have hzip : i < (items.zip others).length := by
    rw [List.length_zip]
    omega
  rw [← List.getElem_zip (h := hzip)]
  exact List.getElem_mem hzip

/-- Arrays are the same if their items are, place by place. -/
theorem SameButOrder.of_places {items others : List Json} (hlength : items.length = others.length)
    (h : ∀ (i : Nat) (hi : i < items.length) (hi' : i < others.length),
      SameButOrder items[i] others[i]) : SameButOrder (.array items) (.array others) := by
  refine .array hlength fun p hp => ?_
  obtain ⟨i, hi, rfl⟩ := List.mem_iff_getElem.mp hp
  rw [List.length_zip] at hi
  rw [List.getElem_zip]
  exact h i (by omega) (by omega)

theorem SameButOrder.symm (h : SameButOrder v w) : SameButOrder w v := by
  induction h with
  | null => exact .null
  | bool b => exact .bool b
  | number n => exact .number n
  | string s => exact .string s
  | array hlength _ ih =>
      exact .of_places hlength.symm fun i hi hi' => ih _ (getElem_mem_zip hi' hi)
  | object hkeys _ ih => exact .object hkeys.symm fun o ho m hm hom => ih m hm o ho hom.symm

theorem SameButOrder.trans (h : SameButOrder v w) (h' : SameButOrder w x) : SameButOrder v x := by
  induction h generalizing x with
  | null => exact h'
  | bool b => exact h'
  | number n => exact h'
  | string s => exact h'
  | array hlength _ ih =>
      cases h' with
      | array hlength' h' =>
          refine .of_places (hlength.trans hlength') fun i hi hi' => ?_
          have hbetween := hlength ▸ hi
          exact ih _ (getElem_mem_zip hi hbetween) (h' _ (getElem_mem_zip hbetween hi'))
  | object hkeys _ ih =>
      cases h' with
      | object hkeys' h' =>
          refine .object (hkeys.trans hkeys') fun m hm t ht hmt => ?_
          -- the key stands in the object between as well
          obtain ⟨o, ho, hom⟩ := List.mem_map.mp (hkeys.mem_iff.mp (List.mem_map_of_mem hm))
          exact ih m hm o ho hom.symm (h' o ho t ht (hom.trans hmt))

/-- Where keys are distinct, the canonical form shows no order. -/
theorem SameButOrder.canonical_eq (h : SameButOrder v w) (hdistinct : DistinctKeys v) :
    v.canonical = w.canonical := by
  induction h with
  | null => rfl
  | bool b => rfl
  | number n => rfl
  | string s => rfl
  | array hlength _ ih =>
      cases hdistinct with
      | array hdistinct =>
          rw [canonical, canonical, canonicalItems_eq_map, canonicalItems_eq_map]
          refine congrArg Json.array (List.ext_getElem ?_ fun i hi hi' => ?_)
          · rw [List.length_map, List.length_map, hlength]
          · rw [List.length_map] at hi hi'
            rw [List.getElem_map, List.getElem_map]
            exact ih _ (getElem_mem_zip hi hi') (hdistinct _ (List.getElem_mem hi))
  | @object members others hperm _ ih =>
      cases hdistinct with
      | object hkeys hdistinct =>
          have hcanonical : ∀ ms : List (String × Json),
              (canonicalMembers ms).map (·.1) = ms.map (·.1) := fun ms => by
            rw [canonicalMembers_eq_map, List.map_map]
            rfl
          have hnd : ((canonicalMembers members).map (·.1)).Nodup := hcanonical members ▸ hkeys
          -- key by key the canonical members agree, and their order is one for both
          refine congrArg Json.object (canonicalOrder_eq_of_perm
            (Association.perm_of_agree hnd ?_ fun a ha b hb hab => ?_) hnd)
          · rw [hcanonical, hcanonical]
            exact hperm
          · rw [canonicalMembers_eq_map] at ha hb
            obtain ⟨m, hm, rfl⟩ := List.mem_map.mp ha
            obtain ⟨o, ho, rfl⟩ := List.mem_map.mp hb
            exact ih m hm o ho hab (hdistinct m hm)

end Equivalence

theorem Storable.distinctKeys (h : Storable v) : DistinctKeys v := by
  induction h with
  | null => exact .null
  | bool b => exact .bool b
  | int n _ => exact .number _
  | string s => exact .string s
  | array _ ih => exact .array ih
  | object hkeys _ _ ih => exact .object hkeys ih

/-- Values with one canonical text are both the same as what the text is read
    as. -/
theorem Storable.sameButOrder_of_stableText_eq {w : Json} {indent : Int} (hv : Storable v)
    (hw : Storable w) (h : stableText v indent = stableText w indent) : SameButOrder v w := by
  have hread := parse?_stableText hv.integral indent
  rw [h, parse?_stableText hw.integral indent] at hread
  have hsettled : settled w = settled v := Option.some.inj hread
  exact hv.sameButOrder_settled.trans (hsettled ▸ hw.sameButOrder_settled.symm)

/-- **The text is canonical**: whatever the indentation, storable values have one
    text exactly if they are the same up to the order of members.  So a text
    that is read and written again stays as it is. -/
theorem stableText_eq_iff_sameButOrder (v : Json) (indent : Int) (hv : Storable v) :
    (∀ w, Storable w → (stableText v indent = stableText w indent ↔ SameButOrder v w))
    ∧ ∃ u, parse? (stableText v indent) = some u ∧ stableText u indent = stableText v indent := by
  have hsame : ∀ {w}, SameButOrder v w → stableText v indent = stableText w indent := by
    intro w h
    unfold stableText
    rw [h.canonical_eq hv.distinctKeys]
  refine ⟨fun w hw => ⟨hv.sameButOrder_of_stableText_eq hw, hsame⟩, settled v,
    parse?_stableText hv.integral indent, ?_⟩
  exact (hsame hv.sameButOrder_settled).symm

/-- Members in two orders at two levels, an array index among them. -/
theorem stableText_eq_iff_sameButOrder_of_turned :
    let inner : Json := .object [("é", .null), ("9", .ofInt (-1))]
    let turned : Json := .object [("9", .ofInt (-1)), ("é", .null)]
    let v : Json := .object [("b", .array [inner, .string "\""]), ("a", .array [])]
    let w : Json := .object [("a", .array []), ("b", .array [turned, .string "\""])]
    Storable v ∧ Storable w ∧ SameButOrder v w ∧ stableText v 2 = stableText w 2
      ∧ ∃ u, parse? (stableText v 2) = some u ∧ stableText u 2 = stableText v 2 := by
  intro inner turned v w
  have hpair : ∀ {k l : String} {x y : Json}, k ≠ l → unwritableKey ∉ [k, l] → Storable x →
      Storable y → Storable (.object [(k, x), (l, y)]) := fun hne hwritable hx hy => by
    refine .object (by simpa using hne) hwritable ?_
    simp only [List.forall_mem_cons]
    exact ⟨hx, hy, List.forall_mem_nil _⟩
  have harray : ∀ {x}, Storable x → Storable (.array [x, .string "\""]) := fun hx => by
    refine .array ?_
    simp only [List.forall_mem_cons]
    exact ⟨hx, .string _, List.forall_mem_nil _⟩
  have hempty : Storable (.array []) := .array (List.forall_mem_nil _)
  have hnumber : Storable (.ofInt (-1)) := .int _ (by decide)
  have hv : Storable v :=
    hpair (by decide) (by decide) (harray (hpair (by decide) (by decide) .null hnumber)) hempty
  have hw : Storable w :=
    hpair (by decide) (by decide) hempty (harray (hpair (by decide) (by decide) hnumber .null))
  have hswap : ∀ {k l : String} {x x' y y' : Json}, k ≠ l → SameButOrder x x' →
      SameButOrder y y' → SameButOrder (.object [(k, x), (l, y)]) (.object [(l, y'), (k, x')]) :=
    fun hne hx hy => .object (.swap _ _ _) (by simp [hne, hne.symm, hx, hy])
  have hinner : SameButOrder (.array [inner, .string "\""]) (.array [turned, .string "\""]) := by
    refine .array rfl ?_
    simp only [List.zip_cons_cons, List.forall_mem_cons]
    exact ⟨hswap (by decide) .null (.number _), .string _, List.forall_mem_nil _⟩
  have hsame : SameButOrder v w := hswap (by decide) hinner (.array rfl (List.forall_mem_nil _))
  obtain ⟨hiff, hagain⟩ := stableText_eq_iff_sameButOrder v 2 hv
  exact ⟨hv, hw, hsame, (hiff w hw).mpr hsame, hagain⟩

end TypeLineage.Json
