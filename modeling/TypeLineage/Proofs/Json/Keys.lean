import TypeLineage.Json.Reader
import TypeLineage.Proofs.Json.Order

/-! # Objects have one value a key

    `DistinctKeys` holds of a value in which no object has two members of one
    key.  It holds of whatever a text is read as, since an object that is read
    takes its members in order: by induction on the fuel of the reader. -/

namespace TypeLineage.Json

variable {fuel : Nat} {cs rest : List Char} {v : Json} {items : List Json}
  {members : List (String × Json)}

/-- No object in the value has two members of one key. -/
inductive DistinctKeys : Json → Prop where
  | null : DistinctKeys .null
  | bool (b : Bool) : DistinctKeys (.bool b)
  | number (n : JsonNumber) : DistinctKeys (.number n)
  | string (s : String) : DistinctKeys (.string s)
  | array {items : List Json} (h : ∀ x ∈ items, DistinctKeys x) : DistinctKeys (.array items)
  | object {members : List (String × Json)} (hkeys : (members.map (·.1)).Nodup)
      (h : ∀ m ∈ members, DistinctKeys m.2) : DistinctKeys (.object members)

theorem DistinctKeys.get? {key : String} {x : Json} (h : DistinctKeys v)
    (hx : v.get? key = some x) : DistinctKeys x := by
  cases h with
  | object _ h => exact h _ (Association.mem_of_lookup hx)
  | _ => exact nomatch hx

/-- What is read with some fuel has distinct keys. -/
structure ReadsDistinct (fuel : Nat) : Prop where
  value : ∀ {cs v rest}, readValue fuel cs = some (v, rest) → DistinctKeys v
  items : ∀ {cs items rest}, readItems fuel cs = some (items, rest) → ∀ x ∈ items, DistinctKeys x
  members : ∀ {cs members rest}, readMembers fuel cs = some (members, rest) →
    ∀ m ∈ members, DistinctKeys m.2

theorem readValue_distinct (ih : ReadsDistinct fuel) (h : readValue (fuel + 1) cs = some (v, rest)) :
    DistinctKeys v := by
  rw [readValue] at h
  split at h
  · exact nomatch h
  · split at h
    · obtain ⟨rfl, -⟩ := Prod.mk.inj (Option.some.inj h)
      exact .array fun _ hx => nomatch hx
    · obtain ⟨⟨items, rest'⟩, hitems, heq⟩ := Option.bind_eq_some_iff.mp h
      obtain ⟨rfl, -⟩ := Prod.mk.inj (Option.some.inj heq)
      exact .array (ih.items hitems)
  · split at h
    · obtain ⟨rfl, -⟩ := Prod.mk.inj (Option.some.inj h)
      exact .object List.nodup_nil fun _ hm => nomatch hm
    · obtain ⟨⟨members, rest'⟩, hmembers, heq⟩ := Option.bind_eq_some_iff.mp h
      obtain ⟨rfl, -⟩ := Prod.mk.inj (Option.some.inj heq)
      exact .object (nodup_orderMembers members)
        fun m hm => ih.members hmembers m (mem_of_mem_orderMembers hm)
  · obtain ⟨⟨s, rest'⟩, -, heq⟩ := Option.bind_eq_some_iff.mp h
    obtain ⟨rfl, -⟩ := Prod.mk.inj (Option.some.inj heq)
    exact .string _
  · obtain ⟨rest', -, heq⟩ := Option.map_eq_some_iff.mp h
    obtain ⟨rfl, -⟩ := Prod.mk.inj heq
    exact .null
  · obtain ⟨rest', -, heq⟩ := Option.map_eq_some_iff.mp h
    obtain ⟨rfl, -⟩ := Prod.mk.inj heq
    exact .bool true
  · obtain ⟨rest', -, heq⟩ := Option.map_eq_some_iff.mp h
    obtain ⟨rfl, -⟩ := Prod.mk.inj heq
    exact .bool false
  · obtain ⟨⟨n, rest'⟩, -, heq⟩ := Option.bind_eq_some_iff.mp h
    obtain ⟨rfl, -⟩ := Prod.mk.inj (Option.some.inj heq)
    exact .number n

theorem readItems_distinct (ih : ReadsDistinct fuel)
    (h : readItems (fuel + 1) cs = some (items, rest)) : ∀ x ∈ items, DistinctKeys x := by
  rw [readItems] at h
  obtain ⟨⟨item, after⟩, hitem, h⟩ := Option.bind_eq_some_iff.mp h
  have hdistinct := ih.value hitem
  dsimp only at h
  split at h
  · obtain ⟨⟨more, rest'⟩, hmore, heq⟩ := Option.bind_eq_some_iff.mp h
    obtain ⟨rfl, -⟩ := Prod.mk.inj (Option.some.inj heq)
    exact List.forall_mem_cons.mpr ⟨hdistinct, ih.items hmore⟩
  · obtain ⟨rfl, -⟩ := Prod.mk.inj (Option.some.inj h)
    exact List.forall_mem_singleton.mpr hdistinct
  · exact nomatch h

theorem readMembers_distinct (ih : ReadsDistinct fuel)
    (h : readMembers (fuel + 1) cs = some (members, rest)) : ∀ m ∈ members, DistinctKeys m.2 := by
  rw [readMembers] at h
  split at h
  case h_2 => exact nomatch h
  obtain ⟨⟨key, after⟩, -, h⟩ := Option.bind_eq_some_iff.mp h
  dsimp only at h
  split at h
  case h_2 => exact nomatch h
  obtain ⟨⟨value, after⟩, hvalue, h⟩ := Option.bind_eq_some_iff.mp h
  have hdistinct := ih.value hvalue
  dsimp only at h
  split at h
  · obtain ⟨⟨more, rest'⟩, hmore, heq⟩ := Option.bind_eq_some_iff.mp h
    obtain ⟨rfl, -⟩ := Prod.mk.inj (Option.some.inj heq)
    exact List.forall_mem_cons.mpr ⟨hdistinct, ih.members hmore⟩
  · obtain ⟨rfl, -⟩ := Prod.mk.inj (Option.some.inj h)
    exact List.forall_mem_singleton.mpr hdistinct
  · exact nomatch h

theorem readsDistinct (fuel : Nat) : ReadsDistinct fuel := by
  induction fuel with
  | zero =>
      refine ⟨?_, ?_, ?_⟩
      all_goals
        intro cs x rest h
        exact nomatch h
  | succ n ih => exact ⟨readValue_distinct ih, readItems_distinct ih, readMembers_distinct ih⟩

/-- Whatever a text is read as, keys are distinct in it. -/
theorem distinctKeys_of_parse? {text : String} (h : parse? text = some v) : DistinctKeys v := by
  obtain ⟨⟨value, rest⟩, hread, h⟩ := Option.bind_eq_some_iff.mp h
  dsimp only at h
  split at h
  · obtain rfl := Option.some.inj h
    exact (readsDistinct _).value hread
  · exact nomatch h

end TypeLineage.Json
