import TypeLineage.Extract.Heritage
import TypeLineage.Proofs.Association

/-! # No relation has an empty name

    A name that is missing in a source refers to nothing.  So a declaration
    relates only to names that are not empty, and every type argument is kept
    under a key with such a name before its point.  One entry of a clause keeps
    this, and a heritage takes in one entry after the other.

    Bindings are made one by one, and none is made twice under one key. -/

namespace TypeLineage.Extract

open Source

variable {names : ParameterNames} {h : Heritage} {reference : Reference} {value : Expr}
  {name : String}

theorem ne_empty_of_referredName? (hname : referredName? value = some name) : name ≠ "" :=
  of_decide_eq_true (Option.filter_eq_some_iff.mp hname).2

/-- The key begins with a name that is not empty. -/
def IsKeyOfName (key : String) : Prop :=
  ∃ base param, base ≠ "" ∧ key = qualifiedParameter base param

/-- No relation has an empty name. -/
structure Heritage.Named (h : Heritage) : Prop where
  superclass : h.superclass ≠ some ""
  interfaces : ∀ n ∈ h.interfaces, n ≠ ""
  mixins : ∀ n ∈ h.mixins, n ≠ ""
  keys : ∀ a ∈ h.arguments, IsKeyOfName a.key

/-! ## One entry -/

theorem name_of_mem_applications (value : Expr) : ∀ a ∈ (applications value).1, a.name ≠ "" := by
  induction value using applications.induct with
  | case1 spot callee types argument others isOptional name hname inner base _ ih =>
      rw [applications, hname]
      exact List.forall_mem_cons.mpr ⟨ne_empty_of_referredName? hname, ih⟩
  | case2 spot callee types argument others isOptional hname =>
      rw [applications, hname]
      exact List.forall_mem_nil _
  | case3 value hvalue =>
      rw [applications]
      · exact List.forall_mem_nil _
      · exact hvalue

namespace ParameterNames

theorem isKeyOfName_matched (hname : name ≠ "") (arguments : List TypeExpr) :
    ∀ a ∈ names.matched reference value name arguments, IsKeyOfName a.key := by
  unfold matched
  split
  · exact List.forall_mem_nil _
  · exact List.forall_mem_map.mpr fun p _ => ⟨name, p.1, hname, rfl⟩

/-- What is extended has a name, and so has each mixin on the way to it. -/
theorem named_addExtended (hnamed : h.Named) (e : HeritageEntry) :
    (names.addExtended h e).Named := by
  have happlied := name_of_mem_applications e.expression
  unfold addExtended
  generalize applications e.expression = applied at happlied ⊢
  obtain ⟨applied, inner⟩ := applied
  dsimp only at happlied ⊢
  have hmixins : ∀ n ∈ h.mixins ++ (applied.map (·.name)).reverse, n ≠ "" := by
    rw [List.forall_mem_append]
    refine ⟨hnamed.mixins, fun n hn => ?_⟩
    obtain ⟨a, ha, rfl⟩ := List.mem_map.mp (List.mem_reverse.mp hn)
    exact happlied a ha
  have hmixed : ∀ a ∈ h.arguments ++ applied.flatMap
      (fun a => names.matched .applied a.callee a.name a.typeArguments), IsKeyOfName a.key := by
    rw [List.forall_mem_append]
    refine ⟨hnamed.keys, fun a ha => ?_⟩
    obtain ⟨b, hb, ha⟩ := List.mem_flatMap.mp ha
    exact isKeyOfName_matched (happlied b hb) _ a ha
  -- whatever arguments are written, only the name of the base is looked at
  split
  · rename_i name hname
    have hne := ne_empty_of_referredName? hname
    refine ⟨fun hempty => hne (Option.some.inj hempty), hnamed.interfaces, hmixins, ?_⟩
    exact List.forall_mem_append.mpr ⟨hmixed, isKeyOfName_matched hne _⟩
  · exact ⟨hnamed.superclass, hnamed.interfaces, hmixins, hmixed⟩

theorem named_addInterface (hnamed : h.Named) (e : HeritageEntry) :
    (names.addInterface h e).Named := by
  unfold addInterface
  split
  · rename_i name hname
    have hne := ne_empty_of_referredName? hname
    refine ⟨hnamed.superclass, ?_, hnamed.mixins, ?_⟩
    · exact List.forall_mem_append.mpr ⟨hnamed.interfaces, List.forall_mem_singleton.mpr hne⟩
    · exact List.forall_mem_append.mpr ⟨hnamed.keys, isKeyOfName_matched hne _⟩
  · exact hnamed

/-! ## All entries -/

theorem named_addClause (hnamed : h.Named) (isClass : Bool) (c : HeritageClause) :
    (names.addClause isClass h c).Named := by
  unfold addClause
  generalize c.entries = entries
  induction entries generalizing h with
  | nil => exact hnamed
  | cons e rest ih =>
      refine ih ?_
      split
      · exact named_addExtended hnamed e
      · exact named_addInterface hnamed e

theorem named_heritage (names : ParameterNames) (d : TypeDeclaration) : (names.heritage d).Named := by
  unfold heritage
  suffices ∀ (clauses : List HeritageClause) (h : Heritage), h.Named →
      (clauses.foldl (names.addClause d.isClass) h).Named from
    this d.heritage _ ⟨nofun, nofun, nofun, nofun⟩
  intro clauses
  induction clauses with
  | nil => exact fun h hnamed => hnamed
  | cons c rest ih => exact fun h hnamed => ih _ (named_addClause hnamed d.isClass c)

end ParameterNames

/-! ## Bindings -/

theorem keys_bindKey (key value : String) (bindings : Bindings) :
    (bindKey key value bindings).map (·.1)
      = if key ∈ bindings.map (·.1) then bindings.map (·.1) else bindings.map (·.1) ++ [key] := by
  induction bindings with
  | nil => rfl
  | cons b rest ih =>
      obtain ⟨k, v⟩ := b
      rw [bindKey]
      by_cases hk : k = key
      · simp [hk]
      · have hne : ¬ key = k := fun heq => hk heq.symm
        rw [if_neg hk, List.map_cons, ih]
        by_cases hmem : key ∈ rest.map (·.1)
        · simp [hmem]
        · simp [hmem, hne]

theorem nodup_bindKey {bindings : Bindings} (hnd : (bindings.map (·.1)).Nodup)
    (key value : String) : ((bindKey key value bindings).map (·.1)).Nodup := by
  rw [keys_bindKey]
  exact Association.nodup_extended hnd key

theorem mem_keys_bindKey {bindings : Bindings} {key value k : String} :
    k ∈ (bindKey key value bindings).map (·.1) ↔ k = key ∨ k ∈ bindings.map (·.1) := by
  rw [keys_bindKey]
  split
  next hmem =>
    refine ⟨Or.inr, ?_⟩
    rintro (rfl | hk)
    · exact hmem
    · exact hk
  next =>
    rw [List.mem_append, List.mem_singleton, or_comm]

end TypeLineage.Extract
