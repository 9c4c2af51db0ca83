import RowGuard.Proofs.Predicate.Truth

/-! Values before and after relationships are loaded. No test looks inside an
object, so its states are one value to all of them; what is read through a
relationship that is not loaded is null. -/

set_option autoImplicit false

namespace RowGuard

/-! ## States of one object -/

namespace Value

/-- Whether two values are the same one for every test: a value and itself, or two states of one
object. -/
inductive Alike : Value → Value → Prop where
  | refl (value : Value) : Alike value value
  | object {id : Nat} {kind other : String} {before after : List (String × Value)}
      {unloaded rest : Option (List String)} :
      Alike (.object id kind before unloaded) (.object id other after rest)

section Alike

variable {a b c d : Value}

theorem Alike.isNull_eq (alike : a.Alike b) : a.isNull = b.isNull := by
  cases alike <;> rfl

/-- Neither equality nor order looks inside an object. -/
theorem Alike.tests_eq (alike : a.Alike b) (value : Value) :
    (a.same? value = b.same? value ∧ value.same? a = value.same? b) ∧
      (a.equal? value = b.equal? value ∧ value.equal? a = value.equal? b) ∧
      a.order value = b.order value ∧ value.order a = value.order b := by
  cases alike with
  | refl => exact ⟨⟨rfl, rfl⟩, ⟨rfl, rfl⟩, rfl, rfl⟩
  | object =>
      cases value with
      | float f => cases f <;> exact ⟨⟨rfl, rfl⟩, ⟨rfl, rfl⟩, rfl, rfl⟩
      | null | bool _ | int _ | decimal _ | infinite _ | undefined _ | text _ | list _ | tuple _
      | mapping _ | object _ _ _ _ | builtin _ _ _ =>
          exact ⟨⟨rfl, rfl⟩, ⟨rfl, rfl⟩, rfl, rfl⟩

theorem Alike.matches_eq (left : a.Alike b) (right : c.Alike d) (ignoreCase : Bool) :
    a.matches ignoreCase c = b.matches ignoreCase d := by
  cases left with
  | refl =>
      cases right with
      | refl => rfl
      | object => cases a <;> rfl
  | object =>
      cases right with
      | refl => cases c <;> rfl
      | object => rfl

theorem Alike.foundIn?_eq (alike : a.Alike b) (items : List Value) :
    a.foundIn? items = b.foundIn? items := by
  induction items with
  | nil => rfl
  | cons item items ih => rw [foundIn?, foundIn?, (alike.tests_eq item).1.1, ih]

theorem Alike.memberOf_eq (left : a.Alike b) (right : c.Alike d) :
    a.memberOf c = b.memberOf d := by
  cases right with
  | refl => simp only [memberOf, left.isNull_eq, left.foundIn?_eq]
  | @object id kind other before after unloaded rest =>
      have found : a.foundIn? [.object id kind before unloaded] =
          b.foundIn? [.object id other after rest] := by
        rw [left.foundIn?_eq, foundIn?, foundIn?, ((Alike.object).tests_eq b).1.2]
        rfl
      simp only [memberOf, items?, left.isNull_eq, found]
      rfl

theorem Alike.membership_eq (left : a.Alike b) (right : c.Alike d) :
    a.membership c = b.membership d := by
  rw [membership, left.memberOf_eq right, membership]

end Alike

end Value

theorem Comparator.truth_alike {a b c d : Value} (left : a.Alike b) (right : c.Alike d)
    (comparator : Comparator) : comparator.truth a c = comparator.truth b d := by
  have equal : a.equal? c = b.equal? d :=
    (left.tests_eq c).2.1.1.trans (right.tests_eq b).2.1.2
  have ordered (wanted : Ordering → Bool) : a.ordered? wanted c = b.ordered? wanted d := by
    rw [Value.ordered?, Value.ordered?, (left.tests_eq c).2.2.1, (right.tests_eq b).2.2.2]
  cases comparator with
  | like ignoreCase negated => simp only [truth, left.matches_eq right]
  | eq | ne | lt | le | gt | ge | unknown _ =>
      simp only [truth, left.isNull_eq, right.isNull_eq, equal, ordered]

theorem Comparator.compare_alike {a b c d : Value} (left : a.Alike b) (right : c.Alike d)
    (comparator : Comparator) : comparator.compare a c = comparator.compare b d := by
  rw [compare, truth_alike left right, compare]

/-! ## Loading -/

namespace Value

/-- Whether two values are states of one object that differ in some members at most. -/
structure AgreeOutside (names : List String) (before after : Value) : Prop where
  alike : before.Alike after
  present : before.isNull = false
  kept : ∀ name, name ∉ names → after.get name = before.get name

/-- Whether an instance of a model comes of another one by loading relationships. They were not
loaded, and now there may be anything; everything else is as it was. -/
inductive Loads (names : List String) : Value → Value → Prop where
  | object {id : Nat} {kind : String} {before after : List (String × Value)}
      {unloaded rest : List String} :
      (∀ name ∈ names, name ∈ unloaded) →
      (∀ name, name ∈ rest ↔ name ∈ unloaded ∧ name ∉ names) →
      (∀ name, name ∉ names → lookup name after = lookup name before) →
      Loads names (.object id kind before (some unloaded)) (.object id kind after (some rest))

/-- An instance with one of its relationships loaded. -/
def load (record : Value) (name : String) (row : Value) : Value :=
  match record with
  | .object id kind attributes (some unloaded) =>
    .object id kind ((name, row) :: attributes) (some (unloaded.filter (· ≠ name)))
  | value => value

section Loads

variable {names : List String} {name : String} {record loaded : Value}

theorem Loads.get_eq_null (loads : record.Loads names loaded) (member : name ∈ names) :
    record.get name = .null := by
  cases loads with
  | object missing _ _ =>
      have absent := missing name member
      simp [get, absent]

theorem Loads.agreeOutside (loads : record.Loads names loaded) :
    record.AgreeOutside names loaded := by
  cases loads with
  | object missing left kept =>
      refine ⟨.object, rfl, fun name other => ?_⟩
      have same := left name
      simp [get, same, other, kept name other]

/-- Relationships that are loaded without rows make no difference at all. -/
theorem Loads.agree_of_null (loads : record.Loads names loaded)
    (empty : ∀ name ∈ names, loaded.get name = .null) : record.AgreeOutside [] loaded := by
  have agree := loads.agreeOutside
  refine ⟨agree.alike, agree.present, fun name _ => ?_⟩
  by_cases member : name ∈ names
  · rw [empty name member, loads.get_eq_null member]
  · exact agree.kept name member

theorem loads_load {id : Nat} {kind : String} {attributes : List (String × Value)}
    {unloaded : List String} (missing : name ∈ unloaded) (row : Value) :
    (object id kind attributes (some unloaded)).Loads [name]
      (load (object id kind attributes (some unloaded)) name row) := by
  refine .object (List.forall_mem_singleton.mpr missing) (fun other => ?_) fun other apart => ?_
  · simp only [List.mem_filter, List.mem_singleton, decide_eq_true_eq, ne_eq]
  · have differs : (name == other) = false :=
      beq_eq_false_iff_ne.mpr fun same => apart (List.mem_singleton.mpr same.symm)
    simp [lookup, differs]

theorem get_load {id : Nat} {kind : String} {attributes : List (String × Value)}
    {unloaded : List String} (row : Value) :
    (load (object id kind attributes (some unloaded)) name row).get name = row := by
  simp [load, get, lookup]

end Loads

end Value

end RowGuard
