import RowGuard.Proofs.Predicate.Laws

/-! Comparisons turned around, as they are evaluated. Both sides are compared
alike in either direction, values without an order and invalid operations
included. What changes is the side that is read first; where reading the record
cannot fail, that makes no difference either. -/

set_option autoImplicit false

namespace RowGuard

theorem Predicate.result_eval_compare (mode : UnloadedMode) (actor record : Value)
    (comparator : Comparator) (left right : Operand) :
    ((compare comparator left right).eval mode actor record).result =
      (left.eval mode actor record).result >>= fun a =>
        (right.eval mode actor record).result >>= fun b => comparator.truth a b := by
  simp only [eval, Traced.result_bind]
  rfl

/-- Unless reading an unloaded relationship is a failure, putting the record's side of a comparison
on the left leaves its truth as it is, whatever the comparator, the operands and the values they
read. What has no meaning is refused alike. -/
theorem orienting_keeps_truth {mode : UnloadedMode} (loaded : mode ≠ .fail)
    (comparator : Comparator) (left right : Operand) (actor record : Value) :
    ((Predicate.oriented comparator left right).eval mode actor record).result =
      ((Predicate.compare comparator left right).eval mode actor record).result := by
  rw [Predicate.oriented]
  split
  · rfl
  · next turned =>
      simp only [Bool.or_eq_true, Bool.not_eq_true', not_or, Bool.not_eq_false] at turned
      cases flips : comparator.flipped? with
      | none => rfl
      | some flipped =>
          cases right with
          | actor _ _ | value _ | values _ | foreign _ => cases turned.2
          | record path =>
              -- The record's side is always read, so only the other one can fail.
              have read : ((Operand.record path).eval mode actor record).result =
                  .ok (record.read path) := Value.result_follow loaded record path
              simp only [Predicate.result_eval_compare, Comparator.truth_flipped flips, read]
              rfl

/-- The first unequal items of these lists have no order, so neither list is at most the other. -/
theorem orienting_keeps_truth_mixedLists :
    let actor : Value := .mapping [("limits", .list [.int 1, .text "a"])]
    let record : Value := .mapping [("marks", .list [.bool true, .int 2])]
    let limits : Operand := .actor ["limits"] "current_limits"
    let marks : Operand := .record ["marks"]
    UnloadedMode.warn ≠ .fail ∧
      Predicate.oriented .le limits marks = .compare .ge marks limits ∧
      ((Predicate.oriented .le limits marks).eval .warn actor record).result = .ok .no ∧
      ((Predicate.compare .le limits marks).eval .warn actor record).result = .ok .no := by
  intro actor record limits marks
  have loaded : UnloadedMode.warn ≠ .fail := nofun
  have unordered : ((Predicate.compare .le limits marks).eval .warn actor record).result =
      .ok .no := rfl
  have same := orienting_keeps_truth loaded .le limits marks actor record
  exact ⟨loaded, rfl, same.trans unordered, unordered⟩

end RowGuard
