import RowGuard.Proofs.RowFilter.Lowering

/-! Why lowering fails. Names are resolved before it, so it never fails by one
that is not in the schema. -/

set_option autoImplicit false

namespace RowGuard

/-- Whether an error is no unresolved name. -/
def CompileError.Resolved (error : CompileError) : Prop :=
  ∀ unresolved, error ≠ .schema unresolved

open CompileError (Resolved)

namespace Compilation

variable {α : Type}

theorem failsAs_ofExcept (outcome : Except Unsupported α) :
    (ofExcept outcome).FailsAs Resolved := by
  cases outcome with
  | ok value => exact Traced.failsAs_pure value
  | error what => exact Traced.failsAs_fail fun _ => nofun

theorem failsAs_ofEvaluation (evaluation : Evaluation α) :
    (ofEvaluation evaluation).FailsAs Resolved := by
  rw [ofEvaluation]
  cases evaluation.result with
  | ok value => exact Traced.failsAs_pure value
  | error error =>
      refine Traced.failsAs_fail fun _ same => ?_
      cases error <;> cases same

end Compilation

namespace RowFilter

open Compilation (failsAs_ofExcept failsAs_ofEvaluation)

variable {scope : Scope}

theorem failsAs_inexpressible (p : Predicate) : (inexpressible scope p).FailsAs Resolved :=
  .bind (failsAs_ofExcept _) fun _ => .bind (Traced.failsAs_note _) fun _ => Traced.failsAs_pure _

theorem failsAs_noteSplit (p : Predicate) (message : String) :
    (noteSplit scope p message).FailsAs Resolved :=
  .bind (failsAs_ofExcept _) fun _ => Traced.failsAs_note _

theorem failsAs_atPath (leaf : String → RowFilter) (path : List String) :
    (atPath leaf path).FailsAs Resolved := by
  fun_induction atPath leaf path with
  | case1 => exact Traced.failsAs_fail fun _ => nofun
  | case2 field => exact Traced.failsAs_pure _
  | case3 relation path _ ih => exact .bind ih fun _ => Traced.failsAs_pure _

theorem failsAs_nullAt (path : List String) : (nullAt path).FailsAs Resolved := by
  fun_induction nullAt path with
  | case1 => exact Traced.failsAs_fail fun _ => nofun
  | case2 field => exact Traced.failsAs_pure _
  | case3 relation path _ ih => exact .bind ih fun _ => Traced.failsAs_pure _

theorem failsAs_fieldTest {p : Predicate} {run : Compilation RowFilter}
    (test : FieldTest scope p run) : run.FailsAs Resolved := by
  cases test with
  | compare _ | member _ => exact failsAs_atPath _ _
  | isNull => exact .bind (failsAs_nullAt _) fun _ => Traced.failsAs_pure _
  | inexpressible => exact failsAs_inexpressible _

theorem failsAs_settled {p : Predicate} {run : Compilation RowFilter}
    (settled : settled? scope p = some run) : run.FailsAs Resolved := by
  unfold settled? at settled
  split at settled
  · cases settled
    exact Traced.failsAs_pure _
  · split at settled
    · cases settled
    · cases settled
      exact .bind (failsAs_ofEvaluation _) fun _ => Traced.failsAs_pure _

theorem failsAs_lowerCompare (comparator : Comparator) (left right : Operand) :
    (lowerCompare scope comparator left right).FailsAs Resolved := by
  rw [lowerCompare]
  cases settled : settled? scope (.compare comparator left right) with
  | some run => exact failsAs_settled settled
  | none => exact failsAs_fieldTest (fieldTest_ofCompare _ _)

theorem failsAs_splitAny (p : Predicate) (parts : List RowFilter) :
    (splitAny scope p parts).FailsAs Resolved := by
  unfold splitAny
  split
  · exact Traced.failsAs_pure _
  · exact Traced.failsAs_pure _
  · exact .bind (failsAs_noteSplit _ _) fun _ => Traced.failsAs_pure _

theorem failsAs_splitAll (top : Bool) (parts : List RowFilter) :
    (splitAll scope top parts).FailsAs Resolved := by
  unfold splitAll
  split
  · exact Traced.failsAs_pure _
  · exact Traced.failsAs_pure _
  · split
    · exact .bind (Traced.failsAs_noteAll _) fun _ =>
        .bind (failsAs_noteSplit _ _) fun _ => Traced.failsAs_pure _
    · exact .bind (failsAs_noteSplit _ _) fun _ => Traced.failsAs_pure _

theorem failsAs_unmatched (key : Predicate) (matched : RowFilter) :
    (unmatched key matched).FailsAs Resolved := by
  unfold unmatched
  split
  · exact .bind (failsAs_nullAt _) fun _ => Traced.failsAs_pure _
  · exact Traced.failsAs_pure _

mutual

theorem failsAs_lower (top : Bool) (p : Predicate) : (lower scope top p).FailsAs Resolved := by
  unfold lower
  cases settled : settled? scope p with
  | some run => exact failsAs_settled settled
  | none =>
      cases p with
      | const _ => exact Traced.failsAs_pure _
      | all operands => exact .bind (failsAs_lowerAll top operands) fun _ => failsAs_splitAll _ _
      | any operands => exact .bind (failsAs_lowerAll false operands) fun _ => failsAs_splitAny _ _
      | not operand =>
          refine .bind (failsAs_lower false operand) fun f => ?_
          cases f <;> exact Traced.failsAs_pure _
      | compare comparator left right => exact failsAs_lowerCompare comparator left right
      | member operand values negated => exact failsAs_fieldTest (fieldTest_ofMember _ _ _ _)
      | isNull operand negated => exact failsAs_fieldTest (fieldTest_ofNull _ _ _)
      | anyRelated _ condition _ =>
          exact .bind (failsAs_lower false condition) fun _ => Traced.failsAs_pure _
      | select subject branches otherwise =>
          dsimp only
          split
          · exact .bind (failsAs_lower false otherwise) fun _ =>
              .bind (failsAs_chainSelect subject _ branches) fun _ =>
              .bind (failsAs_noteSplit _ _) fun _ => Traced.failsAs_pure _
          · exact .bind (failsAs_armsOfSelect subject [] branches) fun _ =>
              .bind (failsAs_lower false otherwise) fun _ => Traced.failsAs_pure _
      | firstOf branches otherwise =>
          dsimp only
          split
          · exact .bind (failsAs_lower false otherwise) fun _ =>
              .bind (failsAs_chainFirst _ branches) fun _ =>
              .bind (failsAs_noteSplit _ _) fun _ => Traced.failsAs_pure _
          · exact .bind (failsAs_armsOfFirst [] branches) fun _ =>
              .bind (failsAs_lower false otherwise) fun _ => Traced.failsAs_pure _
      | role condition => exact failsAs_lower top condition
      | unresolved _ => exact Traced.failsAs_pure _
      | foreign _ => exact Traced.failsAs_fail fun _ => nofun
termination_by structural p

theorem failsAs_lowerAll (top : Bool) (ps : List Predicate) :
    (lowerAll scope top ps).FailsAs Resolved := by
  cases ps with
  | nil => exact Traced.failsAs_pure _
  | cons p ps =>
      exact .bind (failsAs_lower top p) fun _ =>
        .bind (failsAs_lowerAll top ps) fun _ => Traced.failsAs_pure _
termination_by structural ps

theorem failsAs_chainSelect (subject : Operand) (last : RowFilter)
    (branches : List (Operand × Predicate)) :
    (chainSelect scope subject last branches).FailsAs Resolved := by
  cases branches with
  | nil => exact Traced.failsAs_pure _
  | cons branch rest =>
      obtain ⟨key, outcome⟩ := branch
      exact .bind (failsAs_chainSelect subject last rest) fun _ =>
        .bind (failsAs_lower false outcome) fun _ => Traced.failsAs_pure _
termination_by structural branches

theorem failsAs_chainFirst (last : RowFilter) (branches : List (Predicate × Predicate)) :
    (chainFirst scope last branches).FailsAs Resolved := by
  cases branches with
  | nil => exact Traced.failsAs_pure _
  | cons branch rest =>
      obtain ⟨key, outcome⟩ := branch
      exact .bind (failsAs_chainFirst last rest) fun _ =>
        .bind (failsAs_lower false outcome) fun _ => Traced.failsAs_pure _
termination_by structural branches

theorem failsAs_armsOfSelect (subject : Operand) (excluded : List RowFilter)
    (branches : List (Operand × Predicate)) :
    (armsOfSelect scope subject excluded branches).FailsAs Resolved := by
  cases branches with
  | nil => exact Traced.failsAs_pure _
  | cons branch rest =>
      obtain ⟨key, outcome⟩ := branch
      exact .bind (failsAs_lowerCompare .eq subject key) fun _ =>
        .bind (failsAs_lower false outcome) fun _ =>
        .bind (failsAs_unmatched _ _) fun _ =>
        .bind (failsAs_armsOfSelect subject _ rest) fun _ => Traced.failsAs_pure _
termination_by structural branches

theorem failsAs_armsOfFirst (excluded : List RowFilter)
    (branches : List (Predicate × Predicate)) :
    (armsOfFirst scope excluded branches).FailsAs Resolved := by
  cases branches with
  | nil => exact Traced.failsAs_pure _
  | cons branch rest =>
      obtain ⟨key, outcome⟩ := branch
      exact .bind (failsAs_lower false key) fun _ =>
        .bind (failsAs_lower false outcome) fun _ =>
        .bind (failsAs_unmatched _ _) fun _ =>
        .bind (failsAs_armsOfFirst _ rest) fun _ => Traced.failsAs_pure _
termination_by structural branches

end

end RowFilter

/-- Where the predicate compiles, the row filter does not fail by an unresolved name. -/
theorem Scope.failsAs_rowAccess {scope : Scope} {e : Expr} {p : Predicate}
    (compiled : (Predicate.compile scope e).result = .ok p) :
    (scope.rowAccess e).FailsAs Resolved := by
  intro error failed
  rw [rowAccess, Traced.result_bind_of_ok compiled] at failed
  cases lowered : (RowFilter.lower scope true p).result with
  | ok f => rw [lowered] at failed; cases failed
  | error _ =>
      rw [lowered] at failed
      cases failed
      exact RowFilter.failsAs_lower true p _ lowered

end RowGuard
