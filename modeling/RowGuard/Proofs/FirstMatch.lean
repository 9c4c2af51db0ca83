import RowGuard.Proofs.Agreement
import RowGuard.Proofs.Predicate.Stalling

/-! Policies by cases. The record check takes the first branch whose condition
holds, whatever the conditions before it are. A row filter lets a row through to
that branch only if the row is left over by every branch before it, which misses
some of the rows for which a condition is unknown. -/

set_option autoImplicit false

namespace RowGuard

/-- A policy that negates no choice loses a row only where it gets stuck. If access is granted and
the row gets stuck in no choice, then it passes. Where the policy is a choice, and the row does not
get stuck inside its branches, a row of a record that access is granted to passes if and only if it
does not get stuck between the branches. Both forms answer, unless an undefined number ends one of
them before. -/
theorem passes_of_grants_of_flows {scope : Scope} {text entity : String} {e : Expr}
    {access : RowAccess} (parsed : Expr.parse text entity = .ok e)
    (built : (scope.rowAccess e).result = .ok access)
    (silent : ∀ d ∈ access.diagnostics, d.category ≠ .unresolvedConstruct) (upright : e.Upright)
    (mode : UnloadedMode) (actor record : Value) :
    ∃ check, (scope.recordCheck e).result = .ok check ∧
      (mode ≠ .fail → ∃ granted passed,
        scope.Settles e access mode actor record check granted passed) ∧
      ∀ granted passed, scope.Answers e access mode actor record check granted passed →
        (check.condition.Flows actor record → granted = true → passed = true) ∧
        ∀ branches otherwise, check.condition.Choice branches otherwise →
          check.condition.readsRecord → check.condition.Sighted actor record →
          (∀ branch ∈ branches, branch.1.Flows actor record ∧ branch.2.Flows actor record) →
          otherwise.Flows actor record → granted = true →
          (passed = true ↔ ¬Predicate.Stalls actor record branches) := by
  obtain ⟨check, compiles⟩ := Scope.compiles_of_means
    (RowFilter.invariant_means fun _ compiled => compiled.result_grants_null _) parsed built silent
  obtain ⟨events, compile, _⟩ := compiles.compile
  have straight := ((Predicate.invariant_straight scope).ofCompile e compile).2 upright
  have settles {mode : UnloadedMode} (loaded : mode ≠ .fail) :=
    compiles.settles loaded actor record
  refine ⟨check, (settles (by decide : UnloadedMode.deny ≠ .fail)).checked,
    fun loaded => ⟨_, _, settles loaded⟩, ?_⟩
  intro granted passed answers
  obtain ⟨rfl, rfl⟩ := compiles.eq_of_answers answers
  simp only [Truth.holds_iff]
  constructor
  · exact straight.rowTruth_of_truth compiles.compiled
  · intro branches otherwise choice reads sighted inside behind
    exact choice.rowTruth_iff_not_stalls reads straight compiles.compiled sighted inside behind

/-! ## Posts by status -/

/-- The policy that hides drafts, by the value of a column. -/
def Expr.unlessDraft : Expr :=
  .choice (some (.column "status" none))
    [(.literal ⟨.text, .text "draft"⟩, .literal ⟨.boolean, .bool Bool.false⟩)]
    (some (.literal ⟨.boolean, .bool Bool.true⟩))

def Predicate.unlessDraft : Predicate :=
  .select (.record ["status"]) [(.value (.text "draft"), .const (.bool Bool.false))]
    (.const (.bool Bool.true))

theorem Predicate.flows_unlessDraft : unlessDraft.Flows .null (.mapping [("status", .null)]) := by
  apply Choice.select.flows
  · apply not_stalls_of_known
    · exact List.forall_mem_singleton.mpr (.test rfl)
    · exact List.forall_mem_singleton.mpr (.compare rfl rfl rfl rfl)
    · exact List.forall_mem_singleton.mpr fun _ => by with_unfolding_all rfl
  · refine List.forall_mem_singleton.mpr ⟨Plain.flows ?_ _ _, Plain.const.flows _ _⟩
    exact .test rfl
  · exact Plain.const.flows _ _

/-- A post without a status is no draft for the record check, and for the row filter neither. -/
theorem passes_of_grants_of_flows_unlessDraft :
    Expr.parse "CASE status WHEN 'draft' THEN false ELSE true END" "Post" = .ok .unlessDraft ∧
      Expr.unlessDraft.Upright ∧
      ∃ access, (Scope.blog.rowAccess .unlessDraft).result = .ok access ∧
        (∀ d ∈ access.diagnostics, d.category ≠ .unresolvedConstruct) ∧
        ∃ check, check.condition.Flows .null (.mapping [("status", .null)]) ∧
          Scope.blog.Answers .unlessDraft access .deny .null (.mapping [("status", .null)]) check
            true true := by
  have parsed : Expr.parse "CASE status WHEN 'draft' THEN false ELSE true END" "Post" =
      .ok .unlessDraft := by
    with_unfolding_all rfl
  have upright : Expr.unlessDraft.Upright := Expr.upright_of_unnegated (by decide)
  obtain ⟨access, built, silent⟩ : ∃ access,
      (Scope.blog.rowAccess .unlessDraft).result = .ok access ∧
        ∀ d ∈ access.diagnostics, d.category ≠ .unresolvedConstruct :=
    ⟨_, by with_unfolding_all rfl, by decide +kernel⟩
  obtain ⟨check, checked, settles, sound⟩ := passes_of_grants_of_flows parsed built silent upright
    .deny .null (.mapping [("status", .null)])
  obtain ⟨granted, passed, settled⟩ := settles (by decide)
  have answered := settled.answers rfl rfl
  have condition : (Scope.blog.recordCheck .unlessDraft).result = .ok ⟨.unlessDraft, []⟩ := by
    with_unfolding_all rfl
  cases checked.symm.trans condition
  have grants : (Predicate.unlessDraft.grants .deny (.mapping [("status", .null)]) .null).result =
      .ok true := by
    with_unfolding_all rfl
  cases answered.grants.symm.trans grants
  obtain rfl := (sound true passed answered).1 Predicate.flows_unlessDraft rfl
  exact ⟨parsed, upright, access, built, silent, _, Predicate.flows_unlessDraft, answered⟩

/-- The policy that hides drafts, by a list of values. -/
def Expr.unlessListed : Expr :=
  .choice none
    [(.condition (.member Bool.false) (.column "status" none)
        (.array [.literal ⟨.text, .text "draft"⟩]),
      .literal ⟨.boolean, .bool Bool.false⟩)]
    (some (.literal ⟨.boolean, .bool Bool.true⟩))

/-- A post without a status is in no list for the record check, and gets stuck at the list for the
row filter: whether it is in the list is unknown, and so is the negation. -/
theorem unlessListed_lost :
    Expr.parse "CASE WHEN status IN ('draft') THEN false ELSE true END" "Post" =
        .ok .unlessListed ∧
      Expr.unlessListed.Upright ∧
      ∃ access check, (Scope.blog.rowAccess .unlessListed).result = .ok access ∧
        access.diagnostics = [] ∧ Scope.blog.config.onUnloaded = .deny ∧
        Scope.blog.Answers .unlessListed access .deny .null (.mapping [("status", .null)]) check
          true false := by
  refine ⟨by with_unfolding_all rfl, Expr.upright_of_unnegated (by decide), _, _,
    by with_unfolding_all rfl, by with_unfolding_all rfl, rfl,
    ⟨by with_unfolding_all rfl, by with_unfolding_all rfl, _, by with_unfolding_all rfl,
      by with_unfolding_all rfl⟩⟩

end RowGuard
