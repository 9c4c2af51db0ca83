import RowGuard.Proofs.Agreement
import RowGuard.Proofs.RowFilter.Findings

/-! Nothing is left silently. Every stand-in in either form of a policy has a
finding in the same result, and so has every field of the actor that was only
guessed. A result without findings about constructs has no stand-ins. -/

set_option autoImplicit false

namespace RowGuard

variable {scope : Scope} {e : Expr}

theorem Unresolved.not_reportedBy {findings : List Diagnostic}
    (silent : ∀ d ∈ findings, d.category ≠ .unresolvedConstruct) (construct : Unresolved) :
    ¬construct.ReportedBy findings := by
  rintro ⟨d, found, about, _⟩
  exact silent d found about

theorem Scope.recordCheck_told {check : RecordCheck}
    (checked : (scope.recordCheck e).result = .ok check) :
    check.condition.Everywhere (Predicate.ReportedBy scope check.diagnostics) := by
  have run := Traced.eq_ok_of_result (compile_of_recordCheck checked)
  have told := (Predicate.invariant_told scope).ofCompile e run
  have same := Except.ok.inj ((result_recordCheck run).symm.trans checked)
  rw [← congrArg RecordCheck.diagnostics same]
  exact told

theorem Scope.rowAccess_told {access : RowAccess}
    (built : (scope.rowAccess e).result = .ok access) :
    access.filter.Everywhere (RowFilter.Leaves (Unresolved.ReportedBy access.diagnostics)) := by
  obtain ⟨p, f, before, after, first, second, rfl⟩ := rowAccess_eq_ok built
  have told := ((Predicate.invariant_told scope).ofCompile e first).mono
    (List.subset_append_left before after)
  have leaves := told.imp fun _ => Predicate.ReportedBy.leaves
  -- Lowering adds negations and findings of its own, and both are among those of the result.
  refine (RowFilter.invariant_keepsLeaves scope _).ofLower true p second leaves ⟨?_, ?_⟩
  · exact fun _ => Unresolved.ReportedBy.negate
  · intro construct _ reports
    exact Unresolved.reportedBy_of_reports (reports.mono (List.subset_append_right _ _))

/-- Both forms of a policy report every stand-in that they have, and the record check every guess
about the actor. -/
theorem reported_of_compiles (scope : Scope) (e : Expr) :
    (∀ check, (scope.recordCheck e).result = .ok check →
      check.condition.Everywhere (Predicate.ReportedBy scope check.diagnostics) ∧
      ((∀ d ∈ check.diagnostics, d.category ≠ .unresolvedConstruct) →
        check.condition.Everywhere (Predicate.Leaves fun _ => False))) ∧
    ∀ access, (scope.rowAccess e).result = .ok access →
      access.filter.Everywhere (RowFilter.Leaves (Unresolved.ReportedBy access.diagnostics)) ∧
      ((∀ d ∈ access.diagnostics, d.category ≠ .unresolvedConstruct) →
        access.filter.Everywhere RowFilter.Meaningful) := by
  constructor
  · intro check checked
    have told := Scope.recordCheck_told checked
    refine ⟨told, fun silent => told.imp fun node reported construct same => ?_⟩
    exact construct.not_reportedBy silent (reported.leaves construct same)
  · intro access built
    have told := Scope.rowAccess_told built
    refine ⟨told, fun silent => told.imp fun node leaves construct same => ?_⟩
    exact construct.not_reportedBy silent (leaves construct same)

/-- The policy that a post is no draft, by a test without a meaning of its own, and is owned by the
reviewer, who is guessed. -/
def Expr.reviewedPosts : Expr :=
  .all
    [.not (.condition (.compare .eq) (.call "lower" [.column "status" none])
      (.literal ⟨.text, .text "draft"⟩)),
     .condition (.compare .eq) (.column "name" (some "owner")) (.call "reviewer" [])]

theorem reported_of_compiles_reviewedPosts :
    ∃ check access, (Scope.blog.recordCheck .reviewedPosts).result = .ok check ∧
      (Scope.blog.rowAccess .reviewedPosts).result = .ok access ∧
      check.condition = .all
        [.unresolved ⟨"comparison", "NOT lower(status) = 'draft'", .bool true, none⟩,
         .compare .eq (.record ["owner", "name"]) (.actor ["reviewer"] "reviewer")] ∧
      check.condition.Everywhere (Predicate.ReportedBy .blog check.diagnostics) ∧
      access.filter.Everywhere (RowFilter.Leaves (Unresolved.ReportedBy access.diagnostics)) ∧
      check.diagnostics.map (·.category) = [.unresolvedConstruct, .lowConfidenceMapping] := by
  obtain ⟨check, checked, condition, findings⟩ : ∃ check,
      (Scope.blog.recordCheck .reviewedPosts).result = .ok check ∧
        check.condition = .all
          [.unresolved ⟨"comparison", "NOT lower(status) = 'draft'", .bool true, none⟩,
           .compare .eq (.record ["owner", "name"]) (.actor ["reviewer"] "reviewer")] ∧
        check.diagnostics.map (·.category) = [.unresolvedConstruct, .lowConfidenceMapping] :=
    ⟨_, by with_unfolding_all rfl, by with_unfolding_all rfl, by decide +kernel⟩
  obtain ⟨access, built⟩ : ∃ access, (Scope.blog.rowAccess .reviewedPosts).result = .ok access :=
    ⟨_, by with_unfolding_all rfl⟩
  obtain ⟨ofCheck, ofAccess⟩ := reported_of_compiles .blog .reviewedPosts
  exact ⟨check, access, checked, built, condition, (ofCheck check checked).1,
    (ofAccess access built).1, findings⟩

end RowGuard
