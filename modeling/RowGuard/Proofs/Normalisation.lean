import RowGuard.Proofs.Agreement
import RowGuard.Proofs.RowFilter.Normal

/-! The normal form of row filters, from the text of a policy to the filter for
an actor. -/

set_option autoImplicit false

namespace RowGuard

theorem Scope.Builds.lowers_normal {scope : Scope} {e : Expr} {access : RowAccess} {p : Predicate}
    {events : List Compilation.Event} (builds : scope.Builds e access p events) :
    RowFilter.Lowers (RowFilter.Everywhere fun node => node.isNormal ∧ node.isRowwise) p
      access.filter events := by
  obtain ⟨before, compile⟩ := builds.compile
  have fits := (Predicate.invariant_fits scope.laidOut_free).ofCompile e compile
  exact (RowFilter.stable_normal.invariant scope).ofLower true p builds.lower () builds.compiled fits

theorem RowFilter.Lands.normal {p : Predicate} {f : RowFilter}
    (lands : Lands (Everywhere fun node => node.isNormal ∧ node.isRowwise) p f) :
    f.Everywhere (fun node => node.isNormal) ∧
      ∀ child ∈ f.children, child.Everywhere fun node => node.isRowwise := by
  cases lands with
  | role _ isRole => exact ⟨everywhere_of_leaf rfl isRole, by simp [children]⟩
  | rows rows =>
      refine ⟨rows.imp fun _ => And.left, ?_⟩
      intro child member
      exact (rows.children child member).imp fun _ => And.right

/-- The row filter of a policy is in normal form, a role condition stands at most in the place of the
whole filter, and its role checks are conditions on the actor alone. The filter for an actor is in
normal form too and does not depend on the actor any more; there is one unless the actor holds an
undefined number that a comparison meets. -/
theorem isNormal_of_rowAccess {scope : Scope} {text entity : String} {e : Expr} {access : RowAccess}
    (parsed : Expr.parse text entity = .ok e) (built : (scope.rowAccess e).result = .ok access) :
    access.filter.Everywhere (fun node => node.isNormal) ∧
      (∀ child ∈ access.filter.children, child.Everywhere fun node => node.isRowwise) ∧
      (∀ check ∈ access.roleChecks, check.isRoleOnly) ∧
      ∀ mode actor,
        (mode ≠ .fail → ∃ rows, (access.forActor mode actor).Yields actor.isDefined rows) ∧
        ∀ rows, (access.forActor mode actor).result = .ok rows →
          rows.Everywhere fun node => node.isNormal ∧ node.isSettled := by
  obtain ⟨p, events, builds⟩ := Scope.builds_of_rowAccess (Expr.grammar_known.ofParse parsed) built
  have lowers := builds.lowers_normal
  have normal := lowers.lands.normal
  refine ⟨normal.1, normal.2, builds.checks ▸ lowers.checks, ?_⟩
  intro mode actor
  constructor
  · intro loaded
    exact ⟨_, builds.yields_forActor loaded actor⟩
  · intro rows bound
    rw [builds.eq_of_forActor bound]
    exact RowFilter.everywhere_normal_boundChecked normal.1 actor access.roleChecks

/-- A policy with a role check in front of a choice by a column. -/
def Expr.editedPosts : Expr :=
  .all
    [.condition (.compare .eq) (.call "current_role" []) (.literal ⟨.text, .text "editor"⟩),
     .choice none
      [(.condition (.compare .eq) (.column "status" none) (.literal ⟨.text, .text "draft"⟩),
        .condition (.compare .eq) (.column "name" (some "owner")) (.literal ⟨.text, .text "ann"⟩))]
      (some (.literal ⟨.boolean, .bool Bool.true⟩))]

theorem isNormal_of_rowAccess_editedPosts :
    Expr.parse
        "current_role() = 'editor' AND CASE WHEN status = 'draft' THEN owner.name = 'ann' ELSE true END"
        "Post" = .ok .editedPosts ∧
      ∃ access, (Scope.blog.rowAccess .editedPosts).result = .ok access ∧
        access.roleChecks.length = 1 ∧ (∀ check ∈ access.roleChecks, check.isRoleOnly) ∧
        ∃ rows, (access.forActor .deny (.mapping [("role", .text "editor")])).result = .ok rows ∧
          rows.Everywhere fun node => node.isNormal ∧ node.isSettled := by
  have parsed : Expr.parse
      "current_role() = 'editor' AND CASE WHEN status = 'draft' THEN owner.name = 'ann' ELSE true END"
      "Post" = .ok .editedPosts := by
    with_unfolding_all rfl
  obtain ⟨access, built, checks⟩ : ∃ access,
      (Scope.blog.rowAccess .editedPosts).result = .ok access ∧ access.roleChecks.length = 1 :=
    ⟨_, by with_unfolding_all rfl, by with_unfolding_all rfl⟩
  obtain ⟨_, _, roleOnly, forActor⟩ := isNormal_of_rowAccess parsed built
  obtain ⟨binds, settled⟩ := forActor .deny (.mapping [("role", .text "editor")])
  obtain ⟨rows, yields⟩ := binds (by decide)
  have bound := yields.result_eq rfl
  exact ⟨parsed, access, built, checks, roleOnly, rows, bound, settled rows bound⟩

end RowGuard
