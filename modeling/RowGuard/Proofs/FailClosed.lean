import RowGuard.Proofs.Agreement
import RowGuard.Proofs.Predicate.Defaults

/-! Denying what has no meaning of its own against allowing it. As long as the
stand-ins of a policy stand under an even number of negations, the record check
that denies them grants no more than the one that allows them. Under an odd
number it is the other way round. -/

set_option autoImplicit false

namespace RowGuard

/-- A policy that compiles with stand-ins that deny compiles with stand-ins that allow, to the same
condition otherwise. -/
theorem Scope.recordCheck_defaulting {scope : Scope} {e : Expr} {closed : RecordCheck}
    (checked : ((scope.defaulting .deny).recordCheck e).result = .ok closed) :
    closed.condition = closed.condition.defaulting false ∧
      ∃ opened, ((scope.defaulting .allow).recordCheck e).result = .ok opened ∧
        opened.condition = closed.condition.defaulting true := by
  have compiled := compile_of_recordCheck checked
  have other (mode : UnresolvedMode) :
      (Predicate.compile (scope.defaulting mode) e).result =
        .ok (closed.condition.defaulting (mode == .allow)) := by
    have run : Predicate.Redefaults mode (Predicate.compile (scope.defaulting .deny) e)
        (Predicate.compile (scope.defaulting mode) e) :=
      Predicate.redefaults_compile e
    rw [Predicate.Redefaults, Traced.Follows, compiled] at run
    exact run
  have same := compiled.symm.trans (other .deny)
  exact ⟨Except.ok.inj same, _, result_recordCheck (Traced.eq_ok_of_result (other .allow)), rfl⟩

/-- Both record checks of a policy answer, if no undefined number ends them. If its stand-ins stand
under an even number of negations, then what is granted with stand-ins that deny is granted with
stand-ins that allow; if they stand under an odd number, then the converse holds. -/
theorem lenient_of_strict {scope : Scope} {e : Expr} {closed : RecordCheck}
    (known : e.Everywhere fun node => node.isKnown)
    (checked : ((scope.defaulting .deny).recordCheck e).result = .ok closed)
    {mode : UnloadedMode} (loaded : mode ≠ .fail) (actor record : Value) :
    ∃ opened strict lenient, ((scope.defaulting .allow).recordCheck e).result = .ok opened ∧
      (closed.condition.grants mode record actor).Yields (actor.isDefined ∧ record.isDefined)
        strict ∧
      (opened.condition.grants mode record actor).Yields (actor.isDefined ∧ record.isDefined)
        lenient ∧
      (closed.condition.Signed true → strict = true → lenient = true) ∧
      (closed.condition.Signed false → lenient = true → strict = true) := by
  obtain ⟨denies, opened, reopened, allows⟩ := Scope.recordCheck_defaulting checked
  have run := Traced.eq_ok_of_result (Scope.compile_of_recordCheck checked)
  have compiled := (Predicate.invariant_shaped (scope.defaulting .deny) fun _ => True).ofCompile e
    run known ⟨fun _ => id, fun _ _ _ => trivial⟩
  have below {sign : Bool} (signed : closed.condition.Signed sign) :=
    Predicate.below_of_signed signed compiled actor record
  have grants (allowed : Bool) :
      ((closed.condition.defaulting allowed).grants mode record actor).Yields
        (actor.isDefined ∧ record.isDefined)
        ((closed.condition.defaulting allowed).truth actor record).holds :=
    (compiled.defaulting allowed).yields_grants loaded actor record
  have strict := grants false
  rw [← denies] at strict
  refine ⟨opened, _, _, reopened, strict, allows.symm ▸ grants true, ?_, ?_⟩
  · intro signed granted
    rw [denies, Truth.holds_iff] at granted
    rw [allows, Truth.holds_iff]
    exact (below signed).yes granted
  · intro signed granted
    rw [allows, Truth.holds_iff] at granted
    rw [denies, Truth.holds_iff]
    exact (below signed).yes granted

/-! ## Tests without a meaning -/

/-- The policy that a post is open, or is a draft by a test that has no meaning of its own. -/
def Expr.openOrDraft : Expr :=
  .any
    [.condition (.compare .eq) (.column "status" none) (.literal ⟨.text, .text "open"⟩),
     .condition (.compare .eq) (.call "lower" [.column "status" none])
      (.literal ⟨.text, .text "draft"⟩)]

theorem lenient_of_strict_openOrDraft :
    (Expr.openOrDraft.Everywhere fun node => node.isKnown) ∧
      ∃ closed, ((Scope.blog.defaulting .deny).recordCheck .openOrDraft).result = .ok closed ∧
        closed.condition.Signed true ∧
        ∃ opened, ((Scope.blog.defaulting .allow).recordCheck .openOrDraft).result = .ok opened ∧
          (closed.condition.grants .deny (.mapping [("status", .text "open")]) .null).result =
            .ok true ∧
          (opened.condition.grants .deny (.mapping [("status", .text "open")]) .null).result =
            .ok true := by
  have parsed : Expr.parse "status = 'open' OR lower(status) = 'draft'" "Post" =
      .ok .openOrDraft := by
    with_unfolding_all rfl
  have known := Expr.grammar_known.ofParse parsed
  obtain ⟨closed, checked, condition, granted⟩ : ∃ closed,
      ((Scope.blog.defaulting .deny).recordCheck .openOrDraft).result = .ok closed ∧
        closed.condition = .any
          [.compare .eq (.record ["status"]) (.value (.text "open")),
           .unresolved ⟨"comparison", "lower(status) = 'draft'", .bool false, none⟩] ∧
        (closed.condition.grants .deny (.mapping [("status", .text "open")]) .null).result =
          .ok true :=
    ⟨_, by with_unfolding_all rfl, by with_unfolding_all rfl, by with_unfolding_all rfl⟩
  have signed : closed.condition.Signed true := by
    rw [condition]
    refine .any (List.forall_mem_cons.mpr ⟨.compare, ?_⟩)
    exact List.forall_mem_singleton.mpr .unresolved
  obtain ⟨opened, strict, lenient, reopened, first, second, widens, _⟩ :=
    lenient_of_strict known checked (by decide : UnloadedMode.deny ≠ .fail) .null
      (.mapping [("status", .text "open")])
  have lenientAnswer := second.result_eq ⟨rfl, rfl⟩
  rw [widens signed (first.eq_of_ok granted).symm] at lenientAnswer
  exact ⟨known, closed, checked, signed, opened, reopened, granted, lenientAnswer⟩

/-- The policy that a post is not a draft by two tests, of which one has no meaning of its own. -/
def Expr.notDraft : Expr :=
  .not (.all
    [.condition (.compare .eq) (.column "status" none) (.literal ⟨.text, .text "draft"⟩),
     .condition (.compare .eq) (.call "lower" [.column "status" none])
      (.literal ⟨.text, .text "draft"⟩)])

/-- A draft is granted where stand-ins deny and denied where they allow: the stand-in under the
negation is false, and the whole true. -/
theorem notDraft_granted_by_denying :
    Expr.parse "NOT (status = 'draft' AND lower(status) = 'draft')" "Post" = .ok .notDraft ∧
      ∃ closed opened,
        ((Scope.blog.defaulting .deny).recordCheck .notDraft).result = .ok closed ∧
        ((Scope.blog.defaulting .allow).recordCheck .notDraft).result = .ok opened ∧
        (closed.condition.grants .deny (.mapping [("status", .text "draft")]) .null).result =
          .ok true ∧
        (opened.condition.grants .deny (.mapping [("status", .text "draft")]) .null).result =
          .ok false := by
  refine ⟨by with_unfolding_all rfl, _, _, by with_unfolding_all rfl, by with_unfolding_all rfl,
    by with_unfolding_all rfl, by with_unfolding_all rfl⟩

end RowGuard
