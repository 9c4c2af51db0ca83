import RowGuard.Proofs.Agreement
import RowGuard.Proofs.RowFilter.Progress

/-! A policy that compiles can be enforced. If the text of a policy has a record
check, then it has a row filter, and both answer on every record and for every
actor that hold no undefined number. The evaluators refuse nothing that the
compilers emit: the ways to stop are a relationship that is not loaded, where the
configuration asks for it, and a comparison with an undefined number. -/

set_option autoImplicit false

namespace RowGuard

variable {scope : Scope} {e : Expr} {check : RecordCheck}

theorem Scope.exists_rowAccess (known : e.Everywhere fun node => node.isKnown)
    (checked : (scope.recordCheck e).result = .ok check) :
    ∃ access, (scope.rowAccess e).result = .ok access := by
  have compile := compile_of_recordCheck checked
  have run := Traced.eq_ok_of_result compile
  have compiled : check.condition.Compiled fun _ => True :=
    (Predicate.invariant_shaped scope _).ofCompile e run known ⟨fun _ => id, fun _ _ _ => trivial⟩
  have fits := (Predicate.invariant_fits scope.laidOut_free).ofCompile e run
  have ends : (RowFilter.lower scope true check.condition).Ends :=
    RowFilter.ends_lower compiled fits true
  obtain ⟨f, lowered⟩ := ends
  rw [rowAccess, Traced.result_bind_of_ok compile, lowered]
  exact ⟨_, rfl⟩

/-- Whether all that a policy is asked about a record ends well: its record check, its row filter as
it stands, the filter for an actor and whether the record passes that. -/
structure Scope.Answered (ending : ∀ {α : Type}, Evaluation α → Prop) (check : RecordCheck)
    (access : RowAccess) (mode : UnloadedMode) (actor record : Value) : Prop where
  grants : ending (check.condition.grants mode record actor)
  passes : ending (access.filter.passes mode record actor)
  forActor : ending (access.forActor mode actor)
  bound : ∀ rows, (access.forActor mode actor).result = .ok rows →
    ∀ other, ending (rows.passes mode record other)

section Answered

variable {access : RowAccess} {events : List Compilation.Event} {mode : UnloadedMode}

/-- How the enforcement of a policy may stop. -/
def Stops (mode : UnloadedMode) (actor record : Value) (error : EvalError) : Prop :=
  mode = .fail ∧ error.IsUnloaded ∨
    error = .invalidOperation ∧ ¬(actor.isDefined ∧ record.isDefined)

theorem not_stops {actor record : Value} (loaded : mode ≠ .fail) (actorDefined : actor.isDefined)
    (recordDefined : record.isDefined) (error : EvalError) : ¬Stops mode actor record error := by
  rintro (⟨fails, _⟩ | ⟨_, undefined⟩)
  · exact loaded fails
  · exact undefined ⟨actorDefined, recordDefined⟩

theorem Scope.Answered.imp {actor record : Value}
    {ending wider : ∀ {α : Type}, Evaluation α → Prop}
    (answered : Scope.Answered ending check access mode actor record)
    (widens : ∀ {α : Type} (run : Evaluation α), ending run → wider run) :
    Scope.Answered wider check access mode actor record where
  grants := widens _ answered.grants
  passes := widens _ answered.passes
  forActor := widens _ answered.forActor
  bound rows bound other := widens _ (answered.bound rows bound other)

theorem Scope.Builds.answered_failsAs (builds : scope.Builds e access check.condition events)
    (mode : UnloadedMode) (actor record : Value) :
    Scope.Answered (Traced.FailsAs (Stops mode actor record)) check access mode actor record := by
  have stops {α : Type} {run lenient : Evaluation α} {allowed : EvalError → Prop} {value : α}
      (ends : run.EndsAs allowed lenient)
      (yields : lenient.Yields (actor.isDefined ∧ record.isDefined) value)
      (unloaded : ∀ error, allowed error → mode = .fail ∧ error.IsUnloaded) :
      Traced.FailsAs (Stops mode actor record) run :=
    (ends.failsAs yields.failsAs).mono fun error => Or.imp_left (unloaded error)
  have lenient : UnloadedMode.deny ≠ .fail := by decide
  have filter := builds.kept.lowered.compiled
  refine ⟨?_, ?_, ?_, ?_⟩
  · exact stops (check.condition.endsAs_grants mode record actor)
      (builds.compiled.yields_grants lenient actor record) fun _ fails => ⟨fails.1, fails.2.2⟩
  · exact stops (access.filter.endsAs_passes mode record actor)
      (filter.yields_passes lenient actor record) fun _ => id
  · exact stops (access.filter.endsAs_bindChecked mode actor access.roleChecks)
      ((builds.yields_forActor lenient actor).mono And.left) fun _ => id
  · intro rows bound other
    rw [builds.eq_of_forActor bound]
    exact stops (RowFilter.endsAs_passes mode _ record other)
      ((builds.known_boundChecked actor).yields_passes lenient
        (fun sound => builds.defined_boundChecked sound.1 other) And.right) fun _ => id

end Answered

/-- A policy with a record check has a row filter. Unless what is not loaded is a failure, both
answer on every record and for every actor that hold no undefined number; a comparison with such a
number is the only other thing that ever stops them. -/
theorem answered_of_recordCheck {text entity : String} (parsed : Expr.parse text entity = .ok e)
    (checked : (scope.recordCheck e).result = .ok check) :
    ∃ access, (scope.rowAccess e).result = .ok access ∧ ∀ mode actor record,
      (mode ≠ .fail → actor.isDefined → record.isDefined →
          Scope.Answered Traced.Ends check access mode actor record) ∧
        Scope.Answered (Traced.FailsAs (Stops mode actor record)) check access mode actor
          record := by
  have known := Expr.grammar_known.ofParse parsed
  obtain ⟨access, built⟩ := Scope.exists_rowAccess known checked
  obtain ⟨p, events, builds⟩ := Scope.builds_of_rowAccess known built
  obtain ⟨before, compile⟩ := builds.compile
  have same := Scope.compile_of_recordCheck checked
  rw [compile] at same
  cases same
  refine ⟨access, built, fun mode actor record => ⟨?_, builds.answered_failsAs mode actor record⟩⟩
  intro loaded actorDefined recordDefined
  exact (builds.answered_failsAs mode actor record).imp fun _ fails =>
    fails.ends (not_stops loaded actorDefined recordDefined)

/-- The policy that a post is owned by who reads it, or ranks below three. -/
def Expr.rankedPosts : Expr :=
  .any
    [.condition (.compare .eq) (.column "name" (some "owner")) (.call "current_role" []),
     .condition (.compare .lt) (.column "status" none) (.literal ⟨.integer, .int 3⟩)]

/-- An actor that is a number has no role, and a status that is a list has no rank. -/
theorem answered_of_recordCheck_rankedPosts :
    Expr.parse "owner.name = current_role() OR status < 3" "Post" = .ok .rankedPosts ∧
      ∃ check access, (Scope.blog.recordCheck .rankedPosts).result = .ok check ∧
        (Scope.blog.rowAccess .rankedPosts).result = .ok access ∧
        Scope.Answered Traced.Ends check access .warn (.int 7)
          (.mapping [("status", .list [.null]), ("owner", .text "ann")]) := by
  have parsed : Expr.parse "owner.name = current_role() OR status < 3" "Post" =
      .ok .rankedPosts := by
    with_unfolding_all rfl
  obtain ⟨check, checked⟩ : ∃ check, (Scope.blog.recordCheck .rankedPosts).result = .ok check :=
    ⟨_, by with_unfolding_all rfl⟩
  obtain ⟨access, built, answered⟩ := answered_of_recordCheck parsed checked
  exact ⟨parsed, check, access, checked, built, (answered _ _ _).1 (by decide) rfl rfl⟩

/-- The policy that what is cheap can be read. -/
def Expr.cheap : Expr :=
  .condition (.compare .lt) (.column "amount" none) (.literal ⟨.integer, .int 5⟩)

/-- An item whose amount is an undefined number stops the record check and the row filter. -/
theorem cheap_unanswered :
    Expr.parse "amount < 5" "Item" = .ok .cheap ∧
      ∃ check access bound, (Scope.priced.recordCheck .cheap).result = .ok check ∧
        (Scope.priced.rowAccess .cheap).result = .ok access ∧
        (access.forActor .deny .null).result = .ok bound ∧
        (check.condition.grants .deny .unpriced .null).result = .error .invalidOperation ∧
        (access.filter.passes .deny .unpriced .null).result = .error .invalidOperation ∧
        (bound.passes .deny .unpriced .null).result = .error .invalidOperation :=
  ⟨by with_unfolding_all rfl, _, _, _, by with_unfolding_all rfl, by with_unfolding_all rfl,
    by with_unfolding_all rfl, by with_unfolding_all rfl, by with_unfolding_all rfl,
    by with_unfolding_all rfl⟩

end RowGuard
