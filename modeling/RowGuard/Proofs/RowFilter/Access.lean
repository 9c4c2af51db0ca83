import RowGuard.Proofs.Predicate.Compilation
import RowGuard.Proofs.RowFilter.Meaning
import RowGuard.Proofs.Strictness

/-! The two forms of a policy. Where its compilation reports nothing, the record
check answers by the truth of the compiled predicate, and the row filter, bound
to an actor, answers by its row truth, unless a comparison with an undefined
number ends one of them. Whatever it reports, binding gives the filter for the
actor, or it stops at a relationship that is not loaded or at such a number. -/

set_option autoImplicit false

namespace RowGuard

variable {scope : Scope} {e : Expr}

theorem Scope.rowAccess_eq_ok {access : RowAccess}
    (built : (scope.rowAccess e).result = .ok access) :
    ∃ p f before after, Predicate.compile scope e = ⟨.ok p, before⟩ ∧
      RowFilter.lower scope true p = ⟨.ok f, after⟩ ∧
      access = ⟨f, Compilation.diagnostics (before ++ after),
        Compilation.roleChecks (before ++ after)⟩ := by
  rw [rowAccess] at built
  generalize run : (do RowFilter.lower scope true (← Predicate.compile scope e)) = compiled at built
  obtain ⟨result, events⟩ := compiled
  cases result with
  | error error => cases built
  | ok f =>
      cases built
      obtain ⟨p, before, after, first, second, rfl⟩ := Traced.bind_eq_ok_iff.mp run
      exact ⟨p, f, before, after, first, second, rfl⟩

/-- What the two forms of a policy answer on one record: the record check grants access or not, and
the record passes the row filter for the actor or not. -/
structure Scope.Answers (scope : Scope) (e : Expr) (access : RowAccess) (mode : UnloadedMode)
    (actor record : Value) (check : RecordCheck) (granted passed : Bool) : Prop where
  checked : (scope.recordCheck e).result = .ok check
  grants : (check.condition.grants mode record actor).result = .ok granted
  passes : ∃ bound, (access.forActor mode actor).result = .ok bound ∧
    (bound.passes mode record .null).result = .ok passed

/-- The same up to comparisons with undefined numbers, which may end either form where the actor or
the record holds one. -/
structure Scope.Settles (scope : Scope) (e : Expr) (access : RowAccess) (mode : UnloadedMode)
    (actor record : Value) (check : RecordCheck) (granted passed : Bool) : Prop where
  checked : (scope.recordCheck e).result = .ok check
  grants : (check.condition.grants mode record actor).Yields (actor.isDefined ∧ record.isDefined)
    granted
  passes : ∃ bound, (access.forActor mode actor).Yields actor.isDefined bound ∧
    (bound.passes mode record .null).Yields (actor.isDefined ∧ record.isDefined) passed

theorem Scope.Settles.answers {access : RowAccess} {mode : UnloadedMode} {actor record : Value}
    {check : RecordCheck} {granted passed : Bool}
    (settles : scope.Settles e access mode actor record check granted passed)
    (actorDefined : actor.isDefined) (recordDefined : record.isDefined) :
    scope.Answers e access mode actor record check granted passed := by
  obtain ⟨bound, binds, passes⟩ := settles.passes
  have defined := And.intro actorDefined recordDefined
  exact ⟨settles.checked, settles.grants.result_eq defined, bound, binds.result_eq actorDefined,
    passes.result_eq defined⟩

/-- A policy that is compiled quietly, to a predicate and then to a row filter. -/
structure Scope.Compiles (scope : Scope) (e : Expr) (access : RowAccess) (check : RecordCheck) :
    Prop where
  compile : ∃ events, Predicate.compile scope e = ⟨.ok check.condition, events⟩ ∧
    Compilation.Quiet events
  lower : ∃ f events, RowFilter.lower scope true check.condition = ⟨.ok f, events⟩ ∧
    Compilation.Quiet events
  compiled : check.condition.Compiled fun _ => False
  settles {mode : UnloadedMode} : mode ≠ .fail → ∀ actor record,
    scope.Settles e access mode actor record check (check.condition.truth actor record).holds
      (check.condition.rowTruth actor record).holds

/-- Unless what is not loaded is a failure, both forms of a quiet policy settle every record. -/
theorem Scope.compiles_of_means {text entity : String} {access : RowAccess}
    (means : RowFilter.Invariant scope RowFilter.Means) (parsed : Expr.parse text entity = .ok e)
    (built : (scope.rowAccess e).result = .ok access)
    (silent : ∀ d ∈ access.diagnostics, d.category ≠ .unresolvedConstruct) :
    ∃ check, scope.Compiles e access check := by
  obtain ⟨p, f, before, after, first, second, rfl⟩ := rowAccess_eq_ok built
  obtain ⟨early, late⟩ :=
    Compilation.quiet_append_iff.mp (Compilation.quiet_iff_diagnostics.mpr silent)
  have compiled := Predicate.compiled_of_parse parsed first (admits_none early)
  have faithful := means.ofLower true p second compiled late
  have checks : Compilation.roleChecks (before ++ after) = Compilation.roleChecks after := by
    rw [Compilation.roleChecks_append, Predicate.roleChecks_of_compile first, List.nil_append]
  refine ⟨⟨p, Compilation.diagnostics before⟩, ⟨_, first, early⟩, ⟨f, _, second, late⟩, compiled,
    fun evaluated actor record =>
      ⟨result_recordCheck first, compiled.yields_grants evaluated actor record, ?_⟩⟩
  rw [checks]
  refine ⟨_, faithful.lowered.compiled.yields_bindChecked evaluated actor faithful.checks, ?_⟩
  have passes := faithful.lowered.compiled.yields_passes_boundChecked evaluated actor .null record
    (Compilation.roleChecks after)
  have checked : (f.checkedTruth actor (Compilation.roleChecks after) record).holds =
      (RowFilter.satisfies actor (Compilation.roleChecks after) &&
        (f.truth actor record).holds) := by
    rw [RowFilter.checkedTruth]
    cases RowFilter.satisfies actor (Compilation.roleChecks after) <;> rfl
  rw [← faithful.truth, checked]
  exact passes

theorem Scope.compiles_of_quiet {text entity : String} {access : RowAccess}
    (parsed : Expr.parse text entity = .ok e) (built : (scope.rowAccess e).result = .ok access)
    (silent : ∀ d ∈ access.diagnostics, d.category ≠ .unresolvedConstruct)
    (loaded : scope.config.onUnloaded ≠ .fail) : ∃ check, scope.Compiles e access check :=
  compiles_of_means (RowFilter.invariant_means fun _ compiled =>
    (compiled.yields_grants loaded .null .null).result_eq ⟨rfl, rfl⟩)
    parsed built silent

/-- However relationships are read that are not loaded, the two forms answer by the two truths, if
they answer. -/
theorem Scope.Compiles.eq_of_answers {access : RowAccess} {check : RecordCheck}
    (compiles : scope.Compiles e access check) {mode : UnloadedMode} {actor record : Value}
    {granted passed : Bool}
    (answers : scope.Answers e access mode actor record check granted passed) :
    granted = (check.condition.truth actor record).holds ∧
      passed = (check.condition.rowTruth actor record).holds := by
  have lenient := compiles.settles (by decide : UnloadedMode.deny ≠ .fail) actor record
  obtain ⟨rows, bound, passes⟩ := lenient.passes
  obtain ⟨other, boundOther, passesOther⟩ := answers.passes
  have grants := (check.condition.endsAs_grants mode record actor).eq_of_ok answers.grants
  have same := (access.filter.endsAs_bindChecked mode actor access.roleChecks).eq_of_ok boundOther
  cases bound.eq_of_ok same
  have passesAs := (rows.endsAs_passes mode record .null).eq_of_ok passesOther
  exact ⟨lenient.grants.eq_of_ok grants, passes.eq_of_ok passesAs⟩

/-! ## Filters for actors -/

/-- A policy that is compiled to a predicate and then to a row filter, whatever it reports. -/
structure Scope.Builds (scope : Scope) (e : Expr) (access : RowAccess) (p : Predicate)
    (events : List Compilation.Event) : Prop where
  compile : ∃ before, Predicate.compile scope e = ⟨.ok p, before⟩
  compiled : p.Compiled fun _ => True
  lower : RowFilter.lower scope true p = ⟨.ok access.filter, events⟩
  checks : access.roleChecks = Compilation.roleChecks events

theorem Scope.builds_of_rowAccess {access : RowAccess}
    (known : e.Everywhere fun node => node.isKnown)
    (built : (scope.rowAccess e).result = .ok access) :
    ∃ p events, scope.Builds e access p events := by
  obtain ⟨p, f, before, after, first, second, rfl⟩ := rowAccess_eq_ok built
  refine ⟨p, after, ⟨before, first⟩, ?_, second, ?_⟩
  · exact (Predicate.invariant_shaped scope _).ofCompile e first known
      ⟨fun _ => id, fun _ _ _ => trivial⟩
  · rw [Compilation.roleChecks_append, Predicate.roleChecks_of_compile first, List.nil_append]

namespace Scope.Builds

variable {access : RowAccess} {p : Predicate} {events : List Compilation.Event}
  {mode : UnloadedMode}

theorem kept (builds : scope.Builds e access p events) :
    RowFilter.Kept (fun _ => True) true p access.filter events :=
  (RowFilter.invariant_keeps scope _).ofLower true p builds.lower builds.compiled
    ⟨fun _ => id, fun _ _ _ => trivial⟩

theorem yields_forActor (builds : scope.Builds e access p events) (loaded : mode ≠ .fail)
    (actor : Value) :
    (access.forActor mode actor).Yields actor.isDefined
      (access.filter.boundChecked actor access.roleChecks) := by
  refine builds.kept.lowered.compiled.yields_bindChecked loaded actor ?_
  rw [builds.checks]
  exact builds.kept.checks

/-- However relationships are read that are not loaded, an actor gets one filter. -/
theorem eq_of_forActor (builds : scope.Builds e access p events) {actor : Value} {rows : RowFilter}
    (bound : (access.forActor mode actor).result = .ok rows) :
    rows = access.filter.boundChecked actor access.roleChecks := by
  have lenient := builds.yields_forActor (by decide : UnloadedMode.deny ≠ .fail) actor
  exact lenient.eq_of_ok
    ((access.filter.endsAs_bindChecked mode actor access.roleChecks).eq_of_ok bound)

theorem known_boundChecked (builds : scope.Builds e access p events) (actor : Value) :
    (access.filter.boundChecked actor access.roleChecks).Everywhere RowFilter.Known := by
  rw [RowFilter.boundChecked]
  split
  · exact (RowFilter.binds_known actor).everywhere_bound builds.kept.lowered.compiled.known
  · exact RowFilter.everywhere_of_leaf rfl trivial

theorem defined_boundChecked (builds : scope.Builds e access p events) {actor : Value}
    (actorDefined : actor.isDefined) (other : Value) :
    (access.filter.boundChecked actor access.roleChecks).Everywhere (RowFilter.Defined other) := by
  rw [RowFilter.boundChecked]
  split
  · exact (RowFilter.binds_defined actor other).everywhere_bound
      (builds.kept.lowered.compiled.defined actorDefined)
  · exact RowFilter.everywhere_of_leaf rfl trivial

end Scope.Builds

end RowGuard
