import RowGuard.Proofs.Traced
import RowGuard.RowFilter.Bind

/-! The configurations for relationships that are not loaded, side by side. One
of them fails at such a relationship, one notes the read and goes on with null,
one goes on silently. Connectives, row conditions and choices stop early, so
what is read differs from run to run; but up to the first unloaded relationship
the three runs are the same, and beyond it the last two are. -/

set_option autoImplicit false

namespace RowGuard

/-! ## Warnings as failures -/

namespace Evaluation

variable {α β : Type}

/-- How an evaluation ends if its first warning is a failure. -/
def strict (run : Evaluation α) : Except EvalError α :=
  match run.trace with
  | [] => run.result
  | read :: _ => .error (.unloaded read)

theorem strict_bind (first : Evaluation α) (next : α → Evaluation β) :
    strict (first >>= next) = first.strict >>= fun value => strict (next value) := by
  obtain ⟨result, trace⟩ := first
  change strict (Traced.andThen ⟨result, trace⟩ next) = _
  cases result with
  | error error => cases trace <;> rfl
  | ok value => cases trace <;> rfl

/-- What the runs under the three configurations have in common. In some situations no unloaded
relationship can be met at all. -/
structure Harmonised (possible : Prop) (run : UnloadedMode → Evaluation α) : Prop where
  warned : (run .warn).result = (run .deny).result
  failed : (run .fail).result = (run .warn).strict
  warns : (run .warn).trace ≠ [] → possible

section Harmonised

variable {possible wider : Prop} {run : UnloadedMode → Evaluation α}

theorem Harmonised.mono (harmonised : Harmonised possible run) (wide : possible → wider) :
    Harmonised wider run :=
  ⟨harmonised.warned, harmonised.failed, fun warned => wide (harmonised.warns warned)⟩

theorem harmonised_lift (result : Except EvalError α) :
    Harmonised possible fun _ => (.lift result : Evaluation α) :=
  ⟨rfl, rfl, fun warned => absurd rfl warned⟩

theorem harmonised_pure (value : α) :
    Harmonised possible fun _ => (pure value : Evaluation α) :=
  harmonised_lift (.ok value)

/-- The step of every induction below. -/
theorem Harmonised.bind {next : UnloadedMode → α → Evaluation β}
    (before : Harmonised possible run)
    (after : ∀ value, Harmonised possible fun mode => next mode value) :
    Harmonised possible fun mode => run mode >>= next mode where
  warned := by
    rw [Traced.result_bind, Traced.result_bind, before.warned]
    exact congrArg ((run .deny).result >>= ·) (funext fun value => (after value).warned)
  failed := by
    rw [Traced.result_bind, strict_bind, before.failed]
    exact congrArg ((run .warn).strict >>= ·) (funext fun value => (after value).failed)
  warns := by
    have noted : ((run .warn >>= next .warn).Notes fun _ => possible) := by
      refine Traced.Notes.bind (fun read noted => ?_) fun value read noted => ?_
      · exact before.warns (List.ne_nil_of_mem noted)
      · exact (after value).warns (List.ne_nil_of_mem noted)
    intro warned
    obtain ⟨read, member⟩ := List.exists_mem_of_ne_nil _ warned
    exact noted read member

theorem Harmonised.map (before : Harmonised possible run) (f : α → β) :
    Harmonised possible fun mode => run mode >>= fun value => pure (f value) :=
  before.bind fun value => harmonised_pure (f value)

theorem Harmonised.ite {other : UnloadedMode → Evaluation α} {holds : Prop} [Decidable holds]
    (yes : holds → Harmonised possible run) (no : ¬holds → Harmonised possible other) :
    Harmonised possible fun mode => if holds then run mode else other mode := by
  by_cases held : holds
  · simpa only [if_pos held] using yes held
  · simpa only [if_neg held] using no held

/-- The run that fails at an unloaded relationship ends as the lenient ones do, if it meets none. -/
theorem Harmonised.result_fail (harmonised : Harmonised possible run) :
    (run .fail).result = (run .deny).result ∨
      ∃ read, possible ∧ (run .fail).result = .error (.unloaded read) := by
  cases noted : (run .warn).trace with
  | nil =>
      have silent : (run .warn).strict = (run .warn).result := by rw [strict, noted]
      exact .inl (harmonised.failed.trans (silent.trans harmonised.warned))
  | cons read rest =>
      have stops : (run .warn).strict = .error (.unloaded read) := by rw [strict, noted]
      have possibly : possible := harmonised.warns (noted ▸ List.cons_ne_nil _ _)
      exact .inr ⟨read, possibly, harmonised.failed.trans stops⟩

end Harmonised

end Evaluation

open Evaluation (Harmonised harmonised_pure harmonised_lift)

/-! ## Reading -/

theorem Value.harmonised_member (value : Value) (name : String) :
    Harmonised True fun mode => value.member mode name := by
  cases value with
  | object id kind attributes unloaded =>
      refine .ite (fun _ => ?_) fun _ => harmonised_pure _
      exact ⟨rfl, rfl, fun _ => trivial⟩
  | null | bool _ | int _ | decimal _ | infinite _ | float _ | undefined _ | text _ | list _
  | tuple _ | mapping _ | builtin _ _ _ => exact harmonised_pure _

theorem Value.harmonised_follow (value : Value) (path : List String) :
    Harmonised (value ≠ .null) fun mode => value.follow mode path := by
  have started (there : Value) : Harmonised True fun mode => there.follow mode path := by
    induction path generalizing there with
    | nil => exact harmonised_pure _
    | cons name path ih =>
        refine .ite (fun _ => harmonised_pure _) fun _ => ?_
        exact (there.harmonised_member name).bind ih
  by_cases missing : value = .null
  · subst missing
    cases path with
    | nil => exact harmonised_pure _
    | cons name path => exact harmonised_pure _
  · exact (started value).mono fun _ => missing

section Reading

variable {actor record : Value}

theorem Operand.harmonised_eval (operand : Operand) :
    Harmonised (actor ≠ .null ∨ record ≠ .null) fun mode => operand.eval mode actor record := by
  cases operand with
  | record path => exact (record.harmonised_follow path).mono .inr
  | actor path source => exact (actor.harmonised_follow path).mono .inl
  | value _ | values _ | foreign _ => exact harmonised_lift _

theorem harmonised_someRow {possible : Prop} {test : UnloadedMode → Value → Evaluation Truth}
    (tested : ∀ row, Harmonised possible fun mode => test mode row) (rows : List Value) :
    Harmonised possible fun mode => someRow (test mode) rows := by
  induction rows with
  | nil => exact harmonised_pure _
  | cons row rows ih =>
      exact (tested row).bind fun truth => .ite (fun _ => harmonised_pure _) fun _ => ih

theorem harmonised_rows {relation : String} {test : UnloadedMode → Value → Evaluation Truth}
    (tested : ∀ row, Harmonised (actor ≠ .null ∨ row ≠ .null) fun mode => test mode row) :
    Harmonised (actor ≠ .null ∨ record ≠ .null) fun mode =>
      record.follow mode [relation] >>= fun related =>
        someRow (test mode) (related.items?.getD []) := by
  by_cases missing : record = .null
  · subst missing
    exact harmonised_pure _
  · refine ((record.harmonised_follow [relation]).mono .inr).bind fun related => ?_
    exact harmonised_someRow (fun row => (tested row).mono fun _ => .inr missing) _

end Reading

/-! ## Predicates -/

namespace Predicate

mutual

/-- Evaluation is the same under each configuration up to the first unloaded relationship; there
is none to be met without a record and an actor. -/
theorem harmonised_eval (actor : Value) (p : Predicate) (record : Value) :
    Harmonised (actor ≠ .null ∨ record ≠ .null) fun mode => p.eval mode actor record := by
  cases p with
  | const _ | unresolved _ | foreign _ => exact harmonised_lift _
  | all operands => exact harmonised_evalAll actor operands record
  | any operands => exact harmonised_evalAny actor operands record
  | not operand => exact (harmonised_eval actor operand record).map _
  | compare comparator left right =>
      exact left.harmonised_eval.bind fun _ => right.harmonised_eval.bind fun _ => harmonised_lift _
  | member operand values negated =>
      refine operand.harmonised_eval.bind fun _ => values.harmonised_eval.bind fun _ => ?_
      exact (harmonised_lift _).map _
  | isNull operand negated => exact operand.harmonised_eval.map _
  | anyRelated relation condition joinFields =>
      exact harmonised_rows fun row => harmonised_eval actor condition row
  | select subject branches otherwise =>
      refine subject.harmonised_eval.bind fun value => ?_
      refine (harmonised_evalSelect actor value branches record).bind fun chosen => ?_
      cases chosen with
      | none => exact harmonised_eval actor otherwise record
      | some truth => exact harmonised_pure truth
  | firstOf branches otherwise =>
      refine (harmonised_evalFirst actor branches record).bind fun chosen => ?_
      cases chosen with
      | none => exact harmonised_eval actor otherwise record
      | some truth => exact harmonised_pure truth
  | role condition => exact harmonised_eval actor condition record
termination_by structural p

theorem harmonised_evalAll (actor : Value) (ps : List Predicate) (record : Value) :
    Harmonised (actor ≠ .null ∨ record ≠ .null) fun mode => evalAll mode actor ps record := by
  cases ps with
  | nil => exact harmonised_pure _
  | cons p ps =>
      refine (harmonised_eval actor p record).bind fun truth => ?_
      cases truth with
      | no => exact harmonised_pure _
      | yes | unknown | other _ => exact (harmonised_evalAll actor ps record).map _
termination_by structural ps

theorem harmonised_evalAny (actor : Value) (ps : List Predicate) (record : Value) :
    Harmonised (actor ≠ .null ∨ record ≠ .null) fun mode => evalAny mode actor ps record := by
  cases ps with
  | nil => exact harmonised_pure _
  | cons p ps =>
      refine (harmonised_eval actor p record).bind fun truth => ?_
      cases truth with
      | yes => exact harmonised_pure _
      | no | unknown | other _ => exact (harmonised_evalAny actor ps record).map _
termination_by structural ps

theorem harmonised_evalSelect (actor subject : Value) (branches : List (Operand × Predicate))
    (record : Value) :
    Harmonised (actor ≠ .null ∨ record ≠ .null) fun mode =>
      evalSelect mode actor subject branches record := by
  cases branches with
  | nil => exact harmonised_pure _
  | cons branch rest =>
      obtain ⟨key, outcome⟩ := branch
      refine key.harmonised_eval.bind fun value => (harmonised_lift _).bind fun truth => .ite ?_ ?_
      · exact fun _ => (harmonised_eval actor outcome record).map _
      · exact fun _ => harmonised_evalSelect actor subject rest record
termination_by structural branches

theorem harmonised_evalFirst (actor : Value) (branches : List (Predicate × Predicate))
    (record : Value) :
    Harmonised (actor ≠ .null ∨ record ≠ .null) fun mode =>
      evalFirst mode actor branches record := by
  cases branches with
  | nil => exact harmonised_pure _
  | cons branch rest =>
      obtain ⟨key, outcome⟩ := branch
      refine (harmonised_eval actor key record).bind fun truth => .ite ?_ ?_
      · exact fun _ => (harmonised_eval actor outcome record).map _
      · exact fun _ => harmonised_evalFirst actor rest record
termination_by structural branches

end

theorem harmonised_grants (p : Predicate) (record actor : Value) :
    Harmonised (actor ≠ .null ∨ record ≠ .null) fun mode => p.grants mode record actor :=
  (p.harmonised_eval actor record).map _

end Predicate

/-! ## Row filters -/

namespace RowFilter

theorem harmonised_asked (role : Predicate) (actor : Value) :
    Harmonised True fun mode => role.eval mode actor .null :=
  (role.harmonised_eval actor .null).mono fun _ => trivial

mutual

@[inherit_doc Predicate.harmonised_eval]
theorem harmonised_eval (actor : Value) (f : RowFilter) (record : Value) :
    Harmonised True fun mode => f.eval mode actor record := by
  have read (path : List String) : Harmonised True fun mode => record.follow mode path :=
    (record.harmonised_follow path).mono fun _ => trivial
  have evaluated (operand : Operand) :
      Harmonised True fun mode => operand.eval mode actor record :=
    operand.harmonised_eval.mono fun _ => trivial
  cases f with
  | pass | block | unresolved _ | foreign _ => exact harmonised_lift _
  | all operands => exact harmonised_evalAll actor operands record
  | any operands => exact harmonised_evalAny actor operands record
  | not operand => exact (harmonised_eval actor operand record).map _
  | equals field value =>
      exact (read [field]).bind fun _ => (evaluated value).bind fun _ => harmonised_lift _
  | compare field comparator value =>
      exact (read [field]).bind fun _ => (evaluated value).bind fun _ => harmonised_lift _
  | member field values =>
      exact (read [field]).bind fun _ => (evaluated values).bind fun _ => harmonised_lift _
  | isNull field => exact (read [field]).map _
  | like field pattern ignoreCase =>
      exact (read [field]).bind fun _ => (evaluated pattern).map _
  | someRelated relation condition joinFields =>
      refine (read [relation]).bind fun related => ?_
      exact harmonised_someRow (fun row => harmonised_eval actor condition row) _
  | related relation condition =>
      refine (read [relation]).bind fun row => .ite (fun _ => harmonised_pure _) fun _ => ?_
      exact (harmonised_eval actor condition row).map _
  | given role passed failed =>
      refine (harmonised_asked role actor).bind fun truth => .ite ?_ ?_
      · exact fun _ => harmonised_eval actor passed record
      · exact fun _ => harmonised_eval actor failed record
  | roleOnly condition => exact (harmonised_asked condition actor).map _
termination_by structural f

theorem harmonised_evalAll (actor : Value) (fs : List RowFilter) (record : Value) :
    Harmonised True fun mode => evalAll mode actor fs record := by
  cases fs with
  | nil => exact harmonised_pure _
  | cons f fs =>
      refine (harmonised_eval actor f record).bind fun truth => ?_
      cases truth with
      | no => exact harmonised_pure _
      | yes | unknown | other _ => exact (harmonised_evalAll actor fs record).map _
termination_by structural fs

theorem harmonised_evalAny (actor : Value) (fs : List RowFilter) (record : Value) :
    Harmonised True fun mode => evalAny mode actor fs record := by
  cases fs with
  | nil => exact harmonised_pure _
  | cons f fs =>
      refine (harmonised_eval actor f record).bind fun truth => ?_
      cases truth with
      | yes => exact harmonised_pure _
      | no | unknown | other _ => exact (harmonised_evalAny actor fs record).map _
termination_by structural fs

end

theorem harmonised_passes (f : RowFilter) (record actor : Value) :
    Harmonised True fun mode => f.passes mode record actor :=
  (f.harmonised_eval actor record).map _

end RowFilter

/-! ## Binding -/

theorem Operand.harmonised_bind (actor : Value) (operand : Operand) :
    Harmonised True fun mode => operand.bind mode actor := by
  cases operand with
  | actor path source => exact ((actor.harmonised_follow path).mono fun _ => trivial).map _
  | record _ | value _ | values _ | foreign _ => exact harmonised_pure _

theorem Operand.harmonised_bindSet (actor : Value) (operand : Operand) :
    Harmonised True fun mode => operand.bindSet mode actor := by
  cases operand with
  | actor path source => exact ((actor.harmonised_follow path).mono fun _ => trivial).map _
  | record _ | value _ | values _ | foreign _ => exact harmonised_pure _

namespace RowFilter

theorem harmonised_role (role : Predicate) (actor : Value) :
    Harmonised True fun mode => role.grants mode .null actor :=
  (role.harmonised_grants .null actor).mono fun _ => trivial

mutual

theorem harmonised_bind (actor : Value) (f : RowFilter) :
    Harmonised True fun mode => f.bind mode actor := by
  cases f with
  | pass | block | isNull _ | unresolved _ | foreign _ => exact harmonised_lift _
  | all operands => exact (harmonised_bindAll actor operands).map _
  | any operands => exact (harmonised_bindAll actor operands).map _
  | not operand => exact (harmonised_bind actor operand).map _
  | equals field value => exact (value.harmonised_bind actor).map _
  | compare field comparator value => exact (value.harmonised_bind actor).map _
  | like field pattern ignoreCase => exact (pattern.harmonised_bind actor).map _
  | member field values => exact (values.harmonised_bindSet actor).map _
  | someRelated relation condition joinFields => exact (harmonised_bind actor condition).map _
  | related relation condition => exact (harmonised_bind actor condition).map _
  | given role passed failed =>
      refine (harmonised_role role actor).bind fun granted => .ite ?_ ?_
      · exact fun _ => harmonised_bind actor passed
      · exact fun _ => harmonised_bind actor failed
  | roleOnly condition =>
      refine (harmonised_role condition actor).bind fun granted => ?_
      exact .ite (fun _ => harmonised_pure _) fun _ => harmonised_pure _
termination_by structural f

theorem harmonised_bindAll (actor : Value) (fs : List RowFilter) :
    Harmonised True fun mode => bindAll mode actor fs := by
  cases fs with
  | nil => exact harmonised_pure _
  | cons f fs =>
      exact (harmonised_bind actor f).bind fun bound => (harmonised_bindAll actor fs).map _
termination_by structural fs

end

theorem harmonised_bindChecked (actor : Value) (checks : List Predicate) (f : RowFilter) :
    Harmonised True fun mode => f.bindChecked mode actor checks := by
  induction checks with
  | nil => exact harmonised_bind actor f
  | cons check checks ih =>
      refine (harmonised_role check actor).bind fun granted => ?_
      exact .ite (fun _ => ih) fun _ => harmonised_pure _

end RowFilter

/-! ## The three configurations -/

/-- Whether an evaluation agrees with itself across the configurations: warning changes no result,
failing happens at the first read that is warned about, and where nothing fails the result is that
of reading null. -/
structure Evaluation.Consistent {α : Type} (run : UnloadedMode → Evaluation α) : Prop where
  warn_eq_deny : (run .warn).result = (run .deny).result
  fail_eq_strict : (run .fail).result = (run .warn).strict
  deny_of_fail : ∀ value, (run .fail).result = .ok value → (run .deny).result = .ok value

theorem Evaluation.Harmonised.consistent {possible : Prop} {α : Type}
    {run : UnloadedMode → Evaluation α} (harmonised : Harmonised possible run) :
    Evaluation.Consistent run where
  warn_eq_deny := harmonised.warned
  fail_eq_strict := harmonised.failed
  deny_of_fail value ended := by
    rcases harmonised.result_fail with same | ⟨read, _, failed⟩
    · exact same.symm.trans ended
    · cases ended.symm.trans failed

/-- How unloaded relationships are configured is a matter of failing or not: whatever is evaluated
or bound, the configurations that go on give one result, and the one that fails gives it too
unless there is an unloaded relationship on its way. -/
theorem consistent_across_modes (p : Predicate) (f : RowFilter) (checks : List Predicate)
    (record actor : Value) :
    Evaluation.Consistent (fun mode => p.grants mode record actor) ∧
      Evaluation.Consistent (fun mode => f.passes mode record actor) ∧
      Evaluation.Consistent (fun mode => f.bind mode actor) ∧
      Evaluation.Consistent (fun mode => f.bindChecked mode actor checks) :=
  ⟨(p.harmonised_grants record actor).consistent, (f.harmonised_passes record actor).consistent,
    (f.harmonised_bind actor).consistent, (f.harmonised_bindChecked actor checks).consistent⟩

example :
    let post : Value := .object 0 "Post" [("status", .text "draft")] (some ["owner"])
    let p : Predicate := .isNull (.record ["owner", "name"]) false
    p.grants .deny post .null = ⟨.ok true, []⟩ ∧
      p.grants .warn post .null = ⟨.ok true, [⟨"Post", "owner"⟩]⟩ ∧
      p.grants .fail post .null = ⟨.error (.unloaded ⟨"Post", "owner"⟩), []⟩ :=
  ⟨rfl, rfl, rfl⟩

end RowGuard
