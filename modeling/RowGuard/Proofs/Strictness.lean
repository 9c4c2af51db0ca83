import RowGuard.Proofs.LoadingModes
import RowGuard.Proofs.RowFilter.Binding

/-! Reading strictly. Whatever the configuration says about relationships that
are not loaded, evaluation and binding end as they do where such relationships
read as null, unless they stop at one. Only a configuration that makes them a
failure stops, and only where there is a record or an actor to read. -/

set_option autoImplicit false

namespace RowGuard

/-- The failure of reading a relationship that is not loaded. -/
def EvalError.IsUnloaded (error : EvalError) : Prop :=
  ∃ read, error = .unloaded read

/-- How reading from two values may fail. -/
def Unread (mode : UnloadedMode) (actor record : Value) (error : EvalError) : Prop :=
  mode = .fail ∧ (actor ≠ .null ∨ record ≠ .null) ∧ error.IsUnloaded

/-- How evaluation on an actor and a record may stop. -/
def Interrupted (mode : UnloadedMode) (actor record : Value) (error : EvalError) : Prop :=
  Unread mode actor record error ∨
    error = .invalidOperation ∧ ¬(actor.isDefined ∧ record.isDefined)

/-- Under every configuration the lenient end is reached, unless a possible read fails. -/
theorem Evaluation.Harmonised.endsAs {possible : Prop} {α : Type}
    {run : UnloadedMode → Evaluation α} (harmonised : Harmonised possible run)
    (mode : UnloadedMode) :
    (run mode).EndsAs (fun error => mode = .fail ∧ possible ∧ error.IsUnloaded) (run .deny) := by
  cases mode with
  | deny => exact .inl rfl
  | warn => exact .inl harmonised.warned
  | fail =>
      rcases harmonised.result_fail with same | ⟨read, possibly, failed⟩
      · exact .inl same
      · exact .inr ⟨_, failed, rfl, possibly, read, rfl⟩

/-! ## Reading -/

/-- What is read strictly is what is read leniently. -/
theorem Operand.eq_read_of_eval {operand : Operand} (own : operand.isOwn) {mode : UnloadedMode}
    {actor record found : Value} (ended : (operand.eval mode actor record).result = .ok found) :
    found = operand.read actor record := by
  have lenient := (operand.harmonised_eval.endsAs mode).eq_of_ok ended
  exact Except.ok.inj (lenient.symm.trans (Operand.result_eval (by decide) own actor record))

/-! ## Predicates -/

namespace Predicate

/-- Evaluation ends in the answer with unloaded relationships left out, or stops at one. -/
theorem endsAs_grants (mode : UnloadedMode) (p : Predicate) (record actor : Value) :
    (p.grants mode record actor).EndsAs (Unread mode actor record)
      (p.grants .deny record actor) :=
  (p.harmonised_grants record actor).endsAs mode

/-- Evaluation ends in the truth of the predicate, or it stops at an unloaded relationship or an
undefined number. -/
theorem Compiled.endsAs_truth {admitted : Unresolved → Prop} {p : Predicate}
    (compiled : p.Compiled admitted) (mode : UnloadedMode) (record actor : Value) :
    (p.grants mode record actor).EndsAs (Interrupted mode actor record)
      (pure (p.truth actor record).holds) := by
  have lenient := compiled.yields_grants (by decide : UnloadedMode.deny ≠ .fail) actor record
  exact (p.endsAs_grants mode record actor).trans lenient.endsAs

/-- Where there is nothing to read, nothing is unloaded. -/
theorem Compiled.result_grants_null {admitted : Unresolved → Prop} {p : Predicate}
    (compiled : p.Compiled admitted) (mode : UnloadedMode) :
    (p.grants mode .null .null).result = .ok (p.truth .null .null).holds := by
  rcases compiled.endsAs_truth mode .null .null with ended | ⟨_, _, ⟨_, read, _⟩ | ⟨_, undefined⟩⟩
  · exact ended
  · simp at read
  · exact absurd ⟨rfl, rfl⟩ undefined

end Predicate

/-! ## Row filters -/

namespace RowFilter

theorem endsAs_passes (mode : UnloadedMode) (f : RowFilter) (record actor : Value) :
    (f.passes mode record actor).EndsAs (fun error => mode = .fail ∧ error.IsUnloaded)
      (f.passes .deny record actor) :=
  ((f.harmonised_passes record actor).endsAs mode).mono fun _ fails => ⟨fails.1, fails.2.2⟩

theorem endsAs_bindChecked (mode : UnloadedMode) (actor : Value) (checks : List Predicate)
    (f : RowFilter) :
    (f.bindChecked mode actor checks).EndsAs (fun error => mode = .fail ∧ error.IsUnloaded)
      (f.bindChecked .deny actor checks) :=
  ((f.harmonised_bindChecked actor checks).endsAs mode).mono fun _ fails => ⟨fails.1, fails.2.2⟩

end RowFilter

end RowGuard
