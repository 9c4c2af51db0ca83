import RowGuard.Proofs.Predicate.NullSafety
import RowGuard.Proofs.RowFilter.Tests

/-! A predicate that is lowered without a report is expressible: wherever it
compares a field of the record, nothing else of the record stands in the
comparison. -/

set_option autoImplicit false

namespace RowGuard.RowFilter

open Compilation (Event)

variable {scope : Scope} {f : RowFilter} {events : List Event}

/-- The statement that a run that reports nothing had an expressible predicate. -/
def Expresses (_ : Bool) (p : Predicate) (_ : RowFilter) (events : List Event) : Prop :=
  p.Compiled (fun _ => False) → Compilation.Quiet events → p.Expressible

theorem expressible_of_fieldTest {p : Predicate} {run : Compilation RowFilter}
    (test : FieldTest scope p run) (lowered : run = ⟨.ok f, events⟩)
    (quiet : Compilation.Quiet events) : p.Expressible := by
  cases test with
  | compare scalar => exact .compare (readsRecord_of_isScalarSide scalar).1
  | member _ => exact .member
  | isNull => exact .isNull
  | inexpressible =>
      obtain ⟨text, _, _, reported⟩ := inexpressible_eq_ok lowered
      exact (quiet text reported).elim

theorem Chain.expressible {last chained : RowFilter} {branches : List (Predicate × Predicate)}
    (chain : Chain (Expresses false) last branches chained events)
    (quiet : Compilation.Quiet events)
    (compiled : ∀ branch ∈ branches, branch.2.Compiled fun _ => False) :
    ∀ branch ∈ branches, branch.2.Expressible := by
  induction chain with
  | nil => simp
  | cons _ outcome ih =>
      rw [Compilation.quiet_append_iff] at quiet
      rw [List.forall_mem_cons] at compiled
      exact List.forall_mem_cons.mpr ⟨outcome compiled.1 quiet.2, ih quiet.1 compiled.2⟩

theorem Arms.expressible {excluded arms others : List RowFilter}
    {branches : List (Predicate × Predicate)}
    (run : Arms (Expresses false) excluded branches arms others events)
    (quiet : Compilation.Quiet events)
    (compiled : ∀ branch ∈ branches,
      branch.1.Compiled (fun _ => False) ∧ branch.2.Compiled fun _ => False) :
    ∀ branch ∈ branches, branch.1.Expressible ∧ branch.2.Expressible := by
  induction run with
  | nil => simp
  | cons key outcome _ _ ih =>
      simp only [Compilation.quiet_append_iff] at quiet
      rw [List.forall_mem_cons] at compiled
      refine List.forall_mem_cons.mpr ⟨?_, ih quiet.2.2.2 compiled.2⟩
      exact ⟨key compiled.1.1 quiet.1, outcome compiled.1.2 quiet.2.1⟩

theorem invariant_expresses (scope : Scope) : Invariant scope Expresses where
  role isRole _ _ := by
    rw [Predicate.isRoleOnly, Bool.and_eq_true, Bool.not_eq_true'] at isRole
    exact .unread isRole.2
  constant unread _ _ _ _ := .unread unread
  all _ each split compiled quiet := by
    rw [Compilation.quiet_append_iff] at quiet
    have operands := Predicate.compiled_all_iff.mp compiled
    refine .all (each.forall_left fun p member _ part within expresses => ?_)
    exact expresses (operands p member) (quiet.1.mono within)
  any _ each split compiled quiet := by
    rw [Compilation.quiet_append_iff] at quiet
    have operands := Predicate.compiled_any_iff.mp compiled
    refine .any (each.forall_left fun p member _ part within expresses => ?_)
    exact expresses (operands p member) (quiet.1.mono within)
  not _ run compiled quiet := by
    cases compiled with
    | not compiled => exact .not (run compiled quiet)
  marked _ run compiled quiet := by
    cases compiled with
    | role compiled => exact .role (run compiled quiet)
  unresolved compiled _ := by
    cases compiled with
    | unresolved _ admits => exact admits.elim
  compare _ lowered compiled quiet := by
    cases compiled with
    | compare _ _ _ turned =>
        rw [turned] at lowered
        exact expressible_of_fieldTest (fieldTest_ofCompare _ _) lowered quiet
  member _ lowered _ := expressible_of_fieldTest (fieldTest_ofMember _ _ _ _) lowered
  isNull _ lowered _ := expressible_of_fieldTest (fieldTest_ofNull _ _ _) lowered
  anyRelated _ _ _ := .anyRelated
  chain _ choice roles last chain _ compiled quiet := by
    simp only [Compilation.quiet_append_iff] at quiet
    obtain ⟨parts, otherwise⟩ := choice.compiled compiled
    refine .choice choice (fun branch member => ?_)
      (chain.expressible quiet.2.1 fun branch member => (parts branch member).2)
      (last otherwise quiet.1)
    have isRole := roles branch member
    rw [Predicate.isRoleOnly, Bool.and_eq_true, Bool.not_eq_true'] at isRole
    exact .unread isRole.2
  arms _ choice _ run last compiled quiet := by
    rw [Compilation.quiet_append_iff] at quiet
    obtain ⟨parts, otherwise⟩ := choice.compiled compiled
    have branches := run.expressible quiet.1 parts
    exact .choice choice (fun branch member => (branches branch member).1)
      (fun branch member => (branches branch member).2) (last otherwise quiet.2)

end RowGuard.RowFilter
