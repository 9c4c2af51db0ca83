import RowGuard.Policy.Basic
import RowGuard.Proofs.Predicate.Compilation
import RowGuard.Proofs.Predicate.Granting

/-! Combined policies. The combination of policies compiles if each of them
does, and it holds if one of the permissive ones holds by itself and every
restrictive one does, in whatever order they stand. If it is evaluated to true,
then they are evaluated to true by themselves. -/

set_option autoImplicit false

namespace RowGuard

open Predicate (compile compileAll)

namespace Expr

/-- Whether an expression has a meaning of its own throughout, as parsed ones do. -/
abbrev Known (e : Expr) : Prop :=
  e.Everywhere fun node => node.isKnown

def Compiles (scope : Scope) (e : Expr) : Prop :=
  ∃ p, (compile scope e).result = .ok p

def Holds (scope : Scope) (actor record : Value) (e : Expr) : Prop :=
  ∃ p, (compile scope e).result = .ok p ∧ (p.truth actor record).holds

/-- Whether an expression grants access when it is compiled alone. -/
def Grants (scope : Scope) (mode : UnloadedMode) (actor record : Value) (e : Expr) : Prop :=
  ∃ p, (compile scope e).result = .ok p ∧ (p.grants mode record actor).result = .ok Bool.true

variable {scope : Scope} {mode : UnloadedMode} {e : Expr} {es : List Expr} {p : Predicate}
  {actor record : Value}

theorem compiled_of_known (known : e.Known) (compiled : (compile scope e).result = .ok p) :
    p.Compiled fun _ => True :=
  (Predicate.invariant_shaped scope fun _ => True).ofCompile e (Traced.eq_ok_of_result compiled)
    known ⟨fun _ _ => trivial, fun _ _ _ => trivial⟩

theorem holds_iff_of_compiled (compiled : (compile scope e).result = .ok p) :
    e.Holds scope actor record ↔ (p.truth actor record).holds := by
  constructor
  · rintro ⟨q, other, holds⟩
    rw [compiled] at other
    cases other
    exact holds
  · exact fun holds => ⟨p, compiled, holds⟩

theorem Grants.holds (known : e.Known) (loaded : mode ≠ .fail)
    (grants : e.Grants scope mode actor record) : e.Holds scope actor record := by
  obtain ⟨p, compiled, granted⟩ := grants
  have yields := (compiled_of_known known compiled).yields_grants loaded actor record
  exact ⟨p, compiled, (yields.eq_of_ok granted).symm⟩

/-! ## Lists -/

theorem compileAll_eq_ok {ps : List Predicate} (compiled : (compileAll scope es).result = .ok ps) :
    (∀ e ∈ es, ∃ p ∈ ps, (compile scope e).result = .ok p) ∧
      ∀ p ∈ ps, ∃ e ∈ es, (compile scope e).result = .ok p := by
  induction es generalizing ps with
  | nil =>
      cases compiled
      simp
  | cons e es ih =>
      obtain ⟨p, first, rest⟩ := Traced.result_bind_eq_ok_iff.mp compiled
      obtain ⟨others, othersRun, same⟩ := Traced.result_bind_eq_ok_iff.mp rest
      cases same
      obtain ⟨forward, backward⟩ := ih othersRun
      constructor
      · refine List.forall_mem_cons.mpr ⟨⟨p, .head _, first⟩, fun e member => ?_⟩
        obtain ⟨q, among, same⟩ := forward e member
        exact ⟨q, .tail _ among, same⟩
      · refine List.forall_mem_cons.mpr ⟨⟨e, .head _, first⟩, fun q member => ?_⟩
        obtain ⟨other, among, same⟩ := backward q member
        exact ⟨other, .tail _ among, same⟩

theorem compiled_of_compileAll {ps : List Predicate} (known : ∀ e ∈ es, e.Known)
    (compiled : (compileAll scope es).result = .ok ps) :
    ∀ p ∈ ps, p.Compiled fun _ => True := by
  intro p member
  obtain ⟨e, among, same⟩ := (compileAll_eq_ok compiled).2 p member
  exact compiled_of_known (known e among) same

theorem exists_compileAll (each : ∀ e ∈ es, e.Compiles scope) :
    ∃ ps, (compileAll scope es).result = .ok ps := by
  induction es with
  | nil => exact ⟨[], rfl⟩
  | cons e es ih =>
      rw [List.forall_mem_cons] at each
      obtain ⟨p, first⟩ := each.1
      obtain ⟨ps, others⟩ := ih each.2
      refine ⟨p :: ps, ?_⟩
      rw [compileAll, Traced.result_bind_of_ok first, Traced.result_bind_of_ok others]
      rfl

theorem holds_any_iff (known : ∀ e ∈ es, e.Known)
    (compiled : (compile scope (.any es)).result = .ok p) :
    (p.truth actor record).holds ↔ ∃ e ∈ es, e.Holds scope actor record := by
  obtain ⟨ps, run, same⟩ := Traced.result_bind_eq_ok_iff.mp compiled
  cases same
  obtain ⟨forward, backward⟩ := compileAll_eq_ok run
  have shape := compiled_of_compileAll known run
  rw [Predicate.truth_anyOf shape, Truth.holds_any, List.any_map, List.any_eq_true]
  constructor
  · rintro ⟨p, member, holds⟩
    obtain ⟨e, among, same⟩ := backward p member
    exact ⟨e, among, p, same, holds⟩
  · rintro ⟨e, among, holds⟩
    obtain ⟨p, member, same⟩ := forward e among
    exact ⟨p, member, (holds_iff_of_compiled same).mp holds⟩

theorem holds_all_iff (known : ∀ e ∈ es, e.Known)
    (compiled : (compile scope (.all es)).result = .ok p) :
    (p.truth actor record).holds ↔ ∀ e ∈ es, e.Holds scope actor record := by
  obtain ⟨ps, run, same⟩ := Traced.result_bind_eq_ok_iff.mp compiled
  cases same
  obtain ⟨forward, backward⟩ := compileAll_eq_ok run
  have shape := compiled_of_compileAll known run
  have proper : ∀ t ∈ ps.map (Predicate.truth actor · record), t.isProper :=
    List.forall_mem_map.mpr fun p member => (shape p member).isProper_truth actor record
  rw [Predicate.truth_allOf shape, Truth.holds_all proper, List.all_map, List.all_eq_true]
  constructor
  · intro each e among
    obtain ⟨p, member, same⟩ := forward e among
    exact ⟨p, same, each p member⟩
  · intro each p member
    obtain ⟨e, among, same⟩ := backward p member
    exact (holds_iff_of_compiled same).mp (each e among)

theorem exists_grants_of_any (known : ∀ e ∈ es, e.Known)
    (grants : (Expr.any es).Grants scope mode actor record) :
    ∃ e ∈ es, e.Grants scope mode actor record := by
  obtain ⟨p, compiled, granted⟩ := grants
  obtain ⟨ps, run, same⟩ := Traced.result_bind_eq_ok_iff.mp compiled
  cases same
  have backward := (compileAll_eq_ok run).2
  have shape := compiled_of_compileAll known run
  obtain ⟨p, member, granted⟩ := Predicate.exists_grants_of_anyOf shape granted
  obtain ⟨e, among, same⟩ := backward p member
  exact ⟨e, among, p, same, granted⟩

theorem forall_grants_of_all (known : ∀ e ∈ es, e.Known)
    (grants : (Expr.all es).Grants scope mode actor record) :
    ∀ e ∈ es, e.Grants scope mode actor record := by
  obtain ⟨p, compiled, granted⟩ := grants
  obtain ⟨ps, run, same⟩ := Traced.result_bind_eq_ok_iff.mp compiled
  cases same
  obtain ⟨forward, backward⟩ := compileAll_eq_ok run
  have shape := compiled_of_compileAll known run
  intro e among
  obtain ⟨p, member, same⟩ := forward e among
  exact ⟨p, same, Predicate.forall_grants_of_allOf shape granted p member⟩

theorem compiles_any_iff : (Expr.any es).Compiles scope ↔ ∀ e ∈ es, e.Compiles scope := by
  constructor
  · rintro ⟨p, compiled⟩ e member
    obtain ⟨ps, run, _⟩ := Traced.result_bind_eq_ok_iff.mp compiled
    obtain ⟨q, _, same⟩ := (compileAll_eq_ok run).1 e member
    exact ⟨q, same⟩
  · intro each
    obtain ⟨ps, run⟩ := exists_compileAll each
    exact ⟨_, Traced.result_bind_pure_of_ok run Predicate.anyOf⟩

theorem compiles_all_iff : (Expr.all es).Compiles scope ↔ ∀ e ∈ es, e.Compiles scope := by
  constructor
  · rintro ⟨p, compiled⟩ e member
    obtain ⟨ps, run, _⟩ := Traced.result_bind_eq_ok_iff.mp compiled
    obtain ⟨q, _, same⟩ := (compileAll_eq_ok run).1 e member
    exact ⟨q, same⟩
  · intro each
    obtain ⟨ps, run⟩ := exists_compileAll each
    exact ⟨_, Traced.result_bind_pure_of_ok run Predicate.allOf⟩

/-! ## Combinations -/

theorem known_any (known : ∀ e ∈ es, e.Known) : (Expr.any es).Known :=
  everywhere_any.mpr ⟨rfl, known⟩

theorem known_all (known : ∀ e ∈ es, e.Known) : (Expr.all es).Known :=
  everywhere_all.mpr ⟨rfl, known⟩

variable {permissive restrictive : List Expr}

theorem known_combine (permits : ∀ e ∈ permissive, e.Known)
    (restricts : ∀ e ∈ restrictive, e.Known) : (combine permissive restrictive).Known := by
  unfold combine
  split
  · exact List.forall_mem_singleton.mpr rfl
  · exact permits _ (.head _)
  · exact known_all (List.forall_mem_cons.mpr ⟨permits _ (.head _), restricts⟩)
  · exact known_any permits
  · exact known_all (List.forall_mem_cons.mpr ⟨known_any permits, restricts⟩)

/-- Some permissive policy has to hold and every restrictive one. -/
theorem holds_combine_iff (permits : ∀ e ∈ permissive, e.Known)
    (restricts : ∀ e ∈ restrictive, e.Known)
    (compiled : (compile scope (combine permissive restrictive)).result = .ok p) :
    (p.truth actor record).holds ↔
      (∃ e ∈ permissive, e.Holds scope actor record) ∧
        ∀ e ∈ restrictive, e.Holds scope actor record := by
  unfold combine at compiled
  split at compiled
  · cases compiled
    simp only [List.not_mem_nil, false_and, exists_false, iff_false]
    exact Bool.false_ne_true
  · simpa using (holds_iff_of_compiled compiled).symm
  · rw [holds_all_iff (List.forall_mem_cons.mpr ⟨permits _ (.head _), restricts⟩) compiled]
    simp
  · rw [holds_any_iff permits compiled]
    simp
  · have known := List.forall_mem_cons.mpr ⟨known_any permits, restricts⟩
    rw [holds_all_iff known compiled, List.forall_mem_cons]
    obtain ⟨ps, run, _⟩ := Traced.result_bind_eq_ok_iff.mp compiled
    obtain ⟨q, _, inner⟩ := (compileAll_eq_ok run).1 _ (.head _)
    rw [holds_iff_of_compiled inner, holds_any_iff permits inner]

/-- A combination grants access only if some permissive policy does by itself and every restrictive
one. -/
theorem grants_of_combine (permits : ∀ e ∈ permissive, e.Known)
    (restricts : ∀ e ∈ restrictive, e.Known)
    (grants : (combine permissive restrictive).Grants scope mode actor record) :
    (∃ e ∈ permissive, e.Grants scope mode actor record) ∧
      ∀ e ∈ restrictive, e.Grants scope mode actor record := by
  unfold combine at grants
  split at grants
  · obtain ⟨p, compiled, granted⟩ := grants
    cases compiled
    cases granted
  · exact ⟨⟨_, .head _, grants⟩, nofun⟩
  · have known := List.forall_mem_cons.mpr ⟨permits _ (.head _), restricts⟩
    have each := List.forall_mem_cons.mp (forall_grants_of_all known grants)
    exact ⟨⟨_, .head _, each.1⟩, each.2⟩
  · exact ⟨exists_grants_of_any permits grants, nofun⟩
  · have known := List.forall_mem_cons.mpr ⟨known_any permits, restricts⟩
    have each := List.forall_mem_cons.mp (forall_grants_of_all known grants)
    exact ⟨exists_grants_of_any permits each.1, each.2⟩

/-- A combination with a permissive policy compiles if and only if each of its policies does. -/
theorem compiles_combine_iff (permits : permissive ≠ []) :
    (combine permissive restrictive).Compiles scope ↔
      (∀ e ∈ permissive, e.Compiles scope) ∧ ∀ e ∈ restrictive, e.Compiles scope := by
  unfold combine
  split
  · contradiction
  · simp
  · rw [compiles_all_iff, List.forall_mem_cons, List.forall_mem_singleton]
  · simp only [compiles_any_iff, List.not_mem_nil, false_imp_iff, implies_true, and_true]
  · simp only [compiles_all_iff, compiles_any_iff, List.forall_mem_cons]

end Expr

end RowGuard
