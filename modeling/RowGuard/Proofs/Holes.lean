import RowGuard.Proofs.Agreement
import RowGuard.Proofs.Policy.Combination
import RowGuard.Proofs.Predicate.Defaults
import RowGuard.Proofs.Strictness

/-! Policies with a hole under their connectives. Null in the hole is compiled as
false is, not as the unknown: under an even number of negations it is the filler
that grants least, and under an odd number the one that grants most. What grants
may still stop before it does, at an unloaded relationship or an undefined number. -/

set_option autoImplicit false

namespace RowGuard

/-! ## The order of truths -/

namespace Truth

variable {negated : Bool} {s s' t t' : Truth}

/-- Whether a truth is at most as true as another one, or at least as true where it is negated. -/
def Ordered (negated : Bool) (s t : Truth) : Prop :=
  match negated with
  | false => Below s t
  | true => Below t s

theorem Ordered.refl (negated : Bool) (t : Truth) : Ordered negated t t := by
  cases negated with
  | false | true => exact Below.refl t

theorem below_and (first : Below s t) (second : Below s' t') (proper : s.isProper ∧ t.isProper)
    (proper' : s'.isProper ∧ t'.isProper) : Below (s.and s') (t.and t') := by
  constructor
  · rw [and_eq_yes_iff proper.1 proper'.1, and_eq_yes_iff proper.2 proper'.2]
    exact And.imp first.yes second.yes
  · rw [and_eq_no_iff, and_eq_no_iff]
    exact Or.imp first.no second.no

theorem below_or (first : Below s t) (second : Below s' t') (proper : s.isProper ∧ t.isProper)
    (proper' : s'.isProper ∧ t'.isProper) : Below (s.or s') (t.or t') := by
  constructor
  · rw [or_eq_yes_iff, or_eq_yes_iff]
    exact Or.imp first.yes second.yes
  · rw [or_eq_no_iff proper.1 proper'.1, or_eq_no_iff proper.2 proper'.2]
    exact And.imp first.no second.no

theorem Ordered.and (first : Ordered negated s t) (second : Ordered negated s' t')
    (proper : s.isProper ∧ t.isProper) (proper' : s'.isProper ∧ t'.isProper) :
    Ordered negated (s.and s') (t.and t') := by
  cases negated with
  | false => exact below_and first second proper proper'
  | true => exact below_and first second proper.symm proper'.symm

theorem Ordered.or (first : Ordered negated s t) (second : Ordered negated s' t')
    (proper : s.isProper ∧ t.isProper) (proper' : s'.isProper ∧ t'.isProper) :
    Ordered negated (s.or s') (t.or t') := by
  cases negated with
  | false => exact below_or first second proper proper'
  | true => exact below_or first second proper.symm proper'.symm

theorem Ordered.not (ordered : Ordered negated s t) (proper : s.isProper ∧ t.isProper) :
    Ordered (!negated) s.not t.not := by
  cases negated with
  | false => exact Below.not ordered proper.1 proper.2
  | true => exact Below.not ordered proper.2 proper.1

theorem below_no (t : Truth) : Below .no t :=
  ⟨nofun, fun _ => rfl⟩

theorem below_yes (t : Truth) : Below t .yes :=
  ⟨fun _ => rfl, nofun⟩

end Truth

namespace Expr

open Predicate (compile compileAll)

/-! ## Expressions with a meaning -/

/-- Whether an expression compiles and nothing in it is without a meaning. -/
structure Resolves (scope : Scope) (e : Expr) : Prop where
  known : e.Known
  compiles : ∃ check, (scope.recordCheck e).result = .ok check ∧
    ∀ d ∈ check.diagnostics, d.category ≠ .unresolvedConstruct

/-- The truth of an expression that compiles. -/
def truth (scope : Scope) (actor record : Value) (e : Expr) : Truth :=
  match (compile scope e).result with
  | .ok p => p.truth actor record
  | .error _ => .unknown

section Resolves

variable {scope : Scope} {e : Expr} {es : List Expr} {p : Predicate} {actor record : Value}

theorem resolves_iff : e.Resolves scope ↔
    e.Known ∧ ∃ p events, compile scope e = ⟨.ok p, events⟩ ∧ Compilation.Quiet events := by
  constructor
  · rintro ⟨known, check, checked, silent⟩
    have compiled := Traced.eq_ok_of_result (Scope.compile_of_recordCheck checked)
    rw [← Except.ok.inj ((Scope.result_recordCheck compiled).symm.trans checked)] at silent
    exact ⟨known, _, _, compiled, Compilation.quiet_iff_diagnostics.mpr silent⟩
  · rintro ⟨known, p, events, compiled, quiet⟩
    exact ⟨known, _, Scope.result_recordCheck compiled,
      Compilation.quiet_iff_diagnostics.mp quiet⟩

theorem truth_of_compiled (compiled : (compile scope e).result = .ok p) :
    e.truth scope actor record = p.truth actor record := by
  rw [truth, compiled]

theorem Resolves.compiled (resolves : e.Resolves scope)
    (compiled : (compile scope e).result = .ok p) : p.Compiled fun _ => False := by
  obtain ⟨known, q, events, run, quiet⟩ := resolves_iff.mp resolves
  rw [run] at compiled
  cases compiled
  exact (Predicate.invariant_shaped scope fun _ => False).ofCompile e run known
    (Scope.admits_none quiet)

theorem Resolves.isProper_truth (resolves : e.Resolves scope) :
    (e.truth scope actor record).isProper := by
  obtain ⟨_, p, events, run, _⟩ := resolves_iff.mp resolves
  have compiled : (compile scope e).result = .ok p := by rw [run]
  rw [truth_of_compiled compiled]
  exact (resolves.compiled compiled).isProper_truth actor record

theorem resolves_bool (scope : Scope) (b : Bool) : (literal (.bool b)).Resolves scope := by
  refine resolves_iff.mpr ⟨List.forall_mem_singleton.mpr rfl, .const (.bool b), [], rfl, ?_⟩
  rintro text ⟨_, noted, _⟩
  cases noted

theorem exists_compileAll_of_resolves (each : ∀ e ∈ es, e.Resolves scope) :
    ∃ ps events, compileAll scope es = ⟨.ok ps, events⟩ ∧ Compilation.Quiet events ∧
      (∀ p ∈ ps, p.Compiled fun _ => False) ∧ ∀ actor record,
        ps.map (Predicate.truth actor · record) = es.map (truth scope actor record) := by
  induction es with
  | nil => exact ⟨[], [], rfl, fun _ => nofun, nofun, fun _ _ => rfl⟩
  | cons e es ih =>
      rw [List.forall_mem_cons] at each
      obtain ⟨_, p, before, run, quiet⟩ := resolves_iff.mp each.1
      obtain ⟨ps, after, others, silent, shaped, same⟩ := ih each.2
      have compiled : (compile scope e).result = .ok p := by rw [run]
      refine ⟨p :: ps, before ++ after, ?_, Compilation.quiet_append_iff.mpr ⟨quiet, silent⟩,
        List.forall_mem_cons.mpr ⟨each.1.compiled compiled, shaped⟩, fun actor record => ?_⟩
      · refine Traced.bind_eq_ok_iff.mpr ⟨p, _, after, run, ?_, rfl⟩
        exact Traced.bind_eq_ok_iff.mpr ⟨ps, _, [], others, rfl, (List.append_nil _).symm⟩
      · rw [List.map_cons, List.map_cons, same, truth_of_compiled compiled]

theorem resolves_any (each : ∀ e ∈ es, e.Resolves scope) : (Expr.any es).Resolves scope ∧
    ∀ actor record, (Expr.any es).truth scope actor record =
      Truth.any (es.map (truth scope actor record)) := by
  obtain ⟨ps, events, run, quiet, shaped, same⟩ := exists_compileAll_of_resolves each
  have compiled : compile scope (.any es) = ⟨.ok (Predicate.anyOf ps), events⟩ :=
    Traced.bind_eq_ok_iff.mpr ⟨ps, _, [], run, rfl, (List.append_nil _).symm⟩
  have known := known_any fun e member => (each e member).known
  refine ⟨resolves_iff.mpr ⟨known, _, _, compiled, quiet⟩, fun actor record => ?_⟩
  rw [truth_of_compiled (by rw [compiled]), Predicate.truth_anyOf shaped, same]

theorem resolves_all (each : ∀ e ∈ es, e.Resolves scope) : (Expr.all es).Resolves scope ∧
    ∀ actor record, (Expr.all es).truth scope actor record =
      Truth.all (es.map (truth scope actor record)) := by
  obtain ⟨ps, events, run, quiet, shaped, same⟩ := exists_compileAll_of_resolves each
  have compiled : compile scope (.all es) = ⟨.ok (Predicate.allOf ps), events⟩ :=
    Traced.bind_eq_ok_iff.mpr ⟨ps, _, [], run, rfl, (List.append_nil _).symm⟩
  have known := known_all fun e member => (each e member).known
  refine ⟨resolves_iff.mpr ⟨known, _, _, compiled, quiet⟩, fun actor record => ?_⟩
  rw [truth_of_compiled (by rw [compiled]), Predicate.truth_allOf shaped, same]

/-- Only what has no meaning is compiled together with the negation in front of it. -/
theorem Resolves.compile_not (resolves : e.Resolves scope) :
    compile scope (.not e) = do return Predicate.negate (← compile scope e) := by
  obtain ⟨_, p, events, run, quiet⟩ := resolves_iff.mp resolves
  cases e with
  | existence _ _ | subquery _ _ => exact absurd quiet (Predicate.not_quiet_standIn run)
  | any _ | all _ | not _ | condition _ _ _ | choice _ _ _ | call _ _ | column _ _ | setting _
  | literal _ | array _ | foreign _ => rfl

theorem resolves_not (resolves : e.Resolves scope) : (Expr.not e).Resolves scope ∧
    ∀ actor record, (Expr.not e).truth scope actor record = (e.truth scope actor record).not := by
  obtain ⟨known, p, events, run, quiet⟩ := resolves_iff.mp resolves
  have compiled : compile scope (.not e) = ⟨.ok p.negate, events⟩ := by
    rw [resolves.compile_not]
    exact Traced.bind_eq_ok_iff.mpr ⟨p, _, [], run, rfl, (List.append_nil _).symm⟩
  have here : (compile scope e).result = .ok p := by rw [run]
  refine ⟨resolves_iff.mpr ⟨everywhere_not.mpr ⟨rfl, known⟩, _, _, compiled, quiet⟩,
    fun actor record => ?_⟩
  rw [truth_of_compiled (by rw [compiled]), truth_of_compiled here,
    Predicate.truth_negate (resolves.compiled here)]

end Resolves

/-! ## Frames -/

/-- An expression with a hole that stands under connectives only. -/
inductive Frame where
  | hole
  | any (before : List Expr) (inside : Frame) (after : List Expr)
  | all (before : List Expr) (inside : Frame) (after : List Expr)
  | not (inside : Frame)

namespace Frame

def fill (e : Expr) : Frame → Expr
  | hole => e
  | any before inside after => .any (before ++ fill e inside :: after)
  | all before inside after => .all (before ++ fill e inside :: after)
  | not inside => .not (fill e inside)

/-- The operands that stand beside the hole. -/
def siblings : Frame → List Expr
  | hole => []
  | any before inside after => before ++ (siblings inside ++ after)
  | all before inside after => before ++ (siblings inside ++ after)
  | not inside => siblings inside

def isNegated : Frame → Bool
  | hole => Bool.false
  | any _ inside _ => isNegated inside
  | all _ inside _ => isNegated inside
  | not inside => !isNegated inside

/-! ## Filling the hole -/

section Fill

variable {scope : Scope} {frame : Frame} {e e' : Expr} {before after : List Expr}
  {actor record : Value}

theorem resolves_operands (beside : ∀ sibling ∈ before ++ after, sibling.Resolves scope)
    (resolves : e.Resolves scope) : ∀ operand ∈ before ++ e :: after, operand.Resolves scope := by
  rw [List.forall_mem_append] at beside
  exact List.forall_mem_append.mpr ⟨beside.1, List.forall_mem_cons.mpr ⟨resolves, beside.2⟩⟩

theorem siblings_beside {inside : Frame}
    (siblings : ∀ sibling ∈ before ++ (inside.siblings ++ after), sibling.Resolves scope) :
    (∀ sibling ∈ before ++ after, sibling.Resolves scope) ∧
      ∀ sibling ∈ inside.siblings, sibling.Resolves scope := by
  simp only [List.forall_mem_append] at siblings ⊢
  exact ⟨⟨siblings.1, siblings.2.2⟩, siblings.2.1⟩

theorem resolves_fill (siblings : ∀ sibling ∈ frame.siblings, sibling.Resolves scope)
    (resolves : e.Resolves scope) : (frame.fill e).Resolves scope := by
  induction frame with
  | hole => exact resolves
  | any before inside after ih =>
      obtain ⟨beside, within⟩ := siblings_beside siblings
      exact (resolves_any (resolves_operands beside (ih within))).1
  | all before inside after ih =>
      obtain ⟨beside, within⟩ := siblings_beside siblings
      exact (resolves_all (resolves_operands beside (ih within))).1
  | not inside ih => exact (resolves_not (ih siblings)).1

theorem truth_any_operand (each : ∀ operand ∈ before ++ e :: after, operand.Resolves scope) :
    (Expr.any (before ++ e :: after)).truth scope actor record =
      (Truth.any (before.map (truth scope actor record))).or
        ((e.truth scope actor record).or (Truth.any (after.map (truth scope actor record)))) := by
  rw [(resolves_any each).2, List.map_append, List.map_cons, Truth.any_append, Truth.any_cons]

theorem truth_all_operand (each : ∀ operand ∈ before ++ e :: after, operand.Resolves scope) :
    (Expr.all (before ++ e :: after)).truth scope actor record =
      (Truth.all (before.map (truth scope actor record))).and
        ((e.truth scope actor record).and (Truth.all (after.map (truth scope actor record)))) := by
  rw [(resolves_all each).2, List.map_append, List.map_cons, Truth.all_append, Truth.all_cons]

/-- A truer filler makes the whole truer, or falser if the hole is negated. -/
theorem ordered_fill (siblings : ∀ sibling ∈ frame.siblings, sibling.Resolves scope)
    (first : e.Resolves scope) (second : e'.Resolves scope)
    {actor record : Value}
    (below : Truth.Below (e.truth scope actor record) (e'.truth scope actor record)) :
    Truth.Ordered frame.isNegated ((frame.fill e).truth scope actor record)
      ((frame.fill e').truth scope actor record) := by
  induction frame with
  | hole => exact below
  | any before inside after ih =>
      obtain ⟨beside, within⟩ := siblings_beside siblings
      have one := resolves_fill within first
      have other := resolves_fill within second
      rw [fill, fill, truth_any_operand (resolves_operands beside one),
        truth_any_operand (resolves_operands beside other)]
      refine (Truth.Ordered.refl _ _).or ((ih within).or (.refl _ _) ?_ ?_) ?_ ?_
      · exact ⟨one.isProper_truth, other.isProper_truth⟩
      · exact ⟨Truth.isProper_any _, Truth.isProper_any _⟩
      · exact ⟨Truth.isProper_any _, Truth.isProper_any _⟩
      · exact ⟨Truth.isProper_or _ _, Truth.isProper_or _ _⟩
  | all before inside after ih =>
      obtain ⟨beside, within⟩ := siblings_beside siblings
      have one := resolves_fill within first
      have other := resolves_fill within second
      rw [fill, fill, truth_all_operand (resolves_operands beside one),
        truth_all_operand (resolves_operands beside other)]
      refine (Truth.Ordered.refl _ _).and ((ih within).and (.refl _ _) ?_ ?_) ?_ ?_
      · exact ⟨one.isProper_truth, other.isProper_truth⟩
      · exact ⟨Truth.isProper_all _, Truth.isProper_all _⟩
      · exact ⟨Truth.isProper_all _, Truth.isProper_all _⟩
      · exact ⟨Truth.isProper_and _ _, Truth.isProper_and _ _⟩
  | not inside ih =>
      have one : (inside.fill e).Resolves scope := resolves_fill siblings first
      have other : (inside.fill e').Resolves scope := resolves_fill siblings second
      rw [fill, fill, (resolves_not one).2, (resolves_not other).2]
      exact (ih siblings).not ⟨one.isProper_truth, other.isProper_truth⟩

/-! ## Null in the hole -/

theorem compileAll_operand (same : compile scope e = compile scope e') :
    compileAll scope (before ++ e :: after) = compileAll scope (before ++ e' :: after) := by
  induction before with
  | nil => exact congrArg (· >>= _) same
  | cons sibling before ih => simp only [List.cons_append, compileAll, ih]

/-- Null is compiled as false is, wherever it stands. -/
theorem compile_fill_null (scope : Scope) (frame : Frame) :
    compile scope (frame.fill (.literal .null)) = compile scope (frame.fill .false) := by
  induction frame with
  | hole => rfl
  | any _ _ _ ih | all _ _ _ ih => exact congrArg (· >>= _) (compileAll_operand ih)
  | not inside ih =>
      cases inside with
      | hole => rfl
      | any _ _ _ | all _ _ _ | not _ => exact congrArg (· >>= _) ih

/-- What fills the hole lies between false and true, and the whole between the wholes. -/
theorem holds_fill (siblings : ∀ sibling ∈ frame.siblings, sibling.Resolves scope)
    (resolves : e.Resolves scope) (actor record : Value) :
    (((frame.fill .false).truth scope actor record).holds →
        (frame.isNegated → ((frame.fill .true).truth scope actor record).holds) →
        ((frame.fill e).truth scope actor record).holds) ∧
      (frame.isNegated → ((frame.fill e).truth scope actor record).holds →
        ((frame.fill .false).truth scope actor record).holds) := by
  have least : Truth.Ordered frame.isNegated ((frame.fill .false).truth scope actor record)
      ((frame.fill e).truth scope actor record) :=
    ordered_fill siblings (resolves_bool scope Bool.false) resolves (Truth.below_no _)
  have most : Truth.Ordered frame.isNegated ((frame.fill e).truth scope actor record)
      ((frame.fill .true).truth scope actor record) :=
    ordered_fill siblings resolves (resolves_bool scope Bool.true) (Truth.below_yes _)
  simp only [Truth.holds_iff]
  cases negated : frame.isNegated with
  | false =>
      rw [negated] at least
      exact ⟨fun blank _ => least.yes blank, nofun⟩
  | true =>
      rw [negated] at least most
      exact ⟨fun _ granted => most.yes (granted rfl), fun _ filled => least.yes filled⟩

end Fill

end Frame

/-- What an expression with a meaning compiles to grants access if and only if the expression is
true, unless it stops at an unloaded relationship or at an undefined number. -/
theorem Resolves.check {scope : Scope} {e : Expr} (resolves : e.Resolves scope) :
    ∃ check, (scope.recordCheck e).result = .ok check ∧ ∀ mode record actor,
      (check.condition.grants mode record actor).EndsAs (Interrupted mode actor record)
        (pure (e.truth scope actor record).holds) := by
  obtain ⟨check, checked, _⟩ := resolves.compiles
  have compiled := Scope.compile_of_recordCheck checked
  refine ⟨check, checked, fun mode record actor => ?_⟩
  rw [truth_of_compiled compiled]
  exact (resolves.compiled compiled).endsAs_truth mode record actor

end Expr

/-- Null in a policy is compiled as false is. Where a policy with null in its hole grants access, so
does the policy with anything else there, unless the hole is negated and true in it denies. Under a
negation null grants whatever anything else does. -/
theorem grants_of_null {scope : Scope} {frame : Expr.Frame} {e : Expr}
    (siblings : ∀ sibling ∈ frame.siblings, sibling.Resolves scope) (resolves : e.Resolves scope) :
    ∃ blank granted filled,
      (scope.recordCheck (frame.fill (.literal .null))).result = .ok blank ∧
      (scope.recordCheck (frame.fill .false)).result = .ok blank ∧
      (scope.recordCheck (frame.fill .true)).result = .ok granted ∧
      (scope.recordCheck (frame.fill e)).result = .ok filled ∧
      ∀ mode record actor,
        ((blank.condition.grants mode record actor).result = .ok true →
          (frame.isNegated → (granted.condition.grants mode record actor).result = .ok true) →
          (filled.condition.grants mode record actor).EndsAs (Interrupted mode actor record)
            (pure true)) ∧
        (frame.isNegated → (filled.condition.grants mode record actor).result = .ok true →
          (blank.condition.grants mode record actor).EndsAs (Interrupted mode actor record)
            (pure true)) := by
  have least := Expr.Frame.resolves_fill siblings (Expr.resolves_bool scope false)
  have most := Expr.Frame.resolves_fill siblings (Expr.resolves_bool scope true)
  obtain ⟨blank, blankRun, blankEnds⟩ := least.check
  obtain ⟨granted, grantedRun, grantedEnds⟩ := most.check
  obtain ⟨filled, filledRun, filledEnds⟩ := (Expr.Frame.resolves_fill siblings resolves).check
  refine ⟨blank, granted, filled, ?_, blankRun, grantedRun, filledRun, fun mode record actor => ?_⟩
  · rw [Scope.recordCheck, Expr.Frame.compile_fill_null]
    exact blankRun
  obtain ⟨forward, backward⟩ := Expr.Frame.holds_fill siblings resolves actor record
  constructor
  · intro blankGrants grants
    have holds := forward (Except.ok.inj ((blankEnds mode record actor).eq_of_ok blankGrants))
      fun negated => Except.ok.inj ((grantedEnds mode record actor).eq_of_ok (grants negated))
    rw [← holds]
    exact filledEnds mode record actor
  · intro negated filledGrants
    have holds := backward negated
      (Except.ok.inj ((filledEnds mode record actor).eq_of_ok filledGrants))
    rw [← holds]
    exact blankEnds mode record actor

/-- The policy that shows open posts, and every post of which something is not true. -/
def Expr.Frame.openOrNot : Expr.Frame :=
  .any [.condition (.compare .eq) (.column "status" none) (.literal ⟨.text, .text "open"⟩)]
    (.not .hole) []

/-- The condition that a post has a status. -/
def Expr.hasStatus : Expr :=
  .condition (.null Bool.true) (.column "status" none) (.literal .null)

theorem grants_of_null_openOrNot :
    Expr.parse "status = 'open' OR NOT NULL" "Post" =
        .ok (Expr.Frame.openOrNot.fill (.literal .null)) ∧
      (∀ sibling ∈ Expr.Frame.openOrNot.siblings, sibling.Resolves .blog) ∧
      Expr.hasStatus.Resolves .blog ∧
      ∃ filled,
        (Scope.blog.recordCheck (Expr.Frame.openOrNot.fill .hasStatus)).result = .ok filled ∧
        (filled.condition.grants .deny (.mapping [("status", .text "open")]) .null).result =
          .ok true := by
  have siblings : ∀ sibling ∈ Expr.Frame.openOrNot.siblings, sibling.Resolves .blog := by
    refine List.forall_mem_singleton.mpr ⟨?_, _, by with_unfolding_all rfl, by decide +kernel⟩
    exact Expr.everywhere_condition.mpr
      ⟨rfl, List.forall_mem_singleton.mpr rfl, List.forall_mem_singleton.mpr rfl⟩
  have resolves : Expr.hasStatus.Resolves .blog := by
    refine ⟨?_, _, by with_unfolding_all rfl, by decide +kernel⟩
    exact Expr.everywhere_condition.mpr
      ⟨rfl, List.forall_mem_singleton.mpr rfl, List.forall_mem_singleton.mpr rfl⟩
  obtain ⟨blank, granted, filled, blankRun, _, grantedRun, filledRun, grants⟩ :=
    grants_of_null siblings resolves
  have ends := (grants .deny (.mapping [("status", .text "open")]) .null).1
    (by cases blankRun; with_unfolding_all rfl) fun _ => by cases grantedRun; with_unfolding_all rfl
  refine ⟨by with_unfolding_all rfl, siblings, resolves, filled, filledRun, ?_⟩
  rcases ends with granted | ⟨_, _, ⟨fails, _⟩ | ⟨_, undefined⟩⟩
  · exact granted
  · cases fails
  · exact absurd ⟨rfl, rfl⟩ undefined

/-- The negation of null grants access, and the negation of true denies it: null in the place of a
condition is not the unknown. -/
theorem notNull_granted_notTrue_denied :
    Expr.parse "NOT NULL" "Post" = .ok (Expr.Frame.fill (.literal .null) (.not .hole)) ∧
      Expr.parse "NOT true" "Post" = .ok (Expr.Frame.fill .true (.not .hole)) ∧
      Expr.true.Resolves .blog ∧
      ∃ blank filled,
        (Scope.blog.recordCheck (Expr.Frame.fill (.literal .null) (.not .hole))).result =
          .ok blank ∧
        (Scope.blog.recordCheck (Expr.Frame.fill .true (.not .hole))).result = .ok filled ∧
        (blank.condition.grants .deny .null .null).result = .ok true ∧
        (filled.condition.grants .deny .null .null).result = .ok false :=
  ⟨by with_unfolding_all rfl, by with_unfolding_all rfl,
    Expr.resolves_bool .blog true, _, _, rfl, rfl, rfl, rfl⟩

end RowGuard
