import RowGuard.Proofs.Predicate.Compilation
import RowGuard.Proofs.Predicate.NullSafety

/-! The null-safe fragment of policies. Negation stands only in front of what
does not depend on the record, or of expressions built from tests of the
entity's own columns, tests for null and conditions on to-many relations; a
choice is made only by conditions that a row matches or is left over by. A
policy of the fragment compiles to a safe predicate. -/

set_option autoImplicit false

namespace RowGuard

open Compilation (Event)
open Traced (Each)

/-! ## Columns -/

/-- Whether a field is found beyond a to-many relation. -/
def Location.isToMany : Location → Bool
  | .related _ .one _ _ => false
  | .related _ _ _ _ => true
  | .junction _ => true
  | _ => false

namespace Scope

/-- An expression that is a column of the policy's entity. -/
def Direct (scope : Scope) (e : Expr) : Prop :=
  ∃ name qualifier field, e = .column name qualifier ∧
    Location.ofName scope.graph scope.entity name qualifier = .direct field

/-- An expression that is a column beyond a to-many relation. -/
def ToMany (scope : Scope) (e : Expr) : Prop :=
  ∃ name qualifier, e = .column name qualifier ∧
    (Location.ofName scope.graph scope.entity name qualifier).isToMany

variable {scope : Scope} {e : Expr} {found : Option Predicate.Side} {events : List Event}

theorem side_of_direct (direct : scope.Direct e)
    (run : Predicate.side? scope false e = ⟨.ok found, events⟩) :
    ∃ field, found = some ⟨.record [field], none, []⟩ := by
  obtain ⟨name, qualifier, field, rfl, location⟩ := direct
  have place : scope.locate false name qualifier = pure (.field (.direct field)) := by
    unfold locate
    rw [location]
  obtain ⟨reference, _, _, located, ended, rfl⟩ := Traced.bind_eq_ok_iff.mp run
  rw [place, Traced.pure_eq_ok_iff] at located
  obtain ⟨rfl, rfl⟩ := located
  obtain ⟨rfl, rfl⟩ := Traced.pure_eq_ok_iff.mp ended
  exact ⟨field, rfl⟩

theorem side_of_toMany (toMany : scope.ToMany e)
    (run : Predicate.side? scope false e = ⟨.ok found, events⟩) :
    ∃ side, found = some side ∧ side.relation.isSome := by
  obtain ⟨name, qualifier, rfl, many⟩ := toMany
  have place : scope.locate false name qualifier =
      pure (.field (Location.ofName scope.graph scope.entity name qualifier)) := by
    unfold locate
    cases location : Location.ofName scope.graph scope.entity name qualifier with
    | direct _ => rfl
    | notFound _ _ => rw [location] at many; cases many
    | related _ _ _ _ | junction _ => cases qualifier with | none => rfl | some _ => rfl
  obtain ⟨reference, _, _, located, ended, rfl⟩ := Traced.bind_eq_ok_iff.mp run
  rw [place, Traced.pure_eq_ok_iff] at located
  obtain ⟨rfl, rfl⟩ := located
  obtain ⟨rfl, rfl⟩ := Traced.pure_eq_ok_iff.mp ended
  cases location : Location.ofName scope.graph scope.entity name qualifier with
  | direct _ | notFound _ _ => rw [location] at many; cases many
  | junction place => exact ⟨_, rfl, rfl⟩
  | related relation cardinality field target =>
      cases cardinality with
      | one => rw [location] at many; cases many
      | many | other _ => exact ⟨_, rfl, rfl⟩

end Scope

/-! ## The fragment -/

namespace Expr

/-- Expressions built from tests of the entity's own columns, tests for null and conditions on
to-many relations. -/
inductive Exact (scope : Scope) : Expr → Prop where
  | any {operands : List Expr} : (∀ e ∈ operands, Exact scope e) → Exact scope (.any operands)
  | all {operands : List Expr} : (∀ e ∈ operands, Exact scope e) → Exact scope (.all operands)
  | not {operand : Expr} : Exact scope operand → Exact scope (.not operand)
  | literal {item : Literal} : Exact scope (.literal item)
  | compare {comparator : Comparator} {left right : Expr} :
      scope.Direct left ∨ scope.Direct right →
      Exact scope (.condition (.compare comparator) left right)
  | member {negated : Bool} {left right : Expr} :
      scope.Direct left → Exact scope (.condition (.member negated) left right)
  | null {negated : Bool} {left right : Expr} : Exact scope (.condition (.null negated) left right)
  | related {operator : Operator} {left right : Expr} :
      scope.ToMany left ∨ scope.ToMany right → Exact scope (.condition operator left right)
  | value {e : Expr} : scope.Direct e ∨ scope.ToMany e → Exact scope e

/-- What the fragment asks of a node: of a negation, of a list that something is not in, and of the
conditions of a choice. -/
def isNullSafe (scope : Scope) : Expr → Prop
  | .not operand =>
    (∀ p events, Predicate.compile scope operand = ⟨.ok p, events⟩ → p.readsRecord = Bool.false) ∨
      operand.Exact scope
  | .condition (.member Bool.true) left (.array items) =>
    Predicate.literalValues? items = none → scope.Direct left
  | .choice none branches _ =>
    ∀ branch ∈ branches, ∀ p events,
      Predicate.compile scope branch.1 = ⟨.ok p, events⟩ → p.Decisive
  | .choice (some subject) branches _ =>
    ∀ branch ∈ branches, ∀ operand key first second,
      Predicate.subject? scope Bool.true subject = ⟨.ok (some operand), first⟩ →
      Predicate.subject? scope Bool.false branch.1 = ⟨.ok (some key), second⟩ →
      (Predicate.oriented .eq operand key).Decisive
  | _ => True

/-- The null-safe fragment. -/
def NullSafe (scope : Scope) (e : Expr) : Prop :=
  e.Everywhere (isNullSafe scope)

variable {scope : Scope} {e : Expr}

theorem eq_column_of_value (value : scope.Direct e ∨ scope.ToMany e) :
    ∃ name qualifier, e = .column name qualifier := by
  obtain ⟨name, qualifier, _, same, _⟩ | ⟨name, qualifier, same, _⟩ := value
  · exact ⟨name, qualifier, same⟩
  · exact ⟨name, qualifier, same⟩

theorem exact_any_iff {es : List Expr} : (Expr.any es).Exact scope ↔ ∀ e ∈ es, e.Exact scope := by
  refine ⟨fun exact => ?_, .any⟩
  cases exact with
  | any operands => exact operands
  | value value => obtain ⟨_, _, same⟩ := eq_column_of_value value; cases same

theorem exact_all_iff {es : List Expr} : (Expr.all es).Exact scope ↔ ∀ e ∈ es, e.Exact scope := by
  refine ⟨fun exact => ?_, .all⟩
  cases exact with
  | all operands => exact operands
  | value value => obtain ⟨_, _, same⟩ := eq_column_of_value value; cases same

theorem exact_not_iff : (Expr.not e).Exact scope ↔ e.Exact scope := by
  refine ⟨fun exact => ?_, .not⟩
  cases exact with
  | not operand => exact operand
  | value value => obtain ⟨_, _, same⟩ := eq_column_of_value value; cases same

end Expr

namespace Predicate

variable {scope : Scope} {p : Predicate} {events : List Event}

/-! ## Conditions -/

theorem not_quiet_standIn {e : Expr} {kind : String} {related : Option String}
    (compiled : standIn scope e kind related = ⟨.ok p, events⟩) : ¬Compilation.Quiet events := by
  obtain ⟨text, _, reported⟩ := standIn_eq_ok compiled
  exact fun quiet => quiet text reported

theorem Joins.sides_of_quiet {left right : Expr} {join : Side → Side → Option Predicate}
    (joins : Joins scope left right join p events) (quiet : Compilation.Quiet events) :
    ∃ l r before after, side? scope Bool.false left = ⟨.ok (some l), before⟩ ∧
      side? scope Bool.false right = ⟨.ok (some r), after⟩ ∧ join l r = some p := by
  cases joins with
  | sides leftRun rightRun joined => exact ⟨_, _, _, _, leftRun, rightRun, joined⟩
  | standIn run =>
      rw [Compilation.quiet_append_iff] at quiet
      exact (not_quiet_standIn run quiet.2).elim

theorem safe_through (side : Side) (test : p.isTest) : (side.through p).Safe := by
  rw [Side.through]
  split
  · exact .test test
  · exact .exact .anyRelated

theorem exact_through {side : Side} (exact : side.relation = none → p.Exact) :
    (side.through p).Exact := by
  rw [Side.through]
  split
  · next near => exact exact near
  · exact .anyRelated

theorem exact_oriented {comparator : Comparator} {left right : Operand}
    (direct : left.isDirect ∨ right.isDirect) : (oriented comparator left right).Exact := by
  obtain same | ⟨flipped, turned, _⟩ := oriented_cases comparator left right
  · rw [same]
    exact .compare direct
  · rw [turned]
    exact .compare direct.symm

theorem safe_ofComparison {comparator : Comparator} {left right : Expr}
    (compiled : ofComparison scope comparator left right = ⟨.ok p, events⟩)
    (quiet : Compilation.Quiet events) : p.Safe := by
  obtain ⟨l, r, _, _, _, _, joined⟩ := (joins_ofComparison compiled).sides_of_quiet quiet
  obtain ⟨side, _, rfl, _⟩ := (joined_ofSides joined).exists_through
  exact safe_through side (isTest_oriented _ _ _)

theorem exact_ofComparison {comparator : Comparator} {left right : Expr}
    (columns : (scope.Direct left ∨ scope.Direct right) ∨ scope.ToMany left ∨ scope.ToMany right)
    (compiled : ofComparison scope comparator left right = ⟨.ok p, events⟩)
    (quiet : Compilation.Quiet events) : p.Exact := by
  obtain ⟨l, r, _, _, leftRun, rightRun, joined⟩ :=
    (joins_ofComparison compiled).sides_of_quiet quiet
  obtain ⟨side, _, rfl, near⟩ := (joined_ofSides joined).exists_through
  refine exact_through fun none => ?_
  obtain ⟨leftNear, rightNear⟩ := near none
  obtain (direct | direct) | toMany | toMany := columns
  · obtain ⟨field, same⟩ := Scope.side_of_direct direct leftRun
    cases same
    exact exact_oriented (.inl rfl)
  · obtain ⟨field, same⟩ := Scope.side_of_direct direct rightRun
    cases same
    exact exact_oriented (.inr rfl)
  · obtain ⟨_, same, far⟩ := Scope.side_of_toMany toMany leftRun
    cases same
    rw [leftNear] at far
    cases far
  · obtain ⟨_, same, far⟩ := Scope.side_of_toMany toMany rightRun
    cases same
    rw [rightNear] at far
    cases far

theorem safe_ofMembership {negated : Bool} {left right : Expr}
    (compiled : ofMembership scope negated left right = ⟨.ok p, events⟩)
    (quiet : Compilation.Quiet events) : p.Safe := by
  obtain ⟨l, r, _, _, _, _, joined⟩ := (joins_ofMembership compiled).sides_of_quiet quiet
  obtain ⟨side, _, rfl, _⟩ := (joined_memberOfSides joined).exists_through
  exact safe_through side rfl

theorem exact_ofMembership {negated : Bool} {left right : Expr}
    (columns : scope.Direct left ∨ scope.ToMany left ∨ scope.ToMany right)
    (compiled : ofMembership scope negated left right = ⟨.ok p, events⟩)
    (quiet : Compilation.Quiet events) : p.Exact := by
  obtain ⟨l, r, _, _, leftRun, rightRun, joined⟩ :=
    (joins_ofMembership compiled).sides_of_quiet quiet
  obtain ⟨side, _, rfl, near⟩ := (joined_memberOfSides joined).exists_through
  refine exact_through fun none => ?_
  obtain ⟨leftNear, rightNear⟩ := near none
  obtain direct | toMany | toMany := columns
  · obtain ⟨field, same⟩ := Scope.side_of_direct direct leftRun
    cases same
    exact .member rfl
  · obtain ⟨_, same, far⟩ := Scope.side_of_toMany toMany leftRun
    cases same
    rw [leftNear] at far
    cases far
  · obtain ⟨_, same, far⟩ := Scope.side_of_toMany toMany rightRun
    cases same
    rw [rightNear] at far
    cases far

theorem safe_markRole (safe : p.Safe) : (markRole p).Safe := by
  rw [markRole]
  split
  · exact .role safe
  · exact safe

theorem exact_markRole (exact : p.Exact) : (markRole p).Exact := by
  rw [markRole]
  split
  · exact .role exact
  · exact exact

theorem exact_anyOf {ps : List Predicate} (exact : ∀ p ∈ ps, p.Exact) : (anyOf ps).Exact :=
  anyOf_induction (fun _ => .const) (fun _ => exact_any_iff) exact

theorem exact_allOf {ps : List Predicate} (exact : ∀ p ∈ ps, p.Exact) : (allOf ps).Exact :=
  allOf_induction (fun _ => .const) (fun _ => exact_all_iff) exact

theorem safe_anyOf {ps : List Predicate} (safe : ∀ p ∈ ps, p.Safe) : (anyOf ps).Safe :=
  anyOf_induction (fun _ => .exact .const) (fun _ => safe_any_iff) safe

theorem safe_allOf {ps : List Predicate} (safe : ∀ p ∈ ps, p.Safe) : (allOf ps).Safe :=
  allOf_induction (fun _ => .exact .const) (fun _ => safe_all_iff) safe

theorem exact_negate (exact : p.Exact) : p.negate.Exact := by
  cases exact with
  | const => exact .const
  | not operand => exact operand
  | all operands => exact .not (.all operands)
  | any operands => exact .not (.any operands)
  | compare direct => exact .not (.compare direct)
  | member direct => exact .not (.member direct)
  | isNull => exact .not .isNull
  | anyRelated => exact .not .anyRelated
  | role condition => exact .not (.role condition)

theorem readsRecord_negate (unread : p.readsRecord = Bool.false) :
    p.negate.readsRecord = Bool.false := by
  cases p with
  | unresolved _ => cases unread
  | const _ => rfl
  | all _ | any _ | not _ | compare _ _ _ | member _ _ _ | isNull _ _ | anyRelated _ _ _
  | select _ _ _ | firstOf _ _ | role _ | foreign _ => exact unread

theorem safe_ofEqualities {left : Expr} {items : List Expr} {ps : List Predicate}
    (compiled : ofEqualities scope left items = ⟨.ok ps, events⟩)
    (quiet : Compilation.Quiet events) :
    (∀ p ∈ ps, p.Safe) ∧ (scope.Direct left ∨ scope.ToMany left → ∀ p ∈ ps, p.Exact) := by
  have each := each_ofEqualities compiled
  constructor
  · refine each.forall_right fun item _ p part within => ?_
    rintro ⟨q, run, rfl⟩
    exact safe_markRole (safe_ofComparison run (quiet.mono within))
  · refine fun column => each.forall_right fun item _ p part within => ?_
    rintro ⟨q, run, rfl⟩
    exact exact_markRole (exact_ofComparison (column.imp .inl .inl) run (quiet.mono within))

theorem safe_ofCondition {operator : Operator} {left right : Expr}
    (fragment : (Expr.condition operator left right).isNullSafe scope)
    (compiled : ofCondition scope operator left right = ⟨.ok p, events⟩)
    (quiet : Compilation.Quiet events) :
    p.Safe ∧ ((Expr.condition operator left right).Exact scope → p.Exact) := by
  have columns {negated : Bool}
      (exact : (Expr.condition (.member negated) left right).Exact scope) :
      scope.Direct left ∨ scope.ToMany left ∨ scope.ToMany right := by
    cases exact with
    | member direct => exact .inl direct
    | related toMany => exact .inr toMany
    | value value => obtain ⟨_, _, same⟩ := Expr.eq_column_of_value value; cases same
  cases conditionRun_of_condition compiled with
  | comparison run =>
      refine ⟨safe_ofComparison run quiet, fun exact => exact_ofComparison ?_ run quiet⟩
      cases exact with
      | compare direct => exact .inl direct
      | related toMany => exact .inr toMany
      | value value => obtain ⟨_, _, same⟩ := Expr.eq_column_of_value value; cases same
  | membership run =>
      exact ⟨safe_ofMembership run quiet,
        fun exact => exact_ofMembership (columns exact) run quiet⟩
  | @equalities negated _ ps _ someItem run =>
      obtain ⟨safe, exact⟩ := safe_ofEqualities run quiet
      have exact (column : scope.Direct left ∨ scope.ToMany left) :
          (if negated then (anyOf ps).negate else anyOf ps).Exact := by
        split
        · exact exact_negate (exact_anyOf (exact column))
        · exact exact_anyOf (exact column)
      constructor
      · cases negated with
        | false => exact safe_anyOf safe
        | true => exact .exact (exact (.inl (fragment someItem)))
      · intro isExact
        obtain direct | toMany | toMany := columns isExact
        · exact exact (.inl direct)
        · exact exact (.inr toMany)
        · obtain ⟨_, _, same⟩ := Expr.eq_column_of_value (.inr toMany)
          cases same
  | null run => exact ⟨safe_through _ rfl, fun _ => exact_through fun _ => .isNull⟩
  | standIn run => exact (not_quiet_standIn run (Compilation.quiet_append_iff.mp quiet).2).elim

theorem safe_ofValue {e : Expr} (isValue : e.isValue)
    (compiled : ofValue scope e = ⟨.ok p, events⟩) (quiet : Compilation.Quiet events) :
    p.Safe ∧ (e.Exact scope → p.Exact) := by
  cases valueRun_of_value compiled with
  | side run =>
      refine ⟨safe_through _ rfl, fun exact => exact_through fun near => ?_⟩
      have column : scope.Direct e ∨ scope.ToMany e := by
        cases exact with
        | value value => exact value
        | any _ | all _ | not _ | literal | compare _ | member _ | null | related _ => cases isValue
      obtain direct | toMany := column
      · obtain ⟨field, same⟩ := Scope.side_of_direct direct run
        cases same
        exact .compare (.inl rfl)
      · obtain ⟨_, same, far⟩ := Scope.side_of_toMany toMany run
        cases same
        rw [near] at far
        cases far
  | standIn run => exact (not_quiet_standIn run (Compilation.quiet_append_iff.mp quiet).2).elim

theorem exact_ofLiteral {item : Literal} (compiled : ofLiteral scope item = ⟨.ok p, events⟩)
    (quiet : Compilation.Quiet events) : p.Exact := by
  obtain ⟨b, rfl⟩ | standsIn := ofLiteral_eq_ok compiled
  · exact .const
  · exact (not_quiet_standIn standsIn quiet).elim

/-! ## Runs -/

/-- The statement that a quiet run on an expression of the fragment ends in a safe predicate, and
in an exact one where the expression is exact. -/
def Guarded (scope : Scope) (e : Expr) (p : Predicate) (events : List Event) : Prop :=
  e.NullSafe scope → Compilation.Quiet events → p.Safe ∧ (e.Exact scope → p.Exact)

theorem safe_of_otherwise {otherwise : Option Expr}
    (run : Otherwise (Ran scope (Guarded scope)) otherwise p events)
    (fragment : ∀ e ∈ otherwise, e.NullSafe scope) (quiet : Compilation.Quiet events) : p.Safe := by
  cases run with
  | none => exact .exact .const
  | some ran => exact (ran.2 (fragment _ rfl) quiet).1

theorem not_exact_choice {subject otherwise : Option Expr} {branches : List (Expr × Expr)} :
    ¬(Expr.choice subject branches otherwise).Exact scope := by
  intro exact
  cases exact with
  | value value => obtain ⟨_, _, same⟩ := Expr.eq_column_of_value value; cases same

theorem invariant_guarded (scope : Scope) : Invariant scope (Guarded scope) where
  any each fragment quiet := by
    have operands := (Expr.everywhere_any.mp fragment).2
    constructor
    · refine safe_anyOf (each.forall_right fun e member p part within ran => ?_)
      exact (ran.2 (operands e member) (quiet.mono within)).1
    · intro exact
      refine exact_anyOf (each.forall_right fun e member p part within ran => ?_)
      exact (ran.2 (operands e member) (quiet.mono within)).2
        (Expr.exact_any_iff.mp exact e member)
  all each fragment quiet := by
    have operands := (Expr.everywhere_all.mp fragment).2
    constructor
    · refine safe_allOf (each.forall_right fun e member p part within ran => ?_)
      exact (ran.2 (operands e member) (quiet.mono within)).1
    · intro exact
      refine exact_allOf (each.forall_right fun e member p part within ran => ?_)
      exact (ran.2 (operands e member) (quiet.mono within)).2
        (Expr.exact_all_iff.mp exact e member)
  not ran fragment quiet := by
    obtain ⟨negation, operand⟩ := Expr.everywhere_not.mp fragment
    obtain ⟨_, exact⟩ := ran.2 operand quiet
    refine ⟨?_, fun whole => exact_negate (exact (Expr.exact_not_iff.mp whole))⟩
    obtain unread | inner := negation
    · exact .unread (readsRecord_negate (unread _ _ ran.1))
    · exact .exact (exact_negate (exact inner))
  literal compiled _ quiet :=
    ⟨.exact (exact_ofLiteral compiled quiet), fun _ => exact_ofLiteral compiled quiet⟩
  condition compiled fragment quiet :=
    (safe_ofCondition (Expr.everywhere_condition.mp fragment).1 compiled quiet).imp safe_markRole
      (exact_markRole ∘ ·)
  value isValue compiled _ quiet :=
    (safe_ofValue isValue compiled quiet).imp safe_markRole (exact_markRole ∘ ·)
  firstOf each last fragment quiet := by
    obtain ⟨decisive, _, branches, otherwise⟩ := Expr.everywhere_choice.mp fragment
    rw [Compilation.quiet_append_iff] at quiet
    refine ⟨safe_markRole (.choice .firstOf ?_ ?_ (safe_of_otherwise last otherwise quiet.2)),
      fun exact => (not_exact_choice exact).elim⟩
    · refine each.forall_right fun branch member _ part within step => ?_
      obtain ⟨_, _, key, _, rfl⟩ := step
      exact decisive branch member _ _ key.1
    · refine each.forall_right fun branch member _ part within step => ?_
      obtain ⟨_, _, _, outcome, rfl⟩ := step
      have quiet := Compilation.quiet_append_iff.mp (quiet.1.mono within)
      exact (outcome.2 (branches branch member).2 quiet.2).1
  select subject keys each last fragment quiet := by
    obtain ⟨decisive, _, branches, otherwise⟩ := Expr.everywhere_choice.mp fragment
    simp only [Compilation.quiet_append_iff] at quiet
    have keyDecisive := (each_keys keys).forall_right fun branch member key _ _ found =>
      decisive branch member _ key _ _ subject found
    have outcomeSafe := each.forall_right fun e member p part within ran => by
      obtain ⟨branch, among, rfl⟩ := List.mem_map.mp member
      exact (ran.2 (branches branch among).2 (quiet.2.2.1.mono within)).1
    refine ⟨safe_markRole (.choice .select ?_ ?_ (safe_of_otherwise last otherwise quiet.2.2.2)),
      fun exact => (not_exact_choice exact).elim⟩
    · refine List.forall_mem_map.mpr fun branch member => ?_
      exact keyDecisive _ (List.of_mem_zip member).1
    · refine List.forall_mem_map.mpr fun branch member => ?_
      exact outcomeSafe _ (List.of_mem_zip member).2
  standIn _ compiled _ quiet :=
    (not_quiet_standIn compiled (Compilation.quiet_append_iff.mp quiet).2).elim

end Predicate

end RowGuard
