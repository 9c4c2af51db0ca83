import RowGuard.Proofs.Predicate.Compilation

/-! Where the fields of a predicate stand. A layout has places, with the columns
that can be read at each of them and the relations that lead to others. A
predicate fits a place if every path it reads leads from there to a column, the
conditions on related rows being read at the place where the relation leads. A
policy whose names are found along a layout compiles to a predicate that fits. -/

set_option autoImplicit false

namespace RowGuard

/-- Places with columns, and the relations between them. -/
structure Layout (α : Type) where
  column : α → String → Prop
  step : α → String → α → Prop

namespace Layout

variable {α : Type} (layout : Layout α)

/-- A path over relations to a column. -/
inductive Reads : α → List String → Prop where
  | column {place : α} {field : String} : layout.column place field → Reads place [field]
  | step {place next : α} {relation : String} {path : List String} :
      layout.step place relation next → Reads next path → Reads place (relation :: path)

/-- Whether an operand, if it is a field of the record, is read at a place. -/
def Holds (place : α) (operand : Operand) : Prop :=
  ∀ path, operand = .record path → layout.Reads place path

/-- The layout without obstacles: every name is a column and a relation. -/
def free : Layout Unit where
  column _ _ := True
  step _ _ _ := True

variable {layout} {place : α}

theorem Reads.ne_nil {path : List String} (reads : layout.Reads place path) : path ≠ [] := by
  cases reads with
  | column _ => simp
  | step _ _ => simp

theorem holds_record {path : List String} :
    layout.Holds place (.record path) ↔ layout.Reads place path := by
  simp [Holds]

theorem holds_of_not_isRecord {operand : Operand} (other : ¬operand.isRecord) :
    layout.Holds place operand := by
  rintro path rfl
  exact absurd rfl other

theorem reads_free {path : List String} (some : path ≠ []) : free.Reads () path := by
  induction path with
  | nil => exact absurd rfl some
  | cons name path ih =>
      cases path with
      | nil => exact .column trivial
      | cons next path =>
          have leads : free.step () name () := trivial
          exact .step leads (ih (by simp))

end Layout

namespace Predicate

/-! ## Predicates -/

section Fits

variable {α : Type} (layout : Layout α)

/-- A predicate whose fields are read at a place. -/
inductive Fits : α → Predicate → Prop where
  | const {place : α} {value : Value} : Fits place (.const value)
  | all {place : α} {operands : List Predicate} :
      (∀ p ∈ operands, Fits place p) → Fits place (.all operands)
  | any {place : α} {operands : List Predicate} :
      (∀ p ∈ operands, Fits place p) → Fits place (.any operands)
  | not {place : α} {operand : Predicate} : Fits place operand → Fits place (.not operand)
  | compare {place : α} {comparator : Comparator} {left right : Operand} :
      layout.Holds place left → layout.Holds place right →
      Fits place (.compare comparator left right)
  | member {place : α} {operand values : Operand} {negated : Bool} :
      layout.Holds place operand → Fits place (.member operand values negated)
  | isNull {place : α} {operand : Operand} {negated : Bool} :
      layout.Holds place operand → Fits place (.isNull operand negated)
  | anyRelated {place next : α} {relation : String} {condition : Predicate}
      {joinFields : List String} :
      layout.step place relation next → Fits next condition →
      Fits place (.anyRelated relation condition joinFields)
  | select {place : α} {subject : Operand} {branches : List (Operand × Predicate)}
      {otherwise : Predicate} :
      layout.Holds place subject → (∀ branch ∈ branches, layout.Holds place branch.1) →
      (∀ branch ∈ branches, Fits place branch.2) → Fits place otherwise →
      Fits place (.select subject branches otherwise)
  | firstOf {place : α} {branches : List (Predicate × Predicate)} {otherwise : Predicate} :
      (∀ branch ∈ branches, Fits place branch.1) → (∀ branch ∈ branches, Fits place branch.2) →
      Fits place otherwise → Fits place (.firstOf branches otherwise)
  | role {place : α} {condition : Predicate} : Fits place condition → Fits place (.role condition)
  | unresolved {place : α} {construct : Unresolved} : Fits place (.unresolved construct)

variable {layout} {place : α} {p : Predicate} {ps : List Predicate}

theorem fits_all_iff : (Predicate.all ps).Fits layout place ↔ ∀ p ∈ ps, p.Fits layout place := by
  constructor
  · intro fits
    cases fits with
    | all each => exact each
  · exact .all

theorem fits_any_iff : (Predicate.any ps).Fits layout place ↔ ∀ p ∈ ps, p.Fits layout place := by
  constructor
  · intro fits
    cases fits with
    | any each => exact each
  · exact .any

theorem fits_allOf (each : ∀ p ∈ ps, p.Fits layout place) : (allOf ps).Fits layout place :=
  allOf_induction (fun _ => .const) (fun _ => fits_all_iff) each

theorem fits_anyOf (each : ∀ p ∈ ps, p.Fits layout place) : (anyOf ps).Fits layout place :=
  anyOf_induction (fun _ => .const) (fun _ => fits_any_iff) each

theorem fits_negate (fits : p.Fits layout place) : p.negate.Fits layout place := by
  cases fits with
  | const => exact .const
  | unresolved => exact .unresolved
  | not operand => exact operand
  | all each => exact .not (.all each)
  | any each => exact .not (.any each)
  | compare left right => exact .not (.compare left right)
  | member operand => exact .not (.member operand)
  | isNull operand => exact .not (.isNull operand)
  | anyRelated leads condition => exact .not (.anyRelated leads condition)
  | select subject keys outcomes otherwise => exact .not (.select subject keys outcomes otherwise)
  | firstOf keys outcomes otherwise => exact .not (.firstOf keys outcomes otherwise)
  | role condition => exact .not (.role condition)

theorem fits_markRole (fits : p.Fits layout place) : (markRole p).Fits layout place := by
  rw [markRole]
  split
  · exact .role fits
  · exact fits

theorem fits_oriented {left right : Operand} (onLeft : layout.Holds place left)
    (onRight : layout.Holds place right) (comparator : Comparator) :
    (oriented comparator left right).Fits layout place := by
  rcases oriented_cases comparator left right with same | ⟨flipped, same, _⟩
  · rw [same]
    exact .compare onLeft onRight
  · rw [same]
    exact .compare onRight onLeft

theorem Choice.fits {branches : List (Predicate × Predicate)} {otherwise : Predicate}
    (choice : p.Choice branches otherwise) (fits : p.Fits layout place) :
    (∀ branch ∈ branches, branch.1.Fits layout place ∧ branch.2.Fits layout place) ∧
      otherwise.Fits layout place := by
  cases choice with
  | select =>
      cases fits with
      | select subject keys outcomes last =>
          refine ⟨List.forall_mem_map.mpr fun branch member => ?_, last⟩
          exact ⟨fits_oriented subject (keys branch member) .eq, outcomes branch member⟩
  | firstOf =>
      cases fits with
      | firstOf keys outcomes last =>
          exact ⟨fun branch member => ⟨keys branch member, outcomes branch member⟩, last⟩

end Fits

end Predicate

/-! ## Names -/

/-- A side that is read at a place, or where its relation leads from there. -/
def Predicate.Side.Fits {α : Type} (layout : Layout α) (place : α) (side : Side) : Prop :=
  match side.relation with
  | none => layout.Holds place side.operand
  | some relation => ∃ next, layout.step place relation next ∧ layout.Holds next side.operand

/-- Whether every name of a scope is found along a layout. -/
def Scope.LaidOut {α : Type} (scope : Scope) (layout : Layout α) (place : α) : Prop :=
  ∀ name qualifier side,
    Predicate.Side.ofLocation? (Location.ofName scope.graph scope.entity name qualifier) =
      some side →
    side.Fits layout place

theorem Scope.laidOut_free (scope : Scope) : scope.LaidOut .free () := by
  intro name qualifier side found
  unfold Predicate.Side.ofLocation? at found
  split at found
  · cases found
    exact Layout.holds_record.mpr (Layout.reads_free (by simp))
  · cases found
    exact Layout.holds_record.mpr (Layout.reads_free (by simp))
  · cases found
    exact ⟨(), trivial, Layout.holds_record.mpr (Layout.reads_free (by simp))⟩
  · cases found
    exact ⟨(), trivial, Layout.holds_record.mpr (Layout.reads_free (by simp))⟩
  · cases found

theorem Scope.location_of_locate {scope : Scope} {actorFirst : Bool} {name : String}
    {qualifier : Option String} {location : Location} {events : List Compilation.Event}
    (located : scope.locate actorFirst name qualifier = ⟨.ok (.field location), events⟩) :
    location = Location.ofName scope.graph scope.entity name qualifier := by
  have ofProvider {next : Option (List String) → Compilation Reference}
      (onPath : ∀ path, next (some path) = pure (.actor path))
      (run : scope.provider? name >>= next = ⟨.ok (.field location), events⟩) :
      ∃ later, next none = ⟨.ok (.field location), later⟩ := by
    obtain ⟨found, _, _, _, ended, _⟩ := Traced.bind_eq_ok_iff.mp run
    cases found with
    | none => exact ⟨_, ended⟩
    | some path =>
        rw [onPath] at ended
        cases (Traced.pure_eq_ok_iff.mp ended).1
  unfold locate at located
  cases place : Location.ofName scope.graph scope.entity name qualifier with
  | direct field =>
      rw [place] at located
      cases (Traced.pure_eq_ok_iff.mp located).1
      rfl
  | notFound entity field =>
      rw [place] at located
      cases qualifier with
      | none =>
          obtain ⟨_, failed⟩ := ofProvider (fun _ => rfl) located
          exact (Traced.fail_eq_ok_iff.mp failed).elim
      | some _ => exact (Traced.fail_eq_ok_iff.mp located).elim
  | related _ _ _ _ | junction _ =>
      rw [place] at located
      cases qualifier with
      | none =>
          cases actorFirst with
          | false =>
              cases (Traced.pure_eq_ok_iff.mp located).1
              rfl
          | true =>
              obtain ⟨_, found⟩ := ofProvider (fun _ => rfl) located
              cases (Traced.pure_eq_ok_iff.mp found).1
              rfl
      | some _ =>
          cases (Traced.pure_eq_ok_iff.mp located).1
          rfl

namespace Predicate

open Compilation (Event)

/-! ## Compilation -/

section Compilation

variable {α : Type} {layout : Layout α} {place : α} {scope : Scope} {p : Predicate}
  {events : List Event}

theorem fits_of_side (laid : scope.LaidOut layout place) {actorFirst : Bool} {e : Expr}
    {side : Side} (found : side? scope actorFirst e = ⟨.ok (some side), events⟩) :
    side.Fits layout place := by
  have unread {operand : Operand} (other : ¬operand.isRecord) :
      Side.Fits layout place { operand := operand } :=
    Layout.holds_of_not_isRecord other
  cases sideRun_of_side found with
  | literal | array _ | actor _ => exact unread (by simp [Operand.isRecord])
  | provider _ field =>
      obtain ⟨path, rfl⟩ := actorField_eq_ok field
      exact unread (by simp [Operand.isRecord])
  | field located same =>
      obtain rfl := Scope.location_of_locate located
      exact laid _ _ side same

theorem fits_through {side : Side} (fits : side.Fits layout place)
    (condition : ∀ there, layout.Holds there side.operand → p.Fits layout there) :
    (side.through p).Fits layout place := by
  obtain ⟨operand, relation, joinFields⟩ := side
  cases relation with
  | none => exact condition place fits
  | some relation =>
      obtain ⟨next, leads, holds⟩ := fits
      exact .anyRelated leads (condition next holds)

theorem fits_joined {left right : Side} {test : Predicate} (onLeft : left.Fits layout place)
    (onRight : right.Fits layout place)
    (holds : ∀ there, layout.Holds there left.operand → layout.Holds there right.operand →
      test.Fits layout there) (joined : Joined left right test p) : p.Fits layout place := by
  cases joined with
  | near near nearRight =>
      rw [Side.Fits, near] at onLeft
      rw [Side.Fits, nearRight] at onRight
      exact holds place onLeft onRight
  | left _ other =>
      refine fits_through onLeft fun there here => ?_
      exact holds there here (Layout.holds_of_not_isRecord (by simp [other]))
  | right _ other =>
      refine fits_through onRight fun there here => ?_
      exact holds there (Layout.holds_of_not_isRecord (by simp [other])) here

theorem fits_standIn {e : Expr} {kind : String} {related : Option String}
    (compiled : standIn scope e kind related = ⟨.ok p, events⟩) : p.Fits layout place := by
  obtain ⟨text, rfl, _⟩ := standIn_eq_ok compiled
  exact .unresolved

theorem fits_ofComparison (laid : scope.LaidOut layout place) {comparator : Comparator}
    {left right : Expr} (compiled : ofComparison scope comparator left right = ⟨.ok p, events⟩) :
    p.Fits layout place := by
  cases joins_ofComparison compiled with
  | sides leftRun rightRun joined =>
      exact fits_joined (fits_of_side laid leftRun) (fits_of_side laid rightRun)
        (fun _ onLeft onRight => fits_oriented onLeft onRight comparator) (joined_ofSides joined)
  | standIn run => exact fits_standIn run

theorem fits_ofMembership (laid : scope.LaidOut layout place) {negated : Bool} {left right : Expr}
    (compiled : ofMembership scope negated left right = ⟨.ok p, events⟩) : p.Fits layout place := by
  cases joins_ofMembership compiled with
  | sides leftRun rightRun joined =>
      exact fits_joined (fits_of_side laid leftRun) (fits_of_side laid rightRun)
        (fun _ onLeft _ => .member onLeft) (joined_memberOfSides joined)
  | standIn run => exact fits_standIn run

theorem fits_ofCondition (laid : scope.LaidOut layout place) {operator : Operator}
    {left right : Expr} (compiled : ofCondition scope operator left right = ⟨.ok p, events⟩) :
    p.Fits layout place := by
  cases conditionRun_of_condition compiled with
  | comparison run => exact fits_ofComparison laid run
  | membership run => exact fits_ofMembership laid run
  | @equalities _ _ ps _ _ run =>
      have each : ∀ p ∈ ps, p.Fits layout place := by
        refine (each_ofEqualities run).forall_right fun item _ p part _ => ?_
        rintro ⟨q, run, rfl⟩
        exact fits_markRole (fits_ofComparison laid run)
      split
      · exact fits_negate (fits_anyOf each)
      · exact fits_anyOf each
  | null run => exact fits_through (fits_of_side laid run) fun _ => .isNull
  | standIn run => exact fits_standIn run

theorem fits_ofValue (laid : scope.LaidOut layout place) {e : Expr}
    (compiled : ofValue scope e = ⟨.ok p, events⟩) : p.Fits layout place := by
  cases valueRun_of_value compiled with
  | side run =>
      refine fits_through (fits_of_side laid run) fun there holds => ?_
      exact .compare holds (Layout.holds_of_not_isRecord (by simp [Operand.isRecord]))
  | standIn run => exact fits_standIn run

theorem fits_ofLiteral {item : Literal} (compiled : ofLiteral scope item = ⟨.ok p, events⟩) :
    p.Fits layout place := by
  obtain ⟨b, rfl⟩ | standsIn := ofLiteral_eq_ok compiled
  · exact .const
  · exact fits_standIn standsIn

theorem holds_of_subject (laid : scope.LaidOut layout place) {actorFirst : Bool} {e : Expr}
    {operand : Operand} (found : subject? scope actorFirst e = ⟨.ok (some operand), events⟩) :
    layout.Holds place operand := by
  obtain ⟨_, sideRun⟩ := side_of_subject found
  exact fits_of_side laid sideRun

theorem fits_of_otherwise {otherwise : Option Expr}
    (run : Otherwise (Ran scope fun _ p _ => p.Fits layout place) otherwise p events) :
    p.Fits layout place := by
  cases run with
  | none => exact .const
  | some ran => exact ran.2

theorem invariant_fits (laid : scope.LaidOut layout place) :
    Invariant scope fun _ p _ => p.Fits layout place where
  any each := fits_anyOf (each.forall_right fun _ _ _ _ _ ran => ran.2)
  all each := fits_allOf (each.forall_right fun _ _ _ _ _ ran => ran.2)
  not ran := fits_negate ran.2
  literal := fits_ofLiteral
  condition compiled := fits_markRole (fits_ofCondition laid compiled)
  value _ compiled := fits_markRole (fits_ofValue laid compiled)
  firstOf each last := by
    have branches := each.forall_right fun _ _ compiled _ _ step =>
      show compiled.1.Fits layout place ∧ compiled.2.Fits layout place by
        obtain ⟨_, _, key, outcome, _⟩ := step
        exact ⟨key.2, outcome.2⟩
    exact fits_markRole (.firstOf (fun branch member => (branches branch member).1)
      (fun branch member => (branches branch member).2) (fits_of_otherwise last))
  select subject keys each last := by
    have onKeys := (each_keys keys).forall_right fun _ _ _ _ _ key => holds_of_subject laid key
    have outcomes := each.forall_right fun _ _ _ _ _ ran => ran.2
    refine fits_markRole (.select (holds_of_subject laid subject) ?_ ?_ (fits_of_otherwise last))
    · intro branch member
      exact onKeys _ (List.of_mem_zip member).1
    · intro branch member
      exact outcomes _ (List.of_mem_zip member).2
  standIn _ compiled := fits_standIn compiled

end Compilation

end Predicate

end RowGuard
