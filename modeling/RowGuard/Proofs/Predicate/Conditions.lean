import RowGuard.Predicate.Compile
import RowGuard.Proofs.Compilation

/-! The runs of compilation below expressions, read apart once. A side, a
condition, a value and a literal each end in one of a few ways, and a proof about
what policies compile to goes by these ways. It does not unfold the compiler. -/

set_option autoImplicit false

namespace RowGuard

namespace Predicate

open Compilation (Event)
open Traced (Each)

variable {scope : Scope} {p : Predicate} {events : List Event}

theorem standIn_eq_ok {e : Expr} {kind : String} {related : Option String}
    (compiled : standIn scope e kind related = ⟨.ok p, events⟩) :
    ∃ text, p = .unresolved ⟨kind, text, .bool scope.config.failOpen, related⟩ ∧
      Compilation.Reports events text := by
  obtain ⟨construct, _, _, run, ended, rfl⟩ := Traced.bind_eq_ok_iff.mp compiled
  obtain ⟨rfl, rfl⟩ := Traced.pure_eq_ok_iff.mp ended
  obtain ⟨text, _, _, printed, noteRest, rfl⟩ := Traced.bind_eq_ok_iff.mp run
  obtain ⟨_, rfl⟩ := Compilation.ofExcept_eq_ok_iff.mp printed
  obtain ⟨_, _, _, noted, ended, rfl⟩ := Traced.bind_eq_ok_iff.mp noteRest
  obtain rfl := Scope.note_eq_ok_iff.mp noted
  obtain ⟨rfl, rfl⟩ := Traced.pure_eq_ok_iff.mp ended
  exact ⟨text, rfl, _, .head _, rfl, rfl⟩

/-! ## Sides -/

theorem actorField_eq_ok {name text : String} {operand : Operand}
    (found : scope.actorField name text = ⟨.ok operand, events⟩) :
    ∃ path, operand = .actor path name := by
  obtain ⟨path, _, _, _, noteRest, rfl⟩ := Traced.bind_eq_ok_iff.mp found
  dsimp only at noteRest
  split at noteRest
  · obtain ⟨_, _, _, _, refineRest, rfl⟩ := Traced.bind_eq_ok_iff.mp noteRest
    obtain ⟨parts, _, _, _, ended, rfl⟩ := Traced.bind_eq_ok_iff.mp refineRest
    obtain ⟨rfl, rfl⟩ := Traced.pure_eq_ok_iff.mp ended
    exact ⟨parts, rfl⟩
  · obtain ⟨parts, _, _, _, ended, rfl⟩ := Traced.bind_eq_ok_iff.mp noteRest
    obtain ⟨rfl, rfl⟩ := Traced.pure_eq_ok_iff.mp ended
    exact ⟨parts, rfl⟩

theorem Side.ofLocation?_eq_some {location : Location} {side : Side}
    (found : ofLocation? location = some side) : ∃ path, side.operand = .record path := by
  unfold ofLocation? at found
  split at found <;> cases found <;> exact ⟨_, rfl⟩

/-- What a side is read from: a constant, a provider, or a name that stands for a field of the actor
or for one of the record. -/
inductive SideRun (scope : Scope) (actorFirst : Bool) : Expr → Side → List Event → Prop where
  | literal {item : Literal} :
      SideRun scope actorFirst (.literal item) { operand := .value item.value } []
  | array {items : List Expr} {values : List Value} : literalValues? items = some values →
      SideRun scope actorFirst (.array items) { operand := .values values } []
  | provider {e : Expr} {name text : String} {operand : Operand} {events : List Event} :
      e.provider? = some name → scope.actorField name text = ⟨.ok operand, events⟩ →
      SideRun scope actorFirst e { operand := operand } events
  | actor {name : String} {qualifier : Option String} {path : List String} {events : List Event} :
      scope.locate actorFirst name qualifier = ⟨.ok (.actor path), events⟩ →
      SideRun scope actorFirst (.column name qualifier) { operand := .actor path name } events
  | field {name : String} {qualifier : Option String} {location : Location} {side : Side}
      {events : List Event} :
      scope.locate actorFirst name qualifier = ⟨.ok (.field location), events⟩ →
      Side.ofLocation? location = some side →
      SideRun scope actorFirst (.column name qualifier) side events

theorem sideRun_of_side {actorFirst : Bool} {e : Expr} {side : Side}
    (found : side? scope actorFirst e = ⟨.ok (some side), events⟩) :
    SideRun scope actorFirst e side events := by
  have asked {e : Expr} {name : String} (asks : e.provider? = some name) (found : (do
      let text ← Compilation.ofExcept e.print
      return some { operand := ← scope.actorField name text } : Compilation (Option Side)) =
        ⟨.ok (some side), events⟩) : SideRun scope actorFirst e side events := by
    obtain ⟨text, _, _, printed, fieldRest, rfl⟩ := Traced.bind_eq_ok_iff.mp found
    obtain ⟨_, rfl⟩ := Compilation.ofExcept_eq_ok_iff.mp printed
    obtain ⟨operand, _, _, field, ended, rfl⟩ := Traced.bind_eq_ok_iff.mp fieldRest
    obtain ⟨same, rfl⟩ := Traced.pure_eq_ok_iff.mp ended
    cases same
    rw [List.nil_append, List.append_nil]
    exact .provider asks field
  unfold side? at found
  split at found
  · obtain ⟨same, rfl⟩ := Traced.pure_eq_ok_iff.mp found
    cases same
    exact .literal
  · obtain ⟨same, rfl⟩ := Traced.pure_eq_ok_iff.mp found
    obtain ⟨values, literals, rfl⟩ := Option.map_eq_some_iff.mp same
    exact .array literals
  · exact asked rfl found
  · exact asked rfl found
  · obtain ⟨reference, _, _, located, ended, rfl⟩ := Traced.bind_eq_ok_iff.mp found
    cases reference with
    | actor path =>
        obtain ⟨same, rfl⟩ := Traced.pure_eq_ok_iff.mp ended
        cases same
        rw [List.append_nil]
        exact .actor located
    | field location =>
        obtain ⟨same, rfl⟩ := Traced.pure_eq_ok_iff.mp ended
        rw [List.append_nil]
        exact .field located same
  · obtain ⟨same, _⟩ := Traced.pure_eq_ok_iff.mp found
    cases same

theorem side_of_subject {actorFirst : Bool} {e : Expr} {operand : Operand}
    (found : subject? scope actorFirst e = ⟨.ok (some operand), events⟩) :
    ∃ joinFields, side? scope actorFirst e = ⟨.ok (some ⟨operand, none, joinFields⟩), events⟩ := by
  obtain ⟨side, _, _, sideRun, ended, rfl⟩ := Traced.bind_eq_ok_iff.mp found
  split at ended
  · obtain ⟨same, rfl⟩ := Traced.pure_eq_ok_iff.mp ended
    cases same
    rw [List.append_nil]
    exact ⟨_, sideRun⟩
  · obtain ⟨same, _⟩ := Traced.pure_eq_ok_iff.mp ended
    cases same

theorem each_keys {branches : List (Expr × Expr)} {keys : List Operand}
    (found : keys? scope branches = ⟨.ok (some keys), events⟩) :
    Each (fun branch key part => subject? scope Bool.false branch.1 = ⟨.ok (some key), part⟩)
      branches keys events := by
  induction branches generalizing keys events with
  | nil =>
      obtain ⟨same, rfl⟩ := Traced.pure_eq_ok_iff.mp found
      cases same
      exact .nil
  | cons branch branches ih =>
      obtain ⟨key, _, _, keyRun, othersRest, rfl⟩ := Traced.bind_eq_ok_iff.mp found
      cases key with
      | none =>
          obtain ⟨same, _⟩ := Traced.pure_eq_ok_iff.mp othersRest
          cases same
      | some key =>
          obtain ⟨others, _, _, othersRun, ended, rfl⟩ := Traced.bind_eq_ok_iff.mp othersRest
          obtain ⟨same, rfl⟩ := Traced.pure_eq_ok_iff.mp ended
          obtain ⟨keys, rfl, rfl⟩ := Option.map_eq_some_iff.mp same
          rw [List.append_nil]
          exact .cons keyRun (ih othersRun)

/-! ## Two sides -/

/-- What a test of two sides becomes: the test itself, or the test behind the relation that one of
them is reached through. The other one is no field of the record then. -/
inductive Joined (left right : Side) (test : Predicate) : Predicate → Prop where
  | near : left.relation = none → right.relation = none → Joined left right test test
  | left : left.relation ≠ none → right.operand.isRecord = Bool.false →
      Joined left right test (left.through test)
  | right : right.relation ≠ none → left.operand.isRecord = Bool.false →
      Joined left right test (right.through test)

section Joined

variable {left right : Side}

theorem joined_ofSides {comparator : Comparator}
    (joined : ofSides? comparator left right = some p) :
    Joined left right (oriented comparator left.operand right.operand) p := by
  unfold ofSides? at joined
  split at joined
  · cases joined
  · next far _ =>
      split at joined
      · cases joined
      · next other =>
          cases joined
          exact .left (by simp [far]) (by simpa using other)
  · next _ far =>
      split at joined
      · cases joined
      · next other =>
          cases joined
          exact .right (by simp [far]) (by simpa using other)
  · next near nearRight =>
      cases joined
      exact .near near nearRight

theorem joined_memberOfSides {negated : Bool}
    (joined : memberOfSides? negated left right = some p) :
    Joined left right (.member left.operand right.operand negated) p := by
  unfold memberOfSides? at joined
  split at joined
  · cases joined
  · next nearRight =>
      split at joined
      · cases joined
      · next other =>
          cases joined
          cases far : left.relation with
          | none =>
              rw [Side.through, far]
              exact .near far (by simpa using nearRight)
          | some relation => exact .left (by simp [far]) (by simpa [far] using other)

/-- Whatever two sides are joined to is their test, reached through one of them. -/
theorem Joined.exists_through {test : Predicate} (joined : Joined left right test p) :
    ∃ side : Side, (side = left ∨ side = right) ∧ p = side.through test ∧
      (side.relation = none → left.relation = none ∧ right.relation = none) := by
  cases joined with
  | near near nearRight =>
      exact ⟨left, .inl rfl, by rw [Side.through, near], fun _ => ⟨near, nearRight⟩⟩
  | left far _ => exact ⟨left, .inl rfl, rfl, fun near => absurd near far⟩
  | right far _ => exact ⟨right, .inr rfl, rfl, fun near => absurd near far⟩

end Joined

/-- A condition on two sides: what they are joined to, or what stands in for it. -/
def joinSides (scope : Scope) (join : Side → Side → Option Predicate) (left right e : Expr) :
    Compilation Predicate := do
  let leftSide ← side? scope Bool.false left
  let rightSide ← side? scope Bool.false right
  match leftSide, rightSide with
  | some l, some r =>
    match join l r with
    | some p => return p
    | none => standIn scope e "comparison" none
  | _, _ => standIn scope e "comparison" none

theorem ofComparison_eq (scope : Scope) (comparator : Comparator) (left right : Expr) :
    ofComparison scope comparator left right =
      joinSides scope (ofSides? comparator) left right
        (.condition (.compare comparator) left right) :=
  rfl

theorem ofMembership_eq (scope : Scope) (negated : Bool) (left right : Expr) :
    ofMembership scope negated left right =
      joinSides scope (memberOfSides? negated) left right
        (.condition (.member negated) left right) :=
  rfl

/-- How a condition on two sides ends: the sides are joined, or the condition is given up. -/
inductive Joins (scope : Scope) (left right : Expr) (join : Side → Side → Option Predicate) :
    Predicate → List Event → Prop where
  | sides {l r : Side} {p : Predicate} {first second : List Event} :
      side? scope Bool.false left = ⟨.ok (some l), first⟩ →
      side? scope Bool.false right = ⟨.ok (some r), second⟩ → join l r = some p →
      Joins scope left right join p (first ++ second)
  | standIn {e : Expr} {kind : String} {related : Option String} {p : Predicate}
      {before after : List Event} : Predicate.standIn scope e kind related = ⟨.ok p, after⟩ →
      Joins scope left right join p (before ++ after)

theorem joins_of_joinSides {left right e : Expr} {join : Side → Side → Option Predicate}
    (compiled : joinSides scope join left right e = ⟨.ok p, events⟩) :
    Joins scope left right join p events := by
  obtain ⟨leftSide, _, _, leftRun, rightRest, rfl⟩ := Traced.bind_eq_ok_iff.mp compiled
  obtain ⟨rightSide, _, _, rightRun, ended, rfl⟩ := Traced.bind_eq_ok_iff.mp rightRest
  split at ended
  · split at ended
    · next joined =>
        obtain ⟨rfl, rfl⟩ := Traced.pure_eq_ok_iff.mp ended
        rw [List.append_nil]
        exact .sides leftRun rightRun joined
    · rw [← List.append_assoc]
      exact .standIn ended
  · rw [← List.append_assoc]
    exact .standIn ended

theorem joins_ofComparison {comparator : Comparator} {left right : Expr}
    (compiled : ofComparison scope comparator left right = ⟨.ok p, events⟩) :
    Joins scope left right (ofSides? comparator) p events :=
  joins_of_joinSides compiled

theorem joins_ofMembership {negated : Bool} {left right : Expr}
    (compiled : ofMembership scope negated left right = ⟨.ok p, events⟩) :
    Joins scope left right (memberOfSides? negated) p events :=
  joins_of_joinSides compiled

/-! ## Conditions -/

theorem each_ofEqualities {left : Expr} {items : List Expr} {ps : List Predicate}
    (compiled : ofEqualities scope left items = ⟨.ok ps, events⟩) :
    Each (fun item p part => ∃ q, ofComparison scope .eq left item = ⟨.ok q, part⟩ ∧
      p = markRole q) items ps events := by
  induction items generalizing ps events with
  | nil =>
      obtain ⟨rfl, rfl⟩ := Traced.pure_eq_ok_iff.mp compiled
      exact .nil
  | cons item items ih =>
      obtain ⟨first, _, _, firstRun, othersRest, rfl⟩ := Traced.bind_eq_ok_iff.mp compiled
      obtain ⟨others, _, _, othersRun, ended, rfl⟩ := Traced.bind_eq_ok_iff.mp othersRest
      obtain ⟨rfl, rfl⟩ := Traced.pure_eq_ok_iff.mp ended
      rw [List.append_nil]
      exact .cons ⟨first, firstRun, rfl⟩ (ih othersRun)

/-- How a condition ends. -/
inductive ConditionRun (scope : Scope) (left : Expr) :
    Operator → Expr → Predicate → List Event → Prop where
  | comparison {comparator : Comparator} {right : Expr} {p : Predicate} {events : List Event} :
      ofComparison scope comparator left right = ⟨.ok p, events⟩ →
      ConditionRun scope left (.compare comparator) right p events
  | membership {negated : Bool} {right : Expr} {p : Predicate} {events : List Event} :
      ofMembership scope negated left right = ⟨.ok p, events⟩ →
      ConditionRun scope left (.member negated) right p events
  | equalities {negated : Bool} {items : List Expr} {ps : List Predicate} {events : List Event} :
      literalValues? items = none → ofEqualities scope left items = ⟨.ok ps, events⟩ →
      ConditionRun scope left (.member negated) (.array items)
        (if negated then (anyOf ps).negate else anyOf ps) events
  | null {negated : Bool} {right : Expr} {side : Side} {events : List Event} :
      side? scope Bool.false left = ⟨.ok (some side), events⟩ →
      ConditionRun scope left (.null negated) right
        (side.through (.isNull side.operand negated)) events
  | standIn {operator : Operator} {right e : Expr} {kind : String} {related : Option String}
      {p : Predicate} {before after : List Event} :
      Predicate.standIn scope e kind related = ⟨.ok p, after⟩ →
      ConditionRun scope left operator right p (before ++ after)

theorem conditionRun_of_condition {operator : Operator} {left right : Expr}
    (compiled : ofCondition scope operator left right = ⟨.ok p, events⟩) :
    ConditionRun scope left operator right p events := by
  unfold ofCondition at compiled
  split at compiled
  · exact .comparison compiled
  · obtain ⟨side, _, _, sideRun, ended, rfl⟩ := Traced.bind_eq_ok_iff.mp compiled
    cases side with
    | none => exact .standIn ended
    | some side =>
        obtain ⟨rfl, rfl⟩ := Traced.pure_eq_ok_iff.mp ended
        rw [List.append_nil]
        exact .null sideRun
  · split at compiled
    · rw [← List.nil_append events]
      exact .standIn compiled
    · split at compiled
      · exact .membership compiled
      · next someItem =>
          obtain ⟨ps, _, _, equalities, ended, rfl⟩ := Traced.bind_eq_ok_iff.mp compiled
          obtain ⟨rfl, rfl⟩ := Traced.pure_eq_ok_iff.mp ended
          rw [List.append_nil]
          exact .equalities (by simpa using someItem) equalities
    · exact .membership compiled

/-! ## Values and literals -/

/-- How a value ends that stands for a condition. -/
inductive ValueRun (scope : Scope) (e : Expr) : Predicate → List Event → Prop where
  | side {side : Side} {events : List Event} :
      side? scope Bool.false e = ⟨.ok (some side), events⟩ →
      ValueRun scope e (side.through (.compare .eq side.operand (.value (.bool Bool.true)))) events
  | standIn {kind : String} {related : Option String} {p : Predicate}
      {before after : List Event} : Predicate.standIn scope e kind related = ⟨.ok p, after⟩ →
      ValueRun scope e p (before ++ after)

theorem valueRun_of_value {e : Expr} (compiled : ofValue scope e = ⟨.ok p, events⟩) :
    ValueRun scope e p events := by
  obtain ⟨side, _, _, sideRun, ended, rfl⟩ := Traced.bind_eq_ok_iff.mp compiled
  cases side with
  | none => exact .standIn ended
  | some side =>
      obtain ⟨rfl, rfl⟩ := Traced.pure_eq_ok_iff.mp ended
      rw [List.append_nil]
      exact .side sideRun

/-- A literal is a constant, or is given up. -/
theorem ofLiteral_eq_ok {item : Literal} (compiled : ofLiteral scope item = ⟨.ok p, events⟩) :
    (∃ b, p = .const (.bool b)) ∨
      standIn scope (.literal item) "expression" none = ⟨.ok p, events⟩ := by
  unfold ofLiteral at compiled
  split at compiled
  · exact .inl ⟨_, (Traced.pure_eq_ok_iff.mp compiled).1.symm⟩
  · exact .inl ⟨_, (Traced.pure_eq_ok_iff.mp compiled).1.symm⟩
  · exact .inr compiled

end Predicate

end RowGuard
