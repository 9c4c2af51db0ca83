import RowGuard.Proofs.Predicate.Findings
import RowGuard.Proofs.Predicate.NullSafety

/-! Conditions on related rows. Whatever a policy compiles to, a condition behind
a to-many relation reads the row it is evaluated with, so that it is never up to
the actor alone. -/

set_option autoImplicit false

namespace RowGuard

namespace Predicate

open Compilation (Event)

/-- Whether a node, if it is a condition on related rows, reads them. -/
def ReadsRelated (p : Predicate) : Prop :=
  ∀ relation condition joinFields, p = .anyRelated relation condition joinFields →
    condition.readsRecord

section Related

variable {scope : Scope} {p : Predicate} {side left right : Side} {events : List Event}

/-- What is reached through a to-many relation is a field of the related row. -/
theorem isRecord_of_side {actorFirst : Bool} {e : Expr}
    (found : side? scope actorFirst e = ⟨.ok (some side), events⟩) (behind : side.relation ≠ none) :
    side.operand.isRecord := by
  cases sideRun_of_side found with
  | literal | array _ | provider _ _ | actor _ => exact absurd rfl behind
  | field _ same =>
      obtain ⟨path, record⟩ := Side.ofLocation?_eq_some same
      rw [record]
      rfl

theorem readsRecord_oriented {left right : Operand} (either : left.isRecord ∨ right.isRecord)
    (comparator : Comparator) : (oriented comparator left right).readsRecord := by
  rcases oriented_cases comparator left right with same | ⟨_, same, _⟩
  · rcases either with own | own <;> simp [same, readsRecord, Operand.readsRecord_of_isRecord own]
  · rcases either with own | own <;> simp [same, readsRecord, Operand.readsRecord_of_isRecord own]

theorem readsRelated_oriented (comparator : Comparator) (left right : Operand) :
    (oriented comparator left right).Everywhere ReadsRelated := by
  rcases oriented_cases comparator left right with same | ⟨_, same, _⟩
  · exact same ▸ .node nofun nofun
  · exact same ▸ .node nofun nofun

theorem readsRelated_through (inside : p.Everywhere ReadsRelated)
    (reads : side.relation ≠ none → p.readsRecord) : (side.through p).Everywhere ReadsRelated := by
  unfold Side.through
  split
  · exact inside
  · next behind =>
      refine .node ?_ (List.forall_mem_singleton.mpr inside)
      rintro _ _ _ ⟨⟩
      exact reads (by simp [behind])

theorem readsRelated_joined {test : Predicate} (inside : test.Everywhere ReadsRelated)
    (reads : left.operand.isRecord ∨ right.operand.isRecord → test.readsRecord)
    (onLeft : left.relation ≠ none → left.operand.isRecord)
    (onRight : right.relation ≠ none → right.operand.isRecord)
    (joined : Joined left right test p) : p.Everywhere ReadsRelated := by
  obtain ⟨side, rfl | rfl, rfl, _⟩ := joined.exists_through
  · exact readsRelated_through inside fun behind => reads (.inl (onLeft behind))
  · exact readsRelated_through inside fun behind => reads (.inr (onRight behind))

theorem readsRelated_standIn {e : Expr} {kind : String} {related : Option String}
    (compiled : standIn scope e kind related = ⟨.ok p, events⟩) : p.Everywhere ReadsRelated := by
  obtain ⟨_, rfl, _⟩ := standIn_eq_ok compiled
  exact .node nofun nofun

theorem readsRelated_anyOf {ps : List Predicate} (each : ∀ p ∈ ps, p.Everywhere ReadsRelated) :
    (anyOf ps).Everywhere ReadsRelated :=
  everywhere_anyOf (fun _ => nofun) (fun _ => nofun) each

theorem readsRelated_negate (inside : p.Everywhere ReadsRelated) :
    p.negate.Everywhere ReadsRelated := by
  cases p with
  | const _ | unresolved _ => exact .node nofun nofun
  | not operand => exact inside.children operand (.head _)
  | all _ | any _ | compare _ _ _ | member _ _ _ | isNull _ _ | anyRelated _ _ _ | select _ _ _
  | firstOf _ _ | role _ | foreign _ => exact .node nofun (List.forall_mem_singleton.mpr inside)

theorem readsRelated_markRole (inside : p.Everywhere ReadsRelated) :
    (markRole p).Everywhere ReadsRelated := by
  unfold markRole
  split
  · exact .node nofun (List.forall_mem_singleton.mpr inside)
  · exact inside

theorem readsRelated_ofComparison {comparator : Comparator} {left right : Expr}
    (compiled : ofComparison scope comparator left right = ⟨.ok p, events⟩) :
    p.Everywhere ReadsRelated := by
  cases joins_ofComparison compiled with
  | sides leftRun rightRun joined =>
      exact readsRelated_joined (readsRelated_oriented _ _ _)
        (fun either => readsRecord_oriented either _)
        (isRecord_of_side leftRun) (isRecord_of_side rightRun) (joined_ofSides joined)
  | standIn run => exact readsRelated_standIn run

theorem readsRelated_ofMembership {negated : Bool} {left right : Expr}
    (compiled : ofMembership scope negated left right = ⟨.ok p, events⟩) :
    p.Everywhere ReadsRelated := by
  cases joins_ofMembership compiled with
  | sides leftRun rightRun joined =>
      refine readsRelated_joined ?_ ?_ (isRecord_of_side leftRun) (isRecord_of_side rightRun)
        (joined_memberOfSides joined)
      · exact .node nofun nofun
      · rintro (own | own) <;> simp [readsRecord, Operand.readsRecord_of_isRecord own]
  | standIn run => exact readsRelated_standIn run

theorem readsRelated_ofCondition {operator : Operator} {left right : Expr}
    (compiled : ofCondition scope operator left right = ⟨.ok p, events⟩) :
    p.Everywhere ReadsRelated := by
  cases conditionRun_of_condition compiled with
  | comparison run => exact readsRelated_ofComparison run
  | membership run => exact readsRelated_ofMembership run
  | @equalities _ _ ps _ _ run =>
      have matched : (anyOf ps).Everywhere ReadsRelated := by
        refine readsRelated_anyOf ((each_ofEqualities run).forall_right ?_)
        rintro _ _ _ _ _ ⟨q, run, rfl⟩
        exact readsRelated_markRole (readsRelated_ofComparison run)
      split
      · exact readsRelated_negate matched
      · exact matched
  | null run =>
      refine readsRelated_through (.node nofun nofun) fun behind => ?_
      simp [readsRecord, Operand.readsRecord_of_isRecord (isRecord_of_side run behind)]
  | standIn run => exact readsRelated_standIn run

theorem readsRelated_ofValue {e : Expr} (compiled : ofValue scope e = ⟨.ok p, events⟩) :
    p.Everywhere ReadsRelated := by
  cases valueRun_of_value compiled with
  | side run =>
      refine readsRelated_through (.node nofun nofun) fun behind => ?_
      simp [readsRecord, Operand.readsRecord_of_isRecord (isRecord_of_side run behind)]
  | standIn run => exact readsRelated_standIn run

theorem readsRelated_ofLiteral {item : Literal}
    (compiled : ofLiteral scope item = ⟨.ok p, events⟩) : p.Everywhere ReadsRelated := by
  obtain ⟨b, rfl⟩ | standsIn := ofLiteral_eq_ok compiled
  · exact .node nofun nofun
  · exact readsRelated_standIn standsIn

theorem readsRelated_of_otherwise {otherwise : Option Expr}
    (last : Otherwise (Ran scope fun _ p _ => p.Everywhere ReadsRelated) otherwise p events) :
    p.Everywhere ReadsRelated := by
  cases last with
  | none => exact .node nofun nofun
  | some ran => exact ran.2

theorem invariant_readsRelated (scope : Scope) :
    Invariant scope fun _ p _ => p.Everywhere ReadsRelated where
  any each := readsRelated_anyOf (each.forall_right fun _ _ _ _ _ ran => ran.2)
  all each :=
    everywhere_allOf (fun _ => nofun) (fun _ => nofun)
      (each.forall_right fun _ _ _ _ _ ran => ran.2)
  not ran := readsRelated_negate ran.2
  literal := readsRelated_ofLiteral
  condition compiled := readsRelated_markRole (readsRelated_ofCondition compiled)
  value _ compiled := readsRelated_markRole (readsRelated_ofValue compiled)
  firstOf each last := by
    have keys := each.forall_right fun _ _ _ _ _ step => by
      obtain ⟨_, _, key, _, _⟩ := step
      exact key.2
    have outcomes := each.forall_right fun _ _ _ _ _ step => by
      obtain ⟨_, _, _, outcome, _⟩ := step
      exact outcome.2
    refine readsRelated_markRole (.node nofun ?_)
    simp only [children, List.forall_mem_append, List.forall_mem_map, List.forall_mem_singleton]
    exact ⟨keys, outcomes, readsRelated_of_otherwise last⟩
  select _ _ each last := by
    have outcomes := each.forall_right fun _ _ _ _ _ ran => ran.2
    refine readsRelated_markRole (.node nofun ?_)
    simp only [children, List.forall_mem_append, List.forall_mem_map, List.forall_mem_singleton]
    exact ⟨fun branch member => outcomes _ (List.of_mem_zip member).2,
      readsRelated_of_otherwise last⟩
  standIn _ compiled := readsRelated_standIn compiled

end Related

end Predicate

end RowGuard
