import RowGuard.Proofs.Predicate.Compilation

/-! What compilations report. A stand-in in a compiled predicate is reported by
its text, less the negations that were put in front of it since, and a field of
the actor is reported if its provider was only guessed. -/

set_option autoImplicit false

namespace RowGuard

open Compilation (Event diagnostics)

/-! ## Reports -/

/-- A text behind a number of negations. -/
def Unresolved.negatedText : Nat → String → String
  | 0, text => text
  | count + 1, text => "NOT " ++ negatedText count text

/-- Whether findings report a construct: its text, less some negations in front of it, is that of a
finding. -/
def Unresolved.ReportedBy (findings : List Diagnostic) (construct : Unresolved) : Prop :=
  ∃ d ∈ findings, d.category = .unresolvedConstruct ∧
    ∃ count, construct.text = negatedText count d.expression

/-- Whether findings report an operand, if it is a field of the actor that was only guessed. -/
def Operand.ReportedBy (scope : Scope) (findings : List Diagnostic) (operand : Operand) : Prop :=
  ∀ path source guess, operand = .actor path source →
    (scope.resolve source).result = .ok guess → guess.isGuess →
    ∃ d ∈ findings, d.category = .lowConfidenceMapping ∧
      d.message = "No known mapping for context provider " ++ Text.quoted source ++
        "; guessed principal field " ++ guess.text

variable {scope : Scope} {findings others : List Diagnostic} {events before : List Event}

theorem Unresolved.ReportedBy.mono {construct : Unresolved}
    (reported : construct.ReportedBy findings) (within : findings ⊆ others) :
    construct.ReportedBy others := by
  obtain ⟨d, found, about⟩ := reported
  exact ⟨d, within found, about⟩

theorem Unresolved.ReportedBy.negate {construct : Unresolved}
    (reported : construct.ReportedBy findings) : construct.negate.ReportedBy findings := by
  obtain ⟨d, found, about, count, text⟩ := reported
  refine ⟨d, found, about, count + 1, ?_⟩
  rw [negatedText, ← text]
  rfl

theorem Unresolved.reportedBy_of_reports {construct : Unresolved}
    (reports : Compilation.Reports events construct.text) :
    construct.ReportedBy (diagnostics events) := by
  obtain ⟨d, noted, about, text⟩ := reports
  exact ⟨d, Compilation.mem_diagnostics_iff.mpr noted, about, 0, text.symm⟩

theorem Operand.ReportedBy.mono {operand : Operand} (reported : operand.ReportedBy scope findings)
    (within : findings ⊆ others) : operand.ReportedBy scope others := by
  intro path source guess same resolved isGuess
  obtain ⟨d, found, about⟩ := reported path source guess same resolved isGuess
  exact ⟨d, within found, about⟩

namespace Predicate

/-- Whether a node, if it is a construct without a meaning of its own, is one of those admitted. -/
def Leaves (admitted : Unresolved → Prop) (p : Predicate) : Prop :=
  ∀ construct, p = .unresolved construct → admitted construct

/-- Whether findings report a node, as a construct and by its operands. -/
structure ReportedBy (scope : Scope) (findings : List Diagnostic) (p : Predicate) : Prop where
  leaves : p.Leaves (Unresolved.ReportedBy findings)
  operands : ∀ operand ∈ p.operands, operand.ReportedBy scope findings

variable {holds : Predicate → Prop} {p : Predicate} {ps : List Predicate}

theorem everywhere_allOf (onConst : ∀ b, holds (.const (.bool b))) (onAll : ∀ ps, holds (.all ps))
    (each : ∀ p ∈ ps, p.Everywhere holds) : (allOf ps).Everywhere holds :=
  allOf_induction (fun b => .node (onConst b) nofun)
    (fun ps => ⟨Everywhere.children, .node (onAll ps)⟩) each

theorem everywhere_anyOf (onConst : ∀ b, holds (.const (.bool b))) (onAny : ∀ ps, holds (.any ps))
    (each : ∀ p ∈ ps, p.Everywhere holds) : (anyOf ps).Everywhere holds :=
  anyOf_induction (fun b => .node (onConst b) nofun)
    (fun ps => ⟨Everywhere.children, .node (onAny ps)⟩) each

/-! ## Predicates that are told -/

/-- Whether every node of a predicate is reported by events. -/
def Told (scope : Scope) (events : List Event) (p : Predicate) : Prop :=
  p.Everywhere (ReportedBy scope (diagnostics events))

theorem Told.mono (told : p.Told scope before) (within : before ⊆ events) :
    p.Told scope events := by
  have wider := Compilation.diagnostics_subset within
  refine Everywhere.imp told fun node reported => ⟨?_, fun operand member => ?_⟩
  · exact fun construct same => (reported.leaves construct same).mono wider
  · exact (reported.operands operand member).mono wider

theorem told_const (value : Value) : (Predicate.const value).Told scope events :=
  .node ⟨nofun, nofun⟩ nofun

theorem told_allOf (each : ∀ p ∈ ps, p.Told scope events) : (allOf ps).Told scope events :=
  everywhere_allOf (fun _ => ⟨nofun, nofun⟩) (fun _ => ⟨nofun, nofun⟩) each

theorem told_anyOf (each : ∀ p ∈ ps, p.Told scope events) : (anyOf ps).Told scope events :=
  everywhere_anyOf (fun _ => ⟨nofun, nofun⟩) (fun _ => ⟨nofun, nofun⟩) each

theorem told_negate (told : p.Told scope events) : p.negate.Told scope events := by
  cases p with
  | const _ => exact told_const _
  | not operand => exact Everywhere.children told operand (.head _)
  | unresolved construct =>
      refine .node ⟨?_, nofun⟩ nofun
      rintro _ ⟨⟩
      exact ((Everywhere.here told).leaves construct rfl).negate
  | all _ | any _ | compare _ _ _ | member _ _ _ | isNull _ _ | anyRelated _ _ _ | select _ _ _
  | firstOf _ _ | role _ | foreign _ =>
      exact .node ⟨nofun, nofun⟩ (List.forall_mem_singleton.mpr told)

theorem told_role (told : p.Told scope events) : (Predicate.role p).Told scope events :=
  .node ⟨nofun, nofun⟩ (List.forall_mem_singleton.mpr told)

theorem told_markRole (told : p.Told scope events) : (markRole p).Told scope events := by
  rw [markRole]
  split
  · exact told_role told
  · exact told

theorem told_anyRelated {relation : String} {joinFields : List String}
    (told : p.Told scope events) :
    (Predicate.anyRelated relation p joinFields).Told scope events :=
  .node ⟨nofun, nofun⟩ (List.forall_mem_singleton.mpr told)

theorem told_through {side : Side} (told : p.Told scope events) :
    (side.through p).Told scope events := by
  rw [Side.through]
  split
  · exact told
  · exact told_anyRelated told

theorem told_standIn {e : Expr} {kind : String} {related : Option String}
    (compiled : standIn scope e kind related = ⟨.ok p, events⟩) : p.Told scope events := by
  obtain ⟨text, rfl, reported⟩ := standIn_eq_ok compiled
  refine .node ⟨?_, nofun⟩ nofun
  rintro _ ⟨⟩
  exact Unresolved.reportedBy_of_reports reported

/-! ## Operands -/

theorem reportedBy_actorField {name text : String} {operand : Operand}
    (found : scope.actorField name text = ⟨.ok operand, events⟩) :
    operand.ReportedBy scope (diagnostics events) := by
  obtain ⟨path, first, _, resolveRun, noteRest, rfl⟩ := Traced.bind_eq_ok_iff.mp found
  dsimp only at noteRest
  intro parts source guess same resolved isGuess
  split at noteRest
  · obtain ⟨_, _, _, noted, refineRest, rfl⟩ := Traced.bind_eq_ok_iff.mp noteRest
    obtain ⟨_, _, _, _, ended, rfl⟩ := Traced.bind_eq_ok_iff.mp refineRest
    obtain ⟨rfl, rfl⟩ := Traced.pure_eq_ok_iff.mp ended
    cases same
    rw [resolveRun] at resolved
    cases resolved
    obtain rfl := Scope.note_eq_ok_iff.mp noted
    refine ⟨_, Compilation.mem_diagnostics_iff.mpr (List.mem_append_right _ (.head _)), rfl, rfl⟩
  · next confident =>
      obtain ⟨_, _, _, _, ended, rfl⟩ := Traced.bind_eq_ok_iff.mp noteRest
      obtain ⟨rfl, rfl⟩ := Traced.pure_eq_ok_iff.mp ended
      cases same
      rw [resolveRun] at resolved
      cases resolved
      exact absurd isGuess confident

theorem reportedBy_provider {name : String} {path : List String}
    (found : scope.provider? name = ⟨.ok (some path), events⟩) :
    (Operand.actor path name).ReportedBy scope findings := by
  obtain ⟨resolved, _, _, resolveRun, rest, rfl⟩ := Traced.bind_eq_ok_iff.mp found
  rintro _ _ guess ⟨⟩ same isGuess
  rw [resolveRun] at same
  cases same
  rw [if_pos isGuess] at rest
  cases (Traced.pure_eq_ok_iff.mp rest).1

theorem reportedBy_locate {actorFirst : Bool} {name : String} {qualifier : Option String}
    {path : List String}
    (found : scope.locate actorFirst name qualifier = ⟨.ok (.actor path), events⟩) :
    (Operand.actor path name).ReportedBy scope findings := by
  have located := scope.locates_locate actorFirst name qualifier
  generalize scope.locate actorFirst name qualifier = run at found located
  induction located generalizing events with
  | field _ | fail _ => cases found
  | provider onPath _ otherwise =>
      obtain ⟨provider, _, _, providerRun, rest, rfl⟩ := Traced.bind_eq_ok_iff.mp found
      cases provider with
      | none => exact otherwise rest
      | some provider =>
          rw [onPath, Traced.pure_eq_ok_iff] at rest
          cases rest.1
          exact reportedBy_provider providerRun

theorem reportedBy_of_side {actorFirst : Bool} {e : Expr} {side : Side}
    (found : side? scope actorFirst e = ⟨.ok (some side), events⟩) :
    side.operand.ReportedBy scope (diagnostics events) := by
  cases sideRun_of_side found with
  | literal | array _ => nofun
  | provider _ field => exact reportedBy_actorField field
  | actor located => exact reportedBy_locate located
  | field _ same =>
      obtain ⟨path, record⟩ := Side.ofLocation?_eq_some same
      rw [record]
      nofun

/-! ## Conditions -/

section Conditions

variable {comparator : Comparator} {left right : Expr}

theorem told_oriented {left right : Operand}
    (onLeft : left.ReportedBy scope (diagnostics events))
    (onRight : right.ReportedBy scope (diagnostics events)) (comparator : Comparator) :
    (oriented comparator left right).Told scope events := by
  have straight : (Predicate.compare comparator left right).Told scope events := by
    refine .node ⟨nofun, List.forall_mem_cons.mpr ⟨onLeft, ?_⟩⟩ nofun
    exact List.forall_mem_singleton.mpr onRight
  have turned (comparator : Comparator) :
      (Predicate.compare comparator right left).Told scope events := by
    refine .node ⟨nofun, List.forall_mem_cons.mpr ⟨onRight, ?_⟩⟩ nofun
    exact List.forall_mem_singleton.mpr onLeft
  rcases oriented_cases comparator left right with same | ⟨flipped, same, _⟩
  · rw [same]
    exact straight
  · rw [same]
    exact turned flipped

theorem told_joined {left right : Side} {test : Predicate} (told : test.Told scope events)
    (joined : Joined left right test p) : p.Told scope events := by
  obtain ⟨side, _, rfl, _⟩ := joined.exists_through
  exact told_through told

theorem reportedBy_of_sides {leftSide rightSide : Side} {first second : List Event}
    (leftRun : side? scope Bool.false left = ⟨.ok (some leftSide), first⟩)
    (rightRun : side? scope Bool.false right = ⟨.ok (some rightSide), second⟩) :
    leftSide.operand.ReportedBy scope (diagnostics (first ++ second)) ∧
      rightSide.operand.ReportedBy scope (diagnostics (first ++ second)) := by
  constructor
  · refine (reportedBy_of_side leftRun).mono (Compilation.diagnostics_subset ?_)
    exact List.subset_append_left _ _
  · refine (reportedBy_of_side rightRun).mono (Compilation.diagnostics_subset ?_)
    exact List.subset_append_right _ _

theorem told_ofComparison (compiled : ofComparison scope comparator left right = ⟨.ok p, events⟩) :
    p.Told scope events := by
  cases joins_ofComparison compiled with
  | sides leftRun rightRun joined =>
      obtain ⟨onLeft, onRight⟩ := reportedBy_of_sides leftRun rightRun
      exact told_joined (told_oriented onLeft onRight comparator) (joined_ofSides joined)
  | standIn run => exact (told_standIn run).mono (List.subset_append_right _ _)

theorem told_ofMembership {negated : Bool}
    (compiled : ofMembership scope negated left right = ⟨.ok p, events⟩) : p.Told scope events := by
  cases joins_ofMembership compiled with
  | sides leftRun rightRun joined =>
      obtain ⟨onLeft, onRight⟩ := reportedBy_of_sides leftRun rightRun
      refine told_joined ?_ (joined_memberOfSides joined)
      refine .node ⟨nofun, List.forall_mem_cons.mpr ⟨onLeft, ?_⟩⟩ nofun
      exact List.forall_mem_singleton.mpr onRight
  | standIn run => exact (told_standIn run).mono (List.subset_append_right _ _)

theorem told_ofCondition {operator : Operator}
    (compiled : ofCondition scope operator left right = ⟨.ok p, events⟩) : p.Told scope events := by
  cases conditionRun_of_condition compiled with
  | comparison run => exact told_ofComparison run
  | membership run => exact told_ofMembership run
  | @equalities _ _ ps _ _ run =>
      have each : ∀ p ∈ ps, p.Told scope events := by
        refine (each_ofEqualities run).forall_right fun item _ p part within => ?_
        rintro ⟨q, run, rfl⟩
        exact told_markRole ((told_ofComparison run).mono within)
      split
      · exact told_negate (told_anyOf each)
      · exact told_anyOf each
  | null run =>
      refine told_through (.node ⟨nofun, ?_⟩ nofun)
      exact List.forall_mem_singleton.mpr (reportedBy_of_side run)
  | standIn run => exact (told_standIn run).mono (List.subset_append_right _ _)

end Conditions

theorem told_ofValue {e : Expr} (compiled : ofValue scope e = ⟨.ok p, events⟩) :
    p.Told scope events := by
  cases valueRun_of_value compiled with
  | side run =>
      refine told_through (.node ⟨nofun, List.forall_mem_cons.mpr ?_⟩ nofun)
      exact ⟨reportedBy_of_side run, List.forall_mem_singleton.mpr nofun⟩
  | standIn run => exact (told_standIn run).mono (List.subset_append_right _ _)

theorem told_ofLiteral {item : Literal} (compiled : ofLiteral scope item = ⟨.ok p, events⟩) :
    p.Told scope events := by
  obtain ⟨b, rfl⟩ | standsIn := ofLiteral_eq_ok compiled
  · exact told_const _
  · exact told_standIn standsIn

theorem reportedBy_of_subject {actorFirst : Bool} {e : Expr} {operand : Operand}
    (found : subject? scope actorFirst e = ⟨.ok (some operand), events⟩) :
    operand.ReportedBy scope (diagnostics events) := by
  obtain ⟨_, sideRun⟩ := side_of_subject found
  exact reportedBy_of_side sideRun

/-! ## Runs -/

theorem told_of_otherwise {otherwise : Option Expr}
    (run : Otherwise (Ran scope fun _ p events => p.Told scope events) otherwise p events) :
    p.Told scope events := by
  cases run with
  | none => exact told_const _
  | some ran => exact ran.2

theorem invariant_told (scope : Scope) : Invariant scope fun _ p events => p.Told scope events where
  any each := told_anyOf (each.forall_right fun _ _ _ _ within ran => ran.2.mono within)
  all each := told_allOf (each.forall_right fun _ _ _ _ within ran => ran.2.mono within)
  not ran := told_negate ran.2
  literal compiled := told_ofLiteral compiled
  condition compiled := told_markRole (told_ofCondition compiled)
  value _ compiled := told_markRole (told_ofValue compiled)
  firstOf {_ _ compiled _ first second} each last := by
    have early : first ⊆ first ++ second := List.subset_append_left _ _
    have keys : ∀ branch ∈ compiled, branch.1.Told scope first :=
      each.forall_right fun _ _ _ _ within step => by
        obtain ⟨_, _, key, _, rfl⟩ := step
        exact key.2.mono (List.Subset.trans (List.subset_append_left _ _) within)
    have outcomes : ∀ branch ∈ compiled, branch.2.Told scope first :=
      each.forall_right fun _ _ _ _ within step => by
        obtain ⟨_, _, _, outcome, rfl⟩ := step
        exact outcome.2.mono (List.Subset.trans (List.subset_append_right _ _) within)
    refine told_markRole (.node ⟨nofun, nofun⟩ (List.forall_mem_append.mpr ⟨?_, ?_⟩))
    · exact List.forall_mem_map.mpr fun branch member => (keys branch member).mono early
    · refine List.forall_mem_append.mpr ⟨?_, List.forall_mem_singleton.mpr ?_⟩
      · exact List.forall_mem_map.mpr fun branch member => (outcomes branch member).mono early
      · exact (told_of_otherwise last).mono (List.subset_append_right _ _)
  select {_ _ _ _ keys outcomes _ first second third fourth} subject keysRun each last := by
    have onKeys : ∀ key ∈ keys, key.ReportedBy scope (diagnostics second) :=
      (each_keys keysRun).forall_right fun _ _ _ _ within key =>
        (reportedBy_of_subject key).mono (Compilation.diagnostics_subset within)
    have onOutcomes : ∀ outcome ∈ outcomes, outcome.Told scope third :=
      each.forall_right fun _ _ _ _ within ran => ran.2.mono within
    have later : second ++ (third ++ fourth) ⊆ first ++ (second ++ (third ++ fourth)) :=
      List.subset_append_right _ _
    have latest : third ++ fourth ⊆ first ++ (second ++ (third ++ fourth)) :=
      List.Subset.trans (List.subset_append_right _ _) later
    refine told_markRole (.node ⟨nofun, List.forall_mem_cons.mpr ⟨?_, ?_⟩⟩
      (List.forall_mem_append.mpr ⟨?_, List.forall_mem_singleton.mpr ?_⟩))
    · refine (reportedBy_of_subject subject).mono (Compilation.diagnostics_subset ?_)
      exact List.subset_append_left _ _
    · refine List.forall_mem_map.mpr fun branch member => ?_
      refine (onKeys _ (List.of_mem_zip member).1).mono (Compilation.diagnostics_subset ?_)
      exact List.Subset.trans (List.subset_append_left _ _) later
    · refine List.forall_mem_map.mpr fun branch member => ?_
      exact (onOutcomes _ (List.of_mem_zip member).2).mono
        (List.Subset.trans (List.subset_append_left _ _) latest)
    · exact (told_of_otherwise last).mono (List.Subset.trans (List.subset_append_right _ _) latest)
  standIn _ compiled := (told_standIn compiled).mono (List.subset_append_right _ _)

end Predicate

end RowGuard
