import RowGuard.Proofs.Expr.Walk
import RowGuard.Proofs.Predicate.Conditions
import RowGuard.Proofs.Predicate.Laws

/-! Induction over the compilation of policies. A run of `compile` that ends in a
predicate is read apart once, into one step for each form of expression, and
whatever every step keeps holds of every run. The first use is the shape of
compiled predicates. -/

set_option autoImplicit false

namespace RowGuard

/-- Whether an expression is a value that may stand for a condition. -/
def Expr.isValue : Expr → Bool
  | .call _ [] => Bool.true
  | .column .. => Bool.true
  | .setting _ => Bool.true
  | _ => Bool.false

namespace Predicate

open Compilation (Event)
open Traced (Each)

/-! ## Steps -/

section Steps

variable (step : Expr → Predicate → List Event → Prop)

def BranchStep (branch : Expr × Expr) (compiled : Predicate × Predicate) (events : List Event) :
    Prop :=
  ∃ before after, step branch.1 compiled.1 before ∧ step branch.2 compiled.2 after ∧
    events = before ++ after

/-- What a choice leads to when no branch matches. -/
inductive Otherwise : Option Expr → Predicate → List Event → Prop where
  | none : Otherwise none Predicate.false []
  | some {e : Expr} {p : Predicate} {events : List Event} :
      step e p events → Otherwise (some e) p events

end Steps

/-- The events in front of a construct that is given up: those of a subject or of keys that were
looked at first. -/
inductive Preceding (scope : Scope) : List Event → Prop where
  | nothing : Preceding scope []
  | subject {e : Expr} {events : List Event} :
      subject? scope Bool.true e = ⟨.ok none, events⟩ → Preceding scope events
  | keys {e : Expr} {operand : Operand} {branches : List (Expr × Expr)}
      {first second : List Event} :
      subject? scope Bool.true e = ⟨.ok (some operand), first⟩ →
      keys? scope branches = ⟨.ok none, second⟩ → Preceding scope (first ++ second)

/-- A run that ended, and what holds of it. -/
def Ran (scope : Scope) (motive : Expr → Predicate → List Event → Prop) (e : Expr) (p : Predicate)
    (events : List Event) : Prop :=
  compile scope e = ⟨.ok p, events⟩ ∧ motive e p events

/-- What holds of every step of compilation: of each form of expression, given that it holds of the
parts. -/
structure Invariant (scope : Scope) (motive : Expr → Predicate → List Event → Prop) : Prop where
  any {es : List Expr} {ps : List Predicate} {events : List Event} :
    Each (Ran scope motive) es ps events → motive (.any es) (anyOf ps) events
  all {es : List Expr} {ps : List Predicate} {events : List Event} :
    Each (Ran scope motive) es ps events → motive (.all es) (allOf ps) events
  not {e : Expr} {p : Predicate} {events : List Event} :
    Ran scope motive e p events → motive (.not e) p.negate events
  literal {item : Literal} {p : Predicate} {events : List Event} :
    ofLiteral scope item = ⟨.ok p, events⟩ → motive (.literal item) p events
  condition {operator : Operator} {left right : Expr} {p : Predicate} {events : List Event} :
    ofCondition scope operator left right = ⟨.ok p, events⟩ →
    motive (.condition operator left right) (markRole p) events
  value {e : Expr} {p : Predicate} {events : List Event} :
    e.isValue → ofValue scope e = ⟨.ok p, events⟩ → motive e (markRole p) events
  firstOf {branches : List (Expr × Expr)} {otherwise : Option Expr}
    {compiled : List (Predicate × Predicate)} {last : Predicate} {before after : List Event} :
    Each (BranchStep (Ran scope motive)) branches compiled before →
    Otherwise (Ran scope motive) otherwise last after →
    motive (.choice none branches otherwise) (markRole (.firstOf compiled last)) (before ++ after)
  select {subject : Expr} {branches : List (Expr × Expr)} {otherwise : Option Expr}
    {operand : Operand} {keys : List Operand} {outcomes : List Predicate} {last : Predicate}
    {first second third fourth : List Event} :
    subject? scope Bool.true subject = ⟨.ok (some operand), first⟩ →
    keys? scope branches = ⟨.ok (some keys), second⟩ →
    Each (Ran scope motive) (branches.map (·.2)) outcomes third →
    Otherwise (Ran scope motive) otherwise last fourth →
    motive (.choice (some subject) branches otherwise)
      (markRole (.select operand (keys.zip outcomes) last)) (first ++ (second ++ (third ++ fourth)))
  standIn {e : Expr} {kind : String} {related : Option String} {p : Predicate}
    {before after : List Event} : Preceding scope before →
    Predicate.standIn scope e kind related = ⟨.ok p, after⟩ → motive e p (before ++ after)

theorem compile_not (scope : Scope) (e : Expr) :
    (∃ kind related, compile scope (.not e) = standIn scope (.not e) kind related) ∨
      compile scope (.not e) = do return negate (← compile scope e) := by
  cases e with
  | existence source body => exact .inl ⟨"exists", source, rfl⟩
  | subquery source body => exact .inl ⟨"subquery", source, rfl⟩
  | any _ | all _ | not _ | condition _ _ _ | choice _ _ _ | call _ _ | column _ _ | setting _
  | literal _ | array _ | foreign _ => exact .inr rfl

namespace Invariant

variable {scope : Scope} {motive : Expr → Predicate → List Event → Prop}

theorem ofMarked (invariant : Invariant scope motive) {e : Expr} {p : Predicate}
    {events : List Event} (isValue : e.isValue)
    (compiled : (do return markRole (← ofValue scope e)) = ⟨.ok p, events⟩) :
    motive e p events := by
  obtain ⟨inner, before, after, run, ended, rfl⟩ := Traced.bind_eq_ok_iff.mp compiled
  obtain ⟨rfl, rfl⟩ := Traced.pure_eq_ok_iff.mp ended
  rw [List.append_nil]
  exact invariant.value isValue run

mutual

theorem ofCompile (invariant : Invariant scope motive) (e : Expr) {p : Predicate}
    {events : List Event} (compiled : compile scope e = ⟨.ok p, events⟩) : motive e p events := by
  cases e with
  | any es =>
      obtain ⟨ps, _, _, each, ended, rfl⟩ := Traced.bind_eq_ok_iff.mp compiled
      obtain ⟨rfl, rfl⟩ := Traced.pure_eq_ok_iff.mp ended
      rw [List.append_nil]
      exact invariant.any (ofCompileAll invariant es each)
  | all es =>
      obtain ⟨ps, _, _, each, ended, rfl⟩ := Traced.bind_eq_ok_iff.mp compiled
      obtain ⟨rfl, rfl⟩ := Traced.pure_eq_ok_iff.mp ended
      rw [List.append_nil]
      exact invariant.all (ofCompileAll invariant es each)
  | not e =>
      obtain ⟨kind, related, standsIn⟩ | negates := compile_not scope e
      · rw [standsIn] at compiled
        exact invariant.standIn .nothing compiled
      · rw [negates] at compiled
        obtain ⟨inner, _, _, run, ended, rfl⟩ := Traced.bind_eq_ok_iff.mp compiled
        obtain ⟨rfl, rfl⟩ := Traced.pure_eq_ok_iff.mp ended
        rw [List.append_nil]
        exact invariant.not ⟨run, ofCompile invariant e run⟩
  | condition operator left right =>
      obtain ⟨inner, _, _, run, ended, rfl⟩ := Traced.bind_eq_ok_iff.mp compiled
      obtain ⟨rfl, rfl⟩ := Traced.pure_eq_ok_iff.mp ended
      rw [List.append_nil]
      exact invariant.condition run
  | choice subject branches otherwise =>
      cases subject with
      | none =>
          obtain ⟨bs, _, _, branchesRun, rest, rfl⟩ := Traced.bind_eq_ok_iff.mp compiled
          obtain ⟨last, _, _, otherwiseRun, ended, rfl⟩ := Traced.bind_eq_ok_iff.mp rest
          obtain ⟨rfl, rfl⟩ := Traced.pure_eq_ok_iff.mp ended
          rw [List.append_nil]
          exact invariant.firstOf (ofCompileBranches invariant branches branchesRun)
            (ofCompileOtherwise invariant otherwise otherwiseRun)
      | some subject =>
          obtain ⟨operand, first, _, subjectRun, rest, rfl⟩ := Traced.bind_eq_ok_iff.mp compiled
          cases operand with
          | none => exact invariant.standIn (.subject subjectRun) rest
          | some operand =>
              obtain ⟨keys, second, _, keysRun, rest, rfl⟩ := Traced.bind_eq_ok_iff.mp rest
              cases keys with
              | none =>
                  rw [← List.append_assoc]
                  exact invariant.standIn (.keys subjectRun keysRun) rest
              | some keys =>
                  obtain ⟨outcomes, _, _, outcomesRun, last, rfl⟩ := Traced.bind_eq_ok_iff.mp rest
                  obtain ⟨o, _, _, otherwiseRun, ended, rfl⟩ := Traced.bind_eq_ok_iff.mp last
                  obtain ⟨rfl, rfl⟩ := Traced.pure_eq_ok_iff.mp ended
                  rw [List.append_nil]
                  exact invariant.select subjectRun keysRun
                    (ofCompileOutcomes invariant branches outcomesRun)
                    (ofCompileOtherwise invariant otherwise otherwiseRun)
  | existence source body => exact invariant.standIn .nothing compiled
  | subquery source body => exact invariant.standIn .nothing compiled
  | call name arguments =>
      cases arguments with
      | nil => exact invariant.ofMarked rfl compiled
      | cons _ _ => exact invariant.standIn .nothing compiled
  | column name qualifier => exact invariant.ofMarked rfl compiled
  | setting key => exact invariant.ofMarked rfl compiled
  | literal item => exact invariant.literal compiled
  | array items => exact invariant.standIn .nothing compiled
  | foreign node => exact invariant.standIn .nothing compiled
termination_by structural e

theorem ofCompileAll (invariant : Invariant scope motive) (es : List Expr) {ps : List Predicate}
    {events : List Event} (compiled : compileAll scope es = ⟨.ok ps, events⟩) :
    Each (Ran scope motive) es ps events := by
  cases es with
  | nil =>
      obtain ⟨rfl, rfl⟩ := Traced.pure_eq_ok_iff.mp compiled
      exact .nil
  | cons e es =>
      obtain ⟨first, _, _, firstRun, rest, rfl⟩ := Traced.bind_eq_ok_iff.mp compiled
      obtain ⟨others, _, _, othersRun, ended, rfl⟩ := Traced.bind_eq_ok_iff.mp rest
      obtain ⟨rfl, rfl⟩ := Traced.pure_eq_ok_iff.mp ended
      rw [List.append_nil]
      exact .cons ⟨firstRun, ofCompile invariant e firstRun⟩ (ofCompileAll invariant es othersRun)
termination_by structural es

theorem ofCompileBranches (invariant : Invariant scope motive) (branches : List (Expr × Expr))
    {bs : List (Predicate × Predicate)} {events : List Event}
    (compiled : compileBranches scope branches = ⟨.ok bs, events⟩) :
    Each (BranchStep (Ran scope motive)) branches bs events := by
  cases branches with
  | nil =>
      obtain ⟨rfl, rfl⟩ := Traced.pure_eq_ok_iff.mp compiled
      exact .nil
  | cons branch branches =>
      obtain ⟨key, outcome⟩ := branch
      obtain ⟨k, _, _, keyRun, outcomeRest, rfl⟩ := Traced.bind_eq_ok_iff.mp compiled
      obtain ⟨o, _, _, outcomeRun, othersRest, rfl⟩ := Traced.bind_eq_ok_iff.mp outcomeRest
      obtain ⟨others, _, _, othersRun, ended, rfl⟩ := Traced.bind_eq_ok_iff.mp othersRest
      obtain ⟨rfl, rfl⟩ := Traced.pure_eq_ok_iff.mp ended
      rw [List.append_nil, ← List.append_assoc]
      exact .cons
        ⟨_, _, ⟨keyRun, ofCompile invariant key keyRun⟩,
          ⟨outcomeRun, ofCompile invariant outcome outcomeRun⟩, rfl⟩
        (ofCompileBranches invariant branches othersRun)
termination_by structural branches

theorem ofCompileOutcomes (invariant : Invariant scope motive) (branches : List (Expr × Expr))
    {outcomes : List Predicate} {events : List Event}
    (compiled : compileOutcomes scope branches = ⟨.ok outcomes, events⟩) :
    Each (Ran scope motive) (branches.map (·.2)) outcomes events := by
  cases branches with
  | nil =>
      obtain ⟨rfl, rfl⟩ := Traced.pure_eq_ok_iff.mp compiled
      exact .nil
  | cons branch branches =>
      obtain ⟨key, outcome⟩ := branch
      obtain ⟨o, _, _, outcomeRun, othersRest, rfl⟩ := Traced.bind_eq_ok_iff.mp compiled
      obtain ⟨others, _, _, othersRun, ended, rfl⟩ := Traced.bind_eq_ok_iff.mp othersRest
      obtain ⟨rfl, rfl⟩ := Traced.pure_eq_ok_iff.mp ended
      rw [List.append_nil]
      exact .cons ⟨outcomeRun, ofCompile invariant outcome outcomeRun⟩
        (ofCompileOutcomes invariant branches othersRun)
termination_by structural branches

theorem ofCompileOtherwise (invariant : Invariant scope motive) (otherwise : Option Expr)
    {last : Predicate} {events : List Event}
    (compiled : compileOtherwise scope otherwise = ⟨.ok last, events⟩) :
    Otherwise (Ran scope motive) otherwise last events := by
  cases otherwise with
  | none =>
      obtain ⟨rfl, rfl⟩ := Traced.pure_eq_ok_iff.mp compiled
      exact .none
  | some e => exact .some ⟨compiled, ofCompile invariant e compiled⟩
termination_by structural otherwise

end

end Invariant

/-! ## Shape -/

section Shape

variable {scope : Scope} {admitted : Unresolved → Prop} {p : Predicate} {events : List Event}

theorem compiled_standIn {e : Expr} {kind : String} {related : Option String}
    (compiled : standIn scope e kind related = ⟨.ok p, events⟩)
    (admits : scope.Admits events admitted) : p.Compiled admitted := by
  obtain ⟨text, rfl, reported⟩ := standIn_eq_ok compiled
  exact .unresolved rfl (admits.reported _ rfl reported)

theorem exists_literal_of_values {items : List Expr} {values : List Value}
    (found : literalValues? items = some values) :
    ∀ value ∈ values, ∃ item : Literal, .literal item ∈ items ∧ item.value = value := by
  induction items generalizing values with
  | nil =>
      cases found
      nofun
  | cons e items ih =>
      rw [literalValues?, List.mapM_cons] at found
      cases e with
      | literal item =>
          obtain ⟨_, same, found⟩ := Option.bind_eq_some_iff.mp found
          cases same
          obtain ⟨rest, others, same⟩ := Option.bind_eq_some_iff.mp found
          cases same
          refine List.forall_mem_cons.mpr ⟨⟨item, .head _, rfl⟩, fun value member => ?_⟩
          obtain ⟨inner, among, same⟩ := ih others value member
          exact ⟨inner, .tail _ among, same⟩
      | _ => cases found

theorem isSound_of_side {actorFirst : Bool} {e : Expr} {side : Side}
    (known : e.Everywhere fun node => node.isKnown)
    (found : side? scope actorFirst e = ⟨.ok (some side), events⟩) : side.operand.isSound := by
  cases sideRun_of_side found with
  | @literal item => exact known (.literal item) (.head _)
  | array literals =>
      refine List.all_eq_true.mpr fun value member => ?_
      obtain ⟨item, among, rfl⟩ := exists_literal_of_values literals value member
      exact (Expr.everywhere_array.mp known).2 _ among (.literal item) (.head _)
  | actor _ => rfl
  | provider _ field =>
      obtain ⟨path, rfl⟩ := actorField_eq_ok field
      rfl
  | field _ same =>
      obtain ⟨path, record⟩ := Side.ofLocation?_eq_some same
      rw [record]
      rfl

theorem compiled_markRole (compiled : p.Compiled admitted) : (markRole p).Compiled admitted := by
  rw [markRole]
  split
  · exact .role compiled
  · exact compiled

theorem compiled_through {side : Side} (test : p.isTest) (compiled : p.Compiled admitted) :
    (side.through p).Compiled admitted := by
  rw [Side.through]
  split
  · exact compiled
  · exact .anyRelated test compiled

theorem compiled_joined {left right : Side} {test : Predicate} (isTest : test.isTest)
    (compiled : test.Compiled admitted) (joined : Joined left right test p) :
    p.Compiled admitted := by
  obtain ⟨side, _, rfl, _⟩ := joined.exists_through
  exact compiled_through isTest compiled

theorem compiled_ofComparison {comparator : Comparator} {left right : Expr}
    (known : comparator.isKnown) (leftKnown : left.Everywhere fun node => node.isKnown)
    (rightKnown : right.Everywhere fun node => node.isKnown)
    (compiled : ofComparison scope comparator left right = ⟨.ok p, events⟩)
    (admits : scope.Admits events admitted) : p.Compiled admitted := by
  cases joins_ofComparison compiled with
  | sides leftRun rightRun joined =>
      have leftSound := isSound_of_side leftKnown leftRun
      have rightSound := isSound_of_side rightKnown rightRun
      exact compiled_joined (isTest_oriented _ _ _) (compiled_oriented known leftSound rightSound)
        (joined_ofSides joined)
  | standIn run => exact compiled_standIn run admits.right

theorem compiled_ofMembership {negated : Bool} {left right : Expr}
    (leftKnown : left.Everywhere fun node => node.isKnown)
    (rightKnown : right.Everywhere fun node => node.isKnown)
    (compiled : ofMembership scope negated left right = ⟨.ok p, events⟩)
    (admits : scope.Admits events admitted) : p.Compiled admitted := by
  cases joins_ofMembership compiled with
  | sides leftRun rightRun joined =>
      have leftSound := isSound_of_side leftKnown leftRun
      have rightSound := isSound_of_side rightKnown rightRun
      exact compiled_joined rfl (.member leftSound rightSound) (joined_memberOfSides joined)
  | standIn run => exact compiled_standIn run admits.right

theorem compiled_ofCondition {operator : Operator} {left right : Expr}
    (known : (Expr.condition operator left right).Everywhere fun node => node.isKnown)
    (compiled : ofCondition scope operator left right = ⟨.ok p, events⟩)
    (admits : scope.Admits events admitted) : p.Compiled admitted := by
  obtain ⟨known, leftKnown, rightKnown⟩ := Expr.everywhere_condition.mp known
  cases conditionRun_of_condition compiled with
  | @comparison comparator _ _ _ run =>
      refine compiled_ofComparison ?_ leftKnown rightKnown run admits
      cases comparator with
      | unknown _ => cases known
      | eq | ne | lt | le | gt | ge | like _ _ => rfl
  | membership run => exact compiled_ofMembership leftKnown rightKnown run admits
  | @equalities _ _ ps _ _ run =>
      have each : ∀ p ∈ ps, p.Compiled admitted := by
        refine (each_ofEqualities run).forall_right fun item among p part within => ?_
        rintro ⟨q, run, rfl⟩
        have itemKnown := (Expr.everywhere_array.mp rightKnown).2 item among
        have known : Comparator.eq.isKnown := rfl
        exact compiled_markRole
          (compiled_ofComparison known leftKnown itemKnown run (admits.mono within))
      split
      · exact compiled_negate admits.negate (compiled_anyOf each)
      · exact compiled_anyOf each
  | null run => exact compiled_through rfl (.isNull (isSound_of_side leftKnown run))
  | standIn run => exact compiled_standIn run admits.right

theorem compiled_ofValue {e : Expr} (known : e.Everywhere fun node => node.isKnown)
    (compiled : ofValue scope e = ⟨.ok p, events⟩)
    (admits : scope.Admits events admitted) : p.Compiled admitted := by
  cases valueRun_of_value compiled with
  | side run =>
      have equates : Comparator.eq.isKnown := rfl
      refine compiled_through rfl (.compare equates (isSound_of_side known run) rfl ?_)
      rw [oriented]
      simp [Operand.isRecord]
  | standIn run => exact compiled_standIn run admits.right

theorem compiled_ofLiteral {item : Literal} (compiled : ofLiteral scope item = ⟨.ok p, events⟩)
    (admits : scope.Admits events admitted) : p.Compiled admitted := by
  obtain ⟨b, rfl⟩ | standsIn := ofLiteral_eq_ok compiled
  · exact .const
  · exact compiled_standIn standsIn admits

theorem isSound_of_subject {actorFirst : Bool} {e : Expr} {operand : Operand}
    (known : e.Everywhere fun node => node.isKnown)
    (found : subject? scope actorFirst e = ⟨.ok (some operand), events⟩) : operand.isSound := by
  obtain ⟨_, sideRun⟩ := side_of_subject found
  exact isSound_of_side known sideRun

def Shaped (scope : Scope) (admitted : Unresolved → Prop) (e : Expr) (p : Predicate)
    (events : List Event) : Prop :=
  e.Everywhere (fun node => node.isKnown) → scope.Admits events admitted → p.Compiled admitted

theorem compiled_of_otherwise {otherwise : Option Expr}
    (run : Otherwise (Ran scope (Shaped scope admitted)) otherwise p events)
    (known : ∀ e ∈ otherwise, e.Everywhere fun node => node.isKnown)
    (admits : scope.Admits events admitted) : p.Compiled admitted := by
  cases run with
  | none => exact .const
  | some ran => exact ran.2 (known _ rfl) admits

theorem invariant_shaped (scope : Scope) (admitted : Unresolved → Prop) :
    Invariant scope (Shaped scope admitted) where
  any each known admits := by
    refine compiled_anyOf (each.forall_right fun e member p part within ran => ?_)
    exact ran.2 ((Expr.everywhere_any.mp known).2 e member) (admits.mono within)
  all each known admits := by
    refine compiled_allOf (each.forall_right fun e member p part within ran => ?_)
    exact ran.2 ((Expr.everywhere_all.mp known).2 e member) (admits.mono within)
  not ran known admits :=
    compiled_negate admits.negate (ran.2 (Expr.everywhere_not.mp known).2 admits)
  literal compiled _ admits := compiled_ofLiteral compiled admits
  condition compiled known admits :=
    compiled_markRole (compiled_ofCondition known compiled admits)
  value _ compiled known admits := compiled_markRole (compiled_ofValue known compiled admits)
  firstOf each last known admits := by
    obtain ⟨_, _, branches, otherwise⟩ := Expr.everywhere_choice.mp known
    have keys := each.forall_right fun branch member _ part within step => by
      obtain ⟨before, after, key, _, rfl⟩ := step
      exact key.2 (branches branch member).1 (admits.left.mono within).left
    have outcomes := each.forall_right fun branch member _ part within step => by
      obtain ⟨before, after, _, outcome, rfl⟩ := step
      exact outcome.2 (branches branch member).2 (admits.left.mono within).right
    exact compiled_markRole
      (.firstOf keys outcomes (compiled_of_otherwise last otherwise admits.right))
  select subject keys each last known admits := by
    obtain ⟨_, chosen, branches, otherwise⟩ := Expr.everywhere_choice.mp known
    have keysSound := (each_keys keys).forall_right fun branch member _ _ _ key =>
      isSound_of_subject (branches branch member).1 key
    have outcomes := each.forall_right fun e member p part within ran => by
      obtain ⟨branch, among, rfl⟩ := List.mem_map.mp member
      exact ran.2 (branches branch among).2 (admits.right.right.left.mono within)
    refine compiled_markRole (.select (isSound_of_subject (chosen _ rfl) subject) ?_ ?_
      (compiled_of_otherwise last otherwise admits.right.right.right))
    · intro branch member
      exact keysSound _ (List.of_mem_zip member).1
    · intro branch member
      exact outcomes _ (List.of_mem_zip member).2
  standIn _ compiled _ admits := compiled_standIn compiled admits.right

/-- A parsed policy compiles to the shape of compiled predicates. -/
theorem compiled_of_parse {text entity : String} {e : Expr}
    (parsed : Expr.parse text entity = .ok e) (compiled : compile scope e = ⟨.ok p, events⟩)
    (admits : scope.Admits events admitted) : p.Compiled admitted :=
  (invariant_shaped scope admitted).ofCompile e compiled (Expr.grammar_known.ofParse parsed) admits

end Shape

/-! ## Events -/

section Issues

variable {scope : Scope} {allowed : Event → Prop}

theorem notes_ofExcept {α : Type} (outcome : Except Unsupported α) :
    (Compilation.ofExcept outcome).Notes allowed :=
  Traced.notes_lift _

variable (allows : scope.Allows allowed)

include allows

theorem notes_resolve (name : String) : (scope.resolve name).Notes allowed := by
  intro event noted
  obtain ⟨guess, _, rfl⟩ := List.mem_map.mp noted
  exact allows.guess guess

theorem notes_standIn (e : Expr) (kind : String) (related : Option String) :
    (standIn scope e kind related).Notes allowed := by
  refine .bind ?_ fun _ => Traced.notes_pure _
  refine .bind (notes_ofExcept _) fun _ => ?_
  exact .bind (Traced.notes_note (allows.construct _ _ _)) fun _ => Traced.notes_pure _

theorem notes_actorField (name text : String) :
    (scope.actorField name text).Notes allowed := by
  refine .bind (notes_resolve allows name) fun path => ?_
  have refined : (do
      let parts ← Traced.lift (scope.refine path.parts)
      return Operand.actor parts name : Compilation Operand).Notes allowed :=
    .bind (Traced.notes_lift _) fun _ => Traced.notes_pure _
  dsimp only
  split
  · exact .bind (Traced.notes_note (allows.guessed _ _)) fun _ => refined
  · exact refined

theorem notes_provider (name : String) : (scope.provider? name).Notes allowed := by
  refine .bind (notes_resolve allows name) fun path => ?_
  split
  · exact Traced.notes_pure _
  · exact .bind (Traced.notes_lift _) fun _ => Traced.notes_pure _

theorem notes_locate (actorFirst : Bool) (name : String) (qualifier : Option String) :
    (scope.locate actorFirst name qualifier).Notes allowed := by
  have located := scope.locates_locate actorFirst name qualifier
  generalize scope.locate actorFirst name qualifier = run at located ⊢
  induction located with
  | field _ => exact Traced.notes_pure _
  | fail _ => exact Traced.notes_fail _
  | provider onPath _ otherwise =>
      refine .bind (notes_provider allows name) fun found => ?_
      cases found with
      | none => exact otherwise
      | some path =>
          rw [onPath]
          exact Traced.notes_pure _

theorem notes_side (actorFirst : Bool) (e : Expr) :
    (side? scope actorFirst e).Notes allowed := by
  unfold side?
  split
  · exact Traced.notes_pure _
  · exact Traced.notes_pure _
  · exact .bind (notes_ofExcept _) fun _ =>
      .bind (notes_actorField allows _ _) fun _ => Traced.notes_pure _
  · exact .bind (notes_ofExcept _) fun _ =>
      .bind (notes_actorField allows _ _) fun _ => Traced.notes_pure _
  · refine .bind (notes_locate allows _ _ _) fun reference => ?_
    cases reference with
    | actor path => exact Traced.notes_pure _
    | field location => exact Traced.notes_pure _
  · exact Traced.notes_pure _

theorem notes_joinSides (join : Side → Side → Option Predicate) (left right e : Expr) :
    (joinSides scope join left right e).Notes allowed := by
  refine .bind (notes_side allows _ _) fun leftSide => ?_
  refine .bind (notes_side allows _ _) fun rightSide => ?_
  split
  · split
    · exact Traced.notes_pure _
    · exact notes_standIn allows _ _ _
  · exact notes_standIn allows _ _ _

theorem notes_ofEqualities (left : Expr) (items : List Expr) :
    (ofEqualities scope left items).Notes allowed := by
  induction items with
  | nil => exact Traced.notes_pure _
  | cons item items ih =>
      exact .bind (notes_joinSides allows _ _ _ _) fun _ =>
        .bind ih fun _ => Traced.notes_pure _

theorem notes_ofCondition (operator : Operator) (left right : Expr) :
    (ofCondition scope operator left right).Notes allowed := by
  unfold ofCondition
  split
  · exact notes_joinSides allows _ _ _ _
  · refine .bind (notes_side allows _ _) fun side => ?_
    cases side with
    | some side => exact Traced.notes_pure _
    | none => exact notes_standIn allows _ _ _
  · split
    · exact notes_standIn allows _ _ _
    · split
      · exact notes_joinSides allows _ _ _ _
      · exact .bind (notes_ofEqualities allows _ _) fun _ => Traced.notes_pure _
    · exact notes_joinSides allows _ _ _ _

theorem notes_ofValue (e : Expr) : (ofValue scope e).Notes allowed := by
  refine .bind (notes_side allows _ _) fun side => ?_
  cases side with
  | some side => exact Traced.notes_pure _
  | none => exact notes_standIn allows _ _ _

theorem notes_ofLiteral (item : Literal) : (ofLiteral scope item).Notes allowed := by
  unfold ofLiteral
  split
  · exact Traced.notes_pure _
  · exact Traced.notes_pure _
  · exact notes_standIn allows _ _ _

theorem notes_subject (actorFirst : Bool) (e : Expr) :
    (subject? scope actorFirst e).Notes allowed := by
  refine .bind (notes_side allows _ _) fun side => ?_
  split
  · exact Traced.notes_pure _
  · exact Traced.notes_pure _

theorem notes_keys (branches : List (Expr × Expr)) :
    (keys? scope branches).Notes allowed := by
  induction branches with
  | nil => exact Traced.notes_pure _
  | cons branch branches ih =>
      refine .bind (notes_subject allows _ _) fun key => ?_
      cases key with
      | none => exact Traced.notes_pure _
      | some key => exact .bind ih fun _ => Traced.notes_pure _

theorem invariant_allowed : Invariant scope fun _ _ events => ∀ event ∈ events, allowed event where
  any each := each.forall_event fun _ _ _ ran => ran.2
  all each := each.forall_event fun _ _ _ ran => ran.2
  not ran := ran.2
  literal {item _ _} compiled := (notes_ofLiteral allows item).of_eq compiled
  condition compiled := (notes_ofCondition allows _ _ _).of_eq compiled
  value {e _ _} _ compiled := (notes_ofValue allows e).of_eq compiled
  firstOf each last := by
    refine List.forall_mem_append.mpr ⟨each.forall_event fun _ _ _ step => ?_, ?_⟩
    · obtain ⟨before, after, key, outcome, rfl⟩ := step
      exact List.forall_mem_append.mpr ⟨key.2, outcome.2⟩
    · cases last with
      | none => simp
      | some ran => exact ran.2
  select subject keys each last := by
    refine List.forall_mem_append.mpr ⟨(notes_subject allows _ _).of_eq subject, ?_⟩
    refine List.forall_mem_append.mpr ⟨(notes_keys allows _).of_eq keys, ?_⟩
    refine List.forall_mem_append.mpr ⟨each.forall_event fun _ _ _ ran => ran.2, ?_⟩
    cases last with
    | none => simp
    | some ran => exact ran.2
  standIn before compiled := by
    refine List.forall_mem_append.mpr ⟨?_, (notes_standIn allows _ _ _).of_eq compiled⟩
    cases before with
    | nothing => simp
    | subject found => exact (notes_subject allows _ _).of_eq found
    | keys found keys =>
        exact List.forall_mem_append.mpr
          ⟨(notes_subject allows _ _).of_eq found, (notes_keys allows _).of_eq keys⟩

omit allows

/-- A compilation leaves no role checks: they come from lowering alone. -/
theorem roleChecks_of_compile {e : Expr} {p : Predicate} {events : List Event}
    (compiled : compile scope e = ⟨.ok p, events⟩) : Compilation.roleChecks events = [] := by
  refine List.filterMap_eq_nil_iff.mpr fun event member => ?_
  have issued := (invariant_allowed (scope.allows_issues False)).ofCompile e compiled event member
  cases event with
  | finding _ | guess _ => rfl
  | roleCheck _ => exact issued.elim

end Issues

end Predicate

/-! ## Record checks -/

theorem Scope.result_recordCheck {scope : Scope} {e : Expr} {p : Predicate}
    {events : List Compilation.Event} (compiled : Predicate.compile scope e = ⟨.ok p, events⟩) :
    (scope.recordCheck e).result = .ok ⟨p, Compilation.diagnostics events⟩ := by
  rw [recordCheck, compiled]
  rfl

theorem Scope.compile_of_recordCheck {scope : Scope} {e : Expr} {check : RecordCheck}
    (checked : (scope.recordCheck e).result = .ok check) :
    (Predicate.compile scope e).result = .ok check.condition := by
  rw [recordCheck] at checked
  cases compiled : (Predicate.compile scope e).result with
  | error error => rw [compiled] at checked; cases checked
  | ok p => rw [compiled] at checked; cases checked; rfl

end RowGuard
