import Mathlib.Data.List.Forall2
import RowGuard.Proofs.Predicate.Laws
import RowGuard.Proofs.RowFilter.Laws

/-! Folding and short circuits. A connective stops at the first operand that
settles it, so folding may change which operands are read and which of them fail.
Items that are evaluated without a failure keep their truth all the same, however
unloaded relationships are met: a folded conjunction has the least of their
truths, a folded disjunction the greatest, and negation is exact. -/

set_option autoImplicit false

namespace RowGuard

namespace Truth

/-- The least of some truth values, false before unknown before true; true if there are none. -/
def least (values : List Truth) : Truth :=
  if .no ∈ values then .no else if .unknown ∈ values then .unknown else .yes

/-- The greatest of some truth values; false if there are none. -/
def greatest (values : List Truth) : Truth :=
  if .yes ∈ values then .yes else if .unknown ∈ values then .unknown else .no

variable {values : List Truth}

theorem all_eq_least (proper : ∀ t ∈ values, t.isProper) : all values = least values := by
  unfold least
  split
  · next found => exact all_eq_no_iff.mpr found
  · next no =>
    split
    · next found =>
      have known : all values ≠ .yes := by
        intro holds
        cases (all_eq_yes_iff proper).mp holds _ found
      cases whole : all values with
      | unknown => rfl
      | no => exact absurd (all_eq_no_iff.mp whole) no
      | yes => exact absurd whole known
      | other _ =>
          have := isProper_all values
          rw [whole] at this
          cases this
    · next unknown =>
      refine (all_eq_yes_iff proper).mpr fun t member => ?_
      cases t with
      | yes => rfl
      | no => exact absurd member no
      | unknown => exact absurd member unknown
      | other _ => cases proper _ member

theorem any_eq_greatest (proper : ∀ t ∈ values, t.isProper) : any values = greatest values := by
  unfold greatest
  split
  · next found => exact any_eq_yes_iff.mpr found
  · next no =>
    split
    · next found =>
      have known : any values ≠ .no := by
        intro fails
        cases (any_eq_no_iff proper).mp fails _ found
      cases whole : any values with
      | unknown => rfl
      | yes => exact absurd (any_eq_yes_iff.mp whole) no
      | no => exact absurd whole known
      | other _ =>
          have := isProper_any values
          rw [whole] at this
          cases this
    · next unknown =>
      refine (any_eq_no_iff proper).mpr fun t member => ?_
      cases t with
      | no => rfl
      | yes => exact absurd member no
      | unknown => exact absurd member unknown
      | other _ => cases proper _ member

end Truth

/-! ## Operands in order -/

namespace Folding

section Runs

variable {α ε : Type} {connective : Connective} {value : α → Except ε Truth}
  {opened : α → Option (List α)} {p : α} {items ps qs inner : List α} {t u : Truth}
  {ts : List Truth}

/-- The truth of operands that are taken in order, up to the first that settles it. -/
def run (connective : Connective) (value : α → Except ε Truth) : List α → Except ε Truth
  | [] => .ok (connective.combine [])
  | p :: ps =>
    match value p with
    | .error error => .error error
    | .ok truth =>
      if truth = connective.settling then .ok truth
      else (run connective value ps).map (connective.op truth)

theorem run_cons_of_settling (ended : value p = .ok connective.settling) :
    run connective value (p :: ps) = .ok connective.settling := by
  rw [run, ended]
  exact if_pos rfl

theorem run_cons (ended : value p = .ok t) (later : run connective value ps = .ok u) :
    run connective value (p :: ps) = .ok (connective.op t u) := by
  by_cases settles : t = connective.settling
  · subst settles
    rw [connective.settling_op]
    exact run_cons_of_settling ended
  · rw [run, ended, later]
    exact if_neg settles

theorem run_singleton (ended : value p = .ok t) :
    run connective value [p] = .ok (connective.combine [t]) := by
  rw [connective.combine_cons]
  exact run_cons ended rfl

theorem run_cons_cases (ended : run connective value (p :: ps) = .ok u) :
    value p = .ok connective.settling ∧ u = connective.settling ∨
      ∃ t rest, value p = .ok t ∧ run connective value ps = .ok rest ∧ u = connective.op t rest := by
  rw [run.eq_def] at ended
  dsimp only at ended
  split at ended
  · cases ended
  · next t valued =>
    split at ended
    · next settles =>
      cases ended
      subst settles
      exact .inl ⟨valued, rfl⟩
    · cases later : run connective value ps with
      | error _ =>
          rw [later] at ended
          cases ended
      | ok rest =>
          rw [later] at ended
          cases ended
          exact .inr ⟨t, rest, valued, rfl, rfl⟩

/-- A finished run has combined some truths. -/
theorem exists_combine (ended : run connective value ps = .ok u) :
    ∃ ts, u = connective.combine ts := by
  induction ps generalizing u with
  | nil =>
      cases ended
      exact ⟨[], rfl⟩
  | cons p ps ih =>
      rcases run_cons_cases ended with ⟨_, rfl⟩ | ⟨t, rest, _, later, rfl⟩
      · exact ⟨[connective.settling], by rw [connective.combine_cons, connective.settling_op]⟩
      · obtain ⟨ts, rfl⟩ := ih later
        exact ⟨t :: ts, (connective.combine_cons t ts).symm⟩

theorem isProper_of_run_all (ended : run conjunction value ps = .ok t) : t.isProper := by
  obtain ⟨ts, rfl⟩ := exists_combine ended
  exact Truth.isProper_all ts

theorem isProper_of_run_any (ended : run disjunction value ps = .ok t) : t.isProper := by
  obtain ⟨ts, rfl⟩ := exists_combine ended
  exact Truth.isProper_any ts

theorem combine_run (ended : run connective value ps = .ok u) :
    connective.combine [u] = u := by
  obtain ⟨ts, rfl⟩ := exists_combine ended
  rw [connective.combine_cons, ← connective.combine_append, List.append_nil]

/-- Operands behind others are taken unless those before them settle the truth. -/
theorem run_append (first : run connective value ps = .ok u)
    (second : run connective value qs = .ok (connective.combine ts)) :
    run connective value (ps ++ qs) = .ok (connective.op u (connective.combine ts)) := by
  induction ps generalizing u with
  | nil =>
      cases first
      rw [← connective.combine_append]
      exact second
  | cons p ps ih =>
      rcases run_cons_cases first with ⟨valued, rfl⟩ | ⟨t, rest, valued, later, rfl⟩
      · rw [connective.settling_op]
        exact run_cons_of_settling valued
      · obtain ⟨us, rfl⟩ := exists_combine later
        calc
          run connective value (p :: ps ++ qs)
              = .ok (connective.op t (connective.op (connective.combine us)
                  (connective.combine ts))) := run_cons valued (ih later)
          _ = .ok (connective.combine (t :: us ++ ts)) := by
              rw [← connective.combine_append, ← connective.combine_cons, List.cons_append]
          _ = .ok (connective.op (connective.op t (connective.combine us))
                (connective.combine ts)) := by
              rw [connective.combine_append, connective.combine_cons]

/-- What an item that has a truth is opened up to: parts that run to it, or nothing if it settles the
whole. -/
def Unfolds (connective : Connective) (value : α → Except ε Truth) (opened : α → Option (List α))
    (item : α) : Prop :=
  ∀ t, value item = .ok t →
    match opened item with
    | none => t = connective.settling
    | some inner => run connective value inner = .ok (connective.combine [t])

theorem unfolds_self (single : opened p = some [p]) : Unfolds connective value opened p := by
  intro t ended
  rw [single]
  exact run_singleton ended

theorem unfolds_node {operands : List α} (opens : opened p = some operands)
    (runs : value p = run connective value operands) : Unfolds connective value opened p := by
  intro t ended
  rw [runs] at ended
  rw [opens, combine_run ended]
  exact ended

theorem run_parts (unfolds : ∀ item ∈ items, Unfolds connective value opened item)
    (ended : items.Forall₂ (fun item t => value item = .ok t) ts) :
    match parts opened items with
    | none => connective.combine ts = connective.settling
    | some found => run connective value found = .ok (connective.combine ts) := by
  induction ended with
  | nil => rfl
  | @cons item t items ts first _ ih =>
      rw [List.forall_mem_cons] at unfolds
      have front := unfolds.1 t first
      have back := ih unfolds.2
      rw [parts, connective.combine_cons]
      cases opening : opened item with
      | none =>
          rw [opening] at front
          rw [front]
          exact connective.settling_op _
      | some inner =>
          rw [opening] at front
          cases folding : parts opened items with
          | none =>
              rw [folding] at back
              rw [back]
              exact connective.op_settling _
          | some found =>
              rw [folding] at back
              exact (run_append front back).trans (by
                rw [← connective.combine_append, List.singleton_append, connective.combine_cons])

/-- The truth of a folded connective combines those of its items. -/
theorem run_joined (connective : Connective) (value : α → Except ε Truth) {settled empty : α}
    {node : List α → α}
    (onSettled : value settled = .ok connective.settling)
    (onEmpty : value empty = .ok (connective.combine []))
    (onNode : ∀ ps, value (node ps) = run connective value ps)
    (unfolds : ∀ item ∈ items, Unfolds connective value opened item)
    (proper : ∀ item ∈ items, ∀ inner, opened item = some inner → ∀ part ∈ inner,
      ∀ t, value part = .ok t → t.isProper)
    (ended : items.Forall₂ (fun item t => value item = .ok t) ts) :
    value (joined settled empty node (parts opened items)) = .ok (connective.combine ts) := by
  have runs := run_parts unfolds ended
  cases folded : parts opened items with
  | none =>
      rw [folded] at runs
      rw [runs]
      exact onSettled
  | some found =>
      rw [folded] at runs
      match found with
      | [] =>
          rw [← runs]
          exact onEmpty
      | [part] =>
          obtain ⟨item, among, inner, opening, inside⟩ := mem_parts folded (.head _)
          rcases run_cons_cases runs with ⟨valued, same⟩ | ⟨t, rest, valued, nothing, same⟩
          · rw [same]
            exact valued
          · cases nothing
            rw [same, ← connective.combine_cons,
              connective.combine_singleton t (proper item among inner opening part inside t valued)]
            exact valued
      | first :: second :: rest =>
          rw [← runs]
          exact onNode _

end Runs

end Folding

/-! ## Truth values -/

section Proper

variable {α : Type}

/-- Whether a run that ends, ends in one of the three truth values. -/
def Evaluation.IsProper (run : Evaluation Truth) : Prop :=
  ∀ t, run.result = .ok t → t.isProper

theorem Evaluation.isProper_pure {t : Truth} (proper : t.isProper) :
    (pure t : Evaluation Truth).IsProper := by
  rintro _ ⟨⟩
  exact proper

theorem Evaluation.isProper_bind {first : Evaluation α} {next : α → Evaluation Truth}
    (proper : ∀ value, first.result = .ok value → (next value).IsProper) :
    (first >>= next).IsProper := by
  intro t ended
  obtain ⟨value, before, after⟩ := Traced.result_bind_eq_ok_iff.mp ended
  exact proper value before t after

theorem Evaluation.IsProper.map_not_not {run : Evaluation Truth} (proper : run.IsProper) :
    (run.result.map Truth.not).map Truth.not = run.result := by
  cases ended : run.result with
  | error _ => rfl
  | ok t => exact congrArg _ (Truth.not_not (proper t ended))

theorem isProper_someRow (test : Value → Evaluation Truth) (rows : List Value) :
    (someRow test rows).IsProper := by
  induction rows with
  | nil => exact Evaluation.isProper_pure rfl
  | cons row rows ih =>
      refine Evaluation.isProper_bind fun truth _ => ?_
      split
      · exact Evaluation.isProper_pure rfl
      · exact ih

theorem isProper_lift_truth (comparator : Comparator) (left right : Value) :
    Evaluation.IsProper (.lift (comparator.truth left right)) := by
  intro t ended
  have proper := comparator.isProper_compare left right
  rwa [Comparator.compare, show comparator.truth left right = .ok t from ended] at proper

theorem isProper_lift_memberOf (value values : Value) :
    Evaluation.IsProper (.lift (value.memberOf values)) := by
  intro t ended
  have proper := value.isProper_membership values
  rwa [Value.membership, show value.memberOf values = .ok t from ended] at proper

end Proper

namespace Predicate

variable {mode : UnloadedMode} {actor record : Value} {p : Predicate} {items : List Predicate}
  {values : List Truth}

/-- The truth of a predicate on a record, or why it has none. -/
def outcome (mode : UnloadedMode) (actor record : Value) (p : Predicate) : Except EvalError Truth :=
  (p.eval mode actor record).result

/-- Whether a node, if it is a constant or stands in for something without a meaning of its own, is
a truth value. -/
def Decided : Predicate → Prop
  | .const value => ∃ b, value = .bool b
  | .unresolved construct => ∃ b, construct.default = .bool b
  | _ => True

theorem outcome_all (ps : List Predicate) :
    (Predicate.all ps).outcome mode actor record =
      Folding.run Folding.conjunction (outcome mode actor record) ps := by
  change (evalAll mode actor ps record).result = _
  induction ps with
  | nil => rfl
  | cons p ps ih =>
      rw [evalAll, Traced.result_bind, Folding.run, outcome, ← ih]
      cases (p.eval mode actor record).result with
      | error _ => rfl
      | ok t =>
          cases t with
          | no => rfl
          | unknown | yes | other _ => exact Traced.result_bind _ _

theorem outcome_any (ps : List Predicate) :
    (Predicate.any ps).outcome mode actor record =
      Folding.run Folding.disjunction (outcome mode actor record) ps := by
  change (evalAny mode actor ps record).result = _
  induction ps with
  | nil => rfl
  | cons p ps ih =>
      rw [evalAny, Traced.result_bind, Folding.run, outcome, ← ih]
      cases (p.eval mode actor record).result with
      | error _ => rfl
      | ok t =>
          cases t with
          | yes => rfl
          | unknown | no | other _ => exact Traced.result_bind _ _

theorem outcome_not (operand : Predicate) :
    (Predicate.not operand).outcome mode actor record =
      (operand.outcome mode actor record).map Truth.not :=
  Traced.result_bind _ _

theorem isProper_evalSelect {subject : Value} {branches : List (Operand × Predicate)} {t : Truth}
    (proper : ∀ branch ∈ branches, (branch.2.eval mode actor record).IsProper)
    (ended : (evalSelect mode actor subject branches record).result = .ok (some t)) :
    t.isProper := by
  induction branches with
  | nil => cases ended
  | cons branch rest ih =>
      rw [List.forall_mem_cons] at proper
      obtain ⟨key, _, ended⟩ := Traced.result_bind_eq_ok_iff.mp ended
      obtain ⟨matching, _, ended⟩ := Traced.result_bind_eq_ok_iff.mp ended
      split at ended
      · obtain ⟨truth, valued, ended⟩ := Traced.result_bind_eq_ok_iff.mp ended
        cases ended
        exact proper.1 t valued
      · exact ih proper.2 ended

theorem isProper_evalFirst {branches : List (Predicate × Predicate)} {t : Truth}
    (proper : ∀ branch ∈ branches, (branch.2.eval mode actor record).IsProper)
    (ended : (evalFirst mode actor branches record).result = .ok (some t)) : t.isProper := by
  induction branches with
  | nil => cases ended
  | cons branch rest ih =>
      rw [List.forall_mem_cons] at proper
      obtain ⟨matching, _, ended⟩ := Traced.result_bind_eq_ok_iff.mp ended
      split at ended
      · obtain ⟨truth, valued, ended⟩ := Traced.result_bind_eq_ok_iff.mp ended
        cases ended
        exact proper.1 t valued
      · exact ih proper.2 ended

theorem isProper_eval (decided : p.Everywhere Decided) (record : Value) :
    (p.eval mode actor record).IsProper := by
  -- Constants and constructs are in order by `Decided`; every other node makes a truth of its own
  -- or takes that of a part.
  induction decided generalizing record with
  | @node p here _ ih =>
      cases p with
      | const value =>
          obtain ⟨b, rfl⟩ := here
          exact Evaluation.isProper_pure (Truth.isProper_ofBool b)
      | unresolved construct =>
          obtain ⟨b, default⟩ := here
          rw [eval, default]
          exact Evaluation.isProper_pure (Truth.isProper_ofBool b)
      | all operands =>
          exact fun t ended => Folding.isProper_of_run_all ((outcome_all operands).symm.trans ended)
      | any operands =>
          exact fun t ended => Folding.isProper_of_run_any ((outcome_any operands).symm.trans ended)
      | not operand =>
          exact Evaluation.isProper_bind fun _ _ => Evaluation.isProper_pure (Truth.isProper_not _)
      | compare comparator left right =>
          exact Evaluation.isProper_bind fun left _ => Evaluation.isProper_bind fun right _ =>
            isProper_lift_truth comparator left right
      | member operand values negated =>
          refine Evaluation.isProper_bind fun value _ => Evaluation.isProper_bind fun values _ => ?_
          refine Evaluation.isProper_bind fun truth found => Evaluation.isProper_pure ?_
          exact Truth.isProper_negatedIf (isProper_lift_memberOf value values truth found) negated
      | isNull operand negated =>
          exact Evaluation.isProper_bind fun _ _ =>
            Evaluation.isProper_pure (Truth.isProper_ofBool _)
      | anyRelated relation condition joinFields =>
          exact Evaluation.isProper_bind fun _ _ => isProper_someRow _ _
      | select subject branches otherwise =>
          refine Evaluation.isProper_bind fun subject _ => ?_
          refine Evaluation.isProper_bind fun found ended => ?_
          cases found with
          | none => exact ih otherwise (List.mem_append_right _ (.head _)) record
          | some t =>
              refine Evaluation.isProper_pure (isProper_evalSelect (fun branch member => ?_) ended)
              exact ih _ (List.mem_append_left _ (List.mem_map_of_mem member)) record
      | firstOf branches otherwise =>
          refine Evaluation.isProper_bind fun found ended => ?_
          cases found with
          | none => exact ih otherwise (by simp [children]) record
          | some t =>
              refine Evaluation.isProper_pure (isProper_evalFirst (fun branch member => ?_) ended)
              refine ih _ (List.mem_append_right _ (List.mem_append_left _ ?_)) record
              exact List.mem_map_of_mem member
      | role condition => exact ih condition (.head _) record
      | foreign node =>
          rintro _ ⟨⟩

theorem unfolds_all (decided : Decided p) :
    Folding.Unfolds Folding.conjunction (outcome mode actor record) opensAll p := by
  cases p with
  | const value =>
      obtain ⟨b, rfl⟩ := decided
      rintro _ ⟨⟩
      cases b <;> rfl
  | all operands => exact Folding.unfolds_node rfl (outcome_all operands)
  | any _ | not _ | compare _ _ _ | member _ _ _ | isNull _ _ | anyRelated _ _ _ | select _ _ _
  | firstOf _ _ | role _ | unresolved _ | foreign _ => exact Folding.unfolds_self rfl

theorem unfolds_any (decided : Decided p) :
    Folding.Unfolds Folding.disjunction (outcome mode actor record) opensAny p := by
  cases p with
  | const value =>
      obtain ⟨b, rfl⟩ := decided
      rintro _ ⟨⟩
      cases b <;> rfl
  | any operands => exact Folding.unfolds_node rfl (outcome_any operands)
  | all _ | not _ | compare _ _ _ | member _ _ _ | isNull _ _ | anyRelated _ _ _ | select _ _ _
  | firstOf _ _ | role _ | unresolved _ | foreign _ => exact Folding.unfolds_self rfl

theorem outcome_allOf (decided : ∀ p ∈ items, p.Everywhere Decided)
    (ended : items.Forall₂ (fun p t => p.outcome mode actor record = .ok t) values) :
    (allOf items).outcome mode actor record = .ok (Truth.all values) := by
  rw [allOf_eq_joined]
  refine Folding.run_joined Folding.conjunction (outcome mode actor record) rfl rfl outcome_all
    (fun item member => unfolds_all (decided item member).here) ?_ ended
  intro item member inner opens part inside
  obtain rfl | ⟨operands, rfl, among⟩ := mem_opensAll opens inside
  · exact isProper_eval (decided _ member) record
  · exact isProper_eval ((decided _ member).children part among) record

theorem outcome_anyOf (decided : ∀ p ∈ items, p.Everywhere Decided)
    (ended : items.Forall₂ (fun p t => p.outcome mode actor record = .ok t) values) :
    (anyOf items).outcome mode actor record = .ok (Truth.any values) := by
  rw [anyOf_eq_joined]
  refine Folding.run_joined Folding.disjunction (outcome mode actor record) rfl rfl outcome_any
    (fun item member => unfolds_any (decided item member).here) ?_ ended
  intro item member inner opens part inside
  obtain rfl | ⟨operands, rfl, among⟩ := mem_opensAny opens inside
  · exact isProper_eval (decided _ member) record
  · exact isProper_eval ((decided _ member).children part among) record

/-- Negation is exact, failures included, on everything that has a meaning. -/
theorem outcome_negate (meaningful : ∀ construct, p ≠ .unresolved construct)
    (decided : p.Everywhere Decided) :
    p.negate.outcome mode actor record = (p.outcome mode actor record).map Truth.not := by
  cases p with
  | const value =>
      obtain ⟨b, rfl⟩ := decided.here
      cases b <;> rfl
  | not operand =>
      have proper : (operand.eval mode actor record).IsProper :=
        isProper_eval (decided.children operand (.head _)) record
      rw [negate, outcome_not]
      exact proper.map_not_not.symm
  | unresolved construct => exact absurd rfl (meaningful construct)
  | all _ | any _ | compare _ _ _ | member _ _ _ | isNull _ _ | anyRelated _ _ _ | select _ _ _
  | firstOf _ _ | role _ | foreign _ => exact outcome_not _

end Predicate

namespace RowFilter

variable {mode : UnloadedMode} {actor record : Value} {f : RowFilter} {items : List RowFilter}
  {values : List Truth}

/-- The truth of a filter on a record, or why it has none. -/
def outcome (mode : UnloadedMode) (actor record : Value) (f : RowFilter) : Except EvalError Truth :=
  (f.eval mode actor record).result

theorem outcome_all (fs : List RowFilter) :
    (RowFilter.all fs).outcome mode actor record =
      Folding.run Folding.conjunction (outcome mode actor record) fs := by
  change (evalAll mode actor fs record).result = _
  induction fs with
  | nil => rfl
  | cons f fs ih =>
      rw [evalAll, Traced.result_bind, Folding.run, outcome, ← ih]
      cases (f.eval mode actor record).result with
      | error _ => rfl
      | ok t =>
          cases t with
          | no => rfl
          | unknown | yes | other _ => exact Traced.result_bind _ _

theorem outcome_any (fs : List RowFilter) :
    (RowFilter.any fs).outcome mode actor record =
      Folding.run Folding.disjunction (outcome mode actor record) fs := by
  change (evalAny mode actor fs record).result = _
  induction fs with
  | nil => rfl
  | cons f fs ih =>
      rw [evalAny, Traced.result_bind, Folding.run, outcome, ← ih]
      cases (f.eval mode actor record).result with
      | error _ => rfl
      | ok t =>
          cases t with
          | yes => rfl
          | unknown | no | other _ => exact Traced.result_bind _ _

theorem outcome_not (operand : RowFilter) :
    (RowFilter.not operand).outcome mode actor record =
      (operand.outcome mode actor record).map Truth.not :=
  Traced.result_bind _ _

theorem isProper_eval (defaulted : f.Everywhere Defaulted) (record : Value) :
    (f.eval mode actor record).IsProper := by
  induction defaulted generalizing record with
  | @node f here _ ih =>
      cases f with
      | pass | block => exact Evaluation.isProper_pure rfl
      | all operands =>
          exact fun t ended => Folding.isProper_of_run_all ((outcome_all operands).symm.trans ended)
      | any operands =>
          exact fun t ended => Folding.isProper_of_run_any ((outcome_any operands).symm.trans ended)
      | not operand =>
          exact Evaluation.isProper_bind fun _ _ => Evaluation.isProper_pure (Truth.isProper_not _)
      | equals field value =>
          exact Evaluation.isProper_bind fun left _ => Evaluation.isProper_bind fun right _ =>
            isProper_lift_truth .eq left right
      | compare field comparator value =>
          exact Evaluation.isProper_bind fun left _ => Evaluation.isProper_bind fun right _ =>
            isProper_lift_truth comparator left right
      | member field values =>
          exact Evaluation.isProper_bind fun value _ => Evaluation.isProper_bind fun values _ =>
            isProper_lift_memberOf value values
      | isNull field =>
          exact Evaluation.isProper_bind fun _ _ =>
            Evaluation.isProper_pure (Truth.isProper_ofBool _)
      | like field pattern ignoreCase =>
          exact Evaluation.isProper_bind fun value _ => Evaluation.isProper_bind fun pattern _ =>
            Evaluation.isProper_pure (Value.isProper_matches ignoreCase value pattern)
      | someRelated relation condition joinFields =>
          exact Evaluation.isProper_bind fun _ _ => isProper_someRow _ _
      | related relation condition =>
          refine Evaluation.isProper_bind fun row _ => ?_
          split
          · exact Evaluation.isProper_pure rfl
          · exact Evaluation.isProper_bind fun _ _ =>
              Evaluation.isProper_pure (Truth.isProper_ofBool _)
      | given role passed failed =>
          refine Evaluation.isProper_bind fun truth _ => ?_
          split
          · exact ih passed (.head _) record
          · exact ih failed (.tail _ (.head _)) record
      | unresolved construct =>
          obtain ⟨b, default⟩ := here construct rfl
          rw [eval, default]
          exact Evaluation.isProper_pure (Truth.isProper_ofBool b)
      | roleOnly condition =>
          exact Evaluation.isProper_bind fun _ _ =>
            Evaluation.isProper_pure (Truth.isProper_ofBool _)
      | foreign node =>
          rintro _ ⟨⟩

theorem unfolds_all (f : RowFilter) :
    Folding.Unfolds Folding.conjunction (outcome mode actor record) opensAll f := by
  cases f with
  | pass | block =>
      rintro _ ⟨⟩
      rfl
  | all operands => exact Folding.unfolds_node rfl (outcome_all operands)
  | any _ | not _ | equals _ _ | compare _ _ _ | member _ _ | isNull _ | like _ _ _
  | someRelated _ _ _ | related _ _ | given _ _ _ | unresolved _ | roleOnly _ | foreign _ =>
      exact Folding.unfolds_self rfl

theorem unfolds_any (f : RowFilter) :
    Folding.Unfolds Folding.disjunction (outcome mode actor record) opensAny f := by
  cases f with
  | pass | block =>
      rintro _ ⟨⟩
      rfl
  | any operands => exact Folding.unfolds_node rfl (outcome_any operands)
  | all _ | not _ | equals _ _ | compare _ _ _ | member _ _ | isNull _ | like _ _ _
  | someRelated _ _ _ | related _ _ | given _ _ _ | unresolved _ | roleOnly _ | foreign _ =>
      exact Folding.unfolds_self rfl

theorem outcome_allOf (defaulted : ∀ f ∈ items, f.Everywhere Defaulted)
    (ended : items.Forall₂ (fun f t => f.outcome mode actor record = .ok t) values) :
    (allOf items).outcome mode actor record = .ok (Truth.all values) := by
  rw [allOf_eq_joined]
  refine Folding.run_joined Folding.conjunction (outcome mode actor record) rfl rfl outcome_all
    (fun item _ => unfolds_all item) ?_ ended
  intro item member inner opens part inside
  obtain rfl | ⟨operands, rfl, among⟩ := mem_opensAll opens inside
  · exact isProper_eval (defaulted _ member) record
  · exact isProper_eval ((defaulted _ member).children part among) record

theorem outcome_anyOf (defaulted : ∀ f ∈ items, f.Everywhere Defaulted)
    (ended : items.Forall₂ (fun f t => f.outcome mode actor record = .ok t) values) :
    (anyOf items).outcome mode actor record = .ok (Truth.any values) := by
  rw [anyOf_eq_joined]
  refine Folding.run_joined Folding.disjunction (outcome mode actor record) rfl rfl outcome_any
    (fun item _ => unfolds_any item) ?_ ended
  intro item member inner opens part inside
  obtain rfl | ⟨operands, rfl, among⟩ := mem_opensAny opens inside
  · exact isProper_eval (defaulted _ member) record
  · exact isProper_eval ((defaulted _ member).children part among) record

theorem outcome_negate (meaningful : f.Meaningful) (defaulted : f.Everywhere Defaulted) :
    f.negate.outcome mode actor record = (f.outcome mode actor record).map Truth.not := by
  cases f with
  | pass | block => rfl
  | not operand =>
      have proper : (operand.eval mode actor record).IsProper :=
        isProper_eval (defaulted.children operand (.head _)) record
      rw [negate, outcome_not]
      exact proper.map_not_not.symm
  | unresolved construct => exact absurd rfl (meaningful construct)
  | all _ | any _ | equals _ _ | compare _ _ _ | member _ _ | isNull _ | like _ _ _
  | someRelated _ _ _ | related _ _ | given _ _ _ | roleOnly _ | foreign _ => exact outcome_not _

end RowFilter

/-! ## Folding keeps the truth -/

theorem exists_of_forall₂ {α β : Type} {related : α → β → Prop} {items : List α} {values : List β}
    (both : items.Forall₂ related values) {b : β} (member : b ∈ values) :
    ∃ a ∈ items, related a b := by
  induction both with
  | nil => cases member
  | @cons a _ _ _ first _ ih =>
      cases member with
      | head => exact ⟨a, .head _, first⟩
      | tail _ later =>
          obtain ⟨other, among, holds⟩ := ih later
          exact ⟨other, .tail _ among, holds⟩

/-- Of items that are evaluated without a failure a folded conjunction has the least truth and a
folded disjunction the greatest, unknown in between, and negation is exact on everything but
constructs without a meaning; of predicates as of filters, and in every mode. -/
theorem folding_keeps_truth (mode : UnloadedMode) (actor record : Value) :
    (∀ (items : List Predicate) (values : List Truth),
      (∀ p ∈ items, p.Everywhere Predicate.Decided) →
      items.Forall₂ (fun p t => p.outcome mode actor record = .ok t) values →
      (Predicate.allOf items).outcome mode actor record = .ok (Truth.least values) ∧
        (Predicate.anyOf items).outcome mode actor record = .ok (Truth.greatest values)) ∧
    (∀ p : Predicate, (∀ construct, p ≠ .unresolved construct) →
      p.Everywhere Predicate.Decided →
      p.negate.outcome mode actor record = (p.outcome mode actor record).map Truth.not) ∧
    (∀ (items : List RowFilter) (values : List Truth),
      (∀ f ∈ items, f.Everywhere RowFilter.Defaulted) →
      items.Forall₂ (fun f t => f.outcome mode actor record = .ok t) values →
      (RowFilter.allOf items).outcome mode actor record = .ok (Truth.least values) ∧
        (RowFilter.anyOf items).outcome mode actor record = .ok (Truth.greatest values)) ∧
    ∀ f : RowFilter, (∀ construct, f ≠ .unresolved construct) →
      f.Everywhere RowFilter.Defaulted →
      f.negate.outcome mode actor record = (f.outcome mode actor record).map Truth.not := by
  refine ⟨fun items values decided ended => ?_, fun p meaningful decided => ?_,
    fun items values defaulted ended => ?_, fun f meaningful defaulted => ?_⟩
  · have proper : ∀ t ∈ values, t.isProper := by
      intro t member
      obtain ⟨p, among, valued⟩ := exists_of_forall₂ ended member
      exact Predicate.isProper_eval (decided p among) record t valued
    rw [← Truth.all_eq_least proper, ← Truth.any_eq_greatest proper]
    exact ⟨Predicate.outcome_allOf decided ended, Predicate.outcome_anyOf decided ended⟩
  · exact Predicate.outcome_negate meaningful decided
  · have proper : ∀ t ∈ values, t.isProper := by
      intro t member
      obtain ⟨f, among, valued⟩ := exists_of_forall₂ ended member
      exact RowFilter.isProper_eval (defaulted f among) record t valued
    rw [← Truth.all_eq_least proper, ← Truth.any_eq_greatest proper]
    exact ⟨RowFilter.outcome_allOf defaulted ended, RowFilter.outcome_anyOf defaulted ended⟩
  · exact RowFilter.outcome_negate meaningful defaulted

/-- An operand that fails behind one that is false is not read, neither before folding nor after. -/
theorem folding_keeps_truth_unloadedOwner :
    let record : Value := .object 1 "Post" [("title", .text "News")] (some ["owner"])
    let rated : Predicate := .compare .eq (.record ["stars"]) (.value (.int 5))
    let untitledOwned : Predicate :=
      .all [.isNull (.record ["title"]) false, .isNull (.record ["owner"]) true]
    let starred : RowFilter := .compare "stars" .gt (.value (.int 3))
    let unratedOrOwned : RowFilter := .any [.isNull "stars", .not (.isNull "owner")]
    (Predicate.isNull (.record ["owner"]) true).outcome .fail .null record =
        .error (.unloaded ⟨"Post", "owner"⟩) ∧
      (Predicate.allOf [rated, untitledOwned]).outcome .fail .null record = .ok .no ∧
      (Predicate.anyOf [rated, untitledOwned]).outcome .fail .null record = .ok .unknown ∧
      rated.negate.outcome .fail .null record = .ok .unknown ∧
      (RowFilter.allOf [starred, unratedOrOwned]).outcome .fail .null record = .ok .unknown ∧
      (RowFilter.anyOf [starred, unratedOrOwned]).outcome .fail .null record = .ok .yes ∧
      unratedOrOwned.negate.outcome .fail .null record = .ok .no := by
  intro record rated untitledOwned starred unratedOrOwned
  obtain ⟨predicates, negation, filters, filterNegation⟩ :=
    folding_keeps_truth .fail .null record
  have ratedDecided : rated.Everywhere Predicate.Decided := .node trivial nofun
  have bothDecided : untitledOwned.Everywhere Predicate.Decided := by
    refine .node trivial fun child member => ?_
    rcases List.mem_pair.mp member with rfl | rfl <;> exact .node trivial nofun
  have starredDefaulted : starred.Everywhere RowFilter.Defaulted := .node nofun nofun
  have eitherDefaulted : unratedOrOwned.Everywhere RowFilter.Defaulted := by
    refine .node nofun fun child member => ?_
    rcases List.mem_pair.mp member with rfl | rfl
    · exact .node nofun nofun
    · exact .node nofun (List.forall_mem_singleton.mpr (.node nofun nofun))
  obtain ⟨every, some⟩ := predicates [rated, untitledOwned] [.unknown, .no]
    (by simp [ratedDecided, bothDecided]) (.cons rfl (.cons rfl .nil))
  obtain ⟨everyRow, someRow⟩ := filters [starred, unratedOrOwned] [.unknown, .yes]
    (by simp [starredDefaulted, eitherDefaulted]) (.cons rfl (.cons rfl .nil))
  exact ⟨rfl, every, some, negation rated nofun ratedDecided, everyRow, someRow,
    filterNegation unratedOrOwned nofun eitherDefaulted⟩

end RowGuard
