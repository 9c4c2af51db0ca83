import RowGuard.Proofs.Predicate.Fragment
import RowGuard.Proofs.Predicate.Negation

/-! Choices and the filtering of rows. A row goes from branch to branch: it
matches a condition, or it is left to the branches behind. Where a condition
does not hold, and the row is not left over by it either, the row is stuck. Rows
that get stuck are the only ones that a policy loses, as long as it negates no
choice. -/

set_option autoImplicit false

namespace RowGuard

/-! ## What rows keep -/

/-- A row truth that keeps what is settled: what is true is true for rows, and what is false is
false. -/
structure Truth.Keeps (row truth : Truth) : Prop where
  yes : truth = .yes → row = .yes
  no : truth = .no → row = .no

namespace Truth.Keeps

variable {r s t u : Truth}

theorem refl (t : Truth) : Keeps t t :=
  ⟨id, id⟩

theorem decided (t : Truth) : Keeps t.decided t := by
  constructor
  · rintro rfl
    rfl
  · rintro rfl
    rfl

theorem not (keeps : Keeps r t) (proper : t.isProper) : Keeps r.not t.not := by
  constructor
  · intro yes
    rw [keeps.no ((not_eq_yes_iff proper).mp yes)]
    rfl
  · intro no
    rw [keeps.yes ((not_eq_no_iff proper).mp no)]
    rfl

theorem and (first : Keeps r t) (second : Keeps s u) (properT : t.isProper)
    (properU : u.isProper) : Keeps (r.and s) (t.and u) := by
  constructor
  · intro both
    obtain ⟨left, right⟩ := (and_eq_yes_iff properT properU).mp both
    rw [first.yes left, second.yes right]
    rfl
  · intro either
    exact and_eq_no_iff.mpr ((and_eq_no_iff.mp either).imp first.no second.no)

theorem or (first : Keeps r t) (second : Keeps s u) (properT : t.isProper)
    (properU : u.isProper) : Keeps (r.or s) (t.or u) := by
  constructor
  · intro either
    exact or_eq_yes_iff.mpr ((or_eq_yes_iff.mp either).imp first.yes second.yes)
  · intro both
    obtain ⟨left, right⟩ := (or_eq_no_iff properT properU).mp both
    rw [first.no left, second.no right]
    rfl

end Truth.Keeps

namespace Predicate

/-- Predicates without a choice. -/
inductive Plain : Predicate → Prop where
  | const {value : Value} : Plain (.const value)
  | all {operands : List Predicate} : (∀ p ∈ operands, Plain p) → Plain (.all operands)
  | any {operands : List Predicate} : (∀ p ∈ operands, Plain p) → Plain (.any operands)
  | not {operand : Predicate} : Plain operand → Plain (.not operand)
  | test {p : Predicate} : p.isTest → Plain p
  | anyRelated {relation : String} {condition : Predicate} {joinFields : List String} :
      Plain (.anyRelated relation condition joinFields)
  | role {condition : Predicate} : Plain condition → Plain (.role condition)
  | unresolved {construct : Unresolved} : Plain (.unresolved construct)

/-- Predicates without a choice under a negation. -/
inductive Upright : Predicate → Prop where
  | plain {p : Predicate} : p.Plain → Upright p
  | all {operands : List Predicate} : (∀ p ∈ operands, Upright p) → Upright (.all operands)
  | any {operands : List Predicate} : (∀ p ∈ operands, Upright p) → Upright (.any operands)
  | role {condition : Predicate} : Upright condition → Upright (.role condition)
  | choice {p otherwise : Predicate} {branches : List (Predicate × Predicate)} :
      p.Choice branches otherwise → (∀ branch ∈ branches, Upright branch.1) →
      (∀ branch ∈ branches, Upright branch.2) → Upright otherwise → Upright p

/-- Whether a row gets stuck at a branch before the first one whose condition holds: the condition
does not hold, and the row is not left to the branches behind. -/
def Stalls (actor record : Value) : List (Predicate × Predicate) → Prop
  | [] => False
  | (key, _) :: rest =>
    (key.truth actor record).holds = Bool.false ∧
      (rowMissed record key (key.rowTruth actor record) ≠ .yes ∨ Stalls actor record rest)

/-- The choices in a predicate that rows go through, by their branches. -/
inductive Chooses : Predicate → List (Predicate × Predicate) → Prop where
  | here {p otherwise : Predicate} {branches : List (Predicate × Predicate)} :
      p.Choice branches otherwise → p.readsRecord → Chooses p branches
  | all {ps : List Predicate} {p : Predicate} {inner : List (Predicate × Predicate)} :
      p ∈ ps → Chooses p inner → Chooses (.all ps) inner
  | any {ps : List Predicate} {p : Predicate} {inner : List (Predicate × Predicate)} :
      p ∈ ps → Chooses p inner → Chooses (.any ps) inner
  | role {p : Predicate} {inner : List (Predicate × Predicate)} :
      Chooses p inner → Chooses (.role p) inner
  | key {p otherwise : Predicate} {branches inner : List (Predicate × Predicate)}
      {branch : Predicate × Predicate} : p.Choice branches otherwise → branch ∈ branches →
      Chooses branch.1 inner → Chooses p inner
  | outcome {p otherwise : Predicate} {branches inner : List (Predicate × Predicate)}
      {branch : Predicate × Predicate} : p.Choice branches otherwise → branch ∈ branches →
      Chooses branch.2 inner → Chooses p inner
  | otherwise {p otherwise : Predicate} {branches inner : List (Predicate × Predicate)} :
      p.Choice branches otherwise → Chooses otherwise inner → Chooses p inner

/-- Whether a row gets stuck in no choice of a predicate. -/
def Flows (actor record : Value) (p : Predicate) : Prop :=
  ∀ branches, p.Chooses branches → ¬Stalls actor record branches

variable {admitted : Unresolved → Prop} {p : Predicate} {ps : List Predicate}
  {actor record : Value}

/-! ## Predicates without a choice -/

theorem plain_all_iff : (Predicate.all ps).Plain ↔ ∀ p ∈ ps, p.Plain := by
  constructor
  · intro plain
    cases plain with
    | all each => exact each
    | test test => cases test
  · exact .all

theorem plain_any_iff : (Predicate.any ps).Plain ↔ ∀ p ∈ ps, p.Plain := by
  constructor
  · intro plain
    cases plain with
    | any each => exact each
    | test test => cases test
  · exact .any

theorem keeps_all (compiled : ∀ p ∈ ps, p.Compiled admitted)
    (each : ∀ p ∈ ps, Truth.Keeps (p.rowTruth actor record) (p.truth actor record)) :
    Truth.Keeps (Truth.all (ps.map (rowTruth actor · record)))
      (Truth.all (ps.map (truth actor · record))) := by
  induction ps with
  | nil => exact .refl _
  | cons p ps ih =>
      rw [List.forall_mem_cons] at compiled each
      exact each.1.and (ih compiled.2 each.2) (compiled.1.isProper_truth actor record)
        (Truth.isProper_all _)

theorem keeps_any (compiled : ∀ p ∈ ps, p.Compiled admitted)
    (each : ∀ p ∈ ps, Truth.Keeps (p.rowTruth actor record) (p.truth actor record)) :
    Truth.Keeps (Truth.any (ps.map (rowTruth actor · record)))
      (Truth.any (ps.map (truth actor · record))) := by
  induction ps with
  | nil => exact .refl _
  | cons p ps ih =>
      rw [List.forall_mem_cons] at compiled each
      exact each.1.or (ih compiled.2 each.2) (compiled.1.isProper_truth actor record)
        (Truth.isProper_any _)

theorem Plain.keeps (plain : p.Plain) (compiled : p.Compiled fun _ => False)
    (actor record : Value) : Truth.Keeps (p.rowTruth actor record) (p.truth actor record) := by
  induction plain with
  | const =>
      rw [rowTruth_of_unread rfl]
      exact .decided _
  | all _ ih =>
      have operands := compiled_all_iff.mp compiled
      rw [rowTruth_all operands, truth_all]
      exact keeps_all operands fun p member => ih p member (operands p member)
  | any _ ih =>
      have operands := compiled_any_iff.mp compiled
      rw [rowTruth_any, truth_any]
      exact keeps_any operands fun p member => ih p member (operands p member)
  | @not operand _ ih =>
      cases compiled with
      | not compiled =>
          cases reads : operand.readsRecord with
          | false =>
              rw [rowTruth_of_unread (p := .not operand) reads]
              exact .decided _
          | true =>
              rw [rowTruth_not reads, truth]
              exact (ih compiled).not (compiled.isProper_truth actor record)
  | test test =>
      rcases rowTruth_of_isTest test actor record with same | decided
      · rw [same]
        exact .refl _
      · rw [decided]
        exact .decided _
  | anyRelated =>
      cases compiled with
      | anyRelated test _ =>
          rw [rowTruth_anyRelated test]
          exact .refl _
  | role _ ih =>
      cases compiled with
      | role compiled =>
          rw [rowTruth_role, truth]
          exact ih compiled
  | unresolved =>
      cases compiled with
      | unresolved _ admits => exact admits.elim

/-! ## Choices -/

theorem rowFirst_of_truthFirst {branches : List (Predicate × Predicate)} {last rowLast : Truth}
    (keys : ∀ branch ∈ branches,
      branch.1.truth actor record = .yes → branch.1.rowTruth actor record = .yes)
    (outcomes : ∀ branch ∈ branches,
      branch.2.truth actor record = .yes → branch.2.rowTruth actor record = .yes)
    (kept : last = .yes → rowLast = .yes) (flows : ¬Stalls actor record branches)
    (granted : (truthFirst actor branches record).getD last = .yes) :
    rowFirst actor branches record rowLast = .yes := by
  induction branches with
  | nil => exact kept granted
  | cons branch rest ih =>
      obtain ⟨key, outcome⟩ := branch
      rw [List.forall_mem_cons] at keys outcomes
      rw [truthFirst] at granted
      rw [rowFirst]
      cases matched : (key.truth actor record).holds with
      | true =>
          rw [matched] at granted
          rw [keys.1 (Truth.holds_iff.mp matched), outcomes.1 granted]
          exact Truth.yes_or _
      | false =>
          rw [matched] at granted
          rw [Stalls, matched, not_and_or, not_or, not_not] at flows
          obtain ⟨missed, further⟩ := flows.resolve_left (not_not_intro rfl)
          rw [missed, ih keys.2 outcomes.2 further granted]
          exact Truth.or_yes _

/-- A row that is stuck is in none of the branches, and in what is left neither. -/
theorem rowFirst_ne_yes_of_stalls {branches : List (Predicate × Predicate)} {rowLast : Truth}
    (proper : rowLast.isProper)
    (compiled : ∀ branch ∈ branches, branch.1.Compiled admitted ∧ branch.2.Compiled admitted)
    (keys : ∀ branch ∈ branches,
      branch.1.rowTruth actor record = .yes → branch.1.truth actor record = .yes)
    (stalls : Stalls actor record branches) : rowFirst actor branches record rowLast ≠ .yes := by
  induction branches with
  | nil => exact stalls.elim
  | cons branch rest ih =>
      obtain ⟨key, outcome⟩ := branch
      rw [List.forall_mem_cons] at compiled keys
      obtain ⟨unmatched, stuck⟩ := stalls
      intro passed
      rw [rowFirst] at passed
      rcases Truth.or_eq_yes_iff.mp passed with taken | left
      · have matched := ((Truth.and_eq_yes_iff (compiled.1.1.isProper_rowTruth actor record)
          (compiled.1.2.isProper_rowTruth actor record)).mp taken).1
        exact Truth.holds_eq_false_iff.mp unmatched (keys.1 matched)
      · obtain ⟨missed, further⟩ := (Truth.and_eq_yes_iff (isProper_rowMissed _ _ _)
          (isProper_rowFirst proper actor rest record)).mp left
        rcases stuck with kept | later
        · exact kept missed
        · exact ih compiled.2 keys.2 later further

theorem Plain.not_choice {branches : List (Predicate × Predicate)} {otherwise : Predicate}
    (plain : p.Plain) : ¬p.Choice branches otherwise := by
  intro choice
  cases choice with
  | select => cases plain with | test test => cases test
  | firstOf => cases plain with | test test => cases test

theorem Choice.upright {branches : List (Predicate × Predicate)} {otherwise : Predicate}
    (choice : p.Choice branches otherwise) (upright : p.Upright) :
    (∀ branch ∈ branches, branch.1.Upright ∧ branch.2.Upright) ∧ otherwise.Upright := by
  cases upright with
  | choice other keys outcomes last =>
      have parts := fun branch member => And.intro (keys branch member) (outcomes branch member)
      cases choice with
      | select => cases other with | select => exact ⟨parts, last⟩
      | firstOf => cases other with | firstOf => exact ⟨parts, last⟩
  | plain plain => exact absurd choice plain.not_choice
  | all _ | any _ | role _ => cases choice

/-! ## Predicates -/

/-- What is true for the record is true for a row that gets stuck nowhere. -/
theorem Upright.rowTruth_of_truth (upright : p.Upright) (compiled : p.Compiled fun _ => False)
    (flows : p.Flows actor record) (granted : p.truth actor record = .yes) :
    p.rowTruth actor record = .yes := by
  induction upright with
  | plain plain => exact (plain.keeps compiled actor record).yes granted
  | @all operands _ ih =>
      have parts := compiled_all_iff.mp compiled
      have proper : ∀ t ∈ operands.map (truth actor · record), t.isProper :=
        List.forall_mem_map.mpr fun p member => (parts p member).isProper_truth actor record
      have rowProper : ∀ t ∈ operands.map (rowTruth actor · record), t.isProper :=
        List.forall_mem_map.mpr fun p member => (parts p member).isProper_rowTruth actor record
      rw [truth_all, Truth.all_eq_yes_iff proper, List.forall_mem_map] at granted
      rw [rowTruth_all parts, Truth.all_eq_yes_iff rowProper, List.forall_mem_map]
      intro p member
      exact ih p member (parts p member) (fun inner inside => flows inner (.all member inside))
        (granted p member)
  | any _ ih =>
      have parts := compiled_any_iff.mp compiled
      rw [truth_any, Truth.any_eq_yes_iff] at granted
      obtain ⟨p, member, same⟩ := List.mem_map.mp granted
      have row := ih p member (parts p member)
        (fun inner inside => flows inner (.any member inside)) same
      rw [rowTruth_any, Truth.any_eq_yes_iff]
      exact List.mem_map.mpr ⟨p, member, row⟩
  | role _ ih =>
      cases compiled with
      | role compiled =>
          rw [rowTruth_role]
          exact ih compiled (fun inner inside => flows inner (.role inside)) granted
  | @choice p otherwise branches choice _ _ _ keyIH outcomeIH otherwiseIH =>
      cases reads : p.readsRecord with
      | false =>
          rw [rowTruth_of_unread reads, granted]
          rfl
      | true =>
          obtain ⟨parts, last⟩ := choice.compiled compiled
          rw [choice.truth_eq] at granted
          rw [choice.rowTruth_eq reads]
          refine rowFirst_of_truthFirst ?_ ?_ ?_ (flows branches (.here choice reads)) granted
          · intro branch member
            exact keyIH branch member (parts branch member).1
              fun inner inside => flows inner (.key choice member inside)
          · intro branch member
            exact outcomeIH branch member (parts branch member).2
              fun inner inside => flows inner (.outcome choice member inside)
          · exact otherwiseIH last fun inner inside => flows inner (.otherwise choice inside)

/-- What is true for the record is lost for rows if and only if the row gets stuck, provided that it
does not get stuck further inside. -/
theorem Choice.rowTruth_iff_not_stalls {branches : List (Predicate × Predicate)}
    {otherwise : Predicate} (choice : p.Choice branches otherwise) (reads : p.readsRecord)
    (upright : p.Upright) (compiled : p.Compiled fun _ => False) (sighted : p.Sighted actor record)
    (inside : ∀ branch ∈ branches, branch.1.Flows actor record ∧ branch.2.Flows actor record)
    (behind : otherwise.Flows actor record) (granted : p.truth actor record = .yes) :
    p.rowTruth actor record = .yes ↔ ¬Stalls actor record branches := by
  obtain ⟨parts, last⟩ := choice.compiled compiled
  obtain ⟨uprights, lastUpright⟩ := choice.upright upright
  rw [choice.rowTruth_eq reads]
  rw [choice.truth_eq] at granted
  constructor
  · intro row stalls
    refine rowFirst_ne_yes_of_stalls (last.isProper_rowTruth actor record) parts ?_ stalls row
    intro branch member
    have bounds := (parts branch member).1.bounds fun q within =>
      sighted q (.key choice member within)
    exact bounds.yes
  · intro flows
    refine rowFirst_of_truthFirst ?_ ?_ ?_ flows granted
    · intro branch member
      exact (uprights branch member).1.rowTruth_of_truth (parts branch member).1
        (inside branch member).1
    · intro branch member
      exact (uprights branch member).2.rowTruth_of_truth (parts branch member).2
        (inside branch member).2
    · exact lastUpright.rowTruth_of_truth last behind

/-! ## Rows that get stuck nowhere -/

/-- Whether a condition compares a column that is null. -/
def ComparesNull (record : Value) : Predicate → Prop
  | .compare _ (.record path) _ => (record.read path).isNull
  | _ => False

theorem rowMissed_no (record : Value) (key : Predicate) : rowMissed record key .no = .yes := by
  unfold rowMissed
  split
  · exact Truth.yes_or _
  · rfl

theorem rowMissed_of_comparesNull {key : Predicate} (comparesNull : key.ComparesNull record)
    (matched : Truth) : rowMissed record key matched = .yes := by
  unfold ComparesNull at comparesNull
  split at comparesNull
  · rw [rowMissed, comparesNull]
    exact Truth.or_yes _
  · exact comparesNull.elim

/-- A row gets stuck only where a condition is unknown, and not even there if the condition compares
a column that is null. -/
theorem not_stalls_of_known {branches : List (Predicate × Predicate)}
    (plain : ∀ branch ∈ branches, branch.1.Plain)
    (compiled : ∀ branch ∈ branches, branch.1.Compiled fun _ => False)
    (known : ∀ branch ∈ branches,
      branch.1.truth actor record = .unknown → branch.1.ComparesNull record) :
    ¬Stalls actor record branches := by
  induction branches with
  | nil => exact id
  | cons branch rest ih =>
      obtain ⟨key, outcome⟩ := branch
      rw [List.forall_mem_cons] at plain compiled known
      have proper := compiled.1.isProper_truth actor record
      have keeps := plain.1.keeps compiled.1 actor record
      rintro ⟨unmatched, stuck | later⟩
      · apply stuck
        cases truth : key.truth actor record with
        | no =>
            rw [keeps.no truth]
            exact rowMissed_no record key
        | unknown => exact rowMissed_of_comparesNull (known.1 truth) _
        | yes => exact absurd truth (Truth.holds_eq_false_iff.mp unmatched)
        | other _ =>
            rw [truth] at proper
            cases proper
      · exact ih plain.2 compiled.2 known.2 later

theorem Plain.flows (plain : p.Plain) (actor record : Value) : p.Flows actor record := by
  intro branches chooses
  exfalso
  induction chooses with
  | here choice _ | key choice _ _ _ | outcome choice _ _ _ | otherwise choice _ _ =>
      exact plain.not_choice choice
  | all member _ ih => exact ih (plain_all_iff.mp plain _ member)
  | any member _ ih => exact ih (plain_any_iff.mp plain _ member)
  | role _ ih =>
      cases plain with
      | role plain => exact ih plain
      | test test => cases test

theorem Choice.flows {branches : List (Predicate × Predicate)} {otherwise : Predicate}
    (choice : p.Choice branches otherwise) (passable : ¬Stalls actor record branches)
    (inside : ∀ branch ∈ branches, branch.1.Flows actor record ∧ branch.2.Flows actor record)
    (behind : otherwise.Flows actor record) : p.Flows actor record := by
  have unique {others : List (Predicate × Predicate)} {last : Predicate}
      (other : p.Choice others last) : branches = others ∧ otherwise = last := by
    cases choice with
    | select => cases other with | select => exact ⟨rfl, rfl⟩
    | firstOf => cases other with | firstOf => exact ⟨rfl, rfl⟩
  intro inner chooses
  cases chooses with
  | here other _ =>
      obtain ⟨rfl, _⟩ := unique other
      exact passable
  | key other member within =>
      obtain ⟨rfl, _⟩ := unique other
      exact (inside _ member).1 inner within
  | outcome other member within =>
      obtain ⟨rfl, _⟩ := unique other
      exact (inside _ member).2 inner within
  | otherwise other within =>
      obtain ⟨_, rfl⟩ := unique other
      exact behind inner within
  | all _ _ | any _ _ | role _ => cases choice

end Predicate

/-! ## Compilation -/

namespace Expr

def isChoice : Expr → Bool
  | .choice .. => Bool.true
  | _ => Bool.false

/-- Expressions without a choice. -/
def Plain (e : Expr) : Prop :=
  e.Everywhere fun node => node.isChoice = Bool.false

def isNegation : Expr → Bool
  | .not _ => Bool.true
  | _ => Bool.false

/-- Whether a node, if it is a negation, negates no choice. -/
def negatesPlain : Expr → Prop
  | .not operand => operand.Plain
  | _ => True

/-- Expressions without a choice under a negation. -/
def Upright (e : Expr) : Prop :=
  e.Everywhere negatesPlain

theorem upright_of_unnegated {e : Expr}
    (unnegated : e.Everywhere fun node => node.isNegation = Bool.false) : e.Upright := by
  intro node member
  have other := unnegated node member
  cases node with
  | not _ => cases other
  | any _ | all _ | condition _ _ _ | choice _ _ _ | existence _ _ | subquery _ _ | call _ _
  | column _ _ | setting _ | literal _ | array _ | foreign _ => trivial

end Expr

namespace Predicate

open Compilation (Event)

variable {scope : Scope} {p : Predicate} {ps : List Predicate} {events : List Event}

theorem plain_negate (plain : p.Plain) : p.negate.Plain := by
  have negated := Plain.not plain
  cases plain with
  | const => exact .const
  | unresolved => exact .unresolved
  | not operand => exact operand
  | all _ | any _ | anyRelated | role _ => exact negated
  | test test =>
      cases p with
      | compare _ _ _ | member _ _ _ | isNull _ _ => exact negated
      | const _ | all _ | any _ | not _ | anyRelated _ _ _ | select _ _ _ | firstOf _ _ | role _
      | unresolved _ | foreign _ => cases test

theorem plain_anyOf (each : ∀ p ∈ ps, p.Plain) : (anyOf ps).Plain :=
  anyOf_induction (fun _ => .const) (fun _ => plain_any_iff) each

theorem plain_allOf (each : ∀ p ∈ ps, p.Plain) : (allOf ps).Plain :=
  allOf_induction (fun _ => .const) (fun _ => plain_all_iff) each

theorem plain_markRole (plain : p.Plain) : (markRole p).Plain := by
  rw [markRole]
  split
  · exact .role plain
  · exact plain

theorem upright_all_iff : (Predicate.all ps).Upright ↔ ∀ p ∈ ps, p.Upright := by
  constructor
  · intro upright p member
    cases upright with
    | plain plain => exact .plain (plain_all_iff.mp plain p member)
    | all each => exact each p member
    | choice choice => cases choice
  · exact .all

theorem upright_any_iff : (Predicate.any ps).Upright ↔ ∀ p ∈ ps, p.Upright := by
  constructor
  · intro upright p member
    cases upright with
    | plain plain => exact .plain (plain_any_iff.mp plain p member)
    | any each => exact each p member
    | choice choice => cases choice
  · exact .any

theorem upright_anyOf (each : ∀ p ∈ ps, p.Upright) : (anyOf ps).Upright :=
  anyOf_induction (fun _ => .plain .const) (fun _ => upright_any_iff) each

theorem upright_allOf (each : ∀ p ∈ ps, p.Upright) : (allOf ps).Upright :=
  allOf_induction (fun _ => .plain .const) (fun _ => upright_all_iff) each

theorem upright_markRole (upright : p.Upright) : (markRole p).Upright := by
  rw [markRole]
  split
  · exact .role upright
  · exact upright

theorem plain_through (side : Side) (test : p.isTest) : (side.through p).Plain := by
  rw [Side.through]
  split
  · exact .test test
  · exact .anyRelated

theorem plain_standIn {e : Expr} {kind : String} {related : Option String}
    (compiled : standIn scope e kind related = ⟨.ok p, events⟩) : p.Plain := by
  obtain ⟨text, rfl, _⟩ := standIn_eq_ok compiled
  exact .unresolved

theorem plain_ofComparison {comparator : Comparator} {left right : Expr}
    (compiled : ofComparison scope comparator left right = ⟨.ok p, events⟩) : p.Plain := by
  cases joins_ofComparison compiled with
  | sides _ _ joined =>
      obtain ⟨side, _, rfl, _⟩ := (joined_ofSides joined).exists_through
      exact plain_through side (isTest_oriented _ _ _)
  | standIn run => exact plain_standIn run

theorem plain_ofMembership {negated : Bool} {left right : Expr}
    (compiled : ofMembership scope negated left right = ⟨.ok p, events⟩) : p.Plain := by
  cases joins_ofMembership compiled with
  | sides _ _ joined =>
      obtain ⟨side, _, rfl, _⟩ := (joined_memberOfSides joined).exists_through
      exact plain_through side rfl
  | standIn run => exact plain_standIn run

theorem plain_ofCondition {operator : Operator} {left right : Expr}
    (compiled : ofCondition scope operator left right = ⟨.ok p, events⟩) : p.Plain := by
  cases conditionRun_of_condition compiled with
  | comparison run => exact plain_ofComparison run
  | membership run => exact plain_ofMembership run
  | @equalities _ _ ps _ _ run =>
      have each : ∀ p ∈ ps, p.Plain := by
        refine (each_ofEqualities run).forall_right fun item _ p part _ => ?_
        rintro ⟨q, run, rfl⟩
        exact plain_markRole (plain_ofComparison run)
      split
      · exact plain_negate (plain_anyOf each)
      · exact plain_anyOf each
  | null run => exact plain_through _ rfl
  | standIn run => exact plain_standIn run

theorem plain_ofValue {e : Expr} (compiled : ofValue scope e = ⟨.ok p, events⟩) : p.Plain := by
  cases valueRun_of_value compiled with
  | side run => exact plain_through _ rfl
  | standIn run => exact plain_standIn run

theorem plain_ofLiteral {item : Literal} (compiled : ofLiteral scope item = ⟨.ok p, events⟩) :
    p.Plain := by
  obtain ⟨b, rfl⟩ | standsIn := ofLiteral_eq_ok compiled
  · exact .const
  · exact plain_standIn standsIn

/-- The statement that a run keeps choices out where there are none, and out of negations. -/
def Straight (e : Expr) (p : Predicate) (_ : List Event) : Prop :=
  (e.Plain → p.Plain) ∧ (e.Upright → p.Upright)

theorem straight_of_plain {e : Expr} (plain : p.Plain) : Straight e p events :=
  ⟨fun _ => plain, fun _ => .plain plain⟩

theorem not_plain_choice {subject otherwise : Option Expr} {branches : List (Expr × Expr)} :
    ¬(Expr.choice subject branches otherwise).Plain := by
  intro plain
  have here := (Expr.everywhere_choice.mp plain).1
  cases here

theorem upright_of_otherwise {otherwise : Option Expr}
    (run : Otherwise (Ran scope Straight) otherwise p events)
    (upright : ∀ e ∈ otherwise, e.Upright) : p.Upright := by
  cases run with
  | none => exact .plain .const
  | some ran => exact ran.2.2 (upright _ rfl)

theorem invariant_straight (scope : Scope) : Invariant scope Straight where
  any each := by
    constructor
    · intro plain
      have operands := (Expr.everywhere_any.mp plain).2
      exact plain_anyOf (each.forall_right fun e member _ _ _ ran => ran.2.1 (operands e member))
    · intro upright
      have operands := (Expr.everywhere_any.mp upright).2
      exact upright_anyOf (each.forall_right fun e member _ _ _ ran => ran.2.2 (operands e member))
  all each := by
    constructor
    · intro plain
      have operands := (Expr.everywhere_all.mp plain).2
      exact plain_allOf (each.forall_right fun e member _ _ _ ran => ran.2.1 (operands e member))
    · intro upright
      have operands := (Expr.everywhere_all.mp upright).2
      exact upright_allOf (each.forall_right fun e member _ _ _ ran => ran.2.2 (operands e member))
  not ran := by
    constructor
    · intro plain
      exact plain_negate (ran.2.1 (Expr.everywhere_not.mp plain).2)
    · intro upright
      exact .plain (plain_negate (ran.2.1 (Expr.everywhere_not.mp upright).1))
  literal compiled := straight_of_plain (plain_ofLiteral compiled)
  condition compiled := straight_of_plain (plain_markRole (plain_ofCondition compiled))
  value _ compiled := straight_of_plain (plain_markRole (plain_ofValue compiled))
  firstOf each last := by
    refine ⟨fun plain => (not_plain_choice plain).elim, fun upright => ?_⟩
    obtain ⟨_, _, branches, otherwise⟩ := Expr.everywhere_choice.mp upright
    have parts := each.forall_right fun branch member compiled _ _ step =>
      show compiled.1.Upright ∧ compiled.2.Upright by
        obtain ⟨_, _, key, outcome, _⟩ := step
        exact ⟨key.2.2 (branches branch member).1, outcome.2.2 (branches branch member).2⟩
    exact upright_markRole (.choice .firstOf (fun branch member => (parts branch member).1)
      (fun branch member => (parts branch member).2) (upright_of_otherwise last otherwise))
  select _ _ each last := by
    refine ⟨fun plain => (not_plain_choice plain).elim, fun upright => ?_⟩
    obtain ⟨_, _, branches, otherwise⟩ := Expr.everywhere_choice.mp upright
    have outcomes := each.forall_right fun e member p _ _ ran =>
      show p.Upright by
        obtain ⟨branch, among, rfl⟩ := List.mem_map.mp member
        exact ran.2.2 (branches branch among).2
    refine upright_markRole (.choice .select ?_ ?_ (upright_of_otherwise last otherwise))
    · refine List.forall_mem_map.mpr fun branch _ => .plain (.test ?_)
      exact isTest_oriented .eq _ _
    · refine List.forall_mem_map.mpr fun branch member => ?_
      exact outcomes _ (List.of_mem_zip member).2
  standIn _ compiled := straight_of_plain (plain_standIn compiled)

end Predicate

end RowGuard
