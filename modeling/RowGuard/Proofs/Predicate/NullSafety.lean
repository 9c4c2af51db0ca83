import RowGuard.Proofs.Predicate.RowTruth

/-! Predicates on which rows are filtered just as records are checked. An exact
predicate has one truth for both, the unknown included, and may be negated. A
safe one holds for both or for neither, which is enough outside negations. A
choice is safe if each of its conditions is decisive: a row either matches it or
is left to the next branch, also where the condition is unknown. -/

set_option autoImplicit false

namespace RowGuard

/-- Whether an operand is a field of the record itself. -/
def Operand.isDirect : Operand → Bool
  | .record [_] => true
  | _ => false

/-- Whether an operand is a constant other than null. -/
def Operand.isPresent : Operand → Bool
  | .value v => !v.isNull
  | _ => false

theorem Operand.eq_record_of_isDirect {operand : Operand} (direct : operand.isDirect) :
    ∃ field, operand = .record [field] := by
  unfold isDirect at direct
  split at direct
  · exact ⟨_, rfl⟩
  · cases direct

theorem Operand.readsRecord_of_isRecord {operand : Operand} (own : operand.isRecord) :
    operand.readsRecord := by
  cases operand with
  | record _ => rfl
  | actor _ _ | value _ | values _ | foreign _ => cases own

theorem Operand.readsRecord_of_isDirect {operand : Operand} (direct : operand.isDirect) :
    operand.readsRecord := by
  obtain ⟨field, rfl⟩ := eq_record_of_isDirect direct
  rfl

namespace Predicate

/-- Predicates built from tests of the record's own fields, tests for null and conditions on related
rows. -/
inductive Exact : Predicate → Prop where
  | const {value : Value} : Exact (.const value)
  | all {operands : List Predicate} : (∀ p ∈ operands, Exact p) → Exact (.all operands)
  | any {operands : List Predicate} : (∀ p ∈ operands, Exact p) → Exact (.any operands)
  | not {operand : Predicate} : Exact operand → Exact (.not operand)
  | compare {comparator : Comparator} {left right : Operand} :
      left.isDirect ∨ right.isDirect → Exact (.compare comparator left right)
  | member {operand values : Operand} {negated : Bool} :
      operand.isDirect → Exact (.member operand values negated)
  | isNull {operand : Operand} {negated : Bool} : Exact (.isNull operand negated)
  | anyRelated {relation : String} {condition : Predicate} {joinFields : List String} :
      Exact (.anyRelated relation condition joinFields)
  | role {condition : Predicate} : Exact condition → Exact (.role condition)

/-- Conditions on related rows, and disjunctions of them. -/
inductive Existential : Predicate → Prop where
  | related {relation : String} {condition : Predicate} {joinFields : List String} :
      Existential (.anyRelated relation condition joinFields)
  | any {operands : List Predicate} :
      (∀ p ∈ operands, Existential p) → Existential (.any operands)

/-- Conditions of a choice that a row matches or is left over by. -/
inductive Decisive : Predicate → Prop where
  | unread {p : Predicate} : p.readsRecord = Bool.false → Decisive p
  | isNull {operand : Operand} {negated : Bool} : Decisive (.isNull operand negated)
  | existential {p : Predicate} : p.Existential → Decisive p
  | compare {comparator : Comparator} {left right : Operand} :
      left.isRecord ∧ right.isPresent ∨ left.isPresent ∧ right.isRecord →
      Decisive (.compare comparator left right)

/-- Predicates that negate only what is exact or does not read the record, and choose only by
decisive conditions. -/
inductive Safe : Predicate → Prop where
  | exact {p : Predicate} : p.Exact → Safe p
  | unread {p : Predicate} : p.readsRecord = Bool.false → Safe p
  | all {operands : List Predicate} : (∀ p ∈ operands, Safe p) → Safe (.all operands)
  | any {operands : List Predicate} : (∀ p ∈ operands, Safe p) → Safe (.any operands)
  | test {p : Predicate} : p.isTest → Safe p
  | role {condition : Predicate} : Safe condition → Safe (.role condition)
  | choice {p otherwise : Predicate} {branches : List (Predicate × Predicate)} :
      p.Choice branches otherwise → (∀ branch ∈ branches, branch.1.Decisive) →
      (∀ branch ∈ branches, Safe branch.2) → Safe otherwise → Safe p

/-- Predicates that rows can be filtered by: a comparison that reads the record has a field on the
left and nothing of the record on the right. -/
inductive Expressible : Predicate → Prop where
  | unread {p : Predicate} : p.readsRecord = Bool.false → Expressible p
  | all {operands : List Predicate} : (∀ p ∈ operands, Expressible p) → Expressible (.all operands)
  | any {operands : List Predicate} : (∀ p ∈ operands, Expressible p) → Expressible (.any operands)
  | not {operand : Predicate} : Expressible operand → Expressible (.not operand)
  | compare {comparator : Comparator} {path : List String} {right : Operand} :
      right.readsRecord = Bool.false → Expressible (.compare comparator (.record path) right)
  | member {operand values : Operand} {negated : Bool} :
      Expressible (.member operand values negated)
  | isNull {operand : Operand} {negated : Bool} : Expressible (.isNull operand negated)
  | anyRelated {relation : String} {condition : Predicate} {joinFields : List String} :
      Expressible (.anyRelated relation condition joinFields)
  | role {condition : Predicate} : Expressible condition → Expressible (.role condition)
  | choice {p otherwise : Predicate} {branches : List (Predicate × Predicate)} :
      p.Choice branches otherwise → (∀ branch ∈ branches, Expressible branch.1) →
      (∀ branch ∈ branches, Expressible branch.2) → Expressible otherwise → Expressible p

variable {admitted : Unresolved → Prop} {p : Predicate}

/-! ## Parts -/

theorem expressible_all_iff {ps : List Predicate} :
    (Predicate.all ps).Expressible ↔ ∀ p ∈ ps, p.Expressible := by
  constructor
  · intro expressible
    cases expressible with
    | unread unread =>
        intro p member
        exact .unread (anyReadsRecord_eq_false_iff.mp unread p member)
    | all operands => exact operands
    | choice choice => cases choice
  · exact .all

theorem expressible_any_iff {ps : List Predicate} :
    (Predicate.any ps).Expressible ↔ ∀ p ∈ ps, p.Expressible := by
  constructor
  · intro expressible
    cases expressible with
    | unread unread =>
        intro p member
        exact .unread (anyReadsRecord_eq_false_iff.mp unread p member)
    | any operands => exact operands
    | choice choice => cases choice
  · exact .any

theorem Expressible.operand (expressible : (Predicate.not p).Expressible) : p.Expressible := by
  cases expressible with
  | unread unread => exact .unread unread
  | not operand => exact operand
  | choice choice => cases choice

theorem Expressible.condition (expressible : (Predicate.role p).Expressible) : p.Expressible := by
  cases expressible with
  | unread unread => exact .unread unread
  | role condition => exact condition
  | choice choice => cases choice

theorem Expressible.sides {comparator : Comparator} {left right : Operand}
    (expressible : (Predicate.compare comparator left right).Expressible)
    (reads : left.readsRecord ∨ right.readsRecord) :
    ∃ path, left = .record path ∧ right.readsRecord = Bool.false := by
  cases expressible with
  | unread unread =>
      rw [readsRecord, Bool.or_eq_false_iff] at unread
      simp [unread] at reads
  | compare unread => exact ⟨_, rfl, unread⟩
  | choice choice => cases choice

theorem Choice.expressible {branches : List (Predicate × Predicate)} {otherwise : Predicate}
    (choice : p.Choice branches otherwise) (expressible : p.Expressible) (reads : p.readsRecord) :
    (∀ branch ∈ branches, branch.1.Expressible) ∧ (∀ branch ∈ branches, branch.2.Expressible) ∧
      otherwise.Expressible := by
  cases expressible with
  | unread unread => rw [unread] at reads; cases reads
  | choice other keys outcomes last =>
      cases choice with
      | select => cases other with | select => exact ⟨keys, outcomes, last⟩
      | firstOf => cases other with | firstOf => exact ⟨keys, outcomes, last⟩
  | all _ | any _ | not _ | compare _ | member | isNull | anyRelated | role _ => cases choice

theorem exact_all_iff {ps : List Predicate} : (Predicate.all ps).Exact ↔ ∀ p ∈ ps, p.Exact :=
  ⟨fun | .all operands => operands, .all⟩

theorem exact_any_iff {ps : List Predicate} : (Predicate.any ps).Exact ↔ ∀ p ∈ ps, p.Exact :=
  ⟨fun | .any operands => operands, .any⟩

theorem safe_all_iff {ps : List Predicate} : (Predicate.all ps).Safe ↔ ∀ p ∈ ps, p.Safe := by
  constructor
  · intro safe p member
    cases safe with
    | exact exact => exact .exact (exact_all_iff.mp exact p member)
    | unread unread => exact .unread (anyReadsRecord_eq_false_iff.mp unread p member)
    | all operands => exact operands p member
    | test test => cases test
    | choice choice => cases choice
  · exact .all

theorem safe_any_iff {ps : List Predicate} : (Predicate.any ps).Safe ↔ ∀ p ∈ ps, p.Safe := by
  constructor
  · intro safe p member
    cases safe with
    | exact exact => exact .exact (exact_any_iff.mp exact p member)
    | unread unread => exact .unread (anyReadsRecord_eq_false_iff.mp unread p member)
    | any operands => exact operands p member
    | test test => cases test
    | choice choice => cases choice
  · exact .any

/-! ## Exact predicates -/

theorem rowTruth_of_isTest (test : p.isTest) (actor record : Value) :
    p.rowTruth actor record = p.truth actor record ∨
      p.rowTruth actor record = (p.truth actor record).decided := by
  cases reads : p.readsRecord with
  | false => exact .inr (rowTruth_of_unread reads)
  | true =>
      cases p with
      | compare comparator left right =>
          rw [rowTruth_compare, rowCompare, truth]
          split
          · exact .inl rfl
          · exact .inr rfl
      | member operand values negated =>
          rw [rowTruth_member reads]
          dsimp only
          split
          · exact .inr rfl
          · exact .inl rfl
      | isNull operand negated => exact .inl (rowTruth_isNull operand negated)
      | const _ | all _ | any _ | not _ | anyRelated _ _ _ | select _ _ _ | firstOf _ _ | role _
      | unresolved _ | foreign _ => cases test

theorem holds_rowTruth_of_isTest (test : p.isTest) (actor record : Value) :
    (p.rowTruth actor record).holds = (p.truth actor record).holds := by
  obtain same | decided := rowTruth_of_isTest test actor record
  · rw [same]
  · rw [decided, Truth.holds_decided]

theorem rowTruth_anyRelated {relation : String} {condition : Predicate} {joinFields : List String}
    (test : condition.isTest) (actor record : Value) :
    rowTruth actor (.anyRelated relation condition joinFields) record =
      truth actor (.anyRelated relation condition joinFields) record := by
  rw [rowTruth, readsRecord, if_pos rfl, truth]
  simp only [holds_rowTruth_of_isTest test]

theorem Exact.rowTruth_eq (exact : p.Exact) (compiled : p.Compiled admitted)
    (expressible : p.Expressible) (actor record : Value) :
    p.rowTruth actor record = p.truth actor record := by
  induction exact with
  | const =>
      cases compiled with
      | @const b =>
          rw [rowTruth_of_unread rfl, truth]
          exact Truth.decided_ofBool b
  | all _ ih =>
      have operands := compiled_all_iff.mp compiled
      have forms := expressible_all_iff.mp expressible
      rw [rowTruth_all operands, truth_all,
        List.map_congr_left fun p member => ih p member (operands p member) (forms p member)]
  | any _ ih =>
      have operands := compiled_any_iff.mp compiled
      have forms := expressible_any_iff.mp expressible
      rw [rowTruth_any, truth_any,
        List.map_congr_left fun p member => ih p member (operands p member) (forms p member)]
  | @not operand _ ih =>
      cases compiled with
      | not compiled =>
          have inner := ih compiled expressible.operand
          cases reads : operand.readsRecord with
          | true => rw [rowTruth_not reads, inner, truth]
          | false =>
              -- A part that does not read the record is exact only if it is never unknown.
              rw [rowTruth_of_unread reads] at inner
              rw [rowTruth_of_unread (p := .not operand) reads, truth,
                Truth.decided_not_of_eq_self inner]
  | @compare comparator left right direct =>
      have reads : left.readsRecord ∨ right.readsRecord :=
        direct.imp Operand.readsRecord_of_isDirect Operand.readsRecord_of_isDirect
      obtain ⟨path, rfl, unread⟩ := expressible.sides reads
      have direct : (Operand.record path).isDirect := by
        refine direct.resolve_right fun direct => ?_
        rw [Operand.readsRecord_of_isDirect direct] at unread
        cases unread
      obtain ⟨field, same⟩ := Operand.eq_record_of_isDirect direct
      cases same
      have near : right.isRemote = Bool.false := by
        cases right with
        | record _ => cases unread
        | actor _ _ | value _ | values _ | foreign _ => rfl
      rw [rowTruth_compare, rowCompare, near]
      rfl
  | member direct =>
      obtain ⟨field, rfl⟩ := Operand.eq_record_of_isDirect direct
      exact rowTruth_member rfl
  | isNull => exact rowTruth_isNull _ _
  | anyRelated =>
      cases compiled with
      | anyRelated test _ => exact rowTruth_anyRelated test actor record
  | role _ ih =>
      cases compiled with
      | role compiled => rw [rowTruth_role, truth, ih compiled expressible.condition]

/-! ## Decisive conditions -/

theorem rowMissed_of_unfielded (unfielded : ∀ comparator path right,
    p ≠ .compare comparator (.record path) right) (record : Value) (matched : Truth) :
    rowMissed record p matched = matched.not := by
  unfold rowMissed
  split
  · exact absurd rfl (unfielded _ _ _)
  · rfl

theorem Existential.isTwoValued (existential : p.Existential) (compiled : p.Compiled admitted)
    (actor record : Value) :
    ∃ b, p.rowTruth actor record = .ofBool b ∧ p.truth actor record = .ofBool b := by
  induction existential with
  | related =>
      cases compiled with
      | anyRelated test _ => exact ⟨_, rowTruth_anyRelated test actor record, rfl⟩
  | @any operands parts ih =>
      have each : ∀ p ∈ operands,
          ∃ b, p.rowTruth actor record = .ofBool b ∧ p.truth actor record = .ofBool b :=
        fun p member => ih p member (compiled_any_iff.mp compiled p member)
      rw [rowTruth_any, truth_any]
      clear parts ih compiled
      induction operands with
      | nil => exact ⟨Bool.false, rfl, rfl⟩
      | cons p ps ih =>
          rw [List.forall_mem_cons] at each
          obtain ⟨b, rowFirst, first⟩ := each.1
          obtain ⟨c, rowRest, rest⟩ := ih each.2
          refine ⟨b || c, ?_, ?_⟩
          · rw [List.map_cons, Truth.any_cons, rowFirst, rowRest]
            cases b <;> cases c <;> rfl
          · rw [List.map_cons, Truth.any_cons, first, rest]
            cases b <;> cases c <;> rfl

theorem settles_compare {comparator : Comparator} {path : List String} {right : Operand}
    (known : comparator.isKnown) (present : right.isPresent) (actor record : Value) :
    let key := Predicate.compare comparator (.record path) right
    (key.rowTruth actor record).holds = (key.truth actor record).holds ∧
      rowMissed record key (key.rowTruth actor record) =
        .ofBool !(key.truth actor record).holds := by
  intro key
  refine ⟨holds_rowTruth_of_isTest rfl actor record, ?_⟩
  have there : (right.read actor record).isNull = Bool.false := by
    cases right with
    | value v => simpa [Operand.isPresent, Operand.read] using present
    | record _ | actor _ _ | values _ | foreign _ => cases present
  have row : key.rowTruth actor record = key.truth actor record ∨
      key.rowTruth actor record = (key.truth actor record).decided :=
    rowTruth_of_isTest rfl actor record
  change ((key.rowTruth actor record).not.or (.ofBool (record.read path).isNull)) = _
  cases missing : (record.read path).isNull with
  | true =>
      have unknown : key.truth actor record = .unknown :=
        Comparator.compare_of_null (.inl missing)
      rw [unknown]
      exact Truth.or_yes _
  | false =>
      have settled : (key.truth actor record).decided = key.truth actor record :=
        Truth.decided_eq_self (Comparator.isProper_compare _ _ _)
          (Comparator.compare_ne_unknown known missing there)
      rw [settled, or_self] at row
      rw [row, ← settled, Truth.decided, Truth.not_ofBool, Truth.holds_ofBool]
      exact Truth.or_no (Truth.isProper_ofBool _)

/-- A row matches a decisive condition just as a record does, and is left over if it does not. -/
theorem Decisive.settles (decisive : p.Decisive) (compiled : p.Compiled admitted)
    (expressible : p.Expressible) (actor record : Value) :
    (p.rowTruth actor record).holds = (p.truth actor record).holds ∧
      rowMissed record p (p.rowTruth actor record) = .ofBool !(p.truth actor record).holds := by
  cases decisive with
  | unread unread =>
      rw [rowTruth_of_unread unread, rowMissed_of_unfielded, Truth.decided, Truth.not_ofBool]
      · exact ⟨Truth.holds_ofBool _, rfl⟩
      · rintro comparator path right rfl
        cases unread
  | isNull =>
      rw [rowTruth_isNull, rowMissed_of_unfielded, truth, Truth.not_ofBool, Truth.holds_ofBool]
      · exact ⟨rfl, rfl⟩
      · intro comparator path right same
        cases same
  | existential existential =>
      obtain ⟨b, row, same⟩ := existential.isTwoValued compiled actor record
      rw [row, same, rowMissed_of_unfielded, Truth.not_ofBool, Truth.holds_ofBool]
      · exact ⟨rfl, rfl⟩
      · rintro comparator path right rfl
        cases existential
  | @compare comparator left right sides =>
      cases compiled with
      | compare known _ _ _ =>
          have reads : left.readsRecord ∨ right.readsRecord :=
            sides.imp (fun turn => Operand.readsRecord_of_isRecord turn.1)
              (fun turn => Operand.readsRecord_of_isRecord turn.2)
          obtain ⟨path, rfl, unread⟩ := expressible.sides reads
          obtain ⟨_, present⟩ | ⟨absurd, _⟩ := sides
          · exact settles_compare known present actor record
          · cases absurd

/-! ## Safe predicates -/

theorem holds_rowFirst {branches : List (Predicate × Predicate)} {last rowLast : Truth}
    {actor record : Value} (proper : rowLast.isProper) (same : rowLast.holds = last.holds)
    (compiled : ∀ branch ∈ branches, branch.1.Compiled admitted ∧ branch.2.Compiled admitted)
    (keys : ∀ branch ∈ branches,
      (branch.1.rowTruth actor record).holds = (branch.1.truth actor record).holds ∧
        rowMissed record branch.1 (branch.1.rowTruth actor record) =
          .ofBool !(branch.1.truth actor record).holds)
    (outcomes : ∀ branch ∈ branches,
      (branch.2.rowTruth actor record).holds = (branch.2.truth actor record).holds) :
    (rowFirst actor branches record rowLast).holds =
      ((truthFirst actor branches record).getD last).holds := by
  induction branches with
  | nil => exact same
  | cons branch others ih =>
      rw [List.forall_mem_cons] at compiled keys outcomes
      have rest := ih compiled.2 keys.2 outcomes.2
      have rowRest := isProper_rowFirst proper actor others record
      rw [rowFirst, truthFirst, keys.1.2, Truth.holds_or,
        Truth.holds_and (compiled.1.1.isProper_rowTruth _ _) (compiled.1.2.isProper_rowTruth _ _),
        Truth.holds_and (Truth.isProper_ofBool _) rowRest, keys.1.1, outcomes.1, rest,
        Truth.holds_ofBool]
      cases (branch.1.truth actor record).holds with
      | true => simp
      | false => simp

/-- A safe predicate holds for a row if and only if it holds for the record. -/
theorem Safe.holds_rowTruth (safe : p.Safe) (compiled : p.Compiled admitted)
    (expressible : p.Expressible) (actor record : Value) :
    (p.rowTruth actor record).holds = (p.truth actor record).holds := by
  induction safe with
  | exact exact => rw [exact.rowTruth_eq compiled expressible]
  | unread unread => rw [rowTruth_of_unread unread, Truth.holds_decided]
  | all _ ih =>
      have operands := compiled_all_iff.mp compiled
      have forms := expressible_all_iff.mp expressible
      rw [rowTruth_all operands, truth_all, Truth.holds_all, Truth.holds_all, Bool.eq_iff_iff]
      · simp only [List.all_map, List.all_eq_true, Function.comp_apply]
        refine forall₂_congr fun p member => ?_
        rw [ih p member (operands p member) (forms p member)]
      · exact List.forall_mem_map.mpr fun p member => (operands p member).isProper_truth _ _
      · exact List.forall_mem_map.mpr fun p member => (operands p member).isProper_rowTruth _ _
  | any _ ih =>
      have operands := compiled_any_iff.mp compiled
      have forms := expressible_any_iff.mp expressible
      rw [rowTruth_any, truth_any, Truth.holds_any, Truth.holds_any, Bool.eq_iff_iff]
      simp only [List.any_map, List.any_eq_true, Function.comp_apply]
      refine exists_congr fun p => and_congr_right fun member => ?_
      rw [ih p member (operands p member) (forms p member)]
  | test test => exact holds_rowTruth_of_isTest test actor record
  | role _ ih =>
      cases compiled with
      | role compiled => rw [rowTruth_role, truth, ih compiled expressible.condition]
  | @choice p otherwise branches choice decisive _ _ outcomeIH otherwiseIH =>
      cases reads : p.readsRecord with
      | false => rw [rowTruth_of_unread reads, Truth.holds_decided]
      | true =>
          obtain ⟨parts, last⟩ := choice.compiled compiled
          obtain ⟨keyForms, outcomeForms, lastForm⟩ := choice.expressible expressible reads
          rw [choice.rowTruth_eq reads, choice.truth_eq]
          refine holds_rowFirst (last.isProper_rowTruth actor record)
            (otherwiseIH last lastForm) parts ?_ ?_
          · intro branch member
            exact (decisive branch member).settles (parts branch member).1 (keyForms branch member)
              actor record
          · intro branch member
            exact outcomeIH branch member (parts branch member).2 (outcomeForms branch member)

end Predicate

end RowGuard
