import RowGuard.Proofs.Agreement
import RowGuard.Proofs.Policy.Combination
import RowGuard.Proofs.Value.Loading

/-! Loading relationships. Access that is granted while a relationship is not
loaded may be lost once it is: where a null test through it passes, where no
related row could be found for a negated condition, and where a branch of a
choice was passed over. Whoever is granted access for another reason keeps it,
whatever rows are loaded, unless an undefined number among them ends the check. -/

set_option autoImplicit false

namespace RowGuard

/-! ## Reading -/

/-- Whether an operand is read through one of some relationships of the record. -/
def Operand.Through (names : List String) : Operand → Prop
  | .record (head :: _) => head ∈ names
  | _ => False

section Reading

variable {names : List String} {record loaded : Value}

theorem Value.AgreeOutside.read_cons (agree : record.AgreeOutside names loaded) (head : String)
    (path : List String) :
    record.read (head :: path) = (record.get head).read path ∧
      loaded.read (head :: path) = (loaded.get head).read path := by
  have there : loaded.isNull = false := agree.alike.isNull_eq.symm.trans agree.present
  constructor
  · rw [read, agree.present]
    rfl
  · rw [read, there]
    rfl

theorem Operand.read_alike (agree : record.AgreeOutside names loaded) {operand : Operand}
    (apart : ¬operand.Through names) (actor : Value) :
    (operand.read actor record).Alike (operand.read actor loaded) := by
  cases operand with
  | record path =>
      cases path with
      | nil => exact agree.alike
      | cons head path =>
          obtain ⟨before, after⟩ := agree.read_cons head path
          rw [read, read, before, after, agree.kept head apart]
          exact .refl _
  | actor _ _ | value _ | values _ | foreign _ => exact .refl _

theorem Operand.read_eq_null (loads : record.Loads names loaded) {operand : Operand}
    (through : operand.Through names) (actor : Value) : operand.read actor record = .null := by
  cases operand with
  | record path =>
      cases path with
      | nil => exact through.elim
      | cons head path =>
          rw [read, (loads.agreeOutside.read_cons head path).1, loads.get_eq_null through,
            Value.read_null]
  | actor _ _ | value _ | values _ | foreign _ => exact through.elim

theorem Operand.not_through_nil (operand : Operand) : ¬operand.Through [] := by
  cases operand with
  | record path => cases path <;> exact nofun
  | actor _ _ | value _ | values _ | foreign _ => exact nofun

end Reading

namespace Predicate

/-! ## What a truth rests on -/

/-- Whether a predicate reads one of some relationships of the record. What it reads of related rows
does not count. -/
inductive Touches (names : List String) : Predicate → Prop where
  | test {p : Predicate} {operand : Operand} :
      p.isTest → operand ∈ p.operands → operand.Through names → Touches names p
  | rows {relation : String} {condition : Predicate} {joinFields : List String} :
      relation ∈ names → Touches names (.anyRelated relation condition joinFields)
  | not {operand : Predicate} : Touches names operand → Touches names (.not operand)
  | all {ps : List Predicate} {p : Predicate} :
      p ∈ ps → Touches names p → Touches names (.all ps)
  | any {ps : List Predicate} {p : Predicate} :
      p ∈ ps → Touches names p → Touches names (.any ps)
  | role {condition : Predicate} : Touches names condition → Touches names (.role condition)
  | key {p otherwise : Predicate} {branches : List (Predicate × Predicate)}
      {branch : Predicate × Predicate} : p.Choice branches otherwise → branch ∈ branches →
      Touches names branch.1 → Touches names p
  | outcome {p otherwise : Predicate} {branches : List (Predicate × Predicate)}
      {branch : Predicate × Predicate} : p.Choice branches otherwise → branch ∈ branches →
      Touches names branch.2 → Touches names p
  | otherwise {p otherwise : Predicate} {branches : List (Predicate × Predicate)} :
      p.Choice branches otherwise → Touches names otherwise → Touches names p

mutual

/-- Whether a predicate is true on a record, or false there, by counting on relationships that are
not loaded: a null test through one of them passes, a condition on its rows fails, or a choice
passes over a branch that it could take to another end. -/
inductive Leans (names : List String) (actor record : Value) : Bool → Predicate → Prop where
  | isNull {side : Bool} {operand : Operand} {negated : Bool} :
      operand.Through names → side = !negated →
      Leans names actor record side (.isNull operand negated)
  | rows {relation : String} {condition : Predicate} {joinFields : List String} :
      relation ∈ names →
      Leans names actor record Bool.false (.anyRelated relation condition joinFields)
  | not {side : Bool} {operand : Predicate} :
      Leans names actor record (!side) operand → Leans names actor record side (.not operand)
  | allTrue {ps : List Predicate} {p : Predicate} :
      p ∈ ps → Leans names actor record Bool.true p → Leans names actor record Bool.true (.all ps)
  | allFalse {ps : List Predicate} :
      (∀ p ∈ ps, p.truth actor record = .no → Leans names actor record Bool.false p) →
      Leans names actor record Bool.false (.all ps)
  | anyTrue {ps : List Predicate} :
      (∀ p ∈ ps, p.truth actor record = .yes → Leans names actor record Bool.true p) →
      Leans names actor record Bool.true (.any ps)
  | anyFalse {ps : List Predicate} {p : Predicate} :
      p ∈ ps → Leans names actor record Bool.false p → Leans names actor record Bool.false (.any ps)
  | role {side : Bool} {condition : Predicate} :
      Leans names actor record side condition → Leans names actor record side (.role condition)
  | choice {side : Bool} {p otherwise : Predicate} {branches : List (Predicate × Predicate)} :
      p.Choice branches otherwise → LeansAmong names actor record side branches otherwise →
      Leans names actor record side p

inductive LeansAmong (names : List String) (actor record : Value) :
    Bool → List (Predicate × Predicate) → Predicate → Prop where
  | otherwise {side : Bool} {last : Predicate} :
      Leans names actor record side last → LeansAmong names actor record side [] last
  | key {side : Bool} {key outcome last : Predicate} {rest : List (Predicate × Predicate)} :
      key.truth actor record = .yes → Leans names actor record Bool.true key →
      LeansAmong names actor record side ((key, outcome) :: rest) last
  | outcome {side : Bool} {key outcome last : Predicate} {rest : List (Predicate × Predicate)} :
      key.truth actor record = .yes → Leans names actor record side outcome →
      LeansAmong names actor record side ((key, outcome) :: rest) last
  -- The condition may come to hold, and the branch does not come to the same truth for sure.
  | passedOver {side : Bool} {key outcome last : Predicate}
      {rest : List (Predicate × Predicate)} :
      key.truth actor record ≠ .yes → key.Touches names →
      (key.truth actor record = .no → Leans names actor record Bool.false key) →
      (outcome.truth actor record = .ofBool side → Leans names actor record side outcome) →
      LeansAmong names actor record side ((key, outcome) :: rest) last
  | later {side : Bool} {key outcome last : Predicate} {rest : List (Predicate × Predicate)} :
      key.truth actor record ≠ .yes → LeansAmong names actor record side rest last →
      LeansAmong names actor record side ((key, outcome) :: rest) last

end

theorem not_touches_nil (p : Predicate) : ¬p.Touches [] := by
  intro touches
  induction touches with
  | @test p operand _ _ through => exact operand.not_through_nil through
  | rows member => cases member
  | not _ ih | all _ _ ih | any _ _ ih | role _ ih | key _ _ _ ih | outcome _ _ _ ih
  | otherwise _ _ ih => exact ih

/-! ## What loading keeps -/

section Keeping

variable {names : List String} {actor record loaded : Value} {admitted : Unresolved → Prop}
  {p : Predicate}

theorem truth_of_apart_test (test : p.isTest) (agree : record.AgreeOutside names loaded)
    (apart : ∀ operand ∈ p.operands, ¬operand.Through names) :
    p.truth actor loaded = p.truth actor record := by
  have alike (operand : Operand) (member : operand ∈ p.operands) :=
    Operand.read_alike agree (apart operand member) actor
  cases p with
  | compare comparator left right =>
      exact (Comparator.compare_alike (alike left (.head _)) (alike right (.tail _ (.head _)))
        comparator).symm
  | member operand values negated =>
      exact congrArg (Truth.negatedIf negated)
        ((alike operand (.head _)).membership_eq (alike values (.tail _ (.head _)))).symm
  | isNull operand negated =>
      rw [truth, truth, (alike operand (.head _)).isNull_eq]
  | const _ | all _ | any _ | not _ | anyRelated _ _ _ | select _ _ _ | firstOf _ _ | role _
  | unresolved _ | foreign _ => cases test

theorem Choice.truth_congr {branches : List (Predicate × Predicate)} {otherwise : Predicate}
    (choice : p.Choice branches otherwise)
    (keys : ∀ branch ∈ branches, branch.1.truth actor loaded = branch.1.truth actor record)
    (outcomes : ∀ branch ∈ branches, branch.2.truth actor loaded = branch.2.truth actor record)
    (last : otherwise.truth actor loaded = otherwise.truth actor record) :
    p.truth actor loaded = p.truth actor record := by
  rw [choice.truth_eq, choice.truth_eq, last, truthFirst_congr keys outcomes]

theorem truth_anyRelated_of_not_mem (agree : record.AgreeOutside names loaded) {relation : String}
    (apart : relation ∉ names) (condition : Predicate) (joinFields : List String) :
    (anyRelated relation condition joinFields).truth actor loaded =
      (anyRelated relation condition joinFields).truth actor record := by
  obtain ⟨before, after⟩ := agree.read_cons relation []
  rw [truth, truth, before, after, agree.kept relation apart]

theorem Compiled.truth_of_not_touches (compiled : p.Compiled admitted)
    (agree : record.AgreeOutside names loaded) (apart : ¬p.Touches names) :
    p.truth actor loaded = p.truth actor record := by
  have test {q : Predicate} (isTest : q.isTest) (apart : ¬q.Touches names) :
      q.truth actor loaded = q.truth actor record :=
    truth_of_apart_test isTest agree fun operand member through =>
      apart (.test isTest member through)
  induction compiled with
  | const | unresolved _ _ => rfl
  | all _ ih =>
      rw [truth_all, truth_all, List.map_congr_left fun p member =>
        ih p member fun touches => apart (.all member touches)]
  | any _ ih =>
      rw [truth_any, truth_any, List.map_congr_left fun p member =>
        ih p member fun touches => apart (.any member touches)]
  | not _ ih => rw [truth, truth, ih fun touches => apart (.not touches)]
  | compare _ _ _ _ | member _ _ | isNull _ => exact test rfl apart
  | anyRelated _ _ _ =>
      exact truth_anyRelated_of_not_mem agree (fun member => apart (.rows member)) _ _
  | @select subject branches _ _ _ _ _ outcomeIH otherwiseIH =>
      have inside {branch : Operand × Predicate} (member : branch ∈ branches) :
          (oriented .eq subject branch.1, branch.2) ∈ keyed subject branches :=
        List.mem_map_of_mem member
      refine Choice.select.truth_congr (List.forall_mem_map.mpr fun branch member => ?_)
        (List.forall_mem_map.mpr fun branch member => ?_) ?_
      · exact test (isTest_oriented .eq subject branch.1) fun touches =>
          apart (.key .select (inside member) touches)
      · exact outcomeIH branch member fun touches =>
          apart (.outcome .select (inside member) touches)
      · exact otherwiseIH fun touches => apart (.otherwise .select touches)
  | firstOf _ _ _ keyIH outcomeIH otherwiseIH =>
      refine Choice.firstOf.truth_congr (fun branch member => ?_) (fun branch member => ?_) ?_
      · exact keyIH branch member fun touches => apart (.key .firstOf member touches)
      · exact outcomeIH branch member fun touches => apart (.outcome .firstOf member touches)
      · exact otherwiseIH fun touches => apart (.otherwise .firstOf touches)
  | role _ ih => exact ih fun touches => apart (.role touches)

/-- What a predicate is on a record without leaning on relationships that are not loaded, it is once
they are. -/
def Survives (names : List String) (actor record loaded : Value) (p : Predicate) : Prop :=
  ∀ side, p.truth actor record = .ofBool side → ¬p.Leans names actor record side →
    p.truth actor loaded = .ofBool side

theorem survives_test (test : p.isTest) (loads : record.Loads names loaded) :
    p.Survives names actor record loaded := by
  intro side settled firm
  by_cases apart : ∀ operand ∈ p.operands, ¬operand.Through names
  · rw [truth_of_apart_test test loads.agreeOutside apart, settled]
  · -- An operand that is null leaves a comparison unknown; a null test leans on it.
    obtain ⟨operand, member, through⟩ : ∃ operand ∈ p.operands, operand.Through names := by
      simpa using apart
    have missing := Operand.read_eq_null loads through actor
    cases p with
    | compare comparator left right =>
        have unknown : (Predicate.compare comparator left right).truth actor record = .unknown := by
          refine Comparator.compare_of_null ?_
          rcases List.mem_pair.mp member with rfl | rfl
          · exact .inl (Value.isNull_iff.mpr missing)
          · exact .inr (Value.isNull_iff.mpr missing)
        exact absurd (settled.symm.trans unknown) (Truth.ofBool_ne_unknown side)
    | member value values negated =>
        have unknown :
            (value.read actor record).membership (values.read actor record) = .unknown := by
          rcases List.mem_pair.mp member with rfl | rfl
          · rw [missing, Value.membership_null]
          · rw [missing]
            rfl
        rw [truth, unknown] at settled
        cases negated <;> cases side <;> cases settled
    | isNull other negated =>
        obtain rfl := List.mem_singleton.mp member
        rw [truth, missing] at settled
        have passes : side = !negated := by
          cases negated <;> cases side <;> first | rfl | cases settled
        exact absurd (.isNull through passes) firm
    | const _ | all _ | any _ | not _ | anyRelated _ _ _ | select _ _ _ | firstOf _ _ | role _
    | unresolved _ | foreign _ => cases test

theorem survives_all {ps : List Predicate} (compiled : ∀ p ∈ ps, p.Compiled admitted)
    (each : ∀ p ∈ ps, p.Survives names actor record loaded) :
    (Predicate.all ps).Survives names actor record loaded := by
  have proper (record : Value) : ∀ t ∈ ps.map (truth actor · record), t.isProper :=
    List.forall_mem_map.mpr fun p member => (compiled p member).isProper_truth actor record
  intro side settled firm
  rw [truth_all] at settled ⊢
  cases side with
  | true =>
      have settled := List.forall_mem_map.mp ((Truth.all_eq_yes_iff (proper record)).mp settled)
      refine (Truth.all_eq_yes_iff (proper loaded)).mpr (List.forall_mem_map.mpr ?_)
      intro p member
      exact each p member Bool.true (settled p member) fun leans => firm (.allTrue member leans)
  | false =>
      obtain ⟨p, member, no, firm⟩ : ∃ p ∈ ps, p.truth actor record = .no ∧
          ¬p.Leans names actor record Bool.false := by
        by_contra none
        refine firm (.allFalse fun p member no => ?_)
        exact by_contra fun stands => none ⟨p, member, no, stands⟩
      have kept := each p member Bool.false no firm
      exact Truth.all_eq_no_iff.mpr (List.mem_map.mpr ⟨p, member, kept⟩)

theorem survives_any {ps : List Predicate} (compiled : ∀ p ∈ ps, p.Compiled admitted)
    (each : ∀ p ∈ ps, p.Survives names actor record loaded) :
    (Predicate.any ps).Survives names actor record loaded := by
  have proper (record : Value) : ∀ t ∈ ps.map (truth actor · record), t.isProper :=
    List.forall_mem_map.mpr fun p member => (compiled p member).isProper_truth actor record
  intro side settled firm
  rw [truth_any] at settled ⊢
  cases side with
  | true =>
      obtain ⟨p, member, yes, firm⟩ : ∃ p ∈ ps, p.truth actor record = .yes ∧
          ¬p.Leans names actor record Bool.true := by
        by_contra none
        refine firm (.anyTrue fun p member yes => ?_)
        exact by_contra fun stands => none ⟨p, member, yes, stands⟩
      have kept := each p member Bool.true yes firm
      exact Truth.any_eq_yes_iff.mpr (List.mem_map.mpr ⟨p, member, kept⟩)
  | false =>
      have settled := List.forall_mem_map.mp ((Truth.any_eq_no_iff (proper record)).mp settled)
      refine (Truth.any_eq_no_iff (proper loaded)).mpr (List.forall_mem_map.mpr ?_)
      intro p member
      exact each p member Bool.false (settled p member) fun leans => firm (.anyFalse member leans)

/-- From branch to branch: a condition that held still holds, and one that did not lets the choice
stop earlier only at the truth that it came to. -/
theorem Choice.survives {branches : List (Predicate × Predicate)} {otherwise : Predicate}
    (choice : p.Choice branches otherwise)
    (keys : ∀ branch ∈ branches, branch.1.Survives names actor record loaded ∧
      (¬branch.1.Touches names → branch.1.truth actor loaded = branch.1.truth actor record))
    (outcomes : ∀ branch ∈ branches, branch.2.Survives names actor record loaded)
    (last : otherwise.Survives names actor record loaded) :
    p.Survives names actor record loaded := by
  intro side settled firm
  replace firm : ¬LeansAmong names actor record side branches otherwise :=
    fun leans => firm (.choice choice leans)
  rw [choice.truth_eq] at settled ⊢
  clear choice
  induction branches with
  | nil => exact last side settled fun leans => firm (.otherwise leans)
  | cons branch rest ih =>
      obtain ⟨key, outcome⟩ := branch
      rw [List.forall_mem_cons] at keys outcomes
      by_cases held : key.truth actor record = .yes
      · have holds := keys.1.1 Bool.true held fun leans => firm (.key held leans)
        rw [truthFirst, if_pos (Truth.holds_iff.mpr held)] at settled
        rw [truthFirst, if_pos (Truth.holds_iff.mpr holds)]
        exact outcomes.1 side settled fun leans => firm (.outcome held leans)
      · rw [truthFirst, if_neg (fun holds => held (Truth.holds_iff.mp holds))] at settled
        have later := ih keys.2 outcomes.2 settled fun leans => firm (.later held leans)
        by_cases holds : key.truth actor loaded = .yes
        · -- The branch is taken now, so its condition was read through what has been loaded.
          have touches : key.Touches names := by_contra fun apart =>
            held ((keys.1.2 apart).symm.trans holds)
          have undecided (no : key.truth actor record = .no) :
              Leans names actor record Bool.false key := by
            by_contra firm
            have fails := keys.1.1 Bool.false no firm
            cases holds.symm.trans fails
          have arrives : outcome.truth actor loaded = .ofBool side := by_contra fun strays =>
            firm (.passedOver held touches undecided fun arrived =>
              by_contra fun firm => strays (outcomes.1 side arrived firm))
          rw [truthFirst, if_pos (Truth.holds_iff.mpr holds)]
          exact arrives
        · rw [truthFirst, if_neg (fun held => holds (Truth.holds_iff.mp held))]
          exact later

theorem Compiled.survives (compiled : p.Compiled admitted) (loads : record.Loads names loaded) :
    p.Survives names actor record loaded := by
  have apart {q : Predicate} (compiled : q.Compiled admitted) (apart : ¬q.Touches names) :
      q.truth actor loaded = q.truth actor record :=
    compiled.truth_of_not_touches loads.agreeOutside apart
  induction compiled with
  | const | unresolved _ _ => exact fun _ settled _ => settled
  | all operands ih => exact survives_all operands ih
  | any operands ih => exact survives_any operands ih
  | @not operand compiled ih =>
      intro side settled firm
      have proper := compiled.isProper_truth actor record
      have inside : operand.truth actor record = .ofBool !side := by
        rw [truth] at settled
        rw [← Truth.not_ofBool, ← settled, Truth.not_not proper]
      rw [truth, ih (!side) inside fun leans => firm (.not leans), Truth.not_ofBool, Bool.not_not]
  | compare _ _ _ _ | member _ _ | isNull _ => exact survives_test rfl loads
  | @anyRelated relation condition joinFields _ _ _ =>
      intro side settled firm
      by_cases member : relation ∈ names
      · -- Without rows the condition fails, and it is this that the predicate leans on.
        have none := (loads.agreeOutside.read_cons relation []).1
        rw [loads.get_eq_null member] at none
        rw [truth, none] at settled
        cases side with
        | true => cases settled
        | false => exact absurd (.rows member) firm
      · rw [truth_anyRelated_of_not_mem loads.agreeOutside member, settled]
  | @select subject _ _ own keys outcomes otherwise outcomeIH otherwiseIH =>
      have keyed := (Choice.select.compiled (.select own keys outcomes otherwise)).1
      refine Choice.select.survives (List.forall_mem_map.mpr fun branch member => ⟨?_, ?_⟩)
        (List.forall_mem_map.mpr outcomeIH) otherwiseIH
      · exact survives_test (isTest_oriented .eq subject branch.1) loads
      · exact apart (keyed _ (List.mem_map_of_mem member)).1
  | firstOf keys outcomes otherwise keyIH outcomeIH otherwiseIH =>
      exact Choice.firstOf.survives (fun branch member =>
        ⟨keyIH branch member, apart (keys branch member)⟩) outcomeIH otherwiseIH
  | role _ ih =>
      intro side settled firm
      exact ih side settled fun leans => firm (.role leans)

end Keeping

/-! ## What leans on nothing -/

/-- Whether a predicate comes of comparisons, lists and conditions on related rows by conjunction
and disjunction alone. -/
inductive Positive : Predicate → Prop where
  | const {value : Value} : Positive (.const value)
  | compare {comparator : Comparator} {left right : Operand} :
      Positive (.compare comparator left right)
  | member {operand values : Operand} {negated : Bool} : Positive (.member operand values negated)
  | anyRelated {relation : String} {condition : Predicate} {joinFields : List String} :
      Positive (.anyRelated relation condition joinFields)
  | all {operands : List Predicate} : (∀ p ∈ operands, Positive p) → Positive (.all operands)
  | any {operands : List Predicate} : (∀ p ∈ operands, Positive p) → Positive (.any operands)
  | role {condition : Predicate} : Positive condition → Positive (.role condition)
  | unresolved {construct : Unresolved} : Positive (.unresolved construct)

theorem Positive.not_leans {names : List String} {actor record : Value}
    {admitted : Unresolved → Prop} {p : Predicate} (positive : p.Positive)
    (compiled : p.Compiled admitted) (holds : p.truth actor record = .yes) :
    ¬p.Leans names actor record Bool.true := by
  intro leans
  induction positive with
  | const | compare | member | anyRelated | unresolved =>
      cases leans with
      | choice choice _ => cases choice
  | @all operands _ ih =>
      have compiled := compiled_all_iff.mp compiled
      have proper : ∀ t ∈ operands.map (truth actor · record), t.isProper :=
        List.forall_mem_map.mpr fun p member => (compiled p member).isProper_truth actor record
      rw [truth_all] at holds
      cases leans with
      | allTrue member leans =>
          have holds := (Truth.all_eq_yes_iff proper).mp holds
          exact ih _ member (compiled _ member) (List.forall_mem_map.mp holds _ member) leans
      | choice choice _ => cases choice
  | any _ ih =>
      have compiled := compiled_any_iff.mp compiled
      rw [truth_any] at holds
      cases leans with
      | anyTrue each =>
          obtain ⟨p, member, yes⟩ := List.mem_map.mp (Truth.any_eq_yes_iff.mp holds)
          exact ih p member (compiled p member) yes (each p member yes)
      | choice choice _ => cases choice
  | role _ ih =>
      cases leans with
      | role leans =>
          cases compiled with
          | role compiled => exact ih compiled holds leans
      | choice choice _ => cases choice

/-! ## What loading costs -/

/-- Whether a predicate holds on a record and fails on another one. -/
def Lost (actor record loaded : Value) (p : Predicate) : Prop :=
  p.truth actor record = .yes ∧ p.truth actor loaded = .no

/-- Whatever row is loaded, a null test through it is lost if the field is there; and a negated
condition on rows is lost if the row meets it, as is a choice whose default grants what it would
deny. -/
theorem lost_by_loading {relation : String} {id : Nat} {kind : String}
    {attributes : List (String × Value)} {unloaded : List String} (missing : relation ∈ unloaded)
    (row actor : Value) :
    let record : Value := .object id kind attributes (some unloaded)
    (∀ field, row.read [field] ≠ .null →
      Lost actor record (record.load relation row)
        (.isNull (.record [relation, field]) Bool.false)) ∧
    ∀ condition joinFields, (∃ rows, row.items? = some rows ∧
        ∃ related ∈ rows, (condition.truth actor related).holds) →
      Lost actor record (record.load relation row)
        (.not (.anyRelated relation condition joinFields)) ∧
      Lost actor record (record.load relation row)
        (.firstOf [(.anyRelated relation condition joinFields, .const (.bool Bool.false))]
          (.const (.bool Bool.true))) := by
  intro record
  have loads : record.Loads [relation] (record.load relation row) := Value.loads_load missing row
  have absent : record.get relation = .null := loads.get_eq_null (.head _)
  have there : (record.load relation row).get relation = row := Value.get_load row
  constructor
  · intro field present
    obtain ⟨before, after⟩ := loads.agreeOutside.read_cons relation [field]
    constructor
    · rw [truth, Operand.read, before, absent, Value.read_null]
      rfl
    · have present : (row.read [field]).isNull = Bool.false :=
        Bool.eq_false_iff.mpr fun null => present (Value.isNull_iff.mp null)
      rw [truth, Operand.read, after, there, present]
      rfl
  · rintro condition joinFields ⟨rows, items, related, member, meets⟩
    obtain ⟨before, after⟩ := loads.agreeOutside.read_cons relation []
    have fails : (anyRelated relation condition joinFields).truth actor record = .no := by
      rw [truth, before, absent]
      rfl
    have found : (anyRelated relation condition joinFields).truth actor
        (record.load relation row) = .yes := by
      rw [truth, after, there, Value.read, items]
      exact congrArg Truth.ofBool (List.any_eq_true.mpr ⟨related, member, meets⟩)
    refine ⟨⟨?_, ?_⟩, ?_, ?_⟩
    · rw [truth, fails]
      rfl
    · rw [truth, found]
      rfl
    · rw [truth, truthFirst, fails]
      rfl
    · rw [truth, truthFirst, found]
      rfl

end Predicate

/-! ## Access -/

section Access

variable {scope : Scope} {e : Expr} {check : RecordCheck} {names : List String}
  {record loaded : Value}

/-- A policy that compiles is answered before and after relationships are loaded, whatever rows they
have, unless an undefined number ends the check. Access that is granted is kept unless it leans on
the relationships that were not loaded, and nothing changes if they turn out to be null. -/
theorem grants_when_loaded (known : e.Known) (checked : (scope.recordCheck e).result = .ok check)
    (loads : record.Loads names loaded) (actor : Value) :
    ∃ granted after,
      (check.condition.grants .deny record actor).Yields (actor.isDefined ∧ record.isDefined)
        granted ∧
      (check.condition.grants .deny loaded actor).Yields (actor.isDefined ∧ loaded.isDefined)
        after ∧
      (granted = true → ¬check.condition.Leans names actor record true → after = true) ∧
      ((∀ name ∈ names, loaded.get name = .null) → after = granted) := by
  have compiled := Expr.compiled_of_known known (Scope.compile_of_recordCheck checked)
  have answered (record : Value) :
      (check.condition.grants .deny record actor).Yields (actor.isDefined ∧ record.isDefined)
        (check.condition.truth actor record).holds :=
    compiled.yields_grants (by decide) actor record
  refine ⟨_, _, answered record, answered loaded, ?_, ?_⟩
  · intro granted firm
    rw [Truth.holds_iff] at granted ⊢
    exact compiled.survives loads true granted firm
  · intro empty
    rw [compiled.truth_of_not_touches (loads.agree_of_null empty) (Predicate.not_touches_nil _)]

/-- A policy without negations, null tests and choices grants no less when relationships are
loaded. -/
theorem grants_of_positive (known : e.Known) (checked : (scope.recordCheck e).result = .ok check)
    (positive : check.condition.Positive) (loads : record.Loads names loaded) {actor : Value}
    (granted : (check.condition.grants .deny record actor).result = .ok true) :
    (check.condition.grants .deny loaded actor).Yields (actor.isDefined ∧ loaded.isDefined)
      true := by
  have compiled := Expr.compiled_of_known known (Scope.compile_of_recordCheck checked)
  have lenient : UnloadedMode.deny ≠ .fail := by decide
  have before := compiled.yields_grants lenient actor record
  have holds : check.condition.truth actor record = .yes :=
    Truth.holds_iff.mp (before.eq_of_ok granted).symm
  have kept := compiled.survives loads true holds (positive.not_leans compiled holds)
  have after := compiled.yields_grants lenient actor loaded
  rwa [kept] at after

end Access

/-! ## A post and its owner -/

/-- An open post whose owner is not loaded. -/
def Value.openPost : Value :=
  .object 0 "Post" [("status", .text "open")] (some ["owner"])

def Value.openPostBy (name : String) : Value :=
  openPost.load "owner" (.object 1 "User" [("name", .text name)] (some []))

theorem Value.loads_openPostBy (name : String) : openPost.Loads ["owner"] (openPostBy name) :=
  loads_load (.head _) _

/-- The policy that a post is open or is owned by someone of a name. -/
def Expr.openOrByAnn : Expr :=
  .any
    [.condition (.compare .eq) (.column "status" none) (.literal ⟨.text, .text "open"⟩),
     .condition (.compare .eq) (.column "name" (some "owner")) (.literal ⟨.text, .text "ann"⟩)]

theorem grants_when_loaded_openOrByAnn :
    Expr.parse "status = 'open' OR owner.name = 'ann'" "Post" = .ok .openOrByAnn ∧
      Value.openPost.Loads ["owner"] (.openPostBy "bob") ∧
      ∃ check, (Scope.blog.recordCheck .openOrByAnn).result = .ok check ∧
        ¬check.condition.Leans ["owner"] .null .openPost true ∧
        (check.condition.grants .deny .openPost .null).result = .ok true ∧
        (check.condition.grants .deny (.openPostBy "bob") .null).result = .ok true := by
  have parsed : Expr.parse "status = 'open' OR owner.name = 'ann'" "Post" = .ok .openOrByAnn := by
    with_unfolding_all rfl
  have loads := Value.loads_openPostBy "bob"
  obtain ⟨check, checked, condition, opens⟩ : ∃ check,
      (Scope.blog.recordCheck .openOrByAnn).result = .ok check ∧
        check.condition = .any
          [.compare .eq (.record ["status"]) (.value (.text "open")),
           .compare .eq (.record ["owner", "name"]) (.value (.text "ann"))] ∧
        (check.condition.grants .deny .openPost .null).result = .ok true :=
    ⟨_, by with_unfolding_all rfl, by with_unfolding_all rfl, by with_unfolding_all rfl⟩
  -- What makes it true is the test of its status.
  have firm : ¬check.condition.Leans ["owner"] .null .openPost true := by
    rw [condition]
    intro leans
    cases leans with
    | anyTrue each =>
        cases each _ (.head _) rfl with
        | choice choice _ => cases choice
    | choice choice _ => cases choice
  obtain ⟨granted, after, before, yields, kept, _⟩ :=
    grants_when_loaded (Expr.grammar_known.ofParse parsed) checked loads .null
  obtain rfl := before.eq_of_ok opens
  rw [kept rfl firm] at yields
  exact ⟨parsed, loads, check, checked, firm, opens, yields.result_eq ⟨rfl, rfl⟩⟩

def Expr.byNobody : Expr :=
  .condition (.null Bool.false) (.column "name" (some "owner")) (.literal .null)

/-- A post whose owner is not loaded passes for one whose owner has no name: access is granted, and
is denied once the owner is there. -/
theorem byNobody_lost :
    Expr.parse "owner.name IS NULL" "Post" = .ok .byNobody ∧
      Value.openPost.Loads ["owner"] (.openPostBy "ann") ∧
      ∃ check, (Scope.blog.recordCheck .byNobody).result = .ok check ∧
        (check.condition.grants .deny .openPost .null).result = .ok true ∧
        (check.condition.grants .deny (.openPostBy "ann") .null).result = .ok false :=
  ⟨by with_unfolding_all rfl, Value.loads_openPostBy "ann", _, by with_unfolding_all rfl,
    by with_unfolding_all rfl, by with_unfolding_all rfl⟩

end RowGuard
