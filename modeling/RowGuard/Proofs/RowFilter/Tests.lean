import RowGuard.Proofs.Predicate.RowTruth
import RowGuard.Proofs.RowFilter.Laws
import RowGuard.Proofs.RowFilter.Lowering

/-! Lowered tests of operands. A test of a field becomes a filter of that field
behind the relations that lead to it, which a row passes only if the related
row is there; a test for null counts a missing row as null. What has no such
form is reported. -/

set_option autoImplicit false

namespace RowGuard

namespace RowFilter

open Compilation (Event)

variable {scope : Scope} {admitted : Unresolved → Prop} {roles : Predicate → Prop}
  {f : RowFilter} {events : List Event}

/-! ## Filters behind relations -/

/-- A filter of the row that relations lead to. -/
def behind (relations : List String) (leaf : RowFilter) : RowFilter :=
  relations.foldr .related leaf

theorem atPath_eq_ok {leaf : String → RowFilter} {path : List String}
    (lowered : atPath leaf path = ⟨.ok f, events⟩) :
    ∃ relations field, path = relations ++ [field] ∧ f = behind relations (leaf field) ∧
      events = [] := by
  induction path generalizing f events with
  | nil => exact (Traced.fail_eq_ok_iff.mp lowered).elim
  | cons name path ih =>
      cases path with
      | nil =>
          obtain ⟨rfl, rfl⟩ := Traced.pure_eq_ok_iff.mp lowered
          exact ⟨[], name, rfl, rfl, rfl⟩
      | cons next path =>
          obtain ⟨inner, _, _, innerRun, ended, rfl⟩ := Traced.bind_eq_ok_iff.mp lowered
          obtain ⟨rfl, rfl⟩ := Traced.pure_eq_ok_iff.mp ended
          obtain ⟨relations, field, same, rfl, rfl⟩ := ih innerRun
          exact ⟨name :: relations, field, by rw [same]; rfl, rfl, rfl⟩

theorem compiled_behind (relations : List String) (compiled : f.Compiled admitted roles) :
    (behind relations f).Compiled admitted roles := by
  induction relations with
  | nil => exact compiled
  | cons relation relations ih => exact .related ih

/-- Behind relations a filter is decided, if it does not pass a missing row. -/
theorem truth_behind {leaf : RowFilter} {actor : Value}
    (missing : (leaf.truth actor .null).holds = false) (relations : List String) (record : Value) :
    (behind relations leaf).truth actor record =
      if relations.isEmpty then leaf.truth actor record
      else (leaf.truth actor (record.read relations)).decided := by
  induction relations generalizing record with
  | nil => rfl
  | cons relation relations ih =>
      have holds (row : Value) : ((behind relations leaf).truth actor row).holds =
          (leaf.truth actor (row.read relations)).holds := by
        rw [ih row]
        cases relations with
        | nil => rfl
        | cons _ _ => exact Truth.holds_decided _
      change ((RowFilter.related relation (behind relations leaf)).truth actor record) =
        (leaf.truth actor (record.read ([relation] ++ relations))).decided
      rw [truth, holds, Value.read_append, Truth.decided]
      cases absent : (record.read [relation]).isNull with
      | true =>
          rw [Value.isNull_iff.mp absent, Value.read_null, missing]
          rfl
      | false => rfl

/-! ## Tests for null -/

theorem nullAt_eq_ok {path : List String} (lowered : nullAt path = ⟨.ok f, events⟩) :
    events = [] ∧ (∀ admitted roles, f.Compiled admitted roles) ∧
      ∀ actor record, f.truth actor record = .ofBool (record.read path).isNull := by
  induction path generalizing f events with
  | nil => exact (Traced.fail_eq_ok_iff.mp lowered).elim
  | cons name path ih =>
      cases path with
      | nil =>
          obtain ⟨rfl, rfl⟩ := Traced.pure_eq_ok_iff.mp lowered
          exact ⟨rfl, fun _ _ => .isNull, fun _ _ => rfl⟩
      | cons next path =>
          obtain ⟨inner, _, _, innerRun, ended, rfl⟩ := Traced.bind_eq_ok_iff.mp lowered
          obtain ⟨rfl, rfl⟩ := Traced.pure_eq_ok_iff.mp ended
          obtain ⟨rfl, compiled, inside⟩ := ih innerRun
          have parts (admitted : Unresolved → Prop) (roles : Predicate → Prop) :
              ∀ part ∈ [RowFilter.not (.related name .pass), .related name inner],
                part.Compiled admitted roles := by
            rw [List.forall_mem_cons, List.forall_mem_singleton]
            exact ⟨.not (.related .pass), .related (compiled admitted roles)⟩
          refine ⟨rfl, fun admitted roles => compiled_anyOf (parts admitted roles), ?_⟩
          intro actor record
          refine (truth_anyOf (parts (fun _ => False) fun _ => False) actor record).trans ?_
          change _ = Truth.ofBool (record.read ([name] ++ next :: path)).isNull
          rw [Value.read_append]
          simp only [List.map_cons, List.map_nil, truth, inside]
          cases missing : (record.read [name]).isNull with
          | true =>
              rw [Value.isNull_iff.mp missing, Value.read_null]
              rfl
          | false => cases ((record.read [name]).read (next :: path)).isNull <;> rfl

/-! ## Tests -/

/-- What a test of operands is lowered to: a filter of rows with the test's row truth, unless
something is reported. -/
structure Tested (scope : Scope) (admitted : Unresolved → Prop) (p : Predicate) (f : RowFilter)
    (events : List Event) : Prop where
  compiled : scope.Admits events admitted → f.Compiled admitted fun _ => False
  unchecked : Compilation.roleChecks events = []
  truth : Compilation.Quiet events →
    ∀ actor record, f.truth actor record = p.rowTruth actor record

theorem inexpressible_eq_ok {p : Predicate} (lowered : inexpressible scope p = ⟨.ok f, events⟩) :
    ∃ text, f = .unresolved ⟨"comparison", text, .bool scope.config.failOpen, none⟩ ∧
      Compilation.roleChecks events = [] ∧ Compilation.Reports events text := by
  obtain ⟨text, _, _, printed, noteRest, rfl⟩ := Traced.bind_eq_ok_iff.mp lowered
  obtain ⟨_, rfl⟩ := Compilation.ofExcept_eq_ok_iff.mp printed
  obtain ⟨_, _, _, noted, ended, rfl⟩ := Traced.bind_eq_ok_iff.mp noteRest
  obtain rfl := Scope.note_eq_ok_iff.mp noted
  obtain ⟨rfl, rfl⟩ := Traced.pure_eq_ok_iff.mp ended
  exact ⟨text, rfl, rfl, _, .head _, rfl, rfl⟩

theorem tested_of_inexpressible {p q : Predicate}
    (lowered : inexpressible scope q = ⟨.ok f, events⟩) : Tested scope admitted p f events := by
  obtain ⟨text, rfl, unchecked, reported⟩ := inexpressible_eq_ok lowered
  refine ⟨fun admits => .unresolved rfl (admits.reported _ rfl reported), unchecked, ?_⟩
  exact fun quiet => (quiet text reported).elim

theorem isRemote_record (relations : List String) (field : String) :
    (Operand.record (relations ++ [field])).isRemote = !relations.isEmpty := by
  match relations with
  | [] | [_] | _ :: _ :: _ => rfl

theorem truth_onField (comparator : Comparator) (value : Operand) (field : String)
    (actor record : Value) :
    (onField comparator value field).truth actor record =
      comparator.compare (record.read [field]) (value.read actor record) := by
  cases comparator with
  | like ignoreCase negated => cases negated <;> rfl
  | eq | ne | lt | le | gt | ge | unknown _ => rfl

theorem compiled_onField {comparator : Comparator} {value : Operand} (known : comparator.isKnown)
    (sound : value.isSound) (field : String) :
    (onField comparator value field).Compiled admitted roles := by
  cases comparator with
  | eq => exact .equals sound
  | like ignoreCase negated =>
      cases negated with
      | false => exact .like sound
      | true => exact .not (.like sound)
  | ne | lt | le | gt | ge => exact .compare rfl sound
  | unknown _ => cases known

theorem readsRecord_of_isScalarSide {operand : Operand} (scalar : isScalarSide operand) :
    operand.readsRecord = false ∧ operand.isRemote = false := by
  cases operand with
  | actor _ _ | value _ => exact ⟨rfl, rfl⟩
  | record _ | values _ | foreign _ => cases scalar

theorem tested_of_field {comparator : Comparator} {path : List String} {right : Operand}
    (known : comparator.isKnown) (sound : right.isSound) (scalar : isScalarSide right)
    (lowered : atPath (onField comparator right) path = ⟨.ok f, events⟩) :
    Tested scope admitted (.compare comparator (.record path) right) f events := by
  obtain ⟨relations, field, rfl, rfl, rfl⟩ := atPath_eq_ok lowered
  refine ⟨fun _ => compiled_behind _ (compiled_onField known sound field), rfl, ?_⟩
  intro _ actor record
  obtain ⟨unread, near⟩ := readsRecord_of_isScalarSide scalar
  have missing : ((onField comparator right field).truth actor .null).holds = false := by
    rw [truth_onField, Value.read_null, Comparator.compare_of_null (.inl rfl)]
    rfl
  rw [truth_behind missing, truth_onField, truth_onField, ← Value.read_append,
    Operand.read_congr_record unread actor (record.read relations) record,
    Predicate.rowTruth_compare, Predicate.rowCompare, isRemote_record, near]
  cases relations with
  | nil => rfl
  | cons _ _ => rfl

theorem tested_of_member {path : List String} {values : Operand} {negated : Bool}
    (sound : values.isSound) (isSet : isSetSide values)
    (lowered : atPath (fun field => notIf negated (.member field values)) path =
      ⟨.ok f, events⟩) :
    Tested scope admitted (.member (.record path) values negated) f events := by
  obtain ⟨relations, field, rfl, rfl, rfl⟩ := atPath_eq_ok lowered
  have unread : values.readsRecord = false := by
    cases values with
    | actor _ _ | values _ => rfl
    | record _ | value _ | foreign _ => cases isSet
  have tested (actor row : Value) :
      (notIf negated (.member field values)).truth actor row =
        ((row.read [field]).membership (values.read actor row)).negatedIf negated := by
    cases negated <;> rfl
  refine ⟨fun _ => compiled_behind _ ?_, rfl, fun _ actor record => ?_⟩
  · cases negated with
    | false => exact .member sound
    | true => exact .not (.member sound)
  · have missing : ((notIf negated (.member field values)).truth actor .null).holds = false := by
      rw [tested, Value.read_null, Value.membership_null]
      cases negated <;> rfl
    rw [truth_behind missing, tested, tested, ← Value.read_append,
      Operand.read_congr_record unread actor (record.read relations) record, Predicate.rowTruth]
    simp only [Predicate.readsRecord, Operand.readsRecord, Bool.true_or, if_true,
      isRemote_record, Operand.read]
    cases relations with
    | nil => rfl
    | cons _ _ => rfl

theorem tested_of_isNull {path : List String} {negated : Bool} {inner : RowFilter}
    (lowered : nullAt path = ⟨.ok inner, events⟩) :
    Tested scope admitted (.isNull (.record path) negated) (if negated then negate inner else inner)
      events := by
  obtain ⟨rfl, compiled, tested⟩ := nullAt_eq_ok lowered
  refine ⟨fun admits => ?_, rfl, fun _ actor record => ?_⟩
  · cases negated with
    | false => exact compiled _ _
    | true => exact compiled_negate admits.negate (compiled _ _)
  · have row : (Predicate.isNull (.record path) negated).rowTruth actor record =
        .ofBool ((record.read path).isNull != negated) := rfl
    rw [row]
    cases negated with
    | false => rw [if_neg Bool.false_ne_true, tested, Bool.bne_false]
    | true =>
        rw [if_pos rfl, truth_negate (compiled _ fun _ => False), tested, Truth.not_ofBool,
          Bool.bne_true]

theorem tested_of_fieldTest {p : Predicate} {run : Compilation RowFilter}
    (compiled : p.Compiled admitted) (test : FieldTest scope p run)
    (lowered : run = ⟨.ok f, events⟩) : Tested scope admitted p f events := by
  cases test with
  | compare scalar =>
      cases compiled with
      | compare known _ sound _ => exact tested_of_field known sound scalar lowered
  | member isSet =>
      cases compiled with
      | member _ sound => exact tested_of_member sound isSet lowered
  | isNull =>
      obtain ⟨inner, _, _, innerRun, ended, rfl⟩ := Traced.bind_eq_ok_iff.mp lowered
      obtain ⟨rfl, rfl⟩ := Traced.pure_eq_ok_iff.mp ended
      rw [List.append_nil]
      exact tested_of_isNull innerRun
  | inexpressible => exact tested_of_inexpressible lowered

theorem tested_of_oriented {comparator : Comparator} {left right : Operand}
    (known : comparator.isKnown) (soundLeft : left.isSound) (soundRight : right.isSound)
    (lowered : ofCompare scope (Predicate.oriented comparator left right) = ⟨.ok f, events⟩) :
    Tested scope admitted (.compare comparator left right) f events := by
  have oriented : Tested scope admitted (Predicate.oriented comparator left right) f events :=
    tested_of_fieldTest (Predicate.compiled_oriented known soundLeft soundRight)
      (fieldTest_ofCompare _ _) lowered
  refine ⟨oriented.compiled, oriented.unchecked, fun quiet actor record => ?_⟩
  rw [oriented.truth quiet, Predicate.rowTruth_oriented, Predicate.rowTruth_compare]

/-! ## Events -/

section Events

variable {allowed : Event → Prop}

theorem notes_atPath (leaf : String → RowFilter) (path : List String) :
    (atPath leaf path).Notes allowed := by
  induction path with
  | nil => exact Traced.notes_fail _
  | cons name path ih =>
      cases path with
      | nil => exact Traced.notes_pure _
      | cons next path => exact .bind ih fun _ => Traced.notes_pure _

theorem notes_nullAt (path : List String) : (nullAt path).Notes allowed := by
  induction path with
  | nil => exact Traced.notes_fail _
  | cons name path ih =>
      cases path with
      | nil => exact Traced.notes_pure _
      | cons next path => exact .bind ih fun _ => Traced.notes_pure _

theorem notes_unmatched (key : Predicate) (matched : RowFilter) :
    (unmatched key matched).Notes allowed := by
  unfold unmatched
  split
  · exact .bind (notes_nullAt _) fun _ => Traced.notes_pure _
  · exact Traced.notes_pure _

variable (allows : scope.Allows allowed)

include allows

theorem notes_inexpressible (p : Predicate) : (inexpressible scope p).Notes allowed := by
  refine .bind (Traced.notes_lift _) fun text => ?_
  exact .bind (Traced.notes_note (allows.construct _ _ _)) fun _ => Traced.notes_pure _

theorem notes_fieldTest {p : Predicate} {run : Compilation RowFilter}
    (test : FieldTest scope p run) : run.Notes allowed := by
  cases test with
  | compare _ | member _ => exact notes_atPath _ _
  | isNull => exact .bind (notes_nullAt _) fun _ => Traced.notes_pure _
  | inexpressible => exact notes_inexpressible allows _

end Events

/-! ## Nodes -/

/-- A condition on nodes that connectives and tests of fields meet, whatever relations lead to the
fields. -/
structure Tests (holds : RowFilter → Prop) : Prop extends Connects holds where
  equals (field : String) (value : Operand) : holds (.equals field value)
  compare (field : String) (comparator : Comparator) (value : Operand) :
    holds (.compare field comparator value)
  member (field : String) (values : Operand) : holds (.member field values)
  isNull (field : String) : holds (.isNull field)
  like (field : String) (pattern : Operand) (ignoreCase : Bool) :
    holds (.like field pattern ignoreCase)
  related (relation : String) (condition : RowFilter) : holds (.related relation condition)

/-- Whether what stands in for the comparisons that events report meets a condition. -/
def Reported (scope : Scope) (holds : RowFilter → Prop) (events : List Event) : Prop :=
  ∀ text, Compilation.Reports events text →
    holds (.unresolved ⟨"comparison", text, .bool scope.config.failOpen, none⟩)

namespace Tests

variable {holds : RowFilter → Prop}

theorem everywhere_inexpressible {p : Predicate} (reported : Reported scope holds events)
    (lowered : inexpressible scope p = ⟨.ok f, events⟩) : f.Everywhere holds := by
  obtain ⟨text, rfl, _, reports⟩ := inexpressible_eq_ok lowered
  exact everywhere_of_leaf rfl (reported text reports)

theorem everywhere_atPath (tests : Tests holds) {leaf : String → RowFilter} {path : List String}
    (each : ∀ field, (leaf field).Everywhere holds)
    (lowered : atPath leaf path = ⟨.ok f, events⟩) : f.Everywhere holds := by
  obtain ⟨relations, field, rfl, rfl, _⟩ := atPath_eq_ok lowered
  clear lowered
  induction relations with
  | nil => exact each field
  | cons relation relations ih =>
      exact .node (tests.related relation _) (List.forall_mem_singleton.mpr ih)

theorem everywhere_notIf (tests : Tests holds) (negated : Bool) (everywhere : f.Everywhere holds) :
    (notIf negated f).Everywhere holds := by
  cases negated with
  | false => exact everywhere
  | true => exact .node (tests.not f) (List.forall_mem_singleton.mpr everywhere)

theorem everywhere_onField (tests : Tests holds) (comparator : Comparator) (value : Operand)
    (field : String) : (onField comparator value field).Everywhere holds := by
  cases comparator with
  | eq => exact everywhere_of_leaf rfl (tests.equals field value)
  | like ignoreCase negated =>
      exact tests.everywhere_notIf negated (everywhere_of_leaf rfl (tests.like _ _ _))
  | ne | lt | le | gt | ge | unknown _ => exact everywhere_of_leaf rfl (tests.compare _ _ _)

theorem everywhere_nullAt (tests : Tests holds) {path : List String}
    (lowered : nullAt path = ⟨.ok f, events⟩) : f.Everywhere holds := by
  induction path generalizing f events with
  | nil => exact (Traced.fail_eq_ok_iff.mp lowered).elim
  | cons name path ih =>
      cases path with
      | nil =>
          obtain ⟨rfl, rfl⟩ := Traced.pure_eq_ok_iff.mp lowered
          exact everywhere_of_leaf rfl (tests.isNull name)
      | cons next path =>
          obtain ⟨inner, _, _, innerRun, ended, rfl⟩ := Traced.bind_eq_ok_iff.mp lowered
          obtain ⟨rfl, rfl⟩ := Traced.pure_eq_ok_iff.mp ended
          have behind {condition : RowFilter} (everywhere : condition.Everywhere holds) :
              (RowFilter.related name condition).Everywhere holds :=
            .node (tests.related name condition) (List.forall_mem_singleton.mpr everywhere)
          apply tests.everywhere_anyOf
          rw [List.forall_mem_cons, List.forall_mem_singleton]
          have missing := tests.everywhere_negate (behind (everywhere_of_leaf rfl tests.pass))
          exact ⟨missing, behind (ih innerRun)⟩

theorem everywhere_fieldTest (tests : Tests holds) {p : Predicate} {run : Compilation RowFilter}
    (reported : Reported scope holds events) (test : FieldTest scope p run)
    (lowered : run = ⟨.ok f, events⟩) : f.Everywhere holds := by
  cases test with
  | compare _ => exact tests.everywhere_atPath (tests.everywhere_onField _ _) lowered
  | @member _ values negated _ =>
      refine tests.everywhere_atPath (fun field => ?_) lowered
      exact tests.everywhere_notIf negated (everywhere_of_leaf rfl (tests.member field values))
  | isNull =>
      obtain ⟨inner, _, _, innerRun, ended, rfl⟩ := Traced.bind_eq_ok_iff.mp lowered
      obtain ⟨rfl, rfl⟩ := Traced.pure_eq_ok_iff.mp ended
      have found := tests.everywhere_nullAt innerRun
      split
      · exact tests.everywhere_negate found
      · exact found
  | inexpressible => exact everywhere_inexpressible reported lowered

theorem everywhere_unmatched (tests : Tests holds) {key : Predicate} {matched left : RowFilter}
    (everywhere : matched.Everywhere holds)
    (lowered : unmatched key matched = ⟨.ok left, events⟩) : left.Everywhere holds := by
  have negated := tests.everywhere_negate everywhere
  cases unmatched_of_run lowered with
  | compared nullRun =>
      apply tests.everywhere_anyOf
      rw [List.forall_mem_cons, List.forall_mem_singleton]
      exact ⟨negated, tests.everywhere_nullAt nullRun⟩
  | negated _ => exact negated

end Tests

end RowFilter

end RowGuard
