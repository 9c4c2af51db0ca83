import RowGuard.Proofs.Predicate.Faults
import RowGuard.Proofs.Schema.KeyMembers
import RowGuard.Proofs.Strictness

/-! Lists of literals and lists with a provider among them. A list of literals
compiles to one membership, any other list to a comparison with each item. On a
column that is reached without a to-many relation the two agree, errors
included. Behind a to-many relation the membership asks one row for all items
and the comparisons ask all rows for each item: they agree on what is in the
list, but the negation stands inside the relation on one side and outside on the
other. There the records are quiet, for in the other order of the tests a
signaling number may come first. -/

set_option autoImplicit false

namespace RowGuard

/-! ## Values -/

namespace Comparator

variable {left right : Value}

theorem truth_eq_of_null (missing : left.isNull = true ∨ right.isNull = true) :
    Comparator.eq.truth left right = .ok .unknown := by
  have either : (left.isNull || right.isNull) = true := by simpa using missing
  rw [truth, either]
  rfl

theorem truth_eq_of_present (leftThere : left.isNull = false) (rightThere : right.isNull = false) :
    Comparator.eq.truth left right = decide (left.equal? right) := by
  have there : (left.isNull || right.isNull) = false := by simp [leftThere, rightThere]
  rw [truth, there]
  rfl

/-- Quiet values can be tested for equality. -/
theorem eq_truth_of_isQuiet (leftQuiet : left.isQuiet) (rightQuiet : right.isQuiet) :
    Comparator.eq.truth left right = .ok (Comparator.eq.compare left right) := by
  have known : Comparator.eq.isKnown := rfl
  rcases truth_cases known left right with ⟨t, ended⟩ | failed
  · rw [compare, ended]
  · exfalso
    obtain ⟨equal, decided⟩ :=
      Option.isSome_iff_exists.mp (Value.equal?_isSome left right leftQuiet rightQuiet)
    cases leftNull : left.isNull with
    | true => cases (truth_eq_of_null (.inl leftNull)).symm.trans failed
    | false =>
        cases rightNull : right.isNull with
        | true => cases (truth_eq_of_null (.inr rightNull)).symm.trans failed
        | false =>
            rw [truth_eq_of_present leftNull rightNull, decided] at failed
            cases failed

end Comparator

namespace Value

variable {value item : Value} {items : List Value}

theorem memberOf_tuple_of_present (there : value.isNull = false) (items : List Value) :
    value.memberOf (.tuple items) =
      match value.foundIn? items with
      | some true => .ok .yes
      | some false => .ok (if items.any isNull then .unknown else .no)
      | none => .error .invalidOperation := by
  change (if value.isNull then _ else _) = _
  rw [there]
  rfl

/-- A membership tests one item after the other, null included, up to the first that is found. -/
theorem memberOf_tuple_cons (value : Value) (defined : item.isDefined) (items : List Value) :
    value.memberOf (.tuple (item :: items)) = do
      match ← Comparator.eq.truth value item with
      | .yes => return .yes
      | t => return t.or (← value.memberOf (.tuple items)) := by
  cases valueNull : value.isNull with
  | true =>
      rw [Comparator.truth_eq_of_null (.inl valueNull), isNull_iff.mp valueNull]
      rfl
  | false =>
      rw [memberOf_tuple_of_present valueNull, memberOf_tuple_of_present valueNull, List.any_cons]
      cases itemNull : item.isNull with
      | true =>
          rw [Comparator.truth_eq_of_null (.inr itemNull), foundIn?, isNull_iff.mp itemNull,
            same?_null valueNull]
          cases value.foundIn? items with
          | none => rfl
          | some found => cases found <;> cases items.any isNull <;> rfl
      | false =>
          rw [Comparator.truth_eq_of_present valueNull itemNull, foundIn?,
            same?_of_isDefined value defined]
          cases value.equal? item with
          | none => rfl
          | some equal =>
              cases equal with
              | true => rfl
              | false =>
                  cases value.foundIn? items with
                  | none => rfl
                  | some found => cases found <;> cases items.any isNull <;> rfl

theorem memberOf_tuple_of_isQuiet (quiet : value.isQuiet)
    (defined : ∀ item ∈ items, item.isDefined) :
    value.memberOf (.tuple items) = .ok (value.membership (.tuple items)) := by
  have each := itemsAvoid_iff.mpr fun item member => isQuiet_of_isDefined (defined item member)
  exact (memberOf_cases value (.tuple items)).resolve_right (memberOf_ne_invalid quiet each)

/-- For a quiet value that is there, a membership is the disjunction of the equalities. -/
theorem membership_tuple (there : value.isNull = false) (quiet : value.isQuiet)
    (defined : ∀ item ∈ items, item.isDefined) :
    value.membership (.tuple items) = Truth.any (items.map (Comparator.eq.compare value)) := by
  induction items with
  | nil =>
      rw [membership, memberOf_tuple_of_present there]
      rfl
  | cons item items ih =>
      have whole := memberOf_tuple_of_isQuiet quiet defined
      rw [List.forall_mem_cons] at defined
      rw [memberOf_tuple_cons value defined.1, memberOf_tuple_of_isQuiet quiet defined.2,
        Comparator.eq_truth_of_isQuiet quiet (isQuiet_of_isDefined defined.1), ih defined.2] at whole
      rw [List.map_cons, Truth.any_cons]
      generalize Comparator.eq.compare value item = t at whole ⊢
      cases t with
      | yes =>
          have found : Except.ok Truth.yes = Except.ok _ := whole
          rw [← Except.ok.inj found, Truth.yes_or]
      | no | unknown | other _ =>
          have joined : Except.ok _ = Except.ok _ := whole
          exact (Except.ok.inj joined).symm

/-- A quiet value is found among items if and only if it is equal to one of them. -/
theorem membership_tuple_eq_yes_iff (quiet : value.isQuiet)
    (defined : ∀ item ∈ items, item.isDefined) :
    value.membership (.tuple items) = .yes ↔
      ∃ item ∈ items, Comparator.eq.compare value item = .yes := by
  cases valueNull : value.isNull with
  | true =>
      rw [isNull_iff.mp valueNull, membership_null]
      have unknown (item : Value) : Comparator.eq.compare null item = .unknown :=
        Comparator.compare_of_null (.inl rfl)
      simp [unknown]
  | false => rw [membership_tuple valueNull quiet defined, Truth.any_eq_yes_iff, List.mem_map]

end Value

namespace Predicate

/-! ## Tests of a column -/

/-- The equality of a column with an operand. -/
def Side.equals (side : Side) (operand : Operand) : Predicate :=
  side.through (.compare .eq side.operand operand)

/-- The membership of a column in a set. -/
def Side.among (side : Side) (values : List Value) (negated : Bool) : Predicate :=
  side.through (.member side.operand (.values values) negated)

/-- An item of a list: how it is written, what it compiles to and its value. -/
structure Item where
  written : Expr
  operand : Operand
  value : Value

/-- Whether an item has its value whatever the record, and that holds no undefined number. -/
structure Item.Fixed (mode : UnloadedMode) (actor : Value) (item : Item) : Prop where
  result_eval : ∀ record, (item.operand.eval mode actor record).result = .ok item.value
  defined : item.value.isDefined

section Evaluation

variable {mode : UnloadedMode} {actor record : Value} {column : Operand} {values : List Value}
  {item : Item} {items : List Item} {side : Side} {rows : List Value} {t : Truth}

theorem result_compare_eq (fixed : item.Fixed mode actor) (column : Operand) (record : Value) :
    ((Predicate.compare .eq column item.operand).eval mode actor record).result =
      (column.eval mode actor record).result >>= (Comparator.eq.truth · item.value) := by
  rw [eval, Traced.result_bind]
  refine bind_congr fun found => ?_
  rw [Traced.result_bind_of_ok (fixed.result_eval record)]
  rfl

theorem result_member (column : Operand) (values : List Value) (negated : Bool)
    (record : Value) :
    ((Predicate.member column (.values values) negated).eval mode actor record).result = do
      let found ← (column.eval mode actor record).result
      return (← found.memberOf (.tuple values)).negatedIf negated := by
  rw [eval, Traced.result_bind]
  refine bind_congr fun found => ?_
  rw [Traced.result_bind_of_ok rfl, Traced.result_bind]
  rfl

theorem result_evalAny_compare_of_null (fixed : ∀ item ∈ items, item.Fixed mode actor)
    (filled : items ≠ []) (read : (column.eval mode actor record).result = .ok .null) :
    (evalAny mode actor (items.map fun item => .compare .eq column item.operand) record).result =
      .ok .unknown := by
  induction items with
  | nil => exact absurd rfl filled
  | cons item items ih =>
      rw [List.forall_mem_cons] at fixed
      have tested : ((Predicate.compare .eq column item.operand).eval mode actor record).result =
          .ok .unknown := by
        rw [result_compare_eq fixed.1, read]
        have missing : Value.null.isNull = Bool.true ∨ item.value.isNull = Bool.true := .inl rfl
        exact Comparator.truth_eq_of_null missing
      rw [List.map_cons, evalAny, Traced.result_bind_of_ok tested]
      cases items with
      | nil => rfl
      | cons _ _ => exact Traced.result_bind_pure_of_ok (ih fixed.2 nofun) _

theorem result_evalAny_compare (fixed : ∀ item ∈ items, item.Fixed mode actor) {found : Value}
    (read : (column.eval mode actor record).result = .ok found) (there : found.isNull = Bool.false) :
    (evalAny mode actor (items.map fun item => .compare .eq column item.operand) record).result =
      found.memberOf (.tuple (items.map (·.value))) := by
  induction items with
  | nil =>
      rw [List.map_nil, Value.memberOf_tuple_of_present there]
      rfl
  | cons item items ih =>
      rw [List.forall_mem_cons] at fixed
      rw [List.map_cons, List.map_cons, evalAny, Traced.result_bind, result_compare_eq fixed.1, read,
        Value.memberOf_tuple_cons found fixed.1.defined, ← ih fixed.2]
      refine bind_congr fun t => ?_
      cases t with
      | yes => rfl
      | no | unknown | other _ => exact Traced.result_bind _ _

/-- The comparisons of a column end as the membership does, errors included. -/
theorem result_evalAny_eq_member (fixed : ∀ item ∈ items, item.Fixed mode actor)
    (filled : items ≠ []) :
    (evalAny mode actor (items.map fun item => .compare .eq column item.operand) record).result =
      ((Predicate.member column (.values (items.map (·.value))) Bool.false).eval mode actor
        record).result := by
  rw [result_member]
  cases read : (column.eval mode actor record).result with
  | ok found =>
      cases valueNull : found.isNull with
      | true =>
          rw [Value.isNull_iff.mp valueNull] at read ⊢
          exact result_evalAny_compare_of_null fixed filled read
      | false =>
          rw [result_evalAny_compare fixed read valueNull]
          exact (bind_pure _).symm
  | error error =>
      obtain ⟨first, others, rfl⟩ := List.exists_cons_of_ne_nil filled
      rw [List.map_cons, evalAny, Traced.result_bind, result_compare_eq (fixed first (.head _)),
        read]
      rfl

/-! ## Tests of rows -/

theorem isQuiet_of_eval (own : column.isRecord) (quiet : record.isQuiet) {found : Value}
    (read : (column.eval mode actor record).result = .ok found) : found.isQuiet := by
  cases column with
  | record path =>
      rw [Operand.eq_read_of_eval rfl read]
      exact Value.avoids_read quiet path
  | actor _ _ | value _ | values _ | foreign _ => cases own

theorem result_compare_eq_of_isQuiet (fixed : item.Fixed mode actor) (own : column.isRecord)
    (quiet : record.isQuiet) :
    ((Predicate.compare .eq column item.operand).eval mode actor record).result =
      (column.eval mode actor record).result.map (Comparator.eq.compare · item.value) := by
  rw [result_compare_eq fixed]
  cases read : (column.eval mode actor record).result with
  | error error => rfl
  | ok found =>
      exact Comparator.eq_truth_of_isQuiet (isQuiet_of_eval own quiet read)
        (Value.isQuiet_of_isDefined fixed.defined)

theorem result_member_of_isQuiet (own : column.isRecord) (quiet : record.isQuiet)
    (defined : ∀ value ∈ values, value.isDefined) (negated : Bool) :
    ((Predicate.member column (.values values) negated).eval mode actor record).result =
      (column.eval mode actor record).result.map fun found =>
        (found.membership (.tuple values)).negatedIf negated := by
  rw [result_member]
  cases read : (column.eval mode actor record).result with
  | error error => rfl
  | ok found =>
      have total := Value.memberOf_tuple_of_isQuiet (isQuiet_of_eval own quiet read) defined
      change (found.memberOf (.tuple values) >>= _) = _
      rw [total]
      rfl

theorem settled_someRow {test : Value → Evaluation Truth}
    (ended : (someRow test rows).result = .ok t) : t = .yes ∨ t = .no := by
  induction rows with
  | nil =>
      cases ended
      exact .inr rfl
  | cons row rows ih =>
      obtain ⟨passed, _, rest⟩ := Traced.result_bind_eq_ok_iff.mp ended
      split at rest
      · cases rest
        exact .inl rfl
      · exact ih rest

section Rows

variable {ι : Type} {cell : Value → Except EvalError Value} {test other : Value → Evaluation Truth}
  {passes allows : Value → Truth}

theorem someRow_cons_eq {row : Value} (tests : (test row).result = (cell row).map passes)
    {found : Value} (read : cell row = .ok found) :
    (someRow test (row :: rows)).result =
      if (passes found).holds then .ok .yes else (someRow test rows).result := by
  have tested : (test row).result = .ok (passes found) := by
    rw [tests, read]
    rfl
  rw [someRow, Traced.result_bind_of_ok tested]
  split
  · rfl
  · rfl

theorem exists_cell {row : Value} (tests : (test row).result = (cell row).map passes)
    (ended : (someRow test (row :: rows)).result = .ok t) : ∃ found, cell row = .ok found := by
  obtain ⟨passed, tested, _⟩ := Traced.result_bind_eq_ok_iff.mp ended
  rw [tests] at tested
  cases read : cell row with
  | error error =>
      rw [read] at tested
      cases tested
  | ok found => exact ⟨found, rfl⟩

theorem someRow_of_yes (tests : ∀ row ∈ rows, (test row).result = (cell row).map passes)
    (others : ∀ row ∈ rows, (other row).result = (cell row).map allows)
    (wider : ∀ row ∈ rows, ∀ found, cell row = .ok found → (passes found).holds →
      (allows found).holds)
    (ended : (someRow test rows).result = .ok .yes) :
    (someRow other rows).result = .ok .yes := by
  induction rows with
  | nil => cases ended
  | cons row rows ih =>
      rw [List.forall_mem_cons] at tests others wider
      obtain ⟨found, read⟩ := exists_cell tests.1 ended
      rw [someRow_cons_eq tests.1 read] at ended
      rw [someRow_cons_eq others.1 read]
      split
      · rfl
      · next refused =>
          rw [if_neg (fun passed => refused (wider.1 found read passed))] at ended
          exact ih tests.2 others.2 wider.2 ended

/-- If none of some tests finds a row, no test that needs one of them to pass does. -/
theorem someRow_of_no {tests : ι → Value → Evaluation Truth} {passing : ι → Value → Truth}
    (each : ∀ row ∈ rows, ∀ i, (tests i row).result = (cell row).map (passing i))
    (others : ∀ row ∈ rows, (other row).result = (cell row).map allows) (some : Nonempty ι)
    (narrower : ∀ row ∈ rows, ∀ found, cell row = .ok found → (allows found).holds →
      ∃ i, (passing i found).holds)
    (ended : ∀ i, (someRow (tests i) rows).result = .ok .no) :
    (someRow other rows).result = .ok .no := by
  induction rows with
  | nil => rfl
  | cons row rows ih =>
      rw [List.forall_mem_cons] at each others narrower
      obtain ⟨first⟩ := some
      obtain ⟨found, read⟩ := exists_cell (each.1 first) (ended first)
      have refused (i : ι) : ¬ (passing i found).holds ∧
          (someRow (tests i) rows).result = .ok .no := by
        have last := ended i
        rw [someRow_cons_eq (each.1 i) read] at last
        split at last
        · cases last
        · exact ⟨‹_›, last⟩
      rw [someRow_cons_eq others.1 read, if_neg]
      · exact ih each.2 others.2 narrower.2 fun i => (refused i).2
      · intro allowed
        obtain ⟨i, passed⟩ := narrower.1 found read allowed
        exact (refused i).1 passed

end Rows

/-! ## Disjunctions of tests -/

def Side.equalities (side : Side) (items : List Item) : List Predicate :=
  items.map fun item => side.equals item.operand

theorem alternatives_equalities (side : Side) (items : List Item) :
    alternatives (side.equalities items) = some (side.equalities items) := by
  induction items with
  | nil => rfl
  | cons item items ih =>
      have plain : alternatives (side.equals item.operand :: side.equalities items) =
          (alternatives (side.equalities items)).map (side.equals item.operand :: ·) := by
        unfold Side.equals Side.through
        cases side.relation with
        | none => rfl
        | some relation => rfl
      change alternatives (side.equals item.operand :: side.equalities items) = _
      rw [plain, ih]
      rfl

theorem isProper_equals {operand : Operand}
    (ended : ((side.equals operand).eval mode actor record).result = .ok t) : t.isProper := by
  unfold Side.equals Side.through at ended
  split at ended
  · rw [eval] at ended
    obtain ⟨left, _, rest⟩ := Traced.result_bind_eq_ok_iff.mp ended
    obtain ⟨right, _, last⟩ := Traced.result_bind_eq_ok_iff.mp rest
    have proper := Comparator.isProper_compare .eq left right
    rwa [Comparator.compare, show Comparator.eq.truth left right = .ok t from last] at proper
  · rw [eval] at ended
    obtain ⟨related, _, rest⟩ := Traced.result_bind_eq_ok_iff.mp ended
    rcases settled_someRow rest with rfl | rfl
    · rfl
    · rfl

theorem result_anyOf_equalities (filled : items ≠ []) :
    ((anyOf (side.equalities items)).eval mode actor record).result =
      (evalAny mode actor (side.equalities items) record).result := by
  rw [anyOf, alternatives_equalities]
  obtain ⟨first, others, rfl⟩ := List.exists_cons_of_ne_nil filled
  cases others with
  | cons second others => rfl
  | nil =>
      change ((side.equals first.operand).eval mode actor record).result =
        (evalAny mode actor [side.equals first.operand] record).result
      rw [evalAny, Traced.result_bind]
      cases ended : ((side.equals first.operand).eval mode actor record).result with
      | error error => rfl
      | ok t =>
          have proper := isProper_equals ended
          cases t with
          | yes | no | unknown => rfl
          | other _ => cases proper

theorem settled_evalAny {ps : List Predicate}
    (settled : ∀ p ∈ ps, ∀ s, (p.eval mode actor record).result = .ok s → s = .yes ∨ s = .no)
    (ended : (evalAny mode actor ps record).result = .ok t) :
    (t = .yes ∧ ∃ p ∈ ps, (p.eval mode actor record).result = .ok .yes) ∨
      (t = .no ∧ ∀ p ∈ ps, (p.eval mode actor record).result = .ok .no) := by
  induction ps generalizing t with
  | nil =>
      cases ended
      exact .inr ⟨rfl, nofun⟩
  | cons p ps ih =>
      rw [List.forall_mem_cons] at settled
      obtain ⟨s, first, rest⟩ := Traced.result_bind_eq_ok_iff.mp ended
      rcases settled.1 s first with rfl | rfl
      · cases rest
        exact .inl ⟨rfl, p, .head _, first⟩
      · obtain ⟨last, others, joined⟩ := Traced.result_bind_eq_ok_iff.mp rest
        cases joined
        rcases ih settled.2 others with ⟨rfl, q, member, found⟩ | ⟨rfl, none⟩
        · exact .inl ⟨rfl, q, .tail _ member, found⟩
        · exact .inr ⟨rfl, List.forall_mem_cons.mpr ⟨first, none⟩⟩

/-! ## Agreement -/

theorem result_anyOf_near (near : side.relation = none)
    (fixed : ∀ item ∈ items, item.Fixed mode actor) (filled : items ≠ []) :
    ((anyOf (side.equalities items)).eval mode actor record).result =
      ((side.among (items.map (·.value)) Bool.false).eval mode actor record).result := by
  have plain : side.equalities items =
      items.map fun item => .compare .eq side.operand item.operand := by
    refine List.map_congr_left fun item _ => ?_
    simp [Side.equals, Side.through, near]
  rw [result_anyOf_equalities filled, plain, result_evalAny_eq_member fixed filled, Side.among,
    Side.through, near]

theorem result_equals_far {relation : String} (far : side.relation = some relation)
    {operand : Operand} (ended : ((side.equals operand).eval mode actor record).result = .ok t) :
    ∃ related, (record.follow mode [relation]).result = .ok related ∧
      (someRow (fun row => (Predicate.compare .eq side.operand operand).eval mode actor row)
        (related.items?.getD [])).result = .ok t := by
  rw [Side.equals, Side.through, far] at ended
  exact Traced.result_bind_eq_ok_iff.mp ended

/-- Behind a to-many relation of a quiet record the membership answers as the equalities do, if they
answer. -/
theorem result_among_far {relation : String} (far : side.relation = some relation)
    (own : side.operand.isRecord) (quiet : record.isQuiet)
    (fixed : ∀ item ∈ items, item.Fixed mode actor) (filled : items ≠ [])
    (ended : ((anyOf (side.equalities items)).eval mode actor record).result = .ok t) :
    ((side.among (items.map (·.value)) Bool.false).eval mode actor record).result = .ok t := by
  have settled : ∀ p ∈ side.equalities items, ∀ s,
      (p.eval mode actor record).result = .ok s → s = .yes ∨ s = .no := by
    intro p member s answered
    obtain ⟨item, _, rfl⟩ := List.mem_map.mp member
    obtain ⟨related, _, found⟩ := result_equals_far far answered
    exact settled_someRow found
  have defined : ∀ value ∈ items.map (·.value), value.isDefined :=
    List.forall_mem_map.mpr fun item among => (fixed item among).defined
  have rowsQuiet {related : Value} (read : (record.follow mode [relation]).result = .ok related) :
      ∀ row ∈ related.items?.getD [], row.isQuiet := by
    have ended : ((Operand.record [relation]).eval mode actor record).result = .ok related := read
    rw [Operand.eq_read_of_eval rfl ended]
    exact Value.avoids_rows quiet relation
  have tested {row : Value} (quiet : row.isQuiet) (item : Item) (among : item ∈ items) :=
    result_compare_eq_of_isQuiet (fixed item among) own quiet
  have listed {row : Value} (quiet : row.isQuiet) :
      ((Predicate.member side.operand (.values (items.map (·.value))) Bool.false).eval mode actor
        row).result = _ :=
    result_member_of_isQuiet own quiet defined Bool.false
  have contains {row cell : Value} (quiet : row.isQuiet)
      (read : (side.operand.eval mode actor row).result = .ok cell) :=
    Value.membership_tuple_eq_yes_iff (isQuiet_of_eval own quiet read) defined
  rw [result_anyOf_equalities filled] at ended
  rw [Side.among, Side.through, far]
  rcases settled_evalAny settled ended with ⟨rfl, p, member, answered⟩ | ⟨rfl, none⟩
  · obtain ⟨item, among, rfl⟩ := List.mem_map.mp member
    obtain ⟨related, read, found⟩ := result_equals_far far answered
    have quiet := rowsQuiet read
    refine Traced.result_bind_eq_ok_iff.mpr ⟨related, read, ?_⟩
    refine someRow_of_yes (fun row inside => tested (quiet row inside) item among)
      (fun row inside => listed (quiet row inside)) ?_ found
    intro row inside cell cellRead passed
    rw [Truth.holds_iff] at passed
    exact Truth.holds_iff.mpr ((contains (quiet row inside) cellRead).mpr
      ⟨item.value, List.mem_map_of_mem among, passed⟩)
  · obtain ⟨first, among⟩ := List.exists_mem_of_ne_nil items filled
    obtain ⟨related, read, _⟩ := result_equals_far far (none _ (List.mem_map_of_mem among))
    have quiet := rowsQuiet read
    refine Traced.result_bind_eq_ok_iff.mpr ⟨related, read, ?_⟩
    refine someRow_of_no
      (fun row inside (item : { item // item ∈ items }) => tested (quiet row inside) item.1 item.2)
      (fun row inside => listed (quiet row inside)) ⟨first, among⟩ ?_ ?_
    · intro row inside cell cellRead allowed
      obtain ⟨value, member, same⟩ :=
        (contains (quiet row inside) cellRead).mp (Truth.holds_iff.mp allowed)
      obtain ⟨item, among, rfl⟩ := List.mem_map.mp member
      exact ⟨⟨item, among⟩, Truth.holds_iff.mpr same⟩
    · intro item
      obtain ⟨again, readAgain, refused⟩ :=
        result_equals_far far (none _ (List.mem_map_of_mem item.2))
      cases read.symm.trans readAgain
      exact refused

/-! ## Negation -/

/-- Where the column of a row stands to a set. -/
def Side.standing (side : Side) (actor : Value) (values : List Value) (row : Value) : Truth :=
  (side.operand.read actor row).membership (.tuple values)

theorem result_not {p : Predicate} :
    ((Predicate.not p).eval mode actor record).result =
      (p.eval mode actor record).result.map Truth.not := by
  rw [eval, Traced.result_bind]
  cases (p.eval mode actor record).result with
  | error error => rfl
  | ok truth => rfl

theorem result_among_near (near : side.relation = none) :
    ((side.among values Bool.true).eval mode actor record).result =
      ((side.among values Bool.false).eval mode actor record).result.map Truth.not := by
  rw [Side.among, Side.among, Side.through, Side.through, near]
  dsimp only
  rw [result_member, result_member]
  cases (side.operand.eval mode actor record).result with
  | error error => rfl
  | ok found =>
      change (found.memberOf (.tuple values) >>= _) = (found.memberOf (.tuple values) >>= _).map _
      cases found.memberOf (.tuple values) with
      | error error => rfl
      | ok truth => rfl

theorem result_column (own : side.operand.isRecord) (loaded : mode ≠ .fail) (row : Value) :
    (side.operand.eval mode actor row).result = .ok (side.operand.read actor row) := by
  refine Operand.result_eval loaded ?_ actor row
  cases same : side.operand with
  | record path => rfl
  | actor _ _ | value _ | values _ | foreign _ =>
      rw [same] at own
      cases own

/-- What the rows behind a relation of a quiet record come to, if each of them has a truth. -/
theorem result_anyRelated {relation : String} {condition : Predicate} {joinFields : List String}
    {truth : Value → Truth} (quiet : record.isQuiet) (loaded : mode ≠ .fail)
    (tested : ∀ row, row.isQuiet → (condition.eval mode actor row).result = .ok (truth row)) :
    ((anyRelated relation condition joinFields).eval mode actor record).result =
      .ok (.ofBool
        (((record.read [relation]).items?.getD []).any fun row => (truth row).holds)) := by
  have rows : ∀ row ∈ (record.read [relation]).items?.getD [],
      (condition.eval mode actor row).Yields True (truth row) := fun row inside =>
    Evaluation.yields_of_ok (tested row (Value.avoids_rows quiet relation row inside))
  rw [eval, Traced.result_bind_of_ok (Value.result_follow loaded record [relation])]
  exact (yields_someRow rows).result_eq trivial

theorem result_among_rows {relation : String} (far : side.relation = some relation)
    (own : side.operand.isRecord) (quiet : record.isQuiet) (loaded : mode ≠ .fail)
    (defined : ∀ value ∈ values, value.isDefined) (negated : Bool) :
    ((side.among values negated).eval mode actor record).result =
      .ok (.ofBool (((record.read [relation]).items?.getD []).any fun row =>
        ((side.standing actor values row).negatedIf negated).holds)) := by
  rw [Side.among, Side.through, far]
  refine result_anyRelated quiet loaded fun row quiet => ?_
  rw [result_member_of_isQuiet own quiet defined, result_column own loaded]
  rfl

theorem ends_equals {relation : String} (far : side.relation = some relation)
    (own : side.operand.isRecord) (quiet : record.isQuiet) (loaded : mode ≠ .fail)
    (fixed : item.Fixed mode actor) :
    ((side.equals item.operand).eval mode actor record).Ends := by
  have tested (row : Value) (quiet : row.isQuiet) :
      ((Predicate.compare .eq side.operand item.operand).eval mode actor row).result =
        .ok (Comparator.eq.compare (side.operand.read actor row) item.value) := by
    rw [result_compare_eq_of_isQuiet fixed own quiet, result_column own loaded]
    rfl
  rw [Side.equals, Side.through, far]
  exact ⟨_, result_anyRelated quiet loaded tested⟩

theorem ends_evalAny {ps : List Predicate} (each : ∀ p ∈ ps, (p.eval mode actor record).Ends) :
    (evalAny mode actor ps record).Ends := by
  induction ps with
  | nil => exact Traced.ends_pure _
  | cons p ps ih =>
      rw [List.forall_mem_cons] at each
      refine each.1.bind fun truth _ => ?_
      cases truth with
      | yes => exact Traced.ends_pure _
      | no | unknown | other _ => exact (ih each.2).map _

/-- Behind a to-many relation of a quiet record the equalities end as the membership does, unless
reading stops at a relationship that is not loaded. -/
theorem result_anyOf_far {relation : String} (far : side.relation = some relation)
    (own : side.operand.isRecord) (quiet : record.isQuiet) (loaded : mode ≠ .fail)
    (fixed : ∀ item ∈ items, item.Fixed mode actor) (filled : items ≠ []) :
    ((anyOf (side.equalities items)).eval mode actor record).result =
      ((side.among (items.map (·.value)) Bool.false).eval mode actor record).result := by
  have each : ∀ p ∈ side.equalities items, (p.eval mode actor record).Ends := by
    intro p member
    obtain ⟨item, among, rfl⟩ := List.mem_map.mp member
    exact ends_equals far own quiet loaded (fixed item among)
  obtain ⟨t, ended⟩ := ends_evalAny each
  rw [← result_anyOf_equalities filled] at ended
  rw [ended, result_among_far far own quiet fixed filled ended]

/-- The equalities with the items of a list, negated if asked for. -/
def Side.given (side : Side) (items : List Item) (negated : Bool) : Predicate :=
  if negated then .not (anyOf (side.equalities items)) else anyOf (side.equalities items)

theorem result_given_near (near : side.relation = none)
    (fixed : ∀ item ∈ items, item.Fixed mode actor) (filled : items ≠ []) (negated : Bool) :
    ((side.among (items.map (·.value)) negated).eval mode actor record).result =
      ((side.given items negated).eval mode actor record).result := by
  cases negated with
  | false => exact (result_anyOf_near near fixed filled).symm
  | true =>
      change _ = ((Predicate.not (anyOf (side.equalities items))).eval mode actor record).result
      rw [result_not, result_anyOf_near near fixed filled, result_among_near near]

theorem result_given_negated {relation : String} (far : side.relation = some relation)
    (own : side.operand.isRecord) (quiet : record.isQuiet) (loaded : mode ≠ .fail)
    (fixed : ∀ item ∈ items, item.Fixed mode actor) (filled : items ≠ []) :
    ((side.given items Bool.true).eval mode actor record).result =
      .ok (.ofBool (!((record.read [relation]).items?.getD []).any fun row =>
        (side.standing actor (items.map (·.value)) row).holds)) := by
  have defined : ∀ value ∈ items.map (·.value), value.isDefined :=
    List.forall_mem_map.mpr fun item among => (fixed item among).defined
  change ((Predicate.not (anyOf (side.equalities items))).eval mode actor record).result = _
  rw [result_not, result_anyOf_far far own quiet loaded fixed filled,
    result_among_rows far own quiet loaded defined Bool.false, ← Truth.not_ofBool]
  rfl

/-- Behind a to-many relation of a quiet record the two negations agree if a row outside the list and
no row inside it come to the same. -/
theorem result_given_far_iff {relation : String} (far : side.relation = some relation)
    (own : side.operand.isRecord) (quiet : record.isQuiet) (loaded : mode ≠ .fail)
    (fixed : ∀ item ∈ items, item.Fixed mode actor) (filled : items ≠ []) :
    ((side.among (items.map (·.value)) Bool.true).eval mode actor record).result =
        ((side.given items Bool.true).eval mode actor record).result ↔
      ((∃ row ∈ (record.read [relation]).items?.getD [],
          side.standing actor (items.map (·.value)) row = .no) ↔
        ∀ row ∈ (record.read [relation]).items?.getD [],
          side.standing actor (items.map (·.value)) row ≠ .yes) := by
  have defined : ∀ value ∈ items.map (·.value), value.isDefined :=
    List.forall_mem_map.mpr fun item among => (fixed item among).defined
  rw [result_given_negated far own quiet loaded fixed filled,
    result_among_rows far own quiet loaded defined Bool.true]
  generalize (record.read [relation]).items?.getD [] = rows
  have outside : (rows.any fun row =>
      ((side.standing actor (items.map (·.value)) row).negatedIf Bool.true).holds) = Bool.true ↔
        ∃ row ∈ rows, side.standing actor (items.map (·.value)) row = .no := by
    simp only [List.any_eq_true, Truth.holds_iff, Truth.negatedIf, if_true]
    simp only [Truth.not_eq_yes_iff (Value.isProper_membership _ _), Side.standing]
  have inside : (!rows.any fun row =>
      (side.standing actor (items.map (·.value)) row).holds) = Bool.true ↔
        ∀ row ∈ rows, side.standing actor (items.map (·.value)) row ≠ .yes := by
    simp [Truth.holds_eq_false_iff]
  rw [← outside, ← inside, ← Bool.eq_iff_iff, Except.ok.injEq]
  constructor
  · intro same
    simpa using congrArg Truth.holds same
  · intro same
    rw [same]

end Evaluation

/-! ## Compilation -/

section Compiling

variable {scope : Scope} {column : Expr} {side : Side} {items : List Item} {negated : Bool}

structure Item.Compiles (scope : Scope) (item : Item) : Prop where
  compiles : (side? scope Bool.false item.written).result = .ok (some { operand := item.operand })
  unread : item.operand.isRecord = Bool.false

theorem markRole_of_readsRecord {p : Predicate} (reads : p.readsRecord = Bool.true) :
    markRole p = p := by
  rw [markRole, isRoleOnly, reads]
  simp

theorem readsRecord_of_isRecord {operand : Operand} (own : operand.isRecord) :
    operand.readsRecord = Bool.true := by
  cases operand with
  | record path => rfl
  | actor _ _ | value _ | values _ | foreign _ => cases own

theorem readsRecord_through {p : Predicate} (reads : p.readsRecord = Bool.true) :
    (side.through p).readsRecord = Bool.true := by
  rw [Side.through]
  split
  · exact reads
  · rfl

theorem readsRecord_among (own : side.operand.isRecord) (values : List Value) :
    (side.among values negated).readsRecord = Bool.true := by
  apply readsRecord_through
  rw [readsRecord, readsRecord_of_isRecord own, Bool.true_or]

theorem readsRecord_equals (own : side.operand.isRecord) (operand : Operand) :
    (side.equals operand).readsRecord = Bool.true := by
  apply readsRecord_through
  rw [readsRecord, readsRecord_of_isRecord own, Bool.true_or]

theorem negate_equals (operand : Operand) :
    (side.equals operand).negate = .not (side.equals operand) := by
  unfold Side.equals Side.through
  cases side.relation with
  | none => rfl
  | some relation => rfl

theorem anyOf_equalities (own : side.operand.isRecord) (filled : items ≠ []) :
    (anyOf (side.equalities items)).readsRecord = Bool.true ∧
      (anyOf (side.equalities items)).negate = .not (anyOf (side.equalities items)) := by
  rw [anyOf, alternatives_equalities]
  obtain ⟨first, others, rfl⟩ := List.exists_cons_of_ne_nil filled
  cases others with
  | nil => exact ⟨readsRecord_equals own first.operand, negate_equals first.operand⟩
  | cons second others =>
      refine ⟨?_, rfl⟩
      change anyReadsRecord (side.equals first.operand :: _) = _
      rw [anyReadsRecord, readsRecord_equals own, Bool.true_or]

theorem literalValues?_literals (literals : List Literal) :
    literalValues? (literals.map .literal) = some (literals.map (·.value)) := by
  induction literals with
  | nil => rfl
  | cons item literals ih =>
      rw [literalValues?] at ih
      rw [literalValues?, List.map_cons, List.mapM_cons, ih]
      rfl

theorem literalValues?_eq_none {es : List Expr} {e : Expr} (member : e ∈ es)
    (other : ∀ item, e ≠ .literal item) : literalValues? es = none := by
  induction es with
  | nil => cases member
  | cons first es ih =>
      rw [literalValues?, List.mapM_cons]
      rcases List.mem_cons.mp member with rfl | later
      · cases e with
        | literal item => exact absurd rfl (other item)
        | any _ | all _ | not _ | condition _ _ _ | choice _ _ _ | existence _ _ | subquery _ _
        | call _ _ | column _ _ | setting _ | array _ | foreign _ => rfl
      · have none := ih later
        rw [literalValues?] at none
        rw [none]
        cases first <;> rfl

theorem compile_literals (found : (side? scope Bool.false column).result = .ok (some side))
    (own : side.operand.isRecord) (literals : List Literal) :
    (compile scope (.condition (.member negated) column (.array (literals.map .literal)))).result =
      .ok (side.among (literals.map (·.value)) negated) := by
  have listed : (side? scope Bool.false (.array (literals.map .literal))).result =
      .ok (some { operand := .values (literals.map (·.value)) }) := by
    rw [side?, literalValues?_literals]
    rfl
  have joined : memberOfSides? negated side { operand := .values (literals.map (·.value)) } =
      some (side.among (literals.map (·.value)) negated) := by
    simp [memberOfSides?, Operand.isRecord, Side.among]
  have membership : (ofMembership scope negated column (.array (literals.map .literal))).result =
      .ok (side.among (literals.map (·.value)) negated) := by
    rw [ofMembership, Traced.result_bind_of_ok found, Traced.result_bind_of_ok listed]
    dsimp only
    rw [joined]
    rfl
  have condition : (ofCondition scope (.member negated) column
      (.array (literals.map .literal))).result =
        .ok (side.among (literals.map (·.value)) negated) := by
    rw [ofCondition, literalValues?_literals]
    exact membership
  rw [compile, Traced.result_bind_of_ok condition, markRole_of_readsRecord (readsRecord_among own _)]
  rfl

theorem result_ofComparison (found : (side? scope Bool.false column).result = .ok (some side))
    (own : side.operand.isRecord) {item : Item} (compiles : item.Compiles scope) :
    (ofComparison scope .eq column item.written).result = .ok (side.equals item.operand) := by
  have joined : ofSides? .eq side { operand := item.operand } = some (side.equals item.operand) := by
    unfold ofSides? Side.equals
    rw [oriented_of_isRecord own]
    cases related : side.relation with
    | none => simp [Side.through, related]
    | some relation => simp [compiles.unread]
  rw [ofComparison, Traced.result_bind_of_ok found, Traced.result_bind_of_ok compiles.compiles]
  dsimp only
  rw [joined]
  rfl

theorem result_ofEqualities (found : (side? scope Bool.false column).result = .ok (some side))
    (own : side.operand.isRecord) (each : ∀ item ∈ items, item.Compiles scope) :
    (ofEqualities scope column (items.map (·.written))).result = .ok (side.equalities items) := by
  induction items with
  | nil => rfl
  | cons item items ih =>
      rw [List.forall_mem_cons] at each
      rw [List.map_cons, ofEqualities,
        Traced.result_bind_of_ok (result_ofComparison found own each.1),
        Traced.result_bind_of_ok (ih each.2),
        markRole_of_readsRecord (readsRecord_equals own item.operand)]
      rfl

theorem compile_items (found : (side? scope Bool.false column).result = .ok (some side))
    (own : side.operand.isRecord) (each : ∀ item ∈ items, item.Compiles scope)
    {item : Item} (member : item ∈ items) (other : ∀ literal, item.written ≠ .literal literal) :
    (compile scope (.condition (.member negated) column
      (.array (items.map (·.written))))).result =
        .ok (side.given items negated) := by
  obtain ⟨reads, negates⟩ := anyOf_equalities own (List.ne_nil_of_mem member)
  have unlisted := literalValues?_eq_none (List.mem_map_of_mem member) other
  have condition : (ofCondition scope (.member negated) column
      (.array (items.map (·.written)))).result = .ok (side.given items negated) := by
    rw [ofCondition, unlisted, Side.given, ← negates]
    exact Traced.result_bind_of_ok (result_ofEqualities found own each) _
  rw [compile, Traced.result_bind_of_ok condition, markRole_of_readsRecord]
  · rfl
  · cases negated with
    | false => exact reads
    | true => exact reads

/-! ## Columns, literals and providers -/

theorem exists_side_of_locate {name : String} {qualifier : Option String} {location : Location}
    (located : (scope.locate Bool.false name qualifier).result = .ok (.field location)) :
    ∃ side, Side.ofLocation? location = some side ∧ side.operand.isRecord ∧
      (side? scope Bool.false (.column name qualifier)).result = .ok (some side) := by
  have known : ∃ side, Side.ofLocation? location = some side ∧ side.operand.isRecord := by
    unfold Scope.locate at located
    cases place : Location.ofName scope.graph scope.entity name qualifier with
    | direct field =>
        rw [place] at located
        cases located
        exact ⟨_, rfl, rfl⟩
    | notFound _ _ =>
        rw [place] at located
        cases qualifier with
        | none =>
            obtain ⟨path, _, last⟩ := Traced.result_bind_eq_ok_iff.mp located
            cases path <;> cases last
        | some _ => cases located
    | related relation cardinality field target =>
        rw [place] at located
        cases qualifier <;> cases located <;> cases cardinality <;> exact ⟨_, rfl, rfl⟩
    | junction member =>
        rw [place] at located
        cases qualifier <;> cases located <;> exact ⟨_, rfl, rfl⟩
  obtain ⟨side, same, own⟩ := known
  refine ⟨side, same, own, ?_⟩
  rw [side?, Traced.result_bind_of_ok located, ← same]
  rfl

def Item.ofLiteral (item : Literal) : Item :=
  ⟨.literal item, .value item.value, item.value⟩

theorem Item.compiles_ofLiteral (item : Literal) : (Item.ofLiteral item).Compiles scope :=
  ⟨rfl, rfl⟩

theorem Item.fixed_ofLiteral {mode : UnloadedMode} {actor : Value} {item : Literal}
    (defined : item.value.isDefined) : (Item.ofLiteral item).Fixed mode actor :=
  ⟨fun _ => rfl, defined⟩

def Item.ofProvider (source : String) (path : List String) (value : Value) : Item :=
  ⟨.call source [], .actor path source, value⟩

theorem Item.compiles_ofProvider {source : String} {found : ActorPath} {path : List String}
    (resolved : (scope.resolve source).result = .ok found)
    (refined : scope.refine found.parts = .ok path) (value : Value) :
    (Item.ofProvider source path value).Compiles scope := by
  have field (text : String) : (scope.actorField source text).result = .ok (.actor path source) := by
    rw [Scope.actorField, Traced.result_bind_of_ok resolved, refined]
    dsimp only
    split
    · rfl
    · rfl
  obtain ⟨text, printed⟩ := Expr.printable_call source (List.forall_mem_nil _)
  refine ⟨?_, rfl⟩
  rw [Item.ofProvider, side?, printed]
  refine Traced.result_bind_eq_ok_iff.mpr ⟨text, rfl, ?_⟩
  exact Traced.result_bind_eq_ok_iff.mpr ⟨_, field text, rfl⟩

/-- Literals with another item among them. -/
def Item.amid (before after : List Literal) (item : Item) : List Item :=
  before.map .ofLiteral ++ item :: after.map .ofLiteral

theorem Item.forall_mem_amid {holds : Item → Prop} {before after : List Literal} {item : Item}
    (literals : ∀ literal ∈ before ++ after, holds (.ofLiteral literal)) (own : holds item) :
    ∀ entry ∈ item.amid before after, holds entry := by
  rw [List.forall_mem_append] at literals
  simp only [amid, List.forall_mem_append, List.forall_mem_cons, List.forall_mem_map]
  exact ⟨literals.1, own, literals.2⟩

theorem Item.values_amid (before after : List Literal) (item : Item) {literal : Literal}
    (same : item.value = literal.value) :
    (item.amid before after).map (·.value) = (before ++ literal :: after).map (·.value) := by
  simp [amid, ofLiteral, Function.comp_def, same]

theorem Item.written_amid (before after : List Literal) (item : Item) :
    (item.amid before after).map (·.written) =
      before.map .literal ++ item.written :: after.map .literal := by
  simp [amid, ofLiteral, Function.comp_def]

end Compiling

end Predicate

open Predicate in
/-- A list of literals and the list in which a provider of the same value stands for one of them.
On a column of the record itself, or of a record that it refers to, both end alike, errors included.
Behind a to-many relation of a quiet record `IN` gives the same answer, unless the second stops at a
relationship that is not loaded. `NOT IN` asks the first for a row outside the list and the second
for no row inside it. -/
theorem lists_agree_iff {scope : Scope} {name : String} {qualifier : Option String}
    {location : Location}
    (located : (scope.locate Bool.false name qualifier).result = .ok (.field location))
    {source : String} {found : ActorPath} {path : List String}
    (resolved : (scope.resolve source).result = .ok found)
    (refined : scope.refine found.parts = .ok path) {item : Literal} {mode : UnloadedMode}
    {actor : Value} (holds : (actor.follow mode path).result = .ok item.value)
    (before after : List Literal)
    (defined : ∀ literal ∈ before ++ item :: after, literal.value.isDefined) (negated : Bool) :
    ∃ side listed given, Side.ofLocation? location = some side ∧
      (compile scope (.condition (.member negated) (.column name qualifier)
        (.array ((before ++ item :: after).map .literal)))).result = .ok listed ∧
      (compile scope (.condition (.member negated) (.column name qualifier)
        (.array (before.map .literal ++ .call source [] :: after.map .literal)))).result =
          .ok given ∧
      ∀ record,
        (side.relation = none → (listed.eval mode actor record).result =
          (given.eval mode actor record).result) ∧
        (∀ relation, side.relation = some relation → negated = Bool.false → record.isQuiet →
          (∀ t, (given.eval mode actor record).result = .ok t →
            (listed.eval mode actor record).result = .ok t) ∧
          (mode ≠ .fail → (listed.eval mode actor record).result =
            (given.eval mode actor record).result)) ∧
        (∀ relation, side.relation = some relation → negated = Bool.true → record.isQuiet →
          mode ≠ .fail →
          ((listed.eval mode actor record).result = (given.eval mode actor record).result ↔
            ((∃ row ∈ (record.read [relation]).items?.getD [],
                side.standing actor ((before ++ item :: after).map (·.value)) row = .no) ↔
              ∀ row ∈ (record.read [relation]).items?.getD [],
                side.standing actor ((before ++ item :: after).map (·.value)) row ≠ .yes))) := by
  obtain ⟨side, same, own, columnSide⟩ := exists_side_of_locate located
  let items := (Item.ofProvider source path item.value).amid before after
  have among : Item.ofProvider source path item.value ∈ items :=
    List.mem_append_right _ (.head _)
  have filled : items ≠ [] := List.ne_nil_of_mem among
  rw [List.forall_mem_append, List.forall_mem_cons] at defined
  obtain ⟨first, here, last⟩ := defined
  have fixed : ∀ item ∈ items, item.Fixed mode actor := by
    refine Item.forall_mem_amid (fun literal member => ?_) ⟨fun _ => holds, here⟩
    exact Item.fixed_ofLiteral (List.forall_mem_append.mpr ⟨first, last⟩ literal member)
  have compiles : ∀ item ∈ items, item.Compiles scope :=
    Item.forall_mem_amid (fun literal _ => Item.compiles_ofLiteral literal)
      (Item.compiles_ofProvider resolved refined item.value)
  have given : (compile scope (.condition (.member negated) (.column name qualifier)
      (.array (items.map (·.written))))).result = .ok (side.given items negated) :=
    compile_items columnSide own compiles among nofun
  rw [Item.written_amid] at given
  refine ⟨side, _, _, same, compile_literals columnSide own _, given, ?_⟩
  rw [← Item.values_amid before after (.ofProvider source path item.value) rfl]
  intro record
  refine ⟨?_, ?_, ?_⟩
  · intro near
    exact result_given_near near fixed filled negated
  · intro relation far positive quiet
    subst positive
    exact ⟨fun t ended => result_among_far far own quiet fixed filled ended,
      fun loaded => (result_anyOf_far far own quiet loaded fixed filled).symm⟩
  · intro relation far negative quiet loaded
    subst negative
    exact result_given_far_iff far own quiet loaded fixed filled

/-! ## A list of one tag -/

/-- The tags of posts, by a literal and by a provider. -/
def Expr.tagIn (negated : Bool) (item : Expr) : Expr :=
  .condition (.member negated) (.column "tag_id" none) (.array [item])

def Value.fiveReader : Value :=
  .mapping [("my_tag", .int 5)]

/-- A post with tags 5 and 6. -/
def Value.twoTags : Value :=
  .mapping [("tags", .list [.mapping [("id", .int 5)], .mapping [("id", .int 6)]])]

def Location.tagKey : Location :=
  .junction ⟨"tags", ["post_id", "tag_id"], "tag_id", "Tag", "id"⟩

theorem lists_agree_iff_tags :
    (Scope.tagged.locate Bool.false "tag_id" none).result = .ok (.field .tagKey) ∧
    (Value.fiveReader.follow .deny ["my_tag"]).result = .ok (.int 5) ∧
    ∃ listed given,
      (Predicate.compile .tagged (.tagIn Bool.false (.literal .five))).result = .ok listed ∧
      (Predicate.compile .tagged (.tagIn Bool.false (.call "my_tag" []))).result = .ok given ∧
      ∀ record, record.isQuiet → (listed.eval .deny .fiveReader record).result =
        (given.eval .deny .fiveReader record).result := by
  have located : (Scope.tagged.locate Bool.false "tag_id" none).result = .ok (.field .tagKey) := by
    with_unfolding_all rfl
  have holds : (Value.fiveReader.follow .deny ["my_tag"]).result = .ok Literal.five.value := by
    with_unfolding_all rfl
  have resolved : (Scope.tagged.resolve "my_tag").result =
      .ok ⟨["my_tag"], .fallback, "my_tag", by decide⟩ := by
    with_unfolding_all rfl
  obtain ⟨side, listed, given, same, compiled, compiledToo, agree⟩ :=
    lists_agree_iff located resolved rfl holds [] [] (List.forall_mem_singleton.mpr rfl) Bool.false
  refine ⟨located, holds, listed, given, compiled, compiledToo, fun record quiet => ?_⟩
  cases same
  exact ((agree record).2.1 "tags" rfl rfl quiet).2 (by decide)

/-- A post with tags 5 and 6 has a tag outside the list and one inside it. -/
theorem twoTags_outside_and_inside :
    Expr.parse "tag_id NOT IN (5)" "Post" = .ok (.tagIn Bool.true (.literal .five)) ∧
    Expr.parse "tag_id NOT IN (my_tag())" "Post" = .ok (.tagIn Bool.true (.call "my_tag" [])) ∧
    (Value.fiveReader.follow .deny ["my_tag"]).result = .ok (.int 5) ∧
    ∃ listed given,
      (Predicate.compile .tagged (.tagIn Bool.true (.literal .five))).result = .ok listed ∧
      (Predicate.compile .tagged (.tagIn Bool.true (.call "my_tag" []))).result = .ok given ∧
      (listed.eval .deny .fiveReader .twoTags).result = .ok .yes ∧
      (given.eval .deny .fiveReader .twoTags).result = .ok .no := by
  let listed : Predicate := .anyRelated "tags"
    (.member (.record ["id"]) (.values [.int 5]) Bool.true) ["post_id", "tag_id"]
  let given : Predicate := .not (.anyRelated "tags"
    (.compare .eq (.record ["id"]) (.actor ["my_tag"] "my_tag")) ["post_id", "tag_id"])
  refine ⟨?_, ?_, ?_, listed, given, ?_, ?_, ?_, ?_⟩ <;> with_unfolding_all rfl

end RowGuard
