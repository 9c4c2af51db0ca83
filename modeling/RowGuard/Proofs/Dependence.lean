import RowGuard.RowFilter.Bind

/-! What the answer of a predicate depends on. A predicate that is said not to
read the record has one answer on all records, and one that is said not to read
the actor has one answer for all actors. An answer is all that evaluation ends
in: a truth or a failure, and the warnings on the way. -/

set_option autoImplicit false

namespace RowGuard

/-! ## Operands -/

theorem Operand.eval_congr {mode : UnloadedMode} {actor other record unseen : Value}
    {operand : Operand} (records : operand.readsRecord → record = unseen)
    (actors : operand.readsActor → actor = other) :
    operand.eval mode actor record = operand.eval mode other unseen := by
  cases operand with
  | record path => rw [eval, eval, records rfl]
  | actor path source => rw [eval, eval, actors rfl]
  | value _ | values _ | foreign _ => rfl

/-! ## Predicates -/

namespace Predicate

variable {mode : UnloadedMode} {actor other : Value}

mutual

/-- Predicates have one answer where what they read is the same. A condition on related rows is
read on all of them, so its own record is not that of the predicate. -/
theorem eval_congr (p : Predicate) {record unseen : Value}
    (records : p.readsRecord → record = unseen) (actors : p.readsActor → actor = other) :
    p.eval mode actor record = p.eval mode other unseen := by
  cases p with
  | const _ | unresolved _ | foreign _ => rfl
  | all operands => exact evalAll_congr operands records actors
  | any operands => exact evalAny_congr operands records actors
  | not operand =>
      rw [eval, eval, eval_congr operand records actors]
  | role condition => exact eval_congr condition records actors
  | compare comparator left right =>
      simp only [readsRecord, readsActor, Bool.or_eq_true, or_imp] at records actors
      rw [eval, eval, left.eval_congr records.1 actors.1, right.eval_congr records.2 actors.2]
  | member operand values negated =>
      simp only [readsRecord, readsActor, Bool.or_eq_true, or_imp] at records actors
      rw [eval, eval, operand.eval_congr records.1 actors.1, values.eval_congr records.2 actors.2]
  | isNull operand negated => rw [eval, eval, operand.eval_congr records actors]
  | anyRelated relation condition joinFields =>
      have inside : eval mode actor condition = eval mode other condition :=
        funext fun row => eval_congr condition (fun _ => rfl) actors
      rw [eval, eval, records rfl, inside]
  | select subject branches otherwise =>
      simp only [readsRecord, readsActor, Bool.or_eq_true, or_imp] at records actors
      rw [eval, eval, subject.eval_congr records.1.1 actors.1.1,
        eval_congr otherwise records.2 actors.2]
      have chosen (value : Value) := evalSelect_congr value branches records.1.2 actors.1.2
      simp only [chosen]
  | firstOf branches otherwise =>
      simp only [readsRecord, readsActor, Bool.or_eq_true, or_imp] at records actors
      rw [eval, eval, evalFirst_congr branches records.1 actors.1,
        eval_congr otherwise records.2 actors.2]
termination_by structural p

theorem evalAll_congr (ps : List Predicate) {record unseen : Value}
    (records : anyReadsRecord ps → record = unseen) (actors : anyReadsActor ps → actor = other) :
    evalAll mode actor ps record = evalAll mode other ps unseen := by
  cases ps with
  | nil => rfl
  | cons p ps =>
      simp only [anyReadsRecord, anyReadsActor, Bool.or_eq_true, or_imp] at records actors
      rw [evalAll, evalAll, eval_congr p records.1 actors.1, evalAll_congr ps records.2 actors.2]
termination_by structural ps

theorem evalAny_congr (ps : List Predicate) {record unseen : Value}
    (records : anyReadsRecord ps → record = unseen) (actors : anyReadsActor ps → actor = other) :
    evalAny mode actor ps record = evalAny mode other ps unseen := by
  cases ps with
  | nil => rfl
  | cons p ps =>
      simp only [anyReadsRecord, anyReadsActor, Bool.or_eq_true, or_imp] at records actors
      rw [evalAny, evalAny, eval_congr p records.1 actors.1, evalAny_congr ps records.2 actors.2]
termination_by structural ps

theorem evalSelect_congr (subject : Value) (branches : List (Operand × Predicate))
    {record unseen : Value} (records : selectReadsRecord branches → record = unseen)
    (actors : selectReadsActor branches → actor = other) :
    evalSelect mode actor subject branches record =
      evalSelect mode other subject branches unseen := by
  cases branches with
  | nil => rfl
  | cons branch rest =>
      obtain ⟨key, outcome⟩ := branch
      simp only [selectReadsRecord, selectReadsActor, Bool.or_eq_true, or_imp] at records actors
      rw [evalSelect, evalSelect, key.eval_congr records.1.1 actors.1.1,
        eval_congr outcome records.1.2 actors.1.2,
        evalSelect_congr subject rest records.2 actors.2]
termination_by structural branches

theorem evalFirst_congr (branches : List (Predicate × Predicate)) {record unseen : Value}
    (records : firstReadsRecord branches → record = unseen)
    (actors : firstReadsActor branches → actor = other) :
    evalFirst mode actor branches record = evalFirst mode other branches unseen := by
  cases branches with
  | nil => rfl
  | cons branch rest =>
      obtain ⟨key, outcome⟩ := branch
      simp only [firstReadsRecord, firstReadsActor, Bool.or_eq_true, or_imp] at records actors
      rw [evalFirst, evalFirst, eval_congr key records.1.1 actors.1.1,
        eval_congr outcome records.1.2 actors.1.2, evalFirst_congr rest records.2 actors.2]
termination_by structural branches

end

end Predicate

/-! ## What is not read -/

/-- Whether a condition settles row filters by its answer on a record: the filter of a policy that
has it as a role check, the filters chosen by it, and the filter that consists of it. -/
structure Predicate.SettlesBy (mode : UnloadedMode) (actor record : Value) (p : Predicate) :
    Prop where
  checked : ∀ (checks : List Predicate) (f : RowFilter),
    RowFilter.bindChecked mode actor (p :: checks) f = do
      if ← p.grants mode record actor then RowFilter.bindChecked mode actor checks f
      else return .block
  boundChoice : ∀ passed failed : RowFilter,
    (RowFilter.given p passed failed).bind mode actor = do
      if ← p.grants mode record actor then passed.bind mode actor else failed.bind mode actor
  boundWhole : (RowFilter.roleOnly p).bind mode actor = do
    if ← p.grants mode record actor then return .pass else return .block
  choice : ∀ (passed failed : RowFilter) (row : Value),
    (RowFilter.given p passed failed).eval mode actor row = do
      if (← p.eval mode actor record).holds then passed.eval mode actor row
      else failed.eval mode actor row
  whole : ∀ row : Value, (RowFilter.roleOnly p).eval mode actor row = do
    return .ofBool (← p.eval mode actor record).holds

/-- A condition with the same answer without a record and on a record settles row filters by that
record, for they are settled without one. -/
theorem Predicate.settlesBy_of_eval_null {mode : UnloadedMode} {actor record : Value}
    {p : Predicate} (same : p.eval mode actor .null = p.eval mode actor record) :
    p.SettlesBy mode actor record := by
  have granted : p.grants mode .null actor = p.grants mode record actor := by
    rw [grants, grants, same]
  constructor
  · intro checks f
    rw [RowFilter.bindChecked, granted]
  · intro passed failed
    rw [RowFilter.bind, granted]
  · rw [RowFilter.bind, granted]
  · intro passed failed row
    rw [RowFilter.eval, same]
  · intro row
    rw [RowFilter.eval, same]

/-- A predicate that does not read the record has one answer on all records, and one that does not
read the actor has one answer for all actors. The answer of a condition on the actor alone without
a record, by which row filters are bound and chosen, is thus its answer on every record. -/
theorem eval_eq_of_unread (mode : UnloadedMode) (p : Predicate) :
    (p.readsRecord = false → ∀ actor record other : Value,
      p.eval mode actor record = p.eval mode actor other) ∧
    (p.readsActor = false → ∀ actor other record : Value,
      p.eval mode actor record = p.eval mode other record) ∧
    (p.isRoleOnly → ∀ actor record : Value,
      p.eval mode actor .null = p.eval mode actor record ∧ p.SettlesBy mode actor record) := by
  have records (unread : p.readsRecord = false) (actor record other : Value) :
      p.eval mode actor record = p.eval mode actor other := by
    refine p.eval_congr (fun reads => ?_) fun _ => rfl
    rw [unread] at reads
    cases reads
  refine ⟨records, ?_, ?_⟩
  · intro unread actor other record
    refine p.eval_congr (fun _ => rfl) fun reads => ?_
    rw [unread] at reads
    cases reads
  · intro role actor record
    have unread : p.readsRecord = false := by
      simp only [Predicate.isRoleOnly, Bool.and_eq_true, Bool.not_eq_true'] at role
      exact role.2
    have same := records unread actor .null record
    exact ⟨same, Predicate.settlesBy_of_eval_null same⟩

/-- Admins with a name of their own, and everybody else in a team. -/
def Predicate.namedAdmins : Predicate :=
  .select (.actor ["role"] "current_role")
    [(.value (.text "admin"), .not (.isNull (.actor ["name"] "current_name") Bool.false))]
    (.role (.member (.value (.text "staff")) (.actor ["teams"] "current_teams") Bool.false))

/-- Posts with a tag that is a draft's. -/
def Predicate.draftTags : Predicate :=
  .anyRelated "tags" (.compare .eq (.record ["label"]) (.value (.text "draft"))) []

theorem eval_eq_of_unread_namedAdmins :
    Predicate.namedAdmins.isRoleOnly ∧
      (∀ record : Value,
        Predicate.namedAdmins.eval .warn (.mapping [("name", .text "ann"), ("role", .text "admin")])
          record = .ok .yes) ∧
      Predicate.draftTags.readsActor = false ∧
      ∀ actor : Value,
        Predicate.draftTags.eval .warn actor
          (.mapping [("tags", .list [.mapping [("label", .text "draft")]])]) = .ok .yes := by
  have role : Predicate.namedAdmins.isRoleOnly := by decide
  have unread : Predicate.draftTags.readsActor = false := rfl
  refine ⟨role, fun record => ?_, unread, fun actor => ?_⟩
  · have same := ((eval_eq_of_unread .warn Predicate.namedAdmins).2.2 role
      (.mapping [("name", .text "ann"), ("role", .text "admin")]) record).1
    rw [← same]
    with_unfolding_all rfl
  · rw [(eval_eq_of_unread .warn Predicate.draftTags).2.1 unread actor .null]
    with_unfolding_all rfl

end RowGuard
