import RowGuard.Predicate.Eval
import RowGuard.Proofs.Traced
import RowGuard.Proofs.Truth
import RowGuard.Proofs.Value.Definedness

/-! The truth of predicates as a function. Unless unloaded relationships are a
failure, evaluation of a predicate whose nodes all have a meaning yields its
truth on the record and the actor. Only a comparison with an undefined number
stops it before that. Policies compile to such predicates. The events of an
evaluation carry warnings only and are passed over here. -/

set_option autoImplicit false

namespace RowGuard

/-! ## Reading -/

namespace Value

/-- The member of a value under a name, null if there is none or if it is not loaded. -/
def get (value : Value) (name : String) : Value :=
  match value with
  | .mapping entries => lookup name entries
  | .object _ _ attributes unloaded =>
    if (unloaded.getD []).contains name then .null else lookup name attributes
  | value => value.attributeOf name

/-- The value at the end of a path, null where a link is missing. -/
def read (value : Value) : List String → Value
  | [] => value
  | name :: path => if value.isNull then .null else read (value.get name) path

theorem result_member {mode : UnloadedMode} (loaded : mode ≠ .fail) (value : Value)
    (name : String) : (value.member mode name).result = .ok (value.get name) := by
  cases value with
  | object id kind attributes unloaded =>
      simp only [member, get]
      split
      · cases mode with
        | fail => exact absurd rfl loaded
        | warn | deny => rfl
      · rfl
  | _ => rfl

theorem result_follow {mode : UnloadedMode} (loaded : mode ≠ .fail) (value : Value)
    (path : List String) : (value.follow mode path).result = .ok (value.read path) := by
  induction path generalizing value with
  | nil => rfl
  | cons name path ih =>
      simp only [follow, read]
      split
      · rfl
      · rw [Traced.result_bind_of_ok (result_member loaded value name)]
        exact ih (value.get name)

theorem isNull_iff {value : Value} : value.isNull = true ↔ value = .null := by
  cases value <;> simp [isNull]

@[simp]
theorem read_null (path : List String) : Value.null.read path = .null := by
  cases path <;> rfl

theorem read_append (value : Value) (path rest : List String) :
    value.read (path ++ rest) = (value.read path).read rest := by
  induction path generalizing value with
  | nil => rfl
  | cons name path ih =>
      simp only [List.cons_append, read]
      split
      · rw [read_null]
      · exact ih (value.get name)

theorem avoids_get {refused : Undefined → Bool} {value : Value} (avoiding : value.avoids refused)
    (name : String) : (value.get name).avoids refused := by
  cases value with
  | mapping _ => exact avoids_lookup avoiding name
  | object _ _ _ _ =>
      simp only [get]
      split
      · rfl
      · exact avoids_lookup avoiding name
  | _ => exact avoids_attributeOf avoiding name

theorem avoids_read {refused : Undefined → Bool} {value : Value} (avoiding : value.avoids refused)
    (path : List String) : (value.read path).avoids refused := by
  induction path generalizing value with
  | nil => exact avoiding
  | cons name path ih =>
      rw [read]
      split
      · rfl
      · exact ih (avoids_get avoiding name)

theorem avoids_rows {refused : Undefined → Bool} {record : Value} (avoiding : record.avoids refused)
    (relation : String) :
    ∀ row ∈ (record.read [relation]).items?.getD [], row.avoids refused := by
  cases found : (record.read [relation]).items? with
  | none => nofun
  | some rows => exact avoids_items (avoids_read avoiding [relation]) found

end Value

def Operand.read (actor record : Value) : Operand → Value
  | .record path => record.read path
  | .actor path _ => actor.read path
  | .value v => v
  | .values vs => .tuple vs
  | .foreign _ => .null

/-- Whether an operand is one of this library's own. -/
def Operand.isOwn : Operand → Bool
  | .foreign _ => false
  | _ => true

theorem Operand.result_eval {mode : UnloadedMode} (loaded : mode ≠ .fail) {operand : Operand}
    (own : operand.isOwn) (actor record : Value) :
    (operand.eval mode actor record).result = .ok (operand.read actor record) := by
  cases operand with
  | record path => exact Value.result_follow loaded record path
  | actor path source => exact Value.result_follow loaded actor path
  | value _ | values _ => rfl
  | foreign _ => cases own

/-- Whether an operand holds no undefined number, or reads an actor who holds none. -/
def Operand.isDefined (actor : Value) : Operand → Bool
  | .actor .. => actor.isDefined
  | .value v => v.isDefined
  | .values vs => vs.all Value.isDefined
  | _ => true

theorem Operand.isDefined_read {operand : Operand} {actor record : Value}
    (defined : operand.isDefined actor) (recordDefined : record.isDefined) :
    (operand.read actor record).isDefined := by
  cases operand with
  | record path => exact Value.avoids_read recordDefined path
  | actor path _ => exact Value.avoids_read defined path
  | value _ => exact defined
  | values vs => exact Value.itemsAvoid_iff.mpr (List.all_eq_true.mp defined)
  | foreign _ => rfl

/-- Whether an operand is one of this library's own and, as a constant, holds no undefined number. -/
def Operand.isSound : Operand → Bool
  | .value v => v.isDefined
  | .values vs => vs.all Value.isDefined
  | .foreign _ => false
  | _ => true

theorem Operand.isOwn_of_isSound {operand : Operand} (sound : operand.isSound) : operand.isOwn := by
  cases operand with
  | foreign _ => cases sound
  | record _ | actor _ _ | value _ | values _ => rfl

theorem Operand.isDefined_of_isSound {operand : Operand} {actor : Value} (sound : operand.isSound)
    (actorDefined : actor.isDefined) : operand.isDefined actor := by
  cases operand with
  | actor _ _ => exact actorDefined
  | value _ | values _ => exact sound
  | record _ | foreign _ => rfl

/-! ## Evaluations that yield a value -/

/-- Whether an evaluation ends in a value, or else, unless all is defined that it compares, in the
failure of an invalid operation. -/
def Evaluation.Yields {α : Type} (evaluation : Evaluation α) (defined : Prop) (value : α) : Prop :=
  evaluation.result = .ok value ∨ evaluation.result = .error .invalidOperation ∧ ¬defined

namespace Evaluation

variable {α β : Type} {evaluation : Evaluation α} {defined other : Prop} {value : α}

theorem yields_of_ok (ended : evaluation.result = .ok value) : evaluation.Yields defined value :=
  .inl ended

theorem Yields.result_eq (yields : evaluation.Yields defined value) (sound : defined) :
    evaluation.result = .ok value := by
  rcases yields with ended | ⟨_, unsound⟩
  · exact ended
  · exact absurd sound unsound

theorem Yields.eq_of_ok (yields : evaluation.Yields defined value) {found : α}
    (ended : evaluation.result = .ok found) : found = value := by
  rcases yields with same | ⟨failed, _⟩
  · exact Except.ok.inj (ended.symm.trans same)
  · cases ended.symm.trans failed

theorem Yields.failsAs (yields : evaluation.Yields defined value) :
    Traced.FailsAs (fun error => error = .invalidOperation ∧ ¬defined) evaluation := by
  intro error failed
  rcases yields with ended | ⟨failedAs, unsound⟩
  · cases ended.symm.trans failed
  · cases failed.symm.trans failedAs
    exact ⟨rfl, unsound⟩

theorem Yields.endsAs (yields : evaluation.Yields defined value) :
    evaluation.EndsAs (fun error => error = .invalidOperation ∧ ¬defined) (pure value) :=
  yields.imp_right fun failed => ⟨.invalidOperation, failed.1, rfl, failed.2⟩

theorem Yields.mono (yields : evaluation.Yields defined value) (narrower : other → defined) :
    evaluation.Yields other value :=
  yields.imp_right fun ⟨failed, unsound⟩ => ⟨failed, fun sound => unsound (narrower sound)⟩

theorem Yields.bind (yields : evaluation.Yields defined value) {next : α → Evaluation β} {last : β}
    (after : (next value).Yields defined last) : (evaluation >>= next).Yields defined last := by
  rcases yields with ended | ⟨failed, unsound⟩
  · rw [Yields, Traced.result_bind_of_ok ended]
    exact after
  · exact .inr ⟨Traced.result_bind_eq_error_iff.mpr (.inl failed), unsound⟩

theorem Yields.map (yields : evaluation.Yields defined value) (f : α → β) :
    (evaluation >>= fun value => pure (f value)).Yields defined (f value) :=
  yields.bind (yields_of_ok rfl)

end Evaluation

/-! ## Comparisons -/

theorem Value.isProper_matches (ignoreCase : Bool) (value pattern : Value) :
    (value.matches ignoreCase pattern).isProper := by
  unfold Value.matches
  split
  · rfl
  · rfl
  · exact Truth.isProper_ofBool _
  · rfl

namespace Comparator

/-- Whether a comparator has a meaning. -/
def isKnown : Comparator → Bool
  | .unknown _ => false
  | _ => true

/-- The truth of a comparison; a symbol without a meaning leaves it unknown, and an invalid
operation counts as false. -/
def compare (comparator : Comparator) (left right : Value) : Truth :=
  match comparator.truth left right with
  | .ok truth => truth
  | .error .invalidOperation => .no
  | .error _ => .unknown

theorem decide_cases (test : Option Bool) :
    decide test = .ok (.ofBool (test.getD false)) ∨ decide test = .error .invalidOperation := by
  cases test with
  | none => exact .inr rfl
  | some b => exact .inl rfl

/-- A comparison with a meaning is true or false or unknown, or it is an invalid operation. -/
theorem truth_cases {comparator : Comparator} (known : comparator.isKnown) (left right : Value) :
    (∃ truth, comparator.truth left right = .ok truth) ∨
      comparator.truth left right = .error .invalidOperation := by
  cases comparator with
  | unknown _ => cases known
  | like ignoreCase negated => exact .inl ⟨_, rfl⟩
  | eq | ne | lt | le | gt | ge =>
      simp only [truth]
      split
      · exact .inl ⟨_, rfl⟩
      · exact (decide_cases _).imp_left fun decided => ⟨_, decided⟩

/-- Values without undefined numbers can be compared. -/
theorem truth_ne_invalid (comparator : Comparator) {left right : Value}
    (leftDefined : left.isDefined) (rightDefined : right.isDefined) :
    comparator.truth left right ≠ .error .invalidOperation := by
  have decides {test : Option Bool} (decided : test.isSome) :
      decide test ≠ .error .invalidOperation := by
    obtain ⟨b, rfl⟩ := Option.isSome_iff_exists.mp decided
    nofun
  have equal := Value.equal?_isSome left right (Value.isQuiet_of_isDefined leftDefined)
    (Value.isQuiet_of_isDefined rightDefined)
  have ordered (wanted : Ordering → Bool) :=
    decides (Value.ordered?_isSome leftDefined rightDefined wanted)
  cases comparator with
  | like _ _ => nofun
  | eq | ne | lt | le | gt | ge | unknown _ =>
      simp only [truth]
      split
      · nofun
      · first
          | exact ordered _
          | exact decides equal
          | exact decides (by simpa using equal)
          | nofun

theorem yields_truth {comparator : Comparator} (known : comparator.isKnown) {left right : Value}
    {defined : Prop} (valid : defined → comparator.truth left right ≠ .error .invalidOperation) :
    Evaluation.Yields (.lift (comparator.truth left right)) defined
      (comparator.compare left right) := by
  rcases truth_cases known left right with ⟨truth, ended⟩ | failed
  · refine .inl ?_
    simp only [compare, ended]
    rfl
  · exact .inr ⟨failed, fun sound => valid sound failed⟩

theorem compare_of_null {comparator : Comparator} {left right : Value}
    (missing : left.isNull ∨ right.isNull) : comparator.compare left right = .unknown := by
  have either : (left.isNull || right.isNull) = true := by simpa using missing
  cases comparator with
  | like ignoreCase negated =>
      have unmatched : left.matches ignoreCase right = .unknown := by
        rcases missing with missing | missing
        · rw [Value.isNull_iff.mp missing]
          rfl
        · rw [Value.isNull_iff.mp missing]
          cases left <;> rfl
      simp only [compare, truth, unmatched]
      cases negated <;> rfl
  | eq | ne | lt | le | gt | ge | unknown _ => simp only [compare, truth, either, if_true]

theorem isProper_compare (comparator : Comparator) (left right : Value) :
    (comparator.compare left right).isProper := by
  have decided (test : Option Bool) {truth : Truth} (ended : decide test = .ok truth) :
      truth.isProper := by
    rcases decide_cases test with valid | failed
    · cases valid.symm.trans ended
      exact Truth.isProper_ofBool _
    · cases failed.symm.trans ended
  rw [compare]
  split
  · next ended =>
      cases comparator with
      | like ignoreCase negated =>
          cases ended
          exact Truth.isProper_negatedIf (Value.isProper_matches ignoreCase left right) negated
      | eq | ne | lt | le | gt | ge | unknown _ =>
          simp only [truth] at ended
          split at ended
          · cases ended
            rfl
          · first
              | exact decided _ ended
              | cases ended
  · rfl
  · rfl

theorem compare_ne_unknown {comparator : Comparator} (known : comparator.isKnown)
    {left right : Value} (leftThere : left.isNull = false) (rightThere : right.isNull = false) :
    comparator.compare left right ≠ .unknown := by
  have there : (left.isNull || right.isNull) = false := by simp [leftThere, rightThere]
  cases comparator with
  | unknown _ => cases known
  | like ignoreCase negated =>
      have settled : ∃ b, left.matches ignoreCase right = .ofBool b := by
        unfold Value.matches
        split
        · cases leftThere
        · cases rightThere
        · exact ⟨_, rfl⟩
        · exact ⟨Bool.false, rfl⟩
      obtain ⟨b, settled⟩ := settled
      simp only [compare, truth, settled]
      cases negated <;> simp [Truth.negatedIf]
  | eq | ne | lt | le | gt | ge =>
      simp only [compare, truth, there, Bool.false_eq_true, if_false]
      rcases decide_cases _ with valid | failed
      · rw [valid]
        exact Truth.ofBool_ne_unknown _
      · rw [failed]
        nofun

end Comparator

/-! ## Membership -/

namespace Value

/-- The truth of a membership; an invalid operation counts as false. -/
def membership (value values : Value) : Truth :=
  match value.memberOf values with
  | .ok truth => truth
  | .error _ => .no

theorem membership_null (values : Value) : null.membership values = .unknown := by
  unfold membership memberOf
  cases values.items? <;> rfl

theorem isProper_membership (value values : Value) : (value.membership values).isProper := by
  unfold membership memberOf
  cases values.items? with
  | none => rfl
  | some items =>
      simp only []
      by_cases missing : value.isNull
      · simp only [missing, if_true]
        rfl
      · simp only [missing]
        cases value.foundIn? items with
        | none => rfl
        | some found =>
            cases found with
            | true => rfl
            | false => cases items.any isNull <;> rfl

theorem memberOf_cases (value values : Value) :
    value.memberOf values = .ok (value.membership values) ∨
      value.memberOf values = .error .invalidOperation := by
  rw [membership]
  cases ended : value.memberOf values with
  | ok truth => exact .inl rfl
  | error error =>
      refine .inr ?_
      rw [memberOf] at ended
      split at ended
      · cases ended
      · split at ended
        · cases ended
        · split at ended <;> cases ended
          rfl

theorem memberOf_ne_invalid {value values : Value} (quiet : value.isQuiet)
    (each : values.isQuiet) : value.memberOf values ≠ .error .invalidOperation := by
  rw [memberOf]
  intro failed
  split at failed
  · cases failed
  · next items found =>
      have decided := foundIn?_isSome quiet (avoids_items each found)
      split at failed
      · cases failed
      · split at failed
        · cases failed
        · cases failed
        · next undecided =>
            rw [undecided] at decided
            cases decided

theorem yields_memberOf {value values : Value} {defined : Prop}
    (valid : defined → value.memberOf values ≠ .error .invalidOperation) :
    Evaluation.Yields (.lift (value.memberOf values)) defined (value.membership values) :=
  (memberOf_cases value values).imp id fun failed => ⟨failed, fun sound => valid sound failed⟩

end Value

/-- Looking for a row stops at the first that passes, and finds one if there is one. -/
theorem yields_someRow {test : Value → Evaluation Truth} {truth : Value → Truth} {rows : List Value}
    {defined : Prop} (tested : ∀ row ∈ rows, (test row).Yields defined (truth row)) :
    (someRow test rows).Yields defined (.ofBool (rows.any fun row => (truth row).holds)) := by
  induction rows with
  | nil => exact Evaluation.yields_of_ok rfl
  | cons row rows ih =>
      rw [List.forall_mem_cons] at tested
      simp only [someRow, List.any_cons]
      refine tested.1.bind ?_
      cases (truth row).holds with
      | false => exact ih tested.2
      | true => exact Evaluation.yields_of_ok rfl

namespace Predicate

/-! ## Truth -/

mutual

/-- The truth of a predicate on a record, where unloaded relationships read as null. -/
def truth (actor : Value) : Predicate → Value → Truth
  | .const value, _ => .ofValue value
  | .all operands, record => truthAll actor operands record
  | .any operands, record => truthAny actor operands record
  | .not operand, record => (truth actor operand record).not
  | .compare comparator left right, record =>
    comparator.compare (left.read actor record) (right.read actor record)
  | .member operand values negated, record =>
    ((operand.read actor record).membership (values.read actor record)).negatedIf negated
  | .isNull operand negated, record => .ofBool ((operand.read actor record).isNull != negated)
  | .anyRelated relation condition _, record =>
    .ofBool (((record.read [relation]).items?.getD []).any fun row =>
      (truth actor condition row).holds)
  | .select subject branches otherwise, record =>
    (truthSelect actor (subject.read actor record) branches record).getD
      (truth actor otherwise record)
  | .firstOf branches otherwise, record =>
    (truthFirst actor branches record).getD (truth actor otherwise record)
  | .role condition, record => truth actor condition record
  | .unresolved construct, _ => .ofValue construct.default
  | .foreign _, _ => .unknown
termination_by structural p => p

def truthAll (actor : Value) : List Predicate → Value → Truth
  | [], _ => .yes
  | p :: ps, record => (truth actor p record).and (truthAll actor ps record)
termination_by structural ps => ps

def truthAny (actor : Value) : List Predicate → Value → Truth
  | [], _ => .no
  | p :: ps, record => (truth actor p record).or (truthAny actor ps record)
termination_by structural ps => ps

def truthSelect (actor subject : Value) : List (Operand × Predicate) → Value → Option Truth
  | [], _ => none
  | (key, outcome) :: rest, record =>
    if (Comparator.eq.compare subject (key.read actor record)).holds then
      some (truth actor outcome record)
    else truthSelect actor subject rest record
termination_by structural branches => branches

def truthFirst (actor : Value) : List (Predicate × Predicate) → Value → Option Truth
  | [], _ => none
  | (key, outcome) :: rest, record =>
    if (truth actor key record).holds then some (truth actor outcome record)
    else truthFirst actor rest record
termination_by structural branches => branches

end

theorem truthAll_eq (actor : Value) (ps : List Predicate) (record : Value) :
    truthAll actor ps record = Truth.all (ps.map (truth actor · record)) := by
  induction ps with
  | nil => rfl
  | cons p ps ih => simp only [truthAll, List.map_cons, Truth.all_cons, ih]

theorem truthAny_eq (actor : Value) (ps : List Predicate) (record : Value) :
    truthAny actor ps record = Truth.any (ps.map (truth actor · record)) := by
  induction ps with
  | nil => rfl
  | cons p ps ih => simp only [truthAny, List.map_cons, Truth.any_cons, ih]

@[simp]
theorem truth_all (actor : Value) (ps : List Predicate) (record : Value) :
    (Predicate.all ps).truth actor record = Truth.all (ps.map (truth actor · record)) := by
  rw [truth, truthAll_eq]

@[simp]
theorem truth_any (actor : Value) (ps : List Predicate) (record : Value) :
    (Predicate.any ps).truth actor record = Truth.any (ps.map (truth actor · record)) := by
  rw [truth, truthAny_eq]

theorem mem_of_truthSelect {actor subject : Value} {branches : List (Operand × Predicate)}
    {record : Value} {t : Truth} (chosen : truthSelect actor subject branches record = some t) :
    ∃ branch ∈ branches, branch.2.truth actor record = t := by
  induction branches with
  | nil => cases chosen
  | cons branch rest ih =>
      simp only [truthSelect] at chosen
      split at chosen
      · exact ⟨branch, .head _, Option.some.inj chosen⟩
      · obtain ⟨later, member, same⟩ := ih chosen
        exact ⟨later, .tail _ member, same⟩

theorem mem_of_truthFirst {actor : Value} {branches : List (Predicate × Predicate)}
    {record : Value} {t : Truth} (chosen : truthFirst actor branches record = some t) :
    ∃ branch ∈ branches, branch.2.truth actor record = t := by
  induction branches with
  | nil => cases chosen
  | cons branch rest ih =>
      simp only [truthFirst] at chosen
      split at chosen
      · exact ⟨branch, .head _, Option.some.inj chosen⟩
      · obtain ⟨later, member, same⟩ := ih chosen
        exact ⟨later, .tail _ member, same⟩

/-! ## Nodes -/

/-- The predicates that a predicate is put together from. -/
def children : Predicate → List Predicate
  | .all operands => operands
  | .any operands => operands
  | .not operand => [operand]
  | .anyRelated _ condition _ => [condition]
  | .select _ branches otherwise => branches.map (·.2) ++ [otherwise]
  | .firstOf branches otherwise => branches.map (·.1) ++ (branches.map (·.2) ++ [otherwise])
  | .role condition => [condition]
  | _ => []

/-- The operands that a predicate reads itself, those of its children apart. -/
def operands : Predicate → List Operand
  | .compare _ left right => [left, right]
  | .member operand values _ => [operand, values]
  | .isNull operand _ => [operand]
  | .select subject branches _ => subject :: branches.map (·.1)
  | _ => []

/-- Whether something holds of every node of a predicate. -/
inductive Everywhere (holds : Predicate → Prop) : Predicate → Prop where
  | node {p : Predicate} :
      holds p → (∀ child ∈ p.children, Everywhere holds child) → Everywhere holds p

section Everywhere

variable {holds other : Predicate → Prop} {p : Predicate}

theorem Everywhere.here (everywhere : p.Everywhere holds) : holds p := by
  cases everywhere with
  | node here _ => exact here

theorem Everywhere.children (everywhere : p.Everywhere holds) :
    ∀ child ∈ p.children, child.Everywhere holds := by
  cases everywhere with
  | node _ children => exact children

theorem Everywhere.imp (everywhere : p.Everywhere holds)
    (weaker : ∀ node, holds node → other node) : p.Everywhere other := by
  induction everywhere with
  | node here _ ih => exact .node (weaker _ here) ih

end Everywhere

/-- Whether evaluation gives a node a meaning: its comparator has one, and it belongs to this library
together with its operands. -/
def isKnown (p : Predicate) : Bool :=
  p.operands.all Operand.isOwn &&
    match p with
    | .compare comparator _ _ => comparator.isKnown
    | .foreign _ => Bool.false
    | _ => Bool.true

/-- Whether a node reads no undefined number, the record apart. -/
def isDefined (actor : Value) (p : Predicate) : Bool :=
  p.operands.all (Operand.isDefined actor)

/-! ## The shape of compiled predicates -/

/-- Whether a predicate is a single test of operands. -/
def isTest : Predicate → Bool
  | .compare .. => Bool.true
  | .member .. => Bool.true
  | .isNull .. => Bool.true
  | _ => Bool.false

/-- The predicates that policies compile to. Constants are truth values, comparators have a meaning
and the record on their left where they can be turned around, every node belongs to this library,
constants hold no undefined number and related rows are put to a single test; `admitted` says which
constructs without a meaning of their own may occur. -/
inductive Compiled (admitted : Unresolved → Prop) : Predicate → Prop where
  | const {b : Bool} : Compiled admitted (.const (.bool b))
  | all {operands : List Predicate} :
      (∀ p ∈ operands, Compiled admitted p) → Compiled admitted (.all operands)
  | any {operands : List Predicate} :
      (∀ p ∈ operands, Compiled admitted p) → Compiled admitted (.any operands)
  | not {operand : Predicate} : Compiled admitted operand → Compiled admitted (.not operand)
  | compare {comparator : Comparator} {left right : Operand} :
      comparator.isKnown → left.isSound → right.isSound →
      oriented comparator left right = .compare comparator left right →
      Compiled admitted (.compare comparator left right)
  | member {operand values : Operand} {negated : Bool} :
      operand.isSound → values.isSound → Compiled admitted (.member operand values negated)
  | isNull {operand : Operand} {negated : Bool} :
      operand.isSound → Compiled admitted (.isNull operand negated)
  | anyRelated {relation : String} {condition : Predicate} {joinFields : List String} :
      condition.isTest → Compiled admitted condition →
      Compiled admitted (.anyRelated relation condition joinFields)
  | select {subject : Operand} {branches : List (Operand × Predicate)} {otherwise : Predicate} :
      subject.isSound → (∀ branch ∈ branches, branch.1.isSound) →
      (∀ branch ∈ branches, Compiled admitted branch.2) → Compiled admitted otherwise →
      Compiled admitted (.select subject branches otherwise)
  | firstOf {branches : List (Predicate × Predicate)} {otherwise : Predicate} :
      (∀ branch ∈ branches, Compiled admitted branch.1) →
      (∀ branch ∈ branches, Compiled admitted branch.2) → Compiled admitted otherwise →
      Compiled admitted (.firstOf branches otherwise)
  | role {condition : Predicate} : Compiled admitted condition → Compiled admitted (.role condition)
  | unresolved {construct : Unresolved} {b : Bool} :
      construct.default = .bool b → admitted construct → Compiled admitted (.unresolved construct)

variable {admitted : Unresolved → Prop} {p : Predicate}

theorem Compiled.everywhere (compiled : p.Compiled admitted) :
    p.Everywhere fun node => node.isKnown ∧ ∀ operand ∈ node.operands, operand.isSound := by
  induction compiled with
  | const | unresolved _ _ => exact .node ⟨rfl, nofun⟩ nofun
  | all _ ih | any _ ih => exact .node ⟨rfl, nofun⟩ ih
  | not _ ih | anyRelated _ _ ih | role _ ih =>
      exact .node ⟨rfl, nofun⟩ (List.forall_mem_singleton.mpr ih)
  | compare known left right _ =>
      refine .node ⟨?_, by simp [operands, left, right]⟩ nofun
      simp [isKnown, operands, known, Operand.isOwn_of_isSound left, Operand.isOwn_of_isSound right]
  | member operand values =>
      refine .node ⟨?_, by simp [operands, operand, values]⟩ nofun
      simp [isKnown, operands, Operand.isOwn_of_isSound operand, Operand.isOwn_of_isSound values]
  | isNull operand =>
      refine .node ⟨?_, by simp [operands, operand]⟩ nofun
      simp [isKnown, operands, Operand.isOwn_of_isSound operand]
  | @select subject branches otherwise sound keys _ _ outcomeIH otherwiseIH =>
      have each :
          ∀ operand ∈ (Predicate.select subject branches otherwise).operands, operand.isSound :=
        List.forall_mem_cons.mpr ⟨sound, List.forall_mem_map.mpr keys⟩
      have own : (Predicate.select subject branches otherwise).operands.all Operand.isOwn :=
        List.all_eq_true.mpr fun operand member => Operand.isOwn_of_isSound (each operand member)
      refine .node ⟨Bool.and_eq_true_iff.mpr ⟨own, rfl⟩, each⟩ ?_
      refine List.forall_mem_append.mpr ⟨List.forall_mem_map.mpr outcomeIH, ?_⟩
      exact List.forall_mem_singleton.mpr otherwiseIH
  | firstOf _ _ _ keyIH outcomeIH otherwiseIH =>
      refine .node ⟨rfl, nofun⟩ (List.forall_mem_append.mpr ⟨List.forall_mem_map.mpr keyIH, ?_⟩)
      refine List.forall_mem_append.mpr ⟨List.forall_mem_map.mpr outcomeIH, ?_⟩
      exact List.forall_mem_singleton.mpr otherwiseIH

theorem Compiled.known (compiled : p.Compiled admitted) : p.Everywhere fun node => node.isKnown :=
  compiled.everywhere.imp fun _ => And.left

theorem Compiled.defined (compiled : p.Compiled admitted) {actor : Value}
    (actorDefined : actor.isDefined) : p.Everywhere fun node => node.isDefined actor :=
  compiled.everywhere.imp fun _ here => List.all_eq_true.mpr fun operand member =>
    Operand.isDefined_of_isSound (here.2 operand member) actorDefined

theorem Compiled.isProper_truth (compiled : p.Compiled admitted) (actor record : Value) :
    (p.truth actor record).isProper := by
  induction compiled generalizing record with
  | @const b => exact Truth.isProper_ofBool b
  | all _ _ => rw [truth_all]; exact Truth.isProper_all _
  | any _ _ => rw [truth_any]; exact Truth.isProper_any _
  | not _ _ => exact Truth.isProper_not _
  | compare _ _ _ _ => exact Comparator.isProper_compare _ _ _
  | member _ _ => exact Truth.isProper_negatedIf (Value.isProper_membership _ _) _
  | isNull _ => exact Truth.isProper_ofBool _
  | anyRelated _ _ _ => exact Truth.isProper_ofBool _
  | @select subject branches _ _ _ _ _ outcomeIH otherwiseIH =>
      rw [truth]
      cases chosen : truthSelect actor (subject.read actor record) branches record with
      | none => exact otherwiseIH record
      | some t =>
          obtain ⟨branch, member, rfl⟩ := mem_of_truthSelect chosen
          exact outcomeIH branch member record
  | @firstOf branches _ _ _ _ _ outcomeIH otherwiseIH =>
      rw [truth]
      cases chosen : truthFirst actor branches record with
      | none => exact otherwiseIH record
      | some t =>
          obtain ⟨branch, member, rfl⟩ := mem_of_truthFirst chosen
          exact outcomeIH branch member record
  | role _ ih => exact ih record
  | @unresolved construct b default _ =>
      simp only [truth, default]
      exact Truth.isProper_ofBool b

/-! ## Evaluation yields the truth -/

section Evaluation

variable {mode : UnloadedMode} {actor record : Value} {defined : Prop}

theorem yields_evalAll {ps : List Predicate}
    (evaluated : ∀ p ∈ ps, (p.eval mode actor record).Yields defined (p.truth actor record)) :
    (evalAll mode actor ps record).Yields defined (truthAll actor ps record) := by
  induction ps with
  | nil => exact Evaluation.yields_of_ok rfl
  | cons p ps ih =>
      rw [List.forall_mem_cons] at evaluated
      simp only [evalAll, truthAll]
      refine evaluated.1.bind ?_
      cases p.truth actor record with
      | no => exact Evaluation.yields_of_ok (by simp)
      | unknown | yes | other _ => exact (ih evaluated.2).map _

theorem yields_evalAny {ps : List Predicate}
    (evaluated : ∀ p ∈ ps, (p.eval mode actor record).Yields defined (p.truth actor record)) :
    (evalAny mode actor ps record).Yields defined (truthAny actor ps record) := by
  induction ps with
  | nil => exact Evaluation.yields_of_ok rfl
  | cons p ps ih =>
      rw [List.forall_mem_cons] at evaluated
      simp only [evalAny, truthAny]
      refine evaluated.1.bind ?_
      cases p.truth actor record with
      | yes => exact Evaluation.yields_of_ok (by simp)
      | no | unknown | other _ => exact (ih evaluated.2).map _

theorem yields_evalSelect (loaded : mode ≠ .fail) {subject : Value}
    {branches : List (Operand × Predicate)} (own : ∀ branch ∈ branches, branch.1.isOwn)
    (subjectDefined : defined → subject.isDefined)
    (keysDefined : defined → ∀ branch ∈ branches, (branch.1.read actor record).isDefined)
    (evaluated : ∀ branch ∈ branches,
      (branch.2.eval mode actor record).Yields defined (branch.2.truth actor record)) :
    (evalSelect mode actor subject branches record).Yields defined
      (truthSelect actor subject branches record) := by
  induction branches with
  | nil => exact Evaluation.yields_of_ok rfl
  | cons branch rest ih =>
      obtain ⟨key, outcome⟩ := branch
      rw [List.forall_mem_cons] at own evaluated
      simp only [List.forall_mem_cons] at keysDefined
      have compared : Evaluation.Yields (.lift (Comparator.eq.truth subject (key.read actor record)))
          defined (Comparator.eq.compare subject (key.read actor record)) :=
        Comparator.yields_truth rfl fun sound =>
          Comparator.truth_ne_invalid .eq (subjectDefined sound) (keysDefined sound).1
      simp only [evalSelect, truthSelect]
      refine (Evaluation.yields_of_ok (Operand.result_eval loaded own.1 actor record)).bind ?_
      refine compared.bind ?_
      split
      · exact evaluated.1.map _
      · exact ih own.2 (fun sound => (keysDefined sound).2) evaluated.2

theorem yields_evalFirst {branches : List (Predicate × Predicate)}
    (keys : ∀ branch ∈ branches,
      (branch.1.eval mode actor record).Yields defined (branch.1.truth actor record))
    (evaluated : ∀ branch ∈ branches,
      (branch.2.eval mode actor record).Yields defined (branch.2.truth actor record)) :
    (evalFirst mode actor branches record).Yields defined (truthFirst actor branches record) := by
  induction branches with
  | nil => exact Evaluation.yields_of_ok rfl
  | cons branch rest ih =>
      obtain ⟨key, outcome⟩ := branch
      rw [List.forall_mem_cons] at keys evaluated
      simp only [evalFirst, truthFirst]
      refine keys.1.bind ?_
      split
      · exact evaluated.1.map _
      · exact ih keys.2 evaluated.2

/-- Evaluating a predicate with a meaning yields its truth: nothing in it is refused, and what is
not loaded reads as null. -/
theorem Everywhere.yields_eval (known : p.Everywhere fun node => node.isKnown)
    (loaded : mode ≠ .fail) (record : Value)
    (nodesDefined : defined → p.Everywhere fun node => node.isDefined actor)
    (recordDefined : defined → record.isDefined) :
    (p.eval mode actor record).Yields defined (p.truth actor record) := by
  induction known generalizing record with
  | @node p here _ inner =>
      obtain ⟨own, known⟩ := Bool.and_eq_true_iff.mp here
      rw [List.all_eq_true] at own
      have ih (child : Predicate) (member : child ∈ p.children) (row : Value)
          (rowDefined : defined → row.isDefined) :=
        inner child member row (fun sound => (nodesDefined sound).children child member) rowDefined
      have read (operand : Operand) (member : operand ∈ p.operands) :
          (operand.eval mode actor record).Yields defined (operand.read actor record) :=
        .inl (Operand.result_eval loaded (own operand member) actor record)
      have value (operand : Operand) (member : operand ∈ p.operands) (sound : defined) :
          (operand.read actor record).isDefined :=
        Operand.isDefined_read (List.all_eq_true.mp (nodesDefined sound).here operand member)
          (recordDefined sound)
      cases p with
      | const _ | unresolved _ => exact .inl rfl
      | all operands => exact yields_evalAll fun p member => ih p member record recordDefined
      | any operands => exact yields_evalAny fun p member => ih p member record recordDefined
      | not operand => exact (ih operand (.head _) record recordDefined).map _
      | compare comparator left right =>
          refine (read left (.head _)).bind ((read right (.tail _ (.head _))).bind ?_)
          exact Comparator.yields_truth known fun sound => Comparator.truth_ne_invalid comparator
            (value left (.head _) sound) (value right (.tail _ (.head _)) sound)
      | member operand values negated =>
          refine (read operand (.head _)).bind ((read values (.tail _ (.head _))).bind ?_)
          refine (Value.yields_memberOf fun sound => ?_).map _
          exact Value.memberOf_ne_invalid (Value.isQuiet_of_isDefined (value operand (.head _) sound))
            (Value.isQuiet_of_isDefined (value values (.tail _ (.head _)) sound))
      | isNull operand negated => exact (read operand (.head _)).map _
      | anyRelated relation condition joinFields =>
          refine (Evaluation.yields_of_ok
            (Value.result_follow loaded record [relation])).bind ?_
          exact yields_someRow fun row member => ih condition (.head _) row fun sound =>
            Value.avoids_rows (recordDefined sound) relation row member
      | select subject branches otherwise =>
          have keys := List.forall_mem_map.mp fun operand member => own operand (.tail _ member)
          have outcomes (branch : Operand × Predicate) (member : branch ∈ branches) :=
            ih branch.2 (List.mem_append_left _ (List.mem_map_of_mem member)) record recordDefined
          have chosen := yields_evalSelect loaded keys (value subject (.head _))
            (fun sound branch member =>
              value branch.1 (.tail _ (List.mem_map_of_mem member)) sound) outcomes
          rw [eval, truth]
          refine (read subject (.head _)).bind (chosen.bind ?_)
          cases truthSelect actor (subject.read actor record) branches record with
          | none =>
              exact ih otherwise (List.mem_append_right _ (.head _)) record recordDefined
          | some t => exact .inl rfl
      | firstOf branches otherwise =>
          have keys (branch : Predicate × Predicate) (member : branch ∈ branches) :=
            ih branch.1 (List.mem_append_left _ (List.mem_map_of_mem member)) record recordDefined
          have outcomes (branch : Predicate × Predicate) (member : branch ∈ branches) :=
            ih branch.2 (List.mem_append_right _ (List.mem_append_left _
              (List.mem_map_of_mem member))) record recordDefined
          rw [eval, truth]
          refine (yields_evalFirst keys outcomes).bind ?_
          cases truthFirst actor branches record with
          | none =>
              exact ih otherwise (List.mem_append_right _ (List.mem_append_right _ (.head _)))
                record recordDefined
          | some t => exact .inl rfl
      | role condition => exact ih condition (.head _) record recordDefined
      | foreign _ => cases known

theorem Compiled.yields_eval (compiled : p.Compiled admitted) (loaded : mode ≠ .fail)
    (actor record : Value) :
    (p.eval mode actor record).Yields (actor.isDefined ∧ record.isDefined)
      (p.truth actor record) :=
  compiled.known.yields_eval loaded record (fun sound => compiled.defined sound.1) And.right

theorem Compiled.yields_grants (compiled : p.Compiled admitted) (loaded : mode ≠ .fail)
    (actor record : Value) :
    (p.grants mode record actor).Yields (actor.isDefined ∧ record.isDefined)
      (p.truth actor record).holds :=
  (compiled.yields_eval loaded actor record).map _

end Evaluation

end Predicate

end RowGuard
