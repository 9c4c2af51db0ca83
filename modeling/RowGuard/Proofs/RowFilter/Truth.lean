import RowGuard.RowFilter.Eval
import RowGuard.Proofs.Predicate.Laws

/-! The truth of row filters as a function. Unless unloaded relationships are a
failure, evaluation of a filter whose nodes all have a meaning yields its truth
on the record and the actor. Policies compile to such filters. -/

set_option autoImplicit false

namespace RowGuard

namespace RowFilter

/-! ## Truth -/

mutual

/-- The truth of a filter on a record, where unloaded relationships read as null. -/
def truth (actor : Value) : RowFilter → Value → Truth
  | .pass, _ => .yes
  | .block, _ => .no
  | .all operands, record => truthAll actor operands record
  | .any operands, record => truthAny actor operands record
  | .not operand, record => (truth actor operand record).not
  | .equals field value, record =>
    Comparator.eq.compare (record.read [field]) (value.read actor record)
  | .compare field comparator value, record =>
    comparator.compare (record.read [field]) (value.read actor record)
  | .member field values, record => (record.read [field]).membership (values.read actor record)
  | .isNull field, record => .ofBool (record.read [field]).isNull
  | .like field pattern ignoreCase, record =>
    (record.read [field]).matches ignoreCase (pattern.read actor record)
  | .someRelated relation condition _, record =>
    .ofBool (((record.read [relation]).items?.getD []).any fun row =>
      (truth actor condition row).holds)
  | .related relation condition, record =>
    .ofBool (!(record.read [relation]).isNull &&
      (truth actor condition (record.read [relation])).holds)
  | .given role passed failed, record =>
    if (role.truth actor .null).holds then truth actor passed record
    else truth actor failed record
  | .unresolved construct, _ => .ofValue construct.default
  | .roleOnly condition, _ => .ofBool (condition.truth actor .null).holds
  | .foreign _, _ => .unknown
termination_by structural f => f

def truthAll (actor : Value) : List RowFilter → Value → Truth
  | [], _ => .yes
  | f :: fs, record => (truth actor f record).and (truthAll actor fs record)
termination_by structural fs => fs

def truthAny (actor : Value) : List RowFilter → Value → Truth
  | [], _ => .no
  | f :: fs, record => (truth actor f record).or (truthAny actor fs record)
termination_by structural fs => fs

end

theorem truthAll_eq (actor : Value) (fs : List RowFilter) (record : Value) :
    truthAll actor fs record = Truth.all (fs.map (truth actor · record)) := by
  induction fs with
  | nil => rfl
  | cons f fs ih => simp only [truthAll, List.map_cons, Truth.all_cons, ih]

theorem truthAny_eq (actor : Value) (fs : List RowFilter) (record : Value) :
    truthAny actor fs record = Truth.any (fs.map (truth actor · record)) := by
  induction fs with
  | nil => rfl
  | cons f fs ih => simp only [truthAny, List.map_cons, Truth.any_cons, ih]

@[simp]
theorem truth_all (actor : Value) (fs : List RowFilter) (record : Value) :
    (RowFilter.all fs).truth actor record = Truth.all (fs.map (truth actor · record)) := by
  rw [truth, truthAll_eq]

@[simp]
theorem truth_any (actor : Value) (fs : List RowFilter) (record : Value) :
    (RowFilter.any fs).truth actor record = Truth.any (fs.map (truth actor · record)) := by
  rw [truth, truthAny_eq]

/-! ## Nodes -/

/-- The filters that a filter is put together from. -/
def children : RowFilter → List RowFilter
  | .all operands => operands
  | .any operands => operands
  | .not operand => [operand]
  | .someRelated _ condition _ => [condition]
  | .related _ condition => [condition]
  | .given _ passed failed => [passed, failed]
  | _ => []

/-- Whether something holds of every node of a filter. -/
inductive Everywhere (holds : RowFilter → Prop) : RowFilter → Prop where
  | node {f : RowFilter} :
      holds f → (∀ child ∈ f.children, Everywhere holds child) → Everywhere holds f

section Everywhere

variable {holds other : RowFilter → Prop} {f : RowFilter}

theorem Everywhere.here (everywhere : f.Everywhere holds) : holds f := by
  cases everywhere with
  | node here _ => exact here

theorem Everywhere.children (everywhere : f.Everywhere holds) :
    ∀ child ∈ f.children, child.Everywhere holds := by
  cases everywhere with
  | node _ children => exact children

theorem everywhere_of_leaf (leaf : f.children = []) (here : holds f) : f.Everywhere holds :=
  .node here (by simp [leaf])

theorem Everywhere.imp (everywhere : f.Everywhere holds)
    (weaker : ∀ node, holds node → other node) : f.Everywhere other := by
  induction everywhere with
  | node here _ ih => exact .node (weaker _ here) ih

end Everywhere

/-- Whether evaluation gives a node a meaning: its comparator and its role condition have one, and it
belongs to this library together with its operand. -/
def Known : RowFilter → Prop
  | .equals _ value => value.isOwn
  | .compare _ comparator value => comparator.isKnown ∧ value.isOwn
  | .member _ values => values.isOwn
  | .like _ pattern _ => pattern.isOwn
  | .given role _ _ => role.Everywhere fun node => node.isKnown
  | .roleOnly condition => condition.Everywhere fun node => node.isKnown
  | .foreign _ => False
  | _ => True

/-- Whether a node and its role condition read no undefined number, the record apart. -/
def Defined (actor : Value) : RowFilter → Prop
  | .equals _ value => value.isDefined actor
  | .compare _ _ value => value.isDefined actor
  | .member _ values => values.isDefined actor
  | .like _ pattern _ => pattern.isDefined actor
  | .given role _ _ => role.Everywhere fun node => node.isDefined actor
  | .roleOnly condition => condition.Everywhere fun node => node.isDefined actor
  | _ => True

/-- Whether a node, if it is a construct without a meaning of its own, is one of those admitted. -/
def Leaves (admitted : Unresolved → Prop) (f : RowFilter) : Prop :=
  ∀ construct, f = .unresolved construct → admitted construct

/-- Whether a node is no construct without a meaning of its own. -/
def Meaningful : RowFilter → Prop :=
  Leaves fun _ => False

/-- Whether a node, if it is a construct without a meaning of its own, has a truth value for its
default. -/
def Defaulted : RowFilter → Prop :=
  Leaves fun construct => ∃ b, construct.default = .bool b

theorem Leaves.imp {admitted wider : Unresolved → Prop} {f : RowFilter} (leaves : f.Leaves admitted)
    (wide : ∀ construct, admitted construct → wider construct) : f.Leaves wider :=
  fun construct same => wide construct (leaves construct same)

theorem Meaningful.defaulted {f : RowFilter} (meaningful : f.Meaningful) : f.Defaulted :=
  meaningful.imp fun _ => False.elim

theorem isProper_truth {f : RowFilter} (defaulted : f.Everywhere Defaulted) (actor record : Value) :
    (f.truth actor record).isProper := by
  induction defaulted generalizing record with
  | @node f here _ ih =>
      cases f with
      | pass | block | foreign _ => rfl
      | all _ => rw [truth_all]; exact Truth.isProper_all _
      | any _ => rw [truth_any]; exact Truth.isProper_any _
      | not _ => exact Truth.isProper_not _
      | equals _ _ | compare _ _ _ => exact Comparator.isProper_compare _ _ _
      | member _ _ => exact Value.isProper_membership _ _
      | isNull _ | someRelated _ _ _ | related _ _ | roleOnly _ => exact Truth.isProper_ofBool _
      | like _ _ _ => exact Value.isProper_matches _ _ _
      | given role passed failed =>
          rw [truth]
          split
          · exact ih passed (.head _) record
          · exact ih failed (.tail _ (.head _)) record
      | unresolved construct =>
          obtain ⟨b, default⟩ := here construct rfl
          simp only [truth, default]
          exact Truth.isProper_ofBool b

/-! ## The shape of compiled filters -/

/-- The filters that policies compile to. Comparators have a meaning, role conditions are compiled
predicates, every node belongs to this library and constants hold no undefined number. `admitted`
says which constructs without a meaning of their own may occur, and `roles` which role conditions may
stand among the filters. -/
inductive Compiled (admitted : Unresolved → Prop) (roles : Predicate → Prop) : RowFilter → Prop where
  | pass : Compiled admitted roles .pass
  | block : Compiled admitted roles .block
  | all {operands : List RowFilter} :
      (∀ f ∈ operands, Compiled admitted roles f) → Compiled admitted roles (.all operands)
  | any {operands : List RowFilter} :
      (∀ f ∈ operands, Compiled admitted roles f) → Compiled admitted roles (.any operands)
  | not {operand : RowFilter} :
      Compiled admitted roles operand → Compiled admitted roles (.not operand)
  | equals {field : String} {value : Operand} :
      value.isSound → Compiled admitted roles (.equals field value)
  | compare {field : String} {comparator : Comparator} {value : Operand} :
      comparator.isKnown → value.isSound → Compiled admitted roles (.compare field comparator value)
  | member {field : String} {values : Operand} :
      values.isSound → Compiled admitted roles (.member field values)
  | isNull {field : String} : Compiled admitted roles (.isNull field)
  | like {field : String} {pattern : Operand} {ignoreCase : Bool} :
      pattern.isSound → Compiled admitted roles (.like field pattern ignoreCase)
  | someRelated {relation : String} {condition : RowFilter} {joinFields : List String} :
      Compiled admitted roles condition →
      Compiled admitted roles (.someRelated relation condition joinFields)
  | related {relation : String} {condition : RowFilter} :
      Compiled admitted roles condition → Compiled admitted roles (.related relation condition)
  | given {role : Predicate} {passed failed : RowFilter} :
      role.Compiled admitted → Compiled admitted roles passed → Compiled admitted roles failed →
      Compiled admitted roles (.given role passed failed)
  | unresolved {construct : Unresolved} {b : Bool} :
      construct.default = .bool b → admitted construct →
      Compiled admitted roles (.unresolved construct)
  | roleOnly {condition : Predicate} :
      condition.Compiled admitted → roles condition → Compiled admitted roles (.roleOnly condition)

variable {admitted : Unresolved → Prop} {roles : Predicate → Prop} {f : RowFilter}

theorem Compiled.mono {wider : Predicate → Prop} (compiled : f.Compiled admitted roles)
    (wide : ∀ condition, roles condition → wider condition) : f.Compiled admitted wider := by
  induction compiled with
  | pass => exact .pass
  | block => exact .block
  | all _ ih => exact .all ih
  | any _ ih => exact .any ih
  | not _ ih => exact .not ih
  | equals own => exact .equals own
  | compare known own => exact .compare known own
  | member own => exact .member own
  | isNull => exact .isNull
  | like own => exact .like own
  | someRelated _ ih => exact .someRelated ih
  | related _ ih => exact .related ih
  | given role _ _ passedIH failedIH => exact .given role passedIH failedIH
  | unresolved default admits => exact .unresolved default admits
  | roleOnly condition stands => exact .roleOnly condition (wide _ stands)

theorem Compiled.everywhere (compiled : f.Compiled admitted roles) :
    f.Everywhere fun node => (node.Known ∧ ∀ actor : Value, actor.isDefined → node.Defined actor) ∧
      node.Leaves fun construct => admitted construct ∧ ∃ b, construct.default = .bool b := by
  have sound {operand : Operand} (sound : operand.isSound) :
      operand.isOwn ∧ ∀ actor : Value, actor.isDefined → operand.isDefined actor :=
    ⟨Operand.isOwn_of_isSound sound, fun _ => Operand.isDefined_of_isSound sound⟩
  have role {condition : Predicate} (compiled : condition.Compiled admitted) :
      (condition.Everywhere fun node => node.isKnown) ∧ ∀ actor : Value, actor.isDefined →
        condition.Everywhere fun node => node.isDefined actor :=
    ⟨compiled.known, fun _ => compiled.defined⟩
  have free : True ∧ ∀ actor : Value, actor.isDefined → True := ⟨trivial, fun _ _ => trivial⟩
  induction compiled with
  | pass | block | isNull => exact .node ⟨free, nofun⟩ nofun
  | all _ ih | any _ ih => exact .node ⟨free, nofun⟩ ih
  | not _ ih | someRelated _ ih | related _ ih =>
      exact .node ⟨free, nofun⟩ (List.forall_mem_singleton.mpr ih)
  | equals value | member value | like value => exact .node ⟨sound value, nofun⟩ nofun
  | compare known value =>
      obtain ⟨own, defined⟩ := sound value
      exact .node ⟨⟨⟨known, own⟩, defined⟩, nofun⟩ nofun
  | given condition _ _ passedIH failedIH =>
      refine .node ⟨role condition, nofun⟩ (List.forall_mem_cons.mpr ⟨passedIH, ?_⟩)
      exact List.forall_mem_singleton.mpr failedIH
  | @unresolved construct b default admits =>
      refine .node ⟨free, ?_⟩ nofun
      rintro _ ⟨⟩
      exact ⟨admits, b, default⟩
  | roleOnly condition _ => exact .node ⟨role condition, nofun⟩ nofun

theorem Compiled.known (compiled : f.Compiled admitted roles) : f.Everywhere Known :=
  compiled.everywhere.imp fun _ here => here.1.1

theorem Compiled.defined (compiled : f.Compiled admitted roles) {actor : Value}
    (actorDefined : actor.isDefined) : f.Everywhere (Defined actor) :=
  compiled.everywhere.imp fun _ here => here.1.2 actor actorDefined

theorem Compiled.leaves (compiled : f.Compiled admitted roles) : f.Everywhere (Leaves admitted) :=
  compiled.everywhere.imp fun _ here => here.2.imp fun _ => And.left

theorem Compiled.defaulted (compiled : f.Compiled admitted roles) : f.Everywhere Defaulted :=
  compiled.everywhere.imp fun _ here => here.2.imp fun _ => And.right

theorem Compiled.isProper_truth (compiled : f.Compiled admitted roles) (actor record : Value) :
    (f.truth actor record).isProper :=
  RowFilter.isProper_truth compiled.defaulted actor record

/-! ## Evaluation yields the truth -/

section Evaluation

variable {mode : UnloadedMode} {actor record : Value} {defined : Prop}

theorem yields_evalAll {fs : List RowFilter}
    (evaluated : ∀ f ∈ fs, (f.eval mode actor record).Yields defined (f.truth actor record)) :
    (evalAll mode actor fs record).Yields defined (truthAll actor fs record) := by
  induction fs with
  | nil => exact Evaluation.yields_of_ok rfl
  | cons f fs ih =>
      rw [List.forall_mem_cons] at evaluated
      simp only [evalAll, truthAll]
      refine evaluated.1.bind ?_
      cases f.truth actor record with
      | no => exact Evaluation.yields_of_ok (by simp)
      | unknown | yes | other _ => exact (ih evaluated.2).map _

theorem yields_evalAny {fs : List RowFilter}
    (evaluated : ∀ f ∈ fs, (f.eval mode actor record).Yields defined (f.truth actor record)) :
    (evalAny mode actor fs record).Yields defined (truthAny actor fs record) := by
  induction fs with
  | nil => exact Evaluation.yields_of_ok rfl
  | cons f fs ih =>
      rw [List.forall_mem_cons] at evaluated
      simp only [evalAny, truthAny]
      refine evaluated.1.bind ?_
      cases f.truth actor record with
      | yes => exact Evaluation.yields_of_ok (by simp)
      | no | unknown | other _ => exact (ih evaluated.2).map _

/-- Evaluating a filter with a meaning yields its truth. -/
theorem Everywhere.yields_eval (known : f.Everywhere Known) (loaded : mode ≠ .fail) (record : Value)
    (nodesDefined : defined → f.Everywhere (Defined actor))
    (recordDefined : defined → record.isDefined) :
    (f.eval mode actor record).Yields defined (f.truth actor record) := by
  induction known generalizing record with
  | @node f here _ inner =>
      have ih (child : RowFilter) (member : child ∈ f.children) (row : Value)
          (rowDefined : defined → row.isDefined) :=
        inner child member row (fun sound => (nodesDefined sound).children child member) rowDefined
      have field (name : String) :
          (record.follow mode [name]).Yields defined (record.read [name]) :=
        .inl (Value.result_follow loaded record [name])
      have side {operand : Operand} (own : operand.isOwn) :
          (operand.eval mode actor record).Yields defined (operand.read actor record) :=
        .inl (Operand.result_eval loaded own actor record)
      have fieldDefined (name : String) (sound : defined) : (record.read [name]).isDefined :=
        Value.avoids_read (recordDefined sound) [name]
      have sideDefined {operand : Operand} (held : operand.isDefined actor) (sound : defined) :
          (operand.read actor record).isDefined :=
        Operand.isDefined_read held (recordDefined sound)
      have role {condition : Predicate} (meant : condition.Everywhere fun node => node.isKnown)
          (held : defined → condition.Everywhere fun node => node.isDefined actor) :
          (condition.eval mode actor .null).Yields defined (condition.truth actor .null) :=
        meant.yields_eval loaded .null held fun _ => rfl
      cases f with
      | pass | block | unresolved _ => exact .inl rfl
      | all operands => exact yields_evalAll fun f member => ih f member record recordDefined
      | any operands => exact yields_evalAny fun f member => ih f member record recordDefined
      | not operand => exact (ih operand (.head _) record recordDefined).map _
      | equals name value =>
          refine (field name).bind ((side here).bind ?_)
          exact Comparator.yields_truth rfl fun sound => Comparator.truth_ne_invalid .eq
            (fieldDefined name sound) (sideDefined (nodesDefined sound).here sound)
      | compare name comparator value =>
          refine (field name).bind ((side here.2).bind ?_)
          exact Comparator.yields_truth here.1 fun sound => Comparator.truth_ne_invalid comparator
            (fieldDefined name sound) (sideDefined (nodesDefined sound).here sound)
      | member name values =>
          refine (field name).bind ((side here).bind ?_)
          refine Value.yields_memberOf fun sound => Value.memberOf_ne_invalid
            (Value.isQuiet_of_isDefined (fieldDefined name sound)) ?_
          exact Value.isQuiet_of_isDefined (sideDefined (nodesDefined sound).here sound)
      | isNull name => exact (field name).map _
      | like name pattern ignoreCase => exact (field name).bind ((side here).map _)
      | someRelated relation condition joinFields =>
          refine (field relation).bind (yields_someRow fun row member => ?_)
          exact ih condition (.head _) row fun sound =>
            Value.avoids_rows (recordDefined sound) relation row member
      | related relation condition =>
          rw [eval, truth]
          refine (field relation).bind ?_
          cases (record.read [relation]).isNull with
          | true => exact .inl rfl
          | false => exact (ih condition (.head _) _ (fieldDefined relation)).map _
      | given _ passed failed =>
          rw [eval, truth]
          refine (role here fun sound => (nodesDefined sound).here).bind ?_
          split
          · exact ih passed (.head _) record recordDefined
          · exact ih failed (.tail _ (.head _)) record recordDefined
      | roleOnly _ => exact (role here fun sound => (nodesDefined sound).here).map _
      | foreign _ => exact here.elim

theorem Everywhere.yields_passes (known : f.Everywhere Known) (loaded : mode ≠ .fail)
    (nodesDefined : defined → f.Everywhere (Defined actor))
    (recordDefined : defined → record.isDefined) :
    (f.passes mode record actor).Yields defined (f.truth actor record).holds :=
  (known.yields_eval loaded record nodesDefined recordDefined).map _

theorem Compiled.yields_passes (compiled : f.Compiled admitted roles) (loaded : mode ≠ .fail)
    (actor record : Value) :
    (f.passes mode record actor).Yields (actor.isDefined ∧ record.isDefined)
      (f.truth actor record).holds :=
  compiled.known.yields_passes loaded (fun sound => compiled.defined sound.1) And.right

end Evaluation

end RowFilter

end RowGuard
