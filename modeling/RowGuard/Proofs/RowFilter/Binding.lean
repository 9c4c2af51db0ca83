import RowGuard.Proofs.RowFilter.Laws

/-! Binding filters to actors. Unless unloaded relationships are a failure,
binding yields a filter that depends on rows alone. It has the same truth as
before, whoever evaluates it, unless a stand-in comes to stand alone under a
negation. Role checks that an actor fails block every row. -/

set_option autoImplicit false

namespace RowGuard

/-! ## Operands -/

namespace Operand

/-- The operand for one actor. -/
def bound (actor : Value) : Operand → Operand
  | .actor path _ => .value (actor.read path)
  | operand => operand

/-- The set of values for one actor. -/
def boundSet (actor : Value) : Operand → Operand
  | .actor path _ => .values ((actor.read path).items?.getD [.null])
  | operand => operand

variable {mode : UnloadedMode} {operand : Operand}

theorem result_bind (loaded : mode ≠ .fail) (operand : Operand) (actor : Value) :
    (operand.bind mode actor).result = .ok (operand.bound actor) := by
  cases operand with
  | actor path source =>
      exact Traced.result_bind_pure_of_ok (Value.result_follow loaded actor path) _
  | record _ | value _ | values _ | foreign _ => rfl

theorem result_bindSet (loaded : mode ≠ .fail) (operand : Operand) (actor : Value) :
    (operand.bindSet mode actor).result = .ok (operand.boundSet actor) := by
  cases operand with
  | actor path source =>
      exact Traced.result_bind_pure_of_ok (Value.result_follow loaded actor path) _
  | record _ | value _ | values _ | foreign _ => rfl

theorem isOwn_bound (own : operand.isOwn) (actor : Value) : (operand.bound actor).isOwn := by
  cases operand with
  | foreign _ => cases own
  | actor _ _ | record _ | value _ | values _ => rfl

theorem isOwn_boundSet (own : operand.isOwn) (actor : Value) : (operand.boundSet actor).isOwn := by
  cases operand with
  | foreign _ => cases own
  | actor _ _ | record _ | value _ | values _ => rfl

theorem isDefined_bound {actor : Value} (defined : operand.isDefined actor) (other : Value) :
    (operand.bound actor).isDefined other := by
  cases operand with
  | actor path _ => exact Value.avoids_read (show actor.isDefined from defined) path
  | record _ | value _ | values _ | foreign _ => exact defined

theorem isDefined_boundSet {actor : Value} (defined : operand.isDefined actor) (other : Value) :
    (operand.boundSet actor).isDefined other := by
  cases operand with
  | actor path _ =>
      refine List.all_eq_true.mpr ?_
      cases found : (actor.read path).items? with
      | none => exact List.forall_mem_singleton.mpr rfl
      | some items =>
          have read := Value.avoids_read (show actor.isDefined from defined) path
          exact Value.avoids_items read found
  | record _ | value _ | values _ | foreign _ => exact defined

theorem read_bound (operand : Operand) (actor other record : Value) :
    (operand.bound actor).read other record = operand.read actor record := by
  cases operand with
  | actor _ _ | record _ | value _ | values _ | foreign _ => rfl

end Operand

/-- Membership in the bound set is membership in the actor's value: null has no items, and neither
it nor the set that holds null alone says anything about what it contains. -/
theorem Value.memberOf_boundSet (value : Value) (operand : Operand) (actor other record : Value) :
    value.memberOf ((operand.boundSet actor).read other record) =
      value.memberOf (operand.read actor record) := by
  cases operand with
  | actor path source =>
      have items (vs : List Value) : (Value.tuple vs).items? = some vs := rfl
      simp only [Operand.boundSet, Operand.read, memberOf, items]
      cases (actor.read path).items? with
      | some _ => rfl
      | none =>
          cases present : value.isNull with
          | true => rfl
          | false => simp [foundIn?, same?_null present, isNull]
  | record _ | value _ | values _ | foreign _ => rfl

namespace RowFilter

/-! ## Filters -/

mutual

/-- The filter for one actor, where unloaded relationships read as null. -/
def bound (actor : Value) : RowFilter → RowFilter
  | .roleOnly condition => if (condition.truth actor .null).holds then .pass else .block
  | .given role passed failed =>
    if (role.truth actor .null).holds then bound actor passed else bound actor failed
  | .all operands => allOf (boundAll actor operands)
  | .any operands => anyOf (boundAll actor operands)
  | .not operand => negate (bound actor operand)
  | .equals field value => .equals field (value.bound actor)
  | .compare field comparator value => .compare field comparator (value.bound actor)
  | .like field pattern ignoreCase => .like field (pattern.bound actor) ignoreCase
  | .member field values => .member field (values.boundSet actor)
  | .someRelated relation condition joinFields =>
    .someRelated relation (bound actor condition) joinFields
  | .related relation condition => .related relation (bound actor condition)
  | .pass => .pass
  | .block => .block
  | .isNull field => .isNull field
  | .unresolved construct => .unresolved construct
  | .foreign node => .foreign node
termination_by structural f => f

def boundAll (actor : Value) : List RowFilter → List RowFilter
  | [] => []
  | f :: fs => bound actor f :: boundAll actor fs
termination_by structural fs => fs

end

theorem boundAll_eq_map (actor : Value) (fs : List RowFilter) :
    boundAll actor fs = fs.map (bound actor) := by
  induction fs with
  | nil => rfl
  | cons f fs ih => simp only [boundAll, List.map_cons, ih]

section Binding

variable {mode : UnloadedMode} {admitted : Unresolved → Prop} {roles : Predicate → Prop}
  {f : RowFilter}

theorem yields_bindAll {defined : Prop} {actor : Value} {fs : List RowFilter}
    (ended : ∀ f ∈ fs, (f.bind mode actor).Yields defined (f.bound actor)) :
    (bindAll mode actor fs).Yields defined (boundAll actor fs) := by
  induction fs with
  | nil => exact Evaluation.yields_of_ok rfl
  | cons f fs ih =>
      rw [List.forall_mem_cons] at ended
      rw [bindAll]
      exact ended.1.bind ((ih ended.2).map _)

/-- Whether binding has an answer at a node: it belongs to this library, and its role condition has
a meaning. -/
def Bindable : RowFilter → Prop
  | .given role _ _ => role.Everywhere fun node => node.isKnown
  | .roleOnly condition => condition.Everywhere fun node => node.isKnown
  | .foreign _ => False
  | _ => True

theorem Known.bindable (known : f.Known) : f.Bindable := by
  cases f with
  | given _ _ _ | roleOnly _ => exact known
  | foreign _ => exact known.elim
  | pass | block | all _ | any _ | not _ | equals _ _ | compare _ _ _ | member _ _ | isNull _
  | like _ _ _ | someRelated _ _ _ | related _ _ | unresolved _ => trivial

/-- Whether the role condition of a node, if it has one, reads no undefined number. -/
def RoleDefined (actor : Value) : RowFilter → Prop
  | .given role _ _ => role.Everywhere fun node => node.isDefined actor
  | .roleOnly condition => condition.Everywhere fun node => node.isDefined actor
  | _ => True

theorem Defined.roleDefined {actor : Value} (defined : f.Defined actor) : f.RoleDefined actor := by
  cases f with
  | given _ _ _ | roleOnly _ => exact defined
  | pass | block | all _ | any _ | not _ | equals _ _ | compare _ _ _ | member _ _ | isNull _
  | like _ _ _ | someRelated _ _ _ | related _ _ | unresolved _ | foreign _ => trivial

/-- Binding a filter that has an answer everywhere yields the filter for the actor. -/
theorem Everywhere.yields_bind (bindable : f.Everywhere Bindable) (loaded : mode ≠ .fail)
    (actor : Value) :
    (f.bind mode actor).Yields (f.Everywhere (RoleDefined actor)) (f.bound actor) := by
  have asked {condition : Predicate} (meant : condition.Everywhere fun node => node.isKnown) :
      (condition.grants mode .null actor).Yields
        (condition.Everywhere fun node => node.isDefined actor)
        (condition.truth actor .null).holds :=
    (meant.yields_eval loaded .null id fun _ => rfl).map _
  induction bindable with
  | @node f here _ ih =>
      have inner (child : RowFilter) (member : child ∈ f.children) :
          (child.bind mode actor).Yields (f.Everywhere (RoleDefined actor)) (child.bound actor) :=
        (ih child member).mono fun sound => sound.children child member
      cases f with
      | pass | block | isNull _ | unresolved _ => exact .inl rfl
      | all _ | any _ => exact (yields_bindAll inner).map _
      | not operand => exact (inner operand (.head _)).map _
      | someRelated _ condition _ | related _ condition => exact (inner condition (.head _)).map _
      | equals _ operand | compare _ _ operand | like _ operand _ =>
          exact .inl (Traced.result_bind_pure_of_ok (operand.result_bind loaded actor) _)
      | member _ operand =>
          exact .inl (Traced.result_bind_pure_of_ok (operand.result_bindSet loaded actor) _)
      | given role passed failed =>
          rw [bind, bound]
          refine ((asked here).mono Everywhere.here).bind ?_
          split
          · exact inner passed (.head _)
          · exact inner failed (.tail _ (.head _))
      | roleOnly condition =>
          rw [bind, bound]
          refine ((asked here).mono Everywhere.here).bind ?_
          split <;> exact .inl rfl
      | foreign _ => exact here.elim

/-! ## Nodes of bound filters -/

/-- What holds of the nodes of a filter, and what of those of the bound one: connectives meet the
latter, and a node meets it when its operand is bound. -/
structure Binds (actor : Value) (before after : RowFilter → Prop) : Prop extends Connects after where
  equals {field : String} {value : Operand} :
    before (.equals field value) → after (.equals field (value.bound actor))
  compare {field : String} {comparator : Comparator} {value : Operand} :
    before (.compare field comparator value) → after (.compare field comparator (value.bound actor))
  member {field : String} {values : Operand} :
    before (.member field values) → after (.member field (values.boundSet actor))
  isNull {field : String} : before (.isNull field) → after (.isNull field)
  like {field : String} {pattern : Operand} {ignoreCase : Bool} :
    before (.like field pattern ignoreCase) → after (.like field (pattern.bound actor) ignoreCase)
  someRelated {relation : String} {condition : RowFilter} {joinFields : List String} :
    before (.someRelated relation condition joinFields) →
    after (.someRelated relation (condition.bound actor) joinFields)
  related {relation : String} {condition : RowFilter} :
    before (.related relation condition) → after (.related relation (condition.bound actor))
  unresolved {construct : Unresolved} :
    before (.unresolved construct) → after (.unresolved construct)
  foreign {node : Foreign} : before (.foreign node) → after (.foreign node)

theorem Binds.everywhere_bound {actor : Value} {before after : RowFilter → Prop}
    (binds : Binds actor before after) (everywhere : f.Everywhere before) :
    (f.bound actor).Everywhere after := by
  induction everywhere with
  | @node f here _ ih =>
      cases f with
      | pass => exact .node binds.pass nofun
      | block => exact .node binds.block nofun
      | isNull _ => exact .node (binds.isNull here) nofun
      | unresolved _ => exact .node (binds.unresolved here) nofun
      | foreign _ => exact .node (binds.foreign here) nofun
      | all operands =>
          rw [bound, boundAll_eq_map]
          exact binds.everywhere_allOf (List.forall_mem_map.mpr ih)
      | any operands =>
          rw [bound, boundAll_eq_map]
          exact binds.everywhere_anyOf (List.forall_mem_map.mpr ih)
      | not operand => exact binds.everywhere_negate (ih operand (.head _))
      | equals _ _ => exact .node (binds.equals here) nofun
      | compare _ _ _ => exact .node (binds.compare here) nofun
      | member _ _ => exact .node (binds.member here) nofun
      | like _ _ _ => exact .node (binds.like here) nofun
      | someRelated _ condition _ =>
          exact .node (binds.someRelated here)
            (List.forall_mem_singleton.mpr (ih condition (.head _)))
      | related _ condition =>
          exact .node (binds.related here) (List.forall_mem_singleton.mpr (ih condition (.head _)))
      | given _ passed failed =>
          rw [bound]
          split
          · exact ih passed (.head _)
          · exact ih failed (.tail _ (.head _))
      | roleOnly _ =>
          rw [bound]
          split
          · exact .node binds.pass nofun
          · exact .node binds.block nofun

theorem binds_known (actor : Value) : Binds actor Known Known where
  toConnects := connects_known
  equals own := Operand.isOwn_bound own actor
  compare here := ⟨here.1, Operand.isOwn_bound here.2 actor⟩
  member own := Operand.isOwn_boundSet own actor
  isNull := id
  like own := Operand.isOwn_bound own actor
  someRelated _ := trivial
  related _ := trivial
  unresolved := id
  foreign := id

/-- What a filter reads for its actor, the bound one reads for every actor. -/
theorem binds_defined (actor other : Value) : Binds actor (Defined actor) (Defined other) where
  pass := trivial
  block := trivial
  all _ := trivial
  any _ := trivial
  not _ := trivial
  negate _ _ := trivial
  equals defined := Operand.isDefined_bound defined other
  compare defined := Operand.isDefined_bound defined other
  member defined := Operand.isDefined_boundSet defined other
  isNull _ := trivial
  like defined := Operand.isDefined_bound defined other
  someRelated _ := trivial
  related _ := trivial
  unresolved _ := trivial
  foreign _ := trivial

theorem binds_leaves (actor : Value)
    (negates : ∀ construct, admitted construct → admitted construct.negate) :
    Binds actor (Leaves admitted) (Leaves admitted) where
  toConnects := connects_leaves negates
  equals _ := nofun
  compare _ := nofun
  member _ := nofun
  isNull := id
  like _ := nofun
  someRelated _ := nofun
  related _ := nofun
  unresolved := id
  foreign := id

theorem binds_meaningful (actor : Value) : Binds actor Meaningful Meaningful :=
  binds_leaves actor fun _ => id

theorem binds_defaulted (actor : Value) : Binds actor Defaulted Defaulted :=
  binds_leaves actor fun _ => id

/-! ## Truth of bound filters -/

/-- Whether an actor meets a negation in a filter of whose operand binding leaves a construct
alone. Negating such a construct keeps its default, so the negation is lost. -/
inductive Surfaces (actor : Value) : RowFilter → Prop where
  | here {operand : RowFilter} {construct : Unresolved} :
      operand.bound actor = .unresolved construct → Surfaces actor (.not operand)
  | not {operand : RowFilter} : Surfaces actor operand → Surfaces actor (.not operand)
  | all {operands : List RowFilter} {f : RowFilter} :
      f ∈ operands → Surfaces actor f → Surfaces actor (.all operands)
  | any {operands : List RowFilter} {f : RowFilter} :
      f ∈ operands → Surfaces actor f → Surfaces actor (.any operands)
  | someRelated {relation : String} {condition : RowFilter} {joinFields : List String} :
      Surfaces actor condition → Surfaces actor (.someRelated relation condition joinFields)
  | related {relation : String} {condition : RowFilter} :
      Surfaces actor condition → Surfaces actor (.related relation condition)
  | passed {role : Predicate} {passed failed : RowFilter} : (role.truth actor .null).holds →
      Surfaces actor passed → Surfaces actor (.given role passed failed)
  | failed {role : Predicate} {passed failed : RowFilter} : ¬(role.truth actor .null).holds →
      Surfaces actor failed → Surfaces actor (.given role passed failed)

theorem Everywhere.not_surfaces (meaningful : f.Everywhere Meaningful) (actor : Value) :
    ¬f.Surfaces actor := by
  intro surfaces
  induction surfaces with
  | @here operand construct left =>
      have inside := meaningful.children operand (.head _)
      exact ((binds_meaningful actor).everywhere_bound inside).here construct left
  | @not operand _ ih => exact ih (meaningful.children operand (.head _))
  | @all _ f member _ ih | @any _ f member _ ih => exact ih (meaningful.children f member)
  | @someRelated _ condition _ _ ih | @related _ condition _ ih =>
      exact ih (meaningful.children condition (.head _))
  | @passed _ passed _ _ _ ih => exact ih (meaningful.children passed (.head _))
  | @failed _ _ failed _ _ ih => exact ih (meaningful.children failed (.tail _ (.head _)))

/-- Binding keeps the truth of a filter unless it loses a negation, and the bound filter has that
truth for every actor. -/
theorem truth_bound {actor : Value} (defaulted : f.Everywhere Defaulted)
    (kept : ¬f.Surfaces actor) (other record : Value) :
    (f.bound actor).truth other record = f.truth actor record := by
  have bound (g : RowFilter) (inside : g.Everywhere Defaulted) :=
    (binds_defaulted actor).everywhere_bound inside
  induction defaulted generalizing record with
  | @node f here children ih =>
      cases f with
      | pass | block | isNull _ | unresolved _ | foreign _ => rfl
      | all operands =>
          have each : ∀ g ∈ operands.map (RowFilter.bound actor), g.Everywhere Defaulted :=
            List.forall_mem_map.mpr fun f member => bound f (children f member)
          rw [RowFilter.bound, boundAll_eq_map, truth_allOf_of_defaulted each, truth_all,
            List.map_map]
          refine congrArg Truth.all (List.map_congr_left fun f member => ?_)
          exact ih f member (fun inside => kept (.all member inside)) record
      | any operands =>
          have each : ∀ g ∈ operands.map (RowFilter.bound actor), g.Everywhere Defaulted :=
            List.forall_mem_map.mpr fun f member => bound f (children f member)
          rw [RowFilter.bound, boundAll_eq_map, truth_anyOf_of_defaulted each, truth_any,
            List.map_map]
          refine congrArg Truth.any (List.map_congr_left fun f member => ?_)
          exact ih f member (fun inside => kept (.any member inside)) record
      | not operand =>
          have meaningful : (operand.bound actor).Meaningful := fun _ left => kept (.here left)
          have inside := bound operand (children operand (.head _))
          rw [RowFilter.bound, truth_negate_of_meaningful meaningful inside,
            ih operand (.head _) (fun inside => kept (.not inside)) record, truth]
      | equals _ _ | compare _ _ _ | like _ _ _ =>
          simp only [RowFilter.bound, truth, Operand.read_bound]
      | member _ _ => simp only [RowFilter.bound, truth, Value.membership, Value.memberOf_boundSet]
      | someRelated _ condition _ =>
          have inside := ih condition (.head _) fun inside => kept (.someRelated inside)
          simp only [RowFilter.bound, truth, inside]
      | related _ condition =>
          have inside := ih condition (.head _) fun inside => kept (.related inside)
          simp only [RowFilter.bound, truth, inside]
      | given role passed failed =>
          simp only [RowFilter.bound, truth]
          split
          · next holds =>
              exact ih passed (.head _) (fun inside => kept (.passed holds inside)) record
          · next fails =>
              exact ih failed (.tail _ (.head _)) (fun inside => kept (.failed fails inside)) record
      | roleOnly condition =>
          simp only [RowFilter.bound, truth]
          cases (condition.truth actor .null).holds <;> rfl

/-! ## Role checks -/

/-- Whether an actor satisfies role checks. -/
def satisfies (actor : Value) (checks : List Predicate) : Bool :=
  checks.all fun check => (check.truth actor .null).holds

/-- The filter for an actor who has to satisfy role checks first. -/
def boundChecked (actor : Value) (checks : List Predicate) (f : RowFilter) : RowFilter :=
  if satisfies actor checks then f.bound actor else .block

theorem Compiled.yields_bind (compiled : f.Compiled admitted roles) (loaded : mode ≠ .fail)
    (actor : Value) : (f.bind mode actor).Yields actor.isDefined (f.bound actor) :=
  ((compiled.known.imp fun _ => Known.bindable).yields_bind loaded actor).mono fun actorDefined =>
    (compiled.defined actorDefined).imp fun _ => Defined.roleDefined

theorem Compiled.yields_bindChecked (compiled : f.Compiled admitted roles) (loaded : mode ≠ .fail)
    (actor : Value) {checks : List Predicate} (each : ∀ check ∈ checks, check.Compiled admitted) :
    (f.bindChecked mode actor checks).Yields actor.isDefined (f.boundChecked actor checks) := by
  induction checks with
  | nil => exact compiled.yields_bind loaded actor
  | cons check checks ih =>
      rw [List.forall_mem_cons] at each
      rw [bindChecked]
      refine ((each.1.yields_grants loaded actor .null).mono fun actorDefined =>
        ⟨actorDefined, rfl⟩).bind ?_
      cases holds : (check.truth actor .null).holds with
      | true => simpa [boundChecked, satisfies, holds] using ih each.2
      | false => exact .inl (by simp [boundChecked, satisfies, holds])

/-- An actor who satisfies the role checks gets the filter, another one nothing. -/
theorem Compiled.yields_passes_boundChecked (compiled : f.Compiled (fun _ => False) roles)
    (loaded : mode ≠ .fail) (actor other record : Value) (checks : List Predicate) :
    ((f.boundChecked actor checks).passes mode record other).Yields
      (actor.isDefined ∧ record.isDefined)
      (satisfies actor checks && (f.truth actor record).holds) := by
  rw [boundChecked]
  cases satisfies actor checks with
  | false => exact .inl rfl
  | true =>
      have kept := Everywhere.not_surfaces compiled.leaves actor
      rw [← truth_bound compiled.defaulted kept other record]
      have known := (binds_known actor).everywhere_bound compiled.known
      exact known.yields_passes loaded
        (fun sound => (binds_defined actor other).everywhere_bound (compiled.defined sound.1))
        And.right

end Binding

end RowFilter

end RowGuard
