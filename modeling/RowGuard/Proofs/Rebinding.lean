import RowGuard.Proofs.Binding
import RowGuard.Proofs.RowFilter.Normal
import RowGuard.Sql.Render

/-! Binding a second time. A filter that has been bound is folded and refers to
no actor at any depth, and such a filter is a fixed point of binding: whoever it
is bound to next, it stays as it is. A filter that does not depend on the actor
need not be bound at all to be the same for everyone. -/

set_option autoImplicit false

namespace RowGuard

/-! ## Operands -/

theorem Operand.isActor_of_bind {mode : UnloadedMode} {actor : Value} {operand bound : Operand}
    (ended : (operand.bind mode actor).result = .ok bound) : bound.isActor = false := by
  cases operand with
  | actor path source =>
      obtain ⟨value, _, ended⟩ := Traced.result_bind_eq_ok_iff.mp ended
      cases ended
      rfl
  | record _ | value _ | values _ | foreign _ =>
      cases ended
      rfl

theorem Operand.isActor_of_bindSet {mode : UnloadedMode} {actor : Value} {operand bound : Operand}
    (ended : (operand.bindSet mode actor).result = .ok bound) : bound.isActor = false := by
  cases operand with
  | actor path source =>
      obtain ⟨value, _, ended⟩ := Traced.result_bind_eq_ok_iff.mp ended
      cases ended
      rfl
  | record _ | value _ | values _ | foreign _ =>
      cases ended
      rfl

theorem Operand.bind_of_settled {operand : Operand} (settled : (!operand.isActor) = true)
    (mode : UnloadedMode) (actor : Value) :
    operand.bind mode actor = pure operand ∧ operand.bindSet mode actor = pure operand := by
  cases operand with
  | actor _ _ => cases settled
  | record _ | value _ | values _ | foreign _ => exact ⟨rfl, rfl⟩

namespace RowFilter

variable {mode : UnloadedMode} {actor : Value} {f : RowFilter}

/-! ## What binding ends in -/

mutual

/-- Whatever is bound, nothing is left in it to fold, and nothing that depends on the actor. -/
theorem everywhere_folded_of_bind (f : RowFilter) {bound : RowFilter}
    (ended : (f.bind mode actor).result = .ok bound) :
    bound.Everywhere fun node => node.isFolded ∧ node.isSettled := by
  cases f with
  | pass | block | isNull _ | unresolved _ =>
      cases ended
      exact everywhere_of_leaf rfl ⟨rfl, rfl⟩
  | foreign _ => cases ended
  | all operands =>
      obtain ⟨parts, each, ended⟩ := Traced.result_bind_eq_ok_iff.mp ended
      cases ended
      exact everywhere_folded_allOf connects_isSettled (everywhere_folded_of_bindAll operands each)
  | any operands =>
      obtain ⟨parts, each, ended⟩ := Traced.result_bind_eq_ok_iff.mp ended
      cases ended
      exact everywhere_folded_anyOf connects_isSettled (everywhere_folded_of_bindAll operands each)
  | not operand =>
      obtain ⟨part, inside, ended⟩ := Traced.result_bind_eq_ok_iff.mp ended
      cases ended
      exact everywhere_folded_negate connects_isSettled (everywhere_folded_of_bind operand inside)
  | equals _ value | compare _ _ value | like _ value _ =>
      obtain ⟨operand, inside, ended⟩ := Traced.result_bind_eq_ok_iff.mp ended
      cases ended
      have settled := Operand.isActor_of_bind inside
      exact everywhere_of_leaf rfl ⟨rfl, by simp [isSettled, settled]⟩
  | member _ values =>
      obtain ⟨operand, inside, ended⟩ := Traced.result_bind_eq_ok_iff.mp ended
      cases ended
      have settled := Operand.isActor_of_bindSet inside
      exact everywhere_of_leaf rfl ⟨rfl, by simp [isSettled, settled]⟩
  | someRelated _ condition _ | related _ condition =>
      obtain ⟨part, inside, ended⟩ := Traced.result_bind_eq_ok_iff.mp ended
      cases ended
      have folded := everywhere_folded_of_bind condition inside
      exact .node ⟨rfl, rfl⟩ (List.forall_mem_singleton.mpr folded)
  | given role passed failed =>
      obtain ⟨granted, _, ended⟩ := Traced.result_bind_eq_ok_iff.mp ended
      cases granted with
      | true => exact everywhere_folded_of_bind passed ended
      | false => exact everywhere_folded_of_bind failed ended
  | roleOnly condition =>
      obtain ⟨granted, _, ended⟩ := Traced.result_bind_eq_ok_iff.mp ended
      cases granted with
      | true | false =>
          cases ended
          exact everywhere_of_leaf rfl ⟨rfl, rfl⟩
termination_by structural f

theorem everywhere_folded_of_bindAll (fs : List RowFilter) {bounds : List RowFilter}
    (ended : (bindAll mode actor fs).result = .ok bounds) :
    ∀ bound ∈ bounds, bound.Everywhere fun node => node.isFolded ∧ node.isSettled := by
  cases fs with
  | nil =>
      cases ended
      simp
  | cons f fs =>
      obtain ⟨bound, first, ended⟩ := Traced.result_bind_eq_ok_iff.mp ended
      obtain ⟨rest, later, ended⟩ := Traced.result_bind_eq_ok_iff.mp ended
      cases ended
      exact List.forall_mem_cons.mpr
        ⟨everywhere_folded_of_bind f first, everywhere_folded_of_bindAll fs later⟩
termination_by structural fs

end

theorem everywhere_folded_of_bindChecked {checks : List Predicate} {bound : RowFilter}
    (ended : (f.bindChecked mode actor checks).result = .ok bound) :
    bound.Everywhere fun node => node.isFolded ∧ node.isSettled := by
  induction checks with
  | nil => exact everywhere_folded_of_bind f ended
  | cons check checks ih =>
      obtain ⟨granted, _, ended⟩ := Traced.result_bind_eq_ok_iff.mp ended
      cases granted with
      | true => exact ih ended
      | false =>
          cases ended
          exact everywhere_of_leaf rfl ⟨rfl, rfl⟩

/-! ## Fixed points -/

theorem allOf_of_folded {operands : List RowFilter} (folded : (RowFilter.all operands).isFolded) :
    allOf operands = .all operands := by
  simp only [isFolded, Bool.and_eq_true, decide_eq_true_eq, List.all_eq_true] at folded
  rw [allOf_eq_joined]
  refine Folding.joined_of_single folded.1 fun item member => ?_
  have conjunct := folded.2 item member
  cases item with
  | pass | block | all _ => cases conjunct
  | any _ | not _ | equals _ _ | compare _ _ _ | member _ _ | isNull _ | like _ _ _
  | someRelated _ _ _ | related _ _ | given _ _ _ | unresolved _ | roleOnly _ | foreign _ => rfl

theorem anyOf_of_folded {operands : List RowFilter} (folded : (RowFilter.any operands).isFolded) :
    anyOf operands = .any operands := by
  simp only [isFolded, Bool.and_eq_true, decide_eq_true_eq, List.all_eq_true] at folded
  rw [anyOf_eq_joined]
  refine Folding.joined_of_single folded.1 fun item member => ?_
  have alternative := folded.2 item member
  cases item with
  | pass | block | any _ => cases alternative
  | all _ | not _ | equals _ _ | compare _ _ _ | member _ _ | isNull _ | like _ _ _
  | someRelated _ _ _ | related _ _ | given _ _ _ | unresolved _ | roleOnly _ | foreign _ => rfl

theorem negate_of_folded {operand : RowFilter} (folded : (RowFilter.not operand).isFolded) :
    operand.negate = .not operand := by
  cases operand with
  | pass | block | not _ | unresolved _ => cases folded
  | all _ | any _ | equals _ _ | compare _ _ _ | member _ _ | isNull _ | like _ _ _
  | someRelated _ _ _ | related _ _ | given _ _ _ | roleOnly _ | foreign _ => rfl

theorem bindAll_eq_pure {fs : List RowFilter}
    (each : ∀ f ∈ fs, f.bind mode actor = pure f) : bindAll mode actor fs = pure fs := by
  induction fs with
  | nil => rfl
  | cons f fs ih =>
      rw [List.forall_mem_cons] at each
      rw [bindAll, each.1, ih each.2]
      rfl

/-- A folded filter that does not depend on the actor is a fixed point of binding, under every
configuration and for every actor; nothing is read for it. -/
theorem Everywhere.bind_eq_pure (bound : f.Everywhere fun node => node.isFolded ∧ node.isSettled)
    (mode : UnloadedMode) (actor : Value) : f.bind mode actor = pure f := by
  induction bound with
  | @node f here _ ih =>
      obtain ⟨folded, settled⟩ := here
      cases f with
      | pass | block | isNull _ | unresolved _ => rfl
      | all operands =>
          have each : bindAll mode actor operands = pure operands := bindAll_eq_pure ih
          rw [bind, each]
          exact congrArg pure (allOf_of_folded folded)
      | any operands =>
          have each : bindAll mode actor operands = pure operands := bindAll_eq_pure ih
          rw [bind, each]
          exact congrArg pure (anyOf_of_folded folded)
      | not operand =>
          rw [bind, ih operand (.head _)]
          exact congrArg pure (negate_of_folded folded)
      | equals _ operand | compare _ _ operand | like _ operand _ =>
          rw [bind, (Operand.bind_of_settled settled mode actor).1]
          rfl
      | member _ operand =>
          rw [bind, (Operand.bind_of_settled settled mode actor).2]
          rfl
      | someRelated _ condition _ | related _ condition =>
          rw [bind, ih condition (.head _)]
          rfl
      | given _ _ _ | roleOnly _ => cases settled
      | foreign _ => cases folded

/-! ## Filters that do not depend on the actor -/

mutual

theorem everywhere_settled_of_dependsOnActor (f : RowFilter) (apart : f.dependsOnActor = false) :
    f.Everywhere fun node => node.isSettled := by
  cases f with
  | pass | block | isNull _ | unresolved _ | foreign _ => exact everywhere_of_leaf rfl rfl
  | all operands => exact .node rfl (forall_settled_of_anyDependsOnActor operands apart)
  | any operands => exact .node rfl (forall_settled_of_anyDependsOnActor operands apart)
  | not operand =>
      have settled := everywhere_settled_of_dependsOnActor operand apart
      exact .node rfl (List.forall_mem_singleton.mpr settled)
  | equals _ operand | compare _ _ operand | member _ operand | like _ operand _ =>
      exact everywhere_of_leaf rfl (congrArg Bool.not apart)
  | someRelated _ condition _ | related _ condition =>
      have settled := everywhere_settled_of_dependsOnActor condition apart
      exact .node rfl (List.forall_mem_singleton.mpr settled)
  | given _ _ _ | roleOnly _ => cases apart
termination_by structural f

theorem forall_settled_of_anyDependsOnActor (fs : List RowFilter)
    (apart : anyDependsOnActor fs = false) :
    ∀ f ∈ fs, f.Everywhere fun node => node.isSettled := by
  cases fs with
  | nil => simp
  | cons f fs =>
      obtain ⟨first, later⟩ := Bool.or_eq_false_iff.mp apart
      exact List.forall_mem_cons.mpr
        ⟨everywhere_settled_of_dependsOnActor f first,
          forall_settled_of_anyDependsOnActor fs later⟩
termination_by structural fs

end

theorem anyDependsOnActor_eq_false {fs : List RowFilter}
    (apart : ∀ f ∈ fs, f.dependsOnActor = false) : anyDependsOnActor fs = false := by
  induction fs with
  | nil => rfl
  | cons f fs ih =>
      rw [List.forall_mem_cons] at apart
      rw [anyDependsOnActor, apart.1, ih apart.2, Bool.or_self]

theorem dependsOnActor_eq_false_iff :
    f.dependsOnActor = false ↔ f.Everywhere fun node => node.isSettled := by
  refine ⟨everywhere_settled_of_dependsOnActor f, fun settled => ?_⟩
  induction settled with
  | @node f here _ ih =>
      cases f with
      | pass | block | isNull _ | unresolved _ | foreign _ => rfl
      | all _ | any _ => exact anyDependsOnActor_eq_false ih
      | not operand => exact ih operand (.head _)
      | equals _ _ | compare _ _ _ | member _ _ | like _ _ _ =>
          exact (Bool.not_eq_true' _).mp here
      | someRelated _ condition _ | related _ condition => exact ih condition (.head _)
      | given _ _ _ | roleOnly _ => cases here

theorem bindAll_congr {later : UnloadedMode} {other : Value} {fs : List RowFilter}
    (each : ∀ f ∈ fs, f.bind mode actor = f.bind later other) :
    bindAll mode actor fs = bindAll later other fs := by
  induction fs with
  | nil => rfl
  | cons f fs ih =>
      rw [List.forall_mem_cons] at each
      rw [bindAll, bindAll, each.1, ih each.2]

/-- Binding what does not depend on the actor may fold it, but to the same for everyone. -/
theorem Everywhere.bind_eq_bind (settled : f.Everywhere fun node => node.isSettled)
    (mode later : UnloadedMode) (actor other : Value) :
    f.bind mode actor = f.bind later other := by
  induction settled with
  | @node f here _ ih =>
      cases f with
      | pass | block | isNull _ | unresolved _ | foreign _ => rfl
      | all operands | any operands =>
          have each : bindAll mode actor operands = bindAll later other operands :=
            bindAll_congr ih
          rw [bind, bind, each]
      | not operand => rw [bind, bind, ih operand (.head _)]
      | equals _ operand | compare _ _ operand | like _ operand _ =>
          rw [bind, bind, (Operand.bind_of_settled here mode actor).1,
            (Operand.bind_of_settled here later other).1]
      | member _ operand =>
          rw [bind, bind, (Operand.bind_of_settled here mode actor).2,
            (Operand.bind_of_settled here later other).2]
      | someRelated _ condition _ | related _ condition =>
          rw [bind, bind, ih condition (.head _)]
      | given _ _ _ | roleOnly _ => cases here

end RowFilter

/-! ## Binding erases the actor -/

/-- Binding ends unless a node or a role condition is refused, or an undefined number stops a role
condition. What it ends in does not depend on
the actor, and binding that to whomever changes nothing and reads nothing; the same holds once the
role checks of a policy are applied. A filter that does not depend on the actor binds to one filter
for everyone. -/
theorem bind_erases_actor (f : RowFilter) (checks : List Predicate) (mode : UnloadedMode)
    (actor : Value) :
    (mode ≠ .fail → f.Everywhere RowFilter.Bindable →
        ∃ bound, (f.bind mode actor).Yields (f.Everywhere (RowFilter.RoleDefined actor)) bound) ∧
      (∀ bound, (f.bind mode actor).result = .ok bound ∨
          (f.bindChecked mode actor checks).result = .ok bound →
        bound.dependsOnActor = false ∧ ∀ later other, bound.bind later other = pure bound) ∧
      (f.dependsOnActor = false → ∀ later other, f.bind later other = f.bind mode actor) := by
  refine ⟨fun loaded bindable => ⟨_, bindable.yields_bind loaded actor⟩, ?_, ?_⟩
  · intro bound ended
    have folded : bound.Everywhere fun node => node.isFolded ∧ node.isSettled := by
      rcases ended with alone | checked
      · exact f.everywhere_folded_of_bind alone
      · exact RowFilter.everywhere_folded_of_bindChecked checked
    refine ⟨RowFilter.dependsOnActor_eq_false_iff.mpr (folded.imp fun _ => And.right), ?_⟩
    exact folded.bind_eq_pure
  · intro apart later other
    exact (RowFilter.dependsOnActor_eq_false_iff.mp apart).bind_eq_bind later mode other actor

/-- Members see the posts they own. -/
def RowFilter.ownPosts : RowFilter :=
  .all
    [.roleOnly (.compare .eq (.actor ["role"] "current_role") (.value (.text "member"))),
     .not (.not (.equals "owner" (.actor ["name"] "current_name")))]

theorem bind_erases_actor_ownPosts :
    UnloadedMode.warn ≠ .fail ∧ RowFilter.ownPosts.Everywhere RowFilter.Bindable ∧
      RowFilter.ownPosts.dependsOnActor = true ∧
      ∃ bound, (RowFilter.ownPosts.bind .warn
          (.mapping [("name", .text "ann"), ("role", .text "member")])).result = .ok bound ∧
        bound = .equals "owner" (.value (.text "ann")) ∧ bound.dependsOnActor = false ∧
        (∀ later other, bound.bind later other = pure bound) ∧
        (RowFilter.not (.not bound)).dependsOnActor = false ∧
        (RowFilter.not (.not bound)).bind .deny .null = (RowFilter.not (.not bound)).bind .warn
          (.mapping [("name", .text "ann"), ("role", .text "member")]) := by
  have role : Predicate.Everywhere (fun node => node.isKnown)
      (.compare .eq (.actor ["role"] "current_role") (.value (.text "member"))) :=
    .node rfl nofun
  have bindable : RowFilter.ownPosts.Everywhere RowFilter.Bindable := by
    refine .node trivial (List.forall_mem_cons.mpr ⟨.node role nofun, ?_⟩)
    refine List.forall_mem_singleton.mpr (.node trivial ?_)
    refine List.forall_mem_singleton.mpr (.node trivial ?_)
    exact List.forall_mem_singleton.mpr (.node trivial nofun)
  obtain ⟨ends, erased, _⟩ := bind_erases_actor RowFilter.ownPosts [] .warn
    (.mapping [("name", .text "ann"), ("role", .text "member")])
  obtain ⟨bound, yields⟩ := ends (by decide) bindable
  have found : (RowFilter.ownPosts.bind .warn
      (.mapping [("name", .text "ann"), ("role", .text "member")])).result =
        .ok (.equals "owner" (.value (.text "ann"))) := by
    with_unfolding_all rfl
  have same : bound = .equals "owner" (.value (.text "ann")) := (yields.eq_of_ok found).symm
  have ended := found.trans (congrArg Except.ok same.symm)
  obtain ⟨apart, fixed⟩ := erased bound (.inl ended)
  have twice : (RowFilter.not (.not bound)).dependsOnActor = false := apart
  refine ⟨by decide, bindable, rfl, bound, ended, same, apart, fixed, twice, ?_⟩
  exact (bind_erases_actor (.not (.not bound)) [] .warn _).2.2 twice .deny .null

/-! ## SQL -/

/-- The filter for an actor is rendered as it is: the binding that comes with rendering adds
nothing. -/
theorem Sql.whereText_of_bound {f bound : RowFilter} {checks : List Predicate}
    {mode : UnloadedMode} {actor : Value}
    (ended : (f.bindChecked mode actor checks).result = .ok bound) (models : Models) (model : Model)
    (later : UnloadedMode) (other : Value) :
    whereText models model later other bound =
      .lift (render models model false bound >>= Clause.text) := by
  rw [whereText, (RowFilter.everywhere_folded_of_bindChecked ended).bind_eq_pure]
  rfl

/-- The SQL text for a filter that does not depend on the actor can be had without one. -/
theorem Sql.whereText_congr_actor {f : RowFilter} (apart : f.dependsOnActor = false)
    (models : Models) (model : Model) (mode later : UnloadedMode) (actor other : Value) :
    whereText models model mode actor f = whereText models model later other f := by
  have settled := RowFilter.dependsOnActor_eq_false_iff.mp apart
  rw [whereText, whereText, settled.bind_eq_bind mode later actor other]

end RowGuard
