import RowGuard.Proofs.RowFilter.Stability

/-! The normal form of filters. Connectives join at least two filters that are
neither constant nor connectives of their own kind, no negation stands in front
of what it could be folded into, columns are tested against operands that tests
take, and conditional filters ask for conditions on the actor alone. Lowering
ends in normal filters, and so does binding, after which nothing depends on the
actor. -/

set_option autoImplicit false

namespace RowGuard

/-- Whether a comparator orders a column against a value or tells it apart from one. -/
def Comparator.isOrdering : Comparator → Bool
  | .ne | .lt | .le | .gt | .ge => true
  | .eq | .like .. | .unknown _ => false

namespace RowFilter

/-- Whether a filter may stand in a conjunction. -/
def isConjunct : RowFilter → Bool
  | .pass | .block | .all _ => false
  | _ => true

/-- Whether a filter may stand in a disjunction. -/
def isAlternative : RowFilter → Bool
  | .pass | .block | .any _ => false
  | _ => true

/-- Whether a filter may stand under a negation. -/
def isNegatable : RowFilter → Bool
  | .pass | .block | .not _ | .unresolved _ => false
  | _ => true

/-- Whether a node is in normal form. -/
def isNormal : RowFilter → Bool
  | .all operands => 2 ≤ operands.length && operands.all isConjunct
  | .any operands => 2 ≤ operands.length && operands.all isAlternative
  | .not operand => operand.isNegatable
  | .equals _ value => isScalarSide value
  | .compare _ comparator value => comparator.isOrdering && isScalarSide value
  | .member _ values => isSetSide values
  | .like _ pattern _ => isScalarSide pattern
  | .given role _ _ => role.isRoleOnly
  | .roleOnly condition => condition.isRoleOnly
  | .foreign _ => false
  | .pass | .block | .isNull _ | .someRelated .. | .related .. | .unresolved _ => true

/-- Whether folding has nothing left to do at a node, and binding nothing to refuse. -/
def isFolded : RowFilter → Bool
  | .all operands => 2 ≤ operands.length && operands.all isConjunct
  | .any operands => 2 ≤ operands.length && operands.all isAlternative
  | .not operand => operand.isNegatable
  | .foreign _ => false
  | _ => true

/-- Whether a node tests and asks for what it may test and ask for. -/
def isFitting : RowFilter → Bool
  | .equals _ value => isScalarSide value
  | .compare _ comparator value => comparator.isOrdering && isScalarSide value
  | .member _ values => isSetSide values
  | .like _ pattern _ => isScalarSide pattern
  | .given role _ _ => role.isRoleOnly
  | .roleOnly condition => condition.isRoleOnly
  | _ => true

/-- Whether a node filters rows. -/
def isRowwise : RowFilter → Bool
  | .roleOnly _ => false
  | _ => true

/-- Whether a node does not depend on the actor. -/
def isSettled : RowFilter → Bool
  | .given .. | .roleOnly _ => false
  | .equals _ value => !value.isActor
  | .compare _ _ value => !value.isActor
  | .member _ values => !values.isActor
  | .like _ pattern _ => !pattern.isActor
  | _ => true

/-- A node that does not depend on the actor has no role condition. -/
theorem roleDefined_of_isSettled {f : RowFilter} (settled : f.isSettled) (actor : Value) :
    f.RoleDefined actor := by
  cases f with
  | given _ _ _ | roleOnly _ => cases settled
  | pass | block | all _ | any _ | not _ | equals _ _ | compare _ _ _ | member _ _ | isNull _
  | like _ _ _ | someRelated _ _ _ | related _ _ | unresolved _ | foreign _ => trivial

/-! ## Folding -/

section Folding

variable {holds : RowFilter → Prop} {f : RowFilter} {items : List RowFilter}

theorem everywhere_folded_allOf (connects : Connects holds)
    (each : ∀ f ∈ items, f.Everywhere fun node => node.isFolded ∧ holds node) :
    (allOf items).Everywhere fun node => node.isFolded ∧ holds node := by
  have opened : ∀ item ∈ items, ∀ inner, opensAll item = some inner → ∀ part ∈ inner,
      part.isConjunct ∧ part.Everywhere fun node => node.isFolded ∧ holds node := by
    intro item member inner opens part inside
    have folded := each item member
    cases item with
    | block => cases opens
    | pass =>
        cases opens
        cases inside
    | all operands =>
        cases opens
        have conjuncts := folded.here.1
        simp only [isFolded, Bool.and_eq_true, List.all_eq_true] at conjuncts
        exact ⟨conjuncts.2 part inside, folded.children part inside⟩
    | any _ | not _ | equals _ _ | compare _ _ _ | member _ _ | isNull _ | like _ _ _
    | someRelated _ _ _ | related _ _ | given _ _ _ | unresolved _ | roleOnly _ | foreign _ =>
        cases opens
        cases List.mem_singleton.mp inside
        exact ⟨rfl, folded⟩
  rw [allOf_eq_joined]
  refine Folding.joined_parts_induction ?_ ?_ ?_ ?_ opened
  · exact everywhere_of_leaf rfl ⟨rfl, connects.block⟩
  · exact everywhere_of_leaf rfl ⟨rfl, connects.pass⟩
  · intro part single
    exact single.2
  · intro parts several single
    refine .node ⟨?_, connects.all parts⟩ fun part member => (single part member).2
    simpa [isFolded, several] using fun part member => (single part member).1

theorem everywhere_folded_anyOf (connects : Connects holds)
    (each : ∀ f ∈ items, f.Everywhere fun node => node.isFolded ∧ holds node) :
    (anyOf items).Everywhere fun node => node.isFolded ∧ holds node := by
  have opened : ∀ item ∈ items, ∀ inner, opensAny item = some inner → ∀ part ∈ inner,
      part.isAlternative ∧ part.Everywhere fun node => node.isFolded ∧ holds node := by
    intro item member inner opens part inside
    have folded := each item member
    cases item with
    | pass => cases opens
    | block =>
        cases opens
        cases inside
    | any operands =>
        cases opens
        have alternatives := folded.here.1
        simp only [isFolded, Bool.and_eq_true, List.all_eq_true] at alternatives
        exact ⟨alternatives.2 part inside, folded.children part inside⟩
    | all _ | not _ | equals _ _ | compare _ _ _ | member _ _ | isNull _ | like _ _ _
    | someRelated _ _ _ | related _ _ | given _ _ _ | unresolved _ | roleOnly _ | foreign _ =>
        cases opens
        cases List.mem_singleton.mp inside
        exact ⟨rfl, folded⟩
  rw [anyOf_eq_joined]
  refine Folding.joined_parts_induction ?_ ?_ ?_ ?_ opened
  · exact everywhere_of_leaf rfl ⟨rfl, connects.pass⟩
  · exact everywhere_of_leaf rfl ⟨rfl, connects.block⟩
  · intro part single
    exact single.2
  · intro parts several single
    refine .node ⟨?_, connects.any parts⟩ fun part member => (single part member).2
    simpa [isFolded, several] using fun part member => (single part member).1

theorem everywhere_folded_negate (connects : Connects holds)
    (folded : f.Everywhere fun node => node.isFolded ∧ holds node) :
    f.negate.Everywhere fun node => node.isFolded ∧ holds node := by
  cases f with
  | pass => exact everywhere_of_leaf rfl ⟨rfl, connects.block⟩
  | block => exact everywhere_of_leaf rfl ⟨rfl, connects.pass⟩
  | not operand => exact folded.children operand (by simp [children])
  | unresolved construct =>
      exact everywhere_of_leaf rfl ⟨rfl, connects.negate construct folded.here.2⟩
  | all _ | any _ | equals _ _ | compare _ _ _ | member _ _ | isNull _ | like _ _ _
  | someRelated _ _ _ | related _ _ | given _ _ _ | roleOnly _ | foreign _ =>
      exact .node ⟨rfl, connects.not _⟩ (List.forall_mem_singleton.mpr folded)

/-! Normal nodes are folded nodes, and fitting ones. -/

theorem everywhere_normal_iff :
    (f.Everywhere fun node => node.isNormal ∧ holds node) ↔
      f.Everywhere fun node => node.isFolded ∧ node.isFitting ∧ holds node := by
  have same (node : RowFilter) : node.isNormal = (node.isFolded && node.isFitting) := by
    cases node with
    | pass | block | all _ | any _ | not _ | equals _ _ | compare _ _ _ | member _ _ | isNull _
    | like _ _ _ | someRelated _ _ _ | related _ _ | given _ _ _ | unresolved _ | roleOnly _
    | foreign _ => simp [isNormal, isFolded, isFitting]
  simp only [same, Bool.and_eq_true, and_assoc]

theorem Connects.fitting (connects : Connects holds) :
    Connects fun node => node.isFitting ∧ holds node where
  pass := ⟨rfl, connects.pass⟩
  block := ⟨rfl, connects.block⟩
  all operands := ⟨rfl, connects.all operands⟩
  any operands := ⟨rfl, connects.any operands⟩
  not operand := ⟨rfl, connects.not operand⟩
  negate construct here := ⟨rfl, connects.negate construct here.2⟩

theorem everywhere_normal_allOf (connects : Connects holds)
    (each : ∀ f ∈ items, f.Everywhere fun node => node.isNormal ∧ holds node) :
    (allOf items).Everywhere fun node => node.isNormal ∧ holds node :=
  everywhere_normal_iff.mpr <| everywhere_folded_allOf connects.fitting fun f member =>
    everywhere_normal_iff.mp (each f member)

theorem everywhere_normal_anyOf (connects : Connects holds)
    (each : ∀ f ∈ items, f.Everywhere fun node => node.isNormal ∧ holds node) :
    (anyOf items).Everywhere fun node => node.isNormal ∧ holds node :=
  everywhere_normal_iff.mpr <| everywhere_folded_anyOf connects.fitting fun f member =>
    everywhere_normal_iff.mp (each f member)

theorem everywhere_normal_negate (connects : Connects holds)
    (normal : f.Everywhere fun node => node.isNormal ∧ holds node) :
    f.negate.Everywhere fun node => node.isNormal ∧ holds node :=
  everywhere_normal_iff.mpr
    (everywhere_folded_negate connects.fitting (everywhere_normal_iff.mp normal))

end Folding

/-! ## Lowering -/

theorem connects_isRowwise : Connects fun node => node.isRowwise where
  pass := rfl
  block := rfl
  all _ := rfl
  any _ := rfl
  not _ := rfl
  negate _ _ := rfl

theorem connects_isSettled : Connects fun node => node.isSettled where
  pass := rfl
  block := rfl
  all _ := rfl
  any _ := rfl
  not _ := rfl
  negate _ _ := rfl

theorem everywhere_normal_onField {comparator : Comparator} {value : Operand} {field : String}
    (known : comparator.isKnown) (scalar : isScalarSide value) :
    (onField comparator value field).Everywhere fun node => node.isNormal ∧ node.isRowwise := by
  cases comparator with
  | unknown symbol => cases known
  | like ignoreCase negated =>
      have matched : (RowFilter.like field value ignoreCase).Everywhere fun node =>
          node.isNormal ∧ node.isRowwise :=
        everywhere_of_leaf rfl ⟨scalar, rfl⟩
      cases negated with
      | false => exact matched
      | true => exact everywhere_normal_negate connects_isRowwise matched
  | eq => exact everywhere_of_leaf rfl ⟨scalar, rfl⟩
  | ne | lt | le | gt | ge => exact everywhere_of_leaf rfl ⟨scalar, rfl⟩

theorem stable_normal : Stable .free fun _ f =>
    f.Everywhere fun node => node.isNormal ∧ node.isRowwise where
  pass := everywhere_of_leaf rfl ⟨rfl, rfl⟩
  block := everywhere_of_leaf rfl ⟨rfl, rfl⟩
  unresolved := everywhere_of_leaf rfl ⟨rfl, rfl⟩
  allOf := everywhere_normal_allOf connects_isRowwise
  anyOf := everywhere_normal_anyOf connects_isRowwise
  negate := everywhere_normal_negate connects_isRowwise
  given role passed failed :=
    .node ⟨role, rfl⟩ (List.forall_mem_cons.mpr ⟨passed, List.forall_mem_singleton.mpr failed⟩)
  onField _ := everywhere_normal_onField
  member _ isSet := everywhere_of_leaf rfl ⟨isSet, rfl⟩
  isNull _ := everywhere_of_leaf rfl ⟨rfl, rfl⟩
  related _ condition := .node ⟨rfl, rfl⟩ (List.forall_mem_singleton.mpr condition)
  someRelated _ condition := .node ⟨rfl, rfl⟩ (List.forall_mem_singleton.mpr condition)
  rowwise normal := by
    have rowwise := normal.here.2
    cases rowwise

/-! ## Binding -/

section Binding

variable {operand : Operand}

theorem isScalarSide_bound (scalar : isScalarSide operand) (actor : Value) :
    isScalarSide (operand.bound actor) ∧ (!(operand.bound actor).isActor) = true := by
  cases operand with
  | actor _ _ | value _ => exact ⟨rfl, rfl⟩
  | record _ | values _ | foreign _ => cases scalar

theorem isSetSide_boundSet (isSet : isSetSide operand) (actor : Value) :
    isSetSide (operand.boundSet actor) ∧ (!(operand.boundSet actor).isActor) = true := by
  cases operand with
  | actor _ _ | values _ => exact ⟨rfl, rfl⟩
  | record _ | value _ | foreign _ => cases isSet

/-- Binding folds a normal filter to a normal one that does not depend on the actor. -/
theorem everywhere_normal_bound {f : RowFilter} (normal : f.Everywhere fun node => node.isNormal)
    (actor : Value) :
    (f.bound actor).Everywhere fun node => node.isNormal ∧ node.isSettled := by
  induction normal with
  | @node f here _ ih =>
      cases f with
      | pass | block | isNull _ | unresolved _ => exact everywhere_of_leaf rfl ⟨rfl, rfl⟩
      | all operands =>
          rw [bound, boundAll_eq_map]
          exact everywhere_normal_allOf connects_isSettled (List.forall_mem_map.mpr ih)
      | any operands =>
          rw [bound, boundAll_eq_map]
          exact everywhere_normal_anyOf connects_isSettled (List.forall_mem_map.mpr ih)
      | not operand => exact everywhere_normal_negate connects_isSettled (ih operand (.head _))
      | equals field value =>
          exact everywhere_of_leaf rfl (isScalarSide_bound here actor)
      | compare field comparator value =>
          obtain ⟨orders, scalar⟩ := Bool.and_eq_true_iff.mp here
          obtain ⟨scalar, settled⟩ := isScalarSide_bound scalar actor
          exact everywhere_of_leaf rfl ⟨Bool.and_eq_true_iff.mpr ⟨orders, scalar⟩, settled⟩
      | member field values =>
          exact everywhere_of_leaf rfl (isSetSide_boundSet here actor)
      | like field pattern ignoreCase =>
          exact everywhere_of_leaf rfl (isScalarSide_bound here actor)
      | someRelated relation condition joinFields =>
          exact .node ⟨rfl, rfl⟩ (List.forall_mem_singleton.mpr (ih condition (.head _)))
      | related relation condition =>
          exact .node ⟨rfl, rfl⟩ (List.forall_mem_singleton.mpr (ih condition (.head _)))
      | given role passed failed =>
          rw [bound]
          split
          · exact ih passed (.head _)
          · exact ih failed (.tail _ (.head _))
      | roleOnly condition =>
          rw [bound]
          split
          · exact everywhere_of_leaf rfl ⟨rfl, rfl⟩
          · exact everywhere_of_leaf rfl ⟨rfl, rfl⟩
      | foreign node => cases here

theorem everywhere_normal_boundChecked {f : RowFilter}
    (normal : f.Everywhere fun node => node.isNormal) (actor : Value) (checks : List Predicate) :
    (f.boundChecked actor checks).Everywhere fun node => node.isNormal ∧ node.isSettled := by
  rw [boundChecked]
  split
  · exact everywhere_normal_bound normal actor
  · exact everywhere_of_leaf rfl ⟨rfl, rfl⟩

end Binding

end RowFilter

end RowGuard
