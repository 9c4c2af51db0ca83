import RowGuard.Proofs.Expr.Grammar

/-! Properties of every node of an expression, one equation for each form. -/

set_option autoImplicit false

namespace RowGuard

namespace Expr

/-- Whether something holds of every node of an expression. -/
def Everywhere (holds : Expr → Prop) (e : Expr) : Prop :=
  ∀ node ∈ e.walk, holds node

instance (holds : Expr → Prop) [DecidablePred holds] (e : Expr) : Decidable (e.Everywhere holds) :=
  inferInstanceAs (Decidable (∀ node ∈ e.walk, holds node))

variable {holds : Expr → Prop}

theorem forall_mem_walkItems {es : List Expr} :
    (∀ node ∈ walkItems es, holds node) ↔ ∀ e ∈ es, e.Everywhere holds := by
  induction es with
  | nil => exact iff_of_true nofun nofun
  | cons e es ih =>
      change (∀ node ∈ e.walk ++ walkItems es, holds node) ↔ _
      rw [List.forall_mem_append, ih, List.forall_mem_cons, Everywhere]

theorem forall_mem_walkBranches {branches : List (Expr × Expr)} :
    (∀ node ∈ walkBranches branches, holds node) ↔
      ∀ branch ∈ branches, branch.1.Everywhere holds ∧ branch.2.Everywhere holds := by
  induction branches with
  | nil => exact iff_of_true nofun nofun
  | cons branch branches ih =>
      change (∀ node ∈ branch.1.walk ++ branch.2.walk ++ walkBranches branches, holds node) ↔ _
      rw [List.forall_mem_append, List.forall_mem_append, ih, List.forall_mem_cons, Everywhere,
        Everywhere]

theorem forall_mem_walkOption {e : Option Expr} :
    (∀ node ∈ walkOption e, holds node) ↔ ∀ inner ∈ e, inner.Everywhere holds := by
  cases e with
  | none => exact iff_of_true nofun nofun
  | some e =>
      change e.Everywhere holds ↔ _
      simp

theorem everywhere_any {es : List Expr} :
    (Expr.any es).Everywhere holds ↔ holds (.any es) ∧ ∀ e ∈ es, e.Everywhere holds := by
  change (∀ node ∈ .any es :: walkItems es, holds node) ↔ _
  rw [List.forall_mem_cons, forall_mem_walkItems]

theorem everywhere_all {es : List Expr} :
    (Expr.all es).Everywhere holds ↔ holds (.all es) ∧ ∀ e ∈ es, e.Everywhere holds := by
  change (∀ node ∈ .all es :: walkItems es, holds node) ↔ _
  rw [List.forall_mem_cons, forall_mem_walkItems]

theorem everywhere_not {e : Expr} :
    (Expr.not e).Everywhere holds ↔ holds (.not e) ∧ e.Everywhere holds := by
  change (∀ node ∈ .not e :: e.walk, holds node) ↔ _
  rw [List.forall_mem_cons]
  rfl

theorem everywhere_condition {operator : Operator} {left right : Expr} :
    (Expr.condition operator left right).Everywhere holds ↔
      holds (.condition operator left right) ∧ left.Everywhere holds ∧ right.Everywhere holds := by
  change (∀ node ∈ .condition operator left right :: (left.walk ++ right.walk), holds node) ↔ _
  rw [List.forall_mem_cons, List.forall_mem_append]
  rfl

theorem everywhere_choice {subject : Option Expr} {branches : List (Expr × Expr)}
    {otherwise : Option Expr} :
    (Expr.choice subject branches otherwise).Everywhere holds ↔
      holds (.choice subject branches otherwise) ∧ (∀ e ∈ subject, e.Everywhere holds) ∧
        (∀ branch ∈ branches, branch.1.Everywhere holds ∧ branch.2.Everywhere holds) ∧
        ∀ e ∈ otherwise, e.Everywhere holds := by
  change (∀ node ∈ .choice subject branches otherwise ::
    (walkOption subject ++ walkBranches branches ++ walkOption otherwise), holds node) ↔ _
  rw [List.forall_mem_cons, List.forall_mem_append, List.forall_mem_append,
    forall_mem_walkOption, forall_mem_walkBranches, forall_mem_walkOption, and_assoc]

theorem everywhere_call {name : String} {arguments : List Expr} :
    (Expr.call name arguments).Everywhere holds ↔
      holds (.call name arguments) ∧ ∀ e ∈ arguments, e.Everywhere holds := by
  change (∀ node ∈ .call name arguments :: walkItems arguments, holds node) ↔ _
  rw [List.forall_mem_cons, forall_mem_walkItems]

theorem everywhere_array {items : List Expr} :
    (Expr.array items).Everywhere holds ↔
      holds (.array items) ∧ ∀ e ∈ items, e.Everywhere holds := by
  change (∀ node ∈ .array items :: walkItems items, holds node) ↔ _
  rw [List.forall_mem_cons, forall_mem_walkItems]

/-! ## Comparators and literals -/

/-- Whether a node, if it has a comparator, has one with a meaning, and if it is a literal, holds no
undefined number. No text is read to any other. -/
def isKnown : Expr → Bool
  | .condition (.compare (.unknown _)) _ _ => Bool.false
  | .literal item => item.value.isDefined
  | _ => Bool.true

theorem grammar_known : Grammar (Everywhere fun node => node.isKnown) where
  any each := everywhere_any.mpr ⟨rfl, each⟩
  all each := everywhere_all.mpr ⟨rfl, each⟩
  not inner := everywhere_not.mpr ⟨rfl, inner⟩
  compare {comparator _ _} known left right := by
    refine everywhere_condition.mpr ⟨?_, left, right⟩
    cases comparator with
    | unknown symbol => exact absurd rfl (known symbol)
    | eq | ne | lt | le | gt | ge | like _ _ => rfl
  member left right := everywhere_condition.mpr ⟨rfl, left, right⟩
  null left := everywhere_condition.mpr ⟨rfl, left, List.forall_mem_singleton.mpr rfl⟩
  choice subject branches otherwise := everywhere_choice.mpr ⟨rfl, subject, branches, otherwise⟩
  existence := List.forall_mem_singleton.mpr rfl
  subquery := List.forall_mem_singleton.mpr rfl
  call each := everywhere_call.mpr ⟨rfl, each⟩
  column := List.forall_mem_singleton.mpr rfl
  setting := List.forall_mem_singleton.mpr rfl
  literal defined := List.forall_mem_singleton.mpr defined
  array each := everywhere_array.mpr ⟨rfl, each⟩

end Expr

end RowGuard
