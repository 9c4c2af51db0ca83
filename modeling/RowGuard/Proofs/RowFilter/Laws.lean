import RowGuard.RowFilter.Bind
import RowGuard.Proofs.RowFilter.Truth

/-! Laws of the truth of filters. The folding constructors build conjunctions,
disjunctions and negations without changing it, as long as the constructs without
a meaning of their own have truth values for their defaults; and they stay within
every condition on nodes that connectives meet. -/

set_option autoImplicit false

namespace RowGuard

namespace RowFilter

/-! ## Folding -/

/-- What a filter adds to a conjunction. -/
def opensAll : RowFilter → Option (List RowFilter)
  | .block => none
  | .pass => some []
  | .all operands => some operands
  | item => some [item]

/-- What a filter adds to a disjunction. -/
def opensAny : RowFilter → Option (List RowFilter)
  | .pass => none
  | .block => some []
  | .any operands => some operands
  | item => some [item]

theorem conjuncts_eq_parts (items : List RowFilter) :
    conjuncts items = Folding.parts opensAll items := by
  induction items with
  | nil => rfl
  | cons item items ih =>
      cases item with
      | block => rfl
      | pass | all _ | any _ | not _ | equals _ _ | compare _ _ _ | member _ _ | isNull _
      | like _ _ _ | someRelated _ _ _ | related _ _ | given _ _ _ | unresolved _ | roleOnly _
      | foreign _ =>
          simp only [conjuncts, Folding.parts, opensAll, ih]
          cases Folding.parts opensAll items <;> rfl

theorem alternatives_eq_parts (items : List RowFilter) :
    alternatives items = Folding.parts opensAny items := by
  induction items with
  | nil => rfl
  | cons item items ih =>
      cases item with
      | pass => rfl
      | block | all _ | any _ | not _ | equals _ _ | compare _ _ _ | member _ _ | isNull _
      | like _ _ _ | someRelated _ _ _ | related _ _ | given _ _ _ | unresolved _ | roleOnly _
      | foreign _ =>
          simp only [alternatives, Folding.parts, opensAny, ih]
          cases Folding.parts opensAny items <;> rfl

theorem allOf_eq_joined (items : List RowFilter) :
    allOf items = Folding.joined .block .pass .all (Folding.parts opensAll items) := by
  rw [allOf, conjuncts_eq_parts]
  match Folding.parts opensAll items with
  | none | some [] | some [_] | some (_ :: _ :: _) => rfl

theorem anyOf_eq_joined (items : List RowFilter) :
    anyOf items = Folding.joined .pass .block .any (Folding.parts opensAny items) := by
  rw [anyOf, alternatives_eq_parts]
  match Folding.parts opensAny items with
  | none | some [] | some [_] | some (_ :: _ :: _) => rfl

theorem mem_opensAll {item part : RowFilter} {inner : List RowFilter}
    (opens : opensAll item = some inner) (inside : part ∈ inner) :
    part = item ∨ ∃ operands, item = .all operands ∧ part ∈ operands := by
  cases item with
  | block => cases opens
  | pass =>
      cases opens
      cases inside
  | all operands =>
      cases opens
      exact .inr ⟨_, rfl, inside⟩
  | any _ | not _ | equals _ _ | compare _ _ _ | member _ _ | isNull _ | like _ _ _
  | someRelated _ _ _ | related _ _ | given _ _ _ | unresolved _ | roleOnly _ | foreign _ =>
      cases opens
      exact .inl (List.mem_singleton.mp inside)

theorem mem_opensAny {item part : RowFilter} {inner : List RowFilter}
    (opens : opensAny item = some inner) (inside : part ∈ inner) :
    part = item ∨ ∃ operands, item = .any operands ∧ part ∈ operands := by
  cases item with
  | pass => cases opens
  | block =>
      cases opens
      cases inside
  | any operands =>
      cases opens
      exact .inr ⟨_, rfl, inside⟩
  | all _ | not _ | equals _ _ | compare _ _ _ | member _ _ | isNull _ | like _ _ _
  | someRelated _ _ _ | related _ _ | given _ _ _ | unresolved _ | roleOnly _ | foreign _ =>
      cases opens
      exact .inl (List.mem_singleton.mp inside)

variable {admitted : Unresolved → Prop} {roles : Predicate → Prop} {holds : RowFilter → Prop}
  {f : RowFilter} {items : List RowFilter}

/-- A class of filters that holds the constant ones, and a conjunction if and only if it holds the
operands, holds the folded conjunctions of its members. -/
theorem allOf_induction {motive : RowFilter → Prop} (onPass : motive .pass)
    (onBlock : motive .block) (onAll : ∀ fs, motive (.all fs) ↔ ∀ f ∈ fs, motive f)
    (onItems : ∀ item ∈ items, motive item) : motive (allOf items) := by
  rw [allOf_eq_joined]
  refine Folding.joined_induction onBlock onPass (fun fs => (onAll fs).mpr) ?_ onItems
  intro item inner holds opens part inside
  obtain rfl | ⟨operands, rfl, among⟩ := mem_opensAll opens inside
  · exact holds
  · exact (onAll _).mp holds part among

@[inherit_doc allOf_induction]
theorem anyOf_induction {motive : RowFilter → Prop} (onPass : motive .pass)
    (onBlock : motive .block) (onAny : ∀ fs, motive (.any fs) ↔ ∀ f ∈ fs, motive f)
    (onItems : ∀ item ∈ items, motive item) : motive (anyOf items) := by
  rw [anyOf_eq_joined]
  refine Folding.joined_induction onPass onBlock (fun fs => (onAny fs).mpr) ?_ onItems
  intro item inner holds opens part inside
  obtain rfl | ⟨operands, rfl, among⟩ := mem_opensAny opens inside
  · exact holds
  · exact (onAny _).mp holds part among

/-! ## Nodes -/

/-- A condition on nodes that connectives meet, and the negation of a construct if the construct
does. -/
structure Connects (holds : RowFilter → Prop) : Prop where
  pass : holds .pass
  block : holds .block
  all (operands : List RowFilter) : holds (.all operands)
  any (operands : List RowFilter) : holds (.any operands)
  not (operand : RowFilter) : holds (.not operand)
  negate (construct : Unresolved) :
    holds (.unresolved construct) → holds (.unresolved construct.negate)

theorem Connects.everywhere_allOf (connects : Connects holds)
    (each : ∀ f ∈ items, f.Everywhere holds) : (allOf items).Everywhere holds :=
  allOf_induction (.node connects.pass nofun) (.node connects.block nofun)
    (fun fs => ⟨Everywhere.children, .node (connects.all fs)⟩) each

theorem Connects.everywhere_anyOf (connects : Connects holds)
    (each : ∀ f ∈ items, f.Everywhere holds) : (anyOf items).Everywhere holds :=
  anyOf_induction (.node connects.pass nofun) (.node connects.block nofun)
    (fun fs => ⟨Everywhere.children, .node (connects.any fs)⟩) each

theorem Connects.everywhere_negate (connects : Connects holds) (everywhere : f.Everywhere holds) :
    f.negate.Everywhere holds := by
  cases f with
  | pass => exact .node connects.block nofun
  | block => exact .node connects.pass nofun
  | not operand => exact everywhere.children operand (.head _)
  | unresolved construct => exact .node (connects.negate construct everywhere.here) nofun
  | all _ | any _ | equals _ _ | compare _ _ _ | member _ _ | isNull _ | like _ _ _
  | someRelated _ _ _ | related _ _ | given _ _ _ | roleOnly _ | foreign _ =>
      exact .node (connects.not _) (List.forall_mem_singleton.mpr everywhere)

theorem connects_known : Connects Known where
  pass := trivial
  block := trivial
  all _ := trivial
  any _ := trivial
  not _ := trivial
  negate _ _ := trivial

theorem connects_leaves (negates : ∀ construct, admitted construct → admitted construct.negate) :
    Connects (Leaves admitted) where
  pass := nofun
  block := nofun
  all _ := nofun
  any _ := nofun
  not _ := nofun
  negate construct leaves := by
    rintro _ ⟨⟩
    exact negates construct (leaves construct rfl)

/-! ## Compiled filters -/

theorem compiled_all_iff : (RowFilter.all items).Compiled admitted roles ↔
    ∀ f ∈ items, f.Compiled admitted roles :=
  ⟨fun | .all compiled => compiled, .all⟩

theorem compiled_any_iff : (RowFilter.any items).Compiled admitted roles ↔
    ∀ f ∈ items, f.Compiled admitted roles :=
  ⟨fun | .any compiled => compiled, .any⟩

theorem compiled_allOf (compiled : ∀ f ∈ items, f.Compiled admitted roles) :
    (allOf items).Compiled admitted roles :=
  allOf_induction .pass .block (fun _ => compiled_all_iff) compiled

theorem compiled_anyOf (compiled : ∀ f ∈ items, f.Compiled admitted roles) :
    (anyOf items).Compiled admitted roles :=
  anyOf_induction .pass .block (fun _ => compiled_any_iff) compiled

theorem compiled_negate (negates : ∀ construct, admitted construct → admitted construct.negate)
    (compiled : f.Compiled admitted roles) : f.negate.Compiled admitted roles := by
  cases compiled with
  | pass => exact .block
  | block => exact .pass
  | not operand => exact operand
  | unresolved default admits => exact .unresolved default (negates _ admits)
  | all operands => exact .not (.all operands)
  | any operands => exact .not (.any operands)
  | equals value => exact .not (.equals value)
  | compare known value => exact .not (.compare known value)
  | member values => exact .not (.member values)
  | isNull => exact .not .isNull
  | like pattern => exact .not (.like pattern)
  | someRelated condition => exact .not (.someRelated condition)
  | related condition => exact .not (.related condition)
  | given role passed failed => exact .not (.given role passed failed)
  | roleOnly condition stands => exact .not (.roleOnly condition stands)

/-! ## Truth -/

theorem opens_all (f : RowFilter) (actor record : Value) :
    Folding.Opens Folding.conjunction (truth actor · record) opensAll f := by
  cases f with
  | all operands =>
      have whole := truth_all actor operands record
      simp only [Folding.Opens, opensAll, Folding.conjunction, whole]
      exact (Truth.all_singleton (Truth.isProper_all _)).symm
  | pass | block | any _ | not _ | equals _ _ | compare _ _ _ | member _ _ | isNull _ | like _ _ _
  | someRelated _ _ _ | related _ _ | given _ _ _ | unresolved _ | roleOnly _ | foreign _ => rfl

theorem opens_any (f : RowFilter) (actor record : Value) :
    Folding.Opens Folding.disjunction (truth actor · record) opensAny f := by
  cases f with
  | any operands =>
      have whole := truth_any actor operands record
      simp only [Folding.Opens, opensAny, Folding.disjunction, whole]
      exact (Truth.any_singleton (Truth.isProper_any _)).symm
  | pass | block | all _ | not _ | equals _ _ | compare _ _ _ | member _ _ | isNull _ | like _ _ _
  | someRelated _ _ _ | related _ _ | given _ _ _ | unresolved _ | roleOnly _ | foreign _ => rfl

theorem truth_allOf_of_defaulted (defaulted : ∀ f ∈ items, f.Everywhere Defaulted)
    (actor record : Value) :
    (allOf items).truth actor record = Truth.all (items.map (truth actor · record)) := by
  rw [allOf_eq_joined]
  refine Folding.value_joined Folding.conjunction (truth actor · record) rfl rfl
    (fun fs => truth_all actor fs record) (fun item _ => opens_all item actor record) ?_
  intro item member inner opens part inside
  obtain rfl | ⟨operands, rfl, among⟩ := mem_opensAll opens inside
  · exact isProper_truth (defaulted _ member) actor record
  · exact isProper_truth ((defaulted _ member).children part among) actor record

theorem truth_anyOf_of_defaulted (defaulted : ∀ f ∈ items, f.Everywhere Defaulted)
    (actor record : Value) :
    (anyOf items).truth actor record = Truth.any (items.map (truth actor · record)) := by
  rw [anyOf_eq_joined]
  refine Folding.value_joined Folding.disjunction (truth actor · record) rfl rfl
    (fun fs => truth_any actor fs record) (fun item _ => opens_any item actor record) ?_
  intro item member inner opens part inside
  obtain rfl | ⟨operands, rfl, among⟩ := mem_opensAny opens inside
  · exact isProper_truth (defaulted _ member) actor record
  · exact isProper_truth ((defaulted _ member).children part among) actor record

/-- Negation is exact on every filter that is no construct without a meaning. -/
theorem truth_negate_of_meaningful (meaningful : f.Meaningful) (defaulted : f.Everywhere Defaulted)
    (actor record : Value) : f.negate.truth actor record = (f.truth actor record).not := by
  cases f with
  | not operand =>
      have proper := isProper_truth (defaulted.children operand (.head _)) actor record
      exact (Truth.not_not proper).symm
  | unresolved construct => exact absurd rfl (meaningful construct)
  | pass | block | all _ | any _ | equals _ _ | compare _ _ _ | member _ _ | isNull _ | like _ _ _
  | someRelated _ _ _ | related _ _ | given _ _ _ | roleOnly _ | foreign _ => rfl

theorem truth_allOf (compiled : ∀ f ∈ items, f.Compiled admitted roles) (actor record : Value) :
    (allOf items).truth actor record = Truth.all (items.map (truth actor · record)) :=
  truth_allOf_of_defaulted (fun f member => (compiled f member).defaulted) actor record

theorem truth_anyOf (compiled : ∀ f ∈ items, f.Compiled admitted roles) (actor record : Value) :
    (anyOf items).truth actor record = Truth.any (items.map (truth actor · record)) :=
  truth_anyOf_of_defaulted (fun f member => (compiled f member).defaulted) actor record

theorem truth_negate (compiled : f.Compiled (fun _ => False) roles) (actor record : Value) :
    f.negate.truth actor record = (f.truth actor record).not := by
  refine truth_negate_of_meaningful ?_ compiled.defaulted actor record
  rintro construct rfl
  cases compiled with
  | unresolved _ admits => exact admits

end RowFilter

end RowGuard
