import RowGuard.Proofs.Predicate.Findings
import RowGuard.Proofs.RowFilter.Shape

/-! What lowering reports. The stand-ins of a row filter are those of the
predicate it was lowered from, some of them negated since, and those that
lowering reports itself. -/

set_option autoImplicit false

namespace RowGuard

variable {admitted : Unresolved → Prop} {p : Predicate}

/-- What holds of every node of a choice holds of every node of its conditions and branches, if it
holds of comparisons, which the keys of a choice by value stand for. -/
theorem Predicate.Choice.everywhere {holds : Predicate → Prop}
    {branches : List (Predicate × Predicate)} {otherwise : Predicate}
    (choice : p.Choice branches otherwise)
    (onCompare : ∀ comparator left right, holds (.compare comparator left right))
    (everywhere : p.Everywhere holds) :
    (∀ branch ∈ branches, branch.1.Everywhere holds ∧ branch.2.Everywhere holds) ∧
      otherwise.Everywhere holds := by
  have inside := everywhere.children
  cases choice with
  | select =>
      obtain ⟨outcomes, last⟩ := List.forall_mem_append.mp inside
      refine ⟨List.forall_mem_map.mpr fun branch member => ⟨?_, ?_⟩, last _ (.head _)⟩
      · rcases oriented_cases .eq _ branch.1 with same | ⟨flipped, same, _⟩
        · exact same ▸ .node (onCompare _ _ _) nofun
        · exact same ▸ .node (onCompare _ _ _) nofun
      · exact outcomes _ (List.mem_map_of_mem member)
  | firstOf =>
      obtain ⟨keys, rest⟩ := List.forall_mem_append.mp inside
      obtain ⟨outcomes, last⟩ := List.forall_mem_append.mp rest
      refine ⟨fun branch member => ⟨?_, ?_⟩, last _ (.head _)⟩
      · exact keys _ (List.mem_map_of_mem member)
      · exact outcomes _ (List.mem_map_of_mem member)

namespace RowFilter

open Compilation (Event)
open Traced (Each)

variable {scope : Scope} {f : RowFilter} {events : List Event}

/-! ## Tests -/

theorem tests_leaves (negates : ∀ construct, admitted construct → admitted construct.negate) :
    Tests (Leaves admitted) where
  toConnects := connects_leaves negates
  equals _ _ := nofun
  compare _ _ _ := nofun
  member _ _ := nofun
  isNull _ := nofun
  like _ _ _ := nofun
  related _ _ := nofun

theorem reported_of_admits (admits : scope.Admits events admitted) :
    Reported scope (Leaves admitted) events := by
  rintro text reports _ ⟨⟩
  exact admits.reported _ rfl reports

/-! ## Connectives -/

theorem leaves_asData (leaves : f.Everywhere (Leaves admitted)) :
    f.asData.Everywhere (Leaves admitted) := by
  cases f with
  | roleOnly condition =>
      refine .node nofun (List.forall_mem_cons.mpr ⟨.node nofun nofun, ?_⟩)
      exact List.forall_mem_singleton.mpr (.node nofun nofun)
  | pass | block | all _ | any _ | not _ | equals _ _ | compare _ _ _ | member _ _ | isNull _
  | like _ _ _ | someRelated _ _ _ | related _ _ | given _ _ _ | unresolved _ | foreign _ =>
      exact leaves

theorem leaves_negateLowered
    (negates : ∀ construct, admitted construct → admitted construct.negate)
    (leaves : f.Everywhere (Leaves admitted)) : f.negateLowered.Everywhere (Leaves admitted) := by
  cases f with
  | roleOnly condition => exact .node nofun nofun
  | pass | block | all _ | any _ | not _ | equals _ _ | compare _ _ _ | member _ _ | isNull _
  | like _ _ _ | someRelated _ _ _ | related _ _ | given _ _ _ | unresolved _ | foreign _ =>
      exact (connects_leaves negates).everywhere_negate leaves

theorem mem_of_mem_data {parts : List RowFilter} (member : f ∈ data parts) : f ∈ parts := by
  fun_induction data parts with
  | case1 => cases member
  | case2 condition parts ih => exact .tail _ (ih member)
  | case3 part parts _ ih =>
      rcases List.mem_cons.mp member with rfl | later
      · exact .head _
      · exact .tail _ (ih later)

variable {parts : List RowFilter}

theorem leaves_splitAny (negates : ∀ construct, admitted construct → admitted construct.negate)
    (each : ∀ part ∈ parts, part.Everywhere (Leaves admitted))
    (lowered : splitAny scope p parts = ⟨.ok f, events⟩) : f.Everywhere (Leaves admitted) := by
  have rows := (connects_leaves negates).everywhere_anyOf fun part member =>
    each part (mem_of_mem_data member)
  cases anySplit_of_run lowered with
  | rows _ => exact rows
  | roles _ _ => exact .node nofun nofun
  | split _ _ _ =>
      refine .node nofun (List.forall_mem_cons.mpr ⟨.node nofun nofun, ?_⟩)
      exact List.forall_mem_singleton.mpr rows

theorem leaves_splitAll {top : Bool}
    (negates : ∀ construct, admitted construct → admitted construct.negate)
    (each : ∀ part ∈ parts, part.Everywhere (Leaves admitted))
    (lowered : splitAll scope top parts = ⟨.ok f, events⟩) : f.Everywhere (Leaves admitted) := by
  have rows := (connects_leaves negates).everywhere_allOf fun part member =>
    each part (mem_of_mem_data member)
  cases allSplit_of_run lowered with
  | roles _ => exact .node nofun nofun
  | rows _ | checked _ _ _ _ => exact rows
  | split _ _ _ _ =>
      refine .node nofun (List.forall_mem_cons.mpr ⟨rows, ?_⟩)
      exact List.forall_mem_singleton.mpr (.node nofun nofun)

/-! ## Runs -/

/-- The statement that a run leaves admitted constructs only, given that the predicate does and that
those it reports are admitted. -/
def KeepsLeaves (scope : Scope) (admitted : Unresolved → Prop) (p : Predicate) (f : RowFilter)
    (events : List Event) : Prop :=
  p.Everywhere (Predicate.Leaves admitted) → scope.Admits events admitted →
    f.Everywhere (Leaves admitted)

theorem Chain.leaves {last chained : RowFilter} {branches : List (Predicate × Predicate)}
    (chain : Chain (KeepsLeaves scope admitted) last branches chained events)
    (onLast : last.Everywhere (Leaves admitted)) (admits : scope.Admits events admitted)
    (outcomes : ∀ branch ∈ branches, branch.2.Everywhere (Predicate.Leaves admitted)) :
    chained.Everywhere (Leaves admitted) := by
  induction chain with
  | nil => exact onLast
  | cons _ outcome ih =>
      rw [List.forall_mem_cons] at outcomes
      have passed := leaves_asData (outcome outcomes.1 admits.right)
      refine .node nofun (List.forall_mem_cons.mpr ⟨passed, ?_⟩)
      exact List.forall_mem_singleton.mpr (ih admits.left outcomes.2)

theorem Arms.leaves {excluded arms others : List RowFilter}
    {branches : List (Predicate × Predicate)}
    (run : Arms (KeepsLeaves scope admitted) excluded branches arms others events)
    (before : ∀ f ∈ excluded, f.Everywhere (Leaves admitted))
    (admits : scope.Admits events admitted)
    (leaves : ∀ branch ∈ branches, branch.1.Everywhere (Predicate.Leaves admitted) ∧
      branch.2.Everywhere (Predicate.Leaves admitted)) :
    (∀ f ∈ arms, f.Everywhere (Leaves admitted)) ∧
      ∀ f ∈ others, f.Everywhere (Leaves admitted) := by
  induction run with
  | nil => exact ⟨by simp, before⟩
  | @cons excluded _ _ _ _ _ left _ _ _ _ _ _ keyRun outcomeRun leftRun _ ih =>
      rw [List.forall_mem_cons] at leaves
      have matched := leaves_asData (keyRun leaves.1.1 admits.left)
      have passed := leaves_asData (outcomeRun leaves.1.2 admits.right.left)
      have leftover := (tests_leaves admits.negate).everywhere_unmatched matched leftRun
      have further : ∀ f ∈ excluded ++ [left], f.Everywhere (Leaves admitted) :=
        List.forall_mem_append.mpr ⟨before, List.forall_mem_singleton.mpr leftover⟩
      obtain ⟨later, rest⟩ := ih further admits.right.right.right leaves.2
      refine ⟨List.forall_mem_cons.mpr ⟨?_, later⟩, rest⟩
      refine (connects_leaves admits.negate).everywhere_allOf ?_
      refine List.forall_mem_append.mpr ⟨before, List.forall_mem_cons.mpr ⟨matched, ?_⟩⟩
      exact List.forall_mem_singleton.mpr passed

theorem each_leaves {ps : List Predicate} (each : Each (KeepsLeaves scope admitted) ps parts events)
    (leaves : ∀ p ∈ ps, p.Everywhere (Predicate.Leaves admitted))
    (admits : scope.Admits events admitted) :
    ∀ part ∈ parts, part.Everywhere (Leaves admitted) :=
  each.forall_right fun p member _ _ within keeps => keeps (leaves p member) (admits.mono within)

theorem invariant_keepsLeaves (scope : Scope) (admitted : Unresolved → Prop) :
    Invariant scope fun _ => KeepsLeaves scope admitted where
  role _ _ _ := .node nofun nofun
  constant {_ _ granted} _ _ _ _ _ := by
    cases granted with
    | true => exact .node nofun nofun
    | false => exact .node nofun nofun
  all _ each split leaves admits :=
    leaves_splitAll admits.negate (each_leaves each leaves.children admits.left) split
  any _ each split leaves admits :=
    leaves_splitAny admits.negate (each_leaves each leaves.children admits.left) split
  not {_ operand _ _} _ run leaves admits :=
    leaves_negateLowered admits.negate (run (leaves.children operand (.head _)) admits)
  marked {_ condition _ _} _ run leaves admits := run (leaves.children condition (.head _)) admits
  unresolved {_ construct} leaves _ := by
    refine .node ?_ nofun
    rintro _ ⟨⟩
    exact leaves.here construct rfl
  compare _ lowered _ admits :=
    (tests_leaves admits.negate).everywhere_fieldTest (reported_of_admits admits)
      (fieldTest_ofCompare _ _) lowered
  member _ lowered _ admits :=
    (tests_leaves admits.negate).everywhere_fieldTest (reported_of_admits admits)
      (fieldTest_ofMember _ _ _ _) lowered
  isNull _ lowered _ admits :=
    (tests_leaves admits.negate).everywhere_fieldTest (reported_of_admits admits)
      (fieldTest_ofNull _ _ _) lowered
  anyRelated {_ _ condition _ _ _} run leaves admits := by
    refine .node nofun (List.forall_mem_singleton.mpr ?_)
    exact leaves_asData (run (leaves.children condition (.head _)) admits)
  chain _ choice _ last chain _ leaves admits := by
    obtain ⟨branches, otherwise⟩ := choice.everywhere (fun _ _ _ => nofun) leaves
    exact chain.leaves (leaves_asData (last otherwise admits.left)) admits.right.left
      fun branch member => (branches branch member).2
  arms _ choice _ run last leaves admits := by
    have connects := connects_leaves admits.negate
    obtain ⟨branches, otherwise⟩ := choice.everywhere (fun _ _ _ => nofun) leaves
    obtain ⟨onArms, onExcluded⟩ := run.leaves (by simp) admits.left branches
    have onLast := leaves_asData (last otherwise admits.right)
    refine connects.everywhere_anyOf (List.forall_mem_append.mpr ⟨onArms, ?_⟩)
    refine List.forall_mem_singleton.mpr (connects.everywhere_allOf ?_)
    exact List.forall_mem_append.mpr ⟨onExcluded, List.forall_mem_singleton.mpr onLast⟩

end RowFilter

end RowGuard
