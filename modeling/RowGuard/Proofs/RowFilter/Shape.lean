import RowGuard.Proofs.RowFilter.Binding
import RowGuard.Proofs.RowFilter.Tests

/-! The shape of lowered filters. A compiled predicate is lowered to a compiled
filter of rows without role conditions among its filters, or it does not read
the record and is handed upwards as a role condition of the same truth. Role
checks are compiled too. -/

set_option autoImplicit false

namespace RowGuard

namespace Predicate

variable {admitted : Unresolved → Prop} {p : Predicate}

theorem truth_stripRole (p : Predicate) (actor record : Value) :
    p.stripRole.truth actor record = p.truth actor record := by
  fun_induction stripRole p with
  | case1 condition ih => rw [ih, truth]
  | case2 => rfl

theorem compiled_stripRole (compiled : p.Compiled admitted) : p.stripRole.Compiled admitted := by
  fun_induction stripRole p with
  | case1 condition ih =>
      cases compiled with
      | role compiled => exact ih compiled
  | case2 => exact compiled

end Predicate

namespace RowFilter

open Compilation (Event)
open Traced (Each)

variable {scope : Scope} {admitted : Unresolved → Prop}

/-! ## Parts -/

/-- What a predicate is lowered to. A predicate that does not read the record may become a role
condition, which has its truth without a record; anything else becomes a filter of rows. -/
inductive Lowered (admitted : Unresolved → Prop) (p : Predicate) : RowFilter → Prop where
  | role {condition : Predicate} : p.readsRecord = false → condition.Compiled admitted →
      (∀ actor record, condition.truth actor .null = p.truth actor record) →
      Lowered admitted p (.roleOnly condition)
  | rows {f : RowFilter} : f.Compiled admitted (fun _ => False) → Lowered admitted p f

variable {p : Predicate} {f : RowFilter} {events : List Event}

theorem Lowered.rows_of_reads (lowered : Lowered admitted p f) (reads : p.readsRecord) :
    f.Compiled admitted fun _ => False := by
  cases lowered with
  | role unread _ _ => rw [unread] at reads; cases reads
  | rows compiled => exact compiled

theorem Lowered.compiled (lowered : Lowered admitted p f) :
    f.Compiled admitted fun _ => True := by
  cases lowered with
  | role _ compiled _ => exact .roleOnly compiled trivial
  | rows compiled => exact compiled.mono fun _ => False.elim

theorem Lowered.asData (lowered : Lowered admitted p f) :
    f.asData.Compiled admitted fun _ => False := by
  cases lowered with
  | role _ compiled _ => exact .given compiled .pass .block
  | rows compiled =>
      cases f with
      | roleOnly _ => cases compiled with | roleOnly _ stands => exact stands.elim
      | pass | block | all _ | any _ | not _ | equals _ _ | compare _ _ _ | member _ _ | isNull _
      | like _ _ _ | someRelated _ _ _ | related _ _ | given _ _ _ | unresolved _ | foreign _ =>
          exact compiled

theorem truth_asData (f : RowFilter) (actor record : Value) :
    f.asData.truth actor record = f.truth actor record := by
  cases f with
  | roleOnly condition =>
      simp only [asData, truth]
      cases (condition.truth actor .null).holds <;> rfl
  | pass | block | all _ | any _ | not _ | equals _ _ | compare _ _ _ | member _ _ | isNull _
  | like _ _ _ | someRelated _ _ _ | related _ _ | given _ _ _ | unresolved _ | foreign _ => rfl

/-- The parts of a connective: its data parts are filters of rows, and its roles are compiled
conditions. If there are no data parts, then nothing in it reads the record. -/
structure Parted (admitted : Unresolved → Prop) (ps : List Predicate) (parts : List RowFilter) :
    Prop where
  compiled : ∀ part ∈ parts, part.Compiled admitted fun _ => True
  data : ∀ part ∈ data parts, part.Compiled admitted fun _ => False
  roles : ∀ condition ∈ roles parts, condition.Compiled admitted
  unread : RowFilter.data parts = [] → ∀ p ∈ ps, p.readsRecord = false

theorem parted_of_each {ps : List Predicate} {parts : List RowFilter}
    (each : Each (fun p f _ => Lowered admitted p f) ps parts events) :
    Parted admitted ps parts := by
  induction each with
  | nil => exact ⟨by simp, by simp [data], by simp [roles], by simp⟩
  | @cons p ps f fs _ _ lowered _ ih =>
      have compiled := List.forall_mem_cons.mpr ⟨lowered.compiled, ih.compiled⟩
      cases lowered with
      | role unread condition _ =>
          refine ⟨compiled, ih.data, List.forall_mem_cons.mpr ⟨condition, ih.roles⟩, ?_⟩
          intro empty
          exact List.forall_mem_cons.mpr ⟨unread, ih.unread empty⟩
      | rows rowwise =>
          have isData : data (f :: fs) = f :: data fs := by
            cases f <;> first | rfl | (cases rowwise; contradiction)
          have isRole : roles (f :: fs) = roles fs := by
            cases f <;> first | rfl | (cases rowwise; contradiction)
          refine ⟨compiled, ?_, isRole ▸ ih.roles, ?_⟩
          · rw [isData]
            exact List.forall_mem_cons.mpr ⟨rowwise, ih.data⟩
          · rw [isData]
            intro empty
            cases empty

/-! ## Splits -/

/-- A disjunction with a data part. If it has role conditions as well, it passes every row for
actors who satisfy one of them. -/
theorem splitAny_eq_ok {parts : List RowFilter} (some : data parts ≠ [])
    (lowered : splitAny scope p parts = ⟨.ok f, events⟩) :
    Compilation.roleChecks events = [] ∧
      (roles parts = [] ∧ f = anyOf (data parts) ∨
        roles parts ≠ [] ∧
          f = .given (Predicate.anyOf (roles parts)) .pass (anyOf (data parts))) := by
  cases anySplit_of_run lowered with
  | rows none => exact ⟨rfl, .inl ⟨none, rfl⟩⟩
  | roles _ empty => exact absurd empty some
  | split roled _ _ => exact ⟨rfl, .inr ⟨roled, rfl⟩⟩

/-- A conjunction with a data part. Its role conditions become role checks at the top, and anywhere
else a condition on the actor in front of the rows. -/
theorem splitAll_eq_ok {top : Bool} {parts : List RowFilter} (some : data parts ≠ [])
    (lowered : splitAll scope top parts = ⟨.ok f, events⟩) :
    roles parts = [] ∧ Compilation.roleChecks events = [] ∧ f = allOf (data parts) ∨
      top = true ∧ Compilation.roleChecks events = roles parts ∧ f = allOf (data parts) ∨
      roles parts ≠ [] ∧ Compilation.roleChecks events = [] ∧
        f = .given (Predicate.allOf (roles parts)) (allOf (data parts)) .block := by
  cases allSplit_of_run lowered with
  | roles empty => exact absurd empty some
  | rows none => exact .inl ⟨none, rfl, rfl⟩
  | @checked diagnostic isTop _ _ _ =>
      have checks (conditions : List Predicate) :
          Compilation.roleChecks (conditions.map .roleCheck ++ [.finding diagnostic]) =
            conditions := by
        rw [Compilation.roleChecks_append, Compilation.roleChecks, List.filterMap_map]
        exact (List.append_nil _).trans List.filterMap_some
      exact .inr (.inl ⟨isTop, checks _, rfl⟩)
  | split _ roled _ _ => exact .inr (.inr ⟨roled, rfl, rfl⟩)

theorem unmatched_eq_ok {key : Predicate} {matched left : RowFilter}
    (compiled : matched.Compiled admitted fun _ => False)
    (negates : ∀ construct, admitted construct → admitted construct.negate)
    (lowered : unmatched key matched = ⟨.ok left, events⟩) :
    events = [] ∧ left.Compiled admitted fun _ => False := by
  cases unmatched_of_run lowered with
  | compared nullRun =>
      obtain ⟨rfl, missingCompiled, _⟩ := nullAt_eq_ok nullRun
      refine ⟨rfl, compiled_anyOf ?_⟩
      rw [List.forall_mem_cons, List.forall_mem_singleton]
      exact ⟨compiled_negate negates compiled, missingCompiled _ _⟩
  | negated _ => exact ⟨rfl, compiled_negate negates compiled⟩

/-! ## Runs -/

/-- What a run of lowering keeps: the shape of the filter and of the role checks, which stand only
at the top. -/
structure Kept (admitted : Unresolved → Prop) (top : Bool) (p : Predicate) (f : RowFilter)
    (events : List Event) : Prop where
  lowered : Lowered admitted p f
  checks : ∀ check ∈ Compilation.roleChecks events, check.Compiled admitted
  unchecked : top = false → Compilation.roleChecks events = []

def Keeps (scope : Scope) (admitted : Unresolved → Prop) (top : Bool) (p : Predicate)
    (f : RowFilter) (events : List Event) : Prop :=
  p.Compiled admitted → scope.Admits events admitted → Kept admitted top p f events

theorem Kept.ofRows {top : Bool} (compiled : f.Compiled admitted fun _ => False)
    (unchecked : Compilation.roleChecks events = []) : Kept admitted top p f events where
  lowered := .rows compiled
  checks := by simp [unchecked]
  unchecked _ := unchecked

theorem Tested.kept {top : Bool} (tested : Tested scope admitted p f events)
    (admits : scope.Admits events admitted) : Kept admitted top p f events :=
  .ofRows (tested.compiled admits) tested.unchecked

theorem data_ne_nil {ps : List Predicate} {parts : List RowFilter}
    (parted : Parted admitted ps parts) (reads : Predicate.anyReadsRecord ps) :
    data parts ≠ [] := by
  intro empty
  rw [Predicate.anyReadsRecord_eq_false_iff.mpr (parted.unread empty)] at reads
  cases reads

theorem kept_of_each {top : Bool} {ps : List Predicate} {parts : List RowFilter}
    (each : Each (Kept admitted top) ps parts events) :
    Parted admitted ps parts ∧
      (∀ check ∈ Compilation.roleChecks events, check.Compiled admitted) ∧
      (top = false → Compilation.roleChecks events = []) := by
  refine ⟨parted_of_each (each.imp fun _ _ _ _ _ kept => kept.lowered), ?_⟩
  induction each with
  | nil => exact ⟨by simp [Compilation.roleChecks], fun _ => rfl⟩
  | cons first _ ih =>
      simp only [Compilation.roleChecks_append, List.mem_append, List.append_eq_nil_iff]
      refine ⟨?_, fun below => ⟨first.unchecked below, ih.2 below⟩⟩
      rintro check (early | late)
      · exact first.checks check early
      · exact ih.1 check late

theorem Chain.kept {last chained : RowFilter} {branches : List (Predicate × Predicate)}
    (chain : Chain (Keeps scope admitted false) last branches chained events)
    (rows : last.Compiled admitted fun _ => False) (admits : scope.Admits events admitted)
    (compiled : ∀ branch ∈ branches, branch.1.Compiled admitted ∧ branch.2.Compiled admitted) :
    chained.Compiled admitted (fun _ => False) ∧ Compilation.roleChecks events = [] := by
  induction chain with
  | nil => exact ⟨rows, rfl⟩
  | cons _ outcome ih =>
      rw [List.forall_mem_cons] at compiled
      obtain ⟨chained, unchecked⟩ := ih admits.left compiled.2
      have passed := outcome compiled.1.2 admits.right
      refine ⟨.given (Predicate.compiled_stripRole compiled.1.1) passed.lowered.asData chained, ?_⟩
      rw [Compilation.roleChecks_append, unchecked, passed.unchecked rfl]
      rfl

theorem Arms.kept {excluded arms others : List RowFilter}
    {branches : List (Predicate × Predicate)}
    (run : Arms (Keeps scope admitted false) excluded branches arms others events)
    (rows : ∀ f ∈ excluded, f.Compiled admitted fun _ => False)
    (admits : scope.Admits events admitted)
    (compiled : ∀ branch ∈ branches, branch.1.Compiled admitted ∧ branch.2.Compiled admitted) :
    (∀ f ∈ arms, f.Compiled admitted fun _ => False) ∧
      (∀ f ∈ others, f.Compiled admitted fun _ => False) ∧
      Compilation.roleChecks events = [] := by
  induction run with
  | nil => exact ⟨by simp, rows, rfl⟩
  | @cons excluded key outcome rest matched passed left arms others _ _ _ _ keyRun outcomeRun leftRun
      _ ih =>
      rw [List.forall_mem_cons] at compiled
      have key := keyRun compiled.1.1 admits.left
      have outcome := outcomeRun compiled.1.2 admits.right.left
      obtain ⟨rfl, leftover⟩ := unmatched_eq_ok key.lowered.asData admits.negate leftRun
      have further : ∀ f ∈ excluded ++ [left], f.Compiled admitted fun _ => False :=
        List.forall_mem_append.mpr ⟨rows, List.forall_mem_singleton.mpr leftover⟩
      obtain ⟨armsCompiled, othersCompiled, unchecked⟩ :=
        ih further admits.right.right.right compiled.2
      refine ⟨List.forall_mem_cons.mpr ⟨compiled_allOf ?_, armsCompiled⟩, othersCompiled, ?_⟩
      · refine List.forall_mem_append.mpr ⟨rows, ?_⟩
        rw [List.forall_mem_cons, List.forall_mem_singleton]
        exact ⟨key.lowered.asData, outcome.lowered.asData⟩
      · simp only [Compilation.roleChecks_append, key.unchecked rfl, outcome.unchecked rfl,
          unchecked]
        rfl

theorem each_kept {top : Bool} {ps : List Predicate} {parts : List RowFilter}
    (each : Each (Keeps scope admitted top) ps parts events)
    (compiled : ∀ p ∈ ps, p.Compiled admitted) (admits : scope.Admits events admitted) :
    Each (Kept admitted top) ps parts events :=
  each.imp fun p member _ _ within keeps => keeps (compiled p member) (admits.mono within)

theorem compiled_negateLowered
    (negates : ∀ construct, admitted construct → admitted construct.negate)
    (compiled : f.Compiled admitted fun _ => False) :
    f.negateLowered = f.negate ∧ f.negate.Compiled admitted fun _ => False := by
  refine ⟨?_, compiled_negate negates compiled⟩
  cases compiled with
  | roleOnly _ stands => exact stands.elim
  | pass | block | all _ | any _ | not _ | equals _ | compare _ _ | member _ | isNull | like _
  | someRelated _ | related _ | given _ _ _ | unresolved _ _ => rfl

theorem keeps_all {top : Bool} {ps : List Predicate} {parts : List RowFilter}
    {before after : List Event} (reads : (Predicate.all ps).readsRecord)
    (each : Each (Keeps scope admitted top) ps parts before)
    (split : splitAll scope top parts = ⟨.ok f, after⟩) :
    Keeps scope admitted top (.all ps) f (before ++ after) := by
  intro compiled admits
  have kept := each_kept each (Predicate.compiled_all_iff.mp compiled) admits.left
  obtain ⟨parted, checks, unchecked⟩ := kept_of_each kept
  have rows := compiled_allOf parted.data
  rw [Predicate.readsRecord] at reads
  obtain ⟨_, none, rfl⟩ | ⟨rfl, moved, rfl⟩ | ⟨_, none, rfl⟩ :=
    splitAll_eq_ok (data_ne_nil parted reads) split
  · refine ⟨.rows rows, ?_, ?_⟩ <;> rw [Compilation.roleChecks_append, none, List.append_nil]
    · exact checks
    · exact unchecked
  · refine ⟨.rows rows, ?_, fun below => nomatch below⟩
    rw [Compilation.roleChecks_append, moved]
    exact List.forall_mem_append.mpr ⟨checks, parted.roles⟩
  · refine ⟨.rows (.given (Predicate.compiled_allOf parted.roles) rows .block), ?_, ?_⟩ <;>
      rw [Compilation.roleChecks_append, none, List.append_nil]
    · exact checks
    · exact unchecked

theorem keeps_any {top : Bool} {ps : List Predicate} {parts : List RowFilter}
    {before after : List Event} (reads : (Predicate.any ps).readsRecord)
    (each : Each (Keeps scope admitted false) ps parts before)
    (split : splitAny scope (.any ps) parts = ⟨.ok f, after⟩) :
    Keeps scope admitted top (.any ps) f (before ++ after) := by
  intro compiled admits
  have kept := each_kept each (Predicate.compiled_any_iff.mp compiled) admits.left
  obtain ⟨parted, _, unchecked⟩ := kept_of_each kept
  rw [Predicate.readsRecord] at reads
  obtain ⟨none, form⟩ := splitAny_eq_ok (data_ne_nil parted reads) split
  have quiet : Compilation.roleChecks (before ++ after) = [] := by
    rw [Compilation.roleChecks_append, unchecked rfl, none]
    rfl
  obtain ⟨_, rfl⟩ | ⟨_, rfl⟩ := form
  · exact .ofRows (compiled_anyOf parted.data) quiet
  · exact .ofRows (.given (Predicate.compiled_anyOf parted.roles) .pass
      (compiled_anyOf parted.data)) quiet

theorem keeps_chain {top : Bool} {otherwise : Predicate}
    {branches : List (Predicate × Predicate)} {last chained : RowFilter}
    {first second third : List Event} (choice : p.Choice branches otherwise)
    (lastRun : Keeps scope admitted false otherwise last first)
    (chain : Chain (Keeps scope admitted false) (asData last) branches chained second)
    (noted : noteChoice scope p = ⟨.ok (), third⟩) :
    Keeps scope admitted top p chained (first ++ (second ++ third)) := by
  intro compiled admits
  obtain ⟨branchesCompiled, otherwiseCompiled⟩ := choice.compiled compiled
  have last := lastRun otherwiseCompiled admits.left
  obtain ⟨rows, unchecked⟩ := chain.kept last.lowered.asData admits.right.left branchesCompiled
  obtain ⟨_, rfl, _⟩ := noteSplit_eq_ok noted
  refine .ofRows rows ?_
  rw [Compilation.roleChecks_append, Compilation.roleChecks_append, last.unchecked rfl, unchecked]
  rfl

theorem keeps_arms {top : Bool} {otherwise : Predicate}
    {branches : List (Predicate × Predicate)} {arms excluded : List RowFilter} {last : RowFilter}
    {first second : List Event} (choice : p.Choice branches otherwise)
    (run : Arms (Keeps scope admitted false) [] branches arms excluded first)
    (lastRun : Keeps scope admitted false otherwise last second) :
    Keeps scope admitted top p (anyOf (arms ++ [allOf (excluded ++ [asData last])]))
      (first ++ second) := by
  intro compiled admits
  obtain ⟨branchesCompiled, otherwiseCompiled⟩ := choice.compiled compiled
  obtain ⟨armsCompiled, excludedCompiled, unchecked⟩ :=
    run.kept (by simp) admits.left branchesCompiled
  have last := lastRun otherwiseCompiled admits.right
  refine .ofRows (compiled_anyOf (List.forall_mem_append.mpr ⟨armsCompiled, ?_⟩)) ?_
  · rw [List.forall_mem_singleton]
    refine compiled_allOf (List.forall_mem_append.mpr ⟨excludedCompiled, ?_⟩)
    exact List.forall_mem_singleton.mpr last.lowered.asData
  · rw [Compilation.roleChecks_append, unchecked, last.unchecked rfl]
    rfl

theorem invariant_keeps (scope : Scope) (admitted : Unresolved → Prop) :
    Invariant scope (Keeps scope admitted) where
  role {top p} isRole compiled _ := by
    have unread : p.readsRecord = false := by
      rw [Predicate.isRoleOnly, Bool.and_eq_true, Bool.not_eq_true'] at isRole
      exact isRole.2
    refine ⟨.role unread (Predicate.compiled_stripRole compiled) ?_, by simp [Compilation.roleChecks],
      fun _ => rfl⟩
    intro actor record
    rw [Predicate.truth_stripRole]
    exact compiled.truth_congr_record unread actor .null record
  constant {_ _ granted} _ _ _ _ _ := by
    cases granted with
    | true => exact .ofRows .pass rfl
    | false => exact .ofRows .block rfl
  all := keeps_all
  any := keeps_any
  not reads run := by
    intro compiled admits
    cases compiled with
    | not compiled =>
        have kept := run compiled admits
        obtain ⟨same, negated⟩ :=
          compiled_negateLowered admits.negate (kept.lowered.rows_of_reads reads)
        rw [same]
        exact .ofRows negated (kept.unchecked rfl)
  marked reads run := by
    intro compiled admits
    cases compiled with
    | role compiled =>
        have kept := run compiled admits
        exact ⟨.rows (kept.lowered.rows_of_reads reads), kept.checks, kept.unchecked⟩
  unresolved compiled _ := by
    cases compiled with
    | unresolved default admits => exact .ofRows (.unresolved default admits) rfl
  compare _ lowered compiled admits := by
    cases compiled with
    | compare known left right _ => exact (tested_of_oriented known left right lowered).kept admits
  member _ lowered compiled admits :=
    (tested_of_fieldTest compiled (fieldTest_ofMember _ _ _ _) lowered).kept admits
  isNull _ lowered compiled admits :=
    (tested_of_fieldTest compiled (fieldTest_ofNull _ _ _) lowered).kept admits
  anyRelated run compiled admits := by
    cases compiled with
    | anyRelated _ condition =>
        have kept := run condition admits
        exact .ofRows (.someRelated kept.lowered.asData) (kept.unchecked rfl)
  chain _ choice _ last chain noted := keeps_chain choice last chain noted
  arms _ choice _ run last := keeps_arms choice run last

end RowFilter

end RowGuard
