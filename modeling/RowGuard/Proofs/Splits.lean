import RowGuard.Proofs.Agreement
import RowGuard.Proofs.Predicate.Related
import RowGuard.Proofs.RowFilter.Findings
import RowGuard.Proofs.RowFilter.Normal

/-! Splits between roles and rows. Lowering takes a condition on the actor alone
out of a connective that also tests rows, and makes a choice over the actor a
conditional filter; it reports either. It does not report that a choice over rows
has a condition on the actor alone for a key or an outcome, which becomes a
conditional filter as well. -/

set_option autoImplicit false

namespace RowGuard

/-! ## Predicates -/

namespace Predicate

/-- Whether lowering takes a predicate apart, somewhere inside it, into conditions on the actor and
conditions on rows. -/
inductive Splits : Predicate → Prop where
  | all {operands : List Predicate} {role : Predicate} :
      (Predicate.all operands).readsRecord → role ∈ operands → role.isRoleOnly →
      Splits (.all operands)
  | any {operands : List Predicate} {role : Predicate} :
      (Predicate.any operands).readsRecord → role ∈ operands → role.isRoleOnly →
      Splits (.any operands)
  | choice {p otherwise : Predicate} {branches : List (Predicate × Predicate)} :
      p.readsRecord → p.Choice branches otherwise → (∀ branch ∈ branches, branch.1.isRoleOnly) →
      Splits p
  | inside {p child : Predicate} : child ∈ p.children → Splits child → Splits p

/-- A choice over rows: it reads the record, and some key is not a condition on the actor alone. -/
structure ChoosesRows (p : Predicate) (branches : List (Predicate × Predicate))
    (otherwise : Predicate) : Prop where
  reads : p.readsRecord
  choice : p.Choice branches otherwise
  mixed : ∃ branch ∈ branches, ¬branch.1.isRoleOnly

/-- The conditions on the actor alone, without their marks, that are keys or outcomes of choices
over rows in a predicate. -/
inductive Merges : Predicate → Predicate → Prop where
  | key {p otherwise : Predicate} {branches : List (Predicate × Predicate)}
      {branch : Predicate × Predicate} :
      p.ChoosesRows branches otherwise → branch ∈ branches → branch.1.isRoleOnly →
      Merges p branch.1.stripRole
  | outcome {p otherwise : Predicate} {branches : List (Predicate × Predicate)}
      {branch : Predicate × Predicate} :
      p.ChoosesRows branches otherwise → branch ∈ branches → branch.2.isRoleOnly →
      Merges p branch.2.stripRole
  | otherwise {p otherwise : Predicate} {branches : List (Predicate × Predicate)} :
      p.ChoosesRows branches otherwise → otherwise.isRoleOnly → Merges p otherwise.stripRole
  | inside {p child role : Predicate} : child ∈ p.children → Merges child role → Merges p role

section Children

variable {p child otherwise : Predicate} {branches : List (Predicate × Predicate)}
  {branch : Predicate × Predicate}

theorem unread_of_child (unread : p.readsRecord = Bool.false) :
    ∀ child ∈ p.children, child.readsRecord = Bool.false := by
  cases p with
  | all _ | any _ => exact anyReadsRecord_eq_false_iff.mp unread
  | not _ | role _ => exact List.forall_mem_singleton.mpr unread
  | anyRelated _ _ _ => cases unread
  | select _ branches otherwise =>
      simp only [readsRecord, Bool.or_eq_false_iff, selectReadsRecord_eq_false_iff] at unread
      simp only [children, List.forall_mem_append, List.forall_mem_map, List.forall_mem_singleton]
      exact ⟨fun branch member => (unread.1.2 branch member).2, unread.2⟩
  | firstOf branches otherwise =>
      simp only [readsRecord, Bool.or_eq_false_iff, firstReadsRecord_eq_false_iff] at unread
      simp only [children, List.forall_mem_append, List.forall_mem_map, List.forall_mem_singleton]
      exact ⟨fun branch member => (unread.1 branch member).1,
        fun branch member => (unread.1 branch member).2, unread.2⟩
  | const _ | compare _ _ _ | member _ _ _ | isNull _ _ | unresolved _ | foreign _ =>
      simp [children]

theorem Splits.readsRecord (splits : p.Splits) : p.readsRecord := by
  induction splits with
  | all reads _ _ | any reads _ _ | choice reads _ _ => exact reads
  | @inside p child member _ ih =>
      cases reads : p.readsRecord with
      | true => rfl
      | false =>
          rw [unread_of_child reads child member] at ih
          cases ih

theorem Choice.otherwise_mem (choice : p.Choice branches otherwise) : otherwise ∈ p.children := by
  cases choice with
  | select | firstOf => simp [children]

theorem Choice.outcome_mem (choice : p.Choice branches otherwise) (member : branch ∈ branches) :
    branch.2 ∈ p.children := by
  cases choice with
  | select =>
      obtain ⟨own, among, rfl⟩ := List.mem_map.mp member
      exact List.mem_append_left _ (List.mem_map_of_mem among)
  | firstOf => exact List.mem_append_right _ (List.mem_append_left _ (List.mem_map_of_mem member))

theorem Choice.key_mem (choice : p.Choice branches otherwise) (member : branch ∈ branches) :
    branch.1 ∈ p.children ∨ branch.1.children = [] := by
  cases choice with
  | @select subject _ _ =>
      obtain ⟨own, _, rfl⟩ := List.mem_map.mp member
      rcases oriented_cases .eq subject own.1 with same | ⟨_, same, _⟩
      · exact .inr (congrArg children same)
      · exact .inr (congrArg children same)
  | firstOf => exact .inl (List.mem_append_left _ (List.mem_map_of_mem member))

theorem Choice.mem_children (choice : p.Choice branches otherwise) (member : child ∈ p.children) :
    child = otherwise ∨ ∃ branch ∈ branches, child = branch.1 ∨ child = branch.2 := by
  cases choice with
  | select =>
      rcases List.mem_append.mp member with outcome | last
      · obtain ⟨own, among, rfl⟩ := List.mem_map.mp outcome
        exact .inr ⟨_, List.mem_map_of_mem among, .inr rfl⟩
      · exact .inl (List.mem_singleton.mp last)
  | firstOf =>
      rcases List.mem_append.mp member with key | rest
      · obtain ⟨own, among, rfl⟩ := List.mem_map.mp key
        exact .inr ⟨own, among, .inl rfl⟩
      · rcases List.mem_append.mp rest with outcome | last
        · obtain ⟨own, among, rfl⟩ := List.mem_map.mp outcome
          exact .inr ⟨own, among, .inr rfl⟩
        · exact .inl (List.mem_singleton.mp last)

theorem Choice.unique {others : List (Predicate × Predicate)} {last : Predicate}
    (choice : p.Choice branches otherwise) (again : p.Choice others last) :
    branches = others ∧ otherwise = last := by
  cases choice <;> cases again <;> exact ⟨rfl, rfl⟩

theorem not_splits_of_leaf (leaf : p.children = []) : ¬p.Splits := by
  intro splits
  cases splits with
  | @all operands _ _ member _ | @any operands _ _ member _ =>
      have none : operands = [] := leaf
      simp [none] at member
  | choice _ choice _ => exact List.not_mem_nil (leaf ▸ choice.otherwise_mem)
  | inside member _ => exact List.not_mem_nil (leaf ▸ member)

theorem ChoosesRows.splits_iff (chooses : p.ChoosesRows branches otherwise) :
    p.Splits ↔
      (∃ branch ∈ branches, branch.1.Splits ∨ branch.2.Splits) ∨ otherwise.Splits := by
  have choice := chooses.choice
  constructor
  · intro splits
    cases splits with
    | all _ _ _ | any _ _ _ => cases choice
    | choice _ again keys =>
        obtain ⟨rfl, rfl⟩ := choice.unique again
        obtain ⟨branch, among, isData⟩ := chooses.mixed
        exact absurd (keys branch among) isData
    | inside child inner =>
        rcases choice.mem_children child with rfl | ⟨branch, among, rfl | rfl⟩
        · exact .inr inner
        · exact .inl ⟨branch, among, .inl inner⟩
        · exact .inl ⟨branch, among, .inr inner⟩
  · rintro (⟨branch, among, inner | inner⟩ | inner)
    · rcases choice.key_mem among with child | leaf
      · exact .inside child inner
      · exact absurd inner (not_splits_of_leaf leaf)
    · exact .inside (choice.outcome_mem among) inner
    · exact .inside choice.otherwise_mem inner

theorem not_merges_of_leaf {role : Predicate} (leaf : p.children = []) : ¬p.Merges role := by
  intro merges
  cases merges with
  | key chooses _ _ | outcome chooses _ _ | otherwise chooses _ =>
      exact List.not_mem_nil (leaf ▸ chooses.choice.otherwise_mem)
  | inside member _ => exact List.not_mem_nil (leaf ▸ member)

end Children

end Predicate

/-! ## Events -/

namespace Compilation

/-- Whether events report a split between roles and rows. -/
def ReportsSplit (events : List Event) : Prop :=
  ∃ d, .finding d ∈ events ∧ d.category = .roleSplit

/-- Whether an event is neither about a split nor a role check. -/
def Event.IsPlain : Event → Prop
  | .finding d => d.category ≠ .roleSplit
  | .guess _ => True
  | .roleCheck _ => False

variable {events before after : List Event}

theorem reportsSplit_append_iff :
    ReportsSplit (before ++ after) ↔ ReportsSplit before ∨ ReportsSplit after := by
  simp [ReportsSplit, or_and_right, exists_or]

theorem not_reportsSplit_of_plain (plain : ∀ event ∈ events, event.IsPlain) :
    ¬ReportsSplit events := by
  rintro ⟨d, noted, about⟩
  exact plain _ noted about

theorem roleChecks_of_plain (plain : ∀ event ∈ events, event.IsPlain) : roleChecks events = [] := by
  refine List.filterMap_eq_nil_iff.mpr fun event member => ?_
  cases event with
  | finding _ | guess _ => rfl
  | roleCheck _ => exact (plain _ member).elim

end Compilation

theorem Scope.allows_plain (scope : Scope) : scope.Allows Compilation.Event.IsPlain where
  guess _ := trivial
  construct _ _ _ := nofun
  guessed _ _ := nofun

/-! ## Filters -/

namespace RowFilter

open Compilation (Event ReportsSplit roleChecks)
open Predicate (ReadsRelated)
open Traced (Each)

/-- Whether a node filters rows and, unless splits are reported, is conditional on the actor only in
that it passes every row or none by an admitted role condition. -/
def Told (reported : Prop) (admitted : Predicate → Prop) (f : RowFilter) : Prop :=
  f.isRowwise ∧ (¬reported → ∀ role passed failed, f = .given role passed failed →
    admitted role ∧ passed = .pass ∧ failed = .block)

variable {scope : Scope} {reported : Prop} {admitted : Predicate → Prop} {p : Predicate}
  {f : RowFilter} {events before after : List Event}

theorem Told.mono {wider : Prop} {others : Predicate → Prop} (told : f.Told reported admitted)
    (reports : reported → wider) (admits : ∀ role, admitted role → others role) :
    f.Told wider others := by
  refine ⟨told.1, fun unreported role passed failed same => ?_⟩
  obtain ⟨among, gate⟩ := told.2 (fun known => unreported (reports known)) role passed failed same
  exact ⟨admits role among, gate⟩

theorem tests_told : Tests (Told reported admitted) where
  pass := ⟨rfl, nofun⟩
  block := ⟨rfl, nofun⟩
  all _ := ⟨rfl, nofun⟩
  any _ := ⟨rfl, nofun⟩
  not _ := ⟨rfl, nofun⟩
  negate _ _ := ⟨rfl, nofun⟩
  equals _ _ := ⟨rfl, nofun⟩
  compare _ _ _ := ⟨rfl, nofun⟩
  member _ _ := ⟨rfl, nofun⟩
  isNull _ := ⟨rfl, nofun⟩
  like _ _ _ := ⟨rfl, nofun⟩
  related _ _ := ⟨rfl, nofun⟩

theorem told_given {role : Predicate} {passed failed : RowFilter} (reports : reported)
    (onPassed : passed.Everywhere (Told reported admitted))
    (onFailed : failed.Everywhere (Told reported admitted)) :
    (RowFilter.given role passed failed).Everywhere (Told reported admitted) := by
  refine .node ⟨rfl, fun unreported => absurd reports unreported⟩ ?_
  exact List.forall_mem_cons.mpr ⟨onPassed, List.forall_mem_singleton.mpr onFailed⟩

theorem told_gate {role : Predicate} (among : admitted role) :
    (RowFilter.given role .pass .block).Everywhere (Told reported admitted) := by
  refine .node ⟨rfl, ?_⟩ ?_
  · rintro _ _ _ _ ⟨⟩
    exact ⟨among, rfl, rfl⟩
  · refine List.forall_mem_cons.mpr ⟨everywhere_of_leaf rfl tests_told.pass, ?_⟩
    exact List.forall_mem_singleton.mpr (everywhere_of_leaf rfl tests_told.block)

theorem told_someRelated {relation : String} {joinFields : List String}
    (onRows : f.Everywhere (Told reported admitted)) :
    (RowFilter.someRelated relation f joinFields).Everywhere (Told reported admitted) := by
  refine .node ⟨rfl, ?_⟩ (List.forall_mem_singleton.mpr onRows)
  rintro _ _ _ _ ⟨⟩

theorem asData_of_isRowwise (row : f.isRowwise) : f.asData = f := by
  unfold asData
  split
  · cases row
  · rfl

theorem negateLowered_of_isRowwise (row : f.isRowwise) : f.negateLowered = f.negate := by
  unfold negateLowered
  split
  · cases row
  · rfl

theorem parts_of_isRowwise (row : f.isRowwise) (parts : List RowFilter) :
    data (f :: parts) = f :: data parts ∧ roles (f :: parts) = roles parts := by
  cases f with
  | roleOnly _ => cases row
  | pass | block | all _ | any _ | not _ | equals _ _ | compare _ _ _ | member _ _ | isNull _
  | like _ _ _ | someRelated _ _ _ | related _ _ | given _ _ _ | unresolved _ | foreign _ =>
      exact ⟨rfl, rfl⟩

/-! ## Runs -/

/-- What a run of lowering accounts for. It reports the splits of the predicate, leaves role checks
only where it reports one, and hands a condition on the actor alone upwards; any other predicate
becomes a filter of rows, whose unreported conditions on the actor come from choices over rows. -/
structure Accounted (p : Predicate) (f : RowFilter) (events : List Event) : Prop where
  reports : ReportsSplit events ↔ p.Splits
  checked : ¬ReportsSplit events → roleChecks events = []
  role : p.isRoleOnly → f = .roleOnly p.stripRole
  rows : ¬p.isRoleOnly → f.Everywhere (Told (ReportsSplit events) p.Merges)

def Accounts (p : Predicate) (f : RowFilter) (events : List Event) : Prop :=
  p.Everywhere ReadsRelated → Accounted p f events

/-- Whether a class of role conditions holds what a part of a choice merges, and the part itself. -/
structure Merged (admitted : Predicate → Prop) (p : Predicate) : Prop where
  inside (role : Predicate) : p.Merges role → admitted role
  whole : p.isRoleOnly → admitted p.stripRole

theorem Accounted.asData (accounted : Accounted p f events) (merged : Merged admitted p)
    (reports : ReportsSplit events → reported) : f.asData.Everywhere (Told reported admitted) := by
  cases isRole : p.isRoleOnly with
  | true =>
      rw [accounted.role isRole]
      exact told_gate (merged.whole isRole)
  | false =>
      have rows := accounted.rows (by simp [isRole])
      rw [asData_of_isRowwise rows.here.1]
      exact rows.imp fun _ told => told.mono reports merged.inside

/-- A run on a predicate without parts that reports no split. -/
theorem accounted_of_leaf (reads : p.readsRecord) (leaf : p.children = [])
    (plain : ∀ event ∈ events, event.IsPlain)
    (rows : f.Everywhere (Told (ReportsSplit events) p.Merges)) : Accounted p f events where
  reports :=
    iff_of_false (Compilation.not_reportsSplit_of_plain plain) (Predicate.not_splits_of_leaf leaf)
  checked _ := Compilation.roleChecks_of_plain plain
  role isRole := by simp [Predicate.isRoleOnly, reads] at isRole
  rows _ := rows

/-- A predicate around a single one that reads the record, and is neither a connective nor a choice,
accounts for what that one does. -/
theorem accounted_of_operand {operand : Predicate} {g : RowFilter}
    (accounted : Accounted operand f events) (inner : operand.readsRecord) (reads : p.readsRecord)
    (children : p.children = [operand])
    (single : ∀ branches otherwise, ¬p.Choice branches otherwise)
    (onRows : ∀ {admitted}, f.Everywhere (Told (ReportsSplit events) admitted) →
      g.Everywhere (Told (ReportsSplit events) admitted)) : Accounted p g events := by
  have isRow : ¬operand.isRoleOnly := by simp [Predicate.isRoleOnly, inner]
  have within : operand ∈ p.children := children ▸ .head _
  refine ⟨?_, accounted.checked, fun isRole => ?_, fun _ => ?_⟩
  · rw [accounted.reports]
    constructor
    · exact .inside within
    · intro splits
      cases splits with
      | @all operands role _ among isRole | @any operands role _ among isRole =>
          have same : operands = [operand] := children
          rw [same, List.mem_singleton] at among
          exact absurd (among ▸ isRole) isRow
      | choice _ choice _ => exact absurd choice (single _ _)
      | inside child split =>
          rw [children, List.mem_singleton] at child
          exact child ▸ split
  · simp [Predicate.isRoleOnly, reads] at isRole
  · exact (onRows (accounted.rows isRow)).imp fun _ told =>
      told.mono id fun _ merges => .inside within merges

/-- Once a split is reported, only the form of the rows is left to account for. -/
theorem Accounted.asData_of_reported (accounted : Accounted p f events) (reports : reported) :
    f.asData.Everywhere (Told reported admitted) := by
  have rows := accounted.asData ⟨fun _ _ => trivial, fun _ => trivial⟩ fun _ => reports
  exact rows.imp fun _ told => ⟨told.1, fun unreported => absurd reports unreported⟩

/-! ## Connectives -/

/-- What the runs on the operands of a connective account for. -/
structure PartsAccounted (ps : List Predicate) (parts : List RowFilter) (events : List Event) :
    Prop where
  reports : ReportsSplit events ↔ ∃ p ∈ ps, p.Splits
  checked : ¬ReportsSplit events → roleChecks events = []
  roles : RowFilter.roles parts = [] ↔ ∀ p ∈ ps, ¬p.isRoleOnly
  unread : data parts = [] → ∀ p ∈ ps, p.readsRecord = false
  rows : ∀ part ∈ data parts,
    part.Everywhere (Told (ReportsSplit events) fun role => ∃ p ∈ ps, p.Merges role)

theorem partsAccounted_of_each {ps : List Predicate} {parts : List RowFilter}
    (each : Each Accounts ps parts events) (related : ∀ p ∈ ps, p.Everywhere ReadsRelated) :
    PartsAccounted ps parts events := by
  induction each with
  | nil => exact ⟨by simp [ReportsSplit], fun _ => rfl, by simp [roles], by simp, by simp [data]⟩
  | @cons p ps f parts first second accounts _ ih =>
      rw [List.forall_mem_cons] at related
      have here := accounts related.1
      have later := ih related.2
      have reports : ReportsSplit (first ++ second) ↔ ∃ q ∈ p :: ps, q.Splits := by
        simp [Compilation.reportsSplit_append_iff, here.reports, later.reports]
      have checked : ¬ReportsSplit (first ++ second) → roleChecks (first ++ second) = [] := by
        intro unreported
        rw [Compilation.reportsSplit_append_iff, not_or] at unreported
        simp [here.checked unreported.1, later.checked unreported.2]
      have laterRows : ∀ part ∈ data parts, part.Everywhere
          (Told (ReportsSplit (first ++ second)) fun role => ∃ q ∈ p :: ps, q.Merges role) := by
        intro part member
        refine (later.rows part member).imp fun _ told => told.mono ?_ ?_
        · exact fun known => Compilation.reportsSplit_append_iff.mpr (.inr known)
        · rintro role ⟨q, among, merges⟩
          exact ⟨q, .tail _ among, merges⟩
      cases isRole : p.isRoleOnly with
      | true =>
          obtain rfl := here.role isRole
          refine ⟨reports, checked, ?_, fun empty => ?_, laterRows⟩
          · simp [roles, isRole]
          · exact List.forall_mem_cons.mpr
              ⟨(Predicate.isRoleOnly_iff.mp isRole).2, later.unread empty⟩
      | false =>
          have rows := here.rows (by simp [isRole])
          obtain ⟨isData, noRole⟩ := parts_of_isRowwise rows.here.1 parts
          refine ⟨reports, checked, ?_, by simp [isData], ?_⟩
          · simp [noRole, later.roles, isRole]
          · rw [isData, List.forall_mem_cons]
            refine ⟨rows.imp fun _ told => told.mono ?_ ?_, laterRows⟩
            · exact fun known => Compilation.reportsSplit_append_iff.mpr (.inl known)
            · exact fun role merges => ⟨p, .head _, merges⟩

theorem PartsAccounted.data_ne_nil {ps : List Predicate} {parts : List RowFilter}
    (accounted : PartsAccounted ps parts events) (reads : Predicate.anyReadsRecord ps) :
    data parts ≠ [] := by
  intro empty
  rw [Predicate.anyReadsRecord_eq_false_iff.mpr (accounted.unread empty)] at reads
  cases reads

theorem reportsSplit_of_noteSplit {message : String} {done : Unit}
    (noted : noteSplit scope p message = ⟨.ok done, events⟩) : ReportsSplit events := by
  obtain ⟨diagnostic, rfl, about⟩ := noteSplit_eq_ok noted
  exact ⟨diagnostic, .head _, about⟩

/-- What becomes of rows that conditions on the actor stood beside: the rows, or one side of a
conditional filter. -/
inductive Guarded (rows : RowFilter) : RowFilter → Prop where
  | beside : Guarded rows rows
  | passing {role : Predicate} : Guarded rows (.given role .pass rows)
  | blocking {role : Predicate} : Guarded rows (.given role rows .block)

theorem Guarded.told {rows : RowFilter} (guarded : Guarded rows f) (reports : reported)
    (told : rows.Everywhere (Told reported admitted)) : f.Everywhere (Told reported admitted) := by
  cases guarded with
  | beside => exact told
  | passing => exact told_given reports (everywhere_of_leaf rfl tests_told.pass) told
  | blocking => exact told_given reports told (everywhere_of_leaf rfl tests_told.block)

theorem splitAny_cases {parts : List RowFilter} (some : data parts ≠ [])
    (lowered : splitAny scope p parts = ⟨.ok f, events⟩) :
    roles parts = [] ∧ events = [] ∧ f = anyOf (data parts) ∨
      roles parts ≠ [] ∧ ReportsSplit events ∧ Guarded (anyOf (data parts)) f := by
  cases anySplit_of_run lowered with
  | rows none => exact .inl ⟨none, rfl, rfl⟩
  | roles _ empty => exact absurd empty some
  | split roled _ about => exact .inr ⟨roled, ⟨_, .head _, about⟩, .passing⟩

theorem splitAll_cases {top : Bool} {parts : List RowFilter} (some : data parts ≠ [])
    (lowered : splitAll scope top parts = ⟨.ok f, events⟩) :
    roles parts = [] ∧ events = [] ∧ f = allOf (data parts) ∨
      roles parts ≠ [] ∧ ReportsSplit events ∧ Guarded (allOf (data parts)) f := by
  cases allSplit_of_run lowered with
  | roles empty => exact absurd empty some
  | rows none => exact .inl ⟨none, rfl, rfl⟩
  | checked _ roled _ about =>
      refine .inr ⟨roled, Compilation.reportsSplit_append_iff.mpr (.inr ?_), .beside⟩
      exact ⟨_, .head _, about⟩
  | split _ roled _ about => exact .inr ⟨roled, ⟨_, .head _, about⟩, .blocking⟩

/-- A connective over rows accounts for what its operands do and for the conditions on the actor
among them. -/
theorem accounted_of_parts {ps : List Predicate} {parts : List RowFilter} {rows : RowFilter}
    (accounted : PartsAccounted ps parts before) (reads : p.readsRecord)
    (children : p.children = ps)
    (splits : p.Splits ↔ (∃ q ∈ ps, q.isRoleOnly) ∨ ∃ q ∈ ps, q.Splits)
    (onRows : ∀ {reported admitted},
      (∀ part ∈ data parts, part.Everywhere (Told reported admitted)) →
      rows.Everywhere (Told reported admitted))
    (joined : roles parts = [] ∧ after = [] ∧ f = rows ∨
      roles parts ≠ [] ∧ ReportsSplit after ∧ Guarded rows f) :
    Accounted p f (before ++ after) := by
  have isRow : ¬p.isRoleOnly := by simp [Predicate.isRoleOnly, reads]
  have told : rows.Everywhere (Told (ReportsSplit (before ++ after)) p.Merges) := by
    refine onRows fun part among => (accounted.rows part among).imp fun _ told => told.mono ?_ ?_
    · exact fun known => Compilation.reportsSplit_append_iff.mpr (.inl known)
    · rintro role ⟨q, operand, merges⟩
      exact .inside (children ▸ operand) merges
  rcases joined with ⟨none, rfl, rfl⟩ | ⟨roled, reports, guarded⟩
  · rw [List.append_nil] at told ⊢
    have unsplit : ¬∃ q ∈ ps, q.isRoleOnly := by simpa using accounted.roles.mp none
    refine ⟨?_, accounted.checked, fun isRole => absurd isRole isRow, fun _ => told⟩
    rw [splits, accounted.reports, or_iff_right unsplit]
  · have reported : ReportsSplit (before ++ after) :=
      Compilation.reportsSplit_append_iff.mpr (.inr reports)
    have split : ∃ q ∈ ps, q.isRoleOnly := by simpa using mt accounted.roles.mpr roled
    exact ⟨iff_of_true reported (splits.mpr (.inl split)),
      fun unreported => absurd reported unreported, fun isRole => absurd isRole isRow,
      fun _ => guarded.told reported told⟩

theorem accounts_all {top : Bool} {ps : List Predicate} {parts : List RowFilter}
    (reads : (Predicate.all ps).readsRecord) (each : Each Accounts ps parts before)
    (split : splitAll scope top parts = ⟨.ok f, after⟩) :
    Accounts (.all ps) f (before ++ after) := by
  intro related
  have accounted := partsAccounted_of_each each related.children
  refine accounted_of_parts accounted reads rfl ?_ tests_told.everywhere_allOf
    (splitAll_cases (accounted.data_ne_nil reads) split)
  constructor
  · intro splits
    cases splits with
    | all _ operand isRole => exact .inl ⟨_, operand, isRole⟩
    | choice _ choice _ => cases choice
    | inside operand inner => exact .inr ⟨_, operand, inner⟩
  · rintro (⟨q, operand, isRole⟩ | ⟨q, operand, inner⟩)
    · exact .all reads operand isRole
    · exact .inside operand inner

theorem accounts_any {ps : List Predicate} {parts : List RowFilter}
    (reads : (Predicate.any ps).readsRecord) (each : Each Accounts ps parts before)
    (split : splitAny scope p parts = ⟨.ok f, after⟩) :
    Accounts (.any ps) f (before ++ after) := by
  intro related
  have accounted := partsAccounted_of_each each related.children
  refine accounted_of_parts accounted reads rfl ?_ tests_told.everywhere_anyOf
    (splitAny_cases (accounted.data_ne_nil reads) split)
  constructor
  · intro splits
    cases splits with
    | any _ operand isRole => exact .inl ⟨_, operand, isRole⟩
    | choice _ choice _ => cases choice
    | inside operand inner => exact .inr ⟨_, operand, inner⟩
  · rintro (⟨q, operand, isRole⟩ | ⟨q, operand, inner⟩)
    · exact .any reads operand isRole
    · exact .inside operand inner

/-! ## Choices -/

theorem Chain.told {last chained : RowFilter} {branches : List (Predicate × Predicate)}
    (chain : Chain Accounts last branches chained events) (reports : reported)
    (related : ∀ branch ∈ branches, branch.2.Everywhere ReadsRelated)
    (onLast : last.Everywhere (Told reported admitted)) :
    chained.Everywhere (Told reported admitted) := by
  induction chain with
  | nil => exact onLast
  | cons _ accounts ih =>
      rw [List.forall_mem_cons] at related
      exact told_given reports ((accounts related.1).asData_of_reported reports) (ih related.2)

theorem accounts_chain {otherwise : Predicate} {branches : List (Predicate × Predicate)}
    {last chained : RowFilter} {first second third : List Event} (reads : p.readsRecord)
    (choice : p.Choice branches otherwise) (keys : ∀ branch ∈ branches, branch.1.isRoleOnly)
    (lastRun : Accounts otherwise last first)
    (chain : Chain Accounts (asData last) branches chained second)
    (noted : noteChoice scope p = ⟨.ok (), third⟩) :
    Accounts p chained (first ++ (second ++ third)) := by
  intro related
  have reported : ReportsSplit (first ++ (second ++ third)) := by
    simp only [Compilation.reportsSplit_append_iff]
    exact .inr (.inr (reportsSplit_of_noteSplit noted))
  obtain ⟨onBranches, onOtherwise⟩ := choice.everywhere (fun _ _ _ => nofun) related
  refine ⟨iff_of_true reported (.choice reads choice keys),
    fun unreported => absurd reported unreported, ?_, fun _ => ?_⟩
  · intro isRole
    simp [Predicate.isRoleOnly, reads] at isRole
  · exact chain.told reported (fun branch among => (onBranches branch among).2)
      ((lastRun onOtherwise).asData_of_reported reported)

/-- The arms of a choice over rows are rows, behind the conditions on the actor that are its keys
and outcomes. -/
theorem Arms.told {excluded arms others : List RowFilter}
    {branches : List (Predicate × Predicate)}
    (run : Arms Accounts excluded branches arms others events)
    (related : ∀ branch ∈ branches,
      branch.1.Everywhere ReadsRelated ∧ branch.2.Everywhere ReadsRelated)
    (merged : ∀ branch ∈ branches, Merged admitted branch.1 ∧ Merged admitted branch.2)
    (reports : ReportsSplit events → reported)
    (onExcluded : ∀ f ∈ excluded, f.Everywhere (Told reported admitted)) :
    (∀ f ∈ arms, f.Everywhere (Told reported admitted)) ∧
      ∀ f ∈ others, f.Everywhere (Told reported admitted) := by
  induction run with
  | nil => exact ⟨by simp, onExcluded⟩
  | @cons excluded _ _ _ _ _ left _ _ _ _ _ _ key outcome unmatched _ ih =>
      rw [List.forall_mem_cons] at related merged
      simp only [Compilation.reportsSplit_append_iff] at reports
      have matched := (key related.1.1).asData merged.1.1 fun known => reports (.inl known)
      have passed := (outcome related.1.2).asData merged.1.2
        fun known => reports (.inr (.inl known))
      have leftover := tests_told.everywhere_unmatched matched unmatched
      have further : ∀ f ∈ excluded ++ [left], f.Everywhere (Told reported admitted) :=
        List.forall_mem_append.mpr ⟨onExcluded, List.forall_mem_singleton.mpr leftover⟩
      obtain ⟨onArms, onOthers⟩ :=
        ih related.2 merged.2 (fun known => reports (.inr (.inr (.inr known)))) further
      refine ⟨List.forall_mem_cons.mpr ⟨tests_told.everywhere_allOf ?_, onArms⟩, onOthers⟩
      rw [List.forall_mem_append, List.forall_mem_cons, List.forall_mem_singleton]
      exact ⟨onExcluded, matched, passed⟩

theorem Arms.reports {excluded arms others : List RowFilter}
    {branches : List (Predicate × Predicate)}
    (run : Arms Accounts excluded branches arms others events)
    (related : ∀ branch ∈ branches,
      branch.1.Everywhere ReadsRelated ∧ branch.2.Everywhere ReadsRelated) :
    (ReportsSplit events ↔ ∃ branch ∈ branches, branch.1.Splits ∨ branch.2.Splits) ∧
      (¬ReportsSplit events → roleChecks events = []) := by
  induction run with
  | nil => exact ⟨by simp [ReportsSplit], fun _ => rfl⟩
  | @cons _ _ _ _ _ _ _ _ _ _ _ third _ key outcome unmatched _ ih =>
      rw [List.forall_mem_cons] at related
      have onKey := key related.1.1
      have onOutcome := outcome related.1.2
      obtain ⟨reports, checked⟩ := ih related.2
      have plain : ∀ event ∈ third, event.IsPlain := (notes_unmatched _ _).of_eq unmatched
      have quiet := Compilation.not_reportsSplit_of_plain plain
      simp only [Compilation.reportsSplit_append_iff, Compilation.roleChecks_append, quiet,
        false_or, not_or]
      constructor
      · simp only [onKey.reports, onOutcome.reports, reports, List.exists_mem_cons_iff, or_assoc]
      · rintro ⟨noKey, noOutcome, noneLater⟩
        simp [onKey.checked noKey, onOutcome.checked noOutcome, checked noneLater,
          Compilation.roleChecks_of_plain plain]

/-- What is merged inside the parts of a choice over rows, and a part that is itself a condition on
the actor, is merged by the choice. -/
theorem merged_of_choosesRows {otherwise : Predicate} {branches : List (Predicate × Predicate)}
    (chooses : p.ChoosesRows branches otherwise) :
    (∀ branch ∈ branches, Merged p.Merges branch.1 ∧ Merged p.Merges branch.2) ∧
      Merged p.Merges otherwise := by
  refine ⟨fun branch among => ⟨⟨fun role merges => ?_, .key chooses among⟩, ?_⟩, ?_⟩
  · rcases chooses.choice.key_mem among with child | leaf
    · exact .inside child merges
    · exact absurd merges (Predicate.not_merges_of_leaf leaf)
  · exact ⟨fun role => .inside (chooses.choice.outcome_mem among), .outcome chooses among⟩
  · exact ⟨fun role => .inside chooses.choice.otherwise_mem, .otherwise chooses⟩

theorem accounts_arms {otherwise : Predicate} {branches : List (Predicate × Predicate)}
    {arms excluded : List RowFilter} {last : RowFilter} {first second : List Event}
    (chooses : p.ChoosesRows branches otherwise)
    (run : Arms Accounts [] branches arms excluded first)
    (lastRun : Accounts otherwise last second) :
    Accounts p (anyOf (arms ++ [allOf (excluded ++ [asData last])])) (first ++ second) := by
  intro related
  obtain ⟨onBranches, onOtherwise⟩ := chooses.choice.everywhere (fun _ _ _ => nofun) related
  obtain ⟨reports, checked⟩ := run.reports onBranches
  have lastAccounted := lastRun onOtherwise
  refine ⟨?_, fun unreported => ?_, fun isRole => ?_, fun _ => ?_⟩
  · rw [Compilation.reportsSplit_append_iff, reports, lastAccounted.reports, chooses.splits_iff]
  · rw [Compilation.reportsSplit_append_iff, not_or] at unreported
    simp [checked unreported.1, lastAccounted.checked unreported.2]
  · simp [Predicate.isRoleOnly, chooses.reads] at isRole
  · obtain ⟨merged, lastMerged⟩ := merged_of_choosesRows chooses
    have early : ReportsSplit first → ReportsSplit (first ++ second) :=
      fun known => Compilation.reportsSplit_append_iff.mpr (.inl known)
    have late : ReportsSplit second → ReportsSplit (first ++ second) :=
      fun known => Compilation.reportsSplit_append_iff.mpr (.inr known)
    obtain ⟨onArms, onExcluded⟩ := run.told onBranches merged early (by simp)
    have onLast := lastAccounted.asData lastMerged late
    apply tests_told.everywhere_anyOf
    simp only [List.forall_mem_append, List.forall_mem_singleton]
    refine ⟨onArms, tests_told.everywhere_allOf ?_⟩
    simp only [List.forall_mem_append, List.forall_mem_singleton]
    exact ⟨onExcluded, onLast⟩

/-! ## Every step -/

theorem reported_told (events : List Event) : Reported scope (Told reported admitted) events :=
  fun _ _ => ⟨rfl, nofun⟩

theorem invariant_accounts (scope : Scope) : Invariant scope fun _ => Accounts where
  role {_ p} isRole _ := by
    have unread := (Predicate.isRoleOnly_iff.mp isRole).2
    have unsplit : ¬p.Splits := fun splits => by simp [splits.readsRecord] at unread
    exact ⟨by simp [ReportsSplit, unsplit], fun _ => rfl, fun _ => rfl,
      fun isRow => absurd isRole isRow⟩
  constant {_ p granted} unread idle _ _ := by
    have unsplit : ¬p.Splits := fun splits => by simp [splits.readsRecord] at unread
    refine ⟨by simp [ReportsSplit, unsplit], fun _ => rfl, ?_, fun _ => ?_⟩
    · intro isRole
      simp [Predicate.isRoleOnly, idle] at isRole
    · cases granted with
      | true => exact everywhere_of_leaf rfl tests_told.pass
      | false => exact everywhere_of_leaf rfl tests_told.block
  all := accounts_all
  any := accounts_any
  not {_ operand _ _} reads run related :=
    accounted_of_operand (run (related.children operand (.head _))) reads reads rfl nofun
      fun rows => by
        rw [negateLowered_of_isRowwise rows.here.1]
        exact tests_told.everywhere_negate rows
  marked {_ condition _ _} reads run related :=
    accounted_of_operand (run (related.children condition (.head _))) reads reads rfl nofun id
  unresolved _ :=
    accounted_of_leaf rfl rfl (by simp) (everywhere_of_leaf rfl ⟨rfl, nofun⟩)
  compare reads lowered _ :=
    have test := fieldTest_ofCompare scope _
    accounted_of_leaf reads rfl ((notes_fieldTest scope.allows_plain test).of_eq lowered)
      (tests_told.everywhere_fieldTest (reported_told _) test lowered)
  member reads lowered _ :=
    have test := fieldTest_ofMember scope _ _ _
    accounted_of_leaf reads rfl ((notes_fieldTest scope.allows_plain test).of_eq lowered)
      (tests_told.everywhere_fieldTest (reported_told _) test lowered)
  isNull reads lowered _ :=
    have test := fieldTest_ofNull scope _ _
    accounted_of_leaf reads rfl ((notes_fieldTest scope.allows_plain test).of_eq lowered)
      (tests_told.everywhere_fieldTest (reported_told _) test lowered)
  anyRelated {_ _ condition _ _ _} run related :=
    accounted_of_operand (run (related.children condition (.head _))) (related.here _ _ _ rfl) rfl
      rfl nofun fun rows => by
        rw [asData_of_isRowwise rows.here.1]
        exact told_someRelated rows
  chain := accounts_chain
  arms reads choice mixed := accounts_arms ⟨reads, choice, mixed⟩

/-! ## Policies -/

/-- Whether a filter occurs in another one. -/
inductive Within (part : RowFilter) : RowFilter → Prop where
  | here : Within part part
  | inside {f child : RowFilter} : child ∈ f.children → Within part child → Within part f

theorem Everywhere.of_within {holds : RowFilter → Prop} {part : RowFilter} (within : part.Within f)
    (everywhere : f.Everywhere holds) : holds part := by
  induction within with
  | here => exact everywhere.here
  | inside child _ ih => exact ih (everywhere.children _ child)

end RowFilter

/-- A policy is reported to be split if and only if its predicate is, and it leaves no role checks
otherwise. Where its filter is conditional on the actor without a report, the condition passes every
row or none and comes from a choice over rows. -/
theorem split_reported_or_merged {scope : Scope} {e : Expr} {access : RowAccess}
    (built : (scope.rowAccess e).result = .ok access) :
    ∃ p, (Predicate.compile scope e).result = .ok p ∧
      ((∃ d ∈ access.diagnostics, d.category = .roleSplit) ↔ p.Splits) ∧
      (access.roleChecks ≠ [] → ∃ d ∈ access.diagnostics, d.category = .roleSplit) ∧
      ∀ role passed failed, (RowFilter.given role passed failed).Within access.filter →
        (∃ d ∈ access.diagnostics, d.category = .roleSplit) ∨
          p.Merges role ∧ passed = .pass ∧ failed = .block := by
  obtain ⟨p, f, before, after, compiled, lowered, rfl⟩ := Scope.rowAccess_eq_ok built
  have plain := (Predicate.invariant_allowed scope.allows_plain).ofCompile e compiled
  have related := (Predicate.invariant_readsRelated scope).ofCompile e compiled
  have accounted := (RowFilter.invariant_accounts scope).ofLower true p lowered related
  have reported : (∃ d ∈ Compilation.diagnostics (before ++ after), d.category = .roleSplit) ↔
      Compilation.ReportsSplit after := by
    simp only [Compilation.mem_diagnostics_iff]
    change Compilation.ReportsSplit (before ++ after) ↔ _
    rw [Compilation.reportsSplit_append_iff,
      or_iff_right (Compilation.not_reportsSplit_of_plain plain)]
  simp only [reported]
  refine ⟨p, by rw [compiled], accounted.reports, fun checked => ?_, ?_⟩
  · by_contra unreported
    rw [Compilation.roleChecks_append, Compilation.roleChecks_of_plain plain,
      accounted.checked unreported] at checked
    exact checked rfl
  · intro role passed failed within
    by_cases known : Compilation.ReportsSplit after
    · exact .inl known
    · cases isRole : p.isRoleOnly with
      | true =>
          rw [accounted.role isRole] at within
          cases within with
          | inside child _ => cases child
      | false =>
          have rows := accounted.rows (by simp [isRole])
          exact .inr ((RowFilter.Everywhere.of_within within rows).2 known _ _ _ rfl)

/-- The policy that shows posts to admins, and open ones to everybody. -/
def Expr.adminsOrOpen : Expr :=
  .any
    [.condition (.compare .eq) (.call "current_role" []) (.literal ⟨.text, .text "admin"⟩),
     .condition (.compare .eq) (.column "status" none) (.literal ⟨.text, .text "open"⟩)]

theorem split_reported_adminsOrOpen :
    Expr.parse "current_role() = 'admin' OR status = 'open'" "Post" = .ok .adminsOrOpen ∧
      ∃ access, (Scope.blog.rowAccess .adminsOrOpen).result = .ok access ∧
        (∃ role passed failed, (RowFilter.given role passed failed).Within access.filter) ∧
        ∃ d ∈ access.diagnostics, d.category = .roleSplit := by
  obtain ⟨access, built, given⟩ : ∃ access,
      (Scope.blog.rowAccess .adminsOrOpen).result = .ok access ∧
        ∃ role passed failed, access.filter = .given role passed failed :=
    ⟨_, by with_unfolding_all rfl, _, _, _, rfl⟩
  obtain ⟨role, passed, failed, same⟩ := given
  obtain ⟨p, compiled, reports, _, _⟩ := split_reported_or_merged built
  have splits : p.Splits := by
    cases compiled
    exact .any rfl (.head _) rfl
  exact ⟨by with_unfolding_all rfl, access, built, ⟨role, passed, failed, same ▸ .here⟩,
    reports.mpr splits⟩

/-- The policy that shows open posts to admins. -/
def Expr.adminsOnOpen : Expr :=
  .choice none
    [(.condition (.compare .eq) (.column "status" none) (.literal ⟨.text, .text "open"⟩),
      .condition (.compare .eq) (.call "current_role" []) (.literal ⟨.text, .text "admin"⟩))]
    (some (.literal ⟨.boolean, .bool Bool.false⟩))

/-- A choice over rows makes the filter conditional on the actor, and nothing is reported. -/
theorem split_unreported_adminsOnOpen :
    Expr.parse "CASE WHEN status = 'open' THEN current_role() = 'admin' ELSE false END" "Post" =
        .ok .adminsOnOpen ∧
      ∃ access role, (Scope.blog.rowAccess .adminsOnOpen).result = .ok access ∧
        (RowFilter.given role .pass .block).Within access.filter ∧
        ¬∃ d ∈ access.diagnostics, d.category = .roleSplit := by
  have built : (Scope.blog.rowAccess .adminsOnOpen).result =
      .ok ⟨.all [.equals "status" (.value (.text "open")),
        .given (.compare .eq (.actor ["role"] "current_role") (.value (.text "admin")))
          .pass .block], [], []⟩ := by
    with_unfolding_all rfl
  exact ⟨by with_unfolding_all rfl, _, _, built, .inside (.tail _ (.head _)) .here, by simp⟩

end RowGuard
