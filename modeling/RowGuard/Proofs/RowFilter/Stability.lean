import RowGuard.Proofs.Predicate.Layout
import RowGuard.Proofs.RowFilter.Shape

/-! Classes of filters that lowering stays within. A class that holds the tests
of columns, and with some filters what is put together from them, holds every
filter that a predicate is lowered to, unless the predicate is handed upwards as
a role condition. Role conditions and role checks read the actor and never the
record. -/

set_option autoImplicit false

namespace RowGuard

/-! ## Conditions on the actor alone -/

namespace Predicate

variable {p : Predicate} {ps : List Predicate}

theorem isRoleOnly_iff : p.isRoleOnly ↔ p.readsActor ∧ p.readsRecord = Bool.false := by
  simp [isRoleOnly]

theorem isRoleOnly_stripRole (p : Predicate) : p.stripRole.isRoleOnly = p.isRoleOnly := by
  fun_induction stripRole p with
  | case1 condition ih =>
      rw [ih]
      rfl
  | case2 => rfl

theorem anyReadsActor_iff : anyReadsActor ps ↔ ∃ p ∈ ps, p.readsActor := by
  induction ps with
  | nil => simp [anyReadsActor]
  | cons p ps ih => simp [anyReadsActor, ih]

theorem readsRecord_allOf (unread : ∀ p ∈ ps, p.readsRecord = Bool.false) :
    (allOf ps).readsRecord = Bool.false :=
  allOf_induction (motive := fun p => p.readsRecord = Bool.false) (fun _ => rfl)
    (fun _ => anyReadsRecord_eq_false_iff) unread

theorem readsRecord_anyOf (unread : ∀ p ∈ ps, p.readsRecord = Bool.false) :
    (anyOf ps).readsRecord = Bool.false :=
  anyOf_induction (motive := fun p => p.readsRecord = Bool.false) (fun _ => rfl)
    (fun _ => anyReadsRecord_eq_false_iff) unread

/-- A condition on the actor alone is no constant, so folding does not leave it out. -/
theorem isRoleOnly_allOf (some : ps ≠ []) (each : ∀ p ∈ ps, p.isRoleOnly) :
    (allOf ps).isRoleOnly := by
  have unread := readsRecord_allOf fun p member => (isRoleOnly_iff.mp (each p member)).2
  refine isRoleOnly_iff.mpr ⟨?_, unread⟩
  rw [allOf_eq_joined]
  apply Folding.joined_of_exists (motive := fun p => p.readsActor) some
  · intro qs found
    exact anyReadsActor_iff.mpr found
  · intro item member
    have reads := (isRoleOnly_iff.mp (each item member)).1
    cases item with
    | const value => cases reads
    | all operands => exact ⟨operands, rfl, anyReadsActor_iff.mp reads⟩
    | any _ | not _ | compare _ _ _ | member _ _ _ | isNull _ _ | anyRelated _ _ _ | select _ _ _
    | firstOf _ _ | role _ | unresolved _ | foreign _ => exact ⟨_, rfl, _, .head _, reads⟩

@[inherit_doc isRoleOnly_allOf]
theorem isRoleOnly_anyOf (some : ps ≠ []) (each : ∀ p ∈ ps, p.isRoleOnly) :
    (anyOf ps).isRoleOnly := by
  have unread := readsRecord_anyOf fun p member => (isRoleOnly_iff.mp (each p member)).2
  refine isRoleOnly_iff.mpr ⟨?_, unread⟩
  rw [anyOf_eq_joined]
  apply Folding.joined_of_exists (motive := fun p => p.readsActor) some
  · intro qs found
    exact anyReadsActor_iff.mpr found
  · intro item member
    have reads := (isRoleOnly_iff.mp (each item member)).1
    cases item with
    | const value => cases reads
    | any operands => exact ⟨operands, rfl, anyReadsActor_iff.mp reads⟩
    | all _ | not _ | compare _ _ _ | member _ _ _ | isNull _ _ | anyRelated _ _ _ | select _ _ _
    | firstOf _ _ | role _ | unresolved _ | foreign _ => exact ⟨_, rfl, _, .head _, reads⟩

end Predicate

namespace RowFilter

open Compilation (Event)
open Traced (Each)

/-! ## Stable classes -/

/-- A class of filters, place by place, with everything that lowering puts together. -/
structure Stable {α : Type} (layout : Layout α) (rows : α → RowFilter → Prop) : Prop where
  pass {place : α} : rows place .pass
  block {place : α} : rows place .block
  unresolved {place : α} {construct : Unresolved} : rows place (.unresolved construct)
  allOf {place : α} {items : List RowFilter} :
    (∀ f ∈ items, rows place f) → rows place (allOf items)
  anyOf {place : α} {items : List RowFilter} :
    (∀ f ∈ items, rows place f) → rows place (anyOf items)
  negate {place : α} {f : RowFilter} : rows place f → rows place f.negate
  given {place : α} {role : Predicate} {passed failed : RowFilter} :
    role.isRoleOnly → rows place passed → rows place failed →
    rows place (.given role passed failed)
  onField {place : α} {comparator : Comparator} {value : Operand} {field : String} :
    layout.column place field → comparator.isKnown → isScalarSide value →
    rows place (onField comparator value field)
  member {place : α} {field : String} {values : Operand} :
    layout.column place field → isSetSide values → rows place (.member field values)
  isNull {place : α} {field : String} : layout.column place field → rows place (.isNull field)
  related {place next : α} {relation : String} {condition : RowFilter} :
    layout.step place relation next → rows next condition →
    rows place (.related relation condition)
  someRelated {place next : α} {relation : String} {condition : RowFilter}
    {joinFields : List String} :
    layout.step place relation next → rows next condition →
    rows place (.someRelated relation condition joinFields)
  /-- A role condition is no filter of rows. -/
  rowwise {place : α} {condition : Predicate} : ¬rows place (.roleOnly condition)

/-- What a predicate is lowered to: a role condition, if it does not read the record, or a filter of
a class. -/
inductive Lands (rows : RowFilter → Prop) (p : Predicate) : RowFilter → Prop where
  | role {condition : Predicate} :
      p.readsRecord = false → condition.isRoleOnly → Lands rows p (.roleOnly condition)
  | rows {f : RowFilter} : rows f → Lands rows p f

/-- What a run lands on, and the role checks it leaves. -/
structure Lowers (rows : RowFilter → Prop) (p : Predicate) (f : RowFilter) (events : List Event) :
    Prop where
  lands : Lands rows p f
  checks : ∀ check ∈ Compilation.roleChecks events, check.isRoleOnly

/-- The statement that a run keeps within a class at every place that the predicate fits. -/
def LowersWithin {α : Type} (layout : Layout α) (rows : α → RowFilter → Prop) (p : Predicate)
    (f : RowFilter) (events : List Event) : Prop :=
  ∀ place, p.Compiled (fun _ => True) → p.Fits layout place → Lowers (rows place) p f events

section Parts

variable {α : Type} {layout : Layout α} {rows : α → RowFilter → Prop} {place : α} {scope : Scope}
  {p : Predicate} {f : RowFilter} {events : List Event}

theorem Lowers.ofRows (holds : rows place f) (unchecked : Compilation.roleChecks events = []) :
    Lowers (rows place) p f events :=
  ⟨.rows holds, by simp [unchecked]⟩

theorem Lands.rows_of_reads (lands : Lands (rows place) p f) (reads : p.readsRecord) :
    rows place f := by
  cases lands with
  | role unread _ =>
      rw [unread] at reads
      cases reads
  | rows holds => exact holds

theorem Lands.asData (stable : Stable layout rows) (lands : Lands (rows place) p f) :
    rows place f.asData := by
  cases lands with
  | role _ isRole => exact stable.given isRole stable.pass stable.block
  | rows holds =>
      cases f with
      | roleOnly _ => exact absurd holds stable.rowwise
      | pass | block | all _ | any _ | not _ | equals _ _ | compare _ _ _ | member _ _ | isNull _
      | like _ _ _ | someRelated _ _ _ | related _ _ | given _ _ _ | unresolved _ | foreign _ =>
          exact holds

theorem parts_of_each (stable : Stable layout rows) {ps : List Predicate} {parts : List RowFilter}
    (each : Each (fun p f _ => Lands (rows place) p f) ps parts events) :
    (∀ part ∈ data parts, rows place part) ∧ (∀ condition ∈ roles parts, condition.isRoleOnly) ∧
      (data parts = [] → ∀ p ∈ ps, p.readsRecord = false) := by
  induction each with
  | nil => exact ⟨by simp [data], by simp [roles], by simp⟩
  | @cons p ps f fs _ _ lands _ ih =>
      obtain ⟨onData, onRoles, unread⟩ := ih
      cases lands with
      | role here isRole =>
          refine ⟨onData, List.forall_mem_cons.mpr ⟨isRole, onRoles⟩, ?_⟩
          intro empty
          exact List.forall_mem_cons.mpr ⟨here, unread empty⟩
      | rows holds =>
          cases f with
          | roleOnly _ => exact absurd holds stable.rowwise
          | pass | block | all _ | any _ | not _ | equals _ _ | compare _ _ _ | member _ _
          | isNull _ | like _ _ _ | someRelated _ _ _ | related _ _ | given _ _ _ | unresolved _
          | foreign _ =>
              refine ⟨List.forall_mem_cons.mpr ⟨holds, onData⟩, onRoles, ?_⟩
              intro empty
              cases empty

theorem data_nonempty (stable : Stable layout rows) {ps : List Predicate} {parts : List RowFilter}
    (each : Each (fun p f _ => Lands (rows place) p f) ps parts events)
    (reads : Predicate.anyReadsRecord ps) : data parts ≠ [] := by
  intro empty
  have unread := (parts_of_each stable each).2.2 empty
  rw [Predicate.anyReadsRecord_eq_false_iff.mpr unread] at reads
  cases reads

/-! ## Tests -/

namespace Stable

theorem atPath (stable : Stable layout rows) {leaf : String → RowFilter} {path : List String}
    (reads : layout.Reads place path)
    (onLeaf : ∀ there field, layout.column there field → rows there (leaf field))
    (lowered : RowFilter.atPath leaf path = ⟨.ok f, events⟩) :
    rows place f ∧ Compilation.roleChecks events = [] := by
  induction reads generalizing f events with
  | column found =>
      obtain ⟨rfl, rfl⟩ := Traced.pure_eq_ok_iff.mp lowered
      exact ⟨onLeaf _ _ found, rfl⟩
  | @step place next relation path leads later ih =>
      cases path with
      | nil => exact absurd rfl later.ne_nil
      | cons name path =>
          obtain ⟨inner, _, _, innerRun, ended, rfl⟩ := Traced.bind_eq_ok_iff.mp lowered
          obtain ⟨rfl, rfl⟩ := Traced.pure_eq_ok_iff.mp ended
          obtain ⟨holds, unchecked⟩ := ih innerRun
          exact ⟨stable.related leads holds, by simpa using unchecked⟩

theorem nullAt (stable : Stable layout rows) {path : List String}
    (reads : layout.Reads place path) (lowered : RowFilter.nullAt path = ⟨.ok f, events⟩) :
    rows place f := by
  induction reads generalizing f events with
  | column found =>
      obtain ⟨rfl, rfl⟩ := Traced.pure_eq_ok_iff.mp lowered
      exact stable.isNull found
  | @step place next relation path leads later ih =>
      cases path with
      | nil => exact absurd rfl later.ne_nil
      | cons name path =>
          obtain ⟨inner, _, _, innerRun, ended, rfl⟩ := Traced.bind_eq_ok_iff.mp lowered
          obtain ⟨rfl, rfl⟩ := Traced.pure_eq_ok_iff.mp ended
          apply stable.anyOf
          rw [List.forall_mem_cons, List.forall_mem_singleton]
          have missing := stable.negate (stable.related leads stable.pass)
          exact ⟨missing, stable.related leads (ih innerRun)⟩

theorem inexpressible (stable : Stable layout rows)
    (lowered : RowFilter.inexpressible scope p = ⟨.ok f, events⟩) :
    rows place f ∧ Compilation.roleChecks events = [] := by
  obtain ⟨text, rfl, unchecked, _⟩ := inexpressible_eq_ok lowered
  exact ⟨stable.unresolved, unchecked⟩

theorem fieldTest (stable : Stable layout rows) {run : Compilation RowFilter}
    (compiled : p.Compiled fun _ => True) (fits : p.Fits layout place)
    (test : FieldTest scope p run) (lowered : run = ⟨.ok f, events⟩) :
    rows place f ∧ Compilation.roleChecks events = [] := by
  cases test with
  | compare scalar =>
      cases compiled with
      | compare known _ _ _ =>
          cases fits with
          | compare left _ =>
              refine stable.atPath (Layout.holds_record.mp left) ?_ lowered
              intro there field found
              exact stable.onField found known scalar
  | @member _ _ negated isSet =>
      cases fits with
      | member holds =>
          refine stable.atPath (Layout.holds_record.mp holds) ?_ lowered
          intro there field found
          cases negated with
          | false => exact stable.member found isSet
          | true => exact stable.negate (stable.member found isSet)
  | @isNull _ negated =>
      cases fits with
      | isNull holds =>
          obtain ⟨inner, _, _, innerRun, ended, rfl⟩ := Traced.bind_eq_ok_iff.mp lowered
          obtain ⟨rfl, rfl⟩ := Traced.pure_eq_ok_iff.mp ended
          obtain ⟨rfl, _⟩ := nullAt_eq_ok innerRun
          have found := stable.nullAt (Layout.holds_record.mp holds) innerRun
          cases negated with
          | false => exact ⟨found, rfl⟩
          | true => exact ⟨stable.negate found, rfl⟩
  | inexpressible => exact stable.inexpressible lowered

/-! ## Connectives and choices -/

theorem unmatched (stable : Stable layout rows) {key : Predicate} {matched left : RowFilter}
    (fits : key.Fits layout place) (holds : rows place matched)
    (lowered : RowFilter.unmatched key matched = ⟨.ok left, events⟩) :
    rows place left ∧ Compilation.roleChecks events = [] := by
  cases unmatched_of_run lowered with
  | compared nullRun =>
    obtain ⟨rfl, _⟩ := nullAt_eq_ok nullRun
    cases fits with
    | compare operand _ =>
        refine ⟨stable.anyOf ?_, rfl⟩
        rw [List.forall_mem_cons, List.forall_mem_singleton]
        exact ⟨stable.negate holds, stable.nullAt (Layout.holds_record.mp operand) nullRun⟩
  | negated _ => exact ⟨stable.negate holds, rfl⟩

theorem each {ps : List Predicate} {parts : List RowFilter}
    (ran : Each (LowersWithin layout rows) ps parts events)
    (compiled : ∀ p ∈ ps, p.Compiled fun _ => True) (fits : ∀ p ∈ ps, p.Fits layout place) :
    Each (fun p f _ => Lands (rows place) p f) ps parts events ∧
      ∀ check ∈ Compilation.roleChecks events, check.isRoleOnly := by
  have lowers : Each (Lowers (rows place)) ps parts events :=
    ran.imp fun p member _ _ _ within => within place (compiled p member) (fits p member)
  refine ⟨lowers.imp fun _ _ _ _ _ lowered => lowered.lands, ?_⟩
  clear ran compiled fits
  induction lowers with
  | nil => simp [Compilation.roleChecks]
  | cons first _ ih =>
      rw [Compilation.roleChecks_append]
      exact List.forall_mem_append.mpr ⟨first.checks, ih⟩

theorem all (stable : Stable layout rows) {top : Bool} {ps : List Predicate}
    {parts : List RowFilter} {before after : List Event} (reads : (Predicate.all ps).readsRecord)
    (ran : Each (LowersWithin layout rows) ps parts before)
    (split : splitAll scope top parts = ⟨.ok f, after⟩) :
    LowersWithin layout rows (.all ps) f (before ++ after) := by
  intro place compiled fits
  obtain ⟨lands, checks⟩ :=
    each ran (Predicate.compiled_all_iff.mp compiled) (Predicate.fits_all_iff.mp fits)
  obtain ⟨onData, onRoles, _⟩ := parts_of_each stable lands
  have joined := stable.allOf onData
  have ended := splitAll_eq_ok (data_nonempty stable lands reads) split
  refine ⟨.rows ?_, ?_⟩
  · rcases ended with ⟨_, _, rfl⟩ | ⟨_, _, rfl⟩ | ⟨roled, _, rfl⟩
    · exact joined
    · exact joined
    · exact stable.given (Predicate.isRoleOnly_allOf roled onRoles) joined stable.block
  · rw [Compilation.roleChecks_append]
    refine List.forall_mem_append.mpr ⟨checks, ?_⟩
    rcases ended with ⟨_, none, _⟩ | ⟨_, moved, _⟩ | ⟨_, none, _⟩
    · simp [none]
    · rw [moved]
      exact onRoles
    · simp [none]

theorem any (stable : Stable layout rows) {ps : List Predicate} {parts : List RowFilter}
    {before after : List Event} (reads : (Predicate.any ps).readsRecord)
    (ran : Each (LowersWithin layout rows) ps parts before)
    (split : splitAny scope (.any ps) parts = ⟨.ok f, after⟩) :
    LowersWithin layout rows (.any ps) f (before ++ after) := by
  intro place compiled fits
  obtain ⟨lands, checks⟩ :=
    each ran (Predicate.compiled_any_iff.mp compiled) (Predicate.fits_any_iff.mp fits)
  obtain ⟨onData, onRoles, _⟩ := parts_of_each stable lands
  have joined := stable.anyOf onData
  obtain ⟨none, ended⟩ := splitAny_eq_ok (data_nonempty stable lands reads) split
  refine ⟨.rows ?_, ?_⟩
  · rcases ended with ⟨_, rfl⟩ | ⟨roled, rfl⟩
    · exact joined
    · exact stable.given (Predicate.isRoleOnly_anyOf roled onRoles) stable.pass joined
  · rw [Compilation.roleChecks_append, none, List.append_nil]
    exact checks

theorem chain (stable : Stable layout rows) {last chained : RowFilter}
    {branches : List (Predicate × Predicate)}
    (run : Chain (LowersWithin layout rows) last branches chained events)
    (roles : ∀ branch ∈ branches, branch.1.isRoleOnly) (onLast : rows place last)
    (compiled : ∀ branch ∈ branches, branch.2.Compiled fun _ => True)
    (fits : ∀ branch ∈ branches, branch.2.Fits layout place) :
    rows place chained ∧ ∀ check ∈ Compilation.roleChecks events, check.isRoleOnly := by
  induction run with
  | nil => exact ⟨onLast, by simp [Compilation.roleChecks]⟩
  | cons _ outcome ih =>
      rw [List.forall_mem_cons] at roles compiled fits
      obtain ⟨chained, checks⟩ := ih roles.2 compiled.2 fits.2
      have passed := outcome place compiled.1 fits.1
      refine ⟨stable.given ?_ (passed.lands.asData stable) chained, ?_⟩
      · rw [Predicate.isRoleOnly_stripRole]
        exact roles.1
      · rw [Compilation.roleChecks_append]
        exact List.forall_mem_append.mpr ⟨checks, passed.checks⟩

theorem arms (stable : Stable layout rows) {excluded arms others : List RowFilter}
    {branches : List (Predicate × Predicate)}
    (run : Arms (LowersWithin layout rows) excluded branches arms others events)
    (before : ∀ f ∈ excluded, rows place f)
    (compiled : ∀ branch ∈ branches,
      branch.1.Compiled (fun _ => True) ∧ branch.2.Compiled fun _ => True)
    (fits : ∀ branch ∈ branches, branch.1.Fits layout place ∧ branch.2.Fits layout place) :
    (∀ f ∈ arms, rows place f) ∧ (∀ f ∈ others, rows place f) ∧
      ∀ check ∈ Compilation.roleChecks events, check.isRoleOnly := by
  induction run with
  | nil => exact ⟨by simp, before, by simp [Compilation.roleChecks]⟩
  | @cons excluded _ _ _ _ _ left _ _ _ _ _ _ keyRun outcomeRun leftRun _ ih =>
      rw [List.forall_mem_cons] at compiled fits
      have key := keyRun place compiled.1.1 fits.1.1
      have outcome := outcomeRun place compiled.1.2 fits.1.2
      have matched := key.lands.asData stable
      obtain ⟨leftover, unchecked⟩ := stable.unmatched fits.1.1 matched leftRun
      have further : ∀ f ∈ excluded ++ [left], rows place f :=
        List.forall_mem_append.mpr ⟨before, List.forall_mem_singleton.mpr leftover⟩
      obtain ⟨onArms, onOthers, checks⟩ := ih further compiled.2 fits.2
      refine ⟨List.forall_mem_cons.mpr ⟨stable.allOf ?_, onArms⟩, onOthers, ?_⟩
      · refine List.forall_mem_append.mpr ⟨before, List.forall_mem_cons.mpr ⟨matched, ?_⟩⟩
        exact List.forall_mem_singleton.mpr (outcome.lands.asData stable)
      · simp only [Compilation.roleChecks_append, unchecked, List.nil_append]
        refine List.forall_mem_append.mpr ⟨key.checks, ?_⟩
        exact List.forall_mem_append.mpr ⟨outcome.checks, checks⟩

/-- Lowering keeps within every stable class. -/
theorem invariant (stable : Stable layout rows) (scope : Scope) :
    Invariant scope fun _ => LowersWithin layout rows where
  role {_ p} isRole place _ _ := by
    refine ⟨.role (Predicate.isRoleOnly_iff.mp isRole).2 ?_, by simp [Compilation.roleChecks]⟩
    rw [Predicate.isRoleOnly_stripRole]
    exact isRole
  constant {_ _ granted} _ _ _ place _ _ := by
    cases granted with
    | true => exact .ofRows stable.pass rfl
    | false => exact .ofRows stable.block rfl
  all := stable.all
  any reads ran split := stable.any reads ran split
  not {_ operand f _} reads run place compiled fits := by
    cases compiled with
    | not compiled =>
        cases fits with
        | not fits =>
            have lowered := run place compiled fits
            have holds := lowered.lands.rows_of_reads reads
            refine ⟨.rows ?_, lowered.checks⟩
            cases f with
            | roleOnly _ => exact absurd holds stable.rowwise
            | pass | block | all _ | any _ | not _ | equals _ _ | compare _ _ _ | member _ _
            | isNull _ | like _ _ _ | someRelated _ _ _ | related _ _ | given _ _ _ | unresolved _
            | foreign _ => exact stable.negate holds
  marked reads run place compiled fits := by
    cases compiled with
    | role compiled =>
        cases fits with
        | role fits =>
            have lowered := run place compiled fits
            exact ⟨.rows (lowered.lands.rows_of_reads reads), lowered.checks⟩
  unresolved place _ _ := .ofRows stable.unresolved rfl
  compare _ lowered place compiled fits := by
    cases compiled with
    | compare known left right _ =>
        cases fits with
        | compare onLeft onRight =>
            obtain ⟨holds, unchecked⟩ := stable.fieldTest
              (Predicate.compiled_oriented known left right)
              (Predicate.fits_oriented onLeft onRight _) (fieldTest_ofCompare _ _) lowered
            exact .ofRows holds unchecked
  member _ lowered place compiled fits := by
    obtain ⟨holds, unchecked⟩ :=
      stable.fieldTest compiled fits (fieldTest_ofMember _ _ _ _) lowered
    exact .ofRows holds unchecked
  isNull _ lowered place compiled fits := by
    obtain ⟨holds, unchecked⟩ := stable.fieldTest compiled fits (fieldTest_ofNull _ _ _) lowered
    exact .ofRows holds unchecked
  anyRelated run place compiled fits := by
    cases compiled with
    | anyRelated _ compiled =>
        cases fits with
        | anyRelated leads fits =>
            have lowered := run _ compiled fits
            exact ⟨.rows (stable.someRelated leads (lowered.lands.asData stable)), lowered.checks⟩
  chain _ choice roles last run noted place compiled fits := by
    obtain ⟨onBranches, onLast⟩ := choice.compiled compiled
    obtain ⟨branchesFit, lastFits⟩ := choice.fits fits
    have lowered := last place onLast lastFits
    obtain ⟨holds, checks⟩ := stable.chain run roles (lowered.lands.asData stable)
      (fun branch member => (onBranches branch member).2)
      fun branch member => (branchesFit branch member).2
    obtain ⟨_, rfl, _⟩ := noteSplit_eq_ok noted
    refine ⟨.rows holds, ?_⟩
    simp only [Compilation.roleChecks_append]
    refine List.forall_mem_append.mpr ⟨lowered.checks, List.forall_mem_append.mpr ⟨checks, ?_⟩⟩
    simp [Compilation.roleChecks, Event.roleCheck?]
  arms _ choice _ run last place compiled fits := by
    obtain ⟨onBranches, onLast⟩ := choice.compiled compiled
    obtain ⟨branchesFit, lastFits⟩ := choice.fits fits
    obtain ⟨onArms, onExcluded, checks⟩ := stable.arms run (by simp) onBranches branchesFit
    have lowered := last place onLast lastFits
    refine ⟨.rows (stable.anyOf (List.forall_mem_append.mpr ⟨onArms, ?_⟩)), ?_⟩
    · refine List.forall_mem_singleton.mpr (stable.allOf ?_)
      refine List.forall_mem_append.mpr ⟨onExcluded, ?_⟩
      exact List.forall_mem_singleton.mpr (lowered.lands.asData stable)
    · rw [Compilation.roleChecks_append]
      exact List.forall_mem_append.mpr ⟨checks, lowered.checks⟩

end Stable

end Parts

end RowFilter

end RowGuard
