import RowGuard.Proofs.RowFilter.Shape

/-! The meaning of lowered filters. Where nothing is reported, the filter that a
predicate is lowered to, together with its role checks, has the row truth of the
predicate for every actor on every record. -/

set_option autoImplicit false

namespace RowGuard

namespace RowFilter

open Compilation (Event)
open Traced (Each)

variable {scope : Scope} {p : Predicate} {f : RowFilter} {events : List Event}
  {actor record : Value}

/-- The truth of a filter behind role checks. -/
def checkedTruth (actor : Value) (checks : List Predicate) (f : RowFilter) (record : Value) :
    Truth :=
  if satisfies actor checks then f.truth actor record else .no

theorem checkedTruth_nil (actor : Value) (f : RowFilter) (record : Value) :
    f.checkedTruth actor [] record = f.truth actor record :=
  rfl

theorem satisfies_append (actor : Value) (checks others : List Predicate) :
    satisfies actor (checks ++ others) = (satisfies actor checks && satisfies actor others) :=
  List.all_append

theorem satisfies_eq_holds {checks : List Predicate}
    (compiled : ∀ check ∈ checks, check.Compiled fun _ => False) (actor : Value) :
    satisfies actor checks =
      (Truth.all (checks.map (Predicate.truth actor · .null))).holds := by
  rw [Truth.holds_all, List.all_map]
  · rfl
  · exact List.forall_mem_map.mpr fun check member =>
      (compiled check member).isProper_truth actor .null

/-! ## Connectives -/

/-- The truth of a disjunction of parts, its roles being decided before its rows. -/
theorem any_parts (parts : List RowFilter) (actor record : Value) :
    Truth.any (parts.map (truth actor · record)) =
      (Truth.any ((roles parts).map (Predicate.truth actor · .null))).decided.or
        (Truth.any ((data parts).map (truth actor · record))) := by
  induction parts with
  | nil => rfl
  | cons part parts ih =>
      rw [List.map_cons, Truth.any_cons, ih]
      cases part with
      | roleOnly condition =>
          simp only [roles, data, List.map_cons, Truth.any_cons, Truth.decided_or, truth]
          rw [Truth.or_assoc]
          rfl
      | pass | block | all _ | any _ | not _ | equals _ _ | compare _ _ _ | member _ _ | isNull _
      | like _ _ _ | someRelated _ _ _ | related _ _ | given _ _ _ | unresolved _ | foreign _ =>
          simp only [roles, data, List.map_cons, Truth.any_cons]
          rw [Truth.or_left_comm]

/-- The truth of a conjunction of parts, its roles being decided before its rows. -/
theorem all_parts {parts : List RowFilter}
    (compiled : ∀ condition ∈ roles parts, condition.Compiled fun _ => False)
    (actor record : Value) :
    Truth.all (parts.map (truth actor · record)) =
      (Truth.all ((roles parts).map (Predicate.truth actor · .null))).decided.and
        (Truth.all ((data parts).map (truth actor · record))) := by
  induction parts with
  | nil => rfl
  | cons part parts ih =>
      cases part with
      | roleOnly condition =>
          rw [roles, List.forall_mem_cons] at compiled
          rw [List.map_cons, Truth.all_cons, ih compiled.2]
          simp only [roles, data, List.map_cons, Truth.all_cons, truth]
          rw [Truth.decided_and (compiled.1.isProper_truth actor .null) (Truth.isProper_all _),
            Truth.and_assoc]
          rfl
      | pass | block | all _ | any _ | not _ | equals _ _ | compare _ _ _ | member _ _ | isNull _
      | like _ _ _ | someRelated _ _ _ | related _ _ | given _ _ _ | unresolved _ | foreign _ =>
          rw [List.map_cons, Truth.all_cons, ih compiled]
          simp only [roles, data, List.map_cons, Truth.all_cons]
          rw [Truth.and_left_comm]

theorem truth_splitAny {ps : List Predicate} {parts : List RowFilter}
    (parted : Parted (fun _ => False) ps parts) (some : data parts ≠ [])
    (lowered : splitAny scope p parts = ⟨.ok f, events⟩) (actor record : Value) :
    f.truth actor record = Truth.any (parts.map (truth actor · record)) := by
  rw [any_parts]
  obtain ⟨_, ⟨none, rfl⟩ | ⟨_, rfl⟩⟩ := splitAny_eq_ok some lowered
  · rw [truth_anyOf parted.data, none]
    exact (Truth.no_or (Truth.isProper_any _)).symm
  · rw [truth, Predicate.truth_anyOf parted.roles, truth_anyOf parted.data, Truth.decided]
    cases (Truth.any ((roles parts).map (Predicate.truth actor · .null))).holds with
    | true => exact (Truth.yes_or _).symm
    | false => exact (Truth.no_or (Truth.isProper_any _)).symm

theorem truth_splitAll {top : Bool} {ps : List Predicate} {parts : List RowFilter}
    (parted : Parted (fun _ => False) ps parts) (some : data parts ≠ [])
    (lowered : splitAll scope top parts = ⟨.ok f, events⟩) (actor record : Value) :
    f.checkedTruth actor (Compilation.roleChecks events) record =
      Truth.all (parts.map (truth actor · record)) := by
  rw [all_parts parted.roles, checkedTruth]
  obtain ⟨none, unchecked, rfl⟩ | ⟨_, moved, rfl⟩ | ⟨_, unchecked, rfl⟩ :=
    splitAll_eq_ok some lowered
  · rw [unchecked, truth_allOf parted.data, none]
    exact (Truth.yes_and (Truth.isProper_all _)).symm
  · rw [moved, satisfies_eq_holds parted.roles, truth_allOf parted.data, Truth.decided]
    cases (Truth.all ((roles parts).map (Predicate.truth actor · .null))).holds with
    | true => exact (Truth.yes_and (Truth.isProper_all _)).symm
    | false => exact (Truth.no_and _).symm
  · rw [unchecked, truth, Predicate.truth_allOf parted.roles, truth_allOf parted.data,
      Truth.decided]
    cases (Truth.all ((roles parts).map (Predicate.truth actor · .null))).holds with
    | true => exact (Truth.yes_and (Truth.isProper_all _)).symm
    | false => exact (Truth.no_and _).symm

/-! ## Runs -/

/-- What a quiet run of lowering keeps: with the shape, the row truth of the predicate. -/
structure Faithful (top : Bool) (p : Predicate) (f : RowFilter) (events : List Event) : Prop
    extends Kept (fun _ => False) top p f events where
  truth (actor record : Value) :
    f.checkedTruth actor (Compilation.roleChecks events) record = p.rowTruth actor record

def Means (top : Bool) (p : Predicate) (f : RowFilter) (events : List Event) : Prop :=
  p.Compiled (fun _ => False) → Compilation.Quiet events → Faithful top p f events

theorem Means.keeps {top : Bool} (means : Means top p f events) (scope : Scope) :
    Keeps scope (fun _ => False) top p f events :=
  fun compiled admits => (means compiled (Scope.quiet_of_admits admits)).toKept

theorem Faithful.truth_eq (faithful : Faithful false p f events) (actor record : Value) :
    f.truth actor record = p.rowTruth actor record := by
  rw [← faithful.truth actor record, faithful.unchecked rfl, checkedTruth_nil]

theorem Kept.faithful (kept : Kept (fun _ => False) false p f events)
    (same : ∀ actor record, f.truth actor record = p.rowTruth actor record) (top : Bool) :
    Faithful top p f events where
  lowered := kept.lowered
  checks := kept.checks
  unchecked _ := kept.unchecked rfl
  truth actor record := by rw [kept.unchecked rfl, checkedTruth_nil, same]

theorem Tested.faithful {top : Bool} (tested : Tested scope (fun _ => False) p f events)
    (quiet : Compilation.Quiet events) : Faithful top p f events :=
  Kept.faithful (tested.kept (Scope.admits_none quiet)) (tested.truth quiet) top

theorem each_faithful {top : Bool} {ps : List Predicate} {parts : List RowFilter}
    (each : Each (Means top) ps parts events)
    (compiled : ∀ p ∈ ps, p.Compiled fun _ => False) (quiet : Compilation.Quiet events) :
    Each (Faithful top) ps parts events :=
  each.imp fun p member _ _ within means => means (compiled p member) (quiet.mono within)

theorem parted_of_faithful {top : Bool} {ps : List Predicate} {parts : List RowFilter}
    (each : Each (Faithful top) ps parts events) : Parted (fun _ => False) ps parts :=
  parted_of_each (each.imp fun _ _ _ _ _ faithful => faithful.lowered)

theorem map_truth_of_each {ps : List Predicate} {parts : List RowFilter}
    (each : Each (Faithful false) ps parts events) (actor record : Value) :
    parts.map (RowFilter.truth actor · record) = ps.map (Predicate.rowTruth actor · record) := by
  induction each with
  | nil => rfl
  | cons first _ ih => rw [List.map_cons, List.map_cons, first.truth_eq, ih]

theorem all_truth_of_each {top : Bool} {ps : List Predicate} {parts : List RowFilter}
    (each : Each (Faithful top) ps parts events) (actor record : Value) :
    (if satisfies actor (Compilation.roleChecks events) then
      Truth.all (parts.map (RowFilter.truth actor · record)) else .no) =
        Truth.all (ps.map (Predicate.rowTruth actor · record)) := by
  induction each with
  | nil => rfl
  | @cons p ps f fs before after first _ ih =>
      rw [Compilation.roleChecks_append, satisfies_append, List.map_cons, List.map_cons,
        Truth.all_cons, Truth.all_cons, ← ih, ← first.truth actor record, checkedTruth]
      cases satisfies actor (Compilation.roleChecks before) with
      | false => exact (Truth.no_and _).symm
      | true =>
          cases satisfies actor (Compilation.roleChecks after) with
          | false => exact (Truth.and_no _).symm
          | true => rfl

theorem means_all {top : Bool} {ps : List Predicate} {parts : List RowFilter}
    {before after : List Event} (reads : (Predicate.all ps).readsRecord)
    (each : Each (Means top) ps parts before)
    (split : splitAll scope top parts = ⟨.ok f, after⟩) :
    Means top (.all ps) f (before ++ after) := by
  intro compiled quiet
  have kept := keeps_all reads (each.imp fun _ _ _ _ _ means => means.keeps scope) split compiled
    (Scope.admits_none quiet)
  refine ⟨kept, fun actor record => ?_⟩
  have faithful := each_faithful each (Predicate.compiled_all_iff.mp compiled)
    (Compilation.quiet_append_iff.mp quiet).1
  have parted := parted_of_faithful faithful
  have joined := truth_splitAll parted (data_ne_nil parted reads) split actor record
  rw [Predicate.rowTruth_all (Predicate.compiled_all_iff.mp compiled),
    ← all_truth_of_each faithful actor record, ← joined, checkedTruth, checkedTruth,
    Compilation.roleChecks_append, satisfies_append]
  cases satisfies actor (Compilation.roleChecks before) <;> rfl

theorem means_any {top : Bool} {ps : List Predicate} {parts : List RowFilter}
    {before after : List Event} (reads : (Predicate.any ps).readsRecord)
    (each : Each (Means false) ps parts before)
    (split : splitAny scope (.any ps) parts = ⟨.ok f, after⟩) :
    Means top (.any ps) f (before ++ after) := by
  intro compiled quiet
  have kept : Kept (fun _ => False) false (.any ps) f (before ++ after) :=
    keeps_any reads (each.imp fun _ _ _ _ _ means => means.keeps scope) split compiled
      (Scope.admits_none quiet)
  have faithful := each_faithful each (Predicate.compiled_any_iff.mp compiled)
    (Compilation.quiet_append_iff.mp quiet).1
  have parted := parted_of_faithful faithful
  refine kept.faithful (fun actor record => ?_) top
  rw [truth_splitAny parted (data_ne_nil parted reads) split, map_truth_of_each faithful,
    Predicate.rowTruth_any]

/-! ## Choices -/

theorem truth_unmatched {key : Predicate} {matched left : RowFilter}
    (compiled : matched.Compiled (fun _ => False) fun _ => False)
    (lowered : unmatched key matched = ⟨.ok left, events⟩) (actor record : Value) :
    left.truth actor record = Predicate.rowMissed record key (matched.truth actor record) := by
  cases unmatched_of_run lowered with
  | @compared _ path _ missing _ nullRun =>
      obtain ⟨rfl, missingCompiled, tested⟩ := nullAt_eq_ok nullRun
      have parts : ∀ f ∈ [matched.negate, missing],
          f.Compiled (fun _ => False) fun _ => False := by
        rw [List.forall_mem_cons, List.forall_mem_singleton]
        exact ⟨compiled_negate (fun _ => id) compiled, missingCompiled _ _⟩
      rw [truth_anyOf parts, List.map_cons, List.map_cons, List.map_nil, Truth.any_cons,
        Truth.any_singleton ((missingCompiled (fun _ => False) fun _ => False).isProper_truth _ _),
        truth_negate compiled, tested]
      rfl
  | negated notField =>
      rw [truth_negate compiled]
      unfold Predicate.rowMissed
      split
      · exact (notField _ _ _ rfl).elim
      · rfl

theorem given_eq_choice {key : Predicate} {outcome rest : Truth}
    (compiled : key.Compiled fun _ => False) (isRole : key.isRoleOnly)
    (first : outcome.isProper) (second : rest.isProper) (actor record : Value) :
    (if (key.stripRole.truth actor .null).holds then outcome else rest) =
      ((key.rowTruth actor record).and outcome).or
        ((Predicate.rowMissed record key (key.rowTruth actor record)).and rest) := by
  rw [Predicate.isRoleOnly, Bool.and_eq_true, Bool.not_eq_true'] at isRole
  have missed (t : Truth) : Predicate.rowMissed record key t = t.not := by
    unfold Predicate.rowMissed
    split
    · cases isRole.2
    · rfl
  rw [missed, Predicate.rowTruth_of_unread isRole.2, Predicate.truth_stripRole,
    compiled.truth_congr_record isRole.2 actor .null record, Truth.decided, Truth.not_ofBool]
  cases (key.truth actor record).holds with
  | true =>
      change outcome = (Truth.yes.and outcome).or (Truth.no.and rest)
      rw [Truth.yes_and first, Truth.no_and, Truth.or_no first]
  | false =>
      change rest = (Truth.no.and outcome).or (Truth.yes.and rest)
      rw [Truth.no_and, Truth.yes_and second, Truth.no_or second]

theorem Chain.truth_eq {last chained : RowFilter} {branches : List (Predicate × Predicate)}
    (chain : Chain (Means false) last branches chained events)
    (rows : last.Compiled (fun _ => False) fun _ => False) (quiet : Compilation.Quiet events)
    (compiled : ∀ branch ∈ branches,
      branch.1.Compiled (fun _ => False) ∧ branch.2.Compiled fun _ => False)
    (isRole : ∀ branch ∈ branches, branch.1.isRoleOnly) (actor record : Value) :
    chained.truth actor record =
        Predicate.rowFirst actor branches record (last.truth actor record) ∧
      (chained.truth actor record).isProper := by
  induction chain with
  | nil => exact ⟨rfl, rows.isProper_truth actor record⟩
  | @cons key outcome rest passed chained _ _ _ run ih =>
      rw [List.forall_mem_cons] at compiled isRole
      rw [Compilation.quiet_append_iff] at quiet
      obtain ⟨same, proper⟩ := ih quiet.1 compiled.2 isRole.2
      have faithful := run compiled.1.2 quiet.2
      have passedProper := faithful.lowered.asData.isProper_truth actor record
      rw [truth_asData, faithful.truth_eq] at passedProper
      rw [RowFilter.truth, truth_asData, faithful.truth_eq]
      constructor
      · rw [given_eq_choice compiled.1.1 isRole.1 passedProper proper actor record, same]
        rfl
      · split
        · exact passedProper
        · exact proper

/-- The filters of the branches, and of what all of them leave over, are the choice within what is
excluded before. -/
theorem Arms.truth_eq {excluded arms others : List RowFilter}
    {branches : List (Predicate × Predicate)}
    (run : Arms (Means false) excluded branches arms others events)
    (rows : ∀ f ∈ excluded, f.Compiled (fun _ => False) fun _ => False)
    (quiet : Compilation.Quiet events)
    (compiled : ∀ branch ∈ branches,
      branch.1.Compiled (fun _ => False) ∧ branch.2.Compiled fun _ => False)
    {last : RowFilter} (lastRows : last.Compiled (fun _ => False) fun _ => False)
    (actor record : Value) :
    Truth.any ((arms ++ [allOf (others ++ [last])]).map (RowFilter.truth actor · record)) =
      (Truth.all (excluded.map (RowFilter.truth actor · record))).and
        (Predicate.rowFirst actor branches record (last.truth actor record)) := by
  induction run with
  | @nil excluded =>
      have each := List.forall_mem_append.mpr ⟨rows, List.forall_mem_singleton.mpr lastRows⟩
      have proper := lastRows.isProper_truth actor record
      rw [List.nil_append, List.map_singleton, truth_allOf each,
        Truth.any_singleton (Truth.isProper_all _), List.map_append, Truth.all_append,
        List.map_singleton, Truth.all_singleton proper]
      rfl
  | @cons excluded key outcome rest matched passed left arms others _ _ _ _ keyRun outcomeRun leftRun
      _ ih =>
      rw [List.forall_mem_cons] at compiled
      rw [Compilation.quiet_append_iff, Compilation.quiet_append_iff,
        Compilation.quiet_append_iff] at quiet
      obtain ⟨keyQuiet, outcomeQuiet, _, restQuiet⟩ := quiet
      have key := keyRun compiled.1.1 keyQuiet
      have outcome := outcomeRun compiled.1.2 outcomeQuiet
      have leftover := (unmatched_eq_ok key.lowered.asData (fun _ => id) leftRun).2
      have missed := truth_unmatched key.lowered.asData leftRun actor record
      have further := List.forall_mem_append.mpr ⟨rows, List.forall_mem_singleton.mpr leftover⟩
      have branch : ∀ f ∈ excluded ++ [asData matched, asData passed],
          f.Compiled (fun _ => False) fun _ => False := by
        refine List.forall_mem_append.mpr ⟨rows, ?_⟩
        rw [List.forall_mem_cons, List.forall_mem_singleton]
        exact ⟨key.lowered.asData, outcome.lowered.asData⟩
      have passedProper := outcome.lowered.asData.isProper_truth actor record
      have leftProper := leftover.isProper_truth actor record
      rw [truth_asData, outcome.truth_eq] at passedProper
      rw [truth_asData, key.truth_eq] at missed
      rw [missed] at leftProper
      rw [List.cons_append, List.map_cons, Truth.any_cons, ih further restQuiet compiled.2,
        truth_allOf branch]
      simp only [List.map_append, List.map_cons, List.map_nil, Truth.all_append, Truth.all_cons,
        Truth.all_nil, truth_asData, key.truth_eq, outcome.truth_eq, Truth.and_yes passedProper,
        Truth.and_yes leftProper, missed, Truth.and_assoc]
      rw [← Truth.and_or_distrib (Truth.isProper_and _ _) (Truth.isProper_and _ _)]
      rfl

theorem means_chain {top : Bool} {otherwise : Predicate} {branches : List (Predicate × Predicate)}
    {last chained : RowFilter} {first second third : List Event} (reads : p.readsRecord)
    (choice : p.Choice branches otherwise) (isRole : ∀ branch ∈ branches, branch.1.isRoleOnly)
    (lastRun : Means false otherwise last first)
    (chain : Chain (Means false) (asData last) branches chained second)
    (noted : noteChoice scope p = ⟨.ok (), third⟩) :
    Means top p chained (first ++ (second ++ third)) := by
  intro compiled quiet
  have kept : Kept (fun _ => False) false p chained (first ++ (second ++ third)) :=
    keeps_chain choice (lastRun.keeps scope) (chain.imp fun _ _ _ means => means.keeps scope)
      noted compiled
      (Scope.admits_none quiet)
  rw [Compilation.quiet_append_iff, Compilation.quiet_append_iff] at quiet
  obtain ⟨branchesCompiled, otherwiseCompiled⟩ := choice.compiled compiled
  have last := lastRun otherwiseCompiled quiet.1
  refine kept.faithful (fun actor record => ?_) top
  rw [(chain.truth_eq last.lowered.asData quiet.2.1 branchesCompiled isRole actor record).1,
    truth_asData, last.truth_eq, choice.rowTruth_eq reads]

theorem means_arms (scope : Scope) {top : Bool} {otherwise : Predicate}
    {branches : List (Predicate × Predicate)} {arms excluded : List RowFilter} {last : RowFilter}
    {first second : List Event} (reads : p.readsRecord) (choice : p.Choice branches otherwise)
    (run : Arms (Means false) [] branches arms excluded first)
    (lastRun : Means false otherwise last second) :
    Means top p (anyOf (arms ++ [allOf (excluded ++ [asData last])])) (first ++ second) := by
  intro compiled quiet
  have keeps := run.imp fun _ _ _ means => means.keeps scope
  have kept : Kept (fun _ => False) false p
      (anyOf (arms ++ [allOf (excluded ++ [asData last])])) (first ++ second) :=
    keeps_arms choice keeps (lastRun.keeps scope) compiled (Scope.admits_none quiet)
  rw [Compilation.quiet_append_iff] at quiet
  obtain ⟨branchesCompiled, otherwiseCompiled⟩ := choice.compiled compiled
  have last := lastRun otherwiseCompiled quiet.2
  obtain ⟨armsRows, excludedRows, _⟩ :=
    keeps.kept (by simp) (Scope.admits_none quiet.1) branchesCompiled
  refine kept.faithful (fun actor record => ?_) top
  have lastArm := compiled_allOf
    (List.forall_mem_append.mpr ⟨excludedRows, List.forall_mem_singleton.mpr last.lowered.asData⟩)
  rw [truth_anyOf (List.forall_mem_append.mpr ⟨armsRows, List.forall_mem_singleton.mpr lastArm⟩),
    run.truth_eq (by simp) quiet.1 branchesCompiled last.lowered.asData actor record,
    truth_asData, last.truth_eq, choice.rowTruth_eq reads]
  refine Truth.yes_and (Predicate.isProper_rowFirst ?_ _ _ _)
  rw [← last.truth_eq, ← truth_asData]
  exact last.lowered.asData.isProper_truth actor record

theorem invariant_means (evaluates : ∀ p : Predicate, p.Compiled (fun _ => False) →
      (p.grants scope.config.onUnloaded .null .null).result = .ok (p.truth .null .null).holds) :
    Invariant scope Means where
  role {top p} isRole := by
    intro compiled quiet
    have kept : Kept (fun _ => False) false p (.roleOnly p.stripRole) [] :=
      (invariant_keeps scope _).role isRole compiled (Scope.admits_none quiet)
    refine kept.faithful (fun actor record => ?_) top
    rw [Predicate.isRoleOnly, Bool.and_eq_true, Bool.not_eq_true'] at isRole
    rw [truth, Predicate.truth_stripRole, compiled.truth_congr_record isRole.2 actor .null record,
      Predicate.rowTruth_of_unread isRole.2, Truth.decided]
  constant {top p granted} unread independent evaluated := by
    intro compiled quiet
    have kept : Kept (fun _ => False) false p (if granted then .pass else .block) [] :=
      (invariant_keeps scope _).constant unread independent evaluated compiled
        (Scope.admits_none quiet)
    refine kept.faithful (fun actor record => ?_) top
    rw [evaluates p compiled] at evaluated
    cases evaluated
    rw [Predicate.rowTruth_of_unread unread, Truth.decided,
      compiled.truth_congr_record unread actor record .null,
      compiled.truth_congr_actor independent actor .null .null]
    cases (p.truth .null .null).holds <;> rfl
  all := means_all
  any := means_any
  not {top operand f events} reads run := by
    intro compiled quiet
    cases compiled with
    | not compiled =>
        have faithful := run compiled quiet
        have rows := faithful.lowered.rows_of_reads reads
        obtain ⟨same, negated⟩ := compiled_negateLowered (fun _ => id) rows
        have kept : Kept (fun _ => False) false (.not operand) (negateLowered f) events := by
          rw [same]
          exact .ofRows negated (faithful.unchecked rfl)
        refine kept.faithful (fun actor record => ?_) top
        rw [same, truth_negate rows, faithful.truth_eq, Predicate.rowTruth_not reads]
  marked {top condition f events} reads run := by
    intro compiled quiet
    cases compiled with
    | role compiled =>
        have faithful := run compiled quiet
        refine ⟨⟨.rows (faithful.lowered.rows_of_reads reads), faithful.checks,
          faithful.unchecked⟩, fun actor record => ?_⟩
        rw [faithful.truth, Predicate.rowTruth_role]
  unresolved := by
    intro top construct compiled quiet
    cases compiled with
    | unresolved _ admits => exact admits.elim
  compare reads lowered := by
    intro compiled quiet
    cases compiled with
    | compare known left right _ =>
        exact (tested_of_oriented known left right lowered).faithful quiet
  member _ lowered compiled quiet :=
    (tested_of_fieldTest compiled (fieldTest_ofMember _ _ _ _) lowered).faithful quiet
  isNull _ lowered compiled quiet :=
    (tested_of_fieldTest compiled (fieldTest_ofNull _ _ _) lowered).faithful quiet
  anyRelated {top relation condition joinFields f events} run := by
    intro compiled quiet
    cases compiled with
    | anyRelated _ compiled =>
        have faithful := run compiled quiet
        have kept : Kept (fun _ => False) false (.anyRelated relation condition joinFields)
            (.someRelated relation (asData f) joinFields) events :=
          .ofRows (.someRelated faithful.lowered.asData) (faithful.unchecked rfl)
        refine kept.faithful (fun actor record => ?_) top
        simp only [truth, truth_asData, faithful.truth_eq]
        rfl
  chain := means_chain
  arms reads choice _ := means_arms scope reads choice

end RowFilter

end RowGuard
