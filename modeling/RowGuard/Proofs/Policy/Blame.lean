import RowGuard.Proofs.Policy.Isolation

/-! The policy that a failure names and the policy that caused it. A failure
takes its error from the first broken policy in the order of the combination,
where permissive policies come before restrictive ones, and its name from the
first broken policy in the order of registration. The two are one policy unless
a restrictive policy that is broken was registered before a broken permissive
one. -/

set_option autoImplicit false

namespace RowGuard

/-! ## First failures -/

section FirstFailure

variable {α β ε : Type}

/-- The first item on which a run fails, and its error. -/
inductive FirstFailure (run : α → Except ε β) : List α → α → ε → Prop where
  | here {item : α} {items : List α} {error : ε} :
      run item = .error error → FirstFailure run (item :: items) item error
  | later {item failing : α} {items : List α} {error : ε} {value : β} :
      run item = .ok value → FirstFailure run items failing error →
      FirstFailure run (item :: items) failing error

namespace FirstFailure

variable {run : α → Except ε β} {items before after : List α} {item other : α}
  {error second : ε}

theorem fails (first : FirstFailure run items item error) : run item = .error error := by
  induction first with
  | here failed => exact failed
  | later _ _ ih => exact ih

theorem mem (first : FirstFailure run items item error) : item ∈ items := by
  induction first with
  | here _ => exact .head _
  | later _ _ ih => exact .tail _ ih

theorem unique (first : FirstFailure run items item error)
    (again : FirstFailure run items other second) : item = other := by
  induction first with
  | here failed =>
      cases again with
      | here _ => rfl
      | later passed _ =>
          rw [failed] at passed
          cases passed
  | later passed _ ih =>
      cases again with
      | here failed =>
          rw [failed] at passed
          cases passed
      | later _ again => exact ih again

theorem imp {γ : Type} {next : α → Except ε γ} (first : FirstFailure run items item error)
    (failing : ∀ item error, run item = .error error → next item = .error error)
    (passing : ∀ item value, run item = .ok value → ∃ value, next item = .ok value) :
    FirstFailure next items item error := by
  induction first with
  | here failed => exact .here (failing _ _ failed)
  | later passed _ ih =>
      obtain ⟨value, again⟩ := passing _ _ passed
      exact .later again ih

theorem filter {keep : α → Bool} (first : FirstFailure run items item error)
    (kept : keep item = true) : FirstFailure run (items.filter keep) item error := by
  induction first with
  | here failed =>
      rw [List.filter_cons_of_pos kept]
      exact .here failed
  | later passed _ ih =>
      rw [List.filter_cons]
      split
      · exact .later passed (ih kept)
      · exact ih kept

theorem append_left (first : FirstFailure run before item error) (after : List α) :
    FirstFailure run (before ++ after) item error := by
  induction first with
  | here failed => exact .here failed
  | later passed _ ih => exact .later passed ih

theorem append_right (passed : ∀ earlier ∈ before, ∃ value, run earlier = .ok value)
    (first : FirstFailure run after item error) :
    FirstFailure run (before ++ after) item error := by
  induction before with
  | nil => exact first
  | cons earlier before ih =>
      rw [List.forall_mem_cons] at passed
      obtain ⟨⟨value, passes⟩, others⟩ := passed
      exact .later passes (ih others)

theorem of_append (first : FirstFailure run (before ++ after) item error) :
    FirstFailure run before item error ∨
      (∀ earlier ∈ before, ∃ value, run earlier = .ok value) ∧
        FirstFailure run after item error := by
  induction before with
  | nil => exact .inr ⟨List.forall_mem_nil _, first⟩
  | cons earlier before ih =>
      cases first with
      | here failed => exact .inl (.here failed)
      | later passed rest =>
          rcases ih rest with inside | ⟨others, outside⟩
          · exact .inl (.later passed inside)
          · exact .inr ⟨List.forall_mem_cons.mpr ⟨⟨_, passed⟩, others⟩, outside⟩

theorem of_map {γ : Type} {f : γ → α} {sources : List γ}
    (first : FirstFailure run (sources.map f) item error) :
    ∃ source, FirstFailure (fun source => run (f source)) sources source error := by
  induction sources with
  | nil => cases first
  | cons source sources ih =>
      cases first with
      | here failed => exact ⟨source, .here failed⟩
      | later passed rest =>
          obtain ⟨failing, inside⟩ := ih rest
          exact ⟨failing, .later passed inside⟩

end FirstFailure

end FirstFailure

/-! ## Combinations -/

namespace Expr

open Predicate (compile compileAll)

variable {scope : Scope} {es permissive restrictive : List Expr} {error : CompileError}

theorem firstFailure_of_compileAll (failed : (compileAll scope es).result = .error error) :
    ∃ e, FirstFailure (fun e => (compile scope e).result) es e error := by
  induction es with
  | nil => cases failed
  | cons e es ih =>
      rcases Traced.result_bind_eq_error_iff.mp failed with first | ⟨p, first, failed⟩
      · exact ⟨e, .here first⟩
      · rcases Traced.result_bind_eq_error_iff.mp failed with others | ⟨_, _, absurd⟩
        · obtain ⟨failing, rest⟩ := ih others
          exact ⟨failing, .later first rest⟩
        · cases absurd

theorem firstFailure_of_any (failed : (compile scope (.any es)).result = .error error) :
    ∃ e, FirstFailure (fun e => (compile scope e).result) es e error := by
  rcases Traced.result_bind_eq_error_iff.mp failed with failed | ⟨_, _, absurd⟩
  · exact firstFailure_of_compileAll failed
  · cases absurd

theorem firstFailure_of_all (failed : (compile scope (.all es)).result = .error error) :
    ∃ e, FirstFailure (fun e => (compile scope e).result) es e error := by
  rcases Traced.result_bind_eq_error_iff.mp failed with failed | ⟨_, _, absurd⟩
  · exact firstFailure_of_compileAll failed
  · cases absurd

/-- A combination fails as the first of its policies that fails, the permissive ones coming
first. -/
theorem firstFailure_of_combine
    (failed : (compile scope (combine permissive restrictive)).result = .error error) :
    ∃ e, FirstFailure (fun e => (compile scope e).result) (permissive ++ restrictive) e error := by
  unfold combine at failed
  split at failed
  · cases failed
  · exact ⟨_, .here failed⟩
  · exact firstFailure_of_all failed
  · obtain ⟨e, first⟩ := firstFailure_of_any failed
    exact ⟨e, first.append_left _⟩
  · -- The disjunction of the permissive policies fails as its first failing operand does.
    obtain ⟨e, first⟩ := firstFailure_of_all failed
    cases first with
    | here inner =>
        obtain ⟨e, first⟩ := firstFailure_of_any inner
        exact ⟨e, first.append_left _⟩
    | later passed rest => exact ⟨e, .append_right (compiles_any_iff.mp ⟨_, passed⟩) rest⟩

end Expr

/-! ## Names of policies -/

/-- Names that tell the policies of each entity apart. -/
def Registry.Distinct (registry : Registry) : Prop :=
  ∀ entity, ((registry.sources entity).map (·.name)).Nodup

namespace Registry

variable {registry after : Registry} {source : Policy} {policies : List Policy}

theorem Distinct.add (distinct : registry.Distinct) (added : registry.add source = .ok after) :
    after.Distinct := by
  have fresh : ∀ other ∈ registry.sources source.entity, other.name ≠ source.name := by
    intro other member same
    unfold Registry.add at added
    dsimp only at added
    split at added
    · cases added
    · rename_i new
      exact new (List.any_eq_true.mpr ⟨other, member, beq_iff_eq.mpr same⟩)
  intro entity
  rw [sources_add added]
  by_cases mine : source.entity = entity
  · subst mine
    simpa [List.nodup_append, distinct source.entity] using fresh
  · simpa [mine] using distinct entity

theorem distinct_of_foldlM (distinct : registry.Distinct)
    (added : policies.foldlM Registry.add registry = .ok after) : after.Distinct := by
  induction policies generalizing registry with
  | nil =>
      cases added
      exact distinct
  | cons source policies ih =>
      rw [List.foldlM_cons] at added
      obtain ⟨middle, first, rest⟩ := except_bind_eq_ok added
      exact ih (distinct.add first) rest

theorem distinct_ofPolicies (filled : ofPolicies policies = .ok registry) : registry.Distinct :=
  have empty : Distinct {} := fun _ => List.nodup_nil
  distinct_of_foldlM empty filled

theorem Distinct.eq_of_name_eq (distinct : registry.Distinct) {entity : String}
    {operation : Operation} {other : Policy} (member : source ∈ registry.lookup entity operation)
    (among : other ∈ registry.lookup entity operation) (same : source.name = other.name) :
    source = other :=
  List.inj_on_of_nodup_map (distinct entity) (List.mem_of_mem_filter member)
    (List.mem_of_mem_filter among) same

end Registry

namespace Build

/-! ## The policies of one operation -/

def alone (making : Except CompileError Scope) (e : Expr) : Except CompileError RecordCheck := do
  ((← making).recordCheck e).result

/-- The first policy that does not compile by itself, and why. -/
abbrev FirstBroken (making : Except CompileError Scope) :
    List Parsed → Parsed → CompileError → Prop :=
  FirstFailure fun entry => alone making entry.2

/-- Policies in the order of their combination. -/
def ranked (parsed : List Parsed) : List Parsed :=
  parsed.filter (·.1.permissive) ++ parsed.filter (!·.1.permissive)

section Blame

variable {making : Except CompileError Scope} {scope : Scope} {parsed : List Parsed}
  {entry named cause : Parsed} {e : Expr} {error own : SchemaError}

theorem mem_ranked : entry ∈ ranked parsed ↔ entry ∈ parsed := by
  rw [ranked, List.mem_append, List.mem_filter, List.mem_filter]
  cases entry.1.permissive <;> simp

theorem ranked_ne_nil (covered : parsed ≠ []) : ranked parsed ≠ [] := by
  obtain ⟨entry, member⟩ := List.exists_mem_of_ne_nil parsed covered
  exact List.ne_nil_of_mem (mem_ranked.mpr member)

theorem alone_of_error (ended : (predicate making e).result = .ok (.error error)) :
    alone making e = .error (.schema error) := by
  have failed := attempt_eq_error ended
  rwa [Traced.result_bind] at failed

theorem alone_of_ok {check : RecordCheck} (ended : (predicate making e).result = .ok (.ok check)) :
    alone making e = .ok check := by
  obtain ⟨scope, rfl, checked⟩ := predicate_eq_ok ended
  exact checked

theorem alone_of_compile {failure : CompileError}
    (failed : (Predicate.compile scope e).result = .error failure) :
    alone (.ok scope) e = .error failure := by
  change (scope.recordCheck e).result = _
  rw [Scope.recordCheck, failed]
  rfl

/-- The error of a combination is that of its first broken policy. -/
theorem firstBroken_of_both (covered : parsed ≠ [])
    (ended : (both making (combined parsed)).result = .ok (.error error)) :
    ∃ cause, FirstBroken making (ranked parsed) cause (.schema error) := by
  have failed : alone making (combined parsed) = .error (.schema error) := by
    obtain ⟨tried, first, rest⟩ := Traced.result_bind_eq_ok_iff.mp ended
    cases tried with
    | error unresolved =>
        cases rest
        exact alone_of_error first
    | ok check =>
        obtain ⟨scope, made, checked⟩ := predicate_eq_ok first
        exact absurd ⟨_, Scope.compile_of_recordCheck checked⟩ (both_eq_error ended made)
  cases making with
  | error failure =>
      -- Without a scope every policy fails, and all in the same way.
      cases failed
      obtain ⟨cause, others, same⟩ := List.exists_cons_of_ne_nil (ranked_ne_nil covered)
      rw [same]
      exact ⟨cause, .here rfl⟩
  | ok scope =>
      cases compiled : (Predicate.compile scope (combined parsed)).result with
      | ok p =>
          change (scope.recordCheck (combined parsed)).result = _ at failed
          rw [Scope.result_recordCheck (Traced.eq_ok_of_result compiled)] at failed
          cases failed
      | error failure =>
          rw [alone_of_compile compiled] at failed
          cases failed
          obtain ⟨e, broken⟩ := Expr.firstFailure_of_combine compiled
          rw [← List.map_append] at broken
          obtain ⟨cause, broken⟩ := broken.of_map
          refine ⟨cause, broken.imp (fun _ _ => alone_of_compile) ?_⟩
          intro entry p compiled
          exact ⟨_, Scope.result_recordCheck (Traced.eq_ok_of_result compiled)⟩

theorem firstBroken_of_culprit {all : List Policy} {name : String}
    (ended : (culprit making all parsed).result = .ok name) :
    (∀ entry ∈ parsed, ∃ check, alone making entry.2 = .ok check) ∨
      ∃ named own, FirstBroken making parsed named (.schema own) ∧ name = named.1.name := by
  induction parsed with
  | nil => exact .inl (List.forall_mem_nil _)
  | cons entry rest ih =>
      obtain ⟨tried, first, ended⟩ := Traced.result_bind_eq_ok_iff.mp ended
      cases tried with
      | error own =>
          cases ended
          exact .inr ⟨entry, own, .here (alone_of_error first), rfl⟩
      | ok check =>
          have compiles := alone_of_ok first
          rcases ih ended with others | ⟨named, own, broken, same⟩
          · exact .inl (List.forall_mem_cons.mpr ⟨⟨check, compiles⟩, others⟩)
          · exact .inr ⟨named, own, .later compiles broken, same⟩

/-- The policy that is named is the cause unless it is restrictive and a permissive one is
broken. -/
theorem named_eq_cause_iff (first : FirstBroken making parsed named (.schema own))
    (broken : FirstBroken making (ranked parsed) cause (.schema error)) :
    named = cause ↔ named.1.permissive = true ∨
      ∀ entry ∈ parsed, entry.1.permissive = true → ∃ check, alone making entry.2 = .ok check := by
  constructor
  · intro same
    subst same
    rcases broken.of_append with inside | ⟨compile, _⟩
    · exact .inl (List.mem_filter.mp inside.mem).2
    · refine .inr ?_
      intro entry member permits
      exact compile entry (List.mem_filter.mpr ⟨member, permits⟩)
  · intro condition
    cases permits : named.1.permissive with
    | true => exact ((first.filter permits).append_left _).unique broken
    | false =>
        have restricts : (!named.1.permissive) = true := by rw [permits]; rfl
        have compile := condition.resolve_left (by rw [permits]; decide)
        refine FirstFailure.unique (.append_right ?_ (first.filter restricts)) broken
        intro entry member
        obtain ⟨among, permissive⟩ := List.mem_filter.mp member
        exact compile entry among permissive

end Blame

/-! ## Recorded failures -/

section Failures

variable {registry : Registry} {mapping : ProviderMap} {graph : Graph} {config : Config}
  {operation : Operation} {parsed : List Parsed} {failure : FailedPolicy} {error : SchemaError}
  {rules : Ruleset}

/-- What a failure by the schema says about the policies that cover an operation: whose name it has
and whose error. -/
theorem firstBroken_of_parsedRun {entity : String} (covered : parsed ≠ [])
    (ran : ParsedRun mapping graph config operation entity parsed (.failed failure))
    (schema : failure.fault = .schema error) :
    ∃ named cause own,
      FirstBroken (Scope.make mapping graph entity operation config) parsed named (.schema own) ∧
      failure.policy = named.1.name ∧
      FirstBroken (Scope.make mapping graph entity operation config) (ranked parsed) cause
        (.schema error) := by
  cases ran with
  | unresolved failed searched =>
      cases schema
      obtain ⟨cause, broken⟩ := firstBroken_of_both covered failed
      rcases firstBroken_of_culprit searched with compile | ⟨named, own, found, same⟩
      · obtain ⟨check, compiled⟩ := compile cause (mem_ranked.mp broken.mem)
        rw [broken.fails] at compiled
        cases compiled
      · exact ⟨named, cause, own, found, same, broken⟩

theorem firstBroken_of_compileOne {registered : String}
    (ended : (compileOne registry mapping graph config registered operation).result =
      .ok (.failed failure))
    (schema : failure.fault = .schema error) (known : graph.get? failure.entity ≠ none) :
    failure.operation = operation ∧ graph.nameFor registered = failure.entity ∧
    ∃ parsed named cause own,
      Reads failure.entity operation (registry.lookup registered operation) parsed ∧
      FirstBroken (Scope.make mapping graph failure.entity operation config) parsed named
        (.schema own) ∧
      failure.policy = named.1.name ∧
      FirstBroken (Scope.make mapping graph failure.entity operation config) (ranked parsed) cause
        (.schema error) := by
  have keyed : (failure.entity, failure.operation) = (graph.nameFor registered, operation) :=
    key_of_compileOne ended
  obtain ⟨placed, operated⟩ := Prod.mk.inj keyed
  refine ⟨operated, placed.symm, ?_⟩
  cases outcomeRun_of_compileOne ended with
  | unknown resolved => exact absurd resolved known
  | unread _ read =>
      cases read
      cases schema
  | @read _ parsed _ resolved covered reads ran =>
      rw [Graph.nameFor_of_get? resolved] at placed
      rw [placed]
      have covers : parsed ≠ [] := by
        intro empty
        subst empty
        exact covered reads.sources.symm
      obtain ⟨named, cause, own, blamed⟩ := firstBroken_of_parsedRun covers ran schema
      exact ⟨_, named, cause, own, reads, blamed⟩

theorem mem_failures_foldl_collect {outcomes : List Outcome}
    (member : failure ∈ (outcomes.foldl collect rules).failures) :
    .failed failure ∈ outcomes ∨ failure ∈ rules.failures := by
  induction outcomes generalizing rules with
  | nil => exact .inr member
  | cons outcome outcomes ih =>
      rcases ih member with later | earlier
      · exact .inl (.tail _ later)
      · cases outcome with
        | compiled policy => exact .inr earlier
        | failed first =>
            rcases List.mem_append.mp earlier with before | last
            · exact .inr before
            · rw [List.mem_singleton.mp last]
              exact .inl (.head _)

theorem exists_failing_task (built : (Build.run registry mapping graph config).result = .ok rules)
    (member : failure ∈ rules.failures) :
    ∃ task ∈ tasks registry,
      (compileOne registry mapping graph config task.1 task.2).result = .ok (.failed failure) := by
  obtain ⟨settled, outcomes, rfl⟩ := outcomes_of_run built
  rcases mem_failures_foldl_collect member with among | absurd
  · have result := List.mem_map_of_mem (f := Except.ok (ε := BuildError)) among
    rw [← outcomes] at result
    exact List.mem_map.mp result
  · cases absurd

end Failures

/-- Whether two errors say the same. -/
def SameReport (first second : SchemaError) : Prop :=
  first.entity = second.entity ∧ first.field = second.field ∧ first.message = second.message

/-- Whether a policy of that name fails by itself as reported. -/
def NamesCause (making : Except CompileError Scope) (parsed : List Parsed) (policy : String)
    (error : SchemaError) : Prop :=
  ∃ entry ∈ parsed, entry.1.name = policy ∧
    ∃ own, alone making entry.2 = .error (.schema own) ∧ SameReport own error

end Build

open Build in
/-- A failure by the schema has the name of the first broken policy in the order of registration
and the error of the first broken policy in the order of combination. It names its cause if and only
if these two fail alike; they are one policy unless the first is restrictive and a permissive one is
broken too. -/
theorem failure_names_cause_iff {policies : List Policy} {registry : Registry}
    (filled : Registry.ofPolicies policies = .ok registry) {mapping : ProviderMap} {graph : Graph}
    {config : Config} {rules : Ruleset}
    (built : (Build.run registry mapping graph config).result = .ok rules)
    {failure : FailedPolicy} (recorded : failure ∈ rules.failures) {error : SchemaError}
    (schema : failure.fault = .schema error) (known : graph.get? failure.entity ≠ none)
    {making : Except CompileError Scope}
    (made : making = Scope.make mapping graph failure.entity failure.operation config) :
    ∃ registered parsed named cause own,
      (registered, failure.operation) ∈ Build.tasks registry ∧
      graph.nameFor registered = failure.entity ∧
      Reads failure.entity failure.operation (registry.lookup registered failure.operation)
        parsed ∧
      FirstBroken making parsed named (.schema own) ∧ failure.policy = named.1.name ∧
      FirstBroken making (ranked parsed) cause (.schema error) ∧
      (NamesCause making parsed failure.policy error ↔ SameReport own error) ∧
      (named = cause → NamesCause making parsed failure.policy error) ∧
      (named = cause ↔ named.1.permissive = true ∨
        ∀ entry ∈ parsed, entry.1.permissive = true →
          ∃ check, alone making entry.2 = .ok check) := by
  subst made
  obtain ⟨⟨registered, operation⟩, task, ended⟩ := exists_failing_task built recorded
  obtain ⟨rfl, placed, parsed, named, cause, own, reads, first, same, broken⟩ :=
    firstBroken_of_compileOne ended schema known
  have listed {entry : Parsed} (member : entry ∈ parsed) :
      entry.1 ∈ registry.lookup registered failure.operation := by
    rw [← reads.sources]
    exact List.mem_map_of_mem member
  have names : NamesCause (Scope.make mapping graph failure.entity failure.operation config) parsed
      failure.policy error ↔ SameReport own error := by
    constructor
    · intro ⟨entry, member, called, other, failed, report⟩
      have one : entry.1 = named.1 := (Registry.distinct_ofPolicies filled).eq_of_name_eq
        (listed member) (listed first.mem) (called.trans same)
      have read := reads.parse entry member
      rw [one, reads.parse named first.mem] at read
      rw [← Except.ok.inj read, first.fails] at failed
      cases failed
      exact report
    · intro report
      exact ⟨named, first.mem, same.symm, own, first.fails, report⟩
  have iff := named_eq_cause_iff first broken
  refine ⟨registered, parsed, named, cause, own, task, placed, reads, first, same, broken, names,
    ?_, iff⟩
  intro one
  subst one
  have fails := first.fails
  rw [broken.fails] at fails
  cases fails
  exact names.mpr ⟨rfl, rfl, rfl⟩

/-! ## Two broken policies -/

/-- A restrictive policy on a field that posts do not have. -/
def Policy.onlyRanked : Policy :=
  { name := "only_ranked", entity := "Post", command := .select, condition := some "rank = 1",
    permissive := false }

def Policy.graded : Policy :=
  { name := "graded", entity := "Post", command := .select, condition := some "grade = 1" }

def Registry.gradedFirst : Registry :=
  ⟨⟨[("Post", [.graded, .onlyRanked])]⟩⟩

def Registry.rankedFirst : Registry :=
  ⟨⟨[("Post", [.onlyRanked, .graded])]⟩⟩

theorem failure_names_cause_iff_gradedFirst :
    Registry.ofPolicies [.graded, .onlyRanked] = .ok .gradedFirst ∧
    ∃ rules, (Build.run .gradedFirst Scope.blog.mapping .blog {}).result = .ok rules ∧
      rules.failures = [⟨"Post", .select, "graded", .schema (.unreachable "Post" "grade")⟩] ∧
      ∃ parsed, Build.Reads "Post" .select (Registry.gradedFirst.lookup "Post" .select) parsed ∧
        Build.NamesCause (Scope.make Scope.blog.mapping .blog "Post" .select {}) parsed "graded"
          (.unreachable "Post" "grade") := by
  have filled : Registry.ofPolicies [.graded, .onlyRanked] = .ok .gradedFirst := by
    with_unfolding_all rfl
  have entities : Registry.gradedFirst.entities = ["Post"] :=
    List.mergeSort_of_pairwise (by decide +kernel)
  obtain ⟨rules, built, failed⟩ := Traced.exists_ok_of_any
    (Build.run .gradedFirst Scope.blog.mapping .blog {})
    (fun rules => rules.failures =
      [⟨"Post", .select, "graded", .schema (.unreachable "Post" "grade")⟩]) (by
      rw [Build.run, Build.tasks, entities]
      decide +kernel)
  have failures := of_decide_eq_true failed
  have recorded : ⟨"Post", .select, "graded", .schema (.unreachable "Post" "grade")⟩ ∈
      rules.failures := by
    rw [failures]
    exact .head _
  have known : Graph.blog.get? "Post" ≠ none := by
    rw [← Option.isSome_iff_ne_none]
    decide +kernel
  obtain ⟨registered, parsed, named, cause, own, task, _, reads, first, same, _, _, names, iff⟩ :=
    failure_names_cause_iff filled built recorded rfl known rfl
  have only := Registry.mem_entities_of_mem_tasks task
  rw [entities, List.mem_singleton] at only
  obtain rfl : registered = "Post" := only
  refine ⟨filled, rules, built, failures, parsed, reads, names (iff.mpr (.inl ?_))⟩
  have listed : named.1 ∈ Registry.gradedFirst.lookup "Post" .select := by
    rw [← reads.sources]
    exact List.mem_map_of_mem first.mem
  have graded : ∀ source ∈ Registry.gradedFirst.lookup "Post" .select,
      "graded" = source.name → source.permissive = true := by
    decide +kernel
  exact graded named.1 listed same

/-- The restrictive policy is named for what is wrong with the permissive one. -/
theorem onlyRanked_named_for_graded :
    Registry.ofPolicies [.onlyRanked, .graded] = .ok .rankedFirst ∧
    ∃ rules, (Build.run .rankedFirst Scope.blog.mapping .blog {}).result = .ok rules ∧
      rules.failures = [⟨"Post", .select, "only_ranked", .schema (.unreachable "Post" "grade")⟩] ∧
      ∀ parsed, Build.Reads "Post" .select (Registry.rankedFirst.lookup "Post" .select) parsed →
        ¬ Build.NamesCause (Scope.make Scope.blog.mapping .blog "Post" .select {}) parsed
          "only_ranked" (.unreachable "Post" "grade") := by
  have entities : Registry.rankedFirst.entities = ["Post"] :=
    List.mergeSort_of_pairwise (by decide +kernel)
  obtain ⟨rules, built, failed⟩ := Traced.exists_ok_of_any
    (Build.run .rankedFirst Scope.blog.mapping .blog {})
    (fun rules => rules.failures =
      [⟨"Post", .select, "only_ranked", .schema (.unreachable "Post" "grade")⟩]) (by
      rw [Build.run, Build.tasks, entities]
      decide +kernel)
  refine ⟨by with_unfolding_all rfl, rules, built, of_decide_eq_true failed, ?_⟩
  intro parsed reads named
  obtain ⟨entry, member, called, own, broken, _, field, _⟩ := named
  have listed : entry.1 ∈ Registry.rankedFirst.lookup "Post" .select := by
    rw [← reads.sources]
    exact List.mem_map_of_mem member
  have ranked : ∀ source ∈ Registry.rankedFirst.lookup "Post" .select,
      source.name = "only_ranked" → source = .onlyRanked := by
    decide +kernel
  have read := reads.parse entry member
  rw [ranked entry.1 listed called] at read
  have text : Expr.parse (Policy.onlyRanked.textFor .select) "Post" =
      .ok (.condition (.compare .eq) (.column "rank" none) (.literal ⟨.integer, .int 1⟩)) := by
    with_unfolding_all rfl
  rw [← Except.ok.inj (text.symm.trans read)] at broken
  have rank : Build.alone (Scope.make Scope.blog.mapping .blog "Post" .select {})
      (.condition (.compare .eq) (.column "rank" none) (.literal ⟨.integer, .int 1⟩)) =
        .error (.schema (.unreachable "Post" "rank")) := by
    with_unfolding_all rfl
  rw [rank] at broken
  cases broken
  exact absurd field (by decide)

end RowGuard
