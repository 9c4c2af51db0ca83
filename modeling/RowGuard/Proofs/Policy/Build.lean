import RowGuard.Policy.Build
import RowGuard.Proofs.Policy.Combination
import RowGuard.Proofs.RowFilter.Failures

/-! What a build makes of the operations on the entities of a registry. Each of
them has one outcome, and the compiled one of a key is the outcome that came
last. -/

set_option autoImplicit false

namespace RowGuard.Build

/-! ## Reading and compiling -/

/-- What policies say about an operation on an entity, each read by itself. -/
structure Reads (entity : String) (operation : Operation) (sources : List Policy)
    (parsed : List Parsed) : Prop where
  sources : parsed.map (·.1) = sources
  parse : ∀ entry ∈ parsed, Expr.parse (entry.1.textFor operation) entity = .ok entry.2

section Reading

variable {entity : String} {operation : Operation} {sources : List Policy} {parsed : List Parsed}

/-- What is read of policies, unless the build ends: all of them, or a failure by one that is
malformed. -/
inductive ReadRun (entity : String) (operation : Operation) (sources : List Policy) :
    Except FailedPolicy (List Parsed) → Prop where
  | read {parsed : List Parsed} : Reads entity operation sources parsed →
      ReadRun entity operation sources (.ok parsed)
  | malformed {source : Policy} {failure : Malformed} : source ∈ sources →
      Expr.parse (source.textFor operation) entity = .error (.malformed failure) →
      ReadRun entity operation sources
        (.error ⟨entity, operation, source.name, .malformed failure⟩)

theorem readRun_of_readAll {read : Except FailedPolicy (List Parsed)}
    (ended : (readAll entity operation sources).result = .ok read) :
    ReadRun entity operation sources read := by
  induction sources generalizing read with
  | nil =>
      cases ended
      exact .read ⟨rfl, by simp⟩
  | cons source sources ih =>
      unfold readAll at ended
      split at ended
      · rename_i e parse
        obtain ⟨others, run, same⟩ := Traced.result_bind_eq_ok_iff.mp ended
        cases same
        cases ih run with
        | read reads =>
            exact .read ⟨congrArg (source :: ·) reads.sources,
              List.forall_mem_cons.mpr ⟨parse, reads.parse⟩⟩
        | malformed member failed => exact .malformed (.tail _ member) failed
      · rename_i failed
        cases ended
        exact .malformed (.head _) failed
      · cases ended

theorem Reads.unique {other : List Parsed} (reads : Reads entity operation sources parsed)
    (again : Reads entity operation sources other) : parsed = other := by
  obtain ⟨same, parse⟩ := reads
  obtain ⟨rfl, again⟩ := again
  induction parsed generalizing other with
  | nil => exact (List.map_eq_nil_iff.mp same.symm).symm
  | cons entry rest ih =>
      cases other with
      | nil => cases same
      | cons first others =>
          obtain ⟨source, e⟩ := entry
          obtain ⟨known, f⟩ := first
          rw [List.forall_mem_cons] at parse again
          simp only [List.map_cons, List.cons.injEq] at same
          obtain ⟨rfl, same⟩ := same
          obtain rfl : e = f := Except.ok.inj (parse.1.symm.trans again.1)
          rw [ih parse.2 again.2 same]

end Reading

section Compiling

variable {α : Type} {scope : Scope} {making : Except CompileError Scope} {e : Expr}

theorem attempt_eq_ok {compilation : Compilation α} {value : α}
    (ended : (attempt compilation).result = .ok (.ok value)) : compilation.result = .ok value := by
  unfold attempt at ended
  split at ended
  · cases ended
    assumption
  · cases ended
  · cases ended

theorem attempt_eq_error {compilation : Compilation α} {error : SchemaError}
    (ended : (attempt compilation).result = .ok (.error error)) :
    compilation.result = .error (.schema error) := by
  unfold attempt at ended
  split at ended
  · cases ended
  · cases ended
    assumption
  · cases ended

theorem predicate_eq_ok {check : RecordCheck}
    (ended : (predicate making e).result = .ok (.ok check)) :
    ∃ scope, making = .ok scope ∧ (scope.recordCheck e).result = .ok check :=
  Traced.result_bind_eq_ok_iff.mp (attempt_eq_ok ended)

theorem filter_eq_ok {access : RowAccess} (ended : (filter making e).result = .ok (.ok access)) :
    ∃ scope, making = .ok scope ∧ (scope.rowAccess e).result = .ok access :=
  Traced.result_bind_eq_ok_iff.mp (attempt_eq_ok ended)

/-- A name that is not in the schema is found when the predicate is compiled, before the filter. -/
theorem both_eq_error {error : SchemaError} (ended : (both making e).result = .ok (.error error))
    (made : making = .ok scope) : ¬ e.Compiles scope := by
  subst made
  rintro ⟨p, compiled⟩
  obtain ⟨tried, first, rest⟩ := Traced.result_bind_eq_ok_iff.mp ended
  cases tried with
  | error unresolved =>
      have failed := attempt_eq_error first
      rw [Traced.result_bind_of_ok rfl, Scope.recordCheck, compiled] at failed
      cases failed
  | ok check =>
      obtain ⟨tried, second, rest⟩ := Traced.result_bind_eq_ok_iff.mp rest
      cases tried with
      | error unresolved =>
          have failed := attempt_eq_error second
          rw [Traced.result_bind_of_ok rfl] at failed
          exact Scope.failsAs_rowAccess compiled _ failed _ rfl
      | ok access => cases rest

theorem both_eq_ok {check : RecordCheck} {access : RowAccess}
    (ended : (both making e).result = .ok (.ok (check, access))) :
    ∃ scope, making = .ok scope ∧ (scope.recordCheck e).result = .ok check ∧
      (scope.rowAccess e).result = .ok access := by
  obtain ⟨tried, first, rest⟩ := Traced.result_bind_eq_ok_iff.mp ended
  cases tried with
  | error error => cases rest
  | ok condition =>
      obtain ⟨tried, second, rest⟩ := Traced.result_bind_eq_ok_iff.mp rest
      cases tried with
      | error error => cases rest
      | ok rows =>
          cases rest
          obtain ⟨scope, rfl, checked⟩ := predicate_eq_ok first
          obtain ⟨_, same, built⟩ := filter_eq_ok second
          cases same
          exact ⟨scope, rfl, checked, built⟩

end Compiling

/-! ## Outcomes -/

section Outcomes

variable (registry : Registry) (mapping : ProviderMap) (graph : Graph) (config : Config)
  (registered : String) (operation : Operation)

/-- What a compiled policy has of the policies it is compiled from. -/
structure Enforces (scope : Scope) (sources : List Policy) (e : Expr) (policy : Enforcement) :
    Prop where
  check : (scope.recordCheck e).result = .ok policy.predicate
  access : (scope.rowAccess e).result = .ok policy.filter
  expression : policy.expression = e
  policies : policy.policies = sources.map (·.name)
  diagnostics : policy.diagnostics =
    joinedDiagnostics (joinedNames sources) policy.predicate policy.filter

/-- What becomes of an operation on an entity: it is compiled to a denial, or from all policies
that cover it, unless it fails by one of them. -/
inductive Settles : Outcome → Prop where
  | unknown {failure : FailedPolicy} :
      graph.get? registered = none → Settles (.failed failure)
  | denied {entity : Entity} :
      graph.get? registered = some entity → registry.lookup registered operation = [] →
      Settles (.compiled (.denied entity.name operation))
  | unreadable {entity : Entity} {source : Policy} {failure : FailedPolicy} :
      graph.get? registered = some entity → source ∈ registry.lookup registered operation →
      (∀ e, Expr.parse (source.textFor operation) entity.name ≠ .ok e) →
      Settles (.failed failure)
  | uncompiled {entity : Entity} {parsed : List Parsed} {failure : FailedPolicy} :
      graph.get? registered = some entity →
      Reads entity.name operation (registry.lookup registered operation) parsed →
      (∀ scope, Scope.make mapping graph entity.name operation config = .ok scope →
        ¬ (combined parsed).Compiles scope) →
      Settles (.failed failure)
  | compiled {entity : Entity} {parsed : List Parsed} {scope : Scope} {policy : Enforcement} :
      graph.get? registered = some entity → registry.lookup registered operation ≠ [] →
      Reads entity.name operation (registry.lookup registered operation) parsed →
      Scope.make mapping graph entity.name operation config = .ok scope →
      Enforces scope (registry.lookup registered operation) (combined parsed) policy →
      policy.entity = entity.name → policy.operation = operation → Settles (.compiled policy)

/-- What becomes of policies that are read: they fail together by a name that is not in the schema,
or are compiled to both forms. -/
inductive ParsedRun (entity : String) (parsed : List Parsed) : Outcome → Prop where
  | unresolved {error : SchemaError} {policy : String} :
      (both (Scope.make mapping graph entity operation config) (combined parsed)).result =
        .ok (.error error) →
      (culprit (Scope.make mapping graph entity operation config) (parsed.map (·.1))
        parsed).result = .ok policy →
      ParsedRun entity parsed (.failed ⟨entity, operation, policy, .schema error⟩)
  | compiled {forms : RecordCheck × RowAccess} :
      (both (Scope.make mapping graph entity operation config) (combined parsed)).result =
        .ok (.ok forms) →
      ParsedRun entity parsed (.compiled
        { entity, operation
          policies := (parsed.map (·.1)).map (·.name)
          expression := combined parsed
          predicate := forms.1
          filter := forms.2
          diagnostics := joinedDiagnostics (joinedNames (parsed.map (·.1))) forms.1 forms.2 })

/-- How an operation on a registered name comes to its outcome. -/
inductive OutcomeRun : Outcome → Prop where
  | unknown {error : SchemaError} : graph.get? registered = none →
      OutcomeRun (.failed
        ⟨registered, operation, joinedNames (registry.sources registered), .schema error⟩)
  | denied {entity : Entity} :
      graph.get? registered = some entity → registry.lookup registered operation = [] →
      OutcomeRun (.compiled (.denied entity.name operation))
  | unread {entity : Entity} {failure : FailedPolicy} : graph.get? registered = some entity →
      ReadRun entity.name operation (registry.lookup registered operation) (.error failure) →
      OutcomeRun (.failed failure)
  | read {entity : Entity} {parsed : List Parsed} {outcome : Outcome} :
      graph.get? registered = some entity → registry.lookup registered operation ≠ [] →
      Reads entity.name operation (registry.lookup registered operation) parsed →
      ParsedRun mapping graph config operation entity.name parsed outcome → OutcomeRun outcome

variable {registry mapping graph config registered operation}

theorem failed_of_recordFailure {failure : FailedPolicy} {outcome : Outcome}
    (ended : (recordFailure config failure).result = .ok outcome) : outcome = .failed failure := by
  unfold recordFailure at ended
  split at ended
  · cases ended
  · cases ended
    rfl

theorem parsedRun_of_compileParsed {entity : String} {parsed : List Parsed} {outcome : Outcome}
    (ended : (compileParsed mapping graph config entity operation parsed).result = .ok outcome) :
    ParsedRun mapping graph config operation entity parsed outcome := by
  obtain ⟨tried, run, rest⟩ := Traced.result_bind_eq_ok_iff.mp ended
  cases tried with
  | error error =>
      obtain ⟨policy, searched, rest⟩ := Traced.result_bind_eq_ok_iff.mp rest
      cases failed_of_recordFailure rest
      exact .unresolved run searched
  | ok forms =>
      dsimp only at rest
      -- Whether the compilation is logged makes no difference to what is compiled.
      split at rest
      · obtain ⟨_, _, rest⟩ := Traced.result_bind_eq_ok_iff.mp rest
        cases rest
        exact .compiled run
      · cases rest
        exact .compiled run

theorem outcomeRun_of_compileOne {outcome : Outcome}
    (ended : (compileOne registry mapping graph config registered operation).result =
      .ok outcome) :
    OutcomeRun registry mapping graph config registered operation outcome := by
  unfold compileOne Graph.entity at ended
  cases known : graph.get? registered with
  | none =>
      rw [known] at ended
      cases failed_of_recordFailure ended
      exact .unknown known
  | some entity =>
      rw [known] at ended
      dsimp only at ended
      split at ended
      · rename_i uncovered
        split at ended
        · cases ended
        · cases ended
          exact .denied known uncovered
      · rename_i covered
        obtain ⟨tried, run, rest⟩ := Traced.result_bind_eq_ok_iff.mp ended
        cases readRun_of_readAll run with
        | malformed member failed =>
            cases failed_of_recordFailure rest
            exact .unread known (.malformed member failed)
        | read reads => exact .read known covered reads (parsedRun_of_compileParsed rest)

theorem settles_of_compileOne {outcome : Outcome}
    (ended : (compileOne registry mapping graph config registered operation).result =
      .ok outcome) :
    Settles registry mapping graph config registered operation outcome := by
  cases outcomeRun_of_compileOne ended with
  | unknown known => exact .unknown known
  | denied known uncovered => exact .denied known uncovered
  | unread known read =>
      cases read with
      | malformed member failed =>
          refine .unreadable known member fun e read => ?_
          cases failed.symm.trans read
  | read known covered reads ran =>
      cases ran with
      | unresolved failed _ => exact .uncompiled known reads fun _ made => both_eq_error failed made
      | compiled made =>
          obtain ⟨scope, making, checked, built⟩ := both_eq_ok made
          refine .compiled known covered reads making ?_ rfl rfl
          rw [← reads.sources]
          exact ⟨checked, built, rfl, rfl, rfl⟩

end Outcomes

/-! ## Results -/

section Results

def concerns (entity : String) (operation : Operation) (policy : Enforcement) : Bool :=
  policy.entity == entity && policy.operation == operation

def Outcome.about (entity : String) (operation : Operation) : Outcome → Option Enforcement
  | .compiled policy => if concerns entity operation policy then some policy else none
  | .failed _ => none

variable {run : String → Operation → Build Outcome} {tasks : List (String × Operation)}
  {settled : List Outcome} {entity : String} {operation : Operation}

theorem concerns_iff {policy : Enforcement} :
    concerns entity operation policy ↔ policy.entity = entity ∧ policy.operation = operation := by
  simp [concerns]

theorem Outcome.about_eq_some_iff {outcome : Outcome} {policy : Enforcement} :
    outcome.about entity operation = some policy ↔
      outcome = .compiled policy ∧ concerns entity operation policy := by
  cases outcome with
  | failed failure => exact ⟨nofun, fun absurd => nomatch absurd.1⟩
  | compiled other =>
      rw [about, Option.ite_none_right_eq_some, Outcome.compiled.injEq]
      constructor
      · rintro ⟨mine, same⟩
        cases same
        exact ⟨rfl, mine⟩
      · rintro ⟨rfl, mine⟩
        exact ⟨mine, rfl⟩

theorem find?_putIn (policy : Enforcement) (policies : List Enforcement) :
    (Ruleset.putIn policy policies).find? (concerns entity operation) =
      if concerns entity operation policy then some policy
      else policies.find? (concerns entity operation) := by
  induction policies with
  | nil =>
      rw [Ruleset.putIn, List.find?_cons]
      cases concerns entity operation policy <;> rfl
  | cons other rest ih =>
      unfold Ruleset.putIn
      split
      · rename_i replaced
        have same : concerns entity operation other = concerns entity operation policy := by
          rw [Bool.and_eq_true, beq_iff_eq, beq_iff_eq] at replaced
          rw [concerns, concerns, replaced.1, replaced.2]
        rw [List.find?_cons, List.find?_cons, same]
        cases concerns entity operation policy <;> rfl
      · rename_i kept
        rw [List.find?_cons, List.find?_cons, ih]
        cases mine : concerns entity operation policy with
        | false => rfl
        | true =>
            obtain ⟨rfl, rfl⟩ := concerns_iff.mp mine
            rw [concerns, Bool.eq_false_iff.mpr kept]

theorem mem_of_mem_putIn {policy other : Enforcement} {policies : List Enforcement}
    (member : other ∈ Ruleset.putIn policy policies) : other = policy ∨ other ∈ policies := by
  induction policies with
  | nil => exact .inl (List.mem_singleton.mp member)
  | cons first rest ih =>
      unfold Ruleset.putIn at member
      split at member
      · exact (List.mem_cons.mp member).imp_right (.tail _)
      · obtain rfl | later := List.mem_cons.mp member
        · exact .inr (.head _)
        · exact (ih later).imp_right (.tail _)

/-- Of the compiled outcomes of an operation on an entity the last one counts. -/
theorem find?_foldl_collect (outcomes : List Outcome) (rules : Ruleset) :
    (outcomes.foldl collect rules).compiled.find? (concerns entity operation) =
      (outcomes.reverse.findSome? (Outcome.about entity operation)).or
        (rules.compiled.find? (concerns entity operation)) := by
  induction outcomes generalizing rules with
  | nil => rfl
  | cons outcome outcomes ih =>
      rw [List.foldl_cons, ih, List.reverse_cons, List.findSome?_append, Option.or_assoc]
      congr 1
      cases outcome with
      | compiled policy =>
          rw [collect, find?_putIn, List.findSome?_singleton, Outcome.about]
          split <;> rfl
      | failed failure => rfl

theorem mem_of_mem_foldl_collect {policy : Enforcement} {outcomes : List Outcome}
    {rules : Ruleset} (member : policy ∈ (outcomes.foldl collect rules).compiled) :
    .compiled policy ∈ outcomes ∨ policy ∈ rules.compiled := by
  induction outcomes generalizing rules with
  | nil => exact .inr member
  | cons outcome outcomes ih =>
      obtain later | earlier := ih member
      · exact .inl (.tail _ later)
      · cases outcome with
        | compiled first =>
            obtain rfl | before := mem_of_mem_putIn earlier
            · exact .inl (.head _)
            · exact .inr before
        | failed failure => exact .inr earlier

theorem outcomes_eq_ok (ended : (outcomes run tasks).result = .ok settled) :
    tasks.map (fun task => (run task.1 task.2).result) = settled.map .ok := by
  induction tasks generalizing settled with
  | nil =>
      cases ended
      rfl
  | cons task tasks ih =>
      obtain ⟨first, run, rest⟩ := Traced.result_bind_eq_ok_iff.mp ended
      obtain ⟨others, runs, same⟩ := Traced.result_bind_eq_ok_iff.mp rest
      cases same
      rw [List.map_cons, List.map_cons, run, ih runs]

variable {registry : Registry} {mapping : ProviderMap} {graph : Graph} {config : Config}
  {rules : Ruleset}

theorem outcomes_of_run (built : (Build.run registry mapping graph config).result = .ok rules) :
    ∃ settled : List Outcome, (Build.tasks registry).map
        (fun task => (compileOne registry mapping graph config task.1 task.2).result) =
      settled.map .ok ∧ rules = settled.foldl collect {} := by
  obtain ⟨settled, run, rest⟩ := Traced.result_bind_eq_ok_iff.mp built
  cases rest
  exact ⟨settled, outcomes_eq_ok run, rfl⟩

theorem exists_outcome (built : (Build.run registry mapping graph config).result = .ok rules)
    {task : String × Operation} (member : task ∈ Build.tasks registry) :
    ∃ outcome, (compileOne registry mapping graph config task.1 task.2).result = .ok outcome := by
  obtain ⟨settled, outcomes, _⟩ := outcomes_of_run built
  have result := List.mem_map_of_mem
    (f := fun task => (compileOne registry mapping graph config task.1 task.2).result) member
  rw [outcomes] at result
  obtain ⟨outcome, _, same⟩ := List.mem_map.mp result
  exact ⟨outcome, same.symm⟩

variable (registry mapping graph config) in
def Makes (task : String × Operation) (policy : Enforcement) : Prop :=
  (compileOne registry mapping graph config task.1 task.2).result = .ok (.compiled policy)

theorem Makes.mem {task : String × Operation} {policy : Enforcement}
    (made : Makes registry mapping graph config task policy) (member : task ∈ tasks)
    (outcomes : tasks.map (fun task =>
      (compileOne registry mapping graph config task.1 task.2).result) = settled.map .ok) :
    .compiled policy ∈ settled := by
  have result := List.mem_map_of_mem
    (f := fun task => (compileOne registry mapping graph config task.1 task.2).result) member
  rw [outcomes, made] at result
  obtain ⟨outcome, among, same⟩ := List.mem_map.mp result
  cases same
  exact among

theorem Makes.resolves {task : String × Operation} {policy : Enforcement}
    (made : Makes registry mapping graph config task policy) :
    ∃ entity, graph.get? task.1 = some entity ∧ policy.entity = entity.name ∧
      policy.operation = task.2 := by
  cases settles_of_compileOne made with
  | denied resolved _ => exact ⟨_, resolved, rfl, rfl⟩
  | compiled resolved _ _ _ _ named operated => exact ⟨_, resolved, named, operated⟩

theorem exists_task (built : (Build.run registry mapping graph config).result = .ok rules)
    {policy : Enforcement} (member : policy ∈ rules.compiled) :
    ∃ task ∈ Build.tasks registry, Makes registry mapping graph config task policy := by
  obtain ⟨settled, outcomes, rfl⟩ := outcomes_of_run built
  obtain among | absurd := mem_of_mem_foldl_collect member
  · have result := List.mem_map_of_mem (f := Except.ok (ε := BuildError)) among
    rw [← outcomes] at result
    exact List.mem_map.mp result
  · cases absurd

/-- The compiled policy of an operation on an entity is what the last task made that made one. -/
theorem exists_last_task (built : (Build.run registry mapping graph config).result = .ok rules)
    {policy : Enforcement}
    (found : rules.compiled.find? (concerns entity operation) = some policy) :
    ∃ before task after, Build.tasks registry = before ++ task :: after ∧
      Makes registry mapping graph config task policy ∧
      ∀ later ∈ after, ∀ other, Makes registry mapping graph config later other →
        ¬ concerns entity operation other := by
  obtain ⟨settled, outcomes, rfl⟩ := outcomes_of_run built
  rw [find?_foldl_collect, List.find?_nil, Option.or_none] at found
  obtain ⟨later, outcome, earlier, split, about, none⟩ := List.findSome?_eq_some_iff.mp found
  rw [List.reverse_eq_append_iff, List.reverse_cons, List.append_assoc] at split
  rw [split, List.map_append, List.map_append] at outcomes
  obtain ⟨before, rest, tasks, _, outcomes⟩ := List.map_eq_append_iff.mp outcomes
  obtain ⟨task, after, rfl, made, remaining⟩ := List.map_eq_cons_iff.mp outcomes
  obtain ⟨rfl, _⟩ := Outcome.about_eq_some_iff.mp about
  refine ⟨before, task, after, tasks, made, fun task member other made concerned => ?_⟩
  have among := List.mem_reverse.mp (made.mem member remaining)
  have absurd := none _ among
  rw [Outcome.about_eq_some_iff.mpr ⟨rfl, concerned⟩] at absurd
  cases absurd

theorem exists_compiled (built : (Build.run registry mapping graph config).result = .ok rules)
    {task : String × Operation} {policy : Enforcement} (member : task ∈ Build.tasks registry)
    (made : Makes registry mapping graph config task policy) :
    ∃ other ∈ rules.compiled, other.entity = policy.entity ∧
      other.operation = policy.operation := by
  obtain ⟨settled, outcomes, rfl⟩ := outcomes_of_run built
  have among := made.mem member outcomes
  have mine : concerns policy.entity policy.operation policy := concerns_iff.mpr ⟨rfl, rfl⟩
  cases found : (settled.foldl collect {}).compiled.find?
      (concerns policy.entity policy.operation) with
  | some other =>
      exact ⟨other, List.mem_of_find?_eq_some found, concerns_iff.mp (List.find?_some found)⟩
  | none =>
      rw [find?_foldl_collect, List.find?_nil, Option.or_none, List.findSome?_eq_none_iff] at found
      have absurd := found _ (List.mem_reverse.mpr among)
      rw [Outcome.about_eq_some_iff.mpr ⟨rfl, mine⟩] at absurd
      cases absurd

end Results

end RowGuard.Build
