import RowGuard.Proofs.Policy.Access

/-! Builds taken apart by entity. Each operation on a registered name has one
entry, compiled or failed, and what it is depends on the policies of that name
alone. -/

set_option autoImplicit false

namespace RowGuard

/-! ## Names -/

/-- The name under which the outcomes of a registered name are kept: that of the entity it is
resolved to, or else the name itself. -/
def Graph.nameFor (graph : Graph) (registered : String) : String :=
  ((graph.get? registered).map (·.name)).getD registered

theorem Named.own_putAll (table : Named Entity) (entities : List Entity)
    (distinct : table.names.Nodup) (own : ∀ entry ∈ table.entries, entry.2.name = entry.1) :
    (table.putAll (entities.map fun entity => (entity.name, entity))).names.Nodup ∧
      ∀ entry ∈ (table.putAll (entities.map fun entity => (entity.name, entity))).entries,
        entry.2.name = entry.1 := by
  induction entities generalizing table with
  | nil => exact ⟨distinct, own⟩
  | cons entity entities ih =>
      refine ih _ (nodup_putIn distinct) fun entry member => ?_
      rcases mem_of_mem_putIn member with rfl | before
      · rfl
      · exact own entry before

theorem Graph.nodup_names {declared : List Entity} {graph : Graph}
    (made : Graph.ofEntities declared = .ok graph) : graph.names.Nodup := by
  obtain ⟨distinct, own⟩ := Named.own_putAll {} declared List.nodup_nil nofun
  unfold ofEntities at made
  dsimp only at made
  split at made
  · cases made
  · cases made
    have same : (Named.ofList (declared.map fun entity => (entity.name, entity))).values.map
        (·.name) = (Named.ofList (declared.map fun entity => (entity.name, entity))).names := by
      rw [Named.values, List.map_map]
      exact List.map_congr_left own
    rw [names, same]
    exact distinct

section Names

variable {graph : Graph} {registry : Registry} {entity other : Entity} {name : String}

theorem Graph.nameFor_of_get? (resolved : graph.get? name = some entity) :
    graph.nameFor name = entity.name := by
  rw [nameFor, resolved]
  rfl

theorem Graph.nameFor_of_none (unresolved : graph.get? name = none) :
    graph.nameFor name = name := by
  rw [nameFor, unresolved]
  rfl

theorem Graph.eq_of_name_eq (distinct : graph.names.Nodup) (known : entity ∈ graph.entities)
    (among : other ∈ graph.entities) (same : entity.name = other.name) : entity = other :=
  List.inj_on_of_nodup_map distinct known among same

theorem Graph.ne_name_of_none (unresolved : graph.get? name = none)
    (known : entity ∈ graph.entities) : entity.name ≠ name := by
  rintro rfl
  rw [get?, find?, Option.orElse_eq_orElse, Option.orElse_eq_or, Option.or_eq_none_iff]
    at unresolved
  exact List.find?_eq_none.mp unresolved.1 entity known (beq_self_eq_true entity.name)

theorem Registry.Separate.nameFor_inj (separate : registry.Separate graph)
    (distinct : graph.names.Nodup) {first second : String} (listed : first ∈ registry.entities)
    (secondListed : second ∈ registry.entities)
    (same : graph.nameFor first = graph.nameFor second) : first = second := by
  cases resolved : graph.get? first with
  | none =>
      cases secondResolved : graph.get? second with
      | none => rwa [Graph.nameFor_of_none resolved, Graph.nameFor_of_none secondResolved] at same
      | some entity =>
          rw [Graph.nameFor_of_none resolved, Graph.nameFor_of_get? secondResolved] at same
          exact absurd same.symm
            (Graph.ne_name_of_none resolved (Graph.mem_of_get? secondResolved))
  | some entity =>
      cases secondResolved : graph.get? second with
      | none =>
          rw [Graph.nameFor_of_get? resolved, Graph.nameFor_of_none secondResolved] at same
          exact absurd same (Graph.ne_name_of_none secondResolved (Graph.mem_of_get? resolved))
      | some other =>
          rw [Graph.nameFor_of_get? resolved, Graph.nameFor_of_get? secondResolved] at same
          obtain rfl := Graph.eq_of_name_eq distinct (Graph.mem_of_get? resolved)
            (Graph.mem_of_get? secondResolved) same
          exact separate first listed second secondListed entity resolved secondResolved

theorem Registry.Filed.nodup_entities (filed : registry.Filed) : registry.entities.Nodup := by
  rw [entities, (List.mergeSort_perm _ _).nodup_iff]
  exact filed.distinct.sublist (List.filter_sublist.map _)

theorem Registry.Filed.nodup_tasks (filed : registry.Filed) : (Build.tasks registry).Nodup := by
  have product : Build.tasks registry = registry.entities ×ˢ Operation.gated := rfl
  rw [product]
  exact filed.nodup_entities.product (by decide)

end Names

namespace Build

/-! ## The entry of an outcome -/

def Outcome.key : Outcome → String × Operation
  | .compiled policy => (policy.entity, policy.operation)
  | .failed failure => (failure.entity, failure.operation)

def Outcome.compiled? : Outcome → Option Enforcement
  | .compiled policy => some policy
  | .failed _ => none

def Outcome.failed? : Outcome → Option FailedPolicy
  | .compiled _ => none
  | .failed failure => some failure

section Keys

variable {registry other : Registry} {mapping : ProviderMap} {graph : Graph} {config : Config}
  {registered entity : String} {operation : Operation} {outcome : Outcome}

/-- Whatever becomes of an operation on a registered name is kept under that operation and the name
it is resolved to. -/
theorem key_of_compileOne
    (ended : (compileOne registry mapping graph config registered operation).result =
      .ok outcome) :
    outcome.key = (graph.nameFor registered, operation) := by
  cases outcomeRun_of_compileOne ended with
  | unknown resolved =>
      rw [Graph.nameFor_of_none resolved]
      rfl
  | denied resolved _ =>
      rw [Graph.nameFor_of_get? resolved]
      rfl
  | unread resolved read =>
      rw [Graph.nameFor_of_get? resolved]
      cases read
      rfl
  | read resolved _ _ ran =>
      rw [Graph.nameFor_of_get? resolved]
      cases ran <;> rfl

/-- What a registered name makes depends on its own policies alone. -/
theorem compileOne_congr (same : other.sources registered = registry.sources registered) :
    compileOne other mapping graph config registered operation =
      compileOne registry mapping graph config registered operation := by
  unfold compileOne Registry.lookup
  rw [same]

end Keys

/-! ## Results without overwriting -/

section Collecting

variable {outcomes : List Outcome} {rules : Ruleset}

theorem putIn_eq_append {policy : Enforcement} {policies : List Enforcement}
    (fresh : ∀ other ∈ policies, (other.entity, other.operation) ≠
      (policy.entity, policy.operation)) :
    Ruleset.putIn policy policies = policies ++ [policy] := by
  induction policies with
  | nil => rfl
  | cons first rest ih =>
      rw [List.forall_mem_cons] at fresh
      have different : ¬ (first.entity == policy.entity &&
          first.operation == policy.operation) = true := by
        intro same
        rw [Bool.and_eq_true, beq_iff_eq, beq_iff_eq] at same
        exact fresh.1 (Prod.ext same.1 same.2)
      rw [Ruleset.putIn, if_neg different, ih fresh.2]
      rfl

theorem foldl_collect_of_nodup (distinct : (outcomes.map Outcome.key).Nodup)
    (fresh : ∀ policy ∈ rules.compiled, (policy.entity, policy.operation) ∉
      outcomes.map Outcome.key) :
    outcomes.foldl collect rules =
      ⟨rules.compiled ++ outcomes.filterMap Outcome.compiled?,
        rules.failures ++ outcomes.filterMap Outcome.failed?⟩ := by
  induction outcomes generalizing rules with
  | nil => simp
  | cons outcome outcomes ih =>
      rw [List.map_cons, List.nodup_cons] at distinct
      simp only [List.map_cons, List.mem_cons, not_or] at fresh
      cases outcome with
      | compiled policy =>
          have placed : collect rules (.compiled policy) =
              { rules with compiled := rules.compiled ++ [policy] } := by
            rw [collect, putIn_eq_append fun other member => (fresh other member).1]
          rw [List.foldl_cons, placed, ih distinct.2]
          · rw [List.append_assoc]
            rfl
          · intro other member
            rcases List.mem_append.mp member with before | last
            · exact (fresh other before).2
            · rw [List.mem_singleton.mp last]
              exact distinct.1
      | failed failure =>
          have placed : collect rules (.failed failure) =
              { rules with failures := rules.failures ++ [failure] } := rfl
          rw [List.foldl_cons, placed, ih distinct.2]
          · rw [List.append_assoc]
            rfl
          · exact fun other member => (fresh other member).2

theorem filter_filterMap_of_agree {α β : Type} {f : α → Option β} {kept : α → Bool}
    {chosen : β → Bool} {items : List α}
    (agree : ∀ item ∈ items, ∀ value, f item = some value → chosen value = kept item) :
    (items.filterMap f).filter chosen = (items.filter kept).filterMap f := by
  induction items with
  | nil => rfl
  | cons item items ih =>
      rw [List.forall_mem_cons] at agree
      cases found : f item with
      | none =>
          rw [List.filterMap_cons_none found, ih agree.2, List.filter_cons]
          split
          · rw [List.filterMap_cons_none found]
          · rfl
      | some value =>
          rw [List.filterMap_cons_some found, List.filter_cons, agree.1 value found,
            ih agree.2, List.filter_cons]
          split
          · rw [List.filterMap_cons_some found]
          · rfl

end Collecting

/-! ## The entries of one name -/

section Entries

variable (registry : Registry) (mapping : ProviderMap) (graph : Graph) (config : Config)

def outcome? (task : String × Operation) : Option Outcome :=
  (compileOne registry mapping graph config task.1 task.2).result.toOption

def entries (registered : String) : List Outcome :=
  (Operation.gated.map (registered, ·)).filterMap (outcome? registry mapping graph config)

variable {registry mapping graph config} {other : Registry} {rules : Ruleset} {name : String}
  {operation : Operation} {task : String × Operation} {outcome : Outcome}

theorem outcome?_eq_some_iff :
    outcome? registry mapping graph config task = some outcome ↔
      (compileOne registry mapping graph config task.1 task.2).result = .ok outcome := by
  unfold outcome?
  cases (compileOne registry mapping graph config task.1 task.2).result <;> simp [Except.toOption]

theorem key_of_outcome? (settled : outcome? registry mapping graph config task = some outcome) :
    outcome.key = (graph.nameFor task.1, task.2) :=
  key_of_compileOne (outcome?_eq_some_iff.mp settled)

theorem entries_congr (same : other.sources name = registry.sources name) :
    entries other mapping graph config name = entries registry mapping graph config name := by
  refine List.filterMap_congr fun task member => ?_
  obtain ⟨operation, _, rfl⟩ := List.mem_map.mp member
  rw [outcome?, outcome?, compileOne_congr same]

theorem filter_tasks_of_not_mem {names : List String} (absent : name ∉ names) :
    (names.flatMap fun other => Operation.gated.map (other, ·)).filter (·.1 == name) = [] := by
  rw [List.filter_eq_nil_iff]
  intro task member mine
  obtain ⟨other, among, rest⟩ := List.mem_flatMap.mp member
  obtain ⟨_, _, rfl⟩ := List.mem_map.mp rest
  exact absent (eq_of_beq mine ▸ among)

theorem filter_tasks_of_mem (filed : registry.Filed) (listed : name ∈ registry.entities) :
    (tasks registry).filter (·.1 == name) = Operation.gated.map (name, ·) := by
  have distinct := filed.nodup_entities
  obtain ⟨before, after, split⟩ := List.append_of_mem listed
  rw [split, List.nodup_middle, List.nodup_cons, List.mem_append, not_or] at distinct
  have own : (Operation.gated.map (name, ·)).filter (·.1 == name) =
      Operation.gated.map (name, ·) := by
    rw [List.filter_eq_self]
    intro task member
    obtain ⟨_, _, rfl⟩ := List.mem_map.mp member
    exact beq_self_eq_true name
  rw [tasks, split, List.flatMap_append, List.flatMap_cons, List.filter_append, List.filter_append,
    filter_tasks_of_not_mem distinct.1.1, filter_tasks_of_not_mem distinct.1.2, own,
    List.nil_append, List.append_nil]

/-- A build keeps what becomes of each task, in order. -/
theorem ruleset_of_run (filed : registry.Filed) (distinct : graph.names.Nodup)
    (separate : registry.Separate graph)
    (built : (Build.run registry mapping graph config).result = .ok rules) :
    rules = ⟨((tasks registry).filterMap (outcome? registry mapping graph config)).filterMap
        Outcome.compiled?,
      ((tasks registry).filterMap (outcome? registry mapping graph config)).filterMap
        Outcome.failed?⟩ := by
  obtain ⟨settled, outcomes, rfl⟩ := outcomes_of_run built
  have same : (tasks registry).filterMap (outcome? registry mapping graph config) = settled := by
    have read := congrArg (List.filterMap Except.toOption) outcomes
    rw [List.filterMap_map, List.filterMap_map] at read
    exact read.trans List.filterMap_some
  have keyed : (settled.map Outcome.key).Nodup := by
    rw [List.Nodup, List.pairwise_map, ← same, List.pairwise_filterMap]
    refine filed.nodup_tasks.imp_of_mem ?_
    intro first second firstTask secondTask different outcome settled other otherSettled clash
    rw [key_of_outcome? settled, key_of_outcome? otherSettled, Prod.mk.injEq] at clash
    exact different (Prod.ext (separate.nameFor_inj distinct
      (Registry.mem_entities_of_mem_tasks firstTask)
      (Registry.mem_entities_of_mem_tasks secondTask) clash.1) clash.2)
  rw [same, foldl_collect_of_nodup keyed (by simp)]
  rfl

/-- The compiled policies and the failures under a registered name are those it makes itself. -/
theorem filter_of_run (filed : registry.Filed) (distinct : graph.names.Nodup)
    (separate : registry.Separate graph)
    (built : (Build.run registry mapping graph config).result = .ok rules)
    (listed : name ∈ registry.entities) :
    rules.compiled.filter (·.entity == graph.nameFor name) =
        (entries registry mapping graph config name).filterMap Outcome.compiled? ∧
      rules.failures.filter (·.entity == graph.nameFor name) =
        (entries registry mapping graph config name).filterMap Outcome.failed? := by
  have own : ((tasks registry).filterMap (outcome? registry mapping graph config)).filter
      (·.key.1 == graph.nameFor name) = entries registry mapping graph config name := by
    rw [entries, ← filter_tasks_of_mem filed listed]
    refine filter_filterMap_of_agree fun task member outcome settled => ?_
    rw [key_of_outcome? settled, Bool.eq_iff_iff, beq_iff_eq, beq_iff_eq]
    exact ⟨separate.nameFor_inj distinct (Registry.mem_entities_of_mem_tasks member) listed,
      congrArg graph.nameFor⟩
  rw [ruleset_of_run filed distinct separate built, ← own]
  constructor
  · refine filter_filterMap_of_agree fun outcome _ policy compiled => ?_
    cases outcome with
    | compiled _ => cases compiled; rfl
    | failed _ => cases compiled
  · refine filter_filterMap_of_agree fun outcome _ failure failed => ?_
    cases outcome with
    | compiled _ => cases failed
    | failed _ => cases failed; rfl

theorem exists_entry (built : (Build.run registry mapping graph config).result = .ok rules)
    (listed : name ∈ registry.entities) (gated : operation ∈ Operation.gated) :
    ∃ outcome, (entries registry mapping graph config name).filter
      (·.key.2 == operation) = [outcome] := by
  have task : (name, operation) ∈ tasks registry :=
    List.mem_flatMap.mpr ⟨name, listed, List.mem_map_of_mem gated⟩
  obtain ⟨outcome, ended⟩ := exists_outcome built task
  have single : (Operation.gated.map (name, ·)).filter (·.2 == operation) =
      [(name, operation)] := by
    rw [List.filter_map]
    change (Operation.gated.filter (· == operation)).map (name, ·) = _
    rw [List.filter_beq, List.count_eq_one_of_mem (by decide) gated]
    rfl
  refine ⟨outcome, ?_⟩
  calc (entries registry mapping graph config name).filter (·.key.2 == operation)
    _ = ((Operation.gated.map (name, ·)).filter (·.2 == operation)).filterMap
          (outcome? registry mapping graph config) := by
        refine filter_filterMap_of_agree fun task _ outcome settled => ?_
        rw [key_of_outcome? settled]
    _ = [outcome] := by
        rw [single, List.filterMap_cons_some (outcome?_eq_some_iff.mpr ended), List.filterMap_nil]

end Entries

/-! ## A registry with one name -/

section Alone

variable {registry other after : Registry} {mapping : ProviderMap} {graph : Graph}
  {config : Config} {rules : Ruleset} {policies : List Policy} {name : String}

theorem exists_foldlM_filter (same : other.sources name = registry.sources name)
    (added : policies.foldlM Registry.add registry = .ok after) :
    ∃ alone, (policies.filter fun source => source.entity = name).foldlM Registry.add other =
      .ok alone := by
  induction policies generalizing registry other with
  | nil => exact ⟨other, rfl⟩
  | cons source policies ih =>
      rw [List.foldlM_cons] at added
      obtain ⟨middle, first, rest⟩ := except_bind_eq_ok added
      by_cases mine : source.entity = name
      · have again : ∃ next, other.add source = .ok next := by
          unfold Registry.add at first ⊢
          rw [mine, same, ← mine]
          dsimp only at first ⊢
          split at first
          · cases first
          · rename_i fresh
            rw [if_neg fresh]
            exact ⟨_, rfl⟩
        obtain ⟨next, placed⟩ := again
        have matching : next.sources name = middle.sources name := by
          rw [Registry.sources_add placed, Registry.sources_add first, same]
        obtain ⟨alone, ended⟩ := ih matching rest
        refine ⟨alone, ?_⟩
        rw [List.filter_cons_of_pos (by simpa using mine), List.foldlM_cons, placed]
        exact ended
      · have matching : other.sources name = middle.sources name := by
          rw [Registry.sources_add first, same]
          simp [mine]
        rw [List.filter_cons_of_neg (by simpa using mine)]
        exact ih matching rest

theorem exists_alone (filled : Registry.ofPolicies policies = .ok registry) (name : String) :
    ∃ alone, Registry.ofPolicies (registry.sources name) = .ok alone := by
  rw [Registry.sources_ofPolicies filled]
  exact exists_foldlM_filter rfl filled

variable {alone : Registry}

theorem sources_alone (filled : Registry.ofPolicies policies = .ok registry)
    (single : Registry.ofPolicies (registry.sources name) = .ok alone) :
    alone.sources name = registry.sources name := by
  rw [Registry.sources_ofPolicies single, Registry.sources_ofPolicies filled, List.filter_filter]
  simp

theorem entities_alone (filled : Registry.ofPolicies policies = .ok registry)
    (listed : name ∈ registry.entities)
    (single : Registry.ofPolicies (registry.sources name) = .ok alone) :
    alone.entities = [name] := by
  have only : ∀ other ∈ alone.entities, other = name := by
    intro other member
    rw [Registry.mem_entities_ofPolicies single, Registry.sources_ofPolicies filled] at member
    obtain ⟨source, among, rfl⟩ := member
    simpa using (List.mem_filter.mp among).2
  have mine : name ∈ alone.entities := by
    refine Registry.mem_entities_of_sources ?_
    rw [sources_alone filled single]
    exact (Registry.filed_ofPolicies filled).sources_ne_nil listed
  have distinct := (Registry.filed_ofPolicies single).nodup_entities
  rw [List.eq_replicate_of_mem only] at mine distinct ⊢
  rw [List.nodup_replicate] at distinct
  have some := List.ne_nil_of_mem mine
  rw [ne_eq, List.replicate_eq_nil_iff] at some
  obtain one : alone.entities.length = 1 := by omega
  rw [one]
  rfl

theorem exists_run (each : ∀ task ∈ tasks registry, ∃ outcome,
      (compileOne registry mapping graph config task.1 task.2).result = .ok outcome) :
    ∃ rules, (Build.run registry mapping graph config).result = .ok rules := by
  have ended {list : List (String × Operation)} (each : ∀ task ∈ list, ∃ outcome,
        (compileOne registry mapping graph config task.1 task.2).result = .ok outcome) :
      ∃ settled, (outcomes (compileOne registry mapping graph config) list).result =
        .ok settled := by
    induction list with
    | nil => exact ⟨[], rfl⟩
    | cons task list ih =>
        rw [List.forall_mem_cons] at each
        obtain ⟨outcome, first⟩ := each.1
        obtain ⟨settled, rest⟩ := ih each.2
        exact ⟨outcome :: settled, Traced.result_bind_eq_ok_iff.mpr
          ⟨outcome, first, Traced.result_bind_eq_ok_iff.mpr ⟨settled, rest, rfl⟩⟩⟩
  obtain ⟨settled, all⟩ := ended each
  exact ⟨_, Traced.result_bind_eq_ok_iff.mpr ⟨settled, all, rfl⟩⟩

/-- The policies of a name that is built with others can be built alone. -/
theorem exists_run_alone (filled : Registry.ofPolicies policies = .ok registry)
    (listed : name ∈ registry.entities)
    (single : Registry.ofPolicies (registry.sources name) = .ok alone)
    (built : (Build.run registry mapping graph config).result = .ok rules) :
    ∃ aloneRules, (Build.run alone mapping graph config).result = .ok aloneRules := by
  refine exists_run fun task member => ?_
  rw [tasks, entities_alone filled listed single, List.flatMap_singleton] at member
  obtain ⟨operation, gated, rfl⟩ := List.mem_map.mp member
  rw [compileOne_congr (sources_alone filled single)]
  exact exists_outcome built (List.mem_flatMap.mpr ⟨name, listed, List.mem_map_of_mem gated⟩)

end Alone

/-! ## Isolation -/

def blames (entity : String) (operation : Operation) (failure : FailedPolicy) : Bool :=
  failure.entity == entity && failure.operation == operation

/-- Whether an operation on an entity has one entry: a compiled policy or a failure. -/
def Single (rules : Ruleset) (entity : String) (operation : Operation) : Prop :=
  (∃ policy, rules.compiled.filter (concerns entity operation) = [policy] ∧
      rules.failures.filter (blames entity operation) = []) ∨
    (rules.compiled.filter (concerns entity operation) = [] ∧
      ∃ failure, rules.failures.filter (blames entity operation) = [failure])

section Isolation

variable {registry : Registry} {mapping : ProviderMap} {graph : Graph} {config : Config}
  {rules : Ruleset} {name : String} {operation : Operation}

theorem single_of_run (filed : registry.Filed) (distinct : graph.names.Nodup)
    (separate : registry.Separate graph)
    (built : (Build.run registry mapping graph config).result = .ok rules)
    (listed : name ∈ registry.entities) (gated : operation ∈ Operation.gated) :
    Single rules (graph.nameFor name) operation := by
  obtain ⟨compiled, failures⟩ := filter_of_run filed distinct separate built listed
  obtain ⟨outcome, entry⟩ := exists_entry built listed gated
  have compiledHere : rules.compiled.filter (concerns (graph.nameFor name) operation) =
      [outcome].filterMap Outcome.compiled? := by
    have parts : concerns (graph.nameFor name) operation =
        fun policy => policy.operation == operation && policy.entity == graph.nameFor name :=
      funext fun policy => Bool.and_comm _ _
    rw [parts, ← List.filter_filter, compiled, ← entry]
    refine filter_filterMap_of_agree fun outcome _ policy same => ?_
    cases outcome with
    | compiled _ => cases same; rfl
    | failed _ => cases same
  have failedHere : rules.failures.filter (blames (graph.nameFor name) operation) =
      [outcome].filterMap Outcome.failed? := by
    have parts : blames (graph.nameFor name) operation =
        fun failure => failure.operation == operation && failure.entity == graph.nameFor name :=
      funext fun failure => Bool.and_comm _ _
    rw [parts, ← List.filter_filter, failures, ← entry]
    refine filter_filterMap_of_agree fun outcome _ failure same => ?_
    cases outcome with
    | compiled _ => cases same
    | failed _ => cases same; rfl
  cases outcome with
  | compiled policy => exact .inl ⟨policy, compiledHere, failedHere⟩
  | failed failure => exact .inr ⟨compiledHere, failure, failedHere⟩

theorem exists_task_of_mem_settled {outcome : Outcome} (member : outcome ∈
      (tasks registry).filterMap (outcome? registry mapping graph config)) :
    ∃ name ∈ registry.entities, ∃ operation ∈ Operation.gated,
      outcome.key = (graph.nameFor name, operation) := by
  obtain ⟨task, among, settled⟩ := List.mem_filterMap.mp member
  have key := key_of_outcome? settled
  obtain ⟨name, listed, rest⟩ := List.mem_flatMap.mp among
  obtain ⟨operation, gated, rfl⟩ := List.mem_map.mp rest
  exact ⟨name, listed, operation, gated, key⟩

theorem exists_concerned (filed : registry.Filed) (distinct : graph.names.Nodup)
    (separate : registry.Separate graph)
    (built : (Build.run registry mapping graph config).result = .ok rules) :
    (∀ policy ∈ rules.compiled, ∃ name ∈ registry.entities, ∃ operation ∈ Operation.gated,
        concerns (graph.nameFor name) operation policy) ∧
      ∀ failure ∈ rules.failures, ∃ name ∈ registry.entities, ∃ operation ∈ Operation.gated,
        blames (graph.nameFor name) operation failure := by
  rw [ruleset_of_run filed distinct separate built]
  constructor
  · intro policy member
    obtain ⟨outcome, among, same⟩ := List.mem_filterMap.mp member
    obtain ⟨name, listed, operation, gated, key⟩ := exists_task_of_mem_settled among
    cases outcome with
    | failed _ => cases same
    | compiled _ =>
        cases same
        exact ⟨name, listed, operation, gated,
          concerns_iff.mpr ⟨congrArg Prod.fst key, congrArg Prod.snd key⟩⟩
  · intro failure member
    obtain ⟨outcome, among, same⟩ := List.mem_filterMap.mp member
    obtain ⟨name, listed, operation, gated, key⟩ := exists_task_of_mem_settled among
    cases outcome with
    | compiled _ => cases same
    | failed _ =>
        cases same
        refine ⟨name, listed, operation, gated, ?_⟩
        rw [blames, Bool.and_eq_true, beq_iff_eq, beq_iff_eq]
        exact ⟨congrArg Prod.fst key, congrArg Prod.snd key⟩

variable {other : Registry} {otherRules : Ruleset}

/-- Two builds with the same policies of a name have the same entries under it. -/
theorem filter_congr_of_run (filed : registry.Filed) (otherFiled : other.Filed)
    (distinct : graph.names.Nodup) (separate : registry.Separate graph)
    (otherSeparate : other.Separate graph)
    (built : (Build.run registry mapping graph config).result = .ok rules)
    (otherBuilt : (Build.run other mapping graph config).result = .ok otherRules)
    (listed : name ∈ registry.entities)
    (same : other.sources name = registry.sources name) :
    otherRules.compiled.filter (·.entity == graph.nameFor name) =
        rules.compiled.filter (·.entity == graph.nameFor name) ∧
      otherRules.failures.filter (·.entity == graph.nameFor name) =
        rules.failures.filter (·.entity == graph.nameFor name) := by
  have otherListed : name ∈ other.entities := by
    refine Registry.mem_entities_of_sources ?_
    rw [same]
    exact filed.sources_ne_nil listed
  obtain ⟨compiled, failures⟩ := filter_of_run filed distinct separate built listed
  obtain ⟨otherCompiled, otherFailures⟩ :=
    filter_of_run otherFiled distinct otherSeparate otherBuilt otherListed
  rw [compiled, failures, otherCompiled, otherFailures, entries_congr same]
  exact ⟨rfl, rfl⟩

theorem filter_eq_self_of_single (filed : registry.Filed) (distinct : graph.names.Nodup)
    (separate : registry.Separate graph) (single : registry.entities = [name])
    (built : (Build.run registry mapping graph config).result = .ok rules) :
    rules.compiled.filter (·.entity == graph.nameFor name) = rules.compiled ∧
      rules.failures.filter (·.entity == graph.nameFor name) = rules.failures := by
  obtain ⟨compiled, failures⟩ := exists_concerned filed distinct separate built
  rw [single] at compiled failures
  constructor
  · refine List.filter_eq_self.mpr fun policy member => ?_
    obtain ⟨only, listed, _, _, concerned⟩ := compiled policy member
    rw [List.mem_singleton] at listed
    rw [← listed, beq_iff_eq]
    exact (concerns_iff.mp concerned).1
  · refine List.filter_eq_self.mpr fun failure member => ?_
    obtain ⟨only, listed, _, _, blamed⟩ := failures failure member
    rw [List.mem_singleton] at listed
    rw [blames, Bool.and_eq_true] at blamed
    rw [← listed]
    exact blamed.1

end Isolation

end Build

/-- A build is settled name by name. Each operation on a registered name has one entry, compiled or
failed, and there are no others. The entries of a name are those that its policies have when they
are built alone, so they are the same in every build with the same policies of that name. -/
theorem run_isolated {declared : List Entity} {graph : Graph}
    (made : Graph.ofEntities declared = .ok graph) {policies : List Policy} {registry : Registry}
    (filled : Registry.ofPolicies policies = .ok registry) (separate : registry.Separate graph)
    {mapping : ProviderMap} {config : Config} {rules : Ruleset}
    (built : (Build.run registry mapping graph config).result = .ok rules) :
    (∀ name ∈ registry.entities, ∀ operation ∈ Operation.gated,
      Build.Single rules (graph.nameFor name) operation) ∧
    (∀ policy ∈ rules.compiled, ∃ name ∈ registry.entities, ∃ operation ∈ Operation.gated,
      Build.concerns (graph.nameFor name) operation policy) ∧
    (∀ failure ∈ rules.failures, ∃ name ∈ registry.entities, ∃ operation ∈ Operation.gated,
      Build.blames (graph.nameFor name) operation failure) ∧
    ∀ name ∈ registry.entities,
      (∃ alone aloneRules, Registry.ofPolicies (registry.sources name) = .ok alone ∧
        (Build.run alone mapping graph config).result = .ok aloneRules ∧
        aloneRules.compiled = rules.compiled.filter (·.entity == graph.nameFor name) ∧
        aloneRules.failures = rules.failures.filter (·.entity == graph.nameFor name)) ∧
      ∀ others other otherRules, Registry.ofPolicies others = .ok other →
        other.Separate graph → other.sources name = registry.sources name →
        (Build.run other mapping graph config).result = .ok otherRules →
        otherRules.compiled.filter (·.entity == graph.nameFor name) =
            rules.compiled.filter (·.entity == graph.nameFor name) ∧
          otherRules.failures.filter (·.entity == graph.nameFor name) =
            rules.failures.filter (·.entity == graph.nameFor name) := by
  have distinct := Graph.nodup_names made
  have filed := Registry.filed_ofPolicies filled
  obtain ⟨compiled, failures⟩ := Build.exists_concerned filed distinct separate built
  refine ⟨?_, compiled, failures, ?_⟩
  · intro name listed operation gated
    exact Build.single_of_run filed distinct separate built listed gated
  intro name listed
  constructor
  · obtain ⟨alone, single⟩ := Build.exists_alone filled name
    have entities := Build.entities_alone filled listed single
    have aloneFiled := Registry.filed_ofPolicies single
    have aloneSeparate : alone.Separate graph := by
      intro first firstListed second secondListed _ _ _
      rw [entities, List.mem_singleton] at firstListed secondListed
      rw [firstListed, secondListed]
    obtain ⟨aloneRules, aloneBuilt⟩ := Build.exists_run_alone filled listed single built
    obtain ⟨sameCompiled, sameFailures⟩ := Build.filter_congr_of_run filed aloneFiled distinct
      separate aloneSeparate built aloneBuilt listed (Build.sources_alone filled single)
    obtain ⟨allCompiled, allFailures⟩ :=
      Build.filter_eq_self_of_single aloneFiled distinct aloneSeparate entities aloneBuilt
    exact ⟨alone, aloneRules, single, aloneBuilt, allCompiled.symm.trans sameCompiled,
      allFailures.symm.trans sameFailures⟩
  · intro others other otherRules refilled otherSeparate same otherBuilt
    exact Build.filter_congr_of_run filed (Registry.filed_ofPolicies refilled) distinct separate
      otherSeparate built otherBuilt listed same

/-- A policy that names a field its entity does not have. -/
def Policy.misspelled : Policy :=
  { name := "misspelled", entity := "User", command := .select,
    condition := some "nmae = 'ann'" }

/-- Posts with policies that compile, and users with one that does not. -/
def Registry.halfBroken : Registry :=
  ⟨⟨[("Post", [.openToAll, .onlyAnn]), ("User", [.misspelled])]⟩⟩

theorem Registry.entities_halfBroken : halfBroken.entities = ["Post", "User"] :=
  List.mergeSort_of_pairwise (by decide +kernel)

theorem run_isolated_halfBroken :
    Registry.ofPolicies [.openToAll, .onlyAnn, .misspelled] = .ok .halfBroken ∧
    ∃ rules, (Build.run .halfBroken Scope.blog.mapping .blog {}).result = .ok rules ∧
      rules.failures.map (·.policy) = ["misspelled"] ∧
      ∃ alone aloneRules, Registry.ofPolicies [.openToAll, .onlyAnn] = .ok alone ∧
        (Build.run alone Scope.blog.mapping .blog {}).result = .ok aloneRules ∧
        aloneRules.compiled = rules.compiled.filter (·.entity == "Post") ∧
        aloneRules.failures = [] := by
  have made : Graph.ofEntities Graph.blog.entities = .ok .blog := by with_unfolding_all rfl
  have filled : Registry.ofPolicies [.openToAll, .onlyAnn, .misspelled] = .ok .halfBroken := by
    with_unfolding_all rfl
  have separate : Registry.halfBroken.Separate .blog := by
    have resolved :
        (Graph.blog.get? "Post").map (·.name) ≠ (Graph.blog.get? "User").map (·.name) := by
      decide +kernel
    intro first firstListed second secondListed entity firstFound secondFound
    rw [Registry.entities_halfBroken, List.mem_pair] at firstListed secondListed
    rcases firstListed with rfl | rfl <;> rcases secondListed with rfl | rfl
    · rfl
    · exact absurd (by rw [firstFound, secondFound]) resolved
    · exact absurd (by rw [firstFound, secondFound]) resolved
    · rfl
  obtain ⟨rules, built, failed⟩ := Traced.exists_ok_of_any
    (Build.run .halfBroken Scope.blog.mapping .blog {})
    (fun rules => rules.failures.map (·.policy) == ["misspelled"] &&
      rules.failures.all (·.entity == "User")) (by
      rw [Build.run, Build.tasks, Registry.entities_halfBroken]
      decide +kernel)
  rw [Bool.and_eq_true, beq_iff_eq, List.all_eq_true] at failed
  have listed : "Post" ∈ Registry.halfBroken.entities := by
    rw [Registry.entities_halfBroken]
    exact .head _
  obtain ⟨⟨alone, aloneRules, single, aloneBuilt, compiled, failures⟩, _⟩ :=
    (run_isolated made filled separate built).2.2.2 "Post" listed
  have named : Graph.blog.nameFor "Post" = "Post" := by decide +kernel
  rw [named] at compiled failures
  refine ⟨filled, rules, built, failed.1, alone, aloneRules, single, aloneBuilt, compiled, ?_⟩
  rw [failures, List.filter_eq_nil_iff]
  intro failure member mine
  have other := failed.2 failure member
  rw [eq_of_beq mine] at other
  exact absurd other (by decide)

end RowGuard
