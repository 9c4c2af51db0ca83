import RowGuard.Policy.Access
import RowGuard.Proofs.Agreement
import RowGuard.Proofs.Policy.Permission
import RowGuard.Proofs.Policy.Registry

/-! Access by the policies of a registry. Where the names of policies and
entities are told apart, an operation has the one compiled policy that its
entity's policies make, and the answer to a check is what they permit. A policy
that compares an undefined number may leave the check without an answer, also
where another policy grants access; then the order of the policies matters. -/

set_option autoImplicit false

namespace RowGuard

/-! ## The compiled policy of an operation -/

/-- Whether no two registered names are resolved to one entity. -/
def Registry.Separate (registry : Registry) (graph : Graph) : Prop :=
  ∀ first ∈ registry.entities, ∀ second ∈ registry.entities, ∀ entity,
    graph.get? first = some entity → graph.get? second = some entity → first = second

theorem Registry.separate_of_single {registry : Registry} {graph : Graph} {name : String}
    (single : registry.entities = [name]) : registry.Separate graph := by
  intro first firstListed second secondListed _ _ _
  rw [single, List.mem_singleton] at firstListed secondListed
  rw [firstListed, secondListed]

section Lookup

variable {rules : Ruleset} {spelling : String} {operation : Operation} {policy : Enforcement}

theorem Ruleset.mem_of_get? (found : rules.get? spelling operation = some policy) :
    policy ∈ rules.compiled ∧ policy.operation = operation ∧
      Text.lower policy.entity = Text.lower spelling := by
  rw [get?, Option.orElse_eq_orElse, Option.orElse_eq_or, Option.or_eq_some_iff] at found
  obtain exact | ⟨_, folded⟩ := found
  · have same := List.find?_some exact
    rw [Bool.and_eq_true, beq_iff_eq, beq_iff_eq] at same
    exact ⟨List.mem_of_find?_eq_some exact, same.2, congrArg Text.lower same.1⟩
  · have same := List.find?_some folded
    rw [Bool.and_eq_true, beq_iff_eq, beq_iff_eq] at same
    exact ⟨List.mem_of_find?_eq_some folded, same⟩

theorem Ruleset.get?_ne_none (member : policy ∈ rules.compiled)
    (same : policy.operation = operation ∧ Text.lower policy.entity = Text.lower spelling) :
    rules.get? spelling operation ≠ none := by
  intro missing
  rw [get?, Option.orElse_eq_orElse, Option.orElse_eq_or, Option.or_eq_none_iff] at missing
  refine List.find?_eq_none.mp missing.2 policy member ?_
  rw [Bool.and_eq_true, beq_iff_eq, beq_iff_eq]
  exact same

variable {registry : Registry} {mapping : ProviderMap} {graph : Graph} {config : Config}
  {entity : Entity}

theorem Graph.eq_of_lower_eq {other : Entity} (distinct : (graph.names.map Text.lower).Nodup)
    (known : entity ∈ graph.entities) (among : other ∈ graph.entities)
    (same : Text.lower entity.name = Text.lower other.name) : entity = other := by
  rw [names, List.map_map] at distinct
  exact List.inj_on_of_nodup_map distinct known among same

/-- The compiled policy of an operation on an entity is the one that its registered name makes. -/
theorem Build.get?_eq_some_iff
    (built : (Build.run registry mapping graph config).result = .ok rules)
    (separate : registry.Separate graph) (distinct : (graph.names.map Text.lower).Nodup)
    (known : entity ∈ graph.entities) (spelled : Text.lower spelling = Text.lower entity.name) :
    rules.get? spelling operation = some policy ↔
      ∃ registered, (registered, operation) ∈ Build.tasks registry ∧
        graph.get? registered = some entity ∧
        Makes registry mapping graph config (registered, operation) policy := by
  have forward {policy : Enforcement} (found : rules.get? spelling operation = some policy) :
      ∃ registered, (registered, operation) ∈ Build.tasks registry ∧
        graph.get? registered = some entity ∧
        Makes registry mapping graph config (registered, operation) policy := by
    obtain ⟨member, rfl, folded⟩ := Ruleset.mem_of_get? found
    obtain ⟨⟨registered, operation⟩, task, made⟩ := exists_task built member
    obtain ⟨other, resolved, named, rfl⟩ := made.resolves
    rw [named, spelled] at folded
    obtain rfl := Graph.eq_of_lower_eq distinct (Graph.mem_of_get? resolved) known folded
    exact ⟨registered, task, resolved, made⟩
  refine ⟨forward, ?_⟩
  rintro ⟨registered, task, resolved, made⟩
  obtain ⟨other, member, named, operated⟩ := exists_compiled built task made
  obtain ⟨_, again, same, rfl⟩ := made.resolves
  cases resolved.symm.trans again
  cases found : rules.get? spelling policy.operation with
  | none =>
      refine absurd found (Ruleset.get?_ne_none member ⟨operated, ?_⟩)
      rw [named, same, spelled]
  | some result =>
      obtain ⟨second, duplicate, resolvedAgain, madeAgain⟩ := forward found
      obtain rfl := separate second (Registry.mem_entities_of_mem_tasks duplicate) registered
        (Registry.mem_entities_of_mem_tasks task) _ resolvedAgain resolved
      cases madeAgain.symm.trans made
      rfl

end Lookup

/-! ## Checks -/

section Checks

variable {rules : Ruleset} {registry : Registry} {mapping : ProviderMap} {graph : Graph}
  {config : Config} {entity : Entity} {spelling : String} {operation : Operation}
  {mode : UnloadedMode} {actor record : Value}

theorem Ruleset.result_can_of_none (missing : rules.get? spelling operation = none) :
    (rules.can mode actor operation record (some spelling)).result = .ok false := by
  rw [can, Traced.result_bind_of_ok rfl, missing]
  rfl

theorem Ruleset.result_can_of_some {policy : Enforcement}
    (found : rules.get? spelling operation = some policy) :
    (rules.can mode actor operation record (some spelling)).result =
      (policy.predicate.condition.grants mode record actor).result.mapError .evaluation := by
  rw [can, Traced.result_bind_of_ok rfl, found]
  rfl

theorem Build.exists_makes_of_permits
    (built : (Build.run registry mapping graph config).result = .ok rules)
    (permits : registry.Permits mapping graph config entity operation mode actor record) :
    ∃ registered policy, (registered, operation) ∈ Build.tasks registry ∧
      graph.get? registered = some entity ∧
      Makes registry mapping graph config (registered, operation) policy := by
  obtain ⟨registered, parsed, scope, check, resolved, covered, reads, made, checked, _⟩ := permits
  obtain ⟨source, among⟩ := List.exists_mem_of_ne_nil _ covered
  have task := Registry.mem_tasks_of_lookup among
  obtain ⟨outcome, ended⟩ := exists_outcome built task
  cases outcome with
  | compiled policy => exact ⟨registered, policy, task, resolved, ended⟩
  | failed failure =>
      exfalso
      cases settles_of_compileOne ended with
      | unknown unresolved =>
          rw [resolved] at unresolved
          cases unresolved
      | unreadable again member unread =>
          cases resolved.symm.trans again
          rw [← reads.sources] at member
          obtain ⟨entry, among, rfl⟩ := List.mem_map.mp member
          exact unread entry.2 (reads.parse entry among)
      | uncompiled again readsAgain uncompiled =>
          cases resolved.symm.trans again
          cases reads.unique readsAgain
          exact uncompiled scope made ⟨_, Scope.compile_of_recordCheck checked⟩

/-- What a check of a record ends in: the answer that the policies of the entity permit, or an
invalid operation, unless neither actor nor record holds an undefined number. -/
def Registry.Decides (registry : Registry) (mapping : ProviderMap) (graph : Graph) (config : Config)
    (entity : Entity) (operation : Operation) (mode : UnloadedMode) (actor record : Value)
    (answer : Except AccessError Bool) : Prop :=
  (∃ granted, answer = .ok granted ∧
    (granted ↔ registry.Permits mapping graph config entity operation mode actor record)) ∨
  answer = .error (.evaluation .invalidOperation) ∧ ¬(actor.isDefined ∧ record.isDefined)

theorem Registry.Decides.answered {answer : Except AccessError Bool}
    (decides : registry.Decides mapping graph config entity operation mode actor record answer)
    (actorDefined : actor.isDefined) (recordDefined : record.isDefined) :
    ∃ granted, answer = .ok granted ∧
      (granted ↔ registry.Permits mapping graph config entity operation mode actor record) := by
  rcases decides with answered | ⟨_, undefined⟩
  · exact answered
  · exact absurd ⟨actorDefined, recordDefined⟩ undefined

theorem Registry.Decides.permits {answer : Except AccessError Bool}
    (decides : registry.Decides mapping graph config entity operation mode actor record answer)
    (granted : answer.toOption = some true) :
    answer = .ok true ∧
      registry.Permits mapping graph config entity operation mode actor record := by
  rcases decides with ⟨given, rfl, permits⟩ | ⟨rfl, _⟩
  · obtain rfl : given = true := Option.some.inj granted
    exact ⟨rfl, permits.mp rfl⟩
  · cases granted

theorem Build.Makes.decides (separate : registry.Separate graph) (loaded : mode ≠ .fail)
    {registered : String} {policy : Enforcement}
    (task : (registered, operation) ∈ Build.tasks registry)
    (resolved : graph.get? registered = some entity)
    (made : Makes registry mapping graph config (registered, operation) policy) :
    registry.Decides mapping graph config entity operation mode actor record
      ((policy.predicate.condition.grants mode record actor).result.mapError .evaluation) := by
  have listed := Registry.mem_entities_of_mem_tasks task
  have unique {other : String} (same : graph.get? other = some entity)
      (covered : registry.lookup other operation ≠ []) : other = registered := by
    obtain ⟨source, among⟩ := List.exists_mem_of_ne_nil _ covered
    exact separate _ (Registry.mem_entities_of_mem_tasks (Registry.mem_tasks_of_lookup among)) _
      listed _ same resolved
  cases settles_of_compileOne made with
  | denied again uncovered =>
      refine .inl ⟨false, rfl, nofun, ?_⟩
      rintro ⟨other, _, _, _, same, covered, _⟩
      obtain rfl := unique same covered
      exact absurd uncovered covered
  | compiled again covered reads making enforces _ _ =>
      cases resolved.symm.trans again
      have checked := enforces.check
      have compiled := Scope.compile_of_recordCheck checked
      obtain ⟨name, rfl⟩ := Scope.make_of_mem (Graph.mem_of_get? resolved) making
      have spoken := reads
      rw [← name] at spoken
      have shape := Expr.compiled_of_known
        (Expr.known_combine (spoken.known (·.permissive)) (spoken.known (!·.permissive))) compiled
      rcases shape.yields_grants loaded actor record with answered | ⟨failed, undefined⟩
      · refine .inl ⟨_, congrArg _ answered, ?_, ?_⟩
        · intro holds
          obtain ⟨grants, restricts⟩ :=
            spoken.grants_of_result compiled (answered.trans (congrArg _ holds))
          exact ⟨registered, _, _, _, resolved, covered, reads, making, checked, grants, restricts⟩
        · rintro ⟨other, _, scope, _, same, covered, _, makingAgain, _, grants, restricts⟩
          obtain rfl := unique same covered
          cases making.symm.trans makingAgain
          exact spoken.holds_of_grants compiled loaded ⟨grants, restricts⟩
      · exact .inr ⟨congrArg _ failed, undefined⟩

theorem Build.can_decides (built : (Build.run registry mapping graph config).result = .ok rules)
    (separate : registry.Separate graph) (distinct : (graph.names.map Text.lower).Nodup)
    (known : entity ∈ graph.entities) (spelled : Text.lower spelling = Text.lower entity.name)
    (loaded : mode ≠ .fail) :
    registry.Decides mapping graph config entity operation mode actor record
      (rules.can mode actor operation record (some spelling)).result := by
  cases found : rules.get? spelling operation with
  | some policy =>
      obtain ⟨registered, task, resolved, made⟩ :=
        (get?_eq_some_iff built separate distinct known spelled).mp found
      rw [Ruleset.result_can_of_some found]
      exact made.decides separate loaded task resolved
  | none =>
      refine .inl ⟨false, Ruleset.result_can_of_none found, nofun, fun permits => ?_⟩
      obtain ⟨registered, policy, making⟩ := exists_makes_of_permits built permits
      have made := (get?_eq_some_iff built separate distinct known spelled).mpr
        ⟨registered, making⟩
      rw [found] at made
      cases made

end Checks

/-! ## The order of the policies -/

section Order

variable {registry other : Registry} {policies others : List Policy} {graph : Graph}

theorem Registry.Separate.reorder (separate : registry.Separate graph)
    (filled : Registry.ofPolicies policies = .ok registry) (reordered : others.Perm policies)
    (refilled : Registry.ofPolicies others = .ok other) : other.Separate graph := by
  intro first firstListed second secondListed
  rw [mem_entities_ofPolicies refilled] at firstListed secondListed
  simp only [reordered.mem_iff, ← mem_entities_ofPolicies filled] at firstListed secondListed
  exact separate first firstListed second secondListed

theorem Registry.permits_reorder {mapping : ProviderMap} {config : Config} {entity : Entity}
    {operation : Operation} {mode : UnloadedMode} {actor record : Value}
    (filled : Registry.ofPolicies policies = .ok registry) (reordered : others.Perm policies)
    (refilled : Registry.ofPolicies others = .ok other) :
    other.Permits mapping graph config entity operation mode actor record ↔
      registry.Permits mapping graph config entity operation mode actor record := by
  simp only [permits_iff, mem_lookup_ofPolicies filled, mem_lookup_ofPolicies refilled,
    reordered.mem_iff]

end Order

/-- Access is granted if and only if the entity's policies permit it. A check is answered unless the
actor or the record holds an undefined number, and then it may end in an invalid operation. Two
registries with the same policies, added in whatever order, never give two answers. -/
theorem can_iff_permits {registry : Registry} {mapping : ProviderMap} {graph : Graph}
    {config : Config} {rules : Ruleset}
    (built : (Build.run registry mapping graph config).result = .ok rules)
    (separate : registry.Separate graph) (distinct : (graph.names.map Text.lower).Nodup)
    {entity : Entity} (known : entity ∈ graph.entities) {spelling : String}
    (spelled : Text.lower spelling = Text.lower entity.name) {mode : UnloadedMode}
    (loaded : mode ≠ .fail) (operation : Operation) (actor record : Value) :
    registry.Decides mapping graph config entity operation mode actor record
      (rules.can mode actor operation record (some spelling)).result ∧
    ∀ policies others other otherRules, Registry.ofPolicies policies = .ok registry →
      others.Perm policies → Registry.ofPolicies others = .ok other →
      (Build.run other mapping graph config).result = .ok otherRules →
      registry.Decides mapping graph config entity operation mode actor record
        (otherRules.can mode actor operation record (some spelling)).result := by
  refine ⟨Build.can_decides built separate distinct known spelled loaded, ?_⟩
  intro policies others other otherRules filled reordered refilled rebuilt
  have decides : other.Decides mapping graph config entity operation mode actor record _ :=
    Build.can_decides rebuilt (separate.reorder filled reordered refilled) distinct known spelled
      loaded
  rwa [Registry.Decides, Registry.permits_reorder filled reordered refilled] at decides

/-- Everyone may do what they like with open posts. -/
def Policy.openToAll : Policy :=
  { name := "open_to_all", entity := "Post", condition := some "status = 'open'" }

/-- Only posts of someone of a name are accessible at all. -/
def Policy.onlyAnn : Policy :=
  { name := "only_ann", entity := "Post", condition := some "owner.name = 'ann'",
    permissive := false }

def Value.annsPost : Value :=
  .mapping [("status", .text "open"), ("owner", .mapping [("name", .text "ann")])]

theorem can_iff_permits_annsPost :
    ∃ registry other rules,
      Registry.ofPolicies [.openToAll, .onlyAnn] = .ok registry ∧
      registry.Permits Scope.blog.mapping .blog {} Scope.blog.entity .select .deny .null
        .annsPost ∧
      Registry.ofPolicies [.onlyAnn, .openToAll] = .ok other ∧
      (Build.run other Scope.blog.mapping .blog {}).result = .ok rules ∧
      (rules.can .deny .null .select .annsPost (some "post")).result = .ok true := by
  let registry : Registry := ⟨⟨[("Post", [.openToAll, .onlyAnn])]⟩⟩
  let other : Registry := ⟨⟨[("Post", [.onlyAnn, .openToAll])]⟩⟩
  have filled : Registry.ofPolicies [.openToAll, .onlyAnn] = .ok registry := by
    with_unfolding_all rfl
  have refilled : Registry.ofPolicies [.onlyAnn, .openToAll] = .ok other := by
    with_unfolding_all rfl
  have separate : registry.Separate .blog := Registry.separate_of_single (by with_unfolding_all rfl)
  obtain ⟨rules, built, answered⟩ := Traced.exists_ok_of_any
    (Build.run registry Scope.blog.mapping .blog {})
    (fun rules => (rules.can .deny .null .select .annsPost (some "post")).result.toOption ==
      some true) (by decide +kernel)
  obtain ⟨otherRules, rebuilt, _⟩ := Traced.exists_ok_of_any
    (Build.run other Scope.blog.mapping .blog {}) (fun _ => true) (by decide +kernel)
  obtain ⟨decides, reorder⟩ :=
    can_iff_permits built separate (by decide +kernel) List.mem_cons_self
      (by decide +kernel : Text.lower "post" = Text.lower "Post")
      (by decide : UnloadedMode.deny ≠ .fail) .select .null .annsPost
  obtain ⟨_, permits⟩ := decides.permits (beq_iff_eq.mp answered)
  obtain ⟨again, otherAnswer, otherPermits⟩ :=
    (reorder _ _ _ _ filled (.swap _ _ _) refilled rebuilt).answered rfl rfl
  rw [otherPermits.mpr permits] at otherAnswer
  exact ⟨registry, other, otherRules, filled, permits, refilled, rebuilt, otherAnswer⟩

/-- What is cheap is open to all. -/
def Policy.cheapToAll : Policy :=
  { name := "cheap_to_all", entity := "Item", condition := some "amount < 5" }

/-- Everything is open to admins. -/
def Policy.allToAdmins : Policy :=
  { name := "all_to_admins", entity := "Item", condition := some "current_role() = 'admin'" }

/-- Admins are granted access by a policy of their own. Behind it the policy on cheap items is not
looked at; before it, it leaves an item without a price unanswered. -/
theorem allToAdmins_unanswered :
    ∃ registry other rules otherRules,
      Registry.ofPolicies [.cheapToAll, .allToAdmins] = .ok registry ∧
      Registry.ofPolicies [.allToAdmins, .cheapToAll] = .ok other ∧
      (Build.run registry Scope.priced.mapping .priced {}).result = .ok rules ∧
      (Build.run other Scope.priced.mapping .priced {}).result = .ok otherRules ∧
      registry.Permits Scope.priced.mapping .priced {} Scope.priced.entity .select .deny
        (.mapping [("role", .text "admin")]) .unpriced ∧
      (rules.can .deny (.mapping [("role", .text "admin")]) .select .unpriced (some "Item")).result =
        .error (.evaluation .invalidOperation) ∧
      (otherRules.can .deny (.mapping [("role", .text "admin")]) .select .unpriced
        (some "Item")).result = .ok true := by
  let registry : Registry := ⟨⟨[("Item", [.cheapToAll, .allToAdmins])]⟩⟩
  let other : Registry := ⟨⟨[("Item", [.allToAdmins, .cheapToAll])]⟩⟩
  let admin : Value := .mapping [("role", .text "admin")]
  have filled : Registry.ofPolicies [.cheapToAll, .allToAdmins] = .ok registry := by
    with_unfolding_all rfl
  have refilled : Registry.ofPolicies [.allToAdmins, .cheapToAll] = .ok other := by
    with_unfolding_all rfl
  have separate : registry.Separate .priced :=
    Registry.separate_of_single (by with_unfolding_all rfl)
  have otherSeparate : other.Separate .priced :=
    Registry.separate_of_single (by with_unfolding_all rfl)
  obtain ⟨rules, built, unanswered⟩ := Traced.exists_ok_of_any
    (Build.run registry Scope.priced.mapping .priced {})
    (fun rules => (rules.can .deny admin .select .unpriced (some "Item")).result.toOption.isNone)
    (by decide +kernel)
  obtain ⟨otherRules, rebuilt, answered⟩ := Traced.exists_ok_of_any
    (Build.run other Scope.priced.mapping .priced {})
    (fun rules => (rules.can .deny admin .select .unpriced (some "Item")).result.toOption ==
      some true) (by decide +kernel)
  have decides : registry.Decides Scope.priced.mapping .priced {} Scope.priced.entity .select
      .deny admin .unpriced (rules.can .deny admin .select .unpriced (some "Item")).result :=
    Build.can_decides built separate (by decide +kernel) List.mem_cons_self rfl (by decide)
  have otherDecides : other.Decides Scope.priced.mapping .priced {} Scope.priced.entity .select
      .deny admin .unpriced (otherRules.can .deny admin .select .unpriced (some "Item")).result :=
    Build.can_decides rebuilt otherSeparate (by decide +kernel) List.mem_cons_self rfl (by decide)
  rcases decides with ⟨_, answer, _⟩ | ⟨failed, _⟩
  · rw [answer] at unanswered
    cases unanswered
  obtain ⟨granted, permits⟩ := otherDecides.permits (beq_iff_eq.mp answered)
  have permitted := (Registry.permits_reorder filled (.swap _ _ _) refilled).mp permits
  exact ⟨registry, other, rules, otherRules, filled, refilled, built, rebuilt, permitted, failed,
    granted⟩

end RowGuard
