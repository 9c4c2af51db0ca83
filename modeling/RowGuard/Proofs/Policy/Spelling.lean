import RowGuard.Proofs.Policy.Access

/-! Entities that policies are registered for under several spellings. Each
spelling is compiled by itself, and the last one in the order of the names that
compiles decides alone: the policies under the others are dropped. -/

set_option autoImplicit false

namespace RowGuard

namespace Build

section Spelling

variable (registry : Registry) (mapping : ProviderMap) (graph : Graph) (config : Config)

/-- A registered name that an operation on an entity is compiled from: it is resolved to the entity,
and all names behind it that are fail. -/
structure Decides (entity : String) (operation : Operation) (policy : Enforcement)
    (deciding : String) : Prop where
  listed : deciding ∈ registry.entities
  resolves : (graph.get? deciding).map (·.name) = some entity
  makes : Makes registry mapping graph config (deciding, operation) policy
  last : ∀ later ∈ registry.entities, deciding < later →
    (graph.get? later).map (·.name) = some entity →
    ∃ failure, (compileOne registry mapping graph config later operation).result =
      .ok (.failed failure)

variable {registry mapping graph config} {rules : Ruleset} {entity : String}
  {operation : Operation} {policy : Enforcement}

theorem exists_decides (built : (Build.run registry mapping graph config).result = .ok rules)
    (found : rules.compiled.find? (concerns entity operation) = some policy) :
    ∃ deciding, Decides registry mapping graph config entity operation policy deciding := by
  obtain ⟨before, ⟨deciding, gated⟩, after, split, made, last⟩ := exists_last_task built found
  obtain ⟨rfl, rfl⟩ := concerns_iff.mp (List.find?_some found)
  obtain ⟨resolved, resolves, named, rfl⟩ := made.resolves
  have task : (deciding, policy.operation) ∈ Build.tasks registry := by
    rw [split]
    exact List.mem_append_right _ (.head _)
  refine ⟨deciding, Registry.mem_entities_of_mem_tasks task, ?_, made, ?_⟩
  · rw [resolves, named]
    rfl
  · intro later listed behind spells
    have other := Registry.mem_tasks_of_mem_entities task listed
    obtain ⟨outcome, ended⟩ := exists_outcome built other
    cases outcome with
    | failed failure => exact ⟨failure, ended⟩
    | compiled overwriting =>
        exfalso
        have sorted := Registry.sorted_tasks registry
        rw [split] at sorted other
        obtain earlier | here := List.mem_append.mp other
        · exact String.not_le.mpr behind ((List.pairwise_append.mp sorted).2.2 _ earlier _ (.head _))
        · cases here with
          | head => exact String.lt_irrefl _ behind
          | tail _ member =>
              have made : Makes registry mapping graph config (later, policy.operation)
                overwriting := ended
              obtain ⟨_, resolved, renamed, same⟩ := made.resolves
              rw [resolved] at spells
              exact last _ member _ made
                (concerns_iff.mpr ⟨renamed.trans (Option.some.inj spells), same⟩)

theorem Makes.policies {registered : String}
    (made : Makes registry mapping graph config (registered, operation) policy) :
    policy.policies = (registry.lookup registered operation).map (·.name) := by
  cases settles_of_compileOne made with
  | denied _ uncovered => exact (congrArg (List.map (·.name)) uncovered).symm
  | compiled _ _ _ _ enforces _ _ => exact enforces.policies

end Spelling

end Build

/-- The compiled policy of an operation on an entity has the names of the policies under the
deciding spelling, and of no others. A policy that covers the operation under some spelling is
dropped if and only if none of its name is registered under the deciding one; where there is one
spelling only, none is dropped. -/
theorem mem_policies_iff_deciding {registry : Registry} {mapping : ProviderMap} {graph : Graph}
    {config : Config} {rules : Ruleset} {entity : String} {operation : Operation}
    {policy : Enforcement} (built : (Build.run registry mapping graph config).result = .ok rules)
    (found : rules.compiled.find? (Build.concerns entity operation) = some policy) :
    ∃ deciding, Build.Decides registry mapping graph config entity operation policy deciding ∧
      policy.policies = (registry.lookup deciding operation).map (·.name) ∧
      ∀ registered, ∀ source ∈ registry.lookup registered operation,
        (source.name ∈ policy.policies ↔
          ∃ kept ∈ registry.lookup deciding operation, kept.name = source.name) ∧
        ((∀ other ∈ registry.entities, (graph.get? other).map (·.name) = some entity →
          other = registered) → source.name ∈ policy.policies) := by
  obtain ⟨deciding, decides⟩ := Build.exists_decides built found
  have names := decides.makes.policies
  refine ⟨deciding, decides, names, fun registered source member => ⟨?_, ?_⟩⟩
  · rw [names, List.mem_map]
  · intro single
    obtain rfl := single deciding decides.listed decides.resolves
    rw [names]
    exact List.mem_map_of_mem member

/-- Everyone may do what they like with drafts; the entity is spelled in another way. -/
def Policy.drafts : Policy :=
  { name := "drafts", entity := "post", condition := some "status = 'draft'" }

def Registry.spelledTwice : Registry :=
  ⟨⟨[("Post", [.openToAll, .onlyAnn]), ("post", [.drafts])]⟩⟩

theorem Registry.entities_spelledTwice : spelledTwice.entities = ["Post", "post"] :=
  List.mergeSort_of_pairwise (by decide +kernel)

/-- A draft of someone of another name. -/
def Value.bobsDraft : Value :=
  .mapping [("status", .text "draft"), ("owner", .mapping [("name", .text "bob")])]

/-- Nothing fails, the name of a restrictive policy is missing, and what it denies is granted. -/
theorem Build.run_spelledTwice :
    ∃ rules policy, (Build.run .spelledTwice Scope.blog.mapping .blog {}).result = .ok rules ∧
      rules.compiled.find? (concerns "Post" .select) = some policy ∧ rules.failures = [] ∧
      Policy.onlyAnn.name ∉ policy.policies ∧
      (rules.can .deny .null .select .bobsDraft (some "Post")).result.toOption = some true := by
  obtain ⟨rules, built, tested⟩ := Traced.exists_ok_of_any
    (Build.run .spelledTwice Scope.blog.mapping .blog {})
    (fun rules => (rules.compiled.find? (concerns "Post" .select)).any fun policy =>
      rules.failures = [] ∧ Policy.onlyAnn.name ∉ policy.policies ∧
        (rules.can .deny .null .select .bobsDraft (some "Post")).result.toOption = some true) (by
      rw [Build.run, Build.tasks, Registry.entities_spelledTwice]
      decide +kernel)
  obtain ⟨policy, found, facts⟩ := (Option.any_eq_true _ _).mp tested
  exact ⟨rules, policy, built, found, of_decide_eq_true facts⟩

theorem mem_policies_iff_deciding_spelledTwice :
    ∃ rules policy, (Build.run .spelledTwice Scope.blog.mapping .blog {}).result = .ok rules ∧
      rules.compiled.find? (Build.concerns "Post" .select) = some policy ∧
      Build.Decides .spelledTwice Scope.blog.mapping .blog {} "Post" .select policy "post" := by
  obtain ⟨rules, policy, built, found, _, dropped, _⟩ := Build.run_spelledTwice
  obtain ⟨deciding, decides, names, _⟩ := mem_policies_iff_deciding built found
  have listed := decides.listed
  rw [Registry.entities_spelledTwice, List.mem_pair] at listed
  obtain rfl | rfl := listed
  · refine absurd ?_ dropped
    rw [names]
    decide +kernel
  · exact ⟨rules, policy, built, found, decides⟩

/-- A restrictive policy is dropped although it covers the operation on the entity and nothing
failed. -/
theorem onlyAnn_dropped :
    ∃ rules policy, Registry.ofPolicies [.openToAll, .onlyAnn, .drafts] = .ok .spelledTwice ∧
      Policy.onlyAnn ∈ Registry.spelledTwice.lookup Policy.onlyAnn.entity .select ∧
      (Graph.blog.get? Policy.onlyAnn.entity).map (·.name) = some "Post" ∧
      (Build.run .spelledTwice Scope.blog.mapping .blog {}).result = .ok rules ∧
      rules.compiled.find? (Build.concerns "Post" .select) = some policy ∧ rules.failures = [] ∧
      Policy.onlyAnn.name ∉ policy.policies ∧
      (rules.can .deny .null .select .bobsDraft (some "Post")).result.toOption = some true := by
  obtain ⟨rules, policy, run⟩ := Build.run_spelledTwice
  exact ⟨rules, policy, by with_unfolding_all rfl, by decide +kernel, by decide +kernel, run⟩

end RowGuard
