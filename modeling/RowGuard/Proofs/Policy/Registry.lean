import RowGuard.Policy.Build
import RowGuard.Proofs.Expr.Grammar
import RowGuard.Proofs.Named

/-! Registered policies. A registry that is filled policy by policy holds those
of each entity in the order they were added, and every entity it lists has one. -/

set_option autoImplicit false

namespace RowGuard

theorem Command.operations_subset (command : Command) :
    command.operations ⊆ Operation.gated := by
  cases command <;> simp [operations, Operation.gated]

namespace Registry

variable {registry after : Registry} {source : Policy} {name : String} {operation : Operation}

/-! ## Tasks -/

theorem mem_entities_of_sources (policed : registry.sources name ≠ []) :
    name ∈ registry.entities := by
  rw [sources] at policed
  cases found : registry.table.get? name with
  | none => rw [found] at policed; exact absurd rfl policed
  | some policies =>
      rw [found, Option.getD_some] at policed
      rw [entities, List.mem_mergeSort]
      refine List.mem_map.mpr ⟨(name, policies), List.mem_filter.mpr ⟨?_, ?_⟩, rfl⟩
      · exact Named.mem_of_getIn found
      · simpa using policed

theorem mem_tasks_of_lookup (member : source ∈ registry.lookup name operation) :
    (name, operation) ∈ Build.tasks registry := by
  obtain ⟨policed, covers⟩ := List.mem_filter.mp member
  refine List.mem_flatMap.mpr ⟨name, mem_entities_of_sources (List.ne_nil_of_mem policed), ?_⟩
  exact List.mem_map.mpr
    ⟨operation, source.command.operations_subset (List.contains_iff_mem.mp covers), rfl⟩

theorem mem_entities_of_mem_tasks {task : String × Operation}
    (member : task ∈ Build.tasks registry) : task.1 ∈ registry.entities := by
  obtain ⟨name, among, rest⟩ := List.mem_flatMap.mp member
  obtain ⟨operation, _, rfl⟩ := List.mem_map.mp rest
  exact among

theorem mem_tasks_of_mem_entities {task : String × Operation}
    (member : task ∈ Build.tasks registry) (listed : name ∈ registry.entities) :
    (name, task.2) ∈ Build.tasks registry := by
  obtain ⟨_, _, rest⟩ := List.mem_flatMap.mp member
  obtain ⟨operation, gated, rfl⟩ := List.mem_map.mp rest
  exact List.mem_flatMap.mpr ⟨name, listed, List.mem_map_of_mem gated⟩

/-- The operations on an entity are compiled before those on the entities behind it. -/
theorem sorted_tasks (registry : Registry) :
    (Build.tasks registry).Pairwise fun first second => first.1 ≤ second.1 := by
  have sorted : registry.entities.Pairwise fun first second => first ≤ second := by
    refine (List.pairwise_mergeSort ?_ ?_ _).imp of_decide_eq_true
    · intro first second third
      simpa using String.le_trans
    · intro first second
      simpa using String.le_total first second
  rw [Build.tasks, List.pairwise_flatMap]
  constructor
  · intro name _
    exact List.pairwise_map.mpr (List.pairwise_of_forall fun _ _ => String.le_refl name)
  · refine sorted.imp fun before first firstTask second secondTask => ?_
    obtain ⟨_, _, rfl⟩ := List.mem_map.mp firstTask
    obtain ⟨_, _, rfl⟩ := List.mem_map.mp secondTask
    exact before

/-! ## Registration -/

/-- Whether the names of a registry are distinct and each of them has a policy. -/
structure Filed (registry : Registry) : Prop where
  distinct : registry.table.names.Nodup
  policed : ∀ entry ∈ registry.table.entries, entry.2 ≠ []

theorem Filed.sources_ne_nil (filed : registry.Filed) (member : name ∈ registry.entities) :
    registry.sources name ≠ [] := by
  rw [entities, List.mem_mergeSort] at member
  obtain ⟨⟨name, policies⟩, among, rfl⟩ := List.mem_map.mp member
  have entry := List.mem_of_mem_filter among
  rw [sources, Named.get?, Named.getIn_of_mem filed.distinct entry]
  exact filed.policed _ entry

theorem add_eq_ok (added : registry.add source = .ok after) :
    after = ⟨registry.table.put source.entity (registry.sources source.entity ++ [source])⟩ := by
  unfold add at added
  dsimp only at added
  split at added
  · cases added
  · cases added
    rfl

theorem Filed.add (filed : registry.Filed) (added : registry.add source = .ok after) :
    after.Filed := by
  cases add_eq_ok added
  refine ⟨Named.nodup_putIn filed.distinct, fun entry member => ?_⟩
  obtain rfl | before := Named.mem_of_mem_putIn member
  · exact List.concat_ne_nil _ _
  · exact filed.policed entry before

theorem sources_add (added : registry.add source = .ok after) :
    after.sources name =
      registry.sources name ++ [source].filter fun source => source.entity = name := by
  cases add_eq_ok added
  rw [sources, Named.get?_put]
  split
  · rename_i same
    subst same
    simp
  · rename_i other
    simp [other, sources]

theorem filed_empty : Filed {} :=
  ⟨List.nodup_nil, nofun⟩

theorem filed_of_foldlM {policies : List Policy} (filed : registry.Filed)
    (added : policies.foldlM Registry.add registry = .ok after) :
    after.Filed ∧ ∀ name, after.sources name =
      registry.sources name ++ policies.filter fun source => source.entity = name := by
  induction policies generalizing registry with
  | nil =>
      cases added
      exact ⟨filed, by simp⟩
  | cons source policies ih =>
      rw [List.foldlM_cons] at added
      obtain ⟨middle, first, rest⟩ := except_bind_eq_ok added
      obtain ⟨filed, same⟩ := ih (filed.add first) rest
      refine ⟨filed, fun name => ?_⟩
      rw [same, sources_add first, List.append_assoc, ← List.filter_append, List.singleton_append]

/-- The registry of some policies, added one after the other. -/
def ofPolicies (policies : List Policy) : Except PolicyError Registry :=
  policies.foldlM Registry.add {}

variable {policies : List Policy}

theorem filed_ofPolicies (filled : ofPolicies policies = .ok registry) : registry.Filed :=
  (filed_of_foldlM filed_empty filled).1

theorem sources_ofPolicies (filled : ofPolicies policies = .ok registry) (name : String) :
    registry.sources name = policies.filter fun source => source.entity = name :=
  (filed_of_foldlM filed_empty filled).2 name

theorem mem_entities_ofPolicies (filled : ofPolicies policies = .ok registry) :
    name ∈ registry.entities ↔ ∃ source ∈ policies, source.entity = name := by
  have listed : name ∈ registry.entities ↔ registry.sources name ≠ [] :=
    ⟨(filed_ofPolicies filled).sources_ne_nil, mem_entities_of_sources⟩
  rw [listed, sources_ofPolicies filled, ne_eq, List.filter_eq_nil_iff]
  simp

theorem mem_lookup_ofPolicies (filled : ofPolicies policies = .ok registry) :
    source ∈ registry.lookup name operation ↔
      source ∈ policies ∧ source.entity = name ∧ source.covers operation := by
  rw [lookup, sources_ofPolicies filled, List.mem_filter, List.mem_filter, decide_eq_true_iff,
    and_assoc]

end Registry

end RowGuard
