import RowGuard.Proofs.Policy.Build

/-! What the policies of an entity permit. An operation on a record is permitted
if a permissive policy grants it by itself and so does every restrictive one,
provided that all of them are read and compiled together. -/

set_option autoImplicit false

namespace RowGuard

/-! ## Entities by name -/

section Entities

variable {graph : Graph} {entity found : Entity} {name : String}

theorem Graph.mem_of_get? (resolved : graph.get? name = some entity) :
    entity ∈ graph.entities := by
  rw [get?, find?, Option.orElse_eq_orElse, Option.orElse_eq_or, Option.or_eq_some_iff] at resolved
  obtain exact | ⟨_, spelled⟩ := resolved
  · exact List.mem_of_find?_eq_some exact
  · exact List.mem_reverse.mp (List.mem_of_find?_eq_some spelled)

theorem Graph.name_of_get? (known : entity ∈ graph.entities)
    (resolved : graph.get? entity.name = some found) : found.name = entity.name := by
  rw [get?, find?, Option.orElse_eq_orElse, Option.orElse_eq_or, Option.or_eq_some_iff] at resolved
  obtain exact | ⟨none, _⟩ := resolved
  · have same := List.find?_some exact
    exact eq_of_beq same
  · exact absurd (beq_self_eq_true entity.name) (List.find?_eq_none.mp none entity known)

theorem Scope.make_eq_ok {mapping : ProviderMap} {operation : Operation} {config : Config}
    {scope : Scope} (made : make mapping graph name operation config = .ok scope) :
    graph.get? name = some scope.entity ∧ scope.operation = operation ∧ scope.graph = graph := by
  obtain ⟨entity, resolved, rest⟩ := except_bind_eq_ok made
  have found : graph.get? name = some entity := by
    rw [Graph.entity] at resolved
    cases found : graph.get? name with
    | none => rw [found] at resolved; cases resolved
    | some other => rw [found] at resolved; cases resolved; rfl
  dsimp only at rest
  split at rest
  · obtain ⟨preferred, _, rest⟩ := except_bind_eq_ok rest
    obtain ⟨principal, _, rest⟩ := except_bind_eq_ok rest
    cases rest
    exact ⟨found, rfl, rfl⟩
  · obtain ⟨preferred, _, rest⟩ := except_bind_eq_ok rest
    obtain ⟨principal, _, rest⟩ := except_bind_eq_ok rest
    cases rest
    exact ⟨found, rfl, rfl⟩
  · cases rest

theorem Scope.make_of_mem {mapping : ProviderMap} {operation : Operation} {config : Config}
    {scope : Scope} (known : entity ∈ graph.entities)
    (made : make mapping graph entity.name operation config = .ok scope) :
    scope.entity.name = entity.name ∧ scope.operation = operation :=
  ⟨Graph.name_of_get? known (make_eq_ok made).1, (make_eq_ok made).2.1⟩

end Entities

/-! ## Policies by themselves -/

/-- Whether a policy grants access by itself: its text is read and compiled alone. -/
def Policy.Grants (scope : Scope) (mode : UnloadedMode) (actor record : Value)
    (source : Policy) : Prop :=
  ∃ e check, Expr.parse (source.textFor scope.operation) scope.entity.name = .ok e ∧
    (scope.recordCheck e).result = .ok check ∧
    (check.condition.grants mode record actor).result = .ok true

def Policy.Compiles (scope : Scope) (source : Policy) : Prop :=
  ∃ e, Expr.parse (source.textFor scope.operation) scope.entity.name = .ok e ∧ e.Compiles scope

section Policies

variable {scope : Scope} {mode : UnloadedMode} {actor record : Value} {source : Policy} {e : Expr}
  {sources : List Policy} {parsed : List Build.Parsed} {p : Predicate}

theorem Policy.grants_iff
    (parse : Expr.parse (source.textFor scope.operation) scope.entity.name = .ok e) :
    source.Grants scope mode actor record ↔ e.Grants scope mode actor record := by
  constructor
  · rintro ⟨other, check, again, checked, granted⟩
    cases parse.symm.trans again
    exact ⟨_, Scope.compile_of_recordCheck checked, granted⟩
  · rintro ⟨p, compiled, granted⟩
    exact ⟨e, _, parse, Scope.result_recordCheck (Traced.eq_ok_of_result compiled), granted⟩

theorem Policy.compiles_iff
    (parse : Expr.parse (source.textFor scope.operation) scope.entity.name = .ok e) :
    source.Compiles scope ↔ e.Compiles scope := by
  constructor
  · rintro ⟨other, again, compiles⟩
    cases parse.symm.trans again
    exact compiles
  · exact fun compiles => ⟨e, parse, compiles⟩

end Policies

/-! ## Policies together -/

section Together

variable {scope : Scope} {mode : UnloadedMode} {actor record : Value} {sources : List Policy}
  {parsed : List Build.Parsed} {p : Predicate}

namespace Build

theorem Reads.mem_iff (reads : Reads scope.entity.name scope.operation sources parsed)
    (chosen : Policy → Bool) {e : Expr} :
    e ∈ (parsed.filter (chosen ·.1)).map (·.2) ↔ ∃ source ∈ sources, chosen source ∧
      Expr.parse (source.textFor scope.operation) scope.entity.name = .ok e := by
  rw [← reads.sources]
  constructor
  · intro member
    obtain ⟨entry, among, rfl⟩ := List.mem_map.mp member
    obtain ⟨among, mine⟩ := List.mem_filter.mp among
    exact ⟨entry.1, List.mem_map_of_mem among, mine, reads.parse entry among⟩
  · rintro ⟨source, member, mine, parse⟩
    obtain ⟨entry, among, rfl⟩ := List.mem_map.mp member
    obtain rfl : entry.2 = e := Except.ok.inj ((reads.parse entry among).symm.trans parse)
    exact List.mem_map_of_mem (List.mem_filter.mpr ⟨among, mine⟩)

theorem Reads.exists_parse (reads : Reads scope.entity.name scope.operation sources parsed)
    {source : Policy} (member : source ∈ sources) :
    ∃ e, Expr.parse (source.textFor scope.operation) scope.entity.name = .ok e := by
  rw [← reads.sources] at member
  obtain ⟨entry, among, rfl⟩ := List.mem_map.mp member
  exact ⟨entry.2, reads.parse entry among⟩

theorem Reads.known (reads : Reads scope.entity.name scope.operation sources parsed)
    (chosen : Policy → Bool) : ∀ e ∈ (parsed.filter (chosen ·.1)).map (·.2), e.Known := by
  intro e member
  obtain ⟨source, _, _, parse⟩ := (reads.mem_iff chosen).mp member
  exact Expr.grammar_known.ofParse parse

/-- What the policies grant by themselves is what their expressions do. -/
theorem Reads.grants_iff (reads : Reads scope.entity.name scope.operation sources parsed) :
    (∃ source ∈ sources, source.permissive ∧ source.Grants scope mode actor record) ∧
        (∀ source ∈ sources, source.permissive = false →
          source.Grants scope mode actor record) ↔
      (∃ e ∈ (parsed.filter (·.1.permissive)).map (·.2), e.Grants scope mode actor record) ∧
        ∀ e ∈ (parsed.filter (!·.1.permissive)).map (·.2), e.Grants scope mode actor record := by
  refine and_congr ⟨?_, ?_⟩ ⟨?_, ?_⟩
  · rintro ⟨source, among, mine, grants⟩
    obtain ⟨e, parse⟩ := reads.exists_parse among
    exact ⟨e, (reads.mem_iff (·.permissive)).mpr ⟨source, among, mine, parse⟩,
      (Policy.grants_iff parse).mp grants⟩
  · rintro ⟨e, member, grants⟩
    obtain ⟨source, among, mine, parse⟩ := (reads.mem_iff (·.permissive)).mp member
    exact ⟨source, among, mine, (Policy.grants_iff parse).mpr grants⟩
  · intro each e member
    obtain ⟨source, among, mine, parse⟩ := (reads.mem_iff (!·.permissive)).mp member
    exact (Policy.grants_iff parse).mp (each source among (Bool.not_eq_true' _ |>.mp mine))
  · intro each source among restrictive
    obtain ⟨e, parse⟩ := reads.exists_parse among
    have member := (reads.mem_iff (!·.permissive)).mpr
      ⟨source, among, by rw [restrictive]; rfl, parse⟩
    exact (Policy.grants_iff parse).mpr (each e member)

/-- The policies together hold if some permissive one grants access by itself and every restrictive
one does. -/
theorem Reads.holds_of_grants (reads : Reads scope.entity.name scope.operation sources parsed)
    (compiled : (Predicate.compile scope (combined parsed)).result = .ok p) (loaded : mode ≠ .fail)
    (grants : (∃ source ∈ sources, source.permissive ∧ source.Grants scope mode actor record) ∧
      ∀ source ∈ sources, source.permissive = false → source.Grants scope mode actor record) :
    (p.truth actor record).holds := by
  have permits := reads.known (·.permissive)
  have restricts := reads.known (!·.permissive)
  obtain ⟨⟨e, member, granted⟩, each⟩ := reads.grants_iff.mp grants
  refine (Expr.holds_combine_iff permits restricts compiled).mpr ⟨⟨e, member, ?_⟩, ?_⟩
  · exact granted.holds (permits e member) loaded
  · exact fun other among => (each other among).holds (restricts other among) loaded

/-- The policies together are evaluated to true only if some permissive one is by itself and every
restrictive one. -/
theorem Reads.grants_of_result (reads : Reads scope.entity.name scope.operation sources parsed)
    (compiled : (Predicate.compile scope (combined parsed)).result = .ok p)
    (granted : (p.grants mode record actor).result = .ok true) :
    (∃ source ∈ sources, source.permissive ∧ source.Grants scope mode actor record) ∧
      ∀ source ∈ sources, source.permissive = false → source.Grants scope mode actor record :=
  reads.grants_iff.mpr (Expr.grants_of_combine (reads.known (·.permissive))
    (reads.known (!·.permissive)) ⟨p, compiled, granted⟩)

/-- With a permissive one among them, the policies compile together if each does by itself. -/
theorem Reads.compiles_iff (reads : Reads scope.entity.name scope.operation sources parsed)
    (permits : ∃ source ∈ sources, source.permissive) :
    (combined parsed).Compiles scope ↔ ∀ source ∈ sources, source.Compiles scope := by
  obtain ⟨source, among, mine⟩ := permits
  obtain ⟨e, parse⟩ := reads.exists_parse among
  have some := List.ne_nil_of_mem
    ((reads.mem_iff (·.permissive)).mpr ⟨source, among, mine, parse⟩)
  rw [combined, Expr.compiles_combine_iff some]
  constructor
  · rintro ⟨permissive, restrictive⟩ source among
    obtain ⟨e, parse⟩ := reads.exists_parse among
    rw [Policy.compiles_iff parse]
    cases mine : source.permissive with
    | true => exact permissive e ((reads.mem_iff (·.permissive)).mpr ⟨source, among, mine, parse⟩)
    | false =>
        exact restrictive e ((reads.mem_iff (!·.permissive)).mpr
          ⟨source, among, by rw [mine]; rfl, parse⟩)
  · intro each
    refine ⟨fun e member => ?_, fun e member => ?_⟩
    · obtain ⟨source, among, _, parse⟩ := (reads.mem_iff (·.permissive)).mp member
      exact (Policy.compiles_iff parse).mp (each source among)
    · obtain ⟨source, among, _, parse⟩ := (reads.mem_iff (!·.permissive)).mp member
      exact (Policy.compiles_iff parse).mp (each source among)

theorem exists_reads {entity : String} {operation : Operation}
    (each : ∀ source ∈ sources, ∃ e, Expr.parse (source.textFor operation) entity = .ok e) :
    ∃ parsed, Reads entity operation sources parsed := by
  induction sources with
  | nil => exact ⟨[], rfl, by simp⟩
  | cons source sources ih =>
      rw [List.forall_mem_cons] at each
      obtain ⟨e, parse⟩ := each.1
      obtain ⟨rest, reads⟩ := ih each.2
      exact ⟨(source, e) :: rest, congrArg (source :: ·) reads.sources,
        List.forall_mem_cons.mpr ⟨parse, reads.parse⟩⟩

end Build

end Together

section Permits

variable (registry : Registry) (mapping : ProviderMap) (graph : Graph) (config : Config)
  (entity : Entity) (operation : Operation) (mode : UnloadedMode) (actor record : Value)

/-- Whether the policies registered for an entity permit an operation on a record. Some policy
covers the operation, the texts of all that do are read, what they say together compiles, one of
the permissive policies grants access by itself, and so does every restrictive one. -/
def Registry.Permits : Prop :=
  ∃ registered parsed scope check, graph.get? registered = some entity ∧
    registry.lookup registered operation ≠ [] ∧
    Build.Reads entity.name operation (registry.lookup registered operation) parsed ∧
    Scope.make mapping graph entity.name operation config = .ok scope ∧
    (scope.recordCheck (Build.combined parsed)).result = .ok check ∧
    (∃ source ∈ registry.lookup registered operation,
      source.permissive ∧ source.Grants scope mode actor record) ∧
    ∀ source ∈ registry.lookup registered operation,
      source.permissive = false → source.Grants scope mode actor record

variable {registry mapping graph config entity operation mode actor record}

/-- The same without regard to the order of the policies. -/
theorem Registry.permits_iff :
    registry.Permits mapping graph config entity operation mode actor record ↔
      ∃ registered scope, graph.get? registered = some entity ∧
        Scope.make mapping graph entity.name operation config = .ok scope ∧
        (∀ source ∈ registry.lookup registered operation, source.Compiles scope) ∧
        (∃ source ∈ registry.lookup registered operation,
          source.permissive ∧ source.Grants scope mode actor record) ∧
        ∀ source ∈ registry.lookup registered operation,
          source.permissive = false → source.Grants scope mode actor record := by
  constructor
  · rintro ⟨registered, parsed, scope, check, resolved, _, reads, made, checked, grants, restricts⟩
    obtain ⟨name, rfl⟩ := Scope.make_of_mem (Graph.mem_of_get? resolved) made
    rw [← name] at reads
    have permits := grants.imp fun _ => And.imp_right And.left
    refine ⟨registered, scope, resolved, made, ?_, grants, restricts⟩
    exact (reads.compiles_iff permits).mp ⟨_, Scope.compile_of_recordCheck checked⟩
  · rintro ⟨registered, scope, resolved, made, compile, grants, restricts⟩
    obtain ⟨name, rfl⟩ := Scope.make_of_mem (Graph.mem_of_get? resolved) made
    have permits := grants.imp fun _ => And.imp_right And.left
    obtain ⟨parsed, reads⟩ := Build.exists_reads fun source member =>
      (compile source member).imp fun _ compiled => compiled.1
    obtain ⟨p, compiled⟩ := (reads.compiles_iff permits).mpr compile
    have checked := Scope.result_recordCheck (Traced.eq_ok_of_result compiled)
    rw [name] at reads
    have covered : registry.lookup registered scope.operation ≠ [] := by
      obtain ⟨source, among, _⟩ := permits
      exact List.ne_nil_of_mem among
    exact ⟨registered, parsed, scope, _, resolved, covered, reads, made, checked, grants, restricts⟩

end Permits

end RowGuard
