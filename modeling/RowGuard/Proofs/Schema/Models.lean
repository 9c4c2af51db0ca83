import Mathlib.Data.List.Nodup
import RowGuard.Proofs.Named
import RowGuard.Proofs.Policy.Permission
import RowGuard.Proofs.Predicate.Layout
import RowGuard.Schema.Model

/-! The schema graph of models leads back to them. A name that is found in the
graph, on an entity, one relation away or in the key of a junction, is a column
of the model that the path of relationships leads to. -/

set_option autoImplicit false

namespace RowGuard

/-! ## Tables of entities -/

theorem find?_of_nodup {α : Type} {key : α → String} {items : List α} {item : α}
    (distinct : (items.map key).Nodup) (member : item ∈ items) :
    items.find? (fun other => key other == key item) = some item := by
  cases found : items.find? (fun other => key other == key item) with
  | none => exact absurd (beq_self_eq_true _) (List.find?_eq_none.mp found item member)
  | some other =>
      have same : key other = key item := by simpa using List.find?_some found
      rw [List.inj_on_of_nodup_map distinct (List.mem_of_find?_eq_some found) member same]

theorem Graph.entities_ofEntities {declared : List Entity} {graph : Graph}
    (distinct : (declared.map (·.name)).Nodup) (made : Graph.ofEntities declared = .ok graph) :
    graph.entities = declared := by
  have kept :
      (Named.ofList (declared.map fun entity => (entity.name, entity))).values = declared := by
    have listed : (Named.ofList (declared.map fun entity => (entity.name, entity))).entries =
        declared.map fun entity => (entity.name, entity) :=
      Named.entries_putAll_of_nodup (by rwa [List.nil_append, List.map_map])
    rw [Named.values, listed, List.map_map]
    exact List.map_id' _
  unfold ofEntities at made
  dsimp only at made
  split at made
  · cases made
  · cases made
    exact kept

/-! ## Models -/

/-- Models as classes declare them: no two have one name, columns are properties with names, and a
relationship has a name of its own on its class and leads to one of the models. A relationship
through a table leads to a model with a key of one column. -/
structure Models.Declarative (models : Models) : Prop where
  distinct : (models.models.map (·.name)).Nodup
  columns : ∀ model ∈ models.models, ∀ column ∈ model.columns, column.property ≠ ""
  relationships : ∀ model ∈ models.models, (model.relationships.map (·.name)).Nodup
  closed : ∀ model ∈ models.models, ∀ relationship ∈ model.relationships,
    (models.model? relationship.target).isSome
  keyed : ∀ model ∈ models.models, ∀ relationship ∈ model.relationships,
    relationship.secondary.isSome → ∀ target, models.model? relationship.target = some target →
      (target.columns.filter (·.primaryKey)).length = 1

/-- The columns of models, and where their relationships lead. -/
def Models.layout (models : Models) : Layout Model where
  column model field := (model.column? field).isSome
  step model name next := ∃ relationship, model.relationship? name = some relationship ∧
    models.model? relationship.target = some next

theorem Model.isSome_column? {model : Model} {column : Column} (member : column ∈ model.columns) :
    (model.column? column.property).isSome := by
  rw [column?, List.find?_isSome]
  exact ⟨column, member, beq_self_eq_true _⟩

namespace Models

variable {models : Models} {graph : Graph} {model : Model}

theorem mem_of_model? {name : String} (found : models.model? name = some model) :
    model ∈ models.models ∧ model.name = name :=
  ⟨List.mem_of_find?_eq_some found, by simpa using List.find?_some found⟩

/-- The columns of an entity are those of its model; relationships come behind them. -/
theorem hasScalar_entity (models : Models) (model : Model) (field : String) :
    (models.entity model).hasScalar field = (model.column? field).isSome := by
  have columns : (model.columns.map models.columnField).find? (fun entry => entry.name == field) =
      (model.column? field).map models.columnField := by
    rw [List.find?_map]
    rfl
  rw [Entity.hasScalar, Entity.field?, entity, List.find?_append, columns]
  cases model.column? field with
  | some column => rfl
  | none =>
      rw [List.find?_map]
      cases model.relationships.find? _ with
      | none => rfl
      | some relationship => rfl

namespace Declarative

variable (declared : models.Declarative) (made : models.graph = .ok graph)

include declared made

theorem entities_graph :
    graph.entities =
      (models.models.mergeSort fun a b => decide (a.name ≤ b.name)).map models.entity := by
  refine Graph.entities_ofEntities ?_ made
  rw [List.map_map]
  have sorted := List.mergeSort_perm models.models fun a b => decide (a.name ≤ b.name)
  exact (sorted.map (·.name)).nodup_iff.mpr declared.distinct

theorem get?_name (member : model ∈ models.models) :
    graph.get? model.name = some (models.entity model) := by
  have sorted := List.mergeSort_perm models.models fun a b => decide (a.name ≤ b.name)
  have known : models.entity model ∈ graph.entities := by
    rw [declared.entities_graph made]
    exact List.mem_map_of_mem (sorted.mem_iff.mpr member)
  have distinct : (graph.entities.map (·.name)).Nodup := by
    rw [declared.entities_graph made, List.map_map]
    exact (sorted.map (·.name)).nodup_iff.mpr declared.distinct
  have found : graph.entities.find? (fun entity => entity.name == model.name) =
      some (models.entity model) :=
    find?_of_nodup distinct known
  rw [Graph.get?, Graph.find?, found]
  rfl

theorem step_of_target? (member : model ∈ models.models) {relationship : Relationship}
    (own : relationship ∈ model.relationships) {target : Entity}
    (found : graph.target? (models.relation model relationship) = some target) :
    ∃ next ∈ models.models, models.model? relationship.target = some next ∧
      target = models.entity next ∧ models.layout.step model relationship.name next := by
  have closed := declared.closed model member relationship own
  obtain ⟨next, leads⟩ := Option.isSome_iff_exists.mp closed
  obtain ⟨among, name⟩ := mem_of_model? leads
  have same : graph.get? relationship.target = some (models.entity next) := by
    rw [← name]
    exact declared.get?_name made among
  refine ⟨next, among, leads, ?_, relationship, ?_, leads⟩
  · exact Option.some.inj (found.symm.trans same)
  · exact find?_of_nodup (declared.relationships model member) own

end Declarative

/-! ## Locations -/

end Models

/-- Where a location is along a layout: a column there, or one at the other end of a relation. -/
def Location.Along {α : Type} (layout : Layout α) (place : α) : Location → Prop
  | .direct field => layout.column place field
  | .related relation _ field _ =>
    ∃ next, layout.step place relation next ∧ layout.column next field
  | .junction member =>
    ∃ next, layout.step place member.relation next ∧ layout.column next member.relatedField
  | .notFound _ _ => True

theorem Predicate.Side.fits_of_along {α : Type} {layout : Layout α} {place : α}
    {location : Location} {side : Side} (along : location.Along layout place)
    (found : Side.ofLocation? location = some side) : side.Fits layout place := by
  unfold Side.ofLocation? at found
  split at found
  · cases found
    exact Layout.holds_record.mpr (.column along)
  · cases found
    obtain ⟨next, leads, column⟩ := along
    exact Layout.holds_record.mpr (.step leads (.column column))
  · cases found
    obtain ⟨next, leads, column⟩ := along
    exact ⟨next, leads, Layout.holds_record.mpr (.column column)⟩
  · cases found
    obtain ⟨next, leads, column⟩ := along
    exact ⟨next, leads, Layout.holds_record.mpr (.column column)⟩
  · cases found

namespace Models

variable {models : Models} {graph : Graph} {model next : Model} {relationship : Relationship}
  {field : String} {location : Location}

theorem isSome_column?_of_primaryKey (member : field ∈ (models.entity model).primaryKey) :
    (model.column? field).isSome := by
  obtain ⟨column, among, rfl⟩ := List.mem_map.mp member
  exact Model.isSome_column? (List.mem_filter.mp among).1

theorem along_viaRelation (leads : models.layout.step model relationship.name next)
    (found : Location.viaRelation? (models.relation model relationship) (models.entity next) field =
      some location) : location.Along models.layout model := by
  unfold Location.viaRelation? at found
  split at found
  · next scalar =>
      cases found
      rw [hasScalar_entity] at scalar
      exact ⟨next, leads, scalar⟩
  · cases found

/-- A member of a junction's key that is no column of the target is one of a table between. -/
theorem isSome_secondary {key : List String}
    (keyed : Location.junctionKey? (models.relation model relationship) (models.entity next) =
      some key) (contains : field ∈ key) (missing : (next.column? field).isSome = false) :
    relationship.secondary.isSome := by
  unfold Location.junctionKey? at keyed
  split at keyed
  · cases keyed
  · split at keyed
    · next joined =>
        cases between : relationship.secondary with
        | none => simp [relation, joinFields, between] at joined
        | some table => rfl
    · split at keyed
      · cases keyed
        rw [isSome_column?_of_primaryKey contains] at missing
        cases missing
      · cases keyed

/-- The field that a member of a junction's key is read from is a column: the member itself, or else
the key of the target, which is a single column if the junction is no model. -/
theorem column_memberField (declared : models.Declarative) (member : model ∈ models.models)
    (own : relationship ∈ model.relationships) (among : next ∈ models.models)
    (leads : models.model? relationship.target = some next) {key : List String}
    (keyed : Location.junctionKey? (models.relation model relationship) (models.entity next) =
      some key) (contains : field ∈ key) {relation target : String} {joinFields : List String} :
    (next.column? (JunctionMember.relatedField ⟨relation, joinFields, field, target,
      Location.memberField (models.entity next) field⟩)).isSome := by
  rw [Location.memberField, hasScalar_entity]
  cases scalar : (next.column? field).isSome with
  | true => simpa [JunctionMember.relatedField] using scalar
  | false =>
      have through := isSome_secondary keyed contains scalar
      have single := declared.keyed model member relationship own through next leads
      obtain ⟨column, only⟩ := List.length_eq_one_iff.mp single
      have inKey : column ∈ next.columns.filter (·.primaryKey) := by simp [only]
      have named := declared.columns next among column (List.mem_filter.mp inKey).1
      have primary : (models.entity next).primaryKey = [column.property] := by
        simp [entity, only]
      simpa [primary, JunctionMember.relatedField, named] using
        Model.isSome_column? (List.mem_filter.mp inKey).1

theorem along_viaJunction (declared : models.Declarative) (member : model ∈ models.models)
    (own : relationship ∈ model.relationships) (among : next ∈ models.models)
    (leads : models.model? relationship.target = some next)
    (step : models.layout.step model relationship.name next) {source : Entity}
    (found : Location.viaJunction? source (models.relation model relationship) (models.entity next)
      field = some location) : location.Along models.layout model := by
  obtain ⟨key, keyed, located⟩ := Option.bind_eq_some_iff.mp found
  split at located
  · next contains =>
      cases located
      have inKey : field ∈ key := by simpa using contains
      exact ⟨next, step, column_memberField declared member own among leads keyed inKey⟩
  · cases located

theorem along_getD {found : Option Location} {entity name : String}
    (along : ∀ location, found = some location → location.Along models.layout model) :
    (found.getD (.notFound entity name)).Along models.layout model := by
  cases found with
  | none => trivial
  | some location => exact along location rfl

section Along

variable (declared : models.Declarative) (made : models.graph = .ok graph)
  (member : model ∈ models.models)

include declared made member

theorem along_alongRelations {look : Relation → Entity → Option Location}
    (looked : ∀ relationship ∈ model.relationships, ∀ next ∈ models.models,
      models.model? relationship.target = some next →
      models.layout.step model relationship.name next →
      look (models.relation model relationship) (models.entity next) = some location →
      location.Along models.layout model)
    (found : Location.alongRelations graph (models.entity model) look = some location) :
    location.Along models.layout model := by
  obtain ⟨relation, listed, located⟩ := List.exists_of_findSome?_eq_some found
  obtain ⟨relationship, own, rfl⟩ := List.mem_map.mp listed
  obtain ⟨target, targeted, located⟩ := Option.bind_eq_some_iff.mp located
  obtain ⟨next, among, leads, rfl, step⟩ := declared.step_of_target? made member own targeted
  exact looked relationship own next among leads step located

theorem along_ofField (field : String) :
    (Location.ofField graph (models.entity model) field).Along models.layout model := by
  unfold Location.ofField
  split
  · next scalar =>
      rw [hasScalar_entity] at scalar
      exact scalar
  · apply along_getD
    intro location found
    rw [Option.orElse_eq_orElse, Option.orElse_eq_or, Option.or_eq_some_iff] at found
    rcases found with found | ⟨_, found⟩
    · refine along_alongRelations declared made member ?_ found
      intro relationship own next among leads step looked
      exact along_viaJunction declared member own among leads step looked
    · refine along_alongRelations declared made member ?_ found
      intro relationship own next among leads step looked
      exact along_viaRelation step looked

theorem along_ofQualified (qualifier field : String) :
    (Location.ofQualified graph (models.entity model) qualifier field).Along models.layout
      model := by
  apply along_getD
  intro location found
  refine along_alongRelations declared made member ?_ found
  intro relationship own next among leads step looked
  split at looked
  · rw [Option.orElse_eq_orElse, Option.orElse_eq_or, Option.or_eq_some_iff] at looked
    rcases looked with looked | ⟨_, looked⟩
    · exact along_viaJunction declared member own among leads step looked
    · exact along_viaRelation step looked
  · cases looked

theorem along_ofName (field : String) (qualifier : Option String) :
    (Location.ofName graph (models.entity model) field qualifier).Along models.layout model := by
  cases qualifier with
  | none => exact along_ofField declared made member field
  | some qualifier =>
      rw [Location.ofName]
      split
      · exact along_ofField declared made member field
      · exact along_ofQualified declared made member qualifier field

/-- The names of a policy on a model are columns along the relationships of the models. -/
theorem Declarative.laidOut {mapping : ProviderMap} {operation : Operation} {config : Config}
    {scope : Scope}
    (within : Scope.make mapping graph model.name operation config = .ok scope) :
    scope.LaidOut models.layout model := by
  obtain ⟨resolved, _, rfl⟩ := Scope.make_eq_ok within
  rw [declared.get?_name made member] at resolved
  intro name qualifier side found
  rw [← Option.some.inj resolved] at found
  exact Predicate.Side.fits_of_along (along_ofName declared made member name qualifier) found

end Along

end Models

end RowGuard
