import RowGuard.Named
import RowGuard.Schema.Entity
import RowGuard.Text.Quoted

/-!
# Schema graphs

The entities that policies are written about. Every relation of a graph leads to an entity of the
graph. Entities are found by their exact name or else by their name ignoring case.
-/

set_option autoImplicit false

namespace RowGuard

inductive SchemaError where
  | unknownEntity (name : String)
  /-- A relation leads out of the graph. -/
  | dangling (entity relation target : String)
  /-- A field is neither on the entity nor one relation away. -/
  | unreachable (entity field : String)
  | noColumn (model field : String)
  | noRelationship (model name : String)
  /-- Nothing more is known. -/
  | unresolved (entity field : String)
deriving Repr, DecidableEq

namespace SchemaError

/-- The entity where the lookup started. -/
def entity : SchemaError → String
  | .unknownEntity name => name
  | .dangling entity _ _ => entity
  | .unreachable entity _ => entity
  | .noColumn model _ => model
  | .noRelationship model _ => model
  | .unresolved entity _ => entity

def field : SchemaError → String
  | .unknownEntity name => name
  | .dangling _ relation _ => relation
  | .unreachable _ field => field
  | .noColumn _ field => field
  | .noRelationship _ name => name
  | .unresolved _ field => field

def message : SchemaError → String
  | .unknownEntity name => "Unknown entity " ++ Text.quoted name
  | .dangling entity relation target =>
    "Relation " ++ entity ++ "." ++ relation ++ " targets unknown entity " ++ Text.quoted target
  | .unreachable entity field => "Field '" ++ field ++ "' is not reachable from entity " ++ entity
  | .noColumn model field => model ++ " has no column attribute '" ++ field ++ "'"
  | .noRelationship model name => model ++ " has no relationship '" ++ name ++ "'"
  | .unresolved entity field => "Cannot resolve '" ++ field ++ "' from entity " ++ entity

end SchemaError

namespace Graph

/-- Looks for an entity by its exact name, then by its name ignoring case. Of several that differ in
case only, the last is found. -/
def find? (entities : List Entity) (name : String) : Option Entity :=
  (entities.find? fun entity => entity.name == name) <|>
  (entities.reverse.find? fun entity => Text.lower entity.name == Text.lower name)

/-- The first relation that leads to no entity. -/
def dangling? (entities : List Entity) : Option (Entity × Relation) :=
  (entities.flatMap fun entity => entity.relations.map fun relation => (entity, relation)).find?
    fun place => (find? entities place.2.target).isNone

theorem isSome_find?_of_dangling?_eq_none {entities : List Entity}
    (closed : dangling? entities = none) (entity : Entity) (known : entity ∈ entities)
    (relation : Relation)
    (owned : relation ∈ entity.relations) : (find? entities relation.target).isSome := by
  have bound := List.find?_eq_none.mp closed (entity, relation)
    (List.mem_flatMap.mpr ⟨entity, known, List.mem_map.mpr ⟨relation, owned, rfl⟩⟩)
  cases found : find? entities relation.target with
  | none => simp [found] at bound
  | some target => rfl

end Graph

/-- Entities whose relations lead to entities of the graph. -/
structure Graph where
  entities : List Entity
  closed : ∀ entity ∈ entities, ∀ relation ∈ entity.relations,
    (Graph.find? entities relation.target).isSome

namespace Graph

/-- The graph of some entities. A repeated name keeps its first place and has the last entity. -/
def ofEntities (entities : List Entity) : Except SchemaError Graph :=
  let entities := (Named.ofList (entities.map fun entity => (entity.name, entity))).values
  match closed : dangling? entities with
  | some (entity, relation) => .error (.dangling entity.name relation.name relation.target)
  | none => .ok ⟨entities, isSome_find?_of_dangling?_eq_none closed⟩

def empty : Graph :=
  ⟨[], fun _ known => absurd known List.not_mem_nil⟩

def get? (graph : Graph) (name : String) : Option Entity :=
  find? graph.entities name

def entity (graph : Graph) (name : String) : Except SchemaError Entity :=
  match graph.get? name with
  | some entity => .ok entity
  | none => .error (.unknownEntity name)

def target? (graph : Graph) (relation : Relation) : Option Entity :=
  graph.get? relation.target

/-- The names that an entity of principals may have. -/
def principalNames : List String :=
  ["user", "users"]

/-- The entity of the acting principal: the preferred one, or else the only one with a usual
name. -/
def principal (graph : Graph) (preferred : Option String) : Except SchemaError (Option Entity) :=
  match preferred with
  | some name => (graph.entity name).map some
  | none =>
    match graph.entities.filter fun entity => principalNames.contains (Text.lower entity.name) with
    | [entity] => .ok (some entity)
    | _ => .ok none

def names (graph : Graph) : List String :=
  graph.entities.map (·.name)

def summary (graph : Graph) : String :=
  let sorted := graph.names.mergeSort fun a b => decide (a ≤ b)
  "SchemaGraph([" ++ Text.joinWith ", " (sorted.map Text.quoted) ++ "])"

/-! ## Definitions -/

/-- A field as it is written down. -/
structure FieldDefinition where
  name : Option String
  kind : FieldKind := .scalar
  nullable : Bool := true
  references : Option String := none

structure RelationDefinition where
  name : Option String
  target : Option String
  cardinality : Cardinality := .one
  foreignKey : Option String := none
  joinFields : List String := []

structure Definition where
  name : String
  fields : List FieldDefinition := []
  relations : List RelationDefinition := []
  primaryKey : List String := ["id"]

inductive DefinitionError where
  | missing (part : String)
  | schema (error : SchemaError)
deriving Repr, DecidableEq

def required (part : String) : Option String → Except DefinitionError String
  | some value => .ok value
  | none => .error (.missing part)

def FieldDefinition.read (field : FieldDefinition) : Except DefinitionError Field := do
  return ⟨← required "name" field.name, field.kind, field.nullable, field.references⟩

def RelationDefinition.read (relation : RelationDefinition) : Except DefinitionError Relation := do
  return ⟨← required "name" relation.name, ← required "target" relation.target,
    relation.cardinality, relation.foreignKey, relation.joinFields⟩

def Definition.read (definition : Definition) : Except DefinitionError Entity := do
  return ⟨definition.name, ← definition.fields.mapM FieldDefinition.read,
    ← definition.relations.mapM RelationDefinition.read, definition.primaryKey⟩

/-- The graph of definitions. Of several definitions of one name the last counts, in the place of
the first. -/
def ofDefinitions (definitions : List Definition) : Except DefinitionError Graph := do
  let definitions :=
    (Named.ofList (definitions.map fun definition => (definition.name, definition))).values
  (ofEntities (← definitions.mapM Definition.read)).mapError .schema

end Graph

end RowGuard
