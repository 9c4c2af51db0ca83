import RowGuard.Schema.Graph
import RowGuard.Value.Basic

/-!
# Models

Classes mapped to tables. From a set of models comes the schema graph that policies are compiled
against; the same models say how a row filter reaches the columns of a database.
-/

set_option autoImplicit false

namespace RowGuard

structure ForeignKey where
  table : String
  column : String
deriving Repr, DecidableEq

/-- Reads `table.column`. -/
def ForeignKey.ofText (text : String) : ForeignKey :=
  match Text.dottedParts text with
  | [table, column] => ⟨table, column⟩
  | _ => ⟨text, ""⟩

inductive ColumnType where
  | integer
  | text
  | boolean
  /-- Numbers with a fraction, exact or not. -/
  | numeric
deriving Repr, DecidableEq

/-- The type of a name; a column without one stores integers. -/
def ColumnType.ofName : String → ColumnType
  | "str" => .text
  | "bool" => .boolean
  | "numeric" => .numeric
  | "float" => .numeric
  | _ => .integer

structure Column where
  /-- The name of the property that it is mapped to. -/
  property : String
  /-- Its name in the database. -/
  name : String
  type : ColumnType := .integer
  primaryKey : Bool := false
  nullable : Bool := true
  foreignKey : Option ForeignKey := none
deriving Repr, DecidableEq

/-- A table that no class is mapped to. -/
structure Table where
  name : String
  columns : List Column
deriving Repr, DecidableEq

/-- A property that leads to other instances. -/
structure Relationship where
  name : String
  /-- The name of the model it leads to. -/
  target : String
  /-- The table that holds the pairs, if there is one. -/
  secondary : Option String := none
  toMany : Option Bool := none
deriving Repr, DecidableEq

/-- A class mapped to a table. -/
structure Model where
  name : String
  table : String
  columns : List Column
  relationships : List Relationship := []
deriving Repr, DecidableEq

namespace Model

def column? (model : Model) (property : String) : Option Column :=
  model.columns.find? fun column => column.property == property

def relationship? (model : Model) (name : String) : Option Relationship :=
  model.relationships.find? fun relationship => relationship.name == name

end Model

/-- A column that refers to a table, and the column it refers to. -/
structure Link where
  column : Column
  referenced : String
deriving Repr, DecidableEq

/-- The first of some columns that refers to a table. -/
def Link.toTable? (columns : List Column) (table : String) : Option Link :=
  columns.findSome? fun column => do
    let key ← column.foreignKey
    if key.table == table then return ⟨column, key.column⟩ else none

structure Models where
  tables : List Table
  models : List Model
deriving Repr, DecidableEq

/-- Which side of a relationship holds the key. -/
inductive Direction where
  | manyToOne
  | oneToMany
  | manyToMany
deriving Repr, DecidableEq

namespace Models

def model? (models : Models) (name : String) : Option Model :=
  models.models.find? fun model => model.name == name

def tableColumns (models : Models) (table : String) : List Column :=
  ((models.tables.find? fun candidate => candidate.name == table).map (·.columns)).getD []

def direction (models : Models) (owner : Model) (relationship : Relationship) : Direction :=
  match relationship.secondary, models.model? relationship.target with
  | some _, _ => .manyToMany
  | none, some target =>
    if (Link.toTable? owner.columns target.table).isSome then .manyToOne else .oneToMany
  | none, none => .oneToMany

/-- Whether a relationship leads to a list of instances. -/
def isToMany (models : Models) (owner : Model) (relationship : Relationship) : Bool :=
  models.direction owner relationship != .manyToOne && relationship.toMany != some false

/-! ## The schema graph of models -/

/-- The model mapped to a table; of several, the last by name. -/
def ofTable? (models : Models) (table : String) : Option String :=
  let sorted := models.models.mergeSort fun a b => decide (a.name ≤ b.name)
  (sorted.reverse.find? fun model => model.table == table).map (·.name)

def columnField (models : Models) (column : Column) : Field :=
  { name := column.property
    nullable := column.nullable
    references := column.foreignKey.bind fun key => models.ofTable? key.table }

/-- The key of the table behind a relationship, what points back at the owner's table in front. -/
def joinFields (models : Models) (owner : Model) (relationship : Relationship) : List String :=
  match relationship.secondary with
  | none => []
  | some table =>
    let columns := models.tableColumns table
    let key := columns.filter (·.primaryKey)
    let key := if key.isEmpty then columns else key
    key.foldl (fun ordered column =>
      if (column.foreignKey.map (·.table)) == some owner.table then column.name :: ordered
      else ordered ++ [column.name]) []

/-- The local key of a relationship that has one. -/
def localKey? (models : Models) (owner : Model) (relationship : Relationship) : Option String := do
  if models.direction owner relationship == .manyToOne then
    let target ← models.model? relationship.target
    let link ← Link.toTable? owner.columns target.table
    return link.column.name
  else none

def relation (models : Models) (owner : Model) (relationship : Relationship) : Relation :=
  { name := relationship.name
    target := relationship.target
    cardinality := if models.isToMany owner relationship then .many else .one
    foreignKey := models.localKey? owner relationship
    joinFields := models.joinFields owner relationship }

def entity (models : Models) (model : Model) : Entity :=
  { name := model.name
    fields := model.columns.map models.columnField ++
      model.relationships.map fun relationship => { name := relationship.name, kind := .relation }
    relations := model.relationships.map (models.relation model)
    primaryKey := (model.columns.filter (·.primaryKey)).map (·.property) }

/-- The schema graph of models, its entities in the order of their names. -/
def graph (models : Models) : Except SchemaError Graph :=
  let sorted := models.models.mergeSort fun a b => decide (a.name ≤ b.name)
  Graph.ofEntities (sorted.map models.entity)

/-! ## Instances -/

/-- What a relationship holds that was never set. -/
def unset (models : Models) (owner : Model) (relationship : Relationship) : Value :=
  if models.isToMany owner relationship then .list [] else .null

/-- An instance of a model. A relationship that is not given is unloaded if the instance comes from
the database, and empty otherwise. -/
def instanceOf (models : Models) (model : Model) (id : Nat) (given : List (String × Value))
    (persisted : Bool) : Value :=
  let absent := model.relationships.filter fun relationship =>
    !given.any fun entry => entry.1 == relationship.name
  if persisted then .object id model.name given (some (absent.map (·.name)))
  else
    let empty := absent.map fun relationship =>
      (relationship.name, models.unset model relationship)
    .object id model.name (given ++ empty) (some [])

end Models

end RowGuard
