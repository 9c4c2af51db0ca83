import RowGuard.Text.LetterCase

/-!
# Entities

An entity has fields, relations to other entities and a primary key. An entity whose key is made of
the keys of others is a junction.
-/

set_option autoImplicit false

namespace RowGuard

inductive FieldKind where
  | scalar
  | relation
  /-- A kind without a meaning here. -/
  | other (name : String)
deriving Repr, DecidableEq

namespace FieldKind

def name : FieldKind → String
  | .scalar => "scalar"
  | .relation => "relation"
  | .other name => name

def ofName : String → FieldKind
  | "scalar" => .scalar
  | "relation" => .relation
  | name => .other name

end FieldKind

/-- How many rows a relation leads to. -/
inductive Cardinality where
  | one
  | many
  | other (name : String)
deriving Repr, DecidableEq

namespace Cardinality

def name : Cardinality → String
  | .one => "one"
  | .many => "many"
  | .other name => name

def ofName : String → Cardinality
  | "one" => .one
  | "many" => .many
  | name => .other name

end Cardinality

structure Field where
  name : String
  kind : FieldKind := .scalar
  nullable : Bool := true
  /-- The entity that the field is a key of. -/
  references : Option String := none
deriving Repr, DecidableEq

/-- Whether a field is a foreign key; an empty reference is none. -/
def Field.isForeignKey (field : Field) : Bool :=
  match field.references with
  | none => false
  | some entity => entity != ""

/-- Whether a field is a key of the named entity, ignoring case. -/
def Field.pointsAt (field : Field) (entity : String) : Bool :=
  match field.references with
  | none => false
  | some referenced => referenced != "" && Text.lower referenced == Text.lower entity

structure Relation where
  name : String
  target : String
  cardinality : Cardinality := .one
  /-- The foreign key on the side of the relation's owner. -/
  foreignKey : Option String := none
  /-- The key of the junction that the relation leads to or through. -/
  joinFields : List String := []
deriving Repr, DecidableEq

/-- Something that rows are stored of. -/
structure Entity where
  name : String
  fields : List Field := []
  relations : List Relation := []
  primaryKey : List String := ["id"]
deriving Repr, DecidableEq

namespace Entity

def field? (entity : Entity) (name : String) : Option Field :=
  entity.fields.find? fun field => field.name == name

/-- Whether the first field of a name is a column. -/
def hasScalar (entity : Entity) (name : String) : Bool :=
  match entity.field? name with
  | none => false
  | some field => field.kind == .scalar

def relation? (entity : Entity) (name : String) : Option Relation :=
  entity.relations.find? fun relation => relation.name == name

/-- Whether a column of the primary key is, by its reference or its name, a foreign key. -/
def isKeyMember (entity : Entity) (name : String) : Bool :=
  ((entity.field? name).map Field.isForeignKey).getD false ||
    "_id".toList.isSuffixOf name.toList

def keyMembers (entity : Entity) : List String :=
  entity.primaryKey.filter entity.isKeyMember

/-- Whether the primary key spans two or more foreign keys. -/
def isJunction (entity : Entity) : Bool :=
  2 ≤ entity.primaryKey.length && 2 ≤ entity.keyMembers.length

/-- The column by which others conventionally refer to an entity. -/
def foreignKeyName (entity : String) : String :=
  Text.lower entity ++ "_id"

end Entity

end RowGuard
