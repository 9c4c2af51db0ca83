import RowGuard.Schema.Graph

/-!
# Where a field is

A name in a policy is a column of the entity itself, a member of the key of a junction that a
to-many relation leads to, or a column one relation away, in this order.
-/

set_option autoImplicit false

namespace RowGuard

/-- A member of the key of a junction. -/
structure JunctionMember where
  relation : String
  /-- The junction's key, the part that points back at the entity first. -/
  joinFields : List String
  field : String
  target : String
  /-- The field of the related rows that holds the value. -/
  targetField : String
deriving Repr, DecidableEq

namespace JunctionMember

/-- The field to read on related rows. -/
def relatedField (member : JunctionMember) : String :=
  if member.targetField == "" then member.field else member.targetField

/-- The name of the junction's key as a whole. -/
def compositeKey (member : JunctionMember) : String :=
  Text.joinWith "_" member.joinFields

end JunctionMember

/-- Where a field is found, seen from an entity. -/
inductive Location where
  /-- A column of the entity. -/
  | direct (field : String)
  /-- A column of the entity at the other end of a relation. -/
  | related (relation : String) (cardinality : Cardinality) (field target : String)
  | junction (member : JunctionMember)
  | notFound (entity field : String)
deriving Repr, DecidableEq

namespace Location

/-- Puts the key member that points back at the entity in front: the one that references it, or else
the one that is named after it. -/
def ownKeyFirst (fields : List String) (entity junction : Entity) : List String :=
  let pointsBack (name : String) : Bool :=
    ((junction.field? name).map (·.pointsAt entity.name)).getD false
  let named := Entity.foreignKeyName entity.name
  match fields.find? pointsBack with
  | some own => own :: fields.filter (· != own)
  | none => if fields.contains named then named :: fields.filter (· != named) else fields

/-- The key by which a to-many relation leads to a junction. -/
def junctionKey? (relation : Relation) (target : Entity) : Option (List String) :=
  if relation.cardinality != .many then none
  else if !relation.joinFields.isEmpty then some relation.joinFields
  else if target.isJunction then some target.primaryKey
  else none

/-- The field of the related rows that a key member is read from. If the junction is not an entity
of its own, the member refers to the key of the target. -/
def memberField (target : Entity) (field : String) : String :=
  if target.hasScalar field then field
  else match target.primaryKey with
    | [key] => key
    | _ => field

def viaJunction? (source : Entity) (relation : Relation) (target : Entity) (field : String) :
    Option Location := do
  let key ← junctionKey? relation target
  if key.contains field then
    return .junction ⟨relation.name, ownKeyFirst key source target, field, target.name,
      memberField target field⟩
  else none

def viaRelation? (relation : Relation) (target : Entity) (field : String) : Option Location :=
  if target.hasScalar field then
    some (.related relation.name relation.cardinality field target.name)
  else none

/-- The first answer along the relations of an entity. -/
def alongRelations (graph : Graph) (source : Entity)
    (look : Relation → Entity → Option Location) : Option Location :=
  source.relations.findSome? fun relation => (graph.target? relation).bind (look relation)

/-- Looks for an unqualified field. -/
def ofField (graph : Graph) (source : Entity) (field : String) : Location :=
  if source.hasScalar field then .direct field
  else
    (alongRelations graph source fun relation target =>
        viaJunction? source relation target field) <|>
      (alongRelations graph source fun relation target => viaRelation? relation target field)
      |>.getD (.notFound source.name field)

/-- Looks for a field along the relations that are named like the qualifier, or lead to an entity of
that name, ignoring case. -/
def ofQualified (graph : Graph) (source : Entity) (qualifier field : String) : Location :=
  let wanted := Text.lower qualifier
  (alongRelations graph source fun relation target =>
    if wanted == Text.lower target.name || wanted == Text.lower relation.name then
      viaJunction? source relation target field <|> viaRelation? relation target field
    else none).getD (.notFound source.name (qualifier ++ "." ++ field))

/-- Looks for a field from an entity; the entity's own name as a qualifier changes nothing. -/
def ofName (graph : Graph) (source : Entity) (field : String) (qualifier : Option String) :
    Location :=
  match qualifier with
  | none => ofField graph source field
  | some qualifier =>
    if Text.lower qualifier == Text.lower source.name then ofField graph source field
    else ofQualified graph source qualifier field

def qualified (field : String) (qualifier : Option String) : String :=
  match qualifier with
  | none => field
  | some "" => field
  | some qualifier => qualifier ++ "." ++ field

end Location

namespace Graph

def locate (graph : Graph) (entity field : String) (qualifier : Option String) :
    Except SchemaError Location := do
  return .ofName graph (← graph.entity entity) field qualifier

/-- Finds a field that has to be there. -/
def require (graph : Graph) (entity field : String) (qualifier : Option String) :
    Except SchemaError Location := do
  match ← graph.locate entity field qualifier with
  | .notFound .. => throw (.unreachable entity (Location.qualified field qualifier))
  | location => return location

end Graph

end RowGuard
