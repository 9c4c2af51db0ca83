import RowGuard.RowFilter.Bind
import RowGuard.Sql.Clause

/-!
# Row filters in SQL

A filter that is bound to an actor is rendered against the models: fields become columns, and
relations become tests for existence in the tables they lead through.
-/

set_option autoImplicit false

namespace RowGuard

namespace Sql

/-- An operand as messages show it. -/
def shownOperand : Operand → String
  | .record path => "RecordField(path=" ++ Text.quotedTuple path ++ ")"
  | .actor path source =>
    "ActorField(path=" ++ Text.quotedTuple path ++ ", source=" ++ Text.quoted source ++ ")"
  | .value value => "Value(value=" ++ value.shown ++ ")"
  | .values values => "ValueSet(values=" ++ (Value.tuple values).shown ++ ")"
  | .foreign node => "<" ++ node.kind ++ ">"

/-- The value of an operand that is bound. -/
def boundValue : Operand → Except Error Value
  | .value value => .ok value
  | .values values => .ok (.list values)
  | operand => .error (.evaluation (.unsupported (.unbound (shownOperand operand))))

def refused (kind : String) : Except Error Clause :=
  .error (.evaluation (.unsupported (.rowFilter kind)))

def columnOf (model : Model) (field : String) : Except Error QualifiedColumn :=
  match model.column? field with
  | some column => .ok ⟨columnText model.table column.name, column.type⟩
  | none => .error (.schema (.noColumn model.name field))

/-- Whether a comparison is made in SQL. -/
def isKnown : Comparator → Bool
  | .like .. => false
  | .unknown _ => false
  | _ => true

def isEquality : Comparator → Bool
  | .eq => true
  | .ne => true
  | _ => false

def isTruth : Value → Bool
  | .bool _ => true
  | _ => false

/-- A comparison of a field. A comparison with null is unknown, whatever the field. -/
def compareField (model : Model) (field : String) (comparator : Comparator) (operand : Operand) :
    Except Error Clause := do
  let value ← boundValue operand
  if value.isNull then return .unknown false
  if !isKnown comparator then throw (.unknownOperator comparator.symbol)
  let column ← columnOf model field
  if value.isInstance || isTruth value && !isEquality comparator then throw .badOperand
  return .compare column comparator value

def memberField (model : Model) (field : String) (operand : Operand) : Except Error Clause := do
  let column ← columnOf model field
  let items ← match ← boundValue operand with
    | .list items => pure items
    | .tuple items => pure items
    | .mapping entries => pure (entries.map fun entry => .text entry.1)
    | _ => throw .badOperand
  if items.head?.any Value.isInstance then throw .badOperand
  return .member column items false

def likeField (model : Model) (field : String) (operand : Operand) (ignoreCase : Bool) :
    Except Error Clause := do
  let pattern ← boundValue operand
  if pattern.isNull then return .unknown false
  let column ← columnOf model field
  if pattern.isInstance || isTruth pattern then throw .badOperand
  return .like column pattern ignoreCase false

/-! ## Relations -/

/-- How the rows of a relationship are reached: the tables between and the conditions that join
them. -/
structure Path where
  target : Model
  between : List String
  joins : List String

/-- The condition that joins a column with the one it refers to. -/
def joinText (referenced referencing : String) (link : Link) : String :=
  columnText referenced link.referenced ++ " = " ++ columnText referencing link.column.name

def joinsOf (models : Models) (owner target : Model) (relationship : Relationship) :
    List String :=
  match relationship.secondary with
  | some table =>
    let columns := models.tableColumns table
    let ends := [owner.table, target.table]
    ends.filterMap fun side => (Link.toTable? columns side).map (joinText side table)
  | none =>
    match Link.toTable? owner.columns target.table with
    | some link => [joinText target.table owner.table link]
    | none =>
      ((Link.toTable? target.columns owner.table).map
        (joinText owner.table target.table)).toList

def pathOf (models : Models) (owner : Model) (name : String) : Except Error Path :=
  let found : Option Path := do
    let relationship ← owner.relationship? name
    let target ← models.model? relationship.target
    return ⟨target, relationship.secondary.toList, joinsOf models owner target relationship⟩
  match found with
  | some path => .ok path
  | none => .error (.schema (.noRelationship owner.name name))

/-- A condition on the rows of a relationship. Inside another such condition the owner's table is
the one of the outer rows. -/
def Path.clause (path : Path) (owner : Model) (inner : Bool) (condition : Clause) : Clause :=
  let tables := path.target.table :: path.between ++ if inner then [] else [owner.table]
  .someRow tables path.joins condition

/-! ## Filters -/

mutual

/-- The condition of a bound filter on the rows of a model. -/
def render (models : Models) (model : Model) (inner : Bool) :
    RowFilter → Except Error Clause
  | .pass => return .constant true false
  | .block => return .constant false false
  | .all operands => do return .allOf (← renderAll models model inner operands)
  | .any operands => do return .anyOf (← renderAll models model inner operands)
  | .not operand => do return (← render models model inner operand).negate
  | .equals field value => compareField model field .eq value
  | .compare field comparator value => compareField model field comparator value
  | .member field values => memberField model field values
  | .isNull field => do return .isNull (← columnOf model field) false
  | .like field pattern ignoreCase => likeField model field pattern ignoreCase
  | .someRelated relation condition _ => do
    let path ← pathOf models model relation
    return path.clause model inner (← render models path.target true condition)
  | .related relation condition => do
    let path ← pathOf models model relation
    return path.clause model inner (← render models path.target true condition)
  | .unresolved construct => return .constant construct.default.truthy false
  | .given .. => refused "Conditional"
  | .roleOnly _ => refused "Unfilterable"
  | .foreign node => refused node.kind
termination_by structural f => f

def renderAll (models : Models) (model : Model) (inner : Bool) :
    List RowFilter → Except Error (List Clause)
  | [] => return []
  | f :: fs => do
    let first ← render models model inner f
    return first :: (← renderAll models model inner fs)
termination_by structural fs => fs

end

def whereText (models : Models) (model : Model) (mode : UnloadedMode) (actor : Value)
    (f : RowFilter) : Traced Error Unloaded String := do
  let bound ← (f.bind mode actor).mapError .evaluation
  .lift do (← render models model false bound).text

end Sql

end RowGuard
