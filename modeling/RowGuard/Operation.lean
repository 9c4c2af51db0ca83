/-!
# Operations

What a policy gates: selecting, inserting, updating and deleting rows.
-/

set_option autoImplicit false

namespace RowGuard

/-- An operation on rows. Names of other operations are carried along, but no policy gates them. -/
inductive Operation where
  | select
  | insert
  | update
  | delete
  | other (name : String)
deriving Repr, DecidableEq

namespace Operation

def name : Operation → String
  | .select => "select"
  | .insert => "insert"
  | .update => "update"
  | .delete => "delete"
  | .other name => name

def ofName : String → Operation
  | "select" => .select
  | "insert" => .insert
  | "update" => .update
  | "delete" => .delete
  | name => .other name

/-- The operations that policies gate, in the order they are compiled. -/
def gated : List Operation :=
  [.select, .insert, .update, .delete]

end Operation

/-- What a policy applies to: one operation or every one. -/
inductive Command where
  | select
  | insert
  | update
  | delete
  | all
deriving Repr, DecidableEq

namespace Command

def name : Command → String
  | .select => "select"
  | .insert => "insert"
  | .update => "update"
  | .delete => "delete"
  | .all => "all"

/-- The names of the commands, in alphabetical order. -/
def names : List String :=
  ["all", "delete", "insert", "select", "update"]

def ofName? : String → Option Command
  | "select" => some .select
  | "insert" => some .insert
  | "update" => some .update
  | "delete" => some .delete
  | "all" => some .all
  | _ => none

def operations : Command → List Operation
  | .select => [.select]
  | .insert => [.insert]
  | .update => [.update]
  | .delete => [.delete]
  | .all => Operation.gated

end Command

end RowGuard
