import RowGuard.Named
import RowGuard.Policy.Basic
import RowGuard.Text.LetterCase
import RowGuard.Value.Printer

/-!
# Registries of policies

A registry holds the policies of entities in the order in which they were added.
-/

set_option autoImplicit false

namespace RowGuard

/-- The policies under the names of their entities. -/
structure Registry where
  table : Named (List Policy) := {}

structure PolicyRow where
  entity : Option String
  name : Option String
  command : Value := .null
  condition : Option String := none
  check : Option String := none
  /-- Whether the policy is permissive, if the row says so: in a word or as a truth value. -/
  permissive : Option Value := none

namespace Registry

def sources (registry : Registry) (entity : String) : List Policy :=
  (registry.table.get? entity).getD []

/-- Adds a policy behind the others of its entity. -/
def add (registry : Registry) (source : Policy) : Except PolicyError Registry :=
  let known := registry.sources source.entity
  if known.any fun other => other.name == source.name then
    .error (.duplicate source.name source.entity)
  else .ok ⟨registry.table.put source.entity (known ++ [source])⟩

def lookup (registry : Registry) (entity : String) (operation : Operation) :
    List Policy :=
  (registry.sources entity).filter fun source => source.covers operation

/-- The entities that have policies, in the order of their names. -/
def entities (registry : Registry) : List String :=
  let policed := registry.table.entries.filter fun entry => !entry.2.isEmpty
  (policed.map (·.1)).mergeSort fun a b => decide (a ≤ b)

def size (registry : Registry) : Nat :=
  registry.table.values.flatten.length

end Registry

namespace PolicyRow

/-- The name of a row's command; without one it covers every operation. -/
def commandName (row : PolicyRow) : String :=
  if row.command.truthy then Text.lower row.command.plain else "all"

/-- Whether a row is permissive. A word is unless it says that the policy is restrictive. -/
def isPermissive (row : PolicyRow) : Bool :=
  match row.permissive with
  | none => true
  | some (.text word) => Text.upper word != "RESTRICTIVE"
  | some value => value.truthy

def read (row : PolicyRow) : Except PolicyError Policy :=
  match row.entity, row.name with
  | none, _ => .error (.missing "tablename")
  | some _, none => .error (.missing "policyname")
  | some entity, some name =>
    Policy.declare name entity (.text row.commandName) row.condition row.check row.isPermissive

end PolicyRow

def Registry.ofRows (rows : List PolicyRow) : Except PolicyError Registry :=
  rows.foldlM (fun registry row => do registry.add (← row.read)) {}

end RowGuard
