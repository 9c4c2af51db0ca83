import RowGuard.RowFilter.Eval

/-!
# Binding a filter to an actor

Binding resolves every reference to the actor: operands become constants, a conditional filter
becomes the one of its filters that the actor gets, and a role condition passes or blocks every row.
The result depends on rows only.
-/

set_option autoImplicit false

namespace RowGuard

/-- Puts the actor's value in the place of a field of the actor. -/
def Operand.bind (mode : UnloadedMode) (actor : Value) : Operand → Evaluation Operand
  | .actor path _ => return .value (← actor.follow mode path)
  | operand => return operand

/-- Puts the items of the actor's value in the place of a field of the actor; a null value is a set
that holds null alone. -/
def Operand.bindSet (mode : UnloadedMode) (actor : Value) : Operand → Evaluation Operand
  | .actor path _ => do
    let value ← actor.follow mode path
    return .values (value.items?.getD [.null])
  | operand => return operand

namespace RowFilter

mutual

/-- A filter for one actor. -/
def bind (mode : UnloadedMode) (actor : Value) : RowFilter → Evaluation RowFilter
  | .roleOnly condition => do
    if ← condition.grants mode .null actor then return .pass else return .block
  | .given role passed failed => do
    if ← role.grants mode .null actor then bind mode actor passed else bind mode actor failed
  | .all operands => return allOf (← bindAll mode actor operands)
  | .any operands => return anyOf (← bindAll mode actor operands)
  | .not operand => return negate (← bind mode actor operand)
  | .equals field value => return .equals field (← value.bind mode actor)
  | .compare field comparator value => return .compare field comparator (← value.bind mode actor)
  | .like field pattern ignoreCase => return .like field (← pattern.bind mode actor) ignoreCase
  | .member field values => return .member field (← values.bindSet mode actor)
  | .someRelated relation condition joinFields =>
    return .someRelated relation (← bind mode actor condition) joinFields
  | .related relation condition => return .related relation (← bind mode actor condition)
  | .pass => return .pass
  | .block => return .block
  | .isNull field => return .isNull field
  | .unresolved construct => return .unresolved construct
  | .foreign node => .refuse (.rowFilter node.kind)
termination_by structural f => f

def bindAll (mode : UnloadedMode) (actor : Value) : List RowFilter → Evaluation (List RowFilter)
  | [] => return []
  | f :: fs => do
    let bound ← bind mode actor f
    return bound :: (← bindAll mode actor fs)
termination_by structural fs => fs

end

/-- Binds a filter whose role checks must all be satisfied; an actor who fails one sees nothing. -/
def bindChecked (mode : UnloadedMode) (actor : Value) (roleChecks : List Predicate)
    (f : RowFilter) : Evaluation RowFilter :=
  match roleChecks with
  | [] => f.bind mode actor
  | check :: checks => do
    if ← check.grants mode .null actor then bindChecked mode actor checks f else return .block

end RowFilter

end RowGuard
