import RowGuard.Predicate.Eval
import RowGuard.RowFilter.Basic

/-!
# Evaluation of row filters

The truth of a filter on one record, as if the row were looked for in the database and either came
back or did not.
-/

set_option autoImplicit false

namespace RowGuard

namespace RowFilter

mutual

def eval (mode : UnloadedMode) (actor : Value) : RowFilter → Value → Evaluation Truth
  | .pass, _ => return .yes
  | .block, _ => return .no
  | .all operands, record => evalAll mode actor operands record
  | .any operands, record => evalAny mode actor operands record
  | .not operand, record => return (← eval mode actor operand record).not
  | .equals field value, record => do
    let left ← record.follow mode [field]
    let right ← value.eval mode actor record
    .lift (Comparator.eq.truth left right)
  | .compare field comparator value, record => do
    let left ← record.follow mode [field]
    let right ← value.eval mode actor record
    .lift (comparator.truth left right)
  | .member field values, record => do
    let value ← record.follow mode [field]
    let values ← values.eval mode actor record
    .lift (value.memberOf values)
  | .isNull field, record => return .ofBool (← record.follow mode [field]).isNull
  | .like field pattern ignoreCase, record => do
    let value ← record.follow mode [field]
    let pattern ← pattern.eval mode actor record
    return value.matches ignoreCase pattern
  | .someRelated relation condition _, record => do
    let related ← record.follow mode [relation]
    someRow (fun row => eval mode actor condition row) (related.items?.getD [])
  | .related relation condition, record => do
    let row ← record.follow mode [relation]
    if row.isNull then return .no
    else return .ofBool (← eval mode actor condition row).holds
  | .given role passed failed, record => do
    if (← role.eval mode actor .null).holds then eval mode actor passed record
    else eval mode actor failed record
  | .unresolved construct, _ => return .ofValue construct.default
  | .roleOnly condition, _ => return .ofBool (← condition.eval mode actor .null).holds
  | .foreign node, _ => .refuse (.rowFilter node.kind)
termination_by structural f => f

/-- The truth of a conjunction, up to the first operand that is false. -/
def evalAll (mode : UnloadedMode) (actor : Value) : List RowFilter → Value → Evaluation Truth
  | [], _ => return .yes
  | f :: fs, record => do
    match ← eval mode actor f record with
    | .no => return .no
    | truth => return truth.and (← evalAll mode actor fs record)
termination_by structural fs => fs

/-- The truth of a disjunction, up to the first operand that is true. -/
def evalAny (mode : UnloadedMode) (actor : Value) : List RowFilter → Value → Evaluation Truth
  | [], _ => return .no
  | f :: fs, record => do
    match ← eval mode actor f record with
    | .yes => return .yes
    | truth => return truth.or (← evalAny mode actor fs record)
termination_by structural fs => fs

end

def passes (mode : UnloadedMode) (f : RowFilter) (record actor : Value) : Evaluation Bool :=
  return (← f.eval mode actor record).holds

end RowFilter

end RowGuard
