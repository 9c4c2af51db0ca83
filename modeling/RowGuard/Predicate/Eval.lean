import RowGuard.Predicate.Basic
import RowGuard.Value.Read

/-!
# Evaluation of predicates

A predicate has a truth on a record and an actor. Connectives stop at the first operand that settles
them, so what stands behind it is not read; a condition on related rows stops at the first row that
satisfies it. Evaluation fails at the first comparison that is an invalid operation.
`Predicate.grants` is the final answer, in which the unknown denies.
-/

set_option autoImplicit false

namespace RowGuard

def Evaluation.refuse {α : Type} (what : Unsupported) : Evaluation α :=
  .fail (.unsupported what)

def Operand.eval (mode : UnloadedMode) (actor record : Value) : Operand → Evaluation Value
  | .record path => record.follow mode path
  | .actor path _ => actor.follow mode path
  | .value v => return v
  | .values vs => return .tuple vs
  | .foreign node => .refuse (.operand node.kind)

/-- Whether the test holds for some row; the rows after it are not tested. -/
def someRow (test : Value → Evaluation Truth) : List Value → Evaluation Truth
  | [] => return .no
  | row :: rows => do
    if (← test row).holds then return .yes else someRow test rows

namespace Predicate

mutual

/-- The truth of a predicate on a record. -/
def eval (mode : UnloadedMode) (actor : Value) : Predicate → Value → Evaluation Truth
  | .const value, _ => return .ofValue value
  | .all operands, record => evalAll mode actor operands record
  | .any operands, record => evalAny mode actor operands record
  | .not operand, record => return (← eval mode actor operand record).not
  | .compare comparator left right, record => do
    let left ← left.eval mode actor record
    let right ← right.eval mode actor record
    .lift (comparator.truth left right)
  | .member operand values negated, record => do
    let value ← operand.eval mode actor record
    let values ← values.eval mode actor record
    return (← Traced.lift (value.memberOf values)).negatedIf negated
  | .isNull operand negated, record => do
    let value ← operand.eval mode actor record
    return .ofBool (value.isNull != negated)
  | .anyRelated relation condition _, record => do
    let related ← record.follow mode [relation]
    someRow (fun row => eval mode actor condition row) (related.items?.getD [])
  | .select subject branches otherwise, record => do
    let subject ← subject.eval mode actor record
    match ← evalSelect mode actor subject branches record with
    | some truth => return truth
    | none => eval mode actor otherwise record
  | .firstOf branches otherwise, record => do
    match ← evalFirst mode actor branches record with
    | some truth => return truth
    | none => eval mode actor otherwise record
  | .role condition, record => eval mode actor condition record
  | .unresolved construct, _ => return .ofValue construct.default
  | .foreign node, _ => .refuse (.predicate node.kind)
termination_by structural p => p

/-- The truth of a conjunction, up to the first operand that is false. -/
def evalAll (mode : UnloadedMode) (actor : Value) : List Predicate → Value → Evaluation Truth
  | [], _ => return .yes
  | p :: ps, record => do
    match ← eval mode actor p record with
    | .no => return .no
    | truth => return truth.and (← evalAll mode actor ps record)
termination_by structural ps => ps

/-- The truth of a disjunction, up to the first operand that is true. -/
def evalAny (mode : UnloadedMode) (actor : Value) : List Predicate → Value → Evaluation Truth
  | [], _ => return .no
  | p :: ps, record => do
    match ← eval mode actor p record with
    | .yes => return .yes
    | truth => return truth.or (← evalAny mode actor ps record)
termination_by structural ps => ps

/-- The truth of the branch whose key is equal to the subject, if there is one. -/
def evalSelect (mode : UnloadedMode) (actor subject : Value) :
    List (Operand × Predicate) → Value → Evaluation (Option Truth)
  | [], _ => return none
  | (key, outcome) :: rest, record => do
    let key ← key.eval mode actor record
    let truth ← Traced.lift (Comparator.eq.truth subject key)
    if truth.holds then return some (← eval mode actor outcome record)
    else evalSelect mode actor subject rest record
termination_by structural branches => branches

/-- The truth of the branch whose condition holds, if there is one. -/
def evalFirst (mode : UnloadedMode) (actor : Value) :
    List (Predicate × Predicate) → Value → Evaluation (Option Truth)
  | [], _ => return none
  | (key, outcome) :: rest, record => do
    let truth ← eval mode actor key record
    if truth.holds then return some (← eval mode actor outcome record)
    else evalFirst mode actor rest record
termination_by structural branches => branches

end

/-- Whether a predicate grants access. -/
def grants (mode : UnloadedMode) (p : Predicate) (record actor : Value) : Evaluation Bool :=
  return (← p.eval mode actor record).holds

end Predicate

end RowGuard
