import RowGuard.Compilation.Scope

/-!
# Predicates of policies

A policy expression compiles to a predicate. Conditions on the actor alone are marked as role
conditions, a column beyond a to-many relation becomes a condition on related rows, and what has no
meaning for rows and actors becomes a construct with a default answer and a finding.
-/

set_option autoImplicit false

namespace RowGuard

namespace Predicate

/-- A compiled side of a comparison, and the to-many relation it is reached through. -/
structure Side where
  operand : Operand
  relation : Option String := none
  joinFields : List String := []

/-- Puts a condition on a side behind the relation it is reached through. -/
def Side.through (side : Side) (condition : Predicate) : Predicate :=
  match side.relation with
  | none => condition
  | some relation => .anyRelated relation condition side.joinFields

def Side.ofLocation? : Location → Option Side
  | .direct field => some ⟨.record [field], none, []⟩
  | .related relation .one field _ => some ⟨.record [relation, field], none, []⟩
  | .related relation _ field _ => some ⟨.record [field], some relation, []⟩
  | .junction place =>
    some ⟨.record [place.relatedField], some place.relation, place.joinFields⟩
  | .notFound .. => none

/-- The values of an array that holds literals only. -/
def literalValues? (items : List Expr) : Option (List Value) :=
  items.mapM fun
    | .literal item => some item.value
    | _ => none

/-- The side that an expression compiles to, if it has one. -/
def side? (scope : Scope) (actorFirst : Bool) (e : Expr) : Compilation (Option Side) :=
  match e with
  | .literal item => return some { operand := .value item.value }
  | .array items => return (literalValues? items).map fun values => { operand := .values values }
  | .call name [] => do
    let text ← Compilation.ofExcept e.print
    return some { operand := ← scope.actorField name text }
  | .setting key => do
    let text ← Compilation.ofExcept e.print
    return some { operand := ← scope.actorField key text }
  | .column name qualifier => do
    match ← scope.locate actorFirst name qualifier with
    | .actor path => return some { operand := .actor path name }
    | .field location => return Side.ofLocation? location
  | _ => return none

def standIn (scope : Scope) (e : Expr) (kind : String) (related : Option String) :
    Compilation Predicate :=
  return .unresolved (← scope.unresolved e kind related)

def markRole (p : Predicate) : Predicate :=
  if p.isRoleOnly then .role p else p

/-! ## Conditions -/

/-- A comparison of two sides. At most one may be beyond a to-many relation, and then the other may
not be a field of the record, which related rows do not see. -/
def ofSides? (comparator : Comparator) (left right : Side) : Option Predicate :=
  match left.relation, right.relation with
  | some _, some _ => none
  | some _, none =>
    if right.operand.isRecord then none
    else some (left.through (oriented comparator left.operand right.operand))
  | none, some _ =>
    if left.operand.isRecord then none
    else some (right.through (oriented comparator left.operand right.operand))
  | none, none => some (oriented comparator left.operand right.operand)

def memberOfSides? (negated : Bool) (left values : Side) : Option Predicate :=
  if values.relation.isSome then none
  else if left.relation.isSome && values.operand.isRecord then none
  else some (left.through (.member left.operand values.operand negated))

def ofComparison (scope : Scope) (comparator : Comparator) (left right : Expr) :
    Compilation Predicate := do
  let leftSide ← side? scope Bool.false left
  let rightSide ← side? scope Bool.false right
  match leftSide, rightSide with
  | some l, some r =>
    match ofSides? comparator l r with
    | some p => return p
    | none => standIn scope (.condition (.compare comparator) left right) "comparison" none
  | _, _ => standIn scope (.condition (.compare comparator) left right) "comparison" none

def ofEqualities (scope : Scope) (left : Expr) : List Expr → Compilation (List Predicate)
  | [] => return []
  | item :: items => do
    let first := markRole (← ofComparison scope .eq left item)
    return first :: (← ofEqualities scope left items)

def ofMembership (scope : Scope) (negated : Bool) (left right : Expr) : Compilation Predicate := do
  let leftSide ← side? scope Bool.false left
  let rightSide ← side? scope Bool.false right
  match leftSide, rightSide with
  | some l, some r =>
    match memberOfSides? negated l r with
    | some p => return p
    | none => standIn scope (.condition (.member negated) left right) "comparison" none
  | _, _ => standIn scope (.condition (.member negated) left right) "comparison" none

/-- Compiles a condition. An array with an item that is no literal is compared item by item. -/
def ofCondition (scope : Scope) (operator : Operator) (left right : Expr) :
    Compilation Predicate :=
  match operator with
  | .compare comparator => ofComparison scope comparator left right
  | .null negated => do
    match ← side? scope Bool.false left with
    | some side => return side.through (.isNull side.operand negated)
    | none => standIn scope (.condition operator left right) "comparison" none
  | .member negated =>
    match right with
    | .subquery source _ => standIn scope (.condition operator left right) "subquery" source
    | .array items =>
      if (literalValues? items).isSome then ofMembership scope negated left right
      else do
        let matched := anyOf (← ofEqualities scope left items)
        return if negated then matched.negate else matched
    | _ => ofMembership scope negated left right

/-- Compiles a value that stands for itself: it has to be true. -/
def ofValue (scope : Scope) (e : Expr) : Compilation Predicate := do
  match ← side? scope Bool.false e with
  | some side => return side.through (.compare .eq side.operand (.value (.bool Bool.true)))
  | none => standIn scope e "expression" none

def ofLiteral (scope : Scope) (item : Literal) : Compilation Predicate :=
  match item.kind with
  | .boolean => return .const (.bool item.value.truthy)
  | .null => return Predicate.false
  | _ => standIn scope (.literal item) "expression" none

/-- The subject of a choice, which may not be beyond a to-many relation. -/
def subject? (scope : Scope) (actorFirst : Bool) (e : Expr) : Compilation (Option Operand) := do
  match ← side? scope actorFirst e with
  | some ⟨operand, none, _⟩ => return some operand
  | _ => return none

/-- The keys of a choice by value, up to the first that has none. -/
def keys? (scope : Scope) : List (Expr × Expr) → Compilation (Option (List Operand))
  | [] => return some []
  | (key, _) :: rest => do
    match ← subject? scope Bool.false key with
    | none => return none
    | some key => return (← keys? scope rest).map (key :: ·)

/-! ## Expressions -/

mutual

def compile (scope : Scope) : Expr → Compilation Predicate
  | .any operands => return anyOf (← compileAll scope operands)
  | .all operands => return allOf (← compileAll scope operands)
  | .not (.existence source body) =>
    standIn scope (.not (.existence source body)) "exists" source
  | .not (.subquery source body) =>
    standIn scope (.not (.subquery source body)) "subquery" source
  | .not operand => return negate (← compile scope operand)
  | .literal item => ofLiteral scope item
  | .condition operator left right => return markRole (← ofCondition scope operator left right)
  | .choice none branches otherwise => do
    let branches ← compileBranches scope branches
    let otherwise ← compileOtherwise scope otherwise
    return markRole (.firstOf branches otherwise)
  | .choice (some subject) branches otherwise => do
    match ← subject? scope Bool.true subject with
    | none => standIn scope (.choice (some subject) branches otherwise) "case" none
    | some operand =>
      match ← keys? scope branches with
      | none => standIn scope (.choice (some subject) branches otherwise) "case" none
      | some keys =>
        let outcomes ← compileOutcomes scope branches
        let otherwise ← compileOtherwise scope otherwise
        return markRole (.select operand (keys.zip outcomes) otherwise)
  | .existence source body => standIn scope (.existence source body) "exists" source
  | .subquery source body => standIn scope (.subquery source body) "subquery" source
  | .call name [] => return markRole (← ofValue scope (.call name []))
  | .call name arguments => standIn scope (.call name arguments) "function" none
  | .column name qualifier => return markRole (← ofValue scope (.column name qualifier))
  | .setting key => return markRole (← ofValue scope (.setting key))
  | .array items => standIn scope (.array items) "expression" none
  | .foreign node => standIn scope (.foreign node) "expression" none
termination_by structural e => e

def compileAll (scope : Scope) : List Expr → Compilation (List Predicate)
  | [] => return []
  | e :: es => do
    let first ← compile scope e
    return first :: (← compileAll scope es)
termination_by structural es => es

def compileBranches (scope : Scope) :
    List (Expr × Expr) → Compilation (List (Predicate × Predicate))
  | [] => return []
  | (key, outcome) :: rest => do
    let key ← compile scope key
    let outcome ← compile scope outcome
    return (key, outcome) :: (← compileBranches scope rest)
termination_by structural branches => branches

def compileOutcomes (scope : Scope) : List (Expr × Expr) → Compilation (List Predicate)
  | [] => return []
  | (_, outcome) :: rest => do
    let outcome ← compile scope outcome
    return outcome :: (← compileOutcomes scope rest)
termination_by structural branches => branches

/-- Compiles what a choice leads to when no branch matches; nothing is granted without one. -/
def compileOtherwise (scope : Scope) : Option Expr → Compilation Predicate
  | none => return Predicate.false
  | some e => compile scope e
termination_by structural e => e

end

end Predicate

/-- The in-memory form of a policy. -/
structure RecordCheck where
  condition : Predicate
  diagnostics : List Diagnostic := []

/-- Whether some branch of the policy depends on the actor alone, so that access can be granted
whatever the record. -/
def RecordCheck.grantsByRole (compiled : RecordCheck) : Bool :=
  compiled.condition.disjuncts.any Predicate.isRoleOnly

/-- Compiles a policy to its in-memory form. -/
def Scope.recordCheck (scope : Scope) (e : Expr) : Compilation RecordCheck :=
  let compiled := Predicate.compile scope e
  ⟨compiled.result.map fun condition => ⟨condition, Compilation.diagnostics compiled.trace⟩,
    compiled.trace⟩

end RowGuard
