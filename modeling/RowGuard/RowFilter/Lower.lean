import RowGuard.Predicate.Compile
import RowGuard.RowFilter.Bind
import RowGuard.RowFilter.Printer

/-!
# Row filters of policies

A predicate is lowered to a filter of rows. Conditions on the actor alone have no meaning for a row:
they are handed upwards as `roleOnly`, and the construct around them decides. Under a disjunction
they make the filter conditional on the actor. Under the outermost conjunction they become role
checks, under an inner one the filter is conditional again. Each of these splits leaves a finding.
-/

set_option autoImplicit false

namespace RowGuard

namespace RowFilter

/-! ## Parts of filters -/

/-- A lowered part as a filter: a role condition passes every row or none. -/
def asData : RowFilter → RowFilter
  | .roleOnly condition => .given condition .pass .block
  | f => f

def roles : List RowFilter → List Predicate
  | [] => []
  | .roleOnly condition :: parts => condition :: roles parts
  | _ :: parts => roles parts

def data : List RowFilter → List RowFilter
  | [] => []
  | .roleOnly _ :: parts => data parts
  | f :: parts => f :: data parts

/-- A filter on the last field of a path, behind the relations that lead to it. -/
def atPath (leaf : String → RowFilter) : List String → Compilation RowFilter
  | [] => .fail .emptyPath
  | [field] => return leaf field
  | relation :: path => return .related relation (← atPath leaf path)

/-- The filter of rows where a path ends in null; a missing link counts as null. -/
def nullAt : List String → Compilation RowFilter
  | [] => .fail .emptyPath
  | [field] => return .isNull field
  | relation :: path => do
    let rest ← nullAt path
    return anyOf [negate (.related relation .pass), .related relation rest]

/-- A negation if asked for, not folded. -/
def notIf (negated : Bool) (f : RowFilter) : RowFilter :=
  if negated then .not f else f

/-- A condition that rows cannot be filtered by. -/
def inexpressible (scope : Scope) (p : Predicate) : Compilation RowFilter := do
  let text ← Compilation.ofExcept p.print
  let allowed := scope.config.failOpen
  scope.note .unresolvedConstruct text
    ("No row filter form for this comparison; filtered as " ++ Scope.outcome allowed) none
  return .unresolved ⟨"comparison", text, .bool allowed, none⟩

def noteSplit (scope : Scope) (p : Predicate) (message : String) : Compilation Unit := do
  let text ← Compilation.ofExcept p.print
  scope.note .roleSplit text message none

/-! ## Conditions -/

def onField (comparator : Comparator) (value : Operand) (field : String) : RowFilter :=
  match comparator with
  | .eq => .equals field value
  | .like ignoreCase negated => notIf negated (.like field value ignoreCase)
  | comparator => .compare field comparator value

/-- Whether an operand can stand on the right of a comparison of a field. -/
def isScalarSide : Operand → Bool
  | .actor .. => true
  | .value _ => true
  | _ => false

/-- Whether an operand can stand for a set of values. -/
def isSetSide : Operand → Bool
  | .actor .. => true
  | .values _ => true
  | _ => false

def ofCompare (scope : Scope) : Predicate → Compilation RowFilter
  | .compare comparator (.record path) right =>
    if isScalarSide right then atPath (onField comparator right) path
    else inexpressible scope (.compare comparator (.record path) right)
  | p => inexpressible scope p

def ofMember (scope : Scope) (operand values : Operand) (negated : Bool) :
    Compilation RowFilter :=
  match operand with
  | .record path =>
    if isSetSide values then atPath (fun field => notIf negated (.member field values)) path
    else inexpressible scope (.member operand values negated)
  | _ => inexpressible scope (.member operand values negated)

def ofNull (scope : Scope) (operand : Operand) (negated : Bool) : Compilation RowFilter :=
  match operand with
  | .record path => do
    let f ← nullAt path
    return if negated then negate f else f
  | _ => inexpressible scope (.isNull operand negated)

/-- What a predicate lowers to before its form is looked at: a condition on the actor alone is
handed upwards, and a constant condition passes every row or none. -/
def settled? (scope : Scope) (p : Predicate) : Option (Compilation RowFilter) :=
  if p.isRoleOnly then some (return .roleOnly p.stripRole)
  else if p.readsRecord || p.readsActor then none
  else some do
    let granted ← Compilation.ofEvaluation (p.grants scope.config.onUnloaded .null .null)
    return if granted then .pass else .block

/-- Lowers a comparison, the record's side being put on the left. -/
def lowerCompare (scope : Scope) (comparator : Comparator) (left right : Operand) :
    Compilation RowFilter :=
  (settled? scope (.compare comparator left right)).getD
    (ofCompare scope (Predicate.oriented comparator left right))

/-! ## Splits -/

def splitAny (scope : Scope) (p : Predicate) (parts : List RowFilter) : Compilation RowFilter :=
  match roles parts, data parts with
  | [], rows => return anyOf rows
  | conditions, [] => return .roleOnly (Predicate.anyOf conditions)
  | conditions, rows => do
    noteSplit scope p
      "Role branches split from data branches; the row filter is conditional on the actor"
    return .given (Predicate.anyOf conditions) .pass (anyOf rows)

def splitAll (scope : Scope) (top : Bool) (parts : List RowFilter) : Compilation RowFilter :=
  match data parts, roles parts with
  | [], conditions => return .roleOnly (Predicate.allOf conditions)
  | rows, [] => return allOf rows
  | rows, conditions =>
    if top then do
      Traced.noteAll (conditions.map .roleCheck)
      noteSplit scope (Predicate.allOf conditions)
        "Role condition removed from the row filter; enforced as a runtime role check"
      return allOf rows
    else do
      noteSplit scope (Predicate.allOf conditions)
        "Role condition nested in the row filter; the filter is conditional on the actor"
      return .given (Predicate.allOf conditions) (allOf rows) .block

/-- The rows that a branch of a choice leaves to the next ones: those that do not match, and those
whose compared field is null. -/
def unmatched (key : Predicate) (matched : RowFilter) : Compilation RowFilter :=
  match key with
  | .compare _ (.record path) _ => do
    return anyOf [negate matched, ← nullAt path]
  | _ => return negate matched

def keyConditions (subject : Operand) (branches : List (Operand × Predicate)) : List Predicate :=
  branches.map fun branch => Predicate.oriented .eq subject branch.1

def noteChoice (scope : Scope) (p : Predicate) : Compilation Unit :=
  noteSplit scope p "CASE over actor values compiled to a conditional row filter"

/-! ## Predicates -/

mutual

/-- Lowers a predicate; `top` says that it is a conjunct of the whole policy. -/
def lower (scope : Scope) (top : Bool) (p : Predicate) : Compilation RowFilter :=
  match settled? scope p with
  | some settled => settled
  | none =>
    match p with
    | .const .. => return .block
    | .all operands => do splitAll scope top (← lowerAll scope top operands)
    | .any operands => do splitAny scope (.any operands) (← lowerAll scope false operands)
    | .not operand => do
      match ← lower scope false operand with
      | .roleOnly condition => return .roleOnly condition.negate
      | f => return negate f
    | .role condition => lower scope top condition
    | .unresolved construct => return .unresolved construct
    | .compare comparator left right => lowerCompare scope comparator left right
    | .member operand values negated => ofMember scope operand values negated
    | .isNull operand negated => ofNull scope operand negated
    | .anyRelated relation condition joinFields => do
      return .someRelated relation (asData (← lower scope false condition)) joinFields
    | .select subject branches otherwise =>
      if (keyConditions subject branches).all Predicate.isRoleOnly then do
        let last := asData (← lower scope false otherwise)
        let chained ← chainSelect scope subject last branches
        noteChoice scope (.select subject branches otherwise)
        return chained
      else do
        let (arms, excluded) ← armsOfSelect scope subject [] branches
        let last := asData (← lower scope false otherwise)
        return anyOf (arms ++ [allOf (excluded ++ [last])])
    | .firstOf branches otherwise =>
      if branches.all fun branch => branch.1.isRoleOnly then do
        let last := asData (← lower scope false otherwise)
        let chained ← chainFirst scope last branches
        noteChoice scope (.firstOf branches otherwise)
        return chained
      else do
        let (arms, excluded) ← armsOfFirst scope [] branches
        let last := asData (← lower scope false otherwise)
        return anyOf (arms ++ [allOf (excluded ++ [last])])
    | .foreign node => Compilation.refuse (.predicate node.kind)
termination_by structural p

def lowerAll (scope : Scope) (top : Bool) : List Predicate → Compilation (List RowFilter)
  | [] => return []
  | p :: ps => do
    let first ← lower scope top p
    return first :: (← lowerAll scope top ps)
termination_by structural ps => ps

/-- The conditional filter of a choice by value; later branches are lowered first. -/
def chainSelect (scope : Scope) (subject : Operand) (last : RowFilter) :
    List (Operand × Predicate) → Compilation RowFilter
  | [] => return last
  | (key, outcome) :: rest => do
    let chained ← chainSelect scope subject last rest
    let passed := asData (← lower scope false outcome)
    return .given (Predicate.oriented .eq subject key) passed chained
termination_by structural branches => branches

/-- The conditional filter of a choice by conditions; later branches are lowered first. -/
def chainFirst (scope : Scope) (last : RowFilter) :
    List (Predicate × Predicate) → Compilation RowFilter
  | [] => return last
  | (key, outcome) :: rest => do
    let chained ← chainFirst scope last rest
    let passed := asData (← lower scope false outcome)
    return .given key.stripRole passed chained
termination_by structural branches => branches

/-- The filters of the branches of a choice by value, each without the rows of the branches before
it, and what excludes the rows of all of them. -/
def armsOfSelect (scope : Scope) (subject : Operand) (excluded : List RowFilter) :
    List (Operand × Predicate) → Compilation (List RowFilter × List RowFilter)
  | [] => return ([], excluded)
  | (key, outcome) :: rest => do
    let condition := Predicate.oriented .eq subject key
    let matched := asData (← lowerCompare scope .eq subject key)
    let passed := asData (← lower scope false outcome)
    let left ← unmatched condition matched
    let (arms, excludedAll) ← armsOfSelect scope subject (excluded ++ [left]) rest
    return (allOf (excluded ++ [matched, passed]) :: arms, excludedAll)
termination_by structural branches => branches

/-- The filters of the branches of a choice by conditions, each without the rows of the branches
before it, and what excludes the rows of all of them. -/
def armsOfFirst (scope : Scope) (excluded : List RowFilter) :
    List (Predicate × Predicate) → Compilation (List RowFilter × List RowFilter)
  | [] => return ([], excluded)
  | (key, outcome) :: rest => do
    let matched := asData (← lower scope false key)
    let passed := asData (← lower scope false outcome)
    let left ← unmatched key matched
    let (arms, excludedAll) ← armsOfFirst scope (excluded ++ [left]) rest
    return (allOf (excluded ++ [matched, passed]) :: arms, excludedAll)
termination_by structural branches => branches

end

end RowFilter

structure RowAccess where
  /-- The filter, or `roleOnly` if the whole policy is a condition on the actor. -/
  filter : RowFilter
  diagnostics : List Diagnostic := []
  /-- Role conditions that the actor has to satisfy to see anything. -/
  roleChecks : List Predicate := []

/-- The filter for an actor, role checks applied. -/
def RowAccess.forActor (compiled : RowAccess) (mode : UnloadedMode) (actor : Value) :
    Evaluation RowFilter :=
  compiled.filter.bindChecked mode actor compiled.roleChecks

/-- Compiles a policy to its row filter. -/
def Scope.rowAccess (scope : Scope) (e : Expr) : Compilation RowAccess :=
  let compiled := do RowFilter.lower scope true (← Predicate.compile scope e)
  ⟨compiled.result.map fun filter =>
      ⟨filter, Compilation.diagnostics compiled.trace, Compilation.roleChecks compiled.trace⟩,
    compiled.trace⟩

end RowGuard
