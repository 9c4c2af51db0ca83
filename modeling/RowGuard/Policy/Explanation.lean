import RowGuard.Policy.Access
import RowGuard.Sql.Render

/-!
# Explanations

How the policies of one operation on an entity are enforced, for people to read.
-/

set_option autoImplicit false

namespace RowGuard

structure Explanation where
  entity : String
  operation : Operation
  policies : List String
  /-- The canonical text of the combined policies. -/
  expression : String
  predicate : String
  filter : String
  roleChecks : List String
  grantsByRole : Bool
  denyByDefault : Bool
  diagnostics : List Diagnostic
  /-- The SQL text of the row filter, where it can be told. -/
  sql : Option String
deriving Repr

namespace Explanation

def findingLines (diagnostic : Diagnostic) : List String :=
  ["    - [" ++ diagnostic.category.name ++ "] " ++ diagnostic.message,
    "      " ++ diagnostic.expression]

def lines (explanation : Explanation) : List String :=
  if explanation.denyByDefault then ["  DENY BY DEFAULT (no policies registered)"]
  else
    ["  Policies: " ++ Text.joinWith ", " explanation.policies,
      "  Expression: " ++ explanation.expression,
      "  Predicate: " ++ explanation.predicate,
      "  Filter: " ++ explanation.filter] ++
    explanation.roleChecks.map ("  Role check: " ++ ·) ++
    (if explanation.grantsByRole then ["  Access can be granted by role alone"] else []) ++
    explanation.sql.toList.map ("  SQL: " ++ ·) ++
    (if explanation.diagnostics.isEmpty then []
      else ("  Diagnostics (" ++ toString explanation.diagnostics.length ++ "):") ::
        explanation.diagnostics.flatMap findingLines)

def text (explanation : Explanation) : String :=
  Text.joinWith "\n" (("Policy Explanation for " ++ explanation.entity ++ "." ++
    explanation.operation.name) :: explanation.lines)

end Explanation

namespace Enforcement

/-- The SQL condition on the rows of a model that an actor may access. -/
def whereText (enforcement : Enforcement) (models : Models) (model : Model) (mode : UnloadedMode)
    (actor : Value) : Traced Sql.Error Unloaded String := do
  let bound ← (enforcement.filterFor mode actor).mapError .evaluation
  Sql.whereText models model mode actor bound

/-- The SQL text of the row filter: for an actor, or, without one, if it does not depend on the
actor. -/
def sqlText? (enforcement : Enforcement) (models : Models) (model : Option Model)
    (mode : UnloadedMode) (actor : Value) : Traced Sql.Error Unloaded (Option String) :=
  match model with
  | none => return none
  | some model =>
    if actor.isNull then
      let rows := enforcement.filter
      if rows.roleChecks.isEmpty && !rows.filter.dependsOnActor then do
        return some (← Sql.whereText models model mode .null rows.filter)
      else return none
    else do
      let bound ← (enforcement.filterFor mode actor).mapError .evaluation
      return some (← Sql.whereText models model mode .null bound)

def printed {α : Type} (outcome : Except Unsupported α) : Traced Sql.Error Unloaded α :=
  .lift (outcome.mapError fun what => .evaluation (.unsupported what))

def explain (enforcement : Enforcement) (models : Models) (model : Option Model)
    (mode : UnloadedMode) (actor : Value) : Traced Sql.Error Unloaded Explanation := do
  let sql ← enforcement.sqlText? models model mode actor
  let expression ← printed enforcement.expression.print
  let predicate ← printed enforcement.predicate.condition.print
  let filter ← printed enforcement.filter.filter.print
  let roleChecks ← printed (enforcement.filter.roleChecks.mapM Predicate.print)
  return {
    entity := enforcement.entity
    operation := enforcement.operation
    policies := enforcement.policies
    expression, predicate, filter, roleChecks
    grantsByRole := enforcement.predicate.grantsByRole
    denyByDefault := enforcement.denyByDefault
    diagnostics := enforcement.diagnostics
    sql }

end Enforcement

end RowGuard
