import RowGuard.Policy.Build

/-!
# Checks of single records

Whether an actor may perform an operation on a record. What has no compiled policy is denied.
-/

set_option autoImplicit false

namespace RowGuard

def Unloaded.entry (read : Unloaded) : Log.Entry :=
  ⟨.evaluation, .warning, read.warning⟩

inductive AccessError where
  /-- A mapping does not say what it is a record of. -/
  | entityRequired
  | denied (actor : Value) (operation : Operation) (entity : String) (message : Option String)
  | evaluation (error : EvalError)
deriving Repr

def AccessError.message : AccessError → String
  | .entityRequired => "entity is required when the record is a mapping"
  | .denied actor operation entity message =>
    message.getD ("Actor " ++ actor.shown ++ " is not allowed to " ++ operation.name ++ " " ++
      entity)
  | .evaluation error => error.message

abbrev Access := Traced AccessError Log.Entry

namespace Access

def ofEvaluation {α : Type} (evaluation : Evaluation α) : Access α :=
  (evaluation.mapError .evaluation).mapTrace Unloaded.entry

/-- The entity of a record: the given one, or else the name of the record's kind. -/
def entityOf (record : Value) (entity : Option String) : Except AccessError String :=
  match entity, record with
  | some name, _ => .ok name
  | none, .mapping _ => .error .entityRequired
  | none, record => .ok record.kindName

end Access

namespace Enforcement

def check (enforcement : Enforcement) (mode : UnloadedMode) (record actor : Value) :
    Evaluation Bool :=
  enforcement.predicate.condition.grants mode record actor

def filterFor (enforcement : Enforcement) (mode : UnloadedMode) (actor : Value) :
    Evaluation RowFilter :=
  enforcement.filter.forActor mode actor

end Enforcement

namespace Ruleset

/-- Whether an actor may perform an operation on a record. -/
def can (rules : Ruleset) (mode : UnloadedMode) (actor : Value) (operation : Operation)
    (record : Value) (entity : Option String) : Access Bool := do
  let name ← Traced.lift (Access.entityOf record entity)
  match rules.get? name operation with
  | some enforcement => Access.ofEvaluation (enforcement.check mode record actor)
  | none => do
    Traced.note ⟨.checks, .debug, "No compiled policy for (" ++ name ++ ", " ++
      Text.quoted operation.name ++ "); denying"⟩
    return false

/-- Fails unless an actor may perform an operation on a record. -/
def authorize (rules : Ruleset) (mode : UnloadedMode) (actor : Value) (operation : Operation)
    (record : Value) (entity : Option String) (message : Option String) : Access Unit := do
  if ← rules.can mode actor operation record entity then return ()
  else
    let name ← Traced.lift (Access.entityOf record entity)
    .fail (.denied actor operation name message)

end Ruleset

end RowGuard
