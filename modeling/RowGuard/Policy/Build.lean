import RowGuard.Policy.Registry
import RowGuard.Expr.Parser
import RowGuard.RowFilter.Lower

/-!
# Building policies

Every operation on every entity with policies is compiled into a predicate and a row filter. A
policy that cannot be read or resolved fails by itself: the others are compiled all the same. What
the configuration makes a failure of the whole build ends it.
-/

set_option autoImplicit false

namespace RowGuard

/-- The policies of one operation on an entity, combined and compiled. -/
structure Enforcement where
  entity : String
  operation : Operation
  policies : List String
  expression : Expr
  predicate : RecordCheck
  filter : RowAccess
  diagnostics : List Diagnostic := []
  /-- Whether no policy covers the operation. -/
  denyByDefault : Bool := false

/-- Why a policy fails by itself. -/
inductive PolicyFault where
  | malformed (failure : Malformed)
  | schema (error : SchemaError)
deriving Repr, DecidableEq

def PolicyFault.message : PolicyFault → String
  | .malformed failure => failure.message
  | .schema error => error.message

structure FailedPolicy where
  entity : String
  operation : Operation
  /-- The name of the policy, or of those that may be the cause. -/
  policy : String
  fault : PolicyFault
deriving Repr, DecidableEq

def FailedPolicy.about (entity : String) (operation : Operation) (policy message : String) :
    String :=
  entity ++ "." ++ operation.name ++ " policy " ++ Text.quoted policy ++ ": " ++ message

/-- The message of a failure that ends the build. -/
def FailedPolicy.message (failure : FailedPolicy) : String :=
  about failure.entity failure.operation failure.policy failure.fault.message

/-- Why a build ends. -/
inductive BuildError where
  /-- An operation has no policy. -/
  | noPolicy (entity : String) (operation : Operation)
  | failed (failure : FailedPolicy)
  /-- A number in a policy cannot be held. -/
  | unreadable (error : ReadError)
  | compilation (error : CompileError)
deriving Repr, DecidableEq

def BuildError.message : BuildError → String
  | .noPolicy entity operation =>
    "No policy registered for (" ++ entity ++ ", " ++ Text.quoted operation.name ++ ")"
  | .failed failure => failure.message
  | .unreadable error => error.message
  | .compilation error => error.message

/-- What a build produced. -/
structure Ruleset where
  compiled : List Enforcement := []
  failures : List FailedPolicy := []

namespace Ruleset

/-- Puts a compiled policy in the place of the one of the same operation and entity, or behind the
others. -/
def putIn (policy : Enforcement) : List Enforcement → List Enforcement
  | [] => [policy]
  | other :: rest =>
    if other.entity == policy.entity && other.operation == policy.operation then policy :: rest
    else other :: putIn policy rest

def diagnostics (result : Ruleset) : List Diagnostic :=
  result.compiled.flatMap (·.diagnostics)

def entities (result : Ruleset) : List String :=
  (result.compiled.map (·.entity)).eraseDups

/-- The compiled policy of an operation on an entity, found by its exact name or else ignoring
case. -/
def get? (result : Ruleset) (entity : String) (operation : Operation) :
    Option Enforcement :=
  (result.compiled.find? fun policy => policy.entity == entity && policy.operation == operation) <|>
  (result.compiled.find? fun policy =>
    policy.operation == operation && Text.lower policy.entity == Text.lower entity)

end Ruleset

/-! ## The build log -/

namespace Enforcement

/-- The log entries of a compiled policy: a summary, and its two forms. -/
def log (policy : Enforcement) : Except Unsupported (List Log.Entry) := do
  let place := policy.entity ++ "." ++ policy.operation.name
  let predicate ← policy.predicate.condition.print
  let filter ← policy.filter.filter.print
  return [
    ⟨.audit, .info, "Compiled " ++ place ++ " from " ++ toString policy.policies.length ++
      " policy(ies), " ++ toString policy.diagnostics.length ++ " diagnostic(s)"⟩,
    ⟨.audit, .debug, place ++ " predicate: " ++ predicate ++ "; filter: " ++ filter⟩]

/-- What an operation without a policy compiles to. -/
def denied (entity : String) (operation : Operation) : Enforcement :=
  { entity, operation
    policies := []
    expression := Expr.false
    predicate := ⟨Predicate.false, []⟩
    filter := ⟨.block, [], []⟩
    denyByDefault := true }

end Enforcement

abbrev Build := Traced BuildError Log.Entry

namespace Build

def missingEntry (entity : String) (operation : Operation) : Log.Entry :=
  ⟨.audit, .warning, "No policy registered for (" ++ entity ++ ", " ++
    Text.quoted operation.name ++ "); deny-by-default applied"⟩

def failureEntry (failure : FailedPolicy) : Log.Entry :=
  ⟨.build, .error, "Policy " ++ Text.quoted failure.policy ++ " on " ++ failure.entity ++ "." ++
    failure.operation.name ++ " failed to compile: " ++ failure.fault.message⟩

def summaryEntry (result : Ruleset) (entities : Nat) : Log.Entry :=
  ⟨.build, .info, "Compiled " ++ toString result.compiled.length ++
    " (entity, operation) pair(s) for " ++ toString entities ++ " entit(ies); " ++
    toString result.failures.length ++ " failure(s)"⟩

/-! ## One operation on an entity -/

inductive Outcome where
  | compiled (policy : Enforcement)
  | failed (failure : FailedPolicy)

/-- Records a failure, or ends the build with it. -/
def recordFailure (config : Config) (failure : FailedPolicy) : Build Outcome :=
  match config.onCompileError with
  | .fail => .fail (.failed failure)
  | .collect => do
    Traced.note (failureEntry failure)
    return .failed failure

/-- A policy and what its text says. -/
abbrev Parsed := Policy × Expr

/-- Reads the texts of policies, up to the first that is malformed. -/
def readAll (entity : String) (operation : Operation) :
    List Policy → Build (Except FailedPolicy (List Parsed))
  | [] => return .ok []
  | source :: sources =>
    match Expr.parse (source.textFor operation) entity with
    | .ok e => return (← readAll entity operation sources).map ((source, e) :: ·)
    | .error (.malformed failure) =>
      return .error ⟨entity, operation, source.name, .malformed failure⟩
    | .error error => .fail (.unreadable error)

/-- Runs a compilation: a name that cannot be resolved is a fault of the policy, and any other error
ends the build. -/
def attempt {α : Type} (compilation : Compilation α) : Build (Except SchemaError α) :=
  let entries := Compilation.log compilation.trace
  match compilation.result with
  | .ok value => ⟨.ok (.ok value), entries⟩
  | .error (.schema error) => ⟨.ok (.error error), entries⟩
  | .error error => ⟨.error (.compilation error), entries⟩

def predicate (scope : Except CompileError Scope) (e : Expr) :
    Build (Except SchemaError RecordCheck) :=
  attempt do (← Traced.lift scope).recordCheck e

def filter (scope : Except CompileError Scope) (e : Expr) :
    Build (Except SchemaError RowAccess) :=
  attempt do (← Traced.lift scope).rowAccess e

def both (scope : Except CompileError Scope) (e : Expr) :
    Build (Except SchemaError (RecordCheck × RowAccess)) := do
  match ← predicate scope e with
  | .error error => return .error error
  | .ok condition =>
    match ← filter scope e with
    | .error error => return .error error
    | .ok rows => return .ok (condition, rows)

def joinedNames (sources : List Policy) : String :=
  Text.joinWith ", " (sources.map (·.name))

/-- The first policy that does not compile by itself; all of them, if each does. -/
def culprit (scope : Except CompileError Scope) (all : List Policy) :
    List Parsed → Build String
  | [] => return joinedNames all
  | (source, e) :: rest => do
    match ← predicate scope e with
    | .error _ => return source.name
    | .ok _ => culprit scope all rest

def combined (parsed : List Parsed) : Expr :=
  .combine ((parsed.filter (·.1.permissive)).map (·.2))
    ((parsed.filter (!·.1.permissive)).map (·.2))

/-- The findings of both forms, each once, under the names of the policies. -/
def joinedDiagnostics (policies : String) (predicate : RecordCheck)
    (filter : RowAccess) : List Diagnostic :=
  (Diagnostic.dedupe (predicate.diagnostics ++ filter.diagnostics)).map fun diagnostic =>
    { diagnostic with policy := some policies }

def compileParsed (mapping : ProviderMap) (graph : Graph) (config : Config) (entity : String)
    (operation : Operation) (parsed : List Parsed) : Build Outcome := do
  let scope := Scope.make mapping graph entity operation config
  let sources := parsed.map (·.1)
  let e := combined parsed
  match ← both scope e with
  | .error error =>
    let policy ← culprit scope sources parsed
    recordFailure config ⟨entity, operation, policy, .schema error⟩
  | .ok (predicate, filter) =>
    let diagnostics := joinedDiagnostics (joinedNames sources) predicate filter
    let policy : Enforcement :=
      { entity, operation
        policies := sources.map (·.name)
        expression := e
        predicate, filter, diagnostics }
    if config.logCompilation.truthy then
      Traced.noteAll (← Traced.lift (policy.log.mapError fun what =>
        .compilation (.unsupported what)))
    Traced.noteAll (diagnostics.map Diagnostic.entry)
    return .compiled policy

/-- Compiles the policies of one operation on an entity, given by the name they are registered
under. -/
def compileOne (registry : Registry) (mapping : ProviderMap) (graph : Graph)
    (config : Config) (registered : String) (operation : Operation) : Build Outcome :=
  match graph.entity registered with
  | .error error =>
    let names := joinedNames (registry.sources registered)
    recordFailure config ⟨registered, operation, names, .schema error⟩
  | .ok entity =>
    match registry.lookup registered operation with
    | [] =>
      match config.onMissingPolicy with
      | .fail => .fail (.noPolicy entity.name operation)
      | .deny => do
        Traced.note (missingEntry entity.name operation)
        return .compiled (.denied entity.name operation)
    | sources => do
      match ← readAll entity.name operation sources with
      | .error failure => recordFailure config failure
      | .ok parsed => compileParsed mapping graph config entity.name operation parsed

/-! ## All operations on all entities -/

/-- The operations on the entities of a registry, in the order they are compiled. -/
def tasks (registry : Registry) : List (String × Operation) :=
  registry.entities.flatMap fun entity => Operation.gated.map fun operation => (entity, operation)

/-- The outcomes of tasks, up to the first that ends the build. -/
def outcomes (run : String → Operation → Build Outcome) :
    List (String × Operation) → Build (List Outcome)
  | [] => return []
  | (entity, operation) :: rest => do
    let first ← run entity operation
    return first :: (← outcomes run rest)

def collect (result : Ruleset) : Outcome → Ruleset
  | .compiled policy => { result with compiled := Ruleset.putIn policy result.compiled }
  | .failed failure => { result with failures := result.failures ++ [failure] }

/-- Compiles all policies of a registry. -/
def run (registry : Registry) (mapping : ProviderMap) (graph : Graph) (config : Config) :
    Build Ruleset := do
  let outcomes ← outcomes (compileOne registry mapping graph config) (tasks registry)
  let result := outcomes.foldl collect {}
  Traced.note (summaryEntry result registry.entities.length)
  return result

end Build

end RowGuard
