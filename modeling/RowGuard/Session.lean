import RowGuard.Policy.Explanation

/-!
# Sessions

A session holds what a running program holds: the policies registered so far, those of the shared
registry, the providers, the configuration that applies where none is given, the policies compiled
last, and the log. A step that fails leaves everything but the log as it was.
-/

set_option autoImplicit false

namespace RowGuard

/-- The state of a running program. -/
structure Session where
  graph : Graph
  providers : ProviderMap
  registry : Registry := {}
  /-- The registry that is used where none is named. -/
  shared : Registry := {}
  config : Config := {}
  rules : Ruleset := {}
  log : List Log.Entry := []
  /-- Entries below this level are not kept. -/
  level : Log.Level := .critical

namespace Session

variable {ε α : Type}

/-- Keeps the log entries that reach the session's level. -/
def record (session : Session) (entries : List Log.Entry) : Session :=
  { session with log := session.log ++ entries.filter fun entry => entry.reaches session.level }

def run (session : Session) (traced : Traced ε Log.Entry α) : Session × Except ε α :=
  (session.record traced.trace, traced.result)

/-- Takes over the reads that an evaluation warns about, and its result. -/
def evaluate (session : Session) (traced : Traced ε Unloaded α) : Session × Except ε α :=
  session.run (traced.mapTrace Unloaded.entry)

def chosen (session : Session) (shared : Bool) : Registry :=
  if shared then session.shared else session.registry

def choose (session : Session) (shared : Bool) (registry : Registry) : Session :=
  if shared then { session with shared := registry } else { session with registry := registry }

def add (session : Session) (shared : Bool) (policy : Policy) : Except PolicyError Session := do
  return session.choose shared (← (session.chosen shared).add policy)

/-- Compiles the policies of a registry. The compiled ones are replaced only if the build does not
end in an error. -/
def build (session : Session) (shared : Bool) (config : Option Config) :
    Session × Except BuildError Ruleset :=
  let (session, result) := session.run (Build.run (session.chosen shared) session.providers
    session.graph (config.getD session.config))
  match result with
  | .ok rules => ({ session with rules := rules }, .ok rules)
  | .error error => (session, .error error)

/-- How a step treats relationships that are not loaded. -/
def mode (session : Session) (config : Option Config) : UnloadedMode :=
  (config.getD session.config).onUnloaded

def drain (session : Session) : Session × List Log.Entry :=
  ({ session with log := [] }, session.log)

end Session

end RowGuard
