import RowGuard.Value.Order
import RowGuard.Value.Printer

/-!
# Configuration

How compilation and evaluation treat what they cannot settle. A configuration is built from named
options; every option has a default, and a refused option names what it may be.
-/

set_option autoImplicit false

namespace RowGuard

/-- What a construct compiles to that has no meaning for rows and actors. -/
inductive UnresolvedMode where
  | allow
  | deny
deriving Repr, DecidableEq

/-- What an operation without a policy compiles to. -/
inductive MissingMode where
  | deny
  | fail
deriving Repr, DecidableEq

/-- What becomes of a policy that does not compile. -/
inductive FailureMode where
  | collect
  | fail
deriving Repr, DecidableEq

/-- What reading a relationship does whose rows have not been fetched. Unless it fails, the
relationship reads as null. -/
inductive UnloadedMode where
  | deny
  | fail
  | warn
deriving Repr, DecidableEq

def UnresolvedMode.name : UnresolvedMode → String
  | .allow => "allow"
  | .deny => "deny"

def MissingMode.name : MissingMode → String
  | .deny => "deny"
  | .fail => "raise"

def FailureMode.name : FailureMode → String
  | .collect => "collect"
  | .fail => "raise"

def UnloadedMode.name : UnloadedMode → String
  | .deny => "deny"
  | .fail => "raise"
  | .warn => "warn"

structure Config where
  onUnresolved : UnresolvedMode := .allow
  onMissingPolicy : MissingMode := .deny
  onCompileError : FailureMode := .collect
  onUnloaded : UnloadedMode := .deny
  /-- The entity of the acting principal, if it is not found by its name. It is looked up when a
  policy is compiled and not before, so anything but a name fails then. -/
  principal : Value := .null
  /-- Whether every compiled operation is logged; any value that counts as true asks for it. -/
  logCompilation : Value := .bool false
  /-- How many workers compile at once, null if that is left open; the result does not depend on
  it. -/
  maxWorkers : Value := .null
deriving Repr

inductive ConfigError where
  /-- There is no option of that name, or its value is of the wrong kind. -/
  | badOption (name : String)
  | badChoice (name : String) (choices : List String) (value : Value)
  | noWorkers (count : Value)
  /-- The number of workers is not a number. -/
  | invalidOperation
deriving Repr

def shownChoices (choices : List String) : String :=
  "\x7b" ++ Text.joinWith ", " (choices.map Text.quoted) ++ "\x7d"

def ConfigError.message : ConfigError → String
  | .badOption name => "unexpected option " ++ Text.quoted name
  | .badChoice name choices value =>
    name ++ " must be one of " ++ shownChoices choices ++ ", got " ++ value.shown
  | .noWorkers count => "max_workers must be >= 1, got " ++ count.shown
  | .invalidOperation => Value.invalidOperation

namespace Config

/-- Whether constructs without a meaning of their own allow access. -/
def failOpen (config : Config) : Bool :=
  config.onUnresolved == .allow

/-- Named options, in no particular order. -/
abbrev Options := List (String × Value)

namespace Options

def get? (options : Options) (name : String) : Option Value :=
  (options.find? fun option => option.1 == name).map (·.2)

def choose {α : Type} (options : Options) (name : String) (choices : List (String × α))
    (default : α) : Except ConfigError α :=
  let refused (value : Value) : Except ConfigError α :=
    .error (.badChoice name (choices.map (·.1)) value)
  match options.get? name with
  | none => .ok default
  | some (.text s) =>
    match List.find? (fun choice => choice.1 == s) choices with
    | some choice => .ok choice.2
    | none => refused (.text s)
  | some value => if value.isKeyable then refused value else .error (.badOption name)

end Options

def optionNames : List String :=
  ["on_unresolved", "on_missing_policy", "on_compile_error", "on_unloaded_relationship",
    "principal_entity", "log_compilation", "max_workers"]

/-- Applies options to a configuration. The first refused one, in the order of the options, is the
one reported. -/
def update (config : Config) (options : Options) : Except ConfigError Config := do
  if let some option := options.find? fun option => !optionNames.contains option.1 then
    throw (.badOption option.1)
  let onUnresolved ← options.choose "on_unresolved" [("allow", .allow), ("deny", .deny)]
    config.onUnresolved
  let onMissingPolicy ← options.choose "on_missing_policy" [("deny", .deny), ("raise", .fail)]
    config.onMissingPolicy
  let onCompileError ← options.choose "on_compile_error" [("collect", .collect), ("raise", .fail)]
    config.onCompileError
  let onUnloaded ← options.choose "on_unloaded_relationship"
    [("deny", .deny), ("raise", .fail), ("warn", .warn)] config.onUnloaded
  let maxWorkers := (options.get? "max_workers").getD config.maxWorkers
  if !maxWorkers.isNull then
    match maxWorkers.order (.int 1) with
    | .ordered .lt => throw (.noWorkers maxWorkers)
    | .ordered _ => pure ()
    | .unordered => pure ()
    | .incomparable => throw (.badOption "max_workers")
    | .invalid => throw .invalidOperation
  let principal := (options.get? "principal_entity").getD config.principal
  let logCompilation := (options.get? "log_compilation").getD config.logCompilation
  return { onUnresolved, onMissingPolicy, onCompileError, onUnloaded, principal, logCompilation,
           maxWorkers }

/-- The configuration that options make, the others having their defaults. -/
def ofOptions (options : Options) : Except ConfigError Config :=
  update {} options

/-- Applies the options that are given; an option that is null is not. -/
def merge (config : Config) (options : Options) : Except ConfigError Config :=
  if let some option := options.find? fun option => !optionNames.contains option.1 then
    .error (.badOption option.1)
  else update config (options.filter fun option => !option.2.isNull)

end Config

end RowGuard
