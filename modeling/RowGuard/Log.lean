/-!
# Log entries

Compilation and checks leave entries in a log. Each entry has a level and a channel, so that one
kind of entry can be followed or silenced by itself.
-/

set_option autoImplicit false

namespace RowGuard

namespace Log

inductive Level where
  | debug
  | info
  | warning
  | error
  | critical
deriving Repr, DecidableEq

def Level.weight : Level → Nat
  | .debug => 10
  | .info => 20
  | .warning => 30
  | .error => 40
  | .critical => 50

def Level.name : Level → String
  | .debug => "DEBUG"
  | .info => "INFO"
  | .warning => "WARNING"
  | .error => "ERROR"
  | .critical => "CRITICAL"

/-- The level of a name; every entry is of less weight than an unknown level. -/
def Level.ofName : String → Level
  | "DEBUG" => .debug
  | "INFO" => .info
  | "WARNING" => .warning
  | "ERROR" => .error
  | _ => .critical

inductive Channel where
  | audit
  | build
  | compiler
  /-- Names that had to be guessed. -/
  | context
  /-- Reads of what is not loaded. -/
  | evaluation
  | checks
  | diagnostics (category : String)
deriving Repr, DecidableEq

/-- The name of a channel, below the name of the whole log. -/
def Channel.name : Channel → String
  | .audit => ""
  | .build => ".build"
  | .compiler => ".compiler"
  | .context => ".context"
  | .evaluation => ".eval"
  | .checks => ".checks"
  | .diagnostics category => ".diagnostics." ++ category

structure Entry where
  channel : Channel
  level : Level
  message : String
deriving Repr, DecidableEq

def Entry.reaches (entry : Entry) (level : Level) : Bool :=
  level.weight ≤ entry.level.weight

end Log

end RowGuard
