import RowGuard.Context.ProviderMap
import RowGuard.Diagnostic
import RowGuard.Predicate.Eval
import RowGuard.Schema.Location

/-!
# Compilations

A compilation may fail, and on its way it leaves findings, guesses and role checks in order. What
the caller sees of the findings is each of them once, in the order of its first occurrence.
-/

set_option autoImplicit false

namespace RowGuard

inductive CompileError where
  | schema (error : SchemaError)
  | unsupported (what : Unsupported)
  | provider (fault : ActorPath.Fault)
  | emptyPath
  /-- A constant part reads what is not loaded. -/
  | unloaded (read : Unloaded)
  /-- A constant part compares an undefined number. -/
  | invalidOperation
  /-- The configured principal is not a name, and maybe not even something to look up. -/
  | badPrincipal (keyable : Bool)
deriving Repr, DecidableEq

/-- An error in the evaluation of a constant part. -/
def CompileError.ofEval : EvalError → CompileError
  | .unsupported what => .unsupported what
  | .unloaded read => .unloaded read
  | .invalidOperation => .invalidOperation

def CompileError.message : CompileError → String
  | .schema error => error.message
  | .unsupported what => what.message
  | .provider fault => fault.message
  | .emptyPath => "tuple index out of range"
  | .unloaded read => read.message
  | .invalidOperation => Value.invalidOperation
  | .badPrincipal _ => "the principal is not a name"

namespace Compilation

/-- What a compilation leaves. -/
inductive Event where
  | finding (diagnostic : Diagnostic)
  | guess (guess : Guess)
  /-- A role condition that was taken out of a row filter. -/
  | roleCheck (condition : Predicate)

def Event.finding? : Event → Option Diagnostic
  | .finding diagnostic => some diagnostic
  | _ => none

def Event.roleCheck? : Event → Option Predicate
  | .roleCheck condition => some condition
  | _ => none

/-- The findings among events, each once. -/
def diagnostics (events : List Event) : List Diagnostic :=
  Diagnostic.dedupe (events.filterMap Event.finding?)

def roleChecks (events : List Event) : List Predicate :=
  events.filterMap Event.roleCheck?

/-- The log entries of events; a finding is logged when it occurs for the first time. -/
def logFrom (seen : List Diagnostic) : List Event → List Log.Entry
  | [] => []
  | .finding diagnostic :: events =>
    if seen.contains diagnostic then logFrom seen events
    else ⟨.compiler, .debug, diagnostic.text⟩ :: logFrom (diagnostic :: seen) events
  | .guess guess :: events => guess.entry :: logFrom seen events
  | .roleCheck _ :: events => logFrom seen events

def log (events : List Event) : List Log.Entry :=
  logFrom [] events

end Compilation

/-- A compilation and what it leaves. -/
abbrev Compilation := Traced CompileError Compilation.Event

namespace Compilation

variable {α : Type}

def refuse (what : Unsupported) : Compilation α :=
  .fail (.unsupported what)

def ofExcept (outcome : Except Unsupported α) : Compilation α :=
  .lift (outcome.mapError .unsupported)

/-- Evaluates a constant part; nothing is read, so nothing is noted. -/
def ofEvaluation (evaluation : Evaluation α) : Compilation α :=
  .lift (evaluation.result.mapError .ofEval)

end Compilation

end RowGuard
