import RowGuard.Config
import RowGuard.Traced
import RowGuard.Unsupported
import RowGuard.Value.Attribute

/-!
# Reading values by path

A path of names is followed from one value to the next, a missing link reading as null. A
relationship whose rows have not been fetched reads as null too, unless the configuration makes it a
failure; if it asks for a warning, the read is noted.
-/

set_option autoImplicit false

namespace RowGuard

/-- A relationship of an object whose rows have not been fetched. -/
structure Unloaded where
  model : String
  relationship : String
deriving Repr, DecidableEq

def Unloaded.message (read : Unloaded) : String :=
  "Relationship '" ++ read.relationship ++ "' on " ++ read.model ++ " is not loaded. " ++
    "Either eagerly load it or set on_unloaded_relationship='deny'."

def Unloaded.warning (read : Unloaded) : String :=
  "Relationship '" ++ read.relationship ++ "' on " ++ read.model ++
    " is not loaded; treating it as empty."

inductive EvalError where
  | unsupported (what : Unsupported)
  | unloaded (read : Unloaded)
  /-- A comparison of numbers one of which is undefined. -/
  | invalidOperation
deriving Repr, DecidableEq

def EvalError.message : EvalError → String
  | .unsupported what => what.message
  | .unloaded read => read.message
  | .invalidOperation => Value.invalidOperation

abbrev Evaluation := Traced EvalError Unloaded

namespace Value

def readUnloaded (mode : UnloadedMode) (read : Unloaded) : Evaluation Value :=
  match mode with
  | .fail => .fail (.unloaded read)
  | .warn => do
    Traced.note read
    return .null
  | .deny => return .null

/-- Reads a member of a value: an entry of a mapping, an attribute of an object, and of any other
value an attribute that its kind has. -/
def member (mode : UnloadedMode) (value : Value) (name : String) : Evaluation Value :=
  match value with
  | .mapping entries => return lookup name entries
  | .object _ kind attributes unloaded =>
    if (unloaded.getD []).contains name then readUnloaded mode ⟨kind, name⟩
    else return lookup name attributes
  | value => return value.attributeOf name

/-- Follows a path; null ends it. -/
def follow (mode : UnloadedMode) (value : Value) : List String → Evaluation Value
  | [] => return value
  | name :: path =>
    if value.isNull then return .null
    else do follow mode (← member mode value name) path

end Value

end RowGuard
