import RowGuard.Log
import RowGuard.Operation

/-!
# Diagnostics

Findings of a compilation that do not stop it: guessed names, constructs without a meaning for rows
and actors, and role conditions that were taken out of a row filter.
-/

set_option autoImplicit false

namespace RowGuard

namespace Diagnostic

inductive Category where
  | lowConfidenceMapping
  | unresolvedConstruct
  | roleSplit
  | other (name : String)
deriving Repr, DecidableEq

def Category.name : Category → String
  | .lowConfidenceMapping => "low_confidence_mapping"
  | .unresolvedConstruct => "unresolved_construct"
  | .roleSplit => "role_split"
  | .other name => name

def Category.ofName : String → Category
  | "low_confidence_mapping" => .lowConfidenceMapping
  | "unresolved_construct" => .unresolvedConstruct
  | "role_split" => .roleSplit
  | name => .other name

def Category.level : Category → Log.Level
  | .unresolvedConstruct => .warning
  | .lowConfidenceMapping => .warning
  | _ => .info

end Diagnostic

/-- One finding about one compiled policy. -/
structure Diagnostic where
  entity : String
  operation : Operation
  category : Diagnostic.Category
  expression : String
  message : String
  /-- The entity that the expression names. -/
  related : Option String := none
  /-- The policies it belongs to, once they are known. -/
  policy : Option String := none
deriving Repr, DecidableEq

namespace Diagnostic

def text (d : Diagnostic) : String :=
  let place := d.entity ++ "." ++ d.operation.name
  let place := match d.policy with
    | none => place
    | some "" => place
    | some policy => place ++ " (" ++ policy ++ ")"
  "[" ++ d.category.name ++ "] " ++ place ++ ": " ++ d.message ++ " -- " ++ d.expression

/-- Drops the repeated ones, the first of each being kept. -/
def dedupe (diagnostics : List Diagnostic) : List Diagnostic :=
  diagnostics.eraseDups

/-- The log entry of a finding; at most 200 characters of the expression are shown. -/
def entry (d : Diagnostic) : Log.Entry :=
  let policy := match d.policy with
    | none => "<unknown>"
    | some "" => "<unknown>"
    | some policy => policy
  let shown := String.ofList (d.expression.toList.take 200)
  ⟨.diagnostics d.category.name, d.category.level,
    d.entity ++ "." ++ d.operation.name ++ " policy=" ++ policy ++ ": " ++ d.message ++ " -- " ++
      shown⟩

end Diagnostic

end RowGuard
