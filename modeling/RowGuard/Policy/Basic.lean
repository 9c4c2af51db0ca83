import RowGuard.Expr.Basic
import RowGuard.Operation
import RowGuard.Value.Printer

/-!
# Policies as they are declared

A policy protects an entity for some operations by a condition on existing rows and one on new rows.
Permissive policies grant access, restrictive ones narrow down what the permissive ones grant.
-/

set_option autoImplicit false

namespace RowGuard

structure Policy where
  /-- Its name, which no other policy of the entity has. -/
  name : String
  entity : String
  command : Command := .all
  /-- The condition on existing rows. -/
  condition : Option String := none
  /-- The condition on new rows, if it is another one. -/
  check : Option String := none
  permissive : Bool := true
deriving Repr, DecidableEq

inductive PolicyError where
  | badCommand (command : Value)
  | duplicate (name entity : String)
  | missing (part : String)
deriving Repr

def PolicyError.message : PolicyError → String
  | .badCommand command =>
    "command must be one of \x7b" ++ Text.joinWith ", " (Command.names.map Text.quoted) ++
      "\x7d, got " ++ command.shown
  | .duplicate name entity =>
    "Policy " ++ Text.quoted name ++ " is already registered on " ++ entity
  | .missing part => Text.quoted part

namespace Policy

/-- Declares a policy, its command given by name. -/
def declare (name entity : String) (command : Value) (condition check : Option String)
    (permissive : Bool) : Except PolicyError Policy :=
  let known := match command with
    | .text name => Command.ofName? name
    | _ => none
  match known with
  | some command => .ok ⟨name, entity, command, condition, check, permissive⟩
  | none => .error (.badCommand command)

def operations (source : Policy) : List Operation :=
  source.command.operations

def covers (source : Policy) (operation : Operation) : Bool :=
  source.operations.contains operation

/-- The text that gates an operation; an empty text gates nothing. -/
def textFor (source : Policy) (operation : Operation) : String :=
  match operation, source.check with
  | .insert, some text => text
  | _, _ => source.condition.getD ""

end Policy

namespace Expr

/-- The expression of several policies: one of the permissive ones has to hold, and all restrictive
ones. Without a permissive one nothing is granted. -/
def combine (permissive restrictive : List Expr) : Expr :=
  match permissive, restrictive with
  | [], _ => Expr.false
  | [only], [] => only
  | [only], _ => .all (only :: restrictive)
  | several, [] => .any several
  | several, _ => .all (.any several :: restrictive)

end Expr

end RowGuard
