import RowGuard.Expr.Basic
import RowGuard.Value.Printer

/-!
# Canonical policy texts

`Expr.print` writes an expression with the fewest parentheses its precedence needs. It fails only on
nodes that are not of the tree.
-/

set_option autoImplicit false

namespace RowGuard

namespace Expr

/-- How tightly a node binds its parts. -/
def precedence : Expr → Nat
  | .any _ => 1
  | .all _ => 2
  | .not _ => 3
  | .condition .. => 4
  | _ => 5

/-- Whether a node needs parentheses inside one of the given precedence. -/
def needsParens (parent : Nat) (e : Expr) : Bool :=
  e.precedence ≤ parent && e.precedence < 5

def parenthesised (wanted : Bool) (text : String) : String :=
  if wanted then "(" ++ text ++ ")" else text

/-- Functions that are written without parentheses when they have no arguments. -/
def bareFunctions : List String :=
  ["current_user", "session_user", "current_role"]

def printLiteral (literal : Literal) : String :=
  match literal.kind with
  | .text => Text.quoteLiteral literal.value.plain
  | .null => "NULL"
  | .boolean => if literal.value.truthy then "true" else "false"
  | _ => literal.value.plain

mutual

/-- The canonical text of an expression. -/
def print : Expr → Except Unsupported String
  | .any operands => do return Text.joinWith " OR " (← printItems 1 operands)
  | .all operands => do return Text.joinWith " AND " (← printItems 2 operands)
  | .not operand => do
    return "NOT " ++ parenthesised (needsParens 3 operand) (← print operand)
  | .condition (.null negated) left _ => do
    let start := parenthesised (needsParens 4 left) (← print left)
    return start ++ (if negated then " IS NOT NULL" else " IS NULL")
  | .condition (.member negated) left (.array items) => do
    let start := parenthesised (needsParens 4 left) (← print left)
    let items := Text.joinWith ", " (← printItems 0 items)
    return start ++ " " ++ (Operator.member negated).symbol ++ " (" ++ items ++ ")"
  | .condition (.member negated) left (.subquery _ body) => do
    let start := parenthesised (needsParens 4 left) (← print left)
    return start ++ " " ++ (Operator.member negated).symbol ++ " (" ++ body ++ ")"
  | .condition (.member negated) left right => do
    let start := parenthesised (needsParens 4 left) (← print left)
    let quantifier := if negated then " <> ALL (" else " = ANY ("
    return start ++ quantifier ++ (← print right) ++ ")"
  | .condition (.compare comparator) left right => do
    let start := parenthesised (needsParens 4 left) (← print left)
    let finish := parenthesised (needsParens 4 right) (← print right)
    return start ++ " " ++ comparator.symbol ++ " " ++ finish
  | .choice subject branches otherwise => do
    let subject ← printOption "" subject
    let branches ← printBranches branches
    let otherwise ← printOption "ELSE " otherwise
    return Text.joinWith " " ("CASE" :: (subject ++ branches ++ otherwise ++ ["END"]))
  | .existence _ body => return "EXISTS (" ++ body ++ ")"
  | .subquery _ body => return "(" ++ body ++ ")"
  | .call name arguments =>
    if arguments.isEmpty && bareFunctions.contains name then return name
    else do return name ++ "(" ++ Text.joinWith ", " (← printItems 0 arguments) ++ ")"
  | .column name qualifier =>
    match qualifier with
    | none => return name
    | some "" => return name
    | some qualifier => return qualifier ++ "." ++ name
  | .setting key => return "current_setting(" ++ Text.quoteLiteral key ++ ")"
  | .literal value => return printLiteral value
  | .array items => do return "ARRAY[" ++ Text.joinWith ", " (← printItems 0 items) ++ "]"
  | .foreign node => throw (.expression node.kind)
termination_by structural e => e

def printItems (parent : Nat) : List Expr → Except Unsupported (List String)
  | [] => return []
  | e :: rest => do
    let text := parenthesised (needsParens parent e) (← print e)
    return text :: (← printItems parent rest)
termination_by structural es => es

def printBranches : List (Expr × Expr) → Except Unsupported (List String)
  | [] => return []
  | (key, outcome) :: rest => do
    let text := "WHEN " ++ (← print key) ++ " THEN " ++ (← print outcome)
    return text :: (← printBranches rest)
termination_by structural branches => branches

/-- The text of what may be absent, after a lead. -/
def printOption (lead : String) : Option Expr → Except Unsupported (List String)
  | none => return []
  | some e => do return [lead ++ (← print e)]
termination_by structural e => e

end

end Expr

end RowGuard
