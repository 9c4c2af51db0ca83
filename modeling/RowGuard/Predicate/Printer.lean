import RowGuard.Predicate.Basic
import RowGuard.Value.Printer

/-!
# Written predicates

A predicate in the notation of boolean expressions, for people to read.
-/

set_option autoImplicit false

namespace RowGuard

/-- An operand, the record being called `row`. -/
def Operand.print (row : String) : Operand → Except Unsupported String
  | .record path => return Text.joinWith "." (row :: path)
  | .actor path _ => return Text.joinWith "." ("actor" :: path)
  | .value v => return v.written
  | .values vs => return "\x7b" ++ Text.joinWith ", " (vs.map Value.written) ++ "\x7d"
  | .foreign node => throw (.operand node.kind)

namespace Predicate

def isCompound : Predicate → Bool
  | .all _ => Bool.true
  | .any _ => Bool.true
  | .select .. => Bool.true
  | .firstOf .. => Bool.true
  | _ => Bool.false

def isDisjunction : Predicate → Bool
  | .any _ => Bool.true
  | _ => Bool.false

def grouped (wanted : Bool) (text : String) : String :=
  if wanted then "(" ++ text ++ ")" else text

def comparatorText : Comparator → String
  | .eq => "=="
  | comparator => comparator.symbol

mutual

/-- The text of a predicate, the record being called `row`. -/
def printWith (row : String) : Predicate → Except Unsupported String
  | .const value => return if value.truthy then "true" else "false"
  | .all operands => do return Text.joinWith " && " (← printConjuncts row operands)
  | .any operands => do return Text.joinWith " || " (← printAlternatives row operands)
  | .not operand => do return "!" ++ grouped operand.isCompound (← printWith row operand)
  | .compare comparator left right => do
    let left ← left.print row
    let right ← right.print row
    return left ++ " " ++ comparatorText comparator ++ " " ++ right
  | .member operand values negated => do
    let operand ← operand.print row
    let values ← values.print row
    return operand ++ (if negated then " ∉ " else " ∈ ") ++ values
  | .isNull operand negated => do
    return (← operand.print row) ++ (if negated then " != null" else " == null")
  | .anyRelated relation condition _ => do
    return "some(" ++ row ++ "." ++ relation ++ ", " ++ (← printWith "related" condition) ++ ")"
  | .select subject branches otherwise => do
    let subject ← subject.print row
    let branches ← printSelect row branches
    let otherwise := grouped otherwise.isCompound (← printWith row otherwise)
    return Text.joinWith " " ("case" :: subject :: (branches ++ ["else " ++ otherwise ++ " end"]))
  | .firstOf branches otherwise => do
    let branches ← printFirst row branches
    let otherwise := grouped otherwise.isCompound (← printWith row otherwise)
    return Text.joinWith " " ("case" :: (branches ++ ["else " ++ otherwise ++ " end"]))
  | .role condition => printWith row condition
  | .unresolved construct =>
    return "unresolved[" ++ construct.text ++ "] -> " ++
      (if construct.default.truthy then "allow" else "deny")
  | .foreign node => throw (.predicate node.kind)
termination_by structural p => p

def printConjuncts (row : String) : List Predicate → Except Unsupported (List String)
  | [] => return []
  | p :: ps => do
    let text := grouped p.isDisjunction (← printWith row p)
    return text :: (← printConjuncts row ps)
termination_by structural ps => ps

def printAlternatives (row : String) : List Predicate → Except Unsupported (List String)
  | [] => return []
  | p :: ps => do
    let text ← printWith row p
    return text :: (← printAlternatives row ps)
termination_by structural ps => ps

def printSelect (row : String) : List (Operand × Predicate) → Except Unsupported (List String)
  | [] => return []
  | (key, outcome) :: rest => do
    let key ← key.print row
    let outcome := grouped outcome.isCompound (← printWith row outcome)
    return ("when " ++ key ++ " then " ++ outcome) :: (← printSelect row rest)
termination_by structural branches => branches

def printFirst (row : String) : List (Predicate × Predicate) → Except Unsupported (List String)
  | [] => return []
  | (key, outcome) :: rest => do
    let key := grouped key.isCompound (← printWith row key)
    let outcome := grouped outcome.isCompound (← printWith row outcome)
    return ("when " ++ key ++ " then " ++ outcome) :: (← printFirst row rest)
termination_by structural branches => branches

end

def print (p : Predicate) : Except Unsupported String :=
  p.printWith "record"

end Predicate

end RowGuard
