import RowGuard.Predicate.Printer
import RowGuard.RowFilter.Basic

/-!
# Written row filters

A row filter in words, for people to read.
-/

set_option autoImplicit false

namespace RowGuard

namespace RowFilter

def isCompound : RowFilter → Bool
  | .all _ => true
  | .any _ => true
  | .given .. => true
  | _ => false

/-- Whether a filter is put in parentheses inside a disjunction. -/
def isCompoundAlternative : RowFilter → Bool
  | .all _ => true
  | .given .. => true
  | _ => false

mutual

def print : RowFilter → Except Unsupported String
  | .pass => return "PASS"
  | .block => return "BLOCK"
  | .all operands => do return Text.joinWith " AND " (← printConjuncts operands)
  | .any operands => do return Text.joinWith " OR " (← printAlternatives operands)
  | .not operand => do return "NOT " ++ Predicate.grouped operand.isCompound (← print operand)
  | .equals field value => do return field ++ " = " ++ (← value.print "record")
  | .compare field comparator value => do
    return field ++ " " ++ comparator.symbol ++ " " ++ (← value.print "record")
  | .member field values => do return field ++ " IN " ++ (← values.print "record")
  | .isNull field => return field ++ " IS NULL"
  | .like field pattern ignoreCase => do
    return field ++ (if ignoreCase then " ILIKE " else " LIKE ") ++ (← pattern.print "record")
  | .someRelated relation condition _ => do
    return relation ++ " SOME (" ++ (← print condition) ++ ")"
  | .related relation condition => do return relation ++ " IS (" ++ (← print condition) ++ ")"
  | .given role passed failed => do
    let role ← role.print
    let passed := Predicate.grouped passed.isCompound (← print passed)
    let failed := Predicate.grouped failed.isCompound (← print failed)
    return "IF " ++ role ++ " THEN " ++ passed ++ " ELSE " ++ failed
  | .unresolved construct =>
    return "UNRESOLVED[" ++ construct.text ++ "] -> " ++
      (if construct.default.truthy then "PASS" else "BLOCK")
  | .roleOnly condition => do return "ROLE CHECK " ++ (← condition.print)
  | .foreign node => throw (.rowFilter node.kind)
termination_by structural f => f

def printConjuncts : List RowFilter → Except Unsupported (List String)
  | [] => return []
  | f :: fs => do
    let text := Predicate.grouped f.isCompound (← print f)
    return text :: (← printConjuncts fs)
termination_by structural fs => fs

def printAlternatives : List RowFilter → Except Unsupported (List String)
  | [] => return []
  | f :: fs => do
    let text := Predicate.grouped f.isCompoundAlternative (← print f)
    return text :: (← printAlternatives fs)
termination_by structural fs => fs

end

end RowFilter

end RowGuard
