import RowGuard.Comparison
import RowGuard.Schema.Graph
import RowGuard.Sql.Literal
import RowGuard.Sql.Name
import RowGuard.Value.Read

/-!
# Conditions in SQL

The conditions that row filters are rendered to, with the folding of constants and negations, and
their text. A condition on related rows is a test for existence in a subquery.

A connective folds the constants that it is given. A constant that comes out of one is settled: it
is written out wherever it stands.
-/

set_option autoImplicit false

namespace RowGuard

namespace Sql

/-- Why a filter has no SQL text. -/
inductive Error where
  | schema (error : SchemaError)
  | evaluation (error : EvalError)
  /-- A comparison that is not made in SQL. -/
  | unknownOperator (symbol : String)
  /-- A value that the comparison does not take. -/
  | badOperand
  | noLiteral
deriving Repr, DecidableEq

def Error.message : Error → String
  | .schema error => error.message
  | .evaluation error => error.message
  | .unknownOperator symbol => Text.quoted symbol
  | .badOperand => "the comparison does not take this value"
  | .noLiteral => "the value has no literal"

/-- The negation of a comparison. -/
def opposite : Comparator → Comparator
  | .eq => .ne
  | .ne => .eq
  | .lt => .ge
  | .ge => .lt
  | .gt => .le
  | .le => .gt
  | .like ignoreCase negated => .like ignoreCase !negated
  | .unknown symbol => .unknown symbol

structure QualifiedColumn where
  name : String
  type : ColumnType
deriving Repr, DecidableEq

inductive Clause where
  /-- A constant, and whether it came out of a connective. -/
  | constant (value settled : Bool)
  /-- The condition that is neither true nor false. -/
  | unknown (negated : Bool)
  | compare (column : QualifiedColumn) (comparator : Comparator) (value : Value)
  | member (column : QualifiedColumn) (values : List Value) (negated : Bool)
  | isNull (column : QualifiedColumn) (negated : Bool)
  | like (column : QualifiedColumn) (pattern : Value) (ignoreCase negated : Bool)
  /-- Some rows of the tables satisfy the join conditions and the condition. -/
  | someRow (tables joins : List String) (condition : Clause)
  | all (operands : List Clause)
  | any (operands : List Clause)
  | not (operand : Clause)
deriving Repr

namespace Clause

/-! ## Folding constructors -/

/-- Whether a condition is the given constant and not settled. -/
def isConstant (value : Bool) : Clause → Bool
  | .constant other settled => value == other && !settled
  | _ => false

/-- A conjunction of conditions, the constants among them folded. -/
def allOf (operands : List Clause) : Clause :=
  if operands.any (isConstant false) then .constant false true
  else match operands.filter (!isConstant true ·) with
    | [] => .constant true true
    | [only] => only
    | several => .all several

/-- A disjunction of conditions, the constants among them folded. -/
def anyOf (operands : List Clause) : Clause :=
  if operands.any (isConstant true) then .constant true true
  else match operands.filter (!isConstant false ·) with
    | [] => .constant false true
    | [only] => only
    | several => .any several

/-- A negation, moved into a comparison where there is one. The negation of a constant can be folded
again. -/
def negate : Clause → Clause
  | .constant value _ => .constant (!value) false
  | .unknown negated => .unknown !negated
  | .compare column comparator value => .compare column (opposite comparator) value
  | .member column values negated => .member column values !negated
  | .isNull column negated => .isNull column !negated
  | .like column pattern ignoreCase negated => .like column pattern ignoreCase !negated
  | clause => .not clause

/-! ## Text -/

def literal (column : QualifiedColumn) (value : Value) : Except Error String :=
  match ((ColumnType.ofValue? value).getD column.type).literal? value with
  | some text => .ok text
  | none => .error .noLiteral

/-- The literals of the items of a list; the first item decides how all are written. -/
def literals (column : QualifiedColumn) (values : List Value) : Except Error (List String) :=
  let type := ((values.head?.bind ColumnType.ofValue?)).getD column.type
  values.mapM fun value =>
    match type.literal? value with
    | some text => .ok text
    | none => .error .noLiteral

/-- The text of a membership. A membership in nothing is written as a condition that never holds. -/
def memberText (column : String) (items : List String) (negated : Bool) : String :=
  match items, negated with
  | [], false => column ++ " IN (NULL) AND (1 != 1)"
  | [], true => "(" ++ column ++ " NOT IN (NULL) OR (1 = 1))"
  | items, false => column ++ " IN (" ++ Text.joinWith ", " items ++ ")"
  | items, true => "(" ++ column ++ " NOT IN (" ++ Text.joinWith ", " items ++ "))"

def groupedInAll : Clause → Bool
  | .any _ => true
  | .someRow .. => true
  | _ => false

def groupedInAny : Clause → Bool
  | .someRow .. => true
  | _ => false

def groupedInNot : Clause → Bool
  | .all _ => true
  | .any _ => true
  | .someRow .. => true
  | .not _ => true
  | _ => false

def grouped (wanted : Bool) (text : String) : String :=
  if wanted then "(" ++ text ++ ")" else text

mutual

def text : Clause → Except Error String
  | .constant value _ => return truthText value
  | .unknown negated => return (if negated then "NOT " else "") ++ "CAST(NULL AS BOOLEAN)"
  | .compare column comparator value => do
    return column.name ++ " " ++ comparator.symbol ++ " " ++ (← literal column value)
  | .member column values negated => do
    return memberText column.name (← literals column values) negated
  | .isNull column negated =>
    return column.name ++ (if negated then " IS NOT NULL" else " IS NULL")
  | .like column pattern ignoreCase negated => do
    let operator := if negated then " NOT LIKE " else " LIKE "
    let pattern ← literal column pattern
    let lowered (side : String) : String := if ignoreCase then "lower(" ++ side ++ ")" else side
    return lowered column.name ++ operator ++ lowered pattern
  | .someRow tables joins condition => do
    let condition := grouped condition.groupedInAll (← text condition)
    return "EXISTS (SELECT 1 \nFROM " ++ Text.joinWith ", " (tables.map nameText) ++ " \nWHERE " ++
      Text.joinWith " AND " (joins ++ [condition]) ++ ")"
  | .all operands => do return Text.joinWith " AND " (← textsInAll operands)
  | .any operands => do return Text.joinWith " OR " (← textsInAny operands)
  | .not operand => do return "NOT " ++ grouped operand.groupedInNot (← text operand)
termination_by structural clause => clause

def textsInAll : List Clause → Except Error (List String)
  | [] => return []
  | clause :: rest => do
    let first := grouped clause.groupedInAll (← text clause)
    return first :: (← textsInAll rest)
termination_by structural clauses => clauses

def textsInAny : List Clause → Except Error (List String)
  | [] => return []
  | clause :: rest => do
    let first := grouped clause.groupedInAny (← text clause)
    return first :: (← textsInAny rest)
termination_by structural clauses => clauses

end

end Clause

end Sql

end RowGuard
