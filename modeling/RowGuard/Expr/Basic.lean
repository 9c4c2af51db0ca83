import RowGuard.Unsupported
import RowGuard.Value.Order

/-!
# Policy expressions

The tree of a policy text. Subqueries are opaque: they are kept as the text they were written in.
-/

set_option autoImplicit false

namespace RowGuard

/-! ## Operators -/

inductive Comparator where
  | eq
  | ne
  | lt
  | le
  | gt
  | ge
  /-- A match against a wildcard pattern. -/
  | like (ignoreCase negated : Bool)
  /-- A symbol without a meaning. -/
  | unknown (symbol : String)
deriving Repr, DecidableEq

namespace Comparator

def symbol : Comparator → String
  | .eq => "="
  | .ne => "!="
  | .lt => "<"
  | .le => "<="
  | .gt => ">"
  | .ge => ">="
  | .like false false => "LIKE"
  | .like true false => "ILIKE"
  | .like false true => "NOT LIKE"
  | .like true true => "NOT ILIKE"
  | .unknown symbol => symbol

def ofSymbol : String → Comparator
  | "=" => .eq
  | "!=" => .ne
  | "<" => .lt
  | "<=" => .le
  | ">" => .gt
  | ">=" => .ge
  | "LIKE" => .like false false
  | "ILIKE" => .like true false
  | "NOT LIKE" => .like false true
  | "NOT ILIKE" => .like true true
  | symbol => .unknown symbol

end Comparator

inductive Operator where
  | compare (comparator : Comparator)
  | member (negated : Bool)
  /-- A test for null, whose right side is the null literal. -/
  | null (negated : Bool)
deriving Repr, DecidableEq

namespace Operator

def symbol : Operator → String
  | .compare comparator => comparator.symbol
  | .member false => "IN"
  | .member true => "NOT IN"
  | .null false => "IS"
  | .null true => "IS NOT"

def ofSymbol : String → Operator
  | "IN" => .member false
  | "NOT IN" => .member true
  | "IS" => .null false
  | "IS NOT" => .null true
  | symbol => .compare (.ofSymbol symbol)

end Operator

/-! ## Literals -/

inductive LiteralKind where
  | text
  | integer
  | decimal
  | boolean
  | null
  /-- A kind the grammar does not know. -/
  | other (name : String)
deriving Repr, DecidableEq

namespace LiteralKind

def name : LiteralKind → String
  | .text => "string"
  | .integer => "integer"
  | .decimal => "decimal"
  | .boolean => "boolean"
  | .null => "null"
  | .other name => name

def ofName : String → LiteralKind
  | "string" => .text
  | "integer" => .integer
  | "decimal" => .decimal
  | "boolean" => .boolean
  | "null" => .null
  | name => .other name

end LiteralKind

structure Literal where
  kind : LiteralKind
  value : Value
deriving Repr

namespace Literal

def null : Literal := ⟨.null, .null⟩

def bool (b : Bool) : Literal := ⟨.boolean, .bool b⟩

/-- Whether two literals have the same kind and equal values. -/
def same (a b : Literal) : Bool :=
  a.kind == b.kind && a.value.same b.value

end Literal

/-! ## Trees -/

/-- A policy expression. -/
inductive Expr where
  | any (operands : List Expr)
  | all (operands : List Expr)
  | not (operand : Expr)
  | condition (operator : Operator) (left right : Expr)
  /-- The first branch that matches. With a subject each branch gives a value to compare it with,
  without one a condition. -/
  | choice (subject : Option Expr) (branches : List (Expr × Expr)) (otherwise : Option Expr)
  /-- A test for rows of a subquery, with the entity it names first. -/
  | existence (source : Option String) (body : String)
  /-- A subquery that stands for a value or a list. -/
  | subquery (source : Option String) (body : String)
  | call (name : String) (arguments : List Expr)
  /-- A column; without a qualifier it is one of the policy's own row. -/
  | column (name : String) (qualifier : Option String)
  | setting (key : String)
  | literal (value : Literal)
  | array (items : List Expr)
  | foreign (node : Foreign)
deriving Repr, Inhabited

namespace Expr

/-- The expression of an empty policy text. -/
def true : Expr := .literal (.bool Bool.true)

def false : Expr := .literal (.bool Bool.false)

/-! ## Equality -/

mutual

/-- Whether two expressions are the same tree, numbers being compared by value. -/
def same : Expr → Expr → Bool
  | .any as, .any bs => sameItems as bs
  | .all as, .all bs => sameItems as bs
  | .not a, .not b => same a b
  | .condition f a b, .condition g c d => f == g && same a c && same b d
  | .choice none as a, .choice none bs b => sameBranches as bs && sameOption a b
  | .choice (some s) as a, .choice (some t) bs b =>
    same s t && sameBranches as bs && sameOption a b
  | .existence s a, .existence t b => s == t && a == b
  | .subquery s a, .subquery t b => s == t && a == b
  | .call f as, .call g bs => f == g && sameItems as bs
  | .column a s, .column b t => a == b && s == t
  | .setting a, .setting b => a == b
  | .literal a, .literal b => a.same b
  | .array as, .array bs => sameItems as bs
  | .foreign a, .foreign b => a == b
  | _, _ => Bool.false
termination_by structural a => a

def sameItems : List Expr → List Expr → Bool
  | [], [] => Bool.true
  | a :: as, b :: bs => same a b && sameItems as bs
  | _, _ => Bool.false
termination_by structural as => as

def sameBranches : List (Expr × Expr) → List (Expr × Expr) → Bool
  | [], [] => Bool.true
  | (a, b) :: as, (c, d) :: bs => same a c && same b d && sameBranches as bs
  | _, _ => Bool.false
termination_by structural as => as

def sameOption : Option Expr → Option Expr → Bool
  | none, none => Bool.true
  | some a, some b => same a b
  | _, _ => Bool.false
termination_by structural a => a

end

/-! ## Traversal -/

mutual

/-- The expression and everything in it, a node before its parts and parts in the order of the
text. -/
def walk : Expr → List Expr
  | e@(.any operands) => e :: walkItems operands
  | e@(.all operands) => e :: walkItems operands
  | e@(.not operand) => e :: walk operand
  | e@(.condition _ left right) => e :: (walk left ++ walk right)
  | e@(.choice subject branches otherwise) =>
    e :: (walkOption subject ++ walkBranches branches ++ walkOption otherwise)
  | e@(.call _ arguments) => e :: walkItems arguments
  | e@(.array items) => e :: walkItems items
  | e => [e]
termination_by structural e => e

def walkItems : List Expr → List Expr
  | [] => []
  | e :: rest => walk e ++ walkItems rest
termination_by structural es => es

def walkBranches : List (Expr × Expr) → List Expr
  | [] => []
  | (key, outcome) :: rest => walk key ++ walk outcome ++ walkBranches rest
termination_by structural branches => branches

def walkOption : Option Expr → List Expr
  | none => []
  | some e => walk e
termination_by structural e => e

end

def provider? : Expr → Option String
  | .call name _ => some name
  | .setting key => some key
  | _ => none

/-- The context providers of an expression, in the order of their first use. -/
def providers (e : Expr) : List String :=
  (e.walk.filterMap provider?).eraseDups

end Expr

end RowGuard
