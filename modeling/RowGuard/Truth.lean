import RowGuard.Value.Basic

/-!
# Three-valued truth

A condition on a record is true, false or unknown: a comparison with null is unknown. Access is
granted only by what is true. The connectives are those of strong Kleene logic.

A condition that was put together by hand may hold a constant that is no truth value at all, such as
a number. It decides nothing: a connective passes over it, and it never grants access.
-/

set_option autoImplicit false

namespace RowGuard

/-- The value of a condition. -/
inductive Truth where
  | no
  | unknown
  | yes
  /-- Something that is no truth value, and whether it counts as true where one is expected. -/
  | other (truthy : Bool)
deriving Repr, DecidableEq, Inhabited

namespace Truth

def ofBool (b : Bool) : Truth :=
  if b then .yes else .no

/-- The truth of a constant; null stands for the unknown. -/
def ofValue : Value → Truth
  | .null => .unknown
  | .bool b => ofBool b
  | value => .other value.truthy

/-- Whether the condition is true; everything else denies. -/
def holds : Truth → Bool
  | .yes => true
  | _ => false

/-- Negation keeps the unknown, and makes a truth value of everything else. -/
def not : Truth → Truth
  | .no => .yes
  | .unknown => .unknown
  | .yes => .no
  | .other truthy => ofBool !truthy

/-- Conjunction: false if either side is, else unknown if either side is. -/
def and : Truth → Truth → Truth
  | .no, _ => .no
  | _, .no => .no
  | .unknown, _ => .unknown
  | _, .unknown => .unknown
  | _, _ => .yes

/-- Disjunction: true if either side is, else unknown if either side is. -/
def or : Truth → Truth → Truth
  | .yes, _ => .yes
  | _, .yes => .yes
  | .unknown, _ => .unknown
  | _, .unknown => .unknown
  | _, _ => .no

/-- The conjunction of a list; the empty one is true. -/
def all (truths : List Truth) : Truth :=
  truths.foldr and .yes

/-- The disjunction of a list; the empty one is false. -/
def any (truths : List Truth) : Truth :=
  truths.foldr or .no

def negatedIf (negated : Bool) (t : Truth) : Truth :=
  if negated then t.not else t

end Truth

end RowGuard
