import RowGuard.Expr.Basic
import RowGuard.Text.Pattern
import RowGuard.Truth
import RowGuard.Value.Read

/-!
# Comparisons of values

The truth of a comparison, a pattern match and a membership. Null makes each of them unknown, and
values without a common order are simply not ordered. An invalid operation on undefined numbers ends
a comparison without a truth.
-/

set_option autoImplicit false

namespace RowGuard

/-- Whether a value matches a wildcard pattern; only texts match. -/
def Value.matches (ignoreCase : Bool) (value pattern : Value) : Truth :=
  match value, pattern with
  | .null, _ => .unknown
  | _, .null => .unknown
  | .text s, .text p => .ofBool (Text.matchesPattern ignoreCase p s)
  | _, _ => .no

/-- Whether two values are ordered as wanted, `none` if comparing them is an invalid operation. -/
def Value.ordered? (wanted : Ordering → Bool) (left right : Value) : Option Bool :=
  match left.order right with
  | .ordered order => some (wanted order)
  | .unordered => some false
  | .incomparable => some false
  | .invalid => none

namespace Comparator

/-- The truth of a test, which fails where it is an invalid operation. -/
def decide : Option Bool → Except EvalError Truth
  | some b => .ok (.ofBool b)
  | none => .error .invalidOperation

/-- The truth of a comparison. A symbol without a meaning is refused, except where null has already
made the comparison unknown. -/
def truth (comparator : Comparator) (left right : Value) : Except EvalError Truth :=
  match comparator with
  | .like ignoreCase negated => .ok ((left.matches ignoreCase right).negatedIf negated)
  | _ =>
    if left.isNull || right.isNull then .ok .unknown
    else match comparator with
      | .eq => decide (left.equal? right)
      | .ne => decide ((left.equal? right).map not)
      | .lt => decide (left.ordered? (· == .lt) right)
      | .le => decide (left.ordered? (· != .gt) right)
      | .gt => decide (left.ordered? (· == .gt) right)
      | .ge => decide (left.ordered? (· != .lt) right)
      | .unknown symbol => .error (.unsupported (.operator symbol))
      | .like .. => .ok .unknown

/-- The comparator of the sides turned around, if there is one. -/
def flipped? : Comparator → Option Comparator
  | .eq => some .eq
  | .ne => some .ne
  | .lt => some .gt
  | .gt => some .lt
  | .le => some .ge
  | .ge => some .le
  | _ => none

end Comparator

/-- Whether a value is found among items; those behind it are not compared with it. -/
def Value.foundIn? (value : Value) : List Value → Option Bool
  | [] => some false
  | item :: items =>
    match value.same? item with
    | some false => foundIn? value items
    | outcome => outcome

/-- Whether a value is among the items of another. If it is not, a null among them leaves the answer
unknown. -/
def Value.memberOf (value values : Value) : Except EvalError Truth :=
  match values.items? with
  | none => .ok .unknown
  | some items =>
    if value.isNull then .ok .unknown
    else match value.foundIn? items with
      | some true => .ok .yes
      | some false => .ok (if items.any Value.isNull then .unknown else .no)
      | none => .error .invalidOperation

end RowGuard
