/-!
# Undefined numbers

What stands for a number where there is none. It is equal to no number, itself included, and no
number is less or greater. There are undefined binary numbers and undefined decimals, and a decimal
may be signaling: decimal arithmetic refuses to compare it at all.
-/

set_option autoImplicit false

namespace RowGuard

/-- The forms of an undefined number. A decimal has a sign and a payload, which is zero if it has
none. -/
inductive Undefined.Form where
  | binary
  | quiet (negative : Bool) (payload : Nat)
  | signaling (negative : Bool) (payload : Nat)
deriving Repr, DecidableEq

/-- An undefined number. It is not equal to itself, so it is by its `id` that it is found again. -/
structure Undefined where
  id : Nat
  form : Undefined.Form
deriving Repr, DecidableEq

namespace Undefined

def isDecimal (number : Undefined) : Bool :=
  match number.form with
  | .binary => false
  | _ => true

def isSignaling (number : Undefined) : Bool :=
  match number.form with
  | .signaling _ _ => true
  | _ => false

def decimalText (name : String) (negative : Bool) (payload : Nat) : String :=
  (if negative then "-" else "") ++ name ++ (if payload = 0 then "" else toString payload)

def toText (number : Undefined) : String :=
  match number.form with
  | .binary => "nan"
  | .quiet negative payload => decimalText "NaN" negative payload
  | .signaling negative payload => decimalText "sNaN" negative payload

end Undefined

end RowGuard
