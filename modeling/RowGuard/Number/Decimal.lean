import RowGuard.Text.CharClass

/-!
# Decimal numbers

A decimal is a sign, a coefficient and a power of ten; `1.5` and `1.50` are different decimals of
the same value. This module reads and writes them, compares them by value, and negates them in the
working precision of 28 digits. All of them are finite: the infinite decimals have nothing but a
sign, and the undefined ones are `Undefined`.

Main definitions:

* `Decimal.ofLexeme?` reads the written form, exactly or not at all;
* `Decimal.toText` writes it, with an exponent only where the positional form would need one;
* `Decimal.order` compares by value, at any distance of the exponents;
* `Decimal.negated` changes the sign and rounds to the working precision.
-/

set_option autoImplicit false

namespace RowGuard

/-- The number `± coefficient * 10 ^ exponent`. -/
structure Decimal where
  negative : Bool
  coefficient : Nat
  exponent : Int
deriving Repr, DecidableEq

namespace Decimal

def ofInt (n : Int) : Decimal :=
  ⟨n < 0, n.natAbs, 0⟩

/-- The number of digits of the coefficient; zero has one. -/
def digitCount (d : Decimal) : Nat :=
  (Nat.toDigits 10 d.coefficient).length

/-- The power of ten of the leading digit. -/
def leadingExponent (d : Decimal) : Int :=
  d.exponent + d.digitCount - 1

/-! ## Order by value -/

def signum (d : Decimal) : Int :=
  if d.coefficient = 0 then 0 else if d.negative then -1 else 1

def coefficientAt (d : Decimal) (exponent : Int) : Nat :=
  d.coefficient * Nat.pow 10 (d.exponent - exponent).toNat

/-- Compares absolute values other than zero: by the leading digit's place, and by the digits only
when that place is the same, so that no coefficient grows beyond the digits it has. -/
def magnitudeOrder (a b : Decimal) : Ordering :=
  match compare a.leadingExponent b.leadingExponent with
  | .eq =>
    let exponent := min a.exponent b.exponent
    compare (a.coefficientAt exponent) (b.coefficientAt exponent)
  | order => order

def order (a b : Decimal) : Ordering :=
  match compare a.signum b.signum with
  | .eq =>
    if a.signum = 0 then .eq
    else if a.signum = 1 then a.magnitudeOrder b
    else b.magnitudeOrder a
  | order => order

/-! ## Written form -/

def digits (d : Decimal) : List Char :=
  Nat.toDigits 10 d.coefficient

/-- The absolute value in positional form, for an exponent of at most zero. -/
def positional (d : Decimal) : List Char :=
  let places := (-d.exponent).toNat
  if places = 0 then d.digits
  else
    let padded := List.replicate (places + 1 - d.digits.length) '0' ++ d.digits
    padded.take (padded.length - places) ++ '.' :: padded.drop (padded.length - places)

/-- The absolute value with one digit before the point and an exponent. -/
def scientific (d : Decimal) : List Char :=
  let mantissa := match d.digits with
    | first :: second :: rest => first :: '.' :: second :: rest
    | short => short
  let e := d.leadingExponent
  mantissa ++ 'E' :: (if e < 0 then '-' else '+') :: Nat.toDigits 10 e.natAbs

/-- The written form: positional if the exponent is not positive and at most five zeros follow the
point, else with an exponent. -/
def toText (d : Decimal) : String :=
  let body :=
    if d.exponent ≤ 0 ∧ -6 ≤ d.leadingExponent then d.positional else d.scientific
  String.ofList (if d.negative then '-' :: body else body)

inductive ReadFault where
  /-- A digit without a decimal value, such as a superscript. -/
  | notDecimal
  /-- A number too large or too finely scaled to be held exactly. -/
  | outOfRange
deriving Repr, DecidableEq

/-- The largest place of a leading digit that can be held. -/
def maxExponent : Int := 999999999999999999

/-- The lowest exponent that can be held. -/
def minExponent : Int := -1999999999999999997

/-- Whether a decimal is held exactly. -/
def InRange (d : Decimal) : Prop :=
  d.leadingExponent ≤ maxExponent ∧ minExponent ≤ d.exponent

instance (d : Decimal) : Decidable d.InRange :=
  inferInstanceAs (Decidable (_ ∧ _))

/-- Splits at the first character that satisfies the test; what follows it comes second. -/
def cutAt (test : Char → Bool) (cs : List Char) : List Char × Option (List Char) :=
  match cs.dropWhile (!test ·) with
  | [] => (cs, none)
  | _ :: rest => (cs.takeWhile (!test ·), some rest)

/-- Reads an exponent: digits after an optional sign. -/
def exponentOf? (cs : List Char) : Option Int :=
  match cs with
  | '-' :: digits => (Text.natOfDigits? digits).map fun n => -(n : Int)
  | '+' :: digits => (Text.natOfDigits? digits).map fun n => (n : Int)
  | digits => (Text.natOfDigits? digits).map fun n => (n : Int)

/-- Reads an unsigned number: digits, a fraction and an exponent, the last two of them optional. The
value is exact or the number is refused. -/
def ofLexeme? (negative : Bool) (cs : List Char) : Except ReadFault Decimal :=
  let (number, exponentPart) := cutAt (fun c => c == 'e' || c == 'E') cs
  let (whole, fraction) := cutAt (· == '.') number
  let places := fraction.getD []
  let exponent := match exponentPart with
    | none => some 0
    | some part => exponentOf? part
  match Text.natOfDigits? (whole ++ places), exponent with
  | some coefficient, some exponent =>
    let d : Decimal := ⟨negative, coefficient, exponent - places.length⟩
    if d.InRange then .ok d else .error .outOfRange
  | _, _ => .error .notDecimal

/-- Reads a number that may have a sign. -/
def ofText? (s : String) : Except ReadFault Decimal :=
  match s.toList with
  | '-' :: cs => ofLexeme? true cs
  | '+' :: cs => ofLexeme? false cs
  | cs => ofLexeme? false cs

/-! ## Negation in the working precision -/

/-- Digits kept by arithmetic. -/
def precision : Nat := 28

/-- The largest place of a leading digit that arithmetic returns. -/
def maxWorking : Int := 999999

/-- The lowest place of a leading digit at full precision. -/
def minWorking : Int := -999999

/-- The lowest exponent that arithmetic returns. -/
def tinyWorking : Int := minWorking - precision + 1

/-- The quotient by a power of ten, a half going to the even neighbour. -/
def shiftedRight (n shift : Nat) : Nat :=
  if (Nat.toDigits 10 n).length < shift then 0
  else
    let unit := Nat.pow 10 shift
    let rest := n % unit
    if 2 * rest < unit then n / unit
    else if unit < 2 * rest then n / unit + 1
    else n / unit + n / unit % 2

/-- Rounds a number other than zero to the working precision; `none` if it is too large for it. -/
def rounded (d : Decimal) : Option Decimal :=
  if maxWorking < d.leadingExponent then none
  else if d.leadingExponent < minWorking ∧ d.exponent < tinyWorking then
    some ⟨d.negative, shiftedRight d.coefficient (tinyWorking - d.exponent).toNat, tinyWorking⟩
  else if d.digitCount ≤ precision then some d
  else
    let shift := d.digitCount - precision
    let coefficient := shiftedRight d.coefficient shift
    let r : Decimal :=
      if coefficient = Nat.pow 10 precision then
        ⟨d.negative, Nat.pow 10 (precision - 1), d.exponent + shift + 1⟩
      else ⟨d.negative, coefficient, d.exponent + shift⟩
    if maxWorking < r.leadingExponent then none else some r

/-- The number of opposite sign, rounded to the working precision; zero has no sign. `none` if the
result is too large. -/
def negated (d : Decimal) : Option Decimal :=
  if d.coefficient = 0 then some ⟨false, 0, max tinyWorking (min maxWorking d.exponent)⟩
  else rounded { d with negative := !d.negative }

end Decimal

end RowGuard
