import RowGuard.Number.Decimal

/-!
# Binary floating-point numbers

Numbers of 53 significant bits, held as a mantissa and a power of two. They are read from decimal
text by rounding to the nearest one, are compared through the decimal they are equal to, and are
written with the fewest digits that read back as the same number. The undefined binary number is an
`Undefined`.
-/

set_option autoImplicit false

namespace RowGuard

/-- `± mantissa * 2 ^ exponent`, or an infinity. -/
inductive Binary where
  | finite (negative : Bool) (mantissa : Nat) (exponent : Int)
  | infinite (negative : Bool)
deriving Repr, DecidableEq

namespace Binary

def bits : Nat := 53

/-- The exponent of the smallest numbers. -/
def minExponent : Int := -1074

/-- The exponent of the largest finite numbers. -/
def maxExponent : Int := 971

/-! ## Reading -/

/-- The quotient of two numbers, a half going to the even neighbour. -/
def roundedQuotient (numerator denominator : Nat) : Nat :=
  let quotient := numerator / denominator
  let rest := numerator % denominator
  if 2 * rest < denominator then quotient
  else if denominator < 2 * rest then quotient + 1
  else quotient + quotient % 2

/-- `numerator / denominator / 2 ^ exponent` as a fraction. -/
def scaled (numerator denominator : Nat) (exponent : Int) : Nat × Nat :=
  if exponent < 0 then (numerator * Nat.pow 2 (-exponent).toNat, denominator)
  else (numerator, denominator * Nat.pow 2 exponent.toNat)

/-- The number nearest to a positive fraction. -/
def ofFraction (negative : Bool) (numerator denominator : Nat) : Binary :=
  let guess : Int := (Nat.log2 numerator : Int) - Nat.log2 denominator - bits
  let low := max guess minExponent
  let (n, d) := scaled numerator denominator low
  let exponent := if Nat.pow 2 bits ≤ n / d then low + 1 else low
  let (n, d) := scaled numerator denominator exponent
  let mantissa := roundedQuotient n d
  let (mantissa, exponent) :=
    if mantissa = Nat.pow 2 bits then (Nat.pow 2 (bits - 1), exponent + 1) else (mantissa, exponent)
  if maxExponent < exponent then .infinite negative else .finite negative mantissa exponent

def ofDecimal (d : Decimal) : Binary :=
  if d.coefficient = 0 then .finite d.negative 0 minExponent
  else if 400 < d.leadingExponent then .infinite d.negative
  else if d.leadingExponent < -400 then .finite d.negative 0 minExponent
  else if d.exponent < 0 then ofFraction d.negative d.coefficient (Nat.pow 10 (-d.exponent).toNat)
  else ofFraction d.negative (d.coefficient * Nat.pow 10 d.exponent.toNat) 1

/-- Reads a number or an infinity. -/
def ofText? (s : String) : Option Binary :=
  if s == "inf" then some (.infinite false)
  else if s == "-inf" then some (.infinite true)
  else match Decimal.ofText? s with
    | .ok d => some (ofDecimal d)
    | .error _ => none

/-! ## Value -/

/-- The decimal equal to `± mantissa * 2 ^ exponent`. -/
def toDecimal (negative : Bool) (mantissa : Nat) (exponent : Int) : Decimal :=
  if exponent < 0 then ⟨negative, mantissa * Nat.pow 5 (-exponent).toNat, exponent⟩
  else ⟨negative, mantissa * Nat.pow 2 exponent.toNat, 0⟩

/-! ## The fewest digits -/

/-- The numbers that round to `mantissa * 2 ^ exponent`, as the ends of their interval in units of
`2 ^ (exponent - 2)`. The lower end is nearer at a power of two. -/
def roundingInterval (mantissa : Nat) (exponent : Int) : Nat × Nat :=
  let below := if mantissa = Nat.pow 2 (bits - 1) ∧ minExponent < exponent then 1 else 2
  (4 * mantissa - below, 4 * mantissa + 2)

/-- `d * 10 ^ place` against `m * 2 ^ exponent`. -/
def orderAgainst (d : Nat) (place : Int) (m : Nat) (exponent : Int) : Ordering :=
  Decimal.order ⟨false, d, place⟩ (toDecimal false m exponent)

/-- Whether `d * 10 ^ place` reads back as `mantissa * 2 ^ exponent`; the ends of the interval do so
for an even mantissa. -/
def readsBack (mantissa : Nat) (exponent : Int) (d : Nat) (place : Int) : Bool :=
  let (low, high) := roundingInterval mantissa exponent
  let even := mantissa % 2 == 0
  let aboveLow := match orderAgainst d place low (exponent - 2) with
    | .gt => true
    | .eq => even
    | .lt => false
  let belowHigh := match orderAgainst d place high (exponent - 2) with
    | .lt => true
    | .eq => even
    | .gt => false
  aboveLow && belowHigh

/-- The value's neighbours on the grid of multiples of `10 ^ place` are the result and its
successor. -/
def gridFloor (value : Decimal) (place : Int) : Nat :=
  if place ≤ value.exponent then value.coefficient * Nat.pow 10 (value.exponent - place).toNat
  else value.coefficient / Nat.pow 10 (place - value.exponent).toNat

/-- The better of two neighbours on a grid: the nearer one, and at equal distance the even one. -/
def nearer (value : Decimal) (place : Int) (d : Nat) : Nat :=
  match Decimal.order ⟨false, 10 * d + 5, place - 1⟩ value with
  | .lt => d + 1
  | .gt => d
  | .eq => d + d % 2

/-- Tries grids of more and more digits; at most `count` of them. -/
def digitSearch (mantissa : Nat) (exponent : Int) (value : Decimal) :
    (count : Nat) → (place : Int) → Nat × Int
  | 0, place => (gridFloor value place, place)
  | count + 1, place =>
    let d := gridFloor value place
    let lowHit := readsBack mantissa exponent d place
    let highHit := readsBack mantissa exponent (d + 1) place
    if lowHit && highHit then (nearer value place d, place)
    else if lowHit then (d, place)
    else if highHit then (d + 1, place)
    else digitSearch mantissa exponent value count (place - 1)

/-- The decimal of fewest digits that reads back as a positive number, the nearest of those. -/
def shortest (mantissa : Nat) (exponent : Int) : Decimal :=
  let value := toDecimal false mantissa exponent
  let (d, place) := digitSearch mantissa exponent value 17 value.leadingExponent
  ⟨false, d, place⟩

/-! ## Writing -/

/-- The digits without the zeros at their end, and the place of the point after their front. -/
def pointed (d : Decimal) : List Char × Int :=
  let kept := (d.digits.reverse.dropWhile (· == '0')).reverse
  (kept, d.leadingExponent + 1)

/-- Positional between `10 ^ -4` and `10 ^ 16`, with at least one digit on each side of the point;
else with an exponent of at least two digits. -/
def laidOut (digits : List Char) (point : Int) : List Char :=
  if point ≤ -4 ∨ 16 < point then
    let mantissa := match digits with
      | first :: second :: rest => first :: '.' :: second :: rest
      | short => short
    let e := point - 1
    let exponentDigits := Nat.toDigits 10 e.natAbs
    mantissa ++ 'e' :: (if e < 0 then '-' else '+') ::
      (List.replicate (2 - exponentDigits.length) '0' ++ exponentDigits)
  else if point ≤ 0 then
    '0' :: '.' :: (List.replicate (-point).toNat '0' ++ digits)
  else
    let whole := point.toNat
    let fraction := digits.drop whole
    digits.take whole ++ List.replicate (whole - digits.length) '0' ++ '.' ::
      (if fraction.isEmpty then ['0'] else fraction)

def toText : Binary → String
  | .infinite negative => if negative then "-inf" else "inf"
  | .finite negative mantissa exponent =>
    let body :=
      if mantissa = 0 then ['0', '.', '0']
      else
        let (digits, point) := pointed (shortest mantissa exponent)
        laidOut digits point
    String.ofList (if negative then '-' :: body else body)

end Binary

end RowGuard
