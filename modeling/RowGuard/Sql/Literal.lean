import RowGuard.Schema.Model
import RowGuard.Text.LetterCase
import RowGuard.Value.Order
import RowGuard.Value.Printer

/-!
# Values in SQL texts

A value is written as a literal of a type. A value that has a type of its own is written as that
type wants it; any other, and every further item of a list, is written as the type of the column or
of the first item wants it. Not every value can be written as every type.
-/

set_option autoImplicit false

namespace RowGuard

namespace Decimal

/-- The whole part of a number; `none` if it has more digits than an integer is written with. -/
def truncated? (d : Decimal) : Option Int :=
  if d.coefficient = 0 ∨ d.leadingExponent < 0 then some 0
  else if Text.maxDigits ≤ d.leadingExponent.toNat then none
  else
    let size := if d.exponent < 0 then d.coefficient / Nat.pow 10 d.exponent.natAbs
      else d.coefficient * Nat.pow 10 d.exponent.natAbs
    some (if d.negative then -(Int.ofNat size) else Int.ofNat size)

end Decimal

namespace Sql

/-! ## Integers -/

/-- White space around an integer. The separators among the control characters are none. -/
def isPadding (c : Char) : Bool :=
  Text.isBlank c && !(0x1C ≤ c.toNat && c.toNat ≤ 0x1F)

/-- The number written in groups of digits with an underscore between any two of them. -/
def natOfGroups? (cs : List Char) : Option Nat :=
  let groups := Text.splitAtEach '_' cs
  if groups.any List.isEmpty || Text.maxDigits < groups.flatten.length then none
  else Text.natOfDigits? groups.flatten

/-- Reads an integer with white space around it and a sign in front. -/
def integerOfText? (s : String) : Option Int :=
  match ((s.toList.dropWhile isPadding).reverse.dropWhile isPadding).reverse with
  | '-' :: groups => (natOfGroups? groups).map fun n => -(Int.ofNat n)
  | '+' :: groups => (natOfGroups? groups).map Int.ofNat
  | groups => (natOfGroups? groups).map Int.ofNat

def integerOf? : Value → Option Int
  | .int n => some n
  | .bool b => some (if b then 1 else 0)
  | .decimal d => d.truncated?
  | .float (.finite negative mantissa exponent) =>
    (Binary.toDecimal negative mantissa exponent).truncated?
  | .text s => integerOfText? s
  | _ => none

/-! ## Numbers of any kind -/

/-- Whether a text is a number: digits with a sign, a fraction and an exponent if wanted, or a word
for an infinite or an undefined number, the latter with digits behind it if wanted. Blanks around it
and underscores anywhere do not count. -/
def isNumeral (s : String) : Bool :=
  let body := match (Text.trim s.toList).filter (· != '_') with
    | '-' :: rest => rest
    | '+' :: rest => rest
    | rest => rest
  let word := body.map Char.toLower
  let undefinedAs (name : String) : Bool :=
    name.toList.isPrefixOf word &&
      (word.drop name.length).all fun c => (Text.digitValue? c).isSome
  word == "inf".toList || word == "infinity".toList || undefinedAs "nan" || undefinedAs "snan" ||
    (Decimal.ofLexeme? false body).toBool

/-- The integer that a value is, truth values among them. -/
def wholeOf? : Value → Option Int
  | .int n => some n
  | .bool b => some (if b then 1 else 0)
  | _ => none

def digitOf? (value : Value) : Option Nat :=
  (wholeOf? value).bind fun n => if 0 ≤ n ∧ n ≤ 9 then some n.toNat else none

def digitsOf? : Value → Option (List Nat)
  | .list items => items.mapM digitOf?
  | .tuple items => items.mapM digitOf?
  | _ => none

/-- Whether the parts of a number are given: its sign as zero or one, its digits, and its exponent
or the letter for an infinite or an undefined number. -/
def areParts : List Value → Bool
  | [sign, digits, exponent] =>
    match wholeOf? sign, digitsOf? digits, exponent with
    | none, _, _ => false
    | _, none, _ => false
    | some sign, some _, .text letter =>
      (sign == 0 || sign == 1) && ["F", "n", "N"].contains letter
    | some sign, some digits, exponent =>
      (sign == 0 || sign == 1) && match wholeOf? exponent with
        | some exponent =>
          decide (Decimal.InRange ⟨false, digits.foldl (· * 10 + ·) 0, exponent⟩)
        | none => false
  | _ => false

def isNumber : Value → Bool
  | .int _ => true
  | .bool _ => true
  | .decimal _ => true
  | .infinite _ => true
  | .float _ => true
  | .undefined _ => true
  | .text s => isNumeral s
  | .list items => areParts items
  | .tuple items => areParts items
  | _ => false

/-! ## Truth values -/

/-- The truth value that a value is taken for: zero and one are. -/
def truthOf? (value : Value) : Option Bool :=
  if value.same (.bool true) then some true
  else if value.same (.bool false) then some false
  else none

def truthText (b : Bool) : String :=
  if b then "true" else "false"

end Sql

namespace ColumnType

/-- The type that a value has by itself. -/
def ofValue? : Value → Option ColumnType
  | .bool _ => some .boolean
  | .int _ => some .integer
  | .decimal _ => some .numeric
  | .infinite _ => some .numeric
  | .float _ => some .numeric
  | .undefined _ => some .numeric
  | .text _ => some .text
  | _ => none

/-- The literal of a value, if it can be written as the type. A number is written as the value is,
whatever it can be read as. -/
def literal? (type : ColumnType) (value : Value) : Option String :=
  if value.isNull then some "NULL"
  else match type with
    | .integer => (Sql.integerOf? value).map Value.intText
    | .text =>
      match value with
      | .text s => some (Text.quoteLiteral s)
      | _ => none
    | .boolean => (Sql.truthOf? value).map Sql.truthText
    | .numeric => if Sql.isNumber value then some value.plain else none

end ColumnType

end RowGuard
