import RowGuard.Value.Basic

/-!
# Equality and order of values

Numbers of all kinds, truth values among them, are compared by their exact value. Lists are compared
with lists and tuples with tuples, the first place where they differ deciding. Pairs without an
order, such as a text and a number, have none.

An undefined number is equal to nothing and has no order. With decimals it goes further: to order a
decimal and an undefined number, and to compare a signaling one with a number at all, is an invalid
operation, which ends the comparison it is part of. `Value.equal?` and `Value.order` say so. Items
of containers are found again by what they are, before they are compared: `Value.same?`.
-/

set_option autoImplicit false

namespace RowGuard

namespace Value

/-! ## Numbers -/

/-- The number line with both its ends, and what is not on it. -/
inductive Number where
  | lowest
  | finite (d : Decimal)
  | highest
  | undefined
deriving Repr, DecidableEq

/-- The order of two numbers, `none` if one is undefined. -/
def Number.order? : Number → Number → Option Ordering
  | .undefined, _ => none
  | _, .undefined => none
  | .lowest, .lowest => some .eq
  | .lowest, _ => some .lt
  | .finite _, .lowest => some .gt
  | .finite a, .finite b => some (a.order b)
  | .finite _, .highest => some .lt
  | .highest, .highest => some .eq
  | .highest, _ => some .gt

def Number.ofSign (negative : Bool) : Number :=
  if negative then .lowest else .highest

def number? : Value → Option Number
  | .bool b => some (.finite (.ofInt (if b then 1 else 0)))
  | .int n => some (.finite (.ofInt n))
  | .decimal d => some (.finite d)
  | .infinite negative => some (.ofSign negative)
  | .float (.finite negative mantissa exponent) =>
    some (.finite (Binary.toDecimal negative mantissa exponent))
  | .float (.infinite negative) => some (.ofSign negative)
  | .undefined _ => some .undefined
  | _ => none

/-- Whether a value is a decimal; its comparisons with numbers are those of decimals. -/
def isDecimal : Value → Bool
  | .decimal _ => true
  | .infinite _ => true
  | .undefined number => number.isDecimal
  | _ => false

def isSignaling : Value → Bool
  | .undefined number => number.isSignaling
  | _ => false

/-! ## Texts -/

/-- Compares two texts by their code points. -/
def textOrder : List Char → List Char → Ordering
  | [], [] => .eq
  | [], _ :: _ => .lt
  | _ :: _, [] => .gt
  | a :: as, b :: bs =>
    match compare a.toNat b.toNat with
    | .eq => textOrder as bs
    | order => order

/-! ## Equality -/

/-- Whether two values are one undefined number. -/
def isIdentical : Value → Value → Bool
  | .undefined m, .undefined n => m == n
  | _, _ => false

/-- Whether two values are equal, where that is decided without looking inside them. -/
def equalLeaf? (a b : Value) : Option Bool :=
  match a.number?, b.number? with
  | some m, some n =>
    if a.isSignaling || b.isSignaling then none else some (m.order? n == some .eq)
  | none, none =>
    match a, b with
    | .null, .null => some true
    | .text s, .text t => some (s == t)
    | .object i _ _ _, .object j _ _ _ => some (i == j)
    | _, _ => some false
  | _, _ => some false

mutual

/-- Whether two values are equal; `none` if comparing them is an invalid operation. -/
def equal? : Value → Value → Option Bool
  | .list as, .list bs => if as.length == bs.length then sameItems? as bs else some false
  | .tuple as, .tuple bs => sameItems? as bs
  | .mapping as, .mapping bs => if as.length == bs.length then sameEntries? as bs else some false
  | .builtin kind name owner, .builtin other called holder =>
    some (kind == other && name == called &&
      (owner.isIdentical holder || equal? owner holder == some true))
  | a, b => equalLeaf? a b
termination_by structural a => a

/-- Whether two sequences have the same items, up to the first that differ. -/
def sameItems? : List Value → List Value → Option Bool
  | [], [] => some true
  | a :: as, b :: bs =>
    if a.isIdentical b then sameItems? as bs
    else match equal? a b with
      | some true => sameItems? as bs
      | outcome => outcome
  | _, _ => some false
termination_by structural as => as

/-- Whether two mappings have the same keys with the same values, up to the first that differ. -/
def sameEntries? : List (String × Value) → List (String × Value) → Option Bool
  | [], [] => some true
  | (k, a) :: as, (l, b) :: bs =>
    if k != l then some false
    else if a.isIdentical b then sameEntries? as bs
    else match equal? a b with
      | some true => sameEntries? as bs
      | outcome => outcome
  | _, _ => some false
termination_by structural as => as

end

/-- Whether two values are one or equal. -/
def same? (a b : Value) : Option Bool :=
  if a.isIdentical b then some true else a.equal? b

/-- Whether two values are one or equal, and comparing them is no invalid operation. -/
def same (a b : Value) : Bool :=
  a.same? b == some true

/-! ## Order -/

/-- The message of an invalid operation. -/
def invalidOperation : String :=
  "[<class 'decimal.InvalidOperation'>]"

/-- How two values stand to one another. -/
inductive Arrangement where
  | ordered (order : Ordering)
  /-- None is less than the other. -/
  | unordered
  /-- Their kinds have no order. -/
  | incomparable
  /-- To compare them is an invalid operation. -/
  | invalid
deriving Repr, DecidableEq

/-- How two values stand to one another, where that is decided without looking inside them. -/
def orderLeaf (a b : Value) : Arrangement :=
  match a.number?, b.number? with
  | some m, some n =>
    match m.order? n with
    | some order => .ordered order
    | none => if a.isDecimal || b.isDecimal then .invalid else .unordered
  | none, none =>
    match a, b with
    | .text s, .text t => .ordered (textOrder s.toList t.toList)
    | _, _ => .incomparable
  | _, _ => .incomparable

mutual

def order : Value → Value → Arrangement
  | .list as, .list bs => orderItems as bs
  | .tuple as, .tuple bs => orderItems as bs
  | a, b => orderLeaf a b
termination_by structural a => a

/-- How two sequences stand to one another: as the first items that differ, or else as the
lengths. -/
def orderItems : List Value → List Value → Arrangement
  | [], [] => .ordered .eq
  | [], _ :: _ => .ordered .lt
  | _ :: _, [] => .ordered .gt
  | a :: as, b :: bs =>
    match same? a b with
    | some true => orderItems as bs
    | some false => order a b
    | none => .invalid
termination_by structural as => as

end

end Value

end RowGuard
