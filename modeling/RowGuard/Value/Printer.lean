import RowGuard.Value.Basic
import RowGuard.Text.Quoted

/-!
# Written values

Values are written in two ways: as messages show them (`Value.shown`) and as policy and filter texts
write them (`Value.written`). Both agree on numbers.
-/

set_option autoImplicit false

namespace RowGuard

namespace Value

def intText (n : Int) : String :=
  if n < 0 then "-" ++ toString n.natAbs else toString n.natAbs

def infiniteText (negative : Bool) : String :=
  if negative then "-Infinity" else "Infinity"

mutual

/-- A value as messages show it. -/
def shown : Value → String
  | .null => "None"
  | .bool b => if b then "True" else "False"
  | .int n => intText n
  | .decimal d => "Decimal('" ++ d.toText ++ "')"
  | .infinite negative => "Decimal('" ++ infiniteText negative ++ "')"
  | .float f => f.toText
  | .undefined number =>
    if number.isDecimal then "Decimal('" ++ number.toText ++ "')" else number.toText
  | .text s => Text.quoted s
  | .list items => "[" ++ Text.joinWith ", " (shownItems items) ++ "]"
  | .tuple [item] => "(" ++ shown item ++ ",)"
  | .tuple items => "(" ++ Text.joinWith ", " (shownItems items) ++ ")"
  | .mapping entries => "\x7b" ++ Text.joinWith ", " (shownEntries entries) ++ "\x7d"
  | .object _ kind _ _ => "<" ++ kind ++ ">"
  | .builtin kind name _ => "<built-in method " ++ name ++ " of " ++ kind ++ " object>"
termination_by structural value => value

def shownItems : List Value → List String
  | [] => []
  | item :: items => shown item :: shownItems items
termination_by structural items => items

def shownEntries : List (String × Value) → List String
  | [] => []
  | (name, value) :: entries => (Text.quoted name ++ ": " ++ shown value) :: shownEntries entries
termination_by structural entries => entries

end

/-- A value as text: a text is itself and everything else is as messages show it, but for a decimal,
which is its digits. -/
def plain : Value → String
  | .text s => s
  | .decimal d => d.toText
  | .infinite negative => infiniteText negative
  | .undefined number => number.toText
  | value => value.shown

/-- Reads a decimal of any kind from its digits. An undefined one is the one of the given `id`. -/
def ofDecimalText? (id : Nat) (s : String) : Option Value :=
  let (negative, body) := match s.toList with
    | '-' :: rest => (true, rest)
    | rest => (false, rest)
  match body with
  | ['I', 'n', 'f', 'i', 'n', 'i', 't', 'y'] => some (.infinite negative)
  | 'N' :: 'a' :: 'N' :: digits =>
    some (.undefined ⟨id, .quiet negative ((Text.natOfDigits? digits).getD 0)⟩)
  | 's' :: 'N' :: 'a' :: 'N' :: digits =>
    some (.undefined ⟨id, .signaling negative ((Text.natOfDigits? digits).getD 0)⟩)
  | _ => (Decimal.ofText? s).toOption.map .decimal

/-- A value as policy and filter texts write it. -/
def written : Value → String
  | .null => "null"
  | .bool b => if b then "true" else "false"
  | .int n => intText n
  | .float f => f.toText
  | .decimal d => d.toText
  | .infinite negative => infiniteText negative
  | .undefined number => number.toText
  | .text s => Text.quoteLiteral s
  | value => value.shown

end Value

end RowGuard
