import RowGuard.Text.CharClass

/-!
# Quoted texts

Two ways to put a text in quotes. `quoteLiteral` is the one of policy and filter texts: single
quotes, a quote inside written twice. `quoted` is the one of messages: the quote that needs no
escape if there is one, and an escape for every character that cannot be shown.
-/

set_option autoImplicit false

namespace RowGuard.Text

/-! ## Literals -/

/-- Writes every occurrence of the quote twice. -/
def doubleQuotes (quote : Char) : List Char → List Char
  | [] => []
  | c :: rest =>
    if c == quote then c :: c :: doubleQuotes quote rest else c :: doubleQuotes quote rest

/-- A text as a literal: in single quotes, with the quotes inside it doubled. -/
def quoteLiteral (s : String) : String :=
  String.ofList ('\'' :: doubleQuotes '\'' s.toList ++ ['\''])

/-! ## Texts in messages -/

/-- A number in hexadecimal digits, at least `width` of them. -/
def hexDigits (width n : Nat) : List Char :=
  let digits := Nat.toDigits 16 n
  List.replicate (width - digits.length) '0' ++ digits

def escapeChar (quote c : Char) : List Char :=
  if c == quote || c == '\\' then ['\\', c]
  else if c == '\n' then ['\\', 'n']
  else if c == '\r' then ['\\', 'r']
  else if c == '\t' then ['\\', 't']
  else if isPrintable c then [c]
  else if c.toNat < 0x100 then '\\' :: 'x' :: hexDigits 2 c.toNat
  else if c.toNat < 0x10000 then '\\' :: 'u' :: hexDigits 4 c.toNat
  else '\\' :: 'U' :: hexDigits 8 c.toNat

/-- Single quotes, unless the text has a single quote and no double quote. -/
def quoteMark (cs : List Char) : Char :=
  if cs.contains '\'' && !cs.contains '"' then '"' else '\''

def quoted (s : String) : String :=
  let quote := quoteMark s.toList
  String.ofList (quote :: s.toList.flatMap (escapeChar quote) ++ [quote])

/-- Texts in brackets, with the comma that marks a list of one. -/
def quotedTuple (items : List String) : String :=
  match items with
  | [item] => "(" ++ quoted item ++ ",)"
  | _ => "(" ++ joinWith ", " (items.map quoted) ++ ")"

end RowGuard.Text
