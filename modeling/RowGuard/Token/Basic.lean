import RowGuard.Number.Decimal
import RowGuard.Text.LetterCase
import RowGuard.Text.Quoted

/-!
# Tokens of policy texts

A token is a lexeme and the span of text it was read from. Positions count characters.
-/

set_option autoImplicit false

namespace RowGuard

inductive Lexeme where
  /-- A name or keyword written without quotes. -/
  | word (text : String)
  /-- A name in double quotes. -/
  | quotedName (text : String)
  /-- A text in single quotes. -/
  | text (content : String)
  | integer (n : Nat)
  | decimal (d : Decimal)
  | operator (symbol : String)
  | leftParen
  | rightParen
  | leftBracket
  | rightBracket
  | comma
  | dot
  | finish
deriving Repr, DecidableEq

/-- A lexeme and its span, `start` included and `stop` not. -/
structure Token where
  lexeme : Lexeme
  start : Nat
  stop : Nat
deriving Repr, DecidableEq

/-- Words that the grammar keeps to itself. -/
inductive Keyword where
  | all | and | any | array | as | case | cast | else | end | exists | false | from | ilike | in
  | is | like | not | null | or | select | some | then | true | when | where
deriving Repr, DecidableEq

namespace Keyword

def text : Keyword → String
  | .all => "ALL"
  | .and => "AND"
  | .any => "ANY"
  | .array => "ARRAY"
  | .as => "AS"
  | .case => "CASE"
  | .cast => "CAST"
  | .else => "ELSE"
  | .end => "END"
  | .exists => "EXISTS"
  | .false => "FALSE"
  | .from => "FROM"
  | .ilike => "ILIKE"
  | .in => "IN"
  | .is => "IS"
  | .like => "LIKE"
  | .not => "NOT"
  | .null => "NULL"
  | .or => "OR"
  | .select => "SELECT"
  | .some => "SOME"
  | .then => "THEN"
  | .true => "TRUE"
  | .when => "WHEN"
  | .where => "WHERE"

/-- Every keyword, in alphabetical order. -/
def every : List Keyword :=
  [.all, .and, .any, .array, .as, .case, .cast, .else, .end, .exists, .false, .from, .ilike, .in,
    .is, .like, .not, .null, .or, .select, .some, .then, .true, .when, .where]

/-- The keyword that a word is, in whatever case it is written. -/
def ofWord? (word : String) : Option Keyword :=
  every.find? fun keyword => keyword.text == Text.upper word

end Keyword

namespace Token

/-- The word in upper case; `none` for every other lexeme, a quoted name included. -/
def upperWord? (token : Token) : Option String :=
  match token.lexeme with
  | .word text => some (Text.upper text)
  | _ => none

def keyword? (token : Token) : Option Keyword :=
  match token.lexeme with
  | .word text => Keyword.ofWord? text
  | _ => none

end Token

/-! ## Failures -/

/-- What was found in a text in the place of what was expected; nothing is found at its end. -/
structure Malformed where
  position : Nat
  expected : String
  found : String
deriving Repr, DecidableEq

def Malformed.about (position expected found : String) : String :=
  let got := if found == "" then "reached end of input" else "found " ++ Text.quoted found
  "Syntax error at position " ++ position ++ ": expected " ++ expected ++ ", " ++ got

def Malformed.message (failure : Malformed) : String :=
  Malformed.about (toString failure.position) failure.expected failure.found

inductive ReadError where
  | malformed (failure : Malformed)
  /-- An integer has a digit without a decimal value. -/
  | notInteger (digits : String)
  /-- An integer begins with more digits than are read. -/
  | tooLong (digits : Nat)
  /-- A number with a fraction or an exponent cannot be held. -/
  | decimal (fault : Decimal.ReadFault)
  /-- A negated number is too large for the working precision. -/
  | tooLarge
deriving Repr, DecidableEq

/-- The message of an error. No more than 200 characters of a faulty integer are shown. -/
def ReadError.message : ReadError → String
  | .malformed failure => failure.message
  | .notInteger digits => "invalid literal for int() with base 10: " ++
    String.ofList ((Text.quoted digits).toList.take 200)
  | .tooLong digits => "Exceeds the limit (" ++ toString Text.maxDigits ++
    " digits) for integer string conversion: value has " ++ toString digits ++
    " digits; use sys.set_int_max_str_digits() to increase the limit"
  | .decimal .notDecimal => "[<class 'decimal.ConversionSyntax'>]"
  | .decimal .outOfRange => "[<class 'decimal.InvalidOperation'>]"
  | .tooLarge => "[<class 'decimal.Overflow'>]"

end RowGuard
