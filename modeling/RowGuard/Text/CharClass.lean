import RowGuard.Text.CharRanges

/-!
# Character classes

The classes that policy texts, names and quoted values are read and written by. ASCII characters
are classified by rule and all others by the tables of `RowGuard.Text.CharRanges`, so that a name in
any script is a name.
-/

set_option autoImplicit false

namespace RowGuard.Text

/-- White space: what separates words and is trimmed from the ends of a text. -/
def isBlank (c : Char) : Bool :=
  if c.toNat < 0x80 then
    c == ' ' || (0x09 ≤ c.toNat && c.toNat ≤ 0x0D) || (0x1C ≤ c.toNat && c.toNat ≤ 0x1F)
  else blankRanges.has c.toNat

def isLetter (c : Char) : Bool :=
  if c.toNat < 0x80 then c.isAlpha else letterRanges.has c.toNat

/-- Digits. Not every one of them has a decimal value: see `digitValue?`. -/
def isDigit (c : Char) : Bool :=
  if c.toNat < 0x80 then c.isDigit else digitRanges.has c.toNat

/-- Letters, digits and other numerals. -/
def isAlphanumeric (c : Char) : Bool :=
  if c.toNat < 0x80 then c.isAlphanum
  else letterRanges.has c.toNat || digitRanges.has c.toNat || numeralRanges.has c.toNat

/-- What a word is made of: alphanumeric characters and the underscore. -/
def isWordChar (c : Char) : Bool :=
  isAlphanumeric c || c == '_'

/-- Characters shown as themselves inside quotes. -/
def isPrintable (c : Char) : Bool :=
  if c.toNat < 0x80 then 0x20 ≤ c.toNat && c.toNat ≤ 0x7E else !hiddenRanges.has c.toNat

/-- The value of a decimal digit of any script; superscript and circled digits have none. -/
def digitValue? (c : Char) : Option Nat :=
  if c.toNat < 0x80 then
    if c.isDigit then some (c.toNat - '0'.toNat) else none
  else
    (zeroDigits.find? fun base => base ≤ c.toNat && c.toNat < base + 10).map (c.toNat - ·)

/-! ## Texts made of one class -/

/-- The number written by a run of decimal digits; `none` if the run is empty or holds anything
else. -/
def natOfDigits? : List Char → Option Nat
  | [] => none
  | digits => digits.foldlM (fun value c => (digitValue? c).map (value * 10 + ·)) 0

/-- The most digits that an integer is read from or written with. -/
def maxDigits : Nat := 4300

def trim (cs : List Char) : List Char :=
  ((cs.dropWhile isBlank).reverse.dropWhile isBlank).reverse

def trimString (s : String) : String :=
  String.ofList (trim s.toList)

/-! ## Cutting and joining -/

/-- The pieces of a text between the occurrences of `sep`; there is one piece more than there are
separators. -/
def splitAtEach (sep : Char) : List Char → List (List Char)
  | [] => [[]]
  | c :: rest =>
    if c == sep then [] :: splitAtEach sep rest
    else match splitAtEach sep rest with
      | [] => [[c]]
      | piece :: pieces => (c :: piece) :: pieces

def dottedParts (s : String) : List String :=
  (splitAtEach '.' s.toList).map String.ofList

def lastDottedPart (s : String) : String :=
  String.ofList (s.toList.reverse.takeWhile (· != '.')).reverse

/-- Whether `needle` occurs in the text as one piece. -/
def occursIn (needle : List Char) : List Char → Bool
  | [] => needle.isEmpty
  | c :: rest => needle.isPrefixOf (c :: rest) || occursIn needle rest

def joinWith (sep : String) : List String → String
  | [] => ""
  | [s] => s
  | s :: rest => s ++ sep ++ joinWith sep rest

end RowGuard.Text
