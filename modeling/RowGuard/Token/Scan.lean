import RowGuard.Token.Basic

/-!
# Reading tokens

`Token.scan` splits a policy text into tokens. Blanks and comments separate tokens and are dropped;
so is a type cast, `::` and the type name that follows it, which carries no meaning here. The last
token is always the end of the text.

Each lexical rule works on the text that is left and says what it leaves in turn. `Token.scanFrom`
walks over the text once, passing over what a rule has taken.
-/

set_option autoImplicit false

namespace RowGuard

namespace Token

/-- A failure at the place where `rest` begins, in a text of `size` characters. -/
def failAt (size : Nat) (rest : List Char) (expected found : String) : ReadError :=
  .malformed ⟨size - rest.length, expected, found⟩

/-! ## Names and texts -/

/-- What a name written without quotes begins with. -/
def beginsName (c : Char) : Bool :=
  Text.isLetter c || c == '_'

/-- What such a name goes on with. -/
def continuesName (c : Char) : Bool :=
  Text.isAlphanumeric c || c == '_' || c == '$'

/-- Reads up to the closing quote, a doubled quote standing for one: the content and what follows
the closing quote. -/
def unquote (quote : Char) : List Char → Option (List Char × List Char)
  | [] => none
  | [c] => if c == quote then some ([], []) else none
  | c :: d :: rest =>
    if c == quote then
      if d == quote then (unquote quote rest).map fun read => (quote :: read.1, read.2)
      else some ([], d :: rest)
    else (unquote quote (d :: rest)).map fun read => (c :: read.1, read.2)

/-! ## Comments -/

/-- What follows a line comment. -/
def afterLine (cs : List Char) : List Char :=
  (cs.dropWhile (· != '\n')).drop 1

def afterPair (first second : Char) : List Char → Option (List Char)
  | [] => none
  | [_] => none
  | c :: d :: rest =>
    if c == first && d == second then some rest else afterPair first second (d :: rest)

def afterFirst (wanted : Char) : List Char → Option (List Char)
  | [] => none
  | c :: rest => if c == wanted then some rest else afterFirst wanted rest

/-! ## Numbers -/

/-- An exponent: its text and what follows. A mark without digits after it is none. -/
def takeExponent (cs : List Char) : List Char × List Char :=
  match cs with
  | mark :: rest =>
    if mark == 'e' || mark == 'E' then
      let (sign, digits) := match rest with
        | c :: more => if c == '+' || c == '-' then ([c], more) else ([], rest)
        | [] => ([], rest)
      match digits.takeWhile Text.isDigit with
      | [] => ([], cs)
      | run => (mark :: sign ++ run, digits.dropWhile Text.isDigit)
    else ([], cs)
  | [] => ([], cs)

/-- A fraction: its text and what follows. A point without a digit after it is none. -/
def takeFraction (cs : List Char) : List Char × List Char :=
  match cs with
  | '.' :: rest =>
    match rest.takeWhile Text.isDigit with
    | [] => ([], cs)
    | run => ('.' :: run, rest.dropWhile Text.isDigit)
  | _ => ([], cs)

/-- Reads an integer. The digits that have a decimal value are counted before anything else is
looked at. -/
def integer (digits : List Char) : Except ReadError Nat :=
  let count := (digits.takeWhile fun c => (Text.digitValue? c).isSome).length
  if Text.maxDigits < count then .error (.tooLong count)
  else match Text.natOfDigits? digits with
    | some n => .ok n
    | none => .error (.notInteger (String.ofList digits))

/-- Reads a number. One with a fraction or an exponent is a decimal. -/
def number (cs : List Char) : Except ReadError (Lexeme × List Char) :=
  let whole := cs.takeWhile Text.isDigit
  let (fraction, rest) := takeFraction (cs.dropWhile Text.isDigit)
  let (exponent, rest) := takeExponent rest
  if fraction.isEmpty && exponent.isEmpty then
    (integer whole).map fun n => (.integer n, rest)
  else
    match Decimal.ofLexeme? false (whole ++ fraction ++ exponent) with
    | .ok d => .ok (.decimal d, rest)
    | .error fault => .error (.decimal fault)

/-! ## Type casts -/

/-- Type names of several words: the first word and the ways it goes on. -/
def phrases : String → List (List String)
  | "character" => [["varying"]]
  | "bit" => [["varying"]]
  | "double" => [["precision"]]
  | "timestamp" => [["with", "time", "zone"], ["without", "time", "zone"]]
  | "time" => [["with", "time", "zone"], ["without", "time", "zone"]]
  | _ => []

/-- One word of a type name, in lower case and without its quotes, and what follows it. -/
def typeWord (size : Nat) (cs : List Char) : Except ReadError (String × List Char) :=
  match cs with
  | '"' :: rest =>
    match unquote '"' rest with
    | none => .error (failAt size [] "closing double quote" "")
    | some (_, after) =>
      let raw := cs.take (cs.length - after.length)
      let bare := ((raw.dropWhile (· == '"')).reverse.dropWhile (· == '"')).reverse
      .ok (String.ofList (Text.lowerChars bare), after)
  | c :: _ =>
    if beginsName c then
      .ok (String.ofList (Text.lowerChars (cs.takeWhile continuesName)), cs.dropWhile continuesName)
    else .error (failAt size cs "type name after '::'" (String.singleton c))
  | [] => .error (failAt size cs "type name after '::'" "")

/-- The last word of a dotted type name and what follows it. A text of `fuel` characters has no
longer chain. -/
def typeName (size : Nat) : (fuel : Nat) → List Char → Except ReadError (String × List Char)
  | 0, cs => typeWord size cs
  | fuel + 1, cs => do
    let (word, after) ← typeWord size cs
    match after with
    | '.' :: rest => typeName size fuel rest
    | _ => pure (word, after)

/-- Passes over a length or precision in brackets. -/
def skipModifiers (size : Nat) (cs : List Char) : Except ReadError (List Char) :=
  match cs.dropWhile Text.isBlank with
  | '(' :: rest =>
    match afterFirst ')' rest with
    | some after => .ok after
    | none => .error (failAt size [] "')'" "")
  | _ => .ok cs

/-- What follows the words of a phrase, if the text goes on with them. -/
def afterPhrase (cs : List Char) : List String → Option (List Char)
  | [] => some cs
  | part :: parts =>
    let start := cs.dropWhile Text.isBlank
    if String.ofList (Text.lowerChars (start.takeWhile continuesName)) == part then
      afterPhrase (start.dropWhile continuesName) parts
    else none

/-- Passes over `[]` and `[n]`. Brackets around anything else are left alone. A text of `fuel`
characters has no more of them. -/
def skipDimensions (size : Nat) : (fuel : Nat) → List Char → Except ReadError (List Char)
  | 0, cs => .ok cs
  | fuel + 1, cs =>
    match cs.dropWhile Text.isBlank with
    | '[' :: rest =>
      match afterFirst ']' rest with
      | none => .error (failAt size [] "']'" "")
      | some after =>
        let inner := Text.trim (rest.take (rest.length - after.length - 1))
        if inner.all Text.isDigit then skipDimensions size fuel after else .ok cs
    | _ => .ok cs

/-- Passes over the type name that follows `::`. -/
def skipType (size : Nat) (cs : List Char) : Except ReadError (List Char) := do
  let (word, after) ← typeName size cs.length (cs.dropWhile Text.isBlank)
  let after ← skipModifiers size after
  let after ← match (phrases word).findSome? (afterPhrase after) with
    | some rest => skipModifiers size rest
    | none => pure after
  skipDimensions size after.length after

/-! ## Operators and punctuation -/

def isOperatorChar (c : Char) : Bool :=
  "=<>!+-*/%|&~^@#?".toList.contains c

/-- Operators of several characters, the longest first. -/
def longOperators : List String :=
  ["->>", "#>>", "<=", ">=", "<>", "!=", "||", "->", "#>", "~~", "!~", "@>", "<@", "&&"]

/-- The operator that a text beginning with an operator character begins with. -/
def operatorAt (c : Char) (rest : List Char) : String :=
  (longOperators.find? fun symbol => symbol.toList.isPrefixOf (c :: rest)).getD
    (String.singleton c)

def punctuation? : Char → Option Lexeme
  | '(' => some .leftParen
  | ')' => some .rightParen
  | '[' => some .leftBracket
  | ']' => some .rightBracket
  | ',' => some .comma
  | '.' => some .dot
  | _ => none

/-! ## One step -/

/-- What stands at the front of a text: a lexeme, or something dropped; and what follows it. -/
def step (size : Nat) (c : Char) (rest : List Char) :
    Except ReadError (Option Lexeme × List Char) :=
  let cs := c :: rest
  if Text.isBlank c then .ok (none, rest)
  else if ['-', '-'].isPrefixOf cs then .ok (none, afterLine cs)
  else if ['/', '*'].isPrefixOf cs then
    match afterPair '*' '/' (rest.drop 1) with
    | some after => .ok (none, after)
    | none => .error (failAt size cs "'*/'" "")
  else if [':', ':'].isPrefixOf cs then
    (skipType size (rest.drop 1)).map fun after => (none, after)
  else if c == '\'' then
    match unquote '\'' rest with
    | some (content, after) => .ok (some (.text (String.ofList content)), after)
    | none => .error (failAt size [] "closing quote" "")
  else if c == '"' then
    match unquote '"' rest with
    | some (content, after) => .ok (some (.quotedName (String.ofList content)), after)
    | none => .error (failAt size [] "closing double quote" "")
  else if Text.isDigit c then
    (number cs).map fun read => (some read.1, read.2)
  else if beginsName c then
    .ok (some (.word (String.ofList (cs.takeWhile continuesName))), cs.dropWhile continuesName)
  else match punctuation? c with
    | some lexeme => .ok (some lexeme, rest)
    | none =>
      if isOperatorChar c then
        let symbol := operatorAt c rest
        .ok (some (.operator symbol), cs.drop symbol.length)
      else .error (failAt size cs "a token" (String.singleton c))

/-! ## The whole text -/

/-- The tokens of a text of which `size` is the size, after `skip` more characters. -/
def scanFrom (size : Nat) (skip : Nat) : List Char → Except ReadError (List Token)
  | [] => .ok [⟨.finish, size, size⟩]
  | c :: rest =>
    match skip with
    | skip + 1 => scanFrom size skip rest
    | 0 => do
      let (lexeme?, after) ← step size c rest
      let tokens ← scanFrom size (rest.length - after.length) rest
      match lexeme? with
      | some lexeme => pure (⟨lexeme, size - (rest.length + 1), size - after.length⟩ :: tokens)
      | none => pure tokens

def scan (text : String) : Except ReadError (List Token) :=
  scanFrom text.length 0 text.toList

end Token

end RowGuard
