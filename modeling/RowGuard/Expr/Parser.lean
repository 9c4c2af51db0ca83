import RowGuard.Expr.Basic
import RowGuard.Token.Scan

/-!
# Reading policy texts

A recursive-descent reader. From loosest to tightest: `OR`, `AND`, `NOT`, comparisons, primaries.
Subqueries are taken over as they are written, up to the parenthesis that closes them.

Each rule reads from the tokens that are left and returns what it leaves. The result carries the
number of tokens that were surely taken, so the rules end on every input.
-/

set_option autoImplicit false

namespace RowGuard

namespace Expr

/-! ## Reading tokens -/

/-- The text being read and the entity it is about. -/
structure Source where
  text : List Char
  entity : String

/-- What a rule has read from `tokens`, at least `least` of them, and what it leaves. -/
structure Read (α : Type) (tokens : List Token) (least : Nat) where
  value : α
  rest : List Token
  taken : rest.length + least ≤ tokens.length

abbrev Reading (α : Type) (tokens : List Token) (least : Nat) :=
  Except ReadError (Read α tokens least)

namespace Source

/-- The token at the front; the end of the text if there is none. -/
def front (source : Source) (tokens : List Token) : Token :=
  tokens.headD ⟨.finish, source.text.length, source.text.length⟩

def slice (source : Source) (start stop : Nat) : List Char :=
  (source.text.drop start).take (stop - start)

def failure (source : Source) (expected : String) (token : Token) : ReadError :=
  let found := match token.lexeme with
    | .finish => ""
    | _ => String.ofList (source.slice token.start token.stop)
  .malformed ⟨token.start, expected, found⟩

def take (source : Source) (lexeme : Lexeme) (expected : String) (tokens : List Token) :
    Reading Unit tokens 1 :=
  match tokens with
  | token :: rest =>
    if token.lexeme = lexeme then .ok ⟨(), rest, by simp⟩
    else .error (source.failure expected token)
  | [] => .error (source.failure expected (source.front []))

def takeKeyword (source : Source) (keyword : Keyword) (tokens : List Token) :
    Reading Unit tokens 1 :=
  match tokens with
  | token :: rest =>
    if token.keyword? = some keyword then .ok ⟨(), rest, by simp⟩
    else .error (source.failure keyword.text token)
  | [] => .error (source.failure keyword.text (source.front []))

def keyword? (source : Source) (tokens : List Token) : Option Keyword :=
  (source.front tokens).keyword?

end Source

/-! ## Names -/

/-- A name: in quotes, or a word that is no keyword. -/
def name? (token : Token) : Option String :=
  match token.lexeme with
  | .quotedName text => some text
  | .word text => if (Keyword.ofWord? text).isSome then none else some text
  | _ => none

/-- What a dotted name that is not called stands for: one of the functions written without
parentheses, or a column. A qualifier that names the policy's own entity is dropped. -/
def ofParts (source : Source) (first : String) (more : List String) : Expr :=
  match more.reverse with
  | [] =>
    if ["current_user", "session_user", "current_role"].contains (Text.lower first) then
      .call (Text.lower first) []
    else .column first none
  | last :: before =>
    let qualifier := before.headD first
    if Text.lower qualifier == Text.lower source.entity then .column last none
    else .column last (some qualifier)

/-- A call; reading a session setting by a literal key is a node of its own. -/
def ofCall (name : String) (arguments : List Expr) : Expr :=
  let isSetting :=
    ["current_setting", "pg_catalog.current_setting"].contains (Text.lower name)
  match isSetting, arguments with
  | Bool.true, .literal ⟨.text, value⟩ :: _ =>
    match value with
    | .text key => .setting key
    | _ => .call name arguments
  | _, _ => .call name arguments

def readName (source : Source) (tokens : List Token) : Reading String tokens 1 :=
  match tokens with
  | token :: rest =>
    match name? token with
    | some name => .ok ⟨name, rest, by simp⟩
    | none => .error (source.failure "an identifier" token)
  | [] => .error (source.failure "an identifier" (source.front []))

def readParts (source : Source) (tokens : List Token) : Reading (List String) tokens 0 :=
  match tokens with
  | ⟨.dot, _, _⟩ :: rest => do
    let part ← readName source rest
    have := part.taken
    let more ← readParts source part.rest
    have := more.taken
    return ⟨part.value :: more.value, more.rest, by grind⟩
  | tokens => return ⟨[], tokens, Nat.le_refl _⟩
termination_by tokens.length
decreasing_by grind

/-! ## Subqueries -/

/-- The name that a token is, keywords included. -/
def anyName? (token : Token) : Option String :=
  match token.lexeme with
  | .quotedName text => some text
  | .word text => some text
  | _ => none

/-- Reads the dotted name after `FROM`; its last part counts. -/
def readTarget (last : Option String) (tokens : List Token) :
    Option String × { rest : List Token // rest.length ≤ tokens.length } :=
  match tokens with
  | [] => (last, ⟨[], by simp⟩)
  | token :: rest =>
    match anyName? token with
    | none => (last, ⟨token :: rest, by simp⟩)
    | some name =>
      match rest with
      | ⟨.dot, _, _⟩ :: after =>
        let (target, ⟨left, shorter⟩) := readTarget (some name) after
        (target, ⟨left, by simp; omega⟩)
      | rest => (some name, ⟨rest, by simp⟩)

/-- Passes over a subquery up to the parenthesis that closes it: where that stands, the entity named
by the first `FROM` outside inner parentheses, and what follows. -/
def readCapture (source : Source) (depth : Nat) (target : Option String) (tokens : List Token) :
    Reading (Nat × Option String) tokens 1 :=
  match tokens with
  | [] => .error (source.failure "')' closing subquery" (source.front []))
  | token :: rest =>
    match token.lexeme with
    | .finish => .error (source.failure "')' closing subquery" token)
    | .leftParen => do
      let read ← readCapture source (depth + 1) target rest
      return ⟨read.value, read.rest, by have := read.taken; grind⟩
    | .rightParen =>
      match depth with
      | 0 => return ⟨(token.start, target), rest, by simp⟩
      | depth + 1 => do
        let read ← readCapture source depth target rest
        return ⟨read.value, read.rest, by have := read.taken; grind⟩
    | _ =>
      if target.isNone && depth == 0 && token.keyword? == some .from then do
        let named := readTarget none rest
        have := named.2.property
        let read ← readCapture source depth named.1 named.2.val
        return ⟨read.value, read.rest, by have := read.taken; grind⟩
      else do
        let read ← readCapture source depth target rest
        return ⟨read.value, read.rest, by have := read.taken; grind⟩
termination_by tokens.length
decreasing_by all_goals grind

/-- Reads the body of a subquery after its opening parenthesis: its text without the blanks around
it, and the entity it names. -/
def readBody (source : Source) (tokens : List Token) :
    Reading (Option String × String) tokens 1 := do
  let read ← readCapture source 0 none tokens
  let body := source.slice (source.front tokens).start read.value.1
  return ⟨(read.value.2, String.ofList (Text.trim body)), read.rest, read.taken⟩

def readSubquery (source : Source) (tokens : List Token) : Reading Expr tokens 1 := do
  let read ← readBody source tokens
  return ⟨.subquery read.value.1 read.value.2, read.rest, read.taken⟩

def readExistence (source : Source) (tokens : List Token) : Reading Expr tokens 1 := do
  let start ← source.take .leftParen "'(' after EXISTS" tokens
  let read ← readBody source start.rest
  if read.value.2 == "" then
    throw (source.failure "a subquery inside EXISTS" (source.front read.rest))
  return ⟨.existence read.value.1 read.value.2, read.rest, by
    have := start.taken; have := read.taken; omega⟩

/-- Passes over a type name up to the parenthesis that closes a cast. -/
def readCastType (source : Source) (depth : Nat) (tokens : List Token) : Reading Unit tokens 1 :=
  match tokens with
  | [] => .error (source.failure "')' closing CAST" (source.front []))
  | token :: rest =>
    match token.lexeme with
    | .finish => .error (source.failure "')' closing CAST" token)
    | .leftParen => do
      let read ← readCastType source (depth + 1) rest
      return ⟨(), read.rest, by have := read.taken; grind⟩
    | .rightParen =>
      match depth with
      | 0 => return ⟨(), rest, by simp⟩
      | depth + 1 => do
        let read ← readCastType source depth rest
        return ⟨(), read.rest, by have := read.taken; grind⟩
    | _ => do
      let read ← readCastType source depth rest
      return ⟨(), read.rest, by have := read.taken; grind⟩

/-! ## Comparison operators and numbers -/

/-- The comparator that a symbol stands for in a policy text. -/
def comparator? : String → Option Comparator
  | "=" => some .eq
  | "!=" => some .ne
  | "<>" => some .ne
  | "<" => some .lt
  | ">" => some .gt
  | "<=" => some .le
  | ">=" => some .ge
  | _ => none

def number? : Lexeme → Option Literal
  | .integer n => some ⟨.integer, .int n⟩
  | .decimal d => some ⟨.decimal, .decimal d⟩
  | _ => none

/-- The literal of a number after a minus sign. -/
def negated : Literal → Except ReadError Literal
  | ⟨.decimal, .decimal d⟩ =>
    match d.negated with
    | some d => .ok ⟨.decimal, .decimal d⟩
    | _ => .error .tooLarge
  | ⟨kind, .int n⟩ => .ok ⟨kind, .int (-n)⟩
  | other => .ok other

/-- A list of operands, or the only one. -/
def joined (connective : List Expr → Expr) (first : Expr) (more : List Expr) : Expr :=
  if more.isEmpty then first else connective (first :: more)

/-! ## The grammar -/

mutual

def readAny (source : Source) (tokens : List Token) : Reading Expr tokens 1 := do
  let first ← readAll source tokens
  have := first.taken
  let more ← readMoreAny source first.rest
  return ⟨joined .any first.value more.value, more.rest, by have := more.taken; omega⟩
termination_by 10 * tokens.length + 6
decreasing_by all_goals grind

def readMoreAny (source : Source) (tokens : List Token) : Reading (List Expr) tokens 0 :=
  match tokens with
  | [] => return ⟨[], [], Nat.le_refl _⟩
  | token :: rest => do
    if token.keyword? = some .or then
      let next ← readAll source rest
      have := next.taken
      let more ← readMoreAny source next.rest
      return ⟨next.value :: more.value, more.rest, by have := more.taken; grind⟩
    else return ⟨[], token :: rest, Nat.le_refl _⟩
termination_by 10 * tokens.length + 6
decreasing_by all_goals grind

def readAll (source : Source) (tokens : List Token) : Reading Expr tokens 1 := do
  let first ← readNot source tokens
  have := first.taken
  let more ← readMoreAll source first.rest
  return ⟨joined .all first.value more.value, more.rest, by have := more.taken; omega⟩
termination_by 10 * tokens.length + 5
decreasing_by all_goals grind

def readMoreAll (source : Source) (tokens : List Token) : Reading (List Expr) tokens 0 :=
  match tokens with
  | [] => return ⟨[], [], Nat.le_refl _⟩
  | token :: rest => do
    if token.keyword? = some .and then
      let next ← readNot source rest
      have := next.taken
      let more ← readMoreAll source next.rest
      return ⟨next.value :: more.value, more.rest, by have := more.taken; grind⟩
    else return ⟨[], token :: rest, Nat.le_refl _⟩
termination_by 10 * tokens.length + 5
decreasing_by all_goals grind

def readNot (source : Source) (tokens : List Token) : Reading Expr tokens 1 :=
  match tokens with
  | [] => readCondition source []
  | token :: rest => do
    if token.keyword? = some .not then
      let operand ← readNot source rest
      return ⟨.not operand.value, operand.rest, by have := operand.taken; grind⟩
    else readCondition source (token :: rest)
termination_by 10 * tokens.length + 4
decreasing_by all_goals grind

/-- Reads a comparison, a membership, a pattern match or a test for null, or a primary alone. -/
def readCondition (source : Source) (tokens : List Token) : Reading Expr tokens 1 := do
  let left ← readPrimary source tokens
  have := left.taken
  match h : left.rest with
  | [] => return ⟨left.value, [], by grind⟩
  | token :: rest =>
    match token.lexeme, token.keyword? with
    | .operator symbol, _ =>
      match comparator? symbol with
      | none => throw (source.failure "a comparison operator" token)
      | some comparator =>
        match source.keyword? rest with
        | some .any | some .some =>
          if comparator ≠ .eq then throw (source.failure "'=' before ANY" token)
          let right ← readQuantified source (rest.drop 1)
          return ⟨.condition (.member Bool.false) left.value right.value, right.rest, by
            have := right.taken; grind⟩
        | some .all =>
          if comparator ≠ .ne then throw (source.failure "'<>' or '!=' before ALL" token)
          let right ← readQuantified source (rest.drop 1)
          return ⟨.condition (.member Bool.true) left.value right.value, right.rest, by
            have := right.taken; grind⟩
        | _ =>
          let right ← readPrimary source rest
          return ⟨.condition (.compare comparator) left.value right.value, right.rest, by
            have := right.taken; grind⟩
    | _, some .not =>
      match source.keyword? rest with
      | some .in =>
        let right ← readList source (rest.drop 1)
        return ⟨.condition (.member Bool.true) left.value right.value, right.rest, by
          have := right.taken; grind⟩
      | some .like =>
        let right ← readPrimary source (rest.drop 1)
        return ⟨.condition (.compare (.like Bool.false Bool.true)) left.value right.value,
          right.rest, by have := right.taken; grind⟩
      | some .ilike =>
        let right ← readPrimary source (rest.drop 1)
        return ⟨.condition (.compare (.like Bool.true Bool.true)) left.value right.value,
          right.rest, by have := right.taken; grind⟩
      | _ => throw (source.failure "IN, LIKE or ILIKE after NOT" (source.front rest))
    | _, some .in =>
      let right ← readList source rest
      return ⟨.condition (.member Bool.false) left.value right.value, right.rest, by
        have := right.taken; grind⟩
    | _, some .like =>
      let right ← readPrimary source rest
      return ⟨.condition (.compare (.like Bool.false Bool.false)) left.value right.value,
        right.rest, by have := right.taken; grind⟩
    | _, some .ilike =>
      let right ← readPrimary source rest
      return ⟨.condition (.compare (.like Bool.true Bool.false)) left.value right.value,
        right.rest, by have := right.taken; grind⟩
    | _, some .is =>
      match source.keyword? rest with
      | some .not =>
        let null ← source.takeKeyword .null (rest.drop 1)
        return ⟨.condition (.null Bool.true) left.value (.literal .null), null.rest, by
          have := null.taken; grind⟩
      | _ =>
        let null ← source.takeKeyword .null rest
        return ⟨.condition (.null Bool.false) left.value (.literal .null), null.rest, by
          have := null.taken; grind⟩
    | _, _ => return ⟨left.value, token :: rest, by grind⟩
termination_by 10 * tokens.length + 3
decreasing_by all_goals grind

/-- Reads what follows `ANY` and `ALL`: a subquery or an expression in parentheses. -/
def readQuantified (source : Source) (tokens : List Token) : Reading Expr tokens 1 := do
  let start ← source.take .leftParen "'(' after ANY/ALL" tokens
  have := start.taken
  if source.keyword? start.rest = some .select then
    let body ← readSubquery source start.rest
    return ⟨body.value, body.rest, by have := body.taken; omega⟩
  let inner ← readAny source start.rest
  let close ← source.take .rightParen "')'" inner.rest
  return ⟨inner.value, close.rest, by have := inner.taken; have := close.taken; omega⟩
termination_by 10 * tokens.length + 2
decreasing_by all_goals grind

/-- Reads what follows `IN`: a subquery or a list in parentheses. -/
def readList (source : Source) (tokens : List Token) : Reading Expr tokens 1 := do
  let start ← source.take .leftParen "'(' after IN" tokens
  have := start.taken
  if source.keyword? start.rest = some .select then
    let body ← readSubquery source start.rest
    return ⟨body.value, body.rest, by have := body.taken; omega⟩
  let first ← readAny source start.rest
  have := first.taken
  let more ← readMoreItems source first.rest
  let close ← source.take .rightParen "')' or ','" more.rest
  return ⟨.array (first.value :: more.value), close.rest, by
    have := more.taken; have := close.taken; omega⟩
termination_by 10 * tokens.length + 2
decreasing_by all_goals grind

def readMoreItems (source : Source) (tokens : List Token) : Reading (List Expr) tokens 0 :=
  match tokens with
  | ⟨.comma, _, _⟩ :: rest => do
    let next ← readAny source rest
    have := next.taken
    let more ← readMoreItems source next.rest
    return ⟨next.value :: more.value, more.rest, by have := more.taken; grind⟩
  | tokens => return ⟨[], tokens, Nat.le_refl _⟩
termination_by 10 * tokens.length + 7
decreasing_by all_goals grind

/-- Reads the items up to a closing mark, which may follow at once. -/
def readItems (source : Source) (closing : Lexeme) (expected : String) (tokens : List Token) :
    Reading (List Expr) tokens 1 := do
  if (source.front tokens).lexeme = closing then
    let close ← source.take closing expected tokens
    return ⟨[], close.rest, close.taken⟩
  let first ← readAny source tokens
  have := first.taken
  let more ← readMoreItems source first.rest
  let close ← source.take closing expected more.rest
  return ⟨first.value :: more.value, close.rest, by
    have := more.taken; have := close.taken; omega⟩
termination_by 10 * tokens.length + 7
decreasing_by all_goals grind

def readPrimary (source : Source) (tokens : List Token) : Reading Expr tokens 1 :=
  match tokens with
  | [] => throw (source.failure "an expression" (source.front []))
  | token :: rest => do
    match token.lexeme, token.keyword? with
    | .leftParen, _ =>
      if source.keyword? rest = some .select then
        let body ← readSubquery source rest
        return ⟨body.value, body.rest, by have := body.taken; grind⟩
      let inner ← readAny source rest
      let close ← source.take .rightParen "')'" inner.rest
      return ⟨inner.value, close.rest, by
        have := inner.taken; have := close.taken; grind⟩
    | .text content, _ => return ⟨.literal ⟨.text, .text content⟩, rest, by simp⟩
    | .integer n, _ => return ⟨.literal ⟨.integer, .int n⟩, rest, by simp⟩
    | .decimal d, _ => return ⟨.literal ⟨.decimal, .decimal d⟩, rest, by simp⟩
    | .operator "-", _ =>
      match number? (source.front rest).lexeme with
      | some positive =>
        let negative ← negated positive
        return ⟨.literal negative, rest.drop 1, by grind⟩
      | none => throw (source.failure "an expression" token)
    | .quotedName _, _ => readReference source (token :: rest)
    | .word _, none => readReference source (token :: rest)
    | _, some .true => return ⟨true, rest, by simp⟩
    | _, some .false => return ⟨false, rest, by simp⟩
    | _, some .null => return ⟨.literal .null, rest, by simp⟩
    | _, some .exists =>
      let test ← readExistence source rest
      return ⟨test.value, test.rest, by have := test.taken; grind⟩
    | _, some .case =>
      let choice ← readChoice source rest
      return ⟨choice.value, choice.rest, by have := choice.taken; grind⟩
    | _, some .cast =>
      if (source.front rest).lexeme = .leftParen then
        let cast ← readCast source rest
        return ⟨cast.value, cast.rest, by have := cast.taken; grind⟩
      throw (source.failure "an expression" token)
    | _, some .array =>
      let start ← source.take .leftBracket "'[' after ARRAY" rest
      have := start.taken
      let items ← readItems source .rightBracket "']' or ','" start.rest
      return ⟨.array items.value, items.rest, by have := items.taken; grind⟩
    | _, _ => throw (source.failure "an expression" token)
termination_by 10 * tokens.length + 2
decreasing_by all_goals grind

def readReference (source : Source) (tokens : List Token) : Reading Expr tokens 1 := do
  let first ← readName source tokens
  have := first.taken
  let more ← readParts source first.rest
  have := more.taken
  match h : more.rest with
  | ⟨.leftParen, _, _⟩ :: rest =>
    let arguments ← readItems source .rightParen "')' or ','" rest
    let name := Text.joinWith "." (first.value :: more.value)
    return ⟨ofCall name arguments.value, arguments.rest, by
      have := arguments.taken; grind⟩
  | rest => return ⟨ofParts source first.value more.value, rest, by grind⟩
termination_by 10 * tokens.length + 1
decreasing_by all_goals grind

/-- Reads the operand of a cast, after its keyword; the type is passed over. -/
def readCast (source : Source) (tokens : List Token) : Reading Expr tokens 1 := do
  let start ← source.take .leftParen "'('" tokens
  have := start.taken
  let operand ← readAny source start.rest
  let as ← source.takeKeyword .as operand.rest
  let type ← readCastType source 0 as.rest
  if (source.front as.rest).lexeme = .rightParen then
    throw (source.failure "type name after AS" (source.front as.rest))
  return ⟨operand.value, type.rest, by
    have := operand.taken; have := as.taken; have := type.taken; omega⟩
termination_by 10 * tokens.length + 1
decreasing_by all_goals grind

def readChoice (source : Source) (tokens : List Token) : Reading Expr tokens 1 := do
  if source.keyword? tokens = some .when then
    let body ← readChoiceBody source tokens
    return ⟨.choice none body.value.1 body.value.2, body.rest, body.taken⟩
  let subject ← readAny source tokens
  have := subject.taken
  if source.keyword? subject.rest ≠ some .when then
    throw (source.failure "WHEN" (source.front subject.rest))
  let body ← readChoiceBody source subject.rest
  return ⟨.choice (some subject.value) body.value.1 body.value.2, body.rest, by
    have := body.taken; omega⟩
termination_by 10 * tokens.length + 9
decreasing_by all_goals grind

/-- Reads the branches of a choice, what holds otherwise, and its end. -/
def readChoiceBody (source : Source) (tokens : List Token) :
    Reading (List (Expr × Expr) × Option Expr) tokens 1 := do
  let branches ← readBranches source tokens
  have := branches.taken
  match h : branches.rest with
  | [] => throw (source.failure "WHEN, ELSE or END" (source.front []))
  | token :: rest =>
    match token.keyword? with
    | some .else =>
      let otherwise ← readAny source rest
      have := otherwise.taken
      let close ← source.takeKeyword .end otherwise.rest
      return ⟨(branches.value, some otherwise.value), close.rest, by
        have := close.taken; grind⟩
    | some .end => return ⟨(branches.value, none), rest, by grind⟩
    | _ => throw (source.failure "WHEN, ELSE or END" token)
termination_by 10 * tokens.length + 8
decreasing_by all_goals grind

def readBranches (source : Source) (tokens : List Token) :
    Reading (List (Expr × Expr)) tokens 0 :=
  match tokens with
  | [] => return ⟨[], [], Nat.le_refl _⟩
  | token :: rest => do
    if token.keyword? = some .when then
      let key ← readAny source rest
      have := key.taken
      let next ← source.takeKeyword .then key.rest
      have := next.taken
      let outcome ← readAny source next.rest
      have := outcome.taken
      let more ← readBranches source outcome.rest
      return ⟨(key.value, outcome.value) :: more.value, more.rest, by
        have := more.taken; grind⟩
    else return ⟨[], token :: rest, Nat.le_refl _⟩
termination_by 10 * tokens.length + 7
decreasing_by all_goals grind

end

/-! ## The whole text -/

/-- Reads an expression that takes up all tokens but the end of the text. -/
def ofTokens (source : Source) (tokens : List Token) : Except ReadError Expr := do
  let read ← readAny source tokens
  let next := source.front read.rest
  match next.lexeme with
  | .finish => return read.value
  | .rightParen => throw (source.failure "end of input (unbalanced ')')" next)
  | .operator _ => throw (source.failure "a comparison operator" next)
  | _ => throw (source.failure "end of input" next)

/-- Reads a policy text written about an entity. A blank text is always true. -/
def parse (text entity : String) : Except ReadError Expr :=
  if (Text.trim text.toList).isEmpty then .ok true
  else do ofTokens ⟨text.toList, entity⟩ (← Token.scan text)

end Expr

end RowGuard
