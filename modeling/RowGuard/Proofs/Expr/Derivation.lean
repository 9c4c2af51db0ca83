import RowGuard.Expr.Parser
import RowGuard.Proofs.Token.Lexical

/-! The grammar of policy texts as a relation between the tokens before an
expression and the tokens behind it. A property of what is read is shown form by
form on derivations. -/

set_option autoImplicit false

namespace RowGuard

namespace Expr

/-! ## Tokens at the front -/

def firstLexeme (tokens : List Token) : Option Lexeme :=
  tokens.head?.map (·.lexeme)

def firstKeyword (tokens : List Token) : Option Keyword :=
  tokens.head?.bind Token.keyword?

@[simp]
theorem firstKeyword_cons (token : Token) (tokens : List Token) :
    firstKeyword (token :: tokens) = token.keyword? :=
  rfl

@[simp]
theorem firstLexeme_cons (token : Token) (tokens : List Token) :
    firstLexeme (token :: tokens) = some token.lexeme :=
  rfl

theorem Source.front_cons (source : Source) (token : Token) (tokens : List Token) :
    source.front (token :: tokens) = token :=
  rfl

theorem Source.keyword?_eq (source : Source) (tokens : List Token) :
    source.keyword? tokens = firstKeyword tokens := by
  cases tokens <;> rfl

theorem exists_of_firstKeyword {tokens : List Token} {keyword : Keyword}
    (found : firstKeyword tokens = some keyword) :
    ∃ token rest, tokens = token :: rest ∧ token.keyword? = some keyword := by
  cases tokens with
  | nil => cases found
  | cons token rest => exact ⟨token, rest, rfl, found⟩

theorem exists_word_of_keyword {token : Token} {keyword : Keyword}
    (found : token.keyword? = some keyword) :
    ∃ text, token.lexeme = .word text ∧ Keyword.ofWord? text = some keyword := by
  obtain ⟨lexeme, start, stop⟩ := token
  cases lexeme with
  | word text => exact ⟨text, rfl, found⟩
  | _ => cases found

theorem keyword?_of_word {token : Token} {text : String} (word : token.lexeme = .word text) :
    token.keyword? = Keyword.ofWord? text := by
  unfold Token.keyword?
  rw [word]

theorem lexeme_of_name {token : Token} {name : String} (named : name? token = some name) :
    token.lexeme = .quotedName name ∨ token.lexeme = .word name ∧ token.keyword? = none := by
  obtain ⟨lexeme, start, stop⟩ := token
  cases lexeme with
  | quotedName text =>
      cases named
      exact .inl rfl
  | word text =>
      unfold name? at named
      dsimp only at named
      split at named
      · cases named
      · next free =>
        cases named
        exact .inr ⟨rfl, Option.not_isSome_iff_eq_none.mp free⟩
  | _ => cases named

theorem ne_finish_of_name {token : Token} {name : String} (named : name? token = some name) :
    token.lexeme ≠ .finish := by
  rcases lexeme_of_name named with lexeme | ⟨lexeme, _⟩ <;> rw [lexeme] <;> nofun

/-- Whether a token does not go on with a condition whose first operand has been read. -/
def EndsCondition (token : Token) : Prop :=
  (∀ symbol, token.lexeme ≠ .operator symbol) ∧
    ∀ keyword ∈ [Keyword.not, .in, .like, .ilike, .is], token.keyword? ≠ some keyword

/-- A word after an operand, which may be negated. -/
inductive Phrase (word : Keyword) : Bool → List Token → List Token → Prop where
  | plain {token : Token} {rest : List Token} :
      token.keyword? = some word → Phrase word Bool.false (token :: rest) rest
  | negated {negation token : Token} {rest : List Token} :
      negation.keyword? = some .not → token.keyword? = some word →
      Phrase word Bool.true (negation :: token :: rest) rest

def literal? : Lexeme → Option Literal
  | .text content => some ⟨.text, .text content⟩
  | .integer n => some ⟨.integer, .int n⟩
  | .decimal d => some ⟨.decimal, .decimal d⟩
  | _ => none

def constant? : Keyword → Option Literal
  | .true => some (.bool Bool.true)
  | .false => some (.bool Bool.false)
  | .null => some .null
  | _ => none

def closingMark : Bool → Lexeme
  | Bool.true => .rightBracket
  | Bool.false => .rightParen

/-! ## Outcomes of rules -/

section Gives

variable {α β : Type} {tokens tokens' rest rest' : List Token} {least least' : Nat}

/-- Whether a rule reads a value and leaves the rest. -/
def Gives (reading : Reading α tokens least) (value : α) (rest : List Token) : Prop :=
  ∃ taken, reading = .ok ⟨value, rest, taken⟩

theorem Gives.bind {reading : Reading α tokens least}
    {next : Read α tokens least → Reading β tokens' least'} {value : α} {value' : β}
    (first : Gives reading value rest)
    (second : ∀ taken, Gives (next ⟨value, rest, taken⟩) value' rest') :
    Gives (reading >>= next) value' rest' := by
  obtain ⟨taken, rfl⟩ := first
  exact second taken

theorem Gives.of_bind {reading : Reading α tokens least}
    {next : Read α tokens least → Reading β tokens' least'} {value' : β}
    (both : Gives (reading >>= next) value' rest') :
    ∃ value rest taken, Gives reading value rest ∧
      Gives (next ⟨value, rest, taken⟩) value' rest' := by
  obtain ⟨taken', ended⟩ := both
  obtain ⟨⟨value, rest, taken⟩, first, second⟩ := except_bind_eq_ok ended
  exact ⟨value, rest, taken, ⟨taken, first⟩, taken', second⟩

theorem gives_ok (value : α) {taken : rest.length + least ≤ tokens.length} :
    Gives (.ok ⟨value, rest, taken⟩ : Reading α tokens least) value rest :=
  ⟨taken, rfl⟩

theorem Gives.eq_of_ok {read : Read α tokens least} {value : α}
    (gives : Gives (.ok read : Reading α tokens least) value rest) :
    value = read.value ∧ rest = read.rest := by
  obtain ⟨_, same⟩ := gives
  cases same
  exact ⟨rfl, rfl⟩

/-- A reader that makes its value of what another one reads, and stops where that one does. -/
theorem Gives.of_bind_ok {reading : Reading α tokens least} {make : Read α tokens least → β}
    {fits : ∀ read : Read α tokens least, read.rest.length + least' ≤ tokens'.length} {value' : β}
    (both : Gives (reading >>= fun read => .ok ⟨make read, read.rest, fits read⟩ :
      Reading β tokens' least') value' rest') :
    ∃ value taken, Gives reading value rest' ∧ value' = make ⟨value, rest', taken⟩ := by
  obtain ⟨value, _, taken, first, second⟩ := both.of_bind
  obtain ⟨rfl, rfl⟩ := second.eq_of_ok
  exact ⟨value, taken, first, rfl⟩

theorem not_gives_error {error : ReadError} {value : α} :
    ¬ Gives (.error error : Reading α tokens least) value rest := nofun

end Gives

/-! ## Derivations -/

/-- What is derived: an expression of some precedence, or a series of parts. -/
inductive Form where
  | any (e : Expr)
  | moreAny (operands : List Expr)
  | all (e : Expr)
  | moreAll (operands : List Expr)
  | not (e : Expr)
  | condition (e : Expr)
  | primary (e : Expr)
  /-- What follows `IN`. -/
  | list (e : Expr)
  | moreItems (items : List Expr)
  /-- The items up to a closing bracket or a closing parenthesis. -/
  | items (bracketed : Bool) (items : List Expr)
  /-- The branches of a choice, what holds otherwise, and its end. -/
  | body (branches : List (Expr × Expr)) (otherwise : Option Expr)
  | branches (branches : List (Expr × Expr))

/-- A form is derived from some tokens and leaves the rest. -/
inductive Derives (source : Source) : Form → List Token → List Token → Prop where
  | any {first : Expr} {more : List Expr} {tokens middle rest : List Token} :
      Derives source (.all first) tokens middle → Derives source (.moreAny more) middle rest →
      Derives source (.any (joined .any first more)) tokens rest
  | noMoreAny {tokens : List Token} :
      firstKeyword tokens ≠ some .or → Derives source (.moreAny []) tokens tokens
  | moreAny {next : Expr} {more : List Expr} {token : Token} {tokens middle rest : List Token} :
      token.keyword? = some .or → Derives source (.all next) tokens middle →
      Derives source (.moreAny more) middle rest →
      Derives source (.moreAny (next :: more)) (token :: tokens) rest
  | all {first : Expr} {more : List Expr} {tokens middle rest : List Token} :
      Derives source (.not first) tokens middle → Derives source (.moreAll more) middle rest →
      Derives source (.all (joined .all first more)) tokens rest
  | noMoreAll {tokens : List Token} :
      firstKeyword tokens ≠ some .and → Derives source (.moreAll []) tokens tokens
  | moreAll {next : Expr} {more : List Expr} {token : Token} {tokens middle rest : List Token} :
      token.keyword? = some .and → Derives source (.not next) tokens middle →
      Derives source (.moreAll more) middle rest →
      Derives source (.moreAll (next :: more)) (token :: tokens) rest
  | not {operand : Expr} {token : Token} {tokens rest : List Token} :
      token.keyword? = some .not → Derives source (.not operand) tokens rest →
      Derives source (.not (.not operand)) (token :: tokens) rest
  | unnegated {e : Expr} {tokens rest : List Token} :
      firstKeyword tokens ≠ some .not → Derives source (.condition e) tokens rest →
      Derives source (.not e) tokens rest
  | alone {e : Expr} {tokens rest : List Token} :
      Derives source (.primary e) tokens rest →
      (∀ token ∈ rest.head?, EndsCondition token) →
      Derives source (.condition e) tokens rest
  | compare {comparator : Comparator} {left right : Expr} {symbol : String} {token : Token}
      {tokens middle rest : List Token} :
      Derives source (.primary left) tokens (token :: middle) → token.lexeme = .operator symbol →
      comparator? symbol = some comparator →
      (∀ keyword, firstKeyword middle = some keyword →
        keyword ≠ .any ∧ keyword ≠ .some ∧ keyword ≠ .all) →
      Derives source (.primary right) middle rest →
      Derives source (.condition (.condition (.compare comparator) left right)) tokens rest
  | anyOf {left right : Expr} {symbol : String} {token quantifier : Token}
      {tokens middle rest : List Token} :
      Derives source (.primary left) tokens (token :: quantifier :: middle) →
      token.lexeme = .operator symbol → comparator? symbol = some .eq →
      quantifier.keyword? = some .any ∨ quantifier.keyword? = some .some →
      firstLexeme middle = some .leftParen → Derives source (.primary right) middle rest →
      Derives source (.condition (.condition (.member Bool.false) left right)) tokens rest
  | allOf {left right : Expr} {symbol : String} {token quantifier : Token}
      {tokens middle rest : List Token} :
      Derives source (.primary left) tokens (token :: quantifier :: middle) →
      token.lexeme = .operator symbol → comparator? symbol = some .ne →
      quantifier.keyword? = some .all →
      firstLexeme middle = some .leftParen → Derives source (.primary right) middle rest →
      Derives source (.condition (.condition (.member Bool.true) left right)) tokens rest
  | member {negated : Bool} {left right : Expr} {tokens middle after rest : List Token} :
      Derives source (.primary left) tokens middle → Phrase .in negated middle after →
      Derives source (.list right) after rest →
      Derives source (.condition (.condition (.member negated) left right)) tokens rest
  | like {ignoreCase negated : Bool} {left right : Expr}
      {tokens middle after rest : List Token} :
      Derives source (.primary left) tokens middle →
      Phrase (if ignoreCase then .ilike else .like) negated middle after →
      Derives source (.primary right) after rest →
      Derives source (.condition (.condition (.compare (.like ignoreCase negated)) left right))
        tokens rest
  | null {negated : Bool} {left : Expr} {token : Token} {tokens middle rest : List Token} :
      Derives source (.primary left) tokens (token :: middle) → token.keyword? = some .is →
      Phrase .null negated middle rest →
      Derives source (.condition (.condition (.null negated) left (.literal .null))) tokens rest
  | listedSubquery {target : Option String} {body : String} {opening : Token}
      {tokens rest : List Token} :
      opening.lexeme = .leftParen → firstKeyword tokens = some .select →
      Gives (readBody source tokens) (target, body) rest →
      Derives source (.list (.subquery target body)) (opening :: tokens) rest
  | listed {first : Expr} {more : List Expr} {opening closing : Token}
      {tokens middle rest : List Token} :
      opening.lexeme = .leftParen → firstKeyword tokens ≠ some .select →
      Derives source (.any first) tokens middle →
      Derives source (.moreItems more) middle (closing :: rest) → closing.lexeme = .rightParen →
      Derives source (.list (.array (first :: more))) (opening :: tokens) rest
  | noMoreItems {tokens : List Token} :
      firstLexeme tokens ≠ some .comma → Derives source (.moreItems []) tokens tokens
  | moreItems {next : Expr} {more : List Expr} {token : Token} {tokens middle rest : List Token} :
      token.lexeme = .comma → Derives source (.any next) tokens middle →
      Derives source (.moreItems more) middle rest →
      Derives source (.moreItems (next :: more)) (token :: tokens) rest
  | noItems {bracketed : Bool} {token : Token} {rest : List Token} :
      token.lexeme = closingMark bracketed →
      Derives source (.items bracketed []) (token :: rest) rest
  | items {bracketed : Bool} {first : Expr} {more : List Expr} {token : Token}
      {tokens middle rest : List Token} :
      firstLexeme tokens ≠ some (closingMark bracketed) →
      Derives source (.any first) tokens middle →
      Derives source (.moreItems more) middle (token :: rest) →
      token.lexeme = closingMark bracketed →
      Derives source (.items bracketed (first :: more)) tokens rest
  | subquery {target : Option String} {body : String} {opening : Token}
      {tokens rest : List Token} :
      opening.lexeme = .leftParen → firstKeyword tokens = some .select →
      Gives (readBody source tokens) (target, body) rest →
      Derives source (.primary (.subquery target body)) (opening :: tokens) rest
  | parenthesised {e : Expr} {opening closing : Token} {tokens rest : List Token} :
      opening.lexeme = .leftParen → firstKeyword tokens ≠ some .select →
      Derives source (.any e) tokens (closing :: rest) → closing.lexeme = .rightParen →
      Derives source (.primary e) (opening :: tokens) rest
  | literal {value : Literal} {token : Token} {rest : List Token} :
      literal? token.lexeme = some value →
      Derives source (.primary (.literal value)) (token :: rest) rest
  | negative {positive value : Literal} {minus token : Token} {rest : List Token} :
      minus.lexeme = .operator "-" → number? token.lexeme = some positive →
      negated positive = .ok value →
      Derives source (.primary (.literal value)) (minus :: token :: rest) rest
  | constant {keyword : Keyword} {value : Literal} {token : Token} {rest : List Token} :
      token.keyword? = some keyword → constant? keyword = some value →
      Derives source (.primary (.literal value)) (token :: rest) rest
  | existence {target : Option String} {body : String} {token opening : Token}
      {tokens rest : List Token} :
      token.keyword? = some .exists → opening.lexeme = .leftParen →
      Gives (readBody source tokens) (target, body) rest → body ≠ "" →
      Derives source (.primary (.existence target body)) (token :: opening :: tokens) rest
  | cast {e : Expr} {token opening as : Token} {tokens middle rest : List Token} :
      token.keyword? = some .cast → opening.lexeme = .leftParen →
      Derives source (.any e) tokens (as :: middle) → as.keyword? = some .as →
      firstLexeme middle ≠ some .rightParen → Gives (readCastType source 0 middle) () rest →
      Derives source (.primary e) (token :: opening :: tokens) rest
  | array {items : List Expr} {token opening : Token} {tokens rest : List Token} :
      token.keyword? = some .array → opening.lexeme = .leftBracket →
      Derives source (.items Bool.true items) tokens rest →
      Derives source (.primary (.array items)) (token :: opening :: tokens) rest
  | call {first : String} {more : List String} {arguments : List Expr} {token opening : Token}
      {tokens middle rest : List Token} :
      name? token = some first → Gives (readParts source tokens) more (opening :: middle) →
      opening.lexeme = .leftParen → Derives source (.items Bool.false arguments) middle rest →
      Derives source (.primary (ofCall (Text.joinWith "." (first :: more)) arguments))
        (token :: tokens) rest
  | reference {first : String} {more : List String} {token : Token} {tokens rest : List Token} :
      name? token = some first → Gives (readParts source tokens) more rest →
      firstLexeme rest ≠ some .leftParen →
      Derives source (.primary (ofParts source first more)) (token :: tokens) rest
  | searched {branches : List (Expr × Expr)} {otherwise : Option Expr} {token : Token}
      {tokens rest : List Token} :
      token.keyword? = some .case → firstKeyword tokens = some .when →
      Derives source (.body branches otherwise) tokens rest →
      Derives source (.primary (.choice none branches otherwise)) (token :: tokens) rest
  | simple {subject : Expr} {branches : List (Expr × Expr)} {otherwise : Option Expr}
      {token : Token} {tokens middle rest : List Token} :
      token.keyword? = some .case → firstKeyword tokens ≠ some .when →
      Derives source (.any subject) tokens middle → firstKeyword middle = some .when →
      Derives source (.body branches otherwise) middle rest →
      Derives source (.primary (.choice (some subject) branches otherwise)) (token :: tokens) rest
  | otherwise {branches : List (Expr × Expr)} {e : Expr} {token ending : Token}
      {tokens middle rest : List Token} :
      Derives source (.branches branches) tokens (token :: middle) →
      token.keyword? = some .else → Derives source (.any e) middle (ending :: rest) →
      ending.keyword? = some .end → Derives source (.body branches (some e)) tokens rest
  | ended {branches : List (Expr × Expr)} {ending : Token} {tokens rest : List Token} :
      Derives source (.branches branches) tokens (ending :: rest) →
      ending.keyword? = some .end → Derives source (.body branches none) tokens rest
  | noBranches {tokens : List Token} :
      firstKeyword tokens ≠ some .when → Derives source (.branches []) tokens tokens
  | branches {key outcome : Expr} {more : List (Expr × Expr)} {token next : Token}
      {tokens middle after rest : List Token} :
      token.keyword? = some .when → Derives source (.any key) tokens (next :: middle) →
      next.keyword? = some .then → Derives source (.any outcome) middle after →
      Derives source (.branches more) after rest →
      Derives source (.branches ((key, outcome) :: more)) (token :: tokens) rest

end Expr

end RowGuard
