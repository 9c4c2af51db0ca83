import RowGuard.Proofs.Expr.Lexemes

/-! How the forms of the grammar other than the connectives are read from the
texts of their parts, one lemma for each form. -/

set_option autoImplicit false

namespace RowGuard

namespace Expr

variable {entity : String} {text : List Char} {e : Expr}

/-! ## Literals -/

theorem reads_literal {lexeme : Lexeme} {value : Literal}
    (scans : Scans entity Parted text (Lone fun token => token.lexeme = lexeme))
    (found : literal? lexeme = some value) : Reads entity text 5 (.literal value) := by
  refine scans.mono (fun _ parted => parted) ?_
  rintro _ _ _ ⟨token, rfl, same⟩ rest _
  exact .literal (by rw [same, found])

theorem reads_text (content : String) :
    Reads entity (Text.quoteLiteral content).toList 5 (.literal ⟨.text, .text content⟩) :=
  reads_literal (scans_text content) rfl

theorem reads_negative {c : Char} {rest : List Char} {lexeme : Lexeme} {positive value : Literal}
    (digit : Text.isDigit c) (read : Token.number (c :: rest) = .ok (lexeme, []))
    (number : number? lexeme = some positive) (negation : negated positive = .ok value) :
    Reads entity ('-' :: c :: rest) 5 (.literal value) := by
  refine (scans_negative digit read).mono (fun _ parted => parted) ?_
  rintro _ _ _ ⟨minus, token, rfl, negates, lexeme⟩ rest _
  exact .negative negates (by rw [lexeme, number]) negation

theorem reads_constant {word : String} {keyword : Keyword} {value : Literal}
    (isWord : isWord word.toList) (found : Keyword.ofWord? word = some keyword)
    (constant : constant? keyword = some value) :
    Reads entity word.toList 5 (.literal value) := by
  refine (scans_word isWord).mono (fun _ parted => parted.endsWord) ?_
  rintro _ _ _ ⟨token, rfl, lexeme⟩ rest _
  rw [String.ofList_toList] at lexeme
  exact .constant ((keyword?_of_word lexeme).trans found) constant

/-! ## References -/

theorem ofParts_congr {source source' : Source} (same : source.entity = source'.entity)
    (first : String) (more : List String) :
    ofParts source first more = ofParts source' first more := by
  unfold ofParts
  rw [same]

theorem reads_reference {first : String} {more : List String} (named : isName first)
    (each : ∀ name ∈ more, isName name) :
    Reads entity (Text.joinWith "." (first :: more)).toList 5
      (ofParts ⟨[], entity⟩ first more) := by
  refine (scans_dotted named each).mono (fun _ parted => parted.endsWord) ?_
  rintro source _ about ⟨token, inside, rfl, named, parts⟩ rest follows
  rw [ofParts_congr (about : source.entity = Source.entity ⟨[], entity⟩).symm]
  exact .reference named (gives_readParts_iff.mpr ⟨inside, rfl, parts, follows.undotted⟩)
    follows.uncalled

/-! ## Items -/

section Items

variable {texts : List String} {items : List Expr} {first : Expr} {bracketed : Bool}

def YieldsFurther (items : List Expr) (source : Source) (tokens : List Token) : Prop :=
  ∀ rest, Follows 1 rest → firstLexeme rest ≠ some .comma →
    Follows 1 (tokens ++ rest) ∧ Derives source (.moreItems items) (tokens ++ rest) rest

/-- The property of being read to the items of a list and the mark that closes it. -/
def YieldsItems (bracketed : Bool) (first : Expr) (items : List Expr) (source : Source)
    (tokens : List Token) : Prop :=
  ∀ rest, ∃ middle closing, closing.lexeme = closingMark bracketed ∧
    Derives source (.any first) (tokens ++ rest) middle ∧
    Derives source (.moreItems items) middle (closing :: rest)

theorem scans_furtherItems
    (read : List.Forall₂ (fun text e => Reads entity text.toList 1 e) texts items) :
    Scans entity Parted ((texts.map String.toList).flatMap (", ".toList ++ ·))
      (YieldsFurther items) := by
  have comma : Scans entity Whatever ", ".toList (Lone fun token => token.lexeme = .comma) := by
    refine Scans.nothing.blank.marked rfl ?_
    rintro _ token _ _ lexeme rfl
    exact ⟨token, rfl, lexeme⟩
  refine Scans.many comma (fun _ => parted_cons (by decide) _) ?_ ?_
    (List.forall₂_map_left_iff.mpr read)
  · exact fun _ rest follows ends => ⟨follows, .noMoreItems ends⟩
  · rintro source next items _ middle back ⟨token, rfl, lexeme⟩ yields others rest follows ends
    obtain ⟨followed, derived⟩ := others rest follows ends
    refine ⟨follows_of_lexeme lexeme (by decide) 1 _, ?_⟩
    rw [List.singleton_append, List.cons_append, List.append_assoc]
    exact .moreItems lexeme (yields (back ++ rest) followed) derived

theorem scans_items {mark : Char} (marks : Token.punctuation? mark = some (closingMark bracketed))
    (listed : mark ∈ [' ', ')', ',', ']']) {text : String}
    (firstRead : Reads entity text.toList 1 first)
    (read : List.Forall₂ (fun text e => Reads entity text.toList 1 e) texts items) :
    Scans entity Whatever ((Text.joinWith ", " (text :: texts)).toList ++ [mark])
      (YieldsItems bracketed first items) := by
  have whole : Scans entity Parted (Text.joinWith ", " (text :: texts)).toList
      fun source tokens => ∀ rest, Follows 1 rest → firstLexeme rest ≠ some .comma →
        ∃ middle, Derives source (.any first) (tokens ++ rest) middle ∧
          Derives source (.moreItems items) middle rest := by
    rw [Text.toList_joinWith]
    refine firstRead.append (scans_furtherItems read)
      (fun _ parted => Scans.flatMap_ends (fun _ => parted_cons (by decide) _) _ parted) ?_
    intro source front back _ yields others rest follows ends
    obtain ⟨followed, derived⟩ := others rest follows ends
    rw [List.append_assoc]
    exact ⟨_, yields (back ++ rest) followed, derived⟩
  refine whole.closed marks listed ?_
  intro source token tokens _ lexeme derives rest
  have closes : closingMark bracketed ∈ [Lexeme.rightParen, .rightBracket, .comma, .finish] := by
    cases bracketed <;> decide
  have ends : firstLexeme (token :: rest) ≠ some .comma := by
    rw [firstLexeme_cons, lexeme]
    cases bracketed <;> nofun
  obtain ⟨middle, derived, more⟩ :=
    derives (token :: rest) (follows_of_lexeme lexeme closes 1 rest) ends
  rw [List.append_assoc]
  exact ⟨middle, token, lexeme, derived, more⟩

theorem scans_closedItems {mark : Char}
    (marks : Token.punctuation? mark = some (closingMark bracketed))
    (listed : mark ∈ [' ', ')', ',', ']'])
    (read : List.Forall₂ (fun text e => Reads entity text.toList 1 e) texts items) :
    Scans entity Whatever ((Text.joinWith ", " texts).toList ++ [mark]) fun source tokens =>
      ∀ rest, Derives source (.items bracketed items) (tokens ++ rest) rest := by
  cases read with
  | nil =>
      refine Scans.nothing.marked marks ?_
      rintro _ token _ _ lexeme rfl rest
      exact .noItems lexeme
  | cons firstRead read =>
      refine (scans_items marks listed firstRead read).mono (fun _ _ => trivial) ?_
      intro source tokens _ yields rest
      obtain ⟨middle, closing, lexeme, derived, more⟩ := yields rest
      have unclosed : closingMark bracketed ∈
          [Lexeme.rightParen, .rightBracket, .comma, .dot, .finish] := by
        cases bracketed <;> decide
      exact .items (derived.any_firstLexeme unclosed) derived more lexeme

theorem scans_list {text : String} (firstRead : Reads entity text.toList 1 first)
    (read : List.Forall₂ (fun text e => Reads entity text.toList 1 e) texts items) :
    Scans entity Whatever ('(' :: ((Text.joinWith ", " (text :: texts)).toList ++ [')']))
      fun source tokens =>
        ∀ rest, Derives source (.list (.array (first :: items))) (tokens ++ rest) rest := by
  have inner : Scans entity Whatever ((Text.joinWith ", " (text :: texts)).toList ++ [')'])
      (YieldsItems Bool.false first items) :=
    scans_items rfl (by decide) firstRead read
  refine inner.marked rfl fun source token tokens _ lexeme yields rest => ?_
  obtain ⟨middle, closing, closes, derived, more⟩ := yields rest
  exact .listed lexeme (derived.any_firstKeyword (by decide)) derived more closes

def YieldsEnclosed (opens : Lexeme) (bracketed : Bool) (items : List Expr) (source : Source)
    (tokens : List Token) : Prop :=
  ∃ opening inside, tokens = opening :: inside ∧ opening.lexeme = opens ∧
    ∀ rest, Derives source (.items bracketed items) (inside ++ rest) rest

theorem scans_enclosed {opening mark : Char} {opens : Lexeme}
    (opened : Token.punctuation? opening = some opens)
    (marks : Token.punctuation? mark = some (closingMark bracketed))
    (listed : mark ∈ [' ', ')', ',', ']'])
    (read : List.Forall₂ (fun text e => Reads entity text.toList 1 e) texts items) :
    Scans entity Parted (opening :: ((Text.joinWith ", " texts).toList ++ [mark]))
      (YieldsEnclosed opens bracketed items) :=
  ((scans_closedItems marks listed read).marked opened fun _ token tokens _ lexeme yields =>
    ⟨token, tokens, rfl, lexeme, yields⟩).mono (fun _ _ => trivial) fun _ _ _ yields => yields

theorem reads_array
    (read : List.Forall₂ (fun text e => Reads entity text.toList 1 e) texts items) :
    Reads entity
      (Keyword.array.text.toList ++ '[' :: ((Text.joinWith ", " texts).toList ++ [']'])) 5
      (.array items) := by
  have word : isWord Keyword.array.text.toList := by decide
  have inner : Scans entity Parted ('[' :: ((Text.joinWith ", " texts).toList ++ [']']))
      (YieldsEnclosed .leftBracket Bool.true items) := scans_enclosed rfl rfl (by decide) read
  refine (scans_word word).append inner (fun _ _ => ?_) ?_
  · rintro _ ⟨⟩
    decide
  · rintro source _ _ _ ⟨token, rfl, lexeme⟩ ⟨opening, inside, rfl, opens, derives⟩ rest _
    exact .array (keyword?_of_word lexeme) opens (derives rest)

theorem reads_call {name : String} {more : List String} (named : isName name)
    (each : ∀ part ∈ more, isName part)
    (read : List.Forall₂ (fun text e => Reads entity text.toList 1 e) texts items) :
    Reads entity ((Text.joinWith "." (name :: more)).toList ++
        '(' :: ((Text.joinWith ", " texts).toList ++ [')'])) 5
      (ofCall (Text.joinWith "." (name :: more)) items) := by
  have inner : Scans entity Parted ('(' :: ((Text.joinWith ", " texts).toList ++ [')']))
      (YieldsEnclosed .leftParen Bool.false items) := scans_enclosed rfl rfl (by decide) read
  refine (scans_dotted named each).append inner (fun _ _ => ?_) ?_
  · rintro _ ⟨⟩
    decide
  · rintro source _ _ _ ⟨token, inside, rfl, named, parts⟩ ⟨opening, arguments, rfl, opens, derives⟩
      rest _
    have undotted : firstLexeme (opening :: (arguments ++ rest)) ≠ some .dot := by
      rw [firstLexeme_cons, opens]
      nofun
    exact .call named (gives_readParts_iff.mpr ⟨inside, List.append_assoc .., parts, undotted⟩)
      opens (derives rest)

end Items

/-! ## Conditions -/

section Conditions

variable {leftText rightText : List Char} {left right : Expr} {negated : Bool}

def phraseText (word : Keyword) : Bool → List Char
  | Bool.false => word.text.toList
  | Bool.true => Keyword.not.text.toList ++ ' ' :: word.text.toList

def IsPhrase (word : Keyword) (negated : Bool) (_ : Source) (tokens : List Token) : Prop :=
  ∀ rest, Phrase word negated (tokens ++ rest) rest

theorem scans_phrase (word : Keyword) (negated : Bool) :
    Scans entity Parted (phraseText word negated) (IsPhrase word negated) := by
  cases negated with
  | false =>
      refine (scans_keyword word).mono (fun _ parted => parted) ?_
      rintro _ _ _ ⟨token, rfl, found⟩ rest
      exact .plain found
  | true =>
      refine (scans_keyword .not).spaced (scans_keyword word) ?_
      rintro _ _ _ _ ⟨negation, rfl, negates⟩ ⟨token, rfl, found⟩ rest
      exact .negated negates found

theorem follows_word {token : Token} {keyword : Keyword} (word : token.keyword? = some keyword)
    (rest : List Token) : Follows 5 (token :: rest) := by
  obtain ⟨text, lexeme, _⟩ := exists_word_of_keyword word
  exact follows_primary (by rw [lexeme]; nofun) (by rw [lexeme]; nofun) rest

theorem follows_operator {token : Token} {symbol : String}
    (operates : token.lexeme = .operator symbol) (rest : List Token) : Follows 5 (token :: rest) :=
  follows_primary (by rw [operates]; nofun) (by rw [operates]; nofun) rest

theorem follows_phrase {word : Keyword} {tokens rest : List Token}
    (phrase : Phrase word negated tokens rest) : Follows 5 tokens := by
  cases phrase with
  | plain found => exact follows_word found _
  | negated negates _ => exact follows_word negates _

theorem Reads.compare {symbol : String} {comparator : Comparator}
    (leftRead : Reads entity leftText 5 left) (rightRead : Reads entity rightText 5 right)
    (isSymbol : isSymbol symbol) (known : comparator? symbol = some comparator) :
    Reads entity (leftText ++ ' ' :: (symbol.toList ++ ' ' :: rightText)) 4
      (.condition (.compare comparator) left right) := by
  have operator : Scans entity Parted symbol.toList
      (Lone fun token => token.lexeme = .operator symbol) :=
    (scans_symbol isSymbol).mono (fun _ parted => parted.endsOperator) fun _ _ _ lone => lone
  have further : Scans entity Parted (symbol.toList ++ ' ' :: rightText) fun source tokens =>
      ∃ token inside, tokens = token :: inside ∧ token.lexeme = .operator symbol ∧
        Yields (.primary right) 5 source inside := by
    refine operator.spaced rightRead ?_
    rintro _ _ inside _ ⟨token, rfl, operates⟩ yields
    exact ⟨token, inside, rfl, operates, yields⟩
  refine leftRead.spaced further ?_
  rintro source front _ _ yields ⟨token, inside, rfl, operates, others⟩ rest follows
  have derived := others rest (follows.mono (by decide))
  have unquantified : ∀ keyword, firstKeyword (inside ++ rest) = some keyword →
      keyword ≠ .any ∧ keyword ≠ .some ∧ keyword ≠ .all := by
    rintro keyword found
    refine ⟨?_, ?_, ?_⟩ <;> rintro rfl <;>
      exact derived.primary_firstKeyword (by decide) found
  rw [List.append_assoc]
  exact .compare (yields _ (follows_operator operates _)) operates known unquantified derived

theorem Reads.like (leftRead : Reads entity leftText 5 left)
    (rightRead : Reads entity rightText 5 right) (ignoreCase negated : Bool) :
    Reads entity (leftText ++ ' ' ::
        (phraseText (if ignoreCase then .ilike else .like) negated ++ ' ' :: rightText)) 4
      (.condition (.compare (.like ignoreCase negated)) left right) := by
  have further : Scans entity Parted
      (phraseText (if ignoreCase then .ilike else .like) negated ++ ' ' :: rightText)
      fun source tokens => ∀ rest, Follows 4 rest → ∃ middle,
        Phrase (if ignoreCase then .ilike else .like) negated (tokens ++ rest) middle ∧
          Derives source (.primary right) middle rest := by
    refine (scans_phrase _ negated).spaced rightRead ?_
    intro source front back _ phrase yields rest follows
    rw [List.append_assoc]
    exact ⟨_, phrase (back ++ rest), yields rest (follows.mono (by decide))⟩
  refine leftRead.spaced further ?_
  intro source front back _ yields others rest follows
  obtain ⟨middle, phrase, derived⟩ := others rest follows
  rw [List.append_assoc]
  exact .like (yields _ (follows_phrase phrase)) phrase derived

theorem Reads.null (leftRead : Reads entity leftText 5 left) (negated : Bool) :
    Reads entity (leftText ++ ' ' :: (Keyword.is.text.toList ++ ' ' :: phraseText .null negated)) 4
      (.condition (.null negated) left (.literal .null)) := by
  have further : Scans entity Parted (Keyword.is.text.toList ++ ' ' :: phraseText .null negated)
      fun _ tokens => ∃ token inside, tokens = token :: inside ∧ token.keyword? = some .is ∧
        ∀ rest, Phrase .null negated (inside ++ rest) rest := by
    refine (scans_keyword .is).spaced (scans_phrase .null negated) ?_
    rintro _ _ inside _ ⟨token, rfl, word⟩ phrase
    exact ⟨token, inside, rfl, word, phrase⟩
  refine leftRead.spaced further ?_
  rintro source front _ _ yields ⟨token, inside, rfl, word, phrase⟩ rest _
  rw [List.append_assoc]
  exact .null (yields _ (follows_word word _)) word (phrase rest)

theorem Reads.member {listText : List Char} (leftRead : Reads entity leftText 5 left)
    (listRead : Scans entity Whatever listText fun source tokens =>
      ∀ rest, Derives source (.list right) (tokens ++ rest) rest) (negated : Bool) :
    Reads entity (leftText ++ ' ' :: (phraseText .in negated ++ ' ' :: listText)) 4
      (.condition (.member negated) left right) := by
  have further : Scans entity Parted (phraseText .in negated ++ ' ' :: listText)
      fun source tokens => ∀ rest, ∃ middle, Phrase .in negated (tokens ++ rest) middle ∧
        Derives source (.list right) middle rest := by
    refine ((scans_phrase .in negated).spaced listRead ?_).mono (fun _ _ => trivial)
      fun _ _ _ yields => yields
    intro source front back _ phrase derives rest
    rw [List.append_assoc]
    exact ⟨_, phrase (back ++ rest), derives rest⟩
  refine leftRead.spaced further ?_
  intro source front back _ yields others rest _
  obtain ⟨middle, phrase, derived⟩ := others rest
  rw [List.append_assoc]
  exact .member (yields _ (follows_phrase phrase)) phrase derived

/-- The words of a membership in something other than a list: the comparison and its quantifier. -/
def quantifier : Bool → String × Keyword
  | Bool.false => ("=", .any)
  | Bool.true => ("<>", .all)

theorem Reads.quantified (leftRead : Reads entity leftText 5 left)
    (rightRead : Reads entity rightText 1 right) (negated : Bool) :
    Reads entity (leftText ++ ' ' :: ((quantifier negated).1.toList ++
        ' ' :: ((quantifier negated).2.text.toList ++ ' ' :: ('(' :: (rightText ++ [')']))))) 4
      (.condition (.member negated) left right) := by
  have isSymbol : isSymbol (quantifier negated).1 := by cases negated <;> decide
  have operator : Scans entity Parted (quantifier negated).1.toList
      (Lone fun token => token.lexeme = .operator (quantifier negated).1) :=
    (scans_symbol isSymbol).mono (fun _ parted => parted.endsOperator) fun _ _ _ lone => lone
  have opened : Scans entity Parted ('(' :: (rightText ++ [')'])) fun source tokens =>
      ∀ rest, firstLexeme (tokens ++ rest) = some .leftParen ∧
        Derives source (.primary right) (tokens ++ rest) rest := by
    refine (rightRead.closed.mono (fun _ _ => trivial) fun _ _ _ closed => closed).marked rfl ?_
    intro source token tokens _ lexeme derives rest
    obtain ⟨closing, closes, derived⟩ := derives rest
    exact ⟨congrArg some lexeme,
      .parenthesised lexeme (derived.any_firstKeyword (by decide)) derived closes⟩
  have further : Scans entity Parted ((quantifier negated).2.text.toList ++
      ' ' :: ('(' :: (rightText ++ [')']))) fun source tokens =>
        ∃ token inside, tokens = token :: inside ∧
          token.keyword? = some (quantifier negated).2 ∧
          ∀ rest, firstLexeme (inside ++ rest) = some .leftParen ∧
            Derives source (.primary right) (inside ++ rest) rest := by
    refine (scans_keyword _).spaced opened ?_
    rintro _ _ inside _ ⟨token, rfl, word⟩ derives
    exact ⟨token, inside, rfl, word, derives⟩
  have tail : Scans entity Parted ((quantifier negated).1.toList ++
      ' ' :: ((quantifier negated).2.text.toList ++ ' ' :: ('(' :: (rightText ++ [')']))))
        fun source tokens => ∃ operator token inside, tokens = operator :: token :: inside ∧
          operator.lexeme = .operator (quantifier negated).1 ∧
          token.keyword? = some (quantifier negated).2 ∧
          ∀ rest, firstLexeme (inside ++ rest) = some .leftParen ∧
            Derives source (.primary right) (inside ++ rest) rest := by
    refine operator.spaced further ?_
    rintro _ _ _ _ ⟨operator, rfl, operates⟩ ⟨token, inside, rfl, word, derives⟩
    exact ⟨operator, token, inside, rfl, operates, word, derives⟩
  refine leftRead.spaced tail ?_
  rintro source front _ _ yields ⟨operator, token, inside, rfl, operates, word, derives⟩ rest _
  obtain ⟨opens, derived⟩ := derives rest
  have leftDerived := yields (operator :: token :: (inside ++ rest)) (follows_operator operates _)
  rw [List.append_assoc]
  cases negated with
  | false => exact .anyOf leftDerived operates rfl (.inl word) opens derived
  | true => exact .allOf leftDerived operates rfl word opens derived

end Conditions

/-! ## Choices -/

section Choices

variable {branches : List (Expr × Expr)} {branch : Expr × Expr} {otherwise : Option Expr}

def YieldsBranch (branch : Expr × Expr) (source : Source) (tokens : List Token) : Prop :=
  ∃ token inside, tokens = token :: inside ∧ token.keyword? = some .when ∧
    ∀ rest, Follows 1 rest → ∃ next middle, next.keyword? = some .then ∧
      Derives source (.any branch.1) (inside ++ rest) (next :: middle) ∧
      Derives source (.any branch.2) middle rest

def YieldsBranches (branches : List (Expr × Expr)) (source : Source) (tokens : List Token) : Prop :=
  ∀ rest, Follows 1 rest → firstKeyword rest ≠ some .when → Follows 1 (tokens ++ rest) ∧
    (branches ≠ [] → firstKeyword (tokens ++ rest) = some .when) ∧
    Derives source (.branches branches) (tokens ++ rest) rest

def YieldsEnd (otherwise : Option Expr) (source : Source) (tokens : List Token) : Prop :=
  ∀ rest, Follows 1 (tokens ++ rest) ∧ firstKeyword (tokens ++ rest) ≠ some .when ∧
    ∀ branches before, Derives source (.branches branches) before (tokens ++ rest) →
      Derives source (.body branches otherwise) before rest

def YieldsBody (branches : List (Expr × Expr)) (otherwise : Option Expr) (source : Source)
    (tokens : List Token) : Prop :=
  ∀ rest, Follows 1 (tokens ++ rest) ∧ firstKeyword (tokens ++ rest) = some .when ∧
    Derives source (.body branches otherwise) (tokens ++ rest) rest

theorem follows_branch {token : Token} {keyword : Keyword} (word : token.keyword? = some keyword)
    (listed : keyword ∈ [Keyword.when, .then, .else, .end]) (rest : List Token) :
    Follows 1 (token :: rest) := by
  have each : ∀ keyword ∈ [Keyword.when, .then, .else, .end],
      keyword ∉ [Keyword.not, .in, .like, .ilike, .is] ∧ keyword ≠ .and ∧ keyword ≠ .or := by decide
  obtain ⟨unlisted, all, any⟩ := each keyword listed
  exact follows_of_keyword word unlisted (fun same => absurd same all)
    (fun same => absurd same any) rest

theorem scans_lead (keyword : Keyword) (reads : Reads entity text 1 e) :
    Scans entity Parted (keyword.text.toList ++ ' ' :: text) fun source tokens =>
      ∃ token inside, tokens = token :: inside ∧ token.keyword? = some keyword ∧
        Yields (.any e) 1 source inside := by
  refine (scans_keyword keyword).spaced reads ?_
  rintro _ _ inside _ ⟨token, rfl, word⟩ yields
  exact ⟨token, inside, rfl, word, yields⟩

theorem scans_branch {keyText outcomeText : List Char} (key : Reads entity keyText 1 branch.1)
    (outcome : Reads entity outcomeText 1 branch.2) :
    Scans entity Parted (Keyword.when.text.toList ++ ' ' :: keyText ++
      ' ' :: (Keyword.then.text.toList ++ ' ' :: outcomeText)) (YieldsBranch branch) := by
  refine (scans_lead .when key).spaced (scans_lead .then outcome) ?_
  rintro source _ _ _ ⟨token, inside, rfl, isWhen, keyYields⟩ ⟨next, middle, rfl, isThen, yields⟩
  refine ⟨token, inside ++ next :: middle, rfl, isWhen, fun rest follows => ?_⟩
  rw [List.append_assoc]
  exact ⟨next, middle ++ rest, isThen, keyYields _ (follows_branch isThen (by decide) _),
    yields rest follows⟩

theorem scans_branches {texts : List (List Char)}
    (read : List.Forall₂ (fun text branch => Scans entity Parted text (YieldsBranch branch)) texts
      branches) :
    Scans entity Parted (texts.flatMap (" ".toList ++ ·)) (YieldsBranches branches) := by
  have blank : Scans entity Whatever " ".toList fun _ tokens => tokens = [] := Scans.nothing.blank
  refine Scans.many blank (fun _ => parted_cons (by decide) _) ?_ ?_ read
  · exact fun _ rest follows other => ⟨follows, fun some => absurd rfl some, .noBranches other⟩
  · rintro source branch branches _ _ back rfl ⟨token, inside, rfl, word, yields⟩ others rest
      follows other
    obtain ⟨followed, _, derived⟩ := others rest follows other
    obtain ⟨next, middle, isThen, key, outcome⟩ := yields (back ++ rest) followed
    refine ⟨follows_branch word (by decide) _, fun _ => word, ?_⟩
    rw [List.nil_append, List.append_assoc]
    exact .branches word key isThen outcome derived

theorem scans_ended : Scans entity Parted Keyword.end.text.toList (YieldsEnd none) := by
  refine (scans_keyword .end).mono (fun _ parted => parted) ?_
  rintro source _ _ ⟨token, rfl, word⟩ rest
  refine ⟨follows_branch word (by decide) _, ?_, fun branches before derived => ?_⟩
  · rw [List.singleton_append, firstKeyword_cons, word]
    nofun
  · exact .ended derived word

theorem scans_otherwise (reads : Reads entity text 1 e) :
    Scans entity Parted (Keyword.else.text.toList ++ ' ' :: text ++
      ' ' :: Keyword.end.text.toList) (YieldsEnd (some e)) := by
  refine (scans_lead .else reads).spaced (scans_keyword .end) ?_
  rintro source _ _ _ ⟨token, inside, rfl, isElse, yields⟩ ⟨ending, rfl, ends⟩ rest
  refine ⟨follows_branch isElse (by decide) _, ?_, fun branches before derived => ?_⟩
  · rw [List.cons_append, List.cons_append, firstKeyword_cons, isElse]
    nofun
  · rw [List.cons_append, List.cons_append, List.append_assoc] at derived
    exact .otherwise derived isElse (yields _ (follows_branch ends (by decide) _)) ends

theorem scans_body {texts : List (List Char)} {endText : List Char}
    (read : List.Forall₂ (fun text branch => Scans entity Parted text (YieldsBranch branch)) texts
      branches) (some : branches ≠ [])
    (ended : Scans entity Parted endText (YieldsEnd otherwise)) :
    Scans entity Parted (texts.flatMap (" ".toList ++ ·) ++ ' ' :: endText)
      (YieldsBody branches otherwise) := by
  refine (scans_branches read).spaced ended ?_
  intro source front back _ yields closes rest
  obtain ⟨follows, other, bodies⟩ := closes rest
  obtain ⟨followed, begins, derived⟩ := yields (back ++ rest) follows other
  rw [List.append_assoc]
  exact ⟨followed, begins some, bodies branches _ derived⟩

variable {bodyText : List Char}

theorem reads_searched (body : Scans entity Parted bodyText (YieldsBody branches otherwise))
    (parted : ∀ behind, Parted (bodyText ++ behind)) :
    Reads entity (Keyword.case.text.toList ++ bodyText) 5 (.choice none branches otherwise) := by
  refine (scans_keyword .case).append body (fun behind _ => parted behind) ?_
  rintro source _ back _ ⟨token, rfl, word⟩ yields rest _
  obtain ⟨_, begins, derived⟩ := yields rest
  exact .searched word begins derived

theorem reads_simple (subject : Reads entity text 1 e)
    (body : Scans entity Parted bodyText (YieldsBody branches otherwise))
    (parted : ∀ behind, Parted (bodyText ++ behind)) :
    Reads entity (Keyword.case.text.toList ++ ' ' :: text ++ bodyText) 5
      (.choice (some e) branches otherwise) := by
  refine (scans_lead .case subject).append body (fun behind _ => parted behind) ?_
  rintro source _ back _ ⟨token, inside, rfl, word, yields⟩ bodyYields rest _
  obtain ⟨follows, begins, derived⟩ := bodyYields rest
  have subjectDerived := yields (back ++ rest) follows
  rw [List.append_assoc]
  exact .simple word (subjectDerived.any_firstKeyword (by decide)) subjectDerived begins derived

end Choices

end Expr

end RowGuard
