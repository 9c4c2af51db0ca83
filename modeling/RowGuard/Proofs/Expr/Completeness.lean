import RowGuard.Proofs.Expr.Soundness

/-! What is derived is read, so the readers follow the derivations in both
directions, and a text is read to a tree exactly when the tree is derived from
its tokens up to the end. -/

set_option autoImplicit false

namespace RowGuard

namespace Expr

section Completeness

variable {source : Source} {tokens middle rest : List Token} {left right : Expr}

theorem gives_readCondition_alone (leftRead : Gives (readPrimary source tokens) left rest)
    (ends : ∀ token ∈ rest.head?, EndsCondition token) :
    Gives (readCondition source tokens) left rest := by
  rw [readCondition]
  refine leftRead.bind fun _ => ?_
  cases rest with
  | nil => exact gives_ok left
  | cons token rest =>
      obtain ⟨notOperator, others⟩ := ends token rfl
      dsimp only
      split
      case h_1 operates => exact absurd operates (notOperator _)
      case h_7 => exact gives_ok left
      all_goals
        rename_i found _
        exact absurd found (others _ (by simp))

theorem gives_readCondition_compare {comparator : Comparator} {symbol : String} {token : Token}
    (leftRead : Gives (readPrimary source tokens) left (token :: middle))
    (operates : token.lexeme = .operator symbol) (known : comparator? symbol = some comparator)
    (unquantified : ∀ keyword, firstKeyword middle = some keyword →
      keyword ≠ .any ∧ keyword ≠ .some ∧ keyword ≠ .all)
    (rightRead : Gives (readPrimary source middle) right rest) :
    Gives (readCondition source tokens) (.condition (.compare comparator) left right) rest := by
  rw [readCondition]
  refine leftRead.bind fun _ => ?_
  simp only [operates, known, source.keyword?_eq]
  split
  · exact absurd rfl (unquantified _ ‹_›).1
  · exact absurd rfl (unquantified _ ‹_›).2.1
  · exact absurd rfl (unquantified _ ‹_›).2.2
  · exact rightRead.bind fun _ => gives_ok _

theorem gives_readQuantified (opens : firstLexeme tokens = some .leftParen)
    (gives : Gives (readPrimary source tokens) right rest) :
    Gives (readQuantified source tokens) right rest := by
  cases tokens with
  | nil => cases opens
  | cons opening inner =>
      have opens : opening.lexeme = .leftParen := Option.some.inj opens
      rw [readQuantified]
      refine (gives_take_iff.mpr ⟨opening, rfl, opens⟩).bind fun _ => ?_
      rw [readPrimary] at gives
      simp only [opens] at gives
      split at gives
      · rename_i selects
        rw [if_pos selects]
        obtain ⟨_, _, bodyRead, rfl⟩ := gives.of_bind_ok
        exact bodyRead.bind fun _ => gives_ok _
      · rename_i other
        rw [if_neg other]
        obtain ⟨_, _, _, innerRead, gives⟩ := gives.of_bind
        obtain ⟨_, _, close, rfl⟩ := gives.of_bind_ok
        exact innerRead.bind fun _ => close.bind fun _ => gives_ok _

theorem gives_readCondition_anyOf {symbol : String} {token quantifier : Token}
    (leftRead : Gives (readPrimary source tokens) left (token :: quantifier :: middle))
    (operates : token.lexeme = .operator symbol) (known : comparator? symbol = some .eq)
    (word : quantifier.keyword? = some .any ∨ quantifier.keyword? = some .some)
    (opens : firstLexeme middle = some .leftParen)
    (rightRead : Gives (readPrimary source middle) right rest) :
    Gives (readCondition source tokens) (.condition (.member Bool.false) left right) rest := by
  rw [readCondition]
  refine leftRead.bind fun _ => ?_
  simp only [operates, known, source.keyword?_eq, firstKeyword_cons]
  rcases word with word | word <;> simp only [word]
  · exact (gives_readQuantified opens rightRead).bind fun _ => gives_ok _
  · exact (gives_readQuantified opens rightRead).bind fun _ => gives_ok _

theorem gives_readCondition_allOf {symbol : String} {token quantifier : Token}
    (leftRead : Gives (readPrimary source tokens) left (token :: quantifier :: middle))
    (operates : token.lexeme = .operator symbol) (known : comparator? symbol = some .ne)
    (word : quantifier.keyword? = some .all) (opens : firstLexeme middle = some .leftParen)
    (rightRead : Gives (readPrimary source middle) right rest) :
    Gives (readCondition source tokens) (.condition (.member Bool.true) left right) rest := by
  rw [readCondition]
  refine leftRead.bind fun _ => ?_
  simp only [operates, known, source.keyword?_eq, firstKeyword_cons, word]
  exact (gives_readQuantified opens rightRead).bind fun _ => gives_ok _

theorem gives_readCondition_member {negated : Bool} {after : List Token}
    (leftRead : Gives (readPrimary source tokens) left middle)
    (phrase : Phrase .in negated middle after)
    (rightRead : Gives (readList source after) right rest) :
    Gives (readCondition source tokens) (.condition (.member negated) left right) rest := by
  rw [readCondition]
  refine leftRead.bind fun _ => ?_
  cases phrase with
  | plain word =>
      obtain ⟨text, lexeme, _⟩ := exists_word_of_keyword word
      simp only [lexeme, word]
      exact rightRead.bind fun _ => gives_ok _
  | negated negates word =>
      obtain ⟨text, lexeme, _⟩ := exists_word_of_keyword negates
      simp only [lexeme, negates, source.keyword?_eq, firstKeyword_cons, word]
      exact rightRead.bind fun _ => gives_ok _

theorem gives_readCondition_like {ignoreCase negated : Bool} {after : List Token}
    (leftRead : Gives (readPrimary source tokens) left middle)
    (phrase : Phrase (if ignoreCase then .ilike else .like) negated middle after)
    (rightRead : Gives (readPrimary source after) right rest) :
    Gives (readCondition source tokens)
      (.condition (.compare (.like ignoreCase negated)) left right) rest := by
  rw [readCondition]
  refine leftRead.bind fun _ => ?_
  cases phrase with
  | plain word =>
      obtain ⟨text, lexeme, _⟩ := exists_word_of_keyword word
      cases ignoreCase <;> simp only [lexeme, word, if_true, Bool.false_eq_true, if_false]
      · exact rightRead.bind fun _ => gives_ok _
      · exact rightRead.bind fun _ => gives_ok _
  | negated negates word =>
      obtain ⟨text, lexeme, _⟩ := exists_word_of_keyword negates
      simp only [lexeme, negates, source.keyword?_eq, firstKeyword_cons, word]
      cases ignoreCase
      · exact rightRead.bind fun _ => gives_ok _
      · exact rightRead.bind fun _ => gives_ok _

theorem gives_readCondition_null {negated : Bool} {token : Token}
    (leftRead : Gives (readPrimary source tokens) left (token :: middle))
    (word : token.keyword? = some .is) (phrase : Phrase .null negated middle rest) :
    Gives (readCondition source tokens) (.condition (.null negated) left (.literal .null))
      rest := by
  rw [readCondition]
  refine leftRead.bind fun _ => ?_
  obtain ⟨text, lexeme, _⟩ := exists_word_of_keyword word
  cases phrase with
  | plain isNull =>
      simp only [lexeme, word, source.keyword?_eq, firstKeyword_cons, isNull]
      exact (gives_takeKeyword_iff.mpr ⟨_, rfl, isNull⟩).bind fun _ => gives_ok _
  | negated negates isNull =>
      simp only [lexeme, word, source.keyword?_eq, firstKeyword_cons, negates]
      exact (gives_takeKeyword_iff.mpr ⟨_, rfl, isNull⟩).bind fun _ => gives_ok _

theorem gives_readList_subquery {target : Option String} {body : String} {opening : Token}
    (opens : opening.lexeme = .leftParen) (selects : firstKeyword tokens = some .select)
    (captured : Gives (readBody source tokens) (target, body) rest) :
    Gives (readList source (opening :: tokens)) (.subquery target body) rest := by
  rw [readList]
  refine (gives_take_iff.mpr ⟨opening, rfl, opens⟩).bind fun _ => ?_
  rw [source.keyword?_eq, if_pos selects]
  exact (gives_readSubquery_iff.mpr ⟨target, body, rfl, captured⟩).bind fun _ => gives_ok _

theorem gives_readList_listed {first : Expr} {more : List Expr} {opening closing : Token}
    (opens : opening.lexeme = .leftParen) (other : firstKeyword tokens ≠ some .select)
    (firstRead : Gives (readAny source tokens) first middle)
    (moreRead : Gives (readMoreItems source middle) more (closing :: rest))
    (closes : closing.lexeme = .rightParen) :
    Gives (readList source (opening :: tokens)) (.array (first :: more)) rest := by
  rw [readList]
  refine (gives_take_iff.mpr ⟨opening, rfl, opens⟩).bind fun _ => ?_
  rw [source.keyword?_eq, if_neg other]
  exact firstRead.bind fun _ => moreRead.bind fun _ =>
    (gives_take_iff.mpr ⟨closing, rfl, closes⟩).bind fun _ => gives_ok _

theorem gives_readItems {closing : Lexeme} {expected : String} {first : Expr} {more : List Expr}
    {token : Token} (open_ : firstLexeme tokens ≠ some closing)
    (firstRead : Gives (readAny source tokens) first middle)
    (moreRead : Gives (readMoreItems source middle) more (token :: rest))
    (closes : token.lexeme = closing) :
    Gives (readItems source closing expected tokens) (first :: more) rest := by
  cases tokens with
  | nil =>
      obtain ⟨taken, _⟩ := firstRead
      exact absurd taken (Nat.not_succ_le_zero _)
  | cons front inner =>
      rw [firstLexeme_cons, ne_eq, Option.some_inj] at open_
      rw [readItems, Source.front_cons, if_neg open_]
      exact firstRead.bind fun _ => moreRead.bind fun _ =>
        (gives_take_iff.mpr ⟨token, rfl, closes⟩).bind fun _ => gives_ok _

theorem gives_readPrimary_subquery {target : Option String} {body : String} {opening : Token}
    (opens : opening.lexeme = .leftParen) (selects : firstKeyword tokens = some .select)
    (captured : Gives (readBody source tokens) (target, body) rest) :
    Gives (readPrimary source (opening :: tokens)) (.subquery target body) rest := by
  rw [readPrimary]
  simp only [opens, source.keyword?_eq]
  rw [if_pos selects]
  exact (gives_readSubquery_iff.mpr ⟨target, body, rfl, captured⟩).bind fun _ => gives_ok _

theorem gives_readPrimary_parenthesised {e : Expr} {opening closing : Token}
    (opens : opening.lexeme = .leftParen) (other : firstKeyword tokens ≠ some .select)
    (innerRead : Gives (readAny source tokens) e (closing :: rest))
    (closes : closing.lexeme = .rightParen) :
    Gives (readPrimary source (opening :: tokens)) e rest := by
  rw [readPrimary]
  simp only [opens, source.keyword?_eq]
  rw [if_neg other]
  exact innerRead.bind fun _ =>
    (gives_take_iff.mpr ⟨closing, rfl, closes⟩).bind fun _ => gives_ok _

theorem gives_readPrimary_literal {value : Literal} {token : Token}
    (found : literal? token.lexeme = some value) :
    Gives (readPrimary source (token :: rest)) (.literal value) rest := by
  rw [readPrimary]
  unfold literal? at found
  split at found
  · rename_i content lexeme
    cases found
    simp only [lexeme]
    exact gives_ok _
  · rename_i n lexeme
    cases found
    simp only [lexeme]
    exact gives_ok _
  · rename_i d lexeme
    cases found
    simp only [lexeme]
    exact gives_ok _
  · cases found

theorem gives_readPrimary_negative {positive value : Literal} {minus token : Token}
    (negates : minus.lexeme = .operator "-") (number : number? token.lexeme = some positive)
    (negation : negated positive = .ok value) :
    Gives (readPrimary source (minus :: token :: rest)) (.literal value) rest := by
  rw [readPrimary]
  simp only [negates, Source.front_cons, number, negation]
  exact gives_ok _

theorem gives_readPrimary_constant {keyword : Keyword} {value : Literal} {token : Token}
    (word : token.keyword? = some keyword) (found : constant? keyword = some value) :
    Gives (readPrimary source (token :: rest)) (.literal value) rest := by
  obtain ⟨text, lexeme, _⟩ := exists_word_of_keyword word
  rw [readPrimary]
  unfold constant? at found
  split at found <;> cases found <;> simp only [lexeme, word]
  · exact gives_ok _
  · exact gives_ok _
  · exact gives_ok _

theorem gives_readPrimary_existence {target : Option String} {body : String}
    {token opening : Token} (word : token.keyword? = some .exists)
    (opens : opening.lexeme = .leftParen)
    (captured : Gives (readBody source tokens) (target, body) rest) (filled : body ≠ "") :
    Gives (readPrimary source (token :: opening :: tokens)) (.existence target body) rest := by
  obtain ⟨text, lexeme, _⟩ := exists_word_of_keyword word
  rw [readPrimary]
  simp only [lexeme, word]
  exact (gives_readExistence_iff.mpr
    ⟨opening, tokens, target, body, rfl, opens, rfl, filled, captured⟩).bind fun _ => gives_ok _

theorem gives_readPrimary_cast {e : Expr} {token opening as : Token}
    (word : token.keyword? = some .cast) (opens : opening.lexeme = .leftParen)
    (operandRead : Gives (readAny source tokens) e (as :: middle)) (isAs : as.keyword? = some .as)
    (typed : firstLexeme middle ≠ some .rightParen)
    (typeRead : Gives (readCastType source 0 middle) () rest) :
    Gives (readPrimary source (token :: opening :: tokens)) e rest := by
  obtain ⟨text, lexeme, _⟩ := exists_word_of_keyword word
  rw [readPrimary]
  simp only [lexeme, word]
  rw [Source.front_cons, if_pos opens]
  refine Gives.bind ?_ fun _ => gives_ok _
  rw [readCast]
  refine (gives_take_iff.mpr ⟨opening, rfl, opens⟩).bind fun _ => operandRead.bind fun _ =>
    (gives_takeKeyword_iff.mpr ⟨as, rfl, isAs⟩).bind fun _ => typeRead.bind fun _ => ?_
  cases middle with
  | nil =>
      rw [readCastType] at typeRead
      exact absurd typeRead not_gives_error
  | cons front inner =>
      rw [firstLexeme_cons, ne_eq, Option.some_inj] at typed
      rw [Source.front_cons, if_neg typed]
      exact gives_ok _

theorem gives_readPrimary_array {items : List Expr} {token opening : Token}
    (word : token.keyword? = some .array) (opens : opening.lexeme = .leftBracket)
    (itemsRead : Gives (readItems source .rightBracket (afterItem Bool.true) tokens) items rest) :
    Gives (readPrimary source (token :: opening :: tokens)) (.array items) rest := by
  obtain ⟨text, lexeme, _⟩ := exists_word_of_keyword word
  rw [readPrimary]
  simp only [lexeme, word]
  exact (gives_take_iff.mpr ⟨opening, rfl, opens⟩).bind fun _ => itemsRead.bind fun _ => gives_ok _

theorem readPrimary_of_name {name : String} {token : Token} (named : name? token = some name) :
    readPrimary source (token :: tokens) = readReference source (token :: tokens) := by
  rw [readPrimary]
  rcases lexeme_of_name named with lexeme | ⟨lexeme, free⟩
  · simp only [lexeme]
  · simp only [lexeme, free]

theorem gives_readPrimary_call {first : String} {more : List String} {arguments : List Expr}
    {token opening : Token} (named : name? token = some first)
    (moreRead : Gives (readParts source tokens) more (opening :: middle))
    (opens : opening.lexeme = .leftParen)
    (argumentsRead : Gives (readItems source .rightParen (afterItem Bool.false) middle) arguments
      rest) :
    Gives (readPrimary source (token :: tokens))
      (ofCall (Text.joinWith "." (first :: more)) arguments) rest := by
  rw [readPrimary_of_name named, readReference]
  refine (gives_readName_iff.mpr ⟨token, rfl, named⟩).bind fun _ => moreRead.bind fun _ => ?_
  obtain ⟨lexeme, start, stop⟩ := opening
  cases opens
  exact argumentsRead.bind fun _ => gives_ok _

theorem gives_readPrimary_reference {first : String} {more : List String} {token : Token}
    (named : name? token = some first) (moreRead : Gives (readParts source tokens) more rest)
    (uncalled : firstLexeme rest ≠ some .leftParen) :
    Gives (readPrimary source (token :: tokens)) (ofParts source first more) rest := by
  rw [readPrimary_of_name named, readReference]
  refine (gives_readName_iff.mpr ⟨token, rfl, named⟩).bind fun _ => moreRead.bind fun _ => ?_
  dsimp only
  split
  · exact absurd rfl uncalled
  · exact gives_ok _

theorem gives_readPrimary_searched {branches : List (Expr × Expr)} {otherwise : Option Expr}
    {token : Token} (word : token.keyword? = some .case)
    (follows : firstKeyword tokens = some .when)
    (bodyRead : Gives (readChoiceBody source tokens) (branches, otherwise) rest) :
    Gives (readPrimary source (token :: tokens)) (.choice none branches otherwise) rest := by
  obtain ⟨text, lexeme, _⟩ := exists_word_of_keyword word
  rw [readPrimary]
  simp only [lexeme, word]
  refine Gives.bind ?_ fun _ => gives_ok _
  rw [readChoice, source.keyword?_eq, if_pos follows]
  exact bodyRead.bind fun _ => gives_ok _

theorem gives_readPrimary_simple {subject : Expr} {branches : List (Expr × Expr)}
    {otherwise : Option Expr} {token : Token} (word : token.keyword? = some .case)
    (other : firstKeyword tokens ≠ some .when)
    (subjectRead : Gives (readAny source tokens) subject middle)
    (follows : firstKeyword middle = some .when)
    (bodyRead : Gives (readChoiceBody source middle) (branches, otherwise) rest) :
    Gives (readPrimary source (token :: tokens)) (.choice (some subject) branches otherwise)
      rest := by
  obtain ⟨text, lexeme, _⟩ := exists_word_of_keyword word
  rw [readPrimary]
  simp only [lexeme, word]
  refine Gives.bind ?_ fun _ => gives_ok _
  rw [readChoice, source.keyword?_eq, if_neg other]
  refine subjectRead.bind fun _ => ?_
  dsimp only
  rw [source.keyword?_eq, if_neg (Decidable.not_not.mpr follows)]
  exact bodyRead.bind fun _ => gives_ok _

theorem gives_readChoiceBody_otherwise {branches : List (Expr × Expr)} {e : Expr}
    {token ending : Token} (branchesRead : Gives (readBranches source tokens) branches
      (token :: middle)) (isElse : token.keyword? = some .else)
    (lastRead : Gives (readAny source middle) e (ending :: rest))
    (ends : ending.keyword? = some .end) :
    Gives (readChoiceBody source tokens) (branches, some e) rest := by
  rw [readChoiceBody]
  refine branchesRead.bind fun _ => ?_
  simp only [isElse]
  exact lastRead.bind fun _ =>
    (gives_takeKeyword_iff.mpr ⟨ending, rfl, ends⟩).bind fun _ => gives_ok _

theorem gives_readChoiceBody_ended {branches : List (Expr × Expr)} {ending : Token}
    (branchesRead : Gives (readBranches source tokens) branches (ending :: rest))
    (ends : ending.keyword? = some .end) :
    Gives (readChoiceBody source tokens) (branches, none) rest := by
  rw [readChoiceBody]
  refine branchesRead.bind fun _ => ?_
  simp only [ends]
  exact gives_ok _

/-- What is derived is read. -/
theorem Derives.isRead {form : Form} (derived : Derives source form tokens rest) :
    form.IsRead source tokens rest := by
  induction derived with
  | any _ _ firstRead moreRead =>
      rw [Form.IsRead, readAny]
      exact firstRead.bind fun _ => moreRead.bind fun _ => gives_ok _
  | noMoreAny other =>
      rename_i tokens
      cases tokens with
      | nil =>
          rw [Form.IsRead, readMoreAny]
          exact gives_ok _
      | cons token inner =>
          rw [firstKeyword_cons] at other
          rw [Form.IsRead, readMoreAny, if_neg other]
          exact gives_ok _
  | moreAny found _ _ nextRead moreRead =>
      rw [Form.IsRead, readMoreAny, if_pos found]
      exact nextRead.bind fun _ => moreRead.bind fun _ => gives_ok _
  | all _ _ firstRead moreRead =>
      rw [Form.IsRead, readAll]
      exact firstRead.bind fun _ => moreRead.bind fun _ => gives_ok _
  | noMoreAll other =>
      rename_i tokens
      cases tokens with
      | nil =>
          rw [Form.IsRead, readMoreAll]
          exact gives_ok _
      | cons token inner =>
          rw [firstKeyword_cons] at other
          rw [Form.IsRead, readMoreAll, if_neg other]
          exact gives_ok _
  | moreAll found _ _ nextRead moreRead =>
      rw [Form.IsRead, readMoreAll, if_pos found]
      exact nextRead.bind fun _ => moreRead.bind fun _ => gives_ok _
  | not found _ operandRead =>
      rw [Form.IsRead, readNot, if_pos found]
      exact operandRead.bind fun _ => gives_ok _
  | unnegated other _ conditionRead =>
      rename_i tokens rest _
      cases tokens with
      | nil => rwa [Form.IsRead, readNot]
      | cons token inner =>
          rw [firstKeyword_cons] at other
          rwa [Form.IsRead, readNot, if_neg other]
  | alone _ ends leftRead => exact gives_readCondition_alone leftRead ends
  | compare _ operates known unquantified _ leftRead rightRead =>
      exact gives_readCondition_compare leftRead operates known unquantified rightRead
  | anyOf _ operates known word opens _ leftRead rightRead =>
      exact gives_readCondition_anyOf leftRead operates known word opens rightRead
  | allOf _ operates known word opens _ leftRead rightRead =>
      exact gives_readCondition_allOf leftRead operates known word opens rightRead
  | member _ phrase _ leftRead rightRead =>
      exact gives_readCondition_member leftRead phrase rightRead
  | like _ phrase _ leftRead rightRead =>
      exact gives_readCondition_like leftRead phrase rightRead
  | null _ word phrase leftRead => exact gives_readCondition_null leftRead word phrase
  | listedSubquery opens selects captured => exact gives_readList_subquery opens selects captured
  | listed opens other _ _ closes firstRead moreRead =>
      exact gives_readList_listed opens other firstRead moreRead closes
  | noMoreItems other =>
      rw [Form.IsRead, readMoreItems.eq_def]
      split
      · exact absurd rfl other
      · exact gives_ok _
  | moreItems found _ _ nextRead moreRead =>
      rename_i token _ _ _ _ _
      obtain ⟨lexeme, start, stop⟩ := token
      cases found
      rw [Form.IsRead, readMoreItems]
      exact nextRead.bind fun _ => moreRead.bind fun _ => gives_ok _
  | noItems closes =>
      rw [Form.IsRead, readItems, Source.front_cons, if_pos closes]
      exact (gives_take_iff.mpr ⟨_, rfl, closes⟩).bind fun _ => gives_ok _
  | items open_ _ _ closes firstRead moreRead =>
      exact gives_readItems open_ firstRead moreRead closes
  | subquery opens selects captured => exact gives_readPrimary_subquery opens selects captured
  | parenthesised opens other _ closes innerRead =>
      exact gives_readPrimary_parenthesised opens other innerRead closes
  | literal found => exact gives_readPrimary_literal found
  | negative negates number negation =>
      exact gives_readPrimary_negative negates number negation
  | constant word found => exact gives_readPrimary_constant word found
  | existence word opens captured filled =>
      exact gives_readPrimary_existence word opens captured filled
  | cast word opens _ isAs typed typeRead operandRead =>
      exact gives_readPrimary_cast word opens operandRead isAs typed typeRead
  | array word opens _ itemsRead => exact gives_readPrimary_array word opens itemsRead
  | call named moreRead opens _ argumentsRead =>
      exact gives_readPrimary_call named moreRead opens argumentsRead
  | reference named moreRead uncalled =>
      exact gives_readPrimary_reference named moreRead uncalled
  | searched word follows _ bodyRead => exact gives_readPrimary_searched word follows bodyRead
  | simple word other _ follows _ subjectRead bodyRead =>
      exact gives_readPrimary_simple word other subjectRead follows bodyRead
  | otherwise _ isElse _ ends branchesRead lastRead =>
      exact gives_readChoiceBody_otherwise branchesRead isElse lastRead ends
  | ended _ ends branchesRead => exact gives_readChoiceBody_ended branchesRead ends
  | noBranches other =>
      rename_i tokens
      cases tokens with
      | nil =>
          rw [Form.IsRead, readBranches]
          exact gives_ok _
      | cons token inner =>
          rw [firstKeyword_cons] at other
          rw [Form.IsRead, readBranches, if_neg other]
          exact gives_ok _
  | branches found _ isThen _ _ keyRead outcomeRead moreRead =>
      rw [Form.IsRead, readBranches, if_pos found]
      exact keyRead.bind fun _ => (gives_takeKeyword_iff.mpr ⟨_, rfl, isThen⟩).bind fun _ =>
        outcomeRead.bind fun _ => moreRead.bind fun _ => gives_ok _

theorem derives_iff_isRead {form : Form} :
    Derives source form tokens rest ↔ form.IsRead source tokens rest :=
  ⟨Derives.isRead, sound source _ form (Nat.lt_succ_self _)⟩

theorem ofTokens_eq_ok_iff {e : Expr} :
    ofTokens source tokens = .ok e ↔
      ∃ rest, Derives source (.any e) tokens rest ∧ (source.front rest).lexeme = .finish := by
  constructor
  · intro ended
    obtain ⟨read, anyRead, ended⟩ := except_bind_eq_ok ended
    dsimp only at ended
    split at ended
    · rename_i ends
      cases ended
      exact ⟨read.rest, derives_iff_isRead.mpr ⟨read.taken, anyRead⟩, ends⟩
    all_goals cases ended
  · rintro ⟨rest, derived, ends⟩
    obtain ⟨taken, anyRead⟩ := derives_iff_isRead.mp derived
    rw [ofTokens, anyRead]
    dsimp only [bind, Except.bind]
    rw [ends]
    rfl

/-- A text that is not blank is read to a tree if the tree is derived from its tokens and the end of
the text is next. -/
theorem parse_eq_ok_iff {text entity : String} {e : Expr}
    (filled : (Text.trim text.toList).isEmpty = Bool.false) :
    parse text entity = .ok e ↔
      ∃ tokens rest, Token.scan text = .ok tokens ∧
        Derives ⟨text.toList, entity⟩ (.any e) tokens rest ∧
        (Source.front ⟨text.toList, entity⟩ rest).lexeme = .finish := by
  rw [parse, if_neg (by simp [filled])]
  constructor
  · intro parsed
    obtain ⟨tokens, scanned, parsed⟩ := except_bind_eq_ok parsed
    obtain ⟨rest, derived⟩ := ofTokens_eq_ok_iff.mp parsed
    exact ⟨tokens, rest, scanned, derived⟩
  · rintro ⟨tokens, rest, scanned, derived⟩
    rw [scanned]
    exact ofTokens_eq_ok_iff.mpr ⟨rest, derived⟩

end Completeness

end Expr

end RowGuard
