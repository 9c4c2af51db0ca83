import RowGuard.Proofs.Expr.Capture

/-! What a derivation begins with, what it passes over, and how an expression of
one precedence is derived as one of a looser precedence. -/

set_option autoImplicit false

namespace RowGuard

namespace Expr

variable {source : Source} {tokens middle rest : List Token} {form : Form} {e : Expr}

/-! ## The tokens passed over -/

/-- The tokens between two places, none of them the end of the text. -/
def Passes (tokens rest : List Token) : Prop :=
  ∃ inside, tokens = inside ++ rest ∧ ∀ token ∈ inside, token.lexeme ≠ .finish

namespace Passes

theorem refl (tokens : List Token) : Passes tokens tokens :=
  ⟨[], rfl, by simp⟩

theorem cons {token : Token} (unfinished : token.lexeme ≠ .finish)
    (passes : Passes tokens rest) : Passes (token :: tokens) rest := by
  obtain ⟨inside, rfl, each⟩ := passes
  exact ⟨token :: inside, rfl, List.forall_mem_cons.mpr ⟨unfinished, each⟩⟩

theorem trans (first : Passes tokens middle) (second : Passes middle rest) :
    Passes tokens rest := by
  obtain ⟨inside, rfl, each⟩ := first
  obtain ⟨more, rfl, every⟩ := second
  refine ⟨inside ++ more, by simp, fun token member => ?_⟩
  rcases List.mem_append.mp member with member | member
  · exact each token member
  · exact every token member

theorem suffix (passes : Passes tokens rest) : rest <:+ tokens := by
  obtain ⟨inside, rfl, _⟩ := passes
  exact List.suffix_append _ _

theorem keyword {token : Token} {keyword : Keyword} (word : token.keyword? = some keyword)
    (passes : Passes tokens rest) : Passes (token :: tokens) rest := by
  obtain ⟨text, lexeme, _⟩ := exists_word_of_keyword word
  exact passes.cons (by rw [lexeme]; nofun)

theorem lexeme {token : Token} {lexeme : Lexeme} (found : token.lexeme = lexeme)
    (unfinished : lexeme ≠ .finish) (passes : Passes tokens rest) :
    Passes (token :: tokens) rest :=
  passes.cons (by rwa [found])

theorem closing {token : Token} {bracketed : Bool} (closes : token.lexeme = closingMark bracketed)
    (passes : Passes tokens rest) : Passes (token :: tokens) rest :=
  passes.lexeme closes (by cases bracketed <;> nofun)

theorem phrase {word : Keyword} {negated : Bool} (phrase : Phrase word negated tokens rest) :
    Passes tokens rest := by
  cases phrase with
  | plain word => exact (refl _).keyword word
  | negated negates word => exact ((refl _).keyword word).keyword negates

theorem body {target : Option String} {body : String}
    (captured : Gives (readBody source tokens) (target, body) rest) : Passes tokens rest := by
  obtain ⟨stop, captured, _⟩ := gives_readBody_iff.mp captured
  obtain ⟨inside, closing, rfl, closes, _, each, _⟩ := readCapture_split captured
  exact trans ⟨inside, rfl, each⟩ ((refl _).lexeme closes nofun)

theorem castType (read : Gives (readCastType source 0 tokens) () rest) : Passes tokens rest := by
  obtain ⟨inside, closing, rfl, closes, each, _⟩ := readCastType_split read
  exact trans ⟨inside, rfl, each⟩ ((refl _).lexeme closes nofun)

theorem name {token : Token} {name : String} (named : name? token = some name)
    (passes : Passes tokens rest) : Passes (token :: tokens) rest :=
  passes.cons (ne_finish_of_name named)

theorem parts {more : List String} (read : Gives (readParts source tokens) more rest) :
    Passes tokens rest := by
  obtain ⟨inside, rfl, each, _⟩ := gives_readParts_iff.mp read
  clear read
  induction each with
  | nil => exact refl _
  | cons dotted named _ ih => exact (ih.name named).lexeme dotted nofun

theorem literal {token : Token} {value : Literal} (found : literal? token.lexeme = some value)
    (passes : Passes tokens rest) : Passes (token :: tokens) rest := by
  refine passes.cons fun ends => ?_
  rw [ends] at found
  cases found

theorem number {token : Token} {value : Literal} (found : number? token.lexeme = some value)
    (passes : Passes tokens rest) : Passes (token :: tokens) rest := by
  refine passes.cons fun ends => ?_
  rw [ends] at found
  cases found

end Passes

/-- A derivation passes over tokens from the front, and never over the end of the text. -/
theorem Derives.passes (derived : Derives source form tokens rest) : Passes tokens rest := by
  induction derived with
  | any _ _ first more | all _ _ first more => exact first.trans more
  | noMoreAny | noMoreAll | noMoreItems | noBranches => exact .refl _
  | moreAny found _ _ next more | moreAll found _ _ next more =>
      exact (next.trans more).keyword found
  | not found _ operand => exact operand.keyword found
  | unnegated _ _ ih | alone _ _ ih => exact ih
  | compare _ operates _ _ _ left right => exact left.trans (right.lexeme operates nofun)
  | anyOf _ operates _ word _ _ left right =>
      refine left.trans (Passes.lexeme operates nofun ?_)
      rcases word with word | word
      · exact right.keyword word
      · exact right.keyword word
  | allOf _ operates _ word _ _ left right =>
      exact left.trans ((right.keyword word).lexeme operates nofun)
  | member _ phrase _ left right | like _ phrase _ left right =>
      exact left.trans ((Passes.phrase phrase).trans right)
  | null _ word phrase left => exact left.trans ((Passes.phrase phrase).keyword word)
  | listedSubquery opens _ captured | subquery opens _ captured =>
      exact (Passes.body captured).lexeme opens nofun
  | listed opens _ _ _ closes first more =>
      exact ((first.trans more).trans ((Passes.refl _).lexeme closes nofun)).lexeme opens nofun
  | moreItems found _ _ next more => exact (next.trans more).lexeme found nofun
  | noItems closes => exact (Passes.refl _).closing closes
  | items _ _ _ closes first more =>
      exact (first.trans more).trans ((Passes.refl _).closing closes)
  | parenthesised opens _ _ closes inner =>
      exact (inner.trans ((Passes.refl _).lexeme closes nofun)).lexeme opens nofun
  | literal found => exact (Passes.refl _).literal found
  | negative negates number _ => exact ((Passes.refl _).number number).lexeme negates nofun
  | constant word _ => exact (Passes.refl _).keyword word
  | existence word opens captured _ =>
      exact ((Passes.body captured).lexeme opens nofun).keyword word
  | cast word opens _ isAs _ typed operand =>
      exact ((operand.trans ((Passes.castType typed).keyword isAs)).lexeme opens nofun).keyword word
  | array word opens _ items => exact (items.lexeme opens nofun).keyword word
  | call named more opens _ arguments =>
      exact ((Passes.parts more).trans (arguments.lexeme opens nofun)).name named
  | reference named more _ => exact (Passes.parts more).name named
  | searched word _ _ body => exact body.keyword word
  | simple word _ _ _ _ subject body => exact (subject.trans body).keyword word
  | otherwise _ isElse _ ends branches last =>
      exact branches.trans ((last.trans ((Passes.refl _).keyword ends)).keyword isElse)
  | ended _ ends branches => exact branches.trans ((Passes.refl _).keyword ends)
  | branches found _ isThen _ _ key outcome more =>
      exact ((key.trans ((outcome.trans more).keyword isThen))).keyword found

/-! ## The token at the front -/

/-- Whether an expression without a negation before it may begin with a token. -/
def BeginsPrimary (token : Token) : Prop :=
  token.lexeme ∉ [Lexeme.rightParen, .rightBracket, .comma, .dot, .finish] ∧
    ∀ keyword, token.keyword? = some keyword →
      keyword ∈ [Keyword.true, .false, .null, .exists, .case, .cast, .array]

/-- What a form says of the tokens it is derived from. -/
def Form.Begins (tokens : List Token) : Form → Prop
  | .any _ | .all _ | .not _ =>
    ∃ token ∈ tokens.head?, BeginsPrimary token ∨ token.keyword? = some .not
  | .condition _ | .primary _ => ∃ token ∈ tokens.head?, BeginsPrimary token
  | _ => True

theorem beginsPrimary_of_keyword {token : Token} {keyword : Keyword}
    (word : token.keyword? = some keyword)
    (listed : keyword ∈ [Keyword.true, .false, .null, .exists, .case, .cast, .array]) :
    BeginsPrimary token := by
  obtain ⟨text, lexeme, _⟩ := exists_word_of_keyword word
  refine ⟨by simp [lexeme], fun other found => ?_⟩
  cases word.symm.trans found
  exact listed

theorem beginsPrimary_of_lexeme {token : Token} (unworded : token.keyword? = none)
    (unlisted : token.lexeme ∉ [Lexeme.rightParen, .rightBracket, .comma, .dot, .finish]) :
    BeginsPrimary token :=
  ⟨unlisted, fun keyword found => by rw [unworded] at found; cases found⟩

theorem keyword?_eq_none_of_lexeme {token : Token} {lexeme : Lexeme}
    (found : token.lexeme = lexeme) (unworded : ∀ text, lexeme ≠ .word text) :
    token.keyword? = none := by
  unfold Token.keyword?
  split
  · rename_i text word
    exact absurd (found.symm.trans word) (unworded text)
  · rfl

theorem beginsPrimary_of_name {token : Token} {name : String} (named : name? token = some name) :
    BeginsPrimary token := by
  rcases lexeme_of_name named with lexeme | ⟨lexeme, free⟩
  · exact beginsPrimary_of_lexeme (keyword?_eq_none_of_lexeme lexeme nofun) (by simp [lexeme])
  · exact beginsPrimary_of_lexeme free (by simp [lexeme])

theorem beginsPrimary_of_literal {token : Token} {value : Literal}
    (found : literal? token.lexeme = some value) : BeginsPrimary token := by
  unfold literal? at found
  split at found
  · rename_i lexeme
    exact beginsPrimary_of_lexeme (keyword?_eq_none_of_lexeme lexeme nofun) (by simp [lexeme])
  · rename_i lexeme
    exact beginsPrimary_of_lexeme (keyword?_eq_none_of_lexeme lexeme nofun) (by simp [lexeme])
  · rename_i lexeme
    exact beginsPrimary_of_lexeme (keyword?_eq_none_of_lexeme lexeme nofun) (by simp [lexeme])
  · cases found

theorem beginsPrimary_of_constant {token : Token} {keyword : Keyword} {value : Literal}
    (word : token.keyword? = some keyword) (found : constant? keyword = some value) :
    BeginsPrimary token := by
  refine beginsPrimary_of_keyword word ?_
  unfold constant? at found
  split at found <;> first | decide | cases found

theorem Derives.begins (derived : Derives source form tokens rest) : form.Begins tokens := by
  induction derived with
  | any _ _ first | all _ _ first => exact first
  | not found => exact ⟨_, rfl, .inr found⟩
  | unnegated _ _ ih =>
      obtain ⟨token, front, begins⟩ := ih
      exact ⟨token, front, .inl begins⟩
  | alone _ _ ih => exact ih
  | compare _ _ _ _ _ left | anyOf _ _ _ _ _ _ left | allOf _ _ _ _ _ _ left
  | member _ _ _ left | like _ _ _ left | null _ _ _ left => exact left
  | subquery opens | parenthesised opens =>
      exact ⟨_, rfl, beginsPrimary_of_lexeme (keyword?_eq_none_of_lexeme opens nofun)
        (by simp [opens])⟩
  | literal found => exact ⟨_, rfl, beginsPrimary_of_literal found⟩
  | negative negates =>
      exact ⟨_, rfl, beginsPrimary_of_lexeme (keyword?_eq_none_of_lexeme negates nofun)
        (by simp [negates])⟩
  | constant word found => exact ⟨_, rfl, beginsPrimary_of_constant word found⟩
  | existence word | cast word | array word | searched word | simple word =>
      exact ⟨_, rfl, beginsPrimary_of_keyword word (by decide)⟩
  | call named | reference named => exact ⟨_, rfl, beginsPrimary_of_name named⟩
  | _ => trivial

theorem Derives.any_firstKeyword (derived : Derives source (.any e) tokens rest)
    {keyword : Keyword}
    (unlisted : keyword ∉ [Keyword.not, .true, .false, .null, .exists, .case, .cast, .array]) :
    firstKeyword tokens ≠ some keyword := by
  obtain ⟨token, front, begins⟩ := derived.begins
  obtain ⟨inner, rfl⟩ := List.head?_eq_some_iff.mp front
  intro found
  rw [firstKeyword_cons] at found
  rcases begins with ⟨_, words⟩ | word
  · exact unlisted (List.mem_cons_of_mem _ (words keyword found))
  · cases word.symm.trans found
    exact unlisted (by decide)

theorem Derives.any_firstLexeme (derived : Derives source (.any e) tokens rest) {lexeme : Lexeme}
    (listed : lexeme ∈ [Lexeme.rightParen, .rightBracket, .comma, .dot, .finish]) :
    firstLexeme tokens ≠ some lexeme := by
  obtain ⟨token, front, begins⟩ := derived.begins
  obtain ⟨inner, rfl⟩ := List.head?_eq_some_iff.mp front
  rw [firstLexeme_cons]
  rintro ⟨⟩
  rcases begins with ⟨unlisted, _⟩ | word
  · exact unlisted listed
  · obtain ⟨text, lexeme, _⟩ := exists_word_of_keyword word
    rw [lexeme] at listed
    simp at listed

theorem Derives.primary_firstKeyword (derived : Derives source (.primary e) tokens rest)
    {keyword : Keyword}
    (unlisted : keyword ∉ [Keyword.true, .false, .null, .exists, .case, .cast, .array]) :
    firstKeyword tokens ≠ some keyword := by
  obtain ⟨token, front, _, words⟩ := derived.begins
  obtain ⟨inner, rfl⟩ := List.head?_eq_some_iff.mp front
  exact fun found => unlisted (words keyword found)

/-! ## Looser precedences -/

/-- An expression as a form of some precedence. -/
def Form.level : Nat → Expr → Form
  | 0, e | 1, e => .any e
  | 2, e => .all e
  | 3, e => .not e
  | 4, e => .condition e
  | _, e => .primary e

/-- Whether the tokens behind an expression of some precedence do not go on with it. -/
structure Follows (level : Nat) (rest : List Token) : Prop where
  undotted : firstLexeme rest ≠ some .dot
  uncalled : firstLexeme rest ≠ some .leftParen
  condition : level ≤ 4 → ∀ token ∈ rest.head?, EndsCondition token
  all : level ≤ 2 → firstKeyword rest ≠ some .and
  any : level ≤ 1 → firstKeyword rest ≠ some .or

theorem Follows.mono {level tighter : Nat} (follows : Follows level rest)
    (within : level ≤ tighter) : Follows tighter rest where
  undotted := follows.undotted
  uncalled := follows.uncalled
  condition loose := follows.condition (Nat.le_trans within loose)
  all loose := follows.all (Nat.le_trans within loose)
  any loose := follows.any (Nat.le_trans within loose)

theorem Derives.any_of_all (derived : Derives source (.all e) tokens rest)
    (ends : firstKeyword rest ≠ some .or) : Derives source (.any e) tokens rest :=
  .any derived (.noMoreAny ends)

theorem Derives.all_of_not (derived : Derives source (.not e) tokens rest)
    (ends : firstKeyword rest ≠ some .and) : Derives source (.all e) tokens rest :=
  .all derived (.noMoreAll ends)

theorem Derives.not_of_condition (derived : Derives source (.condition e) tokens rest) :
    Derives source (.not e) tokens rest := by
  refine .unnegated (fun negated => ?_) derived
  obtain ⟨token, front, _, words⟩ := derived.begins
  obtain ⟨inner, rfl⟩ := List.head?_eq_some_iff.mp front
  exact absurd (words .not negated) (by decide)

theorem Derives.loosen {level : Nat}
    (derived : Derives source (.level (level + 1) e) tokens rest) (follows : Follows level rest) :
    Derives source (.level level e) tokens rest := by
  match level with
  | 0 => exact derived
  | 1 => exact derived.any_of_all (follows.any (by decide))
  | 2 => exact derived.all_of_not (follows.all (by decide))
  | 3 => exact derived.not_of_condition
  | 4 => exact .alone derived (follows.condition (by decide))
  | _ + 5 => exact derived

theorem Derives.lift {level tighter : Nat} (within : level ≤ tighter)
    (derived : Derives source (.level tighter e) tokens rest) (follows : Follows level rest) :
    Derives source (.level level e) tokens rest := by
  induction tighter, within using Nat.le_induction with
  | base => exact derived
  | succ tighter within ih => exact ih (derived.loosen (follows.mono within))

end Expr

end RowGuard
