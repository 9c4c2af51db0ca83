import RowGuard.Proofs.Expr.Reading
import RowGuard.Proofs.Expr.Soundness
import RowGuard.Proofs.Token.Faults

/-! Why a text is no expression. Tokens that are not derived are malformed, unless
a minus sign stands before a decimal that is too large to be negated. So reading
a text fails beyond its syntax only at a number that cannot be converted, and a
numeral that scanning comes to and cannot convert always ends it. -/

set_option autoImplicit false

namespace RowGuard

/-! ## Excused failures -/

/-- Whether a minus sign stands before a decimal that is too large to be negated. -/
def Expr.Overflows (tokens : List Token) : Prop :=
  ∃ before minus number after d, tokens = before ++ minus :: number :: after ∧
    minus.lexeme = .operator "-" ∧ number.lexeme = .decimal d ∧ d.negated = none

/-- The errors that some tokens can be refused with. -/
def Expr.Excuses (tokens : List Token) (error : ReadError) : Prop :=
  error.IsMalformed ∨ error = .tooLarge ∧ Overflows tokens

theorem Expr.Overflows.mono {tokens rest : List Token} (overflows : Overflows rest)
    (suffix : rest <:+ tokens) : Overflows tokens := by
  obtain ⟨before, minus, number, after, d, rfl, isMinus, isNumber, large⟩ := overflows
  obtain ⟨further, rfl⟩ := suffix
  exact ⟨further ++ before, minus, number, after, d, by simp, isMinus, isNumber, large⟩

namespace FailsWith

variable {α : Type} {tokens rest : List Token} {outcome : Except ReadError α}

theorem excuses (fails : FailsWith ReadError.IsMalformed outcome) :
    FailsWith (Expr.Excuses tokens) outcome :=
  fails.mono fun _ => .inl

theorem later (fails : FailsWith (Expr.Excuses rest) outcome) (suffix : rest <:+ tokens) :
    FailsWith (Expr.Excuses tokens) outcome := by
  refine fails.mono ?_
  rintro error (malformed | ⟨same, overflows⟩)
  · exact .inl malformed
  · exact .inr ⟨same, overflows.mono suffix⟩

end FailsWith

namespace Expr

/-! ## What readers leave -/

section Suffixes

variable {α : Type} {source : Source} {tokens rest : List Token} {least : Nat}

theorem gives_of_eq_ok {reading : Reading α tokens least} {read : Read α tokens least}
    (ended : reading = .ok read) : Gives reading read.value read.rest :=
  ⟨read.taken, ended⟩

theorem Form.suffix_of_isRead (form : Form) (read : form.IsRead source tokens rest) :
    rest <:+ tokens :=
  (sound source _ form (Nat.lt_succ_self _) read).passes.suffix

theorem suffix_take {lexeme : Lexeme} {expected : String} {read : Read Unit tokens 1}
    (ended : source.take lexeme expected tokens = .ok read) : read.rest <:+ tokens := by
  obtain ⟨token, same, _⟩ := gives_take_iff.mp (gives_of_eq_ok ended)
  exact ⟨[token], same.symm⟩

theorem suffix_takeKeyword {keyword : Keyword} {read : Read Unit tokens 1}
    (ended : source.takeKeyword keyword tokens = .ok read) : read.rest <:+ tokens := by
  obtain ⟨token, same, _⟩ := gives_takeKeyword_iff.mp (gives_of_eq_ok ended)
  exact ⟨[token], same.symm⟩

end Suffixes

/-! ## Readers of parts -/

section Parts

variable {source : Source} {tokens : List Token}

theorem failsWith_failure {α : Type} (expected : String) (token : Token) :
    FailsWith ReadError.IsMalformed (.error (source.failure expected token) : Except ReadError α) :=
  .error ⟨_, rfl⟩

theorem failsWith_take {lexeme : Lexeme} {expected : String} :
    FailsWith ReadError.IsMalformed (source.take lexeme expected tokens) := by
  unfold Source.take
  split
  · split
    · exact .ok _
    · exact failsWith_failure _ _
  · exact failsWith_failure _ _

theorem failsWith_takeKeyword {keyword : Keyword} :
    FailsWith ReadError.IsMalformed (source.takeKeyword keyword tokens) := by
  unfold Source.takeKeyword
  split
  · split
    · exact .ok _
    · exact failsWith_failure _ _
  · exact failsWith_failure _ _

theorem failsWith_readName : FailsWith ReadError.IsMalformed (readName source tokens) := by
  unfold readName
  split
  · split
    · exact .ok _
    · exact failsWith_failure _ _
  · exact failsWith_failure _ _

theorem failsWith_readParts (source : Source) (tokens : List Token) :
    FailsWith ReadError.IsMalformed (readParts source tokens) := by
  rw [readParts.eq_def]
  split
  · apply failsWith_readName.bind
    intro part _
    have taken := part.taken
    exact (failsWith_readParts source part.rest).bind_pure
  · exact .ok _
termination_by tokens.length
decreasing_by grind

theorem failsWith_readCapture (source : Source) (depth : Nat) (target : Option String)
    (tokens : List Token) :
    FailsWith ReadError.IsMalformed (readCapture source depth target tokens) := by
  rw [readCapture.eq_def]
  split
  · exact failsWith_failure _ _
  · split
    · exact failsWith_failure _ _
    · exact (failsWith_readCapture source _ _ _).bind_pure
    · split
      · exact .ok _
      · exact (failsWith_readCapture source _ _ _).bind_pure
    · split
      · next rest _ _ _ _ _ =>
        have shorter := (readTarget none rest).2.property
        exact (failsWith_readCapture source _ _ _).bind_pure
      · exact (failsWith_readCapture source _ _ _).bind_pure
termination_by tokens.length
decreasing_by all_goals (simp only [*, List.length_cons]; omega)

theorem failsWith_readBody : FailsWith ReadError.IsMalformed (readBody source tokens) :=
  (failsWith_readCapture source 0 none tokens).bind_pure

theorem failsWith_readSubquery : FailsWith ReadError.IsMalformed (readSubquery source tokens) :=
  failsWith_readBody.bind_pure

theorem failsWith_readExistence :
    FailsWith ReadError.IsMalformed (readExistence source tokens) := by
  apply failsWith_take.bind
  intro start _
  apply failsWith_readBody.bind
  intro read _
  dsimp only
  split
  · exact failsWith_failure _ _
  · exact .ok _

theorem failsWith_readCastType (source : Source) (depth : Nat) (tokens : List Token) :
    FailsWith ReadError.IsMalformed (readCastType source depth tokens) := by
  induction tokens generalizing depth with
  | nil => exact failsWith_failure _ _
  | cons token rest ih =>
      rw [readCastType.eq_def]
      dsimp only
      split
      · exact failsWith_failure _ _
      · exact (ih _).bind_pure
      · split
        · exact .ok _
        · exact (ih _).bind_pure
      · exact (ih _).bind_pure

theorem lexeme_of_number? {lexeme : Lexeme} {d : Decimal}
    (found : number? lexeme = some ⟨.decimal, .decimal d⟩) : lexeme = .decimal d := by
  unfold number? at found
  split at found
  · cases found
  · cases found
    rfl
  · cases found

theorem failsWith_negated {token : Token} {positive : Literal}
    (minus : token.lexeme = .operator "-")
    (found : number? (source.front tokens).lexeme = some positive) :
    FailsWith (Excuses (token :: tokens)) (negated positive) := by
  cases tokens with
  | nil => cases found
  | cons number rest =>
      rw [Source.front_cons] at found
      unfold negated
      split
      · next d =>
        split
        · exact .ok _
        · next large =>
          apply FailsWith.error
          refine .inr ⟨rfl, [], token, number, rest, d, rfl, minus, ?_, ?_⟩
          · exact lexeme_of_number? found
          · exact Option.eq_none_iff_forall_ne_some.mpr large
      · exact .ok _
      · exact .ok _

end Parts

/-! ## Readers of forms -/

mutual

theorem failsWith_readAny (source : Source) (tokens : List Token) :
    FailsWith (Excuses tokens) (readAny source tokens) := by
  rw [readAny]
  apply (failsWith_readAll source tokens).bind
  intro first ended
  have taken := first.taken
  have suffix := (Form.all first.value).suffix_of_isRead (gives_of_eq_ok ended)
  exact ((failsWith_readMoreAny source first.rest).later suffix).bind_pure
termination_by 10 * tokens.length + 6
decreasing_by all_goals omega

theorem failsWith_readMoreAny (source : Source) (tokens : List Token) :
    FailsWith (Excuses tokens) (readMoreAny source tokens) := by
  cases tokens with
  | nil =>
      rw [readMoreAny]
      exact .ok _
  | cons token inner =>
      have size : (token :: inner).length = inner.length + 1 := rfl
      rw [readMoreAny]
      split
      · apply ((failsWith_readAll source inner).later (List.suffix_cons _ _)).bind
        intro next ended
        have taken := next.taken
        have suffix := (Form.all next.value).suffix_of_isRead (gives_of_eq_ok ended)
        exact ((failsWith_readMoreAny source next.rest).later
          (suffix.trans (List.suffix_cons _ _))).bind_pure
      · exact .ok _
termination_by 10 * tokens.length + 6
decreasing_by all_goals omega

theorem failsWith_readAll (source : Source) (tokens : List Token) :
    FailsWith (Excuses tokens) (readAll source tokens) := by
  rw [readAll]
  apply (failsWith_readNot source tokens).bind
  intro first ended
  have taken := first.taken
  have suffix := (Form.not first.value).suffix_of_isRead (gives_of_eq_ok ended)
  exact ((failsWith_readMoreAll source first.rest).later suffix).bind_pure
termination_by 10 * tokens.length + 5
decreasing_by all_goals omega

theorem failsWith_readMoreAll (source : Source) (tokens : List Token) :
    FailsWith (Excuses tokens) (readMoreAll source tokens) := by
  cases tokens with
  | nil =>
      rw [readMoreAll]
      exact .ok _
  | cons token inner =>
      have size : (token :: inner).length = inner.length + 1 := rfl
      rw [readMoreAll]
      split
      · apply ((failsWith_readNot source inner).later (List.suffix_cons _ _)).bind
        intro next ended
        have taken := next.taken
        have suffix := (Form.not next.value).suffix_of_isRead (gives_of_eq_ok ended)
        exact ((failsWith_readMoreAll source next.rest).later
          (suffix.trans (List.suffix_cons _ _))).bind_pure
      · exact .ok _
termination_by 10 * tokens.length + 5
decreasing_by all_goals omega

theorem failsWith_readNot (source : Source) (tokens : List Token) :
    FailsWith (Excuses tokens) (readNot source tokens) := by
  cases tokens with
  | nil =>
      rw [readNot]
      exact failsWith_readCondition source []
  | cons token inner =>
      have size : (token :: inner).length = inner.length + 1 := rfl
      rw [readNot]
      split
      · exact ((failsWith_readNot source inner).later (List.suffix_cons _ _)).bind_pure
      · exact failsWith_readCondition source (token :: inner)
termination_by 10 * tokens.length + 4
decreasing_by all_goals omega

theorem failsWith_readCondition (source : Source) (tokens : List Token) :
    FailsWith (Excuses tokens) (readCondition source tokens) := by
  rw [readCondition]
  apply (failsWith_readPrimary source tokens).bind
  intro left ended
  have taken := left.taken
  have suffix := (Form.primary left.value).suffix_of_isRead (gives_of_eq_ok ended)
  dsimp only
  split
  · exact .ok _
  · next token rest same =>
    have size : left.rest.length = rest.length + 1 := congrArg List.length same
    rw [same] at suffix
    have after : rest <:+ tokens := (List.suffix_cons _ _).trans suffix
    have dropped : rest.drop 1 <:+ tokens := (List.drop_suffix _ _).trans after
    have shorter : (rest.drop 1).length ≤ rest.length := (List.drop_suffix _ _).length_le
    split
    · split
      · exact (failsWith_failure _ _).excuses
      · split
        · split
          · exact (failsWith_failure _ _).excuses
          · exact ((failsWith_readQuantified source (rest.drop 1)).later dropped).bind_pure
        · split
          · exact (failsWith_failure _ _).excuses
          · exact ((failsWith_readQuantified source (rest.drop 1)).later dropped).bind_pure
        · split
          · exact (failsWith_failure _ _).excuses
          · exact ((failsWith_readQuantified source (rest.drop 1)).later dropped).bind_pure
        · exact ((failsWith_readPrimary source rest).later after).bind_pure
    · split
      · exact ((failsWith_readList source (rest.drop 1)).later dropped).bind_pure
      · exact ((failsWith_readPrimary source (rest.drop 1)).later dropped).bind_pure
      · exact ((failsWith_readPrimary source (rest.drop 1)).later dropped).bind_pure
      · exact (failsWith_failure _ _).excuses
    · exact ((failsWith_readList source rest).later after).bind_pure
    · exact ((failsWith_readPrimary source rest).later after).bind_pure
    · exact ((failsWith_readPrimary source rest).later after).bind_pure
    · split
      · exact failsWith_takeKeyword.excuses.bind_pure
      · exact failsWith_takeKeyword.excuses.bind_pure
    · exact .ok _
termination_by 10 * tokens.length + 3
decreasing_by all_goals omega

theorem failsWith_readQuantified (source : Source) (tokens : List Token) :
    FailsWith (Excuses tokens) (readQuantified source tokens) := by
  rw [readQuantified]
  apply failsWith_take.excuses.bind
  intro start ended
  have taken := start.taken
  have suffix := suffix_take ended
  dsimp only
  split
  · exact failsWith_readSubquery.excuses.bind_pure
  · apply ((failsWith_readAny source start.rest).later suffix).bind
    intro inner _
    exact failsWith_take.excuses.bind_pure
termination_by 10 * tokens.length + 2
decreasing_by all_goals omega

theorem failsWith_readList (source : Source) (tokens : List Token) :
    FailsWith (Excuses tokens) (readList source tokens) := by
  rw [readList]
  apply failsWith_take.excuses.bind
  intro start ended
  have taken := start.taken
  have suffix := suffix_take ended
  dsimp only
  split
  · exact failsWith_readSubquery.excuses.bind_pure
  · apply ((failsWith_readAny source start.rest).later suffix).bind
    intro first ended
    have shorter := first.taken
    have later := (Form.any first.value).suffix_of_isRead (gives_of_eq_ok ended)
    apply ((failsWith_readMoreItems source first.rest).later (later.trans suffix)).bind
    intro more _
    exact failsWith_take.excuses.bind_pure
termination_by 10 * tokens.length + 2
decreasing_by all_goals omega

theorem failsWith_readMoreItems (source : Source) (tokens : List Token) :
    FailsWith (Excuses tokens) (readMoreItems source tokens) := by
  rw [readMoreItems.eq_def]
  split
  · next start stop inner =>
    have size : (⟨.comma, start, stop⟩ :: inner : List Token).length = inner.length + 1 := rfl
    apply ((failsWith_readAny source inner).later (List.suffix_cons _ _)).bind
    intro next ended
    have taken := next.taken
    have suffix := (Form.any next.value).suffix_of_isRead (gives_of_eq_ok ended)
    exact ((failsWith_readMoreItems source next.rest).later
      (suffix.trans (List.suffix_cons _ _))).bind_pure
  · exact .ok _
termination_by 10 * tokens.length + 7
decreasing_by all_goals (subst_vars; omega)

theorem failsWith_readItems (source : Source) (closing : Lexeme) (expected : String)
    (tokens : List Token) :
    FailsWith (Excuses tokens) (readItems source closing expected tokens) := by
  rw [readItems]
  split
  · exact failsWith_take.excuses.bind_pure
  · apply (failsWith_readAny source tokens).bind
    intro first ended
    have taken := first.taken
    have suffix := (Form.any first.value).suffix_of_isRead (gives_of_eq_ok ended)
    apply ((failsWith_readMoreItems source first.rest).later suffix).bind
    intro more _
    exact failsWith_take.excuses.bind_pure
termination_by 10 * tokens.length + 7
decreasing_by all_goals omega

theorem failsWith_readPrimary (source : Source) (tokens : List Token) :
    FailsWith (Excuses tokens) (readPrimary source tokens) := by
  cases tokens with
  | nil =>
      rw [readPrimary]
      exact (failsWith_failure _ _).excuses
  | cons token inner =>
      have size : (token :: inner).length = inner.length + 1 := rfl
      have tail : inner <:+ token :: inner := List.suffix_cons _ _
      rw [readPrimary]
      split
      · split
        · exact failsWith_readSubquery.excuses.bind_pure
        · apply ((failsWith_readAny source inner).later tail).bind
          intro first _
          exact failsWith_take.excuses.bind_pure
      · exact .ok _
      · exact .ok _
      · exact .ok _
      · next minus =>
        split
        · next positive found =>
          exact (failsWith_negated minus found).bind_pure
        · exact (failsWith_failure _ _).excuses
      · exact failsWith_readReference source (token :: inner)
      · exact failsWith_readReference source (token :: inner)
      · exact .ok _
      · exact .ok _
      · exact .ok _
      · exact failsWith_readExistence.excuses.bind_pure
      · exact ((failsWith_readChoice source inner).later tail).bind_pure
      · split
        · exact ((failsWith_readCast source inner).later tail).bind_pure
        · exact (failsWith_failure _ _).excuses
      · apply failsWith_take.excuses.bind
        intro start ended
        have taken := start.taken
        have suffix := suffix_take ended
        exact ((failsWith_readItems source _ _ start.rest).later (suffix.trans tail)).bind_pure
      · exact (failsWith_failure _ _).excuses
termination_by 10 * tokens.length + 2
decreasing_by all_goals omega

theorem failsWith_readReference (source : Source) (tokens : List Token) :
    FailsWith (Excuses tokens) (readReference source tokens) := by
  rw [readReference]
  apply failsWith_readName.excuses.bind
  intro first named
  have taken := first.taken
  apply (failsWith_readParts source first.rest).excuses.bind
  intro more ended
  have shorter := more.taken
  obtain ⟨token, same, _⟩ := gives_readName_iff.mp (gives_of_eq_ok named)
  have suffix := (Passes.parts (gives_of_eq_ok ended)).suffix
  dsimp only
  split
  · next start stop rest left =>
    have size : more.rest.length = rest.length + 1 := congrArg List.length left
    rw [left] at suffix
    have inside : rest <:+ tokens :=
      ((List.suffix_cons _ _).trans suffix).trans ⟨[token], same.symm⟩
    exact ((failsWith_readItems source _ _ rest).later inside).bind_pure
  · exact .ok _
termination_by 10 * tokens.length + 1
decreasing_by all_goals omega

theorem failsWith_readCast (source : Source) (tokens : List Token) :
    FailsWith (Excuses tokens) (readCast source tokens) := by
  rw [readCast]
  apply failsWith_take.excuses.bind
  intro start ended
  have taken := start.taken
  apply ((failsWith_readAny source start.rest).later (suffix_take ended)).bind
  intro operand _
  apply failsWith_takeKeyword.excuses.bind
  intro as _
  apply (failsWith_readCastType source 0 as.rest).excuses.bind
  intro type _
  dsimp only
  split
  · exact (failsWith_failure _ _).excuses
  · exact .ok _
termination_by 10 * tokens.length + 1
decreasing_by all_goals omega

theorem failsWith_readChoice (source : Source) (tokens : List Token) :
    FailsWith (Excuses tokens) (readChoice source tokens) := by
  rw [readChoice]
  split
  · exact (failsWith_readChoiceBody source tokens).bind_pure
  · apply (failsWith_readAny source tokens).bind
    intro subject ended
    have taken := subject.taken
    have suffix := (Form.any subject.value).suffix_of_isRead (gives_of_eq_ok ended)
    dsimp only
    split
    · exact (failsWith_failure _ _).excuses
    · exact ((failsWith_readChoiceBody source subject.rest).later suffix).bind_pure
termination_by 10 * tokens.length + 9
decreasing_by all_goals omega

theorem failsWith_readChoiceBody (source : Source) (tokens : List Token) :
    FailsWith (Excuses tokens) (readChoiceBody source tokens) := by
  rw [readChoiceBody]
  apply (failsWith_readBranches source tokens).bind
  intro branches ended
  have taken := branches.taken
  have suffix := (Form.branches branches.value).suffix_of_isRead (gives_of_eq_ok ended)
  dsimp only
  split
  · exact (failsWith_failure _ _).excuses
  · next token rest same =>
    have size : branches.rest.length = rest.length + 1 := congrArg List.length same
    rw [same] at suffix
    split
    · apply ((failsWith_readAny source rest).later ((List.suffix_cons _ _).trans suffix)).bind
      intro otherwise _
      exact failsWith_takeKeyword.excuses.bind_pure
    · exact .ok _
    · exact (failsWith_failure _ _).excuses
termination_by 10 * tokens.length + 8
decreasing_by all_goals omega

theorem failsWith_readBranches (source : Source) (tokens : List Token) :
    FailsWith (Excuses tokens) (readBranches source tokens) := by
  cases tokens with
  | nil =>
      rw [readBranches]
      exact .ok _
  | cons token inner =>
      have size : (token :: inner).length = inner.length + 1 := rfl
      rw [readBranches]
      split
      · apply ((failsWith_readAny source inner).later (List.suffix_cons _ _)).bind
        intro key ended
        have taken := key.taken
        have behindKey := ((Form.any key.value).suffix_of_isRead (gives_of_eq_ok ended)).trans
          (List.suffix_cons token inner)
        apply failsWith_takeKeyword.excuses.bind
        intro next ended
        have shorter := next.taken
        have behindThen := (suffix_takeKeyword ended).trans behindKey
        apply ((failsWith_readAny source next.rest).later behindThen).bind
        intro outcome ended
        have less := outcome.taken
        have behind := ((Form.any outcome.value).suffix_of_isRead (gives_of_eq_ok ended)).trans
          behindThen
        exact ((failsWith_readBranches source outcome.rest).later behind).bind_pure
      · exact .ok _
termination_by 10 * tokens.length + 7
decreasing_by all_goals omega

end

/-! ## The whole text -/

theorem failsWith_ofTokens (source : Source) (tokens : List Token) :
    FailsWith (Excuses tokens) (ofTokens source tokens) := by
  apply (failsWith_readAny source tokens).bind
  intro read _
  dsimp only
  split
  · exact .ok _
  · exact (failsWith_failure _ _).excuses
  · exact (failsWith_failure _ _).excuses
  · exact (failsWith_failure _ _).excuses

/-- Whether a text has a number that cannot be converted: one that scanning comes to, or one that is
too large for the minus sign before it. -/
def Unconvertible (text : String) (error : ReadError) : Prop :=
  Token.Stops text error ∨
    error = .tooLarge ∧ ∃ tokens, Token.scan text = .ok tokens ∧ Overflows tokens

variable {text : String} {error : ReadError}

theorem Unconvertible.not_isMalformed (unconvertible : Unconvertible text error) :
    ¬error.IsMalformed := by
  rcases unconvertible with stops | ⟨rfl, _⟩
  · exact stops.fault.not_isMalformed
  · rintro ⟨failure, same⟩
    cases same

/-- A text that is not read is malformed, or has a number that cannot be converted. -/
theorem failsWith_parse (text entity : String) :
    FailsWith (fun error => error.IsMalformed ∨ Unconvertible text error) (parse text entity) := by
  unfold parse
  split
  · exact .ok _
  · apply FailsWith.bind
    · exact (Token.failsWith_scan text).mono fun error =>
        Or.imp ReadError.PointsInto.isMalformed .inl
    · intro tokens scanned
      refine (failsWith_ofTokens _ tokens).mono ?_
      rintro error (malformed | ⟨same, overflows⟩)
      · exact .inl malformed
      · exact .inr (.inr ⟨same, tokens, scanned, overflows⟩)

theorem parse_of_stops (stops : Token.Stops text error) (entity : String) :
    parse text entity = .error error := by
  have filled : ¬(Text.trim text.toList).isEmpty := by
    rw [trim_isEmpty_iff]
    obtain ⟨c, rest, tokens, walk, digit, _⟩ := stops
    intro blank
    have isBlank := blank c (walk.suffix.subset List.mem_cons_self)
    rw [Token.not_isBlank_of_isDigit digit] at isBlank
    cases isBlank
  rw [parse, if_neg filled, stops.scan_eq]
  rfl

end Expr

end RowGuard
