import RowGuard.Proofs.Expr.Capture
import RowGuard.Proofs.Token.Faults

/-! Readers stay among the tokens. The end of a text is its last token, and no reader
passes it: each leaves at least that one and refuses none but the tokens it is
given. So it comes to the same, whatever stands behind them. -/

set_option autoImplicit false

namespace RowGuard

namespace Expr

/-! ## Tokens that end -/

/-- Tokens up to the end of a text, which is the last of them alone. -/
inductive Ended : List Token → Prop where
  | finish {token : Token} : token.lexeme = .finish → Ended [token]
  | cons {token : Token} {rest : List Token} :
      token.lexeme ≠ .finish → Ended rest → Ended (token :: rest)

namespace Ended

variable {token : Token} {tokens rest : List Token}

theorem ne_nil (ended : Ended tokens) : tokens ≠ [] := by
  cases ended <;> exact List.cons_ne_nil _ _

theorem tail (ended : Ended (token :: rest)) (unfinished : token.lexeme ≠ .finish) :
    Ended rest := by
  cases ended with
  | finish finished => exact absurd finished unfinished
  | cons _ ended => exact ended

theorem suffix (ended : Ended tokens) (suffix : rest <:+ tokens) (filled : rest ≠ []) :
    Ended rest := by
  induction ended with
  | finish finished =>
      rcases List.suffix_cons_iff.mp suffix with rfl | nothing
      · exact .finish finished
      · exact absurd (List.suffix_nil.mp nothing) filled
  | cons unfinished ended ih =>
      rcases List.suffix_cons_iff.mp suffix with rfl | later
      · exact .cons unfinished ended
      · exact ih later

end Ended

/-! ## Readers that stay among the tokens -/

/-- Whether a reader has the same outcome on tokens as on the same tokens with others behind them:
it leaves the same part of the tokens, not all of them taken, or refuses one of them. -/
inductive Confined (source : Source) (tokens behind : List Token) {α : Type}
    {front back : List Token} {least : Nat} :
    Reading α front least → Reading α back least → Prop where
  | gives {value : α} {rest : List Token} {taken : rest.length + least ≤ front.length}
      {taken' : (rest ++ behind).length + least ≤ back.length} :
      rest ≠ [] → rest <:+ tokens →
      Confined source tokens behind (.ok ⟨value, rest, taken⟩) (.ok ⟨value, rest ++ behind, taken'⟩)
  | refuses {expected : String} {token : Token} : token ∈ tokens →
      Confined source tokens behind (.error (source.failure expected token))
        (.error (source.failure expected token))
  | tooLarge : Confined source tokens behind (.error .tooLarge) (.error .tooLarge)

/-- The errors that refuse one of some tokens, or a number that is too large to be negated. -/
def Source.Refuses (source : Source) (tokens : List Token) (error : ReadError) : Prop :=
  error = .tooLarge ∨ ∃ token ∈ tokens, ∃ expected, error = source.failure expected token

namespace Confined

variable {source : Source} {tokens behind inner front back front' back' : List Token}
  {α β : Type} {least least' : Nat}

theorem bind {first : Reading α front least} {first' : Reading α back least}
    {next : Read α front least → Reading β front' least'}
    {next' : Read α back least → Reading β back' least'}
    (both : Confined source tokens behind first first')
    (later : ∀ value rest taken taken', rest ≠ [] → rest <:+ tokens →
      Confined source tokens behind (next ⟨value, rest, taken⟩)
        (next' ⟨value, rest ++ behind, taken'⟩)) :
    Confined source tokens behind (first >>= next) (first' >>= next') := by
  cases both with
  | gives filled suffix => exact later _ _ _ _ filled suffix
  | refuses member => exact .refuses member
  | tooLarge => exact .tooLarge

theorem later {first : Reading α front least} {first' : Reading α back least}
    (both : Confined source inner behind first first') (suffix : inner <:+ tokens) :
    Confined source tokens behind first first' := by
  cases both with
  | gives filled within => exact .gives filled (within.trans suffix)
  | refuses member => exact .refuses (suffix.subset member)
  | tooLarge => exact .tooLarge

theorem gives_of_eq {value : α} {rest rest' : List Token}
    {taken : rest.length + least ≤ front.length} {taken' : rest'.length + least ≤ back.length}
    (filled : rest ≠ []) (suffix : rest <:+ tokens) (same : rest' = rest ++ behind) :
    Confined source tokens behind (.ok ⟨value, rest, taken⟩ : Reading α front least)
      (.ok ⟨value, rest', taken'⟩ : Reading α back least) := by
  subst same
  exact .gives filled suffix

theorem leaves {first : Reading α front least} {second : Reading α back least}
    (both : Confined source tokens behind first second) {read : Read α front least}
    (got : first = .ok read) : read.rest ≠ [] ∧ read.rest <:+ tokens := by
  cases both with
  | gives filled suffix =>
      cases got
      exact ⟨filled, suffix⟩
  | refuses => cases got
  | tooLarge => cases got

theorem failsWith {first : Reading α front least} {second : Reading α back least}
    (both : Confined source tokens behind first second) :
    FailsWith (source.Refuses tokens) first := by
  cases both with
  | gives => exact .ok _
  | refuses member => exact .error (.inr ⟨_, member, _, rfl⟩)
  | tooLarge => exact .error (.inl rfl)

end Confined

/-! ## Readers of parts -/

section Parts

variable {source : Source} {tokens behind : List Token}

theorem firstLexeme_append (filled : tokens ≠ []) :
    firstLexeme (tokens ++ behind) = firstLexeme tokens := by
  cases tokens with
  | nil => exact absurd rfl filled
  | cons => rfl

theorem exists_of_firstLexeme {lexeme : Lexeme} (found : firstLexeme tokens = some lexeme) :
    ∃ token rest, tokens = token :: rest ∧ token.lexeme = lexeme := by
  cases tokens with
  | nil => cases found
  | cons token rest => exact ⟨token, rest, rfl, Option.some.inj found⟩

theorem front_append (filled : tokens ≠ []) :
    source.front (tokens ++ behind) = source.front tokens := by
  cases tokens with
  | nil => exact absurd rfl filled
  | cons => rfl

theorem keyword?_append (filled : tokens ≠ []) :
    source.keyword? (tokens ++ behind) = source.keyword? tokens :=
  congrArg Token.keyword? (front_append filled)

theorem front_mem (filled : tokens ≠ []) : source.front tokens ∈ tokens := by
  cases tokens with
  | nil => exact absurd rfl filled
  | cons => exact List.mem_cons_self

theorem ne_finish_of_keyword {token : Token} {keyword : Keyword}
    (found : token.keyword? = some keyword) : token.lexeme ≠ .finish := by
  obtain ⟨text, word, _⟩ := exists_word_of_keyword found
  simp [word]

theorem Ended.drop_one (ended : Ended tokens)
    (unfinished : (source.front tokens).lexeme ≠ .finish) :
    Ended (tokens.drop 1) := by
  cases tokens with
  | nil => exact absurd rfl ended.ne_nil
  | cons token rest => exact ended.tail unfinished

theorem Confined.dropped {α : Type} {least : Nat} (reader : ∀ tokens, Reading α tokens least)
    (both : Confined source (tokens.drop 1) behind (reader (tokens.drop 1))
      (reader (tokens.drop 1 ++ behind))) (filled : tokens ≠ []) :
    Confined source tokens behind (reader (tokens.drop 1)) (reader ((tokens ++ behind).drop 1)) := by
  cases tokens with
  | nil => exact absurd rfl filled
  | cons token rest => exact both.later (List.suffix_cons _ _)

theorem confined_take {lexeme : Lexeme} {expected : String} (ended : Ended tokens)
    (unfinished : lexeme ≠ .finish) :
    Confined source tokens behind (source.take lexeme expected tokens)
      (source.take lexeme expected (tokens ++ behind)) := by
  cases tokens with
  | nil => exact absurd rfl ended.ne_nil
  | cons token rest =>
      rw [List.cons_append, Source.take, Source.take]
      split
      · next same =>
        exact .gives (ended.tail (by rwa [same])).ne_nil (List.suffix_cons _ _)
      · exact .refuses List.mem_cons_self

theorem confined_takeKeyword {keyword : Keyword} (ended : Ended tokens) :
    Confined source tokens behind (source.takeKeyword keyword tokens)
      (source.takeKeyword keyword (tokens ++ behind)) := by
  cases tokens with
  | nil => exact absurd rfl ended.ne_nil
  | cons token rest =>
      rw [List.cons_append, Source.takeKeyword, Source.takeKeyword]
      split
      · next found =>
        exact .gives (ended.tail (ne_finish_of_keyword found)).ne_nil (List.suffix_cons _ _)
      · exact .refuses List.mem_cons_self

theorem confined_readName (ended : Ended tokens) :
    Confined source tokens behind (readName source tokens)
      (readName source (tokens ++ behind)) := by
  cases tokens with
  | nil => exact absurd rfl ended.ne_nil
  | cons token rest =>
      rw [List.cons_append, readName, readName]
      split
      · next name named =>
        exact .gives (ended.tail (ne_finish_of_name named)).ne_nil (List.suffix_cons _ _)
      · exact .refuses List.mem_cons_self

theorem readParts_undotted (undotted : firstLexeme tokens ≠ some .dot) :
    readParts source tokens = .ok ⟨[], tokens, Nat.le_refl _⟩ := by
  rw [readParts.eq_def]
  split
  · exact absurd rfl undotted
  · rfl

theorem confined_readParts (source : Source) (tokens behind : List Token) (ended : Ended tokens) :
    Confined source tokens behind (readParts source tokens)
      (readParts source (tokens ++ behind)) := by
  by_cases dotted : firstLexeme tokens = some .dot
  · obtain ⟨⟨lexeme, start, stop⟩, rest, rfl, isDot⟩ := exists_of_firstLexeme dotted
    cases isDot
    rw [List.cons_append, readParts, readParts]
    apply ((confined_readName (ended.tail (by simp))).later (List.suffix_cons _ _)).bind
    intro name left taken _ filled suffix
    exact ((confined_readParts source left behind (ended.suffix suffix filled)).later
      suffix).bind fun _ _ _ _ filled suffix => .gives filled suffix
  · rw [readParts_undotted dotted,
      readParts_undotted (by rwa [firstLexeme_append ended.ne_nil])]
    exact .gives ended.ne_nil List.suffix_rfl
termination_by tokens.length
decreasing_by subst_vars; rw [List.length_cons]; omega

theorem readTarget_append (last : Option String) (tokens behind : List Token)
    (ended : Ended tokens) :
    (readTarget last tokens).2.val ≠ [] ∧
      (readTarget last (tokens ++ behind)).1 = (readTarget last tokens).1 ∧
      (readTarget last (tokens ++ behind)).2.val = (readTarget last tokens).2.val ++ behind := by
  cases tokens with
  | nil => exact absurd rfl ended.ne_nil
  | cons token rest =>
      rw [List.cons_append]
      cases named : anyName? token with
      | none =>
          obtain ⟨first, second⟩ := readTarget_unnamed named last rest
          obtain ⟨first', second'⟩ := readTarget_unnamed named last (rest ++ behind)
          rw [first, second, first', second']
          exact ⟨List.cons_ne_nil _ _, rfl, rfl⟩
      | some name =>
          have inner := ended.tail (ne_finish_of_anyName? named)
          by_cases dotted : firstLexeme rest = some .dot
          · obtain ⟨dot, rest, rfl, isDot⟩ := exists_of_firstLexeme dotted
            obtain ⟨first, second⟩ := readTarget_dotted named isDot last rest
            obtain ⟨first', second'⟩ := readTarget_dotted named isDot last (rest ++ behind)
            rw [List.cons_append, first, second, first', second']
            exact readTarget_append (some name) rest behind (inner.tail (by simp [isDot]))
          · obtain ⟨first, second⟩ := readTarget_named named dotted last
            rw [← firstLexeme_append inner.ne_nil] at dotted
            obtain ⟨first', second'⟩ := readTarget_named named dotted last
            rw [first, second, first', second']
            exact ⟨inner.ne_nil, rfl, rfl⟩
termination_by tokens.length

theorem confined_readCapture (source : Source) (depth : Nat) (target : Option String)
    (tokens behind : List Token) (ended : Ended tokens) :
    Confined source tokens behind (readCapture source depth target tokens)
      (readCapture source depth target (tokens ++ behind)) := by
  cases tokens with
  | nil => exact absurd rfl ended.ne_nil
  | cons token rest =>
      have tail : rest <:+ token :: rest := List.suffix_cons _ _
      rw [List.cons_append, readCapture.eq_def, readCapture.eq_def source _ _ (token :: (rest ++ _))]
      dsimp only
      split
      · exact .refuses List.mem_cons_self
      · next opens =>
        have inner := ended.tail (by simp [opens])
        exact ((confined_readCapture source (depth + 1) target rest behind inner).later tail).bind
          fun _ _ _ _ filled suffix => .gives filled suffix
      · next closes =>
        have inner := ended.tail (by simp [closes])
        split
        · exact .gives inner.ne_nil tail
        · exact ((confined_readCapture source _ target rest behind inner).later tail).bind
            fun _ _ _ _ filled suffix => .gives filled suffix
      · next unfinished _ _ =>
        have inner := ended.tail unfinished
        split
        · have within := readTarget_suffix none rest
          have shorter := within.length_le
          obtain ⟨filled, first, second⟩ := readTarget_append none rest behind inner
          have onward := (confined_readCapture source depth (readTarget none rest).1 _ behind
            (inner.suffix within filled)).later (within.trans tail)
          rw [← second] at onward
          rw [first]
          exact onward.bind fun _ _ _ _ filled suffix => .gives filled suffix
        · exact ((confined_readCapture source depth target rest behind inner).later tail).bind
            fun _ _ _ _ filled suffix => .gives filled suffix
termination_by tokens.length
decreasing_by all_goals (subst_vars; rw [List.length_cons]; omega)

theorem confined_readBody (ended : Ended tokens) :
    Confined source tokens behind (readBody source tokens)
      (readBody source (tokens ++ behind)) := by
  apply (confined_readCapture source 0 none tokens behind ended).bind
  intro value rest _ _ filled suffix
  rw [front_append ended.ne_nil]
  exact .gives filled suffix

theorem confined_readSubquery (ended : Ended tokens) :
    Confined source tokens behind (readSubquery source tokens)
      (readSubquery source (tokens ++ behind)) :=
  (confined_readBody ended).bind fun _ _ _ _ filled suffix => .gives filled suffix

theorem confined_readExistence (ended : Ended tokens) :
    Confined source tokens behind (readExistence source tokens)
      (readExistence source (tokens ++ behind)) := by
  apply (confined_take ended (by simp)).bind
  intro _ inner _ _ filled suffix
  apply ((confined_readBody (ended.suffix suffix filled)).later suffix).bind
  intro value rest _ _ filled suffix
  dsimp only
  rw [front_append filled]
  split
  · exact .refuses (suffix.subset (front_mem filled))
  · exact .gives filled suffix

theorem confined_readCastType (source : Source) (depth : Nat) (tokens behind : List Token)
    (ended : Ended tokens) :
    Confined source tokens behind (readCastType source depth tokens)
      (readCastType source depth (tokens ++ behind)) := by
  induction tokens generalizing depth with
  | nil => exact absurd rfl ended.ne_nil
  | cons token rest ih =>
      have tail : rest <:+ token :: rest := List.suffix_cons _ _
      rw [List.cons_append, readCastType.eq_def, readCastType.eq_def source _ (token :: (rest ++ _))]
      dsimp only
      split
      · exact .refuses List.mem_cons_self
      · next opens =>
        have inner := ended.tail (by simp [opens])
        exact ((ih _ inner).later tail).bind fun _ _ _ _ filled suffix => .gives filled suffix
      · next closes =>
        have inner := ended.tail (by simp [closes])
        split
        · exact .gives inner.ne_nil tail
        · exact ((ih _ inner).later tail).bind fun _ _ _ _ filled suffix => .gives filled suffix
      · next unfinished _ _ =>
        have inner := ended.tail unfinished
        exact ((ih _ inner).later tail).bind fun _ _ _ _ filled suffix => .gives filled suffix

theorem confined_negated {positive : Literal} {front back : List Token} {α : Type}
    {least : Nat} {next : Literal → Reading α front least} {next' : Literal → Reading α back least}
    (later : ∀ literal, Confined source tokens behind (next literal) (next' literal)) :
    Confined source tokens behind (negated positive >>= next) (negated positive >>= next') := by
  unfold negated
  split
  · split
    · exact later _
    · exact .tooLarge
  · exact later _
  · exact later _

end Parts

/-! ## Readers of forms -/

theorem readMoreItems_unseparated {source : Source} {tokens : List Token}
    (unseparated : firstLexeme tokens ≠ some .comma) :
    readMoreItems source tokens = .ok ⟨[], tokens, Nat.le_refl _⟩ := by
  rw [readMoreItems.eq_def]
  split
  · exact absurd rfl unseparated
  · rfl

-- One lemma for each reader, with the measure of the reader. What is read first leaves a part that
-- is not empty, so it is `Ended` too, and the next reader starts there.
mutual

theorem confined_readAny (source : Source) (tokens behind : List Token) (ended : Ended tokens) :
    Confined source tokens behind (readAny source tokens)
      (readAny source (tokens ++ behind)) := by
  rw [readAny, readAny]
  apply (confined_readAll source tokens behind ended).bind
  intro first rest taken _ filled suffix
  exact ((confined_readMoreAny source rest behind (ended.suffix suffix filled)).later
    suffix).bind fun _ _ _ _ filled suffix => .gives filled suffix
termination_by 10 * tokens.length + 6
decreasing_by all_goals omega

theorem confined_readMoreAny (source : Source) (tokens behind : List Token)
    (ended : Ended tokens) :
    Confined source tokens behind (readMoreAny source tokens)
      (readMoreAny source (tokens ++ behind)) := by
  cases tokens with
  | nil => exact absurd rfl ended.ne_nil
  | cons token inner =>
      have size : (token :: inner).length = inner.length + 1 := rfl
      have tail : inner <:+ token :: inner := List.suffix_cons _ _
      rw [List.cons_append, readMoreAny, readMoreAny]
      split
      · next found =>
        have within := ended.tail (ne_finish_of_keyword found)
        apply ((confined_readAll source inner behind within).later tail).bind
        intro next rest taken _ filled suffix
        exact ((confined_readMoreAny source rest behind (ended.suffix suffix filled)).later
          suffix).bind fun _ _ _ _ filled suffix => .gives filled suffix
      · exact .gives (List.cons_ne_nil _ _) List.suffix_rfl
termination_by 10 * tokens.length + 6
decreasing_by all_goals (subst_vars; omega)

theorem confined_readAll (source : Source) (tokens behind : List Token) (ended : Ended tokens) :
    Confined source tokens behind (readAll source tokens)
      (readAll source (tokens ++ behind)) := by
  rw [readAll, readAll]
  apply (confined_readNot source tokens behind ended).bind
  intro first rest taken _ filled suffix
  exact ((confined_readMoreAll source rest behind (ended.suffix suffix filled)).later
    suffix).bind fun _ _ _ _ filled suffix => .gives filled suffix
termination_by 10 * tokens.length + 5
decreasing_by all_goals omega

theorem confined_readMoreAll (source : Source) (tokens behind : List Token)
    (ended : Ended tokens) :
    Confined source tokens behind (readMoreAll source tokens)
      (readMoreAll source (tokens ++ behind)) := by
  cases tokens with
  | nil => exact absurd rfl ended.ne_nil
  | cons token inner =>
      have size : (token :: inner).length = inner.length + 1 := rfl
      have tail : inner <:+ token :: inner := List.suffix_cons _ _
      rw [List.cons_append, readMoreAll, readMoreAll]
      split
      · next found =>
        have within := ended.tail (ne_finish_of_keyword found)
        apply ((confined_readNot source inner behind within).later tail).bind
        intro next rest taken _ filled suffix
        exact ((confined_readMoreAll source rest behind (ended.suffix suffix filled)).later
          suffix).bind fun _ _ _ _ filled suffix => .gives filled suffix
      · exact .gives (List.cons_ne_nil _ _) List.suffix_rfl
termination_by 10 * tokens.length + 5
decreasing_by all_goals (subst_vars; omega)

theorem confined_readNot (source : Source) (tokens behind : List Token) (ended : Ended tokens) :
    Confined source tokens behind (readNot source tokens)
      (readNot source (tokens ++ behind)) := by
  cases tokens with
  | nil => exact absurd rfl ended.ne_nil
  | cons token inner =>
      have size : (token :: inner).length = inner.length + 1 := rfl
      have tail : inner <:+ token :: inner := List.suffix_cons _ _
      rw [List.cons_append, readNot, readNot]
      split
      · next found =>
        have within := ended.tail (ne_finish_of_keyword found)
        exact ((confined_readNot source inner behind within).later tail).bind
          fun _ _ _ _ filled suffix => .gives filled suffix
      · exact confined_readCondition source (token :: inner) behind ended
termination_by 10 * tokens.length + 4
decreasing_by all_goals (subst_vars; omega)

theorem confined_readCondition (source : Source) (tokens behind : List Token)
    (ended : Ended tokens) :
    Confined source tokens behind (readCondition source tokens)
      (readCondition source (tokens ++ behind)) := by
  rw [readCondition, readCondition]
  apply (confined_readPrimary source tokens behind ended).bind
  intro left rest taken _ filled suffix
  cases rest with
  | nil => exact absurd rfl filled
  | cons token rest =>
      have size : (token :: rest).length = rest.length + 1 := rfl
      have shorter : (rest.drop 1).length ≤ rest.length := (List.drop_suffix _ _).length_le
      have whole := ended.suffix suffix filled
      have after : rest <:+ tokens := (List.suffix_cons _ _).trans suffix
      have member : token ∈ tokens := suffix.subset List.mem_cons_self
      dsimp only [List.cons_append]
      split
      · next symbol operates =>
        have inner := whole.tail (by simp [operates])
        split
        · exact .refuses member
        · rw [keyword?_append inner.ne_nil]
          split
          · next found =>
            have dropped := inner.drop_one (ne_finish_of_keyword found)
            split
            · exact .refuses member
            · exact ((Confined.dropped (readQuantified source)
                (confined_readQuantified source _ behind dropped) inner.ne_nil).later after).bind
                fun _ _ _ _ filled suffix => .gives filled suffix
          · next found =>
            have dropped := inner.drop_one (ne_finish_of_keyword found)
            split
            · exact .refuses member
            · exact ((Confined.dropped (readQuantified source)
                (confined_readQuantified source _ behind dropped) inner.ne_nil).later after).bind
                fun _ _ _ _ filled suffix => .gives filled suffix
          · next found =>
            have dropped := inner.drop_one (ne_finish_of_keyword found)
            split
            · exact .refuses member
            · exact ((Confined.dropped (readQuantified source)
                (confined_readQuantified source _ behind dropped) inner.ne_nil).later after).bind
                fun _ _ _ _ filled suffix => .gives filled suffix
          · exact ((confined_readPrimary source rest behind inner).later after).bind
              fun _ _ _ _ filled suffix => .gives filled suffix
      · have inner := whole.tail (ne_finish_of_keyword ‹token.keyword? = some _›)
        rw [keyword?_append inner.ne_nil, front_append inner.ne_nil]
        split
        · next found =>
          have dropped := inner.drop_one (ne_finish_of_keyword found)
          exact ((Confined.dropped (readList source) (confined_readList source _ behind dropped)
            inner.ne_nil).later after).bind fun _ _ _ _ filled suffix => .gives filled suffix
        · next found =>
          have dropped := inner.drop_one (ne_finish_of_keyword found)
          exact ((Confined.dropped (readPrimary source)
            (confined_readPrimary source _ behind dropped) inner.ne_nil).later after).bind
            fun _ _ _ _ filled suffix => .gives filled suffix
        · next found =>
          have dropped := inner.drop_one (ne_finish_of_keyword found)
          exact ((Confined.dropped (readPrimary source)
            (confined_readPrimary source _ behind dropped) inner.ne_nil).later after).bind
            fun _ _ _ _ filled suffix => .gives filled suffix
        · exact .refuses (after.subset (front_mem inner.ne_nil))
      · have inner := whole.tail (ne_finish_of_keyword ‹token.keyword? = some _›)
        exact ((confined_readList source rest behind inner).later after).bind
          fun _ _ _ _ filled suffix => .gives filled suffix
      · have inner := whole.tail (ne_finish_of_keyword ‹token.keyword? = some _›)
        exact ((confined_readPrimary source rest behind inner).later after).bind
          fun _ _ _ _ filled suffix => .gives filled suffix
      · have inner := whole.tail (ne_finish_of_keyword ‹token.keyword? = some _›)
        exact ((confined_readPrimary source rest behind inner).later after).bind
          fun _ _ _ _ filled suffix => .gives filled suffix
      · have inner := whole.tail (ne_finish_of_keyword ‹token.keyword? = some _›)
        rw [keyword?_append inner.ne_nil]
        split
        · next negates =>
          have dropped := inner.drop_one (ne_finish_of_keyword negates)
          exact ((Confined.dropped (source.takeKeyword .null) (confined_takeKeyword dropped)
            inner.ne_nil).later after).bind fun _ _ _ _ filled suffix => .gives filled suffix
        · exact ((confined_takeKeyword inner).later after).bind
            fun _ _ _ _ filled suffix => .gives filled suffix
      · exact .gives (List.cons_ne_nil _ _) suffix
termination_by 10 * tokens.length + 3
decreasing_by all_goals (subst_vars; omega)

theorem confined_readQuantified (source : Source) (tokens behind : List Token)
    (ended : Ended tokens) :
    Confined source tokens behind (readQuantified source tokens)
      (readQuantified source (tokens ++ behind)) := by
  rw [readQuantified, readQuantified]
  apply (confined_take ended (by simp)).bind
  intro _ inner taken _ filled suffix
  have within := ended.suffix suffix filled
  dsimp only
  rw [keyword?_append filled]
  split
  · exact ((confined_readSubquery within).later suffix).bind
      fun _ _ _ _ filled suffix => .gives filled suffix
  · apply ((confined_readAny source inner behind within).later suffix).bind
    intro value rest _ _ filled later
    exact ((confined_take (ended.suffix later filled) (by simp)).later later).bind
      fun _ _ _ _ filled suffix => .gives filled suffix
termination_by 10 * tokens.length + 2
decreasing_by all_goals omega

theorem confined_readList (source : Source) (tokens behind : List Token) (ended : Ended tokens) :
    Confined source tokens behind (readList source tokens)
      (readList source (tokens ++ behind)) := by
  rw [readList, readList]
  apply (confined_take ended (by simp)).bind
  intro _ inner taken _ filled suffix
  have within := ended.suffix suffix filled
  dsimp only
  rw [keyword?_append filled]
  split
  · exact ((confined_readSubquery within).later suffix).bind
      fun _ _ _ _ filled suffix => .gives filled suffix
  · apply ((confined_readAny source inner behind within).later suffix).bind
    intro first rest shorter _ filled suffix
    apply ((confined_readMoreItems source rest behind (ended.suffix suffix filled)).later
      suffix).bind
    intro more rest _ _ filled suffix
    exact ((confined_take (ended.suffix suffix filled) (by simp)).later suffix).bind
      fun _ _ _ _ filled suffix => .gives filled suffix
termination_by 10 * tokens.length + 2
decreasing_by all_goals omega

theorem confined_readMoreItems (source : Source) (tokens behind : List Token)
    (ended : Ended tokens) :
    Confined source tokens behind (readMoreItems source tokens)
      (readMoreItems source (tokens ++ behind)) := by
  by_cases separated : firstLexeme tokens = some .comma
  · obtain ⟨⟨lexeme, start, stop⟩, inner, rfl, isComma⟩ := exists_of_firstLexeme separated
    cases isComma
    have size : (Token.mk .comma start stop :: inner).length = inner.length + 1 := rfl
    have within := ended.tail (by simp)
    rw [List.cons_append, readMoreItems, readMoreItems]
    apply ((confined_readAny source inner behind within).later (List.suffix_cons _ _)).bind
    intro next rest taken _ filled suffix
    exact ((confined_readMoreItems source rest behind (ended.suffix suffix filled)).later
      suffix).bind fun _ _ _ _ filled suffix => .gives filled suffix
  · rw [readMoreItems_unseparated separated,
      readMoreItems_unseparated (by rwa [firstLexeme_append ended.ne_nil])]
    exact .gives ended.ne_nil List.suffix_rfl
termination_by 10 * tokens.length + 7
decreasing_by all_goals (subst_vars; omega)

theorem confined_readItems (source : Source) (closing : Lexeme) (expected : String)
    (tokens behind : List Token) (unfinished : closing ≠ .finish) (ended : Ended tokens) :
    Confined source tokens behind (readItems source closing expected tokens)
      (readItems source closing expected (tokens ++ behind)) := by
  rw [readItems, readItems, front_append ended.ne_nil]
  split
  · exact (confined_take ended unfinished).bind fun _ _ _ _ filled suffix => .gives filled suffix
  · apply (confined_readAny source tokens behind ended).bind
    intro first rest shorter _ filled suffix
    apply ((confined_readMoreItems source rest behind (ended.suffix suffix filled)).later
      suffix).bind
    intro more rest _ _ filled suffix
    exact ((confined_take (ended.suffix suffix filled) unfinished).later suffix).bind
      fun _ _ _ _ filled suffix => .gives filled suffix
termination_by 10 * tokens.length + 7
decreasing_by all_goals omega

theorem confined_readPrimary (source : Source) (tokens behind : List Token)
    (ended : Ended tokens) :
    Confined source tokens behind (readPrimary source tokens)
      (readPrimary source (tokens ++ behind)) := by
  cases tokens with
  | nil => exact absurd rfl ended.ne_nil
  | cons token inner =>
      have size : (token :: inner).length = inner.length + 1 := rfl
      have tail : inner <:+ token :: inner := List.suffix_cons _ _
      have member : token ∈ token :: inner := List.mem_cons_self
      rw [List.cons_append, readPrimary, readPrimary]
      split
      · next opens =>
        have within := ended.tail (by simp [opens])
        rw [keyword?_append within.ne_nil]
        split
        · exact ((confined_readSubquery within).later tail).bind
            fun _ _ _ _ filled suffix => .gives filled suffix
        · apply ((confined_readAny source inner behind within).later tail).bind
          intro value rest _ _ filled suffix
          exact ((confined_take (ended.suffix suffix filled) (by simp)).later suffix).bind
            fun _ _ _ _ filled suffix => .gives filled suffix
      · next found => exact .gives (ended.tail (by simp [found])).ne_nil tail
      · next found => exact .gives (ended.tail (by simp [found])).ne_nil tail
      · next found => exact .gives (ended.tail (by simp [found])).ne_nil tail
      · next minus =>
        have within := ended.tail (by simp [minus])
        rw [front_append within.ne_nil]
        split
        · next positive found =>
          have unfinished : (source.front inner).lexeme ≠ .finish := by
            intro finished
            rw [finished] at found
            cases found
          have dropped := within.drop_one unfinished
          apply confined_negated
          intro literal
          cases inner with
          | nil => exact absurd rfl within.ne_nil
          | cons number rest => exact .gives dropped.ne_nil ((List.suffix_cons _ _).trans tail)
        · exact .refuses member
      · exact confined_readReference source (token :: inner) behind ended
      · exact confined_readReference source (token :: inner) behind ended
      · exact .gives (ended.tail (ne_finish_of_keyword ‹token.keyword? = some _›)).ne_nil tail
      · exact .gives (ended.tail (ne_finish_of_keyword ‹token.keyword? = some _›)).ne_nil tail
      · exact .gives (ended.tail (ne_finish_of_keyword ‹token.keyword? = some _›)).ne_nil tail
      · have within := ended.tail (ne_finish_of_keyword ‹token.keyword? = some _›)
        exact ((confined_readExistence within).later tail).bind
          fun _ _ _ _ filled suffix => .gives filled suffix
      · have within := ended.tail (ne_finish_of_keyword ‹token.keyword? = some _›)
        exact ((confined_readChoice source inner behind within).later tail).bind
          fun _ _ _ _ filled suffix => .gives filled suffix
      · have within := ended.tail (ne_finish_of_keyword ‹token.keyword? = some _›)
        rw [front_append within.ne_nil]
        split
        · exact ((confined_readCast source inner behind within).later tail).bind
            fun _ _ _ _ filled suffix => .gives filled suffix
        · exact .refuses member
      · have within := ended.tail (ne_finish_of_keyword ‹token.keyword? = some _›)
        apply ((confined_take within (by simp)).later tail).bind
        intro _ rest taken _ filled suffix
        exact ((confined_readItems source _ _ rest behind (by simp)
          (ended.suffix suffix filled)).later suffix).bind
          fun _ _ _ _ filled suffix => .gives filled suffix
      · exact .refuses member
termination_by 10 * tokens.length + 2
decreasing_by all_goals (subst_vars; omega)

theorem confined_readReference (source : Source) (tokens behind : List Token)
    (ended : Ended tokens) :
    Confined source tokens behind (readReference source tokens)
      (readReference source (tokens ++ behind)) := by
  rw [readReference, readReference]
  apply (confined_readName ended).bind
  intro first inner taken _ filled suffix
  apply ((confined_readParts source inner behind (ended.suffix suffix filled)).later suffix).bind
  intro more rest shorter _ filled suffix
  cases rest with
  | nil => exact absurd rfl filled
  | cons token rest =>
      have size : (token :: rest).length = rest.length + 1 := rfl
      have whole := ended.suffix suffix filled
      obtain ⟨lexeme, start, stop⟩ := token
      cases lexeme with
      | leftParen =>
          exact ((confined_readItems source _ _ rest behind (by simp) (whole.tail (by simp))).later
            ((List.suffix_cons _ _).trans suffix)).bind
            fun _ _ _ _ filled suffix => .gives filled suffix
      | _ => exact .gives (List.cons_ne_nil _ _) suffix
termination_by 10 * tokens.length + 1
decreasing_by all_goals (subst_vars; omega)

theorem confined_readCast (source : Source) (tokens behind : List Token) (ended : Ended tokens) :
    Confined source tokens behind (readCast source tokens)
      (readCast source (tokens ++ behind)) := by
  rw [readCast, readCast]
  apply (confined_take ended (by simp)).bind
  intro _ inner taken _ filled suffix
  apply ((confined_readAny source inner behind (ended.suffix suffix filled)).later suffix).bind
  intro operand rest _ _ filled suffix
  apply ((confined_takeKeyword (ended.suffix suffix filled)).later suffix).bind
  intro _ named _ _ filled suffix
  apply ((confined_readCastType source 0 named behind (ended.suffix suffix filled)).later
    suffix).bind
  intro _ rest _ _ left later
  dsimp only
  rw [front_append filled]
  split
  · exact .refuses (suffix.subset (front_mem filled))
  · exact .gives left later
termination_by 10 * tokens.length + 1
decreasing_by all_goals omega

theorem confined_readChoice (source : Source) (tokens behind : List Token) (ended : Ended tokens) :
    Confined source tokens behind (readChoice source tokens)
      (readChoice source (tokens ++ behind)) := by
  rw [readChoice, readChoice, keyword?_append ended.ne_nil]
  split
  · exact (confined_readChoiceBody source tokens behind ended).bind
      fun _ _ _ _ filled suffix => .gives filled suffix
  · apply (confined_readAny source tokens behind ended).bind
    intro subject rest taken _ filled suffix
    dsimp only
    rw [keyword?_append filled, front_append filled]
    split
    · exact .refuses (suffix.subset (front_mem filled))
    · exact ((confined_readChoiceBody source rest behind (ended.suffix suffix filled)).later
        suffix).bind fun _ _ _ _ filled suffix => .gives filled suffix
termination_by 10 * tokens.length + 9
decreasing_by all_goals omega

theorem confined_readChoiceBody (source : Source) (tokens behind : List Token)
    (ended : Ended tokens) :
    Confined source tokens behind (readChoiceBody source tokens)
      (readChoiceBody source (tokens ++ behind)) := by
  rw [readChoiceBody, readChoiceBody]
  apply (confined_readBranches source tokens behind ended).bind
  intro branches rest taken _ filled suffix
  cases rest with
  | nil => exact absurd rfl filled
  | cons token rest =>
      have size : (token :: rest).length = rest.length + 1 := rfl
      have whole := ended.suffix suffix filled
      have after : rest <:+ tokens := (List.suffix_cons _ _).trans suffix
      dsimp only [List.cons_append]
      split
      · next found =>
        have inner := whole.tail (ne_finish_of_keyword found)
        apply ((confined_readAny source rest behind inner).later after).bind
        intro otherwise rest _ _ filled suffix
        exact ((confined_takeKeyword (ended.suffix suffix filled)).later suffix).bind
          fun _ _ _ _ filled suffix => .gives filled suffix
      · next found => exact .gives (whole.tail (ne_finish_of_keyword found)).ne_nil after
      · exact .refuses (suffix.subset List.mem_cons_self)
termination_by 10 * tokens.length + 8
decreasing_by all_goals (subst_vars; omega)

theorem confined_readBranches (source : Source) (tokens behind : List Token)
    (ended : Ended tokens) :
    Confined source tokens behind (readBranches source tokens)
      (readBranches source (tokens ++ behind)) := by
  cases tokens with
  | nil => exact absurd rfl ended.ne_nil
  | cons token inner =>
      have size : (token :: inner).length = inner.length + 1 := rfl
      rw [List.cons_append, readBranches, readBranches]
      split
      · next found =>
        have within := ended.tail (ne_finish_of_keyword found)
        apply ((confined_readAny source inner behind within).later (List.suffix_cons _ _)).bind
        intro key rest taken _ filled suffix
        apply ((confined_takeKeyword (ended.suffix suffix filled)).later suffix).bind
        intro _ rest shorter _ filled suffix
        apply ((confined_readAny source rest behind (ended.suffix suffix filled)).later suffix).bind
        intro outcome rest less _ filled suffix
        exact ((confined_readBranches source rest behind (ended.suffix suffix filled)).later
          suffix).bind fun _ _ _ _ filled suffix => .gives filled suffix
      · exact .gives (List.cons_ne_nil _ _) List.suffix_rfl
termination_by 10 * tokens.length + 7
decreasing_by all_goals (subst_vars; omega)

end

/-! ## The whole text -/

theorem Ended.of_front {front : List Token} {last : Token} (finished : last.lexeme = .finish)
    (unfinished : ∀ token ∈ front, token.lexeme ≠ .finish) : Ended (front ++ [last]) := by
  induction front with
  | nil => exact .finish finished
  | cons token front ih =>
      obtain ⟨head, tail⟩ := List.forall_mem_cons.mp unfinished
      exact .cons head (ih tail)

theorem ended_of_scan {text : String} {tokens : List Token}
    (scanned : Token.scan text = .ok tokens) : Ended tokens := by
  obtain ⟨front, walk, rfl⟩ := Token.scan_eq_ok_iff.mp scanned
  exact .of_front rfl walk.ne_finish

theorem refuses_ofTokens {source : Source} {tokens : List Token} (ended : Ended tokens) :
    FailsWith (source.Refuses tokens) (ofTokens source tokens) := by
  have confined := confined_readAny source tokens [] ended
  unfold ofTokens
  apply confined.failsWith.bind
  intro read got
  obtain ⟨filled, suffix⟩ := confined.leaves got
  have refused (expected : String) : FailsWith (source.Refuses tokens)
      (.error (source.failure expected (source.front read.rest)) : Except ReadError Expr) :=
    .error (.inr ⟨_, suffix.subset (front_mem filled), _, rfl⟩)
  dsimp only
  split
  · exact .ok _
  · exact refused _
  · exact refused _
  · exact refused _

end Expr

end RowGuard
