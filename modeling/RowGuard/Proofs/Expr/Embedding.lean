import RowGuard.Proofs.Expr.Completeness
import RowGuard.Proofs.Expr.Lifting
import RowGuard.Proofs.Token.Walk

/-! A text read by itself is read to the same tree inside parentheses, in whatever
text these stand. Reading looks one token behind an expression, and there a
closing parenthesis and the end of the text are alike. -/

set_option autoImplicit false

namespace RowGuard

namespace Expr

/-! ## Moving tokens -/

/-- Tokens at a later position, with other tokens in the place of the end of the text. -/
def moved (offset : Nat) (after : List Token) : List Token → List Token
  | [] => []
  | token :: rest =>
    if token.lexeme = .finish then after else token.shift offset :: moved offset after rest

/-- A text stands in another from an offset on, with a closing parenthesis behind it. -/
structure Embeds (source outer : Source) (offset : Nat) (after : List Token) : Prop where
  entity : outer.entity = source.entity
  text : ∃ behind, outer.text.drop offset = source.text ++ behind
  closes : firstLexeme after = some .rightParen

/-- Whether every token starts in the text. -/
def Within (source : Source) (tokens : List Token) : Prop :=
  ∀ token ∈ tokens, token.start ≤ source.text.length

section Moving

variable {source outer : Source} {offset : Nat} {after tokens rest : List Token}

theorem moved_cons {token : Token} (unfinished : token.lexeme ≠ .finish) :
    moved offset after (token :: rest) = token.shift offset :: moved offset after rest :=
  if_neg unfinished

theorem moved_finish {token : Token} (ends : token.lexeme = .finish) :
    moved offset after (token :: rest) = after :=
  if_pos ends

theorem moved_append {inside : List Token} (unfinished : ∀ token ∈ inside, token.lexeme ≠ .finish) :
    moved offset after (inside ++ rest) =
      inside.map (Token.shift offset) ++ moved offset after rest := by
  induction inside with
  | nil => rfl
  | cons token inside ih =>
      rw [List.forall_mem_cons] at unfinished
      rw [List.cons_append, moved_cons unfinished.1, ih unfinished.2]
      rfl

theorem lexemes_map_shift (tokens : List Token) :
    lexemes (tokens.map (Token.shift offset)) = lexemes tokens := by
  simp [lexemes, Token.shift, Function.comp_def]

theorem Within.tail {token : Token} (within : Within source (token :: tokens)) :
    Within source tokens :=
  fun other member => within other (List.mem_cons_of_mem _ member)

theorem Within.later (within : Within source tokens) (passes : Passes tokens rest) :
    Within source rest :=
  fun token member => within token (passes.suffix.subset member)

theorem moved_keyword {token : Token} {keyword : Keyword}
    (word : token.keyword? = some keyword) :
    moved offset after (token :: rest) = token.shift offset :: moved offset after rest := by
  obtain ⟨text, lexeme, _⟩ := exists_word_of_keyword word
  exact moved_cons (by rw [lexeme]; nofun)

theorem moved_lexeme {token : Token} {lexeme : Lexeme} (found : token.lexeme = lexeme)
    (unfinished : lexeme ≠ .finish) :
    moved offset after (token :: rest) = token.shift offset :: moved offset after rest :=
  moved_cons (by rwa [found])

theorem moved_name {token : Token} {name : String} (named : name? token = some name) :
    moved offset after (token :: rest) = token.shift offset :: moved offset after rest :=
  moved_cons (ne_finish_of_name named)

theorem moved_phrase {word : Keyword} {negated : Bool} (phrase : Phrase word negated tokens rest) :
    Phrase word negated (moved offset after tokens) (moved offset after rest) := by
  cases phrase with
  | plain word =>
      rw [moved_keyword word]
      exact .plain word
  | negated negates word =>
      rw [moved_keyword negates, moved_keyword word]
      exact .negated negates word

theorem moved_castType (read : Gives (readCastType source 0 tokens) () rest) :
    Gives (readCastType outer 0 (moved offset after tokens)) () (moved offset after rest) := by
  obtain ⟨inside, closing, rfl, closes, unfinished, again⟩ := readCastType_split read
  rw [moved_append unfinished, moved_lexeme closes nofun]
  exact again outer _ _ _ (lexemes_map_shift inside) closes

theorem moved_parts {more : List String} {inside : List Token} (parts : Parts more inside) :
    Parts more (inside.map (Token.shift offset)) ∧ ∀ token ∈ inside, token.lexeme ≠ .finish := by
  induction parts with
  | nil => exact ⟨.nil, by simp⟩
  | cons dotted named _ ih =>
      refine ⟨.cons dotted named ih.1, List.forall_mem_cons.mpr ⟨by rw [dotted]; nofun,
        List.forall_mem_cons.mpr ⟨ne_finish_of_name named, ih.2⟩⟩⟩

theorem firstLexeme_moved {lexeme : Lexeme} (found : firstLexeme tokens = some lexeme)
    (unfinished : lexeme ≠ .finish) : firstLexeme (moved offset after tokens) = some lexeme := by
  cases tokens with
  | nil => cases found
  | cons token rest =>
      cases Option.some.inj found
      rw [moved_cons unfinished]
      rfl

theorem firstLexeme_moved_type (typed : firstLexeme tokens ≠ some .rightParen)
    (read : Gives (readCastType source 0 tokens) () rest) :
    firstLexeme (moved offset after tokens) ≠ some .rightParen := by
  obtain ⟨inside, closing, rfl, closes, unfinished, _⟩ := readCastType_split read
  cases inside with
  | nil => exact absurd (congrArg some closes) typed
  | cons token inside =>
      rw [List.cons_append, moved_cons (unfinished token List.mem_cons_self)]
      exact typed

namespace Embeds

variable (embeds : Embeds source outer offset after)

include embeds

theorem firstKeyword (tokens : List Token) :
    firstKeyword (moved offset after tokens) = Expr.firstKeyword tokens := by
  cases tokens with
  | nil => rfl
  | cons token rest =>
      by_cases ends : token.lexeme = .finish
      · rw [moved_finish ends, firstKeyword_cons, keyword?_eq_none_of_lexeme ends nofun]
        have closes := embeds.closes
        cases after with
        | nil => rfl
        | cons closing rest =>
            exact keyword?_eq_none_of_lexeme (Option.some.inj closes) nofun
      · rw [moved_cons ends]
        rfl

theorem firstLexeme_ne {lexeme : Lexeme} (other : lexeme ≠ .rightParen)
    (differs : firstLexeme tokens ≠ some lexeme) :
    firstLexeme (moved offset after tokens) ≠ some lexeme := by
  cases tokens with
  | nil => exact differs
  | cons token rest =>
      by_cases ends : token.lexeme = .finish
      · rw [moved_finish ends, embeds.closes]
        exact fun same => other (Option.some.inj same).symm
      · rw [moved_cons ends]
        exact differs

theorem endsCondition (ends : ∀ token ∈ tokens.head?, EndsCondition token) :
    ∀ token ∈ (moved offset after tokens).head?, EndsCondition token := by
  cases tokens with
  | nil => nofun
  | cons token rest =>
      by_cases finishes : token.lexeme = .finish
      · rw [moved_finish finishes]
        have closes := embeds.closes
        intro closing front
        obtain ⟨rest, rfl⟩ := List.head?_eq_some_iff.mp front
        have lexeme : closing.lexeme = .rightParen := Option.some.inj closes
        refine ⟨by simp [lexeme], fun keyword _ => ?_⟩
        rw [keyword?_eq_none_of_lexeme lexeme nofun]
        nofun
      · rw [moved_cons finishes]
        rintro _ ⟨⟩
        exact ends token rfl

theorem slice {start stop : Nat} (starts : start ≤ source.text.length)
    (stops : stop ≤ source.text.length) :
    outer.slice (offset + start) (offset + stop) = source.slice start stop := by
  obtain ⟨behind, placed⟩ := embeds.text
  rw [Source.slice, Source.slice, ← List.drop_drop, placed, List.drop_append_of_le_length starts,
    List.take_append_of_le_length (by rw [List.length_drop]; omega)]
  congr 1
  omega

theorem ofParts (first : String) (more : List String) :
    Expr.ofParts outer first more = Expr.ofParts source first more := by
  unfold Expr.ofParts
  rw [embeds.entity]

theorem body {target : Option String} {body : String}
    (within : Within source tokens) (read : Gives (readBody source tokens) (target, body) rest) :
    Gives (readBody outer (moved offset after tokens)) (target, body)
      (moved offset after rest) := by
  obtain ⟨stop, captured, rfl⟩ := gives_readBody_iff.mp read
  obtain ⟨inside, closing, rfl, closes, rfl, unfinished, again⟩ := readCapture_split captured
  rw [moved_append unfinished, moved_lexeme closes nofun]
  refine gives_readBody_iff.mpr
    ⟨offset + closing.start, again outer _ _ _ (lexemes_map_shift inside) closes, ?_⟩
  have stops : closing.start ≤ source.text.length := within closing (by simp)
  cases inside with
  | nil => exact congrArg (String.ofList ∘ Text.trim) (embeds.slice stops stops).symm
  | cons token inside =>
      exact congrArg (String.ofList ∘ Text.trim)
        (embeds.slice (within token (by simp)) stops).symm

theorem parts {more : List String} (read : Gives (readParts source tokens) more rest) :
    Gives (readParts outer (moved offset after tokens)) more (moved offset after rest) := by
  obtain ⟨inside, rfl, each, undotted⟩ := gives_readParts_iff.mp read
  obtain ⟨each', unfinished⟩ := moved_parts each
  exact gives_readParts_iff.mpr
    ⟨_, moved_append unfinished, each', embeds.firstLexeme_ne nofun undotted⟩

/-- What is derived from a text is derived from it inside another. -/
theorem derives {form : Form} (derived : Derives source form tokens rest)
    (within : Within source tokens) :
    Derives outer form (moved offset after tokens) (moved offset after rest) := by
  induction derived with
  | any first _ firstIH moreIH => exact .any (firstIH within) (moreIH (within.later first.passes))
  | noMoreAny ends => exact .noMoreAny (by rwa [embeds.firstKeyword])
  | moreAny found next _ nextIH moreIH =>
      rw [moved_keyword found]
      exact .moreAny found (nextIH within.tail) (moreIH (within.tail.later next.passes))
  | all first _ firstIH moreIH => exact .all (firstIH within) (moreIH (within.later first.passes))
  | noMoreAll ends => exact .noMoreAll (by rwa [embeds.firstKeyword])
  | moreAll found next _ nextIH moreIH =>
      rw [moved_keyword found]
      exact .moreAll found (nextIH within.tail) (moreIH (within.tail.later next.passes))
  | not found _ ih =>
      rw [moved_keyword found]
      exact .not found (ih within.tail)
  | unnegated other _ ih => exact .unnegated (by rwa [embeds.firstKeyword]) (ih within)
  | alone _ ends ih => exact .alone (ih within) (embeds.endsCondition ends)
  | compare left operates known unquantified _ leftIH rightIH =>
      have leftMoved := leftIH within
      rw [moved_lexeme operates nofun] at leftMoved
      refine .compare leftMoved operates known ?_ (rightIH (within.later left.passes).tail)
      rwa [embeds.firstKeyword]
  | anyOf left operates known word opens _ leftIH rightIH =>
      have leftMoved := leftIH within
      rw [moved_lexeme operates nofun] at leftMoved
      have rightMoved := rightIH (within.later left.passes).tail.tail
      rcases word with word | word <;> rw [moved_keyword word] at leftMoved
      · exact .anyOf leftMoved operates known (.inl word) (firstLexeme_moved opens nofun) rightMoved
      · exact .anyOf leftMoved operates known (.inr word) (firstLexeme_moved opens nofun) rightMoved
  | allOf left operates known word opens _ leftIH rightIH =>
      have leftMoved := leftIH within
      rw [moved_lexeme operates nofun, moved_keyword word] at leftMoved
      exact .allOf leftMoved operates known word (firstLexeme_moved opens nofun)
        (rightIH (within.later left.passes).tail.tail)
  | member left phrase _ leftIH rightIH =>
      exact .member (leftIH within) (moved_phrase phrase)
        (rightIH (within.later (left.passes.trans (.phrase phrase))))
  | like left phrase _ leftIH rightIH =>
      exact .like (leftIH within) (moved_phrase phrase)
        (rightIH (within.later (left.passes.trans (.phrase phrase))))
  | null left word phrase leftIH =>
      have leftMoved := leftIH within
      rw [moved_keyword word] at leftMoved
      exact .null leftMoved word (moved_phrase phrase)
  | listedSubquery opens selects captured =>
      rw [moved_lexeme opens nofun]
      exact .listedSubquery opens (by rwa [embeds.firstKeyword])
        (embeds.body within.tail captured)
  | listed opens other first _ closes firstIH moreIH =>
      have moreMoved := moreIH (within.tail.later first.passes)
      rw [moved_lexeme closes nofun] at moreMoved
      rw [moved_lexeme opens nofun]
      exact .listed opens (by rwa [embeds.firstKeyword]) (firstIH within.tail) moreMoved closes
  | noMoreItems ends => exact .noMoreItems (embeds.firstLexeme_ne nofun ends)
  | moreItems found next _ nextIH moreIH =>
      rw [moved_lexeme found nofun]
      exact .moreItems found (nextIH within.tail) (moreIH (within.tail.later next.passes))
  | @noItems bracketed _ _ closes =>
      rw [moved_lexeme closes (by cases bracketed <;> nofun)]
      exact .noItems closes
  | @items bracketed _ _ _ _ _ _ _ first _ closes firstIH moreIH =>
      have firstMoved := firstIH within
      have moreMoved := moreIH (within.later first.passes)
      rw [moved_lexeme closes (by cases bracketed <;> nofun)] at moreMoved
      have listed : closingMark bracketed ∈
          [Lexeme.rightParen, .rightBracket, .comma, .dot, .finish] := by
        cases bracketed <;> decide
      exact .items (firstMoved.any_firstLexeme listed) firstMoved moreMoved closes
  | subquery opens selects captured =>
      rw [moved_lexeme opens nofun]
      exact .subquery opens (by rwa [embeds.firstKeyword]) (embeds.body within.tail captured)
  | parenthesised opens other _ closes ih =>
      have moved := ih within.tail
      rw [moved_lexeme closes nofun] at moved
      rw [moved_lexeme opens nofun]
      exact .parenthesised opens (by rwa [embeds.firstKeyword]) moved closes
  | literal found =>
      rw [moved_cons fun ends => by rw [ends] at found; cases found]
      exact .literal found
  | negative negates number negation =>
      rw [moved_lexeme negates nofun, moved_cons fun ends => by rw [ends] at number; cases number]
      exact .negative negates number negation
  | constant word found =>
      rw [moved_keyword word]
      exact .constant word found
  | existence word opens captured filled =>
      rw [moved_keyword word, moved_lexeme opens nofun]
      exact .existence word opens (embeds.body within.tail.tail captured) filled
  | cast word opens operand isAs typed read operandIH =>
      have operandMoved := operandIH within.tail.tail
      rw [moved_keyword isAs] at operandMoved
      rw [moved_keyword word, moved_lexeme opens nofun]
      exact .cast word opens operandMoved isAs (firstLexeme_moved_type typed read)
        (moved_castType read)
  | array word opens _ ih =>
      rw [moved_keyword word, moved_lexeme opens nofun]
      exact .array word opens (ih within.tail.tail)
  | call named more opens _ ih =>
      have moreMoved := embeds.parts more
      rw [moved_lexeme opens nofun] at moreMoved
      rw [moved_name named]
      exact .call named moreMoved opens
        (ih (within.tail.later (.parts more)).tail)
  | reference named more uncalled =>
      rw [moved_name named, ← embeds.ofParts]
      exact .reference named (embeds.parts more) (embeds.firstLexeme_ne nofun uncalled)
  | searched word follows _ ih =>
      rw [moved_keyword word]
      exact .searched word (by rwa [embeds.firstKeyword]) (ih within.tail)
  | simple word other subject follows _ subjectIH bodyIH =>
      rw [moved_keyword word]
      exact .simple word (by rwa [embeds.firstKeyword]) (subjectIH within.tail)
        (by rwa [embeds.firstKeyword]) (bodyIH (within.tail.later subject.passes))
  | otherwise branches isElse last ends branchesIH lastIH =>
      have branchesMoved := branchesIH within
      have lastMoved := lastIH (within.later branches.passes).tail
      rw [moved_keyword isElse] at branchesMoved
      rw [moved_keyword ends] at lastMoved
      exact .otherwise branchesMoved isElse lastMoved ends
  | ended _ ends ih =>
      have moved := ih within
      rw [moved_keyword ends] at moved
      exact .ended moved ends
  | noBranches other => exact .noBranches (by rwa [embeds.firstKeyword])
  | branches found key isThen outcome _ keyIH outcomeIH moreIH =>
      have keyMoved := keyIH within.tail
      rw [moved_keyword isThen] at keyMoved
      rw [moved_keyword found]
      have within' := (within.tail.later key.passes).tail
      exact .branches found keyMoved isThen (outcomeIH within')
        (moreIH (within'.later outcome.passes))

end Embeds

end Moving

/-! ## A text read by itself -/

/-- What a text is read to by itself is derived from its tokens, wherever these stand. -/
theorem exists_tokens_of_parse {text entity : String} {e : Expr}
    (filled : (Text.trim text.toList).isEmpty = Bool.false) (parsed : parse text entity = .ok e) :
    ∃ tokens, Token.Walk 0 text.toList [] tokens ∧
      ∀ outer offset after, Embeds ⟨text.toList, entity⟩ outer offset after →
        Derives outer (.any e) (tokens.map (Token.shift offset) ++ after) after := by
  obtain ⟨_, rest, scanned, derived, finishes⟩ := (parse_eq_ok_iff filled).mp parsed
  obtain ⟨tokens, walk, rfl⟩ := Token.scan_eq_ok_iff.mp scanned
  refine ⟨tokens, walk, fun outer offset after embeds => ?_⟩
  have within : Within ⟨text.toList, entity⟩ (tokens ++ [Token.finishAt text.length]) := by
    intro token member
    rcases List.mem_append.mp member with member | member
    · simpa using walk.start_le token member
    · rw [List.mem_singleton.mp member]
      exact (String.length_toList).ge
  have moved := embeds.derives derived within
  rw [moved_append walk.ne_finish, moved_finish rfl] at moved
  obtain ⟨inside, whole, unfinished⟩ := derived.passes
  cases rest with
  | nil =>
      have last : Token.finishAt text.length ∈ inside := by
        rw [List.append_nil] at whole
        rw [← whole]
        simp
      exact absurd rfl (unfinished _ last)
  | cons token rest =>
      have ends : token.lexeme = .finish := finishes
      rwa [moved_finish ends] at moved

end Expr

end RowGuard
