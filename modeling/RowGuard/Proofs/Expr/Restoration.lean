import Mathlib.Data.List.DropRight
import RowGuard.Proofs.Expr.RoundTrip

/-! What is known of a tree that was read from a text, and which of these trees
are read back from their canonical text. -/

set_option autoImplicit false

namespace RowGuard

/-! ## Tokens of a text -/

namespace Token

variable {start : Nat} {c : Char} {rest after cs last : List Char} {lexeme : Lexeme}
  {tokens : List Token}

theorem Steps.held (steps : Steps c rest (some lexeme) after) : lexeme.Held := by
  cases steps with
  | number _ read => exact held_of_number read
  | punctuation found =>
      unfold punctuation? at found
      split at found <;> cases found <;> trivial
  | text | quotedName | word | operator => trivial

theorem Walk.held (walk : Walk start cs last tokens) : ∀ token ∈ tokens, token.lexeme.Held := by
  induction walk with
  | here => simp
  | found steps _ ih => exact List.forall_mem_cons.mpr ⟨steps.held, ih⟩
  | passed _ _ ih => exact ih

theorem Steps.not_isBlank (steps : Steps c rest (some lexeme) after) : Text.isBlank c = false := by
  rw [Bool.eq_false_iff]
  intro blank
  cases (steps.unique (.blank blank)).1

theorem Steps.eq_rightParen (steps : Steps c rest (some .rightParen) after) : c = ')' := by
  generalize same : some Lexeme.rightParen = found at steps
  cases steps with
  | blank | line | block | cast | text | quotedName | word | operator => cases same
  | number _ read =>
      cases same
      unfold Token.number at read
      dsimp only at read
      split at read
      · obtain ⟨n, _, same⟩ := except_map_eq_ok read
        cases same
      · split at read <;> cases read
  | punctuation found =>
      cases same
      unfold punctuation? at found
      split at found <;> first | rfl | cases found

end Token

/-! ## Blanks around a text -/

namespace Text

variable {cs : List Char}

theorem exists_trim (filled : ∀ c ∈ cs.head?, isBlank c = false) :
    ∃ blanks, (∀ c ∈ blanks, isBlank c) ∧ cs = trim cs ++ blanks := by
  refine ⟨(cs.reverse.takeWhile isBlank).reverse, fun c member => ?_, ?_⟩
  · exact List.mem_takeWhile_imp (List.mem_reverse.mp member)
  · rw [trim, dropWhile_of_filled filled, ← List.reverse_append, List.takeWhile_append_dropWhile,
      List.reverse_reverse]

theorem trim_trim (filled : ∀ c ∈ cs.head?, isBlank c = false) : trim (trim cs) = trim cs := by
  have inside : ∀ c ∈ (trim cs).head?, isBlank c = false := by
    obtain ⟨blanks, _, whole⟩ := exists_trim filled
    intro c front
    refine filled c ?_
    rw [whole, List.head?_append, Option.mem_def.mp front]
    rfl
  have ended : trim cs = (cs.reverse.dropWhile isBlank).reverse := by
    rw [trim, dropWhile_of_filled filled]
  rw [trim, dropWhile_of_filled inside, ended, List.reverse_reverse, List.dropWhile_idempotent]

end Text

namespace Expr

open Token (Walk)

variable {source : Source} {tokens rest : List Token} {entity : String} {e : Expr}

/-! ## What is left of a scan -/

theorem drop_of_suffix {text cs middle : List Char} {start : Nat} (placed : text.drop start = cs)
    (suffix : middle <:+ cs) : text.drop (start + (cs.length - middle.length)) = middle := by
  rw [← List.drop_drop, placed]
  exact (List.suffix_iff_eq_drop.mp suffix).symm

/-- The tokens from some place of a text to its end. -/
def Scanned (source : Source) (tokens : List Token) : Prop :=
  ∃ start found, Walk start (source.text.drop start) [] found ∧
    tokens = found ++ [Token.finishAt source.text.length]

theorem Scanned.held (scanned : Scanned source tokens) : ∀ token ∈ tokens, token.lexeme.Held := by
  obtain ⟨start, found, walk, rfl⟩ := scanned
  intro token member
  rcases List.mem_append.mp member with member | member
  · exact walk.held token member
  · rw [List.mem_singleton.mp member]
    trivial

theorem Scanned.tail {token : Token} (scanned : Scanned source (token :: rest))
    (unfinished : token.lexeme ≠ .finish) : Scanned source rest := by
  obtain ⟨start, found, walk, whole⟩ := scanned
  cases found with
  | nil =>
      cases whole
      exact absurd rfl unfinished
  | cons first found =>
      obtain ⟨rfl, rfl⟩ := List.cons.inj whole
      have onto : Walk start (source.text.drop start) [] ([] ++ token :: found) := walk
      obtain ⟨c, after, left, reached, starts, steps, stops, onward⟩ := onto.reach
      have placed : source.text.drop token.start = c :: after := by
        rw [starts]
        exact drop_of_suffix rfl reached.suffix
      have stopped : source.text.drop token.stop = left := by
        rw [stops]
        exact drop_of_suffix placed (steps.suffix.trans (List.suffix_cons _ _))
      exact ⟨token.stop, found, by rwa [stopped], rfl⟩

theorem Scanned.later (scanned : Scanned source tokens) (passes : Passes tokens rest) :
    Scanned source rest := by
  obtain ⟨inside, rfl, unfinished⟩ := passes
  induction inside with
  | nil => exact scanned
  | cons token inside ih =>
      rw [List.forall_mem_cons] at unfinished
      exact ih unfinished.2 (scanned.tail unfinished.1)

/-! ## Subqueries -/

/-- Whether a closing parenthesis behind a text is a token of its own. -/
def isClosed (body : String) : Bool :=
  match Token.scan (body ++ ")") with
  | .ok tokens => tokens.any fun token => token.lexeme == .rightParen && token.start == body.length
  | .error _ => Bool.false

theorem exists_walk_of_isClosed {body : String} (closed : isClosed body) :
    ∃ tokens, Walk 0 (body.toList ++ [')']) [')'] tokens := by
  unfold isClosed at closed
  split at closed
  · rename_i tokens scanned
    obtain ⟨found, walk, rfl⟩ := Token.scan_eq_ok_iff.mp scanned
    rw [List.any_eq_true] at closed
    obtain ⟨token, member, closes⟩ := closed
    rw [Bool.and_eq_true, beq_iff_eq, beq_iff_eq] at closes
    have inside : token ∈ found := by
      rcases List.mem_append.mp member with inside | ending
      · exact inside
      · rw [List.mem_singleton.mp ending] at closes
        cases closes.1
    obtain ⟨before, after, rfl⟩ := List.append_of_mem inside
    rw [String.toList_append] at walk
    obtain ⟨c, rest, left, reached, starts, _⟩ := walk.reach
    have suffix := reached.suffix
    have size := suffix.length_le
    have length : (body.toList ++ ")".toList).length = body.length + 1 := by
      rw [List.length_append, String.length_toList]
      rfl
    rw [length, List.length_cons] at size
    rw [length, closes.2] at starts
    have alone : rest = [] := List.length_eq_zero_iff.mp (by omega)
    subst alone
    have last : [c] = [')'] := by
      have drop := List.suffix_iff_eq_drop.mp suffix
      rw [length, List.length_singleton, Nat.add_sub_cancel, ← String.length_toList,
        List.drop_left] at drop
      exact drop
    rw [last] at reached
    exact ⟨before, reached⟩
  · cases closed

theorem Scanned.exists_walk {token closing : Token} {inside : List Token}
    (scanned : Scanned source (token :: inside ++ closing :: rest))
    (closes : closing.lexeme = .rightParen) :
    ∃ cs more, source.text.drop token.start = cs ++ ')' :: more ∧
      closing.start = token.start + cs.length ∧
      (∃ c ∈ cs.head?, Text.isBlank c = Bool.false) ∧
      Walk token.start (cs ++ ')' :: more) (')' :: more) (token :: inside) := by
  obtain ⟨start, found, walk, whole⟩ := scanned
  obtain ⟨after, rfl⟩ : ∃ after, found = token :: (inside ++ closing :: after) := by
    rcases List.eq_nil_or_concat rest with rfl | ⟨after, last, rfl⟩
    · have last := (List.append_inj' whole rfl).2
      cases last
      cases closes
    · rw [List.concat_eq_append, ← List.cons_append, ← List.append_assoc] at whole
      exact ⟨after, ((List.append_inj' whole rfl).1).symm⟩
  have onto : Walk start _ [] ([] ++ token :: (inside ++ closing :: after)) := walk
  obtain ⟨c, further, left, reached, starts, steps, stops, onward⟩ := onto.reach
  have placed : source.text.drop token.start = c :: further := by
    rw [starts]
    exact drop_of_suffix rfl reached.suffix
  have again : Walk token.start (c :: further) [] (token :: inside ++ closing :: after) := by
    obtain ⟨lexeme, begins, ends⟩ := token
    dsimp only at stops
    subst stops
    exact .found steps onward
  obtain ⟨d, more, _, closed, closingStarts, closingSteps, _⟩ := again.reach
  rw [closes] at closingSteps
  obtain rfl := closingSteps.eq_rightParen
  obtain ⟨cs, split⟩ := closed.suffix
  rw [← split] at closed closingStarts placed
  refine ⟨cs, more, placed, ?_, ?_, closed⟩
  · rw [closingStarts, List.length_append, List.length_cons, Nat.add_sub_cancel]
  · cases cs with
    | nil => cases closed.unique .here
    | cons first cs =>
        obtain ⟨rfl, _⟩ := List.cons.inj split
        exact ⟨first, rfl, steps.not_isBlank⟩

theorem firstKeyword_congr {tokens' : List Token} (same : lexemes tokens = lexemes tokens') :
    firstKeyword tokens = firstKeyword tokens' := by
  cases tokens with
  | nil =>
      cases tokens' with
      | nil => rfl
      | cons token tokens' => cases same
  | cons first tokens =>
      cases tokens' with
      | nil => cases same
      | cons token tokens' => exact keyword?_congr (List.cons.inj same).1

/-- A captured text is captured again if a closing parenthesis behind it is a token of its own. -/
theorem exists_recaptures {target : Option String} {body : String}
    (scanned : Scanned source tokens)
    (read : Gives (readBody source tokens) (target, body) rest)
    (filled : body ≠ "" ∨ firstLexeme tokens ≠ some .rightParen) (closed : isClosed body) :
    ∃ again, Recaptures target body again ∧ firstKeyword again = firstKeyword tokens := by
  obtain ⟨stop, captured, slice⟩ := gives_readBody_iff.mp read
  obtain ⟨inside, closing, rfl, closes, rfl, unfinished, recaptured⟩ := readCapture_split captured
  cases inside with
  | nil =>
      -- Nothing stands between the parentheses.
      have empty : body = "" := by
        rw [slice, List.nil_append, Source.front_cons, Source.slice, Nat.sub_self, List.take_zero]
        rfl
      rcases filled with filled | filled
      · exact absurd empty filled
      · exact absurd (congrArg some closes) filled
  | cons token inside =>
      obtain ⟨cs, more, placed, stops, ⟨c, front, solid⟩, walk⟩ := scanned.exists_walk closes
      have begins : ∀ c ∈ cs.head?, Text.isBlank c = Bool.false := by
        intro d first
        cases front.symm.trans first
        exact solid
      have text : body.toList = Text.trim cs := by
        rw [slice, List.cons_append, Source.front_cons, Source.slice, stops, placed,
          Nat.add_sub_cancel_left, List.take_left, String.toList_ofList]
      obtain ⟨blanks, blank, split⟩ := Text.exists_trim begins
      obtain ⟨again, walked⟩ := exists_walk_of_isClosed closed
      -- The scan of the kept text and the scan of the text it was taken from find the same tokens.
      have retailed : Walk 0 (body.toList ++ (blanks ++ ')' :: more)) (')' :: more) again :=
        walked.retail ⟨⟨blanks, blank, rfl⟩, by simp⟩
      rw [← List.append_assoc, text, ← split] at retailed
      have same := walk.unique (retailed.shift token.start)
      have lexemes : lexemes again = lexemes (token :: inside) := by
        rw [same, lexemes_map_shift]
      refine ⟨again, ⟨walked, ?_, ?_, ?_, ?_⟩, ?_⟩
      · intro first found
        obtain ⟨others, rfl⟩ := List.head?_eq_some_iff.mp found
        have start : token.start = token.start + first.start :=
          congrArg Token.start (List.cons.inj same).1
        omega
      · rintro rfl
        cases same
      · rw [text, Text.trim_trim begins]
      · intro source' inside' closing' rest' listed closes'
        exact recaptured source' inside' closing' rest' (listed.trans lexemes) closes'
      · exact (firstKeyword_congr lexemes : _ = firstKeyword (token :: inside))

/-! ## Trees that were read -/

/-- Whether the subquery that a node may hold can be told from what closes it. -/
def isBounded : Expr → Bool
  | .existence _ body => isClosed body
  | .subquery _ body => isClosed body
  | _ => Bool.true

/-- What is known of a node that was read from a text about an entity. -/
structure WasRead (entity : String) (node : Expr) : Prop where
  shaped : node.isShaped entity
  captured : node.isBounded → node.Recaptured

theorem wasRead_of_shaped {node : Expr} (shaped : node.isShaped entity)
    (uncaptured : node.isCapture = Bool.false) : WasRead entity node := by
  refine ⟨shaped, fun _ => ?_⟩
  cases node with
  | existence target body => cases uncaptured
  | subquery target body => cases uncaptured
  | _ => trivial

theorem wasRead_subquery {target : Option String} {body : String} (scanned : Scanned source tokens)
    (selects : firstKeyword tokens = some .select)
    (read : Gives (readBody source tokens) (target, body) rest) :
    WasRead entity (.subquery target body) := by
  refine ⟨rfl, fun closed => ?_⟩
  have unclosed : firstLexeme tokens ≠ some .rightParen := by
    obtain ⟨token, rest, rfl, word⟩ := exists_of_firstKeyword selects
    obtain ⟨text, lexeme, _⟩ := exists_word_of_keyword word
    rw [firstLexeme_cons, lexeme]
    nofun
  obtain ⟨again, recaptures, first⟩ := exists_recaptures scanned read (.inr unclosed) closed
  exact ⟨again, recaptures, first.trans selects⟩

theorem wasRead_existence {target : Option String} {body : String}
    (scanned : Scanned source tokens)
    (read : Gives (readBody source tokens) (target, body) rest) (filled : body ≠ "") :
    WasRead entity (.existence target body) := by
  refine ⟨rfl, fun closed => ⟨filled, ?_⟩⟩
  obtain ⟨again, recaptures, _⟩ := exists_recaptures scanned read (.inl filled) closed
  exact ⟨again, recaptures⟩

theorem everywhere_literal {holds : Expr → Prop} {value : Literal} :
    (Expr.literal value).Everywhere holds ↔ holds (.literal value) :=
  List.forall_mem_singleton

theorem wasRead_literal {value : Literal} (shaped : value.isShaped) :
    (Expr.literal value).Everywhere (WasRead entity) :=
  everywhere_literal.mpr (wasRead_of_shaped shaped rfl)

theorem isShaped_of_literal? {lexeme : Lexeme} {value : Literal} (held : lexeme.Held)
    (found : literal? lexeme = some value) : value.isShaped := by
  unfold literal? at found
  split at found
  · cases found
    rfl
  · cases found
    exact decide_eq_true (by simpa [Lexeme.Held] using held)
  · cases found
    rw [Literal.isShaped, held.2, decide_eq_true held.1]
    rfl
  · cases found

theorem isShaped_of_negated {lexeme : Lexeme} {positive value : Literal} (held : lexeme.Held)
    (number : number? lexeme = some positive) (negation : negated positive = .ok value) :
    value.isShaped := by
  unfold number? at number
  split at number
  · cases number
    cases negation
    exact decide_eq_true (by simpa [Lexeme.Held] using held)
  · rename_i d
    cases number
    rw [negated] at negation
    split at negation
    · rename_i result
      cases negation
      obtain ⟨inRange, working⟩ := Decimal.isWorking_of_negated result
      rw [Literal.isShaped, decide_eq_true inRange, Bool.true_and, Bool.or_eq_true,
        Bool.not_eq_true']
      exact (Bool.eq_false_or_eq_true _).symm.imp_right working
    · cases negation
  · cases number

theorem isShaped_of_constant {keyword : Keyword} {value : Literal}
    (found : constant? keyword = some value) : value.isShaped := by
  unfold constant? at found
  split at found <;> cases found <;> rfl

theorem wasRead_ofCall (name : String) {arguments : List Expr}
    (each : ∀ e ∈ arguments, e.Everywhere (WasRead entity)) :
    (ofCall name arguments).Everywhere (WasRead entity) := by
  cases setting : isSettingCall name arguments with
  | false =>
      rw [ofCall_of_not_setting setting]
      exact everywhere_call.mpr ⟨wasRead_of_shaped (by simp [isShaped, setting]) rfl, each⟩
  | true =>
      unfold isSettingCall at setting
      split at setting
      · rename_i value _
        -- A literal that was read as a text holds a text.
        have shaped : Literal.isShaped ⟨.text, value⟩ :=
          (everywhere_literal.mp (each _ List.mem_cons_self)).shaped
        cases value with
        | text key =>
            unfold ofCall
            rw [setting]
            exact List.forall_mem_singleton.mpr (wasRead_of_shaped rfl rfl)
        | _ => cases shaped
      · cases setting

theorem wasRead_ofParts (first : String) (more : List String) :
    (ofParts source first more).Everywhere (WasRead source.entity) := by
  unfold ofParts
  split
  · split
    · exact everywhere_call.mpr ⟨wasRead_of_shaped rfl rfl, by simp⟩
    · exact List.forall_mem_singleton.mpr (wasRead_of_shaped rfl rfl)
  · dsimp only
    split
    · exact List.forall_mem_singleton.mpr (wasRead_of_shaped rfl rfl)
    · rename_i other
      refine List.forall_mem_singleton.mpr (wasRead_of_shaped ?_ rfl)
      rw [isShaped, bne_iff_ne]
      simpa using other

theorem Derives.branches_ne_nil {branches : List (Expr × Expr)} {otherwise : Option Expr}
    (derived : Derives source (.body branches otherwise) tokens rest)
    (begins : firstKeyword tokens = some .when) : branches ≠ [] := by
  rintro rfl
  cases derived with
  | otherwise parts | ended parts =>
      cases parts with
      | noBranches other => exact other begins

theorem wasRead_joined_any {first : Expr} {more : List Expr}
    (firstRead : first.Everywhere (WasRead entity))
    (moreRead : ∀ e ∈ more, e.Everywhere (WasRead entity)) :
    (joined .any first more).Everywhere (WasRead entity) := by
  cases more with
  | nil => exact firstRead
  | cons next more =>
      exact everywhere_any.mpr ⟨wasRead_of_shaped (by simp [isShaped]) rfl,
        List.forall_mem_cons.mpr ⟨firstRead, moreRead⟩⟩

theorem wasRead_joined_all {first : Expr} {more : List Expr}
    (firstRead : first.Everywhere (WasRead entity))
    (moreRead : ∀ e ∈ more, e.Everywhere (WasRead entity)) :
    (joined .all first more).Everywhere (WasRead entity) := by
  cases more with
  | nil => exact firstRead
  | cons next more =>
      exact everywhere_all.mpr ⟨wasRead_of_shaped (by simp [isShaped]) rfl,
        List.forall_mem_cons.mpr ⟨firstRead, moreRead⟩⟩

theorem wasRead_compare {comparator : Comparator} {left right : Expr}
    (known : ∀ symbol, comparator ≠ .unknown symbol)
    (leftRead : left.Everywhere (WasRead entity)) (rightRead : right.Everywhere (WasRead entity)) :
    (Expr.condition (.compare comparator) left right).Everywhere (WasRead entity) := by
  refine everywhere_condition.mpr ⟨wasRead_of_shaped ?_ rfl, leftRead, rightRead⟩
  cases comparator with
  | unknown symbol => exact absurd rfl (known symbol)
  | eq | ne | lt | le | gt | ge | like _ _ => rfl

theorem wasRead_member {negated : Bool} {left right : Expr}
    (leftRead : left.Everywhere (WasRead entity)) (rightRead : right.Everywhere (WasRead entity)) :
    (Expr.condition (.member negated) left right).Everywhere (WasRead entity) :=
  everywhere_condition.mpr ⟨wasRead_of_shaped rfl rfl, leftRead, rightRead⟩

theorem wasRead_choice {subject : Option Expr} {branches : List (Expr × Expr)}
    {otherwise : Option Expr} (branched : branches ≠ [])
    (subjectRead : ∀ e ∈ subject, e.Everywhere (WasRead entity))
    (bodyRead : (Form.body branches otherwise).Holds (Everywhere (WasRead entity))) :
    (Expr.choice subject branches otherwise).Everywhere (WasRead entity) :=
  everywhere_choice.mpr
    ⟨wasRead_of_shaped (by simpa [isShaped] using branched) rfl, subjectRead, bodyRead⟩

theorem Derives.wasRead {form : Form} (derived : Derives source form tokens rest)
    (scanned : Scanned source tokens) : form.Holds (Everywhere (WasRead source.entity)) := by
  induction derived with
  | any first _ firstIH moreIH =>
      exact wasRead_joined_any (firstIH scanned) (moreIH (scanned.later first.passes))
  | all first _ firstIH moreIH =>
      exact wasRead_joined_all (firstIH scanned) (moreIH (scanned.later first.passes))
  | noMoreAny | noMoreAll | noMoreItems | noItems | noBranches => simp [Form.Holds]
  | moreAny found next _ nextIH moreIH | moreAll found next _ nextIH moreIH =>
      have inner := scanned.later ((Passes.refl _).keyword found)
      exact List.forall_mem_cons.mpr ⟨nextIH inner, moreIH (inner.later next.passes)⟩
  | moreItems found next _ nextIH moreIH =>
      have inner := scanned.later ((Passes.refl _).lexeme found (by simp))
      exact List.forall_mem_cons.mpr ⟨nextIH inner, moreIH (inner.later next.passes)⟩
  | items _ first _ _ firstIH moreIH =>
      exact List.forall_mem_cons.mpr
        ⟨firstIH scanned, moreIH (scanned.later first.passes)⟩
  | not found _ ih =>
      exact everywhere_not.mpr
        ⟨wasRead_of_shaped rfl rfl, ih (scanned.later ((Passes.refl _).keyword found))⟩
  | unnegated _ _ ih | alone _ _ ih => exact ih scanned
  | compare left operates known _ _ leftIH rightIH =>
      exact wasRead_compare (comparator?_known known) (leftIH scanned)
        (rightIH ((scanned.later left.passes).later ((Passes.refl _).lexeme operates (by simp))))
  | anyOf left operates _ word _ _ leftIH rightIH =>
      have quantified := (scanned.later left.passes).later ((Passes.refl _).lexeme operates (by simp))
      rcases word with word | word
      · exact wasRead_member (leftIH scanned)
          (rightIH (quantified.later ((Passes.refl _).keyword word)))
      · exact wasRead_member (leftIH scanned)
          (rightIH (quantified.later ((Passes.refl _).keyword word)))
  | allOf left operates _ word _ _ leftIH rightIH =>
      have quantified := (scanned.later left.passes).later ((Passes.refl _).lexeme operates (by simp))
      exact wasRead_member (leftIH scanned)
        (rightIH (quantified.later ((Passes.refl _).keyword word)))
  | member left phrase _ leftIH rightIH =>
      exact wasRead_member (leftIH scanned)
        (rightIH (scanned.later (left.passes.trans (.phrase phrase))))
  | like left phrase _ leftIH rightIH =>
      exact wasRead_compare (by simp) (leftIH scanned)
        (rightIH (scanned.later (left.passes.trans (.phrase phrase))))
  | null _ _ _ leftIH =>
      exact everywhere_condition.mpr
        ⟨wasRead_of_shaped rfl rfl, leftIH scanned, wasRead_literal rfl⟩
  | listedSubquery opens selects captured | subquery opens selects captured =>
      exact List.forall_mem_singleton.mpr
        (wasRead_subquery (scanned.later ((Passes.refl _).lexeme opens (by simp))) selects captured)
  | listed opens _ first _ _ firstIH moreIH =>
      have inner := scanned.later ((Passes.refl _).lexeme opens (by simp))
      exact everywhere_array.mpr ⟨wasRead_of_shaped rfl rfl, List.forall_mem_cons.mpr
        ⟨firstIH inner, moreIH (inner.later first.passes)⟩⟩
  | parenthesised opens _ _ _ ih =>
      exact ih (scanned.later ((Passes.refl _).lexeme opens (by simp)))
  | literal found =>
      exact wasRead_literal
        (isShaped_of_literal? (scanned.held _ List.mem_cons_self) found)
  | negative negates number negation =>
      exact wasRead_literal (isShaped_of_negated
        (scanned.held _ (List.mem_cons_of_mem _ List.mem_cons_self)) number negation)
  | constant _ found => exact wasRead_literal (isShaped_of_constant found)
  | existence word opens captured filled =>
      refine List.forall_mem_singleton.mpr (wasRead_existence ?_ captured filled)
      exact scanned.later (((Passes.refl _).lexeme opens (by simp)).keyword word)
  | cast word opens _ _ _ _ ih =>
      exact ih (scanned.later (((Passes.refl _).lexeme opens (by simp)).keyword word))
  | array word opens _ ih =>
      exact everywhere_array.mpr ⟨wasRead_of_shaped rfl rfl,
        ih (scanned.later (((Passes.refl _).lexeme opens (by simp)).keyword word))⟩
  | call named more opens _ ih =>
      have opened := scanned.later ((Passes.parts more).name named)
      exact wasRead_ofCall _ (ih (opened.later ((Passes.refl _).lexeme opens (by simp))))
  | reference => exact wasRead_ofParts _ _
  | searched word begins body ih =>
      exact wasRead_choice (body.branches_ne_nil begins) (by simp)
        (ih (scanned.later ((Passes.refl _).keyword word)))
  | simple word _ subject begins body subjectIH bodyIH =>
      have inner := scanned.later ((Passes.refl _).keyword word)
      refine wasRead_choice (body.branches_ne_nil begins) ?_ (bodyIH (inner.later subject.passes))
      rintro _ ⟨⟩
      exact subjectIH inner
  | otherwise branches isElse _ _ branchesIH lastIH =>
      refine ⟨branchesIH scanned, ?_⟩
      rintro _ ⟨⟩
      exact lastIH ((scanned.later branches.passes).later ((Passes.refl _).keyword isElse))
  | ended _ _ branchesIH => exact ⟨branchesIH scanned, by simp⟩
  | branches found key isThen outcome _ keyIH outcomeIH moreIH =>
      have inner := scanned.later ((Passes.refl _).keyword found)
      have second := (inner.later key.passes).later ((Passes.refl _).keyword isThen)
      exact List.forall_mem_cons.mpr ⟨⟨keyIH inner, outcomeIH second⟩,
        moreIH (second.later outcome.passes)⟩

theorem wasRead_of_parse {text : String} (parsed : parse text entity = .ok e) :
    e.Everywhere (WasRead entity) := by
  by_cases blank : (Text.trim text.toList).isEmpty = Bool.true
  · rw [parse, if_pos blank] at parsed
    cases parsed
    exact wasRead_literal rfl
  · obtain ⟨tokens, rest, scanned, derived, _⟩ := (parse_eq_ok_iff (by simpa using blank)).mp parsed
    obtain ⟨found, walk, rfl⟩ := Token.scan_eq_ok_iff.mp scanned
    refine derived.wasRead ⟨0, found, walk, ?_⟩
    rw [String.length_toList]

/-- A tree that was read from a text is read back from its canonical text if its names need no
quotes, its lists have items, its decimals are not written like integers, and its subqueries can be
told from what closes them. -/
theorem parse_print_parse {text : String} (parsed : parse text entity = .ok e)
    (plain : ∀ node ∈ e.walk, node.isPlain ∧ node.isBounded) :
    ∃ text' e', print e = .ok text' ∧ parse text' entity = .ok e' ∧ e'.same e := by
  have known := wasRead_of_parse parsed
  refine (printed_of_restores e fun node member => ?_).parse
  obtain ⟨plain, bounded⟩ := plain node member
  exact ⟨(known node member).shaped, plain, (known node member).captured bounded⟩

/-- A qualifier in quotes that it does not need, a decimal with an exponent, and a subquery with a
cast, a comment and a parenthesis inside a text. -/
def ownedTotal : Expr :=
  .all [
    .condition (.compare .eq) (.column "x" (some "owner"))
      (.literal ⟨.decimal, .decimal ⟨Bool.false, 15, 2⟩⟩),
    .existence (some "t") "SELECT a::int FROM t /* all */ WHERE b = ')'"]

theorem parse_print_parse_ownedTotal :
    parse "\"owner\".x = 1.5E3 AND EXISTS (SELECT a::int FROM t /* all */ WHERE b = ')' )" "Post" =
        .ok ownedTotal ∧
      (∀ node ∈ ownedTotal.walk, node.isPlain ∧ node.isBounded) ∧
      ∃ text' e', print ownedTotal = .ok text' ∧ parse text' "Post" = .ok e' ∧
        e'.same ownedTotal := by
  have parsed : parse
      "\"owner\".x = 1.5E3 AND EXISTS (SELECT a::int FROM t /* all */ WHERE b = ')' )" "Post" =
        .ok ownedTotal := by
    with_unfolding_all rfl
  have plain : ∀ node ∈ ownedTotal.walk, node.isPlain ∧ node.isBounded := by decide +kernel
  exact ⟨parsed, plain, parse_print_parse parsed plain⟩

/-- A text about a post is read to a tree whose canonical text is refused or read to another
tree. -/
def Lost (text : String) : Prop :=
  ∃ e text', parse text "Post" = .ok e ∧ print e = .ok text' ∧
    ∀ e', parse text' "Post" = .ok e' → e'.same e = Bool.false

theorem lost_of_refused {text text' : String} {error : ReadError}
    (parsed : parse text "Post" = .ok e) (printed : print e = .ok text')
    (refused : parse text' "Post" = .error error) : Lost text := by
  refine ⟨e, text', parsed, printed, fun e' accepted => ?_⟩
  rw [refused] at accepted
  cases accepted

theorem lost_of_changed {text text' : String} {other : Expr}
    (parsed : parse text "Post" = .ok e) (printed : print e = .ok text')
    (changed : parse text' "Post" = .ok other) (differs : other.same e = Bool.false) :
    Lost text := by
  refine ⟨e, text', parsed, printed, fun e' accepted => ?_⟩
  rw [changed] at accepted
  cases accepted
  exact differs

/-- A name that needs its quotes, a column that is taken for a function, an empty list, a decimal
that is written like an integer, and a comment behind a subquery are all lost. -/
theorem parse_print_parse_lost :
    Lost "\"order date\" = 1" ∧ Lost "Post.current_user = 'ann'" ∧ Lost "id = ANY (ARRAY[])" ∧
      Lost "amount = 1E0" ∧ Lost "EXISTS (SELECT 1 FROM t -- note\n)" := by
  refine ⟨?_, ?_, ?_, ?_, ?_⟩
  · exact lost_of_refused (by with_unfolding_all rfl) rfl (by with_unfolding_all rfl)
  · exact lost_of_changed (by with_unfolding_all rfl) rfl (by with_unfolding_all rfl) rfl
  · exact lost_of_refused (by with_unfolding_all rfl) rfl (by with_unfolding_all rfl)
  · exact lost_of_changed (by with_unfolding_all rfl) rfl (by with_unfolding_all rfl) rfl
  · exact lost_of_refused (by with_unfolding_all rfl) rfl (by with_unfolding_all rfl)

end Expr

end RowGuard
