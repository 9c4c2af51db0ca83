import RowGuard.Proofs.Expr.Derivation

/-! What the readers give is derived. The readers call each other on fewer
tokens, or on the same tokens at a lower rank; the induction is on that
measure. -/

set_option autoImplicit false

namespace RowGuard

namespace Expr

/-! ## The readers of forms -/

def afterItem : Bool → String
  | Bool.true => "']' or ','"
  | Bool.false => "')' or ','"

/-- The reader of a form gives it and leaves the rest. -/
def Form.IsRead (source : Source) (tokens rest : List Token) : Form → Prop
  | .any e => Gives (readAny source tokens) e rest
  | .moreAny operands => Gives (readMoreAny source tokens) operands rest
  | .all e => Gives (readAll source tokens) e rest
  | .moreAll operands => Gives (readMoreAll source tokens) operands rest
  | .not e => Gives (readNot source tokens) e rest
  | .condition e => Gives (readCondition source tokens) e rest
  | .primary e => Gives (readPrimary source tokens) e rest
  | .list e => Gives (readList source tokens) e rest
  | .moreItems es => Gives (readMoreItems source tokens) es rest
  | .items bracketed es =>
    Gives (readItems source (closingMark bracketed) (afterItem bracketed) tokens) es rest
  | .body parts otherwise => Gives (readChoiceBody source tokens) (parts, otherwise) rest
  | .branches parts => Gives (readBranches source tokens) parts rest

/-- How far the reader of a form stands above the readers it calls on the same tokens. -/
def Form.rank : Form → Nat
  | .any _ | .moreAny _ => 6
  | .all _ | .moreAll _ => 5
  | .not _ => 4
  | .condition _ => 3
  | .primary _ | .list _ => 2
  | .moreItems _ | .items .. | .branches _ => 7
  | .body .. => 8

section Inversion

variable {source : Source} {tokens rest : List Token}

theorem gives_take_iff {lexeme : Lexeme} {expected : String} :
    Gives (source.take lexeme expected tokens) () rest ↔
      ∃ token, tokens = token :: rest ∧ token.lexeme = lexeme := by
  constructor
  · intro gives
    unfold Source.take at gives
    split at gives
    · split at gives
      · obtain ⟨_, rfl⟩ := gives.eq_of_ok
        exact ⟨_, rfl, ‹_›⟩
      · exact absurd gives not_gives_error
    · exact absurd gives not_gives_error
  · rintro ⟨token, rfl, same⟩
    exact ⟨by simp, if_pos same⟩

theorem gives_takeKeyword_iff {keyword : Keyword} :
    Gives (source.takeKeyword keyword tokens) () rest ↔
      ∃ token, tokens = token :: rest ∧ token.keyword? = some keyword := by
  constructor
  · intro gives
    unfold Source.takeKeyword at gives
    split at gives
    · split at gives
      · obtain ⟨_, rfl⟩ := gives.eq_of_ok
        exact ⟨_, rfl, ‹_›⟩
      · exact absurd gives not_gives_error
    · exact absurd gives not_gives_error
  · rintro ⟨token, rfl, same⟩
    exact ⟨by simp, if_pos same⟩

theorem gives_readName_iff {name : String} :
    Gives (readName source tokens) name rest ↔
      ∃ token, tokens = token :: rest ∧ name? token = some name := by
  constructor
  · intro gives
    unfold readName at gives
    split at gives
    · split at gives
      · obtain ⟨rfl, rfl⟩ := gives.eq_of_ok
        exact ⟨_, rfl, ‹_›⟩
      · exact absurd gives not_gives_error
    · exact absurd gives not_gives_error
  · rintro ⟨token, rfl, same⟩
    refine ⟨by simp, ?_⟩
    simp [readName, same]

theorem gives_readSubquery_iff {e : Expr} :
    Gives (readSubquery source tokens) e rest ↔
      ∃ target body, e = .subquery target body ∧
        Gives (readBody source tokens) (target, body) rest := by
  constructor
  · intro gives
    obtain ⟨⟨target, body⟩, _, _, bodyRead, gives⟩ := gives.of_bind
    obtain ⟨rfl, rfl⟩ := gives.eq_of_ok
    exact ⟨target, body, rfl, bodyRead⟩
  · rintro ⟨target, body, rfl, bodyRead⟩
    exact bodyRead.bind fun _ => gives_ok _

theorem gives_readExistence_iff {e : Expr} :
    Gives (readExistence source tokens) e rest ↔
      ∃ opening inner target body, tokens = opening :: inner ∧ opening.lexeme = .leftParen ∧
        e = .existence target body ∧ body ≠ "" ∧
        Gives (readBody source inner) (target, body) rest := by
  constructor
  · intro gives
    obtain ⟨_, inner, _, start, gives⟩ := gives.of_bind
    obtain ⟨opening, same, opens⟩ := gives_take_iff.mp start
    obtain ⟨⟨target, body⟩, _, _, bodyRead, gives⟩ := gives.of_bind
    dsimp only at gives
    split at gives
    · exact absurd gives not_gives_error
    · rename_i filled
      obtain ⟨rfl, rfl⟩ := gives.eq_of_ok
      exact ⟨opening, inner, target, body, same, opens, rfl,
        fun empty => filled (beq_iff_eq.mpr empty), bodyRead⟩
  · rintro ⟨opening, inner, target, body, rfl, opens, rfl, filled, bodyRead⟩
    refine (gives_take_iff.mpr ⟨opening, rfl, opens⟩).bind fun _ => bodyRead.bind fun _ => ?_
    dsimp only
    rw [if_neg (mt beq_iff_eq.mp filled)]
    exact gives_ok _

end Inversion

/-! ## What is read is derived -/

section Soundness

variable {source : Source} {bound : Nat}

/-- What the readers give is derived, for all runs of a measure below a bound. -/
def Sound (source : Source) (bound : Nat) : Prop :=
  ∀ (form : Form) {tokens rest : List Token}, 10 * tokens.length + form.rank < bound →
    form.IsRead source tokens rest → Derives source form tokens rest

namespace Sound

variable {tokens rest : List Token} {e : Expr} {es : List Expr}

theorem ofReadAny (smaller : Sound source bound) (within : 10 * tokens.length + 6 < bound + 1)
    (gives : Gives (readAny source tokens) e rest) : Derives source (.any e) tokens rest := by
  rw [readAny] at gives
  obtain ⟨first, middle, shorter, firstRead, gives⟩ := gives.of_bind
  obtain ⟨more, _, moreRead, rfl⟩ := gives.of_bind_ok
  exact .any (smaller (.all first) (by simp only [Form.rank]; omega) firstRead)
    (smaller (.moreAny more) (by simp only [Form.rank]; omega) moreRead)

theorem ofReadMoreAny (smaller : Sound source bound)
    (within : 10 * tokens.length + 6 < bound + 1)
    (gives : Gives (readMoreAny source tokens) es rest) :
    Derives source (.moreAny es) tokens rest := by
  cases tokens with
  | nil =>
      rw [readMoreAny] at gives
      obtain ⟨rfl, rfl⟩ := gives.eq_of_ok
      exact .noMoreAny (by simp [firstKeyword])
  | cons token inner =>
      rw [List.length_cons] at within
      rw [readMoreAny] at gives
      split at gives
      · rename_i found
        obtain ⟨next, middle, shorter, nextRead, gives⟩ := gives.of_bind
        obtain ⟨more, _, moreRead, rfl⟩ := gives.of_bind_ok
        exact .moreAny found (smaller (.all next) (by simp only [Form.rank]; omega) nextRead)
          (smaller (.moreAny more) (by simp only [Form.rank]; omega) moreRead)
      · rename_i other
        obtain ⟨rfl, rfl⟩ := gives.eq_of_ok
        exact .noMoreAny other

theorem ofReadAll (smaller : Sound source bound) (within : 10 * tokens.length + 5 < bound + 1)
    (gives : Gives (readAll source tokens) e rest) : Derives source (.all e) tokens rest := by
  rw [readAll] at gives
  obtain ⟨first, middle, shorter, firstRead, gives⟩ := gives.of_bind
  obtain ⟨more, _, moreRead, rfl⟩ := gives.of_bind_ok
  exact .all (smaller (.not first) (by simp only [Form.rank]; omega) firstRead)
    (smaller (.moreAll more) (by simp only [Form.rank]; omega) moreRead)

theorem ofReadMoreAll (smaller : Sound source bound)
    (within : 10 * tokens.length + 5 < bound + 1)
    (gives : Gives (readMoreAll source tokens) es rest) :
    Derives source (.moreAll es) tokens rest := by
  cases tokens with
  | nil =>
      rw [readMoreAll] at gives
      obtain ⟨rfl, rfl⟩ := gives.eq_of_ok
      exact .noMoreAll (by simp [firstKeyword])
  | cons token inner =>
      rw [List.length_cons] at within
      rw [readMoreAll] at gives
      split at gives
      · rename_i found
        obtain ⟨next, middle, shorter, nextRead, gives⟩ := gives.of_bind
        obtain ⟨more, _, moreRead, rfl⟩ := gives.of_bind_ok
        exact .moreAll found (smaller (.not next) (by simp only [Form.rank]; omega) nextRead)
          (smaller (.moreAll more) (by simp only [Form.rank]; omega) moreRead)
      · rename_i other
        obtain ⟨rfl, rfl⟩ := gives.eq_of_ok
        exact .noMoreAll other

theorem ofReadNot (smaller : Sound source bound) (within : 10 * tokens.length + 4 < bound + 1)
    (gives : Gives (readNot source tokens) e rest) : Derives source (.not e) tokens rest := by
  cases tokens with
  | nil =>
      rw [readNot] at gives
      exact .unnegated (by simp [firstKeyword])
        (smaller (.condition e) (by simp only [Form.rank]; omega) gives)
  | cons token inner =>
      have size : (token :: inner).length = inner.length + 1 := rfl
      rw [readNot] at gives
      split at gives
      · rename_i found
        obtain ⟨operand, _, operandRead, rfl⟩ := gives.of_bind_ok
        exact .not found (smaller (.not operand) (by simp only [Form.rank]; omega) operandRead)
      · rename_i other
        exact .unnegated other (smaller (.condition e) (by simp only [Form.rank]; omega) gives)

theorem ofReadQuantified (smaller : Sound source bound)
    (within : 10 * tokens.length + 2 < bound + 1)
    (gives : Gives (readQuantified source tokens) e rest) :
    firstLexeme tokens = some .leftParen ∧ Derives source (.primary e) tokens rest := by
  rw [readQuantified] at gives
  obtain ⟨_, inner, shorter, start, gives⟩ := gives.of_bind
  obtain ⟨opening, rfl, opens⟩ := gives_take_iff.mp start
  refine ⟨congrArg some opens, ?_⟩
  dsimp only at gives
  rw [source.keyword?_eq] at gives
  split at gives
  · rename_i selects
    obtain ⟨_, _, bodyRead, rfl⟩ := gives.of_bind_ok
    obtain ⟨target, body, rfl, captured⟩ := gives_readSubquery_iff.mp bodyRead
    exact .subquery opens selects captured
  · rename_i other
    obtain ⟨_, after, _, innerRead, gives⟩ := gives.of_bind
    obtain ⟨_, _, _, close, gives⟩ := gives.of_bind
    obtain ⟨closing, rfl, closes⟩ := gives_take_iff.mp close
    obtain ⟨rfl, rfl⟩ := gives.eq_of_ok
    exact .parenthesised opens other
      (smaller (.any _) (by simp only [Form.rank]; omega) innerRead) closes

theorem ofQuantifier {least : Nat} {inner : List Token} {comparator wanted : Comparator}
    {error : ReadError} {make : Read Expr inner 1 → Expr}
    {fits : ∀ read : Read Expr inner 1, read.rest.length + least ≤ tokens.length}
    (smaller : Sound source bound) (within : 10 * inner.length + 2 < bound + 1)
    (gives : Gives (if comparator ≠ wanted then .error error
      else readQuantified source inner >>= fun right => .ok ⟨make right, right.rest, fits right⟩ :
        Reading Expr tokens least) e rest) :
    comparator = wanted ∧ ∃ right taken, firstLexeme inner = some .leftParen ∧
      Derives source (.primary right) inner rest ∧ e = make ⟨right, rest, taken⟩ := by
  split at gives
  · exact absurd gives not_gives_error
  · rename_i same
    obtain ⟨right, taken, rightRead, made⟩ := gives.of_bind_ok
    obtain ⟨opens, rightDerived⟩ := smaller.ofReadQuantified within rightRead
    exact ⟨Decidable.not_not.mp same, right, taken, opens, rightDerived, made⟩

theorem ofReadCondition (smaller : Sound source bound)
    (within : 10 * tokens.length + 3 < bound + 1)
    (gives : Gives (readCondition source tokens) e rest) :
    Derives source (.condition e) tokens rest := by
  rw [readCondition] at gives
  obtain ⟨left, middle, taken, leftRead, gives⟩ := gives.of_bind
  have leftDerived := smaller (.primary left) (by simp only [Form.rank]; omega) leftRead
  dsimp only at gives
  split at gives
  · obtain ⟨rfl, rfl⟩ := gives.eq_of_ok
    exact .alone leftDerived (by simp)
  · rename_i token after
    rw [List.length_cons] at taken
    have dropped : (after.drop 1).length ≤ after.length := by simp
    simp only [source.keyword?_eq] at gives
    split at gives
    · rename_i symbol operates
      split at gives
      · exact absurd gives not_gives_error
      · rename_i comparator known
        -- Only an equality goes before ANY, and only an inequality before ALL.
        split at gives
        · rename_i quantified
          obtain ⟨quantifier, inner, rfl, word⟩ := exists_of_firstKeyword quantified
          obtain ⟨rfl, right, _, opens, rightDerived, rfl⟩ := smaller.ofQuantifier (by omega) gives
          exact .anyOf leftDerived operates known (.inl word) opens rightDerived
        · rename_i quantified
          obtain ⟨quantifier, inner, rfl, word⟩ := exists_of_firstKeyword quantified
          obtain ⟨rfl, right, _, opens, rightDerived, rfl⟩ := smaller.ofQuantifier (by omega) gives
          exact .anyOf leftDerived operates known (.inr word) opens rightDerived
        · rename_i quantified
          obtain ⟨quantifier, inner, rfl, word⟩ := exists_of_firstKeyword quantified
          obtain ⟨rfl, right, _, opens, rightDerived, rfl⟩ := smaller.ofQuantifier (by omega) gives
          exact .allOf leftDerived operates known word opens rightDerived
        · rename_i notAny notSome notAll
          obtain ⟨right, _, rightRead, rfl⟩ := gives.of_bind_ok
          refine .compare leftDerived operates known ?_
            (smaller (.primary right) (by simp only [Form.rank]; omega) rightRead)
          intro keyword first
          refine ⟨?_, ?_, ?_⟩ <;> rintro rfl
          · exact notAny first
          · exact notSome first
          · exact notAll first
    · rename_i negates _
      split at gives
      · rename_i follows
        obtain ⟨second, inner, rfl, word⟩ := exists_of_firstKeyword follows
        rw [List.length_cons] at taken
        obtain ⟨right, _, rightRead, rfl⟩ := gives.of_bind_ok
        exact .member leftDerived (.negated negates word)
          (smaller (.list right) (by simp only [Form.rank]; omega) rightRead)
      · rename_i follows
        obtain ⟨second, inner, rfl, word⟩ := exists_of_firstKeyword follows
        rw [List.length_cons] at taken
        obtain ⟨right, _, rightRead, rfl⟩ := gives.of_bind_ok
        exact .like leftDerived (.negated negates word)
          (smaller (.primary right) (by simp only [Form.rank]; omega) rightRead)
      · rename_i follows
        obtain ⟨second, inner, rfl, word⟩ := exists_of_firstKeyword follows
        rw [List.length_cons] at taken
        obtain ⟨right, _, rightRead, rfl⟩ := gives.of_bind_ok
        exact .like leftDerived (.negated negates word)
          (smaller (.primary right) (by simp only [Form.rank]; omega) rightRead)
      · exact absurd gives not_gives_error
    · rename_i word _
      obtain ⟨right, _, rightRead, rfl⟩ := gives.of_bind_ok
      exact .member leftDerived (.plain word)
        (smaller (.list right) (by simp only [Form.rank]; omega) rightRead)
    · rename_i word _
      obtain ⟨right, _, rightRead, rfl⟩ := gives.of_bind_ok
      exact .like leftDerived (.plain word)
        (smaller (.primary right) (by simp only [Form.rank]; omega) rightRead)
    · rename_i word _
      obtain ⟨right, _, rightRead, rfl⟩ := gives.of_bind_ok
      exact .like leftDerived (.plain word)
        (smaller (.primary right) (by simp only [Form.rank]; omega) rightRead)
    · rename_i word _
      split at gives
      · rename_i follows
        obtain ⟨second, inner, rfl, negates⟩ := exists_of_firstKeyword follows
        obtain ⟨_, _, nullRead, rfl⟩ := gives.of_bind_ok
        obtain ⟨third, same, isNull⟩ := gives_takeKeyword_iff.mp nullRead
        rw [List.drop_one, List.tail_cons] at same
        subst same
        exact .null leftDerived word (.negated negates isNull)
      · obtain ⟨_, _, nullRead, rfl⟩ := gives.of_bind_ok
        obtain ⟨second, rfl, isNull⟩ := gives_takeKeyword_iff.mp nullRead
        exact .null leftDerived word (.plain isNull)
    · rename_i notOperator notNot notIn notLike notIlike notIs
      obtain ⟨rfl, rfl⟩ := gives.eq_of_ok
      refine .alone leftDerived fun other same => ?_
      obtain rfl : token = other := Option.some.inj same
      refine ⟨notOperator, fun keyword listed found => ?_⟩
      simp only [List.mem_cons, List.not_mem_nil, or_false] at listed
      rcases listed with rfl | rfl | rfl | rfl | rfl
      · exact notNot found
      · exact notIn found
      · exact notLike found
      · exact notIlike found
      · exact notIs found

theorem ofReadList (smaller : Sound source bound) (within : 10 * tokens.length + 2 < bound + 1)
    (gives : Gives (readList source tokens) e rest) : Derives source (.list e) tokens rest := by
  rw [readList] at gives
  obtain ⟨_, inner, shorter, start, gives⟩ := gives.of_bind
  obtain ⟨opening, rfl, opens⟩ := gives_take_iff.mp start
  dsimp only at gives
  rw [source.keyword?_eq] at gives
  split at gives
  · rename_i selects
    obtain ⟨_, _, bodyRead, rfl⟩ := gives.of_bind_ok
    obtain ⟨target, body, rfl, captured⟩ := gives_readSubquery_iff.mp bodyRead
    exact .listedSubquery opens selects captured
  · rename_i other
    obtain ⟨first, middle, _, firstRead, gives⟩ := gives.of_bind
    obtain ⟨more, after, _, moreRead, gives⟩ := gives.of_bind
    obtain ⟨_, _, _, close, gives⟩ := gives.of_bind
    obtain ⟨closing, rfl, closes⟩ := gives_take_iff.mp close
    obtain ⟨rfl, rfl⟩ := gives.eq_of_ok
    exact .listed opens other (smaller (.any first) (by simp only [Form.rank]; omega) firstRead)
      (smaller (.moreItems more) (by simp only [Form.rank]; omega) moreRead) closes

theorem ofReadMoreItems (smaller : Sound source bound)
    (within : 10 * tokens.length + 7 < bound + 1)
    (gives : Gives (readMoreItems source tokens) es rest) :
    Derives source (.moreItems es) tokens rest := by
  rw [readMoreItems.eq_def] at gives
  split at gives
  · rw [List.length_cons] at within
    obtain ⟨next, middle, _, nextRead, gives⟩ := gives.of_bind
    obtain ⟨more, _, moreRead, rfl⟩ := gives.of_bind_ok
    exact .moreItems rfl (smaller (.any next) (by simp only [Form.rank]; omega) nextRead)
      (smaller (.moreItems more) (by simp only [Form.rank]; omega) moreRead)
  · rename_i other
    obtain ⟨rfl, rfl⟩ := gives.eq_of_ok
    refine .noMoreItems fun found => ?_
    cases rest with
    | nil => cases found
    | cons token inner =>
        obtain ⟨lexeme, start, stop⟩ := token
        cases Option.some.inj found
        exact other start stop inner rfl

theorem ofReadItems (smaller : Sound source bound) {bracketed : Bool} {expected : String}
    (within : 10 * tokens.length + 7 < bound + 1)
    (gives : Gives (readItems source (closingMark bracketed) expected tokens) es rest) :
    Derives source (.items bracketed es) tokens rest := by
  rw [readItems] at gives
  split at gives
  · obtain ⟨_, _, _, close, gives⟩ := gives.of_bind
    obtain ⟨token, rfl, closes⟩ := gives_take_iff.mp close
    obtain ⟨rfl, rfl⟩ := gives.eq_of_ok
    exact .noItems closes
  · rename_i other
    obtain ⟨first, middle, _, firstRead, gives⟩ := gives.of_bind
    obtain ⟨more, _, _, moreRead, gives⟩ := gives.of_bind
    obtain ⟨_, _, _, close, gives⟩ := gives.of_bind
    obtain ⟨token, rfl, closes⟩ := gives_take_iff.mp close
    obtain ⟨rfl, rfl⟩ := gives.eq_of_ok
    refine .items (fun found => ?_)
      (smaller (.any first) (by simp only [Form.rank]; omega) firstRead)
      (smaller (.moreItems more) (by simp only [Form.rank]; omega) moreRead) closes
    cases tokens with
    | nil => cases found
    | cons front inner => exact other (Option.some.inj found)

theorem ofReadReference (smaller : Sound source bound)
    (within : 10 * tokens.length + 1 < bound + 1)
    (gives : Gives (readReference source tokens) e rest) :
    Derives source (.primary e) tokens rest := by
  rw [readReference] at gives
  obtain ⟨first, inner, shorter, firstRead, gives⟩ := gives.of_bind
  obtain ⟨token, rfl, named⟩ := gives_readName_iff.mp firstRead
  obtain ⟨more, after, taken, moreRead, gives⟩ := gives.of_bind
  dsimp only at gives taken
  split at gives
  · rw [List.length_cons] at taken
    obtain ⟨arguments, _, argumentsRead, rfl⟩ := gives.of_bind_ok
    exact .call named moreRead rfl
      (smaller (.items Bool.false arguments) (by simp only [Form.rank]; omega) argumentsRead)
  · rename_i other
    obtain ⟨rfl, rfl⟩ := gives.eq_of_ok
    refine .reference named moreRead fun found => ?_
    cases rest with
    | nil => cases found
    | cons front inner =>
        obtain ⟨lexeme, start, stop⟩ := front
        cases Option.some.inj found
        exact other start stop inner rfl

theorem ofReadCast (smaller : Sound source bound) {token : Token}
    (within : 10 * tokens.length + 1 < bound + 1) (casts : token.keyword? = some .cast)
    (gives : Gives (readCast source tokens) e rest) :
    Derives source (.primary e) (token :: tokens) rest := by
  rw [readCast] at gives
  obtain ⟨_, inner, shorter, start, gives⟩ := gives.of_bind
  obtain ⟨opening, rfl, opens⟩ := gives_take_iff.mp start
  obtain ⟨operand, middle, _, operandRead, gives⟩ := gives.of_bind
  have operandDerived := smaller (.any operand) (by simp only [Form.rank]; omega) operandRead
  obtain ⟨_, after, _, asRead, gives⟩ := gives.of_bind
  obtain ⟨as, rfl, isAs⟩ := gives_takeKeyword_iff.mp asRead
  obtain ⟨_, _, _, typeRead, gives⟩ := gives.of_bind
  dsimp only at gives
  split at gives
  · exact absurd gives not_gives_error
  · rename_i typed
    obtain ⟨rfl, rfl⟩ := gives.eq_of_ok
    refine .cast casts opens operandDerived
      isAs (fun found => ?_) typeRead
    cases after with
    | nil => cases found
    | cons front inner => exact typed (Option.some.inj found)

theorem ofReadChoice (smaller : Sound source bound) {token : Token}
    (within : 10 * tokens.length + 9 < bound + 1) (chooses : token.keyword? = some .case)
    (gives : Gives (readChoice source tokens) e rest) :
    Derives source (.primary e) (token :: tokens) rest := by
  rw [readChoice] at gives
  simp only [source.keyword?_eq] at gives
  split at gives
  · rename_i follows
    obtain ⟨⟨branches, otherwise⟩, _, _, bodyRead, gives⟩ := gives.of_bind
    obtain ⟨rfl, rfl⟩ := gives.eq_of_ok
    exact .searched chooses follows
      (smaller (.body branches otherwise) (by simp only [Form.rank]; omega) bodyRead)
  · rename_i other
    obtain ⟨subject, middle, _, subjectRead, gives⟩ := gives.of_bind
    dsimp only at gives
    split at gives
    · exact absurd gives not_gives_error
    · rename_i follows
      obtain ⟨⟨branches, otherwise⟩, _, _, bodyRead, gives⟩ := gives.of_bind
      obtain ⟨rfl, rfl⟩ := gives.eq_of_ok
      exact .simple chooses other
        (smaller (.any subject) (by simp only [Form.rank]; omega) subjectRead)
        (Decidable.not_not.mp follows)
        (smaller (.body branches otherwise) (by simp only [Form.rank]; omega) bodyRead)

theorem ofReadChoiceBody (smaller : Sound source bound) {branches : List (Expr × Expr)}
    {otherwise : Option Expr} (within : 10 * tokens.length + 8 < bound + 1)
    (gives : Gives (readChoiceBody source tokens) (branches, otherwise) rest) :
    Derives source (.body branches otherwise) tokens rest := by
  rw [readChoiceBody] at gives
  obtain ⟨parts, middle, taken, partsRead, gives⟩ := gives.of_bind
  have derived := smaller (.branches parts) (by simp only [Form.rank]; omega) partsRead
  dsimp only at gives
  split at gives
  · exact absurd gives not_gives_error
  · rw [List.length_cons] at taken
    split at gives
    · rename_i isElse
      obtain ⟨last, _, _, lastRead, gives⟩ := gives.of_bind
      obtain ⟨_, _, _, close, gives⟩ := gives.of_bind
      obtain ⟨ending, rfl, ends⟩ := gives_takeKeyword_iff.mp close
      obtain ⟨same, rfl⟩ := gives.eq_of_ok
      cases same
      exact .otherwise derived isElse
        (smaller (.any last) (by simp only [Form.rank]; omega) lastRead) ends
    · rename_i ends
      obtain ⟨same, rfl⟩ := gives.eq_of_ok
      cases same
      exact .ended derived ends
    · exact absurd gives not_gives_error

theorem ofReadBranches (smaller : Sound source bound) {branches : List (Expr × Expr)}
    (within : 10 * tokens.length + 7 < bound + 1)
    (gives : Gives (readBranches source tokens) branches rest) :
    Derives source (.branches branches) tokens rest := by
  cases tokens with
  | nil =>
      rw [readBranches] at gives
      obtain ⟨rfl, rfl⟩ := gives.eq_of_ok
      exact .noBranches (by simp [firstKeyword])
  | cons token inner =>
      rw [List.length_cons] at within
      rw [readBranches] at gives
      split at gives
      · rename_i found
        obtain ⟨key, middle, shorter, keyRead, gives⟩ := gives.of_bind
        obtain ⟨_, _, _, thenRead, gives⟩ := gives.of_bind
        obtain ⟨next, rfl, isThen⟩ := gives_takeKeyword_iff.mp thenRead
        rw [List.length_cons] at shorter
        dsimp only at gives
        obtain ⟨outcome, after, _, outcomeRead, gives⟩ := gives.of_bind
        obtain ⟨more, _, moreRead, rfl⟩ := gives.of_bind_ok
        exact .branches found (smaller (.any key) (by simp only [Form.rank]; omega) keyRead) isThen
          (smaller (.any outcome) (by simp only [Form.rank]; omega) outcomeRead)
          (smaller (.branches more) (by simp only [Form.rank]; omega) moreRead)
      · rename_i other
        obtain ⟨rfl, rfl⟩ := gives.eq_of_ok
        exact .noBranches other

theorem ofReadPrimary (smaller : Sound source bound)
    (within : 10 * tokens.length + 2 < bound + 1)
    (gives : Gives (readPrimary source tokens) e rest) :
    Derives source (.primary e) tokens rest := by
  cases tokens with
  | nil =>
      rw [readPrimary] at gives
      exact absurd gives not_gives_error
  | cons token inner =>
      have size : (token :: inner).length = inner.length + 1 := rfl
      rw [readPrimary] at gives
      simp only [source.keyword?_eq] at gives
      split at gives
      · rename_i opens
        split at gives
        · rename_i selects
          obtain ⟨_, _, bodyRead, rfl⟩ := gives.of_bind_ok
          obtain ⟨target, body, rfl, captured⟩ := gives_readSubquery_iff.mp bodyRead
          exact .subquery opens selects captured
        · rename_i other
          obtain ⟨_, _, _, innerRead, gives⟩ := gives.of_bind
          obtain ⟨_, _, _, close, gives⟩ := gives.of_bind
          obtain ⟨closing, rfl, closes⟩ := gives_take_iff.mp close
          obtain ⟨rfl, rfl⟩ := gives.eq_of_ok
          exact .parenthesised opens other
            (smaller (.any _) (by simp only [Form.rank]; omega) innerRead) closes
      · rename_i content found
        obtain ⟨rfl, rfl⟩ := gives.eq_of_ok
        exact .literal (congrArg literal? found)
      · rename_i n found
        obtain ⟨rfl, rfl⟩ := gives.eq_of_ok
        exact .literal (congrArg literal? found)
      · rename_i d found
        obtain ⟨rfl, rfl⟩ := gives.eq_of_ok
        exact .literal (congrArg literal? found)
      · rename_i minus
        split at gives
        · rename_i positive number
          obtain ⟨_, ended⟩ := gives
          obtain ⟨value, negation, ended⟩ := except_bind_eq_ok ended
          cases ended
          cases inner with
          | nil => cases number
          | cons second inner => exact .negative minus number negation
        · exact absurd gives not_gives_error
      · exact smaller.ofReadReference (by omega) gives
      · exact smaller.ofReadReference (by omega) gives
      · rename_i found _ _ _ _ _ _
        obtain ⟨rfl, rfl⟩ := gives.eq_of_ok
        exact .constant found rfl
      · rename_i found _ _ _ _ _ _
        obtain ⟨rfl, rfl⟩ := gives.eq_of_ok
        exact .constant found rfl
      · rename_i found _ _ _ _ _ _
        obtain ⟨rfl, rfl⟩ := gives.eq_of_ok
        exact .constant found rfl
      · rename_i found _ _ _ _ _ _
        obtain ⟨_, _, testRead, rfl⟩ := gives.of_bind_ok
        obtain ⟨opening, _, target, body, rfl, opens, rfl, filled, captured⟩ :=
          gives_readExistence_iff.mp testRead
        exact .existence found opens captured filled
      · rename_i found _ _ _ _ _ _
        obtain ⟨_, _, choiceRead, rfl⟩ := gives.of_bind_ok
        exact smaller.ofReadChoice (by omega) found choiceRead
      · rename_i found _ _ _ _ _ _
        split at gives
        · obtain ⟨_, _, castRead, rfl⟩ := gives.of_bind_ok
          exact smaller.ofReadCast (by omega) found castRead
        · exact absurd gives not_gives_error
      · rename_i found _ _ _ _ _ _
        obtain ⟨_, _, _, start, gives⟩ := gives.of_bind
        obtain ⟨opening, rfl, opens⟩ := gives_take_iff.mp start
        obtain ⟨items, _, itemsRead, rfl⟩ := gives.of_bind_ok
        exact .array found opens
          (smaller (.items Bool.true items) (by simp only [Form.rank]; omega) itemsRead)
      · exact absurd gives not_gives_error

end Sound

theorem sound (source : Source) (bound : Nat) : Sound source bound := by
  induction bound with
  | zero => exact fun form tokens rest within => absurd within (Nat.not_lt_zero _)
  | succ bound smaller =>
      intro form tokens rest within gives
      cases form with
      | any => exact smaller.ofReadAny within gives
      | moreAny => exact smaller.ofReadMoreAny within gives
      | all => exact smaller.ofReadAll within gives
      | moreAll => exact smaller.ofReadMoreAll within gives
      | not => exact smaller.ofReadNot within gives
      | condition => exact smaller.ofReadCondition within gives
      | primary => exact smaller.ofReadPrimary within gives
      | list => exact smaller.ofReadList within gives
      | moreItems => exact smaller.ofReadMoreItems within gives
      | items => exact smaller.ofReadItems within gives
      | body => exact smaller.ofReadChoiceBody within gives
      | branches => exact smaller.ofReadBranches within gives

end Soundness

end Expr

end RowGuard
