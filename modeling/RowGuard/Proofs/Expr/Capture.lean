import RowGuard.Proofs.Expr.Soundness

/-! What is passed over without being read: the body of a subquery, the type of a
cast and the parts of a dotted name. Each is passed over by its lexemes alone, up
to the parenthesis that closes it or the token that does not go on with it, so
the same lexemes are passed over in any other text. -/

set_option autoImplicit false

namespace RowGuard

namespace Expr

abbrev lexemes (tokens : List Token) : List Lexeme :=
  tokens.map Token.lexeme

section Passing

variable {source source' : Source} {inside inside' rest rest' : List Token}
  {closing closing' : Token}

theorem keyword?_congr {token token' : Token} (same : token'.lexeme = token.lexeme) :
    token'.keyword? = token.keyword? := by
  unfold Token.keyword?
  rw [same]

theorem anyName?_congr {token token' : Token} (same : token'.lexeme = token.lexeme) :
    anyName? token' = anyName? token := by
  unfold anyName?
  rw [same]

theorem anyName?_rightParen (closes : closing.lexeme = .rightParen) : anyName? closing = none := by
  unfold anyName?
  rw [closes]

theorem readTarget_unnamed {token : Token} (unnamed : anyName? token = none)
    (last : Option String) (rest : List Token) :
    (readTarget last (token :: rest)).1 = last ∧
      (readTarget last (token :: rest)).2.val = token :: rest := by
  rw [readTarget.eq_def]
  simp [unnamed]

theorem readTarget_dotted {token dot : Token} {name : String} (named : anyName? token = some name)
    (dotted : dot.lexeme = .dot) (last : Option String) (rest : List Token) :
    (readTarget last (token :: dot :: rest)).1 = (readTarget (some name) rest).1 ∧
      (readTarget last (token :: dot :: rest)).2.val = (readTarget (some name) rest).2.val := by
  obtain ⟨lexeme, start, stop⟩ := dot
  cases dotted
  rw [readTarget.eq_def]
  simp [named]

theorem readTarget_named {token : Token} {name : String} (named : anyName? token = some name)
    (undotted : firstLexeme rest ≠ some .dot) (last : Option String) :
    (readTarget last (token :: rest)).1 = some name ∧
      (readTarget last (token :: rest)).2.val = rest := by
  rw [readTarget.eq_def]
  simp only [named]
  split
  · exact absurd rfl undotted
  · exact ⟨rfl, rfl⟩

theorem ne_finish_of_anyName? {token : Token} {name : String} (named : anyName? token = some name) :
    token.lexeme ≠ .finish := by
  intro ends
  unfold anyName? at named
  rw [ends] at named
  cases named

theorem readTarget_congr (last : Option String) (same : lexemes inside' = lexemes inside)
    (closes : closing.lexeme = .rightParen) (closes' : closing'.lexeme = .rightParen)
    (rest rest' : List Token) :
    ∃ left left', (readTarget last (inside ++ closing :: rest)).2.val = left ++ closing :: rest ∧
      (readTarget last (inside' ++ closing' :: rest')).2.val = left' ++ closing' :: rest' ∧
      (readTarget last (inside' ++ closing' :: rest')).1 =
        (readTarget last (inside ++ closing :: rest)).1 ∧
      lexemes left' = lexemes left ∧ left.length ≤ inside.length ∧
      ∀ token ∈ inside, token ∈ left ∨ token.lexeme ≠ .finish := by
  induction length : inside.length using Nat.strongRecOn generalizing last inside inside' with
  | ind n ih =>
      subst length
      cases inside with
      | nil =>
          obtain rfl := List.map_eq_nil_iff.mp same
          obtain ⟨first, second⟩ := readTarget_unnamed (anyName?_rightParen closes) last rest
          obtain ⟨first', second'⟩ := readTarget_unnamed (anyName?_rightParen closes') last rest'
          exact ⟨[], [], second, second', first'.trans first.symm, rfl, Nat.le_refl _, by simp⟩
      | cons token inner =>
          obtain ⟨token', inner', rfl, front, more⟩ := List.map_eq_cons_iff.mp same
          cases named : anyName? token with
          | none =>
              have named' := (anyName?_congr front).trans named
              obtain ⟨first, second⟩ := readTarget_unnamed named last (inner ++ closing :: rest)
              obtain ⟨first', second'⟩ :=
                readTarget_unnamed named' last (inner' ++ closing' :: rest')
              exact ⟨token :: inner, token' :: inner', second, second', first'.trans first.symm,
                same, Nat.le_refl _, fun _ member => .inl member⟩
          | some name =>
              have named' := (anyName?_congr front).trans named
              have ended := ne_finish_of_anyName? named
              by_cases dotted : firstLexeme (inner ++ closing :: rest) = some .dot
              · cases inner with
                | nil =>
                    rw [List.nil_append, firstLexeme_cons, closes] at dotted
                    cases dotted
                | cons dot inner =>
                    obtain ⟨dot', inner', rfl, second, more⟩ := List.map_eq_cons_iff.mp more
                    have isDot : dot.lexeme = .dot := Option.some.inj dotted
                    obtain ⟨left, left', leftEq, leftEq', targets, same, fewer, unfinished⟩ :=
                      ih inner.length (by simp only [List.length_cons]; omega) (some name) more rfl
                    obtain ⟨first, last_⟩ :=
                      readTarget_dotted named isDot last (inner ++ closing :: rest)
                    obtain ⟨first', last'⟩ := readTarget_dotted named' (second.trans isDot) last
                      (inner' ++ closing' :: rest')
                    refine ⟨left, left', last_.trans leftEq, last'.trans leftEq',
                      first'.trans (targets.trans first.symm), same, by simp; omega, ?_⟩
                    intro token member
                    rcases List.mem_cons.mp member with rfl | member
                    · exact .inr ended
                    rcases List.mem_cons.mp member with rfl | member
                    · exact .inr (by simp [isDot])
                    · exact unfinished token member
              · have dotted' : firstLexeme (inner' ++ closing' :: rest') ≠ some .dot := by
                  cases inner with
                  | nil =>
                      obtain rfl := List.map_eq_nil_iff.mp more
                      simp [closes']
                  | cons next inner =>
                      obtain ⟨next', inner', rfl, second, _⟩ := List.map_eq_cons_iff.mp more
                      rwa [List.cons_append, firstLexeme_cons, second]
                obtain ⟨first, last_⟩ := readTarget_named named dotted last
                obtain ⟨first', last'⟩ := readTarget_named named' dotted' last
                refine ⟨inner, inner', last_, last', first'.trans first.symm, more, by simp, ?_⟩
                intro token member
                rcases List.mem_cons.mp member with rfl | member
                · exact .inr ended
                · exact .inl member

theorem readTarget_suffix : ∀ (last : Option String) (tokens : List Token),
    (readTarget last tokens).2.val <:+ tokens
  | last, [] => by rw [readTarget.eq_def]
  | last, token :: tokens => by
      cases named : anyName? token with
      | none => rw [(readTarget_unnamed named last tokens).2]
      | some name =>
          by_cases dotted : firstLexeme tokens = some .dot
          · match tokens, dotted with
            | dot :: tokens, dotted =>
                rw [(readTarget_dotted named (Option.some.inj dotted) last tokens).2]
                exact (readTarget_suffix (some name) tokens).trans
                  ((List.suffix_cons _ _).trans (List.suffix_cons _ _))
          · rw [(readTarget_named named dotted last).2]
            exact List.suffix_cons _ _
termination_by _ tokens => tokens.length

/-- Whether the first `FROM` of a subquery stands at a token. -/
def namesTarget (depth : Nat) (target : Option String) (token : Token) : Bool :=
  target.isNone && depth == 0 && token.keyword? == some .from

/-- The ways in which a subquery is passed over from a token on. -/
inductive CaptureStep (source : Source) (depth : Nat) (target : Option String) (token : Token)
    (tokens : List Token) : Nat × Option String → List Token → Prop where
  | opens {value : Nat × Option String} {rest : List Token} : token.lexeme = .leftParen →
      Gives (readCapture source (depth + 1) target tokens) value rest →
      CaptureStep source depth target token tokens value rest
  | ends : token.lexeme = .rightParen → depth = 0 →
      CaptureStep source depth target token tokens (token.start, target) tokens
  | closes {outer : Nat} {value : Nat × Option String} {rest : List Token} :
      token.lexeme = .rightParen → depth = outer + 1 →
      Gives (readCapture source outer target tokens) value rest →
      CaptureStep source depth target token tokens value rest
  | names {value : Nat × Option String} {rest : List Token} :
      token.lexeme ∉ [Lexeme.leftParen, .rightParen, .finish] →
      namesTarget depth target token = Bool.true →
      Gives (readCapture source depth (readTarget none tokens).1 (readTarget none tokens).2.val)
        value rest →
      CaptureStep source depth target token tokens value rest
  | passes {value : Nat × Option String} {rest : List Token} :
      token.lexeme ∉ [Lexeme.leftParen, .rightParen, .finish] →
      namesTarget depth target token = Bool.false →
      Gives (readCapture source depth target tokens) value rest →
      CaptureStep source depth target token tokens value rest

theorem captureStep_iff {depth : Nat} {target : Option String} {token : Token}
    {tokens : List Token} {value : Nat × Option String} :
    Gives (readCapture source depth target (token :: tokens)) value rest ↔
      CaptureStep source depth target token tokens value rest := by
  constructor
  · intro gives
    rw [readCapture.eq_def] at gives
    dsimp only at gives
    split at gives
    · exact absurd gives not_gives_error
    · rename_i opens
      obtain ⟨_, _, more, rfl⟩ := gives.of_bind_ok
      exact .opens opens more
    · rename_i closes
      split at gives
      · obtain ⟨rfl, rfl⟩ := gives.eq_of_ok
        exact .ends closes rfl
      · obtain ⟨_, _, more, rfl⟩ := gives.of_bind_ok
        exact .closes closes rfl more
    · rename_i notFinish notLeft notRight
      have plain : token.lexeme ∉ [Lexeme.leftParen, .rightParen, .finish] := by
        simp only [List.mem_cons, List.not_mem_nil, or_false, not_or]
        exact ⟨notLeft, notRight, notFinish⟩
      split at gives
      · rename_i names
        obtain ⟨_, _, more, rfl⟩ := gives.of_bind_ok
        exact .names plain names more
      · rename_i other
        obtain ⟨_, _, more, rfl⟩ := gives.of_bind_ok
        exact .passes plain (Bool.eq_false_iff.mpr other) more
  · intro step
    rw [readCapture.eq_def]
    cases step with
    | opens opens more =>
        simp only [opens]
        exact more.bind fun _ => gives_ok _
    | ends closes outermost =>
        subst outermost
        simp only [closes]
        exact gives_ok _
    | closes closes inner more =>
        subst inner
        simp only [closes]
        exact more.bind fun _ => gives_ok _
    | names plain names more =>
        simp only [List.mem_cons, List.not_mem_nil, or_false, not_or] at plain
        dsimp only
        split
        · exact absurd ‹_› plain.2.2
        · exact absurd ‹_› plain.1
        · exact absurd ‹_› plain.2.1
        · rw [namesTarget] at names
          rw [if_pos names]
          exact more.bind fun _ => gives_ok _
    | passes plain other more =>
        simp only [List.mem_cons, List.not_mem_nil, or_false, not_or] at plain
        dsimp only
        split
        · exact absurd ‹_› plain.2.2
        · exact absurd ‹_› plain.1
        · exact absurd ‹_› plain.2.1
        · rw [namesTarget] at other
          rw [if_neg (Bool.eq_false_iff.mp other)]
          exact more.bind fun _ => gives_ok _

/-- A subquery is passed over up to its closing parenthesis, and so it is wherever it stands. -/
theorem readCapture_split {depth stop : Nat} {target found : Option String} {tokens : List Token}
    (gives : Gives (readCapture source depth target tokens) (stop, found) rest) :
    ∃ inside closing, tokens = inside ++ closing :: rest ∧ closing.lexeme = .rightParen ∧
      closing.start = stop ∧ (∀ token ∈ inside, token.lexeme ≠ .finish) ∧
      ∀ (source' : Source) (inside' : List Token) (closing' : Token) (rest' : List Token),
        lexemes inside' = lexemes inside → closing'.lexeme = .rightParen →
        Gives (readCapture source' depth target (inside' ++ closing' :: rest'))
          (closing'.start, found) rest' := by
  induction length : tokens.length using Nat.strongRecOn generalizing depth target tokens with
  | ind n ih =>
      subst length
      cases tokens with
      | nil =>
          rw [readCapture] at gives
          exact absurd gives not_gives_error
      | cons token tokens =>
          cases captureStep_iff.mp gives with
          | opens opens more =>
              obtain ⟨inside, closing, rfl, closes, starts, unfinished, again⟩ :=
                ih tokens.length (Nat.lt_succ_self _) more rfl
              refine ⟨token :: inside, closing, rfl, closes, starts,
                List.forall_mem_cons.mpr ⟨by simp [opens], unfinished⟩, ?_⟩
              intro source' inside' closing' rest' same closes'
              obtain ⟨token', inner', rfl, front, same⟩ := List.map_eq_cons_iff.mp same
              exact captureStep_iff.mpr (.opens (front.trans opens)
                (again source' inner' closing' rest' same closes'))
          | ends closes outermost =>
              refine ⟨[], token, rfl, closes, rfl, by simp, ?_⟩
              intro source' inside' closing' rest' same closes'
              obtain rfl := List.map_eq_nil_iff.mp same
              exact captureStep_iff.mpr (.ends closes' outermost)
          | closes closes inner more =>
              obtain ⟨inside, closing, rfl, closes', starts, unfinished, again⟩ :=
                ih tokens.length (Nat.lt_succ_self _) more rfl
              refine ⟨token :: inside, closing, rfl, closes', starts,
                List.forall_mem_cons.mpr ⟨by simp [closes], unfinished⟩, ?_⟩
              intro source' inside' closing' rest' same closes'
              obtain ⟨token', inner', rfl, front, same⟩ := List.map_eq_cons_iff.mp same
              exact captureStep_iff.mpr (.closes (front.trans closes) inner
                (again source' inner' closing' rest' same closes'))
          | names plain names more =>
              -- The name after `FROM` is passed over too; what is left of it is shorter.
              obtain ⟨skipped, parts⟩ := readTarget_suffix none tokens
              have shorter : (readTarget none tokens).2.val.length < tokens.length + 1 :=
                Nat.lt_succ_of_le (readTarget none tokens).2.property
              obtain ⟨inside, closing, leftEq, closes, starts, unfinished, again⟩ :=
                ih _ shorter more rfl
              rw [leftEq, ← List.append_assoc] at parts
              subst parts
              have passed : ∀ token ∈ skipped ++ inside, token.lexeme ≠ .finish := by
                obtain ⟨left, _, leftEq', _, _, _, _, each⟩ := readTarget_congr none
                  (rfl : lexemes (skipped ++ inside) = _) closes closes rest rest
                obtain rfl := List.append_cancel_right (leftEq'.symm.trans leftEq)
                exact fun token member => (each token member).elim (unfinished token) id
              have unfinished' : token.lexeme ≠ .finish := fun ends => plain (by simp [ends])
              refine ⟨token :: (skipped ++ inside), closing, rfl, closes, starts,
                List.forall_mem_cons.mpr ⟨unfinished', passed⟩, ?_⟩
              intro source' inside' closing' rest' same closes'
              obtain ⟨token', inner', rfl, front, same⟩ := List.map_eq_cons_iff.mp same
              obtain ⟨left, left', leftEq', leftEq'', targets, sameLeft, _, _⟩ :=
                readTarget_congr none same closes closes' rest rest'
              obtain rfl := List.append_cancel_right (leftEq'.symm.trans leftEq)
              rw [List.cons_append]
              refine captureStep_iff.mpr (.names (by rwa [front]) ?_ ?_)
              · rwa [namesTarget, keyword?_congr front]
              · rw [leftEq'', targets]
                exact again source' left' closing' rest' sameLeft closes'
          | passes plain other more =>
              obtain ⟨inside, closing, rfl, closes, starts, unfinished, again⟩ :=
                ih tokens.length (Nat.lt_succ_self _) more rfl
              have unfinished' : token.lexeme ≠ .finish := fun ends => plain (by simp [ends])
              refine ⟨token :: inside, closing, rfl, closes, starts,
                List.forall_mem_cons.mpr ⟨unfinished', unfinished⟩, ?_⟩
              intro source' inside' closing' rest' same closes'
              obtain ⟨token', inner', rfl, front, same⟩ := List.map_eq_cons_iff.mp same
              refine captureStep_iff.mpr (.passes (by rwa [front]) ?_
                (again source' inner' closing' rest' same closes'))
              rwa [namesTarget, keyword?_congr front]

theorem gives_readBody_iff {target : Option String} {body : String} {tokens : List Token} :
    Gives (readBody source tokens) (target, body) rest ↔
      ∃ stop, Gives (readCapture source 0 none tokens) (stop, target) rest ∧
        body = String.ofList (Text.trim (source.slice (source.front tokens).start stop)) := by
  constructor
  · intro gives
    obtain ⟨⟨stop, found⟩, _, _, captured, gives⟩ := gives.of_bind
    obtain ⟨same, rfl⟩ := gives.eq_of_ok
    cases same
    exact ⟨stop, captured, rfl⟩
  · rintro ⟨stop, captured, rfl⟩
    exact captured.bind fun _ => gives_ok _

theorem readCastType_split {depth : Nat} {tokens : List Token}
    (gives : Gives (readCastType source depth tokens) () rest) :
    ∃ inside closing, tokens = inside ++ closing :: rest ∧ closing.lexeme = .rightParen ∧
      (∀ token ∈ inside, token.lexeme ≠ .finish) ∧
      ∀ (source' : Source) (inside' : List Token) (closing' : Token) (rest' : List Token),
        lexemes inside' = lexemes inside → closing'.lexeme = .rightParen →
        Gives (readCastType source' depth (inside' ++ closing' :: rest')) () rest' := by
  induction tokens generalizing depth with
  | nil =>
      rw [readCastType] at gives
      exact absurd gives not_gives_error
  | cons token tokens ih =>
      rw [readCastType.eq_def] at gives
      dsimp only at gives
      split at gives
      · exact absurd gives not_gives_error
      · rename_i opens
        obtain ⟨_, _, more, _⟩ := gives.of_bind_ok
        obtain ⟨inside, closing, rfl, closes, unfinished, again⟩ := ih more
        refine ⟨token :: inside, closing, rfl, closes,
          List.forall_mem_cons.mpr ⟨by simp [opens], unfinished⟩, ?_⟩
        intro source' inside' closing' rest' same closes'
        obtain ⟨token', inner', rfl, front, same⟩ := List.map_eq_cons_iff.mp same
        rw [List.cons_append, readCastType.eq_def]
        simp only [front.trans opens]
        exact (again source' inner' closing' rest' same closes').bind fun _ => gives_ok _
      · rename_i closes
        split at gives
        · obtain ⟨_, rfl⟩ := gives.eq_of_ok
          refine ⟨[], token, rfl, closes, by simp, ?_⟩
          intro source' inside' closing' rest' same closes'
          obtain rfl := List.map_eq_nil_iff.mp same
          rw [List.nil_append, readCastType]
          simp only [closes']
          exact gives_ok _
        · obtain ⟨_, _, more, _⟩ := gives.of_bind_ok
          obtain ⟨inside, closing, rfl, closes', unfinished, again⟩ := ih more
          refine ⟨token :: inside, closing, rfl, closes',
            List.forall_mem_cons.mpr ⟨by simp [closes], unfinished⟩, ?_⟩
          intro source' inside' closing' rest' same closes'
          obtain ⟨token', inner', rfl, front, same⟩ := List.map_eq_cons_iff.mp same
          rw [List.cons_append, readCastType.eq_def]
          simp only [front.trans closes]
          exact (again source' inner' closing' rest' same closes').bind fun _ => gives_ok _
      · rename_i notFinish notLeft notRight
        obtain ⟨_, _, more, _⟩ := gives.of_bind_ok
        obtain ⟨inside, closing, rfl, closes, unfinished, again⟩ := ih more
        refine ⟨token :: inside, closing, rfl, closes,
          List.forall_mem_cons.mpr ⟨notFinish, unfinished⟩, ?_⟩
        intro source' inside' closing' rest' same closes'
        obtain ⟨token', inner', rfl, front, same⟩ := List.map_eq_cons_iff.mp same
        rw [List.cons_append, readCastType.eq_def]
        simp only [front]
        exact (again source' inner' closing' rest' same closes').bind fun _ => gives_ok _

inductive Parts : List String → List Token → Prop where
  | nil : Parts [] []
  | cons {dot token : Token} {tokens : List Token} {name : String} {more : List String} :
      dot.lexeme = .dot → name? token = some name → Parts more tokens →
      Parts (name :: more) (dot :: token :: tokens)

theorem gives_readParts_iff {more : List String} {tokens : List Token} :
    Gives (readParts source tokens) more rest ↔
      ∃ inside, tokens = inside ++ rest ∧ Parts more inside ∧ firstLexeme rest ≠ some .dot := by
  constructor
  · intro gives
    induction length : tokens.length using Nat.strongRecOn generalizing tokens more with
    | ind n ih =>
        subst length
        rw [readParts.eq_def] at gives
        split at gives
        · obtain ⟨name, _, shorter, nameRead, gives⟩ := gives.of_bind
          obtain ⟨token, rfl, named⟩ := gives_readName_iff.mp nameRead
          obtain ⟨parts, _, partsRead, rfl⟩ := gives.of_bind_ok
          obtain ⟨inside, same, each, undotted⟩ :=
            ih _ (by simp only [List.length_cons]; omega) partsRead rfl
          dsimp only at same
          subst same
          exact ⟨_, rfl, .cons rfl named each, undotted⟩
        · rename_i undotted
          obtain ⟨rfl, rfl⟩ := gives.eq_of_ok
          refine ⟨[], rfl, .nil, fun dotted => ?_⟩
          cases rest with
          | nil => cases dotted
          | cons token rest =>
              obtain ⟨lexeme, start, stop⟩ := token
              cases Option.some.inj dotted
              exact undotted start stop rest rfl
  · rintro ⟨inside, rfl, each, undotted⟩
    induction each with
    | nil =>
        rw [List.nil_append, readParts.eq_def]
        split
        · exact absurd rfl undotted
        · exact gives_ok _
    | @cons dot token _ _ _ dotted named _ ih =>
        obtain ⟨lexeme, start, stop⟩ := dot
        cases dotted
        rw [List.cons_append, List.cons_append, readParts]
        exact (gives_readName_iff.mpr ⟨token, rfl, named⟩).bind fun _ =>
          ih.bind fun _ => gives_ok _

end Passing

end Expr

end RowGuard
