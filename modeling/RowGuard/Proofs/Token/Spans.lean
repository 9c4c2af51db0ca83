import RowGuard.Proofs.Token.Faults

/-! Where tokens stand. The tokens of a text stand one behind the other, in spans
that are not empty, and the end of the text comes last. What a rule takes for a
token it takes alone too, so scanning the span of a token finds that token and
nothing else. -/

set_option autoImplicit false

namespace RowGuard

namespace Token

/-! ## What a rule takes, alone -/

section Alone

variable {c quote : Char} {cs taken after content : List Char} {lexeme : Lexeme}

theorem unquote_alone (read : unquote quote cs = some (content, after)) :
    ∃ taken, cs = taken ++ after ∧ unquote quote taken = some (content, []) := by
  fun_induction unquote quote cs generalizing content with
  | case1 | case3 => cases read
  | case2 c closes =>
      cases read
      exact ⟨[c], rfl, if_pos closes⟩
  | case4 c d rest closes doubled ih =>
      obtain ⟨_, innerRead, same⟩ := Option.map_eq_some_iff.mp read
      cases same
      obtain ⟨taken, rfl, alone⟩ := ih innerRead
      exact ⟨c :: d :: taken, rfl, by simp [unquote, closes, doubled, alone]⟩
  | case5 c d rest closes single =>
      cases read
      exact ⟨[c], rfl, if_pos closes⟩
  | case6 c d rest other ih =>
      obtain ⟨_, innerRead, same⟩ := Option.map_eq_some_iff.mp read
      cases same
      obtain ⟨taken, parts, alone⟩ := ih innerRead
      cases taken with
      | nil => cases alone
      | cons e taken => exact ⟨c :: e :: taken, by rw [parts]; rfl, by simp [unquote, other, alone]⟩

theorem takeWhile_isDigit_of_digits (digits : ∀ c ∈ cs, Text.isDigit c)
    (stops : ∀ c ∈ after.head?, Text.isDigit c = false) :
    (cs ++ after).takeWhile Text.isDigit = cs ∧ (cs ++ after).dropWhile Text.isDigit = after := by
  rw [takeWhile_append_of_stops stops, dropWhile_append_of_stops stops,
    List.takeWhile_eq_self_iff.mpr digits, List.dropWhile_eq_nil_iff.mpr digits]
  exact ⟨rfl, rfl⟩

theorem takeFraction_alone (cs : List Char) :
    takeFraction (takeFraction cs).1 = ((takeFraction cs).1, []) := by
  generalize read : takeFraction cs = parts
  unfold takeFraction at read
  split at read
  · rename_i rest
    split at read
    · cases read
      rfl
    · rename_i filled
      cases read
      have digits : ∀ c ∈ rest.takeWhile Text.isDigit, Text.isDigit c :=
        fun c => List.mem_takeWhile_imp
      rw [takeFraction, List.takeWhile_eq_self_iff.mpr digits,
        List.dropWhile_eq_nil_iff.mpr digits]
      split
      · exact absurd ‹_› filled
      · rfl
  · cases read
    rfl

theorem takeExponent_of_isExponent {part : Option (List Char)} (isExponent : IsExponent cs part) :
    takeExponent cs = (cs, []) := by
  cases isExponent with
  | none => rfl
  | @digits mark sign run isMark isSign filled digits =>
      have marks : (mark == 'e' || mark == 'E') = true := by simpa using isMark
      have taken : run.takeWhile Text.isDigit = run := List.takeWhile_eq_self_iff.mpr digits
      have nothing : run.dropWhile Text.isDigit = [] := List.dropWhile_eq_nil_iff.mpr digits
      obtain ⟨d, run, rfl⟩ := List.exists_cons_of_ne_nil filled
      have plus := ne_of_isDigit (d := '+') (digits d List.mem_cons_self) (by decide)
      have minus := ne_of_isDigit (d := '-') (digits d List.mem_cons_self) (by decide)
      rcases isSign with rfl | rfl | rfl
      · simp [takeExponent, marks, plus, minus, taken, nothing]
      · simp [takeExponent, marks, taken, nothing]
      · simp [takeExponent, marks, taken, nothing]

theorem IsFraction.stops {fraction exponent places : List Char} {part : Option (List Char)}
    (isFraction : IsFraction fraction places) (isExponent : IsExponent exponent part) :
    ∀ c ∈ (fraction ++ exponent).head?, Text.isDigit c = false := by
  cases isFraction with
  | none =>
      cases isExponent with
      | none => nofun
      | digits isMark =>
          rintro _ ⟨⟩
          rcases isMark with rfl | rfl <;> decide
  | digits =>
      rintro _ ⟨⟩
      decide

theorem IsExponent.stops {exponent : List Char} {part : Option (List Char)}
    (isExponent : IsExponent exponent part) :
    ∀ c ∈ exponent.head?, Text.isDigit c = false ∧ c ≠ '.' := by
  cases isExponent with
  | none => nofun
  | digits isMark =>
      rintro _ ⟨⟩
      rcases isMark with rfl | rfl <;> decide

/-- What the parts of a number are converted to. -/
def converted (whole fraction exponent : List Char) : Except ReadError Lexeme :=
  if fraction.isEmpty && exponent.isEmpty then (integer whole).map .integer
  else match Decimal.ofLexeme? false (whole ++ fraction ++ exponent) with
    | .ok d => .ok (.decimal d)
    | .error fault => .error (.decimal fault)

theorem number_eq_converted {whole fraction exponent behind : List Char}
    (digits : cs.takeWhile Text.isDigit = whole)
    (point : takeFraction (cs.dropWhile Text.isDigit) = (fraction, behind))
    (mark : takeExponent behind = (exponent, after)) :
    number cs = (converted whole fraction exponent).map fun lexeme => (lexeme, after) := by
  unfold number converted
  rw [digits, point]
  dsimp only
  rw [mark]
  dsimp only
  split
  · cases integer whole <;> rfl
  · cases Decimal.ofLexeme? false (whole ++ fraction ++ exponent) <;> rfl

theorem number_alone (read : number cs = .ok (lexeme, after)) :
    ∃ taken, cs = taken ++ after ∧ number taken = .ok (lexeme, []) := by
  obtain ⟨fraction, behind, point⟩ : ∃ fraction behind,
    takeFraction (cs.dropWhile Text.isDigit) = (fraction, behind) := ⟨_, _, rfl⟩
  obtain ⟨exponent, left, mark⟩ : ∃ exponent left, takeExponent behind = (exponent, left) :=
    ⟨_, _, rfl⟩
  have digits : ∀ c ∈ cs.takeWhile Text.isDigit, Text.isDigit c := fun c => List.mem_takeWhile_imp
  obtain ⟨places, isFraction⟩ := isFraction_takeFraction (cs.dropWhile Text.isDigit)
  obtain ⟨part, isExponent⟩ := isExponent_takeExponent behind
  have alone := takeFraction_alone (cs.dropWhile Text.isDigit)
  have inner := takeFraction_append_eq (cs.dropWhile Text.isDigit)
  have outer := takeExponent_append_eq behind
  rw [point] at isFraction alone inner
  rw [mark] at isExponent outer
  dsimp only at isFraction alone inner isExponent outer
  rw [number_eq_converted rfl point mark] at read
  obtain ⟨_, conversion, same⟩ := except_map_eq_ok read
  cases same
  refine ⟨cs.takeWhile Text.isDigit ++ (fraction ++ exponent), ?_, ?_⟩
  · rw [List.append_assoc, List.append_assoc, outer, inner, List.takeWhile_append_dropWhile]
  · obtain ⟨taken, rest⟩ := takeWhile_isDigit_of_digits digits (isFraction.stops isExponent)
    have pointAlone : takeFraction (fraction ++ exponent) = (fraction, exponent) := by
      rw [takeFraction_append isExponent.stops, alone, List.nil_append]
    rw [← rest] at pointAlone
    rw [number_eq_converted taken pointAlone (takeExponent_of_isExponent isExponent), conversion]
    rfl

/-- The operator that a text begins with is the one that its characters alone begin with. -/
theorem operatorAt_alone {rest : List Char}
    (parts : (c :: rest).take (operatorAt c rest).length = c :: taken) :
    operatorAt c taken = operatorAt c rest := by
  have first : ∀ symbol ∈ longOperators,
      longOperators.find? (fun other => other.toList.isPrefixOf symbol.toList) = some symbol := by
    decide
  have long : ∀ symbol ∈ longOperators, 1 < symbol.length := by decide
  rw [operatorAt] at parts ⊢
  cases found : longOperators.find? fun symbol => symbol.toList.isPrefixOf (c :: rest) with
  | some symbol =>
      have begins := List.find?_some
        (p := fun symbol : String => symbol.toList.isPrefixOf (c :: rest)) found
      rw [found, Option.getD_some, ← String.length_toList,
        ← List.prefix_iff_eq_take.mp (List.isPrefixOf_iff_prefix.mp begins)] at parts
      rw [← parts, operatorAt, first symbol (List.mem_of_find?_eq_some found), found]
  | none =>
      rw [found, Option.getD_none, String.length_singleton, List.take_succ_cons, List.take_zero]
        at parts
      cases parts
      have none : longOperators.find? (fun symbol => symbol.toList.isPrefixOf [c]) = none := by
        rw [List.find?_eq_none]
        intro symbol listed begins
        have short := (List.isPrefixOf_iff_prefix.mp begins).length_le
        have more := long symbol listed
        rw [String.length_toList, List.length_singleton] at short
        omega
      rw [operatorAt, none, found]

theorem isPrefixOf_eq_false_of_append {symbol : List Char}
    (other : symbol.isPrefixOf (cs ++ after) = false) : symbol.isPrefixOf cs = false := by
  rw [Bool.eq_false_iff] at other ⊢
  intro begins
  have within := (List.isPrefixOf_iff_prefix.mp begins).trans (List.prefix_append cs after)
  exact other (List.isPrefixOf_iff_prefix.mpr within)

/-- What a rule takes for a lexeme it takes alone too. -/
theorem Steps.alone {rest : List Char} (steps : Steps c rest (some lexeme) after) :
    ∃ taken, rest = taken ++ after ∧ Steps c taken (some lexeme) [] := by
  cases steps with
  | text read =>
      obtain ⟨taken, parts, alone⟩ := unquote_alone read
      exact ⟨taken, parts, .text alone⟩
  | quotedName read =>
      obtain ⟨taken, parts, alone⟩ := unquote_alone read
      exact ⟨taken, parts, .quotedName alone⟩
  | number digit read =>
      obtain ⟨taken, parts, alone⟩ := number_alone read
      cases taken with
      | nil => cases alone
      | cons d taken =>
          obtain ⟨rfl, rfl⟩ := List.cons.inj parts
          exact ⟨taken, rfl, .number digit alone⟩
  | word begins =>
      have continues : ∀ c ∈ rest.takeWhile continuesName, continuesName c :=
        fun c => List.mem_takeWhile_imp
      have alone : Steps c (rest.takeWhile continuesName) _ _ := .word begins
      rw [List.takeWhile_eq_self_iff.mpr continues,
        List.dropWhile_eq_nil_iff.mpr continues] at alone
      exact ⟨_, List.takeWhile_append_dropWhile.symm, alone⟩
  | punctuation found => exact ⟨[], rfl, .punctuation found⟩
  | operator operates notLine notBlock =>
      obtain ⟨n, length⟩ : ∃ n, (operatorAt c rest).length = n + 1 :=
        Nat.exists_eq_succ_of_ne_zero (Nat.ne_of_gt operatorAt_length.1)
      have parts : c :: rest = (c :: rest.take n) ++ rest.drop n := by
        rw [List.cons_append, List.take_append_drop]
      have same : operatorAt c (rest.take n) = operatorAt c rest :=
        operatorAt_alone (by rw [length, List.take_succ_cons])
      rw [parts] at notLine notBlock
      have alone := Steps.operator operates (isPrefixOf_eq_false_of_append notLine)
        (isPrefixOf_eq_false_of_append notBlock)
      rw [same, length, List.drop_succ_cons,
        List.drop_eq_nil_of_le (List.length_take_le n rest)] at alone
      rw [length, List.drop_succ_cons]
      exact ⟨_, (List.take_append_drop n rest).symm, alone⟩

end Alone

/-! ## Order -/

namespace Walk

variable {start : Nat} {cs last : List Char} {tokens : List Token}

/-- Every token of a walk stands in what is walked over, and is not empty. -/
theorem within (walk : Walk start cs last tokens) :
    ∀ token ∈ tokens,
      start ≤ token.start ∧ token.start < token.stop ∧ token.stop ≤ start + cs.length := by
  induction walk with
  | here => nofun
  | found steps _ ih =>
      have less := steps.length_lt
      rw [List.length_cons]
      refine List.forall_mem_cons.mpr ⟨by dsimp only; omega, fun token member => ?_⟩
      obtain ⟨behind, filled, inside⟩ := ih token member
      exact ⟨by omega, filled, by omega⟩
  | passed steps _ ih =>
      have less := steps.length_lt
      rw [List.length_cons]
      intro token member
      obtain ⟨behind, filled, inside⟩ := ih token member
      exact ⟨by omega, filled, by omega⟩

/-- No token of a walk begins before the one before it ends. -/
theorem ordered (walk : Walk start cs last tokens) :
    tokens.Pairwise fun before after => before.stop ≤ after.start := by
  induction walk with
  | here => exact .nil
  | found _ walk ih => exact .cons (fun token member => (walk.within token member).1) ih
  | passed _ _ ih => exact ih

end Walk

/-- What is written where a token stands. -/
def written (text : String) (token : Token) : String :=
  String.ofList ((text.toList.drop token.start).take (token.stop - token.start))

theorem scan_written {text : String} {found : List Token} (walk : Walk 0 text.toList [] found)
    {token : Token} (member : token ∈ found) :
    scan (token.written text) = .ok [⟨token.lexeme, 0, token.stop - token.start⟩,
      finishAt (token.stop - token.start)] := by
  obtain ⟨before, after, rfl⟩ := List.append_of_mem member
  obtain ⟨c, rest, left, reached, starts, steps, stops, _⟩ := walk.reach
  obtain ⟨taken, rfl, alone⟩ := steps.alone
  have behind : text.toList.drop token.start = c :: (taken ++ left) := by
    rw [starts, Nat.zero_add]
    exact (List.suffix_iff_eq_drop.mp reached.suffix).symm
  have length : token.stop - token.start = taken.length + 1 := by
    rw [stops, List.length_append]
    omega
  have word : token.written text = String.ofList (c :: taken) := by
    rw [written, behind, length, List.take_succ_cons, List.take_left]
  rw [word, length]
  apply scan_eq_ok_iff.mpr
  refine ⟨[⟨token.lexeme, 0, taken.length + 1⟩], ?_, ?_⟩
  · rw [String.toList_ofList]
    have walk : Walk 0 (c :: taken) [] _ := .found alone .here
    rwa [List.length_nil, Nat.sub_zero, Nat.zero_add] at walk
  · rw [String.length_ofList, List.length_cons]
    rfl

/-- The tokens of a text stand in its order, in spans that are not empty, and the end of the text is
the last of them alone. The span of every other token is scanned as that token. -/
theorem scan_spans {text : String} {tokens : List Token} (scanned : scan text = .ok tokens) :
    ∃ front, tokens = front ++ [finishAt text.length] ∧
      tokens.Pairwise (fun before after => before.stop ≤ after.start) ∧
      ∀ token ∈ front, token.lexeme ≠ .finish ∧
        token.start < token.stop ∧ token.stop ≤ text.length ∧
        scan (token.written text) = .ok [⟨token.lexeme, 0, token.stop - token.start⟩,
          finishAt (token.stop - token.start)] := by
  obtain ⟨found, walk, rfl⟩ := scan_eq_ok_iff.mp scanned
  have inside : ∀ token ∈ found, token.start < token.stop ∧ token.stop ≤ text.length := by
    intro token member
    obtain ⟨_, filled, inside⟩ := walk.within token member
    rw [Nat.zero_add, String.length_toList] at inside
    exact ⟨filled, inside⟩
  refine ⟨found, rfl, ?_, fun token member => ?_⟩
  · refine List.pairwise_append.mpr ⟨walk.ordered, List.pairwise_singleton _ _, ?_⟩
    intro token member last only
    rw [List.mem_singleton.mp only]
    exact (inside token member).2
  · obtain ⟨filled, inside⟩ := inside token member
    exact ⟨walk.ne_finish token member, filled, inside, scan_written walk member⟩

theorem scan_spans_castAndComment :
    scan "\"n\"<>'it''s'::text--b\n1.5e3" = .ok [⟨.quotedName "n", 0, 3⟩, ⟨.operator "<>", 3, 5⟩,
        ⟨.text "it's", 5, 12⟩, ⟨.decimal ⟨false, 15, 2⟩, 22, 27⟩, ⟨.finish, 27, 27⟩] ∧
      scan "'it''s'" = .ok [⟨.text "it's", 0, 7⟩, ⟨.finish, 7, 7⟩] := by
  have scanned : scan "\"n\"<>'it''s'::text--b\n1.5e3" =
      .ok [⟨.quotedName "n", 0, 3⟩, ⟨.operator "<>", 3, 5⟩, ⟨.text "it's", 5, 12⟩,
        ⟨.decimal ⟨false, 15, 2⟩, 22, 27⟩, ⟨.finish, 27, 27⟩] := by
    with_unfolding_all rfl
  obtain ⟨front, parts, _, each⟩ := scan_spans scanned
  have member : ⟨.text "it's", 5, 12⟩ ∈ front := by
    obtain rfl : [_, _, _, _] = front := List.append_cancel_right parts
    simp
  exact ⟨scanned, (each _ member).2.2.2⟩

end Token

end RowGuard
