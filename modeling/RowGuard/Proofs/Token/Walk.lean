import RowGuard.Proofs.Token.Closing

/-! Scanning as a walk over the text. A step takes what one lexical rule takes; a
walk is a series of steps from one place of the text to a later one, with the
tokens found on the way. A walk to where a text closes does not depend on what
closes it. -/

set_option autoImplicit false

namespace RowGuard

namespace Token

/-! ## Steps -/

/-- What stands at the front of a text, and what follows it. -/
inductive Steps : Char → List Char → Option Lexeme → List Char → Prop where
  | blank {c : Char} {rest : List Char} : Text.isBlank c → Steps c rest none rest
  | line {rest : List Char} : Steps '-' ('-' :: rest) none (afterLine rest)
  | block {rest after : List Char} : afterPair '*' '/' rest = some after →
      Steps '/' ('*' :: rest) none after
  | cast {rest after : List Char} : (∀ size, skipType size rest = .ok after) →
      Steps ':' (':' :: rest) none after
  | text {content rest after : List Char} : unquote '\'' rest = some (content, after) →
      Steps '\'' rest (some (.text (String.ofList content))) after
  | quotedName {content rest after : List Char} : unquote '"' rest = some (content, after) →
      Steps '"' rest (some (.quotedName (String.ofList content))) after
  | number {c : Char} {lexeme : Lexeme} {rest after : List Char} : Text.isDigit c →
      number (c :: rest) = .ok (lexeme, after) → Steps c rest (some lexeme) after
  | word {c : Char} {rest : List Char} : beginsName c →
      Steps c rest (some (.word (String.ofList (c :: rest.takeWhile continuesName))))
        (rest.dropWhile continuesName)
  | punctuation {c : Char} {lexeme : Lexeme} {rest : List Char} :
      punctuation? c = some lexeme → Steps c rest (some lexeme) rest
  | operator {c : Char} {rest : List Char} : isOperatorChar c →
      ['-', '-'].isPrefixOf (c :: rest) = false → ['/', '*'].isPrefixOf (c :: rest) = false →
      Steps c rest (some (.operator (operatorAt c rest)))
        ((c :: rest).drop (operatorAt c rest).length)

theorem afterLine_cons {c : Char} (other : c ≠ '\n') (rest : List Char) :
    afterLine (c :: rest) = afterLine rest := by
  simp [afterLine, other]

theorem steps_of_step {size : Nat} {c : Char} {rest after : List Char} {lexeme? : Option Lexeme}
    (read : step size c rest = .ok (lexeme?, after)) : Steps c rest lexeme? after := by
  unfold step at read
  dsimp only at read
  by_cases blank : Text.isBlank c
  · rw [if_pos blank] at read
    cases read
    exact .blank blank
  rw [if_neg blank] at read
  by_cases line : ['-', '-'].isPrefixOf (c :: rest)
  · rw [if_pos line] at read
    obtain ⟨rest, same⟩ := List.isPrefixOf_iff_prefix.mp line
    cases same
    cases read
    change Steps '-' ('-' :: rest) none (afterLine ('-' :: '-' :: rest))
    rw [afterLine_cons (by decide), afterLine_cons (by decide)]
    exact .line
  rw [if_neg line] at read
  by_cases block : ['/', '*'].isPrefixOf (c :: rest)
  · rw [if_pos block] at read
    obtain ⟨rest, same⟩ := List.isPrefixOf_iff_prefix.mp block
    cases same
    split at read
    · rename_i found
      cases read
      exact .block found
    · cases read
  rw [if_neg block] at read
  by_cases casts : [':', ':'].isPrefixOf (c :: rest)
  · rw [if_pos casts] at read
    obtain ⟨rest, same⟩ := List.isPrefixOf_iff_prefix.mp casts
    cases same
    obtain ⟨after, typeRead, same⟩ := except_map_eq_ok read
    cases same
    exact .cast (skipType_congr typeRead)
  rw [if_neg casts] at read
  by_cases quotes : c == '\''
  · rw [if_pos quotes] at read
    obtain rfl := beq_iff_eq.mp quotes
    split at read
    · rename_i found
      cases read
      exact .text found
    · cases read
  rw [if_neg quotes] at read
  by_cases quotes : c == '"'
  · rw [if_pos quotes] at read
    obtain rfl := beq_iff_eq.mp quotes
    split at read
    · rename_i found
      cases read
      exact .quotedName found
    · cases read
  rw [if_neg quotes] at read
  by_cases digit : Text.isDigit c
  · rw [if_pos digit] at read
    obtain ⟨⟨lexeme, left⟩, numberRead, same⟩ := except_map_eq_ok read
    cases same
    exact .number digit numberRead
  rw [if_neg digit] at read
  by_cases begins : beginsName c
  · rw [if_pos begins] at read
    cases read
    rw [List.takeWhile_cons, List.dropWhile_cons, continuesName_of_beginsName begins]
    exact .word begins
  rw [if_neg begins] at read
  split at read
  · rename_i found
    cases read
    exact .punctuation found
  · by_cases operates : isOperatorChar c
    · rw [if_pos operates] at read
      cases read
      exact .operator operates (Bool.eq_false_iff.mpr line) (Bool.eq_false_iff.mpr block)
    · rw [if_neg operates] at read
      cases read

theorem isPrefixOf_eq_false {first second c : Char} (other : c ≠ first) (rest : List Char) :
    [first, second].isPrefixOf (c :: rest) = false := by
  simp [List.isPrefixOf, other.symm]

theorem ne_of_beginsName {c d : Char} (begins : beginsName c) (other : beginsName d = false) :
    c ≠ d := by
  rintro rfl
  rw [begins] at other
  cases other

theorem not_isBlank_of_isDigit {c : Char} (digit : Text.isDigit c) : Text.isBlank c = false := by
  rw [Bool.eq_false_iff]
  intro blank
  rw [Text.not_isDigit_of_isBlank blank] at digit
  cases digit

theorem plain_of_isOperatorChar {c : Char} (operates : isOperatorChar c) :
    Text.isBlank c = false ∧ Text.isDigit c = false ∧ beginsName c = false ∧
      punctuation? c = none ∧ c ≠ ':' ∧ c ≠ '\'' ∧ c ≠ '"' := by
  have each : ∀ c ∈ "=<>!+-*/%|&~^@#?".toList, Text.isBlank c = false ∧ Text.isDigit c = false ∧
      beginsName c = false ∧ punctuation? c = none ∧ c ≠ ':' ∧ c ≠ '\'' ∧ c ≠ '"' :=
    List.forall_iff_forall_mem.mp (by decide)
  exact each c (List.contains_iff_mem.mp operates)

theorem step_of_isDigit {c : Char} (digit : Text.isDigit c) (size : Nat) (rest : List Char) :
    step size c rest = (number (c :: rest)).map fun read => (some read.1, read.2) := by
  have minus := ne_of_isDigit (d := '-') digit (by decide)
  have slash := ne_of_isDigit (d := '/') digit (by decide)
  have colon := ne_of_isDigit (d := ':') digit (by decide)
  have quote := ne_of_isDigit (d := '\'') digit (by decide)
  have doubleQuote := ne_of_isDigit (d := '"') digit (by decide)
  simp [step, not_isBlank_of_isDigit digit, minus.symm, slash.symm, colon.symm, quote,
    doubleQuote, digit]

theorem step_of_steps {c : Char} {rest after : List Char} {lexeme? : Option Lexeme}
    (steps : Steps c rest lexeme? after) (size : Nat) :
    step size c rest = .ok (lexeme?, after) := by
  cases steps with
  | blank blank => simp [step, blank]
  | line =>
      have filled : Text.isBlank '-' = false := by decide
      simp [step, filled, afterLine_cons]
  | block found =>
      have filled : Text.isBlank '/' = false := by decide
      simp [step, filled, found]
  | cast typed =>
      have filled : Text.isBlank ':' = false := by decide
      simp [step, filled, typed, Except.map]
  | text found =>
      have filled : Text.isBlank '\'' = false := by decide
      simp [step, filled, found]
  | quotedName found =>
      have filled : Text.isBlank '"' = false := by decide
      simp [step, filled, found]
  | number digit read =>
      rw [step_of_isDigit digit, read]
      rfl
  | word begins =>
      have minus := ne_of_beginsName (d := '-') begins (by decide)
      have slash := ne_of_beginsName (d := '/') begins (by decide)
      have colon := ne_of_beginsName (d := ':') begins (by decide)
      have quote := ne_of_beginsName (d := '\'') begins (by decide)
      have doubleQuote := ne_of_beginsName (d := '"') begins (by decide)
      simp [step, not_isBlank_of_beginsName begins, minus.symm, slash.symm, colon.symm, quote,
        doubleQuote, not_isDigit_of_beginsName begins, begins, continuesName_of_beginsName begins]
  | punctuation found =>
      unfold punctuation? at found
      split at found <;> cases found <;> rfl
  | operator operates notLine notBlock =>
      obtain ⟨filled, digit, begins, unpunctuated, colon, quote, doubleQuote⟩ :=
        plain_of_isOperatorChar operates
      simp only [step, filled, notLine, notBlock, isPrefixOf_eq_false colon, quote, doubleQuote,
        digit, begins, unpunctuated, operates, Bool.false_eq_true, if_false, beq_iff_eq, if_true]

theorem operatorAt_length {c : Char} {rest : List Char} :
    0 < (operatorAt c rest).length ∧ (operatorAt c rest).length ≤ (c :: rest).length := by
  rw [operatorAt]
  cases found : longOperators.find? fun symbol => symbol.toList.isPrefixOf (c :: rest) with
  | none => simp
  | some symbol =>
      have filled : ∀ symbol ∈ longOperators, 0 < symbol.length := by decide
      have begins := List.find?_some
        (p := fun symbol : String => symbol.toList.isPrefixOf (c :: rest)) found
      have fits := (List.isPrefixOf_iff_prefix.mp begins).length_le
      rw [String.length_toList] at fits
      exact ⟨filled symbol (List.mem_of_find?_eq_some found), fits⟩

namespace Steps

variable {c : Char} {rest after : List Char} {lexeme? : Option Lexeme}

/-- A rule takes at least the character at the front. -/
theorem suffix (steps : Steps c rest lexeme? after) : after <:+ rest := by
  cases steps with
  | blank | punctuation => exact List.suffix_rfl
  | line => exact (afterLine_suffix _).trans (List.suffix_cons _ _)
  | block found => exact (afterPair_suffix found).trans (List.suffix_cons _ _)
  | cast typed => exact (skipType_suffix (typed 0)).trans (List.suffix_cons _ _)
  | text found | quotedName found => exact unquote_suffix found
  | number digit read =>
      have left := number_suffix read
      rw [List.dropWhile_cons, if_pos digit] at left
      exact left.trans (List.dropWhile_suffix _)
  | word => exact List.dropWhile_suffix _
  | operator =>
      obtain ⟨n, same⟩ : ∃ n, (operatorAt c rest).length = n + 1 :=
        Nat.exists_eq_succ_of_ne_zero (Nat.ne_of_gt operatorAt_length.1)
      rw [same, List.drop_succ_cons]
      exact List.drop_suffix _ _

theorem ne_finish {lexeme : Lexeme} (steps : Steps c rest (some lexeme) after) :
    lexeme ≠ .finish := by
  cases steps with
  | text | quotedName | word | operator => nofun
  | number _ read =>
      unfold Token.number at read
      dsimp only at read
      split at read
      · obtain ⟨n, _, same⟩ := except_map_eq_ok read
        cases same
        nofun
      · split at read
        · cases read
          nofun
        · cases read
  | punctuation found =>
      unfold punctuation? at found
      split at found <;> cases found <;> nofun

theorem length_lt (steps : Steps c rest lexeme? after) : after.length < rest.length + 1 :=
  Nat.lt_succ_of_le steps.suffix.length_le

theorem unique {after' : List Char} {lexeme?' : Option Lexeme}
    (steps : Steps c rest lexeme? after) (steps' : Steps c rest lexeme?' after') :
    lexeme? = lexeme?' ∧ after = after' := by
  have same := (step_of_steps steps 0).symm.trans (step_of_steps steps' 0)
  cases same
  exact ⟨rfl, rfl⟩

end Steps

/-- Whether a text begins with a line comment that it does not end. -/
def OpenLine (c : Char) (rest : List Char) : Prop :=
  c = '-' ∧ rest.head? = some '-' ∧ '\n' ∉ rest

theorem afterLine_append {rest : List Char} (ended : '\n' ∈ rest) (tail : List Char) :
    afterLine (rest ++ tail) = afterLine rest ++ tail := by
  induction rest with
  | nil => cases ended
  | cons c rest ih =>
      by_cases line : c = '\n'
      · subst line
        simp [afterLine]
      · have inside : '\n' ∈ rest := (List.mem_cons.mp ended).resolve_left (Ne.symm line)
        rw [List.cons_append, afterLine_cons line, afterLine_cons line, ih inside]

theorem afterLine_of_open {rest : List Char} (open_ : '\n' ∉ rest) (tail : List Char) :
    afterLine (rest ++ tail) = afterLine tail := by
  induction rest with
  | nil => rfl
  | cons c rest ih =>
      rw [List.mem_cons, not_or] at open_
      rw [List.cons_append, afterLine_cons (Ne.symm open_.1), ih open_.2]

/-! ## Steps in front of another text -/

/-- A text that is apart from what stands in front of it: it begins with a blank, a closing
parenthesis or a colon, and does not go on with a type name. -/
structure Apart (tail : List Char) : Prop extends EndsType tail where
  parted : ∀ c ∈ tail.head?, Text.isBlank c ∨ c = ')' ∨ c = ':'

section Appending

variable {tail mark : List Char} {c : Char} {rest after : List Char} {lexeme? : Option Lexeme}

theorem Closes.apart (closes : Closes tail mark) : Apart tail :=
  ⟨closes.endsType, closes.stops (fun _ blank => .inl blank) (.inr (.inl rfl))⟩

namespace Apart

theorem stops (apart : Apart tail) {p : Char → Prop} (blank : ∀ c, Text.isBlank c → p c)
    (marks : p ')' ∧ p ':') : ∀ c ∈ tail.head?, p c := by
  intro c first
  rcases apart.parted c first with isBlank | rfl | rfl
  · exact blank c isBlank
  · exact marks.1
  · exact marks.2

theorem ne_of_head (apart : Apart tail) {d : Char} (filled : Text.isBlank d = false)
    (other : ')' ≠ d ∧ ':' ≠ d) : ∀ c ∈ tail.head?, c ≠ d := by
  refine apart.stops (fun c blank same => ?_) other
  rw [same, filled] at blank
  cases blank

theorem stops_number (apart : Apart tail) :
    ∀ c ∈ tail.head?, Text.isDigit c = false ∧ c ∉ ['.', 'e', 'E', '+', '-'] := by
  refine apart.stops (fun c blank => ⟨Text.not_isDigit_of_isBlank blank, fun listed => ?_⟩)
    (by decide)
  have filled : ∀ c ∈ ['.', 'e', 'E', '+', '-'], Text.isBlank c = false :=
    List.forall_iff_forall_mem.mp (by decide)
  rw [filled c listed] at blank
  cases blank

theorem stops_operator (apart : Apart tail) : ∀ c ∈ tail.head?, isOperatorChar c = false := by
  refine apart.stops (fun c blank => ?_) (by decide)
  rw [Bool.eq_false_iff]
  intro operates
  rw [(plain_of_isOperatorChar operates).1] at blank
  cases blank

end Apart

/-- A rule takes the same in front of a text that is apart, unless it is a line comment. -/
theorem Steps.append (apart : Apart tail) (ended : ¬ OpenLine c rest)
    (steps : Steps c rest lexeme? after) : Steps c (rest ++ tail) lexeme? (after ++ tail) := by
  cases steps with
  | blank blank => exact .blank blank
  | line =>
      rename_i rest
      have inside : '\n' ∈ rest := by
        by_contra missing
        exact ended ⟨rfl, rfl, by simpa using missing⟩
      rw [← afterLine_append inside]
      exact .line
  | block found => exact .block (afterPair_append found tail)
  | cast typed => exact .cast fun size => apart.skipType_append size 0 (typed 0)
  | text found => exact .text (unquote_append (apart.ne_of_head (by decide) (by decide)) found)
  | quotedName found =>
      exact .quotedName (unquote_append (apart.ne_of_head (by decide) (by decide)) found)
  | number digit read =>
      refine .number digit ?_
      rw [← List.cons_append, number_append apart.stops_number, read]
      rfl
  | word begins =>
      rw [← takeWhile_append_of_stops apart.toEndsType.stops,
        ← dropWhile_append_of_stops apart.toEndsType.stops]
      exact .word begins
  | punctuation found => exact .punctuation found
  | operator operates notLine notBlock =>
      rw [← List.drop_append_of_le_length operatorAt_length.2,
        ← operatorAt_append apart.stops_operator]
      refine .operator operates ?_ ?_
      · rwa [← List.cons_append, isPrefixOf_append_of_operator apart.stops_operator (by decide)]
      · rwa [← List.cons_append, isPrefixOf_append_of_operator apart.stops_operator (by decide)]

/-- A rule that leaves what closes the text takes the same of the text alone. -/
theorem Steps.of_append (closes : Closes tail mark) (shut : ']' ∉ mark) {left : List Char}
    (suffix : mark <:+ left) (ended : ¬ OpenLine c rest)
    (steps : Steps c (rest ++ tail) lexeme? left) :
    ∃ after, left = after ++ tail ∧ Steps c rest lexeme? after := by
  generalize whole : rest ++ tail = cs at steps
  cases steps with
  | blank blank => exact ⟨rest, whole.symm, .blank blank⟩
  | line =>
      cases rest with
      | nil =>
          have front : tail.head? = some '-' := congrArg List.head? whole
          exact absurd rfl (closes.ne_of_head (by decide) (by decide) _ front)
      | cons d rest =>
          cases whole
          have inside : '\n' ∈ rest := by
            by_contra missing
            exact ended ⟨rfl, rfl, by simpa using missing⟩
          exact ⟨_, afterLine_append inside tail, .line⟩
  | block found =>
      cases rest with
      | nil =>
          have front : tail.head? = some '*' := congrArg List.head? whole
          exact absurd rfl (closes.ne_of_head (by decide) (by decide) _ front)
      | cons d rest =>
          cases whole
          obtain ⟨after, rfl, inside⟩ :=
            closes.afterPair_of_append (by decide) (by decide) (by decide) suffix found
          exact ⟨after, rfl, .block inside⟩
  | cast typed =>
      cases rest with
      | nil =>
          have front : tail.head? = some ':' := congrArg List.head? whole
          exact absurd rfl (closes.ne_of_head (by decide) (by decide) _ front)
      | cons d rest =>
          cases whole
          obtain ⟨after, rfl, inside⟩ := closes.skipType_of_append shut 0 0 suffix (typed 0)
          exact ⟨after, rfl, .cast (skipType_congr inside)⟩
  | text found =>
      subst whole
      obtain ⟨after, rfl, inside⟩ :=
        closes.unquote_of_append (by decide) (by decide) suffix found
      exact ⟨after, rfl, .text inside⟩
  | quotedName found =>
      subst whole
      obtain ⟨after, rfl, inside⟩ :=
        closes.unquote_of_append (by decide) (by decide) suffix found
      exact ⟨after, rfl, .quotedName inside⟩
  | number digit read =>
      subst whole
      rw [← List.cons_append, number_append closes.apart.stops_number] at read
      obtain ⟨⟨lexeme, after⟩, inside, same⟩ := except_map_eq_ok read
      cases same
      exact ⟨after, rfl, .number digit inside⟩
  | word begins =>
      subst whole
      rw [takeWhile_append_of_stops closes.endsType.stops,
        dropWhile_append_of_stops closes.endsType.stops]
      exact ⟨_, rfl, .word begins⟩
  | punctuation found => exact ⟨rest, whole.symm, .punctuation found⟩
  | operator operates notLine notBlock =>
      subst whole
      rw [operatorAt_append closes.apart.stops_operator, ← List.cons_append,
        List.drop_append_of_le_length operatorAt_length.2]
      refine ⟨_, rfl, .operator operates ?_ ?_⟩
      · rwa [← List.cons_append,
          isPrefixOf_append_of_operator closes.apart.stops_operator (by decide)] at notLine
      · rwa [← List.cons_append,
          isPrefixOf_append_of_operator closes.apart.stops_operator (by decide)] at notBlock

end Appending

/-! ## Walks -/

/-- Steps from one place of a text to a later one, the first place being at a position, with the
tokens on the way. -/
inductive Walk : Nat → List Char → List Char → List Token → Prop where
  | here {start : Nat} {cs : List Char} : Walk start cs cs []
  | found {start : Nat} {c : Char} {rest after last : List Char} {lexeme : Lexeme}
      {tokens : List Token} : Steps c rest (some lexeme) after →
      Walk (start + (rest.length + 1 - after.length)) after last tokens →
      Walk start (c :: rest) last
        (⟨lexeme, start, start + (rest.length + 1 - after.length)⟩ :: tokens)
  | passed {start : Nat} {c : Char} {rest after last : List Char} {tokens : List Token} :
      Steps c rest none after →
      Walk (start + (rest.length + 1 - after.length)) after last tokens →
      Walk start (c :: rest) last tokens

/-- A token at a later position. -/
def shift (offset : Nat) (token : Token) : Token :=
  ⟨token.lexeme, offset + token.start, offset + token.stop⟩

namespace Walk

variable {start : Nat} {cs middle last : List Char} {tokens : List Token}

theorem suffix (walk : Walk start cs last tokens) : last <:+ cs := by
  induction walk with
  | here => exact List.suffix_rfl
  | found steps _ ih | passed steps _ ih =>
      exact ih.trans (steps.suffix.trans (List.suffix_cons _ _))

theorem trans {more : List Token} (first : Walk start cs middle tokens)
    (second : Walk (start + (cs.length - middle.length)) middle last more) :
    Walk start cs last (tokens ++ more) := by
  induction first with
  | here => simpa using second
  | found steps walk ih =>
      have reached := walk.suffix.length_le
      have less := steps.length_lt
      refine .found steps (ih ?_)
      convert second using 1
      rw [List.length_cons]
      omega
  | passed steps walk ih =>
      have reached := walk.suffix.length_le
      have less := steps.length_lt
      refine .passed steps (ih ?_)
      convert second using 1
      rw [List.length_cons]
      omega

theorem append {more : List Token} (first : Walk start (cs ++ middle) middle tokens)
    (second : Walk (start + cs.length) middle last more) :
    Walk start (cs ++ middle) last (tokens ++ more) := by
  refine first.trans ?_
  rwa [List.length_append, Nat.add_sub_cancel]

theorem shift (walk : Walk start cs last tokens) (offset : Nat) :
    Walk (offset + start) cs last (tokens.map (Token.shift offset)) := by
  induction walk with
  | here => exact .here
  | found steps _ ih =>
      rw [← Nat.add_assoc] at ih
      have moved := Walk.found steps ih
      rwa [Nat.add_assoc offset] at moved
  | passed steps _ ih =>
      rw [← Nat.add_assoc] at ih
      exact .passed steps ih

/-- A walk over a token comes by the place where the token begins. -/
theorem reach {before after : List Token} {token : Token}
    (walk : Walk start cs last (before ++ token :: after)) :
    ∃ c rest left, Walk start cs (c :: rest) before ∧
      token.start = start + (cs.length - (rest.length + 1)) ∧
      Steps c rest (some token.lexeme) left ∧
      token.stop = token.start + (rest.length + 1 - left.length) ∧
      Walk token.stop left last after := by
  generalize whole : before ++ token :: after = tokens at walk
  induction walk generalizing before with
  | here => cases before <;> cases whole
  | @found start c rest left last lexeme tokens steps walk ih =>
      cases before with
      | nil =>
          cases whole
          refine ⟨c, rest, left, .here, ?_, steps, rfl, walk⟩
          exact (congrArg (start + ·) (Nat.sub_self _)).symm
      | cons first before =>
          obtain ⟨rfl, rfl⟩ := List.cons.inj whole
          obtain ⟨d, further, left', reached, starts, taken, stops, onward⟩ := ih rfl
          refine ⟨d, further, left', .found steps reached, ?_, taken, stops, onward⟩
          have within := reached.suffix.length_le
          have less := steps.length_lt
          rw [List.length_cons] at within ⊢
          omega
  | @passed start c rest left last tokens steps walk ih =>
      obtain ⟨d, further, left', reached, starts, taken, stops, onward⟩ := ih whole
      refine ⟨d, further, left', .passed steps reached, ?_, taken, stops, onward⟩
      have within := reached.suffix.length_le
      have less := steps.length_lt
      rw [List.length_cons] at within ⊢
      omega

theorem ne_finish (walk : Walk start cs last tokens) :
    ∀ token ∈ tokens, token.lexeme ≠ .finish := by
  induction walk with
  | here => simp
  | found steps _ ih => exact List.forall_mem_cons.mpr ⟨steps.ne_finish, ih⟩
  | passed _ _ ih => exact ih

theorem start_le (walk : Walk start cs last tokens) :
    ∀ token ∈ tokens, token.start ≤ start + cs.length := by
  induction walk with
  | here => simp
  | found steps _ ih =>
      have less := steps.length_lt
      refine List.forall_mem_cons.mpr ⟨Nat.le_add_right _ _, fun token member => ?_⟩
      have within := ih token member
      rw [List.length_cons]
      omega
  | passed steps _ ih =>
      have less := steps.length_lt
      intro token member
      have within := ih token member
      rw [List.length_cons]
      omega

theorem of_blanks {blanks : List Char} (blank : ∀ c ∈ blanks, Text.isBlank c) (last : List Char)
    (start : Nat) : Walk start (blanks ++ last) last [] := by
  induction blanks generalizing start with
  | nil => exact .here
  | cons c blanks ih =>
      exact .passed (.blank (blank c List.mem_cons_self))
        (ih (fun c member => blank c (List.mem_cons_of_mem _ member)) _)

theorem mark {c : Char} {lexeme : Lexeme} (found : punctuation? c = some lexeme)
    (walk : Walk (start + 1) cs last tokens) :
    Walk start (c :: cs) last (⟨lexeme, start, start + 1⟩ :: tokens) := by
  have taken : cs.length + 1 - cs.length = 1 := by omega
  rw [← taken] at walk ⊢
  exact .found (.punctuation found) walk

theorem unique {tokens' : List Token} (walk : Walk start cs last tokens)
    (walk' : Walk start cs last tokens') : tokens = tokens' := by
  induction walk generalizing tokens' with
  | here =>
      cases walk' with
      | here => rfl
      | found steps walk | passed steps walk =>
          have reached := walk.suffix.length_le
          have less := steps.length_lt
          rw [List.length_cons] at reached
          omega
  | found steps walk ih =>
      have less := steps.length_lt
      cases walk' with
      | here =>
          have reached := walk.suffix.length_le
          rw [List.length_cons] at reached
          omega
      | found steps' walk' =>
          obtain ⟨same, rfl⟩ := steps.unique steps'
          cases same
          rw [ih walk']
      | passed steps' walk' => cases (steps.unique steps').1
  | passed steps walk ih =>
      have less := steps.length_lt
      cases walk' with
      | here =>
          have reached := walk.suffix.length_le
          rw [List.length_cons] at reached
          omega
      | found steps' walk' => cases (steps.unique steps').1
      | passed steps' walk' =>
          obtain ⟨_, rfl⟩ := steps.unique steps'
          exact ih walk'

/-- A walk over the whole text goes on from every place that a walk leads to. -/
theorem remaining {all : List Token} (walk : Walk start cs middle tokens)
    (whole : Walk start cs [] all) :
    ∃ more, Walk (start + (cs.length - middle.length)) middle [] more ∧ all = tokens ++ more := by
  induction walk generalizing all with
  | here => exact ⟨all, by simpa using whole, rfl⟩
  | found steps walk ih =>
      have reached := walk.suffix.length_le
      have less := steps.length_lt
      cases whole with
      | found steps' whole =>
          obtain ⟨same, rfl⟩ := steps.unique steps'
          cases same
          obtain ⟨more, onward, rfl⟩ := ih whole
          refine ⟨more, ?_, rfl⟩
          convert onward using 1
          rw [List.length_cons]
          omega
      | passed steps' => cases (steps.unique steps').1
  | passed steps walk ih =>
      have reached := walk.suffix.length_le
      have less := steps.length_lt
      cases whole with
      | found steps' => cases (steps.unique steps').1
      | passed steps' whole =>
          obtain ⟨_, rfl⟩ := steps.unique steps'
          obtain ⟨more, onward, rfl⟩ := ih whole
          refine ⟨more, ?_, rfl⟩
          convert onward using 1
          rw [List.length_cons]
          omega

end Walk

/-! ## The whole text -/

theorem scanFrom_eq_drop (size skip : Nat) (cs : List Char) :
    scanFrom size skip cs = scanFrom size 0 (cs.drop skip) := by
  induction cs generalizing skip with
  | nil => simp [scanFrom]
  | cons c rest ih =>
      cases skip with
      | zero => rfl
      | succ skip => rw [scanFrom, ih, List.drop_succ_cons]

theorem scanFrom_after {size : Nat} {rest after : List Char} (suffix : after <:+ rest) :
    scanFrom size (rest.length - after.length) rest = scanFrom size 0 after := by
  rw [scanFrom_eq_drop, ← List.suffix_iff_eq_drop.mp suffix]

def finishAt (size : Nat) : Token := ⟨.finish, size, size⟩

theorem walk_of_scanFrom {size start : Nat} {cs : List Char} {tokens : List Token}
    (whole : start + cs.length = size) (scanned : scanFrom size 0 cs = .ok tokens) :
    ∃ found, Walk start cs [] found ∧ tokens = found ++ [finishAt size] := by
  induction length : cs.length using Nat.strongRecOn generalizing cs start tokens with
  | ind n ih =>
      subst length
      cases cs with
      | nil =>
          cases scanned
          exact ⟨[], .here, rfl⟩
      | cons c rest =>
          rw [List.length_cons] at whole
          rw [scanFrom] at scanned
          obtain ⟨⟨lexeme?, after⟩, read, scanned⟩ := except_bind_eq_ok scanned
          obtain ⟨more, moreScanned, scanned⟩ := except_bind_eq_ok scanned
          have steps := steps_of_step read
          have less := steps.length_lt
          rw [scanFrom_after steps.suffix] at moreScanned
          have left : start + (rest.length + 1 - after.length) + after.length = size := by omega
          obtain ⟨found, walk, rfl⟩ := ih after.length less left moreScanned rfl
          cases lexeme? with
          | none =>
              cases scanned
              exact ⟨found, .passed steps walk, rfl⟩
          | some lexeme =>
              cases scanned
              refine ⟨_, .found steps walk, ?_⟩
              rw [show size - (rest.length + 1) = start by omega,
                show size - after.length = start + (rest.length + 1 - after.length) by omega]
              rfl

theorem scanFrom_of_walk {size start : Nat} {cs : List Char} {found : List Token}
    (whole : start + cs.length = size) (walk : Walk start cs [] found) :
    scanFrom size 0 cs = .ok (found ++ [finishAt size]) := by
  generalize ended : [] = last at walk
  induction walk with
  | here =>
      subst ended
      rfl
  | found steps _ ih =>
      have less := steps.length_lt
      rw [List.length_cons] at whole
      rw [scanFrom, step_of_steps steps]
      dsimp only [bind, Except.bind]
      rw [scanFrom_after steps.suffix, ih (by omega) ended]
      dsimp only
      congr 3 <;> omega
  | passed steps _ ih =>
      have less := steps.length_lt
      rw [List.length_cons] at whole
      rw [scanFrom, step_of_steps steps]
      dsimp only [bind, Except.bind]
      rw [scanFrom_after steps.suffix, ih (by omega) ended]
      rfl

/-- The tokens of a text are those of the walk over it, and the end. -/
theorem scan_eq_ok_iff {text : String} {tokens : List Token} :
    scan text = .ok tokens ↔
      ∃ found, Walk 0 text.toList [] found ∧ tokens = found ++ [finishAt text.length] := by
  have whole : 0 + text.toList.length = text.length := by rw [Nat.zero_add, String.length_toList]
  constructor
  · exact walk_of_scanFrom whole
  · rintro ⟨found, walk, rfl⟩
    exact scanFrom_of_walk whole walk

/-! ## Walks to where a text closes -/

section Closing

variable {start : Nat} {c : Char} {rest after tail mark last cs : List Char} {tokens : List Token}

theorem taken_length_append (rest after tail : List Char) :
    (rest ++ tail).length + 1 - (after ++ tail).length = rest.length + 1 - after.length := by
  simp only [List.length_append]
  omega

theorem Walk.found_append {lexeme : Lexeme}
    (steps : Steps c (rest ++ tail) (some lexeme) (after ++ tail))
    (walk : Walk (start + (rest.length + 1 - after.length)) (after ++ tail) last tokens) :
    Walk start (c :: rest ++ tail) last
      (⟨lexeme, start, start + (rest.length + 1 - after.length)⟩ :: tokens) := by
  rw [← taken_length_append rest after tail] at walk ⊢
  exact .found steps walk

theorem Walk.passed_append (steps : Steps c (rest ++ tail) none (after ++ tail))
    (walk : Walk (start + (rest.length + 1 - after.length)) (after ++ tail) last tokens) :
    Walk start (c :: rest ++ tail) last tokens := by
  rw [← taken_length_append rest after tail] at walk
  exact .passed steps walk

theorem Steps.not_openLine {lexeme : Lexeme} (steps : Steps c rest (some lexeme) after) :
    ¬ OpenLine c rest := by
  rintro ⟨rfl, front, _⟩
  obtain ⟨rest, rfl⟩ := List.head?_eq_some_iff.mp front
  cases (steps.unique .line).1

/-- A walk over a text goes to what is apart from the text, or its last comment takes the line
that follows too. -/
theorem Walk.append_apart (walk : Walk start cs [] tokens) :
    (∀ tail, Apart tail → Walk start (cs ++ tail) tail tokens) ∨
      ∀ tail, Apart tail → Walk start (cs ++ tail) (afterLine tail) tokens := by
  generalize ended : [] = last at walk
  induction walk with
  | here =>
      subst ended
      exact .inl fun tail _ => .here
  | found steps _ ih =>
      rcases ih ended with plain | commented
      · exact .inl fun tail apart =>
          .found_append (steps.append apart steps.not_openLine) (plain tail apart)
      · exact .inr fun tail apart =>
          .found_append (steps.append apart steps.not_openLine) (commented tail apart)
  | passed steps walk ih =>
      rename_i start c rest after _ tokens
      by_cases open_ : OpenLine c rest
      · -- The comment goes on to the end of the line, and nothing follows it.
        obtain ⟨rfl, front, unended⟩ := open_
        obtain ⟨rest, rfl⟩ := List.head?_eq_some_iff.mp front
        have missing : '\n' ∉ rest := fun member => unended (List.mem_cons_of_mem _ member)
        obtain ⟨_, rfl⟩ := steps.unique .line
        have nothing := afterLine_of_open missing []
        rw [List.append_nil] at nothing
        rw [nothing] at walk
        subst ended
        cases walk
        refine .inr fun tail _ => ?_
        have line : Steps '-' ('-' :: (rest ++ tail)) none _ := .line
        rw [afterLine_of_open missing] at line
        exact .passed line .here
      · rcases ih ended with plain | commented
        · exact .inl fun tail apart =>
            .passed_append (steps.append apart open_) (plain tail apart)
        · exact .inr fun tail apart =>
            .passed_append (steps.append apart open_) (commented tail apart)

/-- A line break behind a text ends the text's last comment, if it is one of a line. -/
theorem Walk.append_line (walk : Walk start cs [] tokens) (ends : ∀ c ∈ mark.head?, c = ')') :
    Walk start (cs ++ '\n' :: mark) mark tokens := by
  have closes : Closes ('\n' :: mark) mark :=
    ⟨⟨['\n'], List.forall_mem_singleton.mpr (by decide), rfl⟩, ends⟩
  rcases walk.append_apart with plain | commented
  · simpa using (plain _ closes.apart).trans (.passed (.blank (by decide)) .here)
  · exact commented _ closes.apart

theorem Steps.of_append_paren {left : List Char} {lexeme? : Option Lexeme}
    (suffix : [')'] <:+ left) (steps : Steps c (rest ++ [')']) lexeme? left) :
    ∃ after, left = after ++ [')'] ∧ ¬ OpenLine c rest ∧ Steps c rest lexeme? after := by
  have paren : Closes [')'] [')'] := ⟨⟨[], by simp, rfl⟩, by simp⟩
  have ended : ¬ OpenLine c rest := by
    rintro ⟨rfl, front, unended⟩
    obtain ⟨rest, rfl⟩ := List.head?_eq_some_iff.mp front
    have missing : '\n' ∉ rest := fun member => unended (List.mem_cons_of_mem _ member)
    have line : Steps '-' ('-' :: (rest ++ [')'])) none _ := .line
    rw [(steps.unique line).2, afterLine_of_open missing] at suffix
    exact absurd suffix (by decide)
  obtain ⟨after, same, inside⟩ := steps.of_append paren (by decide) suffix ended
  exact ⟨after, same, ended, inside⟩

/-- A walk to a closing parenthesis leads to whatever closes the text. -/
theorem Walk.retail (walk : Walk start (cs ++ [')']) [')'] tokens) (closes : Closes tail mark) :
    Walk start (cs ++ tail) mark tokens := by
  generalize whole : cs ++ [')'] = whole' at walk
  generalize ended : [')'] = last at walk
  induction walk generalizing cs with
  | here =>
      subst ended
      obtain rfl : cs = [] := List.append_left_eq_self.mp whole
      obtain ⟨⟨blanks, blank, rfl⟩, _⟩ := closes
      exact .of_blanks blank _ _
  | found steps walk ih =>
      subst ended
      have less := steps.suffix.length_le
      have reached := walk.suffix
      cases cs with
      | nil =>
          cases whole
          exact absurd (Nat.le_trans reached.length_le less) (by simp)
      | cons d rest =>
          rw [List.cons_append] at whole
          obtain ⟨rfl, rfl⟩ := List.cons.inj whole
          obtain ⟨after, rfl, inside, stepsInside⟩ := steps.of_append_paren reached
          have taken := taken_length_append rest after [')']
          rw [taken] at ih ⊢
          exact .found_append (stepsInside.append closes.apart inside) (ih rfl rfl)
  | passed steps walk ih =>
      subst ended
      have less := steps.suffix.length_le
      have reached := walk.suffix
      cases cs with
      | nil =>
          cases whole
          exact absurd (Nat.le_trans reached.length_le less) (by simp)
      | cons d rest =>
          rw [List.cons_append] at whole
          obtain ⟨rfl, rfl⟩ := List.cons.inj whole
          obtain ⟨after, rfl, inside, stepsInside⟩ := steps.of_append_paren reached
          have taken := taken_length_append rest after [')']
          rw [taken] at ih
          exact .passed_append (stepsInside.append closes.apart inside) (ih rfl rfl)

end Closing

end Token

end RowGuard
