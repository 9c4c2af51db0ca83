import RowGuard.Proofs.Token.TypeName

/-! Behind a text may follow blanks and then a closing parenthesis or nothing. A
lexical rule that does not read into the parenthesis takes then what it takes of
the text alone. -/

set_option autoImplicit false

namespace RowGuard

namespace Token

/-! ## Texts that close -/

/-- Blanks, and then a closing parenthesis or nothing, from `mark` on. -/
structure Closes (tail mark : List Char) : Prop where
  parts : ∃ blanks, (∀ c ∈ blanks, Text.isBlank c) ∧ tail = blanks ++ mark
  ends : ∀ c ∈ mark.head?, c = ')'

namespace Closes

variable {tail mark : List Char}

/-- What holds of no blank and of no parenthesis stops at the tail. -/
theorem stops (closes : Closes tail mark) {p : Char → Prop} (blank : ∀ c, Text.isBlank c → p c)
    (paren : p ')') : ∀ c ∈ tail.head?, p c := by
  obtain ⟨⟨blanks, blank', rfl⟩, ends⟩ := closes
  intro c first
  cases blanks with
  | nil =>
      cases ends c first
      exact paren
  | cons b blanks =>
      cases first
      exact blank _ (blank' _ List.mem_cons_self)

theorem ne_of_head (closes : Closes tail mark) {d : Char} (filled : Text.isBlank d = false)
    (other : d ≠ ')') : ∀ c ∈ tail.head?, c ≠ d := by
  refine closes.stops (fun c blank same => ?_) other.symm
  rw [same, filled] at blank
  cases blank

theorem dropWhile_isBlank (closes : Closes tail mark) : tail.dropWhile Text.isBlank = mark := by
  obtain ⟨⟨blanks, blank, rfl⟩, ends⟩ := closes
  rw [List.dropWhile_append_of_pos blank]
  cases mark with
  | nil => rfl
  | cons c rest =>
      cases ends c rfl
      rfl

theorem endsType (closes : Closes tail mark) : EndsType tail := by
  refine ⟨?_, ?_, ?_⟩
  · exact closes.stops (fun c blank => EndsName.of_isBlank blank [] c rfl) (by decide)
  · rw [closes.dropWhile_isBlank]
    intro c first
    cases closes.ends c first
    decide
  · have unnamed : mark.takeWhile continuesName = [] := by
      cases mark with
      | nil => rfl
      | cons c rest =>
          cases closes.ends c rfl
          rfl
    rw [firstWord, closes.dropWhile_isBlank, unnamed]
    decide

/-- A rule that takes something, and passes over blanks first, reads into the mark. -/
theorem not_suffix (closes : Closes tail mark) (rule : List Char → Option (List Char))
    {left : List Char} (takes : ∀ cs left, rule cs = some left → left.length < cs.length)
    (passes : ∀ c cs, Text.isBlank c → rule (c :: cs) = some left → rule cs = some left)
    (read : rule tail = some left) : ¬ mark <:+ left := by
  obtain ⟨⟨blanks, blank, rfl⟩, _⟩ := closes
  intro suffix
  induction blanks with
  | nil => exact absurd suffix.length_le (Nat.not_le.mpr (takes _ _ read))
  | cons b blanks ih =>
      exact ih (fun c member => blank c (List.mem_cons_of_mem _ member))
        (passes b _ (blank b List.mem_cons_self) read)

theorem ne_of_isBlank {c d : Char} (blank : Text.isBlank c) (filled : Text.isBlank d = false) :
    (c == d) = false := by
  rw [beq_eq_false_iff_ne]
  rintro rfl
  rw [blank] at filled
  cases filled

theorem unquote_length {quote : Char} {cs content left : List Char}
    (read : unquote quote cs = some (content, left)) : left.length < cs.length := by
  fun_induction unquote quote cs generalizing content with
  | case1 | case3 => cases read
  | case2 | case5 =>
      cases read
      simp
  | case4 c d rest _ _ ih | case6 c d rest _ ih =>
      obtain ⟨inner, innerRead, same⟩ := Option.map_eq_some_iff.mp read
      cases same
      have := ih innerRead
      simp only [List.length_cons] at this ⊢
      omega

theorem not_unquote (closes : Closes tail mark) {quote : Char} {content left : List Char}
    (filled : Text.isBlank quote = false) (read : unquote quote tail = some (content, left)) :
    ¬ mark <:+ left := by
  refine closes.not_suffix (fun cs => (unquote quote cs).map Prod.snd) (fun cs left read => ?_)
    (fun c cs blank read => ?_) (congrArg (Option.map Prod.snd) read)
  · obtain ⟨⟨_, _⟩, quoted, rfl⟩ := Option.map_eq_some_iff.mp read
    exact unquote_length quoted
  · cases cs with
    | nil => simp [unquote, ne_of_isBlank blank filled] at read
    | cons d rest => simpa [unquote, ne_of_isBlank blank filled] using read

theorem unquote_of_append (closes : Closes tail mark) {quote : Char} {cs content left : List Char}
    (filled : Text.isBlank quote = false) (other : quote ≠ ')') (suffix : mark <:+ left)
    (read : unquote quote (cs ++ tail) = some (content, left)) :
    ∃ after, left = after ++ tail ∧ unquote quote cs = some (content, after) := by
  fun_induction unquote quote cs generalizing content with
  | case1 => exact absurd suffix (closes.not_unquote filled read)
  | case2 c found =>
      have closed : unquote quote [c] = some ([], []) := by simp [unquote, found]
      rw [unquote_append (closes.ne_of_head filled other) closed] at read
      cases read
      exact ⟨[], rfl, rfl⟩
  | case3 c differs =>
      cases tail with
      | nil => simp [unquote, differs] at read
      | cons d tail =>
          simp only [List.cons_append, List.nil_append, unquote, differs] at read
          obtain ⟨inner, innerRead, same⟩ := Option.map_eq_some_iff.mp read
          cases same
          exact absurd suffix (closes.not_unquote filled innerRead)
  | case4 c d rest found doubled ih =>
      simp only [List.cons_append, unquote, found, doubled, if_true] at read
      obtain ⟨⟨inner, _⟩, innerRead, same⟩ := Option.map_eq_some_iff.mp read
      cases same
      obtain ⟨after, rfl, inside⟩ := ih innerRead
      exact ⟨after, rfl, by simp [inside]⟩
  | case5 c d rest found single =>
      simp only [List.cons_append, unquote, found, single, if_true] at read
      cases read
      exact ⟨d :: rest, rfl, rfl⟩
  | case6 c d rest differs ih =>
      simp only [List.cons_append, unquote, differs] at ih read
      obtain ⟨⟨inner, _⟩, innerRead, same⟩ := Option.map_eq_some_iff.mp read
      cases same
      obtain ⟨after, rfl, inside⟩ := ih innerRead
      exact ⟨after, rfl, by simp [inside]⟩

theorem not_afterPair (closes : Closes tail mark) {first second : Char} {left : List Char}
    (filled : Text.isBlank first = false) (read : afterPair first second tail = some left) :
    ¬ mark <:+ left := by
  refine closes.not_suffix (afterPair first second) (fun cs left read => ?_)
    (fun c cs blank read => ?_) read
  · fun_induction afterPair first second cs with
    | case1 | case2 => cases read
    | case3 =>
        cases read
        simp only [List.length_cons]
        omega
    | case4 c d rest other ih => exact Nat.lt_succ_of_lt (ih read)
  · cases cs with
    | nil => cases read
    | cons d rest => simpa [afterPair, ne_of_isBlank blank filled] using read

theorem afterPair_of_append (closes : Closes tail mark) {first second : Char}
    {cs left : List Char} (firstFilled : Text.isBlank first = false)
    (secondFilled : Text.isBlank second = false) (other : second ≠ ')') (suffix : mark <:+ left)
    (read : afterPair first second (cs ++ tail) = some left) :
    ∃ after, left = after ++ tail ∧ afterPair first second cs = some after := by
  fun_induction afterPair first second cs with
  | case1 => exact absurd suffix (closes.not_afterPair firstFilled read)
  | case2 c =>
      cases tail with
      | nil => cases read
      | cons d tail =>
          have differs : (d == second) = false :=
            beq_eq_false_iff_ne.mpr (closes.ne_of_head secondFilled other d rfl)
          rw [List.cons_append, List.nil_append, afterPair, differs, Bool.and_false] at read
          exact absurd suffix (closes.not_afterPair firstFilled read)
  | case3 c d rest found =>
      simp only [List.cons_append, afterPair, found, if_true] at read
      cases read
      exact ⟨rest, rfl, rfl⟩
  | case4 c d rest differs ih =>
      simp only [List.cons_append, afterPair, differs] at ih read
      exact ih read

theorem not_afterFirst (closes : Closes tail mark) {wanted : Char} {left : List Char}
    (filled : Text.isBlank wanted = false) (read : afterFirst wanted tail = some left) :
    ¬ mark <:+ left := by
  refine closes.not_suffix (afterFirst wanted) (fun cs left read => ?_)
    (fun c cs blank read => ?_) read
  · fun_induction afterFirst wanted cs with
    | case1 => cases read
    | case2 =>
        cases read
        simp
    | case3 c rest other ih => exact Nat.lt_succ_of_lt (ih read)
  · simpa [afterFirst, ne_of_isBlank blank filled] using read

theorem afterFirst_eq_append {wanted : Char} {cs left : List Char}
    (missed : afterFirst wanted tail ≠ some left)
    (read : afterFirst wanted (cs ++ tail) = some left) :
    ∃ after, left = after ++ tail ∧ afterFirst wanted cs = some after := by
  fun_induction afterFirst wanted cs with
  | case1 => exact absurd read missed
  | case2 c rest found =>
      simp only [List.cons_append, afterFirst, found, if_true] at read
      cases read
      exact ⟨rest, rfl, rfl⟩
  | case3 c rest differs ih =>
      simp only [List.cons_append, afterFirst, differs] at read
      exact ih read

theorem afterFirst_eq_none {wanted : Char} {cs : List Char} (missing : wanted ∉ cs) :
    afterFirst wanted cs = none := by
  fun_induction afterFirst wanted cs with
  | case1 => rfl
  | case2 c rest found => simp_all
  | case3 c rest other ih => exact ih fun member => missing (List.mem_cons_of_mem _ member)

theorem not_mem (closes : Closes tail mark) {d : Char} (filled : Text.isBlank d = false)
    (absent : d ∉ mark) : d ∉ tail := by
  obtain ⟨⟨blanks, blank, rfl⟩, _⟩ := closes
  simp only [List.mem_append, not_or]
  exact ⟨fun member => absurd (blank d member) (by simp [filled]), absent⟩

theorem not_beginsName (closes : Closes tail mark) : ∀ c ∈ tail.head?, beginsName c = false := by
  refine closes.stops (fun c blank => ?_) (by decide)
  rw [Bool.eq_false_iff]
  intro begins
  rw [not_isBlank_of_beginsName begins] at blank
  cases blank

theorem typeWord_of_append (closes : Closes tail mark) (size size' : Nat) {word : String}
    {cs left : List Char} (suffix : mark <:+ left)
    (read : typeWord size (cs ++ tail) = .ok (word, left)) :
    ∃ after, left = after ++ tail ∧ typeWord size' cs = .ok (word, after) := by
  cases cs with
  | nil =>
      cases tail with
      | nil => cases read
      | cons c tail =>
          have unquoted := closes.ne_of_head (d := '"') (by decide) (by decide) c rfl
          rw [List.nil_append, typeWord_unquoted unquoted, closes.not_beginsName c rfl] at read
          cases read
  | cons c rest =>
      by_cases quoted : c = '"'
      · subst quoted
        rw [List.cons_append, typeWord] at read
        rw [typeWord]
        split at read
        · cases read
        · rename_i content left found
          cases read
          obtain ⟨after, rfl, inside⟩ :=
            closes.unquote_of_append (by decide) (by decide) suffix found
          refine ⟨after, rfl, ?_⟩
          rw [inside, ← List.cons_append, taken_append]
      · rw [List.cons_append, typeWord_unquoted quoted, ← List.cons_append,
          takeWhile_append_of_stops closes.endsType.stops,
          dropWhile_append_of_stops closes.endsType.stops] at read
        rw [typeWord_unquoted quoted]
        split at read
        · rename_i begins
          cases read
          exact ⟨_, rfl, if_pos begins⟩
        · cases read

theorem ne_nil_of_typeName (closes : Closes tail mark) {size fuel : Nat} {word : String}
    {cs left : List Char} (suffix : mark <:+ left)
    (read : typeName size fuel (cs ++ tail) = .ok (word, left)) : cs ≠ [] := by
  rintro rfl
  obtain ⟨_, _, read, left⟩ := typeWord_of_typeName read
  obtain ⟨_, _, read⟩ := closes.typeWord_of_append size 0 (suffix.trans left) read
  cases read

theorem typeName_of_append (closes : Closes tail mark) (size size' : Nat) {fuel fuel' : Nat}
    {word : String} {left cs : List Char} (suffix : mark <:+ left) (enough : cs.length ≤ fuel)
    (enough' : cs.length ≤ fuel') (read : typeName size fuel (cs ++ tail) = .ok (word, left)) :
    ∃ after, left = after ++ tail ∧ typeName size' fuel' cs = .ok (word, after) := by
  have dotless : tail.head? ≠ some '.' :=
    fun dotted => closes.ne_of_head (by decide) (by decide) '.' dotted rfl
  have named := closes.ne_nil_of_typeName suffix read
  induction fuel generalizing cs fuel' with
  | zero => exact absurd (List.eq_nil_of_length_eq_zero (Nat.le_zero.mp enough)) named
  | succ fuel ih =>
      cases fuel' with
      | zero => exact absurd (List.eq_nil_of_length_eq_zero (Nat.le_zero.mp enough')) named
      | succ fuel' =>
          simp only [typeName_succ_iff] at read ⊢
          obtain ⟨first, middle, firstRead, ⟨rest, rfl, read⟩ | ⟨other, rfl, rfl⟩⟩ := read
          · have within := suffix.trans ((typeName_suffix read).trans (List.suffix_cons '.' rest))
            obtain ⟨after, same, inside⟩ := closes.typeWord_of_append size size' within firstRead
            cases after with
            | nil => exact absurd (congrArg List.head? same).symm dotless
            | cons c inner =>
                cases same
                have shorter := (typeWord_suffix inside).length_le
                rw [List.length_cons] at shorter
                have fewer : inner.length ≤ fuel := by omega
                have fewer' : inner.length ≤ fuel' := by omega
                obtain ⟨after, rfl, more⟩ :=
                  ih fewer fewer' read (closes.ne_nil_of_typeName suffix read)
                exact ⟨after, rfl, first, _, inside, .inl ⟨inner, rfl, more⟩⟩
          · obtain ⟨after, rfl, inside⟩ := closes.typeWord_of_append size size' suffix firstRead
            refine ⟨after, rfl, _, _, inside, .inr ⟨fun dotted => other ?_, rfl, rfl⟩⟩
            rw [List.head?_append, dotted]
            rfl

theorem skipModifiers_of_append (closes : Closes tail mark) (size size' : Nat)
    {cs left : List Char} (suffix : mark <:+ left)
    (read : skipModifiers size (cs ++ tail) = .ok left) :
    ∃ after, left = after ++ tail ∧ skipModifiers size' cs = .ok after := by
  rcases dropWhile_isBlank_append cs tail with ⟨blank, same⟩ | ⟨c, rest, filled, same⟩
  · rw [skipModifiers_unopened fun rest => same ▸ (closes.endsType.ne_of_dropWhile rest).1] at read
    cases read
    exact ⟨cs, rfl, skipModifiers_unopened (by simp [blank])⟩
  · by_cases opens : c = '('
    · subst opens
      rw [skipModifiers_opened same] at read
      have missed : afterFirst ')' tail ≠ some left :=
        fun read => closes.not_afterFirst (by decide) read suffix
      obtain ⟨after, rfl, inside⟩ := afterFirst_eq_append missed read
      exact ⟨after, rfl, (skipModifiers_opened filled).mpr inside⟩
    · rw [skipModifiers_unopened (by simp [same, opens])] at read
      cases read
      exact ⟨cs, rfl, skipModifiers_unopened (by simp [filled, opens])⟩

/-- Without a bracket behind the text, what is passed over there is passed over in the text. -/
theorem skipDimensions_of_append (closes : Closes tail mark) (shut : ']' ∉ mark)
    (size size' : Nat) {fuel fuel' : Nat} {left cs : List Char} (enough : cs.length ≤ fuel)
    (enough' : cs.length ≤ fuel') (read : skipDimensions size fuel (cs ++ tail) = .ok left) :
    ∃ after, left = after ++ tail ∧ skipDimensions size' fuel' cs = .ok after := by
  induction fuel generalizing cs fuel' with
  | zero =>
      obtain rfl : cs = [] := List.eq_nil_of_length_eq_zero (Nat.le_zero.mp enough)
      cases read
      exact ⟨[], rfl, skipDimensions_unopened (by simp)⟩
  | succ fuel ih =>
      rcases dropWhile_isBlank_append cs tail with ⟨blank, same⟩ | ⟨c, rest, filled, same⟩
      · rw [skipDimensions_unopened fun rest =>
          same ▸ (closes.endsType.ne_of_dropWhile rest).2] at read
        cases read
        exact ⟨cs, rfl, skipDimensions_unopened (by simp [blank])⟩
      · by_cases opens : c = '['
        · subst opens
          have shorter := (List.dropWhile_suffix (l := cs) Text.isBlank).length_le
          rw [filled, List.length_cons] at shorter
          obtain ⟨fuel', rfl⟩ : ∃ n, fuel' = n + 1 := ⟨fuel' - 1, by omega⟩
          obtain ⟨middle, found, read⟩ := (skipDimensions_opened same).mp read
          have missed : afterFirst ']' tail ≠ some middle := by
            rw [afterFirst_eq_none (closes.not_mem (by decide) shut)]
            nofun
          obtain ⟨after, rfl, inside⟩ := afterFirst_eq_append missed found
          have fewer := (afterFirst_suffix inside).length_le
          rw [inner_append] at read
          split at read
          · rename_i digits
            obtain ⟨last, rfl, more⟩ := ih (by omega) (by omega : after.length ≤ fuel') read
            exact ⟨last, rfl, (skipDimensions_opened filled).mpr
              ⟨after, inside, by rwa [if_pos digits]⟩⟩
          · rename_i other
            exact ⟨cs, read, (skipDimensions_opened filled).mpr
              ⟨after, inside, by rw [if_neg other]⟩⟩
        · rw [skipDimensions_unopened (by simp [same, opens])] at read
          cases read
          exact ⟨cs, rfl, skipDimensions_unopened (by simp [filled, opens])⟩

theorem skipPhrase_of_append (closes : Closes tail mark) (size size' : Nat) {word : String}
    {cs left : List Char} (suffix : mark <:+ left)
    (read : skipPhrase size word (cs ++ tail) = .ok left) :
    ∃ after, left = after ++ tail ∧ skipPhrase size' word cs = .ok after := by
  rw [closes.endsType.skipPhrase_append] at read
  unfold skipPhrase
  split at read
  · exact closes.skipModifiers_of_append size size' suffix read
  · cases read
    exact ⟨cs, rfl, rfl⟩

theorem skipType_of_append (closes : Closes tail mark) (shut : ']' ∉ mark) (size size' : Nat)
    {left cs : List Char} (suffix : mark <:+ left)
    (read : skipType size (cs ++ tail) = .ok left) :
    ∃ after, left = after ++ tail ∧ skipType size' cs = .ok after := by
  obtain ⟨word, named, modified, phrased, nameRead, modifiersRead, phrasedRead, read⟩ :=
    skipType_eq_ok_iff.mp read
  have withinPhrased := suffix.trans (skipDimensions_suffix read)
  have withinModified := withinPhrased.trans (skipPhrase_suffix phrasedRead)
  have withinNamed := withinModified.trans (skipModifiers_suffix modifiersRead)
  rcases dropWhile_isBlank_append cs tail with ⟨_, same⟩ | ⟨c, rest, filled, same⟩
  · rw [same, closes.dropWhile_isBlank] at nameRead
    obtain ⟨_, _, nameRead, _⟩ := typeWord_of_typeName nameRead
    cases mark with
    | nil => cases nameRead
    | cons c rest =>
        cases closes.ends c rfl
        simp [typeWord, show beginsName ')' = false from by decide] at nameRead
  · have shorter := (List.dropWhile_suffix (l := cs) Text.isBlank).length_le
    rw [filled] at shorter
    have longer : (c :: rest).length ≤ (cs ++ tail).length := by
      rw [List.length_append]
      omega
    rw [same, ← List.cons_append] at nameRead
    obtain ⟨named, rfl, nameInside⟩ :=
      closes.typeName_of_append size size' withinNamed longer shorter nameRead
    obtain ⟨modified, rfl, modifiersInside⟩ :=
      closes.skipModifiers_of_append size size' withinModified modifiersRead
    obtain ⟨phrased, rfl, phrasedInside⟩ :=
      closes.skipPhrase_of_append size size' withinPhrased phrasedRead
    obtain ⟨after, rfl, inside⟩ :=
      closes.skipDimensions_of_append shut size size' (by simp) (Nat.le_refl _) read
    refine ⟨after, rfl, skipType_eq_ok_iff.mpr
      ⟨word, named, modified, phrased, ?_, modifiersInside, phrasedInside, inside⟩⟩
    rwa [filled]

end Closes

end Token

end RowGuard
