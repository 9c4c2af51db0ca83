import RowGuard.Proofs.Token.Lexical

/-! A cast passes over a type name. Its reader looks further than any other rule:
over the blanks behind the name, for a length in brackets, for the other words of
the name and for dimensions. In front of a text that ends the name, it takes what
it takes of the name alone. -/

set_option autoImplicit false

namespace RowGuard

namespace Token

/-! ## Parts of a type name -/

section Parts

variable {size fuel : Nat} {cs rest left : List Char} {word : String}

theorem typeWord_unquoted {c : Char} (unquoted : c ≠ '"') :
    typeWord size (c :: rest) =
      if beginsName c then
        .ok (String.ofList (Text.lowerChars ((c :: rest).takeWhile continuesName)),
          (c :: rest).dropWhile continuesName)
      else .error (failAt size (c :: rest) "type name after '::'" (String.singleton c)) := by
  rw [typeWord]
  exact unquoted

theorem typeName_succ_iff :
    typeName size (fuel + 1) cs = .ok (word, left) ↔
      ∃ first middle, typeWord size cs = .ok (first, middle) ∧
        ((∃ rest, middle = '.' :: rest ∧ typeName size fuel rest = .ok (word, left)) ∨
          (middle.head? ≠ some '.' ∧ word = first ∧ left = middle)) := by
  constructor
  · intro read
    obtain ⟨⟨first, middle⟩, firstRead, read⟩ := except_bind_eq_ok read
    refine ⟨first, middle, firstRead, ?_⟩
    dsimp only at read
    split at read
    · exact .inl ⟨_, rfl, read⟩
    · rename_i other
      cases read
      refine .inr ⟨fun dotted => ?_, rfl, rfl⟩
      obtain ⟨rest, rfl⟩ := List.head?_eq_some_iff.mp dotted
      exact other rest rfl
  · rintro ⟨first, middle, firstRead, ⟨rest, rfl, read⟩ | ⟨other, rfl, rfl⟩⟩
    · rw [typeName, firstRead]
      exact read
    · rw [typeName, firstRead]
      dsimp only [bind, Except.bind]
      split
      · exact absurd rfl other
      · rfl

theorem typeWord_of_typeName (read : typeName size fuel cs = .ok (word, left)) :
    ∃ first middle, typeWord size cs = .ok (first, middle) ∧ left <:+ middle := by
  cases fuel with
  | zero => exact ⟨word, left, read, List.suffix_rfl⟩
  | succ fuel =>
      obtain ⟨first, middle, firstRead, ⟨rest, rfl, read⟩ | ⟨_, rfl, rfl⟩⟩ :=
        typeName_succ_iff.mp read
      · exact ⟨first, _, firstRead, (typeName_suffix read).trans (List.suffix_cons _ _)⟩
      · exact ⟨_, _, firstRead, List.suffix_rfl⟩

theorem skipModifiers_unopened (unopened : ∀ rest, cs.dropWhile Text.isBlank ≠ '(' :: rest) :
    skipModifiers size cs = .ok cs := by
  unfold skipModifiers
  split
  · exact absurd ‹_› (unopened _)
  · rfl

theorem skipModifiers_opened (opened : cs.dropWhile Text.isBlank = '(' :: rest) :
    skipModifiers size cs = .ok left ↔ afterFirst ')' rest = some left := by
  simp only [skipModifiers, opened]
  cases afterFirst ')' rest <;> simp

theorem skipDimensions_unopened (unopened : ∀ rest, cs.dropWhile Text.isBlank ≠ '[' :: rest) :
    skipDimensions size fuel cs = .ok cs := by
  cases fuel with
  | zero => rfl
  | succ fuel =>
      unfold skipDimensions
      split
      · exact absurd ‹_› (unopened _)
      · rfl

theorem skipDimensions_opened (opened : cs.dropWhile Text.isBlank = '[' :: rest) :
    skipDimensions size (fuel + 1) cs = .ok left ↔
      ∃ after, afterFirst ']' rest = some after ∧
        if (Text.trim (rest.take (rest.length - after.length - 1))).all Text.isDigit
        then skipDimensions size fuel after = .ok left else left = cs := by
  simp only [skipDimensions, opened]
  cases afterFirst ']' rest with
  | none => simp
  | some after =>
      simp only [Option.some.injEq, exists_eq_left']
      split
      · rfl
      · simp [eq_comm]

/-- Passes over the further words of a type name and what stands in brackets behind them. -/
def skipPhrase (size : Nat) (word : String) (cs : List Char) : Except ReadError (List Char) :=
  match (phrases word).findSome? (afterPhrase cs) with
  | some rest => skipModifiers size rest
  | none => .ok cs

theorem skipPhrase_suffix (read : skipPhrase size word cs = .ok left) : left <:+ cs := by
  unfold skipPhrase at read
  split at read
  · rename_i rest found
    obtain ⟨phrase, _, phraseRead⟩ := List.exists_of_findSome?_eq_some found
    exact (skipModifiers_suffix read).trans (afterPhrase_suffix phraseRead)
  · cases read
    exact List.suffix_rfl

theorem skipType_eq_bind (size : Nat) (cs : List Char) :
    skipType size cs = (do
      let named ← typeName size cs.length (cs.dropWhile Text.isBlank)
      let modified ← skipModifiers size named.2
      let phrased ← skipPhrase size named.1 modified
      skipDimensions size phrased.length phrased) := by
  rw [skipType]
  refine bind_congr fun named => bind_congr fun modified => ?_
  rw [skipPhrase]
  cases (phrases named.1).findSome? (afterPhrase modified) <;> rfl

theorem skipType_eq_ok_iff :
    skipType size cs = .ok left ↔
      ∃ word named modified phrased,
        typeName size cs.length (cs.dropWhile Text.isBlank) = .ok (word, named) ∧
        skipModifiers size named = .ok modified ∧ skipPhrase size word modified = .ok phrased ∧
        skipDimensions size phrased.length phrased = .ok left := by
  rw [skipType_eq_bind]
  constructor
  · intro read
    obtain ⟨⟨word, named⟩, nameRead, read⟩ := except_bind_eq_ok read
    obtain ⟨modified, modifiersRead, read⟩ := except_bind_eq_ok read
    obtain ⟨phrased, phrasedRead, read⟩ := except_bind_eq_ok read
    exact ⟨word, named, modified, phrased, nameRead, modifiersRead, phrasedRead, read⟩
  · rintro ⟨word, named, modified, phrased, nameRead, modifiersRead, phrasedRead, read⟩
    simp only [nameRead, modifiersRead, phrasedRead, bind, Except.bind]
    exact read

end Parts

/-! ## What follows a text -/

section Tails

variable {cs tail content after : List Char}

theorem dropWhile_isBlank_append (cs tail : List Char) :
    (cs.dropWhile Text.isBlank = [] ∧
      (cs ++ tail).dropWhile Text.isBlank = tail.dropWhile Text.isBlank) ∨
      ∃ c rest, cs.dropWhile Text.isBlank = c :: rest ∧
        (cs ++ tail).dropWhile Text.isBlank = c :: (rest ++ tail) := by
  rw [List.dropWhile_append]
  cases left : cs.dropWhile Text.isBlank with
  | nil => exact .inl ⟨rfl, rfl⟩
  | cons c rest => exact .inr ⟨c, rest, rfl, rfl⟩

theorem unquote_append {quote : Char} (stops : ∀ c ∈ tail.head?, c ≠ quote)
    (read : unquote quote cs = some (content, after)) :
    unquote quote (cs ++ tail) = some (content, after ++ tail) := by
  fun_induction unquote quote cs generalizing content with
  | case1 | case3 => cases read
  | case2 c found =>
      cases read
      cases tail with
      | nil => simp [unquote, found]
      | cons d tail => simp [unquote, found, stops d rfl]
  | case4 c d rest found doubled ih =>
      obtain ⟨inner, innerRead, same⟩ := Option.map_eq_some_iff.mp read
      cases same
      simp [unquote, found, doubled, ih innerRead]
  | case5 c d rest found single =>
      cases read
      simp [unquote, found, single]
  | case6 c d rest differs ih =>
      obtain ⟨inner, innerRead, same⟩ := Option.map_eq_some_iff.mp read
      cases same
      rw [List.cons_append] at ih
      simp [unquote, differs, ih innerRead]

theorem unquote_doubleQuotes {quote : Char} (cs : List Char) {behind : List Char}
    (ended : ∀ c ∈ behind.head?, c ≠ quote) :
    unquote quote (Text.doubleQuotes quote cs ++ quote :: behind) = some (cs, behind) := by
  induction cs with
  | nil =>
      cases behind with
      | nil => simp [Text.doubleQuotes, unquote]
      | cons d rest => simp [Text.doubleQuotes, unquote, ended d rfl]
  | cons c cs ih =>
      by_cases same : c = quote
      · subst same
        simp [Text.doubleQuotes, unquote, ih]
      · obtain ⟨d, rest, whole⟩ : ∃ d rest,
            Text.doubleQuotes quote cs ++ quote :: behind = d :: rest :=
          List.exists_cons_of_ne_nil (by simp)
        rw [whole] at ih
        simp [Text.doubleQuotes, same, whole, unquote, ih]

theorem afterPair_append {first second : Char} (read : afterPair first second cs = some after)
    (tail : List Char) : afterPair first second (cs ++ tail) = some (after ++ tail) := by
  fun_induction afterPair first second cs with
  | case1 | case2 => cases read
  | case3 c d rest found =>
      cases read
      simp [afterPair, found]
  | case4 c d rest differs ih =>
      rw [List.cons_append] at ih
      simp [afterPair, differs, ih read]

theorem afterFirst_append {wanted : Char} (read : afterFirst wanted cs = some after)
    (tail : List Char) : afterFirst wanted (cs ++ tail) = some (after ++ tail) := by
  fun_induction afterFirst wanted cs with
  | case1 => cases read
  | case2 c rest found =>
      cases read
      simp [afterFirst, found]
  | case3 c rest differs ih => simp [afterFirst, differs, ih read]

/-- The content of brackets does not depend on what follows them. -/
theorem inner_append (rest after tail : List Char) :
    (rest ++ tail).take ((rest ++ tail).length - (after ++ tail).length - 1) =
      rest.take (rest.length - after.length - 1) := by
  rw [List.length_append, List.length_append, Nat.add_sub_add_right,
    List.take_append_of_le_length (Nat.le_trans (Nat.sub_le _ _) (Nat.sub_le _ _))]

end Tails

/-! ## What ends a type name -/

/-- The words that a type name may go on with. -/
def phraseWords : List String :=
  ["varying", "precision", "with", "without", "time", "zone"]

/-- The word that stands behind the blanks at the front of a text, in lower case; it may be
empty. -/
def firstWord (cs : List Char) : String :=
  String.ofList (Text.lowerChars ((cs.dropWhile Text.isBlank).takeWhile continuesName))

/-- What may stand behind a dotted name. -/
def EndsName (tail : List Char) : Prop :=
  ∀ c ∈ tail.head?, continuesName c = false ∧ c ≠ '.' ∧ c ≠ '"'

theorem EndsName.of_isBlank {c : Char} (blank : Text.isBlank c) (rest : List Char) :
    EndsName (c :: rest) := by
  rintro _ ⟨⟩
  refine ⟨not_continuesName_of_isBlank blank, ?_, ?_⟩
  · rintro rfl
    exact absurd blank (by decide)
  · rintro rfl
    exact absurd blank (by decide)

/-- A text that does not go on with a type name in front of it. -/
structure EndsType (tail : List Char) : Prop where
  front : EndsName tail
  unopened : ∀ c ∈ (tail.dropWhile Text.isBlank).head?, c ≠ '(' ∧ c ≠ '['
  unphrased : firstWord tail ∉ phraseWords

theorem listed_of_mem_phrases {word : String} {parts : List String}
    (member : parts ∈ phrases word) :
    parts ≠ [] ∧ ∀ part ∈ parts, part ∈ phraseWords := by
  unfold phrases at member
  split at member <;> simp only [List.mem_cons, List.not_mem_nil, or_false] at member
  · subst member
    decide
  · subst member
    decide
  · subst member
    decide
  · rcases member with rfl | rfl <;> decide
  · rcases member with rfl | rfl <;> decide

namespace EndsType

variable {tail cs after : List Char} {word : String}

theorem stops (ends : EndsType tail) : ∀ c ∈ tail.head?, continuesName c = false :=
  fun c first => (ends.front c first).1

theorem ne_of_dropWhile (ends : EndsType tail) (rest : List Char) :
    tail.dropWhile Text.isBlank ≠ '(' :: rest ∧ tail.dropWhile Text.isBlank ≠ '[' :: rest := by
  constructor
  · intro opened
    exact (ends.unopened '(' (by rw [opened]; rfl)).1 rfl
  · intro opened
    exact (ends.unopened '[' (by rw [opened]; rfl)).2 rfl

theorem typeWord_append (ends : EndsType tail) (size size' : Nat)
    (read : typeWord size' cs = .ok (word, after)) :
    typeWord size (cs ++ tail) = .ok (word, after ++ tail) := by
  cases cs with
  | nil => cases read
  | cons c rest =>
      by_cases quoted : c = '"'
      · subst quoted
        rw [typeWord] at read
        rw [List.cons_append, typeWord]
        split at read
        · cases read
        · rename_i content after found
          cases read
          rw [unquote_append (fun c first => (ends.front c first).2.2) found]
          dsimp only
          rw [← List.cons_append, taken_append]
      · rw [typeWord_unquoted quoted] at read
        rw [List.cons_append, typeWord_unquoted quoted]
        split at read
        · rename_i begins
          cases read
          rw [if_pos begins, ← List.cons_append, takeWhile_append_of_stops ends.stops,
            dropWhile_append_of_stops ends.stops]
        · cases read

theorem typeName_append (ends : EndsType tail) (size size' : Nat) {fuel fuel' : Nat}
    (enough : cs.length ≤ fuel) (enough' : cs.length ≤ fuel')
    (read : typeName size' fuel' cs = .ok (word, after)) :
    typeName size fuel (cs ++ tail) = .ok (word, after ++ tail) := by
  induction fuel generalizing cs fuel' with
  | zero =>
      obtain rfl : cs = [] := List.eq_nil_of_length_eq_zero (Nat.le_zero.mp enough)
      obtain ⟨_, _, read, _⟩ := typeWord_of_typeName read
      cases read
  | succ fuel ih =>
      cases fuel' with
      | zero =>
          obtain rfl : cs = [] := List.eq_nil_of_length_eq_zero (Nat.le_zero.mp enough')
          cases read
      | succ fuel' =>
          obtain ⟨first, middle, firstRead, ⟨rest, rfl, read⟩ | ⟨other, rfl, rfl⟩⟩ :=
            typeName_succ_iff.mp read
          · have shorter := (typeWord_suffix firstRead).length_le
            rw [List.length_cons] at shorter
            have fewer : rest.length ≤ fuel := by omega
            have fewer' : rest.length ≤ fuel' := by omega
            exact typeName_succ_iff.mpr ⟨first, _, ends.typeWord_append size size' firstRead,
              .inl ⟨_, rfl, ih fewer fewer' read⟩⟩
          · refine typeName_succ_iff.mpr
              ⟨_, _, ends.typeWord_append size size' firstRead, .inr ⟨?_, rfl, rfl⟩⟩
            cases after with
            | nil => exact fun dotted => (ends.front '.' dotted).2.1 rfl
            | cons c inner => exact other

theorem skipModifiers_append (ends : EndsType tail) (size size' : Nat)
    (read : skipModifiers size' cs = .ok after) :
    skipModifiers size (cs ++ tail) = .ok (after ++ tail) := by
  rcases dropWhile_isBlank_append cs tail with ⟨blank, same⟩ | ⟨c, rest, filled, same⟩
  · rw [skipModifiers_unopened (by simp [blank])] at read
    cases read
    exact skipModifiers_unopened fun rest => same ▸ (ends.ne_of_dropWhile rest).1
  · by_cases opens : c = '('
    · subst opens
      exact (skipModifiers_opened same).mpr
        (afterFirst_append ((skipModifiers_opened filled).mp read) tail)
    · rw [skipModifiers_unopened (by simp [filled, opens])] at read
      cases read
      exact skipModifiers_unopened (by simp [same, opens])

theorem afterPhrase_append (ends : EndsType tail) {parts : List String}
    (listed : ∀ part ∈ parts, part ∈ phraseWords) (cs : List Char) :
    afterPhrase (cs ++ tail) parts = (afterPhrase cs parts).map (· ++ tail) := by
  induction parts generalizing cs with
  | nil => rfl
  | cons part parts ih =>
      have rest := ih fun part member => listed part (List.mem_cons_of_mem _ member)
      have named : part ∈ phraseWords := listed part List.mem_cons_self
      rw [afterPhrase, afterPhrase]
      rcases dropWhile_isBlank_append cs tail with ⟨blank, same⟩ | ⟨c, inner, filled, same⟩
      · have empty : (String.ofList (Text.lowerChars []) == part) = false := by
          rw [beq_eq_false_iff_ne]
          rintro rfl
          exact absurd named (by decide)
        have other : (firstWord tail == part) = false := by
          rw [beq_eq_false_iff_ne]
          rintro rfl
          exact ends.unphrased named
        rw [firstWord] at other
        simp [blank, same, empty, other]
      · rw [filled, same, ← List.cons_append, takeWhile_append_of_stops ends.stops,
          dropWhile_append_of_stops ends.stops, rest]
        split <;> rfl

theorem findSome?_afterPhrase (ends : EndsType tail) {choices : List (List String)}
    (listed : ∀ parts ∈ choices, ∀ part ∈ parts, part ∈ phraseWords) (cs : List Char) :
    choices.findSome? (afterPhrase (cs ++ tail)) =
      (choices.findSome? (afterPhrase cs)).map (· ++ tail) := by
  induction choices with
  | nil => rfl
  | cons parts choices ih =>
      rw [List.findSome?_cons, List.findSome?_cons,
        ends.afterPhrase_append (listed parts List.mem_cons_self),
        ih fun parts member => listed parts (List.mem_cons_of_mem _ member)]
      cases afterPhrase cs parts <;> rfl

/-- The words behind a type name are those of the text alone. -/
theorem skipPhrase_append (ends : EndsType tail) (size : Nat) (word : String) (cs : List Char) :
    skipPhrase size word (cs ++ tail) =
      match (phrases word).findSome? (afterPhrase cs) with
      | some rest => skipModifiers size (rest ++ tail)
      | none => .ok (cs ++ tail) := by
  rw [skipPhrase, ends.findSome?_afterPhrase fun _ member => (listed_of_mem_phrases member).2]
  cases (phrases word).findSome? (afterPhrase cs) <;> rfl

theorem skipDimensions_append (ends : EndsType tail) (size size' : Nat) {fuel fuel' : Nat}
    (enough : cs.length ≤ fuel) (enough' : cs.length ≤ fuel')
    (read : skipDimensions size' fuel' cs = .ok after) :
    skipDimensions size fuel (cs ++ tail) = .ok (after ++ tail) := by
  induction fuel generalizing cs fuel' with
  | zero =>
      obtain rfl : cs = [] := List.eq_nil_of_length_eq_zero (Nat.le_zero.mp enough)
      rw [skipDimensions_unopened (by simp)] at read
      cases read
      rfl
  | succ fuel ih =>
      rcases dropWhile_isBlank_append cs tail with ⟨blank, same⟩ | ⟨c, rest, filled, same⟩
      · rw [skipDimensions_unopened (by simp [blank])] at read
        cases read
        exact skipDimensions_unopened fun rest => same ▸ (ends.ne_of_dropWhile rest).2
      · by_cases opens : c = '['
        · subst opens
          have shorter := (List.dropWhile_suffix (l := cs) Text.isBlank).length_le
          rw [filled, List.length_cons] at shorter
          obtain ⟨fuel', rfl⟩ : ∃ n, fuel' = n + 1 := ⟨fuel' - 1, by omega⟩
          obtain ⟨middle, found, read⟩ := (skipDimensions_opened filled).mp read
          have fewer := (afterFirst_suffix found).length_le
          refine (skipDimensions_opened same).mpr
            ⟨middle ++ tail, afterFirst_append found tail, ?_⟩
          rw [inner_append]
          split at read
          · rename_i digits
            rw [if_pos digits]
            exact ih (by omega) (by omega : middle.length ≤ fuel') read
          · rename_i other
            rw [if_neg other, read]
        · rw [skipDimensions_unopened (by simp [filled, opens])] at read
          cases read
          exact skipDimensions_unopened (by simp [same, opens])

theorem skipType_append (ends : EndsType tail) (size size' : Nat)
    (read : skipType size' cs = .ok after) : skipType size (cs ++ tail) = .ok (after ++ tail) := by
  obtain ⟨word, named, modified, phrased, nameRead, modifiersRead, phrasedRead, read⟩ :=
    skipType_eq_ok_iff.mp read
  rcases dropWhile_isBlank_append cs tail with ⟨blank, _⟩ | ⟨c, rest, filled, same⟩
  · rw [blank] at nameRead
    obtain ⟨_, _, nameRead, _⟩ := typeWord_of_typeName nameRead
    cases nameRead
  · have shorter := (List.dropWhile_suffix (l := cs) Text.isBlank).length_le
    rw [filled] at shorter nameRead
    have longer : (c :: rest).length ≤ (cs ++ tail).length := by
      rw [List.length_append]
      omega
    refine skipType_eq_ok_iff.mpr ⟨word, named ++ tail, modified ++ tail, phrased ++ tail, ?_,
      ends.skipModifiers_append size size' modifiersRead, ?_,
      ends.skipDimensions_append size size' (by simp) (Nat.le_refl _) read⟩
    · rw [same, ← List.cons_append]
      exact ends.typeName_append size size' longer shorter nameRead
    · rw [ends.skipPhrase_append]
      unfold skipPhrase at phrasedRead
      split at phrasedRead
      · exact ends.skipModifiers_append size size' phrasedRead
      · cases phrasedRead
        rfl

end EndsType

theorem endsType_nil : EndsType [] :=
  ⟨by simp [EndsName], by simp, by decide⟩

/-- Where a type name stands decides the place of a failure, and no more. -/
theorem skipType_congr {size : Nat} {cs after : List Char} (read : skipType size cs = .ok after)
    (size' : Nat) : skipType size' cs = .ok after := by
  simpa using endsType_nil.skipType_append size' size read

end Token

end RowGuard
