import RowGuard.Proofs.Expr.Reading

/-! A cast carries no meaning. A type name is written as a dotted name or as one of
the names of several words, with a length or precision and with dimensions; a cast
to it reads all of it and nothing of what follows. So a text with a cast in it has
the lexemes of the text with a space in the place of the cast. -/

set_option autoImplicit false

namespace RowGuard

namespace Token

open RowGuard.Expr (isWord EndsWord)

/-! ## Type names as they are written -/

/-- A word of a type name, plain or in double quotes. -/
inductive TypeWord : List Char → Prop where
  | plain {word : List Char} : isWord word → TypeWord word
  | quoted (content : List Char) : TypeWord ('"' :: (Text.doubleQuotes '"' content ++ ['"']))

/-- Words with dots between them. -/
inductive TypeChain : List Char → Prop where
  | word {word : List Char} : TypeWord word → TypeChain word
  | dot {word rest : List Char} : TypeWord word → TypeChain rest → TypeChain (word ++ '.' :: rest)

/-- A length or precision in parentheses, or nothing. -/
inductive Modifier : List Char → Prop where
  | absent : Modifier []
  | given {gap inner : List Char} : (∀ c ∈ gap, Text.isBlank c) → ')' ∉ inner →
      Modifier (gap ++ '(' :: (inner ++ [')']))

/-- The dimensions of an array, with or without their sizes. -/
inductive Dimensions : List Char → Prop where
  | absent : Dimensions []
  | more {gap before digits after rest : List Char} : (∀ c ∈ gap, Text.isBlank c) →
      (∀ c ∈ before, Text.isBlank c) → (∀ c ∈ digits, Text.isDigit c) →
      (∀ c ∈ after, Text.isBlank c) → Dimensions rest →
      Dimensions (gap ++ '[' :: (before ++ digits ++ after ++ ']' :: rest))

/-- The words of a phrase, in whatever case they are written. -/
inductive Phrase : List String → List Char → Prop where
  | done : Phrase [] []
  | part {gap word rest : List Char} {part : String} {parts : List String} :
      (∀ c ∈ gap, Text.isBlank c) → isWord word → String.ofList (Text.lowerChars word) = part →
      EndsWord rest → Phrase parts rest →
      Phrase (part :: parts) (gap ++ (word ++ rest))

/-- The type names of several words. -/
def multiWordTypes : List (List String) :=
  [["character", "varying"], ["bit", "varying"], ["double", "precision"],
    ["timestamp", "with", "time", "zone"], ["timestamp", "without", "time", "zone"],
    ["time", "with", "time", "zone"], ["time", "without", "time", "zone"]]

/-- Type names. One of several words may have its length behind the first of them too, and needs
no blank there then. -/
inductive IsTypeName : List Char → Prop where
  | chain {name modifier dimensions : List Char} : TypeChain name → Modifier modifier →
      Dimensions dimensions → IsTypeName (name ++ (modifier ++ dimensions))
  | phrase {first inner further modifier dimensions : List Char} {parts : List String} :
      isWord first → String.ofList (Text.lowerChars first) :: parts ∈ multiWordTypes →
      Modifier inner → EndsWord (inner ++ further) → Phrase parts further → Modifier modifier →
      Dimensions dimensions →
      IsTypeName (first ++ (inner ++ (further ++ (modifier ++ dimensions))))

/-! ## Words -/

section Words

variable {word cs tail : List Char}

theorem continuesName_of_isWord (isWord : isWord word) : ∀ c ∈ word, continuesName c := by
  cases word with
  | nil => cases isWord
  | cons c rest =>
      rw [Expr.isWord, Bool.and_eq_true, List.all_eq_true] at isWord
      exact List.forall_mem_cons.mpr ⟨continuesName_of_beginsName isWord.1, isWord.2⟩

theorem takeWhile_word (run : ∀ c ∈ word, continuesName c) (ended : EndsWord tail) :
    (word ++ tail).takeWhile continuesName = word := by
  rw [takeWhile_append_of_stops ended, List.takeWhile_eq_self_iff.mpr run]

theorem dropWhile_word (run : ∀ c ∈ word, continuesName c) (ended : EndsWord tail) :
    (word ++ tail).dropWhile continuesName = tail := by
  rw [dropWhile_append_of_stops ended, List.dropWhile_eq_nil_iff.mpr run, List.nil_append]

theorem EndsName.endsWord (ends : EndsName tail) : EndsWord tail :=
  fun c first => (ends c first).1

theorem typeWord_plain (isWord : isWord word) (ended : EndsWord tail) (size : Nat) :
    typeWord size (word ++ tail) = .ok (String.ofList (Text.lowerChars word), tail) := by
  have run := continuesName_of_isWord isWord
  cases word with
  | nil => cases isWord
  | cons c rest =>
      rw [Expr.isWord, Bool.and_eq_true] at isWord
      have unquoted : c ≠ '"' := ne_of_beginsName isWord.1 (by decide)
      rw [List.cons_append, typeWord_unquoted unquoted, if_pos isWord.1, ← List.cons_append,
        takeWhile_word run ended, dropWhile_word run ended]

theorem TypeWord.read (typeWord : TypeWord word) (ended : EndsWord tail)
    (unquoted : ∀ c ∈ tail.head?, c ≠ '"') (size : Nat) :
    ∃ text, Token.typeWord size (word ++ tail) = .ok (text, tail) := by
  cases typeWord with
  | plain isWord => exact ⟨_, typeWord_plain isWord ended size⟩
  | quoted content =>
      have closed : unquote '"' (Text.doubleQuotes '"' content ++ ['"'] ++ tail) =
          some (content, tail) := by
        rw [List.append_assoc]
        exact unquote_doubleQuotes content unquoted
      rw [List.cons_append, Token.typeWord, closed]
      exact ⟨_, rfl⟩

theorem TypeWord.filled (typeWord : TypeWord word) :
    ∃ c rest, word = c :: rest ∧ Text.isBlank c = false := by
  cases typeWord with
  | plain isWord =>
      cases word with
      | nil => cases isWord
      | cons c rest =>
          rw [Expr.isWord, Bool.and_eq_true] at isWord
          exact ⟨c, rest, rfl, not_isBlank_of_beginsName isWord.1⟩
  | quoted content => exact ⟨_, _, rfl, by decide⟩

theorem TypeChain.filled (chain : TypeChain cs) :
    ∃ c rest, cs = c :: rest ∧ Text.isBlank c = false := by
  cases chain with
  | word typeWord => exact typeWord.filled
  | dot typeWord chain =>
      obtain ⟨c, rest, rfl, filled⟩ := typeWord.filled
      exact ⟨c, _, rfl, filled⟩

theorem TypeChain.read (chain : TypeChain cs) (ends : EndsName tail) (size : Nat) {fuel : Nat}
    (enough : cs.length ≤ fuel) : ∃ text, typeName size fuel (cs ++ tail) = .ok (text, tail) := by
  induction chain generalizing fuel with
  | word typeWord =>
      obtain ⟨c, rest, rfl, _⟩ := typeWord.filled
      rw [List.length_cons] at enough
      obtain ⟨fuel, rfl⟩ : ∃ n, fuel = n + 1 := ⟨fuel - 1, by omega⟩
      obtain ⟨text, read⟩ := typeWord.read ends.endsWord (fun c first => (ends c first).2.2) size
      refine ⟨text, typeName_succ_iff.mpr ⟨text, tail, read, .inr ⟨fun dotted => ?_, rfl, rfl⟩⟩⟩
      exact (ends '.' dotted).2.1 rfl
  | @dot word rest typeWord chain ih =>
      rw [List.length_append, List.length_cons] at enough
      obtain ⟨fuel, rfl⟩ : ∃ n, fuel = n + 1 := ⟨fuel - 1, by omega⟩
      have pointed : ∀ c ∈ ('.' :: (rest ++ tail)).head?, continuesName c = false ∧ c ≠ '"' := by
        rintro _ ⟨⟩
        decide
      obtain ⟨first, firstRead⟩ := typeWord.read (fun c front => (pointed c front).1)
        (fun c front => (pointed c front).2) size
      obtain ⟨text, read⟩ := ih (by omega : rest.length ≤ fuel)
      rw [List.append_assoc]
      exact ⟨text, typeName_succ_iff.mpr ⟨first, _, firstRead, .inl ⟨_, rfl, read⟩⟩⟩

end Words

/-! ## Brackets and further words -/

section Parts

variable {cs gap tail : List Char}

theorem EndsName.of_blanks (blank : ∀ c ∈ gap, Text.isBlank c) (ends : EndsName tail) :
    EndsName (gap ++ tail) := by
  cases gap with
  | nil => exact ends
  | cons c gap => exact .of_isBlank (blank c List.mem_cons_self) _

theorem EndsName.of_mark {c : Char} (mark : c = '(' ∨ c = '[') (rest : List Char) :
    EndsName (c :: rest) := by
  rintro _ ⟨⟩
  rcases mark with rfl | rfl <;> decide

theorem Modifier.endsName (modifier : Modifier cs) (ends : cs = [] → EndsName tail) :
    EndsName (cs ++ tail) := by
  cases modifier with
  | absent => exact ends rfl
  | given blank _ =>
      rw [List.append_assoc]
      exact .of_blanks blank (.of_mark (.inl rfl) _)

theorem Dimensions.endsName (dimensions : Dimensions cs) : EndsName cs := by
  cases dimensions with
  | absent => nofun
  | more blank => exact .of_blanks blank (.of_mark (.inr rfl) _)

theorem dropWhile_blanks (blank : ∀ c ∈ gap, Text.isBlank c) {c : Char}
    (filled : Text.isBlank c = false) (rest : List Char) :
    (gap ++ c :: rest).dropWhile Text.isBlank = c :: rest := by
  rw [List.dropWhile_append_of_pos blank, List.dropWhile_cons_of_neg (by simp [filled])]

theorem afterFirst_of_not_mem {wanted : Char} (missing : wanted ∉ cs) (tail : List Char) :
    afterFirst wanted (cs ++ wanted :: tail) = some tail := by
  induction cs with
  | nil => simp [afterFirst]
  | cons c rest ih =>
      rw [List.mem_cons, not_or] at missing
      simp [afterFirst, Ne.symm missing.1, ih missing.2]

theorem Modifier.skip (modifier : Modifier cs) (size : Nat)
    (unopened : ∀ rest, tail.dropWhile Text.isBlank ≠ '(' :: rest) :
    skipModifiers size (cs ++ tail) = .ok tail := by
  cases modifier with
  | absent => exact skipModifiers_unopened unopened
  | @given gap inner blank missing =>
      have opened : (gap ++ '(' :: (inner ++ [')']) ++ tail).dropWhile Text.isBlank =
          '(' :: (inner ++ ')' :: tail) := by
        rw [List.append_assoc, List.cons_append, List.append_assoc]
        exact dropWhile_blanks blank (by decide) _
      exact (skipModifiers_opened opened).mpr (afterFirst_of_not_mem missing tail)

theorem trim_padded {before run after : List Char} (blankBefore : ∀ c ∈ before, Text.isBlank c)
    (filled : ∀ c ∈ run, Text.isBlank c = false) (blankAfter : ∀ c ∈ after, Text.isBlank c) :
    Text.trim (before ++ run ++ after) = run := by
  rw [Text.trim, List.append_assoc, List.dropWhile_append_of_pos blankBefore]
  cases run with
  | nil =>
      rw [List.nil_append, List.dropWhile_eq_nil_iff.mpr blankAfter]
      rfl
  | cons c rest =>
      have first : ∀ d ∈ (c :: rest ++ after).head?, Text.isBlank d = false := by
        rintro _ ⟨⟩
        exact filled c List.mem_cons_self
      have last : ∀ d ∈ (c :: rest).reverse.head?, Text.isBlank d = false :=
        fun d front => filled d (List.mem_reverse.mp (List.mem_of_head? front))
      rw [Text.dropWhile_of_filled first, List.reverse_append,
        List.dropWhile_append_of_pos (by simpa using blankAfter), Text.dropWhile_of_filled last,
        List.reverse_reverse]

theorem Dimensions.skip (dimensions : Dimensions cs) (size : Nat) {fuel : Nat}
    (enough : cs.length ≤ fuel) : skipDimensions size fuel cs = .ok [] := by
  induction dimensions generalizing fuel with
  | absent => exact skipDimensions_unopened (by simp)
  | @more gap before digits after rest blank blankBefore isDigits blankAfter _ ih =>
      have missing : ']' ∉ before ++ digits ++ after := by
        simp only [List.mem_append, not_or]
        exact ⟨⟨fun member => absurd (blankBefore _ member) (by decide),
          fun member => absurd (isDigits _ member) (by decide)⟩,
          fun member => absurd (blankAfter _ member) (by decide)⟩
      have filled : ∀ c ∈ digits, Text.isBlank c = false :=
        fun c member => not_isBlank_of_isDigit (isDigits c member)
      have longer : rest.length < fuel := by
        simp only [List.length_append, List.length_cons] at enough
        omega
      obtain ⟨fuel, rfl⟩ : ∃ n, fuel = n + 1 := ⟨fuel - 1, by omega⟩
      have inner : ∀ cs : List Char,
          (cs ++ ']' :: rest).take ((cs ++ ']' :: rest).length - rest.length - 1) = cs := by
        intro cs
        rw [List.length_append, List.length_cons, ← Nat.add_assoc,
          show cs.length + rest.length + 1 - rest.length - 1 = cs.length by omega,
          List.take_left]
      refine (skipDimensions_opened (dropWhile_blanks blank (by decide) _)).mpr
        ⟨rest, afterFirst_of_not_mem missing rest, ?_⟩
      rw [inner, trim_padded blankBefore filled blankAfter,
        if_pos (List.all_eq_true.mpr isDigits)]
      exact ih (by omega)

theorem Dimensions.dropWhile (dimensions : Dimensions cs) :
    cs.dropWhile Text.isBlank = [] ∨ ∃ rest, cs.dropWhile Text.isBlank = '[' :: rest := by
  cases dimensions with
  | absent => exact .inl rfl
  | more blank => exact .inr ⟨_, dropWhile_blanks blank (by decide) _⟩

theorem Dimensions.unopened (dimensions : Dimensions cs) (rest : List Char) :
    cs.dropWhile Text.isBlank ≠ '(' :: rest := by
  rcases dimensions.dropWhile with same | ⟨_, same⟩ <;> simp [same]

theorem Dimensions.firstWord_eq (dimensions : Dimensions cs) : firstWord cs = "" := by
  rcases dimensions.dropWhile with same | ⟨_, same⟩
  · rw [firstWord, same]
    rfl
  · rw [firstWord, same, List.takeWhile_cons_of_neg (by decide)]
    rfl

theorem afterPhrase_eq_none {parts : List String} (filled : parts ≠ [])
    (other : parts.head? ≠ some (firstWord cs)) : afterPhrase cs parts = none := by
  cases parts with
  | nil => exact absurd rfl filled
  | cons part parts =>
      rw [afterPhrase]
      exact if_neg fun same => other (congrArg some (beq_iff_eq.mp same).symm)

/-- A word that goes on with no type name is not read. -/
theorem skipPhrase_of_firstWord (unphrased : firstWord cs ∉ phraseWords) (size : Nat)
    (word : String) : skipPhrase size word cs = .ok cs := by
  have none : (phrases word).findSome? (afterPhrase cs) = none := by
    rw [List.findSome?_eq_none_iff]
    intro parts member
    obtain ⟨filled, listed⟩ := listed_of_mem_phrases member
    refine afterPhrase_eq_none filled fun first => ?_
    exact unphrased (listed _ (List.mem_of_head? first))
  rw [skipPhrase, none]

theorem dropWhile_word_of_blanks {word : List Char} (blank : ∀ c ∈ gap, Text.isBlank c)
    (isWord : isWord word) (rest : List Char) :
    (gap ++ (word ++ rest)).dropWhile Text.isBlank = word ++ rest := by
  obtain ⟨c, more, rfl, filled⟩ := (TypeWord.plain isWord).filled
  exact dropWhile_blanks blank filled _

theorem endsWord_append {rest : List Char} (first : EndsWord rest) (second : EndsWord tail) :
    EndsWord (rest ++ tail) := by
  cases rest with
  | nil => exact second
  | cons c rest => exact first

namespace Phrase

variable {part : String} {parts : List String}

theorem head?_eq (phrase : Phrase parts cs) (filled : parts ≠ []) (ended : EndsWord tail) :
    parts.head? = some (firstWord (cs ++ tail)) := by
  cases phrase with
  | done => exact absurd rfl filled
  | part blank isWord spelled endsWord _ =>
      rw [List.append_assoc, List.append_assoc, firstWord, dropWhile_word_of_blanks blank isWord,
        takeWhile_word (continuesName_of_isWord isWord) (endsWord_append endsWord ended), spelled,
        List.head?_cons]

theorem read (phrase : Phrase parts cs) (ended : EndsWord tail) :
    afterPhrase (cs ++ tail) parts = some tail := by
  induction phrase with
  | done => rfl
  | part blank isWord spelled endsWord phrase ih =>
      have run := continuesName_of_isWord isWord
      have further := endsWord_append endsWord ended
      rw [List.append_assoc, List.append_assoc, afterPhrase, dropWhile_word_of_blanks blank isWord,
        takeWhile_word run further, dropWhile_word run further, spelled, if_pos (by simp), ih]

theorem endsName (phrase : Phrase (part :: parts) cs) (ended : EndsWord cs) (tail : List Char) :
    EndsName (cs ++ tail) := by
  cases phrase with
  | @part gap word rest _ _ blank isWord _ _ _ =>
      cases gap with
      | nil =>
          obtain ⟨c, more, rfl, _⟩ := (TypeWord.plain isWord).filled
          have continues := continuesName_of_isWord isWord c List.mem_cons_self
          rw [ended c rfl] at continues
          cases continues
      | cons c gap => exact .of_isBlank (blank c List.mem_cons_self) _

theorem unopened (phrase : Phrase (part :: parts) cs) (tail rest : List Char) :
    (cs ++ tail).dropWhile Text.isBlank ≠ '(' :: rest := by
  cases phrase with
  | @part gap word _ _ _ blank isWord _ _ _ =>
      rw [List.append_assoc, List.append_assoc, dropWhile_word_of_blanks blank isWord]
      intro opened
      obtain ⟨c, more, rfl, _⟩ := (TypeWord.plain isWord).filled
      cases opened
      exact absurd (continuesName_of_isWord isWord '(' List.mem_cons_self) (by decide)

end Phrase

theorem phrases_of_multiWordTypes {head : String} {parts : List String}
    (listed : head :: parts ∈ multiWordTypes) :
    ∃ before after, phrases head = before ++ parts :: after ∧
      ∀ other ∈ before, other.head? ≠ parts.head? := by
  simp only [multiWordTypes, List.mem_cons, List.cons.injEq, List.not_mem_nil, or_false] at listed
  rcases listed with ⟨rfl, rfl⟩ | ⟨rfl, rfl⟩ | ⟨rfl, rfl⟩ | ⟨rfl, rfl⟩ | ⟨rfl, rfl⟩ |
    ⟨rfl, rfl⟩ | ⟨rfl, rfl⟩
  -- Only the phrase that begins with "without" stands behind another.
  · exact ⟨[], [], rfl, by simp⟩
  · exact ⟨[], [], rfl, by simp⟩
  · exact ⟨[], [], rfl, by simp⟩
  · exact ⟨[], _, rfl, by simp⟩
  · exact ⟨[["with", "time", "zone"]], [], rfl, by simp⟩
  · exact ⟨[], _, rfl, by simp⟩
  · exact ⟨[["with", "time", "zone"]], [], rfl, by simp⟩

/-- Of the phrases that a type name may go on with, the one that follows is read. -/
theorem Phrase.skip {head : String} {parts : List String} (phrase : Phrase parts cs)
    (listed : head :: parts ∈ multiWordTypes) (ended : EndsWord tail) (size : Nat) :
    skipPhrase size head (cs ++ tail) = skipModifiers size tail := by
  obtain ⟨before, after, same, differ⟩ := phrases_of_multiWordTypes listed
  have known : ∀ choice ∈ before ++ parts :: after, choice ≠ [] :=
    fun choice member => (listed_of_mem_phrases (same ▸ member)).1
  have first := phrase.head?_eq (known parts (by simp)) ended
  have earlier : before.findSome? (afterPhrase (cs ++ tail)) = none := by
    rw [List.findSome?_eq_none_iff]
    intro other member
    exact afterPhrase_eq_none (known other (by simp [member])) (first ▸ differ other member)
  rw [skipPhrase, same, List.findSome?_append, earlier, Option.none_or, List.findSome?_cons,
    phrase.read ended]

end Parts

/-! ## Whole type names -/

/-- A type name is read to its end. -/
theorem IsTypeName.skip {cs : List Char} (named : IsTypeName cs) (size : Nat) :
    skipType size cs = .ok [] := by
  cases named with
  | @chain name modifier dimensions chain modifies dims =>
      obtain ⟨c, rest, rfl, filled⟩ := chain.filled
      obtain ⟨text, read⟩ := chain.read (modifies.endsName fun _ => dims.endsName) size
        (by simp : _ ≤ (c :: rest ++ (modifier ++ dimensions)).length)
      refine skipType_eq_ok_iff.mpr ⟨text, modifier ++ dimensions, dimensions, dimensions, ?_,
        modifies.skip size dims.unopened, ?_, dims.skip size (Nat.le_refl _)⟩
      · rw [List.cons_append, List.dropWhile_cons_of_neg (by simp [filled])]
        exact read
      · exact skipPhrase_of_firstWord (by rw [dims.firstWord_eq]; decide) size text
  | @phrase first inner further modifier dimensions parts isWord listed innerModifies ended phrase
      modifies dims =>
      obtain ⟨_, _, same, _⟩ := phrases_of_multiWordTypes listed
      have known : parts ∈ phrases (String.ofList (Text.lowerChars first)) := by simp [same]
      obtain ⟨part, more, rfl⟩ := List.exists_cons_of_ne_nil (listed_of_mem_phrases known).1
      have behind : EndsWord (modifier ++ dimensions) :=
        (modifies.endsName fun _ => dims.endsName).endsWord
      have ends : EndsName (inner ++ (further ++ (modifier ++ dimensions))) :=
        innerModifies.endsName fun absent => phrase.endsName (by simpa [absent] using ended) _
      obtain ⟨c, rest, rfl, filled⟩ := (TypeWord.plain isWord).filled
      refine skipType_eq_ok_iff.mpr ⟨String.ofList (Text.lowerChars (c :: rest)),
        inner ++ (further ++ (modifier ++ dimensions)), further ++ (modifier ++ dimensions),
        dimensions, ?_,
        innerModifies.skip size (phrase.unopened _), ?_, dims.skip size (Nat.le_refl _)⟩
      · rw [List.cons_append, List.dropWhile_cons_of_neg (by simp [filled])]
        exact typeName_succ_iff.mpr ⟨_, _, typeWord_plain isWord ends.endsWord size,
          .inr ⟨fun dotted => (ends '.' dotted).2.1 rfl, rfl, rfl⟩⟩
      · rw [phrase.skip listed behind]
        exact modifies.skip size dims.unopened

/-! ## Texts with a cast -/

theorem EndsType.space {tail : List Char} (ends : EndsType tail) : Apart (' ' :: tail) where
  front := .of_isBlank (by decide) tail
  unopened := ends.unopened
  unphrased := ends.unphrased
  parted := by
    rintro _ ⟨⟩
    exact .inl (by decide)

theorem apart_colon (rest : List Char) : Apart (':' :: rest) where
  front := by
    rintro _ ⟨⟩
    decide
  unopened := by
    rintro _ ⟨⟩
    decide
  unphrased := by
    have unnamed : firstWord (':' :: rest) = "" := rfl
    rw [unnamed]
    decide
  parted := by
    rintro _ ⟨⟩
    exact .inr (.inr rfl)

/-- A cast and a space lead from the end of a text to the same place. -/
theorem Walk.cast_or_space {start : Nat} {cs type tail : List Char} {tokens : List Token}
    (walk : Walk start cs [] tokens) (named : IsTypeName type) (inLine : '\n' ∉ type)
    (ends : EndsType tail) :
    ∃ next, Walk start (cs ++ ' ' :: tail) next tokens ∧
      Walk start (cs ++ ':' :: ':' :: (type ++ tail)) next tokens := by
  rcases walk.append_apart with plain | commented
  · have read : Steps ':' (':' :: (type ++ tail)) none tail :=
      .cast fun size => by simpa using ends.skipType_append size 0 (named.skip 0)
    refine ⟨tail, ?_, ?_⟩
    · simpa using (plain _ ends.space).trans (.passed (.blank (by decide)) .here)
    · simpa using (plain _ (apart_colon _)).trans (.passed read .here)
  · refine ⟨afterLine tail, ?_, ?_⟩
    · have spaced := commented _ ends.space
      rwa [afterLine_cons (by decide)] at spaced
    · have cast := commented _ (apart_colon (':' :: (type ++ tail)))
      rwa [afterLine_cons (by decide), afterLine_cons (by decide), afterLine_of_open inLine] at cast

/-- A cast to a type stands for a space: the lexemes are the same. -/
theorem scan_cast {before type behind : String} {alone tokens : List Token}
    (scanned : scan before = .ok alone) (named : IsTypeName type.toList)
    (inLine : '\n' ∉ type.toList) (ends : EndsType behind.toList)
    (spaced : scan (before ++ " " ++ behind) = .ok tokens) :
    ∃ casted, scan (before ++ "::" ++ type ++ behind) = .ok casted ∧
      casted.map Token.lexeme = tokens.map Token.lexeme := by
  obtain ⟨found, walk, rfl⟩ := scan_eq_ok_iff.mp scanned
  obtain ⟨all, whole, rfl⟩ := scan_eq_ok_iff.mp spaced
  obtain ⟨next, toNext, cast⟩ := walk.cast_or_space named inLine ends
  have spacedText : (before ++ " " ++ behind).toList = before.toList ++ ' ' :: behind.toList := by
    simp
  have castText : (before ++ "::" ++ type ++ behind).toList =
      before.toList ++ ':' :: ':' :: (type.toList ++ behind.toList) := by
    simp
  rw [spacedText] at whole
  obtain ⟨more, onward, rfl⟩ := toNext.remaining whole
  -- What follows stands further behind, by the length of the type name and one more colon.
  have moved := onward.shift (type.toList.length + 1)
  refine ⟨_, scan_eq_ok_iff.mpr ⟨found ++ more.map (shift (type.toList.length + 1)), ?_, rfl⟩, ?_⟩
  · rw [castText]
    refine cast.trans ?_
    have reached := toNext.suffix.length_le
    convert moved using 1
    simp only [List.length_append, List.length_cons] at reached ⊢
    omega
  · simp [shift, finishAt]

theorem isTypeName_zoned : IsTypeName "Timestamp(3) with Time zone[ 2 ]".toList := by
  have blank : ∀ c ∈ [' '], Text.isBlank c := List.forall_mem_singleton.mpr (by decide)
  have behind : ∀ rest, EndsWord (' ' :: rest) := fun _ => (EndsName.of_isBlank rfl _).endsWord
  have precision : Modifier "(3)".toList :=
    .given (List.forall_mem_nil _) (by decide : ')' ∉ ['3'])
  have zone : Phrase ["zone"] " zone".toList :=
    .part blank (by decide : isWord "zone".toList) (by decide) nofun .done
  have time : Phrase ["time", "zone"] " Time zone".toList :=
    .part blank (by decide : isWord "Time".toList) (by decide) (behind _) zone
  have zoned : Phrase ["with", "time", "zone"] " with Time zone".toList :=
    .part blank (by decide : isWord "with".toList) (by decide) (behind _) time
  have sized : Dimensions "[ 2 ]".toList :=
    .more (List.forall_mem_nil _) blank (List.forall_mem_singleton.mpr (by decide : Text.isDigit '2'))
      blank .absent
  have bracketed : EndsWord ("(3)".toList ++ " with Time zone".toList) :=
    (EndsName.of_mark (.inl rfl) _).endsWord
  exact .phrase (by decide : isWord "Timestamp".toList) (by decide) precision bracketed zoned .absent
    sized

theorem scan_cast_zoned :
    scan "a::time" = .ok [⟨.word "a", 0, 1⟩, ⟨.finish, 7, 7⟩] ∧ EndsType " < now()".toList ∧
      ∃ casted, scan "a::time::Timestamp(3) with Time zone[ 2 ] < now()" = .ok casted ∧
        casted.map Token.lexeme =
          [.word "a", .operator "<", .word "now", .leftParen, .rightParen, .finish] := by
  have alone : scan "a::time" = .ok [⟨.word "a", 0, 1⟩, ⟨.finish, 7, 7⟩] := by
    with_unfolding_all rfl
  have spaced : scan "a::time  < now()" = .ok [⟨.word "a", 0, 1⟩, ⟨.operator "<", 9, 10⟩,
      ⟨.word "now", 11, 14⟩, ⟨.leftParen, 14, 15⟩, ⟨.rightParen, 15, 16⟩, ⟨.finish, 16, 16⟩] := by
    with_unfolding_all rfl
  have ends : EndsType " < now()".toList := by
    refine ⟨.of_isBlank rfl _, ?_, by decide⟩
    rintro _ ⟨⟩
    decide
  obtain ⟨casted, read, same⟩ := scan_cast alone isTypeName_zoned (by decide) ends spaced
  exact ⟨alone, ends, casted, read, same⟩

end Token

end RowGuard
