import RowGuard.Token.Scan

/-! The classes that lexical rules test are disjoint: a blank does not go on with
a name or a number, and a name and a number do not begin alike. -/

set_option autoImplicit false

namespace RowGuard.Text

/-! ## Tables -/

/-- Whether no range of one table meets a range of the other. -/
def CodeRanges.apart (first second : CodeRanges) : Bool :=
  first.all fun a => second.all fun b => a.2.blt b.1 || b.2.blt a.1

theorem CodeRanges.not_has_of_apart {first second : CodeRanges} (apart : first.apart second)
    {code : Nat} (found : first.has code) : second.has code = false := by
  simp only [CodeRanges.has, List.any_eq_true, List.any_eq_false, Bool.and_eq_true,
    decide_eq_true_eq] at found ⊢
  simp only [CodeRanges.apart, List.all_eq_true, Bool.or_eq_true, Nat.blt_eq] at apart
  obtain ⟨a, member, least, most⟩ := found
  intro b other inside
  rcases apart a member b other with before | after
  · omega
  · omega

theorem blankRanges_apart_letterRanges : blankRanges.apart letterRanges := by decide +kernel

theorem blankRanges_apart_digitRanges : blankRanges.apart digitRanges := by decide +kernel

theorem blankRanges_apart_numeralRanges : blankRanges.apart numeralRanges := by decide +kernel

theorem letterRanges_apart_digitRanges : letterRanges.apart digitRanges := by decide +kernel

/-! ## Characters -/

theorem isAlphanumeric_of_isLetter {c : Char} (letter : isLetter c) : isAlphanumeric c := by
  unfold isLetter at letter
  unfold isAlphanumeric
  split
  · rename_i small
    rw [if_pos small] at letter
    simp only [Char.isAlphanum, letter, Bool.true_or]
  · rename_i large
    rw [if_neg large] at letter
    simp only [letter, Bool.true_or]

theorem isAlphanumeric_of_isDigit {c : Char} (digit : isDigit c) : isAlphanumeric c := by
  unfold isDigit at digit
  unfold isAlphanumeric
  split
  · rename_i small
    rw [if_pos small] at digit
    simp only [Char.isAlphanum, digit, Bool.or_true]
  · rename_i large
    rw [if_neg large] at digit
    simp only [digit, Bool.true_or, Bool.or_true]

theorem not_isAlphanumeric_of_isBlank {c : Char} (blank : isBlank c) :
    isAlphanumeric c = false := by
  by_cases small : c.toNat < 0x80
  · have each : ∀ n < 0x80, isBlank (Char.ofNat n) → isAlphanumeric (Char.ofNat n) = false := by
      decide +kernel
    have shown := each c.toNat small
    rw [Char.ofNat_toNat] at shown
    exact shown blank
  · rw [isBlank, if_neg small] at blank
    rw [isAlphanumeric, if_neg small,
      CodeRanges.not_has_of_apart blankRanges_apart_letterRanges blank,
      CodeRanges.not_has_of_apart blankRanges_apart_digitRanges blank,
      CodeRanges.not_has_of_apart blankRanges_apart_numeralRanges blank]
    rfl

theorem not_isDigit_of_isLetter {c : Char} (letter : isLetter c) : isDigit c = false := by
  by_cases small : c.toNat < 0x80
  · have each : ∀ n < 0x80, isLetter (Char.ofNat n) → isDigit (Char.ofNat n) = false := by
      decide +kernel
    have shown := each c.toNat small
    rw [Char.ofNat_toNat] at shown
    exact shown letter
  · rw [isLetter, if_neg small] at letter
    rw [isDigit, if_neg small, CodeRanges.not_has_of_apart letterRanges_apart_digitRanges letter]

theorem not_isDigit_of_isBlank {c : Char} (blank : isBlank c) : isDigit c = false := by
  rw [Bool.eq_false_iff]
  intro digit
  have alphanumeric := isAlphanumeric_of_isDigit digit
  rw [not_isAlphanumeric_of_isBlank blank] at alphanumeric
  cases alphanumeric

theorem dropWhile_of_filled {cs : List Char} (filled : ∀ c ∈ cs.head?, isBlank c = false) :
    cs.dropWhile isBlank = cs := by
  cases cs with
  | nil => rfl
  | cons c cs => rw [List.dropWhile_cons_of_neg (by simp [filled c rfl])]

end RowGuard.Text

namespace RowGuard.Token

theorem continuesName_of_beginsName {c : Char} (begins : beginsName c) : continuesName c := by
  simp only [beginsName, continuesName, Bool.or_eq_true] at begins ⊢
  rcases begins with letter | underscore
  · exact .inl (.inl (Text.isAlphanumeric_of_isLetter letter))
  · exact .inl (.inr underscore)

theorem not_continuesName_of_isBlank {c : Char} (blank : Text.isBlank c) :
    continuesName c = false := by
  rw [continuesName, Text.not_isAlphanumeric_of_isBlank blank, Bool.false_or]
  rw [Bool.or_eq_false_iff, beq_eq_false_iff_ne, beq_eq_false_iff_ne]
  constructor <;> rintro rfl <;> exact absurd blank (by decide)

theorem not_isBlank_of_beginsName {c : Char} (begins : beginsName c) :
    Text.isBlank c = false := by
  rw [Bool.eq_false_iff]
  intro blank
  have continues := continuesName_of_beginsName begins
  rw [not_continuesName_of_isBlank blank] at continues
  cases continues

theorem ne_of_isDigit {c d : Char} (digit : Text.isDigit c) (other : Text.isDigit d = false) :
    c ≠ d := by
  rintro rfl
  rw [digit] at other
  cases other

theorem not_isDigit_of_beginsName {c : Char} (begins : beginsName c) : Text.isDigit c = false := by
  simp only [beginsName, Bool.or_eq_true, beq_iff_eq] at begins
  rcases begins with letter | rfl
  · exact Text.not_isDigit_of_isLetter letter
  · decide

end RowGuard.Token
