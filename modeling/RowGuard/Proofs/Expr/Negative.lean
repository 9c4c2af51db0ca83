import RowGuard.Proofs.Expr.Phrases
import RowGuard.Proofs.Number.Exactness

/-! Negative decimals in policies. A minus sign in front of a decimal is not part of
the literal that is read: the number is negated in the working precision, so digits
are lost that a positive number keeps. -/

set_option autoImplicit false

namespace RowGuard

namespace Expr

variable {source : Source} {entity : String} {minus token : Token} {rest : List Token}
  {positive : Literal} {error : ReadError}

/-! ## Numbers that cannot be negated -/

theorem readPrimary_negative (negates : minus.lexeme = .operator "-")
    (number : number? token.lexeme = some positive) (failed : negated positive = .error error) :
    readPrimary source (minus :: token :: rest) = .error error := by
  obtain ⟨lexeme, start, stop⟩ := minus
  cases negates
  rw [readPrimary]
  simp only [Source.front_cons, number, failed]
  rfl

theorem ofTokens_negative (negates : minus.lexeme = .operator "-")
    (number : number? token.lexeme = some positive) (failed : negated positive = .error error) :
    ofTokens source (minus :: token :: rest) = .error error := by
  have unnamed : minus.keyword? = none := by rw [Token.keyword?, negates]
  have primary : readPrimary source (minus :: token :: rest) = .error error :=
    readPrimary_negative negates number failed
  have condition : readCondition source (minus :: token :: rest) = .error error := by
    rw [readCondition, primary]
    rfl
  have negation : readNot source (minus :: token :: rest) = .error error := by
    rw [readNot, unnamed, if_neg nofun, condition]
  have conjunction : readAll source (minus :: token :: rest) = .error error := by
    rw [readAll, negation]
    rfl
  rw [ofTokens, readAny, conjunction]
  rfl

/-! ## Texts that are one decimal -/

/-- Whether a text is a decimal and nothing else. -/
def IsDecimal (text : String) (n : Decimal) : Prop :=
  Token.scan text = .ok [⟨.decimal n, 0, text.length⟩, Token.finishAt text.length]

section IsDecimal

variable {text : String} {n : Decimal}

theorem IsDecimal.exists_number (isDecimal : IsDecimal text n) :
    ∃ c rest, text.toList = c :: rest ∧ Text.isDigit c ∧
      Token.number (c :: rest) = .ok (.decimal n, []) := by
  obtain ⟨tokens, walk, same⟩ := Token.scan_eq_ok_iff.mp isDecimal
  have lone : [⟨.decimal n, 0, text.length⟩] = tokens := (List.append_inj' same rfl).1
  have whole : Token.Walk 0 text.toList [] ([] ++ ⟨.decimal n, 0, text.length⟩ :: []) :=
    lone ▸ walk
  obtain ⟨c, rest, left, front, starts, steps, stops, _⟩ := whole.reach
  dsimp only at starts steps stops
  have within := front.suffix.length_le
  have size := text.length_toList
  rw [List.length_cons] at within
  have all : c :: rest = text.toList := front.suffix.eq_of_length (by rw [List.length_cons]; omega)
  have nothing : left = [] := List.length_eq_zero_iff.mp (by omega)
  subst nothing
  cases steps with
  | number digit read => exact ⟨c, rest, all.symm, digit, read⟩
  | punctuation found =>
      unfold Token.punctuation? at found
      split at found <;> cases found

theorem IsDecimal.parse (isDecimal : IsDecimal text n) (entity : String) :
    parse text entity = .ok (.literal ⟨.decimal, .decimal n⟩) := by
  obtain ⟨c, rest, whole, digit, read⟩ := isDecimal.exists_number
  have reads : Reads entity (c :: rest) 5 (.literal ⟨.decimal, .decimal n⟩) :=
    reads_literal (scans_number digit read) rfl
  exact ((reads.of_eq whole).lift (by decide)).parse

/-- The minus sign is applied to the literal that stands behind it. -/
theorem IsDecimal.parse_negative (isDecimal : IsDecimal text n) (entity : String) :
    Expr.parse ("-" ++ text) entity = (negated ⟨.decimal, .decimal n⟩).map .literal := by
  obtain ⟨c, rest, whole, digit, read⟩ := isDecimal.exists_number
  have signed : ("-" ++ text).toList = '-' :: c :: rest := by
    rw [String.toList_append, whole]
    rfl
  cases outcome : negated ⟨.decimal, .decimal n⟩ with
  | ok negative =>
      have reads : Reads entity ('-' :: c :: rest) 5 (.literal negative) :=
        reads_negative digit read rfl outcome
      exact ((reads.of_eq signed).lift (by decide)).parse
  | error error =>
      obtain ⟨tokens, walk, minus, token, rfl, negates, number⟩ :=
        scans_negative digit read ⟨("-" ++ text).toList, entity⟩ 0 [] rfl (by simp [signed]) nofun
      rw [List.append_nil] at walk
      have filled : ¬(Text.trim ("-" ++ text).toList).isEmpty := by
        rw [trim_isEmpty_iff, signed]
        intro blank
        exact absurd (blank '-' List.mem_cons_self) (by decide)
      have scanned := Token.scan_eq_ok_iff.mpr ⟨_, signed ▸ walk, rfl⟩
      rw [Expr.parse, if_neg filled, scanned]
      exact ofTokens_negative negates (by rw [number]; rfl) outcome

end IsDecimal

end Expr

/-- A minus sign and a decimal are read to the number nearest to the opposite for whose digits there
is room, and to the exact opposite if and only if the digits left out are zeros. -/
theorem negative_exact_iff {text entity : String} {n : Decimal} {e : Expr}
    (isDecimal : Expr.IsDecimal text n) (parsed : Expr.parse ("-" ++ text) entity = .ok e) :
    Expr.parse text entity = .ok (.literal ⟨.decimal, .decimal n⟩) ∧
      ∃ r, e = .literal ⟨.decimal, .decimal r⟩ ∧
        (r.value = -n.value ↔ 10 ^ n.excess ∣ n.coefficient) ∧
        2 * |r.value + n.value| ≤ 10 ^ (n.exponent + n.excess) := by
  rw [isDecimal.parse_negative, Expr.negated] at parsed
  refine ⟨isDecimal.parse entity, ?_⟩
  cases result : n.negated with
  | none =>
      rw [result] at parsed
      cases parsed
  | some r =>
      rw [result] at parsed
      cases parsed
      exact ⟨r, rfl, Decimal.value_of_negated result⟩

theorem negative_exact_short :
    Expr.IsDecimal "1.50" ⟨false, 150, -2⟩ ∧
      ∃ r, Expr.parse ("-" ++ "1.50") "Post" = .ok (.literal ⟨.decimal, .decimal r⟩) ∧
        r.value = -Decimal.value ⟨false, 150, -2⟩ := by
  have isDecimal : Expr.IsDecimal "1.50" ⟨false, 150, -2⟩ := by with_unfolding_all rfl
  have parsed : Expr.parse ("-" ++ "1.50") "Post" =
      .ok (.literal ⟨.decimal, .decimal ⟨true, 150, -2⟩⟩) := by
    with_unfolding_all rfl
  obtain ⟨_, r, same, exact_, _⟩ := negative_exact_iff isDecimal parsed
  exact ⟨isDecimal, r, same ▸ parsed, exact_.mpr (by decide)⟩

/-- The last of thirty digits is lost behind a minus sign. -/
theorem negative_rounded_long :
    Expr.IsDecimal "1.00000000000000000000000000001" ⟨false, 10 ^ 29 + 1, -29⟩ ∧
      Expr.parse "1.00000000000000000000000000001" "Post" =
        .ok (.literal ⟨.decimal, .decimal ⟨false, 10 ^ 29 + 1, -29⟩⟩) ∧
      ∃ r, Expr.parse ("-" ++ "1.00000000000000000000000000001") "Post" =
          .ok (.literal ⟨.decimal, .decimal r⟩) ∧
        r.value ≠ -Decimal.value ⟨false, 10 ^ 29 + 1, -29⟩ := by
  have negated : Decimal.negated ⟨false, 10 ^ 29 + 1, -29⟩ = some ⟨true, 10 ^ 27, -27⟩ := by
    decide +kernel
  refine ⟨by with_unfolding_all rfl, by with_unfolding_all rfl, ⟨true, 10 ^ 27, -27⟩,
    by with_unfolding_all rfl, fun same => ?_⟩
  exact absurd ((Decimal.value_of_negated negated).1.mp same) (by decide +kernel)

end RowGuard
