import Mathlib.Data.List.TakeWhile
import RowGuard.Proofs.Number.Rounding
import RowGuard.Proofs.Token.Lexical

/-! Numbers are read as they were written: an integer from its digits, and a
decimal that is not written like an integer from its positional and its scientific
form. -/

set_option autoImplicit false

namespace RowGuard

/-! ## Digits -/

namespace Text

/-- Whether all characters are decimal digits of the common script. -/
def AllDigits (cs : List Char) : Prop :=
  ∀ c ∈ cs, c.isDigit

variable {c : Char} {cs ds : List Char}

theorem toNat_lt_of_isDigit (digit : c.isDigit) : c.toNat < 0x80 := by
  simp only [Char.isDigit, Bool.and_eq_true, decide_eq_true_eq] at digit
  have bound : c.toNat ≤ 57 := UInt32.le_iff_toNat_le.mp digit.2
  omega

theorem isDigit_of_ascii (digit : c.isDigit) : isDigit c := by
  rwa [isDigit, if_pos (toNat_lt_of_isDigit digit)]

theorem digitValue?_of_ascii (digit : c.isDigit) :
    digitValue? c = some (c.toNat - '0'.toNat) := by
  rw [digitValue?, if_pos (toNat_lt_of_isDigit digit), if_pos digit]

theorem allDigits_toDigits (n : Nat) : AllDigits (Nat.toDigits 10 n) :=
  fun _ member => Nat.isDigit_of_mem_toDigits (by decide) (by decide) member

theorem AllDigits.append (first : AllDigits cs) (second : AllDigits ds) : AllDigits (cs ++ ds) := by
  intro c member
  rcases List.mem_append.mp member with member | member
  · exact first c member
  · exact second c member

theorem AllDigits.of_subset (digits : AllDigits cs) (inside : ∀ c ∈ ds, c ∈ cs) : AllDigits ds :=
  fun c member => digits c (inside c member)

theorem foldlM_digitValue? (digits : AllDigits cs) (init : Nat) :
    cs.foldlM (fun value c => (digitValue? c).map (value * 10 + ·)) init =
      some (Nat.ofDigitChars 10 cs init) := by
  induction cs generalizing init with
  | nil => rfl
  | cons c cs ih =>
      rw [AllDigits, List.forall_mem_cons] at digits
      rw [List.foldlM_cons, digitValue?_of_ascii digits.1, Nat.ofDigitChars_cons,
        Nat.mul_comm 10 init]
      exact ih digits.2 _

theorem natOfDigits?_of_allDigits (digits : AllDigits cs) (filled : cs ≠ []) :
    natOfDigits? cs = some (Nat.ofDigitChars 10 cs 0) := by
  cases cs with
  | nil => exact absurd rfl filled
  | cons c cs => exact foldlM_digitValue? digits 0

theorem natOfDigits?_toDigits (n : Nat) : natOfDigits? (Nat.toDigits 10 n) = some n := by
  rw [natOfDigits?_of_allDigits (allDigits_toDigits n) Nat.toDigits_ne_nil,
    Nat.ofDigitChars_ten_toDigits]

end Text

/-! ## Parts of a number -/

namespace Token

/-- A fraction as it is written, with the digits behind the point. -/
inductive IsFraction : List Char → List Char → Prop where
  | none : IsFraction [] []
  | digits {run : List Char} : (∀ c ∈ run, Text.isDigit c) → IsFraction ('.' :: run) run

/-- An exponent as it is written, with what follows its mark. -/
inductive IsExponent : List Char → Option (List Char) → Prop where
  | none : IsExponent [] none
  | digits {mark : Char} {sign run : List Char} : mark = 'e' ∨ mark = 'E' →
      sign = [] ∨ sign = ['+'] ∨ sign = ['-'] → run ≠ [] → (∀ c ∈ run, Text.isDigit c) →
      IsExponent (mark :: (sign ++ run)) (some (sign ++ run))

variable {text run : List Char}

theorem IsFraction.isDigit (isFraction : IsFraction text run) : ∀ c ∈ run, Text.isDigit c := by
  cases isFraction with
  | none => nofun
  | digits each => exact each

theorem IsFraction.subset (isFraction : IsFraction text run) : run ⊆ text := by
  cases isFraction with
  | none => exact List.Subset.refl _
  | digits _ => exact List.subset_cons_self _ _

end Token

namespace Decimal

variable {test : Char → Bool} {before : List Char}

theorem cutAt_of_clear (clear : ∀ c ∈ before, test c = false) :
    cutAt test before = (before, none) := by
  have passed : before.dropWhile (!test ·) = [] := by
    rw [List.dropWhile_eq_nil_iff]
    intro c member
    simp [clear c member]
  rw [cutAt, passed]

theorem cutAt_append (clear : ∀ c ∈ before, test c = false) {mark : Char} (found : test mark)
    (after : List Char) : cutAt test (before ++ mark :: after) = (before, some after) := by
  have passes : ∀ c ∈ before, (!test c) = true := by
    intro c member
    simp [clear c member]
  simp [cutAt, List.dropWhile_append_of_pos passes, List.takeWhile_append_of_pos passes, found]

/-- The digits behind the point, with the point if there are any. -/
def fractionText (places : List Char) : List Char :=
  if places.isEmpty then [] else '.' :: places

/-- An exponent with its mark and its sign. -/
def powerText : Option Int → List Char
  | none => []
  | some e => 'E' :: (if e < 0 then '-' else '+') :: Nat.toDigits 10 e.natAbs

/-- The number that some digits, places and an exponent stand for. -/
def spelled (whole places : List Char) (power : Option Int) : Decimal :=
  ⟨false, Nat.ofDigitChars 10 (whole ++ places) 0, power.getD 0 - places.length⟩

theorem exponentOf?_power (e : Int) :
    exponentOf? ((if e < 0 then '-' else '+') :: Nat.toDigits 10 e.natAbs) = some e := by
  split
  · rw [exponentOf?, Text.natOfDigits?_toDigits]
    change some (-(e.natAbs : Int)) = some e
    congr 1
    omega
  · rw [exponentOf?, Text.natOfDigits?_toDigits]
    change some (e.natAbs : Int) = some e
    congr 1
    omega

section Parts

open Token (IsFraction IsExponent)

variable {whole fraction exponent places : List Char} {part : Option (List Char)}
  (digits : ∀ c ∈ whole, Text.isDigit c) (isFraction : IsFraction fraction places)

include digits isFraction

theorem cutAt_point :
    ∃ cut, cutAt (· == '.') (whole ++ fraction) = (whole, cut) ∧ cut.getD [] = places := by
  have clear : ∀ c ∈ whole, (c == '.') = false := by
    intro c member
    rw [beq_eq_false_iff_ne]
    exact Token.ne_of_isDigit (digits c member) (by decide)
  cases isFraction with
  | none =>
      rw [List.append_nil]
      exact ⟨none, cutAt_of_clear clear, rfl⟩
  | digits _ => exact ⟨_, cutAt_append clear rfl _, rfl⟩

theorem cutAt_mark (isExponent : IsExponent exponent part) :
    cutAt (fun c => c == 'e' || c == 'E') (whole ++ fraction ++ exponent) =
      (whole ++ fraction, part) := by
  have unmarked : ∀ c, Text.isDigit c → (c == 'e' || c == 'E') = false := by
    intro c digit
    rw [Bool.or_eq_false_iff, beq_eq_false_iff_ne, beq_eq_false_iff_ne]
    exact ⟨Token.ne_of_isDigit digit (by decide), Token.ne_of_isDigit digit (by decide)⟩
  have clear : ∀ c ∈ whole ++ fraction, (c == 'e' || c == 'E') = false := by
    intro c member
    rcases List.mem_append.mp member with member | member
    · exact unmarked c (digits c member)
    · cases isFraction with
      | none => cases member
      | digits run =>
          rcases List.mem_cons.mp member with rfl | member
          · rfl
          · exact unmarked c (run c member)
  cases isExponent with
  | none =>
      rw [List.append_nil]
      exact cutAt_of_clear clear
  | digits isMark _ _ _ =>
      apply cutAt_append clear
      rcases isMark with rfl | rfl <;> rfl

theorem ofLexeme?_parts (isExponent : IsExponent exponent part) :
    ofLexeme? false (whole ++ fraction ++ exponent) =
      match Text.natOfDigits? (whole ++ places), part.elim (some 0) exponentOf? with
      | some coefficient, some exponent =>
        if InRange ⟨false, coefficient, exponent - places.length⟩ then
          .ok ⟨false, coefficient, exponent - places.length⟩
        else .error .outOfRange
      | _, _ => .error .notDecimal := by
  obtain ⟨cut, atPoint, rest⟩ := cutAt_point digits isFraction
  unfold ofLexeme?
  rw [cutAt_mark digits isFraction isExponent]
  dsimp only
  rw [atPoint]
  dsimp only
  rw [rest]
  cases part <;> rfl

end Parts

theorem isFraction_fractionText {places : List Char} (digits : Text.AllDigits places) :
    Token.IsFraction (fractionText places) places := by
  cases places with
  | nil => exact .none
  | cons c places => exact .digits fun d member => Text.isDigit_of_ascii (digits d member)

theorem isExponent_powerText (power : Option Int) :
    Token.IsExponent (powerText power)
      (power.map fun e => (if e < 0 then '-' else '+') :: Nat.toDigits 10 e.natAbs) := by
  cases power with
  | none => exact .none
  | some e =>
      have digits : ∀ c ∈ Nat.toDigits 10 e.natAbs, Text.isDigit c :=
        fun c member => Text.isDigit_of_ascii (Text.allDigits_toDigits e.natAbs c member)
      have isSign : [if e < 0 then '-' else '+'] = [] ∨ [if e < 0 then '-' else '+'] = ['+'] ∨
          [if e < 0 then '-' else '+'] = ['-'] := by
        split
        · exact .inr (.inr rfl)
        · exact .inr (.inl rfl)
      exact .digits (.inr rfl) isSign Nat.toDigits_ne_nil digits

theorem ofLexeme?_spelled {whole places : List Char} (wholeDigits : Text.AllDigits whole)
    (placeDigits : Text.AllDigits places) (filled : whole ≠ []) (power : Option Int)
    (held : (spelled whole places power).InRange) :
    ofLexeme? false (whole ++ fractionText places ++ powerText power) =
      .ok (spelled whole places power) := by
  have coefficient : Text.natOfDigits? (whole ++ places) =
      some (Nat.ofDigitChars 10 (whole ++ places) 0) :=
    Text.natOfDigits?_of_allDigits (wholeDigits.append placeDigits) (by simp [filled])
  rw [ofLexeme?_parts (fun c member => Text.isDigit_of_ascii (wholeDigits c member))
    (isFraction_fractionText placeDigits) (isExponent_powerText power), coefficient]
  cases power with
  | none => exact if_pos held
  | some e =>
      rw [Option.map_some, Option.elim_some, exponentOf?_power]
      exact if_pos held

end Decimal

namespace Token

open Decimal (fractionText powerText spelled)

theorem integer_toDigits {n : Nat} (few : (Nat.toDigits 10 n).length ≤ Text.maxDigits) :
    integer (Nat.toDigits 10 n) = .ok n := by
  have count : ((Nat.toDigits 10 n).takeWhile fun c => (Text.digitValue? c).isSome).length ≤
      (Nat.toDigits 10 n).length := (List.takeWhile_sublist _).length_le
  rw [integer, if_neg (by omega), Text.natOfDigits?_toDigits]

theorem integer_tooLong {n : Nat} (many : Text.maxDigits < (Nat.toDigits 10 n).length) :
    integer (Nat.toDigits 10 n) = .error (.tooLong (Nat.toDigits 10 n).length) := by
  have valued : ∀ c ∈ Nat.toDigits 10 n, (Text.digitValue? c).isSome := by
    intro c member
    rw [Text.digitValue?_of_ascii (Text.allDigits_toDigits n c member)]
    rfl
  have count := congrArg List.length (List.takeWhile_eq_self_iff.mpr valued)
  rw [integer, count, if_pos many]

theorem takeWhile_isDigit {cs tail : List Char} (digits : Text.AllDigits cs)
    (stops : ∀ c ∈ tail.head?, Text.isDigit c = false) :
    (cs ++ tail).takeWhile Text.isDigit = cs ∧ (cs ++ tail).dropWhile Text.isDigit = tail := by
  have each : ∀ c ∈ cs, Text.isDigit c := fun c member => Text.isDigit_of_ascii (digits c member)
  rw [takeWhile_append_of_stops stops, dropWhile_append_of_stops stops,
    List.takeWhile_eq_self_iff.mpr each, List.dropWhile_eq_nil_iff.mpr each]
  exact ⟨rfl, rfl⟩

theorem takeWhile_isDigit_self {cs : List Char} (digits : Text.AllDigits cs) :
    cs.takeWhile Text.isDigit = cs ∧ cs.dropWhile Text.isDigit = [] := by
  have whole := takeWhile_isDigit digits
    (nofun : ∀ c ∈ ([] : List Char).head?, Text.isDigit c = false)
  rwa [List.append_nil] at whole

theorem number_of_digits (n : Nat) :
    number (Nat.toDigits 10 n) = (integer (Nat.toDigits 10 n)).map fun n => (.integer n, []) := by
  obtain ⟨taken, left⟩ := takeWhile_isDigit_self (Text.allDigits_toDigits n)
  unfold number
  rw [taken, left]
  rfl

theorem number_toDigits {n : Nat} (few : (Nat.toDigits 10 n).length ≤ Text.maxDigits) :
    number (Nat.toDigits 10 n) = .ok (.integer n, []) := by
  rw [number_of_digits, integer_toDigits few]
  rfl

theorem powerText_stops (power : Option Int) :
    ∀ c ∈ (powerText power).head?, Text.isDigit c = false := by
  cases power with
  | none => nofun
  | some e =>
      rintro _ ⟨⟩
      decide

theorem takeFraction_spelled {places : List Char} (digits : Text.AllDigits places)
    (power : Option Int) :
    takeFraction (fractionText places ++ powerText power) =
      (fractionText places, powerText power) := by
  cases places with
  | nil => cases power <;> rfl
  | cons c places =>
      obtain ⟨taken, left⟩ := takeWhile_isDigit digits (powerText_stops power)
      change takeFraction ('.' :: (c :: places ++ powerText power)) = _
      simp only [takeFraction, taken, left]
      rfl

theorem takeExponent_signed {sign c : Char} {run : List Char} (isSign : sign = '-' ∨ sign = '+')
    (digits : Text.AllDigits (c :: run)) :
    takeExponent ('E' :: sign :: c :: run) = ('E' :: sign :: c :: run, []) := by
  obtain ⟨taken, left⟩ := takeWhile_isDigit_self digits
  rcases isSign with rfl | rfl <;> simp [takeExponent, taken, left]

theorem takeExponent_powerText (power : Option Int) :
    takeExponent (powerText power) = (powerText power, []) := by
  cases power with
  | none => rfl
  | some e =>
      have digits := Text.allDigits_toDigits e.natAbs
      obtain ⟨c, run, whole⟩ :=
        List.exists_cons_of_ne_nil (Nat.toDigits_ne_nil : Nat.toDigits 10 e.natAbs ≠ [])
      rw [powerText, whole]
      rw [whole] at digits
      exact takeExponent_signed (by split <;> simp) digits

/-- A number with a fraction or an exponent is read as a decimal. -/
theorem number_spelled {whole places : List Char} (wholeDigits : Text.AllDigits whole)
    (placeDigits : Text.AllDigits places) (filled : whole ≠ []) (power : Option Int)
    (marked : places ≠ [] ∨ power ≠ none) (held : (spelled whole places power).InRange) :
    number (whole ++ fractionText places ++ powerText power) =
      .ok (.decimal (spelled whole places power), []) := by
  have stops : ∀ c ∈ (fractionText places ++ powerText power).head?, Text.isDigit c = false := by
    cases places with
    | nil => exact powerText_stops power
    | cons c places =>
        rintro _ ⟨⟩
        decide
  obtain ⟨taken, left⟩ := takeWhile_isDigit wholeDigits stops
  have isDecimal : ((fractionText places).isEmpty && (powerText power).isEmpty) = false := by
    cases places <;> cases power <;> simp [fractionText, powerText] at marked ⊢
  unfold number
  rw [List.append_assoc, taken, left, takeFraction_spelled placeDigits]
  dsimp only
  rw [takeExponent_powerText, isDecimal]
  dsimp only
  rw [Decimal.ofLexeme?_spelled wholeDigits placeDigits filled power held]
  rfl

end Token

/-! ## Written decimals -/

namespace Decimal

/-- The written form without the sign. -/
def magnitude (d : Decimal) : List Char :=
  if d.exponent ≤ 0 ∧ -6 ≤ d.leadingExponent then d.positional else d.scientific

theorem toList_toText (d : Decimal) :
    d.toText.toList = if d.negative then '-' :: d.magnitude else d.magnitude := by
  rw [toText, String.toList_ofList]
  rfl

/-- The parts that a decimal is written in. -/
structure Spells (d : Decimal) (whole places : List Char) (power : Option Int) : Prop where
  text : d.magnitude = whole ++ fractionText places ++ powerText power
  wholeDigits : Text.AllDigits whole
  placeDigits : Text.AllDigits places
  filled : whole ≠ []
  marked : places ≠ [] ∨ power ≠ none
  number : spelled whole places power = d.unsigned

theorem allDigits_digits (d : Decimal) : Text.AllDigits d.digits :=
  Text.allDigits_toDigits d.coefficient

theorem ofDigitChars_digits (d : Decimal) : Nat.ofDigitChars 10 d.digits 0 = d.coefficient :=
  Nat.ofDigitChars_ten_toDigits

/-- The digits with zeros before them, so that one stands before the point. -/
def padded (d : Decimal) (places : Nat) : List Char :=
  List.replicate (places + 1 - d.digits.length) '0' ++ d.digits

theorem allDigits_padded (d : Decimal) (places : Nat) : Text.AllDigits (d.padded places) :=
  Text.AllDigits.append (fun c member => by rw [List.eq_of_mem_replicate member]; rfl)
    d.allDigits_digits

theorem lt_length_padded (d : Decimal) (places : Nat) : places < (d.padded places).length := by
  rw [padded, List.length_append, List.length_replicate]
  omega

theorem ofDigitChars_padded (d : Decimal) (places : Nat) :
    Nat.ofDigitChars 10 (d.padded places) 0 = d.coefficient := by
  rw [padded, Nat.ofDigitChars_append, Nat.ofDigitChars_replicate_zero, Nat.mul_zero,
    ofDigitChars_digits]

theorem positional_eq {d : Decimal} {places : Nat} (scale : (-d.exponent).toNat = places)
    (some : places ≠ 0) :
    d.positional = (d.padded places).take ((d.padded places).length - places) ++
      '.' :: (d.padded places).drop ((d.padded places).length - places) := by
  subst scale
  exact if_neg some

theorem exists_spells_positional {d : Decimal} (small : d.exponent < 0)
    (near : -6 ≤ d.leadingExponent) : ∃ whole places, Spells d whole places none := by
  obtain ⟨count, scale⟩ : ∃ count : Nat, (-d.exponent).toNat = count + 1 :=
    Nat.exists_eq_succ_of_ne_zero (by omega)
  have long := d.lt_length_padded (count + 1)
  have digits := d.allDigits_padded (count + 1)
  have coefficient := d.ofDigitChars_padded (count + 1)
  have text : d.magnitude = d.positional := if_pos ⟨Int.le_of_lt small, near⟩
  rw [positional_eq scale (Nat.succ_ne_zero count)] at text
  generalize d.padded (count + 1) = padded at *
  have placed : (padded.drop (padded.length - (count + 1))).length = count + 1 := by
    rw [List.length_drop]
    omega
  have filled : padded.drop (padded.length - (count + 1)) ≠ [] := by
    rw [ne_eq, ← List.length_eq_zero_iff, placed]
    omega
  refine ⟨padded.take (padded.length - (count + 1)), padded.drop (padded.length - (count + 1)),
    ?_, ?_, ?_, ?_, .inl filled, ?_⟩
  · rw [text, fractionText, if_neg (by simpa using filled), powerText, List.append_nil]
  · exact digits.of_subset fun c member => List.mem_of_mem_take member
  · exact digits.of_subset fun c member => List.mem_of_mem_drop member
  · rw [ne_eq, ← List.length_eq_zero_iff, List.length_take]
    omega
  · rw [spelled, List.take_append_drop, coefficient, placed, unsigned]
    congr 1
    dsimp only [Option.getD_none]
    omega

theorem exists_spells_scientific {d : Decimal}
    (large : ¬ (d.exponent ≤ 0 ∧ -6 ≤ d.leadingExponent)) :
    ∃ whole places power, Spells d whole places (some power) := by
  have each := d.allDigits_digits
  have coefficient := d.ofDigitChars_digits
  have count : d.digitCount = d.digits.length := rfl
  have text : d.magnitude = d.scientific := if_neg large
  unfold scientific at text
  have filled : d.digits ≠ [] := Nat.toDigits_ne_nil
  obtain ⟨first, rest, digits⟩ := List.exists_cons_of_ne_nil filled
  rw [digits] at each coefficient count text
  refine ⟨[first], rest, d.leadingExponent, ?_, ?_, ?_, by simp, .inr nofun, ?_⟩
  · rw [text]
    cases rest <;> rfl
  · exact each.of_subset (by simp)
  · exact each.of_subset fun c member => List.mem_cons_of_mem _ member
  · rw [spelled, List.singleton_append, coefficient, unsigned]
    congr 1
    dsimp only [Option.getD_some]
    rw [leadingExponent, count, List.length_cons]
    omega

theorem exists_spells {d : Decimal} (scaled : d.exponent ≠ 0) :
    ∃ whole places power, Spells d whole places power := by
  by_cases near : d.exponent ≤ 0 ∧ -6 ≤ d.leadingExponent
  · obtain ⟨whole, places, spells⟩ :=
      exists_spells_positional (lt_of_le_of_ne near.1 scaled) near.2
    exact ⟨whole, places, none, spells⟩
  · obtain ⟨whole, places, power, spells⟩ := exists_spells_scientific near
    exact ⟨whole, places, some power, spells⟩

/-- A decimal that is not written like an integer is read from its written form. -/
theorem number_magnitude {d : Decimal} (scaled : d.exponent ≠ 0) (held : d.InRange) :
    Token.number d.magnitude = .ok (.decimal d.unsigned, []) := by
  obtain ⟨whole, places, power, spells⟩ := exists_spells scaled
  rw [spells.text, ← spells.number]
  refine Token.number_spelled spells.wholeDigits spells.placeDigits spells.filled power
    spells.marked ?_
  rw [spells.number]
  exact held

theorem magnitude_begins {d : Decimal} (scaled : d.exponent ≠ 0) :
    ∃ c rest, d.magnitude = c :: rest ∧ c.isDigit := by
  obtain ⟨whole, places, power, spells⟩ := exists_spells scaled
  obtain ⟨c, rest, rfl⟩ := List.exists_cons_of_ne_nil spells.filled
  exact ⟨c, _, spells.text, spells.wholeDigits c List.mem_cons_self⟩

end Decimal

/-! ## Numbers as they are read -/

namespace Text

theorem digitValue?_lt {c : Char} {n : Nat} (valued : digitValue? c = some n) : n < 10 := by
  unfold digitValue? at valued
  split at valued
  · split at valued
    · rename_i digit
      cases valued
      simp only [Char.isDigit, Bool.and_eq_true, decide_eq_true_eq] at digit
      have bound : c.toNat ≤ 57 := UInt32.le_iff_toNat_le.mp digit.2
      have zero : '0'.toNat = 48 := rfl
      omega
    · cases valued
  · obtain ⟨base, found, rfl⟩ := Option.map_eq_some_iff.mp valued
    have within := List.find?_some found
    simp only [Bool.and_eq_true, decide_eq_true_eq] at within
    omega

theorem foldlM_digitValue?_lt {cs : List Char} {init n : Nat}
    (read : cs.foldlM (fun value c => (digitValue? c).map (value * 10 + ·)) init = some n) :
    (∀ c ∈ cs, (digitValue? c).isSome) ∧ n < (init + 1) * 10 ^ cs.length := by
  induction cs generalizing init with
  | nil =>
      cases read
      simp
  | cons c cs ih =>
      rw [List.foldlM_cons] at read
      cases valued : digitValue? c with
      | none =>
          rw [valued] at read
          cases read
      | some digit =>
          rw [valued] at read
          have small := digitValue?_lt valued
          obtain ⟨each, bound⟩ := ih read
          refine ⟨List.forall_mem_cons.mpr ⟨by rw [valued]; rfl, each⟩, Nat.lt_of_lt_of_le bound ?_⟩
          rw [List.length_cons, Nat.pow_succ', ← Nat.mul_assoc]
          refine Nat.mul_le_mul_right _ ?_
          change init * 10 + digit + 1 ≤ (init + 1) * 10
          omega

end Text

/-- Whether the number that a lexeme may be is one that is held. -/
def Lexeme.Held : Lexeme → Prop
  | .integer n => (Nat.toDigits 10 n).length ≤ Text.maxDigits
  | .decimal d => d.InRange ∧ d.negative = false
  | _ => True

namespace Token

theorem held_of_integer {digits : List Char} {n : Nat} (read : integer digits = .ok n) :
    (Nat.toDigits 10 n).length ≤ Text.maxDigits := by
  unfold integer at read
  dsimp only at read
  split at read
  · cases read
  · rename_i few
    split at read
    · rename_i found
      cases read
      cases digits with
      | nil => cases found
      | cons c digits =>
          obtain ⟨each, bound⟩ := Text.foldlM_digitValue?_lt found
          rw [List.takeWhile_eq_self_iff.mpr each] at few
          rw [Nat.length_toDigits_le_iff (by decide) (by decide)]
          rw [Nat.zero_add, Nat.one_mul] at bound
          exact Nat.lt_of_lt_of_le bound (Nat.pow_le_pow_right (by decide) (Nat.not_lt.mp few))
    · cases read

theorem held_of_ofLexeme? {negative : Bool} {cs : List Char} {d : Decimal}
    (read : Decimal.ofLexeme? negative cs = .ok d) : d.InRange ∧ d.negative = negative := by
  unfold Decimal.ofLexeme? at read
  dsimp only at read
  split at read
  · split at read
    · rename_i held
      cases read
      exact ⟨held, rfl⟩
    · cases read
  · cases read

theorem held_of_number {cs after : List Char} {lexeme : Lexeme}
    (read : number cs = .ok (lexeme, after)) : lexeme.Held := by
  unfold number at read
  dsimp only at read
  split at read
  · obtain ⟨n, found, same⟩ := except_map_eq_ok read
    cases same
    exact held_of_integer found
  · split at read
    · rename_i found
      cases read
      exact held_of_ofLexeme? found
    · cases read

end Token

end RowGuard
