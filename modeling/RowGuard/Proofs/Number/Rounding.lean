import Mathlib.Algebra.Group.Nat.Defs
import RowGuard.Number.Decimal

/-! Negation in the working precision: a number in the working range is left as
it is, and every result is in the working range. -/

set_option autoImplicit false

namespace RowGuard

namespace Decimal

variable {d r : Decimal}

def unsigned (d : Decimal) : Decimal :=
  { d with negative := false }

/-- Whether a number is left as it is by the working precision. -/
def isWorking (d : Decimal) : Bool :=
  d.digitCount ≤ precision && tinyWorking ≤ d.exponent && d.leadingExponent ≤ maxWorking

theorem order_self (d : Decimal) : d.order d = .eq := by
  have magnitude : d.magnitudeOrder d = .eq := by
    simp [magnitudeOrder]
  simp [order, magnitude]

/-- A negative number in the working range is read back from its sign and the rest; zero alone loses
its sign. -/
theorem exists_negated {d : Decimal} (negative : d.negative = true)
    (working : d.isWorking) : ∃ d', d.unsigned.negated = some d' ∧ d'.order d = .eq := by
  simp only [isWorking, Bool.and_eq_true, decide_eq_true_eq] at working
  obtain ⟨⟨short, fine⟩, small⟩ := working
  by_cases zero : d.coefficient = 0
  · refine ⟨_, if_pos zero, ?_⟩
    simp [order, signum, zero]
  · obtain ⟨_, coefficient, exponent⟩ := d
    subst negative
    refine ⟨_, ?_, order_self _⟩
    have step : (unsigned ⟨true, coefficient, exponent⟩).negated =
        rounded ⟨true, coefficient, exponent⟩ := if_neg zero
    rw [step, rounded, if_neg (by omega), if_neg (by omega), if_pos short]

/-! ## Rounding -/

theorem digitCount_le_iff {k : Nat} (some : 0 < k) : d.digitCount ≤ k ↔ d.coefficient < 10 ^ k :=
  Nat.length_toDigits_le_iff (by decide) some

theorem coefficient_lt (d : Decimal) : d.coefficient < 10 ^ d.digitCount :=
  (digitCount_le_iff Nat.length_toDigits_pos).mp (Nat.le_refl _)

theorem shiftedRight_le (n shift : Nat) : shiftedRight n shift ≤ n / 10 ^ shift + 1 := by
  change shiftedRight n shift ≤ n / Nat.pow 10 shift + 1
  unfold shiftedRight
  dsimp only
  generalize n / Nat.pow 10 shift = quotient
  split
  · exact Nat.zero_le _
  · split
    · exact Nat.le_succ _
    · split
      · exact Nat.le_refl _
      · omega

theorem shiftedRight_le_pow {n shift kept : Nat} (bound : n < 10 ^ (shift + kept)) :
    shiftedRight n shift ≤ 10 ^ kept := by
  have quotient : n / 10 ^ shift < 10 ^ kept := by
    rw [Nat.div_lt_iff_lt_mul (Nat.pow_pos (by decide)), ← Nat.pow_add, Nat.add_comm]
    exact bound
  exact Nat.le_trans (shiftedRight_le n shift) quotient

theorem inRange_of_isWorking (working : d.isWorking) : d.InRange := by
  simp only [isWorking, Bool.and_eq_true, decide_eq_true_eq] at working
  obtain ⟨⟨_, fine⟩, small⟩ := working
  exact ⟨Int.le_trans small (by decide), Int.le_trans (by decide) fine⟩

theorem tinyWorking_eq : tinyWorking = minWorking - 27 := by decide

theorem isWorking_of_lt (short : r.coefficient < 10 ^ 28) (fine : tinyWorking ≤ r.exponent)
    (small : r.leadingExponent ≤ maxWorking) : r.isWorking := by
  simp only [isWorking, Bool.and_eq_true, decide_eq_true_eq]
  exact ⟨⟨(digitCount_le_iff (by decide)).mpr short, fine⟩, small⟩

/-- What is left of a number with more digits than the precision: the first of them, rounded. Where
rounding makes them a power of ten with one digit more, a zero is left out. -/
inductive Shortened (d : Decimal) : Decimal → Prop where
  | carried : shiftedRight d.coefficient (d.digitCount - precision) = 10 ^ precision →
      Shortened d
        ⟨d.negative, 10 ^ (precision - 1), d.exponent + (d.digitCount - precision : Nat) + 1⟩
  | plain : shiftedRight d.coefficient (d.digitCount - precision) ≠ 10 ^ precision →
      Shortened d
        ⟨d.negative, shiftedRight d.coefficient (d.digitCount - precision),
          d.exponent + (d.digitCount - precision : Nat)⟩

/-- The ways a number is rounded, by what there is no room for. -/
inductive Rounding (d : Decimal) : Option Decimal → Prop where
  | beyond : maxWorking < d.leadingExponent → Rounding d none
  | subnormal : d.leadingExponent < minWorking → d.exponent < tinyWorking →
      Rounding d (some
        ⟨d.negative, shiftedRight d.coefficient (tinyWorking - d.exponent).toNat, tinyWorking⟩)
  | kept : d.leadingExponent ≤ maxWorking →
      (minWorking ≤ d.leadingExponent ∨ tinyWorking ≤ d.exponent) → d.digitCount ≤ precision →
      Rounding d (some d)
  | shortened {r : Decimal} : (minWorking ≤ d.leadingExponent ∨ tinyWorking ≤ d.exponent) →
      precision < d.digitCount → Shortened d r → r.leadingExponent ≤ maxWorking →
      Rounding d (some r)
  | overflow {r : Decimal} : precision < d.digitCount → Shortened d r →
      maxWorking < r.leadingExponent → Rounding d none

theorem rounding (d : Decimal) : Rounding d d.rounded := by
  unfold rounded
  split
  · next beyond => exact .beyond beyond
  · next small =>
    split
    · next subnormal => exact .subnormal subnormal.1 subnormal.2
    · next normal =>
      have normal : minWorking ≤ d.leadingExponent ∨ tinyWorking ≤ d.exponent := by omega
      split
      · next fits => exact .kept (Int.not_lt.mp small) normal fits
      · next long =>
        have long : precision < d.digitCount := Nat.lt_of_not_le long
        dsimp only
        split
        · next carried =>
          split
          · next beyond => exact .overflow long (.carried carried) beyond
          · next within => exact .shortened normal long (.carried carried) (Int.not_lt.mp within)
        · next other =>
          split
          · next beyond => exact .overflow long (.plain other) beyond
          · next within => exact .shortened normal long (.plain other) (Int.not_lt.mp within)

theorem Shortened.coefficient_lt (shortened : Shortened d r) (long : precision < d.digitCount) :
    r.coefficient < 10 ^ 28 := by
  cases shortened with
  | carried _ => exact (by decide : 10 ^ (precision - 1) < 10 ^ 28)
  | plain other =>
      have bound : shiftedRight d.coefficient (d.digitCount - precision) ≤ 10 ^ precision :=
        shiftedRight_le_pow (by
          rw [Nat.sub_add_cancel (Nat.le_of_lt long)]
          exact d.coefficient_lt)
      exact Nat.lt_of_le_of_ne bound other

theorem Shortened.exponent_near (shortened : Shortened d r) :
    d.exponent + (d.digitCount - precision : Nat) ≤ r.exponent ∧
      r.exponent ≤ d.exponent + (d.digitCount - precision : Nat) + 1 := by
  cases shortened with
  | carried _ => exact ⟨Int.le_add_one (Int.le_refl _), Int.le_refl _⟩
  | plain _ => exact ⟨Int.le_refl _, Int.le_add_one (Int.le_refl _)⟩

theorem isWorking_of_rounded (result : d.rounded = some r) : r.isWorking := by
  have lead : d.leadingExponent = d.exponent + d.digitCount - 1 := rfl
  have tiny := tinyWorking_eq
  have least : minWorking ≤ maxWorking := by decide
  have ran := d.rounding
  rw [result] at ran
  cases ran with
  | subnormal small fine =>
      -- Too small for full precision: the digits below the lowest exponent are cut.
      have digits : d.digitCount ≤ (tinyWorking - d.exponent).toNat + 27 := by omega
      have bound : shiftedRight d.coefficient (tinyWorking - d.exponent).toNat ≤ 10 ^ 27 :=
        shiftedRight_le_pow
          (Nat.lt_of_lt_of_le d.coefficient_lt (Nat.pow_le_pow_right (by decide) digits))
      generalize shiftedRight d.coefficient (tinyWorking - d.exponent).toNat = kept at bound ⊢
      have short : kept < 10 ^ 28 := Nat.lt_of_le_of_lt bound (by decide)
      have count : digitCount ⟨d.negative, kept, tinyWorking⟩ ≤ 28 :=
        (digitCount_le_iff (by decide)).mpr short
      refine isWorking_of_lt short (Int.le_refl _) ?_
      rw [leadingExponent]
      dsimp only
      omega
  | kept small normal fits =>
      have count : d.digitCount ≤ 28 := fits
      exact isWorking_of_lt ((digitCount_le_iff (by decide)).mp fits) (by omega) small
  | shortened normal long shortened small =>
      have many : 28 < d.digitCount := long
      have shift : d.digitCount - precision = d.digitCount - 28 := rfl
      have place := shortened.exponent_near.1
      exact isWorking_of_lt (shortened.coefficient_lt long) (by omega) small

/-- What a negation gives is held, and in the working range if it has a sign. -/
theorem isWorking_of_negated (result : d.negated = some r) :
    r.InRange ∧ (r.negative = true → r.isWorking) := by
  unfold negated at result
  split at result
  · cases result
    have count : digitCount ⟨false, 0, max tinyWorking (min maxWorking d.exponent)⟩ = 1 :=
      congrArg List.length (Nat.toDigits_zero 10)
    have least : tinyWorking ≤ maxWorking := by decide
    refine ⟨⟨?_, ?_⟩, nofun⟩
    · refine Int.le_trans ?_ (by decide : maxWorking ≤ maxExponent)
      rw [leadingExponent, count]
      dsimp only
      omega
    · exact Int.le_trans (by decide : minExponent ≤ tinyWorking) (Int.le_max_left _ _)
  · have working := isWorking_of_rounded result
    exact ⟨inRange_of_isWorking working, fun _ => working⟩

theorem maxWorking_le_of_rounded (large : d.rounded = none) : maxWorking ≤ d.leadingExponent := by
  have ran := d.rounding
  rw [large] at ran
  cases ran with
  | beyond beyond => exact Int.le_of_lt beyond
  | @overflow r long shortened beyond =>
      -- Rounding up to a power of ten moves the leading digit by one place, and by no more.
      have count : r.digitCount ≤ 28 :=
        (digitCount_le_iff (by decide)).mpr (shortened.coefficient_lt long)
      have many : 28 < d.digitCount := long
      have shift : d.digitCount - precision = d.digitCount - 28 := rfl
      have place := shortened.exponent_near.2
      rw [leadingExponent] at beyond ⊢
      omega

theorem maxWorking_le_of_negated (large : d.negated = none) : maxWorking ≤ d.leadingExponent := by
  unfold negated at large
  split at large
  · cases large
  · have reached := maxWorking_le_of_rounded large
    exact reached

end Decimal

end RowGuard
