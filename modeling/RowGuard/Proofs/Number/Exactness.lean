import Mathlib.Algebra.Order.Ring.Abs
import Mathlib.Data.Rat.Cast.Order
import Mathlib.Tactic.Linarith
import Mathlib.Tactic.Ring
import RowGuard.Proofs.Number.Rounding

/-! What negation in the working precision does to the value of a decimal. The
result is the nearest number that keeps as many digits as there is room for; it is
the exact opposite if and only if the digits left out are zeros. -/

set_option autoImplicit false

namespace RowGuard

namespace Decimal

variable {d r : Decimal} {n shift : Nat}

/-! ## Values -/

/-- The number that a decimal stands for. -/
def value (d : Decimal) : ℚ :=
  (if d.negative then -1 else 1) * (d.coefficient * 10 ^ d.exponent)

/-- The number of digits at the end that the working precision has no room for: those behind the
first 28, or below the lowest exponent. -/
def excess (d : Decimal) : Nat :=
  max (d.digitCount - precision) (tinyWorking - d.exponent).toNat

theorem value_scaled (negative : Bool) (coefficient shift : Nat) (exponent : Int) :
    value ⟨negative, coefficient, exponent + shift⟩ =
      value ⟨negative, coefficient * 10 ^ shift, exponent⟩ := by
  have split : (10 : ℚ) ^ (exponent + shift) = 10 ^ exponent * 10 ^ shift :=
    (zpow_add₀ (by decide) exponent shift).trans (by rw [zpow_natCast])
  simp only [value, split, Nat.cast_mul, Nat.cast_pow, Nat.cast_ofNat]
  ring

theorem value_opposite (negative : Bool) (coefficient : Nat) (exponent : Int) :
    value ⟨!negative, coefficient, exponent⟩ = -value ⟨negative, coefficient, exponent⟩ := by
  cases negative <;> simp [value]

theorem value_of_zero (zero : d.coefficient = 0) : d.value = 0 := by
  simp [value, zero]

theorem abs_value_sub (negative : Bool) (m n : Nat) (exponent : Int) :
    |value ⟨negative, m, exponent⟩ - value ⟨negative, n, exponent⟩| =
      |(m : ℚ) - n| * 10 ^ exponent := by
  have power : (0 : ℚ) < 10 ^ exponent := zpow_pos (by decide) _
  simp only [value]
  rw [← mul_sub, ← sub_mul, abs_mul, abs_mul, abs_of_pos power]
  cases negative <;> simp

theorem value_inj {negative : Bool} {m n : Nat} {exponent : Int} :
    value ⟨negative, m, exponent⟩ = value ⟨negative, n, exponent⟩ ↔ m = n := by
  have power : (10 : ℚ) ^ exponent ≠ 0 := (zpow_pos (by decide) _).ne'
  rw [← sub_eq_zero, ← abs_eq_zero, abs_value_sub, mul_eq_zero, or_iff_left power, abs_eq_zero,
    sub_eq_zero, Nat.cast_inj]

/-! ## Leaving digits out -/

theorem shiftedRight_zero (n : Nat) : shiftedRight n 0 = n := by
  simp [shiftedRight, Nat.mod_one]

/-- A number is rounded to the nearest multiple of a power of ten. -/
theorem shiftedRight_near (n shift : Nat) :
    2 * (shiftedRight n shift * 10 ^ shift) ≤ 2 * n + 10 ^ shift ∧
      2 * n ≤ 2 * (shiftedRight n shift * 10 ^ shift) + 10 ^ shift := by
  have parts : n / 10 ^ shift * 10 ^ shift + n % 10 ^ shift = n := Nat.div_add_mod' n (10 ^ shift)
  have below : n % 10 ^ shift < 10 ^ shift := Nat.mod_lt n (Nat.pow_pos (by decide))
  have even : n / 10 ^ shift % 2 = 0 ∨ n / 10 ^ shift % 2 = 1 := Nat.mod_two_eq_zero_or_one _
  simp only [shiftedRight, Nat.pow_eq]
  split
  · next few =>
      -- The number is less than a tenth of the unit.
      have held : n < 10 ^ (Nat.toDigits 10 n).length :=
        (Nat.length_toDigits_le_iff (by decide) Nat.length_toDigits_pos).mp (Nat.le_refl _)
      have wide : 10 ^ ((Nat.toDigits 10 n).length + 1) ≤ 10 ^ shift :=
        Nat.pow_le_pow_right (by decide) few
      rw [Nat.pow_succ] at wide
      omega
  · split
    · omega
    · split
      · rw [Nat.add_mul, Nat.one_mul]
        omega
      · rcases even with even | odd
        · rw [even, Nat.add_zero]
          omega
        · rw [odd, Nat.add_mul, Nat.one_mul]
          omega

theorem two_mul_abs_sub_le {kept unit : Nat}
    (near : 2 * kept ≤ 2 * n + unit ∧ 2 * n ≤ 2 * kept + unit) : 2 * |(n : ℚ) - kept| ≤ unit := by
  have above : 2 * (kept : ℚ) ≤ 2 * n + unit := by exact_mod_cast near.1
  have below : 2 * (n : ℚ) ≤ 2 * kept + unit := by exact_mod_cast near.2
  rcases abs_cases ((n : ℚ) - kept) with ⟨same, _⟩ | ⟨same, _⟩
  · linarith
  · linarith

theorem shiftedRight_mul_eq_iff : shiftedRight n shift * 10 ^ shift = n ↔ 10 ^ shift ∣ n := by
  constructor
  · exact Dvd.intro_left _
  · rintro ⟨multiple, rfl⟩
    -- Two multiples of the unit that are less than a unit apart are the same.
    obtain ⟨above, below⟩ := shiftedRight_near (10 ^ shift * multiple) shift
    generalize shiftedRight (10 ^ shift * multiple) shift = kept at above below ⊢
    have unit : 0 < 10 ^ shift := Nat.pow_pos (by decide)
    have most : 2 * kept ≤ 2 * multiple + 1 := by
      refine Nat.le_of_mul_le_mul_right ?_ unit
      linarith
    have least : 2 * multiple ≤ 2 * kept + 1 := by
      refine Nat.le_of_mul_le_mul_right ?_ unit
      linarith
    rw [show kept = multiple by omega, Nat.mul_comm]

/-! ## Rounding -/

theorem value_of_shortened (shortened : Shortened d r) :
    r.value =
      value ⟨d.negative, shiftedRight d.coefficient (d.digitCount - precision),
        d.exponent + (d.digitCount - precision : Nat)⟩ := by
  cases shortened with
  | carried carried =>
      rw [carried]
      exact value_scaled d.negative (10 ^ (precision - 1)) 1 _
  | plain _ => rfl

theorem value_of_rounded (result : d.rounded = some r) :
    r.value =
      value ⟨d.negative, shiftedRight d.coefficient d.excess * 10 ^ d.excess, d.exponent⟩ := by
  have lead : d.leadingExponent = d.exponent + d.digitCount - 1 := rfl
  have tiny := tinyWorking_eq
  have excess : d.excess = max (d.digitCount - 28) (tinyWorking - d.exponent).toNat := rfl
  have ran := d.rounding
  rw [result] at ran
  rw [← value_scaled]
  cases ran with
  | subnormal small fine =>
      -- Too small for full precision: the lowest exponent is what counts.
      have cut : d.excess = (tinyWorking - d.exponent).toNat := by omega
      rw [cut, Int.toNat_of_nonneg (by omega), add_sub_cancel]
  | kept _ normal fits =>
      have fits : d.digitCount ≤ 28 := fits
      have cut : d.excess = 0 := by omega
      rw [cut, shiftedRight_zero, Int.natCast_zero, Int.add_zero]
  | shortened normal long shortened _ =>
      have long : 28 < d.digitCount := long
      have cut : d.excess = d.digitCount - precision := by
        change d.excess = d.digitCount - 28
        omega
      rw [cut]
      exact value_of_shortened shortened

/-- The result of a negation is the nearest number with room for its digits, and the exact opposite
if and only if the digits left out are zeros. -/
theorem value_of_negated (result : d.negated = some r) :
    (r.value = -d.value ↔ 10 ^ d.excess ∣ d.coefficient) ∧
      2 * |r.value + d.value| ≤ 10 ^ (d.exponent + d.excess) := by
  unfold negated at result
  split at result
  · next zero =>
      cases result
      rw [value_of_zero rfl, value_of_zero zero, zero]
      simp only [neg_zero, dvd_zero, add_zero, abs_zero, mul_zero, true_and]
      exact zpow_nonneg (by decide) _
  · have rounds : r.value =
        value ⟨!d.negative, shiftedRight d.coefficient d.excess * 10 ^ d.excess, d.exponent⟩ :=
      value_of_rounded result
    rw [rounds, value_opposite, neg_inj, value_inj, shiftedRight_mul_eq_iff, neg_add_eq_sub,
      abs_value_sub]
    refine ⟨Iff.rfl, ?_⟩
    rw [zpow_add₀ (by decide), zpow_natCast, mul_comm (10 ^ d.exponent), ← mul_assoc]
    refine mul_le_mul_of_nonneg_right ?_ (zpow_nonneg (by decide) _)
    have near := two_mul_abs_sub_le (shiftedRight_near d.coefficient d.excess)
    rwa [Nat.cast_pow 10 d.excess, Nat.cast_ofNat] at near

end Decimal

end RowGuard
