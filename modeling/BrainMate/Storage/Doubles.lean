import Mathlib.Data.Int.Log
import Mathlib.Data.Rat.Floor
import Mathlib.Tactic.NormNum
import Mathlib.Tactic.Positivity

namespace BrainMate.Storage

/-- The nearest integer, and of two the even one. -/
def roundHalfEven (value : ℚ) : ℤ :=
  if Int.fract value < 1 / 2 ∨ (Int.fract value = 1 / 2 ∧ Even ⌊value⌋) then ⌊value⌋ else ⌊value⌋ + 1

/-- The double that is nearest to a number: 53 binary digits are kept. -/
def double (value : ℚ) : ℚ :=
  let unit : ℚ := 2 ^ (Int.log 2 |value| - 52)
  roundHalfEven (value / unit) * unit

/-- `Math.round(value)`: of two integers the larger one. -/
def roundHalfUp (value : ℚ) : ℤ := ⌊value + 1 / 2⌋

private theorem roundHalfEven_intCast (number : ℤ) : roundHalfEven number = number := by
  rw [roundHalfEven, Int.fract_intCast, Int.floor_intCast, if_pos (.inl (by norm_num))]

theorem roundHalfUp_intCast (number : ℤ) : roundHalfUp number = number := by
  have half : ⌊(1 / 2 : ℚ)⌋ = 0 := by norm_num
  rw [roundHalfUp, Int.floor_intCast_add, half, add_zero]

/-- An integer of at most 53 digits is a double. -/
theorem double_natCast {number : ℕ} (small : number < 2 ^ 53) : double number = number := by
  have digits : Int.log 2 |(number : ℚ)| ≤ 52 := by
    rw [Nat.abs_cast, Int.log_natCast]
    have := Nat.log_lt_of_lt_pow' (by decide) small
    omega
  obtain ⟨extra, same⟩ := Int.eq_ofNat_of_zero_le (sub_nonneg.mpr digits)
  have unit : (2 : ℚ) ^ (Int.log 2 |(number : ℚ)| - 52) = (2 ^ extra)⁻¹ := by
    have exponent : Int.log 2 |(number : ℚ)| - 52 = -(extra : ℤ) := by omega
    rw [exponent, zpow_neg, zpow_natCast]
  have whole : (number : ℚ) / (2 ^ extra)⁻¹ = ((number * 2 ^ extra : ℕ) : ℤ) := by
    rw [div_inv_eq_mul]
    push_cast
    rfl
  rw [double]
  simp only [unit, whole, roundHalfEven_intCast]
  push_cast
  rw [mul_assoc, mul_inv_cancel₀ (by positivity), mul_one]

theorem double_zero : double 0 = 0 := by
  exact_mod_cast double_natCast (by decide : 0 < 2 ^ 53)

end BrainMate.Storage
