import Mathlib.Algebra.Order.Field.Basic
import Mathlib.Algebra.Order.Floor.Ring
import Mathlib.Data.Rat.Floor
import Mathlib.Tactic.Linarith
import Mathlib.Tactic.Positivity

namespace BrainMate.Storage

/-- A value for an `integer` column or variable. -/
def int4 (value : Int) : Except String Int :=
  if -2 ^ 31 ≤ value ∧ value < 2 ^ 31 then .ok value else .error "integer out of range"

/-- The nearest integer, and of two the one further from zero. -/
def roundHalfAway (value : ℚ) : ℤ :=
  if 0 ≤ value then ⌊value + 1 / 2⌋ else -⌊-value + 1 / 2⌋

/-- `ROUND(value, places)` -/
def roundTo (places : ℕ) (value : ℚ) : ℚ := roundHalfAway (value * 10 ^ places) / 10 ^ places

/-- A value for a `numeric(precision, scale)` column. -/
def numeric (precision scale : ℕ) (value : ℚ) : Except String ℚ :=
  if |roundTo scale value| < 10 ^ (precision - scale) then .ok (roundTo scale value)
  else .error "numeric field overflow"

theorem int4_eq_ok {value stored : Int} (fits : int4 value = .ok stored) : stored = value := by
  rw [int4] at fits
  split at fits
  · exact (Except.ok.inj fits).symm
  · cases fits

theorem numeric_eq_ok {precision scale : ℕ} {value stored : ℚ}
    (fits : numeric precision scale value = .ok stored) : stored = roundTo scale value := by
  rw [numeric] at fits
  split at fits
  · exact (Except.ok.inj fits).symm
  · cases fits

theorem abs_floor_half_sub_le (value : ℚ) : |(⌊value + 1 / 2⌋ : ℚ) - value| ≤ 1 / 2 := by
  have low := Int.sub_one_lt_floor (value + 1 / 2)
  have high := Int.floor_le (value + 1 / 2)
  rw [abs_le]
  constructor
  · linarith
  · linarith

private theorem abs_roundHalfAway_sub_le (value : ℚ) :
    |(roundHalfAway value : ℚ) - value| ≤ 1 / 2 := by
  rw [roundHalfAway]
  split
  · exact abs_floor_half_sub_le value
  · have mirrored := abs_floor_half_sub_le (-value)
    rw [abs_le] at mirrored ⊢
    push_cast
    constructor
    · linarith
    · linarith

theorem abs_roundTo_sub_le (places : ℕ) (value : ℚ) :
    |roundTo places value - value| ≤ 1 / 2 / 10 ^ places := by
  have positive : (0 : ℚ) < 10 ^ places := by positivity
  have split : roundTo places value - value =
      (roundHalfAway (value * 10 ^ places) - value * 10 ^ places) / 10 ^ places := by
    rw [roundTo, sub_div, mul_div_cancel_right₀ _ positive.ne']
  rw [split, abs_div, abs_of_pos positive]
  exact div_le_div_of_nonneg_right (abs_roundHalfAway_sub_le _) positive.le

theorem roundHalfAway_intCast (value : ℤ) : roundHalfAway (value : ℚ) = value := by
  have half : ∀ value : ℤ, ⌊(value : ℚ) + 1 / 2⌋ = value := by
    intro value
    rw [Int.floor_eq_iff]
    constructor
    · linarith
    · linarith
  rw [roundHalfAway]
  split
  · exact half value
  · have mirrored := half (-value)
    push_cast at mirrored
    rw [mirrored, neg_neg]

/-- What is rounded stays as it is. -/
theorem roundTo_roundTo (places : ℕ) (value : ℚ) :
    roundTo places (roundTo places value) = roundTo places value := by
  have positive : (0 : ℚ) < 10 ^ places := by positivity
  have scaled : roundTo places value * 10 ^ places = roundHalfAway (value * 10 ^ places) := by
    rw [roundTo, div_mul_cancel₀ _ positive.ne']
  conv_lhs => rw [roundTo, scaled, roundHalfAway_intCast]
  rfl

theorem roundTo_natCast (places value : ℕ) : roundTo places (value : ℚ) = value := by
  have positive : (0 : ℚ) < 10 ^ places := by positivity
  have whole : (value : ℚ) * 10 ^ places = ((value * 10 ^ places : ℕ) : ℤ) := by push_cast; rfl
  rw [roundTo, whole, roundHalfAway_intCast, Int.cast_natCast, Nat.cast_mul, Nat.cast_pow,
    Nat.cast_ofNat, mul_div_cancel_right₀ _ positive.ne']

private theorem roundHalfAway_mono {value other : ℚ} (nonneg : 0 ≤ value) (le : value ≤ other) :
    roundHalfAway value ≤ roundHalfAway other := by
  rw [roundHalfAway, if_pos nonneg, roundHalfAway, if_pos (nonneg.trans le)]
  exact Int.floor_le_floor (by linarith)

theorem roundTo_mono {value other : ℚ} (places : ℕ) (nonneg : 0 ≤ value) (le : value ≤ other) :
    roundTo places value ≤ roundTo places other := by
  have positive : (0 : ℚ) < 10 ^ places := by positivity
  have scaled := roundHalfAway_mono (mul_nonneg nonneg positive.le)
    (mul_le_mul_of_nonneg_right le positive.le)
  exact div_le_div_of_nonneg_right (by exact_mod_cast scaled) positive.le

/-- A value between two natural numbers stays between them. -/
theorem roundTo_mem (places : ℕ) {value : ℚ} {high : ℕ} (nonneg : 0 ≤ value) (le : value ≤ high) :
    0 ≤ roundTo places value ∧ roundTo places value ≤ high := by
  have low := roundTo_mono places (le_refl 0) nonneg
  have above := roundTo_mono places nonneg le
  have zero := roundTo_natCast places 0
  rw [Nat.cast_zero] at zero
  rw [zero] at low
  rw [roundTo_natCast] at above
  exact ⟨low, above⟩

/-- What a value is rounded to. -/
theorem roundTo_eq {places : ℕ} {value : ℚ} {units : ℤ} (nonneg : 0 ≤ value)
    (low : units - 1 / 2 ≤ value * 10 ^ places) (high : value * 10 ^ places < units + 1 / 2) :
    roundTo places value = units / 10 ^ places := by
  have positive : (0 : ℚ) < 10 ^ places := by positivity
  have floor : ⌊value * 10 ^ places + 1 / 2⌋ = units := by
    rw [Int.floor_eq_iff]
    constructor
    · linarith
    · linarith
  rw [roundTo, roundHalfAway, if_pos (mul_nonneg nonneg positive.le), floor]

/-- The value has no more than so many decimal places. -/
def HasPlaces (places : ℕ) (value : ℚ) : Prop := ∃ units : ℤ, value = units / 10 ^ places

theorem hasPlaces_roundTo (places : ℕ) (value : ℚ) : HasPlaces places (roundTo places value) :=
  ⟨_, rfl⟩

theorem HasPlaces.roundTo_eq {places : ℕ} {value : ℚ} (short : HasPlaces places value) :
    roundTo places value = value := by
  obtain ⟨units, rfl⟩ := short
  have positive : (0 : ℚ) < 10 ^ places := by positivity
  rw [roundTo, div_mul_cancel₀ _ positive.ne', roundHalfAway_intCast]

/-- Rounding the mean of so many short values moves their sum by half as many units, rounded
down. -/
theorem abs_mul_roundTo_sub_le {places count : ℕ} {value : ℚ}
    (short : HasPlaces places (count * value)) :
    |count * (roundTo places value - value)| ≤ (count / 2 : ℕ) / 10 ^ places := by
  obtain ⟨units, whole⟩ := short
  have positive : (0 : ℚ) < 10 ^ places := by positivity
  have near := abs_roundTo_sub_le places value
  rw [le_div_iff₀ positive, ← abs_of_pos positive, ← abs_mul] at near
  have moved : count * (roundTo places value - value) * 10 ^ places =
      ((count * roundHalfAway (value * 10 ^ places) - units : ℤ) : ℚ) := by
    rw [mul_sub, whole, sub_mul, div_mul_cancel₀ _ positive.ne', roundTo, ← mul_div_assoc,
      div_mul_cancel₀ _ positive.ne']
    push_cast
    rfl
  rw [le_div_iff₀ positive, ← abs_of_pos positive, ← abs_mul, moved, ← Int.cast_abs]
  have bound : |((count * roundHalfAway (value * 10 ^ places) - units : ℤ) : ℚ)| ≤ count / 2 := by
    rw [← moved, mul_assoc, abs_mul, Nat.abs_cast]
    have := mul_le_mul_of_nonneg_left near (Nat.cast_nonneg (α := ℚ) count)
    linarith
  rw [← Int.cast_abs] at bound
  have doubled : 2 * |count * roundHalfAway (value * 10 ^ places) - units| ≤ count := by
    have : (2 : ℚ) * |count * roundHalfAway (value * 10 ^ places) - units| ≤ count := by
      push_cast at bound ⊢
      linarith
    exact_mod_cast this
  have halved : |count * roundHalfAway (value * 10 ^ places) - units| ≤ (count / 2 : ℕ) := by
    omega
  have cast : ((|count * roundHalfAway (value * 10 ^ places) - units| : ℤ) : ℚ) ≤
      ((count / 2 : ℕ) : ℤ) := Int.cast_le.mpr halved
  rwa [Int.cast_natCast] at cast

end BrainMate.Storage
