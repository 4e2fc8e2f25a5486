import Mathlib.Data.Rat.Floor
import Mathlib.Data.Int.Log
import Mathlib.Algebra.Order.Field.Rat
import Mathlib.Tactic.Linarith

/-! # Decimal rounding of rational numbers

Two roundings to an integer (ties away from zero, ties to even) and the rounding of a value to a
fixed number of significant decimal digits, which is what a decimal arithmetic context does after
each operation. Both integer roundings are monotone and fix the integers; the significant-digit
rounding is monotone on the nonnegative values.
-/

namespace Rounding

/-- Nearest integer, ties away from zero. -/
def halfUp (value : ℚ) : ℤ :=
  if 0 ≤ value then ⌊value + 1 / 2⌋ else -⌊-value + 1 / 2⌋

/-- Nearest integer, ties to the even neighbour. -/
def halfEven (value : ℚ) : ℤ :=
  if Int.fract value < 1 / 2 then ⌊value⌋
  else if 1 / 2 < Int.fract value then ⌊value⌋ + 1
  else if ⌊value⌋ % 2 = 0 then ⌊value⌋ else ⌊value⌋ + 1

/-- Exponent of the last digit kept when `value` is written with `digits` significant digits. -/
def lastExponent (digits : ℕ) (value : ℚ) : ℤ := Int.log 10 |value| + 1 - digits

/-- `value` rounded to `digits` significant decimal digits, ties to even. -/
def toDigits (digits : ℕ) (value : ℚ) : ℚ :=
  if value = 0 then 0
  else halfEven (value / 10 ^ lastExponent digits value) * 10 ^ lastExponent digits value

variable {value : ℚ}

theorem halfUp_of_nonneg (nonneg : 0 ≤ value) : halfUp value = ⌊value + 1 / 2⌋ :=
  if_pos nonneg

@[simp] theorem halfUp_intCast (n : ℤ) : halfUp n = n := by
  have floor_half : ⌊(1 / 2 : ℚ)⌋ = 0 := by norm_num
  by_cases nonneg : (0 : ℚ) ≤ n
  · rw [halfUp_of_nonneg nonneg, Int.floor_intCast_add, floor_half, add_zero]
  · rw [halfUp, if_neg nonneg, ← Int.cast_neg, Int.floor_intCast_add, floor_half, add_zero, neg_neg]

@[simp] theorem halfUp_zero : halfUp 0 = 0 := by
  simpa using halfUp_intCast 0

variable {low high : ℚ}

theorem halfUp_mono (le : low ≤ high) : halfUp low ≤ halfUp high := by
  by_cases lowNonneg : 0 ≤ low
  · rw [halfUp_of_nonneg lowNonneg, halfUp_of_nonneg (lowNonneg.trans le)]
    exact Int.floor_le_floor (by linarith)
  · rw [halfUp, if_neg lowNonneg]
    by_cases highNonneg : 0 ≤ high
    · rw [halfUp_of_nonneg highNonneg]
      have lowPart : 0 ≤ ⌊-low + 1 / 2⌋ := Int.floor_nonneg.mpr (by linarith)
      have highPart : 0 ≤ ⌊high + 1 / 2⌋ := Int.floor_nonneg.mpr (by linarith)
      omega
    · rw [halfUp, if_neg highNonneg]
      exact neg_le_neg (Int.floor_le_floor (by linarith))

/-- An integer offset passes through the rounding as long as the sum stays nonnegative. -/
theorem halfUp_add_intCast {value : ℚ} {n : ℤ} (nonneg : 0 ≤ value) (sumNonneg : 0 ≤ value + n) :
    halfUp (value + n) = halfUp value + n := by
  rw [halfUp_of_nonneg nonneg, halfUp_of_nonneg sumNonneg, add_right_comm, Int.floor_add_intCast]

/-- Off the ties the sign does not matter. -/
theorem halfUp_of_fract_ne (noTie : Int.fract value ≠ 1 / 2) : halfUp value = ⌊value + 1 / 2⌋ := by
  by_cases nonneg : 0 ≤ value
  · exact halfUp_of_nonneg nonneg
  · rw [halfUp, if_neg nonneg, ← Int.ceil_neg, eq_comm, Int.floor_eq_iff]
    have below := Int.le_ceil (-(-value + 1 / 2))
    have above := Int.ceil_lt_add_one (-(-value + 1 / 2))
    refine ⟨by linarith, lt_of_le_of_ne (by linarith) fun tie => noTie ?_⟩
    -- Equality would make `value` an integer plus one half.
    rw [show value = ((⌈-(-value + 1 / 2)⌉ : ℤ) : ℚ) + 1 / 2 by linarith, Int.fract_intCast_add]
    norm_num [Int.fract]

/-- Off the ties an integer offset passes through the rounding. -/
theorem halfUp_add_intCast_of_fract_ne {n : ℤ} (noTie : Int.fract value ≠ 1 / 2) :
    halfUp (value + n) = halfUp value + n := by
  rw [halfUp_of_fract_ne noTie, halfUp_of_fract_ne (by rwa [Int.fract_add_intCast]), add_right_comm,
    Int.floor_add_intCast]

theorem halfUp_neg (value : ℚ) : halfUp (-value) = -halfUp value := by
  rcases lt_trichotomy value 0 with neg | rfl | pos
  · rw [halfUp_of_nonneg (by linarith), halfUp, if_neg (by linarith), neg_neg]
  · simp
  · rw [halfUp, if_neg (by linarith), neg_neg, halfUp_of_nonneg pos.le]

private theorem floor_le_halfEven (value : ℚ) : ⌊value⌋ ≤ halfEven value := by
  unfold halfEven
  split_ifs <;> omega

private theorem halfEven_le_floor_add_one (value : ℚ) : halfEven value ≤ ⌊value⌋ + 1 := by
  unfold halfEven
  split_ifs <;> omega

@[simp] theorem halfEven_intCast (n : ℤ) : halfEven n = n := by
  simp [halfEven]

theorem halfEven_mono (le : low ≤ high) : halfEven low ≤ halfEven high := by
  rcases (Int.floor_le_floor le).lt_or_eq with below | same
  · have lowBound := halfEven_le_floor_add_one low
    have highBound := floor_le_halfEven high
    omega
  -- Same integer part: the fractional parts are ordered and only the tie rule is left.
  · have fractions : Int.fract low ≤ Int.fract high := by
      rw [Int.fract, Int.fract, same]
      linarith
    unfold halfEven
    rw [same]
    split_ifs <;> first | omega | linarith

section Digits

variable (digits : ℕ)

private theorem ten_zpow_pos (exponent : ℤ) : (0 : ℚ) < 10 ^ exponent :=
  zpow_pos (by norm_num) exponent

private theorem scaled_power (value : ℚ) :
    (10 : ℚ) ^ (Int.log 10 |value| + 1) = ((10 ^ digits : ℕ) : ℤ) * 10 ^ lastExponent digits value := by
  rw [lastExponent]
  push_cast
  rw [← zpow_natCast, ← zpow_add₀ (by norm_num)]
  congr 1
  omega

theorem toDigits_nonneg (nonneg : 0 ≤ value) : 0 ≤ toDigits digits value := by
  unfold toDigits
  split_ifs
  · exact le_rfl
  · have scaled : ((0 : ℤ) : ℚ) ≤ value / 10 ^ lastExponent digits value := by
      simpa using div_nonneg nonneg (ten_zpow_pos _).le
    have rounded := halfEven_mono scaled
    rw [halfEven_intCast] at rounded
    exact mul_nonneg (by exact_mod_cast rounded) (ten_zpow_pos _).le

/-- Rounding never leaves the decade above: the result is at most the next power of ten. -/
private theorem toDigits_le_decade (pos : 0 < value) : toDigits digits value ≤ 10 ^ (Int.log 10 value + 1) := by
  have below : value < 10 ^ (Int.log 10 value + 1) := by
    simpa using Int.lt_zpow_succ_log_self (b := 10) (by norm_num) value
  rw [toDigits, if_neg pos.ne']
  have decade := scaled_power digits value
  rw [abs_of_pos pos] at decade
  rw [decade] at below ⊢
  refine mul_le_mul_of_nonneg_right ?_ (ten_zpow_pos _).le
  have scaled := (div_lt_iff₀ (ten_zpow_pos (lastExponent digits value))).mpr below
  have rounded := halfEven_mono scaled.le
  rw [halfEven_intCast] at rounded
  exact_mod_cast rounded

/-- Rounding never leaves the decade below: the leading power of ten is kept. -/
private theorem decade_le_toDigits (pos : 0 < value) (someDigit : 0 < digits) :
    10 ^ Int.log 10 value ≤ toDigits digits value := by
  have above : (10 : ℚ) ^ Int.log 10 value ≤ value := by
    simpa using Int.zpow_log_le_self (b := 10) (by norm_num) pos
  have decade : (10 : ℚ) ^ Int.log 10 value
      = ((10 ^ (digits - 1) : ℕ) : ℤ) * 10 ^ lastExponent digits value := by
    rw [lastExponent, abs_of_pos pos]
    push_cast
    rw [← zpow_natCast, ← zpow_add₀ (by norm_num)]
    congr 1
    omega
  rw [toDigits, if_neg pos.ne']
  rw [decade] at above ⊢
  refine mul_le_mul_of_nonneg_right ?_ (ten_zpow_pos _).le
  have scaled := (le_div_iff₀ (ten_zpow_pos (lastExponent digits value))).mpr above
  have rounded := halfEven_mono scaled
  rw [halfEven_intCast] at rounded
  exact_mod_cast rounded

/-- Rounding to significant digits keeps the order of nonnegative values. -/
theorem toDigits_mono (someDigit : 0 < digits) (nonneg : 0 ≤ low)
    (le : low ≤ high) : toDigits digits low ≤ toDigits digits high := by
  rcases nonneg.eq_or_lt with rfl | lowPos
  · simpa [toDigits] using toDigits_nonneg digits le
  have highPos : 0 < high := lowPos.trans_le le
  rcases (Int.log_mono_right (b := 10) lowPos le).lt_or_eq with below | same
  · calc toDigits digits low ≤ 10 ^ (Int.log 10 low + 1) := toDigits_le_decade digits lowPos
      _ ≤ 10 ^ Int.log 10 high := zpow_le_zpow_right₀ (by norm_num) (by omega)
      _ ≤ toDigits digits high := decade_le_toDigits digits highPos someDigit
  · have exponents : lastExponent digits low = lastExponent digits high := by
      rw [lastExponent, lastExponent, abs_of_pos lowPos, abs_of_pos highPos, same]
    rw [toDigits, toDigits, if_neg lowPos.ne', if_neg highPos.ne', exponents]
    refine mul_le_mul_of_nonneg_right ?_ (ten_zpow_pos _).le
    exact_mod_cast halfEven_mono (div_le_div_of_nonneg_right le (ten_zpow_pos _).le)

/-- A value with a fixed number of decimal places that fits the digits is kept. -/
theorem toDigits_of_whole (places : ℕ) (whole : ℤ) (fits : |value| < 10 ^ (digits - places : ℤ))
    (isWhole : value * 10 ^ places = whole) : toDigits digits value = value := by
  unfold toDigits
  split_ifs with zero
  · exact zero.symm
  · have small : Int.log 10 |value| < digits - places :=
      (Int.lt_zpow_iff_log_lt (by norm_num) (abs_pos.mpr zero)).mp (by exact_mod_cast fits)
    have shift : ∃ more : ℕ, -lastExponent digits value = places + more :=
      ⟨(-lastExponent digits value - places).toNat, by rw [lastExponent]; omega⟩
    obtain ⟨more, exponent⟩ := shift
    have scaled : value / 10 ^ lastExponent digits value = ((whole * 10 ^ more : ℤ) : ℚ) := by
      rw [div_eq_mul_inv, ← zpow_neg, exponent, zpow_add₀ (by norm_num), zpow_natCast, zpow_natCast,
        ← mul_assoc, isWhole]
      push_cast
      rfl
    rw [scaled, halfEven_intCast, ← scaled, div_mul_cancel₀ _ (ten_zpow_pos _).ne']

@[simp] theorem toDigits_zero : toDigits digits 0 = 0 := if_pos rfl

end Digits

end Rounding
