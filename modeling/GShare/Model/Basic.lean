import GShare.ToMathlib.Rounding

/-! # Identifiers, clock readings and credit amounts

Row identifiers are drawn from ULIDs in the source; here they are numbers. A clock reading is an
integer, the microseconds since the epoch. A credit column is `Numeric(18, 2)` and is an integer too,
its number of hundredths; a decimal that has not been stored yet is a rational number of credits.
-/

namespace GShare.Model

open Rounding

abbrev SessionId := ℕ
abbrev WalletId := ℕ
abbrev UserId := ℕ
abbrev GroupId := ℕ
abbrev OrgId := ℕ
abbrev RequestId := ℕ
abbrev DeviceId := ℕ
abbrev NodeId := ℕ
abbrev PoolId := ℕ
abbrev ClusterId := ℕ

/-- Microseconds in one second. -/
def second : ℤ := 1000000

/-- The epoch minute a reading falls in; it names the per-minute charge. -/
def minuteBucket (now : ℤ) : ℤ := now / (60 * second)

/-- Two decimal places, half away from zero: the ledger's rounding and what the column stores. -/
def round2 (value : ℚ) : ℤ := halfUp (value * 100)

/-- Every arithmetic operation on decimals keeps 28 significant digits. -/
def decimal (value : ℚ) : ℚ := toDigits 28 value

/-- The stored amount as a number of credits. -/
def credits (amount : ℤ) : ℚ := amount / 100

theorem minuteBucket_mono {earlier later : ℤ} (le : earlier ≤ later) : minuteBucket earlier ≤ minuteBucket later :=
  Int.ediv_le_ediv (by decide) le

variable {low high : ℚ}

theorem round2_mono (le : low ≤ high) : round2 low ≤ round2 high :=
  halfUp_mono (by linarith)

theorem round2_neg (value : ℚ) : round2 (-value) = -round2 value := by
  rw [round2, neg_mul, halfUp_neg, ← round2]

@[simp] theorem round2_zero : round2 0 = 0 := by simp [round2]

@[simp] theorem round2_credits (amount : ℤ) : round2 (credits amount) = amount := by
  rw [round2, credits, div_mul_cancel₀ _ (by norm_num), halfUp_intCast]

theorem decimal_mono (nonneg : 0 ≤ low) (le : low ≤ high) : decimal low ≤ decimal high :=
  toDigits_mono 28 (by norm_num) nonneg le

/-- A stored amount has fewer than 28 digits. -/
theorem decimal_credits {amount : ℤ} (nonneg : 0 ≤ amount) (narrow : amount < 10 ^ 18) :
    decimal (credits amount) = credits amount := by
  refine toDigits_of_whole 28 2 amount ?_ ?_
  · rw [credits, abs_of_nonneg (div_nonneg (by exact_mod_cast nonneg) (by norm_num))]
    have small : (amount : ℚ) < 10 ^ 18 := by exact_mod_cast narrow
    norm_num
    linarith
  · rw [credits]
    norm_num

theorem decimal_nonneg {value : ℚ} (nonneg : 0 ≤ value) : 0 ≤ decimal value :=
  toDigits_nonneg 28 nonneg

end GShare.Model
