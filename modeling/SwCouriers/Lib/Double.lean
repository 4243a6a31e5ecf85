import Mathlib.Data.Int.Log
import SwCouriers.Lib.Decimal

/-!
# Double-Precision Rounding

A double has a significand of 53 bits. `Double.round q` is the double next to `q`, the even one
of two that are equally near, for numbers in the range of normal doubles. Division and product
of two doubles are the exact quotient and product, rounded so.

## Main results

* `abs_round_sub_le`, `round_le`, `le_round`: rounding moves a number by at most one part in
  `2 ^ 53`.
-/

namespace Double

/-- The distance between the doubles around `q`. -/
def ulp (q : ℚ) : ℚ := 2 ^ (Int.log 2 |q| - 52)

/-- The double next to `q`, ties to the even significand. -/
def round (q : ℚ) : ℚ := Decimal.roundHalfEven (q / ulp q) * ulp q

theorem ulp_pos (q : ℚ) : 0 < ulp q := zpow_pos two_pos _

@[simp] theorem round_zero : round 0 = 0 := by
  simp [round, Decimal.roundHalfEven]

variable {q : ℚ}

theorem ulp_le (hq : q ≠ 0) : ulp q ≤ |q| / 2 ^ 52 := by
  have hlog : (2 : ℚ) ^ Int.log 2 |q| ≤ |q| := by
    exact_mod_cast Int.zpow_log_le_self one_lt_two (abs_pos.mpr hq)
  have hsplit : ulp q = 2 ^ Int.log 2 |q| / 2 ^ 52 := by
    rw [ulp, zpow_sub₀ two_ne_zero]
    norm_num
  rw [hsplit]
  gcongr

/-- Rounding moves a number by at most one part in `2 ^ 53`. -/
theorem abs_round_sub_le (q : ℚ) : |round q - q| ≤ |q| / 2 ^ 53 := by
  rcases eq_or_ne q 0 with rfl | hq
  · simp
  · have hne : ulp q ≠ 0 := (ulp_pos q).ne'
    have hdiff : round q - q = (Decimal.roundHalfEven (q / ulp q) - q / ulp q) * ulp q := by
      rw [sub_mul, div_mul_cancel₀ q hne, round]
    calc |round q - q| = |(Decimal.roundHalfEven (q / ulp q) : ℚ) - q / ulp q| * ulp q := by
          rw [hdiff, abs_mul, abs_of_pos (ulp_pos q)]
      _ ≤ 1 / 2 * (|q| / 2 ^ 52) :=
          mul_le_mul (Decimal.abs_roundHalfEven_sub_le _) (ulp_le hq) (ulp_pos q).le
            (by norm_num)
      _ = |q| / 2 ^ 53 := by ring

theorem round_le (hq : 0 ≤ q) : round q ≤ q * (1 + 1 / 2 ^ 53) := by
  have h := (abs_le.mp (abs_round_sub_le q)).2
  rw [abs_of_nonneg hq] at h
  linarith

theorem le_round (hq : 0 ≤ q) : q * (1 - 1 / 2 ^ 53) ≤ round q := by
  have h := (abs_le.mp (abs_round_sub_le q)).1
  rw [abs_of_nonneg hq] at h
  linarith

theorem round_nonneg (hq : 0 ≤ q) : 0 ≤ round q :=
  (mul_nonneg hq (by norm_num)).trans (le_round hq)

end Double
