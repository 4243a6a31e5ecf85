import Mathlib.Algebra.Order.Floor.Ring
import Mathlib.Data.Rat.Floor
import Mathlib.Tactic.Linarith
import Mathlib.Tactic.NormNum
import Mathlib.Tactic.Ring
import Mathlib.Tactic.Positivity

/-!
# Decimal Amounts with Two Places

An exact decimal is a rational number. Quantizing it to two places gives a whole number
of hundredths, which is how an amount is stored; `ofHundredths` reads it back.

Two rounding modes occur: `roundHalfUp` sends a tie away from zero, `roundHalfEven`
sends it to the even neighbour.

## Main results

* `quantize_ofHundredths`: quantizing a stored amount changes nothing.
* `quantize_mono`, `quantize_nonneg`: rounding keeps order and sign.
-/

namespace Decimal

/-- Round to the nearest integer, ties away from zero. -/
def roundHalfUp (q : ℚ) : ℤ :=
  if 0 ≤ q then ⌊q + 1 / 2⌋ else -⌊-q + 1 / 2⌋

/-- Round to the nearest integer, ties to the even one. -/
def roundHalfEven (q : ℚ) : ℤ :=
  let below := ⌊q⌋
  if q - below < 1 / 2 then below
  else if 1 / 2 < q - below then below + 1
  else if below % 2 = 0 then below
  else below + 1

/-- The amount that a whole number of hundredths stands for. -/
def ofHundredths (n : ℤ) : ℚ := n / 100

/-- Round to two places, ties away from zero, in hundredths. -/
def quantize (q : ℚ) : ℤ := roundHalfUp (q * 100)

/-- Round to two places, ties to even, in hundredths. -/
def quantizeHalfEven (q : ℚ) : ℤ := roundHalfEven (q * 100)

/-! ### Rounding -/

@[simp] theorem roundHalfUp_intCast (n : ℤ) : roundHalfUp n = n := by
  have hhalf : ⌊(1 / 2 : ℚ)⌋ = 0 := by norm_num
  unfold roundHalfUp
  by_cases h : (0 : ℚ) ≤ n
  · rw [if_pos h, Int.floor_intCast_add, hhalf, add_zero]
  · rw [if_neg h, ← Int.cast_neg, Int.floor_intCast_add, hhalf, add_zero, neg_neg]

variable {q : ℚ}

theorem roundHalfUp_nonneg (h : 0 ≤ q) : 0 ≤ roundHalfUp q := by
  rw [roundHalfUp, if_pos h]
  exact Int.floor_nonneg.mpr (by linarith)

theorem roundHalfUp_mono {p : ℚ} (h : p ≤ q) : roundHalfUp p ≤ roundHalfUp q := by
  unfold roundHalfUp
  by_cases hp : 0 ≤ p
  · rw [if_pos hp, if_pos (hp.trans h)]
    exact Int.floor_le_floor (by linarith)
  · have hp' : 0 ≤ ⌊-p + 1 / 2⌋ := Int.floor_nonneg.mpr (by linarith)
    rw [if_neg hp]
    by_cases hq : 0 ≤ q
    · have hq' : 0 ≤ ⌊q + 1 / 2⌋ := Int.floor_nonneg.mpr (by linarith)
      rw [if_pos hq]
      omega
    · rw [if_neg hq]
      exact neg_le_neg (Int.floor_le_floor (by linarith))

/-- A whole number added to one that is not negative passes through the rounding. -/
theorem roundHalfUp_add_intCast (hq : 0 ≤ q) {n : ℤ} (hn : 0 ≤ n) :
    roundHalfUp (q + n) = roundHalfUp q + n := by
  have hsum : (0 : ℚ) ≤ q + n := add_nonneg hq (by exact_mod_cast hn)
  rw [roundHalfUp, roundHalfUp, if_pos hq, if_pos hsum, add_right_comm, Int.floor_add_intCast]

/-- Rounding to even moves a number by at most one half. -/
theorem abs_roundHalfEven_sub_le (q : ℚ) : |(roundHalfEven q : ℚ) - q| ≤ 1 / 2 := by
  have h₁ := Int.floor_le q
  have h₂ := Int.lt_floor_add_one q
  simp only [roundHalfEven]
  split
  · rw [abs_le]
    constructor <;> linarith
  · split
    · rw [abs_le]
      push_cast
      constructor <;> linarith
    · split <;>
      · rw [abs_le]
        push_cast
        constructor <;> linarith

/-! ### Stored amounts -/

@[simp] theorem ofHundredths_zero : ofHundredths 0 = 0 := by
  norm_num [ofHundredths]

theorem ofHundredths_add (m n : ℤ) :
    ofHundredths (m + n) = ofHundredths m + ofHundredths n := by
  simp only [ofHundredths, Int.cast_add]
  ring

theorem ofHundredths_sub (m n : ℤ) :
    ofHundredths (m - n) = ofHundredths m - ofHundredths n := by
  simp only [ofHundredths, Int.cast_sub]
  ring

/-- Quantizing a stored amount changes nothing. -/
@[simp] theorem quantize_ofHundredths (n : ℤ) : quantize (ofHundredths n) = n := by
  rw [quantize, ofHundredths, div_mul_cancel₀ _ (by norm_num), roundHalfUp_intCast]

@[simp] theorem quantize_zero : quantize 0 = 0 := by
  rw [← ofHundredths_zero, quantize_ofHundredths]

theorem quantize_mono {p : ℚ} (h : p ≤ q) : quantize p ≤ quantize q :=
  roundHalfUp_mono (by linarith)

theorem quantize_nonneg (h : 0 ≤ q) : 0 ≤ quantize q :=
  roundHalfUp_nonneg (by positivity)

end Decimal
