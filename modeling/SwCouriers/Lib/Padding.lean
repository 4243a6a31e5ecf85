import Mathlib.Data.Char
import SwCouriers.Lib.DecimalText

/-!
# Numbers Filled with Zeros

A number written in a fixed number of places, filled with zeros on the left. Numbers that fit in the
places have texts of one length, and texts of digits of one length are ordered as the numbers they
stand for. A number that does not fit has a longer text, and the order of texts does not know it.

## Main results

* `ofDigitChars_padded`, `padded_injective`: the text determines the number.
* `lt_of_ofDigitChars_lt`: among texts of one length, the smaller number has the smaller text.
* `append_lt_append_of_length_eq`: texts of one length decide the order of longer ones.
* `padded_lt_padded_iff`: **numbers that fit are ordered as their texts**.
-/

namespace Decimal

/-- A number in at least `width` places. -/
def padded (width n : ℕ) : List Char :=
  List.replicate (width - (Nat.toDigits 10 n).length) '0' ++ Nat.toDigits 10 n

variable {width m n : ℕ}

/-! ### The number of a text -/

theorem ofDigitChars_replicate_zero (k : ℕ) :
    Nat.ofDigitChars 10 (List.replicate k '0') 0 = 0 := by
  induction k with
  | zero => rfl
  | succ k ih =>
      rw [List.replicate_succ, Nat.ofDigitChars_cons]
      exact ih

@[simp] theorem ofDigitChars_padded (width n : ℕ) : Nat.ofDigitChars 10 (padded width n) 0 = n := by
  rw [padded, Nat.ofDigitChars_append, ofDigitChars_replicate_zero, Nat.ofDigitChars_ten_toDigits]

theorem padded_injective (width : ℕ) : Function.Injective (padded width) := by
  intro m n h
  have hnum := congrArg (fun cs => Nat.ofDigitChars 10 cs 0) h
  simpa only [ofDigitChars_padded] using hnum

theorem padded_ne_nil (width n : ℕ) : padded width n ≠ [] :=
  List.append_ne_nil_of_right_ne_nil _ Nat.toDigits_ne_nil

theorem isDigit_of_mem_padded {c : Char} (hc : c ∈ padded width n) : c.isDigit = true := by
  rcases List.mem_append.mp hc with hzero | hdigit
  · rw [List.eq_of_mem_replicate hzero]
    rfl
  · exact isDigit_of_mem_toDigits hdigit

/-- A number that fits takes exactly the places. -/
theorem length_padded (hn : n < 10 ^ width) (hwidth : 0 < width) :
    (padded width n).length = width := by
  have hfits : (Nat.toDigits 10 n).length ≤ width :=
    (Nat.length_toDigits_le_iff (by decide) hwidth).mpr hn
  rw [padded, List.length_append, List.length_replicate, Nat.sub_add_cancel hfits]

/-! ### The order of texts -/

/-- A digit lies above that of zero, by less than ten. -/
theorem toNat_bounds {c : Char} (hc : c.isDigit = true) :
    '0'.toNat ≤ c.toNat ∧ c.toNat < '0'.toNat + 10 := by
  obtain ⟨hzero, hnine⟩ := Char.isDigit_iff_toNat.mp hc
  exact ⟨hzero, Nat.lt_succ_of_le hnine⟩

theorem ofDigitChars_lt_pow {cs : List Char} (hdigits : ∀ c ∈ cs, c.isDigit = true) :
    Nat.ofDigitChars 10 cs 0 < 10 ^ cs.length := by
  induction cs with
  | nil => exact Nat.one_pos
  | cons c cs ih =>
      have hc : c.toNat - '0'.toNat + 1 ≤ 10 := by
        have hbounds := toNat_bounds (hdigits c List.mem_cons_self)
        omega
      have hcs := ih fun d hd => hdigits d (List.mem_cons_of_mem c hd)
      rw [Nat.ofDigitChars_cons, Nat.ofDigitChars_eq_ofDigitChars_zero, Nat.mul_zero, Nat.zero_add,
        List.length_cons, pow_succ]
      calc 10 ^ cs.length * (c.toNat - '0'.toNat) + Nat.ofDigitChars 10 cs 0
          < 10 ^ cs.length * (c.toNat - '0'.toNat) + 10 ^ cs.length := Nat.add_lt_add_left hcs _
        _ = 10 ^ cs.length * (c.toNat - '0'.toNat + 1) := by ring
        _ ≤ 10 ^ cs.length * 10 := Nat.mul_le_mul_left _ hc

/-- Among texts of digits of one length, the smaller number has the smaller text. -/
theorem lt_of_ofDigitChars_lt {as bs : List Char} (hlen : as.length = bs.length)
    (has : ∀ c ∈ as, c.isDigit = true) (hbs : ∀ c ∈ bs, c.isDigit = true)
    (h : Nat.ofDigitChars 10 as 0 < Nat.ofDigitChars 10 bs 0) : as < bs := by
  induction as generalizing bs with
  | nil =>
      obtain rfl := List.eq_nil_of_length_eq_zero hlen.symm
      exact absurd h (lt_irrefl _)
  | cons a as ih =>
      cases bs with
      | nil => exact absurd hlen (Nat.succ_ne_zero _)
      | cons b bs =>
          have hlen' : as.length = bs.length := Nat.succ.inj hlen
          have has' := fun c hc => has c (List.mem_cons_of_mem a hc)
          have hbs' := fun c hc => hbs c (List.mem_cons_of_mem b hc)
          simp only [Nat.ofDigitChars_cons, Nat.mul_zero, Nat.zero_add] at h
          rw [Nat.ofDigitChars_eq_ofDigitChars_zero (l := as),
            Nat.ofDigitChars_eq_ofDigitChars_zero (l := bs), hlen'] at h
          rcases lt_trichotomy a b with hlt | rfl | hgt
          · exact List.cons_lt_cons_iff.mpr (.inl hlt)
          · exact List.cons_lt_cons_iff.mpr
              (.inr ⟨rfl, ih hlen' has' hbs' (Nat.lt_of_add_lt_add_left h)⟩)
          · -- a greater leading digit outweighs whatever the rest says
            have hrest := ofDigitChars_lt_pow hbs'
            have hdigit : b.toNat - '0'.toNat + 1 ≤ a.toNat - '0'.toNat := by
              have hb := toNat_bounds (hbs b List.mem_cons_self)
              have hba : b.toNat < a.toNat := hgt
              omega
            have hweight := Nat.mul_le_mul_left (10 ^ bs.length) hdigit
            rw [Nat.mul_add, Nat.mul_one] at hweight
            omega

/-- What follows texts of one length does not matter while they differ. -/
theorem append_lt_append_of_length_eq {as bs cs ds : List Char} (hlen : as.length = bs.length)
    (h : as < bs) : as ++ cs < bs ++ ds := by
  induction as generalizing bs with
  | nil =>
      obtain rfl := List.eq_nil_of_length_eq_zero hlen.symm
      exact absurd h (List.lt_irrefl _)
  | cons a as ih =>
      cases bs with
      | nil => exact absurd hlen (Nat.succ_ne_zero _)
      | cons b bs =>
          rcases List.cons_lt_cons_iff.mp h with hlt | ⟨rfl, hrest⟩
          · exact List.cons_lt_cons_iff.mpr (.inl hlt)
          · exact List.cons_lt_cons_iff.mpr (.inr ⟨rfl, ih (Nat.succ.inj hlen) hrest⟩)

/-- **Numbers that fit are ordered as their texts.** -/
theorem padded_lt_padded_iff (hm : m < 10 ^ width) (hn : n < 10 ^ width) (hwidth : 0 < width) :
    padded width m < padded width n ↔ m < n := by
  have hmono : ∀ {a b : ℕ}, a < 10 ^ width → b < 10 ^ width → a < b →
      padded width a < padded width b := fun ha hb hab =>
    lt_of_ofDigitChars_lt ((length_padded ha hwidth).trans (length_padded hb hwidth).symm)
      (fun _ => isDigit_of_mem_padded) (fun _ => isDigit_of_mem_padded)
      (by rwa [ofDigitChars_padded, ofDigitChars_padded])
  refine ⟨fun h => ?_, hmono hm hn⟩
  rcases lt_trichotomy m n with hlt | rfl | hgt
  · exact hlt
  · exact absurd h (List.lt_irrefl _)
  · exact absurd h (List.lt_asymm (hmono hn hm hgt))

example : padded 6 41 = "000041".toList := by decide

end Decimal
