import Mathlib.Data.List.Sort
import SwCouriers.Lib.Grouping
import SwCouriers.Pricing

/-!
# Volume Tiers

`app/modules/org_discounts/v1/schemas.py`: the brackets of a volume discount as a client sends
them. The check sorts a copy and compares neighbours; what is stored is the list as it was
sent, and pricing takes the first bracket that the order count is in.

The lower ends of the sorted copy never fall, so a gap after each bracket up to the next one
is a gap up to every later one: the check of neighbours is a check of all pairs. No bracket
has to be a range, so a lower end may lie above its upper end; no count is in such a bracket.

## Main results

* `pairwise_of_checkNeighbours`: neighbours that do not overlap are pairs that do not.
* `volume_tiers_unambiguous`: at most one accepted bracket has the count, and the percentage
  does not depend on the order that the brackets are stored in.
-/

namespace SwCouriers

/-- A decimal, with the text that `str` gives back. -/
structure DecimalNumber where
  text : String
  value : ℚ
  parse_text : Decimal.parse text = some value

/-- `VolumeTierItem`, with the bounds of its fields. -/
structure VolumeTierItem where
  minBookings : ℤ
  maxBookings : Option ℤ
  discountPct : DecimalNumber
  one_le_min : 1 ≤ minBookings
  one_le_max : ∀ m ∈ maxBookings, 1 ≤ m
  pct_nonneg : 0 ≤ discountPct.value
  pct_le : discountPct.value ≤ 100

/-- `_serialize_volume_tiers`. -/
def serializeVolumeTiers (tiers : List VolumeTierItem) : List VolumeTier :=
  tiers.map fun t => ⟨t.minBookings, t.maxBookings, .text t.discountPct.text⟩

/-- The loop of `_validate_volume_tiers` over neighbours. -/
def checkNeighbours : List VolumeTierItem → Except String Unit
  | tier :: nextTier :: rest =>
      if tier.maxBookings.all fun m => nextTier.minBookings ≤ m then
        .error ("Volume tiers must not overlap. Tier starting at "
          ++ toString tier.minBookings ++ " overlaps with tier starting at "
          ++ toString nextTier.minBookings ++ ".")
      else checkNeighbours (nextTier :: rest)
  | _ => .ok ()

/-- `_validate_volume_tiers`: the sorted copy, or the text of the `ValueError`. -/
def validateVolumeTiers (tiers : List VolumeTierItem) :
    Except String (List VolumeTierItem) :=
  if tiers = [] then .error "volume_tiers must contain at least one tier."
  else
    let sortedTiers := tiers.insertionSort fun a b => a.minBookings ≤ b.minBookings
    (checkNeighbours sortedTiers).map fun _ => sortedTiers

/-! ### Which bracket a count is in -/

/-- The count lies between the two ends. -/
def VolumeTier.Contains (t : VolumeTier) (orderCount : ℕ) : Prop :=
  t.minBookings ≤ (orderCount : ℤ) ∧ t.maxBookings.all fun m => (orderCount : ℤ) ≤ m

instance (t : VolumeTier) (orderCount : ℕ) : Decidable (t.Contains orderCount) :=
  inferInstanceAs (Decidable (_ ∧ _))

/-- The first bracket ends before the second one begins. -/
def VolumeTierItem.Before (a b : VolumeTierItem) : Prop :=
  ∃ m, a.maxBookings = some m ∧ m < b.minBookings

/-- Neighbours that pass the check lie one before the other. -/
theorem before_of_checkNeighbours {tier nextTier : VolumeTierItem}
    {rest : List VolumeTierItem}
    (h : checkNeighbours (tier :: nextTier :: rest) = .ok ()) :
    tier.Before nextTier ∧ checkNeighbours (nextTier :: rest) = .ok () := by
  rw [checkNeighbours] at h
  split_ifs at h with hoverlap
  refine ⟨?_, h⟩
  cases hmax : tier.maxBookings with
  | none => simp [hmax] at hoverlap
  | some m => exact ⟨m, hmax, by simpa [hmax] using hoverlap⟩

/-- **Neighbours that do not overlap are pairs that do not**, since the lower ends never
fall. -/
theorem pairwise_of_checkNeighbours {tiers : List VolumeTierItem}
    (hsorted : tiers.Pairwise fun a b => a.minBookings ≤ b.minBookings)
    (h : checkNeighbours tiers = .ok ()) : tiers.Pairwise VolumeTierItem.Before := by
  induction tiers with
  | nil => exact .nil
  | cons tier tiers ih =>
      obtain ⟨-, hsorted'⟩ := List.pairwise_cons.mp hsorted
      cases tiers with
      | nil => exact List.pairwise_singleton _ _
      | cons nextTier rest =>
          obtain ⟨⟨m, hmax, hm⟩, hrest⟩ := before_of_checkNeighbours h
          refine .cons (fun later hlater => ⟨m, hmax, ?_⟩) (ih hsorted' hrest)
          rcases List.mem_cons.mp hlater with rfl | hlater
          · exact hm
          · exact hm.trans_le ((List.pairwise_cons.mp hsorted').1 later hlater)

/-- A count in a bracket is in none that begins after it. -/
theorem VolumeTierItem.Before.not_contains {a b : VolumeTierItem} (h : a.Before b) {count : ℤ}
    (ha : a.maxBookings.all (fun m => count ≤ m) = true) : count < b.minBookings := by
  obtain ⟨m, hmax, hm⟩ := h
  rw [hmax] at ha
  exact lt_of_le_of_lt (of_decide_eq_true ha) hm

/-- Of the brackets of an accepted list at most one has the count. -/
theorem length_contains_le_one {tiers sortedTiers : List VolumeTierItem}
    (h : validateVolumeTiers tiers = .ok sortedTiers) (orderCount : ℕ) :
    ((serializeVolumeTiers tiers).filter fun t => t.Contains orderCount).length ≤ 1 := by
  unfold validateVolumeTiers at h
  split_ifs at h
  obtain ⟨⟨⟩, hcheck, -⟩ := Checked.map_eq_ok.mp h
  have hpairs := pairwise_of_checkNeighbours
    (List.pairwise_insertionSort (fun a b : VolumeTierItem => a.minBookings ≤ b.minBookings) _)
    hcheck
  have hperm : (serializeVolumeTiers (tiers.insertionSort fun a b =>
      a.minBookings ≤ b.minBookings)).Perm (serializeVolumeTiers tiers) :=
    (List.perm_insertionSort _ _).map _
  rw [← (hperm.filter _).length_eq]
  refine Grouping.length_filter_le_one (List.pairwise_map.mpr (hpairs.imp ?_))
  intro a b hbefore ha
  have hlt := hbefore.not_contains (of_decide_eq_true ha).2
  exact decide_eq_false fun hb => absurd hb.1 (not_le.mpr hlt)

/-! ### The percentage -/

/-- The text of a decimal reads back as its value. -/
theorem DecimalNumber.decimal_text (d : DecimalNumber) :
    (Scalar.text d.text).decimal = .ok d.value := by
  have hne : d.text ≠ "" := by
    intro hempty
    have hparse := d.parse_text
    rw [hempty] at hparse
    have hnone : Decimal.parse "" = none := by decide +kernel
    exact absurd (hnone.symm.trans hparse) (Option.some_ne_none _).symm
  rw [Scalar.decimal, if_neg hne, d.parse_text]
  rfl

/-- The percentage is the one of the bracket found. -/
theorem volumeTierPct_eq (tiers : List VolumeTier) (orderCount : ℕ) :
    volumeTierPct tiers orderCount =
      (tiers.find? fun t => t.Contains orderCount).elim (.ok 0) (·.discountPct.decimal) := by
  have hfind : (tiers.find? fun t => t.minBookings ≤ (orderCount : ℤ) ∧
      t.maxBookings.all fun m => (orderCount : ℤ) ≤ m)
        = tiers.find? fun t => t.Contains orderCount := rfl
  rw [volumeTierPct, hfind]
  cases tiers.find? fun t => t.Contains orderCount <;> rfl

/-- **Volume tiers are unambiguous**: at most one bracket of an accepted list has the count,
and however the brackets are stored, the percentage is that bracket's, or zero when there is
none. -/
theorem volume_tiers_unambiguous {tiers sortedTiers : List VolumeTierItem}
    (h : validateVolumeTiers tiers = .ok sortedTiers) (orderCount : ℕ) :
    ((serializeVolumeTiers tiers).filter fun t => t.Contains orderCount).length ≤ 1 ∧
    ∀ stored : List VolumeTier, stored.Perm (serializeVolumeTiers tiers) →
      volumeTierPct stored orderCount = volumeTierPct (serializeVolumeTiers tiers) orderCount ∧
      (∀ t ∈ tiers, t.minBookings ≤ orderCount → (∀ m ∈ t.maxBookings, orderCount ≤ m) →
        volumeTierPct stored orderCount = .ok t.discountPct.value) ∧
      ((∀ t ∈ stored, ¬ t.Contains orderCount) → volumeTierPct stored orderCount = .ok 0) := by
  have hone := length_contains_le_one h orderCount
  refine ⟨hone, fun stored hperm => ?_⟩
  have hfind := Grouping.find?_eq_of_perm hperm.symm hone
  have hsame : volumeTierPct stored orderCount
      = volumeTierPct (serializeVolumeTiers tiers) orderCount := by
    rw [volumeTierPct_eq, volumeTierPct_eq, hfind]
  refine ⟨hsame, fun t ht hmin hmax => ?_, fun hnone => ?_⟩
  · have hfound := Grouping.find?_eq_some_of_mem hone (List.mem_map_of_mem ht)
      (decide_eq_true ⟨hmin, by simpa [Option.all_eq_true] using hmax⟩)
    rw [hsame, volumeTierPct_eq, hfound]
    exact t.discountPct.decimal_text
  · have hfound : (stored.find? fun t => t.Contains orderCount) = none :=
      List.find?_eq_none.mpr fun t ht => by simpa using hnone t ht
    rw [volumeTierPct_eq, hfound]
    rfl

theorem pounds_natCast_nonneg (n : ℕ) : 0 ≤ pounds n := by
  rw [pounds, Decimal.ofHundredths]
  positivity

theorem pounds_natCast_le_hundred {n : ℕ} (h : n ≤ 10000) : pounds n ≤ 100 := by
  have hcast : (n : ℚ) ≤ 10000 := by exact_mod_cast h
  rw [pounds, Decimal.ofHundredths, Int.cast_natCast]
  linarith

/-- A whole number of hundredths, written with two places. -/
def DecimalNumber.hundredths (n : ℕ) : DecimalNumber :=
  ⟨Decimal.render n, pounds n, Decimal.parse_render n⟩

theorem openBracket_bounds : (1 : ℤ) ≤ 10 ∧ ∀ m ∈ (none : Option ℤ), 1 ≤ m := by
  simp

theorem closedBracket_bounds : (1 : ℤ) ≤ 1 ∧ ∀ m ∈ some (9 : ℤ), 1 ≤ m := by
  simp

theorem bracketPct_bounds : 750 ≤ 10000 ∧ 250 ≤ 10000 := by
  decide

/-- Two brackets, the higher one sent first. -/
def sentTiers : List VolumeTierItem :=
  [{ minBookings := 10, maxBookings := none, discountPct := .hundredths 750
     one_le_min := openBracket_bounds.1, one_le_max := openBracket_bounds.2
     pct_nonneg := pounds_natCast_nonneg 750
     pct_le := pounds_natCast_le_hundred bracketPct_bounds.1 },
   { minBookings := 1, maxBookings := some 9, discountPct := .hundredths 250
     one_le_min := closedBracket_bounds.1, one_le_max := closedBracket_bounds.2
     pct_nonneg := pounds_natCast_nonneg 250
     pct_le := pounds_natCast_le_hundred bracketPct_bounds.2 }]

/-- Stored the other way round, twelve bookings still earn seven and a half per cent. -/
theorem volume_tiers_unambiguous_reversed :
    volumeTierPct (serializeVolumeTiers sentTiers).reverse 12 = .ok (15 / 2) := by
  have hvalid : validateVolumeTiers sentTiers = .ok sentTiers.reverse := by
    simp [validateVolumeTiers, sentTiers, checkNeighbours, Except.map]
  obtain ⟨-, hstored⟩ := volume_tiers_unambiguous hvalid 12
  obtain ⟨-, hpct, -⟩ := hstored _ (List.reverse_perm _)
  have hvalue : (DecimalNumber.hundredths 750).value = 15 / 2 := by
    norm_num [DecimalNumber.hundredths, pounds, Decimal.ofHundredths]
  rw [← hvalue]
  exact hpct _ List.mem_cons_self (by norm_num) (fun m hm => absurd hm (Option.not_mem_none m))

end SwCouriers
