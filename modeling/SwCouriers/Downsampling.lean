import Mathlib.Algebra.Order.Floor.Semifield
import SwCouriers.Lib.Samples
import SwCouriers.TraveledLegs

/-!
# Downsampling

`_downsample` keeps all of a list that is short enough, and else the elements at evenly spaced
indices; it then appends the last element of the list, unless the last one kept is that object.
Here the index arithmetic is exact, and an element stands for an object, so that two elements are
equal when they are the same object.

The greatest of the indices is never that of the last element, so the last element comes on top of
the ones that were to be kept.

## Main results

* `downsampleExact_of_lt`: what a list that is too long becomes.
* `downsample_bounded_iff`: **a list keeps the bound exactly if it did so before**, and so does a
  leg of a route.
-/

namespace SwCouriers.RouteGeometry

open Samples

variable {α : Type}

/-! ### The function -/

/-- `int(i * step)` for `step = n / max_size`, in exact arithmetic. -/
def exactIndex (n maxSize i : ℕ) : ℕ := ⌊(i : ℚ) * ((n : ℚ) / maxSize)⌋₊

/-- The loop of `_downsample`: an index that was seen is passed by. -/
def keepUnseen (points : List α) (seen : List ℕ) (out : List α) : List ℕ → List α
  | [] => out
  | idx :: indices =>
      if idx ∈ seen then keepUnseen points seen out indices
      else keepUnseen points (idx :: seen) (out ++ points[idx]?.toList) indices

/-- `_downsample`, in exact arithmetic. -/
def downsampleExact [DecidableEq α] (points : List α) (maxSize : ℕ) : List α :=
  if points.length ≤ maxSize then points
  else
    let indices := (List.range maxSize).map (exactIndex points.length maxSize)
    let out := keepUnseen points [] [] indices
    if points.getLast? ≠ out.getLast? then out ++ points.getLast?.toList else out

/-- A list stands for the points within the bound: it is a part of them in their order, with no
object twice that was not there twice, with the first and the last of them if there is room for
both, and not too long. -/
structure Downsampled (points : List α) (maxSize : ℕ) (out : List α) : Prop where
  sublist : out.Sublist points
  nodup : points.Nodup → out.Nodup
  ends : 2 ≤ maxSize → out.head? = points.head? ∧ out.getLast? = points.getLast?
  bounded : out.length ≤ maxSize

/-! ### Indices -/

theorem exactIndex_eq (n maxSize i : ℕ) : exactIndex n maxSize i = i * n / maxSize := by
  rw [exactIndex, ← mul_div_assoc, ← Nat.cast_mul]
  exact Nat.floor_div_eq_div _ _

section Indices

variable {n maxSize : ℕ}

/-- A step is longer than one index. -/
theorem exactIndex_succ (hpos : 0 < maxSize) (hlt : maxSize < n) (i : ℕ) :
    exactIndex n maxSize i < exactIndex n maxSize (i + 1) := by
  rw [exactIndex_eq, exactIndex_eq, Nat.succ_mul]
  calc i * n / maxSize < i * n / maxSize + 1 := Nat.lt_succ_self _
    _ = (i * n + maxSize) / maxSize := (Nat.add_div_right _ hpos).symm
    _ ≤ (i * n + n) / maxSize := Nat.div_le_div_right (by omega)

theorem exactIndex_strictMono (hpos : 0 < maxSize) (hlt : maxSize < n) :
    StrictMono (exactIndex n maxSize) :=
  strictMono_nat_of_lt_succ (exactIndex_succ hpos hlt)

/-- **The last index is not sampled.** -/
theorem exactIndex_lt_last (hlt : maxSize < n) {i : ℕ} (hi : i < maxSize) :
    exactIndex n maxSize i < n - 1 := by
  obtain ⟨k, rfl⟩ : ∃ k, n = k + 1 := ⟨n - 1, by omega⟩
  rw [exactIndex_eq, Nat.div_lt_iff_lt_mul (by omega), Nat.add_sub_cancel]
  calc i * (k + 1) = i * k + i := Nat.mul_succ i k
    _ < i * k + k := by omega
    _ = k * (i + 1) := by ring
    _ ≤ k * maxSize := Nat.mul_le_mul_left k hi

end Indices

/-! ### The loop -/

/-- Indices that were not seen are all kept. -/
theorem keepUnseen_eq (points : List α) {seen indices : List ℕ} (hnodup : indices.Nodup)
    (hnew : ∀ i ∈ indices, i ∉ seen) (out : List α) :
    keepUnseen points seen out indices = out ++ pick points indices := by
  induction indices generalizing seen out with
  | nil => rw [keepUnseen, pick_nil, List.append_nil]
  | cons i indices ih =>
      obtain ⟨hi, hrest⟩ := List.nodup_cons.mp hnodup
      rw [keepUnseen, if_neg (hnew i List.mem_cons_self), ih hrest, List.append_assoc,
        ← pick_singleton, ← pick_append, List.singleton_append]
      intro j hj hseen
      rcases List.mem_cons.mp hseen with rfl | hseen
      · exact hi hj
      · exact hnew j (List.mem_cons_of_mem i hj) hseen

variable {points : List α} {maxSize : ℕ}

/-- The indices that are sampled. -/
def exactIndices (n maxSize : ℕ) : List ℕ := (List.range maxSize).map (exactIndex n maxSize)

theorem exactIndices_increasing {n : ℕ} (hpos : 0 < maxSize) (hlt : maxSize < n) :
    (exactIndices n maxSize).Pairwise (· < ·) :=
  List.pairwise_map.mpr (List.pairwise_lt_range.imp fun h => exactIndex_strictMono hpos hlt h)

theorem exactIndices_lt_last {n i : ℕ} (hlt : maxSize < n) (hi : i ∈ exactIndices n maxSize) :
    i < n - 1 := by
  obtain ⟨j, hj, rfl⟩ := List.mem_map.mp hi
  exact exactIndex_lt_last hlt (List.mem_range.mp hj)

theorem exactIndices_lt {n : ℕ} (hlt : maxSize < n) : ∀ i ∈ exactIndices n maxSize, i < n :=
  fun _ hi => (exactIndices_lt_last hlt hi).trans_le (Nat.sub_le n 1)

/-- The last sampled index comes from the last number of the range. -/
theorem exactIndices_succ (n k : ℕ) :
    exactIndices n (k + 1)
      = (List.range k).map (exactIndex n (k + 1)) ++ [exactIndex n (k + 1) k] := by
  rw [exactIndices, List.range_succ, List.map_append]
  rfl

theorem getLast?_pick_exactIndices (hpos : 0 < maxSize) (hlt : maxSize < points.length) :
    (pick points (exactIndices points.length maxSize)).getLast?
      = points[exactIndex points.length maxSize (maxSize - 1)]? := by
  obtain ⟨k, rfl⟩ : ∃ k, maxSize = k + 1 := ⟨maxSize - 1, by omega⟩
  have hk : exactIndex points.length (k + 1) k < points.length :=
    (exactIndex_lt_last hlt (Nat.lt_succ_self k)).trans_le (Nat.sub_le _ 1)
  rw [exactIndices_succ, getLast?_pick_concat hk, Nat.add_sub_cancel]

/-- What a list that is too long becomes: the sampled points, and the last one unless the last
sampled point is the same object. -/
theorem downsampleExact_of_lt [DecidableEq α] (hpos : 0 < maxSize)
    (hlt : maxSize < points.length) :
    downsampleExact points maxSize
      = if points.getLast? = points[exactIndex points.length maxSize (maxSize - 1)]?
        then pick points (exactIndices points.length maxSize)
        else pick points (exactIndices points.length maxSize ++ [points.length - 1]) := by
  have hnodup : (exactIndices points.length maxSize).Nodup :=
    (exactIndices_increasing hpos hlt).imp fun h => h.ne
  have hloop : keepUnseen points [] []
      ((List.range maxSize).map (exactIndex points.length maxSize))
        = pick points (exactIndices points.length maxSize) :=
    keepUnseen_eq points hnodup (fun _ _ => List.not_mem_nil) []
  simp only [downsampleExact]
  rw [if_neg (not_le.mpr hlt), hloop, getLast?_pick_exactIndices hpos hlt, pick_append,
    pick_singleton, ← List.getLast?_eq_getElem?, ite_not]

/-- The first of the points is sampled. -/
theorem head?_pick_exactIndices (hpos : 0 < maxSize) (hlt : maxSize < points.length) :
    (pick points (exactIndices points.length maxSize)).head? = points.head? := by
  obtain ⟨k, rfl⟩ : ∃ k, maxSize = k + 1 := ⟨maxSize - 1, by omega⟩
  have hfirst : exactIndex points.length (k + 1) 0 = 0 := by
    rw [exactIndex_eq, Nat.zero_mul, Nat.zero_div]
  obtain ⟨a, rest, rfl⟩ : ∃ a rest, points = a :: rest :=
    List.exists_cons_of_length_pos (hpos.trans hlt)
  rw [exactIndices, List.range_succ_eq_map, List.map_cons, hfirst, pick,
    List.filterMap_cons_some (show (a :: rest)[0]? = some a from rfl)]
  rfl

theorem length_exactIndices (n maxSize : ℕ) : (exactIndices n maxSize).length = maxSize := by
  rw [exactIndices, List.length_map, List.length_range]

/-- With the last point on top there is one too many. -/
theorem length_pick_with_last (hlt : maxSize < points.length) :
    (pick points (exactIndices points.length maxSize ++ [points.length - 1])).length
      = maxSize + 1 := by
  rw [length_pick, List.length_append, length_exactIndices, List.length_singleton]
  intro i hi
  rcases List.mem_append.mp hi with hi | hi
  · exact exactIndices_lt hlt i hi
  · rw [List.mem_singleton.mp hi]
    omega

/-! ### The bound -/

theorem downsampled_self (h : points.length ≤ maxSize) : Downsampled points maxSize points :=
  ⟨List.Sublist.refl points, fun hnodup => hnodup, fun _ => ⟨rfl, rfl⟩, h⟩

/-- Where the last sampled point is the last of the points, nothing comes on top. -/
theorem downsampled_pick (hpos : 0 < maxSize) (hlt : maxSize < points.length)
    (hlast : points.getLast? = points[exactIndex points.length maxSize (maxSize - 1)]?) :
    Downsampled points maxSize (pick points (exactIndices points.length maxSize)) := by
  have hsub := pick_sublist (exactIndices_increasing hpos hlt) (exactIndices_lt hlt)
  refine ⟨hsub, fun hnodup => hnodup.sublist hsub, fun _ => ⟨?_, ?_⟩, ?_⟩
  · exact head?_pick_exactIndices hpos hlt
  · rw [getLast?_pick_exactIndices hpos hlt, hlast]
  · rw [length_pick (exactIndices_lt hlt), length_exactIndices]

/-- **A list of points keeps the bound exactly if it was within the bound**, or holds its last
object at the last sampled place, too. -/
theorem downsampled_iff [DecidableEq α] (points : List α) (hpos : 0 < maxSize) :
    Downsampled points maxSize (downsampleExact points maxSize) ↔
      points.length ≤ maxSize ∨
        points.getLast? = points[exactIndex points.length maxSize (maxSize - 1)]? := by
  rcases Nat.lt_or_ge maxSize points.length with hlt | hle
  · rw [downsampleExact_of_lt hpos hlt]
    split_ifs with hlast
    · exact iff_of_true (downsampled_pick hpos hlt hlast) (.inr hlast)
    · refine iff_of_false (fun h => ?_) fun h => h.elim (not_le.mpr hlt) hlast
      have hbounded := h.bounded
      rw [length_pick_with_last hlt] at hbounded
      exact Nat.not_succ_le_self maxSize hbounded
  · rw [downsampleExact, if_pos hle]
    exact iff_of_true (downsampled_self hle) (.inl hle)

/-- Different objects that are too many come out one too many. -/
theorem length_downsampleExact [DecidableEq α] (hnodup : points.Nodup) (hpos : 0 < maxSize)
    (hlt : maxSize < points.length) : (downsampleExact points maxSize).length = maxSize + 1 := by
  have hindex : exactIndex points.length maxSize (maxSize - 1) < points.length - 1 :=
    exactIndex_lt_last hlt (Nat.sub_one_lt hpos.ne')
  have hother : points.getLast? ≠ points[exactIndex points.length maxSize (maxSize - 1)]? := by
    rw [List.getLast?_eq_getElem?]
    intro hsame
    have heq := (List.getElem?_inj (show points.length - 1 < points.length by omega) hnodup).mp
      hsame
    omega
  rw [downsampleExact_of_lt hpos hlt, if_neg hother, length_pick_with_last hlt]

theorem nodup_windowPings (db : Tables) (routeId : Id) (leg : Leg) :
    (windowPings db routeId leg).Nodup :=
  (List.perm_insertionSort _ _).nodup_iff.mpr ((nodup_routePings db routeId).filter _)

/-- **The bound of `_downsample`.** A list of points comes out within the bound exactly if it was
within the bound, or holds its last object at the last sampled place, too; and a leg of a route
sends at most as many pings as it may exactly if there are no more in its window. -/
theorem downsample_bounded_iff [DecidableEq α] (points : List α) {maxSize : ℕ}
    (hpos : 1 ≤ maxSize) (db : Tables) (routeId : Id) (leg : Leg) :
    (Downsampled points maxSize (downsampleExact points maxSize) ↔
      points.length ≤ maxSize ∨
        points.getLast? = points[exactIndex points.length maxSize (maxSize - 1)]?) ∧
    ((downsampleExact (windowPings db routeId leg) maxPingsPerLeg).length ≤ maxPingsPerLeg ↔
      (windowPings db routeId leg).length ≤ maxPingsPerLeg) := by
  refine ⟨downsampled_iff points hpos, ?_⟩
  rcases Nat.lt_or_ge maxPingsPerLeg (windowPings db routeId leg).length with hlt | hle
  · rw [length_downsampleExact (nodup_windowPings db routeId leg) (by decide) hlt]
    exact iff_of_false (Nat.not_succ_le_self _) (not_le.mpr hlt)
  · rw [downsampleExact, if_pos hle]

/-- Ten points within a bound of ten stay as they are. -/
theorem ten_points_of_ten :
    Downsampled (List.range 10) 10 (downsampleExact (List.range 10) 10) :=
  (downsample_bounded_iff (List.range 10) (by decide) (demoTables 5 15) 1
    ⟨demoStop 1 1 (some 10), none, ⟨0, 51⟩, some 0, some 10⟩).1.mpr (.inl (by decide))

/-- A hundred and one points come out as they are, one too many. -/
theorem hundred_and_one_points :
    ¬ ∀ (points : List ℕ) (maxSize : ℕ), 1 ≤ maxSize →
      Downsampled points maxSize (downsampleExact points maxSize) := by
  intro hall
  have hbounded := (hall (List.range 101) 100 (by decide)).bounded
  revert hbounded
  decide +kernel

/-! ### In doubles -/

section Doubles

variable {n i : ℕ}

/-- The step of a list of more than a hundred, in doubles. -/
theorem step_bounds (hn : 101 ≤ n) :
    (n : ℚ) / 100 * (1 - 1 / 2 ^ 53) ≤ Double.round (n / 100) ∧
      Double.round ((n : ℚ) / 100) ≤ n / 100 * (1 + 1 / 2 ^ 53) ∧
      (101 : ℚ) / 100 * (1 - 1 / 2 ^ 53) ≤ Double.round (n / 100) := by
  have hn' : (101 : ℚ) ≤ n := by exact_mod_cast hn
  have hlow := Double.le_round (show (0 : ℚ) ≤ n / 100 by positivity)
  refine ⟨hlow, Double.round_le (by positivity), le_trans ?_ hlow⟩
  gcongr

/-- The rounding does not bring two indices together. -/
theorem sampleIndex_succ (hn : 101 ≤ n) (hi : i + 1 < maxPingsPerLeg) :
    sampleIndex n maxPingsPerLeg i < sampleIndex n maxPingsPerLeg (i + 1) := by
  obtain ⟨-, -, hstep⟩ := step_bounds hn
  have hi' : (i : ℚ) ≤ 98 := by
    have : i ≤ 98 := by rw [maxPingsPerLeg] at hi; omega
    exact_mod_cast this
  set step := Double.round ((n : ℚ) / 100) with hset
  have hpos : 0 ≤ step := le_trans (by norm_num) hstep
  have hupper := Double.round_le (show 0 ≤ (i : ℚ) * step by positivity)
  have hlower := Double.le_round (show 0 ≤ ((i : ℚ) + 1) * step by positivity)
  have hgap : (i : ℚ) * step * (1 + 1 / 2 ^ 53) + 1 ≤ (i + 1) * step * (1 - 1 / 2 ^ 53) := by
    nlinarith
  rw [sampleIndex, sampleIndex, Nat.lt_iff_add_one_le,
    ← Nat.floor_add_one (Double.round_nonneg (by positivity))]
  refine Nat.floor_le_floor ?_
  have hmax : ((maxPingsPerLeg : ℕ) : ℚ) = 100 := by norm_num [maxPingsPerLeg]
  rw [hmax, Nat.cast_succ, ← hset]
  exact (add_le_add_left hupper 1).trans (hgap.trans hlower)

/-- **Nor to the last index.** -/
theorem sampleIndex_lt_last (hn : 101 ≤ n) (hi : i < maxPingsPerLeg) :
    sampleIndex n maxPingsPerLeg i < n - 1 := by
  obtain ⟨-, hstep, hstep'⟩ := step_bounds hn
  have hn' : (101 : ℚ) ≤ n := by exact_mod_cast hn
  have hi' : (i : ℚ) ≤ 99 := by
    have : i ≤ 99 := by rw [maxPingsPerLeg] at hi; omega
    exact_mod_cast this
  set step := Double.round ((n : ℚ) / 100) with hset
  have hpos : 0 ≤ step := le_trans (by norm_num) hstep'
  have hproduct : (i : ℚ) * step ≤ 99 * (n / 100 * (1 + 1 / 2 ^ 53)) :=
    mul_le_mul hi' hstep hpos (by norm_num)
  have hvalue : Double.round (i * step) < (n - 1 : ℕ) := by
    rw [Nat.cast_pred (by omega)]
    calc Double.round (i * step) ≤ i * step * (1 + 1 / 2 ^ 53) := Double.round_le (by positivity)
      _ ≤ 99 * (n / 100 * (1 + 1 / 2 ^ 53)) * (1 + 1 / 2 ^ 53) := by gcongr
      _ < n - 1 := by nlinarith
  have hmax : ((maxPingsPerLeg : ℕ) : ℚ) = 100 := by norm_num [maxPingsPerLeg]
  rw [sampleIndex, Nat.floor_lt' (by omega), hmax, ← hset]
  exact hvalue

theorem sampleIndex_strictMono (hn : 101 ≤ n) {j : ℕ} (hj : j < maxPingsPerLeg) :
    ∀ i < j, sampleIndex n maxPingsPerLeg i < sampleIndex n maxPingsPerLeg j := by
  induction j with
  | zero => exact fun i hi => absurd hi (Nat.not_lt_zero i)
  | succ j ih =>
      intro i hi
      rcases Nat.lt_succ_iff_lt_or_eq.mp hi with hlt | rfl
      · exact (ih (Nat.lt_of_succ_lt hj) i hlt).trans (sampleIndex_succ hn hj)
      · exact sampleIndex_succ hn hj

/-- No index is sampled twice. -/
theorem sampledIndices_eq (hn : 101 ≤ n) : sampledIndices n maxPingsPerLeg
    = (List.range maxPingsPerLeg).map (sampleIndex n maxPingsPerLeg) := by
  have hnodup : ((List.range maxPingsPerLeg).map (sampleIndex n maxPingsPerLeg)).Nodup := by
    refine List.pairwise_map.mpr (List.pairwise_lt_range.imp_of_mem fun _ hj hlt => ?_)
    exact (sampleIndex_strictMono hn (List.mem_range.mp hj) _ hlt).ne
  rw [sampledIndices, List.Nodup.dedup (List.nodup_reverse.mpr hnodup), List.reverse_reverse]

/-- **In doubles there is one too many, too**: a leg with more than a hundred pings in its window
sends a hundred and one. -/
theorem length_legPings (db : Tables) (routeId : Id) (leg : Leg)
    (hlt : maxPingsPerLeg < (windowPings db routeId leg).length) :
    (legPings db routeId leg).length = maxPingsPerLeg + 1 := by
  have hn : 101 ≤ (windowPings db routeId leg).length := hlt
  have hsampled : (sampledPoints (windowPings db routeId leg) maxPingsPerLeg).length
      = maxPingsPerLeg := by
    have hpick : (pick (windowPings db routeId leg)
        (sampledIndices (windowPings db routeId leg).length maxPingsPerLeg)).length
          = (sampledIndices (windowPings db routeId leg).length maxPingsPerLeg).length :=
      length_pick fun i hi => lt_of_mem_sampledIndices (by omega) hi
    refine hpick.trans ?_
    rw [sampledIndices_eq hn, List.length_map, List.length_range]
  have hother : (sampledIndices (windowPings db routeId leg).length maxPingsPerLeg).getLast?
      ≠ some ((windowPings db routeId leg).length - 1) := by
    intro hlast
    have hmem := List.mem_of_getLast? hlast
    rw [sampledIndices_eq hn] at hmem
    obtain ⟨i, hi, heq⟩ := List.mem_map.mp hmem
    exact (sampleIndex_lt_last hn (List.mem_range.mp hi)).ne heq
  have hpoint : (windowPings db routeId leg).getLast?.toList.length = 1 := by
    rw [List.getLast?_eq_getElem?, List.getElem?_eq_getElem (by omega)]
    rfl
  have hleg : legPings db routeId leg
      = sampledPoints (windowPings db routeId leg) maxPingsPerLeg
        ++ (windowPings db routeId leg).getLast?.toList := by
    change downsample (windowPings db routeId leg) maxPingsPerLeg = _
    rw [downsample, if_neg (not_le.mpr hlt), if_neg hother]
  rw [hleg, List.length_append, hsampled, hpoint]

end Doubles

end SwCouriers.RouteGeometry
