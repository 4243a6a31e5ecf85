import Mathlib.Order.Bounds.Basic
import Mathlib.Order.Interval.Finset.Basic

/-!
# Searching Upwards

A loop that goes through candidates in increasing order, until it finds one or is past the
last that it may take. Such a loop ends, and it ends with the first candidate there is.

## Main results

* `exists_ends`: a search that moves upwards ends.
* `Ends.isFirst`: it ends with the least candidate that is found, if there is one.
-/

namespace Searches

variable {α β : Type*}

/-- The least element of a set, and none only if the set is empty. -/
def IsFirst [Preorder α] (S : Set α) : Option α → Prop
  | none => S = ∅
  | some c => IsLeast S c

section IsFirst

variable [PartialOrder α] {S : Set α} {r r' : Option α}

/-- Monotone maps keep first elements. -/
theorem IsFirst.image [PartialOrder β] {f : α → β} (hf : Monotone f) (h : IsFirst S r) :
    IsFirst (f '' S) (r.map f) := by
  cases r with
  | none => exact Set.image_eq_empty.mpr h
  | some c => exact hf.map_isLeast h

end IsFirst

/-- A search through candidates: `next` leads from one to the following, the search gives up
past `last`, and it stops at the first candidate that is `found`. -/
inductive Ends [LT α] [LE α] (next : α → α → Prop) (last : α) (found : α → Prop) :
    α → Option α → Prop
  | past {d : α} : last < d → Ends next last found d none
  | found {d : α} : d ≤ last → found d → Ends next last found d (some d)
  | again {d d' : α} {r : Option α} : d ≤ last → ¬ found d → next d d' →
      Ends next last found d' r → Ends next last found d r

section Ends

variable [LinearOrder α] {next : α → α → Prop} {last : α} {found : α → Prop}

/-- **A search that moves upwards ends**: there are only so many candidates up to the last. -/
theorem exists_ends [LocallyFiniteOrder α] (hnext : ∀ d ≤ last, ∃ d', next d d' ∧ d < d')
    (d : α) : ∃ r, Ends next last found d r := by
  classical
  obtain ⟨n, hn⟩ : ∃ n, (Finset.Icc d last).card = n := ⟨_, rfl⟩
  induction n using Nat.strong_induction_on generalizing d with
  | h n ih =>
      rcases lt_or_ge last d with hpast | hle
      · exact ⟨none, .past hpast⟩
      · by_cases hfound : found d
        · exact ⟨some d, .found hle hfound⟩
        · obtain ⟨d', hstep, hlt⟩ := hnext d hle
          have hfewer : (Finset.Icc d' last).card < n := by
            rw [← hn]
            refine Finset.card_lt_card (Finset.ssubset_iff_subset_ne.mpr ⟨?_, fun heq => ?_⟩)
            · exact Finset.Icc_subset_Icc_left hlt.le
            · have hmem : d ∈ Finset.Icc d' last := by
                rw [heq]
                exact Finset.left_mem_Icc.mpr hle
              exact absurd (Finset.mem_Icc.mp hmem).1 (not_le.mpr hlt)
          obtain ⟨r, hr⟩ := ih _ hfewer d' rfl
          exact ⟨r, .again hle hfound hstep hr⟩

/-- **A search that starts at a candidate and misses none ends with the least that is
found.** -/
theorem Ends.isFirst {p : α → Prop}
    (hnext : ∀ d d', p d → next d d' → IsLeast {e | p e ∧ d < e} d') {d : α} {r : Option α}
    (h : Ends next last found d r) (hd : p d) :
    IsFirst {e | p e ∧ d ≤ e ∧ e ≤ last ∧ found e} r := by
  induction h with
  | @past d hpast =>
      exact Set.eq_empty_of_forall_notMem fun e he =>
        absurd (he.2.1.trans he.2.2.1) (not_le.mpr hpast)
  | @found d hle hfound =>
      exact ⟨⟨hd, le_rfl, hle, hfound⟩, fun e he => he.2.1⟩
  | @again d d' r hle hmissed hstep _ ih =>
      have hleast := hnext d d' hd hstep
      have hsame : {e | p e ∧ d' ≤ e ∧ e ≤ last ∧ found e}
          = {e | p e ∧ d ≤ e ∧ e ≤ last ∧ found e} := by
        ext e
        constructor
        · rintro ⟨he, hfrom, hrest⟩
          exact ⟨he, hleast.1.2.le.trans hfrom, hrest⟩
        · rintro ⟨he, hfrom, hlast, hfound⟩
          have hne : d ≠ e := fun heq => hmissed (heq ▸ hfound)
          exact ⟨he, hleast.2 ⟨he, lt_of_le_of_ne hfrom hne⟩, hlast, hfound⟩
      exact hsame ▸ ih hleast.1.1

end Ends

end Searches
