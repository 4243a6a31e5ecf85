import Mathlib.Data.List.Induction
import Mathlib.Data.List.Nodup
import Mathlib.Data.List.Sort

/-!
# Samples of a List

The elements of a list at given indices. At increasing indices they are a sublist, and as many as
there are indices.

## Main results

* `pick_sublist`: picking at increasing indices.
* `length_pick`, `getLast?_pick`: how many are picked, and the last of them.
-/

namespace Samples

variable {α : Type*} {l : List α} {indices : List ℕ}

/-- The elements at the indices, where there are any. -/
def pick (l : List α) (indices : List ℕ) : List α :=
  indices.filterMap fun i => l[i]?

@[simp] theorem pick_nil (l : List α) : pick l [] = [] := rfl

theorem pick_append (l : List α) (indices indices' : List ℕ) :
    pick l (indices ++ indices') = pick l indices ++ pick l indices' :=
  List.filterMap_append

theorem pick_singleton (l : List α) (i : ℕ) : pick l [i] = l[i]?.toList := by
  cases h : l[i]? with
  | none => rw [pick, List.filterMap_cons_none h]; rfl
  | some a => rw [pick, List.filterMap_cons_some h]; rfl

/-- All indices give the list back. -/
theorem pick_range (l : List α) : pick l (List.range l.length) = l := by
  induction l using List.reverseRecOn with
  | nil => rfl
  | append_singleton l a ih =>
      rw [List.length_append, List.length_singleton, List.range_succ, pick_append, pick_singleton]
      have hinit : pick (l ++ [a]) (List.range l.length) = pick l (List.range l.length) :=
        List.filterMap_congr fun i hi => List.getElem?_append_left (List.mem_range.mp hi)
      rw [hinit, ih, List.getElem?_concat_length]
      rfl

/-- **Picking at increasing indices** gives a sublist. -/
theorem pick_sublist (hsorted : indices.Pairwise (· < ·)) (hbound : ∀ i ∈ indices, i < l.length) :
    (pick l indices).Sublist l := by
  have hsub : indices.Sublist (List.range l.length) := by
    refine List.sublist_of_subperm_of_pairwise (r := (· < ·)) ?_ hsorted List.pairwise_lt_range
    exact List.subperm_of_subset (hsorted.imp fun h => h.ne)
      fun i hi => List.mem_range.mpr (hbound i hi)
  have hpick := hsub.filterMap fun i => l[i]?
  rwa [← pick, ← pick, pick_range] at hpick

/-- Every index within the list counts. -/
theorem length_pick (hbound : ∀ i ∈ indices, i < l.length) :
    (pick l indices).length = indices.length := by
  induction indices with
  | nil => rfl
  | cons i indices ih =>
      have hi := hbound i List.mem_cons_self
      rw [pick, List.filterMap_cons_some (List.getElem?_eq_getElem hi), List.length_cons,
        List.length_cons]
      exact congrArg (· + 1) (ih fun j hj => hbound j (List.mem_cons_of_mem i hj))

/-- The last of the picked elements. -/
theorem getLast?_pick_concat {i : ℕ} (hi : i < l.length) :
    (pick l (indices ++ [i])).getLast? = l[i]? := by
  rw [pick_append, pick_singleton, List.getElem?_eq_getElem hi, Option.toList_some,
    List.getLast?_concat]

end Samples
