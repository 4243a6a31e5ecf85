import Mathlib.Data.List.Nodup

/-!
# Lists with One Marked Element

A list whose elements may carry a mark is well marked when it has exactly one marked element,
or no element at all. Elements are told apart by a key. This module says how the number of
marked elements moves when all marks are cleared, when one element is rewritten, and when one
is removed.

## Main results

* `countP_map_clear`: clearing leaves no mark.
* `countP_map_at`: rewriting one element exchanges its own mark for the new one.
* `countP_filter_ne`: removing one element takes its mark away.
* `oneMarked_filter_ne_iff`: what is left of a well marked list is well marked unless the
  marked element was removed from among others.
-/

namespace Marked

variable {α κ : Type*} [DecidableEq κ] {p : α → Bool} {key : α → κ} {l : List α}

/-- At most one element is marked, and one is when there are any. -/
def OneMarked (p : α → Bool) (l : List α) : Prop :=
  l.countP p ≤ 1 ∧ (l ≠ [] → l.countP p = 1)

theorem oneMarked_nil : OneMarked p [] := ⟨Nat.zero_le 1, fun h => absurd rfl h⟩

theorem oneMarked_of_countP_eq_one (h : l.countP p = 1) : OneMarked p l :=
  ⟨Nat.le_of_eq h, fun _ => h⟩

/-- A list that is not empty is well marked when one element is marked. -/
theorem oneMarked_iff_of_ne_nil (hne : l ≠ []) : OneMarked p l ↔ l.countP p = 1 :=
  ⟨fun h => h.2 hne, oneMarked_of_countP_eq_one⟩

/-- Clearing leaves no mark. -/
theorem countP_map_clear {f : α → α} (hf : ∀ a ∈ l, p (f a) = false) :
    (l.map f).countP p = 0 := by
  rw [List.countP_eq_zero]
  intro b hb
  obtain ⟨a, ha, rfl⟩ := List.mem_map.mp hb
  rw [hf a ha]
  exact Bool.false_ne_true

/-- Rewriting the elements of one key exchanges the mark of the one that there is. -/
theorem countP_map_at (hnd : (l.map key).Nodup) {a : α} (ha : a ∈ l) (f : α → α) :
    (l.map fun b => if key b = key a then f b else b).countP p + (if p a then 1 else 0)
      = l.countP p + if p (f a) then 1 else 0 := by
  induction l with
  | nil => exact absurd ha List.not_mem_nil
  | cons b l ih =>
      obtain ⟨hb, hnd⟩ := List.nodup_cons.mp hnd
      rw [List.map_cons, List.countP_cons, List.countP_cons]
      by_cases hkey : key b = key a
      · -- The others have other keys.
        have hrest : (l.map fun c => if key c = key a then f c else c) = l := by
          refine (List.map_congr_left fun c hc => if_neg fun h => hb ?_).trans (List.map_id l)
          rw [hkey, ← h]
          exact List.mem_map_of_mem hc
        obtain rfl : a = b := by
          rcases List.mem_cons.mp ha with rfl | ha
          · rfl
          · exact absurd (hkey ▸ List.mem_map_of_mem ha) hb
        rw [hrest, if_pos rfl]
        omega
      · have hmem : a ∈ l := (List.mem_cons.mp ha).resolve_left fun h => hkey (h ▸ rfl)
        rw [if_neg hkey]
        have hih := ih hnd hmem
        omega

/-- Removing the element of one key takes its mark away. -/
theorem countP_filter_ne (hnd : (l.map key).Nodup) {a : α} (ha : a ∈ l) :
    (l.filter fun b => ¬ key b = key a).countP p + (if p a then 1 else 0) = l.countP p := by
  induction l with
  | nil => exact absurd ha List.not_mem_nil
  | cons b l ih =>
      obtain ⟨hb, hnd⟩ := List.nodup_cons.mp hnd
      rw [List.countP_cons, List.filter_cons]
      by_cases hkey : key b = key a
      · have hrest : (l.filter fun c => ¬ key c = key a) = l := by
          rw [List.filter_eq_self]
          intro c hc
          rw [decide_eq_true_eq]
          exact fun h => hb (by rw [hkey, ← h]; exact List.mem_map_of_mem hc)
        obtain rfl : a = b := by
          rcases List.mem_cons.mp ha with rfl | ha
          · rfl
          · exact absurd (hkey ▸ List.mem_map_of_mem ha) hb
        rw [if_neg (by simp), hrest]
      · have hmem : a ∈ l := (List.mem_cons.mp ha).resolve_left fun h => hkey (h ▸ rfl)
        rw [if_pos (by simpa using hkey), List.countP_cons]
        have hih := ih hnd hmem
        omega

/-- **Removing one element** of a well marked list leaves one, unless the element was the
marked one among others. -/
theorem oneMarked_filter_ne_iff (hl : OneMarked p l) (hnd : (l.map key).Nodup) {a : α}
    (ha : a ∈ l) :
    OneMarked p (l.filter fun b => ¬ key b = key a) ↔
      ¬ (p a = true ∧ (l.filter fun b => ¬ key b = key a) ≠ []) := by
  have hcount := countP_filter_ne (p := p) hnd ha
  have hone : l.countP p = 1 := hl.2 (List.ne_nil_of_mem ha)
  by_cases hempty : (l.filter fun b => ¬ key b = key a) = []
  · rw [hempty]
    exact iff_of_true oneMarked_nil fun h => h.2 rfl
  · rw [oneMarked_iff_of_ne_nil hempty]
    cases hpa : p a with
    | true =>
        rw [hpa, if_pos rfl, hone] at hcount
        exact iff_of_false (by omega) (not_not.mpr ⟨rfl, hempty⟩)
    | false =>
        rw [hpa, if_neg Bool.false_ne_true, hone] at hcount
        exact iff_of_true hcount fun h => Bool.false_ne_true h.1

end Marked
