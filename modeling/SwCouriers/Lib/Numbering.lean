import Mathlib.Data.List.Perm.Basic

/-!
# Slots Numbered by Their Count

Entries that are given the number of entries so far, plus one, as their slot. As long as the
slots in use are exactly `1, …, n`, the next one is free. Taking an entry away keeps them so
exactly if it has the last slot; when it has an earlier one, the next slot is one in use.

## Main results

* `Numbered.append_next`: adding entries.
* `Numbered.tail_iff`: taking one away.
* `Numbered.next_mem`: the next slot is taken when the entry was not the last one.
-/

namespace Numbering

/-- The slots in use are `1, …, n`, in some order. -/
def Numbered (slots : List ℕ) : Prop :=
  slots.Perm (List.range' 1 slots.length)

variable {slots : List ℕ} {k : ℕ}

theorem Numbered.mem_iff (h : Numbered slots) : k ∈ slots ↔ 1 ≤ k ∧ k ≤ slots.length := by
  rw [List.Perm.mem_iff h, List.mem_range'_1]
  omega

theorem Numbered.nodup (h : Numbered slots) : slots.Nodup :=
  List.Perm.nodup_iff h |>.mpr List.nodup_range'

theorem Numbered.of_perm {slots' : List ℕ} (h : Numbered slots) (hperm : slots.Perm slots') :
    Numbered slots' := by
  have hlength : slots'.length = slots.length := hperm.length_eq.symm
  rw [Numbered, hlength]
  exact hperm.symm.trans h

/-- New entries take the next slots. -/
theorem Numbered.append_next (h : Numbered slots) (k : ℕ) :
    Numbered (slots ++ List.range' (slots.length + 1) k) := by
  have hrange : List.range' 1 (slots.length + k)
      = List.range' 1 slots.length ++ List.range' (slots.length + 1) k := by
    rw [List.range'_eq_append_iff]
    exact ⟨slots.length, by omega, by simp, by simp [Nat.add_comm]⟩
  rw [Numbered, List.length_append, List.length_range', hrange]
  exact List.Perm.append_right _ h

/-- **Taking an entry away** keeps the slots in order exactly if it has the last one. -/
theorem Numbered.tail_iff (h : Numbered (k :: slots)) :
    Numbered slots ↔ k = slots.length + 1 := by
  have hk := h.mem_iff.mp (List.mem_cons_self (a := k))
  rw [List.length_cons] at hk
  constructor
  · intro hslots
    by_contra hne
    have hmem : k ∈ slots := hslots.mem_iff.mpr ⟨hk.1, by omega⟩
    exact (List.nodup_cons.mp h.nodup).1 hmem
  · rintro rfl
    have hrange : List.range' 1 (slots.length + 1) = List.range' 1 slots.length
        ++ [slots.length + 1] := by
      rw [List.range'_1_concat, Nat.add_comm]
    have hcons : ((slots.length + 1) :: slots).Perm
        ((slots.length + 1) :: List.range' 1 slots.length) := by
      refine List.Perm.trans h ?_
      rw [List.length_cons, hrange]
      exact List.perm_append_comm
    exact hcons.cons_inv

/-- When an entry that was not the last one is gone, the next slot is in use. -/
theorem Numbered.next_mem (h : Numbered (k :: slots)) (hk : k ≠ slots.length + 1) :
    slots.length + 1 ∈ slots := by
  have hlast : slots.length + 1 ∈ k :: slots := h.mem_iff.mpr ⟨by omega, Nat.le_refl _⟩
  exact List.mem_of_ne_of_mem (Ne.symm hk) hlast

end Numbering
