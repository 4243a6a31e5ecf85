import Mathlib.Data.List.Pairwise
import SwCouriers.Lib.Spans

/-!
# Cooldowns

Rows of several kinds, each of which blocks its own kind from when it starts to when it stops. Who
adds a row looks at the latest row of the kind only, and waits until that one has stopped. The rows
of a kind then follow one another, and the latest is the last to stop, whatever the times of the
others.

## Main results

* `Spaced.apart`: two rows of a kind do not overlap.
* `latest?_eq_some`, `latest?_eq_none_iff`: the latest row of a kind.
* `Spaced.stop_le_latest`: no row of the kind stops after the latest.
* `Spaced.snoc`, `Spaced.map`: adding a row of a kind that has cooled down, and rewriting rows.
-/

namespace Cooldowns

variable {ρ κ τ : Type*} [LinearOrder τ] {kind : ρ → κ} {start stop : ρ → τ} {rows : List ρ}

/-- Each row of a kind has stopped when the next one starts. -/
def Spaced (kind : ρ → κ) (start stop : ρ → τ) (rows : List ρ) : Prop :=
  rows.Pairwise fun r r' => kind r = kind r' → stop r ≤ start r'

theorem spaced_nil : Spaced kind start stop [] := List.Pairwise.nil

/-- Of two rows of a kind, one has stopped when the other starts. -/
theorem Spaced.apart (h : Spaced kind start stop rows) {r m : ρ} (hr : r ∈ rows) (hm : m ∈ rows)
    (hne : r ≠ m) (hkind : kind r = kind m) : stop r ≤ start m ∨ stop m ≤ start r := by
  have : Std.Symm fun a b => kind a = kind b → stop a ≤ start b ∨ stop b ≤ start a :=
    ⟨fun _ _ hab hk => (hab hk.symm).symm⟩
  have hpairs : rows.Pairwise fun a b => kind a = kind b → stop a ≤ start b ∨ stop b ≤ start a :=
    h.imp fun hab hk => .inl (hab hk)
  exact hpairs.forall hr hm hne hkind

/-! ### The latest row -/

/-- The row of a kind that starts last; of several, the first in the table. -/
def latest? [DecidableEq κ] (kind : ρ → κ) (start : ρ → τ) (k : κ) (rows : List ρ) : Option ρ :=
  ((rows.filter fun r => kind r = k).insertionSort fun r r' => start r' ≤ start r).head?

variable [DecidableEq κ] {k : κ} {m : ρ}

theorem latest?_eq_none_iff : latest? kind start k rows = none ↔ ∀ r ∈ rows, kind r ≠ k := by
  rw [latest?, List.head?_eq_none_iff, ← List.length_eq_zero_iff, List.length_insertionSort,
    List.length_eq_zero_iff, List.filter_eq_nil_iff]
  simp only [decide_eq_true_eq]

theorem latest?_eq_some (h : latest? kind start k rows = some m) :
    m ∈ rows ∧ kind m = k ∧ ∀ r ∈ rows, kind r = k → start r ≤ start m := by
  have : IsTrans ρ fun r r' => start r' ≤ start r := ⟨fun _ _ _ hab hbc => hbc.trans hab⟩
  have : Std.Total fun r r' : ρ => start r' ≤ start r := ⟨fun r r' => le_total _ _⟩
  rw [latest?] at h
  have hsorted := List.pairwise_insertionSort (fun r r' => start r' ≤ start r)
    (rows.filter fun r => kind r = k)
  have hmem : ∀ {r}, r ∈ (rows.filter fun r => kind r = k).insertionSort
      (fun r r' => start r' ≤ start r) ↔ r ∈ rows ∧ kind r = k := by
    intro r
    rw [List.mem_insertionSort, List.mem_filter, decide_eq_true_eq]
  obtain ⟨rest, hrest⟩ := List.head?_eq_some_iff.mp h
  rw [hrest] at hsorted hmem
  have hm := hmem.mp List.mem_cons_self
  refine ⟨hm.1, hm.2, fun r hr hk => ?_⟩
  rcases List.mem_cons.mp (hmem.mpr ⟨hr, hk⟩) with rfl | hlater
  · exact le_rfl
  · exact (List.pairwise_cons.mp hsorted).1 r hlater

/-- No row of the kind stops after the latest one. -/
theorem Spaced.stop_le_latest (h : Spaced kind start stop rows)
    (hpos : ∀ r ∈ rows, start r < stop r) (hm : latest? kind start k rows = some m) {r : ρ}
    (hr : r ∈ rows) (hk : kind r = k) : stop r ≤ stop m := by
  obtain ⟨hmem, hkm, hlast⟩ := latest?_eq_some hm
  by_cases hrm : r = m
  · rw [hrm]
  rcases h.apart hr hmem hrm (hk.trans hkm.symm) with hbefore | hafter
  · exact hbefore.trans (hpos m hmem).le
  · exact absurd ((hafter.trans (hlast r hr hk)).trans_lt (hpos m hmem)) (lt_irrefl _)

/-! ### Writes -/

omit [DecidableEq κ]

/-- A row is added to a kind whose rows have stopped. -/
theorem Spaced.snoc (h : Spaced kind start stop rows) {new : ρ}
    (hcool : ∀ r ∈ rows, kind r = kind new → stop r ≤ start new) :
    Spaced kind start stop (rows ++ [new]) :=
  List.pairwise_append.mpr ⟨h, List.pairwise_singleton _ _, fun r hr r' hr' => by
    rw [List.mem_singleton.mp hr']
    exact hcool r hr⟩

/-- Rows may be rewritten, with kind and times as they were. -/
theorem Spaced.map (h : Spaced kind start stop rows) {f : ρ → ρ}
    (hf : ∀ r ∈ rows, kind (f r) = kind r ∧ start (f r) = start r ∧ stop (f r) = stop r) :
    Spaced kind start stop (rows.map f) := by
  refine List.pairwise_map.mpr (h.imp_of_mem fun {a b} ha hb hab => ?_)
  obtain ⟨hkind, -, hstop⟩ := hf a ha
  obtain ⟨hkind', hstart', -⟩ := hf b hb
  rw [hkind, hkind', hstop, hstart']
  exact hab

end Cooldowns
