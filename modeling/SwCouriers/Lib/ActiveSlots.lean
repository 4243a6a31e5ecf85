import SwCouriers.Lib.Table

/-!
# Slots that Active Rows Take

The rows of a table may each name a slot, and take it while they are active. Rows are added where
nobody has taken the slot they name; a row that is rewritten names what it named before, and may
become active; rows are deleted, and the others may lose the slot they name.

Such writes leave every slot with one row at most, as long as no row becomes active beside another
one that has taken the slot which it names.

## Main results

* `UniqueOn.of_slotWrites`: every slot is taken once after a write that does not clash.
-/

namespace Table

variable {κ ρ σ : Type*} {key : ρ → κ} [DecidableEq κ] {slot named : ρ → Option σ}
  {active : ρ → Prop}

/-- The row of the key `k` names a slot that another row has taken. -/
def slotClash [DecidableEq σ] (slot named : ρ → Option σ) (t : Table key) (k : κ) : Bool :=
  t.rows.any fun row => key row = k &&
    t.rows.any fun row' => key row' ≠ k && (slot row').isSome && slot row' = named row

/-- How a write treats slots; `activated` is the key of the row that it makes active, if it does
that. -/
inductive SlotWrites (slot named : ρ → Option σ) (active : ρ → Prop) (t : Table key)
    (activated : Option κ) : Table key → Prop
  | inserted (row : ρ) (hkey : key row ∉ t.rows.map key)
      (hfree : ∀ s, named row = some s → ∀ row' ∈ t.rows, slot row' ≠ some s) :
      SlotWrites slot named active t activated (t.insert row)
  | modified (k : κ) (f : ρ → ρ) (hf : ∀ row, key (f row) = key row)
      (hnamed : ∀ row, named (f row) = named row)
      (hactive : ∀ row, active (f row) → active row ∨ activated = some k) :
      SlotWrites slot named active t activated (t.modify k f hf)
  | shrunk (p : ρ → Prop) [DecidablePred p] (f : ρ → ρ) (hf : ∀ row, key (f row) = key row)
      (hnamed : ∀ row s, named (f row) = some s → named row = some s)
      (hactive : ∀ row, active (f row) → active row) :
      SlotWrites slot named active t activated ((t.deleteWhere p).mapRows f hf)
  | kept : SlotWrites slot named active t activated t

/-- Where nothing clashes, the other rows have not taken what a row names. -/
theorem slot_ne_of_not_clash [DecidableEq σ] {t : Table key} {row row' : ρ} {s : σ}
    (hclash : t.slotClash slot named (key row) = false) (hrow : row ∈ t.rows)
    (hrow' : row' ∈ t.rows) (hne : key row' ≠ key row) (hnamed : named row = some s) :
    slot row' ≠ some s := by
  intro hslot
  simp only [slotClash, List.any_eq_false, Bool.and_eq_true, List.any_eq_true,
    decide_eq_true_eq] at hclash
  exact hclash row hrow ⟨rfl, row', hrow', ⟨hne, by rw [hslot]; rfl⟩, by rw [hslot, hnamed]⟩

/-- **Every slot is taken once** after a write that makes no row active beside another one. -/
theorem UniqueOn.of_slotWrites [DecidableEq σ] {t t' : Table key} {activated : Option κ}
    (hslot : ∀ row s, slot row = some s ↔ active row ∧ named row = some s)
    (h : t.UniqueOn slot) (hwrites : SlotWrites slot named active t activated t')
    (hclash : activated.any (t.slotClash slot named) = false) : t'.UniqueOn slot := by
  cases hwrites with
  | inserted row hkey hfree => exact h.insert hkey fun s hs => hfree s ((hslot row s).mp hs).2
  | modified k f hf hnamed hactive =>
      refine h.modify hf fun row hrow hk s hs => ?_
      obtain ⟨hafter, hname⟩ := (hslot _ s).mp hs
      rw [hnamed] at hname
      rcases hactive row hafter with hbefore | hactivated
      · exact .inl ((hslot row s).mpr ⟨hbefore, hname⟩)
      · subst hk
        rw [hactivated, Option.any_some] at hclash
        exact .inr fun row' hrow' hne => slot_ne_of_not_clash hclash hrow hrow' hne hname
  | shrunk p f hf hnamed hactive =>
      refine (h.deleteWhere p).mapRows hf fun row s hs => ?_
      obtain ⟨hafter, hname⟩ := (hslot _ s).mp hs
      exact (hslot row s).mpr ⟨hactive row hafter, hnamed row s hname⟩
  | kept => exact h

end Table
