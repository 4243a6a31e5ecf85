import Mathlib.Algebra.BigOperators.Group.List.Basic
import Mathlib.Algebra.Order.BigOperators.Group.List
import Mathlib.Algebra.Group.Int.Defs
import Mathlib.Algebra.Order.Group.Int
import Mathlib.Algebra.Ring.Int.Defs
import Mathlib.Data.List.MinMax
import Mathlib.Data.List.Nodup

/-!
# Tables with a Primary Key

A table is a list of rows, in insertion order, no two of which have the same key. The
uniqueness is a field of the structure, so a table with a duplicate key cannot be
built: `insert` of a row whose key is taken changes nothing, `mapRows` and `modify` may
only be given a function that keeps the key, and `deleteWhere` removes rows.

`sumWhere` is the aggregate query `SELECT COALESCE(SUM(f), 0) WHERE p`.

## Main results

* `find?_insert`, `find?_mapRows`, `find?_modify`: what a lookup finds after a write.
* `sumWhere_insert`, `sumWhere_deleteWhere`, `sumWhere_modify`: how an aggregate moves
  with each write.
* `UniqueOn`: a partial unique index, and how the writes keep it.
* `sumWhere_nonneg`, `le_sumWhere`: aggregates of nonnegative columns.
-/

/-- Rows in insertion order with pairwise distinct keys. -/
@[ext]
structure Table {κ ρ : Type*} (key : ρ → κ) where
  rows : List ρ
  nodup : (rows.map key).Nodup

namespace Table

variable {κ ρ : Type*} {key : ρ → κ}

/-- The table without rows. -/
def empty : Table key := ⟨[], by simp⟩

instance : Inhabited (Table key) := ⟨empty⟩

/-- The table with one row. -/
def singleton (r : ρ) : Table key := ⟨[r], List.nodup_singleton (key r)⟩

@[simp] theorem rows_empty : (empty : Table key).rows = [] := rfl

variable {t : Table key} {r r' : ρ} {k : κ}

/-- Keys are unique. -/
theorem eq_of_key (hr : r ∈ t.rows) (hr' : r' ∈ t.rows) (hkey : key r = key r') : r = r' :=
  List.inj_on_of_nodup_map t.nodup hr hr' hkey

/-- A row with the greatest value in a column. -/
abbrev latest {τ : Type*} [LinearOrder τ] (column : ρ → τ) (rows : List ρ) : Option ρ :=
  rows.argmax column

/-- Rewrite every row by a function that keeps its key. -/
def mapRows (t : Table key) (f : ρ → ρ) (hf : ∀ r, key (f r) = key r) : Table key :=
  ⟨t.rows.map f, by
    have hkey : (t.rows.map f).map key = t.rows.map key := by
      rw [List.map_map]
      exact List.map_congr_left fun r _ => hf r
    rw [hkey]
    exact t.nodup⟩

/-- The keys of a table do not change. -/
theorem map_key_mapRows (t : Table key) (f : ρ → ρ) (hf : ∀ r, key (f r) = key r) :
    (t.mapRows f hf).rows.map key = t.rows.map key := by
  simp only [mapRows, List.map_map]
  exact List.map_congr_left fun r _ => hf r

@[simp] theorem rows_mapRows (t : Table key) (f : ρ → ρ) (hf : ∀ r, key (f r) = key r) :
    (t.mapRows f hf).rows = t.rows.map f := rfl

theorem mem_mapRows_iff {f : ρ → ρ} (hf : ∀ r, key (f r) = key r) :
    r ∈ (t.mapRows f hf).rows ↔ ∃ r₀ ∈ t.rows, f r₀ = r := by
  simp

section Keyed

variable [DecidableEq κ]

/-- The row with the given key. -/
def find? (t : Table key) (k : κ) : Option ρ :=
  t.rows.find? fun r => key r = k

/-- Append a row; a row whose key is taken is not inserted. -/
def insert (t : Table key) (r : ρ) : Table key :=
  if h : key r ∈ t.rows.map key then t
  else ⟨t.rows ++ [r], by
    rw [List.map_append, List.map_singleton, List.nodup_append]
    exact ⟨t.nodup, List.nodup_singleton _, fun a ha b hb => by
      rw [List.mem_singleton.mp hb]
      exact fun heq => h (heq ▸ ha)⟩⟩

/-- Rewrite the row with key `k` by a function that keeps the key. -/
def modify (t : Table key) (k : κ) (f : ρ → ρ) (hf : ∀ r, key (f r) = key r) :
    Table key :=
  t.mapRows (fun r => if key r = k then f r else r) fun r => by
    by_cases h : key r = k <;> simp [h, hf]

theorem find?_eq_some_iff : t.find? k = some r ↔ r ∈ t.rows ∧ key r = k := by
  constructor
  · intro h
    exact ⟨List.mem_of_find?_eq_some h, by simpa using List.find?_some h⟩
  · rintro ⟨hr, rfl⟩
    cases hf : t.find? (key r) with
    | none =>
        have := List.find?_eq_none.mp hf r hr
        simp at this
    | some r' =>
        have hr' : r' ∈ t.rows ∧ key r' = key r :=
          ⟨List.mem_of_find?_eq_some hf, by simpa using List.find?_some hf⟩
        rw [List.inj_on_of_nodup_map t.nodup hr'.1 hr hr'.2]

/-- Keys are unique: a row with the key of the row found is that row. -/
theorem eq_of_find? {r₀ : ρ} (hfound : t.find? (key r) = some r) (hr₀ : r₀ ∈ t.rows)
    (hkey : key r₀ = key r) : r₀ = r :=
  Option.some.inj ((find?_eq_some_iff.mpr ⟨hr₀, hkey⟩).symm.trans hfound)

theorem find?_eq_none_iff : t.find? k = none ↔ k ∉ t.rows.map key := by
  simp [find?, List.find?_eq_none]

theorem rows_insert_of_notMem (h : key r ∉ t.rows.map key) : (t.insert r).rows = t.rows ++ [r] := by
  rw [insert, dif_neg h]

theorem mem_insert_iff (h : key r ∉ t.rows.map key) :
    r' ∈ (t.insert r).rows ↔ r' ∈ t.rows ∨ r' = r := by
  rw [rows_insert_of_notMem h, List.mem_append, List.mem_singleton]

theorem mem_or_eq_of_mem_insert (h : r' ∈ (t.insert r).rows) : r' ∈ t.rows ∨ r' = r := by
  by_cases hkey : key r ∈ t.rows.map key
  · rw [insert, dif_pos hkey] at h
    exact .inl h
  · exact (mem_insert_iff hkey).mp h

theorem mem_insert_of_mem (h : r' ∈ t.rows) : r' ∈ (t.insert r).rows := by
  by_cases hkey : key r ∈ t.rows.map key
  · rwa [insert, dif_pos hkey]
  · exact (mem_insert_iff hkey).mpr (.inl h)

theorem find?_insert (h : key r ∉ t.rows.map key) (k : κ) :
    (t.insert r).find? k = if key r = k then some r else t.find? k := by
  unfold find?
  rw [rows_insert_of_notMem h, List.find?_append]
  by_cases hk : key r = k
  · have hnone : t.rows.find? (fun r => key r = k) = none :=
      find?_eq_none_iff.mpr (hk ▸ h)
    simp [hnone, hk]
  · simp [hk]

theorem find?_mapRows (t : Table key) (f : ρ → ρ) (hf : ∀ r, key (f r) = key r) (k : κ) :
    (t.mapRows f hf).find? k = (t.find? k).map f := by
  cases hk : t.find? k with
  | none =>
      rw [find?_eq_none_iff] at hk
      rwa [Option.map_none, find?_eq_none_iff, map_key_mapRows]
  | some r =>
      obtain ⟨hr, rfl⟩ := find?_eq_some_iff.mp hk
      rw [Option.map_some]
      exact find?_eq_some_iff.mpr ⟨List.mem_map_of_mem hr, hf r⟩

theorem find?_modify (t : Table key) (k : κ) (f : ρ → ρ) (hf : ∀ r, key (f r) = key r)
    (j : κ) : (t.modify k f hf).find? j =
      if j = k then (t.find? j).map f else t.find? j := by
  rw [modify, find?_mapRows]
  cases hj : t.find? j with
  | none => simp
  | some r =>
      obtain ⟨-, rfl⟩ := find?_eq_some_iff.mp hj
      by_cases h : key r = k <;> simp [h]

theorem mem_modify_iff {f : ρ → ρ} (hf : ∀ r, key (f r) = key r) : r ∈ (t.modify k f hf).rows ↔
      ∃ r₀ ∈ t.rows, (if key r₀ = k then f r₀ else r₀) = r :=
  mem_mapRows_iff _

/-- A rewritten row is still found. -/
@[simp] theorem isSome_find?_modify (t : Table key) (k : κ) (f : ρ → ρ)
    (hf : ∀ r, key (f r) = key r) (j : κ) :
    ((t.modify k f hf).find? j).isSome = (t.find? j).isSome := by
  rw [modify, find?_mapRows, Option.isSome_map]

theorem find?_modify_self (t : Table key) (k : κ) (f : ρ → ρ)
    (hf : ∀ r, key (f r) = key r) :
    (t.modify k f hf).find? k = (t.find? k).map f := by
  rw [find?_modify, if_pos rfl]

/-- Two rewrites of one row are one. -/
theorem modify_modify (t : Table key) (k : κ) {f g : ρ → ρ} (hf : ∀ r, key (f r) = key r)
    (hg : ∀ r, key (g r) = key r) :
    (t.modify k f hf).modify k g hg =
      t.modify k (fun r => g (f r)) fun r => (hg (f r)).trans (hf r) := by
  ext1
  simp only [modify, rows_mapRows, List.map_map]
  refine List.map_congr_left fun r _ => ?_
  by_cases h : key r = k
  · simp [h, hf]
  · simp [h]

/-- A rewrite that changes nothing. -/
theorem modify_id (t : Table key) (k : κ) {f : ρ → ρ} (hf : ∀ r, f r = r) :
    t.modify k f (fun r => by rw [hf]) = t := by
  ext1
  simp only [modify, rows_mapRows]
  refine (List.map_congr_left fun r _ => ?_).trans (List.map_id _)
  rw [hf, ite_self, id]

theorem find?_modify_of_ne (t : Table key) {j : κ} (f : ρ → ρ) (hf : ∀ r, key (f r) = key r)
    (h : j ≠ k) : (t.modify k f hf).find? j = t.find? j := by
  rw [find?_modify, if_neg h]

end Keyed

/-- Remove the rows that satisfy `p`. -/
def deleteWhere (t : Table key) (p : ρ → Prop) [DecidablePred p] : Table key :=
  ⟨t.rows.filter fun r => ¬ p r, t.nodup.sublist (List.filter_sublist.map key)⟩

theorem mem_deleteWhere_iff {p : ρ → Prop} [DecidablePred p] :
    r ∈ (t.deleteWhere p).rows ↔ r ∈ t.rows ∧ ¬ p r := by
  simp [deleteWhere]

/-- The sum of a column over the rows that satisfy `p`. -/
def sumWhere (t : Table key) (p : ρ → Prop) [DecidablePred p] (f : ρ → ℤ) : ℤ :=
  ((t.rows.filter fun r => p r).map f).sum

section Partial

variable {σ : Type*} {slot : ρ → Option σ}

/-- A partial unique index: no two rows have the same slot, and rows without one are free. -/
def UniqueOn (slot : ρ → Option σ) (t : Table key) : Prop :=
  ∀ r ∈ t.rows, ∀ r' ∈ t.rows, ∀ s, slot r = some s → slot r' = some s → r = r'

theorem uniqueOn_iff : UniqueOn slot t ↔
    ∀ r ∈ t.rows, ∀ r' ∈ t.rows, (slot r).isSome = true → slot r = slot r' → r = r' := by
  constructor
  · intro h r hr r' hr' hsome heq
    obtain ⟨s, hs⟩ := Option.isSome_iff_exists.mp hsome
    exact h r hr r' hr' s hs (heq ▸ hs)
  · intro h r hr r' hr' s hs hs'
    exact h r hr r' hr' (by rw [hs]; rfl) (hs.trans hs'.symm)

instance [DecidableEq ρ] [DecidableEq σ] (t : Table key) : Decidable (UniqueOn slot t) :=
  decidable_of_iff' _ uniqueOn_iff

theorem uniqueOn_empty : UniqueOn slot (empty : Table key) :=
  fun _ hr => absurd hr List.not_mem_nil

/-- A row may take a slot that is free. -/
theorem UniqueOn.insert [DecidableEq κ] (h : UniqueOn slot t) (hkey : key r ∉ t.rows.map key)
    (hfree : ∀ s, slot r = some s → ∀ r' ∈ t.rows, slot r' ≠ some s) :
    UniqueOn slot (t.insert r) := by
  intro r₁ h₁ r₂ h₂ s hs₁ hs₂
  rcases (mem_insert_iff hkey).mp h₁ with hold₁ | rfl
  · rcases (mem_insert_iff hkey).mp h₂ with hold₂ | rfl
    · exact h r₁ hold₁ r₂ hold₂ s hs₁ hs₂
    · exact absurd hs₁ (hfree s hs₂ r₁ hold₁)
  · rcases (mem_insert_iff hkey).mp h₂ with hold₂ | rfl
    · exact absurd hs₂ (hfree s hs₁ r₂ hold₂)
    · rfl

/-- A row may be rewritten so that it keeps its slot or takes one that the others leave free. -/
theorem UniqueOn.modify [DecidableEq κ] (h : UniqueOn slot t) {f : ρ → ρ}
    (hf : ∀ r, key (f r) = key r) (hslot : ∀ r ∈ t.rows, key r = k → ∀ s, slot (f r) = some s →
      slot r = some s ∨ ∀ r' ∈ t.rows, key r' ≠ k → slot r' ≠ some s) :
    UniqueOn slot (t.modify k f hf) := by
  have hfree : ∀ r ∈ t.rows, key r = k → ∀ s, slot (f r) = some s →
      ∀ r' ∈ t.rows, key r' ≠ k → slot r' ≠ some s := by
    intro r hr hk s hs
    rcases hslot r hr hk s hs with hkept | hfree
    · intro r' hr' hne hs'
      exact hne (by rw [h r' hr' r hr s hs' hkept, hk])
    · exact hfree
  intro r₁ h₁ r₂ h₂ s hs₁ hs₂
  obtain ⟨q₁, hq₁, rfl⟩ := (mem_modify_iff hf).mp h₁
  obtain ⟨q₂, hq₂, rfl⟩ := (mem_modify_iff hf).mp h₂
  by_cases hk₁ : key q₁ = k <;> by_cases hk₂ : key q₂ = k
  · rw [eq_of_key hq₁ hq₂ (hk₁.trans hk₂.symm)]
  · rw [if_pos hk₁] at hs₁
    rw [if_neg hk₂] at hs₂
    exact absurd hs₂ (hfree q₁ hq₁ hk₁ s hs₁ q₂ hq₂ hk₂)
  · rw [if_neg hk₁] at hs₁
    rw [if_pos hk₂] at hs₂
    exact absurd hs₁ (hfree q₂ hq₂ hk₂ s hs₂ q₁ hq₁ hk₁)
  · rw [if_neg hk₁] at hs₁ ⊢
    rw [if_neg hk₂] at hs₂ ⊢
    exact h q₁ hq₁ q₂ hq₂ s hs₁ hs₂

/-- Rows may lose their slots. -/
theorem UniqueOn.mapRows (h : UniqueOn slot t) {f : ρ → ρ} (hf : ∀ r, key (f r) = key r)
    (hslot : ∀ r s, slot (f r) = some s → slot r = some s) : UniqueOn slot (t.mapRows f hf) := by
  intro r₁ h₁ r₂ h₂ s hs₁ hs₂
  obtain ⟨q₁, hq₁, rfl⟩ := (mem_mapRows_iff hf).mp h₁
  obtain ⟨q₂, hq₂, rfl⟩ := (mem_mapRows_iff hf).mp h₂
  rw [h q₁ hq₁ q₂ hq₂ s (hslot q₁ s hs₁) (hslot q₂ s hs₂)]

theorem UniqueOn.deleteWhere (h : UniqueOn slot t) (p : ρ → Prop) [DecidablePred p] :
    UniqueOn slot (t.deleteWhere p) :=
  fun r₁ h₁ r₂ h₂ => h r₁ (mem_deleteWhere_iff.mp h₁).1 r₂ (mem_deleteWhere_iff.mp h₂).1

end Partial

section Sums

variable {p : ρ → Prop} [DecidablePred p] {f : ρ → ℤ}

/-- An aggregate over no rows. -/
theorem sumWhere_eq_zero (h : ∀ r ∈ t.rows, ¬ p r) : t.sumWhere p f = 0 := by
  have hnil : (t.rows.filter fun r => p r) = [] :=
    List.filter_eq_nil_iff.mpr fun r hr => by simpa using h r hr
  rw [sumWhere, hnil]
  rfl

theorem sumWhere_insert [DecidableEq κ] (h : key r ∉ t.rows.map key) :
    (t.insert r).sumWhere p f = t.sumWhere p f + if p r then f r else 0 := by
  unfold sumWhere
  rw [rows_insert_of_notMem h, List.filter_append, List.map_append, List.sum_append]
  by_cases hr : p r <;> simp [hr]

/-- An aggregate is the sum of its parts on either side of a second condition. -/
theorem sumWhere_split (t : Table key) (q : ρ → Prop) [DecidablePred q] :
    t.sumWhere p f = t.sumWhere (fun r => p r ∧ q r) f
      + t.sumWhere (fun r => p r ∧ ¬ q r) f := by
  simp only [sumWhere]
  induction t.rows with
  | nil => rfl
  | cons r rows ih =>
      by_cases hp : p r <;> by_cases hq : q r <;> simp_all <;> omega

/-- What a deletion removes from an aggregate. -/
theorem sumWhere_deleteWhere (t : Table key) (q : ρ → Prop) [DecidablePred q] :
    (t.deleteWhere q).sumWhere p f
      = t.sumWhere p f - t.sumWhere (fun r => p r ∧ q r) f := by
  simp only [sumWhere, deleteWhere]
  induction t.rows with
  | nil => rfl
  | cons r rows ih =>
      by_cases hp : p r <;> by_cases hq : q r <;> simp_all
      omega

/-- Rewriting one row moves an aggregate by the change of that row's contribution. -/
theorem sumWhere_modify [DecidableEq κ] {g : ρ → ρ} {hg : ∀ r, key (g r) = key r}
    (hr : t.find? k = some r) :
    (t.modify k g hg).sumWhere p f
      = t.sumWhere p f - (if p r then f r else 0) + if p (g r) then f (g r) else 0 := by
  obtain ⟨hmem, rfl⟩ := find?_eq_some_iff.mp hr
  obtain ⟨rows, hnd⟩ := t
  simp only [sumWhere, modify, mapRows] at hmem ⊢
  clear hr
  induction rows with
  | nil => simp at hmem
  | cons a rows ih =>
      rw [List.map_cons, List.nodup_cons] at hnd
      rcases List.mem_cons.mp hmem with rfl | hmem
      · -- The row is the head; the key occurs nowhere else.
        have hrest : rows.map (fun b => if key b = key r then g b else b) = rows := by
          conv_rhs => rw [← List.map_id rows]
          refine List.map_congr_left fun b hb => if_neg fun heq => hnd.1 ?_
          exact heq ▸ List.mem_map_of_mem hb
        rw [List.map_cons, hrest, if_pos rfl]
        by_cases h₁ : p r <;> by_cases h₂ : p (g r) <;> simp [h₁, h₂] <;> omega
      · have hne : key a ≠ key r := fun heq => hnd.1 (heq ▸ List.mem_map_of_mem hmem)
        have := ih hnd.2 hmem
        rw [List.map_cons, if_neg hne]
        by_cases h₁ : p a <;> simp_all
        omega

theorem sumWhere_mapRows (t : Table key) (g : ρ → ρ)
    (hg : ∀ r, key (g r) = key r) :
    (t.mapRows g hg).sumWhere p f = t.sumWhere (fun r => p (g r)) fun r => f (g r) := by
  simp only [sumWhere, rows_mapRows, List.filter_map, List.map_map]
  rfl

theorem sumWhere_nonneg (h : ∀ r ∈ t.rows, p r → 0 ≤ f r) : 0 ≤ t.sumWhere p f := by
  refine List.sum_nonneg ?_
  simp only [List.mem_map, List.mem_filter, decide_eq_true_eq]
  rintro x ⟨r, ⟨hr, hp⟩, rfl⟩
  exact h r hr hp

theorem sumWhere_le_sumWhere {g : ρ → ℤ} (h : ∀ r ∈ t.rows, p r → f r ≤ g r) :
    t.sumWhere p f ≤ t.sumWhere p g := by
  refine List.sum_le_sum fun r hr => ?_
  rw [List.mem_filter] at hr
  exact h r hr.1 (by simpa using hr.2)

/-- A single row contributes at most the aggregate of a nonnegative column. -/
theorem le_sumWhere (h : ∀ r ∈ t.rows, p r → 0 ≤ f r) (hr : r ∈ t.rows) (hp : p r) :
    f r ≤ t.sumWhere p f := by
  refine List.single_le_sum ?_ _ ?_
  · simp only [List.mem_map, List.mem_filter, decide_eq_true_eq]
    rintro x ⟨r, ⟨hr, hp⟩, rfl⟩
    exact h r hr hp
  · exact List.mem_map_of_mem (List.mem_filter.mpr ⟨hr, by simpa using hp⟩)

/-- An aggregate depends only on which rows it selects and what they contribute. -/
theorem sumWhere_congr {q : ρ → Prop} [DecidablePred q] {g : ρ → ℤ} (hpq : ∀ r ∈ t.rows, p r ↔ q r)
    (hfg : ∀ r ∈ t.rows, p r → f r = g r) : t.sumWhere p f = t.sumWhere q g := by
  unfold sumWhere
  have hfilter : (t.rows.filter fun r => p r) = t.rows.filter fun r => q r :=
    List.filter_congr fun r hr => by simp [hpq r hr]
  rw [← hfilter]
  congr 1
  refine List.map_congr_left fun r hr => ?_
  rw [List.mem_filter] at hr
  exact hfg r hr.1 (by simpa using hr.2)

end Sums

section Fresh

variable {key : ρ → ℕ}

/-- A key above all keys in use: the source draws random identifiers, which never
repeat. -/
def fresh (t : Table key) : ℕ :=
  (t.rows.map key).foldr max 0 + 1

theorem lt_fresh {t : Table key} (hr : r ∈ t.rows) : key r < t.fresh :=
  Nat.lt_succ_of_le (List.le_max_of_le' 0 (List.mem_map_of_mem hr) le_rfl)

theorem fresh_notMem (t : Table key) : t.fresh ∉ t.rows.map key := by
  rw [List.mem_map]
  rintro ⟨r, hr, hkey⟩
  exact absurd (lt_fresh hr) (by omega)

end Fresh

end Table
