import Mathlib.Data.List.Induction
import Mathlib.Data.List.Sort
import Mathlib.Order.Defs.LinearOrder

/-!
# Lists Read Page by Page

A page of a list is a slice of it, counted from 1. A reader that knows only pages goes through
them until one is empty (`scan`), and one that shows pages of what it chose itself counts what
it chose and keeps the part that falls into the window (`collect`). Rows are paged in the order
of a column with a key that breaks ties (`before`).

## Main results

* `flatten_pages`: the first pages, put together, begin the list.
* `scan_eq`: reading page by page is going through the list, and ends.
* `foldl_collect`: the window shows a page of what was chosen, and the count is of all of it.
* `before_total`, `before_trans`: the order of a listing.
-/

namespace Paging

variable {α β σ κ : Type*}

/-! ### Pages -/

/-- Page `n` of a list, with pages of the given size. -/
def page (l : List α) (size n : ℕ) : List α :=
  (l.drop ((n - 1) * size)).take size

/-- **The first pages, put together, begin the list.** -/
theorem flatten_pages (l : List α) (size count : ℕ) :
    ((List.range count).map fun i : ℕ => page l size (i + 1)).flatten
      = l.take (count * size) := by
  induction count with
  | zero => simp
  | succ count ih =>
      rw [List.range_succ, List.map_append, List.flatten_append, ih, Nat.succ_mul,
        List.take_add]
      simp [page]

/-- A page that is empty has nothing after it. -/
theorem page_eq_nil_iff {l : List α} {size n : ℕ} (hsize : 0 < size) :
    page l size n = [] ↔ l.drop ((n - 1) * size) = [] := by
  rw [page, List.take_eq_nil_iff]
  exact or_iff_right hsize.ne'

/-! ### Reading all pages -/

/-- Go through the batches from the `n`-th on until one is empty. -/
def scan (fetch : ℕ → List α) (f : σ → α → σ) : ℕ → ℕ → σ → Option σ
  | 0, _, _ => none
  | fuel + 1, n, acc =>
      if (fetch n).isEmpty then some acc
      else scan fetch f fuel (n + 1) ((fetch n).foldl f acc)

/-- **Reading page by page is going through the list**, and it ends. -/
theorem scan_eq (f : σ → α → σ) (l : List α) {size : ℕ} (hsize : 0 < size) {fuel n : ℕ}
    (hfuel : (l.drop (n * size)).length < fuel) (acc : σ) :
    scan (page l size) f fuel (n + 1) acc = some ((l.drop (n * size)).foldl f acc) := by
  induction fuel generalizing n acc with
  | zero => omega
  | succ fuel ih =>
      have hpage : page l size (n + 1) = (l.drop (n * size)).take size := rfl
      have hempty : (page l size (n + 1)).isEmpty = true ↔ l.drop (n * size) = [] := by
        rw [List.isEmpty_iff, page_eq_nil_iff hsize, Nat.add_sub_cancel]
      rw [scan]
      by_cases hend : l.drop (n * size) = []
      · rw [if_pos (hempty.mpr hend), hend]
        rfl
      · -- What is left after the page is shorter.
        have hrest : l.drop ((n + 1) * size) = (l.drop (n * size)).drop size := by
          rw [List.drop_drop, Nat.succ_mul]
        have hpos : 0 < (l.drop (n * size)).length := List.length_pos_of_ne_nil hend
        have hshort : (l.drop ((n + 1) * size)).length < fuel := by
          rw [hrest, List.length_drop]
          omega
        rw [if_neg (mt hempty.mp hend), ih hshort, hpage, ← List.foldl_append, hrest,
          List.take_append_drop]

/-! ### A window of what is chosen -/

/-- Count what is chosen, and keep what falls into the window. -/
def collect (p : α → Bool) (g : α → β) (offset size : ℕ) (acc : List β × ℕ) (a : α) :
    List β × ℕ :=
  if p a then
    (if offset ≤ acc.2 ∧ acc.1.length < size then acc.1 ++ [g a] else acc.1, acc.2 + 1)
  else acc

/-- One more element of a list falls into the window or not. -/
theorem window_concat (l : List β) (b : β) (offset size : ℕ) :
    ((l ++ [b]).drop offset).take size =
      if offset ≤ l.length ∧ ((l.drop offset).take size).length < size then
        (l.drop offset).take size ++ [b]
      else (l.drop offset).take size := by
  by_cases hoffset : offset ≤ l.length
  · rw [List.drop_append_of_le_length hoffset, List.length_take]
    by_cases hfull : (l.drop offset).length < size
    · rw [if_pos ⟨hoffset, by omega⟩, List.take_of_length_le hfull.le,
        List.take_of_length_le]
      rw [List.length_append, List.length_singleton]
      omega
    · rw [if_neg (fun h => hfull (by omega)), List.take_append_of_le_length (not_lt.mp hfull)]
  · have hlong : (l ++ [b]).length ≤ offset := by
      rw [List.length_append, List.length_singleton]
      omega
    rw [if_neg (fun h => hoffset h.1), List.drop_eq_nil_of_le hlong,
      List.drop_eq_nil_of_le (not_le.mp hoffset).le]

/-- **The window shows the slice of what was chosen, and the count is of all of it.** -/
theorem foldl_collect (p : α → Bool) (g : α → β) (offset size : ℕ) (l : List α) :
    l.foldl (collect p g offset size) ([], 0)
      = ((((l.filter p).map g).drop offset).take size, (l.filter p).length) := by
  induction l using List.reverseRecOn with
  | nil => simp
  | append_singleton l a ih =>
      rw [List.foldl_append, ih, List.foldl_cons, List.foldl_nil, collect, List.filter_append]
      cases hp : p a with
      | false => simp [hp]
      | true =>
          have hone : [a].filter p = [a] := by simp [hp]
          rw [if_pos rfl, hone, List.map_append, List.length_append, List.map_singleton,
            List.length_singleton, window_concat, List.length_map]

/-! ### Rows in an order -/

section Order

variable [LinearOrder κ]

/-- `ORDER BY key [DESC], id DESC`: whether a row may stand before another. -/
def before (key : α → κ) (id : α → ℕ) (desc : Bool) (a b : α) : Prop :=
  (if desc then key b < key a else key a < key b) ∨ key a = key b ∧ id b ≤ id a

instance (key : α → κ) (id : α → ℕ) (desc : Bool) : DecidableRel (before key id desc) :=
  fun _ _ => inferInstanceAs (Decidable (_ ∨ _))

theorem before_total (key : α → κ) (id : α → ℕ) (desc : Bool) (a b : α) :
    before key id desc a b ∨ before key id desc b a := by
  unfold before
  rcases lt_trichotomy (key a) (key b) with h | h | h
  · cases desc
    · exact .inl (.inl h)
    · exact .inr (.inl h)
  · rcases Nat.le_total (id b) (id a) with hid | hid
    · exact .inl (.inr ⟨h, hid⟩)
    · exact .inr (.inr ⟨h.symm, hid⟩)
  · cases desc
    · exact .inr (.inl h)
    · exact .inl (.inl h)

theorem before_trans (key : α → κ) (id : α → ℕ) (desc : Bool) {a b c : α}
    (hab : before key id desc a b) (hbc : before key id desc b c) :
    before key id desc a c := by
  rcases hab with hab | ⟨hab, hid⟩
  · rcases hbc with hbc | ⟨hbc, -⟩
    · cases desc
      · exact .inl (lt_trans hab hbc)
      · exact .inl (lt_trans hbc hab)
    · exact .inl (by rw [← hbc]; exact hab)
  · rcases hbc with hbc | ⟨hbc, hid'⟩
    · exact .inl (by rw [hab]; exact hbc)
    · exact .inr ⟨hab.trans hbc, hid'.trans hid⟩

end Order

end Paging
