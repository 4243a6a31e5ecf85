import Mathlib.Data.List.Sort

/-!
# Spans of Days

Rows that each span some days, laid out over a calendar: of several rows on one day the one that
was laid out first counts. The rows come sorted by the day on which they start; sorting keeps the
order of rows that start on one day.

## Main results

* `layOut_eq`: the row on a day is the first that spans it.
* `filter_insertionSort`: sorting and choosing rows may be exchanged.
* `head?_insertionSort_iff`: the row that a sorted list begins with.
-/

namespace Spans

variable {α : Type*}

/-! ### Stable sorting -/

section Sorting

variable {r : α → α → Prop} [DecidableRel r]

/-- An element that is put into a sorted list, or left out, does not move the others. -/
theorem filter_orderedInsert [IsTrans α r] [Std.Refl r] (p : α → Bool) (a : α) {l : List α}
    (hl : l.Pairwise r) : (l.orderedInsert r a).filter p
      = if p a then (l.filter p).orderedInsert r a else l.filter p := by
  induction l with
  | nil => cases h : p a <;> simp [h]
  | cons b l ih =>
      obtain ⟨hb, hl⟩ := List.pairwise_cons.mp hl
      rw [List.orderedInsert_cons]
      by_cases hab : r a b
      · rw [if_pos hab]
        -- What is left of the list is not below `a` either.
        have hall : ∀ c ∈ (b :: l).filter p, r a c := by
          intro c hc
          rcases List.mem_cons.mp (List.mem_of_mem_filter hc) with rfl | hc
          · exact hab
          · exact IsTrans.trans _ _ _ hab (hb c hc)
        cases hpa : p a with
        | false => rw [List.filter_cons_of_neg (by simp [hpa])]; rfl
        | true =>
            rw [List.filter_cons_of_pos hpa, if_pos rfl]
            cases hrest : (b :: l).filter p with
            | nil => rfl
            | cons c rest =>
                rw [List.orderedInsert_cons, if_pos (hall c (hrest ▸ List.mem_cons_self))]
      · rw [if_neg hab, List.filter_cons, List.filter_cons, ih hl]
        cases hpb : p b <;> cases hpa : p a <;> simp [List.orderedInsert_cons, hab]

/-- **Sorting and choosing may be exchanged.** -/
theorem filter_insertionSort [IsTrans α r] [Std.Total r] (p : α → Bool) (l : List α) :
    (l.insertionSort r).filter p = (l.filter p).insertionSort r := by
  have : Std.Refl r := ⟨fun a => (Std.Total.total (r := r) a a).elim id id⟩
  induction l with
  | nil => rfl
  | cons a l ih =>
      rw [List.insertionSort_cons, filter_orderedInsert p a (List.pairwise_insertionSort r l), ih,
        List.filter_cons]
      cases p a <;> rfl

/-- **What a sorted list begins with**: an element that nothing before it in the list is as small
as, and nothing after it is smaller than. -/
theorem head?_insertionSort_iff [IsTrans α r] [Std.Total r] {l : List α} {a : α} :
    (l.insertionSort r).head? = some a ↔ ∃ pre post, l = pre ++ a :: post ∧
      (∀ b ∈ pre, ¬ r b a) ∧ ∀ b ∈ post, r a b := by
  induction l with
  | nil => simp
  | cons b l ih =>
      rw [List.insertionSort_cons]
      cases hsorted : l.insertionSort r with
      | nil =>
          obtain rfl : l = [] := List.perm_nil.mp (hsorted ▸ (List.perm_insertionSort r l).symm)
          rw [List.orderedInsert_nil, List.head?_cons, Option.some.injEq]
          constructor
          · rintro rfl
            exact ⟨[], [], rfl, by simp, by simp⟩
          · rintro ⟨pre, post, hl, -⟩
            cases pre with
            | nil => exact (List.cons.inj hl).1
            | cons c pre => simp at hl
      | cons c rest =>
          have hc : (l.insertionSort r).head? = some c := by rw [hsorted]; rfl
          have hle : ∀ d ∈ l, r c d := by
            intro d hd
            have hpair := hsorted ▸ List.pairwise_insertionSort r l
            have hmem : d ∈ c :: rest := hsorted ▸ (List.mem_insertionSort r).mpr hd
            rcases List.mem_cons.mp hmem with rfl | hmem
            · exact (Std.Total.total (r := r) d d).elim id id
            · exact (List.pairwise_cons.mp hpair).1 d hmem
          rw [List.orderedInsert_cons]
          split_ifs with hbc
          · rw [List.head?_cons, Option.some.injEq]
            constructor
            · rintro rfl
              exact ⟨[], l, rfl, by simp, fun d hd => IsTrans.trans _ _ _ hbc (hle d hd)⟩
            · rintro ⟨pre, post, hl, hpre, -⟩
              cases pre with
              | nil => exact (List.cons.inj hl).1
              | cons d pre =>
                  obtain ⟨rfl, rfl⟩ := List.cons.inj hl
                  exact absurd (IsTrans.trans _ _ _ hbc (hle a (by simp)))
                    (hpre b List.mem_cons_self)
          · rw [List.head?_cons, ← hc, ih]
            constructor
            · rintro ⟨pre, post, rfl, hpre, hpost⟩
              refine ⟨b :: pre, post, rfl,
                List.forall_mem_cons.mpr ⟨fun hba => hbc ?_, hpre⟩, hpost⟩
              obtain rfl : c = a := by
                refine Option.some.inj (hc.symm.trans (ih.mpr ⟨pre, post, rfl, hpre, hpost⟩))
              exact hba
            · rintro ⟨pre, post, hl, hpre, hpost⟩
              cases pre with
              | nil =>
                  obtain ⟨rfl, rfl⟩ := List.cons.inj hl
                  have hmem : c ∈ l := (List.mem_insertionSort r).mp (hsorted ▸ List.mem_cons_self)
                  exact absurd (hpost c hmem) hbc
              | cons d pre =>
                  obtain ⟨rfl, rfl⟩ := List.cons.inj hl
                  exact ⟨pre, post, rfl, fun d hd => hpre d (List.mem_cons_of_mem b hd), hpost⟩

end Sorting

/-! ### A calendar -/

/-- The days from one to another. -/
def daysFrom (first last : ℤ) : List ℤ :=
  (List.range (last - first + 1).toNat).map fun i : ℕ => first + (i : ℤ)

theorem mem_daysFrom {first last day : ℤ} :
    day ∈ daysFrom first last ↔ first ≤ day ∧ day ≤ last := by
  simp only [daysFrom, List.mem_map, List.mem_range]
  constructor
  · rintro ⟨i, hi, rfl⟩
    omega
  · rintro ⟨hfirst, hlast⟩
    exact ⟨(day - first).toNat, by omega, by omega⟩

/-- A row is put on a day that has none and is in the range. -/
def putIfFree (fromDate toDate : ℤ) (row : α) (byDate : ℤ → Option α) (day : ℤ) :
    ℤ → Option α :=
  if fromDate ≤ day ∧ day ≤ toDate ∧ byDate day = none then
    fun d => if d = day then some row else byDate d
  else byDate

/-- The rows are laid out one after the other, each on its days. -/
def layOut (start stop : α → ℤ) (rows : List α) (fromDate toDate : ℤ) : ℤ → Option α :=
  rows.foldl (fun byDate row =>
    (daysFrom (start row) (stop row)).foldl (putIfFree fromDate toDate row) byDate)
    fun _ => none

/-- What a row adds is seen on days that were free. -/
theorem foldl_putIfFree (fromDate toDate : ℤ) (row : α) (byDate : ℤ → Option α)
    (days : List ℤ) (day : ℤ) : days.foldl (putIfFree fromDate toDate row) byDate day
      = (byDate day).or
          (if day ∈ days ∧ fromDate ≤ day ∧ day ≤ toDate then some row else none) := by
  induction days generalizing byDate with
  | nil => simp
  | cons d days ih =>
      rw [List.foldl_cons, ih, putIfFree]
      by_cases hd : day = d
      · subst hd
        cases hday : byDate day with
        | none => split_ifs <;> simp_all
        | some r => simp [hday]
      · split_ifs <;> simp_all

/-- **The row on a day is the first that spans it**, if the day is in the range. -/
theorem layOut_eq (start stop : α → ℤ) (rows : List α) {fromDate toDate day : ℤ}
    (hday : fromDate ≤ day ∧ day ≤ toDate) : layOut start stop rows fromDate toDate day
      = rows.find? fun row => start row ≤ day ∧ day ≤ stop row := by
  have hgeneral : ∀ byDate : ℤ → Option α,
      rows.foldl (fun byDate row => (daysFrom (start row) (stop row)).foldl
        (putIfFree fromDate toDate row) byDate) byDate day
        = (byDate day).or (rows.find? fun row => start row ≤ day ∧ day ≤ stop row) := by
    induction rows with
    | nil => simp
    | cons row rows ih =>
        intro byDate
        rw [List.foldl_cons, ih, foldl_putIfFree, Option.or_assoc, List.find?_cons]
        simp only [mem_daysFrom, hday, and_self, and_true]
        split_ifs with hspan <;> simp [hspan]
  exact (hgeneral fun _ => none).trans (Option.none_or ..)

end Spans
