import Mathlib.Data.List.Induction
import Mathlib.Data.List.Pairwise
import Mathlib.Data.List.Perm.Basic
import Mathlib.Data.List.Sort
import SwCouriers.Lib.Grouping

/-!
# Buckets

A dictionary is filled row by row under a key, so that the last row of each key stays, and is read
in the order of the keys. The rows come in the order of their periods. Read like this, the
dictionary has the last row of each period, in the order of the periods, exactly if the keys of the
rows increase with their periods.

## Main results

* `fill_eq_some_iff`: a dictionary holds the last row of each key.
* `map_key_buckets`: the keys are read in increasing order.
* `mem_lastOfEach_iff`, `pairwise_lastOfEach`: the last rows of the periods.
* `buckets_eq_lastOfEach`: keys that increase with the periods are read in their order.
* `report_eq_iff`: **reading by keys is reading by periods** exactly if the keys increase with
  the periods.
-/

namespace Buckets

variable {ρ κ π : Type*} {key : ρ → κ} {period : ρ → π} {rows : List ρ}

/-- The dictionary: each row overwrites what was there under its key. -/
def fill [DecidableEq κ] (key : ρ → κ) (rows : List ρ) : κ → Option ρ :=
  rows.foldl (fun bucketed r => Function.update bucketed (key r) (some r)) fun _ => none

/-- The rows of the dictionary, in the order of their keys. -/
def buckets [LinearOrder κ] (key : ρ → κ) (rows : List ρ) : List ρ :=
  ((Grouping.keys key rows).insertionSort (· ≤ ·)).filterMap (fill key rows)

/-- The rows after which none of the same period comes. -/
def lastOfEach [DecidableEq π] (period : ρ → π) : List ρ → List ρ
  | [] => []
  | r :: rest =>
      if ∃ r' ∈ rest, period r' = period r then lastOfEach period rest
      else r :: lastOfEach period rest

/-- No row of the same period comes after the row. -/
def IsLast (period : ρ → π) (rows : List ρ) (r : ρ) : Prop :=
  ∃ pre post, rows = pre ++ r :: post ∧ ∀ r' ∈ post, period r' ≠ period r

/-! ### Last rows -/

variable {a r : ρ} {rest : List ρ}

theorem IsLast.mem (h : IsLast period rows r) : r ∈ rows := by
  obtain ⟨pre, post, rfl, -⟩ := h
  exact List.mem_append_right pre List.mem_cons_self

theorem isLast_cons_iff : IsLast period (a :: rest) r ↔
    (r = a ∧ ∀ r' ∈ rest, period r' ≠ period a) ∨ IsLast period rest r := by
  constructor
  · rintro ⟨pre, post, heq, hlater⟩
    cases pre with
    | nil =>
        obtain ⟨rfl, rfl⟩ := List.cons.inj heq
        exact .inl ⟨rfl, hlater⟩
    | cons b pre => exact .inr ⟨pre, post, (List.cons.inj heq).2, hlater⟩
  · rintro (⟨rfl, hlater⟩ | ⟨pre, post, rfl, hlater⟩)
    · exact ⟨[], rest, rfl, hlater⟩
    · exact ⟨a :: pre, post, rfl, hlater⟩

theorem isLast_concat_iff : IsLast period (rows ++ [a]) r ↔
    r = a ∨ IsLast period rows r ∧ period a ≠ period r := by
  constructor
  · rintro ⟨pre, post, heq, hlater⟩
    rcases List.eq_nil_or_concat post with rfl | ⟨post, b, rfl⟩
    · exact .inl (List.singleton_inj.mp (List.append_inj' heq rfl).2).symm
    · rw [List.concat_eq_append] at heq hlater
      rw [← List.cons_append, ← List.append_assoc] at heq
      obtain ⟨rfl, hab⟩ := List.append_inj' heq rfl
      obtain rfl := List.singleton_inj.mp hab
      exact .inr ⟨⟨pre, post, rfl, fun r' hr' => hlater r' (List.mem_append_left _ hr')⟩,
        hlater a (List.mem_append_right _ List.mem_cons_self)⟩
  · rintro (rfl | ⟨⟨pre, post, rfl, hlater⟩, hne⟩)
    · exact ⟨rows, [], rfl, fun _ hr' => absurd hr' List.not_mem_nil⟩
    · refine ⟨pre, post ++ [a], by rw [List.append_assoc, List.cons_append], fun r' hr' => ?_⟩
      rcases List.mem_append.mp hr' with hold | hnew
      · exact hlater r' hold
      · rw [List.mem_singleton.mp hnew]
        exact hne

/-- Of the rows of a period, one is the last. -/
theorem exists_isLast (period : ρ → π) (hr : r ∈ rows) :
    ∃ m, IsLast period rows m ∧ period m = period r := by
  induction rows generalizing r with
  | nil => exact absurd hr List.not_mem_nil
  | cons a rest ih =>
      by_cases hlater : ∃ r' ∈ rest, period r' = period r
      · obtain ⟨r', hr', hperiod⟩ := hlater
        obtain ⟨m, hm, hsame⟩ := ih hr'
        exact ⟨m, isLast_cons_iff.mpr (.inr hm), hsame.trans hperiod⟩
      · rcases List.mem_cons.mp hr with rfl | hrest
        · exact ⟨r, isLast_cons_iff.mpr (.inl ⟨rfl, fun r' hr' h => hlater ⟨r', hr', h⟩⟩), rfl⟩
        · exact absurd ⟨r, hrest, rfl⟩ hlater

section Periods

variable [LinearOrder π]

theorem mem_lastOfEach_iff : r ∈ lastOfEach period rows ↔ IsLast period rows r := by
  induction rows with
  | nil => exact iff_of_false List.not_mem_nil fun h => absurd h.mem List.not_mem_nil
  | cons a rest ih =>
      rw [lastOfEach, isLast_cons_iff]
      split_ifs with hlater
      · obtain ⟨r', hr', hperiod⟩ := hlater
        rw [ih, or_iff_right]
        rintro ⟨-, hlast⟩
        exact hlast r' hr' hperiod
      · push Not at hlater
        rw [List.mem_cons, ih, and_iff_left hlater]

/-- The last rows are in the order of their periods. -/
theorem pairwise_lastOfEach (hrows : rows.Pairwise fun r r' => period r ≤ period r') :
    (lastOfEach period rows).Pairwise fun r r' => period r < period r' := by
  induction rows with
  | nil => exact .nil
  | cons a rest ih =>
      obtain ⟨ha, hrest⟩ := List.pairwise_cons.mp hrows
      rw [lastOfEach]
      split_ifs with hlater
      · exact ih hrest
      · push Not at hlater
        refine List.pairwise_cons.mpr ⟨fun r hr => ?_, ih hrest⟩
        have hmem := (mem_lastOfEach_iff.mp hr).mem
        exact lt_of_le_of_ne (ha r hmem) (hlater r hmem).symm

end Periods

/-! ### The dictionary -/

section Keys

variable [LinearOrder κ]

/-- The dictionary holds the last row of each key. -/
theorem fill_eq_some_iff {k : κ} : fill key rows k = some r ↔ IsLast key rows r ∧ key r = k := by
  induction rows using List.reverseRecOn with
  | nil =>
      refine iff_of_false (Option.some_ne_none r).symm ?_
      rintro ⟨h, -⟩
      exact absurd h.mem List.not_mem_nil
  | append_singleton rows a ih =>
      have hfill : fill key (rows ++ [a]) = Function.update (fill key rows) (key a) (some a) := by
        rw [fill, List.foldl_append]
        rfl
      rw [hfill, isLast_concat_iff]
      rcases eq_or_ne k (key a) with rfl | hk
      · rw [Function.update_self, Option.some.injEq]
        constructor
        · rintro rfl
          exact ⟨.inl rfl, rfl⟩
        · rintro ⟨rfl | ⟨-, hne⟩, hkey⟩
          · rfl
          · exact absurd hkey.symm hne
      · rw [Function.update_of_ne hk, ih]
        constructor
        · rintro ⟨hlast, rfl⟩
          exact ⟨.inr ⟨hlast, hk.symm⟩, rfl⟩
        · rintro ⟨rfl | ⟨hlast, -⟩, rfl⟩
          · exact absurd rfl hk
          · exact ⟨hlast, rfl⟩

theorem mem_buckets_iff : r ∈ buckets key rows ↔ IsLast key rows r := by
  rw [buckets, List.mem_filterMap]
  constructor
  · rintro ⟨k, -, hk⟩
    exact (fill_eq_some_iff.mp hk).1
  · intro h
    exact ⟨key r, (List.mem_insertionSort _).mpr (Grouping.mem_keys h.mem),
      fill_eq_some_iff.mpr ⟨h, rfl⟩⟩

omit [LinearOrder κ] in
theorem map_filterMap_of_key {f : κ → Option ρ} {ks : List κ}
    (hf : ∀ k ∈ ks, ∃ r, f k = some r ∧ key r = k) : (ks.filterMap f).map key = ks := by
  induction ks with
  | nil => rfl
  | cons k ks ih =>
      obtain ⟨r, hr, hkey⟩ := hf k List.mem_cons_self
      rw [List.filterMap_cons_some hr, List.map_cons, hkey,
        ih fun k' hk' => hf k' (List.mem_cons_of_mem k hk')]

/-- Every key is read once, in increasing order. -/
theorem map_key_buckets (key : ρ → κ) (rows : List ρ) :
    (buckets key rows).map key = (Grouping.keys key rows).insertionSort (· ≤ ·) := by
  refine map_filterMap_of_key fun k hk => ?_
  have hmem := List.mem_eraseDups.mp ((List.mem_insertionSort _).mp hk)
  obtain ⟨r, hr, rfl⟩ := List.mem_map.mp hmem
  obtain ⟨m, hm, hkey⟩ := exists_isLast key hr
  exact ⟨m, fill_eq_some_iff.mpr ⟨hm, hkey⟩, hkey⟩

theorem pairwise_buckets (key : ρ → κ) (rows : List ρ) :
    (buckets key rows).Pairwise fun r r' => key r < key r' := by
  have hsorted := List.pairwise_insertionSort (· ≤ ·) (Grouping.keys key rows)
  have hnodup := (List.perm_insertionSort (· ≤ ·) (Grouping.keys key rows)).nodup_iff.mpr
    (Grouping.nodup_keys key rows)
  have hstrict := (hsorted.and hnodup).imp fun h => lt_of_le_of_ne h.1 h.2
  rw [← map_key_buckets] at hstrict
  exact List.pairwise_map.mp hstrict

/-! ### Keys and periods -/

variable [LinearOrder π]

/-- Keys that increase with the periods are read in the order of the periods. -/
theorem buckets_eq_lastOfEach (hrows : rows.Pairwise fun r r' => period r ≤ period r')
    (hsame : ∀ r ∈ rows, ∀ r' ∈ rows, period r = period r' → key r = key r')
    (hkeys : ∀ r ∈ rows, ∀ r' ∈ rows, period r < period r' → key r < key r') :
    buckets key rows = lastOfEach period rows := by
  -- among these rows, two have the same key exactly if they have the same period
  have hiff : ∀ r ∈ rows, ∀ r' ∈ rows, (key r = key r' ↔ period r = period r') := by
    refine fun r hr r' hr' => ⟨fun hkey => ?_, hsame r hr r' hr'⟩
    rcases lt_trichotomy (period r) (period r') with hlt | heq | hgt
    · exact absurd hkey (hkeys r hr r' hr' hlt).ne
    · exact heq
    · exact absurd hkey (hkeys r' hr' r hr hgt).ne'
  have hmem : ∀ r, r ∈ buckets key rows ↔ r ∈ lastOfEach period rows := by
    intro r
    rw [mem_buckets_iff, mem_lastOfEach_iff]
    refine exists_congr fun pre => exists_congr fun post => and_congr_right fun heq => ?_
    refine forall₂_congr fun r' hr' => not_congr (hiff r' ?_ r ?_) <;> rw [heq]
    · exact List.mem_append_right pre (List.mem_cons_of_mem r hr')
    · exact List.mem_append_right pre List.mem_cons_self
  have hleft := pairwise_buckets key rows
  have hright : (lastOfEach period rows).Pairwise fun r r' => key r < key r' :=
    (pairwise_lastOfEach hrows).imp_of_mem fun {r r'} hr hr' hlt =>
      hkeys r (mem_lastOfEach_iff.mp hr).mem r' (mem_lastOfEach_iff.mp hr').mem hlt
  have hperm : (buckets key rows).Perm (lastOfEach period rows) :=
    (List.perm_ext_iff_of_nodup (hleft.imp fun h => ne_of_apply_ne key h.ne)
      (hright.imp fun h => ne_of_apply_ne key h.ne)).mpr hmem
  exact hperm.eq_of_pairwise (fun _ _ _ _ h h' => absurd h h'.asymm) hleft hright

/-- If the keys of the last rows are those of the dictionary, in their order, then the keys
increase with the periods. -/
theorem key_lt_of_map_key_eq (hrows : rows.Pairwise fun r r' => period r ≤ period r')
    (hsame : ∀ r ∈ rows, ∀ r' ∈ rows, period r = period r' → key r = key r')
    (h : (buckets key rows).map key = (lastOfEach period rows).map key) :
    ∀ r ∈ rows, ∀ r' ∈ rows, period r < period r' → key r < key r' := by
  intro r hr r' hr' hlt
  have hkeys : (lastOfEach period rows).Pairwise fun r r' => key r < key r' := by
    have hstrict := List.pairwise_map.mpr (pairwise_buckets key rows)
    rw [h] at hstrict
    exact List.pairwise_map.mp hstrict
  obtain ⟨m, hm, hperiod⟩ := exists_isLast period hr
  obtain ⟨m', hm', hperiod'⟩ := exists_isLast period hr'
  rw [← hperiod, ← hperiod'] at hlt
  rw [← hsame m hm.mem r hr hperiod, ← hsame m' hm'.mem r' hr' hperiod']
  -- whichever of the two last rows comes first has the smaller period and the smaller key
  have : Std.Symm fun a b : ρ =>
      (period a < period b → key a < key b) ∧ (period b < period a → key b < key a) :=
    ⟨fun _ _ h => h.symm⟩
  have hboth := ((pairwise_lastOfEach hrows).and hkeys).imp fun {a b} h =>
    show (period a < period b → key a < key b) ∧ (period b < period a → key b < key a) from
      ⟨fun _ => h.2, fun hba => absurd h.1 hba.asymm⟩
  have hself : ∀ a ∈ lastOfEach period rows,
      (period a < period a → key a < key a) ∧ (period a < period a → key a < key a) :=
    fun a _ => ⟨fun h => absurd h (lt_irrefl _), fun h => absurd h (lt_irrefl _)⟩
  exact (hboth.forall_of_forall hself (mem_lastOfEach_iff.mpr hm)
    (mem_lastOfEach_iff.mpr hm')).1 hlt

/-- **A report that shows the keys is the same by keys as by periods** exactly if the keys increase
with the periods. -/
theorem report_eq_iff {ε : Type*} {report : List ρ → List ε} {label : ε → κ}
    (hlabel : ∀ l, (report l).map label = l.map key)
    (hrows : rows.Pairwise fun r r' => period r ≤ period r')
    (hsame : ∀ r ∈ rows, ∀ r' ∈ rows, period r = period r' → key r = key r') :
    report (buckets key rows) = report (lastOfEach period rows) ↔
      ∀ r ∈ rows, ∀ r' ∈ rows, period r < period r' → key r < key r' := by
  constructor
  · intro h
    refine key_lt_of_map_key_eq hrows hsame ?_
    rw [← hlabel, ← hlabel, h]
  · intro hkeys
    rw [buckets_eq_lastOfEach hrows hsame hkeys]

end Keys

end Buckets
