import Mathlib.Data.Int.ConditionallyCompleteOrder
import Mathlib.Data.Int.Notation
import Mathlib.Data.List.Range
import Mathlib.Order.Bounds.Basic
import Mathlib.Tactic.IntervalCases
import Mathlib.Tactic.Ring

/-!
# The Civil Calendar

Days are counted from 1 January of year 1, which is day 1, in the proleptic Gregorian
calendar. Months are counted from January of year 0, so that adding months is adding
numbers.

## Main results

* `yearOf_spec`, `monthOf_spec`: a day lies in the year, and in the month, that is found for it.
* `monthStart_succ`: a month has 28 to 31 days.
* `isLeast_periodStart`: where the next month, or the next quarter, starts.
-/

namespace Calendar

/-- The days before 1 January of a year. -/
def daysBeforeYear (year : ℤ) : ℤ :=
  let y := year - 1
  y * 365 + y / 4 - y / 100 + y / 400

/-- Whether a year has a 29 February. -/
def isLeap (year : ℤ) : Bool :=
  year % 4 = 0 && (year % 100 ≠ 0 || year % 400 = 0)

/-- The days of a year before the first of a month, January being month 0. -/
def daysBeforeMonth (year : ℤ) (month : ℕ) : ℤ :=
  ([0, 31, 59, 90, 120, 151, 181, 212, 243, 273, 304, 334] : List ℤ).getD month 365
    + if 2 ≤ month ∧ isLeap year then 1 else 0

/-- The year that a day is in, by the cycles of 400, 100, 4 and 1 years. -/
def yearOf (day : ℤ) : ℤ :=
  let n := day - 1
  let r400 := n % 146097
  let r100 := r400 % 36524
  let r4 := r100 % 1461
  let year := n / 146097 * 400 + r400 / 36524 * 100 + r100 / 1461 * 4 + r4 / 365 + 1
  -- The last day of a leap year, or of a cycle of 400 years, is in the year before.
  if r4 / 365 = 4 ∨ r400 / 36524 = 4 then year - 1 else year

/-- The month of the year that a day is in, January being month 0. -/
def monthOfYear (day : ℤ) : ℕ :=
  let year := yearOf day
  ((List.range 12).filter fun m =>
    daysBeforeYear year + daysBeforeMonth year m < day).length - 1

/-- The number of the month that a day is in. -/
def monthOf (day : ℤ) : ℤ := 12 * yearOf day + monthOfYear day

/-- The first day of a month. -/
def monthStart (month : ℤ) : ℤ :=
  daysBeforeYear (month / 12) + daysBeforeMonth (month / 12) (month % 12).toNat + 1

/-- The day of the month. -/
def dayOfMonth (day : ℤ) : ℤ := day - monthStart (monthOf day) + 1

/-! ### Years -/

theorem isLeap_iff {year : ℤ} :
    isLeap year = true ↔ year % 4 = 0 ∧ (year % 100 ≠ 0 ∨ year % 400 = 0) := by
  simp [isLeap]

theorem daysBeforeYear_succ (year : ℤ) :
    daysBeforeYear (year + 1) = daysBeforeYear year + 365 + if isLeap year then 1 else 0 := by
  simp only [isLeap_iff, daysBeforeYear]
  split_ifs with h <;> omega

/-- The days before a year, by its place in the cycles of 400, 100 and 4 years. -/
theorem daysBeforeYear_cycles {a b c e : ℤ} (hb : 0 ≤ b ∧ b ≤ 3) (hc : 0 ≤ c ∧ c ≤ 24)
    (he : 0 ≤ e ∧ e ≤ 3) :
    daysBeforeYear (a * 400 + b * 100 + c * 4 + e + 1)
      = 146097 * a + 36524 * b + 1461 * c + 365 * e := by
  have h4 : (a * 400 + b * 100 + c * 4 + e) / 4 = a * 100 + b * 25 + c := by omega
  have h100 : (a * 400 + b * 100 + c * 4 + e) / 100 = a * 4 + b := by omega
  have h400 : (a * 400 + b * 100 + c * 4 + e) / 400 = a := by omega
  rw [daysBeforeYear]
  simp only [Int.add_sub_cancel, h4, h100, h400]
  omega

/-- The leap years are the last of four, except the last of a hundred that are not the last
of four hundred. -/
theorem isLeap_cycles {a b c e : ℤ} (hb : 0 ≤ b ∧ b ≤ 3) (hc : 0 ≤ c ∧ c ≤ 24)
    (he : 0 ≤ e ∧ e ≤ 3) :
    isLeap (a * 400 + b * 100 + c * 4 + e + 1) = true ↔ e = 3 ∧ (c = 24 → b = 3) := by
  rw [isLeap_iff]
  omega

/-- The cycles that a day is in. Only the last day of a leap year is the 366th. -/
theorem yearOf_cycles (day : ℤ) : ∃ a b c e : ℤ,
    (0 ≤ b ∧ b ≤ 3) ∧ (0 ≤ c ∧ c ≤ 24) ∧ (0 ≤ e ∧ e ≤ 3) ∧
    yearOf day = a * 400 + b * 100 + c * 4 + e + 1 ∧
    0 < day - (146097 * a + 36524 * b + 1461 * c + 365 * e) ∧
    day - (146097 * a + 36524 * b + 1461 * c + 365 * e)
      ≤ if e = 3 ∧ (c = 24 → b = 3) then 366 else 365 := by
  obtain ⟨a, ha⟩ : ∃ a, a = (day - 1) / 146097 := ⟨_, rfl⟩
  obtain ⟨b, hb⟩ : ∃ b, b = (day - 1) % 146097 / 36524 := ⟨_, rfl⟩
  obtain ⟨c, hc⟩ : ∃ c, c = (day - 1) % 146097 % 36524 / 1461 := ⟨_, rfl⟩
  obtain ⟨e, he⟩ : ∃ e, e = (day - 1) % 146097 % 36524 % 1461 / 365 := ⟨_, rfl⟩
  have hyear : yearOf day = if e = 4 ∨ b = 4 then a * 400 + b * 100 + c * 4 + e + 1 - 1
      else a * 400 + b * 100 + c * 4 + e + 1 := by
    simp only [yearOf, ← ha, ← hb, ← hc, ← he]
  by_cases hb4 : b = 4
  · refine ⟨a, 3, 24, 3, by omega, by omega, by omega, ?_, by omega, by simp; omega⟩
    rw [hyear, if_pos (.inr hb4)]
    omega
  · by_cases he4 : e = 4
    · refine ⟨a, b, c, 3, by omega, by omega, by omega, ?_, by omega, ?_⟩
      · rw [hyear, if_pos (.inl he4)]
        omega
      · rw [if_pos ⟨rfl, by omega⟩]
        omega
    · refine ⟨a, b, c, e, by omega, by omega, by omega, ?_, by omega, by split_ifs <;> omega⟩
      rw [hyear, if_neg (by omega)]

/-- A day is in the year that `yearOf` finds. -/
theorem yearOf_spec (day : ℤ) :
    daysBeforeYear (yearOf day) < day ∧ day ≤ daysBeforeYear (yearOf day + 1) := by
  obtain ⟨a, b, c, e, hb, hc, he, hyear, hpos, hle⟩ := yearOf_cycles day
  have hleap := isLeap_cycles (a := a) hb hc he
  rw [daysBeforeYear_succ, hyear, daysBeforeYear_cycles hb hc he]
  simp only [hleap]
  split_ifs at hle ⊢ <;> omega

theorem daysBeforeYear_mono : Monotone daysBeforeYear :=
  monotone_int_of_le_succ fun year => by
    rw [daysBeforeYear_succ]
    split_ifs <;> omega

theorem yearOf_mono : Monotone yearOf := by
  intro d d' hle
  by_contra hlt
  have hyears := daysBeforeYear_mono (Int.add_one_le_of_lt (not_le.mp hlt))
  have hlast := (yearOf_spec d').2
  have hfirst := (yearOf_spec d).1
  omega

variable {day k : ℤ}

theorem yearOf_eq_of_bounds {year : ℤ} (hfirst : daysBeforeYear year < day)
    (hlast : day ≤ daysBeforeYear (year + 1)) : yearOf day = year := by
  obtain ⟨hfirst', hlast'⟩ := yearOf_spec day
  rcases lt_trichotomy (yearOf day) year with hlt | heq | hgt
  · have hyears := daysBeforeYear_mono (Int.add_one_le_of_lt hlt)
    omega
  · exact heq
  · have hyears := daysBeforeYear_mono (Int.add_one_le_of_lt hgt)
    omega

example : (yearOf 738945, monthOfYear 738945, dayOfMonth 738945) = (2024, 1, 29) := by decide

/-! ### Months -/

/-- The numbers below `n` with a property that goes down are an initial part of them. -/
theorem filter_range_of_lower {p : ℕ → Bool} (hp : ∀ m k, m ≤ k → p k = true → p m = true)
    (n : ℕ) : ∃ k ≤ n, (List.range n).filter p = List.range k ∧ (k < n → p k = false) ∧
      ∀ m < k, p m = true := by
  induction n with
  | zero => exact ⟨0, le_rfl, rfl, fun h => absurd h (lt_irrefl 0), fun m hm => by omega⟩
  | succ n ih =>
      obtain ⟨k, hk, hfilter, hnot, hall⟩ := ih
      rw [List.range_succ, List.filter_append, hfilter]
      by_cases hpn : p n = true
      · have hkn : k = n := by
          by_contra hne
          have hpk := hnot (by omega)
          rw [hp k n hk hpn] at hpk
          exact absurd hpk (by simp)
        subst hkn
        exact ⟨k + 1, le_rfl, by simp [hpn, List.range_succ], by omega, fun m hm =>
          hp m k (by omega) hpn⟩
      · have hpn : p n = false := by simpa using hpn
        refine ⟨k, by omega, by simp [hpn], fun _ => ?_, hall⟩
        by_cases hkn : k = n
        · exact hkn ▸ hpn
        · exact hnot (by omega)

/-- A month starts 28 to 31 days after the one before it. -/
theorem daysBeforeMonth_succ (year : ℤ) {month : ℕ} (h : month < 12) :
    daysBeforeMonth year month + 28 ≤ daysBeforeMonth year (month + 1) ∧
      daysBeforeMonth year (month + 1) ≤ daysBeforeMonth year month + 31 := by
  simp only [daysBeforeMonth]
  cases isLeap year <;> interval_cases month <;> decide

theorem daysBeforeMonth_mono (year : ℤ) {m k : ℕ} (hmk : m ≤ k) (hk : k ≤ 12) :
    daysBeforeMonth year m ≤ daysBeforeMonth year k := by
  induction k, hmk using Nat.le_induction with
  | base => exact le_rfl
  | succ k _ ih =>
      have := daysBeforeMonth_succ year (show k < 12 by omega)
      have := ih (by omega)
      omega

/-- The first day of a month of a year. The thirteenth month is January of the next year. -/
theorem monthStart_of_year (year : ℤ) {month : ℕ} (h : month ≤ 12) :
    monthStart (12 * year + month) = daysBeforeYear year + daysBeforeMonth year month + 1 := by
  rcases Nat.lt_or_eq_of_le h with h | rfl
  · rw [monthStart, show (12 * year + month) / 12 = year by omega,
      show ((12 * year + month) % 12).toNat = month by omega]
  · rw [monthStart, show (12 * year + (12 : ℕ)) / 12 = year + 1 by omega,
      show ((12 * year + (12 : ℕ)) % 12).toNat = 0 by omega, daysBeforeYear_succ]
    simp [daysBeforeMonth]
    omega

/-- **A month has 28 to 31 days.** -/
theorem monthStart_succ (month : ℤ) :
    monthStart month + 28 ≤ monthStart (month + 1) ∧
      monthStart (month + 1) ≤ monthStart month + 31 := by
  obtain ⟨year, k, hk, rfl⟩ : ∃ (year : ℤ) (k : ℕ), k < 12 ∧ month = 12 * year + k :=
    ⟨month / 12, (month % 12).toNat, by omega, by omega⟩
  have hdays := daysBeforeMonth_succ year hk
  have hstart := monthStart_of_year year hk.le
  have hnext := monthStart_of_year year (show k + 1 ≤ 12 from hk)
  rw [show 12 * year + ((k + 1 : ℕ) : ℤ) = 12 * year + k + 1 by omega] at hnext
  omega

/-- **A day is in the month that `monthOf` finds.** -/
theorem monthOf_spec (day : ℤ) :
    monthStart (monthOf day) ≤ day ∧ day < monthStart (monthOf day + 1) := by
  obtain ⟨hlo, hhi⟩ := yearOf_spec day
  let begun : ℕ → Bool := fun m =>
    decide (m ≤ 12 ∧ daysBeforeYear (yearOf day) + daysBeforeMonth (yearOf day) m < day)
  have hlower : ∀ m k, m ≤ k → begun k = true → begun m = true := by
    intro m k hmk hk
    simp only [begun, decide_eq_true_eq] at hk ⊢
    have := daysBeforeMonth_mono (yearOf day) hmk hk.1
    omega
  have hmonth : monthOfYear day = ((List.range 12).filter begun).length - 1 := by
    rw [monthOfYear]
    refine congrArg (fun l : List ℕ => l.length - 1) (List.filter_congr fun m hm => ?_)
    have := List.mem_range.mp hm
    simp only [begun, decide_eq_decide]
    omega
  obtain ⟨k, hk, hfilter, hnot, hall⟩ := filter_range_of_lower hlower 12
  have hjanuary : begun 0 = true := by simpa [begun, daysBeforeMonth] using hlo
  have hkpos : 0 < k := by
    by_contra hzero
    obtain rfl : k = 0 := by omega
    rw [hnot (by omega)] at hjanuary
    exact absurd hjanuary (by simp)
  obtain ⟨m, rfl⟩ : ∃ m, k = m + 1 := ⟨k - 1, by omega⟩
  rw [hfilter, List.length_range, Nat.add_sub_cancel] at hmonth
  have hstart := monthStart_of_year (yearOf day) (show m ≤ 12 by omega)
  have hnext := monthStart_of_year (yearOf day) hk
  rw [show 12 * yearOf day + ((m + 1 : ℕ) : ℤ) = 12 * yearOf day + m + 1 by omega] at hnext
  have hm := hall m (by omega)
  simp only [begun, decide_eq_true_eq] at hm
  rw [monthOf, hmonth, hstart, hnext]
  refine ⟨by omega, ?_⟩
  rcases Nat.lt_or_eq_of_le hk with hlt | heq
  · have hend := hnot hlt
    simp only [begun, decide_eq_false_iff_not] at hend
    omega
  · rw [daysBeforeYear_succ] at hhi
    rw [heq, show daysBeforeMonth (yearOf day) 12
      = 365 + if isLeap (yearOf day) then 1 else 0 by simp [daysBeforeMonth]]
    omega

/-- A day is at most 30 days after the first of its month. -/
theorem monthStart_monthOf_bounds (day : ℤ) :
    monthStart (monthOf day) ≤ day ∧ day ≤ monthStart (monthOf day) + 30 := by
  obtain ⟨hlo, hhi⟩ := monthOf_spec day
  have hdays := monthStart_succ (monthOf day)
  omega

/-- A day is at most 92 days after the first of its quarter. -/
theorem quarter_bounds (day : ℤ) :
    monthStart (monthOf day / 3 * 3) ≤ day ∧ day ≤ monthStart (monthOf day / 3 * 3) + 92 := by
  obtain ⟨hlo, hhi⟩ := monthStart_monthOf_bounds day
  obtain ⟨first, hfirst⟩ : ∃ first, first = monthOf day / 3 * 3 := ⟨_, rfl⟩
  have hsecond := monthStart_succ first
  have hthird := monthStart_succ (first + 1)
  rw [Int.add_assoc, show (1 + 1 : ℤ) = 2 from rfl] at hthird
  rw [← hfirst]
  have hcases : monthOf day = first ∨ monthOf day = first + 1 ∨ monthOf day = first + 2 := by
    omega
  rcases hcases with h | h | h
  all_goals
    rw [h] at hlo hhi
    omega

/-- Later months start later. -/
theorem monthStart_strictMono : StrictMono monthStart :=
  strictMono_int_of_lt_succ fun month => by
    have := monthStart_succ month
    omega

theorem monthOf_mono : Monotone monthOf := by
  intro d d' hle
  by_contra hlt
  have hmonths := monthStart_strictMono.monotone (Int.add_one_le_of_lt (not_le.mp hlt))
  have hnext := (monthOf_spec d').2
  have hfirst := (monthOf_spec d).1
  omega

theorem monthOfYear_lt (day : ℤ) : monthOfYear day < 12 := by
  have hlen := List.length_filter_le (fun m =>
    decide (daysBeforeYear (yearOf day) + daysBeforeMonth (yearOf day) m < day)) (List.range 12)
  rw [List.length_range] at hlen
  rw [monthOfYear]
  omega

theorem dayOfMonth_bounds (day : ℤ) : 1 ≤ dayOfMonth day ∧ dayOfMonth day ≤ 31 := by
  have hbounds := monthStart_monthOf_bounds day
  rw [dayOfMonth]
  omega

/-- The first day of a month is in that month. -/
theorem monthOf_monthStart (month : ℤ) : monthOf (monthStart month) = month := by
  obtain ⟨hlo, hhi⟩ := monthOf_spec (monthStart month)
  have hle := monthStart_strictMono.le_iff_le.mp hlo
  have hlt := monthStart_strictMono.lt_iff_lt.mp hhi
  omega

/-- The first of a month. -/
theorem dayOfMonth_eq_one : dayOfMonth day = 1 ↔ day = monthStart (monthOf day) := by
  rw [dayOfMonth]
  omega

/-- The days on which a period of `k` months starts, counted from January of year 0. -/
def IsPeriodStart (k : ℤ) (day : ℤ) : Prop := ∃ month, k ∣ month ∧ day = monthStart month

/-- A day is in the period of `k` months that is found for it. -/
theorem period_bounds (hk : 0 < k) (day : ℤ) :
    monthStart (monthOf day / k * k) ≤ day ∧ day < monthStart (monthOf day / k * k + k) := by
  obtain ⟨hlo, hhi⟩ := monthOf_spec day
  have hfloor := Int.ediv_mul_le (monthOf day) hk.ne'
  have hceil := Int.lt_ediv_add_one_mul_self (monthOf day) hk
  refine ⟨(monthStart_strictMono.monotone hfloor).trans hlo, hhi.trans_le ?_⟩
  exact monthStart_strictMono.monotone (by rw [Int.add_mul, Int.one_mul] at hceil; omega)

/-- **The period after the one that a day is in is the first to start later.** -/
theorem isLeast_periodStart (hk : 0 < k) (day : ℤ) :
    IsLeast {e | IsPeriodStart k e ∧ day < e} (monthStart (monthOf day / k * k + k)) := by
  obtain ⟨hlo, hhi⟩ := period_bounds hk day
  refine ⟨⟨⟨_, ?_, rfl⟩, hhi⟩, ?_⟩
  · exact Int.dvd_add (Int.dvd_mul_left _ _) (Int.dvd_refl k)
  · rintro e ⟨⟨month, ⟨n, rfl⟩, rfl⟩, hafter⟩
    refine monthStart_strictMono.monotone ?_
    have hlater := monthStart_strictMono.lt_iff_lt.mp (hlo.trans_lt hafter)
    rw [Int.mul_comm] at hlater
    have hnext : monthOf day / k + 1 ≤ n := lt_of_mul_lt_mul_of_nonneg_left hlater hk.le
    calc monthOf day / k * k + k = k * (monthOf day / k + 1) := by ring
      _ ≤ k * n := Int.mul_le_mul_of_nonneg_left hnext hk.le

/-- A day starts a period exactly if it is the first day of its own. -/
theorem isPeriodStart_iff (hk : 0 < k) :
    IsPeriodStart k day ↔ day = monthStart (monthOf day / k * k) := by
  constructor
  · rintro ⟨month, ⟨n, rfl⟩, rfl⟩
    rw [monthOf_monthStart, Int.mul_ediv_cancel_left n hk.ne', Int.mul_comm]
  · exact fun h => ⟨_, Int.dvd_mul_left _ _, h⟩

/-- The day after the start of a period starts none. -/
theorem not_isPeriodStart_succ (h : IsPeriodStart k day) : ¬ IsPeriodStart k (day + 1) := by
  rintro ⟨later, -, hlater⟩
  obtain ⟨month, -, rfl⟩ := h
  have hnext := monthStart_succ month
  have hmonth := monthStart_strictMono.lt_iff_lt.mp
    (show monthStart month < monthStart later by omega)
  have hle := monthStart_strictMono.monotone (show month + 1 ≤ later by omega)
  omega

/-- The days of the period of `k` months with a number. -/
theorem monthOf_div_eq_iff (hk : 0 < k) {n : ℤ} :
    monthOf day / k = n ↔ monthStart (n * k) ≤ day ∧ day < monthStart (n * k + k) := by
  have hbounds := period_bounds hk day
  constructor
  · rintro rfl
    exact hbounds
  · rintro ⟨hlo, hhi⟩
    have hbelow := monthStart_strictMono.lt_iff_lt.mp (hlo.trans_lt hbounds.2)
    have habove := monthStart_strictMono.lt_iff_lt.mp (hbounds.1.trans_lt hhi)
    rw [← add_one_mul] at hbelow habove
    have hle := lt_of_mul_lt_mul_of_nonneg_right hbelow hk.le
    have hge := lt_of_mul_lt_mul_of_nonneg_right habove hk.le
    omega

/-- The start of a period with the next one. -/
theorem IsPeriodStart.next_eq (hk : 0 < k) {next : ℤ} (hday : IsPeriodStart k day)
    (hnext : IsLeast {e | IsPeriodStart k e ∧ day < e} next) :
    ∃ n, day = monthStart (n * k) ∧ next = monthStart (n * k + k) :=
  ⟨_, (isPeriodStart_iff hk).mp hday, hnext.unique (isLeast_periodStart hk day)⟩

theorem monthStart_add_le (month : ℤ) (n : ℕ) :
    monthStart (month + n) ≤ monthStart month + 31 * n := by
  induction n with
  | zero => simp
  | succ n ih =>
      have hlast := (monthStart_succ (month + n)).2
      push_cast
      rw [← Int.add_assoc]
      omega

/-- The next period starts within as many months of 31 days. -/
theorem next_periodStart_le {k : ℕ} (hk : 0 < k) {next : ℤ}
    (h : IsLeast {e | IsPeriodStart k e ∧ day < e} next) : next ≤ day + 31 * k := by
  have hpos : (0 : ℤ) < k := by exact_mod_cast hk
  obtain ⟨hstart, -⟩ := period_bounds hpos day
  have hmonths := monthStart_add_le (monthOf day / k * k) k
  rw [h.unique (isLeast_periodStart hpos day)]
  omega

example : monthStart (12 * 2024 + 2) = 738946 := by decide

end Calendar
