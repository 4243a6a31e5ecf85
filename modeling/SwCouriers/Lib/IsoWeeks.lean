import SwCouriers.Lib.Calendar

/-!
# The Weeks of a Year

A week starts on Monday and belongs to the year that most of its days are in. The first days of a
calendar year may belong to the last week of the year before, and its last days to the first week
of the year after.

## Main results

* `isoYear_spec`: a day lies in the weeks of the year that is found for it.
* `isoWeek_lt_iff_of_isoYear_eq`: within the weeks of one year, the numbers count the weeks.
* `isoWeek_le_of_isoYear_lt`: within one calendar year, a later day of a later week year has no
  greater number.
-/

namespace Calendar

/-- The Monday of the week that a day is in. -/
def mondayOf (day : ℤ) : ℤ := day - (day + 6) % 7

/-- The Monday on which the weeks of a year start. -/
def isoWeek1Monday (year : ℤ) : ℤ :=
  let firstDay := daysBeforeYear year + 1
  let firstWeekday := (firstDay + 6) % 7
  -- A year that starts after Thursday leaves its first days to the year before.
  if 3 < firstWeekday then firstDay - firstWeekday + 7 else firstDay - firstWeekday

/-- The year and the number of the week that a day is in. -/
def isoCalendar (day : ℤ) : ℤ × ℤ :=
  let year := yearOf day
  let week := (day - isoWeek1Monday year) / 7
  if week < 0 then (year - 1, (day - isoWeek1Monday (year - 1)) / 7 + 1)
  else if 52 ≤ week ∧ isoWeek1Monday (year + 1) ≤ day then (year + 1, 1)
  else (year, week + 1)

/-- The year to which the week of a day belongs. -/
def isoYear (day : ℤ) : ℤ := (isoCalendar day).1

/-- The number of the week of a day. -/
def isoWeek (day : ℤ) : ℤ := (isoCalendar day).2

example : (isoCalendar 738156, isoCalendar 739250) = ((2021, 52), (2025, 1)) := by decide

variable {year day d d' : ℤ}

/-! ### Where the weeks of a year start -/

theorem mondayOf_mono (h : d ≤ d') : mondayOf d ≤ mondayOf d' := by
  rw [mondayOf, mondayOf]
  omega

/-- The weeks of a year start within three days of its first day, on a Monday. -/
theorem isoWeek1Monday_bounds (year : ℤ) :
    daysBeforeYear year - 2 ≤ isoWeek1Monday year ∧
      isoWeek1Monday year ≤ daysBeforeYear year + 4 ∧ (isoWeek1Monday year + 6) % 7 = 0 := by
  rw [isoWeek1Monday]
  split_ifs <;> omega

theorem daysBeforeYear_succ_bounds (year : ℤ) :
    daysBeforeYear year + 365 ≤ daysBeforeYear (year + 1) ∧
      daysBeforeYear (year + 1) ≤ daysBeforeYear year + 366 := by
  rw [daysBeforeYear_succ]
  split_ifs <;> omega

/-- A year has 52 or 53 weeks. -/
theorem isoWeek1Monday_succ (year : ℤ) :
    isoWeek1Monday (year + 1) = isoWeek1Monday year + 364 ∨
      isoWeek1Monday (year + 1) = isoWeek1Monday year + 371 := by
  obtain ⟨hlow, hhigh, hmonday⟩ := isoWeek1Monday_bounds year
  obtain ⟨hlow', hhigh', hmonday'⟩ := isoWeek1Monday_bounds (year + 1)
  obtain ⟨hshort, hlong⟩ := daysBeforeYear_succ_bounds year
  omega

theorem isoWeek1Monday_mono : Monotone isoWeek1Monday :=
  monotone_int_of_le_succ fun year => by
    have hweeks := isoWeek1Monday_succ year
    omega

/-- The three kinds of days: those of a week that started in the year before, those of the weeks
of the calendar year, and those of a week that ends in the year after. -/
theorem isoCalendar_cases (day : ℤ) :
    (day < isoWeek1Monday (yearOf day) ∧ isoYear day = yearOf day - 1 ∧
        isoWeek day = (day - isoWeek1Monday (yearOf day - 1)) / 7 + 1) ∨
      (isoWeek1Monday (yearOf day) ≤ day ∧ day < isoWeek1Monday (yearOf day + 1) ∧
        isoYear day = yearOf day ∧ isoWeek day = (day - isoWeek1Monday (yearOf day)) / 7 + 1) ∨
      (isoWeek1Monday (yearOf day + 1) ≤ day ∧ isoYear day = yearOf day + 1 ∧
        isoWeek day = 1) := by
  have hweeks := isoWeek1Monday_succ (yearOf day)
  rw [isoYear, isoWeek, isoCalendar]
  split_ifs with hbefore hafter
  · exact .inl ⟨by omega, rfl, rfl⟩
  · exact .inr (.inr ⟨hafter.2, rfl, rfl⟩)
  · exact .inr (.inl ⟨by omega, by omega, rfl, rfl⟩)

/-- A day lies in the weeks of its year, and the number counts the weeks up to it. -/
theorem isoYear_spec (day : ℤ) :
    isoWeek1Monday (isoYear day) ≤ day ∧ day < isoWeek1Monday (isoYear day + 1) ∧
      isoWeek day = (day - isoWeek1Monday (isoYear day)) / 7 + 1 := by
  obtain ⟨hfirst, hlast⟩ := yearOf_spec day
  obtain ⟨-, hhigh, -⟩ := isoWeek1Monday_bounds (yearOf day)
  obtain ⟨hlow', -, -⟩ := isoWeek1Monday_bounds (yearOf day + 1)
  have hweeks' := isoWeek1Monday_succ (yearOf day + 1)
  have hweeks := isoWeek1Monday_succ (yearOf day - 1)
  rw [sub_add_cancel] at hweeks
  rcases isoCalendar_cases day with ⟨hday, hyear, hweek⟩ | ⟨hday, hday', hyear, hweek⟩ |
    ⟨hday, hyear, hweek⟩
  · rw [hyear, hweek, sub_add_cancel]
    exact ⟨by omega, hday, rfl⟩
  · rw [hyear, hweek]
    exact ⟨hday, hday', rfl⟩
  · rw [hyear, hweek]
    exact ⟨hday, by omega, by omega⟩

theorem isoWeek_bounds (day : ℤ) : 1 ≤ isoWeek day ∧ isoWeek day ≤ 53 := by
  obtain ⟨hlow, hhigh, hweek⟩ := isoYear_spec day
  have hweeks := isoWeek1Monday_succ (isoYear day)
  omega

/-! ### Numbers and weeks -/

/-- Within the weeks of one year, the numbers count the weeks. -/
theorem isoWeek_lt_iff_of_isoYear_eq (hyear : isoYear d = isoYear d') :
    isoWeek d < isoWeek d' ↔ mondayOf d < mondayOf d' := by
  obtain ⟨-, -, hweek⟩ := isoYear_spec d
  obtain ⟨-, -, hweek'⟩ := isoYear_spec d'
  obtain ⟨-, -, hmonday⟩ := isoWeek1Monday_bounds (isoYear d)
  rw [hweek, hweek', mondayOf, mondayOf, ← hyear]
  omega

/-- A later week year has later weeks. -/
theorem mondayOf_lt_of_isoYear_lt (h : isoYear d < isoYear d') : mondayOf d < mondayOf d' := by
  obtain ⟨-, hnext, -⟩ := isoYear_spec d
  obtain ⟨hfirst, -, -⟩ := isoYear_spec d'
  obtain ⟨-, -, hmonday⟩ := isoWeek1Monday_bounds (isoYear d')
  have hle := isoWeek1Monday_mono (Int.add_one_le_of_lt h)
  rw [mondayOf, mondayOf]
  omega

/-- The days of a week belong to one year. -/
theorem isoYear_eq_of_mondayOf_eq (h : mondayOf d = mondayOf d') : isoYear d = isoYear d' := by
  rcases lt_trichotomy (isoYear d) (isoYear d') with hlt | heq | hgt
  · exact absurd h (mondayOf_lt_of_isoYear_lt hlt).ne
  · exact heq
  · exact absurd h (mondayOf_lt_of_isoYear_lt hgt).ne'

/-- Within one calendar year, a later day of a later week year has no greater number. -/
theorem isoWeek_le_of_isoYear_lt (hyear : yearOf d = yearOf d') (h : isoYear d < isoYear d') :
    isoWeek d' ≤ isoWeek d := by
  obtain ⟨hfirst, hlast⟩ := yearOf_spec d
  obtain ⟨hfirst', hlast'⟩ := yearOf_spec d'
  obtain ⟨hlow, hhigh, hmonday⟩ := isoWeek1Monday_bounds (yearOf d)
  obtain ⟨hlow', hhigh', hmonday'⟩ := isoWeek1Monday_bounds (yearOf d + 1)
  obtain ⟨-, hlength⟩ := daysBeforeYear_succ_bounds (yearOf d)
  have hweeks := isoWeek1Monday_succ (yearOf d)
  have hweeks' := isoWeek1Monday_succ (yearOf d - 1)
  rw [sub_add_cancel] at hweeks'
  obtain ⟨hone, -⟩ := isoWeek_bounds d
  rw [← hyear] at hfirst' hlast'
  have hcases := isoCalendar_cases d'
  rw [← hyear] at hcases
  rcases isoCalendar_cases d with ⟨hday, hy, hweek⟩ | ⟨hday, hday', hy, hweek⟩ |
    ⟨hday, hy, hweek⟩ <;>
  rcases hcases with ⟨hd, hy', hweek'⟩ | ⟨hd, hd', hy', hweek'⟩ | ⟨hd, hy', hweek'⟩ <;> omega

end Calendar
