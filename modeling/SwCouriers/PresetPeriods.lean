import SwCouriers.NextRuns

/-!
# The Periods of Preset Schedules

A monthly or quarterly schedule runs on the days that `_next_preset_local_run_day` produces, and
the statement of a run covers the period that `statement_period_for_run` computes from the run day
alone. The two take months apart: the run day is found by the index of a month, the period by the
day before the run.

## Main results

* `producedOn_iff`: the days that are produced are the first days of the months, or quarters.
* `consecutive_iff`: the next run day is the one that the loop asks for.
* `preset_periods_tile`: **the period of a run starts on the run day before it, ends the day
  before the run, and is the month, or quarter, before**.
-/

namespace SwCouriers

open Checked

/-- The months of a preset period. -/
def presetMonths : StatementScheduleFrequency → Option ℤ
  | .monthlyFirst => some 1
  | .quarterly => some 3
  | .custom => none

/-- A day that `_next_preset_local_run_day` produces. -/
def ProducedOn (frequency : StatementScheduleFrequency) (day : Day) : Prop :=
  ∃ afterLocal, nextPresetLocalRunDay frequency afterLocal = .ok day

/-- Two run days of a schedule with none between them. -/
structure Consecutive (frequency : StatementScheduleFrequency) (d₁ d₂ : Day) : Prop where
  first : ProducedOn frequency d₁
  second : ProducedOn frequency d₂
  lt : d₁ < d₂
  none_between : ∀ day, ProducedOn frequency day → d₁ < day → d₂ ≤ day

variable {frequency : StatementScheduleFrequency} {k : ℤ} {day d₁ d₂ : Day}

theorem presetMonths_pos (h : presetMonths frequency = some k) : 0 < k := by
  cases frequency with
  | monthlyFirst => exact Option.some.inj h ▸ one_pos
  | quarterly => exact Option.some.inj h ▸ three_pos
  | custom => exact absurd h (by simp [presetMonths])

/-- No day is produced for a custom schedule. -/
theorem presetMonths_of_producedOn (h : ProducedOn frequency day) :
    ∃ k, presetMonths frequency = some k := by
  cases frequency with
  | monthlyFirst => exact ⟨1, rfl⟩
  | quarterly => exact ⟨3, rfl⟩
  | custom =>
      obtain ⟨afterLocal, hafter⟩ := h
      cases hafter

/-- **The days that are produced start the periods.** -/
theorem producedOn_iff (hmonths : presetMonths frequency = some k) :
    ProducedOn frequency day ↔ Calendar.IsPeriodStart k day := by
  cases frequency with
  | monthlyFirst =>
      obtain rfl := Option.some.inj hmonths
      constructor
      · rintro ⟨afterLocal, hafter⟩
        obtain ⟨runDay, hrun, hleast⟩ := nextPresetLocalRunDay_monthly afterLocal
        obtain rfl := Except.ok.inj (hrun.symm.trans hafter)
        exact hleast.1.1
      · intro hday
        obtain ⟨runDay, hrun, hleast⟩ := nextPresetLocalRunDay_monthly day
        have heq : runDay = day := le_antisymm (hleast.2 ⟨hday, le_rfl⟩) hleast.1.2
        exact ⟨day, heq ▸ hrun⟩
  | quarterly =>
      obtain rfl := Option.some.inj hmonths
      constructor
      · rintro ⟨afterLocal, hafter⟩
        obtain ⟨runDay, hrun, hleast⟩ := nextPresetLocalRunDay_quarterly afterLocal
        obtain rfl := Except.ok.inj (hrun.symm.trans hafter)
        exact hleast.1.1
      · intro hday
        -- The search starts the day before, as it leaves out the day that it starts from.
        obtain ⟨runDay, hrun, hleast⟩ := nextPresetLocalRunDay_quarterly (day - 1)
        have hle : runDay ≤ day := hleast.2 ⟨hday, Int.sub_one_lt_of_le le_rfl⟩
        have hge : day ≤ runDay := Int.le_of_sub_one_lt hleast.1.2
        exact ⟨day - 1, le_antisymm hle hge ▸ hrun⟩
  | custom => exact absurd hmonths (by simp [presetMonths])

/-- The loop goes on from a run day to the start of the next period. -/
theorem nextPresetLocalRunDay_succ (hmonths : presetMonths frequency = some k)
    (hday : Calendar.IsPeriodStart k day) :
    ∃ next, nextPresetLocalRunDay frequency (day + 1) = .ok next ∧
      IsLeast {e | Calendar.IsPeriodStart k e ∧ day < e} next := by
  cases frequency with
  | monthlyFirst =>
      obtain rfl := Option.some.inj hmonths
      exact nextPresetLocalRunDay_monthly (day + 1)
  | quarterly =>
      obtain rfl := Option.some.inj hmonths
      obtain ⟨next, hnext, hleast⟩ := nextPresetLocalRunDay_quarterly (day + 1)
      exact ⟨next, hnext, isLeast_after_start hday hleast⟩
  | custom => exact absurd hmonths (by simp [presetMonths])

/-- Consecutive run days are the starts of a period and of the next one. -/
theorem consecutive_iff_isLeast (hmonths : presetMonths frequency = some k)
    (hfirst : Calendar.IsPeriodStart k d₁) :
    Consecutive frequency d₁ d₂ ↔ IsLeast {e | Calendar.IsPeriodStart k e ∧ d₁ < e} d₂ := by
  constructor
  · intro h
    refine ⟨⟨(producedOn_iff hmonths).mp h.second, h.lt⟩, fun e he => ?_⟩
    exact h.none_between e ((producedOn_iff hmonths).mpr he.1) he.2
  · intro h
    refine ⟨(producedOn_iff hmonths).mpr hfirst, (producedOn_iff hmonths).mpr h.1.1, h.1.2, ?_⟩
    exact fun day hday hlt => h.2 ⟨(producedOn_iff hmonths).mp hday, hlt⟩

/-- The run day after one is the one that the loop asks for. -/
theorem consecutive_iff (hfirst : ProducedOn frequency d₁) :
    Consecutive frequency d₁ d₂ ↔ nextPresetLocalRunDay frequency (d₁ + 1) = .ok d₂ := by
  obtain ⟨k, hmonths⟩ := presetMonths_of_producedOn hfirst
  have hstart := (producedOn_iff hmonths).mp hfirst
  obtain ⟨next, hnext, hleast⟩ := nextPresetLocalRunDay_succ hmonths hstart
  rw [consecutive_iff_isLeast hmonths hstart, hnext, Except.ok.injEq]
  constructor
  · exact fun h => hleast.unique h
  · rintro rfl
    exact hleast

/-- The statement of a run covers the period that ends the day before. -/
theorem statementPeriodForRun_of_start (hmonths : presetMonths frequency = some k)
    (hday : Calendar.IsPeriodStart k day) :
    statementPeriodForRun frequency day
      = .ok ⟨Calendar.monthStart (Calendar.monthOf (day - 1) / k * k), day - 1⟩ := by
  cases frequency with
  | monthlyFirst =>
      obtain rfl := Option.some.inj hmonths
      have hfirst : firstOfMonth day = day := by
        rw [firstOfMonth, ← Calendar.dayOfMonth_eq_one.mp]
        exact of_decide_eq_true (isMonthlyRunDay_iff.mpr hday)
      have hrun : isMonthlyRunDay day ≠ false := by
        rw [isMonthlyRunDay_iff.mpr hday]
        exact Bool.true_eq_false_eq_False
      rw [Int.ediv_one, Int.mul_one]
      refine bind_eq_ok.mpr ⟨⟨⟩, raiseIf_eq_ok.mpr hrun, ?_⟩
      rw [hfirst]
      rfl
  | quarterly =>
      obtain rfl := Option.some.inj hmonths
      have hfirst : quarterStart day = day :=
        ((Calendar.isPeriodStart_iff three_pos).mp hday).symm
      have hrun : isQuarterlyRunDay day ≠ false := by
        rw [isQuarterlyRunDay_iff.mpr hday]
        exact Bool.true_eq_false_eq_False
      refine bind_eq_ok.mpr ⟨⟨⟩, raiseIf_eq_ok.mpr hrun, ?_⟩
      rw [hfirst]
      rfl
  | custom => exact absurd hmonths (by simp [presetMonths])

/-- **Preset periods tile the calendar.** The statement of a run covers the days from the run day
before it on, up to the day before the run: the month, or the quarter, before the one that the run
day is in. -/
theorem preset_periods_tile (h : Consecutive frequency d₁ d₂) :
    statementPeriodForRun frequency d₂ = .ok ⟨d₁, d₂ - 1⟩ ∧
      ∃ k, presetMonths frequency = some k ∧
        ∀ day, (d₁ ≤ day ∧ day ≤ d₂ - 1) ↔
          Calendar.monthOf day / k = Calendar.monthOf d₂ / k - 1 := by
  obtain ⟨k, hmonths⟩ := presetMonths_of_producedOn h.first
  have hk := presetMonths_pos hmonths
  have hstart := (producedOn_iff hmonths).mp h.first
  have hleast := (consecutive_iff_isLeast hmonths hstart).mp h
  obtain ⟨n, hd₁, hd₂⟩ := hstart.next_eq hk hleast
  have hnext : Calendar.monthOf d₂ / k = n + 1 := by
    rw [hd₂, Calendar.monthOf_monthStart, ← add_one_mul, Int.mul_ediv_cancel _ hk.ne']
  have hdays : ∀ day, (d₁ ≤ day ∧ day ≤ d₂ - 1) ↔ Calendar.monthOf day / k = n := by
    intro day
    rw [Calendar.monthOf_div_eq_iff hk, ← hd₁, ← hd₂, Int.le_sub_one_iff]
  refine ⟨?_, k, hmonths, fun day => ?_⟩
  · have hlast : Calendar.monthOf (d₂ - 1) / k = n :=
      (hdays (d₂ - 1)).mp ⟨Int.le_sub_one_of_lt h.lt, le_rfl⟩
    rw [statementPeriodForRun_of_start hmonths hleast.1.1, hlast, ← hd₁]
  · rw [hdays, hnext, Int.add_sub_cancel]

/-- The run on 1 January 2025 covers the last quarter of 2024. -/
theorem last_quarter_of_leap_year :
    statementPeriodForRun .quarterly 739252 = .ok ⟨739160, 739251⟩ :=
  have hfirst : ProducedOn .quarterly 739160 := ⟨739159, by decide⟩
  (preset_periods_tile ((consecutive_iff hfirst).mpr (by decide))).1

end SwCouriers
