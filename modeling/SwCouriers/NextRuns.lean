import Mathlib.Data.Int.Interval
import SwCouriers.Lib.Searches
import SwCouriers.StatementProgress

/-!
# The Next Run of a Schedule

`next_run_at_utc`, for every frequency, window and instant, in a time zone whose local time
goes forward with UTC. A run is at the run hour of a run day; a one-off schedule that has
missed its run hour runs at once.

The search over the run days is a `while` loop. It ends, and it ends with the first run there
is, except that a quarterly search never looks at the day that it starts from.

A local day may be shorter or longer than 24 hours. Every window is one that ends a year
before the last of Python's dates, so that the search does not leave the calendar.

## Main results

* `nextPresetLocalRunDay_quarterly`: the quarter that starts on a day does not count as one
  that starts from this day on.
* `searchEnds`: the loops end, and form no date after 9999.
* `findsNextRun_iff`: when the next run is the first valid one.
-/

namespace SwCouriers

open Checked Searches

/-! ### Runs -/

/-- A day, in microseconds. -/
def localDay : ℤ := 86400000000

/-- The conversions of a zone go forward: later days have later runs, a run is on its local
day, and the local date does not go back. -/
structure Zone.GoesForward (tz : Zone) : Prop where
  run_strictMono : StrictMono tz.localRunDt
  localDate_run : ∀ day, tz.localDate (tz.localRunDt day) = day
  localDate_mono : Monotone tz.localDate

/-- The days on which a schedule runs, whatever its window. -/
def IsRunDay (frequency : StatementScheduleFrequency) (validFrom validTo : Day)
    (intervalStorage : Option String) (day : Day) : Prop :=
  match frequency with
  | .monthlyFirst => isMonthlyRunDay day = true
  | .quarterly => isQuarterlyRunDay day = true
  | .custom =>
      if isOnceCustomSchedule intervalStorage then day = validTo
      else ∃ (days : ℤ) (n : ℕ), parseIntervalDays intervalStorage = .ok days ∧
        day = validFrom + n * days

/-- A one-off schedule has missed its run hour at `afterUtc`. -/
def OnceOverdue (frequency : StatementScheduleFrequency) (tz : Zone) (validTo : Day)
    (intervalStorage : Option String) (afterUtc : Instant) : Prop :=
  frequency = .custom ∧ isOnceCustomSchedule intervalStorage = true ∧
    tz.localRunDt validTo ≤ afterUtc

/-- The moments at which a schedule can run: at the run hour of a day, or immediately if it
is a one-off schedule that is overdue. -/
def IsRunInstant (frequency : StatementScheduleFrequency) (tz : Zone) (validTo : Day)
    (intervalStorage : Option String) (afterUtc t : Instant) : Prop :=
  (OnceOverdue frequency tz validTo intervalStorage afterUtc → t = afterUtc + oneSecond) ∧
  (¬ OnceOverdue frequency tz validTo intervalStorage afterUtc →
    ∃ day, t = tz.localRunDt day)

/-- The runs after `afterUtc` whose local day is a run day in the window. -/
def validRuns (frequency : StatementScheduleFrequency) (tz : Zone) (validFrom validTo : Day)
    (intervalStorage : Option String) (afterUtc : Instant) : Set Instant :=
  {t | afterUtc < t ∧ IsRunInstant frequency tz validTo intervalStorage afterUtc t ∧
    (validFrom ≤ tz.localDate t ∧ tz.localDate t ≤ validTo) ∧
    IsRunDay frequency validFrom validTo intervalStorage (tz.localDate t)}

/-- From one day of an interval to the next, as long as there is such a date. -/
def intervalStep (days : ℤ) (day next : Day) : Prop :=
  next = day + days ∧ next ≤ dateMax

/-- From one run day of a preset frequency to the next, as long as there is such a date. -/
def presetStep (frequency : StatementScheduleFrequency) (day next : Day) : Prop :=
  nextPresetLocalRunDay frequency (day + 1) = .ok next ∧ next ≤ dateMax

/-- The `while` loop that `next_run_at_utc` comes to ends, and all days that it forms are
dates. -/
def SearchEnds (frequency : StatementScheduleFrequency) (tz : Zone) (validFrom validTo : Day)
    (intervalStorage : Option String) (afterUtc : Instant) : Prop :=
  match frequency with
  | .custom => ∀ days, parseIntervalDays intervalStorage = .ok days →
      ∃ r, Ends (intervalStep days) validTo (fun day => afterUtc < tz.localRunDt day)
        validFrom r
  | preset => tz.localDate afterUtc ≤ validTo → ∀ runDay,
      nextPresetLocalRunDay preset (max validFrom (tz.localDate afterUtc)) = .ok runDay →
      runDay ≤ dateMax ∧ ∃ r, Ends (presetStep preset) validTo
        (fun day => afterUtc < tz.localRunDt day) runDay r

/-- The search ends, and the next run is the first of the valid runs. -/
def FindsNextRun (frequency : StatementScheduleFrequency) (tz : Zone) (validFrom validTo : Day)
    (intervalStorage : Option String) (afterUtc : Instant) : Prop :=
  SearchEnds frequency tz validFrom validTo intervalStorage afterUtc ∧
  ∃ following, nextRunAtUtc frequency tz validFrom validTo intervalStorage afterUtc
      = .ok following ∧
    IsFirst (validRuns frequency tz validFrom validTo intervalStorage afterUtc) following

/-- A quarterly search starts on the first day of a quarter, whose run is still to come. -/
def StartsOnQuarter (frequency : StatementScheduleFrequency) (tz : Zone)
    (validFrom validTo : Day) (afterUtc : Instant) : Prop :=
  frequency = .quarterly ∧
    isQuarterlyRunDay (max validFrom (tz.localDate afterUtc)) = true ∧
    max validFrom (tz.localDate afterUtc) ≤ validTo ∧
    afterUtc < tz.localRunDt (max validFrom (tz.localDate afterUtc))

/-- A one-off schedule is overdue in the last second of its last day. -/
def OverdueAtMidnight (frequency : StatementScheduleFrequency) (tz : Zone) (validTo : Day)
    (intervalStorage : Option String) (afterUtc : Instant) : Prop :=
  OnceOverdue frequency tz validTo intervalStorage afterUtc ∧
    tz.localDate afterUtc ≤ validTo ∧ validTo < tz.localDate (afterUtc + oneSecond)

/-! ### Zones -/

variable {day : Day} {days : ℤ}

section Zones

variable {tz : Zone}

/-- The local day of a later run has not passed. -/
theorem Zone.GoesForward.localDate_le (h : tz.GoesForward) {t : Instant}
    (hlt : t < tz.localRunDt day) : tz.localDate t ≤ day :=
  (h.localDate_mono hlt.le).trans_eq (h.localDate_run day)

end Zones

/-! ### Run days -/

theorem isMonthlyRunDay_iff : isMonthlyRunDay day = true ↔ Calendar.IsPeriodStart 1 day := by
  rw [Calendar.isPeriodStart_iff one_pos, isMonthlyRunDay, decide_eq_true_iff,
    Calendar.dayOfMonth_eq_one, Int.ediv_one, Int.mul_one]

theorem isQuarterlyRunDay_iff : isQuarterlyRunDay day = true ↔ Calendar.IsPeriodStart 3 day := by
  rw [isQuarterlyRunDay, Bool.and_eq_true, decide_eq_true_iff, decide_eq_true_iff,
    Calendar.dayOfMonth_eq_one]
  constructor
  · rintro ⟨hfirst, hquarter⟩
    exact ⟨_, Int.dvd_of_emod_eq_zero hquarter, hfirst⟩
  · rintro ⟨month, hmonth, rfl⟩
    rw [Calendar.monthOf_monthStart]
    exact ⟨rfl, Int.emod_eq_zero_of_dvd hmonth⟩

/-- The next month starts on the first of the months that start on the day or later. -/
theorem nextPresetLocalRunDay_monthly (day : Day) :
    ∃ runDay, nextPresetLocalRunDay .monthlyFirst day = .ok runDay ∧
      IsLeast {e | Calendar.IsPeriodStart 1 e ∧ day ≤ e} runDay := by
  refine ⟨_, rfl, ?_⟩
  have hbounds := Calendar.period_bounds one_pos day
  have hleast := Calendar.isLeast_periodStart one_pos day
  have hfirst : firstOfMonth day = Calendar.monthStart (Calendar.monthOf day / 1 * 1) := by
    rw [firstOfMonth, Int.ediv_one, Int.mul_one]
  split_ifs with hbefore
  · rw [show addMonths (firstOfMonth day) 1
        = Calendar.monthStart (Calendar.monthOf day / 1 * 1 + 1) by
      rw [addMonths, hfirst, Calendar.monthOf_monthStart]]
    refine ⟨⟨hleast.1.1, hleast.1.2.le⟩, fun e he => hleast.2 ⟨he.1, ?_⟩⟩
    refine lt_of_le_of_ne he.2 fun heq => ?_
    rw [hfirst, ← (Calendar.isPeriodStart_iff one_pos).mp (heq ▸ he.1)] at hbefore
    exact lt_irrefl _ hbefore
  · have hday : day = firstOfMonth day := le_antisymm (not_lt.mp hbefore) (hfirst ▸ hbounds.1)
    rw [← hday]
    exact ⟨⟨(Calendar.isPeriodStart_iff one_pos).mpr (hday.trans hfirst), le_rfl⟩,
      fun e he => he.2⟩

/-- **The next quarter is the first of those that start after the day**, also when the day
itself starts a quarter. -/
theorem nextPresetLocalRunDay_quarterly (day : Day) :
    ∃ runDay, nextPresetLocalRunDay .quarterly day = .ok runDay ∧
      IsLeast {e | Calendar.IsPeriodStart 3 e ∧ day < e} runDay := by
  refine ⟨_, rfl, ?_⟩
  have hbounds := Calendar.period_bounds three_pos day
  have hleast := Calendar.isLeast_periodStart three_pos day
  have hadd : addMonths (quarterStart day) 3
      = Calendar.monthStart (Calendar.monthOf day / 3 * 3 + 3) := by
    rw [addMonths, quarterStart, Calendar.monthOf_monthStart]
  have hnext : nextQuarterStart day = if day = quarterStart day
      then Calendar.monthStart (Calendar.monthOf day / 3 * 3 + 3) else quarterStart day := by
    rw [nextQuarterStart, hadd]
  rw [hnext]
  split_ifs with hstart hbefore hbefore
  · exact absurd hbefore (not_lt.mpr hbounds.2.le)
  · exact hleast
  · rw [hadd]
    exact hleast
  · exact absurd (le_antisymm (not_lt.mp hbefore) hbounds.1) hstart

/-- After the start of a period, the next one to start a day later or on it is the next. -/
theorem isLeast_after_start {k : ℤ} {next : Day} (hday : Calendar.IsPeriodStart k day)
    (h : IsLeast {e | Calendar.IsPeriodStart k e ∧ day + 1 < e} next) :
    IsLeast {e | Calendar.IsPeriodStart k e ∧ day < e} next := by
  refine ⟨⟨h.1.1, (Int.lt_succ day).trans h.1.2⟩, fun e he => h.2 ⟨he.1, ?_⟩⟩
  refine lt_of_le_of_ne (Int.add_one_le_of_lt he.2) fun heq => ?_
  exact Calendar.not_isPeriodStart_succ hday (heq ▸ he.1)

/-! ### The loops -/

section Loops

variable {tz : Zone} {validFrom validTo : Day} {afterUtc : Instant}
variable {rounds : ℕ}

/-- A day that is not past the last leaves a round to go. -/
theorem exists_round {last day : ℤ} (hle : day ≤ last) (hrounds : (last - day + 1).toNat ≤ rounds) :
    ∃ n, rounds = n + 1 :=
  ⟨rounds - 1, by omega⟩

/-- A later day needs fewer rounds. -/
theorem rounds_left {last day next : ℤ} (hlt : day < next) (hle : day ≤ last)
    (hrounds : (last - day + 1).toNat ≤ rounds + 1) : (last - next + 1).toNat ≤ rounds := by
  omega

/-- The loop over the days of an interval, as far as its rounds reach, is a search. -/
theorem nextIntervalRunFrom_eq (hdays : 0 < days) {anchor : Day} {r : Option Day}
    (h : Ends (intervalStep days) validTo (fun day => afterUtc < tz.localRunDt day) anchor r)
    (hrounds : (validTo - anchor + 1).toNat ≤ rounds) :
    nextIntervalRunFrom days tz validTo afterUtc rounds anchor = r.map tz.localRunDt := by
  induction h generalizing rounds with
  | past hpast =>
      cases rounds with
      | zero => rfl
      | succ rounds => rw [nextIntervalRunFrom, if_pos hpast, Option.map_none]
  | found hle hfound =>
      obtain ⟨rounds, rfl⟩ := exists_round hle hrounds
      rw [nextIntervalRunFrom, if_neg (not_lt.mpr hle), if_pos hfound, Option.map_some]
  | again hle hmissed hnext _ ih =>
      obtain ⟨rounds, rfl⟩ := exists_round hle hrounds
      rw [nextIntervalRunFrom, if_neg (not_lt.mpr hle), if_neg hmissed, ← hnext.1]
      exact ih (rounds_left (hnext.1 ▸ Int.lt_add_of_pos_right _ hdays) hle hrounds)

/-- The loop over the run days of a preset frequency, as far as its rounds reach, is a
search. -/
theorem nextPresetRunFrom_eq {frequency : StatementScheduleFrequency}
    (hforward : ∀ day next, nextPresetLocalRunDay frequency (day + 1) = .ok next → day < next)
    {runDay : Day} {r : Option Day}
    (h : Ends (presetStep frequency) validTo (fun day => afterUtc < tz.localRunDt day) runDay r)
    (hrounds : (validTo - runDay + 1).toNat ≤ rounds) :
    nextPresetRunFrom frequency tz validTo afterUtc rounds runDay
      = .ok (r.map tz.localRunDt) := by
  induction h generalizing rounds with
  | past hpast =>
      cases rounds with
      | zero => rfl
      | succ rounds => rw [nextPresetRunFrom, if_pos hpast]; rfl
  | found hle hfound =>
      obtain ⟨rounds, rfl⟩ := exists_round hle hrounds
      rw [nextPresetRunFrom, if_neg (not_lt.mpr hle), if_pos hfound]
      rfl
  | @again day next _ hle hmissed hnext _ ih =>
      obtain ⟨rounds, rfl⟩ := exists_round hle hrounds
      rw [nextPresetRunFrom, if_neg (not_lt.mpr hle), if_neg hmissed, hnext.1]
      exact ih (rounds_left (hforward day next hnext.1) hle hrounds)

/-- What `parse_interval_days` accepts is a week or longer, and not longer than a year. -/
theorem parseIntervalDays_bounds {stored : Option String}
    (h : parseIntervalDays stored = .ok days) : 0 < days ∧ days ≤ maxCustomIntervalDays := by
  replace h := ok_of_check h
  replace h := ok_of_check h
  obtain ⟨parsed, -, h⟩ := bind_eq_ok.mp h
  obtain ⟨⟨⟩, hrange, h⟩ := bind_eq_ok.mp h
  have hrange := raiseIf_eq_ok.mp hrange
  obtain rfl := pure_eq_ok.mp h
  simp only [minCustomIntervalDays] at hrange
  omega

/-- The run day that is found is at most a quarter away. -/
theorem nextPresetLocalRunDay_le {frequency : StatementScheduleFrequency} {runDay : Day}
    (h : nextPresetLocalRunDay frequency day = .ok runDay) : runDay ≤ day + 93 := by
  cases frequency with
  | monthlyFirst =>
      obtain ⟨next, hnext, hleast⟩ := nextPresetLocalRunDay_monthly day
      obtain rfl := Except.ok.inj (hnext.symm.trans h)
      have hlater := Calendar.isLeast_periodStart one_pos day
      have hle := hleast.2 ⟨hlater.1.1, hlater.1.2.le⟩
      have hbound := Calendar.next_periodStart_le one_pos hlater
      exact (hle.trans hbound).trans (Int.add_le_add_left (by decide) day)
  | quarterly =>
      obtain ⟨next, hnext, hleast⟩ := nextPresetLocalRunDay_quarterly day
      obtain rfl := Except.ok.inj (hnext.symm.trans h)
      exact Calendar.next_periodStart_le three_pos hleast
  | custom => cases h

/-- A preset search moves on to a later day. -/
theorem nextPresetLocalRunDay_forward {frequency : StatementScheduleFrequency}
    (hpreset : frequency ≠ .custom) (day : Day) :
    ∃ next, nextPresetLocalRunDay frequency (day + 1) = .ok next ∧ day < next := by
  cases frequency with
  | monthlyFirst =>
      obtain ⟨next, hnext, hleast⟩ := nextPresetLocalRunDay_monthly (day + 1)
      exact ⟨next, hnext, Int.lt_of_add_one_le hleast.1.2⟩
  | quarterly =>
      obtain ⟨next, hnext, hleast⟩ := nextPresetLocalRunDay_quarterly (day + 1)
      exact ⟨next, hnext, (Int.lt_succ day).trans hleast.1.2⟩
  | custom => exact absurd rfl hpreset

/-- **The loops of `next_run_at_utc` end**, and they do so before the last of the dates. -/
theorem searchEnds (frequency : StatementScheduleFrequency) (tz : Zone) (validFrom validTo : Day)
    (intervalStorage : Option String) (afterUtc : Instant) (hwindow : validFrom ≤ validTo)
    (hdates : validTo + maxCustomIntervalDays ≤ dateMax) :
    SearchEnds frequency tz validFrom validTo intervalStorage afterUtc := by
  have hpreset : ∀ preset ≠ StatementScheduleFrequency.custom, tz.localDate afterUtc ≤ validTo →
      ∀ runDay, nextPresetLocalRunDay preset (max validFrom (tz.localDate afterUtc)) = .ok runDay →
      runDay ≤ dateMax ∧ ∃ r, Ends (presetStep preset) validTo
        (fun day => afterUtc < tz.localRunDt day) runDay r := by
    intro preset hpreset hopen runDay hrunDay
    have hquarter : validTo + 1 + 93 ≤ dateMax := by
      refine le_trans ?_ hdates
      rw [add_assoc]
      exact Int.add_le_add_left (by decide) validTo
    have hdate : ∀ {day next : Day}, day ≤ validTo + 1 →
        nextPresetLocalRunDay preset day = .ok next → next ≤ dateMax := fun hday hnext =>
      (nextPresetLocalRunDay_le hnext).trans ((Int.add_le_add_right hday 93).trans hquarter)
    refine ⟨?_, exists_ends (fun day hday => ?_) runDay⟩
    · exact hdate ((max_le hwindow hopen).trans (Int.lt_succ validTo).le) hrunDay
    · obtain ⟨next, hnext, hlt⟩ := nextPresetLocalRunDay_forward hpreset day
      exact ⟨next, ⟨hnext, hdate (Int.add_le_add_right hday 1) hnext⟩, hlt⟩
  cases frequency with
  | custom =>
      intro days hdays
      obtain ⟨hpos, hshort⟩ := parseIntervalDays_bounds hdays
      exact exists_ends (fun day hday => ⟨day + days,
        ⟨rfl, (Int.add_le_add hday hshort).trans hdates⟩, Int.lt_add_of_pos_right day hpos⟩)
        validFrom
  | monthlyFirst => exact hpreset _ (by decide)
  | quarterly => exact hpreset _ (by decide)

end Loops

/-! ### The first run -/

section FirstRun

variable {frequency : StatementScheduleFrequency} {tz : Zone} {validFrom validTo : Day}
  {intervalStorage : Option String} {afterUtc : Instant}

/-- The run days in the window whose run is still to come. -/
def validDays (frequency : StatementScheduleFrequency) (tz : Zone) (validFrom validTo : Day)
    (intervalStorage : Option String) (afterUtc : Instant) : Set Day :=
  {day | IsRunDay frequency validFrom validTo intervalStorage day ∧ validFrom ≤ day ∧
    day ≤ validTo ∧ afterUtc < tz.localRunDt day}

/-- Unless a one-off schedule is overdue, the valid runs are those of the valid days. -/
theorem validRuns_eq_image (htz : tz.GoesForward)
    (h : ¬ OnceOverdue frequency tz validTo intervalStorage afterUtc) :
    validRuns frequency tz validFrom validTo intervalStorage afterUtc
      = tz.localRunDt '' validDays frequency tz validFrom validTo intervalStorage afterUtc := by
  ext t
  constructor
  · rintro ⟨hafter, hrun, ⟨hfrom, hto⟩, hday⟩
    obtain ⟨day, rfl⟩ := hrun.2 h
    rw [htz.localDate_run] at hfrom hto hday
    exact ⟨day, ⟨hday, hfrom, hto, hafter⟩, rfl⟩
  · rintro ⟨day, ⟨hday, hfrom, hto, hafter⟩, rfl⟩
    refine ⟨hafter, ⟨fun hover => absurd hover h, fun _ => ⟨day, rfl⟩⟩, ?_⟩
    rw [htz.localDate_run]
    exact ⟨⟨hfrom, hto⟩, hday⟩

/-- The first of the valid days gives the first of the valid runs. -/
theorem IsFirst.validRuns (htz : tz.GoesForward)
    (h : ¬ OnceOverdue frequency tz validTo intervalStorage afterUtc) {r : Option Day}
    (hfirst : IsFirst (validDays frequency tz validFrom validTo intervalStorage afterUtc) r) :
    IsFirst (validRuns frequency tz validFrom validTo intervalStorage afterUtc)
      (r.map tz.localRunDt) := by
  rw [validRuns_eq_image htz h]
  exact hfirst.image htz.run_strictMono.monotone

/-- Among the days at an interval, the next is the first later one. -/
theorem isLeast_interval (hdays : 0 < days) (first : ℤ) {day : ℤ}
    (h : ∃ n : ℕ, day = first + n * days) :
    IsLeast {e | (∃ n : ℕ, e = first + n * days) ∧ day < e} (day + days) := by
  obtain ⟨n, rfl⟩ := h
  refine ⟨⟨⟨n + 1, by push_cast; ring⟩, Int.lt_add_of_pos_right _ hdays⟩, ?_⟩
  rintro e ⟨⟨m, rfl⟩, hlt⟩
  have hnm : (n : ℤ) < m := lt_of_mul_lt_mul_of_nonneg_right (by linarith) hdays.le
  calc first + n * days + days = first + (n + 1) * days := by ring
    _ ≤ first + m * days := by
        have := Int.mul_le_mul_of_nonneg_right (Int.add_one_le_of_lt hnm) hdays.le
        linarith

/-- What a preset search that starts on `start` computes: the first of the run days from
`start` on. -/
theorem nextRunAtUtc_preset (intervalStorage : Option String) {k : ℤ}
    (hpreset : frequency ≠ .custom)
    (hsearch : SearchEnds frequency tz validFrom validTo intervalStorage afterUtc) {start : Day}
    (hstart : nextPresetLocalRunDay frequency (max validFrom (tz.localDate afterUtc))
      = .ok start)
    (hnext : ∀ day next, Calendar.IsPeriodStart k day →
      nextPresetLocalRunDay frequency (day + 1) = .ok next →
      IsLeast {e | Calendar.IsPeriodStart k e ∧ day < e} next)
    (hday : Calendar.IsPeriodStart k start) (hopen : tz.localDate afterUtc ≤ validTo) :
    ∃ r, nextRunAtUtc frequency tz validFrom validTo intervalStorage afterUtc
        = .ok (r.map tz.localRunDt) ∧
      IsFirst {e | Calendar.IsPeriodStart k e ∧ start ≤ e ∧ e ≤ validTo ∧
        afterUtc < tz.localRunDt e} r := by
  have hends : ∃ r, Ends (presetStep frequency) validTo
      (fun day => afterUtc < tz.localRunDt day) start r := by
    cases frequency with
    | monthlyFirst => exact (hsearch hopen start hstart).2
    | quarterly => exact (hsearch hopen start hstart).2
    | custom => exact absurd rfl hpreset
  obtain ⟨r, hends⟩ := hends
  refine ⟨r, ?_, hends.isFirst (fun day next hday hstep => hnext day next hday hstep.1) hday⟩
  rw [nextRunAtUtc, if_neg (not_lt.mpr hopen), if_neg hpreset]
  refine bind_eq_ok.mpr ⟨start, hstart, ?_⟩
  refine nextPresetRunFrom_eq (fun day next hstep => ?_) hends le_rfl
  obtain ⟨next', hstep', hlt⟩ := nextPresetLocalRunDay_forward hpreset day
  exact Except.ok.inj (hstep.symm.trans hstep') ▸ hlt

variable (htz : tz.GoesForward) (hwindow : validFrom ≤ validTo)
  (hdates : validTo + maxCustomIntervalDays ≤ dateMax)

include htz hwindow hdates

/-- No run is valid once the window has passed, and none is found. -/
theorem findsNextRun_of_passed (h : validTo < tz.localDate afterUtc) :
    FindsNextRun frequency tz validFrom validTo intervalStorage afterUtc := by
  refine ⟨searchEnds _ _ _ _ _ _ hwindow hdates, none, ?_, ?_⟩
  · rw [nextRunAtUtc, if_pos h]
    rfl
  · refine Set.eq_empty_of_forall_notMem fun t ht => ?_
    obtain ⟨hafter, -, ⟨-, hto⟩, -⟩ := ht
    exact absurd (h.trans_le (htz.localDate_mono hafter.le)) (not_lt.mpr hto)

/-- A one-off schedule finds its run, but for the last second of its last day. -/
theorem findsNextRun_once_iff (honce : isOnceCustomSchedule intervalStorage = true)
    (hopen : tz.localDate afterUtc ≤ validTo) :
    FindsNextRun .custom tz validFrom validTo intervalStorage afterUtc ↔
      ¬ OverdueAtMidnight .custom tz validTo intervalStorage afterUtc := by
  have heq : nextRunAtUtc .custom tz validFrom validTo intervalStorage afterUtc
      = .ok (nextOnceRunUtc validTo tz afterUtc) := by
    rw [nextRunAtUtc, if_neg (not_lt.mpr hopen), if_pos rfl, if_pos honce]
    rfl
  rcases lt_or_ge afterUtc (tz.localRunDt validTo) with hahead | hmissed
  · have hnot : ¬ OnceOverdue .custom tz validTo intervalStorage afterUtc := fun hover =>
      absurd hahead (not_lt.mpr hover.2.2)
    refine iff_of_true ⟨searchEnds _ _ _ _ _ _ hwindow hdates, _, heq, ?_⟩ fun hmid => hnot hmid.1
    rw [nextOnceRunUtc, if_neg (not_lt.mpr hopen), if_pos hahead]
    refine IsFirst.validRuns (r := some validTo) htz hnot ⟨⟨?_, hwindow, le_rfl, hahead⟩, ?_⟩
    · rw [IsRunDay, if_pos honce]
    · rintro day ⟨hday, -⟩
      rw [IsRunDay, if_pos honce] at hday
      exact hday.ge
  · have hover : OnceOverdue .custom tz validTo intervalStorage afterUtc :=
      ⟨rfl, honce, hmissed⟩
    have hlate : validTo ≤ tz.localDate (afterUtc + oneSecond) := by
      rw [← htz.localDate_run validTo]
      exact htz.localDate_mono (hmissed.trans (Int.le_add_of_nonneg_right (by decide)))
    have hresult : nextOnceRunUtc validTo tz afterUtc = some (afterUtc + oneSecond) := by
      rw [nextOnceRunUtc, if_neg (not_lt.mpr hopen), if_neg (not_lt.mpr hmissed)]
    constructor
    · rintro ⟨-, following, hfollowing, hfirst⟩ ⟨-, -, hmidnight⟩
      obtain rfl := Except.ok.inj (heq.symm.trans hfollowing)
      rw [hresult] at hfirst
      exact absurd hfirst.1.2.2.1.2 (not_le.mpr hmidnight)
    · intro hmid
      have hday : tz.localDate (afterUtc + oneSecond) = validTo :=
        le_antisymm (not_lt.mp fun hafter => hmid ⟨hover, hopen, hafter⟩) hlate
      refine ⟨searchEnds _ _ _ _ _ _ hwindow hdates, _, heq, ?_⟩
      rw [hresult]
      refine ⟨⟨Int.lt_add_of_pos_right afterUtc (by decide), ⟨fun _ => rfl, fun h =>
        absurd hover h⟩, ?_⟩, fun t ht => (ht.2.1.1 hover).ge⟩
      rw [hday, IsRunDay, if_pos honce]
      exact ⟨⟨hwindow, le_rfl⟩, rfl⟩

/-- A schedule that runs at intervals finds its next run. -/
theorem findsNextRun_interval (honce : isOnceCustomSchedule intervalStorage = false)
    (hdays : parseIntervalDays intervalStorage = .ok days)
    (hopen : tz.localDate afterUtc ≤ validTo) :
    FindsNextRun .custom tz validFrom validTo intervalStorage afterUtc := by
  have hnot : ¬ OnceOverdue .custom tz validTo intervalStorage afterUtc := fun hover =>
    absurd (honce.symm.trans hover.2.1) (by decide)
  have hpos := (parseIntervalDays_bounds hdays).1
  obtain ⟨r, hends⟩ :=
    searchEnds .custom tz validFrom validTo intervalStorage afterUtc hwindow hdates days hdays
  refine ⟨searchEnds _ _ _ _ _ _ hwindow hdates, r.map tz.localRunDt, ?_,
    IsFirst.validRuns htz hnot ?_⟩
  · rw [nextRunAtUtc, if_neg (not_lt.mpr hopen), if_pos rfl, honce, if_neg (by decide), hdays]
    exact congrArg Except.ok (nextIntervalRunFrom_eq hpos hends le_rfl)
  · have hfirst := hends.isFirst (p := fun e => ∃ n : ℕ, e = validFrom + n * days)
      (fun day next hday hnext => hnext.1 ▸ isLeast_interval hpos validFrom hday) ⟨0, by simp⟩
    convert hfirst using 1
    ext day
    simp only [validDays, IsRunDay, honce, Set.mem_ofPred_eq, Bool.false_eq_true, if_false]
    constructor
    · rintro ⟨⟨days', n, hdays', hday⟩, hrest⟩
      obtain rfl := Except.ok.inj (hdays'.symm.trans hdays)
      exact ⟨⟨n, hday⟩, hrest⟩
    · rintro ⟨⟨n, hday⟩, hrest⟩
      exact ⟨⟨days, n, hdays, hday⟩, hrest⟩

/-- A monthly schedule finds its next run. -/
theorem findsNextRun_monthly (hopen : tz.localDate afterUtc ≤ validTo) :
    FindsNextRun .monthlyFirst tz validFrom validTo intervalStorage afterUtc := by
  have hnot : ¬ OnceOverdue .monthlyFirst tz validTo intervalStorage afterUtc := fun hover =>
    absurd hover.1 (by decide)
  obtain ⟨start, hstart, hleast⟩ :=
    nextPresetLocalRunDay_monthly (max validFrom (tz.localDate afterUtc))
  have hsearch := searchEnds .monthlyFirst tz validFrom validTo intervalStorage afterUtc hwindow
    hdates
  obtain ⟨r, hresult, hfirst⟩ := nextRunAtUtc_preset intervalStorage
    (k := 1) (by decide) hsearch hstart (fun day next _ hnext => by
      obtain ⟨next', hnext', hleast⟩ := nextPresetLocalRunDay_monthly (day + 1)
      obtain rfl := Except.ok.inj (hnext'.symm.trans hnext)
      exact hleast) hleast.1.1 hopen
  refine ⟨hsearch, _, hresult, IsFirst.validRuns htz hnot ?_⟩
  convert hfirst using 1
  ext day
  simp only [validDays, IsRunDay, isMonthlyRunDay_iff, Set.mem_ofPred_eq]
  constructor
  · rintro ⟨hday, hfrom, hto, hafter⟩
    exact ⟨hday, hleast.2 ⟨hday, max_le hfrom (htz.localDate_le hafter)⟩, hto, hafter⟩
  · rintro ⟨hday, hfrom, hto, hafter⟩
    exact ⟨hday, (le_max_left _ _).trans (hleast.1.2.trans hfrom), hto, hafter⟩

/-- A quarterly schedule finds its next run, unless the search starts on a quarter. -/
theorem findsNextRun_quarterly_iff (hopen : tz.localDate afterUtc ≤ validTo) :
    FindsNextRun .quarterly tz validFrom validTo intervalStorage afterUtc ↔
      ¬ StartsOnQuarter .quarterly tz validFrom validTo afterUtc := by
  have hnot : ¬ OnceOverdue .quarterly tz validTo intervalStorage afterUtc := fun hover =>
    absurd hover.1 (by decide)
  obtain ⟨start, hstart, hleast⟩ :=
    nextPresetLocalRunDay_quarterly (max validFrom (tz.localDate afterUtc))
  have hsearch := searchEnds .quarterly tz validFrom validTo intervalStorage afterUtc hwindow
    hdates
  obtain ⟨r, hresult, hfirst⟩ := nextRunAtUtc_preset intervalStorage
    (k := 3) (by decide) hsearch hstart (fun day next hday hnext => by
      obtain ⟨next', hnext', hleast⟩ := nextPresetLocalRunDay_quarterly (day + 1)
      obtain rfl := Except.ok.inj (hnext'.symm.trans hnext)
      exact isLeast_after_start hday hleast) hleast.1.1 hopen
  constructor
  · -- The run of the day that the search starts from is before all that it comes to.
    rintro ⟨-, following, hfollowing, hruns⟩ ⟨-, hquarter, hto, hafter⟩
    obtain rfl := Except.ok.inj (hresult.symm.trans hfollowing)
    have hmissed : tz.localRunDt (max validFrom (tz.localDate afterUtc))
        ∈ validRuns .quarterly tz validFrom validTo intervalStorage afterUtc := by
      rw [validRuns_eq_image htz hnot]
      exact ⟨_, ⟨hquarter, le_max_left _ _, hto, hafter⟩, rfl⟩
    cases r with
    | none => exact absurd hmissed (hruns ▸ Set.notMem_empty _)
    | some day =>
        have hbefore := htz.run_strictMono (hleast.1.2.trans_le hfirst.1.2.1)
        exact absurd (hruns.2 hmissed) (not_le.mpr hbefore)
  · intro hskip
    refine ⟨hsearch, _, hresult, IsFirst.validRuns htz hnot ?_⟩
    convert hfirst using 1
    ext day
    simp only [validDays, IsRunDay, isQuarterlyRunDay_iff, Set.mem_ofPred_eq]
    constructor
    · rintro ⟨hday, hfrom, hto, hafter⟩
      have hle := max_le hfrom (htz.localDate_le hafter)
      refine ⟨hday, hleast.2 ⟨hday, lt_of_le_of_ne hle fun heq => ?_⟩, hto, hafter⟩
      refine hskip ⟨rfl, ?_, ?_, ?_⟩
      · exact isQuarterlyRunDay_iff.mpr (heq ▸ hday)
      · exact heq ▸ hto
      · exact heq ▸ hafter
    · rintro ⟨hday, hfrom, hto, hafter⟩
      exact ⟨hday, (le_max_left _ _).trans (hleast.1.2.le.trans hfrom), hto, hafter⟩

end FirstRun

/-- **The next run is the first of the valid runs, except when a quarterly search starts on
the first day of a quarter whose run is still to come, and when a one-off schedule is overdue
in the last second of its last day.** -/
theorem findsNextRun_iff (frequency : StatementScheduleFrequency) (tz : Zone)
    (validFrom validTo : Day) (intervalStorage : Option String) (afterUtc : Instant)
    (htz : tz.GoesForward) (hwindow : validFrom ≤ validTo)
    (hdates : validTo + maxCustomIntervalDays ≤ dateMax)
    (hinterval : frequency = .custom → isOnceCustomSchedule intervalStorage = true ∨
      ∃ days, parseIntervalDays intervalStorage = .ok days) :
    FindsNextRun frequency tz validFrom validTo intervalStorage afterUtc ↔
      ¬ StartsOnQuarter frequency tz validFrom validTo afterUtc ∧
      ¬ OverdueAtMidnight frequency tz validTo intervalStorage afterUtc := by
  rcases lt_or_ge validTo (tz.localDate afterUtc) with hpassed | hopen
  · refine iff_of_true (findsNextRun_of_passed htz hwindow hdates hpassed)
      ⟨fun hquarter => ?_, fun hmid => ?_⟩
    · exact absurd (hpassed.trans_le ((le_max_right _ _).trans hquarter.2.2.1)) (lt_irrefl _)
    · exact absurd hmid.2.1 (not_le.mpr hpassed)
  cases frequency with
  | monthlyFirst =>
      exact iff_of_true (findsNextRun_monthly htz hwindow hdates hopen)
        ⟨fun hquarter => absurd hquarter.1 (by decide), fun hmid => absurd hmid.1.1 (by decide)⟩
  | quarterly =>
      rw [findsNextRun_quarterly_iff htz hwindow hdates hopen]
      exact ⟨fun h => ⟨h, fun hmid => absurd hmid.1.1 (by decide)⟩, And.left⟩
  | custom =>
      have hquarter : ¬ StartsOnQuarter .custom tz validFrom validTo afterUtc := fun h =>
        absurd h.1 (by decide)
      cases honce : isOnceCustomSchedule intervalStorage with
      | true =>
          rw [findsNextRun_once_iff htz hwindow hdates honce hopen]
          exact ⟨fun h => ⟨hquarter, h⟩, And.right⟩
      | false =>
          obtain hfalse | ⟨days, hdays⟩ := hinterval rfl
          · exact absurd (honce.symm.trans hfalse) (by decide)
          · refine iff_of_true (findsNextRun_interval htz hwindow hdates honce hdays hopen)
              ⟨hquarter, ?_⟩
            exact fun hmid => absurd (honce.symm.trans hmid.1.2.1) (by decide)

/-- Without an offset local time is UTC. -/
theorem utc_goesForward : utc.GoesForward where
  run_strictMono := fun (a : ℤ) (b : ℤ) (hab : a < b) => by
    change a * 86400000000 + 21600000000 < b * 86400000000 + 21600000000
    omega
  localDate_run := fun (day : ℤ) => by
    change (day * 86400000000 + 21600000000) / 86400000000 = day
    omega
  localDate_mono := fun (s : ℤ) (t : ℤ) (hst : s ≤ t) => by
    change s / 86400000000 ≤ t / 86400000000
    omega

/-- 1 January 2026. -/
def newYear : Day := Calendar.monthStart (12 * 2026)

/-- A quarterly schedule that is valid from 1 January 2026 on, and created the day before,
runs on 1 April first. -/
theorem january_is_skipped :
    nextRunAtUtc .quarterly utc newYear (newYear + 729) none ((newYear - 1) * localDay)
      = .ok (some (utc.localRunDt (Calendar.monthStart (12 * 2026 + 3)))) ∧
    utc.localRunDt newYear
      ∈ validRuns .quarterly utc newYear (newYear + 729) none ((newYear - 1) * localDay) ∧
    ¬ FindsNextRun .quarterly utc newYear (newYear + 729) none ((newYear - 1) * localDay) := by
  have hopen : utc.localDate ((newYear - 1) * localDay) ≤ newYear + 729 := by decide +kernel
  have hquarter : StartsOnQuarter .quarterly utc newYear (newYear + 729)
      ((newYear - 1) * localDay) :=
    ⟨rfl, by decide +kernel, by decide +kernel, by decide +kernel⟩
  refine ⟨by decide +kernel, ?_, fun h => (findsNextRun_quarterly_iff utc_goesForward
    (by decide +kernel) (by decide +kernel) hopen).mp h hquarter⟩
  rw [validRuns_eq_image utc_goesForward fun hover => absurd hover.1 (by decide)]
  exact ⟨newYear, ⟨(by decide +kernel : isQuarterlyRunDay newYear = true), by decide +kernel,
    by decide +kernel, by decide +kernel⟩, rfl⟩

/-- Europe/London in 2026: an hour ahead of UTC from one o'clock on 29 March to one o'clock on
25 October. These two days last 23 and 25 hours. -/
def london : Zone where
  localDate := fun t =>
    (t + if 63910429200000000 ≤ t ∧ t < 63928573200000000 then 3600000000 else 0) / 86400000000
  localRunDt := fun day =>
    day * 86400000000 + 21600000000 -
      if 739704 ≤ day ∧ day < 739914 then 3600000000 else 0

theorem london_goesForward : london.GoesForward where
  run_strictMono := fun (a : ℤ) (b : ℤ) (hab : a < b) => by
    change a * 86400000000 + 21600000000 - (if 739704 ≤ a ∧ a < 739914 then 3600000000 else 0)
      < b * 86400000000 + 21600000000 - (if 739704 ≤ b ∧ b < 739914 then 3600000000 else 0)
    split_ifs <;> omega
  localDate_run := fun (day : ℤ) => by
    change (day * 86400000000 + 21600000000
        - (if 739704 ≤ day ∧ day < 739914 then 3600000000 else 0)
      + if 63910429200000000 ≤ day * 86400000000 + 21600000000
          - (if 739704 ≤ day ∧ day < 739914 then 3600000000 else 0) ∧
        day * 86400000000 + 21600000000
          - (if 739704 ≤ day ∧ day < 739914 then 3600000000 else 0) < 63928573200000000
        then 3600000000 else 0) / 86400000000 = day
    split_ifs <;> omega
  localDate_mono := fun (s : ℤ) (t : ℤ) (hst : s ≤ t) => by
    change (s + if 63910429200000000 ≤ s ∧ s < 63928573200000000 then 3600000000 else 0)
        / 86400000000
      ≤ (t + if 63910429200000000 ≤ t ∧ t < 63928573200000000 then 3600000000 else 0)
        / 86400000000
    split_ifs <;> omega

/-- In London a schedule that is valid from 2 January 2026 on finds 1 April, at five o'clock
UTC. -/
theorem april_is_found :
    nextRunAtUtc .quarterly london (newYear + 1) (newYear + 729) none ((newYear - 1) * localDay)
      = .ok (some ((newYear + 90) * localDay + 18000000000)) ∧
    FindsNextRun .quarterly london (newYear + 1) (newYear + 729) none
      ((newYear - 1) * localDay) :=
  ⟨by decide +kernel, (findsNextRun_iff .quarterly london (newYear + 1) (newYear + 729) none
    ((newYear - 1) * localDay) london_goesForward (by decide +kernel) (by decide +kernel)
    (fun hcustom => absurd hcustom (by decide))).mpr
    ⟨fun hquarter => absurd hquarter.2.1 (by decide +kernel),
      fun hmid => absurd hmid.1.1 (by decide)⟩⟩

end SwCouriers
