import Mathlib.Data.List.Sort
import SwCouriers.Lib.Table
import SwCouriers.StatementTiling

/-!
# When a Pass over the Due Schedules Gets Through

`process_due_schedules` and the job around it: the first schedule that is due is run, until
none is. A run that raises ends the pass, and the job then keeps nothing of it but the
deliveries that are already queued.

## Main results

* `executeScheduleRun_of_runnable`, `executeScheduleRun_of_not_runnable`: on which days a run
  has a period to state.
* `pass_completes_iff`: the pass gets through, and leaves no schedule due, exactly if every
  schedule that is due can run.
-/

namespace SwCouriers

open Checked

/-- A row of `account_statement_schedules`. -/
structure ScheduleRow where
  id : Id
  schedule : AccountStatementSchedule
  deriving DecidableEq

/-- What a pass has written so far, and what it has queued. -/
structure Pass where
  schedules : Table ScheduleRow.id
  created : List ContentSignature
  enqueued : List DeliveryJob

/-- How a pass ends: it returns, it raises, or it has not ended. -/
inductive PassEnd where
  | returned
  | raised (error : ServiceError)
  | running
  deriving DecidableEq, Repr

/-- The active statements while the pass goes on. It creates one only where there is none. -/
def StatementEnv.during (env : StatementEnv) (created : List ContentSignature) :
    StatementEnv :=
  { env with activeStatements := fun signature =>
      if signature ∈ created then 1 else env.activeStatements signature }

/-- The order of `next_run_at`, among schedules that are due. -/
def RunsBefore (before : Instant) (a b : ScheduleRow) : Prop :=
  a.schedule.nextRunAt.getD before ≤ b.schedule.nextRunAt.getD before

instance (before : Instant) : DecidableRel (RunsBefore before) :=
  fun a b => inferInstanceAs
    (Decidable (a.schedule.nextRunAt.getD before ≤ b.schedule.nextRunAt.getD before))

instance (before : Instant) : Std.Total (RunsBefore before) :=
  ⟨fun _ _ => le_total _ _⟩

instance (before : Instant) : IsTrans ScheduleRow (RunsBefore before) :=
  ⟨fun _ _ _ => le_trans⟩

/-- `list_due(before=ref, limit=1)`. Schedules that fall due at one moment come in the order
of the table. -/
def listDue (t : Table ScheduleRow.id) (before : Instant) : Option ScheduleRow :=
  ((t.rows.filter fun row => row.schedule.isDue before).insertionSort
    (RunsBefore before)).head?

/-- One round of `process_due_schedules`. The queue drops a delivery that it knows. -/
def executeRow (zoneInfo : String → Option Zone) (env : StatementEnv) (now : Instant)
    (p : Pass) (row : ScheduleRow) : Except ServiceError Pass := do
  let found := env.during p.created
  let result ← executeScheduleRun zoneInfo found row.schedule now
  let statement := result.2.map (contentSignature row.schedule)
  let job := statement.map (DeliveryJob.mk row.id)
  return {
    schedules := p.schedules.modify row.id (fun r => { r with schedule := result.1 })
      fun _ => rfl
    created := p.created ++
      (statement.filter fun signature => found.activeStatements signature = 0).toList
    enqueued := p.enqueued ++ (job.filter fun job => ¬ env.knowsJob job).toList }

/-- The loop of `process_due_schedules`, with the number of rounds it may still take. -/
def processFrom (zoneInfo : String → Option Zone) (env : StatementEnv) (now : Instant) :
    ℕ → Pass → Pass × PassEnd
  | 0, p => (p, .running)
  | rounds + 1, p =>
      match listDue p.schedules now with
      | none => (p, .returned)
      | some row =>
          match executeRow zoneInfo env now p row with
          | .ok p' => processFrom zoneInfo env now rounds p'
          | .error e => (p, .raised e)

/-- `validate_schedule_inputs`. -/
def validateScheduleInputs (zoneInfo : String → Option Zone) (input : ScheduleInput)
    (now : Instant) :
    Except ServiceError
      (StatementScheduleFrequency × Zone × Option String × (Day × Day)) := do
  let frequency ← normalizeFrequency input.frequency
  let tz ← resolveTimezone zoneInfo input.timezone
  let window ← resolveScheduleWindow frequency input.validFrom input.validTo (tz.localDate now)
  let intervalStorage ← storedInterval frequency input.intervalDays
  return (frequency, tz, intervalStorage, window)

/-- An ACTIVE schedule whose frequency, interval, time zone and window went through
`validate_schedule_inputs`, and whose next run is known. Its window ends a year before the
last of Python's dates. -/
structure ActiveSchedule (zoneInfo : String → Option Zone) (s : AccountStatementSchedule) :
    Prop where
  active : s.status = .active
  planned : s.nextRunAt ≠ none
  dates : s.validTo + maxCustomIntervalDays ≤ dateMax
  accepted : ∃ (input : ScheduleInput) (now : Instant) (tz : Zone),
    validateScheduleInputs zoneInfo input now
      = .ok (s.frequency, tz, s.customCron, (s.validFrom, s.validTo)) ∧
    s.timezone = if strip input.timezone = "" then "Europe/London" else strip input.timezone

/-- What a pass should leave of a schedule: it has ended, or it runs again later. -/
def Settled (now : Instant) (s : AccountStatementSchedule) : Prop :=
  s.status = .completed ∨ ∃ t, s.nextRunAt = some t ∧ now < t

/-- On the local day `day` a run of `s` has a period to state, and not too long a one: the
first of a month, or of a quarter; for a one-off schedule, its last day or a later one; for
an interval, a day after the first that is not covered. -/
def HasPeriod (s : AccountStatementSchedule) (tz : Zone) (day : Day) : Prop :=
  match s.frequency with
  | .monthlyFirst => isMonthlyRunDay day = true
  | .quarterly => isQuarterlyRunDay day = true
  | .custom =>
      if isOnceCustomSchedule s.customCron then
        s.validTo ≤ day ∧ s.validTo - s.validFrom < maxPeriodDays
      else s.firstDay tz < day ∧ day - s.firstDay tz ≤ maxPeriodDays

instance HasPeriod.decidable (s : AccountStatementSchedule) (tz : Zone) (day : Day) :
    Decidable (HasPeriod s tz day) :=
  match hf : s.frequency with
  | .monthlyFirst => decidable_of_iff (isMonthlyRunDay day = true) (by rw [HasPeriod, hf])
  | .quarterly => decidable_of_iff (isQuarterlyRunDay day = true) (by rw [HasPeriod, hf])
  | .custom =>
      decidable_of_iff
        (if isOnceCustomSchedule s.customCron then
          s.validTo ≤ day ∧ s.validTo - s.validFrom < maxPeriodDays
        else s.firstDay tz < day ∧ day - s.firstDay tz ≤ maxPeriodDays)
        (by rw [HasPeriod, hf])

/-- The period that a run on the local day `day` states: the month or the quarter that ended
the day before, the window of a one-off schedule, or the days since the last run. -/
def AccountStatementSchedule.statedPeriod (s : AccountStatementSchedule) (tz : Zone)
    (day : Day) : StatementPeriod :=
  match s.frequency with
  | .monthlyFirst => ⟨firstOfMonth (day - 1), day - 1⟩
  | .quarterly => ⟨quarterStart (day - 1), day - 1⟩
  | .custom =>
      if isOnceCustomSchedule s.customCron then ⟨s.validFrom, s.validTo⟩
      else ⟨s.firstDay tz, day - 1⟩

/-- A schedule can run: it has left its window, or it has a period to state, which has also
ended by the date of the server and has no two active statements. -/
def Runnable (zoneInfo : String → Option Zone) (env : StatementEnv) (now : Instant)
    (s : AccountStatementSchedule) : Prop :=
  ∃ tz, resolveTimezone zoneInfo s.timezone = .ok tz ∧
    (outsideWindow s (tz.localDate now) = true ∨
      HasPeriod s tz (tz.localDate now) ∧
        (s.statedPeriod tz (tz.localDate now)).periodEnd ≤ env.today ∧
        env.activeStatements (contentSignature s (s.statedPeriod tz (tz.localDate now))) ≤ 1)

/-! ### What was checked when a schedule was created -/

section Accepted

variable {zoneInfo : String → Option Zone} {s : AccountStatementSchedule}

/-- The window of an active schedule has a day. -/
theorem ActiveSchedule.window (h : ActiveSchedule zoneInfo s) : s.validFrom ≤ s.validTo := by
  obtain ⟨input, now, tz, hvalid, -⟩ := h.accepted
  obtain ⟨frequency, -, hvalid⟩ := bind_eq_ok.mp hvalid
  obtain ⟨tz', -, hvalid⟩ := bind_eq_ok.mp hvalid
  obtain ⟨window, hwindow, hvalid⟩ := bind_eq_ok.mp hvalid
  obtain ⟨stored, -, hvalid⟩ := bind_eq_ok.mp hvalid
  replace hwindow := ok_of_check hwindow
  obtain ⟨⟨⟩, hordered, hwindow⟩ := bind_eq_ok.mp hwindow
  have hordered := not_lt.mp (raiseIf_eq_ok.mp hordered)
  have hstored := pure_eq_ok.mp hvalid
  have hresolved := pure_eq_ok.mp hwindow
  simp only [Prod.mk.injEq] at hstored
  obtain ⟨-, -, -, rfl⟩ := hstored
  obtain ⟨hfrom, hto⟩ := Prod.mk.inj hresolved
  rw [← hfrom, ← hto]
  exact hordered

/-- A CUSTOM schedule runs once or at intervals. -/
theorem ActiveSchedule.once_or_interval (h : ActiveSchedule zoneInfo s)
    (hcustom : s.frequency = .custom) :
    isOnceCustomSchedule s.customCron = true ∨ IsInterval s := by
  obtain ⟨input, now, tz, hvalid, -⟩ := h.accepted
  obtain ⟨frequency, -, hvalid⟩ := bind_eq_ok.mp hvalid
  obtain ⟨tz', -, hvalid⟩ := bind_eq_ok.mp hvalid
  obtain ⟨window, -, hvalid⟩ := bind_eq_ok.mp hvalid
  obtain ⟨stored, hinterval, hvalid⟩ := bind_eq_ok.mp hvalid
  have hstored := pure_eq_ok.mp hvalid
  simp only [Prod.mk.injEq] at hstored
  obtain ⟨hfrequency, -, rfl, -⟩ := hstored
  obtain rfl := hfrequency.trans hcustom
  cases hdays : input.intervalDays with
  | none =>
      rw [hdays, storedInterval] at hinterval
      rw [← pure_eq_ok.mp hinterval]
      exact .inl (by decide +kernel)
  | some days =>
      rw [hdays, storedInterval] at hinterval
      obtain ⟨parsed, hparsed, hinterval⟩ := bind_eq_ok.mp hinterval
      rw [pure_eq_ok.mp hinterval] at hparsed
      exact .inr ⟨hcustom, parsed, hparsed⟩

end Accepted

/-- A schedule that is created ACTIVE has gone through the checks. -/
theorem createSchedule_activeSchedule {env : StatementEnv} {now : Instant}
    {input : ScheduleInput} (h : createSchedule zoneInfo env now input = .ok s)
    (hactive : s.status = .active) (hdates : s.validTo + maxCustomIntervalDays ≤ dateMax) :
    ActiveSchedule zoneInfo s := by
  replace h := ok_of_check h
  obtain ⟨frequency, hfrequency, h⟩ := bind_eq_ok.mp h
  obtain ⟨tz, hzone, h⟩ := bind_eq_ok.mp h
  obtain ⟨window, hwindow, h⟩ := bind_eq_ok.mp h
  obtain ⟨stored, hstored, h⟩ := bind_eq_ok.mp h
  obtain ⟨nextRun, -, h⟩ := bind_eq_ok.mp h
  obtain rfl := pure_eq_ok.mp h
  refine ⟨hactive, ?_, hdates, input, now, tz, ?_, rfl⟩
  · rintro (hnone : nextRun = none)
    simp [hnone, scheduleStatus] at hactive
  · refine bind_eq_ok.mpr ⟨frequency, hfrequency, bind_eq_ok.mpr ⟨tz, hzone, ?_⟩⟩
    exact bind_eq_ok.mpr ⟨window, hwindow, bind_eq_ok.mpr ⟨stored, hstored, rfl⟩⟩

/-! ### The next run -/

section NextRun

variable {tz : Zone} {validFrom validTo : Day} {t u : Instant}

theorem lt_of_nextIntervalRunFrom {intervalDays : ℤ} {rounds : ℕ} {anchor : Day}
    (h : nextIntervalRunFrom intervalDays tz validTo t rounds anchor = some u) : t < u := by
  induction rounds generalizing anchor with
  | zero => simp [nextIntervalRunFrom] at h
  | succ rounds ih =>
      rw [nextIntervalRunFrom] at h
      split_ifs at h with hend hlater
      · exact Option.some.inj h ▸ hlater
      · exact ih h

theorem lt_of_nextOnceRunUtc (h : nextOnceRunUtc validTo tz t = some u) : t < u := by
  rw [nextOnceRunUtc] at h
  split_ifs at h with hend hlater
  · exact Option.some.inj h ▸ hlater
  · obtain rfl := Option.some.inj h
    exact lt_add_of_pos_right t (by decide)

/-- The run day of a preset frequency can be computed. -/
theorem nextPresetLocalRunDay_isOk {frequency : StatementScheduleFrequency}
    (hpreset : frequency ≠ .custom) (day : Day) :
    ∃ runDay, nextPresetLocalRunDay frequency day = .ok runDay := by
  cases frequency with
  | monthlyFirst => exact ⟨_, rfl⟩
  | quarterly => exact ⟨_, rfl⟩
  | custom => exact absurd rfl hpreset

theorem nextPresetRunFrom_spec {frequency : StatementScheduleFrequency}
    (hpreset : frequency ≠ .custom) (rounds : ℕ) (runDay : Day) :
    ∃ following, nextPresetRunFrom frequency tz validTo t rounds runDay = .ok following ∧
      ∀ u, following = some u → t < u := by
  induction rounds generalizing runDay with
  | zero => exact ⟨none, rfl, fun u hu => absurd hu (by simp)⟩
  | succ rounds ih =>
      rw [nextPresetRunFrom]
      split_ifs with hend hlater
      · exact ⟨none, rfl, fun u hu => absurd hu (by simp)⟩
      · exact ⟨_, rfl, fun u hu => Option.some.inj hu ▸ hlater⟩
      · obtain ⟨next, hnext⟩ := nextPresetLocalRunDay_isOk hpreset (runDay + 1)
        obtain ⟨following, hfollowing, hlt⟩ := ih next
        exact ⟨following, bind_eq_ok.mpr ⟨next, hnext, hfollowing⟩, hlt⟩

/-- The next run of an active schedule can be computed, and it is later. -/
theorem ActiveSchedule.nextRun {zoneInfo : String → Option Zone}
    {s : AccountStatementSchedule} (h : ActiveSchedule zoneInfo s) (tz : Zone) (t : Instant) :
    ∃ following, nextRunAtUtc s.frequency tz s.validFrom s.validTo s.customCron t
      = .ok following ∧ ∀ u, following = some u → t < u := by
  rw [nextRunAtUtc]
  split_ifs with hover hcustom honce
  · exact ⟨none, rfl, fun u hu => absurd hu (by simp)⟩
  · exact ⟨_, rfl, fun u hu => lt_of_nextOnceRunUtc hu⟩
  · rcases h.once_or_interval hcustom with honce' | ⟨-, days, hdays⟩
    · exact absurd honce' honce
    · exact ⟨_, bind_eq_ok.mpr ⟨days, hdays, rfl⟩, fun u hu => lt_of_nextIntervalRunFrom hu⟩
  · obtain ⟨runDay, hrunDay⟩ :=
      nextPresetLocalRunDay_isOk hcustom (max s.validFrom (tz.localDate t))
    obtain ⟨following, hfollowing, hlt⟩ :=
      nextPresetRunFrom_spec hcustom (s.validTo - runDay + 1).toNat runDay
    exact ⟨following, bind_eq_ok.mpr ⟨runDay, hrunDay, hfollowing⟩, hlt⟩

end NextRun

/-! ### Periods -/

section Periods

variable {zoneInfo : String → Option Zone} {env : StatementEnv} {s : AccountStatementSchedule}
  {tz : Zone} {now : Instant} {day : Day}

theorem firstOfMonth_eq (h : isMonthlyRunDay day = true) : firstOfMonth day = day := by
  have hfirst : Calendar.dayOfMonth day = 1 := of_decide_eq_true h
  exact (sub_eq_zero.mp (add_eq_right.mp hfirst)).symm

theorem quarterStart_eq (h : isQuarterlyRunDay day = true) : quarterStart day = day := by
  simp only [isQuarterlyRunDay, Bool.and_eq_true, decide_eq_true_eq] at h
  have hmonth : Calendar.monthOf day / 3 * 3 = Calendar.monthOf day := by omega
  rw [quarterStart, hmonth]
  exact firstOfMonth_eq (by simpa [isMonthlyRunDay] using h.1)

/-- A period of a month or of a quarter is never too long. -/
theorem validatePeriod_before {first : Day} (hfirst : first ≤ day - 1)
    (hlong : day - 1 ≤ first + 92) : validatePeriod ⟨first, day - 1⟩ day = .ok () := by
  refine validatePeriod_eq_ok.mpr ⟨hfirst, Int.sub_le_self _ zero_le_one, ?_⟩
  have hmax : maxPeriodDays = 366 := rfl
  rw [hmax]
  exact le_trans (add_le_add_left (sub_le_iff_le_add'.mpr hlong) 1) (by norm_num)

/-- A run that has a period to state finds it, and it is a valid one. -/
theorem ActiveSchedule.periodOfRun_of_hasPeriod (h : ActiveSchedule zoneInfo s)
    (hday : HasPeriod s tz day) :
    periodOfRun tz s day = .ok (s.statedPeriod tz day) ∧
      validatePeriod (s.statedPeriod tz day) day = .ok () := by
  rw [HasPeriod] at hday
  rw [AccountStatementSchedule.statedPeriod]
  split at hday
  · rename_i hmonthly
    refine ⟨?_, validatePeriod_before (Calendar.monthStart_monthOf_bounds (day - 1)).1
      (le_trans (Calendar.monthStart_monthOf_bounds (day - 1)).2 ?_)⟩
    · rw [periodOfRun, hmonthly, if_neg (by simp), statementPeriodForRun]
      refine bind_eq_ok.mpr ⟨⟨⟩, raiseIf_eq_ok.mpr (by simp [hday]), ?_⟩
      dsimp only
      rw [firstOfMonth_eq hday]
      rfl
    · exact add_le_add_right (by norm_num) _
  · rename_i hquarterly
    refine ⟨?_, validatePeriod_before (Calendar.quarter_bounds (day - 1)).1
      (Calendar.quarter_bounds (day - 1)).2⟩
    rw [periodOfRun, hquarterly, if_neg (by simp), statementPeriodForRun]
    refine bind_eq_ok.mpr ⟨⟨⟩, raiseIf_eq_ok.mpr (by simp [hday]), ?_⟩
    dsimp only
    rw [quarterStart_eq hday]
    rfl
  · rename_i hcustom
    rw [periodOfRun, if_pos hcustom, statementPeriodForCustomRun]
    split_ifs at hday ⊢ with honce
    · refine ⟨rfl, validatePeriod_eq_ok.mpr ⟨h.window, hday.1, ?_⟩⟩
      exact Int.add_one_le_iff.mpr hday.2
    · have hfirst : s.firstDay tz ≤ day - 1 := Int.le_sub_one_iff.mpr hday.1
      refine ⟨?_, validatePeriod_eq_ok.mpr ⟨hfirst, ?_, ?_⟩⟩
      · exact bind_eq_ok.mpr ⟨⟨⟩, raiseIf_eq_ok.mpr (not_lt.mpr hfirst), rfl⟩
      · exact Int.sub_le_self _ zero_le_one
      · exact le_trans (le_of_eq (by ring)) hday.2

/-- The period that a run finds is the one it states, and a valid one is a period to state. -/
theorem hasPeriod_of_periodOfRun {p : StatementPeriod} (h : periodOfRun tz s day = .ok p) :
    p = s.statedPeriod tz day ∧ (validatePeriod p day = .ok () → HasPeriod s tz day) := by
  rw [HasPeriod, AccountStatementSchedule.statedPeriod]
  rw [periodOfRun] at h
  split
  · rename_i hmonthly
    rw [hmonthly, if_neg (by simp), statementPeriodForRun] at h
    obtain ⟨⟨⟩, hday, h⟩ := bind_eq_ok.mp h
    have hday : isMonthlyRunDay day = true := by simpa using raiseIf_eq_ok.mp hday
    obtain rfl := pure_eq_ok.mp h
    rw [firstOfMonth_eq hday]
    exact ⟨rfl, fun _ => hday⟩
  · rename_i hquarterly
    rw [hquarterly, if_neg (by simp), statementPeriodForRun] at h
    obtain ⟨⟨⟩, hday, h⟩ := bind_eq_ok.mp h
    have hday : isQuarterlyRunDay day = true := by simpa using raiseIf_eq_ok.mp hday
    obtain rfl := pure_eq_ok.mp h
    rw [quarterStart_eq hday]
    exact ⟨rfl, fun _ => hday⟩
  · rename_i hcustom
    rw [if_pos hcustom, statementPeriodForCustomRun] at h
    split_ifs at h ⊢ with honce
    · obtain rfl := pure_eq_ok.mp h
      refine ⟨rfl, fun hvalid => ?_⟩
      obtain ⟨-, hpast, hspan⟩ := validatePeriod_eq_ok.mp hvalid
      exact ⟨hpast, Int.add_one_le_iff.mp hspan⟩
    · obtain ⟨hfirst, h⟩ := raiseIf_bind_eq_ok.mp h
      obtain rfl := pure_eq_ok.mp h
      refine ⟨rfl, fun hvalid => ?_⟩
      obtain ⟨-, -, hspan⟩ := validatePeriod_eq_ok.mp hvalid
      refine ⟨Int.le_sub_one_iff.mp (not_lt.mp hfirst), ?_⟩
      exact le_trans (le_of_eq (by dsimp only [AccountStatementSchedule.firstDay]; ring)) hspan

/-! ### A run -/

/-- A schedule that can run does run, and then it has ended or runs again later. -/
theorem executeScheduleRun_of_runnable (h : ActiveSchedule zoneInfo s)
    (howner : env.organizationExists s.organizationId = true)
    (hrun : Runnable zoneInfo env now s) :
    ∃ s' period, executeScheduleRun zoneInfo env s now = .ok (s', period) ∧ Settled now s' := by
  obtain ⟨tz, hzone, hrun⟩ := hrun
  by_cases hout : outsideWindow s (tz.localDate now) = true
  · refine ⟨{ s with status := .completed, nextRunAt := none, version := s.version + 1 },
      none, bind_eq_ok.mpr ⟨tz, hzone, ?_⟩, .inl rfl⟩
    dsimp only
    rw [if_pos hout]
    rfl
  · obtain ⟨hperiod, hpast, hsingle⟩ := hrun.resolve_left hout
    obtain ⟨hfound, hvalid⟩ := h.periodOfRun_of_hasPeriod hperiod
    obtain ⟨following, hfollowing, hlater⟩ := h.nextRun tz now
    obtain ⟨hordered, -, hspan⟩ := validatePeriod_eq_ok.mp hvalid
    set p := s.statedPeriod tz (tz.localDate now)
    have hcreate : createStatement env s p = .ok p := by
      refine bind_eq_ok.mpr ⟨⟨⟩, validatePeriod_eq_ok.mpr ⟨hordered, hpast, hspan⟩, ?_⟩
      refine bind_eq_ok.mpr ⟨⟨⟩, raiseIf_eq_ok.mpr (not_lt.mpr hsingle), ?_⟩
      exact bind_eq_ok.mpr ⟨⟨⟩, raiseIf_eq_ok.mpr fun hnone => by simp [howner] at hnone, rfl⟩
    refine ⟨{ s with
      lastRunAt := some now
      nextRunAt := following
      status := scheduleStatus following
      version := s.version + 1 }, some p, bind_eq_ok.mpr ⟨tz, hzone, ?_⟩, ?_⟩
    · dsimp only
      rw [if_neg hout]
      refine bind_eq_ok.mpr ⟨p, hfound, bind_eq_ok.mpr ⟨⟨⟩, hvalid, ?_⟩⟩
      exact bind_eq_ok.mpr ⟨p, hcreate, bind_eq_ok.mpr ⟨following, hfollowing, rfl⟩⟩
    · cases following with
      | none => exact .inl rfl
      | some u => exact .inr ⟨u, rfl, hlater u rfl⟩

/-- A run that returns was one that could run. -/
theorem runnable_of_executeScheduleRun {result : AccountStatementSchedule × Option StatementPeriod}
    (h : executeScheduleRun zoneInfo env s now = .ok result) : Runnable zoneInfo env now s := by
  obtain ⟨tz, hzone, h⟩ := bind_eq_ok.mp h
  refine ⟨tz, hzone, ?_⟩
  dsimp only at h
  split at h
  · rename_i hout
    exact .inl hout
  · obtain ⟨p, hfound, h⟩ := bind_eq_ok.mp h
    obtain ⟨⟨⟩, hvalid, h⟩ := bind_eq_ok.mp h
    obtain ⟨p', hcreate, -⟩ := bind_eq_ok.mp h
    obtain ⟨⟨⟩, hserver, hcreate⟩ := bind_eq_ok.mp hcreate
    obtain ⟨⟨⟩, hsingle, -⟩ := bind_eq_ok.mp hcreate
    obtain ⟨rfl, hperiod⟩ := hasPeriod_of_periodOfRun hfound
    exact .inr ⟨hperiod hvalid, (validatePeriod_eq_ok.mp hserver).2.1,
      not_lt.mp (raiseIf_eq_ok.mp hsingle)⟩

end Periods

/-! ### The pass -/

section Passes

variable {zoneInfo : String → Option Zone} {env : StatementEnv} {now : Instant}
  {t : Table ScheduleRow.id} {row : ScheduleRow} {p p' : Pass}

theorem listDue_eq_none (h : listDue t now = none) : ∀ row ∈ t.rows, ¬ row.schedule.isDue now := by
  intro row hrow hdue
  have hfilter : row ∈ t.rows.filter fun row => row.schedule.isDue now :=
    List.mem_filter.mpr ⟨hrow, hdue⟩
  have hmem := (List.mem_insertionSort (RunsBefore now)).mpr hfilter
  rw [List.head?_eq_none_iff.mp h] at hmem
  exact absurd hmem List.not_mem_nil

theorem listDue_eq_some (h : listDue t now = some row) :
    row ∈ t.rows ∧ row.schedule.isDue now = true ∧
      ∀ r ∈ t.rows, r.schedule.isDue now = true →
        row.schedule.nextRunAt.getD now ≤ r.schedule.nextRunAt.getD now := by
  obtain ⟨rest, hsorted⟩ := List.head?_eq_some_iff.mp h
  have hmem := List.mem_filter.mp ((List.mem_insertionSort (RunsBefore now)).mp
    (hsorted ▸ List.mem_cons_self))
  refine ⟨hmem.1, hmem.2, fun r hr hdue => ?_⟩
  have hpairs := List.pairwise_insertionSort (RunsBefore now)
    (t.rows.filter fun row => row.schedule.isDue now)
  have hfilter : r ∈ t.rows.filter fun row => row.schedule.isDue now :=
    List.mem_filter.mpr ⟨hr, hdue⟩
  have hr' := (List.mem_insertionSort (RunsBefore now)).mpr hfilter
  rw [hsorted] at hpairs hr'
  rcases List.mem_cons.mp hr' with rfl | hr'
  · exact le_rfl
  · exact List.rel_of_pairwise_cons hpairs hr'

/-- A schedule that is settled is not due. -/
theorem Settled.not_isDue {s : AccountStatementSchedule} (h : Settled now s) :
    s.isDue now = false := by
  rcases h with h | ⟨u, hu, hlater⟩
  · simp [AccountStatementSchedule.isDue, h]
  · simp [AccountStatementSchedule.isDue, hu, hlater]

/-- An active schedule that is not due runs later. -/
theorem ActiveSchedule.settled_of_not_isDue {s : AccountStatementSchedule}
    (h : ActiveSchedule zoneInfo s) (hdue : ¬ s.isDue now = true) : Settled now s := by
  obtain ⟨u, hu⟩ := Option.ne_none_iff_exists'.mp h.planned
  refine .inr ⟨u, hu, ?_⟩
  simpa [AccountStatementSchedule.isDue, h.active, hu] using hdue

/-- The row that a round leaves in place of the one it has run. -/
def rewritten (row : ScheduleRow) (s' : AccountStatementSchedule) (r : ScheduleRow) :
    ScheduleRow :=
  if r.id = row.id then { r with schedule := s' } else r

/-- Every statement that was created was the first with its signature. -/
def OnlyNew (env : StatementEnv) (created : List ContentSignature) : Prop :=
  ∀ signature ∈ created, env.activeStatements signature = 0

theorem onlyNew_nil : OnlyNew env [] := fun _ hmem => absurd hmem List.not_mem_nil

/-- Whether a schedule can run does not depend on the statements that the pass creates. -/
theorem runnable_during {created : List ContentSignature} {s : AccountStatementSchedule}
    (hnew : OnlyNew env created) :
    Runnable zoneInfo (env.during created) now s ↔ Runnable zoneInfo env now s := by
  have hsingle : ∀ signature, (env.during created).activeStatements signature ≤ 1 ↔
      env.activeStatements signature ≤ 1 := by
    intro signature
    rw [StatementEnv.during]
    dsimp only
    split_ifs with hmem
    · rw [hnew signature hmem]
      exact iff_of_true le_rfl zero_le_one
    · exact Iff.rfl
  simp only [Runnable, hsingle]
  exact Iff.rfl

/-- The delivery that a round hands to the queue. -/
def offered (row : ScheduleRow) (period : Option StatementPeriod) : Option DeliveryJob :=
  (period.map (contentSignature row.schedule)).map (DeliveryJob.mk row.id)

/-- What a round that returns has done. -/
theorem executeRow_eq_ok (h : executeRow zoneInfo env now p row = .ok p') :
    ∃ s' period,
      executeScheduleRun zoneInfo (env.during p.created) row.schedule now = .ok (s', period) ∧
      p'.schedules.rows = p.schedules.rows.map (rewritten row s') ∧
      p'.enqueued = p.enqueued ++
        ((offered row period).filter fun job => ¬ env.knowsJob job).toList := by
  obtain ⟨⟨s', period⟩, hrun, h⟩ := bind_eq_ok.mp h
  obtain rfl := pure_eq_ok.mp h
  exact ⟨s', period, hrun, rfl, rfl⟩

/-- A round creates a statement only where there is none. -/
theorem OnlyNew.executeRow (hnew : OnlyNew env p.created)
    (h : executeRow zoneInfo env now p row = .ok p') : OnlyNew env p'.created := by
  obtain ⟨⟨s', period⟩, -, h⟩ := bind_eq_ok.mp h
  obtain rfl := pure_eq_ok.mp h
  intro signature hsignature
  rcases List.mem_append.mp hsignature with hold | hadded
  · exact hnew signature hold
  · obtain ⟨-, hnone⟩ := Option.filter_eq_some_iff.mp (Option.mem_toList.mp hadded)
    have hnone := of_decide_eq_true hnone
    rw [StatementEnv.during] at hnone
    dsimp only at hnone
    split_ifs at hnone with hmem
    exact hnone

/-- The number of schedules that are due. -/
def dueCount (t : Table ScheduleRow.id) (now : Instant) : ℤ :=
  t.sumWhere (fun row => row.schedule.isDue now = true) fun _ => 1

theorem dueCount_nonneg (t : Table ScheduleRow.id) (now : Instant) : 0 ≤ dueCount t now :=
  Table.sumWhere_nonneg fun _ _ _ => zero_le_one

/-- A schedule that was due and is settled is one fewer. -/
theorem dueCount_modify {s' : AccountStatementSchedule} (hrow : row ∈ t.rows)
    (hdue : row.schedule.isDue now = true) (hsettled : Settled now s') :
    dueCount (t.modify row.id (fun r => { r with schedule := s' }) fun _ => rfl) now
      = dueCount t now - 1 := by
  rw [dueCount, Table.sumWhere_modify (Table.find?_eq_some_iff.mpr ⟨hrow, rfl⟩), if_pos hdue,
    if_neg (by simp [hsettled.not_isDue]), dueCount, add_zero]

/-- What a pass finds of a schedule: it is settled, or active. -/
def Known (zoneInfo : String → Option Zone) (env : StatementEnv) (now : Instant)
    (s : AccountStatementSchedule) : Prop :=
  Settled now s ∨
    ActiveSchedule zoneInfo s ∧ env.organizationExists s.organizationId = true

/-- A schedule that is due is active. -/
theorem Known.of_isDue {s : AccountStatementSchedule} (h : Known zoneInfo env now s)
    (hdue : s.isDue now = true) :
    ActiveSchedule zoneInfo s ∧ env.organizationExists s.organizationId = true :=
  h.resolve_left fun hsettled => by simp [hsettled.not_isDue] at hdue

/-- A round settles its schedule and leaves the others. -/
theorem executeRow_of_runnable (hrow : row ∈ p.schedules.rows)
    (hdue : row.schedule.isDue now = true) (hknown : Known zoneInfo env now row.schedule)
    (hrun : Runnable zoneInfo env now row.schedule) (hnew : OnlyNew env p.created) :
    ∃ s' p', executeRow zoneInfo env now p row = .ok p' ∧ Settled now s' ∧
      p'.schedules.rows = p.schedules.rows.map (rewritten row s') ∧
      dueCount p'.schedules now = dueCount p.schedules now - 1 := by
  obtain ⟨hactive, howner⟩ := hknown.of_isDue hdue
  obtain ⟨s', period, hok, hsettled⟩ :=
    executeScheduleRun_of_runnable hactive
      (show (env.during p.created).organizationExists _ = true from howner)
      ((runnable_during hnew).mpr hrun)
  exact ⟨s', _, bind_eq_ok.mpr ⟨_, hok, rfl⟩, hsettled, rfl, dueCount_modify hrow hdue hsettled⟩

theorem mem_rewritten {rows : List ScheduleRow} {s' : AccountStatementSchedule}
    {r : ScheduleRow} (hr : r ∈ rows.map (rewritten row s')) :
    r.schedule = s' ∨ r ∈ rows := by
  obtain ⟨r₀, hr₀, rfl⟩ := List.mem_map.mp hr
  by_cases hid : r₀.id = row.id
  · exact .inl (by rw [rewritten, if_pos hid])
  · exact .inr (by rwa [rewritten, if_neg hid])

/-- A row is still there after a round on another schedule. -/
theorem mem_map_rewritten {rows : List ScheduleRow} {s' : AccountStatementSchedule}
    {r : ScheduleRow} (hr : r ∈ rows) (hne : r.id ≠ row.id) :
    r ∈ rows.map (rewritten row s') :=
  List.mem_map.mpr ⟨r, hr, by rw [rewritten, if_neg hne]⟩

/-- A pass over schedules that can all run gets through, with a round for each that is due. -/
theorem processFrom_returns {rounds : ℕ}
    (hknown : ∀ row ∈ p.schedules.rows, Known zoneInfo env now row.schedule)
    (hrun : ∀ row ∈ p.schedules.rows, row.schedule.isDue now = true →
      Runnable zoneInfo env now row.schedule)
    (hnew : OnlyNew env p.created) (hrounds : dueCount p.schedules now < rounds) :
    ∃ p', processFrom zoneInfo env now rounds p = (p', .returned) ∧
      ∀ row ∈ p'.schedules.rows, Settled now row.schedule := by
  induction rounds generalizing p with
  | zero => exact absurd (dueCount_nonneg p.schedules now) (not_le.mpr (by exact_mod_cast hrounds))
  | succ rounds ih =>
      cases hnext : listDue p.schedules now with
      | none =>
          refine ⟨p, by simp only [processFrom, hnext], fun row hrow => ?_⟩
          have hdue := listDue_eq_none hnext row hrow
          rcases hknown row hrow with hsettled | ⟨hactive, -⟩
          · exact hsettled
          · exact hactive.settled_of_not_isDue hdue
      | some row =>
          obtain ⟨hrow, hdue, -⟩ := listDue_eq_some hnext
          obtain ⟨s', p₁, hok, hsettled, hrows, hcount⟩ :=
            executeRow_of_runnable (p := p) hrow hdue (hknown row hrow) (hrun row hrow hdue) hnew
          simp only [processFrom, hnext, hok]
          refine ih (fun r hr => ?_) (fun r hr hdue' => ?_) (hnew.executeRow hok) ?_
          · rcases mem_rewritten (hrows ▸ hr) with hs' | hr
            · exact .inl (hs' ▸ hsettled)
            · exact hknown r hr
          · rcases mem_rewritten (hrows ▸ hr) with hs' | hr
            · rw [hs', hsettled.not_isDue] at hdue'
              exact absurd hdue' (by simp)
            · exact hrun r hr hdue'
          · rw [hcount]
            push_cast at hrounds
            omega

/-- In a pass that returns, every schedule that was due could run. -/
theorem runnable_of_processFrom {rounds : ℕ} (hnew : OnlyNew env p.created)
    (h : processFrom zoneInfo env now rounds p = (p', .returned)) :
    ∀ row ∈ p.schedules.rows, row.schedule.isDue now = true →
      Runnable zoneInfo env now row.schedule := by
  induction rounds generalizing p with
  | zero => simp [processFrom] at h
  | succ rounds ih =>
      intro r hr hdue
      cases hnext : listDue p.schedules now with
      | none => exact absurd hdue (listDue_eq_none hnext r hr)
      | some row =>
          simp only [processFrom, hnext] at h
          split at h
          · rename_i p₁ hok
            obtain ⟨s', period, hrun, hrows, -⟩ := executeRow_eq_ok hok
            by_cases hid : r.id = row.id
            · obtain rfl := p.schedules.eq_of_key hr (listDue_eq_some hnext).1 hid
              exact (runnable_during hnew).mp (runnable_of_executeScheduleRun hrun)
            · exact ih (hnew.executeRow hok) h r (hrows ▸ mem_map_rewritten hr hid) hdue
          · simp at h

end Passes

/-- **A pass over any set of active schedules returns, and leaves each of them ended or with
a run later than now, exactly if every schedule that is due can run: it has left its window,
or has a period to state on this day.** -/
theorem pass_completes_iff (zoneInfo : String → Option Zone) (env : StatementEnv)
    (now : Instant) (schedules : Table ScheduleRow.id)
    (hactive : ∀ row ∈ schedules.rows, ActiveSchedule zoneInfo row.schedule)
    (howner : ∀ row ∈ schedules.rows,
      env.organizationExists row.schedule.organizationId = true) :
    (∃ rounds p, processFrom zoneInfo env now rounds ⟨schedules, [], []⟩ = (p, .returned) ∧
      ∀ row ∈ p.schedules.rows, Settled now row.schedule) ↔
    ∀ row ∈ schedules.rows, row.schedule.isDue now = true →
      Runnable zoneInfo env now row.schedule := by
  constructor
  · rintro ⟨rounds, p, hreturned, -⟩
    exact runnable_of_processFrom (p := ⟨schedules, [], []⟩) onlyNew_nil hreturned
  · intro hrun
    have hrounds : dueCount schedules now < ((dueCount schedules now).toNat + 1 : ℕ) := by
      have := dueCount_nonneg schedules now
      push_cast
      omega
    obtain ⟨p, hreturned, hsettled⟩ := processFrom_returns (p := ⟨schedules, [], []⟩)
      (fun row hrow => .inr ⟨hactive row hrow, howner row hrow⟩) hrun onlyNew_nil hrounds
    exact ⟨_, p, hreturned, hsettled⟩

/-- The weekly schedule, from 1 March 2024 on. -/
def weeklyFromMarch : ScheduleInput :=
  { weekly with validFrom := some 738946, validTo := some 739045 }

/-- A statement on the first of every month, from 1 March 2024 on. -/
def monthlyFromMarch : ScheduleInput :=
  { weekly with
    frequency := some .monthlyFirst, validFrom := some 738946, validTo := none
    intervalDays := none }

/-- The server on 1 March 2024. -/
def marchEnv : StatementEnv :=
  { quietEnv with today := 738946 }

/-- The weekly schedule, as it is created at midnight before its first day. -/
def weeklyInMarch : AccountStatementSchedule :=
  { weeklySchedule with
    validFrom := 738946, validTo := 739045, nextRunAt := some 63844956000000000 }

/-- The monthly schedule, as it is created at midnight before its first day. -/
def monthlyInMarch : AccountStatementSchedule :=
  { weeklyInMarch with
    frequency := .monthlyFirst, validTo := defaultScheduleValidTo, customCron := none }

/-- The two schedules, the weekly one first. -/
def marchSchedules : Table ScheduleRow.id :=
  (Table.singleton ⟨1, weeklyInMarch⟩).insert ⟨2, monthlyInMarch⟩

theorem createSchedule_inMarch :
    createSchedule (fun _ => some utc) marchEnv 63844934400000000 weeklyFromMarch
        = .ok weeklyInMarch ∧
      createSchedule (fun _ => some utc) marchEnv 63844934400000000 monthlyFromMarch
        = .ok monthlyInMarch := by
  decide +kernel

/-- On the first of its days a weekly schedule has no period to state. -/
theorem weeklyInMarch_not_runnable :
    ¬ Runnable (fun _ => some utc) marchEnv 63844956000000000 weeklyInMarch := by
  rintro ⟨tz, hzone, hrun⟩
  have htz : resolveTimezone (fun _ => some utc) weeklyInMarch.timezone = .ok utc := rfl
  obtain rfl : utc = tz := Except.ok.inj (htz.symm.trans hzone)
  revert hrun
  decide +kernel

/-- A weekly schedule is first due on its first day, and then it raises: the pass does not
return, and the monthly schedule beside it, which could run, is not run. -/
theorem first_interval_day_stops_pass :
    (∀ row ∈ marchSchedules.rows, ActiveSchedule (fun _ => some utc) row.schedule) ∧
    (∀ row ∈ marchSchedules.rows,
      marchEnv.organizationExists row.schedule.organizationId = true) ∧
    Runnable (fun _ => some utc) marchEnv 63844956000000000 monthlyInMarch ∧
    ¬ ∃ rounds p, processFrom (fun _ => some utc) marchEnv 63844956000000000 rounds
        ⟨marchSchedules, [], []⟩ = (p, .returned) ∧
      ∀ row ∈ p.schedules.rows, Settled 63844956000000000 row.schedule := by
  have hrows : marchSchedules.rows = [⟨1, weeklyInMarch⟩, ⟨2, monthlyInMarch⟩] := rfl
  refine ⟨?_, by decide +kernel, ⟨utc, rfl, by decide +kernel⟩, ?_⟩
  · rw [hrows]
    simp only [List.forall_mem_cons, List.not_mem_nil, false_implies, implies_true, and_true]
    exact ⟨createSchedule_activeSchedule createSchedule_inMarch.1 rfl (by decide +kernel),
      createSchedule_activeSchedule createSchedule_inMarch.2 rfl (by decide +kernel)⟩
  · rintro ⟨rounds, p, hreturned, -⟩
    exact weeklyInMarch_not_runnable
      (runnable_of_processFrom onlyNew_nil hreturned ⟨1, weeklyInMarch⟩ (by simp [hrows])
        (by decide +kernel))

/-- The monthly schedule alone gets through. -/
theorem monthly_pass_completes :
    ∃ rounds p, processFrom (fun _ => some utc) marchEnv 63844956000000000 rounds
        ⟨Table.singleton ⟨2, monthlyInMarch⟩, [], []⟩ = (p, .returned) ∧
      ∀ row ∈ p.schedules.rows, Settled 63844956000000000 row.schedule := by
  refine (pass_completes_iff (fun _ => some utc) marchEnv 63844956000000000
    (Table.singleton ⟨2, monthlyInMarch⟩) (fun row hrow => ?_) (fun row hrow => ?_)).mpr
    fun row hrow _ => ?_
  all_goals obtain rfl := List.mem_singleton.mp hrow
  · exact createSchedule_activeSchedule createSchedule_inMarch.2 rfl (by decide +kernel)
  · rfl
  · exact ⟨utc, rfl, by decide +kernel⟩

end SwCouriers
