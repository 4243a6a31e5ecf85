import SwCouriers.Common
import SwCouriers.Lib.Calendar

/-!
# Recurring Statements

`app/modules/account_statements/scheduling.py`, and the part of
`app/modules/account_statements/service.py` that creates schedules and runs them: when a
schedule fires next, which period it then covers, and what a run stores.

Instants are counted in microseconds. A time zone is known by the local date of an instant
and by the instant of the run hour of a local date. Days have no end here: Python's dates end
with the year 9999 (`dateMax`), and what is proved about schedules asks for a window that ends
early enough for every date that is formed.

The recipient of the statements and the job that draws them are left out. Of the job that
sends a statement it is known whether the queue takes it.
-/

namespace SwCouriers

open Checked

/-- `timedelta(seconds=1)`. -/
def oneSecond : ℤ := 1000000

/-- A `ZoneInfo`, by the two conversions that are made with it. -/
structure Zone where
  /-- `instant.astimezone(tz).date()`. -/
  localDate : Instant → Day
  /-- `_local_run_dt`: six o'clock in the morning of a local day. -/
  localRunDt : Day → Instant

/-- `date.max`: 31 December 9999. -/
def dateMax : Day := Calendar.monthStart (12 * 10000) - 1

/-- `StatementScheduleFrequency`. -/
inductive StatementScheduleFrequency where
  | monthlyFirst | quarterly | custom
  deriving DecidableEq, Repr

/-- `StatementScheduleStatus`. -/
inductive StatementScheduleStatus where
  | active | paused | completed
  deriving DecidableEq, Repr

/-- The first and the last day of a statement. -/
structure StatementPeriod where
  periodStart : Day
  periodEnd : Day
  deriving DecidableEq, Repr

/-- `AccountStatementSchedule`. -/
structure AccountStatementSchedule where
  organizationId : Id
  frequency : StatementScheduleFrequency
  validFrom : Day
  validTo : Day
  timezone : String
  customCron : Option String
  includeLineItemDetail : Bool
  includeCreditNotes : Bool
  includePaymentHistory : Bool
  status : StatementScheduleStatus
  nextRunAt : Option Instant
  lastRunAt : Option Instant
  version : ℕ
  deriving DecidableEq, Repr

/-! ### Inputs -/

/-- `MIN_CUSTOM_INTERVAL_DAYS`. -/
def minCustomIntervalDays : ℤ := 7

/-- `MAX_CUSTOM_INTERVAL_DAYS`. -/
def maxCustomIntervalDays : ℤ := 366

/-- `MAX_PERIOD_DAYS`. -/
def maxPeriodDays : ℤ := 366

/-- `CUSTOM_SCHEDULE_ONCE`. -/
def customScheduleOnce : String := "once"

/-- `DEFAULT_SCHEDULE_VALID_TO`: 31 December 2099. -/
def defaultScheduleValidTo : Day := Calendar.monthStart (12 * 2100) - 1

/-- `resolve_timezone`. `zoneInfo` is the installed time zone data. -/
def resolveTimezone (zoneInfo : String → Option Zone) (name : String) :
    Except ServiceError Zone :=
  let candidate := if strip name = "" then "Europe/London" else strip name
  orRaise (zoneInfo candidate) (invalid ("Unknown timezone: " ++ candidate))

/-- `normalize_frequency`. A text that names no frequency is `none`. -/
def normalizeFrequency (frequency : Option StatementScheduleFrequency) :
    Except ServiceError StatementScheduleFrequency :=
  orRaise frequency (invalid "frequency must be one of: MONTHLY_FIRST, QUARTERLY, CUSTOM")

/-- `is_once_custom_schedule`. -/
def isOnceCustomSchedule (stored : Option String) : Bool :=
  (strip (stored.getD "")).toLower = customScheduleOnce

/-- `int(raw)`, on the texts that `str` of a whole number writes. -/
def parseWholeNumber (raw : String) : Option ℤ :=
  match raw.toList with
  | '-' :: digits => (parseInt digits).map fun n => -(n : ℤ)
  | digits => (parseInt digits).map fun n => (n : ℤ)

/-- `parse_interval_days`. -/
def parseIntervalDays (stored : Option String) : Except ServiceError ℤ := do
  let raw := strip (stored.getD "")
  raiseIf (raw = "") (invalid "interval_days is required when frequency is CUSTOM")
  raiseIf (isOnceCustomSchedule (some raw) = true)
    (invalid "interval_days is not used for one-time CUSTOM schedules")
  let days ← orRaise (parseWholeNumber raw)
    (invalid "interval_days must be a whole number of days")
  raiseIf (days < minCustomIntervalDays ∨ maxCustomIntervalDays < days)
    (invalid "interval_days must be between 7 and 366")
  return days

/-- `format_interval_storage`. -/
def formatIntervalStorage (intervalDays : ℤ) : String := toString intervalDays

/-- `resolve_schedule_window`. -/
def resolveScheduleWindow (frequency : StatementScheduleFrequency)
    (validFrom validTo : Option Day) (todayLocal : Day) : Except ServiceError (Day × Day) := do
  raiseIf (frequency = .custom ∧ (validFrom = none ∨ validTo = none))
    (invalid "valid_from and valid_to are required when frequency is CUSTOM")
  let resolvedFrom := validFrom.getD todayLocal
  let resolvedTo := validTo.getD defaultScheduleValidTo
  raiseIf (resolvedTo < resolvedFrom) (invalid "valid_from must be on or before valid_to")
  return (resolvedFrom, resolvedTo)

/-- The stored interval of `validate_schedule_inputs`. -/
def storedInterval (frequency : StatementScheduleFrequency) (intervalDays : Option ℤ) :
    Except ServiceError (Option String) :=
  match frequency, intervalDays with
  | .custom, none => return some customScheduleOnce
  | .custom, some days => do
      let _ ← parseIntervalDays (some (formatIntervalStorage days))
      return some (formatIntervalStorage days)
  | _, none => return none
  | _, some _ => throw (invalid "interval_days is only allowed when frequency is CUSTOM")

/-- `validate_period`. -/
def validatePeriod (p : StatementPeriod) (today : Day) : Except ServiceError Unit := do
  raiseIf (p.periodEnd < p.periodStart)
    (invalid "period_start must be on or before period_end")
  raiseIf (today < p.periodEnd) (invalid "period_end cannot be in the future")
  raiseIf (maxPeriodDays < p.periodEnd - p.periodStart + 1)
    (invalid "Statement period cannot exceed 366 days")

/-! ### Run days and periods -/

/-- `_first_of_month`. -/
def firstOfMonth (d : Day) : Day := Calendar.monthStart (Calendar.monthOf d)

/-- `_add_months`. -/
def addMonths (d : Day) (months : ℤ) : Day :=
  Calendar.monthStart (Calendar.monthOf d + months)

/-- `_quarter_start`. -/
def quarterStart (d : Day) : Day :=
  Calendar.monthStart (Calendar.monthOf d / 3 * 3)

/-- `_next_quarter_start`. -/
def nextQuarterStart (d : Day) : Day :=
  if d = quarterStart d then addMonths (quarterStart d) 3 else quarterStart d

/-- `_is_monthly_run_day`. -/
def isMonthlyRunDay (d : Day) : Bool := Calendar.dayOfMonth d = 1

/-- `_is_quarterly_run_day`. -/
def isQuarterlyRunDay (d : Day) : Bool :=
  Calendar.dayOfMonth d = 1 && Calendar.monthOf d % 3 = 0

/-- `statement_period_for_run`. -/
def statementPeriodForRun (frequency : StatementScheduleFrequency) (runLocalDate : Day) :
    Except ServiceError StatementPeriod :=
  match frequency with
  | .monthlyFirst => do
      raiseIf (isMonthlyRunDay runLocalDate = false)
        (invalid "MONTHLY_FIRST schedules only run on the 1st of the month")
      let lastPrev := firstOfMonth runLocalDate - 1
      return ⟨firstOfMonth lastPrev, lastPrev⟩
  | .quarterly => do
      raiseIf (isQuarterlyRunDay runLocalDate = false)
        (invalid "QUARTERLY schedules only run on the 1st of Jan, Apr, Jul, or Oct")
      let endDay := quarterStart runLocalDate - 1
      return ⟨quarterStart endDay, endDay⟩
  | .custom => throw (invalid "CUSTOM schedule periods use statement_period_for_custom_run")

/-- The first day of the period of a CUSTOM run. -/
def customPeriodStart (validFrom : Day) (lastRunAt : Option Instant) (tz : Zone) : Day :=
  match lastRunAt with
  | none => validFrom
  | some last => tz.localDate last + 1

/-- `statement_period_for_custom_run`. -/
def statementPeriodForCustomRun (runLocalDate validFrom validTo : Day)
    (lastRunAt : Option Instant) (tz : Zone) (intervalStorage : Option String) :
    Except ServiceError StatementPeriod :=
  if isOnceCustomSchedule intervalStorage then return ⟨validFrom, validTo⟩
  else do
    let periodStart := customPeriodStart validFrom lastRunAt tz
    let periodEnd := runLocalDate - 1
    raiseIf (periodEnd < periodStart)
      (invalid "No statement period to generate for this CUSTOM schedule run")
    return ⟨periodStart, periodEnd⟩

/-- `_next_preset_local_run_day`. -/
def nextPresetLocalRunDay (frequency : StatementScheduleFrequency) (afterLocal : Day) :
    Except ServiceError Day :=
  match frequency with
  | .monthlyFirst =>
      return if firstOfMonth afterLocal < afterLocal then addMonths (firstOfMonth afterLocal) 1
        else firstOfMonth afterLocal
  | .quarterly =>
      return if nextQuarterStart afterLocal < afterLocal
        then addMonths (nextQuarterStart afterLocal) 3 else nextQuarterStart afterLocal
  | .custom => throw (invalid "Unsupported preset frequency")

/-- The loop of `_next_interval_run_utc`, with the number of rounds it may still take. -/
def nextIntervalRunFrom (intervalDays : ℤ) (tz : Zone) (validTo : Day) (afterUtc : Instant) :
    ℕ → Day → Option Instant
  | 0, _ => none
  | rounds + 1, anchor =>
      if validTo < anchor then none
      else if afterUtc < tz.localRunDt anchor then some (tz.localRunDt anchor)
      else nextIntervalRunFrom intervalDays tz validTo afterUtc rounds (anchor + intervalDays)

/-- `_next_interval_run_utc`. Every round moves on by a day or more, so the days of the
window are rounds enough. -/
def nextIntervalRunUtc (intervalDays : ℤ) (tz : Zone) (validFrom validTo : Day)
    (afterUtc : Instant) : Option Instant :=
  nextIntervalRunFrom intervalDays tz validTo afterUtc (validTo - validFrom + 1).toNat
    validFrom

/-- `_next_once_run_utc`. -/
def nextOnceRunUtc (validTo : Day) (tz : Zone) (afterUtc : Instant) : Option Instant :=
  if validTo < tz.localDate afterUtc then none
  else if afterUtc < tz.localRunDt validTo then some (tz.localRunDt validTo)
  else some (afterUtc + oneSecond)

/-- The loop of `next_run_at_utc` over the run days of a preset frequency, with the number of
rounds it may still take. -/
def nextPresetRunFrom (frequency : StatementScheduleFrequency) (tz : Zone) (validTo : Day)
    (refUtc : Instant) : ℕ → Day → Except ServiceError (Option Instant)
  | 0, _ => return none
  | rounds + 1, runDay =>
      if validTo < runDay then return none
      else if refUtc < tz.localRunDt runDay then return some (tz.localRunDt runDay)
      else do
        let next ← nextPresetLocalRunDay frequency (runDay + 1)
        nextPresetRunFrom frequency tz validTo refUtc rounds next

/-- `next_run_at_utc`. -/
def nextRunAtUtc (frequency : StatementScheduleFrequency) (tz : Zone) (validFrom validTo : Day)
    (intervalStorage : Option String) (refUtc : Instant) :
    Except ServiceError (Option Instant) :=
  if validTo < tz.localDate refUtc then return none
  else if frequency = .custom then
    if isOnceCustomSchedule intervalStorage then return nextOnceRunUtc validTo tz refUtc
    else do
      let intervalDays ← parseIntervalDays intervalStorage
      return nextIntervalRunUtc intervalDays tz validFrom validTo refUtc
  else do
    let startLocal := max validFrom (tz.localDate refUtc)
    let runDay ← nextPresetLocalRunDay frequency startLocal
    nextPresetRunFrom frequency tz validTo refUtc (validTo - runDay + 1).toNat runDay

/-- `initial_next_run_at_utc`. -/
def initialNextRunAtUtc (frequency : StatementScheduleFrequency) (tz : Zone)
    (validFrom validTo : Day) (intervalStorage : Option String) (nowUtc : Instant) :
    Except ServiceError (Option Instant) :=
  nextRunAtUtc frequency tz validFrom validTo intervalStorage (nowUtc - oneSecond)

/-! ### The service -/

/-- What a client sends to create a schedule. -/
structure ScheduleInput where
  organizationId : Id
  frequency : Option StatementScheduleFrequency
  validFrom : Option Day
  validTo : Option Day
  timezone : String
  includeLineItemDetail : Bool
  includeCreditNotes : Bool
  includePaymentHistory : Bool
  intervalDays : Option ℤ

/-- `compute_content_signature`: what the digest is taken of. -/
structure ContentSignature where
  organizationId : Id
  period : StatementPeriod
  includeLineItemDetail : Bool
  includeCreditNotes : Bool
  includePaymentHistory : Bool
  deriving DecidableEq, Repr

/-- The signature of a statement that a schedule generates. -/
def contentSignature (s : AccountStatementSchedule) (p : StatementPeriod) :
    ContentSignature where
  organizationId := s.organizationId
  period := p
  includeLineItemDetail := s.includeLineItemDetail
  includeCreditNotes := s.includeCreditNotes
  includePaymentHistory := s.includePaymentHistory

/-- The job `stmtdeliver:{schedule.id}:{statement.id}`. The statement is known by its
signature. -/
structure DeliveryJob where
  scheduleId : Id
  statement : ContentSignature
  deriving DecidableEq, Repr

/-- What the service finds around a schedule at one moment. -/
structure StatementEnv where
  /-- `_org_repo.get_by_id(org_id) is not None`. -/
  organizationExists : Id → Bool
  /-- `date.today()`, on the server. -/
  today : Day
  /-- How many statements with this signature are PENDING, GENERATING or READY and not
  deleted. The index on the signature is not unique: one that FAILED and is drawn again later
  stands beside the one that was created meanwhile. -/
  activeStatements : ContentSignature → ℕ
  /-- The queue still has a job of this id, or its result. It then drops a new one. -/
  knowsJob : DeliveryJob → Bool

/-- A schedule is active as long as a next run is known. -/
def scheduleStatus (nextRunAt : Option Instant) : StatementScheduleStatus :=
  if nextRunAt.isSome then .active else .completed

/-- `create_schedule`. -/
def createSchedule (zoneInfo : String → Option Zone) (env : StatementEnv) (now : Instant)
    (input : ScheduleInput) : Except ServiceError AccountStatementSchedule := do
  raiseIf (env.organizationExists input.organizationId = false)
    (.notFound "organization" (some input.organizationId))
  let frequency ← normalizeFrequency input.frequency
  let tz ← resolveTimezone zoneInfo input.timezone
  let window ← resolveScheduleWindow frequency input.validFrom input.validTo (tz.localDate now)
  let intervalStorage ← storedInterval frequency input.intervalDays
  let nextRun ← initialNextRunAtUtc frequency tz window.1 window.2 intervalStorage now
  return {
    organizationId := input.organizationId
    frequency := frequency
    validFrom := window.1
    validTo := window.2
    timezone := if strip input.timezone = "" then "Europe/London" else strip input.timezone
    customCron := intervalStorage
    includeLineItemDetail := input.includeLineItemDetail
    includeCreditNotes := input.includeCreditNotes
    includePaymentHistory := input.includePaymentHistory
    status := scheduleStatus nextRun
    nextRunAt := nextRun
    lastRunAt := none
    version := 1 }

/-- The checks of `create_statement` for a run of a schedule: an active statement is returned
as it is, a new one is built. `scalar_one_or_none` raises when there are two. -/
def createStatement (env : StatementEnv) (schedule : AccountStatementSchedule)
    (p : StatementPeriod) : Except ServiceError StatementPeriod := do
  validatePeriod p env.today
  raiseIf (1 < env.activeStatements (contentSignature schedule p))
    (.uncaught "MultipleResultsFound")
  raiseIf (env.activeStatements (contentSignature schedule p) = 0 ∧
      env.organizationExists schedule.organizationId = false)
    (.notFound "organization" (some schedule.organizationId))
  return p

/-- The period of a run, by frequency. -/
def periodOfRun (tz : Zone) (schedule : AccountStatementSchedule) (runLocal : Day) :
    Except ServiceError StatementPeriod :=
  if schedule.frequency = .custom then
    statementPeriodForCustomRun runLocal schedule.validFrom schedule.validTo
      schedule.lastRunAt tz schedule.customCron
  else statementPeriodForRun schedule.frequency runLocal

/-- A run that falls outside the window of its schedule. -/
def outsideWindow (schedule : AccountStatementSchedule) (runLocal : Day) : Bool :=
  !(schedule.frequency = .custom && isOnceCustomSchedule schedule.customCron) &&
    (runLocal < schedule.validFrom || schedule.validTo < runLocal)

/-- `_execute_schedule_run`, with the period of the statement that it generates, if any. -/
def executeScheduleRun (zoneInfo : String → Option Zone) (env : StatementEnv)
    (schedule : AccountStatementSchedule) (nowUtc : Instant) :
    Except ServiceError (AccountStatementSchedule × Option StatementPeriod) := do
  let tz ← resolveTimezone zoneInfo schedule.timezone
  let runLocal := tz.localDate nowUtc
  if outsideWindow schedule runLocal then
    return ({ schedule with
      status := .completed
      nextRunAt := none
      version := schedule.version + 1 }, none)
  else do
    let period ← periodOfRun tz schedule runLocal
    validatePeriod period runLocal
    let statement ← createStatement env schedule period
    let following ← nextRunAtUtc schedule.frequency tz schedule.validFrom schedule.validTo
      schedule.customCron nowUtc
    return ({ schedule with
      lastRunAt := some nowUtc
      nextRunAt := following
      status := scheduleStatus following
      version := schedule.version + 1 }, some statement)

/-- `list_due`: an active schedule whose next run has come. -/
def AccountStatementSchedule.isDue (schedule : AccountStatementSchedule) (before : Instant) :
    Bool :=
  schedule.status = .active && schedule.nextRunAt.any (· ≤ before)

end SwCouriers
