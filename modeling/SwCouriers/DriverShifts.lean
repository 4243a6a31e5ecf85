import Mathlib.Data.List.Sort
import SwCouriers.Common
import SwCouriers.Lib.Runs
import SwCouriers.Lib.Table

/-!
# Driver Shifts

The shifts of a driver: `create_shift`, `update_shift` and `delete_shift`, and the weekly
template that `sync_shifts_from_weekly_template` turns into shifts of the coming weeks.

A shift has its date and, besides, the instants at which it starts and ends. A time of day that
a client sends may come with an offset from UTC. Two such times are compared with their
offsets, and `datetime.combine(…, tzinfo=UTC)` then drops them.

## Main definitions

* `ShiftDb`: drivers, holidays, weekly templates and shifts.
* `createShift`, `updateShift`, `deleteShift`, `syncShiftsFromWeeklyTemplate`,
  `updateScheduleDay`: the operations.
* `ShiftRequest.step`: one request as a transaction.
-/

namespace SwCouriers

open Checked

/-! ### Times -/

/-- The microseconds of a day. -/
def dayMicros : ℕ := 86400000000

/-- A `time`: microseconds since midnight, and the offset from UTC if it has one. -/
structure TimeOfDay where
  micros : ℕ
  lt_day : micros < dayMicros
  utcOffset : Option ℤ := none
  deriving DecidableEq

/-- `a <= b`. Times with offsets are compared in UTC; a time with an offset and one without
cannot be compared. -/
def TimeOfDay.le (a b : TimeOfDay) : Except ServiceError Bool :=
  match a.utcOffset, b.utcOffset with
  | none, none => .ok (a.micros ≤ b.micros)
  | some x, some y => .ok ((a.micros : ℤ) - x ≤ (b.micros : ℤ) - y)
  | _, _ => .error (.uncaught "TypeError")

/-- What a column without a time zone stores of a time. -/
def TimeOfDay.naive (t : TimeOfDay) : TimeOfDay := { t with utcOffset := none }

/-- `datetime.combine(day, t, tzinfo=UTC)`. -/
def combine (day : Day) (t : TimeOfDay) : Instant := day * dayMicros + t.micros

/-- The date of an instant, in UTC. -/
def dateOf (t : Instant) : Day := t / dayMicros

/-- `t.timetz()`, in UTC. -/
def timetz (t : Instant) : TimeOfDay where
  micros := (t % dayMicros).toNat
  lt_day := by
    have hpos : (0 : ℤ) < dayMicros := by decide
    have hlt := Int.emod_lt_of_pos t hpos
    have hnonneg := Int.emod_nonneg t hpos.ne'
    omega
  utcOffset := some 0

/-- `day.weekday()`: day 1 is a Monday, which is 0. -/
def weekday (day : Day) : ℤ := (day - 1) % 7

/-! ### Rows -/

/-- `DriverType`. -/
inductive DriverType where
  | internal | external
  deriving DecidableEq, Repr

/-- `HolidayAudience`. -/
inductive HolidayAudience where
  | internal | external | both
  deriving DecidableEq, Repr

/-- `ShiftOrigin`. -/
inductive ShiftOrigin where
  | weeklyTemplate | manual
  deriving DecidableEq, Repr

/-- `ShiftStatus.PLANNED`. -/
def shiftStatusPlanned : String := "PLANNED"

/-- The columns of `drivers` that are read here. -/
structure Driver where
  id : Id
  driverType : Option DriverType
  deriving DecidableEq

/-- A holiday with the drivers who may work on it. -/
structure Holiday where
  startDate : Day
  endDate : Day
  name : String
  audience : HolidayAudience
  allowShifts : Bool
  allowedDrivers : List Id
  deriving DecidableEq

/-- A day of the weekly template of a driver. -/
structure DriverWeeklySchedule where
  id : Id
  driverId : Id
  dayOfWeek : ℤ
  isActive : Bool
  startTime : Option TimeOfDay
  endTime : Option TimeOfDay
  deriving DecidableEq

/-- A shift. -/
structure DriverShift where
  id : Id
  driverId : Id
  shiftDate : Day
  startTime : Instant
  endTime : Instant
  status : String
  origin : ShiftOrigin
  deriving DecidableEq

/-- The tables. -/
structure ShiftDb where
  drivers : Table Driver.id
  holidays : List Holiday
  weekly : Table DriverWeeklySchedule.id
  shifts : Table DriverShift.id

/-! ### Holidays -/

/-- `holiday.audience in audience_values_for_driver(driver)`. -/
def Holiday.isFor (driver : Driver) (holiday : Holiday) : Bool :=
  match holiday.audience with
  | .both => true
  | .internal => driver.driverType = some .internal
  | .external => driver.driverType = some .external

/-- `get_holiday_on_date`: the first holiday on the date, by the date on which it starts. -/
def getHolidayOnDate (db : ShiftDb) (driver : Driver) (onDate : Day) : Option Holiday :=
  let holidays := db.holidays.filter fun h =>
    h.startDate ≤ onDate ∧ onDate ≤ h.endDate ∧ h.isFor driver
  (holidays.insertionSort fun a b => a.startDate ≤ b.startDate).head?

/-- `holiday_blocks_driver`. -/
def holidayBlocksDriver (driverId : Id) (holiday : Holiday) : Bool :=
  !(holiday.allowShifts && driverId ∈ holiday.allowedDrivers)

/-- `driver_repo.get_by_id_or_404`. -/
def getDriverOr404 (db : ShiftDb) (driverId : Id) : Except ServiceError Driver :=
  orRaise (db.drivers.find? driverId) (.notFound "drivers" (some driverId))

/-- `assert_driver_may_work`. -/
def assertDriverMayWork (db : ShiftDb) (driverId : Id) (onDate : Day) :
    Except ServiceError Unit := do
  let driver ← getDriverOr404 db driverId
  match getHolidayOnDate db driver onDate with
  | none => return
  | some holiday =>
      raiseIf (holidayBlocksDriver driver.id holiday = true)
        (invalid ("Cannot schedule a shift on " ++ holiday.name
          ++ ": driver is not allowed to work this holiday"))

/-! ### Shifts -/

/-- `_ensure_no_shift_conflict`. -/
def ensureNoShiftConflict (db : ShiftDb) (driverId : Id) (shiftDate : Day)
    (startTime endTime : TimeOfDay) (excludeShiftId : Option Id) : Except ServiceError Unit :=
  raiseIf (∃ s ∈ db.shifts.rows, s.driverId = driverId ∧ s.shiftDate = shiftDate ∧
      s.startTime < combine shiftDate endTime ∧ combine shiftDate startTime < s.endTime ∧
      some s.id ≠ excludeShiftId)
    (invalid "Shift overlaps with an existing shift for this driver")

/-- `shift_repo.create`; a driver has one shift on a date at most. -/
def insertShift (db : ShiftDb) (driverId : Id) (shiftDate : Day) (startTime endTime : Instant)
    (status : String) (origin : ShiftOrigin) : Except ServiceError ShiftDb := do
  raiseIf (∃ s ∈ db.shifts.rows, s.driverId = driverId ∧ s.shiftDate = shiftDate)
    (.integrity "uq_driver_shifts_driver_date")
  let shift : DriverShift :=
    ⟨db.shifts.fresh, driverId, shiftDate, startTime, endTime, status, origin⟩
  return { db with shifts := db.shifts.insert shift }

/-- `create_shift`. -/
def createShift (db : ShiftDb) (driverId : Id) (shiftDate : Day) (startTime endTime : TimeOfDay)
    (status : String) : Except ServiceError ShiftDb := do
  let _ ← getDriverOr404 db driverId
  let unordered ← endTime.le startTime
  raiseIf (unordered = true) (invalid "end_time must be after start_time")
  assertDriverMayWork db driverId shiftDate
  ensureNoShiftConflict db driverId shiftDate startTime endTime none
  insertShift db driverId shiftDate (combine shiftDate startTime) (combine shiftDate endTime)
    status .manual

/-- What a client asks to change of a shift. -/
structure ShiftPatch where
  shiftDate : Option Day := none
  startTime : Option TimeOfDay := none
  endTime : Option TimeOfDay := none
  status : Option String := none

/-- `new_date`. -/
def ShiftPatch.newDate (patch : ShiftPatch) (shift : DriverShift) : Day :=
  patch.shiftDate.getD shift.shiftDate

/-- `new_start_dt`. -/
def ShiftPatch.newStartDt (patch : ShiftPatch) (shift : DriverShift) : Instant :=
  (patch.startTime.map (combine (patch.newDate shift))).getD shift.startTime

/-- `new_end_dt`. -/
def ShiftPatch.newEndDt (patch : ShiftPatch) (shift : DriverShift) : Instant :=
  (patch.endTime.map (combine (patch.newDate shift))).getD shift.endTime

/-- Whether anything is asked for. -/
def ShiftPatch.isEmpty (patch : ShiftPatch) : Bool :=
  patch.shiftDate.isNone && patch.startTime.isNone && patch.endTime.isNone &&
    patch.status.isNone

/-- What `update_shift` writes to a shift. -/
def ShiftPatch.apply (patch : ShiftPatch) (shift : DriverShift) : DriverShift :=
  { shift with
    shiftDate := patch.newDate shift
    startTime := patch.newStartDt shift
    endTime := patch.newEndDt shift
    status := patch.status.getD shift.status
    origin := .manual }

theorem ShiftPatch.id_apply (patch : ShiftPatch) (shift : DriverShift) :
    (patch.apply shift).id = shift.id := rfl

/-- `shift_repo.get_by_id_or_404`. -/
def getShiftOr404 (db : ShiftDb) (shiftId : Id) : Except ServiceError DriverShift :=
  orRaise (db.shifts.find? shiftId) (.notFound "driver_shifts" (some shiftId))

/-- `update_shift`. -/
def updateShift (db : ShiftDb) (shiftId : Id) (patch : ShiftPatch) :
    Except ServiceError ShiftDb := do
  let shift ← getShiftOr404 db shiftId
  raiseIf (patch.newEndDt shift ≤ patch.newStartDt shift)
    (invalid "end_time must be after start_time")
  assertDriverMayWork db shift.driverId (patch.newDate shift)
  ensureNoShiftConflict db shift.driverId (patch.newDate shift)
    (timetz (patch.newStartDt shift)) (timetz (patch.newEndDt shift)) (some shift.id)
  if patch.isEmpty then return db
  else
    raiseIf (∃ s ∈ db.shifts.rows, s.id ≠ shiftId ∧ s.driverId = shift.driverId ∧
      s.shiftDate = patch.newDate shift) (.integrity "uq_driver_shifts_driver_date")
    return { db with shifts := db.shifts.modify shiftId patch.apply patch.id_apply }

/-- `delete_shift`. -/
def deleteShift (db : ShiftDb) (shiftId : Id) : Except ServiceError ShiftDb := do
  let _ ← getShiftOr404 db shiftId
  return { db with shifts := db.shifts.deleteWhere fun s => s.id = shiftId }

/-! ### The weekly template -/

/-- The last element that satisfies a condition: what a dictionary keeps of equal keys. -/
def lastWhere {ρ : Type} (rows : List ρ) (p : ρ → Bool) : Option ρ := rows.reverse.find? p

/-- The times of an active day of the template. -/
def DriverWeeklySchedule.activeTimes (row : DriverWeeklySchedule) :
    Option (TimeOfDay × TimeOfDay) :=
  match row.isActive, row.startTime, row.endTime with
  | true, some startTime, some endTime => some (startTime, endTime)
  | _, _, _ => none

/-- What the synchronisation writes to a shift that came from the template. -/
def DriverShift.resync (startTime endTime : Instant) (shift : DriverShift) : DriverShift :=
  { shift with
    startTime := startTime
    endTime := endTime
    status := shiftStatusPlanned
    origin := .weeklyTemplate }

theorem DriverShift.id_resync (startTime endTime : Instant) (shift : DriverShift) :
    (shift.resync startTime endTime).id = shift.id := rfl

/-- One day of `sync_shifts_from_weekly_template`, with the times that the template has for
the day and the shift that was found on it. -/
def syncDay (db : ShiftDb) (driver : Driver) (day : Day)
    (times : Option (TimeOfDay × TimeOfDay)) (existing : Option DriverShift) :
    Except ServiceError ShiftDb :=
  let removed (shift : DriverShift) : ShiftDb :=
    { db with shifts := db.shifts.deleteWhere fun s => s.id = shift.id }
  let blocked := (getHolidayOnDate db driver day).any (holidayBlocksDriver driver.id)
  match existing with
  | some shift =>
      if shift.origin = .manual then .ok db
      else if blocked then .ok (removed shift)
      else
        match times with
        | none => .ok (removed shift)
        | some (startTime, endTime) =>
            if shift.startTime = combine day startTime ∧ shift.endTime = combine day endTime ∧
                shift.status = shiftStatusPlanned then .ok db
            else
              let shifts := db.shifts.modify shift.id
                (DriverShift.resync (combine day startTime) (combine day endTime))
                (DriverShift.id_resync _ _)
              .ok { db with shifts := shifts }
  | none =>
      if blocked then .ok db
      else
        match times with
        | none => .ok db
        | some (startTime, endTime) => insertShift db driver.id day (combine day startTime)
            (combine day endTime) shiftStatusPlanned .weeklyTemplate

/-- The days from today to the end of the horizon. -/
def horizon (today : Day) (weeks : ℕ) : List Day :=
  (List.range (7 * weeks + 1)).map fun i : ℕ => today + (i : ℤ)

/-- `sync_shifts_from_weekly_template`. -/
def syncShiftsFromWeeklyTemplate (db : ShiftDb) (driverId : Id) (today : Day)
    (horizonWeeks : ℕ) : Except ServiceError ShiftDb := do
  let driver ← getDriverOr404 db driverId
  let rows := db.weekly.rows.filter fun row => row.driverId = driverId
  let shifts := db.shifts.rows.filter fun s =>
    s.driverId = driverId ∧ today ≤ s.shiftDate ∧ s.shiftDate ≤ today + 7 * horizonWeeks
  (horizon today horizonWeeks).foldlM (fun db day => syncDay db driver day
    ((lastWhere rows fun row => row.dayOfWeek = weekday day).bind (·.activeTimes))
    (lastWhere shifts fun s => s.shiftDate = day)) db

/-- `SYNC_HORIZON_WEEKS`. -/
def syncHorizonWeeks : ℕ := 4

/-- What `update_schedule_day` writes to a day of the template. -/
def DriverWeeklySchedule.write (isActive : Bool) (startTime endTime : Option TimeOfDay)
    (row : DriverWeeklySchedule) : DriverWeeklySchedule :=
  { row with
    isActive := isActive
    startTime := startTime.map TimeOfDay.naive
    endTime := endTime.map TimeOfDay.naive }

theorem DriverWeeklySchedule.id_write (isActive : Bool) (startTime endTime : Option TimeOfDay)
    (row : DriverWeeklySchedule) : (row.write isActive startTime endTime).id = row.id := rfl

/-- The check of the times of an active day. -/
def checkActiveTimes (isActive : Bool) (startTime endTime : Option TimeOfDay) :
    Except ServiceError Unit :=
  match isActive, startTime, endTime with
  | false, _, _ => .ok ()
  | true, some startTime, some endTime => do
      let unordered ← endTime.le startTime
      raiseIf (unordered = true) (invalid "end_time must be after start_time")
  | true, _, _ =>
      .error (invalid "start_time and end_time are required when is_active is true")

/-- `update_schedule_day`; the shifts are synchronised afterwards. -/
def updateScheduleDay (db : ShiftDb) (driverId : Id) (dayOfWeek : ℤ) (isActive : Bool)
    (startTime endTime : Option TimeOfDay) (today : Day) : Except ServiceError ShiftDb := do
  raiseIf (dayOfWeek < 0 ∨ 6 < dayOfWeek)
    (invalid "day_of_week must be between 0 (Monday) and 6 (Sunday)")
  let _ ← getDriverOr404 db driverId
  checkActiveTimes isActive startTime endTime
  let existing := db.weekly.rows.filter fun row =>
    row.driverId = driverId ∧ row.dayOfWeek = dayOfWeek
  raiseIf (1 < existing.length) (.uncaught "MultipleResultsFound")
  let weekly := match existing.head? with
    | some row => db.weekly.modify row.id
        (DriverWeeklySchedule.write isActive startTime endTime)
        (DriverWeeklySchedule.id_write isActive startTime endTime)
    | none =>
        let row : DriverWeeklySchedule := ⟨db.weekly.fresh, driverId, dayOfWeek, isActive,
          startTime.map TimeOfDay.naive, endTime.map TimeOfDay.naive⟩
        db.weekly.insert row
  syncShiftsFromWeeklyTemplate { db with weekly := weekly } driverId today syncHorizonWeeks

/-! ### Requests -/

/-- What can be asked for. -/
inductive ShiftRequest where
  | createShift (driverId : Id) (shiftDate : Day) (startTime endTime : TimeOfDay)
      (status : String)
  | updateShift (shiftId : Id) (patch : ShiftPatch)
  | deleteShift (shiftId : Id)
  | syncShiftsFromWeeklyTemplate (driverId : Id) (today : Day) (horizonWeeks : ℕ)
  | updateScheduleDay (driverId : Id) (dayOfWeek : ℤ) (isActive : Bool)
      (startTime endTime : Option TimeOfDay) (today : Day)

/-- What a request does to the database. -/
def ShiftRequest.exec (db : ShiftDb) : ShiftRequest → Except ServiceError ShiftDb
  | .createShift driverId shiftDate startTime endTime status =>
      SwCouriers.createShift db driverId shiftDate startTime endTime status
  | .updateShift shiftId patch => SwCouriers.updateShift db shiftId patch
  | .deleteShift shiftId => SwCouriers.deleteShift db shiftId
  | .syncShiftsFromWeeklyTemplate driverId today horizonWeeks =>
      SwCouriers.syncShiftsFromWeeklyTemplate db driverId today horizonWeeks
  | .updateScheduleDay driverId dayOfWeek isActive startTime endTime today =>
      SwCouriers.updateScheduleDay db driverId dayOfWeek isActive startTime endTime today

/-- One request as a transaction. -/
def ShiftRequest.step (db : ShiftDb) (request : ShiftRequest) : ShiftDb :=
  settle db (request.exec db)

end SwCouriers
