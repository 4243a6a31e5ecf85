import SwCouriers.DriverShifts
import SwCouriers.Lib.Spans

/-!
# Holidays and Work Schedules

`app/modules/drivers/schedule/holiday_rules.py` and `work_schedule.py`: whether a driver may work
on a date, and what the work schedule shows for the days of a range. Both lay the holidays out
over a calendar, one over the date alone, the other over the range.

Holidays may overlap. Of those on a day the one that starts first counts, also when it lets the
driver work and another one does not.

## Main results

* `holidayOn_eq_getHolidayOnDate`: the range does not matter.
* `getHolidayOnDate_iff`: which holiday counts.
* `blocksExactly_iff`: when a driver is turned down for the right reasons.
-/

namespace SwCouriers

open Checked

/-! ### Rows -/

/-- `DriverTimeOff`. -/
structure DriverTimeOff where
  driverId : Id
  startDate : Day
  endDate : Day
  type : String
  isPaid : Bool
  deriving DecidableEq

/-- A route with the date of its plan and the vehicle. -/
structure RouteRow where
  driverId : Option Id
  serviceDate : Day
  routeId : Id
  routeCode : String
  routeStatus : String
  vehicleRegistration : Option String
  deriving DecidableEq

/-- The tables that a work schedule is read from. -/
structure WorkDb extends ShiftDb where
  timeOff : List DriverTimeOff
  routes : List RouteRow

/-! ### Holidays -/

/-- `fetch_holidays_for_driver_in_range`. -/
def fetchHolidaysForDriverInRange (db : ShiftDb) (driver : Driver) (fromDate toDate : Day) :
    List Holiday :=
  (db.holidays.filter fun h =>
    h.startDate ≤ toDate ∧ fromDate ≤ h.endDate ∧ h.isFor driver).insertionSort
      fun a b => a.startDate ≤ b.startDate

/-- `expand_holidays_by_date`. -/
def expandHolidaysByDate (holidays : List Holiday) (fromDate toDate : Day) :
    Day → Option Holiday :=
  Spans.layOut (·.startDate) (·.endDate) holidays fromDate toDate

/-- The holiday that a range query finds for a day. -/
def holidayOn (db : ShiftDb) (driver : Driver) (fromDate toDate day : Day) : Option Holiday :=
  expandHolidaysByDate (fetchHolidaysForDriverInRange db driver fromDate toDate) fromDate toDate
    day

/-- `assert_driver_may_work_on_date`. -/
def assertDriverMayWorkOnDate (db : ShiftDb) (driver : Driver) (onDate : Day) :
    Except ServiceError Unit :=
  match holidayOn db driver onDate onDate onDate with
  | none => return
  | some holiday =>
      raiseIf (holidayBlocksDriver driver.id holiday = true)
        (invalid ("Cannot schedule a shift on " ++ holiday.name
          ++ ": driver is not allowed to work this holiday"))

/-! ### Work schedules -/

/-- Two digits. -/
def twoDigits (n : ℕ) : String := (if n < 10 then "0" else "") ++ toString n

/-- `t.strftime('%H:%M')`, in UTC. -/
def hoursMinutes (t : Instant) : String :=
  let minutes := (t % dayMicros).toNat / 60000000
  twoDigits (minutes / 60) ++ ":" ++ twoDigits (minutes % 60)

/-- What a day of a work schedule is, in the order in which it is tried. -/
inductive DayBranch where
  | timeOff (row : DriverTimeOff)
  | blockingHoliday (holiday : Holiday)
  | working (shift : DriverShift) (holiday : Option Holiday)
  | allowedHoliday (holiday : Holiday)
  | rest

/-- The `day_type` of an entry. -/
inductive DayType where
  | timeOff | holiday | working | rest
  deriving DecidableEq, Repr

/-- An entry of a work schedule. -/
structure WorkDay where
  date : Day
  route : Option RouteRow
  dayType : DayType
  timeOffType : Option String := none
  timeOffIsPaid : Option Bool := none
  holidayName : Option String := none
  shiftHours : Option String := none
  shiftStatus : Option String := none
  deriving DecidableEq

/-- What the entry of a day says. -/
def DayBranch.entry (date : Day) (route : Option RouteRow) : DayBranch → WorkDay
  | .timeOff row =>
      { date, route, dayType := .timeOff, timeOffType := row.type, timeOffIsPaid := row.isPaid }
  | .blockingHoliday holiday =>
      { date, route, dayType := .holiday, holidayName := holiday.name }
  | .working shift holiday =>
      { date, route, dayType := .working
        shiftHours := hoursMinutes shift.startTime ++ " - " ++ hoursMinutes shift.endTime
        shiftStatus := shift.status
        holidayName := holiday.map (·.name) }
  | .allowedHoliday holiday =>
      { date, route, dayType := .holiday, holidayName := holiday.name }
  | .rest => { date, route, dayType := .rest }

namespace WorkDb

variable (db : WorkDb)

/-- `_list_shifts`. -/
def listShifts (driverId : Id) (dateFrom dateTo : Day) : List DriverShift :=
  (db.shifts.rows.filter fun s =>
    s.driverId = driverId ∧ dateFrom ≤ s.shiftDate ∧ s.shiftDate ≤ dateTo).insertionSort
      fun a b => a.shiftDate < b.shiftDate ∨
        a.shiftDate = b.shiftDate ∧ a.startTime ≤ b.startTime

/-- `time_off_by_date`. -/
def timeOffByDate (driverId : Id) (fromDate toDate : Day) : Day → Option DriverTimeOff :=
  Spans.layOut (·.startDate) (·.endDate)
    ((db.timeOff.filter fun t =>
      t.driverId = driverId ∧ t.startDate ≤ toDate ∧ fromDate ≤ t.endDate).insertionSort
        fun a b => a.startDate ≤ b.startDate) fromDate toDate

/-- `routes_by_date`: the first route of a date. -/
def routeOn (driverId : Id) (day : Day) : Option RouteRow :=
  db.routes.find? fun r => r.driverId = some driverId ∧ r.serviceDate = day

/-- The branch that a day of the range takes. -/
def dayBranch (driver : Driver) (fromDate toDate day : Day) : DayBranch :=
  let holiday := holidayOn db.toShiftDb driver fromDate toDate day
  match db.timeOffByDate driver.id fromDate toDate day with
  | some row => .timeOff row
  | none =>
      match holiday.filter (holidayBlocksDriver driver.id) with
      | some blocking => .blockingHoliday blocking
      | none =>
          match lastWhere (db.listShifts driver.id fromDate toDate) fun s => s.shiftDate = day with
          | some shift => .working shift holiday
          | none =>
              match holiday with
              | some holiday => .allowedHoliday holiday
              | none => .rest

/-- The days of the range, with their branches. -/
def workDays (driver : Driver) (fromDate toDate : Day) : List (Day × DayBranch) :=
  (Spans.daysFrom fromDate toDate).map fun day => (day, db.dayBranch driver fromDate toDate day)

/-- `get_driver_work_schedule`. -/
def getDriverWorkSchedule (driverId : Id) (fromDate toDate : Day) :
    Except ServiceError (List WorkDay) := do
  let driver ← getDriverOr404 db.toShiftDb driverId
  return (db.workDays driver fromDate toDate).map fun day =>
    day.2.entry day.1 (db.routeOn driver.id day.1)

end WorkDb

/-! ### Which holiday counts -/

section Holidays

variable {db : ShiftDb} {driver : Driver} {fromDate toDate day : Day}

/-- The holiday is for the driver and covers the day. -/
def Holiday.Covers (driver : Driver) (day : Day) (holiday : Holiday) : Prop :=
  holiday.startDate ≤ day ∧ day ≤ holiday.endDate ∧ holiday.isFor driver = true

instance (driver : Driver) (day : Day) : DecidablePred (Holiday.Covers driver day) :=
  fun _ => inferInstanceAs (Decidable (_ ∧ _ ∧ _))

instance : Std.Total fun a b : Holiday => a.startDate ≤ b.startDate := ⟨fun _ _ => le_total _ _⟩

instance : IsTrans Holiday fun a b => a.startDate ≤ b.startDate := ⟨fun _ _ _ => le_trans⟩

/-- **The range of the query does not matter** for the days in it. -/
theorem holidayOn_eq_getHolidayOnDate (hday : fromDate ≤ day ∧ day ≤ toDate) :
    holidayOn db driver fromDate toDate day = getHolidayOnDate db driver day := by
  rw [holidayOn, expandHolidaysByDate, Spans.layOut_eq _ _ _ hday, ← List.head?_filter,
    fetchHolidaysForDriverInRange, Spans.filter_insertionSort, List.filter_filter,
    getHolidayOnDate]
  refine congrArg (fun l : List Holiday =>
    (l.insertionSort fun a b => a.startDate ≤ b.startDate).head?) (List.filter_congr fun h _ => ?_)
  rw [Bool.eq_iff_iff, Bool.and_eq_true, decide_eq_true_iff, decide_eq_true_iff,
    decide_eq_true_iff]
  constructor
  · exact fun hh => ⟨hh.1.1, hh.1.2, hh.2.2.2⟩
  · exact fun hh => ⟨⟨hh.1, hh.2.1⟩, hh.1.trans hday.2, hday.1.trans hh.2.1, hh.2.2⟩

/-- The service asks the same question for a driver that it looks up. -/
theorem assertDriverMayWork_eq (db : ShiftDb) (driverId : Id) (onDate : Day) :
    assertDriverMayWork db driverId onDate = (do
      let driver ← getDriverOr404 db driverId
      assertDriverMayWorkOnDate db driver onDate) := by
  rw [assertDriverMayWork]
  congr 1
  ext driver
  have hday : holidayOn db driver onDate onDate onDate = getHolidayOnDate db driver onDate :=
    holidayOn_eq_getHolidayOnDate ⟨le_rfl, le_rfl⟩
  cases hfound : getHolidayOnDate db driver onDate with
  | none => simp only [assertDriverMayWorkOnDate, hday, hfound]
  | some holiday => simp only [assertDriverMayWorkOnDate, hday, hfound]

/-- The holiday that comes first of those that cover the day: none of the others starts before
it, nor on the same day if it is stored before it. -/
def ComesFirst (holidays : List Holiday) (driver : Driver) (day : Day) (holiday : Holiday) :
    Prop :=
  holiday.Covers driver day ∧ ∃ pre post, holidays = pre ++ holiday :: post ∧
    (∀ h ∈ pre, h.Covers driver day → holiday.startDate < h.startDate) ∧
    ∀ h ∈ post, h.Covers driver day → holiday.startDate ≤ h.startDate

/-- **The holiday that counts** is the one that comes first. -/
theorem getHolidayOnDate_iff {holiday : Holiday} :
    getHolidayOnDate db driver day = some holiday ↔
      ComesFirst db.holidays driver day holiday := by
  have hcovers : ∀ h : Holiday, decide (h.startDate ≤ day ∧ day ≤ h.endDate ∧
      h.isFor driver = true) = true ↔ h.Covers driver day := fun h => decide_eq_true_iff
  rw [getHolidayOnDate, Spans.head?_insertionSort_iff]
  constructor
  · rintro ⟨pre, post, hl, hpre, hpost⟩
    obtain ⟨left, right, hsplit, rfl, hright⟩ := List.filter_eq_append_iff.mp hl
    obtain ⟨mid, rest, rfl, hmid, hholiday, rfl⟩ := List.filter_eq_cons_iff.mp hright
    refine ⟨(hcovers holiday).mp hholiday, left ++ mid, rest, by rw [hsplit]; simp,
      fun h hh hcov => ?_, fun h hh hcov => ?_⟩
    · rcases List.mem_append.mp hh with hh | hh
      · exact not_le.mp (hpre h (List.mem_filter.mpr ⟨hh, (hcovers h).mpr hcov⟩))
      · exact absurd ((hcovers h).mpr hcov) (hmid h hh)
    · exact hpost h (List.mem_filter.mpr ⟨hh, (hcovers h).mpr hcov⟩)
  · rintro ⟨hcov, pre, post, hl, hpre, hpost⟩
    refine ⟨pre.filter fun h => h.startDate ≤ day ∧ day ≤ h.endDate ∧ h.isFor driver,
      post.filter fun h => h.startDate ≤ day ∧ day ≤ h.endDate ∧ h.isFor driver, ?_,
      fun h hh => ?_, fun h hh => ?_⟩
    · rw [hl, List.filter_append, List.filter_cons]
      rw [if_pos ((hcovers holiday).mpr hcov)]
    · obtain ⟨hmem, hh⟩ := List.mem_filter.mp hh
      exact not_le.mpr (hpre h hmem ((hcovers h).mp hh))
    · obtain ⟨hmem, hh⟩ := List.mem_filter.mp hh
      exact hpost h hmem ((hcovers h).mp hh)

/-- No holiday counts exactly if none covers the day. -/
theorem getHolidayOnDate_eq_none_iff :
    getHolidayOnDate db driver day = none ↔ ∀ h ∈ db.holidays, ¬ h.Covers driver day := by
  rw [getHolidayOnDate, List.head?_eq_none_iff, ← List.length_eq_zero_iff,
    List.length_insertionSort, List.length_eq_zero_iff, List.filter_eq_nil_iff]
  simp only [Holiday.Covers, decide_eq_true_eq]

end Holidays

/-! ### Blocking -/

section Blocking

variable {db : WorkDb} {driver : Driver} {onDate : Day}

/-- Some holiday for the driver covers the date and does not allow the driver. -/
def Blocked (holidays : List Holiday) (driver : Driver) (onDate : Day) : Prop :=
  ∃ h ∈ holidays, h.Covers driver onDate ∧ holidayBlocksDriver driver.id h = true

/-- The driver is turned down on the date, and the work schedules of all ranges with the date
show a blocking holiday unless there is time off, exactly if some holiday blocks the driver. -/
structure BlocksExactly (db : WorkDb) (driver : Driver) (onDate : Day) : Prop where
  rejects : (∃ e, assertDriverMayWorkOnDate db.toShiftDb driver onDate = .error e) ↔
    Blocked db.holidays driver onDate
  shows : ∀ fromDate toDate, fromDate ≤ onDate ∧ onDate ≤ toDate →
    db.timeOffByDate driver.id fromDate toDate onDate = none →
    ((∃ holiday, (onDate, .blockingHoliday holiday) ∈ db.workDays driver fromDate toDate) ↔
      Blocked db.holidays driver onDate)

/-- A driver is turned down if the holiday that counts blocks the driver. -/
theorem rejects_iff {db : ShiftDb} :
    (∃ e, assertDriverMayWorkOnDate db driver onDate = .error e) ↔
      ∃ h, getHolidayOnDate db driver onDate = some h ∧
        holidayBlocksDriver driver.id h = true := by
  rw [assertDriverMayWorkOnDate, holidayOn_eq_getHolidayOnDate ⟨le_rfl, le_rfl⟩]
  cases getHolidayOnDate db driver onDate with
  | none => simp [pure, Except.pure]
  | some holiday => simp [raiseIf_eq_error]

/-- A work schedule shows a blocking holiday if the holiday that counts blocks the driver. -/
theorem shows_iff {fromDate toDate : Day} (hday : fromDate ≤ onDate ∧ onDate ≤ toDate)
    (hoff : db.timeOffByDate driver.id fromDate toDate onDate = none) :
    (∃ holiday, (onDate, .blockingHoliday holiday) ∈ db.workDays driver fromDate toDate) ↔
      ∃ h, getHolidayOnDate db.toShiftDb driver onDate = some h ∧
        holidayBlocksDriver driver.id h = true := by
  have hentry : ∀ branch, (onDate, branch) ∈ db.workDays driver fromDate toDate ↔
      db.dayBranch driver fromDate toDate onDate = branch := by
    intro branch
    simp only [WorkDb.workDays, List.mem_map, Spans.mem_daysFrom, Prod.mk.injEq]
    constructor
    · rintro ⟨day, -, rfl, hbranch⟩
      exact hbranch
    · exact fun hbranch => ⟨onDate, hday, rfl, hbranch⟩
  simp only [hentry, WorkDb.dayBranch, hoff, holidayOn_eq_getHolidayOnDate hday]
  cases getHolidayOnDate db.toShiftDb driver onDate with
  | none =>
      cases lastWhere (db.listShifts driver.id fromDate toDate) fun s => s.shiftDate = onDate <;>
        simp
  | some holiday =>
      by_cases hblocks : holidayBlocksDriver driver.id holiday = true
      · simp [Option.filter, hblocks]
      · cases lastWhere (db.listShifts driver.id fromDate toDate) fun s => s.shiftDate = onDate <;>
          simp [Option.filter, hblocks]

/-- **The check and the work schedules agree**, whichever holiday counts. -/
theorem rejects_iff_shows {fromDate toDate : Day} (hday : fromDate ≤ onDate ∧ onDate ≤ toDate)
    (hoff : db.timeOffByDate driver.id fromDate toDate onDate = none) :
    (∃ e, assertDriverMayWorkOnDate db.toShiftDb driver onDate = .error e) ↔
      ∃ holiday, (onDate, .blockingHoliday holiday) ∈ db.workDays driver fromDate toDate :=
  rejects_iff.trans (shows_iff hday hoff).symm

/-- **Holidays block exactly those whom they should**, on a date and in every work schedule with
it, if and only if no holiday blocks the driver there or the one that comes first does. -/
theorem blocksExactly_iff (db : WorkDb) (driver : Driver) (onDate : Day) :
    BlocksExactly db driver onDate ↔ (Blocked db.holidays driver onDate →
      ∀ h, ComesFirst db.holidays driver onDate h → holidayBlocksDriver driver.id h = true) := by
  have hcounts : ((∃ h, getHolidayOnDate db.toShiftDb driver onDate = some h ∧
      holidayBlocksDriver driver.id h = true) ↔ Blocked db.holidays driver onDate) ↔
      (Blocked db.holidays driver onDate →
        ∀ h, ComesFirst db.holidays driver onDate h → holidayBlocksDriver driver.id h = true) := by
    simp only [getHolidayOnDate_iff]
    constructor
    · intro hiff hblocked h hfirst
      obtain ⟨h', hfirst', hblocks⟩ := hiff.mpr hblocked
      have hsame : getHolidayOnDate db.toShiftDb driver onDate = some h :=
        getHolidayOnDate_iff.mpr hfirst
      rw [getHolidayOnDate_iff.mpr hfirst'] at hsame
      exact Option.some.inj hsame ▸ hblocks
    · refine fun himp => ⟨fun hcounted => ?_, fun hblocked => ?_⟩
      · obtain ⟨h, ⟨hcovers, pre, post, hl, -⟩, hblocks⟩ := hcounted
        exact ⟨h, hl ▸ by simp, hcovers, hblocks⟩
      · cases hon : getHolidayOnDate db.toShiftDb driver onDate with
        | none =>
            obtain ⟨h, hmem, hcovers, -⟩ := hblocked
            exact absurd hcovers (getHolidayOnDate_eq_none_iff.mp hon h hmem)
        | some h =>
            have hfirst := getHolidayOnDate_iff.mp hon
            exact ⟨h, hfirst, himp hblocked h hfirst⟩
  rw [← hcounts]
  constructor
  · exact fun h => rejects_iff.symm.trans h.rejects
  · exact fun h => ⟨rejects_iff.trans h, fun fromDate toDate hday hoff =>
      (shows_iff hday hoff).trans h⟩

end Blocking

/-- A driver of the company. -/
def companyDriver : Driver := ⟨1, some .internal⟩

/-- The days 10 to 14, on which the driver may work, and day 12, on which nobody may. -/
def overlappingHolidays : List Holiday :=
  [⟨10, 14, "Shutdown", .both, true, [1]⟩, ⟨12, 12, "Bank Holiday", .both, false, []⟩]

/-- The driver and the holidays. -/
def holidayWeek : WorkDb where
  drivers := .singleton companyDriver
  holidays := overlappingHolidays
  weekly := .empty
  shifts := .empty
  timeOff := []
  routes := []

/-- Nobody may work on day 12, but the driver may be scheduled on it. -/
theorem shutdown_hides_bank_holiday :
    Blocked overlappingHolidays companyDriver 12 ∧
    assertDriverMayWorkOnDate holidayWeek.toShiftDb companyDriver 12 = .ok () ∧
    ¬ BlocksExactly holidayWeek companyDriver 12 := by
  have hblocked : Blocked overlappingHolidays companyDriver 12 :=
    ⟨_, List.mem_cons_of_mem _ List.mem_cons_self, by decide, by decide⟩
  have hok : assertDriverMayWorkOnDate holidayWeek.toShiftDb companyDriver 12 = .ok () := by
    decide +kernel
  refine ⟨hblocked, hok, fun h => ?_⟩
  obtain ⟨e, he⟩ := h.rejects.mpr hblocked
  rw [hok] at he
  exact absurd he (by simp)

end SwCouriers
