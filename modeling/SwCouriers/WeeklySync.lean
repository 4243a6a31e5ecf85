import SwCouriers.ShiftCalendar
import SwCouriers.WorkSchedules

/-!
# What the Weekly Synchronisation Leaves

`sync_shifts_from_weekly_template` with the number of changes that it returns. On each day of the
horizon it looks at the one shift that it has loaded for the day. The unique constraint of
`driver_shifts` allows no second one; with two of them the synchronisation would see only one.

## Main results

* `syncDay_eq_exec`: what a day does, and that it counts what it does.
* `foldlM_syncDayCounted`: what the loop does to the days of the horizon, and to others.
* `weekly_sync_exact`: the days are as the template says, and a second run has nothing to do.
-/

namespace SwCouriers

open Checked

/-! ### Counting changes -/

/-- What the synchronisation does on a day. -/
inductive SyncAction where
  | leave
  | delete (shift : DriverShift)
  | update (shift : DriverShift) (startTime endTime : Instant)
  | create (startTime endTime : Instant)

/-- What it decides to do, from the times of the template and the shift it has loaded. -/
def syncAction (db : ShiftDb) (driver : Driver) (day : Day)
    (times : Option (TimeOfDay × TimeOfDay)) (existing : Option DriverShift) : SyncAction :=
  let blocked := (getHolidayOnDate db driver day).any (holidayBlocksDriver driver.id)
  match existing with
  | some shift =>
      if shift.origin = .manual then .leave
      else if blocked then .delete shift
      else
        match times with
        | none => .delete shift
        | some (startTime, endTime) =>
            if shift.startTime = combine day startTime ∧ shift.endTime = combine day endTime ∧
                shift.status = shiftStatusPlanned then .leave
            else .update shift (combine day startTime) (combine day endTime)
  | none =>
      if blocked then .leave
      else
        match times with
        | none => .leave
        | some (startTime, endTime) => .create (combine day startTime) (combine day endTime)

/-- The writes of a day. -/
def SyncAction.exec (db : ShiftDb) (driverId : Id) (day : Day) :
    SyncAction → Except ServiceError ShiftDb
  | .leave => .ok db
  | .delete shift => .ok { db with shifts := db.shifts.deleteWhere fun s => s.id = shift.id }
  | .update shift startTime endTime =>
      let shifts := db.shifts.modify shift.id (DriverShift.resync startTime endTime)
        (DriverShift.id_resync _ _)
      .ok { db with shifts := shifts }
  | .create startTime endTime =>
      insertShift db driverId day startTime endTime shiftStatusPlanned .weeklyTemplate

/-- What a day adds to `changes`. -/
def SyncAction.changes : SyncAction → ℕ
  | .leave => 0
  | _ => 1

/-- A day of the synchronisation with the count. -/
def syncDayCounted (driver : Driver) (times : Day → Option (TimeOfDay × TimeOfDay))
    (existing : Day → Option DriverShift) (acc : ShiftDb × ℕ) (day : Day) :
    Except ServiceError (ShiftDb × ℕ) := do
  let action := syncAction acc.1 driver day (times day) (existing day)
  let db ← action.exec acc.1 driver.id day
  return (db, acc.2 + action.changes)

/-- The times that the template of a driver has for a day. -/
def ShiftDb.templateTimes (db : ShiftDb) (driverId : Id) (day : Day) :
    Option (TimeOfDay × TimeOfDay) :=
  (lastWhere (db.weekly.rows.filter fun row => row.driverId = driverId) fun row =>
    row.dayOfWeek = weekday day).bind (·.activeTimes)

/-- The shift that is loaded for a day of the horizon. -/
def ShiftDb.loadedShift (db : ShiftDb) (driverId : Id) (today : Day) (horizonWeeks : ℕ)
    (day : Day) : Option DriverShift :=
  lastWhere (db.shifts.rows.filter fun s =>
    s.driverId = driverId ∧ today ≤ s.shiftDate ∧ s.shiftDate ≤ today + 7 * horizonWeeks)
    fun s => s.shiftDate = day

/-- `sync_shifts_from_weekly_template`, with the number that it returns. -/
def syncShiftsCounted (db : ShiftDb) (driverId : Id) (today : Day) (horizonWeeks : ℕ) :
    Except ServiceError (ShiftDb × ℕ) := do
  let driver ← getDriverOr404 db driverId
  (horizon today horizonWeeks).foldlM (syncDayCounted driver (db.templateTimes driverId)
    (db.loadedShift driverId today horizonWeeks)) (db, 0)

section Counting

variable {db : ShiftDb} {driver : Driver}

/-- **A day does what it decides to do.** -/
theorem syncDay_eq_exec (db : ShiftDb) (driver : Driver) (day : Day)
    (times : Option (TimeOfDay × TimeOfDay)) (existing : Option DriverShift) :
    syncDay db driver day times existing
      = (syncAction db driver day times existing).exec db driver.id day := by
  unfold syncDay syncAction
  cases existing with
  | none =>
      dsimp only
      split_ifs
      · rfl
      · cases times <;> rfl
  | some shift =>
      dsimp only
      split_ifs
      · rfl
      · rfl
      · cases times with
        | none => rfl
        | some times =>
            dsimp only
            split_ifs <;> rfl

/-- The loop without the count. -/
theorem foldlM_syncDay_eq (times : Day → Option (TimeOfDay × TimeOfDay))
    (existing : Day → Option DriverShift) (days : List Day) (db : ShiftDb) (n : ℕ) :
    days.foldlM (fun db day => syncDay db driver day (times day) (existing day)) db
      = (days.foldlM (syncDayCounted driver times existing) (db, n)).map (·.1) := by
  induction days generalizing db n with
  | nil => rfl
  | cons day days ih =>
      rw [List.foldlM_cons, List.foldlM_cons, syncDayCounted, syncDay_eq_exec]
      cases (syncAction db driver day (times day) (existing day)).exec db driver.id day with
      | error e => rfl
      | ok db' => exact ih db' _

/-- The synchronisation is the one that counts, without the number. -/
theorem syncShifts_eq_map (db : ShiftDb) (driverId : Id) (today : Day) (horizonWeeks : ℕ) :
    syncShiftsFromWeeklyTemplate db driverId today horizonWeeks
      = (syncShiftsCounted db driverId today horizonWeeks).map (·.1) := by
  rw [syncShiftsFromWeeklyTemplate, syncShiftsCounted]
  cases getDriverOr404 db driverId with
  | error e => rfl
  | ok driver =>
      exact foldlM_syncDay_eq (db.templateTimes driverId)
        (db.loadedShift driverId today horizonWeeks) (horizon today horizonWeeks) db 0

end Counting

/-! ### One day -/

/-- The shifts of a driver on a day. -/
def ShiftDb.shiftsOn (db : ShiftDb) (driverId : Id) (day : Day) : List DriverShift :=
  db.shifts.rows.filter fun s => s.driverId = driverId ∧ s.shiftDate = day

/-- What is on a day afterwards, from what was there before. `id` is what a new shift is known
by. -/
def syncedShift (id : Id) (driver : Driver) (day : Day) (blocked : Bool)
    (times : Option (TimeOfDay × TimeOfDay)) : Option DriverShift → Option DriverShift
  | some shift =>
      if shift.origin = .manual then some shift
      else if blocked then none
      else times.map fun t => shift.resync (combine day t.1) (combine day t.2)
  | none =>
      if blocked then none
      else times.map fun t => ⟨id, driver.id, day, combine day t.1, combine day t.2,
        shiftStatusPlanned, .weeklyTemplate⟩

/-- What a day of the synchronisation does: the shift of the day is the one that it should be,
and nothing else changes. -/
structure DayExact (db db' : ShiftDb) (driver : Driver) (day : Day)
    (times : Option (TimeOfDay × TimeOfDay)) (existing : Option DriverShift) : Prop where
  drivers : db'.drivers = db.drivers
  holidays : db'.holidays = db.holidays
  weekly : db'.weekly = db.weekly
  onDay : ∃ id, db'.shiftsOn driver.id day = (syncedShift id driver day
    ((getHolidayOnDate db driver day).any (holidayBlocksDriver driver.id)) times existing).toList
  elsewhere : ∀ driverId day', ¬ (driverId = driver.id ∧ day' = day) →
    db'.shiftsOn driverId day' = db.shiftsOn driverId day'

section Day

variable {db : ShiftDb} {driver : Driver} {day : Day} {shift : DriverShift}

theorem mem_shiftsOn {driverId : Id} :
    shift ∈ db.shiftsOn driverId day ↔
      shift ∈ db.shifts.rows ∧ shift.driverId = driverId ∧ shift.shiftDate = day := by
  rw [ShiftDb.shiftsOn, List.mem_filter, decide_eq_true_iff]

/-- The one shift of a day, by its key. -/
theorem shiftsOn_key (hon : db.shiftsOn driver.id day = [shift]) :
    shift ∈ db.shifts.rows ∧ shift.driverId = driver.id ∧ shift.shiftDate = day :=
  mem_shiftsOn.mp (hon ▸ List.mem_cons_self)

/-- Other days have other shifts. -/
theorem id_ne_of_elsewhere (hon : db.shiftsOn driver.id day = [shift]) {driverId : Id}
    {day' : Day} (hne : ¬ (driverId = driver.id ∧ day' = day)) {s : DriverShift}
    (hs : s ∈ db.shiftsOn driverId day') : s.id ≠ shift.id := by
  intro hid
  obtain ⟨hmem, hdriver, hdate⟩ := shiftsOn_key hon
  obtain ⟨hs, hdriver', hdate'⟩ := mem_shiftsOn.mp hs
  obtain rfl := Table.eq_of_key hs hmem hid
  exact hne ⟨hdriver'.symm.trans hdriver, hdate'.symm.trans hdate⟩

/-- The shift of a day is deleted. -/
theorem shiftsOn_delete (driverId : Id) (day' : Day) :
    ({ db with shifts := db.shifts.deleteWhere fun s => s.id = shift.id } : ShiftDb).shiftsOn
        driverId day'
      = (db.shiftsOn driverId day').filter fun s => s.id ≠ shift.id := by
  rw [ShiftDb.shiftsOn, ShiftDb.shiftsOn, List.filter_filter]
  simp only [Table.deleteWhere, List.filter_filter, Bool.and_comm]

/-- The shift of a day is rewritten. -/
theorem shiftsOn_update {db' : ShiftDb} {startTime endTime : Instant}
    (h : db'.shifts = db.shifts.modify shift.id (DriverShift.resync startTime endTime)
      (DriverShift.id_resync _ _)) (driverId : Id) (day' : Day) :
    db'.shiftsOn driverId day' = (db.shiftsOn driverId day').map fun s =>
      if s.id = shift.id then s.resync startTime endTime else s := by
  rw [ShiftDb.shiftsOn, ShiftDb.shiftsOn, h, Table.modify, Table.rows_mapRows, List.filter_map]
  refine congrArg _ (List.filter_congr fun s _ => ?_)
  simp only [Function.comp_apply]
  split_ifs <;> rfl

/-- **A day of the synchronisation**, when the shift that was loaded is what is on the day. -/
theorem exec_syncAction (times : Option (TimeOfDay × TimeOfDay)) {existing : Option DriverShift}
    (hon : db.shiftsOn driver.id day = existing.toList) :
    ∃ db', (syncAction db driver day times existing).exec db driver.id day = .ok db' ∧
      DayExact db db' driver day times existing := by
  obtain ⟨blocked, hblocked⟩ : ∃ b, (getHolidayOnDate db driver day).any
      (holidayBlocksDriver driver.id) = b := ⟨_, rfl⟩
  -- Nothing is written.
  have hleave : (∃ id, existing = syncedShift id driver day blocked times existing) →
      DayExact db db driver day times existing := by
    rintro ⟨id, hsame⟩
    exact ⟨rfl, rfl, rfl, ⟨id, by rw [hblocked, ← hsame, hon]⟩, fun _ _ _ => rfl⟩
  unfold syncAction
  rw [hblocked]
  cases existing with
  | some shift =>
      have hkeep : ∀ driverId day', ¬ (driverId = driver.id ∧ day' = day) →
          ∀ s ∈ db.shiftsOn driverId day', s.id ≠ shift.id :=
        fun driverId day' hne s hs => id_ne_of_elsewhere hon hne hs
      have hdelete : syncedShift 0 driver day blocked times (some shift) = none →
          DayExact db { db with shifts := db.shifts.deleteWhere fun s => s.id = shift.id } driver
            day times (some shift) := by
        intro hnone
        refine ⟨rfl, rfl, rfl, ⟨0, ?_⟩, fun driverId day' hne => ?_⟩
        · rw [hblocked, hnone, shiftsOn_delete, hon]
          simp
        · rw [shiftsOn_delete]
          exact List.filter_eq_self.mpr fun s hs => by simpa using hkeep driverId day' hne s hs
      dsimp only
      split_ifs with hmanual hblock
      · exact ⟨db, rfl, hleave ⟨0, by simp [syncedShift, hmanual]⟩⟩
      · exact ⟨_, rfl, hdelete (by simp [syncedShift, hmanual, hblock])⟩
      · cases times with
        | none => exact ⟨_, rfl, hdelete (by simp [syncedShift, hmanual])⟩
        | some times =>
            have hsynced : syncedShift 0 driver day blocked (some times) (some shift)
                = some (shift.resync (combine day times.1) (combine day times.2)) := by
              simp [syncedShift, hmanual, hblock]
            dsimp only
            split_ifs with hsame
            · -- The shift is as the template says already.
              refine ⟨db, rfl, hleave ⟨0, ?_⟩⟩
              rw [hsynced, DriverShift.resync, ← hsame.1, ← hsame.2.1, ← hsame.2.2]
              cases horigin : shift.origin with
              | manual => exact absurd horigin hmanual
              | weeklyTemplate => rw [← horigin]
            · refine ⟨_, rfl, rfl, rfl, rfl, ⟨0, ?_⟩, fun driverId day' hne => ?_⟩
              · rw [hblocked, hsynced, shiftsOn_update rfl, hon]
                simp
              · rw [shiftsOn_update rfl]
                refine (List.map_congr_left fun s hs => ?_).trans (List.map_id _)
                exact if_neg (hkeep driverId day' hne s hs)
  | none =>
      dsimp only
      split_ifs with hblock
      · exact ⟨db, rfl, hleave ⟨0, by simp [syncedShift, hblock]⟩⟩
      · cases times with
        | none => exact ⟨db, rfl, hleave ⟨0, by simp [syncedShift]⟩⟩
        | some times =>
            have hfree : ¬ ∃ s ∈ db.shifts.rows, s.driverId = driver.id ∧ s.shiftDate = day := by
              rintro ⟨s, hs, hdriver, hdate⟩
              have hmem : s ∈ db.shiftsOn driver.id day := mem_shiftsOn.mpr ⟨hs, hdriver, hdate⟩
              rw [hon] at hmem
              exact absurd hmem List.not_mem_nil
            let new : DriverShift := ⟨db.shifts.fresh, driver.id, day, combine day times.1,
              combine day times.2, shiftStatusPlanned, .weeklyTemplate⟩
            have hrows : (db.shifts.insert new).rows = db.shifts.rows ++ [new] :=
              Table.rows_insert_of_notMem (Table.fresh_notMem _)
            have hinsert : ∀ driverId day', ({ db with shifts := db.shifts.insert new } :
                ShiftDb).shiftsOn driverId day' = db.shiftsOn driverId day' ++
                  [new].filter fun s => s.driverId = driverId ∧ s.shiftDate = day' := by
              intro driverId day'
              rw [ShiftDb.shiftsOn, hrows, List.filter_append, ShiftDb.shiftsOn]
            refine ⟨{ db with shifts := db.shifts.insert new },
              bind_eq_ok.mpr ⟨⟨⟩, raiseIf_eq_ok.mpr hfree, rfl⟩, rfl, rfl, rfl,
              ⟨db.shifts.fresh, ?_⟩, fun driverId day' hne => ?_⟩
            · rw [hblocked, hinsert, hon]
              simp [syncedShift, hblock, new]
            · rw [hinsert, List.filter_cons_of_neg, List.filter_nil, List.append_nil]
              rw [decide_eq_true_iff]
              exact fun hsame => hne ⟨hsame.1.symm, hsame.2.symm⟩

end Day

/-! ### The horizon -/

/-- What the loop does: each of its days as it should be, and nothing else. -/
structure DaysExact (db db' : ShiftDb) (driver : Driver) (days : List Day)
    (times : Day → Option (TimeOfDay × TimeOfDay)) (existing : Day → Option DriverShift) :
    Prop where
  drivers : db'.drivers = db.drivers
  holidays : db'.holidays = db.holidays
  weekly : db'.weekly = db.weekly
  onDays : ∀ day ∈ days, ∃ id, db'.shiftsOn driver.id day = (syncedShift id driver day
    ((getHolidayOnDate db driver day).any (holidayBlocksDriver driver.id)) (times day)
    (existing day)).toList
  elsewhere : ∀ driverId day, ¬ (driverId = driver.id ∧ day ∈ days) →
    db'.shiftsOn driverId day = db.shiftsOn driverId day

section Horizon

variable {db db' : ShiftDb} {driver : Driver} {times : Day → Option (TimeOfDay × TimeOfDay)}
  {existing : Day → Option DriverShift} {days : List Day}

theorem getHolidayOnDate_congr (h : db'.holidays = db.holidays) (driver : Driver) (day : Day) :
    getHolidayOnDate db' driver day = getHolidayOnDate db driver day := by
  rw [getHolidayOnDate, getHolidayOnDate, h]

/-- **The loop over the days**, when the shifts that were loaded are those on the days. Each round
leaves the days to come as they were. -/
theorem foldlM_syncDayCounted (times : Day → Option (TimeOfDay × TimeOfDay)) (hdays : days.Nodup)
    (hon : ∀ day ∈ days, db.shiftsOn driver.id day = (existing day).toList) (n : ℕ) :
    ∃ db' n', days.foldlM (syncDayCounted driver times existing) (db, n) = .ok (db', n') ∧
      DaysExact db db' driver days times existing := by
  induction days generalizing db n with
  | nil => exact ⟨db, n, rfl, rfl, rfl, rfl, by simp, fun _ _ _ => rfl⟩
  | cons day days ih =>
      obtain ⟨hfirst, hdays⟩ := List.nodup_cons.mp hdays
      obtain ⟨db₁, hexec, hday⟩ := exec_syncAction (times day) (hon day List.mem_cons_self)
      have hrest : ∀ day' ∈ days, db₁.shiftsOn driver.id day' = (existing day').toList := by
        intro day' hday'
        rw [hday.elsewhere driver.id day' fun h => hfirst (h.2 ▸ hday')]
        exact hon day' (List.mem_cons_of_mem day hday')
      obtain ⟨db₂, n₂, hloop, hexact⟩ := ih hdays hrest
        (n + (syncAction db driver day (times day) (existing day)).changes)
      refine ⟨db₂, n₂, ?_, hexact.drivers.trans hday.drivers, hexact.holidays.trans hday.holidays,
        hexact.weekly.trans hday.weekly, ?_, fun driverId day' hne => ?_⟩
      · rw [List.foldlM_cons, syncDayCounted]
        dsimp only
        rw [hexec]
        exact hloop
      · intro day' hday'
        rcases List.mem_cons.mp hday' with rfl | hday'
        · obtain ⟨id, hid⟩ := hday.onDay
          exact ⟨id, (hexact.elsewhere _ _ fun h => hfirst h.2).trans hid⟩
        · obtain ⟨id, hid⟩ := hexact.onDays day' hday'
          exact ⟨id, getHolidayOnDate_congr hday.holidays driver day' ▸ hid⟩
      · rw [hexact.elsewhere driverId day' fun h => hne ⟨h.1, List.mem_cons_of_mem day h.2⟩]
        exact hday.elsewhere driverId day' fun h => hne ⟨h.1, h.2 ▸ List.mem_cons_self⟩

/-- A loop that finds nothing to do. -/
theorem foldlM_leave (h : ∀ day ∈ days,
      syncAction db driver day (times day) (existing day) = .leave) (n : ℕ) :
    days.foldlM (syncDayCounted driver times existing) (db, n) = .ok (db, n) := by
  induction days with
  | nil => rfl
  | cons day days ih =>
      rw [List.foldlM_cons, syncDayCounted]
      dsimp only
      rw [h day List.mem_cons_self]
      exact ih fun d hd => h d (List.mem_cons_of_mem day hd)

/-- What the synchronisation has left on a day it leaves there. -/
theorem syncAction_syncedShift (id : Id) (day : Day) (times : Option (TimeOfDay × TimeOfDay))
    (existing : Option DriverShift) : syncAction db driver day times (syncedShift id driver day
      ((getHolidayOnDate db driver day).any (holidayBlocksDriver driver.id)) times existing)
        = .leave := by
  obtain ⟨blocked, hblocked⟩ : ∃ b, (getHolidayOnDate db driver day).any
      (holidayBlocksDriver driver.id) = b := ⟨_, rfl⟩
  unfold syncAction
  rw [hblocked]
  cases existing with
  | some shift =>
      by_cases hmanual : shift.origin = .manual
      · simp [syncedShift, hmanual]
      · cases hb : blocked <;> cases times <;>
          simp [syncedShift, hmanual, DriverShift.resync]
  | none => cases hb : blocked <;> cases times <;> simp [syncedShift]

/-- What a dictionary keeps of equal keys is the last row. -/
theorem lastWhere_eq_getLast? {ρ : Type} (rows : List ρ) (p : ρ → Bool) :
    lastWhere rows p = (rows.filter p).getLast? := by
  rw [lastWhere, ← List.head?_filter, List.filter_reverse, List.head?_reverse]

theorem mem_horizon {today day : Day} {weeks : ℕ} :
    day ∈ horizon today weeks ↔ today ≤ day ∧ day ≤ today + 7 * weeks := by
  have hmem : ∀ (t d : ℤ), (∃ i : ℕ, i < 7 * weeks + 1 ∧ t + (i : ℤ) = d) ↔
      t ≤ d ∧ d ≤ t + 7 * weeks := by
    intro t d
    constructor
    · rintro ⟨i, hi, rfl⟩
      omega
    · rintro ⟨h₁, h₂⟩
      exact ⟨(d - t).toNat, by omega, by omega⟩
  simp only [horizon, List.mem_map, List.mem_range]
  exact hmem today day

theorem nodup_horizon (today : Day) (weeks : ℕ) : (horizon today weeks).Nodup :=
  List.Nodup.map (fun _ _ heq => Nat.cast_injective (add_left_cancel heq)) List.nodup_range

/-- The shift that is loaded for a day is the last one on it. -/
theorem loadedShift_eq {driverId : Id} {today day : Day} {weeks : ℕ}
    (hday : day ∈ horizon today weeks) :
    db.loadedShift driverId today weeks day = (db.shiftsOn driverId day).getLast? := by
  obtain ⟨hfrom, hto⟩ := mem_horizon.mp hday
  rw [ShiftDb.loadedShift, lastWhere_eq_getLast?, List.filter_filter, ShiftDb.shiftsOn]
  refine congrArg List.getLast? (List.filter_congr fun s _ => ?_)
  rw [Bool.eq_iff_iff, Bool.and_eq_true, decide_eq_true_iff, decide_eq_true_iff,
    decide_eq_true_iff]
  constructor
  · exact fun h => ⟨h.2.1, h.1⟩
  · rintro ⟨hdriver, rfl⟩
    exact ⟨rfl, hdriver, hfrom, hto⟩

/-- The unique constraint leaves one shift on a day at most. -/
theorem OnePerDate.shiftsOn_eq (h : OnePerDate db) (driverId : Id) (day : Day) :
    db.shiftsOn driverId day = ((db.shiftsOn driverId day).getLast?).toList := by
  have hnodup : (db.shiftsOn driverId day).Nodup :=
    (List.Nodup.of_map _ db.shifts.nodup).sublist List.filter_sublist
  have hsame : ∀ s ∈ db.shiftsOn driverId day, ∀ t ∈ db.shiftsOn driverId day, s = t := by
    intro s hs t ht
    obtain ⟨hs, hsdriver, hsdate⟩ := mem_shiftsOn.mp hs
    obtain ⟨ht, htdriver, htdate⟩ := mem_shiftsOn.mp ht
    exact h s hs t ht (hsdriver.trans htdriver.symm) (hsdate.trans htdate.symm)
  cases hl : db.shiftsOn driverId day with
  | nil => rfl
  | cons s rest =>
      cases rest with
      | nil => rfl
      | cons t rest =>
          rw [hl] at hnodup hsame
          have heq := hsame s List.mem_cons_self t (by simp)
          exact absurd (heq ▸ List.mem_cons_self) (List.nodup_cons.mp hnodup).1

end Horizon

/-! ### Exactly the template -/

/-- The days of the horizon are as they should be: a manual shift is left alone, and where there
is none there is exactly one shift of the template when it is active and no holiday blocks the
driver, and none when it is not active or the day is `closed`. Other days do not change. -/
structure SyncsExactly (db db' : ShiftDb) (driver : Driver) (today : Day) (weeks : ℕ)
    (closed : Day → Prop) : Prop where
  manual : ∀ day ∈ horizon today weeks, (∃ s ∈ db.shiftsOn driver.id day, s.origin = .manual) →
    db'.shiftsOn driver.id day = db.shiftsOn driver.id day
  active : ∀ day ∈ horizon today weeks, (∀ s ∈ db.shiftsOn driver.id day, s.origin ≠ .manual) →
    ¬ Blocked db.holidays driver day → ∀ t ∈ db.templateTimes driver.id day,
    ∃ s, db'.shiftsOn driver.id day = [s] ∧ s.origin = .weeklyTemplate ∧
      s.startTime = combine day t.1 ∧ s.endTime = combine day t.2 ∧ s.status = shiftStatusPlanned
  inactive : ∀ day ∈ horizon today weeks,
    (∀ s ∈ db.shiftsOn driver.id day, s.origin ≠ .manual) →
    db.templateTimes driver.id day = none ∨ closed day → db'.shiftsOn driver.id day = []
  elsewhere : ∀ driverId day, ¬ (driverId = driver.id ∧ day ∈ horizon today weeks) →
    db'.shiftsOn driverId day = db.shiftsOn driverId day

/-- A first synchronisation leaves the days of the horizon as they should be, and a second one
changes nothing and returns 0. -/
def SyncsOnce (db : ShiftDb) (driver : Driver) (today : Day) (weeks : ℕ)
    (closed : Day → Prop) : Prop :=
  ∃ db' n, syncShiftsCounted db driver.id today weeks = .ok (db', n) ∧
    SyncsExactly db db' driver today weeks closed ∧
    syncShiftsCounted db' driver.id today weeks = .ok (db', 0)

/-- Some holiday blocks the driver on the day, and every holiday for him on it does. -/
def BlockedByAll (holidays : List Holiday) (driver : Driver) (day : Day) : Prop :=
  Blocked holidays driver day ∧
    ∀ h ∈ holidays, h.Covers driver day → holidayBlocksDriver driver.id h = true

section Exact

variable {db db' : ShiftDb} {driver : Driver} {day : Day}

/-- Where no holiday blocks the driver, the one that counts does not. -/
theorem any_blocks_of_not_blocked (h : ¬ Blocked db.holidays driver day) :
    (getHolidayOnDate db driver day).any (holidayBlocksDriver driver.id) = false := by
  cases hon : getHolidayOnDate db driver day with
  | none => rfl
  | some holiday =>
      obtain ⟨hcovers, pre, post, hl, -⟩ := getHolidayOnDate_iff.mp hon
      refine Bool.eq_false_iff.mpr fun hblocks => h ⟨holiday, ?_, hcovers, hblocks⟩
      rw [hl]
      simp

/-- Where all holidays block the driver, the one that counts does. -/
theorem any_blocks_of_blockedByAll (h : BlockedByAll db.holidays driver day) :
    (getHolidayOnDate db driver day).any (holidayBlocksDriver driver.id) = true := by
  obtain ⟨⟨holiday, hmem, hcovers, -⟩, hall⟩ := h
  cases hon : getHolidayOnDate db driver day with
  | none => exact absurd hcovers (getHolidayOnDate_eq_none_iff.mp hon holiday hmem)
  | some first =>
      obtain ⟨hcovers', pre, post, hl, -⟩ := getHolidayOnDate_iff.mp hon
      exact hall first (hl ▸ by simp) hcovers'

/-- What the loop leaves is what should be there. -/
theorem DaysExact.syncsExactly {today : Day} {weeks : ℕ}
    (hon : ∀ day ∈ horizon today weeks,
      db.shiftsOn driver.id day = (db.loadedShift driver.id today weeks day).toList)
    (h : DaysExact db db' driver (horizon today weeks) (db.templateTimes driver.id)
      (db.loadedShift driver.id today weeks)) :
    SyncsExactly db db' driver today weeks (BlockedByAll db.holidays driver) where
  manual := by
    intro day hday hmanual
    obtain ⟨id, hid⟩ := h.onDays day hday
    rw [hid, hon day hday]
    rw [hon day hday] at hmanual
    cases hloaded : db.loadedShift driver.id today weeks day with
    | none => simp [hloaded] at hmanual
    | some shift =>
        have horigin : shift.origin = .manual := by simpa [hloaded] using hmanual
        rw [syncedShift, if_pos horigin]
  active := by
    intro day hday hmanual hblocked times htimes
    obtain ⟨id, hid⟩ := h.onDays day hday
    rw [any_blocks_of_not_blocked hblocked, Option.mem_def.mp htimes] at hid
    rw [hon day hday] at hmanual
    cases hloaded : db.loadedShift driver.id today weeks day with
    | none =>
        rw [hloaded] at hid
        exact ⟨_, hid, rfl, rfl, rfl, rfl⟩
    | some shift =>
        have horigin : shift.origin ≠ .manual := hmanual shift (by simp [hloaded])
        rw [hloaded, syncedShift, if_neg horigin] at hid
        exact ⟨_, hid, rfl, rfl, rfl, rfl⟩
  inactive := by
    intro day hday hmanual hnone
    obtain ⟨id, hid⟩ := h.onDays day hday
    rw [hon day hday] at hmanual
    rw [hid, Option.toList_eq_nil_iff]
    have hclosed : (getHolidayOnDate db driver day).any (holidayBlocksDriver driver.id) = true ∨
        db.templateTimes driver.id day = none :=
      hnone.symm.imp_left any_blocks_of_blockedByAll
    cases hloaded : db.loadedShift driver.id today weeks day with
    | none => rcases hclosed with hclosed | hclosed <;> simp [syncedShift, hclosed]
    | some shift =>
        have horigin : shift.origin ≠ .manual := hmanual shift (by simp [hloaded])
        rcases hclosed with hclosed | hclosed <;> simp [syncedShift, horigin, hclosed]
  elsewhere := h.elsewhere

/-- **The weekly synchronisation makes the shifts of the horizon those of the template**: manual
shifts are left alone, and a second run has nothing to do. Where holidays disagree about the
driver nothing is said. -/
theorem weekly_sync_exact (db : ShiftDb) (driver : Driver) (today : Day) (weeks : ℕ)
    (hdriver : db.drivers.find? driver.id = some driver) (hone : OnePerDate db) :
    SyncsOnce db driver today weeks (BlockedByAll db.holidays driver) := by
  have hon : ∀ day ∈ horizon today weeks,
      db.shiftsOn driver.id day = (db.loadedShift driver.id today weeks day).toList := by
    intro day hday
    rw [loadedShift_eq hday]
    exact hone.shiftsOn_eq driver.id day
  obtain ⟨db', n, hloop, hexact⟩ := foldlM_syncDayCounted
    (db.templateTimes driver.id) (nodup_horizon today weeks) hon 0
  refine ⟨db', n, ?_, hexact.syncsExactly hon, ?_⟩
  · exact bind_eq_ok.mpr ⟨driver, orRaise_eq_ok.mpr hdriver, hloop⟩
  · refine bind_eq_ok.mpr ⟨driver, orRaise_eq_ok.mpr (hexact.drivers ▸ hdriver), ?_⟩
    refine foldlM_leave (fun day hday => ?_) 0
    obtain ⟨id, hid⟩ := hexact.onDays day hday
    have htimes : db'.templateTimes driver.id = db.templateTimes driver.id := by
      funext day
      rw [ShiftDb.templateTimes, ShiftDb.templateTimes, hexact.weekly]
    have hlast : ∀ o : Option DriverShift, o.toList.getLast? = o := fun o => by cases o <;> rfl
    rw [htimes, loadedShift_eq hday, hid, hlast,
      ← getHolidayOnDate_congr hexact.holidays driver day]
    exact syncAction_syncedShift id day _ _

end Exact

/-- Nine o'clock and five o'clock. -/
def nineOClock : TimeOfDay := ⟨32400000000, by decide, none⟩

@[inherit_doc nineOClock]
def fiveOClock : TimeOfDay := ⟨61200000000, by decide, none⟩

/-- A driver who works from nine to five on the weekday of day 12. -/
def nineToFive (holidays : List Holiday) (shifts : Table DriverShift.id) : ShiftDb where
  drivers := .singleton companyDriver
  holidays := holidays
  weekly := .singleton ⟨1, 1, 4, true, some nineOClock, some fiveOClock⟩
  shifts := shifts

/-- A shift from nine to five on day 12. -/
def templateShift (id : Id) : DriverShift :=
  ⟨id, 1, 12, combine 12 nineOClock, combine 12 fiveOClock, shiftStatusPlanned, .weeklyTemplate⟩

/-- Two shifts of the template on one day, which the database does not allow, stay two. And where
one holiday lets the driver work and another one does not, the driver gets a shift. -/
theorem two_shifts_stay :
    ¬ SyncsOnce (nineToFive [] ((Table.singleton (templateShift 1)).insert (templateShift 2)))
        companyDriver 12 0 (Blocked [] companyDriver) ∧
    OnePerDate (nineToFive overlappingHolidays .empty) ∧
    ¬ SyncsOnce (nineToFive overlappingHolidays .empty) companyDriver 12 0
        (Blocked overlappingHolidays companyDriver) := by
  refine ⟨?_, fun a ha => absurd ha List.not_mem_nil, ?_⟩
  · rintro ⟨db', n, hsync, hexact, -⟩
    have htwo : (syncShiftsCounted (nineToFive [] ((Table.singleton (templateShift 1)).insert
        (templateShift 2))) 1 12 0).map (fun r => (r.1.shiftsOn 1 12).length) = .ok 2 := by
      decide +kernel
    obtain ⟨s, hs, -⟩ := hexact.active 12 (by decide) (by decide +kernel)
      (fun h => absurd h.choose_spec.1 List.not_mem_nil) (nineOClock, fiveOClock)
      (by decide +kernel)
    have hsync : syncShiftsCounted (nineToFive [] ((Table.singleton (templateShift 1)).insert
      (templateShift 2))) 1 12 0 = .ok (db', n) := hsync
    have hone : (db'.shiftsOn 1 12).length = 1 := congrArg List.length hs
    rw [hsync] at htwo
    exact absurd (hone.symm.trans (Except.ok.inj htwo)) (by decide)
  · rintro ⟨db', n, hsync, hexact, -⟩
    have hshift : (syncShiftsCounted (nineToFive overlappingHolidays .empty) 1 12 0).map
        (fun r => (r.1.shiftsOn 1 12).length) = .ok 1 := by decide +kernel
    have hnone := hexact.inactive 12 (by decide) (by decide +kernel)
      (.inr ⟨_, List.mem_cons_of_mem _ List.mem_cons_self, by decide, by decide⟩)
    have hsync : syncShiftsCounted (nineToFive overlappingHolidays .empty) 1 12 0
      = .ok (db', n) := hsync
    have hzero : (db'.shiftsOn 1 12).length = 0 := congrArg List.length hnone
    rw [hsync] at hshift
    exact absurd (hzero.symm.trans (Except.ok.inj hshift)) (by decide)

/-- One shift of the template is left as it is, and one that is missing comes. -/
theorem missing_shift_comes :
    SyncsOnce (nineToFive [] (.singleton (templateShift 1))) companyDriver 12 1
      (BlockedByAll [] companyDriver) :=
  weekly_sync_exact (nineToFive [] (.singleton (templateShift 1))) companyDriver 12 1
    (by decide) fun a ha b hb _ _ => by
      rw [List.mem_singleton.mp ha, List.mem_singleton.mp hb]

end SwCouriers
