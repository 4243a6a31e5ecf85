import SwCouriers.DriverShifts

/-!
# The Shift Calendar

A shift should start and end on its own date, in this order, and no two shifts of a driver
should overlap. The date is stored next to the two instants, and `update_shift` changes each of
the three by itself: a new date alone leaves the instants on the old one.

The unique constraint allows a driver one shift on a date, so shifts that lie on their own
dates do not overlap; all that has to be kept is that they do.

## Main results

* `disjoint_of_sound`: shifts on their own dates do not overlap.
* `syncShifts_ok`: what the synchronisation leaves behind is an old shift or lies on its date
  as the template says.
* `shift_calendar_sound`: along a run the calendar stays sound exactly if no accepted request
  moves a shift to another date without both times, and none sends times whose order depends
  on their offsets.
-/

namespace SwCouriers

open Checked

/-! ### Sound calendars -/

/-- A shift starts and ends on its date, in this order. -/
structure ShiftSound (s : DriverShift) : Prop where
  startDate : dateOf s.startTime = s.shiftDate
  endDate : dateOf s.endTime = s.shiftDate
  ordered : s.startTime < s.endTime

/-- `uq_driver_shifts_driver_date`. -/
def OnePerDate (db : ShiftDb) : Prop :=
  ∀ a ∈ db.shifts.rows, ∀ b ∈ db.shifts.rows, a.driverId = b.driverId →
    a.shiftDate = b.shiftDate → a = b

/-- A sound calendar, with the templates that new shifts are made from. -/
structure CalendarSound (db : ShiftDb) : Prop where
  sound : ∀ s ∈ db.shifts.rows, ShiftSound s
  disjoint : ∀ a ∈ db.shifts.rows, ∀ b ∈ db.shifts.rows, a.driverId = b.driverId → a ≠ b →
    a.endTime ≤ b.startTime ∨ b.endTime ≤ a.startTime
  templates : ∀ row ∈ db.weekly.rows, ∀ times ∈ row.activeTimes,
    times.1.micros < times.2.micros

theorem dateOf_combine (day : Day) (t : TimeOfDay) : dateOf (combine day t) = day := by
  have hlt : t.micros < 86400000000 := t.lt_day
  have hday : ∀ d m : ℤ, 0 ≤ m → m < 86400000000 →
      (d * 86400000000 + m) / 86400000000 = d := by omega
  exact hday day t.micros (by omega) (by omega)

variable {day : Day} {shift : DriverShift} {driverId : Id}

theorem combine_lt_combine_iff {a b : TimeOfDay} :
    combine day a < combine day b ↔ a.micros < b.micros := by
  rw [combine, combine, add_lt_add_iff_left, Nat.cast_lt]

/-- What is built from a date and two times is sound exactly if the times are in order. -/
theorem shiftSound_combine_iff {s : DriverShift} {a b : TimeOfDay}
    (hstart : s.startTime = combine s.shiftDate a) (hend : s.endTime = combine s.shiftDate b) :
    ShiftSound s ↔ a.micros < b.micros := by
  constructor
  · intro h
    have hordered := h.ordered
    rwa [hstart, hend, combine_lt_combine_iff] at hordered
  · intro h
    refine ⟨?_, ?_, ?_⟩
    · rw [hstart, dateOf_combine]
    · rw [hend, dateOf_combine]
    · rw [hstart, hend]
      exact combine_lt_combine_iff.mpr h

/-- Of two shifts on different dates the earlier one has ended when the later one starts. -/
theorem endTime_le_startTime {a b : DriverShift} (ha : ShiftSound a) (hb : ShiftSound b)
    (hlt : a.shiftDate < b.shiftDate) : a.endTime ≤ b.startTime := by
  have hdays : ∀ x y d e : ℤ, x / 86400000000 = d → y / 86400000000 = e → d < e → x ≤ y := by
    omega
  exact hdays _ _ _ _ ha.endDate hb.startDate hlt

/-- **Shifts on their own dates do not overlap.** -/
theorem disjoint_of_sound {db : ShiftDb} (hone : OnePerDate db)
    (hsound : ∀ s ∈ db.shifts.rows, ShiftSound s) :
    ∀ a ∈ db.shifts.rows, ∀ b ∈ db.shifts.rows, a.driverId = b.driverId → a ≠ b →
      a.endTime ≤ b.startTime ∨ b.endTime ≤ a.startTime := by
  intro a ha b hb hdriver hne
  rcases lt_trichotomy a.shiftDate b.shiftDate with hlt | heq | hlt
  · exact .inl (endTime_le_startTime (hsound a ha) (hsound b hb) hlt)
  · exact absurd (hone a ha b hb hdriver heq) hne
  · exact .inr (endTime_le_startTime (hsound b hb) (hsound a ha) hlt)

/-! ### One shift on a date -/

section OnePerDate

variable {db db' : ShiftDb}

theorem OnePerDate.of_subset (h : OnePerDate db)
    (hsub : ∀ s ∈ db'.shifts.rows, s ∈ db.shifts.rows) : OnePerDate db' :=
  fun a ha b hb => h a (hsub a ha) b (hsub b hb)

/-- A shift on a date without one. -/
theorem OnePerDate.insert (h : OnePerDate db) (hrows : db'.shifts.rows = db.shifts.rows ++ [shift])
    (hfree : ¬ ∃ s ∈ db.shifts.rows, s.driverId = shift.driverId ∧ s.shiftDate = shift.shiftDate) :
    OnePerDate db' := by
  intro a ha b hb hdriver hdate
  rw [hrows, List.mem_append, List.mem_singleton] at ha hb
  rcases ha with ha | rfl <;> rcases hb with hb | rfl
  · exact h a ha b hb hdriver hdate
  · exact absurd ⟨a, ha, hdriver, hdate⟩ hfree
  · exact absurd ⟨b, hb, hdriver.symm, hdate.symm⟩ hfree
  · rfl

/-- A shift that is rewritten to a date without another one. -/
theorem OnePerDate.modify (h : OnePerDate db) {id : Id} {f : DriverShift → DriverShift}
    (hf : ∀ s, (f s).id = s.id) (hshifts : db'.shifts = db.shifts.modify id f hf)
    (hdriver : ∀ s, (f s).driverId = s.driverId)
    (hfree : ∀ r ∈ db.shifts.rows, r.id = id → ∀ s ∈ db.shifts.rows, s.id ≠ id →
      s.driverId = r.driverId → s.shiftDate ≠ (f r).shiftDate) : OnePerDate db' := by
  intro a ha b hb hsame hdate
  rw [hshifts] at ha hb
  obtain ⟨a₀, ha₀, rfl⟩ := (Table.mem_modify_iff hf).mp ha
  obtain ⟨b₀, hb₀, rfl⟩ := (Table.mem_modify_iff hf).mp hb
  by_cases hida : a₀.id = id <;> by_cases hidb : b₀.id = id
  · rw [Table.eq_of_key ha₀ hb₀ (hida.trans hidb.symm)]
  · rw [if_pos hida, if_neg hidb] at hsame hdate
    exact absurd hdate.symm (hfree a₀ ha₀ hida b₀ hb₀ hidb (hsame.symm.trans (hdriver a₀)))
  · rw [if_neg hida, if_pos hidb] at hsame hdate
    exact absurd hdate (hfree b₀ hb₀ hidb a₀ ha₀ hida (hsame.trans (hdriver b₀)))
  · rw [if_neg hida, if_neg hidb] at hsame hdate ⊢
    exact h a₀ ha₀ b₀ hb₀ hsame hdate

end OnePerDate

/-! ### What an accepted request does -/

section Effects

variable {db db' : ShiftDb}

theorem insertShift_ok {shiftDate : Day} {startTime endTime : Instant} {status : String}
    {origin : ShiftOrigin}
    (h : insertShift db driverId shiftDate startTime endTime status origin = .ok db') :
    (¬ ∃ s ∈ db.shifts.rows, s.driverId = driverId ∧ s.shiftDate = shiftDate) ∧
      db'.weekly = db.weekly ∧ ∃ shift : DriverShift,
        shift.driverId = driverId ∧ shift.shiftDate = shiftDate ∧
        shift.startTime = startTime ∧ shift.endTime = endTime ∧
        db'.shifts.rows = db.shifts.rows ++ [shift] := by
  obtain ⟨hfree, h⟩ := raiseIf_bind_eq_ok.mp h
  obtain rfl := pure_eq_ok.mp h
  exact ⟨hfree, rfl, _, rfl, rfl, rfl, rfl,
    Table.rows_insert_of_notMem (Table.fresh_notMem _)⟩

theorem createShift_ok {shiftDate : Day} {startTime endTime : TimeOfDay} {status : String}
    (h : createShift db driverId shiftDate startTime endTime status = .ok db') :
    insertShift db driverId shiftDate (combine shiftDate startTime) (combine shiftDate endTime)
      status .manual = .ok db' := by
  obtain ⟨_, -, h⟩ := bind_eq_ok.mp h
  obtain ⟨_, -, h⟩ := bind_eq_ok.mp h
  replace h := ok_of_check h
  replace h := ok_of_check h
  replace h := ok_of_check h
  exact h

/-- A shift that was changed. -/
theorem updateShift_ok {shiftId : Id} {patch : ShiftPatch}
    (h : updateShift db shiftId patch = .ok db') :
    ∃ shift, db.shifts.find? shiftId = some shift ∧
      patch.newStartDt shift < patch.newEndDt shift ∧
      (patch.isEmpty = true ∧ db' = db ∨
        (¬ ∃ s ∈ db.shifts.rows, s.id ≠ shiftId ∧ s.driverId = shift.driverId ∧
          s.shiftDate = patch.newDate shift) ∧
        db' = { db with shifts := db.shifts.modify shiftId patch.apply patch.id_apply }) := by
  obtain ⟨shift, hshift, h⟩ := orRaise_bind_eq_ok.mp h
  obtain ⟨hordered, h⟩ := raiseIf_bind_eq_ok.mp h
  replace h := ok_of_check h
  replace h := ok_of_check h
  refine ⟨shift, hshift, not_le.mp hordered, ?_⟩
  split_ifs at h with hempty
  · exact .inl ⟨hempty, (pure_eq_ok.mp h).symm⟩
  · obtain ⟨hfree, h⟩ := raiseIf_bind_eq_ok.mp h
    exact .inr ⟨hfree, (pure_eq_ok.mp h).symm⟩

theorem deleteShift_ok {shiftId : Id} (h : deleteShift db shiftId = .ok db') :
    db'.weekly = db.weekly ∧ ∀ s ∈ db'.shifts.rows, s ∈ db.shifts.rows := by
  obtain ⟨_, -, h⟩ := bind_eq_ok.mp h
  obtain rfl := pure_eq_ok.mp h
  exact ⟨rfl, fun s hs => (Table.mem_deleteWhere_iff.mp hs).1⟩

/-- What one day of the synchronisation does: other days are as they were, and a shift of the
day is one that was there or has the times of the template. -/
structure DaySynced (db db' : ShiftDb) (day : Day) (times : Option (TimeOfDay × TimeOfDay)) :
    Prop where
  weekly : db'.weekly = db.weekly
  unique : OnePerDate db → OnePerDate db'
  others : ∀ s ∈ db.shifts.rows, s.shiftDate ≠ day → s ∈ db'.shifts.rows
  shifts : ∀ s ∈ db'.shifts.rows, s ∈ db.shifts.rows ∨ s.shiftDate = day ∧
    ∃ t ∈ times, s.startTime = combine day t.1 ∧ s.endTime = combine day t.2

theorem DaySynced.refl {times : Option (TimeOfDay × TimeOfDay)} : DaySynced db db day times :=
  ⟨rfl, fun h => h, fun _ hs _ => hs, fun _ hs => .inl hs⟩

/-- A shift of the day is removed. -/
theorem daySynced_delete {times : Option (TimeOfDay × TimeOfDay)} (hmem : shift ∈ db.shifts.rows)
    (hday : shift.shiftDate = day) :
    DaySynced db { db with shifts := db.shifts.deleteWhere fun s => s.id = shift.id } day
      times where
  weekly := rfl
  unique := fun h => h.of_subset fun _ hs => (Table.mem_deleteWhere_iff.mp hs).1
  others := by
    intro s hs hother
    refine Table.mem_deleteWhere_iff.mpr ⟨hs, fun hid => hother ?_⟩
    rw [Table.eq_of_key hs hmem hid, hday]
  shifts := fun s hs => .inl (Table.mem_deleteWhere_iff.mp hs).1

/-- A shift of the day gets the times of the template. -/
theorem daySynced_resync {times : TimeOfDay × TimeOfDay} (hmem : shift ∈ db.shifts.rows)
    (hday : shift.shiftDate = day) (hweekly : db'.weekly = db.weekly)
    (hshifts : db'.shifts = db.shifts.modify shift.id
      (DriverShift.resync (combine day times.1) (combine day times.2))
      (DriverShift.id_resync _ _)) : DaySynced db db' day (some times) where
  weekly := hweekly
  unique := by
    intro h
    refine h.modify (DriverShift.id_resync _ _) hshifts (fun _ => rfl)
      fun r hr hid s hs hne hdriver hdate => hne ?_
    rw [h s hs r hr hdriver hdate, hid]
  others := by
    intro s hs hother
    rw [hshifts]
    refine (Table.mem_modify_iff (DriverShift.id_resync _ _)).mpr ⟨s, hs, if_neg fun hid => ?_⟩
    exact hother (by rw [Table.eq_of_key hs hmem hid, hday])
  shifts := by
    intro s hs
    rw [hshifts] at hs
    obtain ⟨s₀, hs₀, rfl⟩ := (Table.mem_modify_iff (DriverShift.id_resync _ _)).mp hs
    by_cases hid : s₀.id = shift.id
    · obtain rfl := Table.eq_of_key hs₀ hmem hid
      rw [if_pos rfl]
      exact .inr ⟨hday, times, rfl, rfl, rfl⟩
    · rw [if_neg hid]
      exact .inl hs₀

theorem syncDay_ok {driver : Driver} {times : Option (TimeOfDay × TimeOfDay)}
    {existing : Option DriverShift}
    (hexisting : ∀ s ∈ existing, s ∈ db.shifts.rows ∧ s.shiftDate = day)
    (h : syncDay db driver day times existing = .ok db') : DaySynced db db' day times := by
  unfold syncDay at h
  cases existing with
  | some shift =>
      obtain ⟨hmem, hday⟩ := hexisting shift rfl
      dsimp only at h
      split_ifs at h
      · exact Except.ok.inj h ▸ .refl
      · exact Except.ok.inj h ▸ daySynced_delete hmem hday
      · cases times with
        | none => exact Except.ok.inj h ▸ daySynced_delete hmem hday
        | some times =>
            dsimp only at h
            split_ifs at h
            · exact Except.ok.inj h ▸ .refl
            · exact Except.ok.inj h ▸ daySynced_resync hmem hday rfl rfl
  | none =>
      dsimp only at h
      split_ifs at h
      · exact Except.ok.inj h ▸ .refl
      · cases times with
        | none => exact Except.ok.inj h ▸ .refl
        | some times =>
            obtain ⟨hfree, hweekly, shift, hdriver, hdate, hstart, hend, hrows⟩ :=
              insertShift_ok h
            refine ⟨hweekly, fun hone => hone.insert hrows (hdriver ▸ hdate ▸ hfree), ?_, ?_⟩
            · exact fun s hs _ => hrows ▸ List.mem_append_left _ hs
            · intro s hs
              rw [hrows, List.mem_append, List.mem_singleton] at hs
              rcases hs with hs | rfl
              · exact .inl hs
              · exact .inr ⟨hdate, times, rfl, hstart, hend⟩

theorem mem_of_lastWhere {ρ : Type} {rows : List ρ} {p : ρ → Bool} {r : ρ}
    (h : lastWhere rows p = some r) : r ∈ rows ∧ p r = true :=
  ⟨List.mem_reverse.mp (List.mem_of_find?_eq_some h), List.find?_some h⟩

/-- What was written from a template lies on its date. -/
def Templated (db : ShiftDb) (s : DriverShift) : Prop :=
  ∃ row ∈ db.weekly.rows, ∃ times ∈ row.activeTimes,
    s.startTime = combine s.shiftDate times.1 ∧ s.endTime = combine s.shiftDate times.2

/-- The loop over the days. A shift that was loaded is still there when its day comes, since
each round leaves the other days alone. -/
theorem syncDays_ok {driver : Driver} {rows : List DriverWeeklySchedule}
    {loaded : List DriverShift} {days : List Day} (hdays : days.Nodup)
    (hrows : ∀ row ∈ rows, row ∈ db.weekly.rows)
    (hloaded : ∀ s ∈ loaded, s.shiftDate ∈ days → s ∈ db.shifts.rows) (hone : OnePerDate db)
    (h : days.foldlM (fun db day => syncDay db driver day
      ((lastWhere rows fun row => row.dayOfWeek = weekday day).bind (·.activeTimes))
      (lastWhere loaded fun s => s.shiftDate = day)) db = .ok db') :
    db'.weekly = db.weekly ∧ OnePerDate db' ∧
      ∀ s ∈ db'.shifts.rows, s ∈ db.shifts.rows ∨ Templated db s := by
  induction days generalizing db with
  | nil =>
      obtain rfl := pure_eq_ok.mp h
      exact ⟨rfl, hone, fun s hs => .inl hs⟩
  | cons day days ih =>
      rw [List.foldlM_cons] at h
      obtain ⟨db₁, hday, h⟩ := bind_eq_ok.mp h
      obtain ⟨hnotMem, hnodup⟩ := List.nodup_cons.mp hdays
      have hexisting : ∀ s ∈ lastWhere loaded fun s => s.shiftDate = day,
          s ∈ db.shifts.rows ∧ s.shiftDate = day := by
        intro s hs
        obtain ⟨hmem, hmatch⟩ := mem_of_lastWhere hs
        have hdate : s.shiftDate = day := of_decide_eq_true hmatch
        exact ⟨hloaded s hmem (hdate ▸ List.mem_cons_self), hdate⟩
      have hsynced := syncDay_ok hexisting hday
      have hloaded₁ : ∀ s ∈ loaded, s.shiftDate ∈ days → s ∈ db₁.shifts.rows := by
        intro s hs hdate
        refine hsynced.others s (hloaded s hs (List.mem_cons_of_mem _ hdate)) fun heq => ?_
        exact hnotMem (heq ▸ hdate)
      obtain ⟨hweekly, hone', hshifts⟩ := ih hnodup (hsynced.weekly ▸ hrows) hloaded₁
        (hsynced.unique hone) h
      refine ⟨hweekly.trans hsynced.weekly, hone', fun s hs => ?_⟩
      rcases hshifts s hs with hs₁ | htemplated
      · refine (hsynced.shifts s hs₁).imp_right ?_
        rintro ⟨hdate, times, htimes, hstart, hend⟩
        obtain ⟨row, hrow, hactive⟩ := Option.bind_eq_some_iff.mp htimes
        exact ⟨row, hrows row (mem_of_lastWhere hrow).1, times, hactive, hdate ▸ hstart,
          hdate ▸ hend⟩
      · right
        obtain ⟨row, hrow, hrest⟩ := htemplated
        exact ⟨row, hsynced.weekly ▸ hrow, hrest⟩

/-- **What the synchronisation leaves behind** is an old shift, or lies on its date as the
template says. -/
theorem syncShifts_ok {today : Day} {weeks : ℕ} (hone : OnePerDate db)
    (h : syncShiftsFromWeeklyTemplate db driverId today weeks = .ok db') :
    db'.weekly = db.weekly ∧ OnePerDate db' ∧
      ∀ s ∈ db'.shifts.rows, s ∈ db.shifts.rows ∨ Templated db s := by
  obtain ⟨driver, -, h⟩ := bind_eq_ok.mp h
  refine syncDays_ok ?_ (fun row hrow => List.mem_of_mem_filter hrow)
    (fun s hs _ => List.mem_of_mem_filter hs) hone h
  refine List.Nodup.map (fun i j heq => ?_) List.nodup_range
  exact Nat.cast_injective (add_left_cancel heq)

/-- A day of the template after `update_schedule_day` wrote it. -/
structure DayWritten (isActive : Bool) (startTime endTime : Option TimeOfDay)
    (row : DriverWeeklySchedule) : Prop where
  isActive : row.isActive = isActive
  startTime : row.startTime = startTime.map TimeOfDay.naive
  endTime : row.endTime = endTime.map TimeOfDay.naive

/-- A day of the template that was changed: one row was written, and the shifts were
synchronised with it. -/
theorem updateScheduleDay_ok {dayOfWeek : ℤ} {isActive : Bool}
    {startTime endTime : Option TimeOfDay} {today : Day}
    (h : updateScheduleDay db driverId dayOfWeek isActive startTime endTime today = .ok db') :
    ∃ weekly : Table DriverWeeklySchedule.id,
      syncShiftsFromWeeklyTemplate { db with weekly := weekly } driverId today syncHorizonWeeks
        = .ok db' ∧
      (∃ row ∈ weekly.rows, DayWritten isActive startTime endTime row) ∧
      ∀ row ∈ weekly.rows, row ∈ db.weekly.rows ∨ DayWritten isActive startTime endTime row := by
  replace h := ok_of_check h
  obtain ⟨_, -, h⟩ := bind_eq_ok.mp h
  replace h := ok_of_check h
  replace h := ok_of_check h
  refine ⟨_, h, ?_⟩
  split
  case h_1 row hrow =>
    have hmem : row ∈ db.weekly.rows := List.mem_of_mem_filter (List.mem_of_mem_head? hrow)
    have hid := DriverWeeklySchedule.id_write isActive startTime endTime
    constructor
    · refine ⟨row.write isActive startTime endTime, ?_, rfl, rfl, rfl⟩
      exact (Table.mem_modify_iff hid).mpr ⟨row, hmem, if_pos rfl⟩
    · intro r hr
      obtain ⟨r₀, hr₀, rfl⟩ := (Table.mem_modify_iff hid).mp hr
      split_ifs
      · exact .inr ⟨rfl, rfl, rfl⟩
      · exact .inl hr₀
  case h_2 =>
    have hrows := Table.rows_insert_of_notMem (r := (⟨db.weekly.fresh, driverId, dayOfWeek,
      isActive, startTime.map TimeOfDay.naive, endTime.map TimeOfDay.naive⟩ :
        DriverWeeklySchedule)) (Table.fresh_notMem db.weekly)
    dsimp only
    rw [hrows]
    constructor
    · exact ⟨_, List.mem_append_right _ List.mem_cons_self, rfl, rfl, rfl⟩
    · intro r hr
      rcases List.mem_append.mp hr with hr | hr
      · exact .inl hr
      · rw [List.mem_singleton.mp hr]
        exact .inr ⟨rfl, rfl, rfl⟩

end Effects

/-! ### What a request has to respect -/

/-- A new shift has its times in order as they are stored; a shift that moves to another date
takes both times along; and an active day of the template has its times in order. -/
def ShiftRequest.KeepsDates (db : ShiftDb) : ShiftRequest → Prop
  | .createShift _ _ startTime endTime _ => startTime.micros < endTime.micros
  | .updateShift shiftId patch => ∀ shift ∈ db.shifts.find? shiftId,
      patch.newDate shift = shift.shiftDate ∨
        patch.startTime.isSome = true ∧ patch.endTime.isSome = true
  | .updateScheduleDay _ _ isActive startTime endTime _ => ∀ s ∈ startTime, ∀ e ∈ endTime,
      isActive = true → s.micros < e.micros
  | .deleteShift _ => True
  | .syncShiftsFromWeeklyTemplate _ _ _ => True

section Steps

variable {db db' : ShiftDb}

/-- The constraint of the database holds after every request. -/
theorem onePerDate_exec {request : ShiftRequest} (hone : OnePerDate db)
    (h : request.exec db = .ok db') : OnePerDate db' := by
  cases request with
  | createShift driverId shiftDate startTime endTime status =>
      obtain ⟨hfree, -, shift, hdriver, hdate, -, -, hrows⟩ := insertShift_ok (createShift_ok h)
      exact hone.insert hrows (hdriver ▸ hdate ▸ hfree)
  | updateShift shiftId patch =>
      obtain ⟨shift, hshift, -, ⟨-, rfl⟩ | ⟨hfree, rfl⟩⟩ := updateShift_ok h
      · exact hone
      · obtain ⟨hmem, rfl⟩ := Table.find?_eq_some_iff.mp hshift
        refine hone.modify patch.id_apply rfl (fun _ => rfl)
          fun r hr hid s hs hne hdriver hdate => ?_
        obtain rfl := Table.eq_of_key hr hmem hid
        exact hfree ⟨s, hs, hne, hdriver, hdate⟩
  | deleteShift shiftId => exact hone.of_subset (deleteShift_ok h).2
  | syncShiftsFromWeeklyTemplate driverId today weeks => exact (syncShifts_ok hone h).2.1
  | updateScheduleDay driverId dayOfWeek isActive startTime endTime today =>
      obtain ⟨weekly, hsync, -⟩ := updateScheduleDay_ok h
      have hone' : OnePerDate { db with weekly := weekly } := hone
      exact (syncShifts_ok hone' hsync).2.1

/-- With one shift on a date, a calendar is sound exactly if each shift and each template
is. -/
theorem calendarSound_iff (hone : OnePerDate db) : CalendarSound db ↔
    (∀ s ∈ db.shifts.rows, ShiftSound s) ∧ ∀ row ∈ db.weekly.rows,
      ∀ times ∈ row.activeTimes, times.1.micros < times.2.micros :=
  ⟨fun h => ⟨h.sound, h.templates⟩,
    fun ⟨hsound, htemplates⟩ => ⟨hsound, disjoint_of_sound hone hsound, htemplates⟩⟩

/-- A changed shift is on its date exactly if it has kept the date or got both times. -/
theorem shiftSound_apply_iff {patch : ShiftPatch} (hsound : ShiftSound shift)
    (hordered : patch.newStartDt shift < patch.newEndDt shift) :
    ShiftSound (patch.apply shift) ↔ patch.newDate shift = shift.shiftDate ∨
      patch.startTime.isSome = true ∧ patch.endTime.isSome = true := by
  have hstart : dateOf (patch.newStartDt shift) = patch.newDate shift ↔
      patch.newDate shift = shift.shiftDate ∨ patch.startTime.isSome = true := by
    unfold ShiftPatch.newStartDt
    cases patch.startTime with
    | none => simp [hsound.startDate, eq_comm]
    | some t => simp [dateOf_combine]
  have hend : dateOf (patch.newEndDt shift) = patch.newDate shift ↔
      patch.newDate shift = shift.shiftDate ∨ patch.endTime.isSome = true := by
    unfold ShiftPatch.newEndDt
    cases patch.endTime with
    | none => simp [hsound.endDate, eq_comm]
    | some t => simp [dateOf_combine]
  rw [or_and_left, ← hstart, ← hend]
  exact ⟨fun h => ⟨h.startDate, h.endDate⟩, fun ⟨hs, he⟩ => ⟨hs, he, hordered⟩⟩

/-- The synchronisation makes sound shifts from sound templates. -/
theorem shiftSound_sync {today : Day} {weeks : ℕ} (hone : OnePerDate db)
    (hsound : ∀ s ∈ db.shifts.rows, ShiftSound s)
    (htemplates : ∀ row ∈ db.weekly.rows, ∀ times ∈ row.activeTimes,
      times.1.micros < times.2.micros)
    (h : syncShiftsFromWeeklyTemplate db driverId today weeks = .ok db') :
    ∀ s ∈ db'.shifts.rows, ShiftSound s := by
  intro s hs
  rcases (syncShifts_ok hone h).2.2 s hs with hs | ⟨row, hrow, times, htimes, hstart, hend⟩
  · exact hsound s hs
  · exact (shiftSound_combine_iff hstart hend).mpr (htemplates row hrow times htimes)

/-- The times of a day of the template that was written. -/
theorem activeTimes_written {isActive : Bool} {startTime endTime : Option TimeOfDay}
    {row : DriverWeeklySchedule} (h : DayWritten isActive startTime endTime row) :
    (∀ times ∈ row.activeTimes, times.1.micros < times.2.micros) ↔
      ∀ s ∈ startTime, ∀ e ∈ endTime, isActive = true → s.micros < e.micros := by
  unfold DriverWeeklySchedule.activeTimes
  rw [h.isActive, h.startTime, h.endTime]
  cases isActive <;> cases startTime <;> cases endTime <;> simp [TimeOfDay.naive]

/-- **One accepted request** keeps the calendar sound exactly if it keeps the dates. -/
theorem calendarSound_exec_iff {request : ShiftRequest} (hone : OnePerDate db)
    (hsound : CalendarSound db) (h : request.exec db = .ok db') :
    CalendarSound db' ↔ request.KeepsDates db := by
  rw [calendarSound_iff (onePerDate_exec hone h)]
  cases request with
  | createShift driverId shiftDate startTime endTime status =>
      obtain ⟨-, hweekly, shift, -, hdate, hstart, hend, hrows⟩ :=
        insertShift_ok (createShift_ok h)
      rw [hweekly, hrows]
      subst hdate
      rw [ShiftRequest.KeepsDates, ← shiftSound_combine_iff hstart hend]
      constructor
      · exact fun hall => hall.1 shift (List.mem_append_right _ List.mem_cons_self)
      · refine fun hshift => ⟨fun s hs => ?_, hsound.templates⟩
        rcases List.mem_append.mp hs with hs | hs
        · exact hsound.sound s hs
        · exact List.mem_singleton.mp hs ▸ hshift
  | updateShift shiftId patch =>
      obtain ⟨shift, hshift, hordered, ⟨hempty, rfl⟩ | ⟨-, rfl⟩⟩ := updateShift_ok h
      · refine iff_of_true ⟨hsound.sound, hsound.templates⟩ fun r _ => .inl ?_
        simp only [ShiftPatch.isEmpty, Bool.and_eq_true, Option.isNone_iff_eq_none] at hempty
        rw [ShiftPatch.newDate, hempty.1.1.1]
        rfl
      · obtain ⟨hmem, rfl⟩ := Table.find?_eq_some_iff.mp hshift
        have hiff := shiftSound_apply_iff (hsound.sound shift hmem) hordered
        constructor
        · intro hall r hr
          obtain rfl := Option.some.inj (hshift.symm.trans hr)
          refine hiff.mp (hall.1 _ ?_)
          exact (Table.mem_modify_iff patch.id_apply).mpr ⟨shift, hmem, if_pos rfl⟩
        · refine fun hkeeps => ⟨fun s hs => ?_, hsound.templates⟩
          obtain ⟨s₀, hs₀, rfl⟩ := (Table.mem_modify_iff patch.id_apply).mp hs
          split_ifs with hid
          · obtain rfl := Table.eq_of_key hs₀ hmem hid
            exact hiff.mpr (hkeeps s₀ hshift)
          · exact hsound.sound s₀ hs₀
  | deleteShift shiftId =>
      obtain ⟨hweekly, hsub⟩ := deleteShift_ok h
      exact iff_of_true
        ⟨fun s hs => hsound.sound s (hsub s hs), hweekly ▸ hsound.templates⟩ trivial
  | syncShiftsFromWeeklyTemplate driverId today weeks =>
      refine iff_of_true ⟨shiftSound_sync hone hsound.sound hsound.templates h, ?_⟩ trivial
      rw [(syncShifts_ok hone h).1]
      exact hsound.templates
  | updateScheduleDay driverId dayOfWeek isActive startTime endTime today =>
      obtain ⟨weekly, hsync, ⟨row, hrow, hwritten⟩, hrows⟩ := updateScheduleDay_ok h
      have hone' : OnePerDate { db with weekly := weekly } := hone
      have hweekly : db'.weekly = weekly := (syncShifts_ok hone' hsync).1
      constructor
      · exact fun hall => (activeTimes_written hwritten).mp (hall.2 row (hweekly ▸ hrow))
      · intro hkeeps
        have htemplates : ∀ row ∈ weekly.rows, ∀ times ∈ row.activeTimes,
            times.1.micros < times.2.micros := by
          intro r hr
          rcases hrows r hr with hr | hr
          · exact hsound.templates r hr
          · exact (activeTimes_written hr).mpr hkeeps
        exact ⟨shiftSound_sync hone' hsound.sound htemplates hsync, hweekly ▸ htemplates⟩

end Steps

/-! ### Runs -/

/-- **The shift calendar.** From a sound calendar on, every state of a run has a sound one
(each shift starts before it ends, both on its date, and no two shifts of a driver overlap;
and the templates are in order) exactly if every request that is accepted keeps the dates. -/
theorem shift_calendar_sound {db : ShiftDb} (hone : OnePerDate db) (hsound : CalendarSound db)
    (requests : List ShiftRequest) :
    (∀ pre post, requests = pre ++ post →
        CalendarSound (Runs.run ShiftRequest.step db pre)) ↔
      Runs.Along ShiftRequest.step
        (fun db request => (request.exec db).isOk = true → request.KeepsDates db) db requests := by
  refine Runs.forall_prefix_iff_along (I := OnePerDate) ?_ ?_ hone hsound requests
  · intro db request hone
    unfold ShiftRequest.step
    cases hexec : request.exec db with
    | error e => exact hone
    | ok db' => exact onePerDate_exec hone hexec
  · intro db request hone hsound
    unfold ShiftRequest.step
    cases hexec : request.exec db with
    | error e => exact iff_of_true hsound fun hok => absurd hok Bool.false_ne_true
    | ok db' =>
        rw [settle_ok, calendarSound_exec_iff hone hsound hexec]
        exact ⟨fun hkeeps _ => hkeeps, fun hkeeps => hkeeps rfl⟩

/-! ### A shift that is moved to the next day -/

/-- A time of day on the hour. -/
def oClock (hour : Fin 24) : TimeOfDay where
  micros := hour * 3600000000
  lt_day := by
    have hlt := hour.isLt
    unfold dayMicros
    omega

/-- A driver without shifts. -/
def restingDriver : ShiftDb :=
  ⟨.singleton ⟨1, none⟩, [], .empty, .empty⟩

/-- A shift from eight to four. -/
def dayShift : ShiftRequest := .createShift 1 739000 (oClock 8) (oClock 16) shiftStatusPlanned

/-- The shift is moved to the next day, by its date alone. -/
def moveByDate : ShiftRequest := .updateShift 1 { shiftDate := some 739001 }

/-- The shift is moved with both times. -/
def moveWithTimes : ShiftRequest :=
  .updateShift 1 ⟨some 739001, some (oClock 8), some (oClock 16), none⟩

theorem calendarSound_restingDriver : CalendarSound restingDriver :=
  ⟨fun _ h => absurd h List.not_mem_nil, fun _ h => absurd h List.not_mem_nil,
    fun _ h => absurd h List.not_mem_nil⟩

/-- The shift is on the next date now and still takes place on the day before. -/
theorem moved_shift_off_its_date :
    (Runs.run ShiftRequest.step restingDriver [dayShift, moveByDate]).shifts.rows.map
        (fun s => (s.shiftDate, dateOf s.startTime)) = [(739001, 739000)] ∧
      ¬ CalendarSound (Runs.run ShiftRequest.step restingDriver [dayShift, moveByDate]) := by
  have hrows : (Runs.run ShiftRequest.step restingDriver [dayShift, moveByDate]).shifts.rows.map
      (fun s => (s.shiftDate, dateOf s.startTime)) = [(739001, 739000)] := by decide +kernel
  refine ⟨hrows, fun hsound => ?_⟩
  obtain ⟨s, hs, heq⟩ := List.mem_map.mp (hrows ▸ List.mem_cons_self)
  obtain ⟨hdate, hstart⟩ := Prod.mk.inj heq
  have hsame := (hsound.sound s hs).startDate
  rw [hdate, hstart] at hsame
  exact absurd hsame (by decide)

/-- A shift that is moved with its times stays on its date. -/
theorem moved_shift_with_times :
    CalendarSound (Runs.run ShiftRequest.step restingDriver [dayShift, moveWithTimes]) := by
  refine (shift_calendar_sound (fun _ h => absurd h List.not_mem_nil)
    calendarSound_restingDriver [dayShift, moveWithTimes]).mpr ?_ [dayShift, moveWithTimes] []
      rfl
  exact ⟨fun _ => (by decide : (oClock 8).micros < (oClock 16).micros),
    fun _ shift _ => .inr ⟨rfl, rfl⟩, trivial⟩

end SwCouriers
