import SwCouriers.Lib.Runs
import SwCouriers.StatementScheduling

/-!
# Which Days Interval Schedules Cover

An interval schedule should cover its days without gaps: each period should start on the day
after the previous one has ended. A period ends on the day before its run. The next one
starts on the day after that run, so the day of the run itself is in neither.

## Main results

* `dueRun_spec`: when a due run generates a statement, and for which period.
* `interval_periods_tile_iff`: the periods of a schedule tile the calendar as long as no run
  after the first generates a statement, and no longer.
-/

namespace SwCouriers

open Checked

/-- A schedule, and the periods of the statements that it has generated. -/
structure ScheduleHistory where
  schedule : AccountStatementSchedule
  periods : List StatementPeriod
  deriving DecidableEq

/-- A due schedule is run at its next run. A run that raises changes nothing. -/
def dueRun (zoneInfo : String → Option Zone) (h : ScheduleHistory) (env : StatementEnv) :
    ScheduleHistory :=
  match h.schedule.nextRunAt with
  | none => h
  | some t =>
      if h.schedule.isDue t then
        match executeScheduleRun zoneInfo env h.schedule t with
        | .ok (schedule, period) => ⟨schedule, h.periods ++ period.toList⟩
        | .error _ => h
      else h

/-- Periods that start on the given day and then follow one another day by day. -/
def Tiles : Day → List StatementPeriod → Prop
  | _, [] => True
  | day, p :: ps => p.periodStart = day ∧ Tiles (p.periodEnd + 1) ps

instance Tiles.decidable : (day : Day) → (ps : List StatementPeriod) → Decidable (Tiles day ps)
  | _, [] => .isTrue trivial
  | day, p :: ps =>
      have := Tiles.decidable (p.periodEnd + 1) ps
      inferInstanceAs (Decidable (p.periodStart = day ∧ Tiles (p.periodEnd + 1) ps))

/-- The next period has to start where the last has ended. -/
theorem tiles_append_iff {day : Day} {ps : List StatementPeriod} {last p : StatementPeriod} :
    Tiles day (ps ++ [last] ++ [p]) ↔
      Tiles day (ps ++ [last]) ∧ p.periodStart = last.periodEnd + 1 := by
  induction ps generalizing day with
  | nil => simp [Tiles]
  | cons q ps ih =>
      simp only [List.cons_append, Tiles, and_assoc]
      exact and_congr_right fun _ => ih

/-! ### A due run -/

/-- The day that the next period of an interval schedule starts on. -/
def AccountStatementSchedule.firstDay (s : AccountStatementSchedule) (tz : Zone) : Day :=
  customPeriodStart s.validFrom s.lastRunAt tz

/-- The period that a run at `t` covers. -/
def AccountStatementSchedule.periodAt (s : AccountStatementSchedule) (tz : Zone)
    (t : Instant) : StatementPeriod :=
  ⟨s.firstDay tz, tz.localDate t - 1⟩

/-- The run of an interval schedule at `t` generates a statement: the schedule is due, the day
is in its window, there are days to cover and not too many, none of them in the future, there
are not two active statements for them already, and if there is none the organisation is
there. -/
structure Generates (zoneInfo : String → Option Zone) (env : StatementEnv)
    (s : AccountStatementSchedule) (tz : Zone) (t : Instant) : Prop where
  active : s.status = .active
  due : s.nextRunAt = some t
  zone : resolveTimezone zoneInfo s.timezone = .ok tz
  window : s.validFrom ≤ tz.localDate t ∧ tz.localDate t ≤ s.validTo
  nonempty : s.firstDay tz ≤ tz.localDate t - 1
  span : tz.localDate t - 1 - s.firstDay tz + 1 ≤ maxPeriodDays
  past : tz.localDate t - 1 ≤ env.today
  single : env.activeStatements (contentSignature s (s.periodAt tz t)) ≤ 1
  owner : env.activeStatements (contentSignature s (s.periodAt tz t)) ≠ 0 ∨
    env.organizationExists s.organizationId = true

/-- A schedule that runs at intervals, which were checked when it was created. -/
structure IsInterval (s : AccountStatementSchedule) : Prop where
  custom : s.frequency = .custom
  interval : ∃ days, parseIntervalDays s.customCron = .ok days

/-- A text that parses as an interval does not say `once`. -/
theorem IsInterval.not_once {s : AccountStatementSchedule} (h : IsInterval s) :
    isOnceCustomSchedule s.customCron = false := by
  obtain ⟨days, hdays⟩ := h.interval
  replace hdays := ok_of_check hdays
  obtain ⟨⟨⟩, honce, -⟩ := bind_eq_ok.mp hdays
  have honce := raiseIf_eq_ok.mp honce
  rw [isOnceCustomSchedule, Option.getD_some, strip_strip] at honce
  exact Bool.eq_false_iff.mpr honce

section DueRun

variable {zoneInfo : String → Option Zone} {env : StatementEnv} {s : AccountStatementSchedule}
  {tz : Zone} {t : Instant}

/-- The period of a run, when there are days to cover. -/
theorem periodOfRun_eq_ok (hs : IsInterval s) {p : StatementPeriod} :
    periodOfRun tz s (tz.localDate t) = .ok p ↔
      s.firstDay tz ≤ tz.localDate t - 1 ∧ p = s.periodAt tz t := by
  rw [periodOfRun, if_pos hs.custom, statementPeriodForCustomRun, hs.not_once,
    if_neg Bool.false_ne_true]
  constructor
  · intro h
    obtain ⟨⟨⟩, hdays, h⟩ := bind_eq_ok.mp h
    exact ⟨not_lt.mp (raiseIf_eq_ok.mp hdays), (pure_eq_ok.mp h).symm⟩
  · rintro ⟨hdays, rfl⟩
    exact bind_eq_ok.mpr ⟨⟨⟩, raiseIf_eq_ok.mpr (not_lt.mpr hdays), rfl⟩

theorem validatePeriod_eq_ok {p : StatementPeriod} {today : Day} {u : Unit} :
    validatePeriod p today = .ok u ↔ p.periodStart ≤ p.periodEnd ∧ p.periodEnd ≤ today ∧
      p.periodEnd - p.periodStart + 1 ≤ maxPeriodDays := by
  constructor
  · intro h
    obtain ⟨⟨⟩, hordered, h⟩ := bind_eq_ok.mp h
    obtain ⟨⟨⟩, hpast, hspan⟩ := bind_eq_ok.mp h
    exact ⟨not_lt.mp (raiseIf_eq_ok.mp hordered), not_lt.mp (raiseIf_eq_ok.mp hpast),
      not_lt.mp (raiseIf_eq_ok.mp hspan)⟩
  · rintro ⟨hordered, hpast, hspan⟩
    refine bind_eq_ok.mpr ⟨⟨⟩, raiseIf_eq_ok.mpr (not_lt.mpr hordered), ?_⟩
    exact bind_eq_ok.mpr ⟨⟨⟩, raiseIf_eq_ok.mpr (not_lt.mpr hpast),
      raiseIf_eq_ok.mpr (not_lt.mpr hspan)⟩

/-- The next run of an interval schedule can always be computed. -/
theorem IsInterval.exists_nextRun (hs : IsInterval s) (tz : Zone) (t : Instant) :
    ∃ following, nextRunAtUtc s.frequency tz s.validFrom s.validTo s.customCron t
      = .ok following := by
  obtain ⟨days, hdays⟩ := hs.interval
  rw [nextRunAtUtc, if_pos hs.custom, hs.not_once, if_neg Bool.false_ne_true]
  split_ifs with hover
  · exact ⟨none, rfl⟩
  · exact ⟨_, bind_eq_ok.mpr ⟨days, hdays, rfl⟩⟩

theorem outsideWindow_eq_false (hs : IsInterval s) {runLocal : Day} :
    outsideWindow s runLocal = false ↔ s.validFrom ≤ runLocal ∧ runLocal ≤ s.validTo := by
  simp [outsideWindow, hs.not_once]

/-- A run generates a statement for the days since the last run, or from the first day on. -/
theorem executeScheduleRun_of_generates (hs : IsInterval s)
    (h : Generates zoneInfo env s tz t) :
    ∃ following, executeScheduleRun zoneInfo env s t = .ok ({ s with
      lastRunAt := some t
      nextRunAt := following
      status := scheduleStatus following
      version := s.version + 1 }, some (s.periodAt tz t)) := by
  obtain ⟨following, hfollowing⟩ := hs.exists_nextRun tz t
  have hperiod : periodOfRun tz s (tz.localDate t) = .ok (s.periodAt tz t) :=
    (periodOfRun_eq_ok hs).mpr ⟨h.nonempty, rfl⟩
  have hvalid : validatePeriod (s.periodAt tz t) (tz.localDate t) = .ok () :=
    validatePeriod_eq_ok.mpr ⟨h.nonempty, Int.sub_le_self _ zero_le_one, h.span⟩
  have hcreate : createStatement env s (s.periodAt tz t) = .ok (s.periodAt tz t) := by
    refine bind_eq_ok.mpr ⟨⟨⟩, validatePeriod_eq_ok.mpr ⟨h.nonempty, h.past, h.span⟩, ?_⟩
    refine bind_eq_ok.mpr ⟨⟨⟩, raiseIf_eq_ok.mpr (not_lt.mpr h.single), ?_⟩
    refine bind_eq_ok.mpr ⟨⟨⟩, raiseIf_eq_ok.mpr fun hnone => ?_, rfl⟩
    rcases h.owner with hstored | hexists
    · exact absurd hnone.1 hstored
    · exact absurd hnone.2 (by simp [hexists])
  refine ⟨following, bind_eq_ok.mpr ⟨tz, h.zone, ?_⟩⟩
  dsimp only
  rw [(outsideWindow_eq_false hs).mpr h.window, if_neg Bool.false_ne_true]
  refine bind_eq_ok.mpr ⟨_, hperiod, bind_eq_ok.mpr ⟨⟨⟩, hvalid, ?_⟩⟩
  exact bind_eq_ok.mpr ⟨_, hcreate, bind_eq_ok.mpr ⟨_, hfollowing, rfl⟩⟩

/-- A run that returns has either generated a statement or ended its schedule. -/
theorem executeScheduleRun_ok (hs : IsInterval s) (hactive : s.status = .active)
    (hdue : s.nextRunAt = some t) {result : AccountStatementSchedule × Option StatementPeriod}
    (h : executeScheduleRun zoneInfo env s t = .ok result) :
    (∃ tz, Generates zoneInfo env s tz t) ∨
      result = ({ s with
        status := .completed
        nextRunAt := none
        version := s.version + 1 }, none) := by
  obtain ⟨tz, hzone, h⟩ := bind_eq_ok.mp h
  dsimp only at h
  split at h
  · exact .inr (pure_eq_ok.mp h).symm
  · rename_i hwindow
    obtain ⟨p, hperiod, h⟩ := bind_eq_ok.mp h
    replace h := ok_of_check h
    obtain ⟨p', hcreate, -⟩ := bind_eq_ok.mp h
    obtain ⟨hdays, rfl⟩ := (periodOfRun_eq_ok hs).mp hperiod
    obtain ⟨⟨⟩, hvalid, hcreate⟩ := bind_eq_ok.mp hcreate
    obtain ⟨hsingle, hcreate⟩ := raiseIf_bind_eq_ok.mp hcreate
    obtain ⟨⟨⟩, howner, -⟩ := bind_eq_ok.mp hcreate
    obtain ⟨-, hpast, hspan⟩ := validatePeriod_eq_ok.mp hvalid
    refine .inl ⟨tz, hactive, hdue, hzone, (outsideWindow_eq_false hs).mp ?_, hdays, hspan,
      hpast, not_lt.mp hsingle, ?_⟩
    · simpa using hwindow
    · have hnot := raiseIf_eq_ok.mp howner
      by_contra hneither
      simp only [not_or, Bool.not_eq_true, ne_eq, not_not] at hneither
      exact hnot hneither

/-- What a due run does to a history: it generates the statement of the next period, or none
and then leaves everything that the next period depends on. -/
theorem dueRun_spec (zoneInfo : String → Option Zone) (env : StatementEnv)
    (h : ScheduleHistory) (hs : IsInterval h.schedule) :
    (∃ tz t following, Generates zoneInfo env h.schedule tz t ∧
      dueRun zoneInfo h env = ⟨{ h.schedule with
        lastRunAt := some t
        nextRunAt := following
        status := scheduleStatus following
        version := h.schedule.version + 1 }, h.periods ++ [h.schedule.periodAt tz t]⟩) ∨
    (¬ ∃ tz t, Generates zoneInfo env h.schedule tz t) ∧
      ∃ status next version, dueRun zoneInfo h env = ⟨{ h.schedule with
        status := status
        nextRunAt := next
        version := version }, h.periods⟩ := by
  by_cases hgen : ∃ tz t, Generates zoneInfo env h.schedule tz t
  · obtain ⟨tz, t, hgen⟩ := hgen
    obtain ⟨following, hrun⟩ := executeScheduleRun_of_generates hs hgen
    have hdue : h.schedule.isDue t = true := by
      simp [AccountStatementSchedule.isDue, hgen.active, hgen.due]
    refine .inl ⟨tz, t, following, hgen, ?_⟩
    rw [dueRun, hgen.due]
    simp [hdue, hrun]
  · have hkept : h = ⟨{ h.schedule with
        status := h.schedule.status
        nextRunAt := h.schedule.nextRunAt
        version := h.schedule.version }, h.periods⟩ := rfl
    refine .inr ⟨hgen, ?_⟩
    rw [dueRun]
    split
    · exact ⟨_, _, _, hkept⟩
    · rename_i t hnext
      split_ifs with hdue
      · have hactive : h.schedule.status = .active := by
          simp only [AccountStatementSchedule.isDue, Bool.and_eq_true, decide_eq_true_eq]
            at hdue
          exact hdue.1
        split
        · rename_i schedule period hrun
          rcases executeScheduleRun_ok hs hactive hnext hrun with ⟨tz, hgen'⟩ | hended
          · exact absurd ⟨tz, t, hgen'⟩ hgen
          · obtain ⟨rfl, rfl⟩ := Prod.mk.inj hended
            exact ⟨_, _, _, by rw [Option.toList_none, List.append_nil]⟩
        · exact ⟨_, _, _, hkept⟩
      · exact ⟨_, _, _, hkept⟩

end DueRun

/-! ### Histories -/

/-- What holds along the history of an interval schedule: the last statement ends on the day
before the last run. -/
structure HistoryInv (zoneInfo : String → Option Zone) (validFrom : Day)
    (h : ScheduleHistory) : Prop where
  interval : IsInterval h.schedule
  start : h.schedule.validFrom = validFrom
  fresh : h.schedule.lastRunAt = none → h.periods = []
  last : ∀ t, h.schedule.lastRunAt = some t → ∃ tz ps p,
    resolveTimezone zoneInfo h.schedule.timezone = .ok tz ∧ h.periods = ps ++ [p] ∧
      p.periodEnd = tz.localDate t - 1

/-- A schedule that has generated a statement generates another. -/
def RunsAgain (zoneInfo : String → Option Zone) (env : StatementEnv)
    (s : AccountStatementSchedule) : Prop :=
  s.lastRunAt ≠ none ∧ ∃ tz t, Generates zoneInfo env s tz t

section Histories

variable {zoneInfo : String → Option Zone} {validFrom : Day} {h : ScheduleHistory}

theorem HistoryInv.step (hinv : HistoryInv zoneInfo validFrom h) (env : StatementEnv) :
    HistoryInv zoneInfo validFrom (dueRun zoneInfo h env) := by
  rcases dueRun_spec zoneInfo env h hinv.interval with
    ⟨tz, t, following, hgen, hrun⟩ | ⟨-, status, next, version, hrun⟩
  · rw [hrun]
    refine ⟨⟨hinv.interval.custom, hinv.interval.interval⟩, hinv.start,
      fun hnone => absurd hnone (by simp), fun t' ht' => ?_⟩
    obtain rfl : t = t' := Option.some.inj ht'
    exact ⟨tz, h.periods, _, hgen.zone, rfl, rfl⟩
  · rw [hrun]
    exact ⟨⟨hinv.interval.custom, hinv.interval.interval⟩, hinv.start, hinv.fresh, hinv.last⟩

/-- A due run keeps the periods tiled exactly if it is not one more after the first. -/
theorem HistoryInv.tiles_step_iff (hinv : HistoryInv zoneInfo validFrom h)
    (htiles : Tiles validFrom h.periods) (env : StatementEnv) :
    Tiles validFrom (dueRun zoneInfo h env).periods ↔ ¬ RunsAgain zoneInfo env h.schedule := by
  rcases dueRun_spec zoneInfo env h hinv.interval with
    ⟨tz, t, following, hgen, hrun⟩ | ⟨hnone, status, next, version, hrun⟩
  · rw [hrun]
    cases hlast : h.schedule.lastRunAt with
    | none =>
        have hperiods := hinv.fresh hlast
        have hstart : h.schedule.firstDay tz = validFrom := by
          rw [AccountStatementSchedule.firstDay, hlast]
          exact hinv.start
        refine iff_of_true ?_ fun hagain => hagain.1 hlast
        rw [hperiods]
        exact ⟨hstart, trivial⟩
    | some last =>
        obtain ⟨tz', ps, p, hzone, hperiods, hend⟩ := hinv.last last hlast
        obtain rfl : tz' = tz := Except.ok.inj (hzone.symm.trans hgen.zone)
        have hstart : h.schedule.firstDay tz' = tz'.localDate last + 1 := by
          rw [AccountStatementSchedule.firstDay, hlast]
          rfl
        refine iff_of_false ?_ (not_not.mpr ⟨by simp [hlast], tz', t, hgen⟩)
        -- The day of the last run lies between the two periods.
        dsimp only
        rw [hperiods, tiles_append_iff]
        rintro ⟨-, hadjacent⟩
        have hgap : h.schedule.firstDay tz' = p.periodEnd + 1 := hadjacent
        rw [hstart, hend, sub_add_cancel] at hgap
        exact absurd hgap (Int.lt_succ _).ne'
  · rw [hrun]
    exact iff_of_true htiles fun hagain => hnone hagain.2

end Histories

/-- A schedule that was created with an interval. -/
theorem createSchedule_isInterval {zoneInfo : String → Option Zone} {env : StatementEnv}
    {now : Instant} {input : ScheduleInput} {schedule : AccountStatementSchedule}
    (hcustom : input.frequency = some .custom) (hinterval : input.intervalDays ≠ none)
    (h : createSchedule zoneInfo env now input = .ok schedule) :
    IsInterval schedule ∧ schedule.lastRunAt = none := by
  replace h := ok_of_check h
  obtain ⟨frequency, hfrequency, h⟩ := orRaise_bind_eq_ok.mp h
  obtain ⟨tz, -, h⟩ := bind_eq_ok.mp h
  obtain ⟨window, -, h⟩ := bind_eq_ok.mp h
  obtain ⟨stored, hstored, h⟩ := bind_eq_ok.mp h
  obtain ⟨nextRun, -, h⟩ := bind_eq_ok.mp h
  obtain rfl := pure_eq_ok.mp h
  obtain rfl : frequency = .custom :=
    Option.some.inj (hfrequency.symm.trans hcustom)
  obtain ⟨days, hdays⟩ := Option.ne_none_iff_exists'.mp hinterval
  rw [hdays, storedInterval] at hstored
  obtain ⟨parsed, hparsed, hstored⟩ := bind_eq_ok.mp hstored
  obtain rfl := pure_eq_ok.mp hstored
  exact ⟨⟨rfl, parsed, hparsed⟩, rfl⟩

/-- **The periods of an interval schedule tile the calendar from its first day on exactly as
long as no run after the first generates a statement.** -/
theorem interval_periods_tile_iff (zoneInfo : String → Option Zone) (env : StatementEnv)
    (now : Instant) (input : ScheduleInput) (schedule : AccountStatementSchedule)
    (hcustom : input.frequency = some .custom) (hinterval : input.intervalDays ≠ none)
    (hcreate : createSchedule zoneInfo env now input = .ok schedule)
    (envs : List StatementEnv) :
    (∀ pre post, envs = pre ++ post →
      Tiles schedule.validFrom (Runs.run (dueRun zoneInfo) ⟨schedule, []⟩ pre).periods) ↔
    Runs.Along (dueRun zoneInfo) (fun h env => ¬ RunsAgain zoneInfo env h.schedule)
      ⟨schedule, []⟩ envs := by
  obtain ⟨hschedule, hlast⟩ := createSchedule_isInterval hcustom hinterval hcreate
  have hstart : HistoryInv zoneInfo schedule.validFrom ⟨schedule, []⟩ :=
    ⟨hschedule, rfl, fun _ => rfl, fun t ht => absurd (hlast.symm.trans ht) (by simp)⟩
  exact Runs.forall_prefix_iff_along (I := HistoryInv zoneInfo schedule.validFrom)
    (M := fun h => Tiles schedule.validFrom h.periods) (fun _ env hinv => hinv.step env)
    (fun _ env hinv htiles => hinv.tiles_step_iff htiles env) hstart trivial envs

/-- The zone without an offset. -/
def utc : Zone where
  localDate := fun t => t / 86400000000
  localRunDt := fun day => day * 86400000000 + 21600000000

/-- A weekly schedule over a hundred days. -/
def weekly : ScheduleInput where
  organizationId := 1
  frequency := some .custom
  validFrom := some 0
  validTo := some 99
  timezone := "UTC"
  includeLineItemDetail := false
  includeCreditNotes := true
  includePaymentHistory := true
  intervalDays := some 7

/-- The organisation exists, no statement is stored, and the queue knows no job. -/
def quietEnv : StatementEnv where
  organizationExists := fun _ => true
  today := 99
  activeStatements := fun _ => 0
  knowsJob := fun _ => false

/-- The weekly schedule, created at seven o'clock on its first day. -/
def weeklySchedule : AccountStatementSchedule where
  organizationId := 1
  frequency := .custom
  validFrom := 0
  validTo := 99
  timezone := "UTC"
  customCron := some "7"
  includeLineItemDetail := false
  includeCreditNotes := true
  includePaymentHistory := true
  status := .active
  nextRunAt := some 626400000000
  lastRunAt := none
  version := 1

/-- Two runs of the weekly schedule cover the days 0 to 6 and 8 to 13; day 7 is lost. -/
theorem run_day_is_lost :
    createSchedule (fun _ => some utc) quietEnv 25200000000 weekly = .ok weeklySchedule ∧
    (Runs.run (dueRun fun _ => some utc) ⟨weeklySchedule, []⟩ [quietEnv, quietEnv]).periods
      = [⟨0, 6⟩, ⟨8, 13⟩] ∧
    ¬ Tiles 0 (Runs.run (dueRun fun _ => some utc) ⟨weeklySchedule, []⟩
      [quietEnv, quietEnv]).periods := by
  decide +kernel

/-- The first run of the weekly schedule tiles. -/
theorem first_run_tiles :
    (Runs.run (dueRun fun _ => some utc) ⟨weeklySchedule, []⟩ [quietEnv]).periods = [⟨0, 6⟩] ∧
      ∀ pre post, [quietEnv] = pre ++ post →
        Tiles 0 (Runs.run (dueRun fun _ => some utc) ⟨weeklySchedule, []⟩ pre).periods :=
  ⟨by decide +kernel, (interval_periods_tile_iff (fun _ => some utc) quietEnv 25200000000 weekly
    weeklySchedule rfl (by decide) (by decide +kernel) [quietEnv]).mpr
      ⟨fun hagain => hagain.1 rfl, trivial⟩⟩

end SwCouriers
