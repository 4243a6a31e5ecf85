import SwCouriers.StatementProgress

/-!
# One-Off Schedules

A CUSTOM schedule that is stored as `once` should queue its statement once and then be
COMPLETED. After its run the next run is computed again, and on its last day an overdue run
is due again a second later: the schedule stays ACTIVE and every pass of that day runs it. The
queue drops the deliveries of those runs as long as it knows the first one, and takes another
when it has forgotten it.

## Main results

* `executeScheduleRun_once`: what the run of a one-off schedule leaves of it.
* `fires_once_of_along`: it fires once along every run in which it does not fire on its last
  day, nor in a pass that raises afterwards.
-/

namespace SwCouriers

open Checked

/-- The schedules, and the deliveries that were queued. -/
structure StatementStore where
  schedules : Table ScheduleRow.id
  enqueued : List DeliveryJob

/-- One call of the job. -/
structure Tick where
  env : StatementEnv
  now : Instant

/-- `process_due_schedules`. Every round leaves one schedule fewer that is due. -/
def processDueSchedules (zoneInfo : String → Option Zone) (env : StatementEnv) (now : Instant)
    (p : Pass) : Pass × PassEnd :=
  processFrom zoneInfo env now ((dueCount p.schedules now).toNat + 1) p

/-- `run_account_statement_schedules_task`. When the pass raises, what it has written is
rolled back; what it has queued is not. -/
def schedulesTask (zoneInfo : String → Option Zone) (σ : StatementStore) (tick : Tick) :
    StatementStore :=
  match processDueSchedules zoneInfo tick.env tick.now ⟨σ.schedules, [], σ.enqueued⟩ with
  | (p, .returned) => ⟨p.schedules, p.enqueued⟩
  | (p, _) => ⟨σ.schedules, p.enqueued⟩

/-- The deliveries that were queued for a schedule. -/
def deliveries (enqueued : List DeliveryJob) (k : Id) : ℕ :=
  enqueued.countP fun job => job.scheduleId = k

/-- A schedule has ended, and has no next run. -/
def Ended (s : AccountStatementSchedule) : Prop :=
  s.status = .completed ∧ s.nextRunAt = none

/-- At most one delivery was queued for the schedule, and once it was the schedule has
ended. -/
def FiresOnce (k : Id) (σ : StatementStore) : Prop :=
  deliveries σ.enqueued k ≤ 1 ∧
    (0 < deliveries σ.enqueued k →
      ∀ row ∈ σ.schedules.rows, row.id = k → Ended row.schedule)

/-- What the service keeps of the schedules: each has ended, or it is active and was checked;
its organisation is one of `orgs`; and the schedule `k` is a one-off one. -/
structure Kept (zoneInfo : String → Option Zone) (orgs : Id → Prop) (k : Id)
    (t : Table ScheduleRow.id) : Prop where
  rows : ∀ row ∈ t.rows, Ended row.schedule ∨ ActiveSchedule zoneInfo row.schedule
  owners : ∀ row ∈ t.rows, orgs row.schedule.organizationId
  once : ∀ row ∈ t.rows, row.id = k →
    row.schedule.frequency = .custom ∧ isOnceCustomSchedule row.schedule.customCron = true

/-- The pass comes to a one-off schedule that can run, and either the local day is not after
its last day, or some other schedule that is due cannot run. -/
def Spoils (zoneInfo : String → Option Zone) (k : Id) (σ : StatementStore) (tick : Tick) :
    Prop :=
  ∃ row ∈ σ.schedules.rows, row.id = k ∧ row.schedule.isDue tick.now = true ∧
    Runnable zoneInfo tick.env tick.now row.schedule ∧
    (∀ r ∈ σ.schedules.rows, r.schedule.isDue tick.now = true →
      r.schedule.nextRunAt.getD tick.now < row.schedule.nextRunAt.getD tick.now →
      Runnable zoneInfo tick.env tick.now r.schedule) ∧
    ((∃ tz, resolveTimezone zoneInfo row.schedule.timezone = .ok tz ∧
        tz.localDate tick.now ≤ row.schedule.validTo) ∨
      ∃ r ∈ σ.schedules.rows, r.schedule.isDue tick.now = true ∧
        ¬ Runnable zoneInfo tick.env tick.now r.schedule)

/-! ### A run of one schedule -/

section Run

variable {zoneInfo : String → Option Zone} {env : StatementEnv} {now : Instant}
  {s s' : AccountStatementSchedule} {period : Option StatementPeriod}

/-- A run changes the last run, the next run and what follows from it, and nothing else. -/
theorem executeScheduleRun_keeps (h : executeScheduleRun zoneInfo env s now = .ok (s', period)) :
    ∃ last following version, s' = { s with
      lastRunAt := last
      nextRunAt := following
      status := scheduleStatus following
      version := version } ∧ (period ≠ none → ∃ tz,
        resolveTimezone zoneInfo s.timezone = .ok tz ∧
        nextRunAtUtc s.frequency tz s.validFrom s.validTo s.customCron now = .ok following) := by
  obtain ⟨tz, hzone, h⟩ := bind_eq_ok.mp h
  dsimp only at h
  split at h
  · obtain ⟨rfl, rfl⟩ := Prod.mk.inj (pure_eq_ok.mp h)
    exact ⟨s.lastRunAt, none, _, rfl, fun hne => absurd rfl hne⟩
  · obtain ⟨p, -, h⟩ := bind_eq_ok.mp h
    replace h := ok_of_check h
    obtain ⟨p', -, h⟩ := bind_eq_ok.mp h
    obtain ⟨following, hfollowing, h⟩ := bind_eq_ok.mp h
    obtain ⟨rfl, rfl⟩ := Prod.mk.inj (pure_eq_ok.mp h)
    exact ⟨some now, following, _, rfl, fun _ => ⟨tz, hzone, hfollowing⟩⟩

/-- What a run leaves of a checked schedule is checked, too, or has ended. -/
theorem ActiveSchedule.ended_or_active (hs : ActiveSchedule zoneInfo s)
    (h : executeScheduleRun zoneInfo env s now = .ok (s', period)) :
    Ended s' ∨ ActiveSchedule zoneInfo s' := by
  obtain ⟨last, following, version, rfl, -⟩ := executeScheduleRun_keeps h
  cases following with
  | none => exact .inl ⟨rfl, rfl⟩
  | some u => exact .inr ⟨rfl, by simp, hs.dates, hs.accepted⟩

/-- **A one-off schedule that runs after its last day has ended, and it has generated its
statement.** -/
theorem executeScheduleRun_once (hcustom : s.frequency = .custom)
    (honce : isOnceCustomSchedule s.customCron = true)
    (h : executeScheduleRun zoneInfo env s now = .ok (s', period)) :
    period ≠ none ∧
      ((∀ tz, resolveTimezone zoneInfo s.timezone = .ok tz → s.validTo < tz.localDate now) →
        Ended s') := by
  have hperiod : period ≠ none := by
    obtain ⟨tz, -, h⟩ := bind_eq_ok.mp h
    dsimp only at h
    rw [if_neg (by simp [outsideWindow, hcustom, honce])] at h
    obtain ⟨p, -, h⟩ := bind_eq_ok.mp h
    replace h := ok_of_check h
    obtain ⟨p', -, h⟩ := bind_eq_ok.mp h
    obtain ⟨following, -, h⟩ := bind_eq_ok.mp h
    obtain ⟨-, rfl⟩ := Prod.mk.inj (pure_eq_ok.mp h)
    simp
  obtain ⟨last, following, version, rfl, hnext⟩ := executeScheduleRun_keeps h
  refine ⟨hperiod, fun hafter => ?_⟩
  obtain ⟨tz, hzone, hfollowing⟩ := hnext hperiod
  rw [nextRunAtUtc, if_pos (hafter tz hzone)] at hfollowing
  obtain rfl := pure_eq_ok.mp hfollowing
  exact ⟨rfl, rfl⟩

end Run

/-! ### Rounds -/

section Rounds

variable {zoneInfo : String → Option Zone} {env : StatementEnv} {now : Instant} {k : Id}
  {orgs : Id → Prop} {row : ScheduleRow} {p p' : Pass}

theorem deliveries_append (jobs jobs' : List DeliveryJob) :
    deliveries (jobs ++ jobs') k = deliveries jobs k + deliveries jobs' k :=
  List.countP_append

/-- A delivery that is offered to the queue is of the schedule that was run. -/
theorem deliveries_taken_eq_zero (hne : row.id ≠ k) (period : Option StatementPeriod)
    (taken : DeliveryJob → Bool) :
    deliveries ((offered row period).filter taken).toList k = 0 := by
  refine List.countP_eq_zero.mpr fun job hjob => ?_
  obtain ⟨hoffered, -⟩ := Option.filter_eq_some_iff.mp (Option.mem_toList.mp hjob)
  obtain ⟨signature, -, rfl⟩ := Option.map_eq_some_iff.mp hoffered
  simpa using hne

/-- A round offers one delivery at most. -/
theorem deliveries_taken_le (period : Option StatementPeriod) (taken : DeliveryJob → Bool) :
    deliveries ((offered row period).filter taken).toList k ≤ 1 :=
  List.countP_le_length.trans Option.length_toList_le

/-- A round leaves what the service keeps. -/
theorem Kept.executeRow (hkept : Kept zoneInfo orgs k p.schedules)
    (hrow : row ∈ p.schedules.rows) (hdue : row.schedule.isDue now = true)
    (h : executeRow zoneInfo env now p row = .ok p') : Kept zoneInfo orgs k p'.schedules := by
  obtain ⟨s', period, hrun, hrows, -⟩ := executeRow_eq_ok h
  have hactive : ActiveSchedule zoneInfo row.schedule := by
    refine (hkept.rows row hrow).resolve_left fun hended => ?_
    simp [AccountStatementSchedule.isDue, hended.1] at hdue
  refine ⟨fun r hr => ?_, fun r hr => ?_, fun r hr hid => ?_⟩
  · rcases mem_rewritten (hrows ▸ hr) with hs' | hr
    · exact hs' ▸ hactive.ended_or_active hrun
    · exact hkept.rows r hr
  · rcases mem_rewritten (hrows ▸ hr) with hs' | hr
    · obtain ⟨last, following, version, rfl, -⟩ := executeScheduleRun_keeps hrun
      exact hs' ▸ hkept.owners row hrow
    · exact hkept.owners r hr
  · rw [hrows] at hr
    obtain ⟨r₀, hr₀, rfl⟩ := List.mem_map.mp hr
    by_cases hsame : r₀.id = row.id
    · rw [rewritten, if_pos hsame] at hid ⊢
      obtain ⟨last, following, version, rfl, -⟩ := executeScheduleRun_keeps hrun
      exact hkept.once row hrow (hsame ▸ hid)
    · rw [rewritten, if_neg hsame] at hid ⊢
      exact hkept.once r₀ hr₀ hid

/-- A round on another schedule leaves this one and its deliveries. -/
theorem executeRow_other (hne : row.id ≠ k)
    (h : executeRow zoneInfo env now p row = .ok p') :
    deliveries p'.enqueued k = deliveries p.enqueued k ∧
      ∀ r, r.id = k → (r ∈ p'.schedules.rows ↔ r ∈ p.schedules.rows) := by
  obtain ⟨s', period, -, hrows, henqueued⟩ := executeRow_eq_ok h
  refine ⟨?_, fun r hid => ?_⟩
  · rw [henqueued, deliveries_append, deliveries_taken_eq_zero hne, add_zero]
  · rw [hrows]
    constructor
    · intro hr
      obtain ⟨r₀, hr₀, rfl⟩ := List.mem_map.mp hr
      by_cases hsame : r₀.id = row.id
      · rw [rewritten, if_pos hsame] at hid
        exact absurd (hsame.symm.trans hid) hne
      · rwa [rewritten, if_neg hsame]
    · intro hr
      exact mem_map_rewritten hr (hid ▸ hne.symm)

/-- A round on a one-off schedule after its last day offers one delivery and ends it. -/
theorem executeRow_self (hkept : Kept zoneInfo orgs k p.schedules) (hrow : row ∈ p.schedules.rows)
    (hid : row.id = k)
    (hafter : ∀ tz, resolveTimezone zoneInfo row.schedule.timezone = .ok tz →
      row.schedule.validTo < tz.localDate now)
    (h : executeRow zoneInfo env now p row = .ok p') :
    deliveries p'.enqueued k ≤ deliveries p.enqueued k + 1 ∧
      ∀ r ∈ p'.schedules.rows, r.id = k → Ended r.schedule := by
  obtain ⟨s', period, hrun, hrows, henqueued⟩ := executeRow_eq_ok h
  obtain ⟨hcustom, honce⟩ := hkept.once row hrow hid
  obtain ⟨-, hended⟩ := executeScheduleRun_once hcustom honce hrun
  refine ⟨?_, fun r hr hrid => ?_⟩
  · rw [henqueued, deliveries_append]
    exact Nat.add_le_add_left (deliveries_taken_le period _) _
  · rw [hrows] at hr
    obtain ⟨r₀, -, rfl⟩ := List.mem_map.mp hr
    by_cases hsame : r₀.id = row.id
    · rw [rewritten, if_pos hsame]
      exact hended hafter
    · rw [rewritten, if_neg hsame] at hrid
      exact absurd (hrid.trans hid.symm) hsame

end Rounds

/-! ### Passes -/

section Passes

variable {zoneInfo : String → Option Zone} {env : StatementEnv} {now : Instant} {k : Id}
  {orgs : Id → Prop} {p p' : Pass} {ended : PassEnd}
variable {rounds : ℕ}

/-- A pass keeps what its rounds keep. -/
theorem Kept.processFrom (hkept : Kept zoneInfo orgs k p.schedules)
    (h : processFrom zoneInfo env now rounds p = (p', ended)) :
    Kept zoneInfo orgs k p'.schedules := by
  induction rounds generalizing p with
  | zero =>
      obtain ⟨rfl, -⟩ := Prod.mk.inj h
      exact hkept
  | succ rounds ih =>
      cases hnext : listDue p.schedules now with
      | none =>
          simp only [SwCouriers.processFrom, hnext] at h
          obtain ⟨rfl, -⟩ := Prod.mk.inj h
          exact hkept
      | some row =>
          obtain ⟨hrow, hdue, -⟩ := listDue_eq_some hnext
          simp only [SwCouriers.processFrom, hnext] at h
          split at h
          · rename_i p₁ hok
            exact ih (hkept.executeRow hrow hdue hok) h
          · obtain ⟨rfl, -⟩ := Prod.mk.inj h
            exact hkept

/-- A pass does not come to a schedule that is not due. -/
theorem processFrom_idle (hidle : ∀ r ∈ p.schedules.rows, r.id = k → r.schedule.isDue now = false)
    (h : processFrom zoneInfo env now rounds p = (p', ended)) :
    deliveries p'.enqueued k = deliveries p.enqueued k ∧
      ∀ r, r.id = k → (r ∈ p'.schedules.rows ↔ r ∈ p.schedules.rows) := by
  induction rounds generalizing p with
  | zero =>
      obtain ⟨rfl, -⟩ := Prod.mk.inj h
      exact ⟨rfl, fun r _ => Iff.rfl⟩
  | succ rounds ih =>
      cases hnext : listDue p.schedules now with
      | none =>
          simp only [processFrom, hnext] at h
          obtain ⟨rfl, -⟩ := Prod.mk.inj h
          exact ⟨rfl, fun r _ => Iff.rfl⟩
      | some row =>
          obtain ⟨hrow, hdue, -⟩ := listDue_eq_some hnext
          have hne : row.id ≠ k := fun hid => by simp [hidle row hrow hid] at hdue
          simp only [processFrom, hnext] at h
          split at h
          · rename_i p₁ hok
            obtain ⟨hsame, hrows⟩ := executeRow_other hne hok
            obtain ⟨hsame', hrows'⟩ :=
              ih (fun r hr hid => hidle r ((hrows r hid).mp hr) hid) h
            exact ⟨hsame'.trans hsame, fun r hid => (hrows' r hid).trans (hrows r hid)⟩
          · obtain ⟨rfl, -⟩ := Prod.mk.inj h
            exact ⟨rfl, fun r _ => Iff.rfl⟩

/-- A pass that does not run a one-off schedule, because it cannot run or because one that is
due before it cannot, queues nothing for it. -/
theorem processFrom_blocked {blocker : ScheduleRow} (hnew : OnlyNew env p.created)
    (hblocker : blocker ∈ p.schedules.rows) (hdue : blocker.schedule.isDue now = true)
    (hcannot : ¬ Runnable zoneInfo env now blocker.schedule)
    (hfirst : ∀ r ∈ p.schedules.rows, r.id = k → r ≠ blocker →
      blocker.schedule.nextRunAt.getD now < r.schedule.nextRunAt.getD now)
    (h : processFrom zoneInfo env now rounds p = (p', ended)) :
    deliveries p'.enqueued k = deliveries p.enqueued k := by
  induction rounds generalizing p with
  | zero =>
      obtain ⟨rfl, -⟩ := Prod.mk.inj h
      rfl
  | succ rounds ih =>
      cases hnext : listDue p.schedules now with
      | none => exact absurd hdue (listDue_eq_none hnext blocker hblocker)
      | some row =>
          obtain ⟨hrow, -, hmin⟩ := listDue_eq_some hnext
          simp only [processFrom, hnext] at h
          split at h
          · rename_i p₁ hok
            obtain ⟨s', period, hrun, hrows, -⟩ := executeRow_eq_ok hok
            -- The round is on neither of the two: one cannot run, the other is not first.
            have hblock : row ≠ blocker := fun heq =>
              hcannot (heq ▸ (runnable_during hnew).mp (runnable_of_executeScheduleRun hrun))
            have hne : row.id ≠ k := fun hid =>
              absurd (hfirst row hrow hid hblock) (not_lt.mpr (hmin blocker hblocker hdue))
            have hid : blocker.id ≠ row.id := fun hid =>
              hblock (p.schedules.eq_of_key hrow hblocker hid.symm)
            obtain ⟨hsame, hother⟩ := executeRow_other hne hok
            refine (ih (hnew.executeRow hok) (hrows ▸ mem_map_rewritten hblocker hid)
              (fun r hr hrid => ?_) h).trans hsame
            exact hfirst r ((hother r hrid).mp hr) hrid
          · obtain ⟨rfl, -⟩ := Prod.mk.inj h
            rfl

/-- A pass that returns has run a one-off schedule that is due after its last day once, and
has ended it. -/
theorem processFrom_fires (hkept : Kept zoneInfo orgs k p.schedules) {row : ScheduleRow}
    (hrow : row ∈ p.schedules.rows) (hid : row.id = k) (hdue : row.schedule.isDue now = true)
    (hafter : ∀ tz, resolveTimezone zoneInfo row.schedule.timezone = .ok tz →
      row.schedule.validTo < tz.localDate now)
    (h : processFrom zoneInfo env now rounds p = (p', .returned)) :
    deliveries p'.enqueued k ≤ deliveries p.enqueued k + 1 ∧
      ∀ r ∈ p'.schedules.rows, r.id = k → Ended r.schedule := by
  induction rounds generalizing p with
  | zero => simp [processFrom] at h
  | succ rounds ih =>
      cases hnext : listDue p.schedules now with
      | none => exact absurd hdue (listDue_eq_none hnext row hrow)
      | some next =>
          obtain ⟨hmem, hdue', -⟩ := listDue_eq_some hnext
          simp only [processFrom, hnext] at h
          split at h
          · rename_i p₁ hok
            by_cases hself : next.id = k
            · obtain rfl := p.schedules.eq_of_key hrow hmem (hid.trans hself.symm)
              obtain ⟨hone, hended⟩ := executeRow_self hkept hrow hid hafter hok
              obtain ⟨hsame, hrows⟩ := processFrom_idle (k := k) (fun r hr hrid => by
                simp [AccountStatementSchedule.isDue, (hended r hr hrid).1]) h
              exact ⟨hsame ▸ hone, fun r hr hrid =>
                hended r ((hrows r hrid).mp hr) hrid⟩
            · obtain ⟨hsame, hrows⟩ := executeRow_other hself hok
              obtain ⟨hone, hended⟩ := ih (hkept.executeRow hmem hdue' hok)
                ((hrows row hid).mpr hrow) h
              exact ⟨hsame ▸ hone, hended⟩
          · simp at h

end Passes

/-! ### The job -/

section Job

variable {zoneInfo : String → Option Zone} {orgs : Id → Prop} {k : Id} {σ : StatementStore}
  {tick : Tick}

/-- What a call of the job leaves, by how its pass ends. -/
theorem schedulesTask_cases (zoneInfo : String → Option Zone) (σ : StatementStore)
    (tick : Tick) : ∃ (rounds : ℕ) (p : Pass) (ended : PassEnd),
      processFrom zoneInfo tick.env tick.now rounds ⟨σ.schedules, [], σ.enqueued⟩ = (p, ended) ∧
      dueCount σ.schedules tick.now < rounds ∧
      (schedulesTask zoneInfo σ tick).enqueued = p.enqueued ∧
      (ended = .returned ∧ (schedulesTask zoneInfo σ tick).schedules = p.schedules ∨
        ended ≠ .returned ∧ (schedulesTask zoneInfo σ tick).schedules = σ.schedules) := by
  have hcount := dueCount_nonneg σ.schedules tick.now
  have htask : schedulesTask zoneInfo σ tick
      = match processFrom zoneInfo tick.env tick.now ((dueCount σ.schedules tick.now).toNat + 1)
          ⟨σ.schedules, [], σ.enqueued⟩ with
        | (p, .returned) => ⟨p.schedules, p.enqueued⟩
        | (p, _) => ⟨σ.schedules, p.enqueued⟩ := rfl
  refine ⟨(dueCount σ.schedules tick.now).toNat + 1, _, _, Prod.mk.eta.symm, by omega, ?_⟩
  rw [htask]
  split
  · rename_i p hpass
    rw [hpass]
    exact ⟨rfl, .inl ⟨rfl, rfl⟩⟩
  · rename_i p ended hne hpass
    rw [hpass]
    exact ⟨rfl, .inr ⟨hne, rfl⟩⟩

/-- A call of the job leaves what the service keeps. -/
theorem Kept.schedulesTask (hkept : Kept zoneInfo orgs k σ.schedules) :
    Kept zoneInfo orgs k (schedulesTask zoneInfo σ tick).schedules := by
  obtain ⟨rounds, p, ended, hpass, -, -, ⟨-, hsame⟩ | ⟨-, hsame⟩⟩ :=
    schedulesTask_cases zoneInfo σ tick
  · exact hsame ▸ Kept.processFrom (p := ⟨σ.schedules, [], σ.enqueued⟩) hkept hpass
  · exact hsame ▸ hkept

/-- What a pass finds of the schedules that the service keeps. -/
theorem Kept.known (hkept : Kept zoneInfo orgs k σ.schedules)
    (hexists : ∀ org, orgs org → tick.env.organizationExists org = true) :
    ∀ row ∈ σ.schedules.rows, Known zoneInfo tick.env tick.now row.schedule := by
  intro row hrow
  rcases hkept.rows row hrow with hended | hactive
  · exact .inl (.inl hended.1)
  · exact .inr ⟨hactive, hexists _ (hkept.owners row hrow)⟩

/-- A call that comes to the schedule after its last day, and that nothing stops, fires it. -/
theorem firesOnce_of_late (hkept : Kept zoneInfo orgs k σ.schedules)
    (hexists : ∀ org, orgs org → tick.env.organizationExists org = true)
    (hzero : deliveries σ.enqueued k = 0) {row : ScheduleRow} (hrow : row ∈ σ.schedules.rows)
    (hid : row.id = k) (hdue : row.schedule.isDue tick.now = true)
    (hlate : ∀ tz, resolveTimezone zoneInfo row.schedule.timezone = .ok tz →
      row.schedule.validTo < tz.localDate tick.now)
    (hcan : ∀ r ∈ σ.schedules.rows, r.schedule.isDue tick.now = true →
      Runnable zoneInfo tick.env tick.now r.schedule) :
    FiresOnce k (schedulesTask zoneInfo σ tick) := by
  obtain ⟨rounds, p, ended, hpass, hrounds, hqueued, hend⟩ := schedulesTask_cases zoneInfo σ tick
  obtain ⟨p', hreturned, -⟩ := processFrom_returns (p := ⟨σ.schedules, [], σ.enqueued⟩)
    (hkept.known hexists) hcan onlyNew_nil hrounds
  obtain ⟨rfl, rfl⟩ := Prod.mk.inj (hreturned.symm.trans hpass)
  obtain ⟨hone, hended⟩ := processFrom_fires (p := ⟨σ.schedules, [], σ.enqueued⟩) hkept hrow hid
    hdue hlate hreturned
  have hone : deliveries p'.enqueued k ≤ deliveries σ.enqueued k + 1 := hone
  rw [hzero] at hone
  rw [FiresOnce, hqueued]
  refine ⟨hone, fun _ r hr hrid => hended r ?_ hrid⟩
  rcases hend with ⟨-, hstore⟩ | ⟨hne, -⟩
  · exact hstore ▸ hr
  · exact absurd rfl hne

/-- A call of the job that does not spoil it leaves a schedule that fires once. -/
theorem FiresOnce.schedulesTask (hkept : Kept zoneInfo orgs k σ.schedules)
    (hexists : ∀ org, orgs org → tick.env.organizationExists org = true)
    (hspares : ¬ Spoils zoneInfo k σ tick) (h : FiresOnce k σ) :
    FiresOnce k (schedulesTask zoneInfo σ tick) := by
  obtain ⟨rounds, p, ended, hpass, -, hqueued, hend⟩ := schedulesTask_cases zoneInfo σ tick
  by_cases hidle : ∀ r ∈ σ.schedules.rows, r.id = k → r.schedule.isDue tick.now = false
  · obtain ⟨hsame, hrows⟩ := processFrom_idle (p := ⟨σ.schedules, [], σ.enqueued⟩) hidle hpass
    rw [FiresOnce, hqueued, hsame]
    refine ⟨h.1, fun hpos r hr hid => h.2 hpos r ?_ hid⟩
    rcases hend with ⟨-, hstore⟩ | ⟨-, hstore⟩
    · exact (hrows r hid).mp (hstore ▸ hr)
    · exact hstore ▸ hr
  · push Not at hidle
    obtain ⟨row, hrow, hid, hdue⟩ := hidle
    have hdue : row.schedule.isDue tick.now = true := by simpa using hdue
    -- A schedule that is due has not fired before.
    have hzero : deliveries σ.enqueued k = 0 := by
      by_contra hne
      have hended := h.2 (Nat.pos_of_ne_zero hne) row hrow hid
      simp [AccountStatementSchedule.isDue, hended.1] at hdue
    have hnone : deliveries p.enqueued k = deliveries σ.enqueued k →
        FiresOnce k (SwCouriers.schedulesTask zoneInfo σ tick) := by
      intro hsame
      rw [FiresOnce, hqueued, hsame, hzero]
      exact ⟨by omega, fun hpos => absurd hpos (by omega)⟩
    have hunique : ∀ r ∈ σ.schedules.rows, r.id = k → r = row := fun r hr hrid =>
      σ.schedules.eq_of_key hr hrow (hrid.trans hid.symm)
    by_cases hcan : Runnable zoneInfo tick.env tick.now row.schedule
    · by_cases hfirst : ∀ r ∈ σ.schedules.rows, r.schedule.isDue tick.now = true →
        r.schedule.nextRunAt.getD tick.now < row.schedule.nextRunAt.getD tick.now →
        Runnable zoneInfo tick.env tick.now r.schedule
      · -- The pass comes to the schedule, so it is late and nothing else stops the pass.
        have hspare : ¬ ((∃ tz, resolveTimezone zoneInfo row.schedule.timezone = .ok tz ∧
            tz.localDate tick.now ≤ row.schedule.validTo) ∨
            ∃ r ∈ σ.schedules.rows, r.schedule.isDue tick.now = true ∧
              ¬ Runnable zoneInfo tick.env tick.now r.schedule) :=
          fun hbad => hspares ⟨row, hrow, hid, hdue, hcan, hfirst, hbad⟩
        push Not at hspare
        exact firesOnce_of_late hkept hexists hzero hrow hid hdue hspare.1 hspare.2
      · push Not at hfirst
        obtain ⟨r, hr, hrdue, hearlier, hcannot⟩ := hfirst
        refine hnone (processFrom_blocked (p := ⟨σ.schedules, [], σ.enqueued⟩) onlyNew_nil hr
          hrdue hcannot (fun r' hr' hrid _ => ?_) hpass)
        rw [hunique r' hr' hrid]
        exact hearlier
    · exact hnone (processFrom_blocked (p := ⟨σ.schedules, [], σ.enqueued⟩) onlyNew_nil hrow
        hdue hcan (fun r hr hrid hne => absurd (hunique r hr hrid) hne) hpass)

end Job

/-- **A one-off schedule queues its statement at most once and has ended when it has, in
every state of every run of the job in which it does not fire on its last day, nor in a pass
that raises afterwards.** -/
theorem fires_once_of_along (zoneInfo : String → Option Zone) (orgs : Id → Prop) (k : Id)
    (σ : StatementStore) (ticks : List Tick) (hkept : Kept zoneInfo orgs k σ.schedules)
    (hnone : deliveries σ.enqueued k = 0)
    (hexists : ∀ tick ∈ ticks, ∀ org, orgs org → tick.env.organizationExists org = true)
    (hspares : Runs.Along (schedulesTask zoneInfo)
      (fun σ tick => ¬ Spoils zoneInfo k σ tick) σ ticks) :
    ∀ pre post, ticks = pre ++ post → FiresOnce k (Runs.run (schedulesTask zoneInfo) σ pre) := by
  rintro pre post rfl
  have halong : Runs.Along (schedulesTask zoneInfo)
      (fun σ tick => (∀ org, orgs org → tick.env.organizationExists org = true) ∧
        ¬ Spoils zoneInfo k σ tick) σ (pre ++ post) :=
    Runs.along_iff.mpr fun pre' tick post' heq =>
      ⟨hexists tick (by simp [heq]), Runs.along_iff.mp hspares pre' tick post' heq⟩
  have hstart : Kept zoneInfo orgs k σ.schedules ∧ FiresOnce k σ :=
    ⟨hkept, by rw [hnone]; exact zero_le_one, fun hpos => absurd hpos (by simp [hnone])⟩
  exact (Runs.run_invariant_of_along
    (I := fun σ => Kept zoneInfo orgs k σ.schedules ∧ FiresOnce k σ)
    (fun σ tick hσ htick => ⟨hσ.1.schedulesTask, hσ.2.schedulesTask hσ.1 htick.1 htick.2⟩)
    hstart halong.prefix_run).2

/-- A statement of February 2024, to be sent on 1 March. -/
def onceInMarch : ScheduleInput :=
  { weekly with validFrom := some 738917, validTo := some 738946, intervalDays := none }

/-- The one-off schedule, as it is created at midnight. -/
def onceSchedule : AccountStatementSchedule :=
  { weeklyInMarch with validFrom := 738917, validTo := 738946, customCron := some "once" }

theorem createSchedule_once :
    createSchedule (fun _ => some utc) marchEnv 63844934400000000 onceInMarch
      = .ok onceSchedule := by
  decide +kernel

/-- The one-off schedule alone. -/
def onceStore : StatementStore := ⟨Table.singleton ⟨1, onceSchedule⟩, []⟩

/-- The job at ten past six on 1 March. -/
def firstTick : Tick := ⟨marchEnv, 63844956600000000⟩

/-- The job again, at forty past six, at ten past seven and at forty past seven. The statement
of the first run is stored. The queue forgets its delivery an hour after it was sent. -/
def laterTicks : List Tick :=
  [⟨{ marchEnv with activeStatements := fun _ => 1, knowsJob := fun _ => true },
      63844958400000000⟩,
    ⟨{ marchEnv with activeStatements := fun _ => 1, knowsJob := fun _ => true },
      63844960200000000⟩,
    ⟨{ marchEnv with activeStatements := fun _ => 1 }, 63844962000000000⟩]

/-- On its last day the one-off schedule is still active after each of its runs, and with the
fourth of them its delivery is queued a second time. -/
theorem once_fires_twice :
    (Runs.run (schedulesTask fun _ => some utc) onceStore [firstTick]).enqueued.length = 1 ∧
    ((Runs.run (schedulesTask fun _ => some utc) onceStore [firstTick]).schedules.find? 1).map
      (fun row => (row.schedule.status, row.schedule.nextRunAt))
        = some (.active, some 63844956601000000) ∧
    deliveries (Runs.run (schedulesTask fun _ => some utc) onceStore
      (firstTick :: laterTicks)).enqueued 1 = 2 ∧
    ¬ ∀ pre post, firstTick :: laterTicks = pre ++ post →
      FiresOnce 1 (Runs.run (schedulesTask fun _ => some utc) onceStore pre) := by
  have htwo : deliveries (Runs.run (schedulesTask fun _ => some utc) onceStore
      (firstTick :: laterTicks)).enqueued 1 = 2 := by
    decide +kernel
  refine ⟨by decide +kernel, by decide +kernel, htwo, fun hall => ?_⟩
  have honce := (hall (firstTick :: laterTicks) [] (List.append_nil _).symm).1
  omega

/-- The job at ten past six on 2 March. -/
def lateTick : Tick := ⟨{ marchEnv with today := 738947 }, 63845043000000000⟩

/-- The one-off schedule that the job comes to a day late fires once. -/
theorem once_fires_late :
    deliveries (schedulesTask (fun _ => some utc) onceStore lateTick).enqueued 1 = 1 ∧
    ∀ pre post, [lateTick] = pre ++ post →
      FiresOnce 1 (Runs.run (schedulesTask fun _ => some utc) onceStore pre) := by
  refine ⟨by decide +kernel, fires_once_of_along (fun _ => some utc) (fun _ => True) 1
    onceStore [lateTick] ⟨fun row hrow => .inr ?_, fun _ _ => trivial, fun row hrow _ => ?_⟩
    rfl (fun _ htick _ _ => ?_) ⟨?_, trivial⟩⟩
  · obtain rfl := List.mem_singleton.mp hrow
    exact createSchedule_activeSchedule createSchedule_once rfl (by decide +kernel)
  · obtain rfl := List.mem_singleton.mp hrow
    exact ⟨rfl, by decide +kernel⟩
  · obtain rfl := List.mem_singleton.mp htick
    rfl
  · rintro ⟨row, hrow, -, -, -, -, ⟨tz, hzone, hday⟩ | ⟨r, hr, -, hcannot⟩⟩
    · obtain rfl := List.mem_singleton.mp hrow
      have htz : resolveTimezone (fun _ => some utc) onceSchedule.timezone = .ok utc := rfl
      obtain rfl : utc = tz := Except.ok.inj (htz.symm.trans hzone)
      exact absurd hday (by decide +kernel)
    · obtain rfl := List.mem_singleton.mp hr
      exact hcannot ⟨utc, rfl, by decide +kernel⟩

end SwCouriers
