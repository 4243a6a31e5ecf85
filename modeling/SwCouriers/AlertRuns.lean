import SwCouriers.CreditAlerts

/-!
# Credit Alerts over Time

Openness, cooldown and snoozing over any sequence of operations. The alerts of a type follow one
another: each is fired when the one before it is closed and has cooled down, whatever the
configuration was when that one was fired and whatever it is now. Snoozing and waking up only
concern alerts that are open, so that an alert that is handled stays handled.

## Main results

* `MayFire.closed`, `MayFire.cooled_down`: what the two queries of `create_alert` say of all alerts
  of the type.
* `Orderly.step`, `orderly_run`: what every operation keeps.
* `Kept.step`, `kept_run`: alerts only turn into later versions of themselves.
* `alerts_orderly`: **at most one alert of a type is open, two alerts of a type are a cooldown
  apart, and no handled alert is opened again**.
-/

namespace SwCouriers.CreditAlerts

open Cooldowns Runs

/-- At most one alert of a type is open. -/
def AtMostOneOpen (db : AlertTables) : Prop :=
  ∀ a ∈ db.alerts.rows, ∀ b ∈ db.alerts.rows, a.status.isOpen = true → b.status.isOpen = true →
    a.kind = b.kind → a = b

/-- Every alert is still there, as a later version of itself. -/
def Kept (db db' : AlertTables) : Prop :=
  ∀ alert ∈ db.alerts.rows, ∃ alert' ∈ db'.alerts.rows, Follows alert alert'

/-- Until when an alert blocks its type. -/
def Alert.blockedUntil (alert : Alert) : Instant := alert.cooldownUntil.getD alert.triggeredAt

/-- What holds of the alerts throughout. -/
structure Orderly (db : AlertTables) : Prop where
  oneOpen : AtMostOneOpen db
  spaced : Spaced Alert.kind Alert.triggeredAt Alert.blockedUntil db.alerts.rows
  timed : ∀ alert ∈ db.alerts.rows, alert.triggeredAt < alert.blockedUntil

variable {db db' : AlertTables} {now : Instant} {call : AlertCall} {cfg : ConfigValues}

theorem Follows.blockedUntil {a b : Alert} (h : Follows a b) :
    b.blockedUntil = a.blockedUntil := by
  rw [Alert.blockedUntil, Alert.blockedUntil, h.cooldownUntil, h.triggeredAt]

theorem blockedUntil_row (call : AlertCall) (cfg : ConfigValues) (now : Instant) :
    (call.row cfg now).blockedUntil = now + cooldown cfg.cooldownPeriod := rfl

/-! ### Firing -/

/-- No alert of the type is open. -/
theorem MayFire.closed (hmay : MayFire db now call cfg) {alert : Alert}
    (halert : alert ∈ db.alerts.rows) (hkind : alert.kind = (call.organizationId, call.alertType)) :
    alert.status.isOpen = false := by
  rw [← Bool.not_eq_true]
  intro hopen
  exact latest?_eq_none_iff.mp hmay.noneOpen alert (List.mem_filter.mpr ⟨halert, hopen⟩) hkind

/-- All alerts of the type have cooled down, not only the latest. -/
theorem MayFire.cooled_down (hmay : MayFire db now call cfg) (horderly : Orderly db) {alert : Alert}
    (halert : alert ∈ db.alerts.rows) (hkind : alert.kind = (call.organizationId, call.alertType)) :
    alert.blockedUntil ≤ now := by
  cases hlast : findLastForType db call.organizationId call.alertType with
  | none => exact absurd hkind (latest?_eq_none_iff.mp hlast alert halert)
  | some last =>
      have hstop := horderly.spaced.stop_le_latest horderly.timed hlast halert hkind
      refine hstop.trans ?_
      have htimed := horderly.timed last (latest?_eq_some hlast).1
      cases huntil : last.cooldownUntil with
      | none => exact absurd htimed (by simp [Alert.blockedUntil, huntil])
      | some until_ =>
          rw [Alert.blockedUntil, huntil, Option.getD_some]
          exact hmay.cooled last hlast until_ huntil

/-! ### What every operation keeps -/

theorem orderly_noAlerts (clock : Instant) (organizations : List Id)
    (configs : Table AlertConfig.key) (globalThresholds : Table GlobalThreshold.alertType) :
    Orderly (noAlerts clock organizations configs globalThresholds).db :=
  ⟨fun _ ha => absurd ha List.not_mem_nil, spaced_nil, fun _ ha => absurd ha List.not_mem_nil⟩

theorem Orderly.of_rewrites (h : Orderly db) (hrewrites : Rewrites db db') : Orderly db' := by
  obtain ⟨f, hf, hrows⟩ := hrewrites
  refine ⟨?_, ?_, ?_⟩
  · intro a ha b hb hopenA hopenB hkind
    rw [hrows] at ha hb
    obtain ⟨a₀, ha₀, rfl⟩ := List.mem_map.mp ha
    obtain ⟨b₀, hb₀, rfl⟩ := List.mem_map.mp hb
    -- what is open now was open before
    have hopen : ∀ r ∈ db.alerts.rows, (f r).status.isOpen = true → r.status.isOpen = true := by
      intro r hr hopen
      rw [← Bool.not_eq_false]
      intro hclosed
      rw [(hf r hr).closed hclosed] at hopen
      exact absurd hopen (by decide)
    rw [(hf a₀ ha₀).kind, (hf b₀ hb₀).kind] at hkind
    rw [h.oneOpen a₀ ha₀ b₀ hb₀ (hopen a₀ ha₀ hopenA) (hopen b₀ hb₀ hopenB) hkind]
  · rw [hrows]
    exact h.spaced.map fun r hr => ⟨(hf r hr).kind, (hf r hr).triggeredAt, (hf r hr).blockedUntil⟩
  · intro a ha
    rw [hrows] at ha
    obtain ⟨a₀, ha₀, rfl⟩ := List.mem_map.mp ha
    rw [(hf a₀ ha₀).triggeredAt, (hf a₀ ha₀).blockedUntil]
    exact h.timed a₀ ha₀

theorem Orderly.of_fire (h : Orderly db) (hmay : MayFire db now call cfg)
    (hrows : db'.alerts.rows = db.alerts.rows ++ [call.row cfg now]) : Orderly db' := by
  have hmem : ∀ {a}, a ∈ db'.alerts.rows → a ∈ db.alerts.rows ∨ a = call.row cfg now := fun ha =>
    (List.mem_append.mp (hrows ▸ ha)).imp_right List.mem_singleton.mp
  refine ⟨?_, ?_, ?_⟩
  · intro a ha b hb hopenA hopenB hkind
    rcases hmem ha with hoA | rfl <;> rcases hmem hb with hoB | rfl
    · exact h.oneOpen a hoA b hoB hopenA hopenB hkind
    · exact absurd hopenA (by rw [hmay.closed hoA hkind]; decide)
    · exact absurd hopenB (by rw [hmay.closed hoB hkind.symm]; decide)
    · rfl
  · rw [hrows]
    exact h.spaced.snoc fun a ha hkind => hmay.cooled_down h ha hkind
  · intro a ha
    rcases hmem ha with hold | rfl
    · exact h.timed a hold
    · rw [blockedUntil_row]
      exact lt_add_of_pos_right _ (cooldown_pos _)

variable {s : AlertState}

/-- **Every operation keeps the alerts in order.** -/
theorem Orderly.step (h : Orderly s.db) (op : AlertOp) : Orderly (step s op).db := by
  rcases step_alerts s op with ⟨-, hrewrites⟩ | ⟨call, cfg, hmay, -, hrows⟩
  · exact h.of_rewrites hrewrites
  · exact h.of_fire hmay hrows

theorem Kept.refl (db : AlertTables) : Kept db db :=
  fun alert halert => ⟨alert, halert, .refl alert⟩

theorem Kept.trans {db'' : AlertTables} (h : Kept db db') (h' : Kept db' db'') : Kept db db'' := by
  intro a ha
  obtain ⟨b, hb, hab⟩ := h a ha
  obtain ⟨c, hc, hbc⟩ := h' b hb
  exact ⟨c, hc, hab.trans hbc⟩

theorem Kept.step (s : AlertState) (op : AlertOp) : Kept s.db (step s op).db := by
  intro alert halert
  rcases step_alerts s op with ⟨-, f, hf, hrows⟩ | ⟨call, cfg, -, -, hrows⟩
  · exact ⟨f alert, hrows ▸ List.mem_map_of_mem halert, hf alert halert⟩
  · exact ⟨alert, hrows ▸ List.mem_append_left _ halert, .refl alert⟩

/-- Alerts only turn into later versions of themselves. -/
theorem kept_run (s : AlertState) (ops : List AlertOp) :
    Kept s.db (run CreditAlerts.step s ops).db :=
  rel_run_of_along (R := fun s s' : AlertState => Kept s.db s'.db) (fun s => .refl s.db)
    (fun _ _ _ => .trans) (along_iff.mpr fun _ _ _ _ => .step _ _)

theorem orderly_run (h : Orderly s.db) (ops : List AlertOp) :
    Orderly (run CreditAlerts.step s ops).db :=
  run_invariant (I := fun s : AlertState => Orderly s.db) (fun _ op h => h.step op) h ops

/-! ### Two alerts of a type -/

/-- What has been fired is in the table, with its cooldown. -/
theorem fired_eq_some {op : AlertOp} {alert : Alert} (h : fired s op = some alert) :
    alert ∈ (step s op).db.alerts.rows ∧
      ∃ call cfg, MayFire s.db alert.triggeredAt call cfg ∧
        alert.kind = (call.organizationId, call.alertType) ∧
        alert.blockedUntil = alert.triggeredAt + cooldown cfg.cooldownPeriod ∧
        alert.triggeredAt = (step s op).clock := by
  rcases step_alerts s op with ⟨hnone, -⟩ | ⟨call, cfg, hmay, hfired, hrows⟩
  · rw [hnone] at h
    exact absurd h (Option.some_ne_none alert).symm
  · obtain rfl := Option.some.inj (hfired.symm.trans h)
    exact ⟨hrows ▸ List.mem_append_right _ List.mem_cons_self, call, cfg, hmay, rfl, rfl, rfl⟩

/-- Whatever happens in between, the later of two alerts of a type is fired when the cooldown of
the earlier one is over. -/
theorem fired_apart {op op' : AlertOp} {mid : List AlertOp} {a b : Alert} (ha : fired s op = some a)
    (hs : Orderly s.db) (hb : fired (run step (step s op) mid) op' = some b)
    (hkind : a.kind = b.kind) :
    ∃ cfg, resolveConfig s.db a.organizationId a.alertType = some cfg ∧
      a.triggeredAt + cooldown cfg.cooldownPeriod ≤ b.triggeredAt := by
  obtain ⟨hmem, call, cfg, hmay, hkindA, hblocked, -⟩ := fired_eq_some ha
  obtain ⟨-, call', cfg', hmay', hkindB, -⟩ := fired_eq_some hb
  obtain ⟨a', hmem', hfollows⟩ := kept_run (step s op) mid a hmem
  have horderly : Orderly (run step (step s op) mid).db := orderly_run (hs.step op) mid
  have hcooled := hmay'.cooled_down horderly hmem' (hfollows.kind.trans (hkind.trans hkindB))
  rw [hfollows.blockedUntil, hblocked] at hcooled
  obtain ⟨horg, htype⟩ := Prod.mk.inj hkindA
  exact ⟨cfg, by rw [horg, htype]; exact hmay.config, hcooled⟩

/-- **Credit alerts over any sequence of operations, from no alerts on**: at every moment at most
one alert of a type is open; of two alerts of a type, the later one is fired at least the cooldown
after the earlier one that was configured when that was fired; and an alert that is handled stays
handled. -/
theorem alerts_orderly (clock : Instant) (organizations : List Id)
    (configs : Table AlertConfig.key) (globalThresholds : Table GlobalThreshold.alertType)
    (ops : List AlertOp) :
    let start := noAlerts clock organizations configs globalThresholds
    (∀ pre post, ops = pre ++ post → AtMostOneOpen (run step start pre).db) ∧
    (∀ pre op mid op' post a b, ops = pre ++ op :: mid ++ op' :: post →
      fired (run step start pre) op = some a →
      fired (run step start (pre ++ op :: mid)) op' = some b → a.kind = b.kind →
      ∃ cfg, resolveConfig (run step start pre).db a.organizationId a.alertType = some cfg ∧
        a.triggeredAt + cooldown cfg.cooldownPeriod ≤ b.triggeredAt) ∧
    (∀ pre mid post alert, ops = pre ++ mid ++ post → alert ∈ (run step start pre).db.alerts.rows →
      alert.status.isOpen = false →
      ∃ alert' ∈ (run step start (pre ++ mid)).db.alerts.rows,
        alert'.id = alert.id ∧ alert'.status.isOpen = false) := by
  intro start
  have horderly : ∀ pre, Orderly (run step start pre).db :=
    orderly_run (orderly_noAlerts clock organizations configs globalThresholds)
  refine ⟨fun pre _ _ => (horderly pre).oneOpen, ?_, ?_⟩
  · intro pre op mid op' post a b _ ha hb hkind
    rw [run_append, run_cons] at hb
    exact fired_apart ha (horderly pre) hb hkind
  · intro pre mid post alert _ halert hclosed
    rw [run_append]
    obtain ⟨alert', halert', hfollows⟩ := kept_run (run step start pre) mid alert halert
    exact ⟨alert', halert', hfollows.id, hfollows.closed hclosed⟩

end SwCouriers.CreditAlerts
