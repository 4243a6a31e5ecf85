import SwCouriers.Common
import SwCouriers.Lib.Cooldowns
import SwCouriers.Lib.Runs
import SwCouriers.Lib.Table

/-!
# Credit Alerts

Alerts about the credit of an organisation: how an alert is fired, acknowledged, snoozed and woken
up again, and how an organisation configures the types of alerts. An alert is fired only if its type
is enabled, none of the type is open, and the latest of the type has cooled down. How long it cools
down is fixed when it is fired.

## Main results

* `cooldown_pos`: every alert blocks its type for some time.
* `createAlert_eq_ok`: what firing an alert checks, and what it writes.
* `step_alerts`: what an operation does to the alerts: it rewrites some, or fires one.
-/

namespace SwCouriers.CreditAlerts

open Checked Cooldowns

/-! ### Rows -/

inductive CreditAlertType
  | creditUtilisationMonitoringWarning
  | creditUtilisationMonitoringCritical
  | creditScoreDecrease
  | creditRatingDowngrade
  | scheduledCreditReviewReminder
  | reviewOverdue
  | latePaymentBehaviour
  | accountOnHold
  | accountSuspended
  deriving DecidableEq, Repr

def CreditAlertType.value : CreditAlertType → String
  | .creditUtilisationMonitoringWarning => "CREDIT_UTILISATION_MONITORING_WARNING"
  | .creditUtilisationMonitoringCritical => "CREDIT_UTILISATION_MONITORING_CRITICAL"
  | .creditScoreDecrease => "CREDIT_SCORE_DECREASE"
  | .creditRatingDowngrade => "CREDIT_RATING_DOWNGRADE"
  | .scheduledCreditReviewReminder => "SCHEDULED_CREDIT_REVIEW_REMINDER"
  | .reviewOverdue => "REVIEW_OVERDUE"
  | .latePaymentBehaviour => "LATE_PAYMENT_BEHAVIOUR"
  | .accountOnHold => "ACCOUNT_ON_HOLD"
  | .accountSuspended => "ACCOUNT_SUSPENDED"

inductive CreditAlertSeverity
  | warning
  | critical
  deriving DecidableEq, Repr

inductive CreditAlertStatus
  | active
  | snoozed
  | acknowledged
  | autoAcknowledged
  | resolved
  deriving DecidableEq, Repr

inductive SnoozeDuration
  | oneHour
  | fourHours
  | twentyFourHours
  | sevenDays
  deriving DecidableEq, Repr

inductive CooldownPeriod
  | fiveMinutes
  | fifteenMinutes
  | thirtyMinutes
  | fortyFiveMinutes
  | oneHour
  | sevenHours
  | fourteenHours
  | twentyFourHours
  | oneDay
  | twoDays
  | threeDays
  | fourDays
  | fiveDays
  | sixDays
  | sevenDays
  deriving DecidableEq, Repr

inductive DeliveryChannel
  | both
  | emailOnly
  | inAppOnly
  deriving DecidableEq, Repr

/-- `SNOOZE_DURATION_HOURS`. -/
def snoozeDurationHours : SnoozeDuration → ℤ
  | .oneHour => 1
  | .fourHours => 4
  | .twentyFourHours => 24
  | .sevenDays => 24 * 7

/-- `COOLDOWN_MINUTES`. -/
def cooldownMinutes : CooldownPeriod → ℤ
  | .fiveMinutes => 5
  | .fifteenMinutes => 15
  | .thirtyMinutes => 30
  | .fortyFiveMinutes => 45
  | .oneHour => 60
  | .sevenHours => 60 * 7
  | .fourteenHours => 60 * 14
  | .twentyFourHours => 60 * 24
  | .oneDay => 60 * 24
  | .twoDays => 60 * 24 * 2
  | .threeDays => 60 * 24 * 3
  | .fourDays => 60 * 24 * 4
  | .fiveDays => 60 * 24 * 5
  | .sixDays => 60 * 24 * 6
  | .sevenDays => 60 * 24 * 7

/-- A minute, in microseconds. -/
def minute : ℤ := 60000000

/-- `timedelta(minutes=COOLDOWN_MINUTES[period])`. -/
def cooldown (period : CooldownPeriod) : ℤ := cooldownMinutes period * minute

/-- Every alert blocks its type for some time. -/
theorem cooldown_pos (period : CooldownPeriod) : 0 < cooldown period := by
  cases period <;> decide

/-- The columns of a configuration that the request sets. -/
structure ConfigValues where
  enabled : Bool
  thresholdPct : Option ℚ
  scoreDropPoints : Option ℤ
  reminderDays : Option ℤ
  latePaymentCount : Option ℤ
  cooldownPeriod : CooldownPeriod
  deliveryChannel : DeliveryChannel
  autoAcknowledge : Bool
  deriving DecidableEq, Repr

/-- A row of `org_credit_alert_configs`. -/
structure AlertConfig where
  organizationId : Id
  alertType : CreditAlertType
  values : ConfigValues
  deriving DecidableEq, Repr

/-- The unique index of the configurations. -/
def AlertConfig.key (cfg : AlertConfig) : Id × CreditAlertType :=
  (cfg.organizationId, cfg.alertType)

/-- A row of `global_credit_alert_thresholds`. -/
structure GlobalThreshold where
  alertType : CreditAlertType
  thresholdPct : ℚ
  deriving DecidableEq, Repr

/-- A row of `org_credit_alerts`. -/
structure Alert where
  id : Id
  organizationId : Id
  alertType : CreditAlertType
  severity : CreditAlertSeverity
  status : CreditAlertStatus
  title : String
  summary : String
  context : Option String
  triggeredAt : Instant
  cooldownUntil : Option Instant
  snoozedUntil : Option Instant
  acknowledgedAt : Option Instant
  acknowledgedByUserId : Option Id
  resolutionNotes : Option String
  deriving DecidableEq, Repr

/-- `_ACTIVE_STATUSES`. -/
def CreditAlertStatus.isOpen : CreditAlertStatus → Bool
  | .active | .snoozed => true
  | _ => false

/-- The organisation and the type of an alert. -/
def Alert.kind (alert : Alert) : Id × CreditAlertType := (alert.organizationId, alert.alertType)

structure AlertTables where
  organizations : List Id
  configs : Table AlertConfig.key
  globalThresholds : Table GlobalThreshold.alertType
  alerts : Table Alert.id
  /-- The alerts for which an e-mail has been queued. -/
  emails : List Id

/-! ### Configurations -/

/-- `DEFAULT_CONFIG`, with a key for every type. -/
def defaultConfig : CreditAlertType → ConfigValues
  | .creditUtilisationMonitoringWarning => ⟨true, some 75, none, none, none, .oneHour, .both, true⟩
  | .creditUtilisationMonitoringCritical =>
      ⟨true, some 90, none, none, none, .fiveMinutes, .both, true⟩
  | .creditScoreDecrease => ⟨false, none, some 10, none, none, .twentyFourHours, .both, false⟩
  | .creditRatingDowngrade => ⟨true, none, none, none, none, .oneHour, .both, false⟩
  | .scheduledCreditReviewReminder => ⟨true, none, none, some 14, none, .oneDay, .both, false⟩
  | .reviewOverdue => ⟨true, none, none, none, none, .oneHour, .both, false⟩
  | .latePaymentBehaviour => ⟨true, none, none, none, some 3, .oneHour, .both, false⟩
  | .accountOnHold => ⟨true, none, none, none, none, .oneHour, .both, false⟩
  | .accountSuspended => ⟨true, none, none, none, none, .oneHour, .both, false⟩

def reviewReminderMinDays : ℤ := 7

def reviewReminderMaxDays : ℤ := 30

/-- `_HOURLY_COOLDOWNS`. -/
def hourlyCooldowns : List CooldownPeriod :=
  [.oneHour, .sevenHours, .fourteenHours, .twentyFourHours]

/-- `ALLOWED_COOLDOWN_PERIODS`, with a key for every type. -/
def allowedCooldownPeriods : CreditAlertType → List CooldownPeriod
  | .creditUtilisationMonitoringCritical =>
      [.fiveMinutes, .fifteenMinutes, .thirtyMinutes, .fortyFiveMinutes, .oneHour]
  | .scheduledCreditReviewReminder =>
      [.oneDay, .twoDays, .threeDays, .fourDays, .fiveDays, .sixDays, .sevenDays]
  | .creditUtilisationMonitoringWarning | .creditScoreDecrease | .creditRatingDowngrade
  | .reviewOverdue | .latePaymentBehaviour | .accountOnHold | .accountSuspended => hourlyCooldowns

/-- `_validate_config_item`. -/
def validateConfigItem (alertType : CreditAlertType) (item : ConfigValues) :
    Except ServiceError PUnit := do
  raiseIf (item.cooldownPeriod ∉ allowedCooldownPeriods alertType)
    (invalid ("Unsupported cooldown period for " ++ alertType.value ++ "."))
  match alertType with
  | .creditUtilisationMonitoringWarning | .creditUtilisationMonitoringCritical =>
      raiseIf (item.thresholdPct.all fun threshold => threshold ≤ 0 ∨ 100 < threshold)
        (invalid "Utilisation threshold must be between 0 and 100.")
  | .creditScoreDecrease =>
      raiseIf (item.scoreDropPoints.all fun points => points ≤ 0)
        (invalid "Credit score decrease requires positive score drop points.")
  | .scheduledCreditReviewReminder =>
      raiseIf (item.reminderDays.all fun days =>
          days < reviewReminderMinDays ∨ reviewReminderMaxDays < days)
        (invalid ("Review reminder days must be between " ++ toString reviewReminderMinDays ++
          " and " ++ toString reviewReminderMaxDays ++ "."))
  | .latePaymentBehaviour =>
      raiseIf (item.latePaymentCount.all fun count => count ≤ 0)
        (invalid "Late payment behaviour requires a positive invoice count threshold.")
  | .creditRatingDowngrade | .reviewOverdue | .accountOnHold | .accountSuspended => pure ⟨⟩

/-- The defaults pass the checks of a request. -/
theorem validateConfigItem_defaultConfig (alertType : CreditAlertType) :
    validateConfigItem alertType (defaultConfig alertType) = .ok ⟨⟩ := by
  cases alertType <;> decide +kernel

/-- `_ensure_org`. -/
def ensureOrg (db : AlertTables) (organizationId : Id) : Except ServiceError PUnit :=
  raiseIf (organizationId ∉ db.organizations) (.notFound "organizations" (some organizationId))

/-- A round of the loop of `upsert_configs`. `current` are the types that had a row before. -/
def upsertConfig (organizationId : Id) (current : List CreditAlertType)
    (configs : Table AlertConfig.key) (item : CreditAlertType × ConfigValues) :
    Except ServiceError (Table AlertConfig.key) := do
  validateConfigItem item.1 item.2
  if item.1 ∈ current then
    return configs.modify (organizationId, item.1) (fun cfg => { cfg with values := item.2 })
      fun _ => rfl
  raiseIf ((configs.find? (organizationId, item.1)).isSome = true)
    (.integrity "uq_org_credit_alert_configs_org_type")
  return configs.insert ⟨organizationId, item.1, item.2⟩

/-- `upsert_configs`. -/
def upsertConfigs (db : AlertTables) (organizationId : Id)
    (items : List (CreditAlertType × ConfigValues)) : Except ServiceError AlertTables := do
  ensureOrg db organizationId
  let current := (db.configs.rows.filter (·.organizationId = organizationId)).map (·.alertType)
  let configs ← items.foldlM (upsertConfig organizationId current) db.configs
  return { db with configs }

/-- `update_global_thresholds`. -/
def updateGlobalThresholds (db : AlertTables) (items : List GlobalThreshold) : AlertTables :=
  let globalThresholds := items.foldl (fun thresholds item =>
    match thresholds.find? item.alertType with
    | none => thresholds.insert item
    | some _ => thresholds.modify item.alertType
        (fun row => { row with thresholdPct := item.thresholdPct }) fun _ => rfl)
    db.globalThresholds
  { db with globalThresholds }

/-- `_resolve_config`: the row of the organisation or else the defaults, if they are enabled. A
threshold that the row leaves open is the global one, or else that of the defaults. -/
def resolveConfig (db : AlertTables) (organizationId : Id) (alertType : CreditAlertType) :
    Option ConfigValues :=
  let defaults := defaultConfig alertType
  let globalRow := db.globalThresholds.find? alertType
  match db.configs.find? (organizationId, alertType) with
  | some cfg => some { cfg.values with
      thresholdPct := (cfg.values.thresholdPct.or (globalRow.map (·.thresholdPct))).or
        defaults.thresholdPct }
  | none =>
      if defaults.enabled = false then none
      else some { defaults with
        thresholdPct := (globalRow.map (·.thresholdPct)).or defaults.thresholdPct }

/-! ### Alerts -/

/-- `find_open_for_type`. -/
def findOpenForType (db : AlertTables) (organizationId : Id) (alertType : CreditAlertType) :
    Option Alert :=
  latest? Alert.kind Alert.triggeredAt (organizationId, alertType)
    (db.alerts.rows.filter (·.status.isOpen))

/-- `find_last_for_type`. -/
def findLastForType (db : AlertTables) (organizationId : Id) (alertType : CreditAlertType) :
    Option Alert :=
  latest? Alert.kind Alert.triggeredAt (organizationId, alertType) db.alerts.rows

/-- What `create_alert` is called with, and the key that the row gets. -/
structure AlertCall where
  newId : Id
  organizationId : Id
  alertType : CreditAlertType
  severity : CreditAlertSeverity
  title : String
  summary : String
  context : Option String
  deriving DecidableEq, Repr

/-- The row that `create_alert` writes. -/
def AlertCall.row (call : AlertCall) (cfg : ConfigValues) (now : Instant) : Alert where
  id := call.newId
  organizationId := call.organizationId
  alertType := call.alertType
  severity := call.severity
  status := if cfg.autoAcknowledge then .autoAcknowledged else .active
  title := call.title
  summary := call.summary
  context := call.context
  triggeredAt := now
  cooldownUntil := some (now + cooldown cfg.cooldownPeriod)
  snoozedUntil := none
  acknowledgedAt := if cfg.autoAcknowledge then some now else none
  acknowledgedByUserId := none
  resolutionNotes := none

/-- `create_alert`, with the alert that it returns. -/
def createAlert (db : AlertTables) (now : Instant) (call : AlertCall) :
    Except ServiceError (AlertTables × Option Alert) := do
  match resolveConfig db call.organizationId call.alertType with
  | none => return (db, none)
  | some cfg =>
      if cfg.enabled = false then return (db, none)
      if (findOpenForType db call.organizationId call.alertType).isSome then return (db, none)
      let last := findLastForType db call.organizationId call.alertType
      if (last.bind Alert.cooldownUntil).any fun until_ => now < until_ then return (db, none)
      raiseIf (call.organizationId ∉ db.organizations)
        (.integrity "fk_org_credit_alert_organization_id")
      raiseIf ((db.alerts.find? call.newId).isSome = true) (.integrity "org_credit_alerts_pkey")
      let alert := call.row cfg now
      let emails := if cfg.deliveryChannel = .both ∨ cfg.deliveryChannel = .emailOnly then
          db.emails ++ [alert.id]
        else db.emails
      return ({ db with alerts := db.alerts.insert alert, emails }, some alert)

/-- The alert of an organisation. -/
def alertOfOrg (db : AlertTables) (organizationId alertId : Id) : Except ServiceError Alert :=
  orRaise ((db.alerts.find? alertId).filter (·.organizationId = organizationId))
    (.notFound "org_credit_alert" (some alertId))

/-- `acknowledge`. -/
def acknowledge (db : AlertTables) (now : Instant) (organizationId alertId caller : Id)
    (resolutionNotes : Option String) : Except ServiceError AlertTables := do
  ensureOrg db organizationId
  let alert ← alertOfOrg db organizationId alertId
  raiseIf (alert.status = .acknowledged ∨ alert.status = .autoAcknowledged ∨
    alert.status = .resolved) (.conflict "Alert has already been handled.")
  return { db with alerts := db.alerts.modify alertId (fun alert => { alert with
    status := .acknowledged
    acknowledgedAt := some now
    acknowledgedByUserId := some caller
    resolutionNotes
    snoozedUntil := none }) fun _ => rfl }

/-- `snooze`. -/
def snooze (db : AlertTables) (now : Instant) (organizationId alertId : Id)
    (duration : SnoozeDuration) : Except ServiceError AlertTables := do
  ensureOrg db organizationId
  let alert ← alertOfOrg db organizationId alertId
  raiseIf (alert.status ≠ .active ∧ alert.status ≠ .snoozed)
    (.conflict "Only active alerts can be snoozed.")
  return { db with alerts := db.alerts.modify alertId (fun alert => { alert with
    status := .snoozed
    snoozedUntil := some (now + snoozeDurationHours duration * 60 * minute) }) fun _ => rfl }

/-- An alert that `find_snoozed_expired` finds. -/
def Alert.IsDue (now : Instant) (alert : Alert) : Prop :=
  alert.status = .snoozed ∧ ∃ until_ ∈ alert.snoozedUntil, until_ ≤ now

instance (now : Instant) : DecidablePred (Alert.IsDue now) := fun alert =>
  decidable_of_iff (alert.status = .snoozed ∧ (alert.snoozedUntil.any fun t => t ≤ now) = true)
    (by simp [Alert.IsDue, Option.any_eq_true])

/-- `auto_unsnooze_due`. -/
def autoUnsnoozeDue (db : AlertTables) (now : Instant) : AlertTables :=
  let alerts := db.alerts.mapRows
    (fun alert => if alert.IsDue now then
        { alert with status := .active, snoozedUntil := none }
      else alert)
    (fun alert => by split_ifs <;> rfl)
  { db with alerts }

/-! ### Operations -/

inductive AlertRequest
  | createAlert (call : AlertCall)
  | acknowledge (organizationId alertId caller : Id) (resolutionNotes : Option String)
  | snooze (organizationId alertId : Id) (duration : SnoozeDuration)
  | autoUnsnoozeDue
  | upsertConfigs (organizationId : Id) (items : List (CreditAlertType × ConfigValues))
  | updateGlobalThresholds (items : List GlobalThreshold)

/-- A request, some time after the one before it. -/
structure AlertOp where
  elapsed : ℕ
  request : AlertRequest

structure AlertState where
  clock : Instant
  db : AlertTables

/-- What the request makes of the tables. -/
def perform (db : AlertTables) (now : Instant) : AlertRequest → Except ServiceError AlertTables
  | .createAlert call => (createAlert db now call).map Prod.fst
  | .acknowledge organizationId alertId caller resolutionNotes =>
      acknowledge db now organizationId alertId caller resolutionNotes
  | .snooze organizationId alertId duration => snooze db now organizationId alertId duration
  | .autoUnsnoozeDue => .ok (autoUnsnoozeDue db now)
  | .upsertConfigs organizationId items => upsertConfigs db organizationId items
  | .updateGlobalThresholds items => .ok (updateGlobalThresholds db items)

/-- Time passes, and a request is carried out, or rolled back. -/
def step (s : AlertState) (op : AlertOp) : AlertState :=
  let now := s.clock + op.elapsed
  ⟨now, settle s.db (perform s.db now op.request)⟩

/-- The alert that an operation fires. -/
def fired (s : AlertState) (op : AlertOp) : Option Alert :=
  match op.request with
  | .createAlert call =>
      match createAlert s.db (s.clock + op.elapsed) call with
      | .ok (_, alert) => alert
      | .error _ => none
  | _ => none

/-- There are no alerts yet. -/
def noAlerts (clock : Instant) (organizations : List Id) (configs : Table AlertConfig.key)
    (globalThresholds : Table GlobalThreshold.alertType) : AlertState :=
  ⟨clock, ⟨organizations, configs, globalThresholds, .empty, []⟩⟩

/-! ### What an operation does -/

variable {db db' : AlertTables} {now : Instant} {call : AlertCall} {cfg : ConfigValues}

/-- What has to hold for an alert to be fired. -/
structure MayFire (db : AlertTables) (now : Instant) (call : AlertCall) (cfg : ConfigValues) :
    Prop where
  config : resolveConfig db call.organizationId call.alertType = some cfg
  enabled : cfg.enabled = true
  noneOpen : findOpenForType db call.organizationId call.alertType = none
  cooled : ∀ last ∈ findLastForType db call.organizationId call.alertType,
    ∀ until_ ∈ last.cooldownUntil, until_ ≤ now
  organization : call.organizationId ∈ db.organizations
  fresh : db.alerts.find? call.newId = none

/-- An alert is fired, or nothing is done. -/
theorem createAlert_cases (db : AlertTables) (now : Instant) (call : AlertCall) :
    (∃ e, createAlert db now call = .error e) ∨ createAlert db now call = .ok (db, none) ∨
      ∃ cfg emails, MayFire db now call cfg ∧ createAlert db now call =
        .ok ({ db with alerts := db.alerts.insert (call.row cfg now), emails },
          some (call.row cfg now)) := by
  unfold createAlert
  cases hcfg : resolveConfig db call.organizationId call.alertType with
  | none => exact .inr (.inl rfl)
  | some cfg =>
      by_cases henabled : cfg.enabled = false
      · exact .inr (.inl (if_pos henabled))
      by_cases hopen : (findOpenForType db call.organizationId call.alertType).isSome
      · exact .inr (.inl (by simp only [if_neg henabled, if_pos hopen]; rfl))
      by_cases hcool : ((findLastForType db call.organizationId call.alertType).bind
          Alert.cooldownUntil).any fun until_ => now < until_
      · exact .inr (.inl (by simp only [if_neg henabled, if_neg hopen, if_pos hcool]; rfl))
      by_cases horg : call.organizationId ∉ db.organizations
      · exact .inl ⟨_, by
          simp only [if_neg henabled, if_neg hopen, if_neg hcool, raiseIf, if_pos horg]
          rfl⟩
      by_cases hid : (db.alerts.find? call.newId).isSome = true
      · exact .inl ⟨_, by
          simp only [if_neg henabled, if_neg hopen, if_neg hcool, raiseIf, if_neg horg, if_pos hid]
          rfl⟩
      refine .inr (.inr ⟨cfg, _, ⟨hcfg, by simpa using henabled, by simpa using hopen, ?_,
        not_not.mp horg, by simpa using hid⟩, by
          simp only [if_neg henabled, if_neg hopen, if_neg hcool, raiseIf, if_neg horg, if_neg hid]
          rfl⟩)
      intro last hlast until_ huntil
      rw [Option.mem_def.mp hlast, Option.bind_some, Option.mem_def.mp huntil] at hcool
      simpa using hcool

/-- A later version of an alert: what it is about and its times stay, and it is not opened again. -/
structure Follows (alert alert' : Alert) : Prop where
  id : alert'.id = alert.id
  kind : alert'.kind = alert.kind
  triggeredAt : alert'.triggeredAt = alert.triggeredAt
  cooldownUntil : alert'.cooldownUntil = alert.cooldownUntil
  closed : alert.status.isOpen = false → alert'.status.isOpen = false

theorem Follows.refl (alert : Alert) : Follows alert alert := ⟨rfl, rfl, rfl, rfl, fun h => h⟩

theorem Follows.trans {a b c : Alert} (hab : Follows a b) (hbc : Follows b c) : Follows a c :=
  ⟨hbc.id.trans hab.id, hbc.kind.trans hab.kind, hbc.triggeredAt.trans hab.triggeredAt,
    hbc.cooldownUntil.trans hab.cooldownUntil, fun h => hbc.closed (hab.closed h)⟩

/-- Alerts have been rewritten, each to a later version of itself. -/
def Rewrites (db db' : AlertTables) : Prop :=
  ∃ f, (∀ alert ∈ db.alerts.rows, Follows alert (f alert)) ∧
    db'.alerts.rows = db.alerts.rows.map f

theorem Rewrites.of_eq (h : db'.alerts = db.alerts) : Rewrites db db' :=
  ⟨id, fun alert _ => .refl alert, by rw [h, List.map_id]⟩

variable {alertId organizationId : Id}

/-- One alert has been rewritten. -/
theorem Rewrites.of_modify {f : Alert → Alert}
    (h : db'.alerts.rows = db.alerts.rows.map fun r => if r.id = alertId then f r else r)
    (hfollows : ∀ alert ∈ db.alerts.rows, alert.id = alertId → Follows alert (f alert)) :
    Rewrites db db' := by
  refine ⟨_, fun alert halert => ?_, h⟩
  split_ifs with hid
  · exact hfollows alert halert hid
  · exact .refl alert

theorem alertOfOrg_eq_ok {alert : Alert} (h : alertOfOrg db organizationId alertId = .ok alert) :
    db.alerts.find? alertId = some alert ∧ alert.organizationId = organizationId := by
  have hfound := Option.filter_eq_some_iff.mp (orRaise_eq_ok.mp h)
  exact ⟨hfound.1, by simpa using hfound.2⟩

/-- `acknowledge` closes an alert that was open. -/
theorem rewrites_acknowledge {caller : Id} {notes : Option String}
    (h : acknowledge db now organizationId alertId caller notes = .ok db') : Rewrites db db' := by
  obtain ⟨-, -, hrest⟩ := bind_eq_ok.mp h
  obtain ⟨alert, -, hrest⟩ := bind_eq_ok.mp hrest
  obtain ⟨-, -, hdb⟩ := bind_eq_ok.mp hrest
  obtain rfl := Except.ok.inj hdb
  exact .of_modify rfl fun _ _ _ => ⟨rfl, rfl, rfl, rfl, fun _ => rfl⟩

/-- `snooze` takes an alert that is open. -/
theorem rewrites_snooze {duration : SnoozeDuration}
    (h : snooze db now organizationId alertId duration = .ok db') : Rewrites db db' := by
  obtain ⟨-, -, hrest⟩ := bind_eq_ok.mp h
  obtain ⟨alert, halert, hrest⟩ := bind_eq_ok.mp hrest
  obtain ⟨_, hopen, hdb⟩ := bind_eq_ok.mp hrest
  obtain rfl := Except.ok.inj hdb
  have hfound := Table.find?_eq_some_iff.mp (alertOfOrg_eq_ok halert).1
  refine .of_modify rfl fun row hrow hid => ⟨rfl, rfl, rfl, rfl, fun hclosed => ?_⟩
  -- the row is the alert that was found, which was not handled
  obtain rfl := Table.eq_of_key hrow hfound.1 (hid.trans hfound.2.symm)
  have hstatus := raiseIf_eq_ok.mp hopen
  cases hrowStatus : row.status <;> simp_all [CreditAlertStatus.isOpen]

/-- `auto_unsnooze_due` takes alerts that are snoozed. -/
theorem rewrites_autoUnsnoozeDue (db : AlertTables) (now : Instant) :
    Rewrites db (autoUnsnoozeDue db now) := by
  refine ⟨_, fun alert _ => ?_, rfl⟩
  split_ifs with hdue
  · refine ⟨rfl, rfl, rfl, rfl, fun hclosed => ?_⟩
    rw [hdue.1] at hclosed
    exact absurd hclosed (by decide)
  · exact .refl alert

theorem alerts_upsertConfigs {items : List (CreditAlertType × ConfigValues)}
    (h : upsertConfigs db organizationId items = .ok db') : db'.alerts = db.alerts := by
  obtain ⟨-, -, hrest⟩ := bind_eq_ok.mp h
  obtain ⟨configs, -, hdb⟩ := bind_eq_ok.mp hrest
  obtain rfl := Except.ok.inj hdb
  rfl

/-- **What an operation does to the alerts**: it rewrites some of them, or it fires one. -/
theorem step_alerts (s : AlertState) (op : AlertOp) :
    (fired s op = none ∧ Rewrites s.db (step s op).db) ∨
      ∃ call cfg, MayFire s.db (s.clock + op.elapsed) call cfg ∧
        fired s op = some (call.row cfg (s.clock + op.elapsed)) ∧
        (step s op).db.alerts.rows =
          s.db.alerts.rows ++ [call.row cfg (s.clock + op.elapsed)] := by
  obtain ⟨elapsed, request⟩ := op
  -- what is rolled back leaves the alerts as they are
  have hrewrites : ∀ request, (∀ db', perform s.db (s.clock + elapsed) request = .ok db' →
      Rewrites s.db db') → Rewrites s.db (step s ⟨elapsed, request⟩).db := by
    intro request hok
    rcases settle_eq s.db (perform s.db (s.clock + elapsed) request) with hdb | hdb
    · exact hok _ hdb
    · exact .of_eq (by rw [step, hdb])
  cases request with
  | createAlert call =>
      rcases createAlert_cases s.db (s.clock + elapsed) call with
        ⟨e, he⟩ | hnone | ⟨cfg, emails, hmay, hok⟩
      · exact .inl ⟨by simp only [fired, he], .of_eq (by simp only [step, perform, he]; rfl)⟩
      · exact .inl ⟨by simp only [fired, hnone], .of_eq (by simp only [step, perform, hnone]; rfl)⟩
      · refine .inr ⟨call, cfg, hmay, by simp only [fired, hok], ?_⟩
        simp only [step, perform, hok]
        exact Table.rows_insert_of_notMem (Table.find?_eq_none_iff.mp hmay.fresh)
  | acknowledge organizationId alertId caller notes =>
      exact .inl ⟨rfl, hrewrites _ fun _ h => rewrites_acknowledge h⟩
  | snooze organizationId alertId duration =>
      exact .inl ⟨rfl, hrewrites _ fun _ h => rewrites_snooze h⟩
  | autoUnsnoozeDue => exact .inl ⟨rfl, rewrites_autoUnsnoozeDue s.db _⟩
  | upsertConfigs organizationId items =>
      exact .inl ⟨rfl, hrewrites _ fun _ h => .of_eq (alerts_upsertConfigs h)⟩
  | updateGlobalThresholds items => exact .inl ⟨rfl, .of_eq rfl⟩

end SwCouriers.CreditAlerts
