import SwCouriers.StatusAutomationRules

/-!
# Status Automation

What `StatusAutomationRulesService` does with a status event. The rules that count for the
organisation are tried in their order; the first one whose trigger is the status of the event, and
whose condition holds, gives the entity its new status, and a log row says so. An event that has a
log row is not evaluated again. Log rows hang on their rule, and go when it is deleted.

Orders, stops and packages are kept with their status as it is stored, a text, and so are the
events, which are rows of three tables.

## Main definitions

* `evaluateForEvent`: the evaluation of one event.
* `runDailyReconciliation`: the nightly replay of a day's events.
* `Request.step`: a change of a status by hand, the delivery of an event, a replay, or an operation
  on the rules.
-/

namespace SwCouriers.StatusAutomation

open Checked
open StatusAutomationRules (EntityType TimingValue StatusAutomationRuleSet)

/-! ### Rows -/

/-- `Order`. -/
structure Order where
  id : Id
  organizationId : Id
  status : String
  deriving DecidableEq, Repr

/-- `DeliveryStop`. -/
structure DeliveryStop where
  id : Id
  orderId : Id
  status : String
  deriving DecidableEq, Repr

/-- `Package`. -/
structure Package where
  id : Id
  orderId : Id
  deliveryStopId : Option Id
  status : String
  deriving DecidableEq, Repr

/-- A row of `order_events`, `delivery_stop_events` or `package_events`. -/
structure StatusEvent where
  id : Id
  entityType : EntityType
  entityId : Id
  fromStatus : Option String
  toStatus : String
  actorUserId : Option Id
  createdAt : Instant
  deriving DecidableEq, Repr

/-- `StatusAutomationExecutionLog`. -/
structure ExecutionLog where
  eventId : Id
  organizationId : Id
  entityType : EntityType
  entityId : Id
  ruleSetId : Id
  status : String
  message : String
  deriving DecidableEq, Repr

/-- A status that automation has changed. -/
structure AutomatedChange where
  eventId : Id
  ruleSetId : Id
  entityType : EntityType
  entityId : Id
  newStatus : String
  deriving DecidableEq, Repr

/-- The tables. `changes` is no table: it records what automation did. -/
structure Store where
  rules : StatusAutomationRules.Db
  orders : Table Order.id
  stops : Table DeliveryStop.id
  packages : Table Package.id
  events : Table StatusEvent.id
  logs : List ExecutionLog
  changes : List AutomatedChange

/-! ### Statuses -/

/-- The values of `PackageStatus`, `DeliveryStopStatus` and `OrderStatus`. -/
def statusValues : EntityType → List String
  | .package => ["PENDING_PICKUP", "PICKUP_SCHEDULED", "ENROUTE_PICKUP", "ENROUTE_WAREHOUSE",
      "AT_WAREHOUSE", "SORTING_IN_PROGRESS", "DELIVERY_SCHEDULED", "LOADED_FOR_DELIVERY",
      "OUT_FOR_DELIVERY", "DELIVERED_TO_CUSTOMER", "CUSTOMER_NOT_HOME", "REFUSED_BY_CUSTOMER",
      "MISSING", "DAMAGED", "LEFT_AT_SAFE_PLACE", "RETURN_INITIATED", "RETURN_IN_TRANSIT",
      "RETURNED", "CANCELLED", "DISPOSED"]
  | .deliveryStop => ["PENDING_PICKUP", "PICKUP_SCHEDULED", "ENROUTE_PICKUP", "ENROUTE_WAREHOUSE",
      "AT_WAREHOUSE", "SORTING_IN_PROGRESS", "DELIVERY_SCHEDULED", "LOADED_FOR_DELIVERY",
      "OUT_FOR_DELIVERY", "DELIVERED", "PARTIALLY_DELIVERED", "DELIVERY_ATTEMPT_1_FAILED",
      "DELIVERY_ATTEMPT_2_FAILED", "DELIVERY_ATTEMPT_3_FAILED", "MIXED", "FAILED", "CANCELLED",
      "RETURN_INITIATED", "RETURN_IN_TRANSIT", "RETURNED", "DISPOSED"]
  | .bookingOrder => ["PENDING_PICKUP", "PICKUP_SCHEDULED", "ENROUTE_PICKUP", "ENROUTE_WAREHOUSE",
      "AT_WAREHOUSE", "SORTING_IN_PROGRESS", "DELIVERY_IN_PROGRESS", "PARTIALLY_DELIVERED",
      "DELIVERED", "FAILED", "RETURN_IN_PROGRESS", "RETURN_IN_TRANSIT", "RETURNED", "CANCELLED"]

namespace Store

variable (store : Store)

/-- The status of an entity. -/
def statusOf (entityType : EntityType) (entityId : Id) : Option String :=
  match entityType with
  | .package => (store.packages.find? entityId).map (·.status)
  | .deliveryStop => (store.stops.find? entityId).map (·.status)
  | .bookingOrder => (store.orders.find? entityId).map (·.status)

/-- An entity gets a status. -/
def setStatus (entityType : EntityType) (entityId : Id) (status : String) : Store :=
  match entityType with
  | .package => { store with
      packages := store.packages.modify entityId (fun p => { p with status := status })
        fun _ => rfl }
  | .deliveryStop => { store with
      stops := store.stops.modify entityId (fun s => { s with status := status }) fun _ => rfl }
  | .bookingOrder => { store with
      orders := store.orders.modify entityId (fun o => { o with status := status }) fun _ => rfl }

/-- `OrderStatusEventService`: the event of a transition. -/
def recordTransition (entityType : EntityType) (entityId : Id) (fromStatus : Option String)
    (toStatus : String) (actorUserId : Option Id) (now : Instant) : Store :=
  let event : StatusEvent :=
    ⟨store.events.fresh, entityType, entityId, fromStatus, toStatus, actorUserId, now⟩
  { store with events := store.events.insert event }

/-- What `get_by_id_or_404` raises. -/
def missing : EntityType → Id → ServiceError
  | .package, entityId => .notFound "packages" (some entityId)
  | .deliveryStop, entityId => .notFound "delivery_stops" (some entityId)
  | .bookingOrder, entityId => .notFound "orders" (some entityId)

end Store

/-! ### Events -/

/-- `StatusEventContext`. -/
structure StatusEventContext where
  eventId : Id
  organizationId : Id
  entityType : EntityType
  entityId : Id
  fromStatus : Option String
  toStatus : String
  orderId : Option Id
  deliveryStopId : Option Id
  actorUserId : Option Id
  deriving DecidableEq, Repr

/-- The entity whose status an event may change. -/
def StatusEventContext.target (ctx : StatusEventContext) : Id :=
  match ctx.entityType with
  | .package => ctx.entityId
  | .deliveryStop => ctx.deliveryStopId.getD ctx.entityId
  | .bookingOrder => ctx.orderId.getD ctx.entityId

/-- The settings of the runtime. -/
structure Settings where
  runtimeEnabled : Bool
  shadowMode : Bool
  enabledOrgIds : List Id

/-! ### Matching -/

/-- `_is_before_pickup`. -/
def isBeforePickup : Option String → Bool
  | none => true
  | some status => status = "" ||
      decide (status ∈ ["PENDING_PICKUP", "PICKUP_SCHEDULED", "ENROUTE_PICKUP"])

/-- `_resolve_order_status`. -/
def Store.resolveOrderStatus (store : Store) (orderId : Option Id) : Option String :=
  orderId.bind (store.statusOf .bookingOrder)

/-- `_trigger_matches`. -/
def triggerMatches (rule : StatusAutomationRuleSet) (ctx : StatusEventContext) : Bool :=
  rule.trigger.entityType = ctx.entityType && ctx.toStatus = rule.trigger.statusValue

/-- `_conditions_match`. -/
def Store.conditionsMatch (store : Store) (conditions : List TimingValue)
    (ctx : StatusEventContext) : Bool :=
  match conditions with
  | [] => true
  | value :: _ =>
      let orderId := ctx.orderId.or
        (if ctx.entityType = .bookingOrder then some ctx.entityId else none)
      value = .afterPickup && !isBeforePickup (store.resolveOrderStatus orderId)

/-- The rule is one for the event. -/
def Store.Matches (store : Store) (ctx : StatusEventContext) (rule : StatusAutomationRuleSet) :
    Bool :=
  triggerMatches rule ctx && store.conditionsMatch rule.conditions ctx

/-! ### Evaluation -/

/-- `_execute_change_status`, with the number of changes. A stop that is not there is passed over,
which the other entities are not. -/
def executeChangeStatus (store : Store) (newStatus : String) (ctx : StatusEventContext)
    (now : Instant) : Except ServiceError (Store × ℕ) :=
  match store.statusOf ctx.entityType ctx.target with
  | none =>
      if ctx.entityType = .deliveryStop then .ok (store, 0)
      else .error (Store.missing ctx.entityType ctx.target)
  | some oldStatus => do
      raiseIf (newStatus ∉ statusValues ctx.entityType) (.uncaught "ValueError")
      if oldStatus = newStatus then return (store, 0)
      let changed := store.setStatus ctx.entityType ctx.target newStatus
      return (changed.recordTransition ctx.entityType ctx.target (some oldStatus) newStatus
        ctx.actorUserId now, 1)

/-- A row of the execution log. -/
def Store.log (store : Store) (ctx : StatusEventContext) (rule : StatusAutomationRuleSet)
    (status message : String) : Store :=
  let row : ExecutionLog :=
    ⟨ctx.eventId, ctx.organizationId, ctx.entityType, ctx.entityId, rule.id, status, message⟩
  { store with logs := store.logs ++ [row] }

/-- The record of a change by automation. -/
def Store.note (store : Store) (ctx : StatusEventContext) (rule : StatusAutomationRuleSet)
    (newStatus : String) : Store :=
  let change : AutomatedChange :=
    ⟨ctx.eventId, rule.id, ctx.entityType, ctx.target, newStatus⟩
  { store with changes := store.changes ++ [change] }

/-- The numbers that an evaluation returns. -/
structure Metrics where
  evaluated : ℕ
  matched : ℕ
  executed : ℕ
  deriving DecidableEq, Repr

/-- The body of the loop for a rule that matches. -/
def fireRule (settings : Settings) (store : Store) (ctx : StatusEventContext) (now : Instant)
    (rule : StatusAutomationRuleSet) (metrics : Metrics) : Except ServiceError (Store × Metrics) :=
  if settings.shadowMode then
    .ok (store.log ctx rule "SHADOW_MATCHED" "Shadow mode: actions not executed.", metrics)
  else do
    let newStatus ← orRaise rule.actions.head? (invalid "Rule is missing THEN status action.")
    let (changed, count) ← executeChangeStatus store newStatus ctx now
    let executed := metrics.executed + count
    let noted := if count = 0 then changed else changed.note ctx rule newStatus
    return (noted.log ctx rule "SUCCESS" ("Executed " ++ toString executed ++ " action(s)."),
      { metrics with executed := executed })

/-- The loop of `evaluate_for_event`, which ends with the first rule that matches. -/
def evaluateRules (settings : Settings) (store : Store) (ctx : StatusEventContext)
    (now : Instant) (metrics : Metrics) :
    List StatusAutomationRuleSet → Except ServiceError (Store × Metrics)
  | [] => .ok (store, metrics)
  | rule :: rules =>
      if !triggerMatches rule ctx then evaluateRules settings store ctx now metrics rules
      else
        let metrics := { metrics with evaluated := metrics.evaluated + 1 }
        if !store.conditionsMatch rule.conditions ctx then
          evaluateRules settings store ctx now metrics rules
        else fireRule settings store ctx now rule { metrics with matched := metrics.matched + 1 }

/-- Events of the organisation are evaluated at all. -/
def Settings.Evaluates (settings : Settings) (organizationId : Id) : Prop :=
  settings.runtimeEnabled = true ∧
    (settings.enabledOrgIds = [] ∨ organizationId ∈ settings.enabledOrgIds)

instance (settings : Settings) (organizationId : Id) :
    Decidable (settings.Evaluates organizationId) := inferInstanceAs (Decidable (_ ∧ _))

/-- The event has a log row. -/
def Store.Logged (store : Store) (eventId : Id) : Prop := ∃ log ∈ store.logs, log.eventId = eventId

instance (store : Store) (eventId : Id) : Decidable (store.Logged eventId) :=
  inferInstanceAs (Decidable (∃ log ∈ store.logs, _))

/-- `evaluate_for_event`, when `_acquire_entity_lock` answers `lockAcquired`. -/
def evaluateForEvent (settings : Settings) (store : Store) (ctx : StatusEventContext)
    (lockAcquired : Bool) (now : Instant) : Except ServiceError (Store × Metrics) :=
  if ¬ settings.Evaluates ctx.organizationId then .ok (store, ⟨0, 0, 0⟩)
  else if lockAcquired = false then .ok (store, ⟨0, 0, 0⟩)
  else if store.Logged ctx.eventId then .ok (store, ⟨0, 0, 0⟩)
  else do
    let rules ← store.rules.effectiveForOrg ctx.organizationId
    evaluateRules settings store ctx now ⟨0, 0, 0⟩ rules

/-! ### Reconciliation -/

/-- The context of a package event, from the row that the query joins. -/
def Store.packageContext (store : Store) (event : StatusEvent) : Option StatusEventContext := do
  let package ← store.packages.find? event.entityId
  let order ← store.orders.find? package.orderId
  return { eventId := event.id, organizationId := order.organizationId, entityType := .package,
           entityId := package.id, fromStatus := event.fromStatus, toStatus := event.toStatus,
           orderId := some package.orderId, deliveryStopId := package.deliveryStopId,
           actorUserId := event.actorUserId }

/-- The package events of a day, oldest first. -/
def Store.packageEventsOf (store : Store) (runDate : Day) : List StatusEventContext :=
  let start := runDate * 86400000000
  let rows := store.events.rows.filter fun e => e.entityType = .package ∧ start ≤ e.createdAt ∧
    e.createdAt < start + 86400000000
  (rows.insertionSort fun a b => a.createdAt ≤ b.createdAt).filterMap store.packageContext

/-- The first loop of `run_daily_reconciliation`. -/
def replayPackageEvents (settings : Settings) (locks : Id → Bool) (now : Instant) (store : Store) :
    List StatusEventContext → Except ServiceError Store
  | [] => .ok store
  | ctx :: ctxs => do
      let (store, _) ← evaluateForEvent settings store ctx (locks ctx.eventId) now
      replayPackageEvents settings locks now store ctxs

/-- `run_daily_reconciliation`. After the package events it builds its second query over
`DeliveryStop`, a name that the module does not import, so nothing after that is reached. -/
def runDailyReconciliation (settings : Settings) (store : Store) (locks : Id → Bool)
    (runDate : Day) (now : Instant) : Except ServiceError Store := do
  let _ ← replayPackageEvents settings locks now store (store.packageEventsOf runDate)
  .error (.uncaught "NameError")

/-! ### Requests -/

/-- A status is changed by hand. -/
def changeStatus (store : Store) (entityType : EntityType) (entityId : Id) (toStatus : String)
    (actorUserId : Option Id) (now : Instant) : Except ServiceError Store := do
  let fromStatus ← orRaise (store.statusOf entityType entityId) (Store.missing entityType entityId)
  raiseIf (toStatus ∉ statusValues entityType) (.uncaught "ValueError")
  if fromStatus = toStatus then return store
  let changed := store.setStatus entityType entityId toStatus
  return changed.recordTransition entityType entityId (some fromStatus) toStatus actorUserId now

/-- The rules have changed; the log rows of those that are gone are deleted. -/
def Store.withRules (store : Store) (rules : StatusAutomationRules.Db) : Store :=
  { store with
    rules := rules
    logs := store.logs.filter fun log => (rules.rules.find? log.ruleSetId).isSome }

/-- What may happen. -/
inductive Request where
  | changeStatus (entityType : EntityType) (entityId : Id) (toStatus : String)
      (actorUserId : Option Id)
  | deliver (ctx : StatusEventContext) (lockAcquired : Bool)
  | reconcile (runDate : Day) (locks : Id → Bool)
  | editRules (op : StatusAutomationRules.Op)

/-- Serve a request. -/
def Request.exec (env : StatusAutomationRules.Env) (settings : Settings) (now : Instant)
    (store : Store) : Request → Except ServiceError Store
  | .changeStatus entityType entityId toStatus actorUserId =>
      StatusAutomation.changeStatus store entityType entityId toStatus actorUserId now
  | .deliver ctx lockAcquired =>
      (evaluateForEvent settings store ctx lockAcquired now).map (·.1)
  | .reconcile runDate locks => runDailyReconciliation settings store locks runDate now
  | .editRules op => (op.run env now store.rules).map store.withRules

/-- Serve a request; what raises is rolled back. -/
def Request.step (env : StatusAutomationRules.Env) (settings : Settings) (store : Store)
    (request : Instant × Request) : Store :=
  settle store (request.2.exec env settings request.1 store)

end SwCouriers.StatusAutomation
