import SwCouriers.OrderModel
import SwCouriers.SuspensionMetrics
import SwCouriers.SuspensionRuns

/-!
# The Daily Suspension Job

`run_daily_suspension_job` from its first query to the status of its run. `_build_metrics` fills a
map of metrics for each organisation from the rows of eight queries; a key that is missing, or a
row with another number of columns than it is unpacked into, ends the job.

The query for orders selects one column, and its rows are unpacked into two names. So the job
fails as soon as an active organisation has an order.

Metrics are doubles, kept as rationals; amounts are in hundredths. The orders say nothing about
their payment, so which of them are paid is a parameter.

## Main results

* `buildMetrics_ok`: without an order the metrics are computed, and no order is counted.
* `buildMetrics_error`: with one they are not.
* `jobCompletes_iff`: when the job completes.
-/

namespace SwCouriers.SuspensionRules

open Checked

/-! ### Tables -/

/-- A row of `org_payment_methods`. -/
structure OrgPaymentMethod where
  organizationId : Id
  paymentModel : PaymentModel
  creditLimit : Option ℤ

/-- A row of `org_credit_configs`. -/
structure OrgCreditConfig where
  organizationId : Id
  approvedCreditLimit : Option ℤ

/-- A row of `payment_risk_events`. -/
structure PaymentRiskEvent where
  organizationId : Id
  paymentModel : String
  eventType : String
  occurredOn : Day

/-- A row of `orders`, as far as the job could ask for it. -/
structure OrderRow where
  id : Id
  organizationId : Id
  deriving DecidableEq

/-- What the job reads. Risk events are in the order of their creation. -/
structure JobState where
  suspension : Db
  billing : SwCouriers.Db
  paymentMethods : List OrgPaymentMethod
  creditConfigs : List OrgCreditConfig
  riskEvents : List PaymentRiskEvent
  orders : List OrderRow

/-! ### Metrics by organisation -/

/-- `m.setdefault(key, 0.0)`. -/
def Metrics.setDefault (m : Metrics) (key : SuspensionConditionType) : Metrics :=
  fun k => if k = key then some ((m key).getD 0) else m k

/-- `m[key] = value`. -/
def Metrics.put (m : Metrics) (key : SuspensionConditionType) (value : ℚ) : Metrics :=
  fun k => if k = key then some value else m k

/-- `m[key] = f(m[key])`. -/
def Metrics.update (m : Metrics) (key : SuspensionConditionType) (f : ℚ → ℚ) :
    Except ServiceError Metrics := do
  let value ← orRaise (m key) (.uncaught "KeyError")
  return m.put key (f value)

/-- `dict[str, dict[str, float]]`, by organisation. -/
abbrev MetricMap := Id → Option Metrics

/-- `metrics[org_id]`. -/
def MetricMap.at (metrics : MetricMap) (organizationId : Id) : Except ServiceError Metrics :=
  orRaise (metrics organizationId) (.uncaught "KeyError")

/-- The map with other metrics for one organisation. -/
def MetricMap.put (metrics : MetricMap) (organizationId : Id) (m : Metrics) : MetricMap :=
  fun id => if id = organizationId then some m else metrics id

/-! ### Invoices -/

/-- `float` of an amount. -/
def toFloat (amount : ℤ) : ℚ := Double.round (amount / 100)

/-- A row of `invoice_stmt`. -/
structure InvoiceRow where
  organizationId : Option Id
  dueDate : Day
  total : ℤ
  paidTotal : ℤ
  creditTotal : ℤ
  outcomeEventType : Option InvoiceEventType
  invoice : Invoice

/-- `invoice_stmt`. -/
def JobState.invoiceRows (s : JobState) (organizationIds : List Id) : List InvoiceRow :=
  (s.billing.invoices.rows.filter fun inv =>
      inv.organizationId.any (· ∈ organizationIds) && inv.status = .sent).map fun inv =>
    { organizationId := inv.organizationId
      dueDate := inv.dueDate
      total := inv.total
      paidTotal := s.billing.paidTotal inv.id
      creditTotal := s.billing.getAppliedTotalForInvoice inv.id
      outcomeEventType := s.billing.latestOutcomeEventType inv.id
      invoice := inv }

/-- The metrics that every organisation with an invoice has. -/
def Metrics.invoiceDefaults (m : Metrics) : Metrics :=
  [.totalOutstandingAmount, .totalOverdueAmount, .numberOfUnpaidInvoices, .invoiceOverdueDays,
    .creditNotClearedAfterDueDate, .outstandingCashBalance, .cashInvoiceOverdueDays].foldl
    Metrics.setDefault m

/-- What an invoice that is not paid adds. -/
def Metrics.addUnpaid (m : Metrics) (outstanding : ℚ) : Except ServiceError Metrics := do
  let m ← m.update .totalOutstandingAmount fun v => Double.round (v + outstanding)
  let m ← m.update .numberOfUnpaidInvoices fun v => Double.round (v + 1)
  m.update .outstandingCashBalance fun v => Double.round (v + outstanding)

/-- What an invoice that is overdue adds. -/
def Metrics.addOverdue (m : Metrics) (outstanding overdueDays : ℚ) :
    Except ServiceError Metrics := do
  let m ← m.update .totalOverdueAmount fun v => Double.round (v + outstanding)
  let m ← m.update .invoiceOverdueDays fun v => max v overdueDays
  let m ← m.update .creditNotClearedAfterDueDate fun v => max v overdueDays
  m.update .cashInvoiceOverdueDays fun v => max v overdueDays

/-- The loop body over the rows of `invoice_stmt`. `compute_payment_status` reads the clock
itself. -/
def addInvoiceRow (today clock : Day) (metrics : MetricMap) (row : InvoiceRow) :
    Except ServiceError MetricMap :=
  match row.organizationId with
  | none => return metrics
  | some organizationId => do
      let status := computePaymentStatus row.invoice row.paidTotal row.creditTotal
        row.outcomeEventType clock
      let outstanding := max (toFloat (row.total - row.creditTotal - row.paidTotal)) 0
      let m := ((metrics organizationId).getD fun _ => none).invoiceDefaults
      let m ← if status.isUnpaid = true then m.addUnpaid outstanding else pure m
      let m ← if row.dueDate < today ∧ status.isUnpaid = true then
        m.addOverdue outstanding (today - row.dueDate : ℤ) else pure m
      return metrics.put organizationId m

/-! ### Credit limits -/

/-- `credit_limits`: the limit of the credit account, or else the approved limit. The last row of
an organisation counts. -/
def JobState.creditLimit (s : JobState) (organizationId : Id) : ℚ :=
  let ofAccount := (s.paymentMethods.filter fun row =>
    row.organizationId = organizationId ∧ row.paymentModel = .creditAccount).filterMap
      (·.creditLimit)
  let ofConfig := (s.creditConfigs.filter fun row =>
    row.organizationId = organizationId).filterMap (·.approvedCreditLimit)
  ((ofAccount.getLast?.or ofConfig.head?).map toFloat).getD 0

/-- `round(x, 2)`. -/
def roundToHundredths (x : ℚ) : ℚ := Double.round (Decimal.roundHalfEven (x * 100) / 100)

/-- The loop body over the organisations that sets their utilisation. -/
def addUtilization (s : JobState) (metrics : MetricMap) (organizationId : Id) :
    Except ServiceError MetricMap := do
  let m ← metrics.at organizationId
  let outstanding := (m .totalOutstandingAmount).getD 0
  let limit := s.creditLimit organizationId
  let utilization :=
    if 0 < limit then Double.round (Double.round (outstanding / limit) * 100) else 0
  return metrics.put organizationId (m.put .creditUtilization (roundToHundredths utilization))

/-! ### Card payments -/

/-- `count_events`, of card payments. -/
def JobState.countEvents (s : JobState) (organizationId : Id) (eventType : String)
    (since : Day) : ℕ :=
  s.riskEvents.countP fun e => e.organizationId = organizationId ∧
    e.paymentModel = PaymentModel.card.value ∧ e.eventType = eventType ∧ since ≤ e.occurredOn

/-- `recent_events`, of card payments: the last 30, the latest first. -/
def JobState.recentEvents (s : JobState) (organizationId : Id) : List PaymentRiskEvent :=
  ((s.riskEvents.filter fun e => e.organizationId = organizationId ∧
    e.paymentModel = PaymentModel.card.value).reverse).take 30

/-- `consecutive`: the failures since the last success. -/
def consecutiveFailures : List PaymentRiskEvent → ℕ
  | [] => 0
  | event :: events =>
      if event.eventType = "PAYMENT_FAILED" ∨ event.eventType = "RETRY_FAILED" then
        consecutiveFailures events + 1
      else if event.eventType = "PAYMENT_SUCCESS" then 0
      else consecutiveFailures events

/-- The loop body over the organisations that sets their card metrics. -/
def addCardMetrics (s : JobState) (today : Day) (metrics : MetricMap) (organizationId : Id) :
    Except ServiceError MetricMap := do
  let m ← metrics.at organizationId
  let failCount := s.countEvents organizationId "PAYMENT_FAILED" (today - 30)
  let retryFailCount := s.countEvents organizationId "RETRY_FAILED" (today - 30)
  let chargebackCount := s.countEvents organizationId "CHARGEBACK" (today - 90)
  let consecutive := consecutiveFailures (s.recentEvents organizationId)
  let m := m.put .paymentFailureCount failCount
  let m := m.put .paymentRetryFailureCount retryFailCount
  let m := m.put .chargebackTriggered (if 0 < chargebackCount then 1 else 0)
  return metrics.put organizationId (m.put .consecutivePaymentFailure consecutive)

/-! ### Orders -/

/-- A column of a row. -/
inductive Cell where
  | id (value : Id)
  | text (value : String)

/-- A row that is unpacked into two names. -/
def unpackTwo (row : List Cell) : Except ServiceError (Cell × Cell) :=
  match row with
  | [first, second] => return (first, second)
  | _ => throw (.uncaught "ValueError")

/-- `order_stmt`, which selects the organisation of an order and nothing else. -/
def JobState.orderRows (s : JobState) (organizationIds : List Id) : List (List Cell) :=
  (s.orders.filter fun o => o.organizationId ∈ organizationIds).map fun o =>
    [.id o.organizationId]

/-- `str(payment_status).lower() != "paid"`. -/
def Cell.isUnpaid : Cell → Bool
  | .id _ => true
  | .text value => value.toLower ≠ "paid"

/-- The loop body over the rows of `order_stmt`. -/
def addOrderRow (metrics : MetricMap) (row : List Cell) : Except ServiceError MetricMap := do
  let (organization, paymentStatus) ← unpackTwo row
  match organization with
  | .text _ => throw (.uncaught "KeyError")
  | .id organizationId => do
      let m ← metrics.at organizationId
      let m := m.setDefault .maxUnpaidOrders
      let m ← if paymentStatus.isUnpaid = true then
        m.update .maxUnpaidOrders fun v => Double.round (v + 1) else pure m
      return metrics.put organizationId m

/-! ### The job -/

/-- `_build_metrics`. -/
def buildMetrics (s : JobState) (organizationIds : List Id) (today clock : Day) :
    Except ServiceError MetricMap :=
  let metrics : MetricMap := fun id => if id ∈ organizationIds then some fun _ => none else none
  if organizationIds = [] then return metrics
  else do
    let metrics ← (s.invoiceRows organizationIds).foldlM (addInvoiceRow today clock) metrics
    let metrics ← organizationIds.foldlM (addUtilization s) metrics
    let metrics ← organizationIds.foldlM (addCardMetrics s today) metrics
    (s.orderRows organizationIds).foldlM addOrderRow metrics

/-- The status of a `SuspensionEvaluationRun`. -/
inductive RunStatus where
  | running | completed | failed
  deriving DecidableEq, Repr

/-- `_apply_decisions_for_org`, which may fail. -/
abbrev ApplyDecisions := Db → Id → List RuleDecision → Except ServiceError Db

/-- One organisation in the loop of `run_daily_suspension_job`. -/
def evaluateWith (apply : ApplyDecisions) (metrics : MetricMap) (db : Db) (organizationId : Id) :
    Except ServiceError Db :=
  let rules := (db.effectiveRuleSets organizationId).map (·.ruleSet)
  if rules = [] then return db
  else apply db organizationId
    (evaluateRuleSets organizationId ((metrics organizationId).getD fun _ => none) rules)

/-- What is tried in `run_daily_suspension_job`. -/
def tryDailySuspensionJob (apply : ApplyDecisions) (s : JobState) (today clock : Day) :
    Except ServiceError Db := do
  let organizationIds := s.suspension.activeOrgIds
  let metrics ← buildMetrics s organizationIds today clock
  organizationIds.foldlM (evaluateWith apply metrics) s.suspension

/-- The status that `run_daily_suspension_job` leaves its run in. -/
def dailyJobStatus (apply : ApplyDecisions) (s : JobState) (today clock : Day) : RunStatus :=
  match tryDailySuspensionJob apply s today clock with
  | .ok _ => .completed
  | .error _ => .failed

/-! ### What the loops keep -/

section Loops

variable {m m' : Metrics} {metrics : MetricMap}

/-- Two maps with the same keys. -/
def SameKeys (m m' : Metrics) : Prop := ∀ k, m' k = none ↔ m k = none

/-- A metric that is there can be changed. -/
theorem Metrics.update_ok {key : SuspensionConditionType} (h : m key ≠ none) (f : ℚ → ℚ) :
    ∃ m', m.update key f = .ok m' ∧ SameKeys m m' := by
  obtain ⟨value, hvalue⟩ := Option.ne_none_iff_exists'.mp h
  refine ⟨m.put key (f value), bind_eq_ok.mpr ⟨value, orRaise_eq_ok.mpr hvalue, rfl⟩, fun k => ?_⟩
  rw [Metrics.put]
  split_ifs with hk
  · rw [hk, hvalue]
    simp
  · rfl

/-- What an invoice that is not paid adds can be added. -/
theorem Metrics.addUnpaid_ok (h₁ : m .totalOutstandingAmount ≠ none)
    (h₂ : m .numberOfUnpaidInvoices ≠ none) (h₃ : m .outstandingCashBalance ≠ none)
    (outstanding : ℚ) : ∃ m', m.addUnpaid outstanding = .ok m' ∧ SameKeys m m' := by
  obtain ⟨m₁, hm₁, hkeys₁⟩ := Metrics.update_ok h₁ fun v => Double.round (v + outstanding)
  obtain ⟨m₂, hm₂, hkeys₂⟩ := Metrics.update_ok (mt (hkeys₁ _).mp h₂) fun v => Double.round (v + 1)
  obtain ⟨m₃, hm₃, hkeys₃⟩ := Metrics.update_ok (mt (hkeys₂ _).mp (mt (hkeys₁ _).mp h₃))
    fun v => Double.round (v + outstanding)
  refine ⟨m₃, bind_eq_ok.mpr ⟨m₁, hm₁, bind_eq_ok.mpr ⟨m₂, hm₂, hm₃⟩⟩, fun k => ?_⟩
  rw [hkeys₃, hkeys₂, hkeys₁]

/-- What an invoice that is overdue adds can be added. -/
theorem Metrics.addOverdue_ok (h₁ : m .totalOverdueAmount ≠ none)
    (h₂ : m .invoiceOverdueDays ≠ none) (h₃ : m .creditNotClearedAfterDueDate ≠ none)
    (h₄ : m .cashInvoiceOverdueDays ≠ none) (outstanding overdueDays : ℚ) :
    ∃ m', m.addOverdue outstanding overdueDays = .ok m' ∧ SameKeys m m' := by
  obtain ⟨m₁, hm₁, hkeys₁⟩ := Metrics.update_ok h₁ fun v => Double.round (v + outstanding)
  obtain ⟨m₂, hm₂, hkeys₂⟩ := Metrics.update_ok (mt (hkeys₁ _).mp h₂) fun v => max v overdueDays
  obtain ⟨m₃, hm₃, hkeys₃⟩ := Metrics.update_ok (mt (hkeys₂ _).mp (mt (hkeys₁ _).mp h₃))
    fun v => max v overdueDays
  obtain ⟨m₄, hm₄, hkeys₄⟩ := Metrics.update_ok
    (mt (hkeys₃ _).mp (mt (hkeys₂ _).mp (mt (hkeys₁ _).mp h₄))) fun v => max v overdueDays
  refine ⟨m₄, bind_eq_ok.mpr ⟨m₁, hm₁, bind_eq_ok.mpr ⟨m₂, hm₂,
    bind_eq_ok.mpr ⟨m₃, hm₃, hm₄⟩⟩⟩, fun k => ?_⟩
  rw [hkeys₄, hkeys₃, hkeys₂, hkeys₁]

/-- While no order was counted, each of the organisations has its map. -/
structure Uncounted (organizationIds : List Id) (metrics : MetricMap) : Prop where
  present : ∀ id ∈ organizationIds, metrics id ≠ none
  uncounted : ∀ id m, metrics id = some m → m .maxUnpaidOrders = none

variable {organizationIds : List Id}

/-- A map for an organisation may be replaced by one in which no order was counted. -/
theorem Uncounted.put (h : Uncounted organizationIds metrics) (id : Id)
    (hm : m .maxUnpaidOrders = none) : Uncounted organizationIds (metrics.put id m) where
  present other hother := by
    rw [MetricMap.put]
    split_ifs
    · exact Option.some_ne_none m
    · exact h.present other hother
  uncounted other m' hm' := by
    rw [MetricMap.put] at hm'
    split_ifs at hm'
    · exact Option.some.inj hm' ▸ hm
    · exact h.uncounted other m' hm'

/-- The defaults of an organisation with an invoice are about invoices. -/
theorem Metrics.invoiceDefaults_maxUnpaidOrders (m : Metrics) :
    m.invoiceDefaults .maxUnpaidOrders = m .maxUnpaidOrders := rfl

/-- An invoice can be added, and counts no order. -/
theorem Uncounted.addInvoiceRow (h : Uncounted organizationIds metrics) (today clock : Day)
    (row : InvoiceRow) : ∃ metrics', addInvoiceRow today clock metrics row = .ok metrics' ∧
      Uncounted organizationIds metrics' := by
  rw [SuspensionRules.addInvoiceRow]
  cases row.organizationId with
  | none => exact ⟨metrics, rfl, h⟩
  | some organizationId =>
      dsimp only
      have hnone : ((metrics organizationId).getD fun _ => none).invoiceDefaults
          .maxUnpaidOrders = none := by
        rw [Metrics.invoiceDefaults_maxUnpaidOrders]
        cases hm : metrics organizationId with
        | none => rfl
        | some m => exact h.uncounted organizationId m hm
      obtain ⟨m₀, hm₀⟩ : ∃ m, m = (metrics organizationId).getD fun _ => none := ⟨_, rfl⟩
      rw [← hm₀] at hnone ⊢
      obtain ⟨m₁, hm₁, hkeys₁⟩ := m₀.invoiceDefaults.addUnpaid_ok (Option.some_ne_none _)
        (Option.some_ne_none _) (Option.some_ne_none _)
        (max (toFloat (row.total - row.creditTotal - row.paidTotal)) 0)
      split_ifs with hunpaid hoverdue hoverdue
      · obtain ⟨m₂, hm₂, hkeys₂⟩ := m₁.addOverdue_ok (mt (hkeys₁ _).mp (Option.some_ne_none _))
          (mt (hkeys₁ _).mp (Option.some_ne_none _)) (mt (hkeys₁ _).mp (Option.some_ne_none _))
          (mt (hkeys₁ _).mp (Option.some_ne_none _))
          (max (toFloat (row.total - row.creditTotal - row.paidTotal)) 0)
          ((today - row.dueDate : ℤ) : ℚ)
        refine ⟨metrics.put organizationId m₂, ?_, h.put _ ?_⟩
        · exact bind_eq_ok.mpr ⟨m₁, hm₁, bind_eq_ok.mpr ⟨m₂, hm₂, rfl⟩⟩
        · rw [hkeys₂, hkeys₁]
          exact hnone
      · exact ⟨metrics.put organizationId m₁, bind_eq_ok.mpr ⟨m₁, hm₁, rfl⟩,
          h.put _ ((hkeys₁ _).mpr hnone)⟩
      · exact absurd hoverdue.2 hunpaid
      · exact ⟨metrics.put organizationId m₀.invoiceDefaults, rfl, h.put _ hnone⟩

/-- The metrics of an organisation may be set. -/
theorem Uncounted.set (h : Uncounted organizationIds metrics) {id : Id}
    (hid : id ∈ organizationIds) {f : Metrics → Metrics}
    (hf : ∀ m, (f m) .maxUnpaidOrders = m .maxUnpaidOrders) :
    ∃ metrics', (metrics.at id >>= fun m => return metrics.put id (f m)) = .ok metrics' ∧
      Uncounted organizationIds metrics' := by
  obtain ⟨m, hm⟩ := Option.ne_none_iff_exists'.mp (h.present id hid)
  exact ⟨_, bind_eq_ok.mpr ⟨m, orRaise_eq_ok.mpr hm, rfl⟩,
    h.put id ((hf m).trans (h.uncounted id m hm))⟩

/-- The utilisation counts no order. -/
theorem Uncounted.addUtilization (h : Uncounted organizationIds metrics) (s : JobState) {id : Id}
    (hid : id ∈ organizationIds) : ∃ metrics', addUtilization s metrics id = .ok metrics' ∧
      Uncounted organizationIds metrics' :=
  h.set hid (f := fun m => m.put .creditUtilization (roundToHundredths (if 0 < s.creditLimit id
    then Double.round (Double.round ((m .totalOutstandingAmount).getD 0 / s.creditLimit id) * 100)
    else 0))) fun _ => rfl

/-- The card metrics count no order. -/
theorem Uncounted.addCardMetrics (h : Uncounted organizationIds metrics) (s : JobState)
    (today : Day) {id : Id} (hid : id ∈ organizationIds) :
    ∃ metrics', addCardMetrics s today metrics id = .ok metrics' ∧
      Uncounted organizationIds metrics' :=
  h.set hid (f := fun m => (((m.put .paymentFailureCount
      (s.countEvents id "PAYMENT_FAILED" (today - 30))).put .paymentRetryFailureCount
      (s.countEvents id "RETRY_FAILED" (today - 30))).put .chargebackTriggered
      (if 0 < s.countEvents id "CHARGEBACK" (today - 90) then 1 else 0)).put
      .consecutivePaymentFailure (consecutiveFailures (s.recentEvents id))) fun _ => rfl

/-- Without an order the loops get through up to the orders. -/
theorem exists_uncounted (s : JobState) (organizationIds : List Id) (today clock : Day) :
    ∃ m₁ m₂ m₃,
      (s.invoiceRows organizationIds).foldlM (addInvoiceRow today clock)
        (fun id => if id ∈ organizationIds then some fun _ => none else none) = .ok m₁ ∧
      organizationIds.foldlM (addUtilization s) m₁ = .ok m₂ ∧
      organizationIds.foldlM (addCardMetrics s today) m₂ = .ok m₃ ∧
      Uncounted organizationIds m₃ := by
  have hempty : Uncounted organizationIds
      fun id => if id ∈ organizationIds then some fun _ => none else none := by
    refine ⟨fun id hid => by simp [hid], fun id m hm => ?_⟩
    split_ifs at hm
    rw [← Option.some.inj hm]
  obtain ⟨m₁, hm₁, h₁⟩ := foldlM_ok (I := Uncounted organizationIds)
    (fun metrics h row _ => h.addInvoiceRow today clock row) hempty
  obtain ⟨m₂, hm₂, h₂⟩ := foldlM_ok (I := Uncounted organizationIds)
    (fun metrics h id hid => h.addUtilization s hid) h₁
  obtain ⟨m₃, hm₃, h₃⟩ := foldlM_ok (I := Uncounted organizationIds)
    (fun metrics h id hid => h.addCardMetrics s today hid) h₂
  exact ⟨m₁, m₂, m₃, hm₁, hm₂, hm₃, h₃⟩

end Loops

/-! ### When the job completes -/

section Job

variable {s : JobState} {organizationIds : List Id}

/-- **Without an order of the organisations the metrics are computed**, and no order is
counted. -/
theorem buildMetrics_ok (h : ∀ o ∈ s.orders, o.organizationId ∉ organizationIds)
    (today clock : Day) : ∃ metrics, buildMetrics s organizationIds today clock = .ok metrics ∧
      Uncounted organizationIds metrics := by
  have hrows : s.orderRows organizationIds = [] := by
    rw [JobState.orderRows, List.map_eq_nil_iff, List.filter_eq_nil_iff]
    exact fun o ho => by simpa using h o ho
  rw [buildMetrics]
  split_ifs with hnil
  · subst hnil
    exact ⟨_, rfl, fun id hid => absurd hid List.not_mem_nil, fun id m hm => by simp at hm⟩
  · obtain ⟨m₁, m₂, m₃, hm₁, hm₂, hm₃, hkept⟩ := exists_uncounted s organizationIds today clock
    refine ⟨m₃, bind_eq_ok.mpr ⟨m₁, hm₁, bind_eq_ok.mpr ⟨m₂, hm₂,
      bind_eq_ok.mpr ⟨m₃, hm₃, ?_⟩⟩⟩, hkept⟩
    rw [hrows]
    rfl

/-- **With an order of one of them they are not**: its row has one column. -/
theorem buildMetrics_error {o : OrderRow} (ho : o ∈ s.orders)
    (horg : o.organizationId ∈ organizationIds) (today clock : Day) :
    buildMetrics s organizationIds today clock = .error (.uncaught "ValueError") := by
  have hne : organizationIds ≠ [] := List.ne_nil_of_mem horg
  obtain ⟨m₁, m₂, m₃, hm₁, hm₂, hm₃, -⟩ := exists_uncounted s organizationIds today clock
  have hmem : [Cell.id o.organizationId] ∈ s.orderRows organizationIds :=
    List.mem_map.mpr ⟨o, List.mem_filter.mpr ⟨ho, decide_eq_true horg⟩, rfl⟩
  obtain ⟨row, rows, hrows⟩ := List.exists_cons_of_ne_nil (List.ne_nil_of_mem hmem)
  obtain ⟨first, -, rfl⟩ := List.mem_map.mp (hrows ▸ List.mem_cons_self : row ∈ s.orderRows _)
  rw [buildMetrics, if_neg hne, hm₁, ok_bind, hm₂, ok_bind, hm₃, ok_bind, hrows]
  rfl

end Job

/-- The metrics are there and count the orders that are not paid, and the job completes if the
decisions can be applied. -/
structure JobCompletes (s : JobState) (today clock : Day) (isPaid : OrderRow → Bool) : Prop where
  metrics : ∃ metrics, buildMetrics s s.suspension.activeOrgIds today clock = .ok metrics ∧
    ∀ id ∈ s.suspension.activeOrgIds,
      (((metrics id).getD fun _ => none) .maxUnpaidOrders).getD 0
        = s.orders.countP fun o => o.organizationId = id && !isPaid o
  completed : ∀ apply : ApplyDecisions,
    (∀ db organizationId decisions, (apply db organizationId decisions).isOk = true) →
    dailyJobStatus apply s today clock = .completed

/-- Evaluating the organisations goes through if the decisions can be applied. -/
theorem evaluateWith_ok {apply : ApplyDecisions}
    (happly : ∀ db organizationId decisions, (apply db organizationId decisions).isOk = true)
    (metrics : MetricMap) (db : Db) (organizationId : Id) :
    ∃ db', evaluateWith apply metrics db organizationId = .ok db' := by
  rw [evaluateWith]
  split_ifs
  · exact ⟨db, rfl⟩
  · exact exists_eq_ok (happly _ _ _)

/-- **The daily job completes exactly if no active organisation has an order**, whichever orders
are paid. -/
theorem jobCompletes_iff (s : JobState) (today clock : Day) (isPaid : OrderRow → Bool) :
    JobCompletes s today clock isPaid ↔
      ∀ o ∈ s.orders, o.organizationId ∉ s.suspension.activeOrgIds := by
  constructor
  · rintro ⟨⟨metrics, hmetrics, -⟩, -⟩ o ho horg
    rw [buildMetrics_error ho horg] at hmetrics
    exact absurd hmetrics (by simp)
  · intro h
    obtain ⟨metrics, hmetrics, hkept⟩ := buildMetrics_ok h today clock
    refine ⟨⟨metrics, hmetrics, fun id hid => ?_⟩, fun apply happly => ?_⟩
    · obtain ⟨m, hm⟩ := Option.ne_none_iff_exists'.mp (hkept.present id hid)
      have hcount : s.orders.countP (fun o => o.organizationId = id && !isPaid o) = 0 := by
        refine List.countP_eq_zero.mpr fun o ho hcounted => h o ho ?_
        rw [of_decide_eq_true (Bool.and_eq_true_iff.mp hcounted).1]
        exact hid
      rw [hcount, hm, Option.getD_some, hkept.uncounted id m hm]
      rfl
    · obtain ⟨db, hdb, -⟩ := foldlM_ok (I := fun _ => True) (l := s.suspension.activeOrgIds)
        (fun db _ id _ => (evaluateWith_ok happly metrics db id).imp fun _ hok => ⟨hok, trivial⟩)
        (trivial : (fun _ : Db => True) s.suspension)
      have hok : tryDailySuspensionJob apply s today clock = .ok db :=
        bind_eq_ok.mpr ⟨metrics, hmetrics, hdb⟩
      rw [dailyJobStatus, hok]

/-- An active organisation with one order, which may well be paid. -/
def oneOrder : JobState where
  suspension := .initial acme acmeBuyer
  billing := SwCouriers.Db.initial .empty
  paymentMethods := []
  creditConfigs := []
  riskEvents := []
  orders := [⟨1, 1⟩]

/-- The job fails on one order, although all decisions can be applied. -/
theorem one_order_fails :
    dailyJobStatus (fun db _ _ => .ok db) oneOrder 100 100 = .failed ∧
    ¬ JobCompletes oneOrder 100 100 fun _ => true := by
  have hfailed : dailyJobStatus (fun db _ _ => .ok db) oneOrder 100 100 = .failed := by
    decide +kernel
  refine ⟨hfailed, fun h => ?_⟩
  rw [h.completed (fun db _ _ => .ok db) fun _ _ _ => rfl] at hfailed
  exact absurd hfailed (by decide)

end SwCouriers.SuspensionRules
