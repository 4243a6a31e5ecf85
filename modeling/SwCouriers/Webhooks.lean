import Mathlib.Logic.Function.Basic
import SwCouriers.Common
import SwCouriers.Lib.Checked
import SwCouriers.Lib.Runs

/-!
# Braintree Webhooks

`braintree_webhook`: the gateway tells about disputes and settlements, and may tell the same thing
several times. A row in `braintree_webhook_events` remembers each notification that was handled.
The row of a notification is looked for first; when two deliveries race, a unique index decides,
and the one that comes second is taken for a repetition.

Columns have no width here. In the database a text that is too long for its column, or an amount
of a hundred million or more, makes a request fail, too.

## Main definitions

* `Delivery`: a notification, as a request that brings it.
* `Store`: the tables that the handler reads and writes.
* `braintreeWebhook`, `step`: one delivery.
-/

namespace SwCouriers.Webhooks

open Checked

/-! ### Notifications -/

/-- The kinds of `_DISPUTE_KINDS`. -/
inductive DisputeKind where
  | opened | lost | won | expired | accepted | disputed | autoAccepted | underReview
  deriving DecidableEq, Repr

/-- The kinds of `_TRANSACTION_SETTLEMENT_KINDS`. -/
inductive SettlementKind where
  | settled | settlementDeclined
  deriving DecidableEq, Repr

/-- `notification.kind`, stripped. -/
inductive WebhookKind where
  | dispute (kind : DisputeKind)
  | settlement (kind : SettlementKind)
  | other (text : String)
  deriving DecidableEq, Repr

/-- `_DISPUTE_INITIATED_KINDS`. -/
def DisputeKind.isInitiated (kind : DisputeKind) : Bool := kind = .opened || kind = .disputed

/-- `_DISPUTE_LOSS_KINDS`. -/
def DisputeKind.isLoss (kind : DisputeKind) : Bool :=
  kind = .lost || kind = .expired || kind = .accepted || kind = .autoAccepted

/-- `transaction_details` or `transaction` of a dispute. An attribute that is missing is empty. -/
structure TransactionHolder where
  id : String
  orderId : String
  cardType : String
  deriving DecidableEq, Repr

/-- `notification.dispute`. -/
structure Dispute where
  id : String
  status : String
  amount : Option ℚ
  currencyIsoCode : String
  transactionDetails : Option TransactionHolder
  transaction : Option TransactionHolder
  deriving DecidableEq, Repr

/-- `notification.transaction`. -/
structure Transaction where
  id : String
  status : String
  type : String
  orderId : String
  refundedTransactionId : String
  deriving DecidableEq, Repr

/-- A notification whose signature is valid. -/
structure Notification where
  kind : WebhookKind
  dispute : Option Dispute
  transaction : Option Transaction
  deriving DecidableEq, Repr

/-- A request to the webhook: the clock, the notification, if its signature is valid, and whether
the look at the events came before a row that another delivery was writing. -/
structure Delivery where
  now : Instant
  notification : Option Notification
  stale : Bool
  deriving DecidableEq, Repr

/-! ### The database -/

/-- The columns of a `BillingPayment` that webhooks write. -/
structure PaymentRow where
  disputeStatus : Option String
  disputeAmount : ℤ
  disputeFee : ℤ
  braintreeStatus : Option String
  braintreeStatusUpdatedAt : Option Instant
  deriving DecidableEq, Repr

/-- The columns of a `Refund` that webhooks write. -/
structure RefundRow where
  braintreeStatus : Option String
  braintreeStatusUpdatedAt : Option Instant
  deriving DecidableEq, Repr

/-- A `BillingPaymentEvent` of the handler. Those about a settlement name no dispute. -/
structure PaymentEvent where
  paymentId : Id
  eventType : String
  providerTxnId : String
  status : String
  disputeId : Option String
  disputeAmount : Option ℚ
  disputeFee : Option ℤ
  webhookKind : WebhookKind
  deriving DecidableEq, Repr

/-- A `RefundEvent` of the handler. -/
structure RefundEvent where
  refundId : Id
  braintreeTransactionId : String
  braintreeStatus : String
  deriving DecidableEq, Repr

/-- `BraintreeWebhookEvent`. -/
structure WebhookEvent where
  webhookKind : WebhookKind
  braintreeTransactionId : Option String
  disputeId : Option String
  deriving DecidableEq, Repr

/-- The tables of the handler. -/
structure Store where
  payments : Id → Option PaymentRow
  paymentEvents : List PaymentEvent
  refunds : Id → Option RefundRow
  refundEvents : List RefundEvent
  webhookEvents : List WebhookEvent

/-- Nothing was received yet. -/
def Store.initial (payments : Id → Option PaymentRow) (refunds : Id → Option RefundRow) : Store :=
  ⟨payments, [], refunds, [], []⟩

/-- What is not under the control of the handler: `str.lower` and `str.upper`, keys as texts, and
the chargeback fee of the active profile of a currency and a card brand. -/
structure Env where
  lower : String → String
  upper : String → String
  uuid : UuidText
  activeProfile : String → String → Option ℤ

/-- The two unique indexes: `uq_braintree_webhook_dispute_kind` and
`uq_braintree_webhook_txn_kind`. -/
def WebhookEvent.Clashes (e e' : WebhookEvent) : Prop :=
  e.webhookKind = e'.webhookKind ∧
    (e.disputeId.isSome = true ∧ e.disputeId = e'.disputeId ∨
      e.braintreeTransactionId.isSome = true ∧
        e.braintreeTransactionId = e'.braintreeTransactionId)

instance (e e' : WebhookEvent) : Decidable (e.Clashes e') :=
  inferInstanceAs (Decidable (_ ∧ _))

/-- `event_repo.create`; an `IntegrityError` is `none`. -/
def Store.createEvent? (s : Store) (e : WebhookEvent) : Option Store :=
  if ∃ e' ∈ s.webhookEvents, e.Clashes e' then none
  else some { s with webhookEvents := s.webhookEvents ++ [e] }

/-- `event_repo.exists(dispute_id=.., webhook_kind=..)`. -/
def Store.existsDispute (s : Store) (disputeId : String) (kind : WebhookKind) : Bool :=
  s.webhookEvents.any fun e => e.disputeId = some disputeId && e.webhookKind = kind

/-- `event_repo.exists(braintree_transaction_id=.., webhook_kind=..)`. -/
def Store.existsTransaction (s : Store) (transactionId : String) (kind : WebhookKind) : Bool :=
  s.webhookEvents.any fun e => e.braintreeTransactionId = some transactionId && e.webhookKind = kind

/-! ### Summaries -/

/-- `str(value or "").strip() or None`. -/
def textOrNone (text : String) : Option String := stripOrNone (some text)

/-- What `_extract_dispute_summary` reads of a dispute, as far as the handler uses it. -/
structure DisputeSummary where
  disputeId : String
  braintreeTransactionId : Option String
  orderId : Option String
  status : String
  amount : Option ℚ
  currency : String
  cardType : Option String
  deriving DecidableEq, Repr

/-- `_extract_dispute_summary`. -/
def extractDisputeSummary (env : Env) (n : Notification) : Option DisputeSummary := do
  let dispute ← n.dispute
  let disputeId ← textOrNone dispute.id
  let holder := dispute.transactionDetails <|> dispute.transaction
  return {
    disputeId := disputeId
    braintreeTransactionId := holder.bind fun t => textOrNone t.id
    orderId := holder.bind fun t => textOrNone t.orderId
    status := (textOrNone dispute.status).getD "UNKNOWN"
    amount := dispute.amount
    currency := ((textOrNone dispute.currencyIsoCode).map env.upper).getD "GBP"
    cardType := holder.bind fun t => textOrNone t.cardType }

/-- What `_extract_transaction_summary` reads of a transaction, as far as the handler uses it. -/
structure TransactionSummary where
  braintreeTransactionId : Option String
  status : Option String
  transactionType : Option String
  orderId : Option String
  refundedTransactionId : Option String
  deriving DecidableEq, Repr

/-- `_extract_transaction_summary`, with the empty summary that the handler takes without one. -/
def extractTransactionSummary (n : Notification) : TransactionSummary :=
  match n.transaction with
  | none => ⟨none, none, none, none, none⟩
  | some tx =>
      match textOrNone tx.id with
      | none => ⟨none, none, none, none, none⟩
      | some txId => ⟨some txId, textOrNone tx.status, textOrNone tx.type, textOrNone tx.orderId,
          textOrNone tx.refundedTransactionId⟩

/-! ### What billing does -/

/-- `_BRAINTREE_DISPUTE_STATUS_MAP`. -/
def braintreeDisputeStatusMap : List (String × String) :=
  [("open", "OPEN"), ("disputed", "DISPUTED"), ("under_review", "UNDER_REVIEW"), ("won", "WON"),
    ("lost", "LOST"), ("accepted", "ACCEPTED"), ("expired", "EXPIRED"),
    ("auto_accepted", "AUTO_ACCEPTED")]

/-- `_BRAINTREE_STATUS_MAP`. -/
def braintreeStatusMap : List (String × String) :=
  [("authorized", "AUTHORIZED"), ("submitted_for_settlement", "SUBMITTED_FOR_SETTLEMENT"),
    ("settlement_pending", "SETTLEMENT_PENDING"), ("settling", "SETTLING"),
    ("settled", "SETTLED"), ("settlement_declined", "SETTLEMENT_DECLINED"),
    ("voided", "VOIDED"), ("failed", "FAILED"), ("retrying", "RETRYING"),
    ("refund_submitted", "REFUND_SUBMITTED")]

/-- `normalize_braintree_status` and `normalize_braintree_dispute_status`, over their maps. -/
def normalizeStatus (env : Env) (statusMap : List (String × String)) (status : String) :
    Option String :=
  (textOrNone status).map fun raw =>
    (statusMap.lookup (env.lower raw)).getD
      ((env.upper raw).map fun c => if c = ' ' then '_' else c)

/-- `event_type_map`. -/
def disputeEventType (status : String) : String :=
  if status = "OPEN" then "BRAINTREE_DISPUTE_OPENED"
  else if status ∈ ["DISPUTED", "UNDER_REVIEW", "WON", "LOST", "ACCEPTED", "EXPIRED",
    "AUTO_ACCEPTED"] then "BRAINTREE_DISPUTE_" ++ status
  else "BRAINTREE_DISPUTE_CHANGED"

/-- `find_one(id=..)`, which raises when the text is not one of a key. -/
def findKey (env : Env) (text : String) : Except ServiceError Id :=
  orRaise (env.uuid.read text) (.uncaught "DBAPIError")

/-- `estimate_dispute_fee`. -/
def estimateDisputeFee (env : Env) (currency : String) (cardType : Option String) : Option ℤ :=
  let raw := env.upper (strip (cardType.getD ""))
  let brand := if raw = "AMEX" ∨ raw = "AMERICAN EXPRESS" then "AMEX" else "STANDARD"
  let stripped := env.upper (strip currency)
  let requested := if stripped = "" then "GBP" else stripped
  match env.activeProfile requested brand with
  | some fee => some fee
  | none => if requested ≠ "GBP" then env.activeProfile "GBP" brand else none

/-- The payment after `apply_braintree_dispute_status`. -/
def PaymentRow.disputed (payment : PaymentRow) (now : Instant) (status : String)
    (disputeAmount : Option ℚ) (disputeFee : Option ℤ) : PaymentRow :=
  { payment with
    disputeStatus := some status
    braintreeStatusUpdatedAt := some now
    disputeAmount := (disputeAmount.map money).getD payment.disputeAmount
    disputeFee := disputeFee.getD payment.disputeFee }

/-- The event of `apply_braintree_dispute_status`. -/
def disputeEvent (paymentId : Id) (txId disputeId status : String) (amount : Option ℚ)
    (fee : Option ℤ) (kind : DisputeKind) : PaymentEvent :=
  ⟨paymentId, disputeEventType status, txId, status, some disputeId, amount, fee, .dispute kind⟩

/-- `apply_braintree_dispute_status`. The two constraints are those of the table. -/
def applyBraintreeDisputeStatus (env : Env) (s : Store) (now : Instant) (paymentText txId disputeId
    disputeStatus : String) (amount : Option ℚ) (fee : Option ℤ) (kind : DisputeKind) :
    Except ServiceError Store :=
  match normalizeStatus env braintreeDisputeStatusMap disputeStatus with
  | none => .ok s
  | some status => do
      let paymentId ← findKey env paymentText
      match s.payments paymentId with
      | none => return s
      | some payment =>
          raiseIf ((amount.map money).any (· < 0) = true)
            (.integrity "ck_billing_payments_dispute_amount_non_negative")
          raiseIf (fee.any (· < 0) = true)
            (.integrity "ck_billing_payments_dispute_fee_non_negative")
          return { s with
            payments := Function.update s.payments paymentId
              (some (payment.disputed now status amount fee))
            paymentEvents := s.paymentEvents ++
              [disputeEvent paymentId txId disputeId status amount fee kind] }

/-- `apply_braintree_dispute_won`. -/
def applyBraintreeDisputeWon (env : Env) (s : Store) (now : Instant)
    (paymentText txId disputeId : String) (kind : DisputeKind) : Except ServiceError Store :=
  applyBraintreeDisputeStatus env s now paymentText txId disputeId "WON" none none kind

/-- `apply_braintree_dispute_lost`. -/
def applyBraintreeDisputeLost (env : Env) (s : Store) (now : Instant)
    (paymentText txId disputeId disputeStatus : String) (kind : DisputeKind) :
    Except ServiceError Store :=
  applyBraintreeDisputeStatus env s now paymentText txId disputeId disputeStatus none none kind

/-- `apply_braintree_payment_status`. -/
def applyBraintreePaymentStatus (env : Env) (s : Store) (now : Instant)
    (paymentText txId braintreeStatus : String) (kind : WebhookKind) : Except ServiceError Store :=
  match normalizeStatus env braintreeStatusMap braintreeStatus with
  | none => .ok s
  | some status => do
      let paymentId ← findKey env paymentText
      match s.payments paymentId with
      | none => return s
      | some payment =>
          return { s with
            payments := Function.update s.payments paymentId (some { payment with
              braintreeStatus := some status, braintreeStatusUpdatedAt := some now })
            paymentEvents := s.paymentEvents ++
              [⟨paymentId, "BRAINTREE_STATUS_CHANGED", txId, status, none, none, none, kind⟩] }

/-- `apply_braintree_refund_status`. -/
def applyBraintreeRefundStatus (env : Env) (s : Store) (now : Instant)
    (refundText txId braintreeStatus : String) : Except ServiceError Store :=
  match normalizeStatus env braintreeStatusMap braintreeStatus with
  | none => .ok s
  | some status => do
      let refundId ← findKey env refundText
      match s.refunds refundId with
      | none => return s
      | some _ =>
          return { s with
            refunds := Function.update s.refunds refundId (some ⟨some status, some now⟩)
            refundEvents := s.refundEvents ++ [⟨refundId, txId, status⟩] }

/-! ### The handler -/

/-- What the handler does for a dispute after its row is written. The texts of the summary are
stripped already. -/
def applyDispute (env : Env) (s : Store) (now : Instant) (kind : DisputeKind)
    (summary : DisputeSummary) : Except ServiceError Store :=
  match summary.orderId, summary.braintreeTransactionId with
  | some paymentText, some txId =>
      if kind.isInitiated = true then
        let fee := estimateDisputeFee env summary.currency summary.cardType
        applyBraintreeDisputeStatus env s now paymentText txId summary.disputeId summary.status
          summary.amount fee kind
      else if kind = .won then
        applyBraintreeDisputeWon env s now paymentText txId summary.disputeId kind
      else if kind.isLoss = true then
        applyBraintreeDisputeLost env s now paymentText txId summary.disputeId summary.status kind
      else .ok s
  | _, _ => .ok s

/-- The row of a dispute. -/
def DisputeSummary.event (summary : DisputeSummary) (kind : DisputeKind) : WebhookEvent :=
  ⟨.dispute kind, summary.braintreeTransactionId, some summary.disputeId⟩

/-- The branch for disputes. -/
def disputeWebhook (env : Env) (s : Store) (now : Instant) (kind : DisputeKind)
    (n : Notification) (stale : Bool) : Except ServiceError Store :=
  match extractDisputeSummary env n with
  | none => .ok { s with webhookEvents := s.webhookEvents ++ [⟨.dispute kind, none, none⟩] }
  | some summary =>
      if stale = false ∧ s.existsDispute summary.disputeId (.dispute kind) = true then .ok s
      else match s.createEvent? (summary.event kind) with
        | none => .ok s
        | some s => applyDispute env s now kind summary

/-- What the handler does for a settlement after its row is written. -/
def applySettlement (env : Env) (s : Store) (now : Instant) (kind : SettlementKind)
    (summary : TransactionSummary) : Except ServiceError Store :=
  match summary.orderId, summary.braintreeTransactionId, summary.status with
  | some paymentText, some txId, some status => do
      let s ← applyBraintreePaymentStatus env s now paymentText txId status (.settlement kind)
      if summary.transactionType.map env.lower = some "credit" ∨
          summary.refundedTransactionId.isSome = true then
        applyBraintreeRefundStatus env s now paymentText txId status
      else return s
  | _, _, _ => .ok s

/-- The branch for settlements. -/
def settlementWebhook (env : Env) (s : Store) (now : Instant) (kind : SettlementKind)
    (n : Notification) (stale : Bool) : Except ServiceError Store :=
  let summary := extractTransactionSummary n
  if stale = false ∧ summary.braintreeTransactionId.any
      (s.existsTransaction · (.settlement kind)) = true then .ok s
  else match s.createEvent? ⟨.settlement kind, summary.braintreeTransactionId, none⟩ with
    | none => .ok s
    | some s => applySettlement env s now kind summary

/-- `braintree_webhook`. -/
def braintreeWebhook (env : Env) (s : Store) (d : Delivery) : Except ServiceError Store :=
  match d.notification with
  | none => .ok s
  | some n =>
      match n.kind with
      | .dispute kind => disputeWebhook env s d.now kind n d.stale
      | .settlement kind => settlementWebhook env s d.now kind n d.stale
      | .other text =>
          let kind := WebhookKind.other (if text = "" then "UNKNOWN" else text)
          .ok { s with webhookEvents := s.webhookEvents ++ [⟨kind, none, none⟩] }

/-- One delivery; an exception rolls everything back. -/
def step (env : Env) (s : Store) (d : Delivery) : Store :=
  settle s (braintreeWebhook env s d)

end SwCouriers.Webhooks
