import SwCouriers.CreditNotes

/-!
# Refunds

The refund operations of `BillingService`. A refund is created against a payment; a card
refund asks the gateway at once, a bank transfer waits to be marked complete, a credit
note refund is complete when created. A failed refund can be retried.

The card gateway is a parameter: `refund_or_void_transaction` with its answer, which may
be any success, any failure, or an exception that rolls the call back.
-/

namespace SwCouriers

open Checked

/-- `TransactionReversalResult`. -/
structure TransactionReversalResult where
  success : Bool
  action : String
  originalTransactionId : String
  transactionId : Option String
  message : Option String

/-- `refund_or_void_transaction`: the transaction to reverse, and the amount in pence. -/
abbrev Gateway := String → ℤ → Except ServiceError TransactionReversalResult

/-- What a client sends to create a refund. -/
structure RefundInput where
  organizationId : Id
  billingPaymentId : Id
  amount : ℚ
  refundType : RefundType
  refundMethod : RefundMethod
  reasonCategory : String
  reasonDescription : String
  invoiceId : Option Id
  linkedBookingRef : Option String
  idempotencyKey : Option String

/-- `text or fallback`. -/
def orText (text : Option String) (fallback : String) : String :=
  if text.getD "" = "" then fallback else text.getD ""

/-- `text or column`, for a column that may be empty. -/
def keepText (text column : Option String) : Option String :=
  if text.getD "" = "" then column else text

/-- The refund row after the gateway answered. A failure keeps the source transaction
for the next attempt when the gateway names no new one. -/
def Refund.afterReversal (refund : Refund) (today : Day) (sourceTxnId failedText : String)
    (reversal : TransactionReversalResult) : Refund :=
  let transactionId := (stripOrNone reversal.transactionId).getD sourceTxnId
  if reversal.success then
    { refund with
      status := .completed
      processedAmount := refund.requestedAmount
      completedAt := some today
      failureCode := none
      failureMessage := none
      braintreeTransactionId := some transactionId
      braintreeStatus :=
        some (if reversal.action = "void" then "VOIDED" else "REFUND_SUBMITTED")
      version := refund.version + 1 }
  else
    { refund with
      status := .failed
      failureMessage := some (orText reversal.message failedText)
      braintreeTransactionId := some transactionId
      braintreeStatus := some "FAILED"
      version := refund.version + 1 }

/-- The rows of an organisation's refunds. -/
def inRefundOrganization (organizationId : Id) : Refund → Bool := fun r =>
  r.organizationId = organizationId

/-- The refund that an idempotency key was used for. An empty key is no key. -/
def Db.refundByKey (db : Db) (organizationId : Id) (idempotencyKey : Option String) :
    Option Refund :=
  if idempotencyKey.getD "" = "" then none
  else db.refunds.rows.find? fun r =>
    r.organizationId = organizationId && r.idempotencyKey = idempotencyKey

/-- The row a refund is created as. -/
def newRefund (db : Db) (payment : BillingPayment) (input : RefundInput) (number : String)
    (amountQ : ℤ) : Refund where
  id := db.refunds.fresh
  refundNumber := number
  organizationId := input.organizationId
  billingPaymentId := payment.id
  invoiceId := input.invoiceId
  linkedBookingRef := input.linkedBookingRef
  provider := if input.refundMethod = .cardRefund then payment.provider else .manual
  refundMethod := input.refundMethod
  refundType := input.refundType
  status := if input.refundMethod = .cardRefund then .processing else .initiated
  reasonCategory := input.reasonCategory
  reasonDescription := input.reasonDescription
  requestedAmount := amountQ
  processedAmount := if input.refundMethod = .cardRefund then 0 else amountQ
  braintreeTransactionId := none
  braintreeStatus := none
  retryCount := 0
  failureCode := none
  failureMessage := none
  completedAt := none
  idempotencyKey := input.idempotencyKey
  creditNoteId := none
  version := 1

/-- The update that follows the insert of a refund that is not a card refund. -/
def Refund.afterManualCreation (refund : Refund) (today : Day) : Refund :=
  if refund.refundMethod = .creditNote then
    { refund with
      status := .completed
      completedAt := some today
      processedAmount := refund.requestedAmount
      version := refund.version + 1 }
  else
    { refund with
      status := .initiated
      completedAt := none
      processedAmount := 0
      version := refund.version + 1 }

/-- An invoice named on a refund must exist in the organisation. -/
def checkRefundInvoice (db : Db) (input : RefundInput) : Except ServiceError Unit :=
  match input.invoiceId with
  | some invoiceId => do
      let _ ← getByIdOr404 db.invoices invoiceId (invoiceScope (some input.organizationId))
  | none => .ok ()

/-- What becomes of a refund right after its creation: a card refund goes to the
gateway. -/
def startRefund (gateway : Gateway) (today : Day) (sourceTxnId : String)
    (created : Refund) : Except ServiceError Refund :=
  if created.refundMethod = .cardRefund then
    (gateway sourceTxnId created.requestedAmount).map
      (created.afterReversal today sourceTxnId "Braintree refund/void failed")
  else .ok (created.afterManualCreation today)

/-- `create_refund`. The row that is stored in the end is inserted at once: the
transaction's intermediate states are not visible. -/
def createRefund (gateway : Gateway) (db : Db) (today : Day) (input : RefundInput) :
    Except ServiceError Db := do
  let amountQ := money input.amount
  raiseIf (amountQ ≤ 0) (invalid "amount must be greater than 0")
  if (db.refundByKey input.organizationId input.idempotencyKey).isSome then return db
  let payment ← orRaise
    (getById db.payments input.billingPaymentId
      fun p => p.organizationId = input.organizationId)
    (.notFound "billing_payment" (some input.billingPaymentId))
  checkRefundInvoice db input
  let alreadyRefunded := db.totalNonReversedRefundedForPayment payment.id
  let remaining := payment.amount - alreadyRefunded
  raiseIf (remaining ≤ 0) (invalid "Payment is already fully refunded")
  raiseIf (input.refundType = .fullRefund ∧ amountQ ≠ remaining)
    (invalid "Full refund amount must equal remaining refundable amount")
  raiseIf (input.refundType = .partialRefund ∧ remaining ≤ amountQ)
    (invalid "Partial refund amount must be less than remaining refundable amount")
  let sourceTxnId := strip (payment.providerTxnId.getD "")
  raiseIf (input.refundMethod = .cardRefund ∧ sourceTxnId = "")
    (invalid "Card refund requires payment.provider_txn_id")
  let number := nextDocumentNumber "REF-" (db.refunds.rows.map (·.refundNumber))
  raiseIf (number ∈ db.refunds.rows.map (·.refundNumber))
    (.integrity "refunds_refund_number_key")
  raiseIf (∃ r ∈ db.refunds.rows, r.organizationId = input.organizationId ∧
    input.idempotencyKey ≠ none ∧ r.idempotencyKey = input.idempotencyKey)
    (.integrity "uq_refunds_org_idempotency_key")
  let refund ← startRefund gateway today sourceTxnId
    (newRefund db payment input number amountQ)
  return { db with refunds := db.refunds.insert refund }

/-- `mark_refund_complete`. -/
def markRefundComplete (db : Db) (today : Day) (organizationId refundId : Id)
    (braintreeStatus : Option String) : Except ServiceError Db := do
  let refund ← getByIdOr404 db.refunds refundId (inRefundOrganization organizationId)
  raiseIf (refund.refundMethod = .cardRefund)
    (invalid "Card refunds cannot be manually marked complete")
  raiseIf (refund.status ∉ [.initiated, .processing, .failed])
    (invalid "Refund is not in a completable state")
  let refunds ← updateById db.refunds refund.id
    (fun r => { r with
      status := .completed
      processedAmount := refund.requestedAmount
      completedAt := some today
      braintreeStatus := keepText braintreeStatus refund.braintreeStatus
      version := refund.version + 1 })
    (fun _ => rfl) refund.version (inRefundOrganization organizationId)
  return { db with refunds := refunds }

/-- What every retry writes first, with the status and gateway status of its kind. -/
def Refund.retryBase (refund : Refund) (status : RefundStatus)
    (braintreeStatus failureCode failureMessage : Option String) : Refund :=
  { refund with
    status := status
    retryCount := refund.retryCount + 1
    failureCode := failureCode
    failureMessage := failureMessage
    braintreeStatus := braintreeStatus
    version := refund.version + 1 }

/-- The row that a retry leaves. A card refund goes to the gateway again; any other
waits to be completed. -/
def Refund.retried (refund : Refund) (gateway : Gateway) (today : Day)
    (braintreeStatus failureCode failureMessage : Option String) :
    Except ServiceError Refund :=
  if refund.refundMethod ≠ .cardRefund then
    .ok (refund.retryBase .initiated (keepText braintreeStatus refund.braintreeStatus)
      failureCode failureMessage)
  else do
    let sourceTxnId := strip (refund.braintreeTransactionId.getD "")
    raiseIf (sourceTxnId = "")
      (invalid "Failed card refund cannot be retried without source transaction id")
    let retryBase :=
      refund.retryBase .processing (some "RETRYING") failureCode failureMessage
    let reversal ← gateway sourceTxnId refund.requestedAmount
    return retryBase.afterReversal today sourceTxnId "Braintree refund/void failed on retry"
      reversal

/-- `retry_refund`. -/
def retryRefund (gateway : Gateway) (db : Db) (today : Day) (organizationId refundId : Id)
    (braintreeStatus failureCode failureMessage : Option String) :
    Except ServiceError Db := do
  let refund ← getByIdOr404 db.refunds refundId (inRefundOrganization organizationId)
  raiseIf (refund.status ≠ .failed) (invalid "Only failed refunds can be retried")
  let updated ← refund.retried gateway today braintreeStatus failureCode failureMessage
  let refunds ← updateById db.refunds refund.id
    (fun r => { updated with id := r.id }) (fun _ => rfl) refund.version
    (inRefundOrganization organizationId)
  return { db with refunds := refunds }

/-- `issue_credit_note_for_refund`. -/
def issueCreditNoteForRefund (db : Db) (today : Day) (organizationId refundId : Id)
    (note : Option String) : Except ServiceError Db := do
  let refund ← getByIdOr404 db.refunds refundId (inRefundOrganization organizationId)
  raiseIf (refund.refundMethod ≠ .creditNote)
    (invalid "Only CREDIT_NOTE refunds can be issued as credit notes")
  if refund.status = .completed then return db
  let refundCustomerId := refund.invoiceId.bind fun invoiceId =>
    (getById db.invoices invoiceId (invoiceScope (some organizationId))).bind (·.customerId)
  let (db, cn) ← insertCreditNote db (some organizationId) refundCustomerId
    refund.invoiceId today refund.requestedAmount
    (if refund.reasonCategory = "" then "OTHER" else refund.reasonCategory)
    (some (orText note refund.reasonDescription))
  let refunds ← updateById db.refunds refund.id
    (fun r => { r with
      status := .completed
      processedAmount := refund.requestedAmount
      completedAt := some today
      creditNoteId := some cn.id
      version := refund.version + 1 })
    (fun _ => rfl) refund.version (inRefundOrganization organizationId)
  return { db with refunds := refunds }

/-- The requests on refunds. -/
inductive RefundOp where
  | create (gateway : Gateway) (input : RefundInput)
  | markComplete (organizationId refundId : Id) (braintreeStatus : Option String)
  | retry (gateway : Gateway) (organizationId refundId : Id)
      (braintreeStatus failureCode failureMessage : Option String)
  | issueCreditNote (organizationId refundId : Id) (note : Option String)

/-- Serve a request on a given day. -/
def RefundOp.exec (db : Db) (today : Day) : RefundOp → Except ServiceError Db
  | .create gateway input => createRefund gateway db today input
  | .markComplete organizationId refundId braintreeStatus =>
      markRefundComplete db today organizationId refundId braintreeStatus
  | .retry gateway organizationId refundId braintreeStatus failureCode failureMessage =>
      retryRefund gateway db today organizationId refundId braintreeStatus failureCode
        failureMessage
  | .issueCreditNote organizationId refundId note =>
      issueCreditNoteForRefund db today organizationId refundId note

end SwCouriers
