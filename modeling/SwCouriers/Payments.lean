import Mathlib.Data.List.Nodup
import SwCouriers.BillingModel
import SwCouriers.Lib.Runs

/-!
# Payments and Their Allocations

The operations of `BillingService` on payments and on the ledger of allocation rows:
recording a payment, adding to its allocations, replacing or removing them, voiding it
and changing its status. Each is a sequence of checks followed by writes; a call that
raises leaves the database as it was (`PaymentOp.step`).

Allocations are revision rows. `add_or_revise_allocations` appends a revision for each
invoice it names; `replace_allocations` and `remove_allocation` delete the payment's
rows and write the target map as fresh ones.

## Main results

* `normalizeAllocations_spec`: an accepted payload names distinct invoices with positive
  amounts.
* `addOrReviseAllocations_ok`, `applyAllocationTargets_ok`: everything an accepted call
  has checked, and the one form of write that both end with.
-/

namespace SwCouriers

open Checked

/-! ### Payloads -/

/-- `ClientType`. -/
inductive ClientType where
  | admin | customerB2B | customerB2C | warehouse | driver
  deriving DecidableEq, Repr

/-- One entry of an allocation payload. A missing or blank invoice id is `none`. -/
structure AllocationInput where
  invoiceId : Option Id
  allocatedAmount : Option ℚ
  notes : Option String

/-- A payload entry that passed its checks. -/
structure NormalizedAllocation where
  invoiceId : Id
  allocatedAmount : ℤ
  notes : Option String
  deriving DecidableEq, Repr

/-- The path of a field of the payload's entry at an index. -/
def allocationField (idx : ℕ) (field : String) : String :=
  "allocations[" ++ toString idx ++ "]." ++ field

/-- The loop that normalizes a payload, from the entry at index `idx` on. -/
def normalizeFrom : ℕ → List AllocationInput →
    Except ServiceError (List NormalizedAllocation)
  | _, [] => .ok []
  | idx, row :: rest => do
      let amt := money (row.allocatedAmount.getD 0)
      let iid ← orRaise row.invoiceId
        (invalidField "invoice_id is required" (allocationField idx "invoice_id") "Required")
      raiseIf (amt ≤ 0)
        (invalidField "allocated_amount must be greater than 0"
          (allocationField idx "allocated_amount") "Must be greater than 0")
      let normalized ← normalizeFrom (idx + 1) rest
      return ⟨iid, amt, row.notes⟩ :: normalized

/-- The head of `add_or_revise_allocations` and of `replace_allocations`: normalize the
payload and refuse one that names an invoice twice. -/
def normalizeAllocations (allocations : List AllocationInput) :
    Except ServiceError (List NormalizedAllocation) := do
  let normalized ← normalizeFrom 0 allocations
  raiseIf (¬ (normalized.map (·.invoiceId)).Nodup)
    (invalidField "Duplicate invoice_id in allocations payload" "allocations"
      "Each invoice_id may appear only once")
  return normalized

/-! ### Reading and writing allocation rows -/

/-- `inv_by_id.get(iid)`: the invoice, if it belongs to the payment's organisation. -/
def invById (db : Db) (organizationId invoiceId : Id) : Option Invoice :=
  getById db.invoices invoiceId fun inv => inv.organizationId = some organizationId

/-- Every named invoice must exist in the organisation, and be sent. -/
def checkSentInvoices (db : Db) (organizationId : Id) (invoiceIds : List Id) :
    Except ServiceError Unit := do
  checkEach (fun iid => raiseIf ((invById db organizationId iid).isNone)
    (.notFound "invoice" (some iid))) invoiceIds
  checkEach (fun iid => raiseIf ((invById db organizationId iid).map (·.status) ≠ some .sent)
    (invalid "Only SENT invoices can receive payment allocations")) invoiceIds

/-- The row that the next revision of an allocation is stored as. -/
def Db.allocationRow (db : Db) (paymentId : Id) (row : NormalizedAllocation) :
    BillingPaymentAllocation where
  paymentId := paymentId
  invoiceId := row.invoiceId
  revisionNo := db.nextRevisionNo paymentId row.invoiceId
  allocatedAmount := row.allocatedAmount
  notes := row.notes

/-- `_allocation_repo.create` of the next revision. -/
def Db.insertAllocation (paymentId : Id) (db : Db) (row : NormalizedAllocation) : Db :=
  { db with allocations := db.allocations.insert (db.allocationRow paymentId row) }

/-- The loop that creates one revision per entry. -/
def Db.insertAllocations (db : Db) (paymentId : Id) (rows : List NormalizedAllocation) :
    Db :=
  rows.foldl (Db.insertAllocation paymentId) db

/-- `delete(BillingPaymentAllocation).where(payment_id == payment.id)`. -/
def Db.deleteAllocations (db : Db) (paymentId : Id) : Db :=
  { db with allocations := db.allocations.deleteWhere (·.paymentId = paymentId) }

/-- `current_map`: the positive net allocations of a payment. -/
def Db.currentMap (db : Db) (paymentId : Id) : List (Id × ℤ) :=
  (db.latestForPayment paymentId).filter fun entry => 0 < entry.2

/-- `target_map == current_map`, as a comparison of dictionaries. -/
def sameMap (targets : List NormalizedAllocation) (current : List (Id × ℤ)) : Bool :=
  targets.length = current.length &&
    targets.all fun t => current.lookup t.invoiceId = some t.allocatedAmount

/-! ### Operations -/

/-- `add_or_revise_allocations`. -/
def addOrReviseAllocations (db : Db) (today : Day) (paymentId : Id)
    (allocations : List AllocationInput) : Except ServiceError Db := do
  raiseIf (allocations.isEmpty = true)
    (invalidField "At least one allocation is required" "allocations"
      "Must contain at least one item")
  let payment ← getByIdOr404 db.payments paymentId anyScope
  raiseIf (payment.status = .voided) (invalid "Cannot allocate a voided payment")
  let normalized ← normalizeAllocations allocations
  let invoiceIds := normalized.map (·.invoiceId)
  checkSentInvoices db payment.organizationId invoiceIds
  let currentPaymentAllocated := db.totalLatestAllocatedForPayment paymentId
  let batchTotal := (normalized.map (·.allocatedAmount)).sum
  raiseIf (payment.amount < currentPaymentAllocated + batchTotal)
    (invalid "PAYMENT_OVER_ALLOCATED: allocation exceeds payment unallocated balance")
  checkEach (fun row => do
    let invoice ← orRaise (invById db payment.organizationId row.invoiceId)
      (.notFound "invoice" (some row.invoiceId))
    let invoiceRemaining := invoice.total - db.getAppliedTotalForInvoice row.invoiceId
      - db.totalAllocatedForInvoice row.invoiceId
    raiseIf (invoiceRemaining < row.allocatedAmount)
      (invalid "INVOICE_OVER_ALLOCATED: allocation exceeds invoice outstanding balance"))
    normalized
  let db ← recomputePaymentProjection (db.insertAllocations paymentId normalized) payment
  recomputeInvoiceProjections today db invoiceIds

/-- `_apply_allocation_targets`. The target map comes with the notes of each entry. -/
def applyAllocationTargets (db : Db) (today : Day) (payment : BillingPayment)
    (targetMap : List NormalizedAllocation) : Except ServiceError Db := do
  let currentMap := db.currentMap payment.id
  let targetTotal := (targetMap.map (·.allocatedAmount)).sum
  raiseIf (payment.amount < targetTotal)
    (invalid "PAYMENT_OVER_ALLOCATED: allocation exceeds payment amount")
  let targetInvoiceIds := targetMap.map (·.invoiceId)
  checkSentInvoices db payment.organizationId targetInvoiceIds
  let touchedIds :=
    ((currentMap.map (·.1) ++ targetInvoiceIds).dedup).insertionSort (· ≤ ·)
  if touchedIds = [] then return db
  checkEach (fun t => do
    let invoice ← orRaise (invById db payment.organizationId t.invoiceId)
      (.notFound "invoice" (some t.invoiceId))
    let currentPaymentAlloc := (currentMap.lookup t.invoiceId).getD 0
    let otherAlloc := db.totalAllocatedForInvoice t.invoiceId - currentPaymentAlloc
    let remaining :=
      invoice.total - db.getAppliedTotalForInvoice t.invoiceId - otherAlloc
    raiseIf (remaining < t.allocatedAmount)
      (invalid "INVOICE_OVER_ALLOCATED: allocation exceeds invoice outstanding balance"))
    targetMap
  if sameMap targetMap currentMap then return db
  let db := (db.deleteAllocations payment.id).insertAllocations payment.id targetMap
  let db ← recomputePaymentProjection db payment
  recomputeInvoiceProjections today db touchedIds

/-- `replace_allocations`. -/
def replaceAllocations (db : Db) (today : Day) (paymentId : Id)
    (allocations : List AllocationInput) : Except ServiceError Db := do
  let payment ← getByIdOr404 db.payments paymentId anyScope
  raiseIf (payment.status = .voided) (invalid "Cannot allocate a voided payment")
  let normalized ← normalizeAllocations allocations
  applyAllocationTargets db today payment normalized

/-- `remove_allocation`. A blank invoice id is `none`. -/
def removeAllocation (db : Db) (today : Day) (paymentId : Id) (invoiceId : Option Id) :
    Except ServiceError Db := do
  let payment ← getByIdOr404 db.payments paymentId anyScope
  raiseIf (payment.status = .voided) (invalid "Cannot allocate a voided payment")
  let currentMap := db.currentMap paymentId
  let invoiceKey ← orRaise invoiceId (invalid "invoice_id is required")
  raiseIf ((currentMap.lookup invoiceKey).isNone)
    (invalid "No existing positive allocation found for invoice on this payment")
  let targetMap := (currentMap.filter fun entry => entry.1 ≠ invoiceKey).map
    fun entry => ⟨entry.1, entry.2, none⟩
  applyAllocationTargets db today payment targetMap

/-- What a client sends to record a payment. -/
structure PaymentInput where
  organizationId : Id
  amount : ℚ
  paymentDate : Day
  /-- `none` is a text that names no client type. -/
  clientType : Option ClientType
  status : PaymentRecordStatus
  provider : PaymentProvider
  providerTxnId : Option String
  transactionFee : ℚ
  notes : Option String

/-- `'PAY-' || lpad(nextval('payment_number_seq')::text, 6, '0')`. -/
def paymentNumber (num : ℕ) : String :=
  "PAY-" ++ String.ofList ((sixDigits num).toList.take 6)

/-- The unique constraint on organisation, provider and provider transaction. -/
def Db.providerTxnTaken (db : Db) (organizationId : Id) (provider : PaymentProvider)
    (providerTxnId : Option String) (except : Option Id) : Bool :=
  providerTxnId.isSome && db.payments.rows.any fun p =>
    p.organizationId = organizationId && p.provider = provider &&
      p.providerTxnId = providerTxnId && some p.id ≠ except

/-- `_payment_repo.create` of a payment that is not allocated yet. -/
def createPayment (db : Db) (organizationId : Id) (amount transactionFee : ℤ)
    (paymentDate : Day) (status : PaymentRecordStatus) (provider : PaymentProvider)
    (providerTxnId : Option String) : Except ServiceError Db := do
  raiseIf (db.providerTxnTaken organizationId provider providerTxnId none = true)
    (.integrity "uq_billing_payments_org_provider_txn")
  return { db with
    payments := db.payments.insert {
      id := db.payments.fresh
      paymentNumber := paymentNumber (db.paymentNumberSeq + 1)
      organizationId := organizationId
      amount := amount
      transactionFee := transactionFee
      status := status
      allocationStatus := .unallocated
      allocatedAmount := 0
      unallocatedAmount := amount
      paymentDate := paymentDate
      provider := provider
      providerTxnId := providerTxnId
      version := 1 }
    paymentNumberSeq := db.paymentNumberSeq + 1 }

/-- `_validate_record_payment_org_scope_mode`. -/
def validateRecordPaymentOrgScopeMode (clientType : Option ClientType) :
    Except ServiceError Unit := do
  raiseIf (clientType = none)
    (.validation "Invalid client_type"
      [⟨"client_type", "Must be CUSTOMER_B2B or CUSTOMER_B2C", "enum"⟩])
  raiseIf (clientType = some .customerB2C)
    (invalidField "CUSTOMER_B2C record payment is out of scope for this endpoint"
      "client_type" "Use CUSTOMER_B2B for org-scoped record payment.")
  raiseIf (clientType ≠ some .customerB2B)
    (.validation "client_type must be CUSTOMER_B2B"
      [⟨"client_type", "Only CUSTOMER_B2B is supported in this record payment flow", "enum"⟩])

/-- `record_payment`. -/
def recordPayment (db : Db) (input : PaymentInput) : Except ServiceError Db := do
  validateRecordPaymentOrgScopeMode input.clientType
  let amountQ := money input.amount
  let txFeeQ := money input.transactionFee
  raiseIf (amountQ ≤ 0)
    (invalidField "amount must be greater than 0" "amount" "Must be greater than 0")
  raiseIf (txFeeQ < 0) (invalid "transaction_fee must be greater than or equal to 0")
  raiseIf (500 < (input.notes.getD "").length)
    (invalidField "notes exceeds maximum length" "notes" "Maximum 500 characters")
  createPayment db input.organizationId amountQ txFeeQ input.paymentDate input.status
    input.provider input.providerTxnId

/-- `create_pending_payment`. -/
def createPendingPayment (db : Db) (organizationId : Id) (amount : ℚ) (paymentDate : Day)
    (provider : PaymentProvider) : Except ServiceError Db := do
  let amountQ := money amount
  raiseIf (amountQ ≤ 0) (invalid "amount must be greater than 0")
  createPayment db organizationId amountQ 0 paymentDate .pending provider none

/-- `record_payment_with_allocations`: both calls inside one nested transaction. -/
def recordPaymentWithAllocations (db : Db) (today : Day) (input : PaymentInput)
    (allocations : List AllocationInput) : Except ServiceError Db := do
  let paymentId := db.payments.fresh
  let db ← recordPayment db input
  if allocations.isEmpty then return db
  addOrReviseAllocations db today paymentId allocations

/-- `void_payment`. A payment that is already voided is returned as it is. -/
def voidPayment (db : Db) (organizationId paymentId : Id) (expectedVersion : Option ℕ) :
    Except ServiceError Db := do
  let inOrganization : BillingPayment → Bool := fun p => p.organizationId = organizationId
  let payment ← getByIdOr404 db.payments paymentId inOrganization
  if payment.status = .voided then return db
  raiseIf (0 < db.totalLatestAllocatedForPayment payment.id)
    (invalidField "Only unallocated payments can be voided" "payment_id"
      "Payment has allocations and cannot be voided")
  let ev := expectedVersion.getD payment.version
  let payments ← updateById db.payments payment.id
    (fun p => { p with status := .voided, version := ev + 1 }) (fun _ => rfl) ev
    inOrganization
  return { db with payments := payments }

/-- `mark_payment_status`. -/
def markPaymentStatus (db : Db) (organizationId paymentId : Id)
    (toStatus : PaymentRecordStatus) (providerTxnId : Option String)
    (transactionFee : Option ℚ) : Except ServiceError Db := do
  let inOrganization : BillingPayment → Bool := fun p => p.organizationId = organizationId
  let payment ← getByIdOr404 db.payments paymentId inOrganization
  raiseIf (payment.status = .voided ∧ toStatus ≠ .voided)
    (invalid "Voided payments cannot transition to a different status")
  let txFeeQ := (transactionFee.map money).getD payment.transactionFee
  raiseIf (transactionFee.isSome = true ∧ txFeeQ < 0)
    (invalid "transaction_fee must be greater than or equal to 0")
  let resolvedProviderTxnId := providerTxnId.or payment.providerTxnId
  raiseIf (db.providerTxnTaken payment.organizationId payment.provider
    resolvedProviderTxnId (some payment.id) = true)
    (.integrity "uq_billing_payments_org_provider_txn")
  let payments ← updateById db.payments payment.id
    (fun p => { p with
      status := toStatus
      providerTxnId := resolvedProviderTxnId
      transactionFee := txFeeQ
      version := payment.version + 1 })
    (fun _ => rfl) payment.version inOrganization
  return { db with payments := payments }

/-- The requests that write payments and their allocations. -/
inductive PaymentOp where
  | recordPayment (input : PaymentInput)
  | createPendingPayment (organizationId : Id) (amount : ℚ) (paymentDate : Day)
      (provider : PaymentProvider)
  | recordPaymentWithAllocations (input : PaymentInput) (allocations : List AllocationInput)
  | addOrReviseAllocations (paymentId : Id) (allocations : List AllocationInput)
  | replaceAllocations (paymentId : Id) (allocations : List AllocationInput)
  | removeAllocation (paymentId : Id) (invoiceId : Option Id)
  | voidPayment (organizationId paymentId : Id) (expectedVersion : Option ℕ)
  | markPaymentStatus (organizationId paymentId : Id) (toStatus : PaymentRecordStatus)
      (providerTxnId : Option String) (transactionFee : Option ℚ)

/-- Serve a request on a given day. -/
def PaymentOp.exec (db : Db) (today : Day) : PaymentOp → Except ServiceError Db
  | .recordPayment input => SwCouriers.recordPayment db input
  | .createPendingPayment organizationId amount paymentDate provider =>
      SwCouriers.createPendingPayment db organizationId amount paymentDate provider
  | .recordPaymentWithAllocations input allocations =>
      SwCouriers.recordPaymentWithAllocations db today input allocations
  | .addOrReviseAllocations paymentId allocations =>
      SwCouriers.addOrReviseAllocations db today paymentId allocations
  | .replaceAllocations paymentId allocations =>
      SwCouriers.replaceAllocations db today paymentId allocations
  | .removeAllocation paymentId invoiceId =>
      SwCouriers.removeAllocation db today paymentId invoiceId
  | .voidPayment organizationId paymentId expectedVersion =>
      SwCouriers.voidPayment db organizationId paymentId expectedVersion
  | .markPaymentStatus organizationId paymentId toStatus providerTxnId transactionFee =>
      SwCouriers.markPaymentStatus db organizationId paymentId toStatus providerTxnId
        transactionFee

end SwCouriers
