import SwCouriers.CreditNotes
import SwCouriers.Lib.TransactionLogic
import SwCouriers.Payments

/-!
# Settling Invoices, Statement by Statement

The four calls that settle invoices, `add_or_revise_allocations`, `replace_allocations`,
`remove_allocation` and `apply_credit_note_auto`, as transactions whose statements
interleave with those of others. `Payments` and `CreditNotes` have the same calls as they
run alone; here each query is a statement of its own, which reads what is committed when it
runs together with the transaction's own writes.

A row that the session has loaded is not loaded again: the version that an update expects is
the one that was read first (`loaded`). The update waits for the row and then compares. An
inserted row locks its entry of the unique index. The weaker locks that the insertion and
the deletion of allocation rows take besides are left out, which allows more schedules.
-/

namespace SwCouriers

open Checked ReadCommitted

/-- What a settling transaction can lock: rows, and entries of the unique index over the
revisions of an allocation. -/
inductive SettlementLock where
  | payment (id : Id)
  | invoice (id : Id)
  | creditNote (id : Id)
  | allocationKey (key : Id × Id × ℕ)
  deriving DecidableEq

/-- What `_recompute_payment_projection` writes. -/
structure PaymentRewrite where
  id : Id
  allocatedAmount : ℤ
  unallocatedAmount : ℤ
  allocationStatus : AllocationStatus
  version : ℕ

def PaymentRewrite.write (u : PaymentRewrite) (payment : BillingPayment) : BillingPayment :=
  { payment with
    allocatedAmount := u.allocatedAmount
    unallocatedAmount := u.unallocatedAmount
    allocationStatus := u.allocationStatus
    version := u.version }

/-- What `_recompute_invoice_projection` writes. -/
structure InvoiceRewrite where
  id : Id
  paidAmount : ℤ
  paymentStatus : PaymentStatus
  updatedAt : Day
  version : ℕ

def InvoiceRewrite.write (u : InvoiceRewrite) (invoice : Invoice) : Invoice :=
  { invoice with
    paidAmount := u.paidAmount
    paymentStatus := u.paymentStatus
    updatedAt := u.updatedAt
    version := u.version }

/-- The writes of a transaction that is not committed yet. A deletion names the rows that it
has found. -/
structure Writes where
  deleted : List (Id × Id × ℕ) := []
  inserted : List BillingPaymentAllocation := []
  /-- New applications of credit; their identifiers are drawn when they are committed. -/
  applied : List InvoiceCreditApplication := []
  events : List InvoiceEvent := []
  payments : List PaymentRewrite := []
  invoices : List InvoiceRewrite := []

namespace Writes

/-- The payment row as a transaction sees it. -/
def payment (w : Writes) (payment : BillingPayment) : BillingPayment :=
  ((w.payments.find? fun u => u.id = payment.id).map (·.write payment)).getD payment

/-- The invoice row as a transaction sees it. -/
def invoice (w : Writes) (invoice : Invoice) : Invoice :=
  ((w.invoices.find? fun u => u.id = invoice.id).map (·.write invoice)).getD invoice

theorem payment_id (w : Writes) (payment : BillingPayment) :
    Entity.id (w.payment payment) = Entity.id payment := by
  rw [Writes.payment]
  cases w.payments.find? fun u => u.id = payment.id <;> rfl

theorem invoice_id (w : Writes) (invoice : Invoice) :
    Entity.id (w.invoice invoice) = Entity.id invoice := by
  rw [Writes.invoice]
  cases w.invoices.find? fun u => u.id = invoice.id <;> rfl

/-- The database as a transaction sees it, and as it is once the transaction commits. -/
def apply (w : Writes) (db : Db) : Db :=
  { db with
    payments := db.payments.mapRows w.payment w.payment_id
    allocations := w.inserted.foldl Table.insert
      (db.allocations.deleteWhere fun a => a.key ∈ w.deleted)
    invoices := db.invoices.mapRows w.invoice w.invoice_id
    invoiceEvents := db.invoiceEvents ++ w.events
    creditApplications := w.applied.foldl (fun t a => t.insert { a with id := t.fresh })
      db.creditApplications }

end Writes

/-- A part of a settling transaction. -/
abbrev BillingTxn (α : Type) := Txn Db SettlementLock ServiceError α

namespace Interleaved

/-- `update_by_id` with an expected version: a lookup, the `UPDATE`, which waits for the row,
and the lookup of the result. `w'` has the update in it. -/
def updateById {ρ : Type} [Entity ρ] (table : Db → TableOf ρ) (row : SettlementLock) (id : Id)
    (expectedVersion : ℕ) (w w' : Writes) : BillingTxn Writes := do
  let _ ← Txn.statement fun db => getByIdOr404 (table (w.apply db)) id anyScope
  let _ ← Txn.lockRow row fun db =>
    raiseIf (((table (w.apply db)).find? id).map Entity.version ≠ some expectedVersion)
      (modifiedElsewhere (Entity.tablename ρ))
  let _ ← Txn.statement fun db => getByIdOr404 (table (w'.apply db)) id anyScope
  return w'

/-- `_recompute_payment_projection`. -/
def recomputePaymentProjection (payment : BillingPayment) (w : Writes) :
    BillingTxn Writes := do
  let allocated ← Txn.query fun db => (w.apply db).totalLatestAllocatedForPayment payment.id
  let unallocated := payment.amount - allocated
  let _ ← Txn.check (raiseIf (unallocated < 0)
    (invalid "allocated total exceeds payment amount"))
  updateById Db.payments (.payment payment.id) payment.id payment.version w
    { w with payments := w.payments ++
        [⟨payment.id, allocated, unallocated, allocationStatusOf allocated unallocated,
          payment.version + 1⟩] }

/-- `_recompute_invoice_projection`, in a session that has loaded some invoices before. -/
def recomputeInvoiceProjection (today : Day) (loaded : List Invoice) (w : Writes)
    (invoiceId : Id) : BillingTxn Writes := do
  let found ← Txn.statement fun db => getByIdOr404 (w.apply db).invoices invoiceId anyScope
  let invoice := (loaded.find? fun inv => inv.id = invoiceId).getD found
  let paidTotal ← Txn.query fun db => (w.apply db).totalAllocatedForInvoice invoiceId
  let creditTotal ← Txn.query fun db => (w.apply db).getAppliedTotalForInvoice invoiceId
  let outcomeEventType ← Txn.query fun db => (w.apply db).latestOutcomeEventType invoiceId
  updateById Db.invoices (.invoice invoiceId) invoiceId invoice.version w
    { w with invoices := w.invoices ++
        [⟨invoiceId, paidTotal,
          computePaymentStatus invoice paidTotal creditTotal outcomeEventType today, today,
          invoice.version + 1⟩] }

/-- `_allocation_repo.create` of the next revision. -/
def insertAllocation (paymentId : Id) (w : Writes) (row : NormalizedAllocation) :
    BillingTxn Writes := do
  let revisionNo ← Txn.query fun db => (w.apply db).nextRevisionNo paymentId row.invoiceId
  let new : BillingPaymentAllocation :=
    { paymentId := paymentId
      invoiceId := row.invoiceId
      revisionNo := revisionNo
      allocatedAmount := row.allocatedAmount
      notes := row.notes }
  let _ ← Txn.lockRow (.allocationKey new.key) fun db =>
    raiseIf (new.key ∈ (w.apply db).allocations.rows.map BillingPaymentAllocation.key)
      (.integrity "uq_billing_allocations_payment_invoice_revision")
  return { w with inserted := w.inserted ++ [new] }

/-- The named invoices of the organisation, each of which must exist and be sent. Nothing is
read when none is named. -/
def loadSentInvoices (organizationId : Id) (invoiceIds : List Id) :
    BillingTxn (List Invoice) :=
  if invoiceIds = [] then Txn.pure []
  else Txn.statement fun db => do
    checkSentInvoices db organizationId invoiceIds
    return invoiceIds.filterMap (invById db organizationId)

/-- The end of a call that writes allocations: the revisions, and the projections of the
payment and of the touched invoices. -/
def writeAllocations (today : Day) (payment : BillingPayment) (loaded : List Invoice)
    (rows : List NormalizedAllocation) (touchedIds : List Id) (w : Writes) :
    BillingTxn (Db → Db) := do
  let w ← Txn.forEach (insertAllocation payment.id) rows w
  let w ← recomputePaymentProjection payment w
  let w ← Txn.forEach (recomputeInvoiceProjection today loaded) touchedIds w
  return w.apply

/-- The check of the invoices' balances in `add_or_revise_allocations`, on the sums that were
read. -/
def checkInvoiceRemaining (invoices : List Invoice) (allocated credited : Id → ℤ)
    (rows : List NormalizedAllocation) : Except ServiceError Unit :=
  checkEach (fun row => do
    let invoice ← orRaise (invoices.find? fun inv => inv.id = row.invoiceId)
      (.notFound "invoice" (some row.invoiceId))
    raiseIf (invoice.total - credited row.invoiceId - allocated row.invoiceId
        < row.allocatedAmount)
      (invalid "INVOICE_OVER_ALLOCATED: allocation exceeds invoice outstanding balance")) rows

/-- `add_or_revise_allocations`. -/
def addOrReviseAllocations (today : Day) (paymentId : Id)
    (allocations : List AllocationInput) : BillingTxn (Db → Db) := do
  let _ ← Txn.check (raiseIf (allocations.isEmpty = true)
    (invalidField "At least one allocation is required" "allocations"
      "Must contain at least one item"))
  let payment ← Txn.statement fun db => getByIdOr404 db.payments paymentId anyScope
  let _ ← Txn.check (raiseIf (payment.status = .voided)
    (invalid "Cannot allocate a voided payment"))
  let normalized ← Txn.check (normalizeAllocations allocations)
  let invoiceIds := normalized.map (·.invoiceId)
  let invoices ← loadSentInvoices payment.organizationId invoiceIds
  let currentPaymentAllocated ← Txn.query fun db =>
    db.totalLatestAllocatedForPayment payment.id
  let batchTotal := (normalized.map (·.allocatedAmount)).sum
  let _ ← Txn.check (raiseIf (payment.amount < currentPaymentAllocated + batchTotal)
    (invalid "PAYMENT_OVER_ALLOCATED: allocation exceeds payment unallocated balance"))
  let allocated ← Txn.query fun db => db.totalAllocatedForInvoice
  let credited ← Txn.query fun db => db.getAppliedTotalForInvoice
  let _ ← Txn.check (checkInvoiceRemaining invoices allocated credited normalized)
  writeAllocations today payment invoices normalized invoiceIds {}

/-- The check of the invoices' balances in `_apply_allocation_targets`: what the payment
itself has on an invoice is put back first. -/
def checkTargetRemaining (invoices : List Invoice) (currentMap : List (Id × ℤ))
    (allocated credited : Id → ℤ) (targetMap : List NormalizedAllocation) :
    Except ServiceError Unit :=
  checkEach (fun t => do
    let invoice ← orRaise (invoices.find? fun inv => inv.id = t.invoiceId)
      (.notFound "invoice" (some t.invoiceId))
    let currentPaymentAlloc := (currentMap.lookup t.invoiceId).getD 0
    let otherAlloc := allocated t.invoiceId - currentPaymentAlloc
    raiseIf (invoice.total - credited t.invoiceId - otherAlloc < t.allocatedAmount)
      (invalid "INVOICE_OVER_ALLOCATED: allocation exceeds invoice outstanding balance"))
    targetMap

/-- The writes of `_apply_allocation_targets`: the payment's rows are deleted, and the target
map is written in their place. -/
def replaceRows (today : Day) (payment : BillingPayment) (invoices : List Invoice)
    (targetMap : List NormalizedAllocation) (touchedIds : List Id) :
    BillingTxn (Db → Db) := do
  let deleted ← Txn.query fun db => (db.allocations.rows.filter fun a =>
    a.paymentId = payment.id).map BillingPaymentAllocation.key
  writeAllocations today payment invoices targetMap touchedIds { deleted := deleted }

/-- `_apply_allocation_targets`, once invoices are touched. -/
def applyTouched (today : Day) (payment : BillingPayment) (invoices : List Invoice)
    (currentMap : List (Id × ℤ)) (targetMap : List NormalizedAllocation)
    (touchedIds : List Id) : BillingTxn (Db → Db) := do
  let allocated ← Txn.query fun db => db.totalAllocatedForInvoice
  let credited ← Txn.query fun db => db.getAppliedTotalForInvoice
  let _ ← Txn.check (checkTargetRemaining invoices currentMap allocated credited targetMap)
  if sameMap targetMap currentMap then return id
  else replaceRows today payment invoices targetMap touchedIds

/-- `_apply_allocation_targets`. -/
def applyAllocationTargets (today : Day) (payment : BillingPayment)
    (targetMap : List NormalizedAllocation) : BillingTxn (Db → Db) := do
  let currentMap ← Txn.query fun db => db.currentMap payment.id
  let targetTotal := (targetMap.map (·.allocatedAmount)).sum
  let _ ← Txn.check (raiseIf (payment.amount < targetTotal)
    (invalid "PAYMENT_OVER_ALLOCATED: allocation exceeds payment amount"))
  let targetInvoiceIds := targetMap.map (·.invoiceId)
  let invoices ← loadSentInvoices payment.organizationId targetInvoiceIds
  let touchedIds :=
    ((currentMap.map (·.1) ++ targetInvoiceIds).dedup).insertionSort (· ≤ ·)
  if touchedIds = [] then return id
  else applyTouched today payment invoices currentMap targetMap touchedIds

/-- `replace_allocations`. -/
def replaceAllocations (today : Day) (paymentId : Id) (allocations : List AllocationInput) :
    BillingTxn (Db → Db) := do
  let payment ← Txn.statement fun db => getByIdOr404 db.payments paymentId anyScope
  let _ ← Txn.check (raiseIf (payment.status = .voided)
    (invalid "Cannot allocate a voided payment"))
  let normalized ← Txn.check (normalizeAllocations allocations)
  applyAllocationTargets today payment normalized

/-- `remove_allocation`. The positive allocations are read here and once more in
`_apply_allocation_targets`. -/
def removeAllocation (today : Day) (paymentId : Id) (invoiceId : Option Id) :
    BillingTxn (Db → Db) := do
  let payment ← Txn.statement fun db => getByIdOr404 db.payments paymentId anyScope
  let _ ← Txn.check (raiseIf (payment.status = .voided)
    (invalid "Cannot allocate a voided payment"))
  let currentMap ← Txn.query fun db => db.currentMap paymentId
  let invoiceKey ← Txn.check (orRaise invoiceId (invalid "invoice_id is required"))
  let _ ← Txn.check (raiseIf ((currentMap.lookup invoiceKey).isNone = true)
    (invalid "No existing positive allocation found for invoice on this payment"))
  applyAllocationTargets today payment ((currentMap.filter fun entry =>
    entry.1 ≠ invoiceKey).map fun entry => ⟨entry.1, entry.2, none⟩)

/-- The checks of a note that was read `FOR UPDATE`. -/
def checkNote (cn : CreditNote) (customerId : Option Id) (b2bOrgScope : Bool) :
    Except ServiceError Unit := do
  raiseIf (b2bOrgScope = false ∧ customerId ≠ none ∧ cn.customerId ≠ customerId)
    (.notFound "credit_note" (some cn.id))
  raiseIf (cn.status = .voided ∨ cn.status = .writtenOff)
    (invalid "Credit note is not applicable")
  raiseIf (cn.status ≠ .issued) (invalid "Only ISSUED credit notes can be applied")

/-- `apply_credit_note_auto`. -/
def applyCreditNoteAuto (today : Day) (creditNoteId invoiceId organizationId : Id)
    (customerId : Option Id) (b2bOrgScope : Bool) : BillingTxn (Db → Db) := do
  let cn ← Txn.lockRow (.creditNote creditNoteId) fun db =>
    orRaise (getById db.creditNotes creditNoteId (inNoteOrganization organizationId))
      (.notFound "credit_note" (some creditNoteId))
  let _ ← Txn.check (checkNote cn customerId b2bOrgScope)
  let inv ← Txn.lockRow (.invoice invoiceId) fun db =>
    orRaise (getById db.invoices invoiceId (invoiceScope (some organizationId)))
      (.notFound "invoice" (some invoiceId))
  let _ ← Txn.check (raiseIf (inv.status ≠ .sent)
    (invalid "Only SENT invoices can receive credit"))
  let _ ← Txn.statement fun db => raiseIf (db.isClosed inv.id = true)
    (invalid "Invoice is not applicable for credit")
  let effectiveCustomerId ← Txn.statement fun db =>
    orRaise (resolveCreditNoteCustomerId db cn organizationId) creditNoteMissingCustomerError
  let _ ← Txn.check (raiseIf (inv.customerId ≠ some effectiveCustomerId)
    (invalidField "Invoice does not match the credit note customer" "invoice_id"
      "Invoice customer must match the credit note customer"))
  let creditAppliedTotal ← Txn.query fun db => db.getAppliedTotalForCreditNote cn.id
  let creditRemaining := cn.totalCreditAmount - creditAppliedTotal
  let invoicePaidTotal ← Txn.query fun db => db.totalAllocatedForInvoice inv.id
  let invoiceCreditTotal ← Txn.query fun db => db.getAppliedTotalForInvoice inv.id
  let invoiceOutstanding := inv.total - invoiceCreditTotal - invoicePaidTotal
  let applyAmount := min creditRemaining invoiceOutstanding
  let _ ← Txn.check (raiseIf (applyAmount ≤ 0) (invalid "Nothing to apply"))
  let w ← recomputeInvoiceProjection today [inv]
    { applied := [⟨0, inv.id, cn.id, applyAmount, today⟩]
      events := [⟨inv.id, .creditApplied, some ("Credit note " ++ cn.creditNoteNumber
        ++ " applied: " ++ Decimal.render applyAmount)⟩] } inv.id
  return w.apply

end Interleaved

/-- The calls that settle invoices. -/
inductive SettlementCall where
  | addOrReviseAllocations (today : Day) (paymentId : Id) (allocations : List AllocationInput)
  | replaceAllocations (today : Day) (paymentId : Id) (allocations : List AllocationInput)
  | removeAllocation (today : Day) (paymentId : Id) (invoiceId : Option Id)
  | applyCreditNoteAuto (today : Day) (creditNoteId invoiceId organizationId : Id)
      (customerId : Option Id) (b2bOrgScope : Bool)

/-- The transaction that a call runs in. -/
def SettlementCall.txn : SettlementCall → BillingTxn (Db → Db)
  | addOrReviseAllocations today paymentId allocations =>
      Interleaved.addOrReviseAllocations today paymentId allocations
  | replaceAllocations today paymentId allocations =>
      Interleaved.replaceAllocations today paymentId allocations
  | removeAllocation today paymentId invoiceId =>
      Interleaved.removeAllocation today paymentId invoiceId
  | applyCreditNoteAuto today creditNoteId invoiceId organizationId customerId b2bOrgScope =>
      Interleaved.applyCreditNoteAuto today creditNoteId invoiceId organizationId customerId
        b2bOrgScope

end SwCouriers
