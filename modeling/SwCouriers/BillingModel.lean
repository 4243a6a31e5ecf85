import Mathlib.Data.List.Sort
import SwCouriers.Repository

/-!
# The Billing Data Model

The rows of `app/modules/billing/models.py` and `app/modules/invoices/models.py`, the
aggregate queries of their repositories, and the two projections that billing keeps in
step with the ledger: a payment's allocated and unallocated amounts, and an invoice's
paid amount and payment status.

Columns that no modelled function reads or returns are left out (actors, currency,
QuickBooks and PDF state). `updated_at` is kept as a day, because a payment status
depends on the day it was computed.

## Main results

* `recomputePaymentProjection_eq_ok`, `recomputeInvoiceProjection_eq_ok`: what a
  projection update checks and writes.
* `recomputeInvoiceProjections_eq_ok`: a loop of projection updates rewrites the listed
  invoices and no other row.
-/

namespace SwCouriers

open Checked

/-! ### Enumerations -/

/-- `PaymentRecordStatus`. -/
inductive PaymentRecordStatus where
  | deposited | notDeposited | pending | withheldReturned | voided
  deriving DecidableEq, Repr

/-- `AllocationStatus`. -/
inductive AllocationStatus where
  | allocated | partiallyAllocated | unallocated
  deriving DecidableEq, Repr

/-- `PaymentProvider`. -/
inductive PaymentProvider where
  | braintree | manual | bankTransfer | cheque | other
  deriving DecidableEq, Repr

/-- `InvoiceStatus`: the document's lifecycle, not its payment. -/
inductive InvoiceStatus where
  | draft | sent
  deriving DecidableEq, Repr

/-- `PaymentStatus`, less the two tokens that are only list filters. -/
inductive PaymentStatus where
  | unpaid | partiallyPaid | paid | overdue | void | writtenOff
  deriving DecidableEq, Repr

/-- `InvoiceEventType`. -/
inductive InvoiceEventType where
  | created | draftSaved | finalized | voided | writtenOff | creditApplied
  deriving DecidableEq, Repr

/-- `CreditNoteStatus`. -/
inductive CreditNoteStatus where
  | issued | voided | writtenOff
  deriving DecidableEq, Repr

/-- `RefundMethod`. -/
inductive RefundMethod where
  | cardRefund | bankTransfer | creditNote
  deriving DecidableEq, Repr

/-- `RefundType`. -/
inductive RefundType where
  | fullRefund | partialRefund
  deriving DecidableEq, Repr

/-- `RefundStatus`. -/
inductive RefundStatus where
  | initiated | processing | completed | failed | reversed
  deriving DecidableEq, Repr

/-- `UserRole`. -/
inductive UserRole where
  | superAdmin | admin | warehouseStaff | driver | customerB2B | customerB2C
  deriving DecidableEq, Repr

/-! ### Rows -/

/-- A user, as far as billing looks at one. -/
structure User where
  id : Id
  role : UserRole
  organizationId : Option Id
  version : ℕ
  deriving DecidableEq, Repr

/-- A received payment. `allocatedAmount`, `unallocatedAmount` and `allocationStatus`
are projections of the allocation rows. -/
structure BillingPayment where
  id : Id
  paymentNumber : String
  organizationId : Id
  amount : ℤ
  transactionFee : ℤ
  status : PaymentRecordStatus
  allocationStatus : AllocationStatus
  allocatedAmount : ℤ
  unallocatedAmount : ℤ
  paymentDate : Day
  provider : PaymentProvider
  providerTxnId : Option String
  version : ℕ
  deriving DecidableEq, Repr

/-- One revision of the amount a payment puts on an invoice. -/
structure BillingPaymentAllocation where
  paymentId : Id
  invoiceId : Id
  revisionNo : ℕ
  allocatedAmount : ℤ
  notes : Option String
  deriving DecidableEq, Repr

/-- The unique key of an allocation row. -/
def BillingPaymentAllocation.key (a : BillingPaymentAllocation) : Id × Id × ℕ :=
  (a.paymentId, a.invoiceId, a.revisionNo)

instance : LawfulBEq (Id × Id × ℕ) := inferInstance

/-- One line of an invoice. -/
structure InvoiceLineItem where
  description : String
  quantity : ℕ
  unitPrice : ℤ
  totalPrice : ℤ
  lineType : String
  deriving DecidableEq, Repr

/-- An invoice. `paidAmount` and `paymentStatus` are projections. -/
structure Invoice where
  id : Id
  invoiceNumber : String
  organizationId : Option Id
  customerId : Option Id
  orderId : Option Id
  subtotal : ℤ
  vatRate : ℤ
  vatAmount : ℤ
  total : ℤ
  paidAmount : ℤ
  paymentStatus : PaymentStatus
  issueDate : Day
  dueDate : Day
  status : InvoiceStatus
  notes : Option String
  lineItems : List InvoiceLineItem
  updatedAt : Day
  version : ℕ
  deriving DecidableEq, Repr

/-- One entry of an invoice's append-only history. -/
structure InvoiceEvent where
  invoiceId : Id
  eventType : InvoiceEventType
  reason : Option String
  deriving DecidableEq, Repr

/-- A credit memo. -/
structure CreditNote where
  id : Id
  creditNoteNumber : String
  organizationId : Option Id
  customerId : Option Id
  sourceInvoiceId : Option Id
  issueDate : Day
  totalCreditAmount : ℤ
  status : CreditNoteStatus
  reasonCategory : String
  reason : Option String
  reversalInvoiceId : Option Id
  version : ℕ
  deriving DecidableEq, Repr

/-- The part of a credit note that was set against an invoice. -/
structure InvoiceCreditApplication where
  id : Id
  invoiceId : Id
  creditNoteId : Id
  appliedAmount : ℤ
  appliedAt : Day
  deriving DecidableEq, Repr

/-- A refund of a payment. -/
structure Refund where
  id : Id
  refundNumber : String
  organizationId : Id
  billingPaymentId : Id
  invoiceId : Option Id
  linkedBookingRef : Option String
  provider : PaymentProvider
  refundMethod : RefundMethod
  refundType : RefundType
  status : RefundStatus
  reasonCategory : String
  reasonDescription : String
  requestedAmount : ℤ
  processedAmount : ℤ
  braintreeTransactionId : Option String
  braintreeStatus : Option String
  retryCount : ℕ
  failureCode : Option String
  failureMessage : Option String
  completedAt : Option Day
  idempotencyKey : Option String
  /-- `metadata_json["credit_note_id"]`. -/
  creditNoteId : Option Id
  version : ℕ
  deriving DecidableEq, Repr

instance : Entity User := ⟨"users", User.id, User.version⟩
instance : Entity BillingPayment :=
  ⟨"billing_payments", BillingPayment.id, BillingPayment.version⟩
instance : Entity Invoice := ⟨"invoices", Invoice.id, Invoice.version⟩
instance : Entity CreditNote := ⟨"credit_notes", CreditNote.id, CreditNote.version⟩
instance : Entity Refund := ⟨"refunds", Refund.id, Refund.version⟩

/-- The billing part of the database. -/
structure Db where
  users : TableOf User
  payments : TableOf BillingPayment
  allocations : Table BillingPaymentAllocation.key
  invoices : TableOf Invoice
  invoiceEvents : List InvoiceEvent
  creditNotes : TableOf CreditNote
  creditApplications : Table InvoiceCreditApplication.id
  refunds : TableOf Refund
  paymentNumberSeq : ℕ
  invoiceNumberSeq : ℕ

/-- A database in which only users are known yet. -/
def Db.initial (users : TableOf User) : Db where
  users := users
  payments := .empty
  allocations := .empty
  invoices := .empty
  invoiceEvents := []
  creditNotes := .empty
  creditApplications := .empty
  refunds := .empty
  paymentNumberSeq := 0
  invoiceNumberSeq := 0

/-! ### Queries -/

/-- Whether an event settles what becomes of an invoice. -/
def InvoiceEventType.isOutcome (e : InvoiceEventType) : Bool :=
  e = .voided || e = .writtenOff

namespace Db

/-- `total_latest_allocated_for_payment`. -/
def totalLatestAllocatedForPayment (db : Db) (paymentId : Id) : ℤ :=
  db.allocations.sumWhere (·.paymentId = paymentId) (·.allocatedAmount)

/-- `total_allocated_for_invoice`; also the entry of `totals_allocated_for_invoices`
for one invoice, with its default 0. -/
def totalAllocatedForInvoice (db : Db) (invoiceId : Id) : ℤ :=
  db.allocations.sumWhere (·.invoiceId = invoiceId) (·.allocatedAmount)

/-- The net allocation of a payment to an invoice: the sum over its revisions. -/
def netAllocation (db : Db) (paymentId invoiceId : Id) : ℤ :=
  db.allocations.sumWhere (fun a => a.paymentId = paymentId ∧ a.invoiceId = invoiceId)
    (·.allocatedAmount)

/-- `latest_for_payment`: one entry per invoice with a nonzero net allocation, by
invoice id. -/
def latestForPayment (db : Db) (paymentId : Id) : List (Id × ℤ) :=
  let rows := db.allocations.rows.filter fun a => a.paymentId = paymentId
  let invoiceIds := ((rows.map (·.invoiceId)).dedup).insertionSort (· ≤ ·)
  (invoiceIds.map fun iid => (iid, db.netAllocation paymentId iid)).filter
    fun entry => entry.2 ≠ 0

/-- `next_revision_no`. -/
def nextRevisionNo (db : Db) (paymentId invoiceId : Id) : ℕ :=
  let rows := db.allocations.rows.filter fun a =>
    a.paymentId = paymentId ∧ a.invoiceId = invoiceId
  (rows.map (·.revisionNo)).foldr max 0 + 1

/-- `get_applied_total_for_invoice`; also one entry of `totals_applied_for_invoices`. -/
def getAppliedTotalForInvoice (db : Db) (invoiceId : Id) : ℤ :=
  db.creditApplications.sumWhere (·.invoiceId = invoiceId) (·.appliedAmount)

/-- `get_applied_total_for_credit_note`. -/
def getAppliedTotalForCreditNote (db : Db) (creditNoteId : Id) : ℤ :=
  db.creditApplications.sumWhere (·.creditNoteId = creditNoteId) (·.appliedAmount)

/-- `latest_outcome_event_type`: the last void or write-off, if any. Events are kept in
the order of their creation. -/
def latestOutcomeEventType (db : Db) (invoiceId : Id) : Option InvoiceEventType :=
  ((db.invoiceEvents.filter fun e =>
    e.invoiceId = invoiceId && e.eventType.isOutcome).getLast?).map (·.eventType)

/-- An invoice is closed once it was voided or written off. -/
def isClosed (db : Db) (invoiceId : Id) : Bool :=
  (db.latestOutcomeEventType invoiceId).isSome

/-- `total_non_reversed_refunded_for_payment`. -/
def totalNonReversedRefundedForPayment (db : Db) (paymentId : Id) : ℤ :=
  db.refunds.sumWhere (fun r => r.billingPaymentId = paymentId ∧ r.status ≠ .reversed)
    (·.processedAmount)

/-- `InvoiceEventRepository.append`. -/
def appendInvoiceEvent (db : Db) (invoiceId : Id) (eventType : InvoiceEventType)
    (reason : Option String) : Db :=
  { db with invoiceEvents := db.invoiceEvents ++ [⟨invoiceId, eventType, reason⟩] }

end Db

/-! ### Projections -/

/-- `compute_payment_status`: an outcome event decides; otherwise the balance, the paid
amount and the due date do. -/
def computePaymentStatus (invoice : Invoice) (paidAmount creditTotal : ℤ)
    (outcomeEventType : Option InvoiceEventType) (today : Day) : PaymentStatus :=
  if outcomeEventType = some .voided then .void
  else if outcomeEventType = some .writtenOff then .writtenOff
  else
    let totalAfterCredit := invoice.total - creditTotal
    let balance := totalAfterCredit - paidAmount
    if balance ≤ 0 then .paid
    else if 0 < paidAmount then .partiallyPaid
    else if invoice.dueDate < today then .overdue
    else .unpaid

/-- The allocation status that the two projected amounts determine. -/
def allocationStatusOf (allocated unallocated : ℤ) : AllocationStatus :=
  if allocated = 0 then .unallocated
  else if unallocated = 0 then .allocated
  else .partiallyAllocated

/-- The payment row with its projections recomputed from the allocation rows. -/
def BillingPayment.projected (db : Db) (payment : BillingPayment) : BillingPayment :=
  let allocated := db.totalLatestAllocatedForPayment payment.id
  let unallocated := payment.amount - allocated
  { payment with
    allocatedAmount := allocated
    unallocatedAmount := unallocated
    allocationStatus := allocationStatusOf allocated unallocated
    version := payment.version + 1 }

theorem BillingPayment.projected_id (db : Db) (payment : BillingPayment) :
    Entity.id (payment.projected db) = Entity.id payment := rfl

/-- The invoice row with its projections recomputed from the ledger on a given day. -/
def Invoice.projected (db : Db) (today : Day) (invoice : Invoice) : Invoice :=
  let paidTotal := db.totalAllocatedForInvoice invoice.id
  let creditTotal := db.getAppliedTotalForInvoice invoice.id
  { invoice with
    paidAmount := paidTotal
    paymentStatus := computePaymentStatus invoice paidTotal creditTotal
      (db.latestOutcomeEventType invoice.id) today
    updatedAt := today
    version := invoice.version + 1 }

/-- `_recompute_payment_projection`. -/
def recomputePaymentProjection (db : Db) (payment : BillingPayment) :
    Except ServiceError Db := do
  let allocated := db.totalLatestAllocatedForPayment payment.id
  let unallocated := payment.amount - allocated
  raiseIf (unallocated < 0) (invalid "allocated total exceeds payment amount")
  let payments ← updateById db.payments payment.id
    (fun p => { p with
      allocatedAmount := allocated
      unallocatedAmount := unallocated
      allocationStatus := allocationStatusOf allocated unallocated
      version := payment.version + 1 })
    (fun _ => rfl) payment.version anyScope
  return { db with payments := payments }

/-- `_recompute_invoice_projection`, and `recompute_payment_projection` of the invoice
service, which is the same code. -/
def recomputeInvoiceProjection (today : Day) (db : Db) (invoiceId : Id) :
    Except ServiceError Db := do
  let invoice ← getByIdOr404 db.invoices invoiceId anyScope
  let paidTotal := db.totalAllocatedForInvoice invoiceId
  let creditTotal := db.getAppliedTotalForInvoice invoiceId
  let outcomeEventType := db.latestOutcomeEventType invoiceId
  let paymentStatus :=
    computePaymentStatus invoice paidTotal creditTotal outcomeEventType today
  let invoices ← updateById db.invoices invoice.id
    (fun i => { i with
      paidAmount := paidTotal
      paymentStatus := paymentStatus
      updatedAt := today
      version := invoice.version + 1 })
    (fun _ => rfl) invoice.version anyScope
  return { db with invoices := invoices }

/-- The loop `for iid in invoice_ids: _recompute_invoice_projection(iid)`. -/
def recomputeInvoiceProjections (today : Day) : Db → List Id → Except ServiceError Db
  | db, [] => .ok db
  | db, iid :: rest => do
      let db ← recomputeInvoiceProjection today db iid
      recomputeInvoiceProjections today db rest

/-- The invoices after the projections of the listed ones were recomputed. -/
def Db.reproject (db : Db) (today : Day) (ids : List Id) : TableOf Invoice :=
  db.invoices.mapRows
    (fun inv => if inv.id ∈ ids then inv.projected db today else inv) fun inv => by
      by_cases h : inv.id ∈ ids <;> simp [h, Entity.id, Invoice.projected]

variable {db : Db}

/-- A payment's projection is recomputed when the payment is at the version that was
read and its allocations do not exceed its amount. -/
theorem recomputePaymentProjection_eq_ok {db' : Db} {payment : BillingPayment}
    (hp : db.payments.find? payment.id = some payment)
    (h : recomputePaymentProjection db payment = .ok db') :
    db.totalLatestAllocatedForPayment payment.id ≤ payment.amount ∧
    db' = { db with
      payments := db.payments.modify payment.id (BillingPayment.projected db)
        (BillingPayment.projected_id db) } := by
  obtain ⟨hnonneg, h⟩ := raiseIf_bind_eq_ok.mp h
  obtain ⟨payments, hupd, h⟩ := bind_eq_ok.mp h
  obtain ⟨r, hr, -, -, rfl⟩ := updateById_eq_ok.mp hupd
  obtain rfl := pure_eq_ok.mp h
  refine ⟨by omega, ?_⟩
  congr 1
  refine Table.ext (List.map_congr_left fun p hmem => ?_)
  by_cases hid : p.id = payment.id
  · obtain rfl : p = payment := Table.eq_of_find? hp hmem hid
    simp [Entity.id, BillingPayment.projected]
  · simp [Entity.id, hid]

/-- An invoice's projection is recomputed whenever the invoice exists. -/
theorem recomputeInvoiceProjection_eq_ok {db' : Db} {today : Day} {invoiceId : Id} :
    recomputeInvoiceProjection today db invoiceId = .ok db' ↔
      (db.invoices.find? invoiceId).isSome ∧
      db' = { db with invoices := db.reproject today [invoiceId] } := by
  have hkey : ∀ {inv : Invoice}, db.invoices.find? invoiceId = some inv →
      db.invoices.modify inv.id
        (fun i => { i with
          paidAmount := db.totalAllocatedForInvoice invoiceId
          paymentStatus := computePaymentStatus inv
            (db.totalAllocatedForInvoice invoiceId) (db.getAppliedTotalForInvoice invoiceId)
            (db.latestOutcomeEventType invoiceId) today
          updatedAt := today
          version := inv.version + 1 }) (fun _ => rfl)
        = db.reproject today [invoiceId] := by
    intro inv hfind
    obtain ⟨hmem, hid⟩ := Table.find?_eq_some_iff.mp hfind
    refine Table.ext (List.map_congr_left fun i hi => ?_)
    by_cases h : i.id = invoiceId
    · obtain rfl := hid
      obtain rfl : i = inv := Table.eq_of_find? hfind hi h
      simp [Entity.id, Invoice.projected]
    · have h' : i.id ≠ inv.id := fun heq => h (heq.trans hid)
      simp [Entity.id, h, h']
  unfold recomputeInvoiceProjection
  constructor
  · intro h
    obtain ⟨inv, hinv, h⟩ := bind_eq_ok.mp h
    obtain ⟨hfind, -⟩ := getByIdOr404_eq_ok.mp hinv
    obtain ⟨invoices, hupd, h⟩ := bind_eq_ok.mp h
    obtain ⟨-, -, -, -, rfl⟩ := updateById_eq_ok.mp hupd
    obtain rfl := pure_eq_ok.mp h
    exact ⟨by rw [hfind]; rfl, by rw [hkey hfind]⟩
  · rintro ⟨hsome, rfl⟩
    obtain ⟨inv, hfind⟩ := Option.isSome_iff_exists.mp hsome
    have hid : inv.id = invoiceId := (Table.find?_eq_some_iff.mp hfind).2
    refine bind_eq_ok.mpr ⟨inv, getByIdOr404_eq_ok.mpr ⟨hfind, rfl⟩, ?_⟩
    refine bind_eq_ok.mpr ⟨_, updateById_eq_ok.mpr ⟨inv, by rw [hid]; exact hfind, rfl,
      rfl, hkey hfind⟩, rfl⟩

theorem find?_reproject (db : Db) (today : Day) (ids : List Id) (i : Id) :
    (db.reproject today ids).find? i =
      (db.invoices.find? i).map fun inv =>
        if i ∈ ids then inv.projected db today else inv := by
  rw [Db.reproject, Table.find?_mapRows]
  cases hi : db.invoices.find? i with
  | none => rfl
  | some inv =>
      have hid : inv.id = i := (Table.find?_eq_some_iff.mp hi).2
      rw [Option.map_some, Option.map_some, hid]

@[simp] theorem reproject_nil (db : Db) (today : Day) :
    db.reproject today [] = db.invoices := by
  refine Table.ext ?_
  simp [Db.reproject]

/-- Recomputing one more projection is recomputing it first and the others after. -/
theorem reproject_reproject {today : Day} {i : Id} {ids : List Id} (hi : i ∉ ids) :
    Db.reproject { db with invoices := db.reproject today [i] } today ids
      = db.reproject today (i :: ids) := by
  refine Table.ext ?_
  simp only [Db.reproject, Table.rows_mapRows, List.map_map]
  refine List.map_congr_left fun inv _ => ?_
  by_cases h : inv.id = i
  · simp [h, Invoice.projected, hi]
  · by_cases h' : inv.id ∈ ids
    · simp [h, h', Invoice.projected, Db.totalAllocatedForInvoice,
        Db.getAppliedTotalForInvoice, Db.latestOutcomeEventType]
    · simp [h, h']

/-- The loop over a list of distinct invoices recomputes each of their projections, and
succeeds exactly when all of them exist. -/
theorem recomputeInvoiceProjections_eq_ok {today : Day} {ids : List Id} {db' : Db}
    (hnd : ids.Nodup) :
    recomputeInvoiceProjections today db ids = .ok db' ↔
      (∀ i ∈ ids, (db.invoices.find? i).isSome) ∧
      db' = { db with invoices := db.reproject today ids } := by
  induction ids generalizing db with
  | nil =>
      rw [reproject_nil]
      constructor
      · intro h
        obtain rfl := Except.ok.inj h
        exact ⟨by simp, rfl⟩
      · rintro ⟨-, rfl⟩
        rfl
  | cons i ids ih =>
      obtain ⟨hi, hnd⟩ := List.nodup_cons.mp hnd
      rw [recomputeInvoiceProjections, bind_eq_ok]
      have hsome : ∀ j, (Table.find? (db.reproject today [i]) j).isSome
          = (db.invoices.find? j).isSome := by
        intro j
        rw [find?_reproject, Option.isSome_map]
      constructor
      · rintro ⟨db₁, h₁, h⟩
        obtain ⟨hfound, rfl⟩ := recomputeInvoiceProjection_eq_ok.mp h₁
        obtain ⟨hrest, rfl⟩ := (ih hnd).mp h
        refine ⟨?_, by rw [reproject_reproject hi]⟩
        intro j hj
        rcases List.mem_cons.mp hj with rfl | hj
        · exact hfound
        · exact (hsome j) ▸ hrest j hj
      · rintro ⟨hall, rfl⟩
        refine ⟨_, recomputeInvoiceProjection_eq_ok.mpr
          ⟨hall i List.mem_cons_self, rfl⟩, (ih hnd).mpr ⟨?_, ?_⟩⟩
        · intro j hj
          exact (hsome j).symm ▸ hall j (List.mem_cons_of_mem i hj)
        · rw [reproject_reproject hi]

end SwCouriers
