import SwCouriers.BillingModel

/-!
# Invoices

The lifecycle operations of `InvoiceService`: creating a draft or a finalized invoice,
editing and finalizing a draft, voiding and writing off. Void and write-off are recorded
as outcome events; the document status stays what it was.

`create_draft` and `create_and_finalize` are one body with two statuses, and so are
`void` and `write_off` with two outcomes.
-/

namespace SwCouriers

open Checked

/-- The amounts and dates of a new invoice. -/
structure InvoiceInput where
  orderId : Option Id
  organizationId : Option Id
  customerId : Option Id
  issueDate : Day
  dueDate : Day
  subtotal : ℚ
  vatRate : ℚ
  vatAmount : ℚ
  total : ℚ
  notes : Option String

/-- `_scope`: the organisation filter of a business client, none for an administrator. -/
def invoiceScope (organizationId : Option Id) : Invoice → Bool := fun inv =>
  organizationId.all fun org => inv.organizationId = some org

/-- The row that `create_draft` and `create_and_finalize` insert. -/
def newInvoice (db : Db) (today : Day) (status : InvoiceStatus) (input : InvoiceInput) :
    Invoice where
  id := db.invoices.fresh
  invoiceNumber := "INV-" ++ sixDigits (db.invoiceNumberSeq + 1)
  organizationId := input.organizationId
  customerId := input.customerId
  orderId := input.orderId
  subtotal := money input.subtotal
  vatRate := money input.vatRate
  vatAmount := money input.vatAmount
  total := money input.total
  paidAmount := 0
  paymentStatus := .unpaid
  issueDate := input.issueDate
  dueDate := input.dueDate
  status := status
  notes := input.notes
  lineItems := []
  updatedAt := today
  version := 1

/-- The common body of `create_draft` and `create_and_finalize`: the checks, the insert
and the events. -/
def createInvoice (db : Db) (today : Day) (status : InvoiceStatus)
    (events : List InvoiceEventType) (input : InvoiceInput) :
    Except ServiceError (Db × Invoice) := do
  raiseIf (input.dueDate < input.issueDate)
    (invalid "Due date must be on or after issue date")
  raiseIf (input.total < 0) (invalid "Total must be non-negative")
  raiseIf (input.subtotal < 0 ∨ input.vatAmount < 0)
    (invalid "Subtotal and VAT amount must be non-negative")
  let invoice := newInvoice db today status input
  let db := { db with
    invoices := db.invoices.insert invoice
    invoiceNumberSeq := db.invoiceNumberSeq + 1 }
  return (events.foldl (fun db e => db.appendInvoiceEvent invoice.id e none) db, invoice)

/-- `create_draft`. -/
def createDraft (db : Db) (today : Day) (input : InvoiceInput) :
    Except ServiceError (Db × Invoice) :=
  createInvoice db today .draft [.created] input

/-- `create_and_finalize`. -/
def createAndFinalize (db : Db) (today : Day) (input : InvoiceInput) :
    Except ServiceError (Db × Invoice) :=
  createInvoice db today .sent [.created, .finalized] input

/-- `_replace_line_items`. The lines have no version of their own. -/
def replaceLineItems (db : Db) (invoiceId : Id) (items : List InvoiceLineItem) : Db :=
  { db with invoices :=
    db.invoices.modify invoiceId (fun inv => { inv with lineItems := items }) fun _ => rfl }

/-- The fields of a draft that a client may change; `none` is a field not sent. -/
structure InvoiceUpdate where
  orderId : Option (Option Id)
  organizationId : Option (Option Id)
  customerId : Option (Option Id)
  issueDate : Option Day
  dueDate : Option Day
  subtotal : Option ℚ
  vatRate : Option ℚ
  vatAmount : Option ℚ
  total : Option ℚ

/-- The bounds that `InvoiceUpdateRequest` puts on the amounts. -/
def InvoiceUpdate.WellFormed (data : InvoiceUpdate) : Prop :=
  (∀ a ∈ data.subtotal, 0 ≤ a) ∧ (∀ a ∈ data.vatRate, 0 ≤ a ∧ a ≤ 100) ∧
    (∀ a ∈ data.vatAmount, 0 ≤ a) ∧ (∀ a ∈ data.total, 0 ≤ a)

instance (data : InvoiceUpdate) : Decidable data.WellFormed :=
  inferInstanceAs (Decidable (_ ∧ _ ∧ _ ∧ _))

/-- The row of a draft with the sent fields changed. -/
def InvoiceUpdate.apply (data : InvoiceUpdate) (inv : Invoice) : Invoice :=
  { inv with
    orderId := data.orderId.getD inv.orderId
    organizationId := data.organizationId.getD inv.organizationId
    customerId := data.customerId.getD inv.customerId
    issueDate := data.issueDate.getD inv.issueDate
    dueDate := data.dueDate.getD inv.dueDate
    subtotal := (data.subtotal.map money).getD inv.subtotal
    vatRate := (data.vatRate.map money).getD inv.vatRate
    vatAmount := (data.vatAmount.map money).getD inv.vatAmount
    total := (data.total.map money).getD inv.total }

/-- Whether a changed field calls for a new projection. -/
def InvoiceUpdate.changesAmounts (data : InvoiceUpdate) : Bool :=
  data.subtotal.isSome || data.vatRate.isSome || data.vatAmount.isSome ||
    data.total.isSome || data.dueDate.isSome

/-- `update_draft`, behind the schema of its route. -/
def updateDraft (db : Db) (today : Day) (invoiceId : Id) (data : InvoiceUpdate)
    (organizationId : Option Id) : Except ServiceError Db := do
  raiseIf (¬ data.WellFormed) (invalid "Input should be greater than or equal to 0")
  let invoice ← getByIdOr404 db.invoices invoiceId (invoiceScope organizationId)
  raiseIf (invoice.status ≠ .draft) (.conflict "Only draft invoices can be updated")
  let issueDate := data.issueDate.getD invoice.issueDate
  let dueDate := data.dueDate.getD invoice.dueDate
  raiseIf (dueDate < issueDate) (invalid "Due date must be on or after issue date")
  let invoices ← updateById db.invoices invoiceId
    (fun inv => { data.apply inv with updatedAt := today, version := invoice.version + 1 })
    (fun _ => rfl) invoice.version (invoiceScope organizationId)
  let db := Db.appendInvoiceEvent { db with invoices := invoices } invoiceId .draftSaved none
  if data.changesAmounts then recomputeInvoiceProjection today db invoiceId else return db

/-- `finalize`. An invoice that was sent before is returned as it is. -/
def finalize (db : Db) (today : Day) (invoiceId : Id) (organizationId : Option Id) :
    Except ServiceError Db := do
  let invoice ← getByIdOr404 db.invoices invoiceId (invoiceScope organizationId)
  if invoice.status = .sent then return db
  let invoices ← updateById db.invoices invoiceId
    (fun inv => { inv with
      status := .sent, updatedAt := today, version := invoice.version + 1 })
    (fun _ => rfl) invoice.version (invoiceScope organizationId)
  return Db.appendInvoiceEvent { db with invoices := invoices } invoiceId .finalized none

/-- The common body of `void` and `write_off`. -/
def closeInvoice (outcome : InvoiceEventType) (reasonRequired : String) (db : Db)
    (today : Day) (invoiceId : Id) (reason : String) (organizationId : Option Id) :
    Except ServiceError Db := do
  let reasonClean := strip reason
  raiseIf (reasonClean = "") (invalid reasonRequired)
  let invoice ← getByIdOr404 db.invoices invoiceId (invoiceScope organizationId)
  raiseIf (db.isClosed invoiceId = true)
    (.conflict "Invoice is already voided or written off")
  let invoices ← updateById db.invoices invoiceId
    (fun inv => { inv with updatedAt := today, version := invoice.version + 1 })
    (fun _ => rfl) invoice.version (invoiceScope organizationId)
  let db :=
    Db.appendInvoiceEvent { db with invoices := invoices } invoiceId outcome reasonClean
  recomputeInvoiceProjection today db invoiceId

/-- `void`. -/
def voidInvoice := closeInvoice .voided "Reason is required for void"

/-- `write_off`. -/
def writeOff := closeInvoice .writtenOff "Reason is required for write-off"

/-- The requests that create invoices and change their lifecycle. -/
inductive InvoiceOp where
  | createDraft (input : InvoiceInput)
  | createAndFinalize (input : InvoiceInput)
  | updateDraft (invoiceId : Id) (data : InvoiceUpdate) (organizationId : Option Id)
  | finalize (invoiceId : Id) (organizationId : Option Id)
  | void (invoiceId : Id) (reason : String) (organizationId : Option Id)
  | writeOff (invoiceId : Id) (reason : String) (organizationId : Option Id)

/-- Serve a request on a given day. -/
def InvoiceOp.exec (db : Db) (today : Day) : InvoiceOp → Except ServiceError Db
  | .createDraft input => (SwCouriers.createDraft db today input).map (·.1)
  | .createAndFinalize input => (SwCouriers.createAndFinalize db today input).map (·.1)
  | .updateDraft invoiceId data organizationId =>
      SwCouriers.updateDraft db today invoiceId data organizationId
  | .finalize invoiceId organizationId =>
      SwCouriers.finalize db today invoiceId organizationId
  | .void invoiceId reason organizationId =>
      voidInvoice db today invoiceId reason organizationId
  | .writeOff invoiceId reason organizationId =>
      SwCouriers.writeOff db today invoiceId reason organizationId

end SwCouriers
