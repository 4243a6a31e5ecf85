import SwCouriers.Invoices

/-!
# Credit Notes

The operations of `BillingService` on credit notes: issuing one, applying it to an
invoice and voiding it. Applying locks the note and the invoice and takes the smaller of
what is left of the one and what is open on the other. Voiding a note that was applied
creates a reversal invoice for the applied amount
(`create_reversal_for_credit_note_void`).
-/

namespace SwCouriers

open Checked

/-- The rows of an organisation's credit notes. -/
def inNoteOrganization (organizationId : Id) : CreditNote → Bool := fun cn =>
  cn.organizationId = some organizationId

/-- `_validate_b2b_customer_in_org`. -/
def validateB2bCustomerInOrg (db : Db) (customerId organizationId : Id) :
    Except ServiceError Unit := do
  let user ← orRaise (db.users.find? customerId) (.notFound "customer" (some customerId))
  raiseIf (user.role ≠ .customerB2B)
    (invalidField "customer_id must reference a CUSTOMER_B2B user" "customer_id"
      "Invalid customer role")
  raiseIf (user.organizationId ≠ some organizationId)
    (invalidField "customer_id does not belong to this organisation" "customer_id"
      "Organisation mismatch")

/-- `_resolve_credit_note_customer_id`: the note's customer, or that of the invoice it
was issued for. -/
def resolveCreditNoteCustomerId (db : Db) (cn : CreditNote) (organizationId : Id) :
    Option Id :=
  cn.customerId.or (cn.sourceInvoiceId.bind fun source =>
    (getById db.invoices source (invoiceScope (some organizationId))).bind (·.customerId))

/-- `_credit_note_missing_customer_error(for_apply=True)`. -/
def creditNoteMissingCustomerError : ServiceError :=
  invalid ("Credit note has no customer; link a source invoice or assign a customer before "
    ++ "applying credit")

/-- `_credit_note_repo.create`. The note's number is unique. -/
def insertCreditNote (db : Db) (organizationId customerId sourceInvoiceId : Option Id)
    (issueDate : Day) (amount : ℤ) (reasonCategory : String) (reason : Option String) :
    Except ServiceError (Db × CreditNote) := do
  let number := nextDocumentNumber "CN-" (db.creditNotes.rows.map (·.creditNoteNumber))
  raiseIf (number ∈ db.creditNotes.rows.map (·.creditNoteNumber))
    (.integrity "credit_notes_credit_note_number_key")
  let cn : CreditNote :=
    { id := db.creditNotes.fresh
      creditNoteNumber := number
      organizationId := organizationId
      customerId := customerId
      sourceInvoiceId := sourceInvoiceId
      issueDate := issueDate
      totalCreditAmount := amount
      status := .issued
      reasonCategory := reasonCategory
      reason := reason
      reversalInvoiceId := none
      version := 1 }
  return ({ db with creditNotes := db.creditNotes.insert cn }, cn)

/-- A customer named on a new note must belong to the organisation. -/
def validateNamedCustomer (db : Db) (customerId : Option Id) (organizationId : Id) :
    Except ServiceError Unit :=
  match customerId with
  | some uid => validateB2bCustomerInOrg db uid organizationId
  | none => .ok ()

/-- The invoice a new note is issued for, if one is named. -/
def findSourceInvoice (db : Db) (sourceInvoiceId : Option Id) (organizationId : Id) :
    Except ServiceError (Option Invoice) :=
  match sourceInvoiceId with
  | some source =>
      (getByIdOr404 db.invoices source (invoiceScope (some organizationId))).map some
  | none => .ok none

/-- `create_credit_note`. -/
def createCreditNote (db : Db) (organizationId : Id) (sourceInvoiceId customerId : Option Id)
    (issueDate : Day) (amount : ℚ) (reasonCategory : String) (reason : Option String) :
    Except ServiceError Db := do
  let amt := money amount
  raiseIf (amt ≤ 0) (invalid "amount must be greater than 0")
  validateNamedCustomer db customerId organizationId
  let sourceInvoice ← findSourceInvoice db sourceInvoiceId organizationId
  let (db, _) ← insertCreditNote db (some organizationId)
    (customerId.or (sourceInvoice.bind (·.customerId))) (sourceInvoice.map (·.id)) issueDate
    amt reasonCategory reason
  return db

/-- `apply_credit_note_auto`. The two `FOR UPDATE` reads find the note and the invoice
in the organisation. -/
def applyCreditNoteAuto (db : Db) (today : Day) (creditNoteId invoiceId organizationId : Id)
    (customerId : Option Id) (b2bOrgScope : Bool) : Except ServiceError Db := do
  let cn ← orRaise (getById db.creditNotes creditNoteId (inNoteOrganization organizationId))
    (.notFound "credit_note" (some creditNoteId))
  raiseIf (b2bOrgScope = false ∧ customerId ≠ none ∧ cn.customerId ≠ customerId)
    (.notFound "credit_note" (some creditNoteId))
  raiseIf (cn.status = .voided ∨ cn.status = .writtenOff)
    (invalid "Credit note is not applicable")
  raiseIf (cn.status ≠ .issued) (invalid "Only ISSUED credit notes can be applied")
  let inv ← orRaise (getById db.invoices invoiceId (invoiceScope (some organizationId)))
    (.notFound "invoice" (some invoiceId))
  raiseIf (inv.status ≠ .sent) (invalid "Only SENT invoices can receive credit")
  raiseIf (db.isClosed inv.id = true) (invalid "Invoice is not applicable for credit")
  let effectiveCustomerId ← orRaise (resolveCreditNoteCustomerId db cn organizationId)
    creditNoteMissingCustomerError
  raiseIf (inv.customerId ≠ some effectiveCustomerId)
    (invalidField "Invoice does not match the credit note customer" "invoice_id"
      "Invoice customer must match the credit note customer")
  let creditRemaining := cn.totalCreditAmount - db.getAppliedTotalForCreditNote cn.id
  let invoiceOutstanding := inv.total - db.getAppliedTotalForInvoice inv.id
    - db.totalAllocatedForInvoice inv.id
  let applyAmount := min creditRemaining invoiceOutstanding
  raiseIf (applyAmount ≤ 0) (invalid "Nothing to apply")
  let app : InvoiceCreditApplication :=
    { id := db.creditApplications.fresh
      invoiceId := inv.id
      creditNoteId := cn.id
      appliedAmount := applyAmount
      appliedAt := today }
  let db := { db with creditApplications := db.creditApplications.insert app }
  let db := db.appendInvoiceEvent inv.id .creditApplied
    (some ("Credit note " ++ cn.creditNoteNumber ++ " applied: "
      ++ Decimal.render applyAmount))
  recomputeInvoiceProjection today db inv.id

/-- `split_vat_from_gross` at the default VAT rate of 20%: subtotal, VAT and total, in
pence. The context's rounding mode is half-even. -/
def splitVatFromGross (gross : ℤ) : ℤ × ℤ × ℤ :=
  let rate : ℚ := 20 / 100
  let subtotal := Decimal.quantizeHalfEven (pounds gross / (1 + rate))
  (subtotal, gross - subtotal, gross)

/-- `text[:n]`. -/
def truncate (n : ℕ) (text : String) : String :=
  String.ofList (text.toList.take n)

/-- `_reversal_line_item_description`. -/
def reversalLineItemDescription (creditNoteNumber : String) (appliedGross : ℤ)
    (voidReason : String) : String :=
  truncate 255 ("Reversal of credit note " ++ creditNoteNumber ++ " (applied GBP "
    ++ Decimal.render appliedGross ++ "). Void reason: " ++ strip voidReason)

/-- `create_reversal_for_credit_note_void`. -/
def createReversalForCreditNoteVoid (db : Db) (today : Day) (cn : CreditNote)
    (appliedTotal : ℤ) (voidReason : String) : Except ServiceError (Db × Invoice) := do
  raiseIf (cn.organizationId = none)
    (invalid "Credit note must belong to an organization")
  raiseIf (cn.customerId = none)
    (invalid "Credit note must have customer_id before void with applications")
  let (subtotal, vatAmount, total) := splitVatFromGross appliedTotal
  let reasonClean := strip voidReason
  let (db, invoice) ← createAndFinalize db today
    { orderId := none
      organizationId := cn.organizationId
      customerId := cn.customerId
      issueDate := today
      dueDate := today
      subtotal := pounds subtotal
      vatRate := 20
      vatAmount := pounds vatAmount
      total := pounds total
      notes := some (truncate 2000 ("Reversal of credit note " ++ cn.creditNoteNumber
        ++ ". Void reason: " ++ reasonClean)) }
  let items : List InvoiceLineItem :=
    [{ description := reversalLineItemDescription cn.creditNoteNumber appliedTotal reasonClean
       quantity := 1
       unitPrice := subtotal
       totalPrice := subtotal
       lineType := "service" }]
  return (replaceLineItems db invoice.id items, invoice)

/-- The reversal that a void makes when some of the note was applied, and its id. -/
def reverseIfApplied (db : Db) (today : Day) (cn : CreditNote) (appliedTotal : ℤ)
    (voidReason : String) : Except ServiceError (Db × Option Id) :=
  if 0 < appliedTotal then
    (createReversalForCreditNoteVoid db today cn appliedTotal voidReason).map
      fun result => (result.1, some result.2.id)
  else .ok (db, none)

/-- `void_credit_note`. A note that is already voided or written off is returned as it
is. -/
def voidCreditNote (db : Db) (today : Day) (creditNoteId organizationId : Id)
    (reason : Option String) : Except ServiceError Db := do
  let cn ← orRaise (getById db.creditNotes creditNoteId (inNoteOrganization organizationId))
    (.notFound "credit_note" (some creditNoteId))
  if cn.status = .voided ∨ cn.status = .writtenOff then return db
  -- An empty reason counts as missing.
  let given := reason.getD ""
  let reasonClean := strip (if given = "" then "Credit note voided" else given)
  raiseIf (reasonClean = "") (invalid "reason is required for void")
  let appliedTotal := db.getAppliedTotalForCreditNote cn.id
  let (db, reversalInvoiceId) ← reverseIfApplied db today cn appliedTotal reasonClean
  let creditNotes ← updateById db.creditNotes cn.id
    (fun note => { note with
      status := .voided
      reversalInvoiceId := reversalInvoiceId.or note.reversalInvoiceId
      version := cn.version + 1 })
    (fun _ => rfl) cn.version (inNoteOrganization organizationId)
  return { db with creditNotes := creditNotes }

/-- The requests on credit notes. -/
inductive CreditNoteOp where
  | create (organizationId : Id) (sourceInvoiceId customerId : Option Id) (issueDate : Day)
      (amount : ℚ) (reasonCategory : String) (reason : Option String)
  | applyAuto (creditNoteId invoiceId organizationId : Id) (customerId : Option Id)
      (b2bOrgScope : Bool)
  | void (creditNoteId organizationId : Id) (reason : Option String)

/-- Serve a request on a given day. -/
def CreditNoteOp.exec (db : Db) (today : Day) : CreditNoteOp → Except ServiceError Db
  | .create organizationId sourceInvoiceId customerId issueDate amount reasonCategory
      reason =>
      createCreditNote db organizationId sourceInvoiceId customerId issueDate amount
        reasonCategory reason
  | .applyAuto creditNoteId invoiceId organizationId customerId b2bOrgScope =>
      applyCreditNoteAuto db today creditNoteId invoiceId organizationId customerId
        b2bOrgScope
  | .void creditNoteId organizationId reason =>
      voidCreditNote db today creditNoteId organizationId reason

end SwCouriers
