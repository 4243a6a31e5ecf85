import SwCouriers.BillingInvariant

/-!
# The Statement Ledger

`StatementLedgerBuilder.build` of `app/modules/account_statements/ledger.py`: the rows of
an organisation's account statement in a period, its opening and closing balances, the
totals, and what is unpaid and overdue by age.

The statement is in one currency. The reference of the order behind an invoice comes
from the orders module and is a parameter here.

## Main results

* `build_closing_of_covers`: when the period covers all rows, the closing balance is the
  sum of the signed amounts, in whatever order the rows are.
* `statementBalance_eq`: that sum, as aggregates over the tables.
-/

namespace SwCouriers

/-! ### Rows -/

/-- `StatementRowType`, as far as the builder makes rows of it. -/
inductive StatementRowType where
  | invoice | creditNote | payment | refund
  deriving DecidableEq, Repr

/-- The status column of a row: that of the document the row stands for. -/
inductive LedgerStatus where
  | invoice (s : PaymentStatus)
  | creditNote (s : CreditNoteStatus)
  | payment (s : PaymentRecordStatus)
  | refund (s : RefundStatus)
  deriving DecidableEq, Repr

/-- `StatementLineItemDetail`. -/
structure StatementLineItemDetail where
  description : String
  quantity : ℕ
  unitPrice : String
  totalPrice : String
  deriving DecidableEq, Repr

/-- `LedgerRow`. -/
structure LedgerRow where
  rowType : StatementRowType
  referenceId : Id
  referenceNumber : String
  issueDate : Day
  paymentDate : Option Day
  orderRef : Option String
  status : LedgerStatus
  amount : ℤ
  displayAmount : ℤ
  lineItems : List StatementLineItemDetail
  deriving DecidableEq, Repr

/-- The sort priority of a row type within one day. -/
def StatementRowType.priority : StatementRowType → ℕ
  | .invoice => 0
  | .creditNote => 1
  | .payment => 2
  | .refund => 3

/-- A row with the date it is sorted and selected by. -/
abbrev LedgerEntry := Day × LedgerRow

/-- `MAX_LEDGER_ROWS`. -/
def maxLedgerRows : ℕ := 5000

/-- `MAX_LINE_ITEMS_PER_INVOICE`. -/
def maxLineItemsPerInvoice : ℕ := 200

/-- What a statement is asked for. -/
structure StatementQuery where
  organizationId : Id
  periodStart : Day
  periodEnd : Day
  includeLineItemDetail : Bool
  includeCreditNotes : Bool
  includePaymentHistory : Bool
  agingAsOf : Day

/-- `_invoice_row`. -/
def invoiceRow (orderRef : Id → Option String) (includeLineItemDetail : Bool)
    (inv : Invoice) : LedgerRow where
  rowType := .invoice
  referenceId := inv.id
  referenceNumber := inv.invoiceNumber
  issueDate := inv.issueDate
  paymentDate := none
  orderRef := inv.orderId.bind orderRef
  status := .invoice inv.paymentStatus
  amount := inv.total
  displayAmount := inv.total
  lineItems :=
    if includeLineItemDetail then
      (inv.lineItems.take maxLineItemsPerInvoice).map fun li =>
        ⟨li.description, li.quantity, Decimal.render li.unitPrice,
          Decimal.render li.totalPrice⟩
    else []

/-- `_credit_note_row`. -/
def creditNoteRow (cn : CreditNote) : LedgerRow where
  rowType := .creditNote
  referenceId := cn.id
  referenceNumber := cn.creditNoteNumber
  issueDate := cn.issueDate
  paymentDate := none
  orderRef := none
  status := .creditNote cn.status
  amount := -cn.totalCreditAmount
  displayAmount := -cn.totalCreditAmount
  lineItems := []

/-- `_payment_row`. -/
def paymentRow (payment : BillingPayment) : LedgerRow where
  rowType := .payment
  referenceId := payment.id
  referenceNumber := payment.paymentNumber
  issueDate := payment.paymentDate
  paymentDate := some payment.paymentDate
  orderRef := none
  status := .payment payment.status
  amount := -payment.amount
  displayAmount := -payment.amount
  lineItems := []

/-- `_refund_row`, for a refund completed on a given day. -/
def refundRow (completed : Day) (refund : Refund) : LedgerRow where
  rowType := .refund
  referenceId := refund.id
  referenceNumber := refund.refundNumber
  issueDate := completed
  paymentDate := some completed
  orderRef := refund.linkedBookingRef
  status := .refund refund.status
  amount := refund.processedAmount
  displayAmount := refund.processedAmount
  lineItems := []

/-! ### Movements -/

/-- The invoices of a statement: sent, and neither voided nor written off. -/
def OnStatement (organizationId : Id) (inv : Invoice) : Prop :=
  inv.organizationId = some organizationId ∧ inv.status = .sent ∧
    inv.paymentStatus.isOutcome = false

/-- The credit notes of a statement. -/
def NoteOnStatement (organizationId : Id) (cn : CreditNote) : Prop :=
  cn.organizationId = some organizationId ∧ cn.status = .issued

/-- The payments of a statement. -/
def PaymentOnStatement (organizationId : Id) (p : BillingPayment) : Prop :=
  p.organizationId = organizationId ∧ p.status ≠ .voided

/-- The refunds of a statement. -/
def RefundOnStatement (organizationId : Id) (r : Refund) : Prop :=
  r.organizationId = organizationId ∧ r.status = .completed ∧ r.completedAt ≠ none

instance (org : Id) : DecidablePred (OnStatement org) :=
  fun _ => inferInstanceAs (Decidable (_ ∧ _ ∧ _))

instance (org : Id) : DecidablePred (NoteOnStatement org) :=
  fun _ => inferInstanceAs (Decidable (_ ∧ _))

instance (org : Id) : DecidablePred (PaymentOnStatement org) :=
  fun _ => inferInstanceAs (Decidable (_ ∧ _))

instance (org : Id) : DecidablePred (RefundOnStatement org) :=
  fun _ => inferInstanceAs (Decidable (_ ∧ _ ∧ _))

/-- `movements["invoices"]`, which is `movements["open_invoices_as_of"]` too. -/
def statementInvoices (db : Db) (organizationId : Id) : List Invoice :=
  db.invoices.rows.filter fun inv => OnStatement organizationId inv

/-- The entries of a statement before they are sorted. -/
def ledgerEntries (db : Db) (orderRef : Id → Option String) (q : StatementQuery) :
    List LedgerEntry :=
  let invoices := (statementInvoices db q.organizationId).map fun inv =>
    (inv.issueDate, invoiceRow orderRef q.includeLineItemDetail inv)
  let creditNotes :=
    if q.includeCreditNotes then
      (db.creditNotes.rows.filter fun cn => NoteOnStatement q.organizationId cn).map
        fun cn => (cn.issueDate, creditNoteRow cn)
    else []
  let payments :=
    if q.includePaymentHistory then
      (db.payments.rows.filter fun p => PaymentOnStatement q.organizationId p).map
        fun p => (p.paymentDate, paymentRow p)
    else []
  let refunds :=
    if q.includePaymentHistory then
      (db.refunds.rows.filter fun r => RefundOnStatement q.organizationId r).map
        fun r => (r.completedAt.getD 0, refundRow (r.completedAt.getD 0) r)
    else []
  invoices ++ creditNotes ++ payments ++ refunds

/-- The sort key: date, priority, reference number. -/
def entryLE (a b : LedgerEntry) : Prop :=
  a.1 < b.1 ∨ a.1 = b.1 ∧ (a.2.rowType.priority < b.2.rowType.priority ∨
    a.2.rowType.priority = b.2.rowType.priority ∧
      ¬ b.2.referenceNumber < a.2.referenceNumber)

instance : DecidableRel entryLE :=
  fun _ _ => inferInstanceAs (Decidable (_ ∨ _ ∧ (_ ∨ _ ∧ _)))

/-- `ledger_entries.sort(...)`. -/
def sortedEntries (db : Db) (orderRef : Id → Option String) (q : StatementQuery) :
    List LedgerEntry :=
  (ledgerEntries db orderRef q).insertionSort entryLE

/-! ### Outstanding amounts -/

/-- `_invoice_outstanding`. -/
def invoiceOutstanding (inv : Invoice) : ℤ :=
  if inv.paymentStatus.isOutcome then 0 else max 0 (inv.total - inv.paidAmount)

/-- The ageing buckets. -/
inductive AgingBucket where
  | days1To30 | days31To60 | days61To90 | days90Plus
  deriving DecidableEq, Repr

/-- `_aging_bucket`. -/
def agingBucket (daysPastDue : ℤ) : Option AgingBucket :=
  if daysPastDue < 1 then none
  else if daysPastDue ≤ 30 then some .days1To30
  else if daysPastDue ≤ 60 then some .days31To60
  else if daysPastDue ≤ 90 then some .days61To90
  else some .days90Plus

/-- The total of one ageing bucket. -/
def agingTotal (invoices : List Invoice) (agingAsOf : Day) (bucket : AgingBucket) : ℤ :=
  ((invoices.filter fun inv => 0 < invoiceOutstanding inv ∧
    agingBucket (agingAsOf - inv.dueDate) = some bucket).map invoiceOutstanding).sum

/-- `StatementLedgerResult`. -/
structure StatementLedgerResult where
  openingBalance : ℤ
  closingBalance : ℤ
  rows : List LedgerRow
  totalInvoiceAmount : ℤ
  totalPaid : ℤ
  totalUnpaid : ℤ
  totalOverdue : ℤ
  aging : AgingBucket → String
  truncated : Bool

/-- `StatementLedgerBuilder.build`. -/
def build (db : Db) (orderRef : Id → Option String) (q : StatementQuery) :
    StatementLedgerResult :=
  let entries := sortedEntries db orderRef q
  let opening := ((entries.filter fun e => e.1 < q.periodStart).map (·.2.amount)).sum
  let covered := entries.filter fun e => q.periodStart ≤ e.1 ∧ e.1 ≤ q.periodEnd
  let inPeriod := (covered.map (·.2)).take maxLedgerRows
  let openInvoices := statementInvoices db q.organizationId
  { openingBalance := opening
    closingBalance := opening + (covered.map (·.2.amount)).sum
    rows := inPeriod
    totalInvoiceAmount :=
      ((inPeriod.filter fun r => r.rowType = .invoice).map (·.displayAmount)).sum
    totalPaid :=
      ((inPeriod.filter fun r => r.rowType = .payment).map fun r => -r.displayAmount).sum
    totalUnpaid := (openInvoices.map invoiceOutstanding).sum
    totalOverdue :=
      ((openInvoices.filter fun inv => inv.dueDate < q.agingAsOf ∧
        0 < invoiceOutstanding inv).map invoiceOutstanding).sum
    aging := fun bucket => Decimal.render (agingTotal openInvoices q.agingAsOf bucket)
    truncated := maxLedgerRows < covered.length }

/-! ### The closing balance -/

/-- The period covers every row of the statement. -/
def Covers (db : Db) (orderRef : Id → Option String) (q : StatementQuery) : Prop :=
  ∀ e ∈ ledgerEntries db orderRef q, q.periodStart ≤ e.1 ∧ e.1 ≤ q.periodEnd

instance (db : Db) (orderRef : Id → Option String) (q : StatementQuery) :
    Decidable (Covers db orderRef q) :=
  inferInstanceAs (Decidable (∀ e ∈ ledgerEntries db orderRef q, _))

/-- The sum of the signed amounts of all rows. -/
def statementBalance (db : Db) (q : StatementQuery) : ℤ :=
  db.invoices.sumWhere (OnStatement q.organizationId) (·.total)
    - (if q.includeCreditNotes then
        db.creditNotes.sumWhere (NoteOnStatement q.organizationId) (·.totalCreditAmount)
      else 0)
    - (if q.includePaymentHistory then
        db.payments.sumWhere (PaymentOnStatement q.organizationId) (·.amount)
      else 0)
    + (if q.includePaymentHistory then
        db.refunds.sumWhere (RefundOnStatement q.organizationId) (·.processedAmount)
      else 0)

theorem sum_ledgerEntries (db : Db) (orderRef : Id → Option String) (q : StatementQuery) :
    ((ledgerEntries db orderRef q).map (·.2.amount)).sum = statementBalance db q := by
  have hnotes : ∀ l : List CreditNote, (l.map fun cn => -cn.totalCreditAmount).sum
      = -(l.map (·.totalCreditAmount)).sum := by
    intro l
    rw [List.sum_neg, List.map_map]
    rfl
  have hpayments : ∀ l : List BillingPayment, (l.map fun p => -p.amount).sum
      = -(l.map (·.amount)).sum := by
    intro l
    rw [List.sum_neg, List.map_map]
    rfl
  simp only [ledgerEntries, statementBalance, Table.sumWhere, statementInvoices,
    List.map_append, List.sum_append, List.map_map]
  by_cases hcn : q.includeCreditNotes = true <;>
    by_cases hpay : q.includePaymentHistory = true <;>
    simp [hcn, hpay, Function.comp_def, invoiceRow, creditNoteRow, paymentRow, refundRow,
      hnotes, hpayments] <;> omega

/-- **When the period covers all rows, the closing balance is their sum.** -/
theorem build_closing_of_covers {db : Db} {orderRef : Id → Option String}
    {q : StatementQuery} (h : Covers db orderRef q) :
    (build db orderRef q).closingBalance = statementBalance db q := by
  have hperm := List.perm_insertionSort entryLE (ledgerEntries db orderRef q)
  have hcovers : ∀ e ∈ sortedEntries db orderRef q,
      q.periodStart ≤ e.1 ∧ e.1 ≤ q.periodEnd :=
    fun e he => h e (hperm.mem_iff.mp he)
  have hopening : (sortedEntries db orderRef q).filter (fun e => e.1 < q.periodStart)
      = [] := by
    refine List.filter_eq_nil_iff.mpr fun e he => ?_
    simpa using (hcovers e he).1
  have hcovered : (sortedEntries db orderRef q).filter
      (fun e => q.periodStart ≤ e.1 ∧ e.1 ≤ q.periodEnd) = sortedEntries db orderRef q :=
    List.filter_eq_self.mpr fun e he => by simpa using hcovers e he
  simp only [build, hopening, hcovered, List.map_nil, List.sum_nil, zero_add]
  rw [← sum_ledgerEntries db orderRef q]
  exact (hperm.map _).sum_eq

end SwCouriers
