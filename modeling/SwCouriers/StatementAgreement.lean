import SwCouriers.StatementLedger

/-!
# Statements and Billing

Two figures of an account statement beside what billing says.

*Unpaid.* Billing owes an invoice's total less the credit applied and the payments
allocated to it. The statement computes the total less `paid_amount`, which does not
include credit. The two sums agree exactly when no open invoice has credit on it.

*Voiding a credit note.* A statement drops a voided note, which undoes all of it. Voiding
also creates a reversal invoice for the part that was applied, and the statement adds
that. The closing balance moves by the note's total and the applied part.

## Main results

* `total_unpaid_eq_iff`: when the two unpaid figures agree.
* `void_raises_closing`: by how much a void moves the closing balance, and when that is
  the note's total.
-/

namespace SwCouriers

open Checked

/-! ### Unpaid -/

/-- Billing's `balance_due`. -/
def balanceDue (db : Db) (inv : Invoice) : ℤ :=
  inv.total - db.getAppliedTotalForInvoice inv.id - db.totalAllocatedForInvoice inv.id

/-- The organisation's open invoices: sent, and with no outcome recorded. -/
def openInvoices (db : Db) (organizationId : Id) : List Invoice :=
  db.invoices.rows.filter fun inv => inv.organizationId = some organizationId ∧
    inv.status = .sent ∧ db.isClosed inv.id = false

variable {db : Db}

/-- The statement's invoices are the open ones. -/
theorem BillingInv.statementInvoices_eq (h : BillingInv db) (org : Id) :
    statementInvoices db org = openInvoices db org := by
  refine List.filter_congr fun inv hinv => ?_
  rw [decide_eq_decide, OnStatement, (h.invoices inv hinv).outcome]

/-- What the statement calls outstanding is billing's balance and the credit. -/
theorem BillingInv.invoiceOutstanding_eq (h : BillingInv db) {inv : Invoice}
    (hinv : inv ∈ db.invoices.rows) (hopen : db.isClosed inv.id = false) :
    invoiceOutstanding inv = balanceDue db inv + db.getAppliedTotalForInvoice inv.id := by
  have hold := h.invoices inv hinv
  have hwithin := hold.within
  have hcredit := h.getAppliedTotalForInvoice_nonneg inv.id
  rw [invoiceOutstanding, hold.outcome, hopen, hold.paid, balanceDue, if_neg (by decide),
    max_eq_right (by omega)]
  omega

theorem sum_eq_zero_iff_of_nonneg {l : List ℤ} (h : ∀ x ∈ l, 0 ≤ x) :
    l.sum = 0 ↔ ∀ x ∈ l, x = 0 := by
  constructor
  · intro hsum x hx
    exact le_antisymm (hsum ▸ List.single_le_sum h x hx) (h x hx)
  · exact List.sum_eq_zero

/-- **The statement's unpaid total is billing's exactly when no open invoice of the
organisation has credit applied to it.** -/
theorem total_unpaid_eq_iff (users : TableOf User) (requests : List (Day × BillingOp))
    (orderRef : Id → Option String) (q : StatementQuery) :
    let db := Runs.run BillingOp.step (Db.initial users) requests
    (build db orderRef q).totalUnpaid
        = ((openInvoices db q.organizationId).map (balanceDue db)).sum ↔
      ∀ inv ∈ openInvoices db q.organizationId, db.getAppliedTotalForInvoice inv.id = 0 := by
  intro db
  have hdb : BillingInv db := billingInv_run users requests
  have hunpaid : (build db orderRef q).totalUnpaid
      = ((openInvoices db q.organizationId).map (balanceDue db)).sum
        + ((openInvoices db q.organizationId).map
            fun inv => db.getAppliedTotalForInvoice inv.id).sum := by
    rw [← List.sum_map_add, ← hdb.statementInvoices_eq]
    refine congrArg List.sum (List.map_congr_left fun inv hinv => ?_)
    rw [hdb.statementInvoices_eq, openInvoices, List.mem_filter, decide_eq_true_eq] at hinv
    exact hdb.invoiceOutstanding_eq hinv.1 hinv.2.2.2
  have hzero := sum_eq_zero_iff_of_nonneg (l := (openInvoices db q.organizationId).map
    fun inv => db.getAppliedTotalForInvoice inv.id) (by
      intro x hx
      obtain ⟨inv, -, rfl⟩ := List.mem_map.mp hx
      exact hdb.getAppliedTotalForInvoice_nonneg inv.id)
  rw [List.forall_mem_map] at hzero
  rw [hunpaid, ← hzero]
  omega

/-- An invoice for 120.00 to customer 7 of organisation 1, and a credit note of 50.00 that
is applied to it. -/
def creditedInvoice : List (Day × BillingOp) :=
  [(0, .invoice (.createAndFinalize
     { orderId := none, organizationId := some 1, customerId := some 7, issueDate := 0,
       dueDate := 30, subtotal := 100, vatRate := 20, vatAmount := 20, total := 120,
       notes := none })),
   (1, .creditNote (.create 1 (some 1) none 1 50 "OTHER" none)),
   (2, .creditNote (.applyAuto 1 1 1 none true))]

/-- A statement of organisation 1 for the first hundred days. -/
def firstStatement : StatementQuery where
  organizationId := 1
  periodStart := 0
  periodEnd := 100
  includeLineItemDetail := false
  includeCreditNotes := true
  includePaymentHistory := true
  agingAsOf := 100

/-- The statement says that 120.00 are unpaid where billing's balance is 70.00. -/
theorem unpaid_ignores_credit :
    let db := Runs.run BillingOp.step (Db.initial .empty) creditedInvoice
    (build db (fun _ => none) firstStatement).totalUnpaid = 12000 ∧
    ((openInvoices db 1).map (balanceDue db)).sum = 7000 ∧
    ¬ (build db (fun _ => none) firstStatement).totalUnpaid
      = ((openInvoices db 1).map (balanceDue db)).sum := by
  decide +kernel

/-! ### Voiding a credit note -/

/-- The lines of an invoice do not enter the balance. -/
theorem sumWhere_replaceLineItems (db : Db) (i org : Id) (items : List InvoiceLineItem) :
    (replaceLineItems db i items).invoices.sumWhere (OnStatement org) (·.total)
      = db.invoices.sumWhere (OnStatement org) (·.total) := by
  rw [replaceLineItems, Table.modify, Table.sumWhere_mapRows]
  refine Table.sumWhere_congr (fun inv _ => ?_) fun inv _ _ => ?_
  · split_ifs <;> exact Iff.rfl
  · split_ifs <;> rfl

theorem mem_replaceLineItems {i : Id} {items : List InvoiceLineItem} {inv : Invoice}
    (h : inv ∈ (replaceLineItems db i items).invoices.rows) :
    ∃ inv₀ ∈ db.invoices.rows, inv.issueDate = inv₀.issueDate ∧ (inv = inv₀ ∨ inv₀.id = i) := by
  have hid : ∀ r : Invoice, Entity.id { r with lineItems := items } = Entity.id r :=
    fun _ => rfl
  obtain ⟨inv₀, hinv₀, rfl⟩ := (Table.mem_modify_iff hid).mp h
  refine ⟨inv₀, hinv₀, ?_⟩
  split_ifs with hkey
  · exact ⟨rfl, .inr hkey⟩
  · exact ⟨rfl, .inl rfl⟩

/-- The reversal invoice adds the applied amount to the statement's invoices, dated the
day of the void, and nothing else moves. -/
theorem reverseIfApplied_statement {today : Day} {cn : CreditNote} {org : Id}
    (horg : cn.organizationId = some org) {appliedTotal : ℤ} {voidReason : String}
    {result : Db × Option Id}
    (h : reverseIfApplied db today cn appliedTotal voidReason = .ok result) :
    result.1.invoices.sumWhere (OnStatement org) (·.total)
      = db.invoices.sumWhere (OnStatement org) (·.total) + max 0 appliedTotal ∧
    (∀ inv ∈ result.1.invoices.rows, inv ∈ db.invoices.rows ∨ inv.issueDate = today) ∧
    result.1.creditNotes = db.creditNotes ∧ result.1.payments = db.payments ∧
    result.1.refunds = db.refunds := by
  unfold reverseIfApplied at h
  split at h
  · rename_i hpos
    obtain ⟨⟨db₁, reversal⟩, hrev, rfl⟩ := map_eq_ok.mp h
    replace hrev := ok_of_check hrev
    replace hrev := ok_of_check hrev
    obtain ⟨⟨db₂, inv⟩, hcreate, hrev⟩ := bind_eq_ok.mp hrev
    obtain ⟨-, hinv, hdb₂⟩ := createInvoice_ok hcreate
    obtain ⟨rfl, -⟩ := Prod.mk.inj (pure_eq_ok.mp hrev)
    dsimp only at hinv hdb₂
    have hnew : inv.id ∉ db.invoices.rows.map Invoice.id := by
      rw [hinv]
      exact db.invoices.fresh_notMem
    have hinvoices : db₂.invoices = db.invoices.insert inv := by rw [hdb₂, hinv]
    -- The new invoice is on the statement, for the applied amount.
    have hon : OnStatement org inv := by
      rw [hinv]
      exact ⟨horg, rfl, rfl⟩
    have htotal : inv.total = appliedTotal := by
      rw [hinv]
      exact money_stored appliedTotal
    have hframe : db₂.creditNotes = db.creditNotes ∧ db₂.payments = db.payments ∧
        db₂.refunds = db.refunds := by
      rw [hdb₂]
      exact ⟨rfl, rfl, rfl⟩
    refine ⟨?_, fun i hi => ?_, hframe⟩
    · rw [sumWhere_replaceLineItems, hinvoices, Table.sumWhere_insert hnew, if_pos hon, htotal,
        max_eq_right hpos.le]
    · obtain ⟨i₀, hi₀, hdate, hkept⟩ := mem_replaceLineItems hi
      rw [hinvoices, Table.rows_insert_of_notMem hnew, List.mem_append,
        List.mem_singleton] at hi₀
      rcases hi₀ with hi₀ | rfl
      · rcases hkept with rfl | heq
        · exact .inl hi₀
        · exact absurd (heq ▸ List.mem_map_of_mem hi₀) hnew
      · refine .inr (hdate.trans ?_)
        rw [hinv]
        rfl
  · rename_i hpos
    obtain rfl := Except.ok.inj h
    rw [max_eq_left (not_lt.mp hpos), add_zero]
    exact ⟨rfl, fun inv hinv => .inl hinv, rfl, rfl, rfl⟩

/-- What `void_credit_note` has done to an issued note when it returns: the reversal, if
any, and the note is voided. -/
theorem voidCreditNote_ok {db' : Db} {today : Day} {creditNoteId org : Id} {reason : Option String}
    {cn : CreditNote} (hcn : getById db.creditNotes creditNoteId (inNoteOrganization org) = some cn)
    (hissued : cn.status = .issued)
    (h : voidCreditNote db today creditNoteId org reason = .ok db') :
    ∃ voidReason db₁ rev f, ∃ hid : ∀ note : CreditNote, (f note).id = note.id,
      reverseIfApplied db today cn (db.getAppliedTotalForCreditNote cn.id) voidReason
        = .ok (db₁, rev) ∧
      (f cn).status = .voided ∧
      db' = { db₁ with creditNotes := db₁.creditNotes.modify cn.id f hid } := by
  obtain ⟨cn', hcn', h⟩ := orRaise_bind_eq_ok.mp h
  obtain rfl : cn' = cn := Option.some.inj (hcn'.symm.trans hcn)
  rw [if_neg (by rw [hissued]; decide)] at h
  replace h := ok_of_check h
  obtain ⟨⟨db₁, rev⟩, hrev, h⟩ := bind_eq_ok.mp h
  obtain ⟨creditNotes, hupd, h⟩ := bind_eq_ok.mp h
  obtain ⟨-, -, -, -, rfl⟩ := updateById_eq_ok.mp hupd
  obtain rfl := pure_eq_ok.mp h
  exact ⟨_, db₁, rev, fun note => { note with
    status := .voided
    reversalInvoiceId := rev.or note.reversalInvoiceId
    version := cn'.version + 1 }, fun _ => rfl, hrev, rfl, rfl⟩

/-- A period that covers the rows and the day of the void covers the rows after it. -/
theorem covers_void {db₁ db' : Db} {orderRef : Id → Option String} {q : StatementQuery}
    {today : Day} (hcovers : Covers db orderRef q)
    (htoday : q.periodStart ≤ today ∧ today ≤ q.periodEnd)
    (hinvoices : ∀ inv ∈ db₁.invoices.rows, inv ∈ db.invoices.rows ∨ inv.issueDate = today)
    (hnotes : db₁.creditNotes = db.creditNotes) (hpayments : db₁.payments = db.payments)
    (hrefunds : db₁.refunds = db.refunds) {cn : CreditNote} {f : CreditNote → CreditNote}
    (hid : ∀ note, (f note).id = note.id) (hfound : db.creditNotes.find? cn.id = some cn)
    (hvoid : (f cn).status = .voided)
    (hdb' : db' = { db₁ with creditNotes := db₁.creditNotes.modify cn.id f hid }) :
    Covers db' orderRef q := by
  subst hdb'
  intro e he
  simp only [ledgerEntries, statementInvoices, List.mem_append, List.mem_ite_nil_right,
    List.mem_map, List.mem_filter, decide_eq_true_eq] at he
  have hmem : ∀ x ∈ ledgerEntries db orderRef q, q.periodStart ≤ x.1 ∧ x.1 ≤ q.periodEnd :=
    hcovers
  simp only [ledgerEntries, statementInvoices, List.mem_append, List.mem_ite_nil_right,
    List.mem_map, List.mem_filter, decide_eq_true_eq] at hmem
  rcases he with ((⟨inv, ⟨hinv, hon⟩, rfl⟩ | ⟨hinc, cn', ⟨hcn', hon⟩, rfl⟩) | hpay) | href
  · rcases hinvoices inv hinv with hold | hdate
    · exact hmem _ (.inl (.inl (.inl ⟨inv, ⟨hold, hon⟩, rfl⟩)))
    · rw [hdate]
      exact htoday
  · obtain ⟨note, hnote, rfl⟩ := (Table.mem_modify_iff hid).mp hcn'
    rw [hnotes] at hnote
    by_cases hkey : note.id = cn.id
    · -- The voided note is no longer on the statement.
      obtain rfl : note = cn := Table.eq_of_find? hfound hnote hkey
      rw [if_pos rfl] at hon
      have := hon.2
      rw [hvoid] at this
      exact absurd this (by decide)
    · rw [if_neg hkey] at hon ⊢
      exact hmem _ (.inl (.inl (.inr ⟨hinc, note, ⟨hnote, hon⟩, rfl⟩)))
  · rw [hpayments] at hpay
    exact hmem e (.inl (.inr hpay))
  · rw [hrefunds] at href
    exact hmem e (.inr href)

/-- **Voiding an issued credit note raises the closing balance by the part that was
applied, and by the note's total if the statement shows credit notes.** It raises it by
exactly the note's total if and only if nothing was applied, or all of it was and the
statement leaves credit notes out. -/
theorem void_raises_closing (db db' : Db) (orderRef : Id → Option String)
    (q : StatementQuery) (today : Day) (creditNoteId : Id) (reason : Option String)
    (cn : CreditNote)
    (hcn : getById db.creditNotes creditNoteId (inNoteOrganization q.organizationId)
      = some cn)
    (hissued : cn.status = .issued)
    (happlied : 0 ≤ db.getAppliedTotalForCreditNote cn.id)
    (hvoid : voidCreditNote db today creditNoteId q.organizationId reason = .ok db')
    (hcovers : Covers db orderRef q)
    (htoday : q.periodStart ≤ today ∧ today ≤ q.periodEnd) :
    (build db' orderRef q).closingBalance = (build db orderRef q).closingBalance
      + (if q.includeCreditNotes then cn.totalCreditAmount else 0)
      + db.getAppliedTotalForCreditNote cn.id ∧
    ((build db' orderRef q).closingBalance
        = (build db orderRef q).closingBalance + cn.totalCreditAmount ↔
      if q.includeCreditNotes then db.getAppliedTotalForCreditNote cn.id = 0
      else db.getAppliedTotalForCreditNote cn.id = cn.totalCreditAmount) := by
  obtain ⟨hfound, hscope⟩ := getById_eq_some.mp hcn
  obtain rfl := (Table.find?_eq_some_iff.mp hfound).2
  have horg : cn.organizationId = some q.organizationId := by
    simpa [inNoteOrganization] using hscope
  obtain ⟨voidReason, db₁, rev, f, hid, hrev, hstatus, rfl⟩ :=
    voidCreditNote_ok hcn hissued hvoid
  obtain ⟨hsum, hdates, hnotes, hpayments, hrefunds⟩ := reverseIfApplied_statement horg hrev
  dsimp only at hsum hdates hnotes hpayments hrefunds
  have hcovers' := covers_void hcovers htoday hdates hnotes hpayments hrefunds hid hfound
    hstatus rfl
  -- The note leaves the statement, the reversal enters it.
  have hnote : (db₁.creditNotes.modify cn.id f hid).sumWhere
      (NoteOnStatement q.organizationId) (·.totalCreditAmount)
      = db.creditNotes.sumWhere (NoteOnStatement q.organizationId) (·.totalCreditAmount)
        - cn.totalCreditAmount := by
    have hoff : ¬ NoteOnStatement q.organizationId (f cn) := by
      intro hon
      rw [hon.2] at hstatus
      exact absurd hstatus (by decide)
    rw [hnotes]
    refine (Table.sumWhere_modify hfound).trans ?_
    rw [if_pos ⟨horg, hissued⟩, if_neg hoff, add_zero]
  have hclosing : (build { db₁ with creditNotes := db₁.creditNotes.modify cn.id f hid }
      orderRef q).closingBalance = (build db orderRef q).closingBalance
      + (if q.includeCreditNotes then cn.totalCreditAmount else 0)
      + db.getAppliedTotalForCreditNote cn.id := by
    rw [build_closing_of_covers hcovers', build_closing_of_covers hcovers,
      statementBalance, statementBalance, hsum, hnote, hpayments, hrefunds,
      max_eq_right happlied]
    split_ifs <;> omega
  refine ⟨hclosing, ?_⟩
  rw [hclosing]
  split_ifs <;> omega

/-- Voiding the note of 50.00 that was applied in full raises the closing balance by
100.00. -/
theorem void_counts_credit_twice :
    let db := Runs.run BillingOp.step (Db.initial .empty) creditedInvoice
    let db' := BillingOp.step db (3, .creditNote (.void 1 1 (some "Issued in error")))
    (db.creditNotes.find? 1).map (fun cn => (cn.status, cn.totalCreditAmount))
      = some (.issued, 5000) ∧
    (db'.creditNotes.find? 1).map (·.status) = some .voided ∧
    Covers db (fun _ => none) firstStatement ∧ Covers db' (fun _ => none) firstStatement ∧
    (build db (fun _ => none) firstStatement).closingBalance = 7000 ∧
    (build db' (fun _ => none) firstStatement).closingBalance = 17000 ∧
    ¬ (build db' (fun _ => none) firstStatement).closingBalance
      = (build db (fun _ => none) firstStatement).closingBalance + 5000 := by
  decide +kernel

/-- The note of 50.00 before it is applied. -/
def issuedNote : CreditNote where
  id := 1
  creditNoteNumber := "CN-000001"
  organizationId := some 1
  customerId := some 7
  sourceInvoiceId := some 1
  issueDate := 1
  totalCreditAmount := 5000
  status := .issued
  reasonCategory := "OTHER"
  reason := none
  reversalInvoiceId := none
  version := 1

/-- Voiding it then raises the closing balance by its total. -/
theorem void_raises_closing_unapplied :
    let db := Runs.run BillingOp.step (Db.initial .empty) (creditedInvoice.take 2)
    ∃ db', voidCreditNote db 3 1 1 (some "Issued in error") = .ok db' ∧
      (build db' (fun _ => none) firstStatement).closingBalance
        = (build db (fun _ => none) firstStatement).closingBalance + 5000 := by
  intro db
  obtain ⟨db', hvoid⟩ : ∃ db', voidCreditNote db 3 1 1 (some "Issued in error") = .ok db' :=
    exists_eq_ok (by decide +kernel)
  refine ⟨db', hvoid, ?_⟩
  exact (void_raises_closing db db' (fun _ => none) firstStatement 3 1
    (some "Issued in error") issuedNote (by decide +kernel) rfl (by decide +kernel) hvoid
    (by decide +kernel) (by decide)).2.mpr (by decide +kernel)

end SwCouriers
