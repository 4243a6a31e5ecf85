import SwCouriers.AllocationLedger
import SwCouriers.Refunds

/-!
# What a Billing Request May Do

All requests of billing in one type, `BillingOp`, and the writes they are made of.
`DocumentEffect` lists the writes to invoices and credit notes with what the code has
checked before making them; every accepted request on these documents is a sequence of
such writes. Refund requests write refund rows, and at most issue a credit note besides
(`RefundEffect`). What payment requests write is `PaymentEffect`.

## Main results

* `InvoiceOp.exec_effect`, `CreditNoteOp.exec_effect`, `RefundOp.exec_effect`: each
  accepted request, as effects.
* `DocumentEffect.frame`: invoices and credit notes are changed without touching
  payments, allocation rows or refunds.
* `BillingOp.exec_cases`, `BillingOp.step_cases`: an accepted or served request is one
  of these.
-/

namespace SwCouriers

open Checked

/-! ### Effects -/

/-- The writes that requests on invoices and credit notes are made of. -/
inductive DocumentEffect (today : Day) : Db → Db → Prop
  | refl (db : Db) : DocumentEffect today db db
  | invoiceCreated (db : Db) (inv : Invoice) (events : List InvoiceEvent) (seq : ℕ)
      (fresh : inv.id = db.invoices.fresh) (paid : inv.paidAmount = 0)
      (unpaid : inv.paymentStatus = .unpaid) (total : 0 ≤ inv.total)
      (history : ∀ e ∈ events, e.invoiceId = inv.id ∧ e.eventType.isOutcome = false) :
      DocumentEffect today db { db with
        invoices := db.invoices.insert inv
        invoiceEvents := db.invoiceEvents ++ events
        invoiceNumberSeq := seq }
  /-- A row is rewritten outside its projections. Only a draft's total may change, and a
  sent invoice stays sent. -/
  | invoiceRewritten (db : Db) (inv : Invoice) (f : Invoice → Invoice)
      (events : List InvoiceEvent) (id : ∀ i, (f i).id = i.id)
      (found : db.invoices.find? inv.id = some inv)
      (paid : (f inv).paidAmount = inv.paidAmount)
      (status : (f inv).paymentStatus = inv.paymentStatus) (total : 0 ≤ inv.total →
        0 ≤ (f inv).total)
      (sent : inv.status = .sent → (f inv).total = inv.total ∧ (f inv).status = .sent)
      (history : ∀ e ∈ events, e.invoiceId = inv.id ∧ e.eventType.isOutcome = false) :
      DocumentEffect today db { db with
        invoices := db.invoices.modify inv.id f id
        invoiceEvents := db.invoiceEvents ++ events }
  | invoiceReprojected (db : Db) (i : Id) :
      DocumentEffect today db { db with invoices := db.reproject today [i] }
  /-- An open invoice is voided or written off, and its projection recomputed. -/
  | invoiceClosed (db db₁ : Db) (inv : Invoice) (f : Invoice → Invoice)
      (outcome : InvoiceEvent) (id : ∀ i, (f i).id = i.id)
      (found : db.invoices.find? inv.id = some inv) (isOpen : db.isClosed inv.id = false)
      (total : (f inv).total = inv.total) (status : (f inv).status = inv.status)
      (event : outcome.invoiceId = inv.id ∧ outcome.eventType.isOutcome = true)
      (written : db₁ = { db with
        invoices := db.invoices.modify inv.id f id
        invoiceEvents := db.invoiceEvents ++ [outcome] }) :
      DocumentEffect today db { db₁ with invoices := db₁.reproject today [inv.id] }
  | noteCreated (db : Db) (cn : CreditNote) (fresh : cn.id = db.creditNotes.fresh)
      (amount : 0 < cn.totalCreditAmount) :
      DocumentEffect today db { db with creditNotes := db.creditNotes.insert cn }
  | noteUpdated (db : Db) (id : Id) (f : CreditNote → CreditNote)
      (key : ∀ cn, (f cn).id = cn.id)
      (amount : ∀ cn, (f cn).totalCreditAmount = cn.totalCreditAmount) :
      DocumentEffect today db { db with creditNotes := db.creditNotes.modify id f key }
  /-- A note is applied to a sent, open invoice, within what is left of either. -/
  | creditApplied (db db₁ : Db) (cn : CreditNote) (inv : Invoice)
      (app : InvoiceCreditApplication) (event : InvoiceEvent)
      (note : db.creditNotes.find? cn.id = some cn)
      (found : db.invoices.find? inv.id = some inv) (sent : inv.status = .sent)
      (isOpen : db.isClosed inv.id = false) (fresh : app.id = db.creditApplications.fresh)
      (invoice : app.invoiceId = inv.id) (credit : app.creditNoteId = cn.id)
      (positive : 0 < app.appliedAmount)
      (remaining : app.appliedAmount
        ≤ cn.totalCreditAmount - db.getAppliedTotalForCreditNote cn.id)
      (outstanding : app.appliedAmount ≤ inv.total - db.getAppliedTotalForInvoice inv.id
        - db.totalAllocatedForInvoice inv.id)
      (history : event.invoiceId = inv.id ∧ event.eventType.isOutcome = false)
      (written : db₁ = { db with
        creditApplications := db.creditApplications.insert app
        invoiceEvents := db.invoiceEvents ++ [event] }) :
      DocumentEffect today db { db₁ with invoices := db₁.reproject today [inv.id] }
  | trans {db db₁ db₂ : Db} (first : DocumentEffect today db db₁)
      (second : DocumentEffect today db₁ db₂) : DocumentEffect today db db₂

variable {db db' : Db} {today : Day} {invoiceId : Id} {organizationId : Option Id}
  {gateway : Gateway}

/-- Documents are changed without touching payments, allocation rows or refunds. -/
theorem DocumentEffect.frame (he : DocumentEffect today db db') :
    db'.payments = db.payments ∧ db'.allocations = db.allocations ∧
      db'.refunds = db.refunds := by
  induction he with
  | refl => exact ⟨rfl, rfl, rfl⟩
  | invoiceCreated => exact ⟨rfl, rfl, rfl⟩
  | invoiceRewritten => exact ⟨rfl, rfl, rfl⟩
  | invoiceReprojected => exact ⟨rfl, rfl, rfl⟩
  | invoiceClosed db db₁ inv f outcome _ _ _ _ _ _ hdb =>
      subst hdb
      exact ⟨rfl, rfl, rfl⟩
  | noteCreated => exact ⟨rfl, rfl, rfl⟩
  | noteUpdated => exact ⟨rfl, rfl, rfl⟩
  | creditApplied db db₁ cn inv app event _ _ _ _ _ _ _ _ _ _ _ hdb =>
      subst hdb
      exact ⟨rfl, rfl, rfl⟩
  | trans _ _ ih₁ ih₂ =>
      obtain ⟨hp₁, ha₁, hr₁⟩ := ih₁
      obtain ⟨hp₂, ha₂, hr₂⟩ := ih₂
      exact ⟨hp₂.trans hp₁, ha₂.trans ha₁, hr₂.trans hr₁⟩

/-! ### Invoice requests -/

theorem createInvoice_ok {status : InvoiceStatus} {events : List InvoiceEventType}
    {input : InvoiceInput} {result : Db × Invoice}
    (h : createInvoice db today status events input = .ok result) :
    0 ≤ input.total ∧ result.2 = newInvoice db today status input ∧
    result.1 = { db with
      invoices := db.invoices.insert (newInvoice db today status input)
      invoiceEvents := db.invoiceEvents
        ++ events.map fun e => ⟨db.invoices.fresh, e, none⟩
      invoiceNumberSeq := db.invoiceNumberSeq + 1 } := by
  replace h := ok_of_check h
  obtain ⟨htotal, h⟩ := raiseIf_bind_eq_ok.mp h
  replace h := ok_of_check h
  obtain rfl := pure_eq_ok.mp h
  refine ⟨not_lt.mp htotal, rfl, ?_⟩
  -- Each event is appended in turn.
  have hfold : ∀ (es : List InvoiceEventType) (i : Id) (d : Db),
      es.foldl (fun d e => d.appendInvoiceEvent i e none) d
        = { d with invoiceEvents := d.invoiceEvents ++ es.map fun e => ⟨i, e, none⟩ } := by
    intro es i d
    induction es generalizing d with
    | nil => simp
    | cons e es ih =>
        rw [List.foldl_cons, ih]
        simp [Db.appendInvoiceEvent]
  rw [hfold]
  rfl

theorem createInvoice_effect {status : InvoiceStatus} {events : List InvoiceEventType}
    (hevents : ∀ e ∈ events, e.isOutcome = false) {input : InvoiceInput} {result : Db × Invoice}
    (h : createInvoice db today status events input = .ok result) :
    DocumentEffect today db result.1 := by
  obtain ⟨htotal, -, hdb⟩ := createInvoice_ok h
  rw [hdb]
  refine .invoiceCreated db _ _ _ rfl rfl rfl (Decimal.quantize_nonneg htotal) ?_
  intro e he
  obtain ⟨t, ht, rfl⟩ := List.mem_map.mp he
  exact ⟨rfl, hevents t ht⟩

/-- What an accepted `update_draft` does: the draft is rewritten and, when a sent field calls for
it, projected again. -/
theorem updateDraft_ok {data : InvoiceUpdate}
    (h : updateDraft db today invoiceId data organizationId = .ok db') :
    ∃ invoice edited, db.invoices.find? invoiceId = some invoice ∧ data.WellFormed ∧
      invoice.status = .draft ∧
      edited = Db.appendInvoiceEvent { db with
        invoices := db.invoices.modify invoiceId (fun inv => { data.apply inv with
          updatedAt := today, version := invoice.version + 1 }) fun _ => rfl }
        invoiceId .draftSaved none ∧
      (recomputeInvoiceProjection today edited invoiceId = .ok db' ∨
        data.changesAmounts = false ∧ db' = edited) := by
  obtain ⟨hwf, h⟩ := raiseIf_bind_eq_ok.mp h
  obtain ⟨invoice, hinv, h⟩ := bind_eq_ok.mp h
  obtain ⟨hdraft, h⟩ := raiseIf_bind_eq_ok.mp h
  replace h := ok_of_check h
  obtain ⟨invoices, hupd, h⟩ := bind_eq_ok.mp h
  obtain ⟨-, -, -, -, rfl⟩ := updateById_eq_ok.mp hupd
  refine ⟨invoice, _, (getByIdOr404_eq_ok.mp hinv).1, not_not.mp hwf,
    not_not.mp hdraft, rfl, ?_⟩
  split at h
  · exact .inl h
  · next hamounts => exact .inr ⟨Bool.eq_false_iff.mpr hamounts, (pure_eq_ok.mp h).symm⟩

/-- An accepted `finalize` sends a draft, and leaves an invoice sent before as it is. -/
theorem finalize_ok (h : finalize db today invoiceId organizationId = .ok db') :
    db' = db ∨ ∃ invoice, db.invoices.find? invoiceId = some invoice ∧
      db' = Db.appendInvoiceEvent { db with
        invoices := db.invoices.modify invoiceId (fun inv => { inv with
          status := .sent, updatedAt := today, version := invoice.version + 1 }) fun _ => rfl }
        invoiceId .finalized none := by
  obtain ⟨invoice, hinv, h⟩ := bind_eq_ok.mp h
  split at h
  · exact .inl (pure_eq_ok.mp h).symm
  · obtain ⟨invoices, hupd, h⟩ := bind_eq_ok.mp h
    obtain ⟨-, -, -, -, rfl⟩ := updateById_eq_ok.mp hupd
    exact .inr ⟨invoice, (getByIdOr404_eq_ok.mp hinv).1, (pure_eq_ok.mp h).symm⟩

/-- An accepted void or write-off records its outcome on an open invoice and projects it again. -/
theorem closeInvoice_ok {outcome : InvoiceEventType} {reasonRequired : String} {reason : String}
    (h : closeInvoice outcome reasonRequired db today invoiceId reason organizationId = .ok db') :
    ∃ invoice, db.invoices.find? invoiceId = some invoice ∧ db.isClosed invoiceId = false ∧
      recomputeInvoiceProjection today (Db.appendInvoiceEvent { db with
        invoices := db.invoices.modify invoiceId (fun inv => { inv with
          updatedAt := today, version := invoice.version + 1 }) fun _ => rfl }
        invoiceId outcome (strip reason)) invoiceId = .ok db' := by
  replace h := ok_of_check h
  obtain ⟨invoice, hinv, h⟩ := bind_eq_ok.mp h
  obtain ⟨hopen, h⟩ := raiseIf_bind_eq_ok.mp h
  obtain ⟨invoices, hupd, h⟩ := bind_eq_ok.mp h
  obtain ⟨-, -, -, -, rfl⟩ := updateById_eq_ok.mp hupd
  exact ⟨invoice, (getByIdOr404_eq_ok.mp hinv).1, Bool.eq_false_iff.mpr hopen,
    h⟩

theorem updateDraft_effect {data : InvoiceUpdate}
    (h : updateDraft db today invoiceId data organizationId = .ok db') :
    DocumentEffect today db db' := by
  obtain ⟨invoice, _, hfound, hwf, hdraft, rfl, h⟩ := updateDraft_ok h
  obtain rfl := (Table.find?_eq_some_iff.mp hfound).2
  have hrewritten : DocumentEffect today db (Db.appendInvoiceEvent { db with
      invoices := db.invoices.modify invoice.id
        (fun inv => { data.apply inv with
          updatedAt := today, version := invoice.version + 1 }) fun _ => rfl }
      invoice.id .draftSaved none) := by
    refine .invoiceRewritten db invoice
      (fun inv => { data.apply inv with
        updatedAt := today, version := invoice.version + 1 })
      [⟨invoice.id, .draftSaved, none⟩] (fun _ => rfl) hfound rfl rfl ?_ ?_ ?_
    · intro hnonneg
      change 0 ≤ (data.total.map money).getD invoice.total
      cases htotal : data.total with
      | none => exact hnonneg
      | some a => exact Decimal.quantize_nonneg (hwf.2.2.2 a (by rw [htotal]; rfl))
    · intro hsent
      rw [hdraft] at hsent
      exact absurd hsent (by decide)
    · intro e he
      obtain rfl := List.mem_singleton.mp he
      exact ⟨rfl, rfl⟩
  rcases h with h | ⟨-, rfl⟩
  · obtain ⟨-, rfl⟩ := recomputeInvoiceProjection_eq_ok.mp h
    exact .trans hrewritten (.invoiceReprojected _ _)
  · exact hrewritten

theorem finalize_effect (h : finalize db today invoiceId organizationId = .ok db') :
    DocumentEffect today db db' := by
  obtain rfl | ⟨invoice, hfound, rfl⟩ := finalize_ok h
  · exact .refl _
  obtain rfl := (Table.find?_eq_some_iff.mp hfound).2
  refine .invoiceRewritten db invoice
    (fun inv => { inv with
      status := .sent, updatedAt := today, version := invoice.version + 1 })
    [⟨invoice.id, .finalized, none⟩] (fun _ => rfl) hfound rfl rfl (fun h => h)
    (fun _ => ⟨rfl, rfl⟩) ?_
  intro e he
  obtain rfl := List.mem_singleton.mp he
  exact ⟨rfl, rfl⟩

theorem closeInvoice_effect {outcome : InvoiceEventType} (hout : outcome.isOutcome = true)
    {reasonRequired : String} {reason : String}
    (h : closeInvoice outcome reasonRequired db today invoiceId reason organizationId = .ok db') :
    DocumentEffect today db db' := by
  obtain ⟨invoice, hfound, hopen, h⟩ := closeInvoice_ok h
  obtain ⟨-, rfl⟩ := recomputeInvoiceProjection_eq_ok.mp h
  obtain rfl := (Table.find?_eq_some_iff.mp hfound).2
  exact .invoiceClosed db _ invoice
    (fun inv => { inv with updatedAt := today, version := invoice.version + 1 })
    ⟨invoice.id, outcome, some (strip reason)⟩ (fun _ => rfl) hfound hopen rfl rfl
    ⟨rfl, hout⟩ rfl

/-- **Every accepted invoice request is a document effect.** -/
theorem InvoiceOp.exec_effect {op : InvoiceOp} (h : op.exec db today = .ok db') :
    DocumentEffect today db db' := by
  cases op with
  | createDraft input =>
      obtain ⟨result, hcreate, rfl⟩ := map_eq_ok.mp h
      exact createInvoice_effect (by decide) hcreate
  | createAndFinalize input =>
      obtain ⟨result, hcreate, rfl⟩ := map_eq_ok.mp h
      exact createInvoice_effect (by decide) hcreate
  | updateDraft invoiceId data organizationId => exact updateDraft_effect h
  | finalize invoiceId organizationId => exact finalize_effect h
  | void invoiceId reason organizationId => exact closeInvoice_effect rfl h
  | writeOff invoiceId reason organizationId => exact closeInvoice_effect rfl h

/-! ### Credit note requests -/

theorem insertCreditNote_effect (today : Day) {customerId sourceInvoiceId : Option Id}
    {issueDate : Day} {amount : ℤ} {reasonCategory : String} {reason : Option String}
    {result : Db × CreditNote} (hamount : 0 < amount)
    (h : insertCreditNote db organizationId customerId sourceInvoiceId issueDate amount
      reasonCategory reason = .ok result) : DocumentEffect today db result.1 := by
  replace h := ok_of_check h
  obtain rfl := pure_eq_ok.mp h
  exact .noteCreated db _ rfl hamount

theorem createCreditNote_effect {organizationId : Id} {sourceInvoiceId customerId : Option Id}
    {issueDate : Day} {amount : ℚ} {reasonCategory : String} {reason : Option String}
    (h : createCreditNote db organizationId sourceInvoiceId customerId issueDate amount
      reasonCategory reason = .ok db') : DocumentEffect today db db' := by
  obtain ⟨hpos, h⟩ := raiseIf_bind_eq_ok.mp h
  replace h := ok_of_check h
  obtain ⟨source, -, h⟩ := bind_eq_ok.mp h
  obtain ⟨result, hins, h⟩ := bind_eq_ok.mp h
  obtain rfl := pure_eq_ok.mp h
  exact insertCreditNote_effect today (not_le.mp hpos) hins

theorem applyCreditNoteAuto_effect {creditNoteId organizationId : Id} {customerId : Option Id}
    {b2bOrgScope : Bool}
    (h : applyCreditNoteAuto db today creditNoteId invoiceId organizationId customerId
      b2bOrgScope = .ok db') : DocumentEffect today db db' := by
  obtain ⟨cn, hcn, h⟩ := bind_eq_ok.mp h
  replace h := ok_of_check h
  replace h := ok_of_check h
  replace h := ok_of_check h
  obtain ⟨inv, hinv, h⟩ := bind_eq_ok.mp h
  obtain ⟨hsent, h⟩ := raiseIf_bind_eq_ok.mp h
  obtain ⟨⟨⟩, hopen, h⟩ := bind_eq_ok.mp h
  obtain ⟨customer, -, h⟩ := bind_eq_ok.mp h
  replace h := ok_of_check h
  obtain ⟨hpos, h⟩ := raiseIf_bind_eq_ok.mp h
  obtain ⟨-, rfl⟩ := recomputeInvoiceProjection_eq_ok.mp h
  have hcn := (getById_eq_some.mp (orRaise_eq_ok.mp hcn)).1
  have hinv := (getById_eq_some.mp (orRaise_eq_ok.mp hinv)).1
  obtain rfl := (Table.find?_eq_some_iff.mp hcn).2
  obtain rfl := (Table.find?_eq_some_iff.mp hinv).2
  have hopen : db.isClosed inv.id = false :=
    Bool.eq_false_iff.mpr (raiseIf_eq_ok.mp hopen)
  exact .creditApplied db _ cn inv _ _ hcn hinv (not_not.mp hsent) hopen
    rfl rfl rfl (not_le.mp hpos) (min_le_left _ _) (min_le_right _ _)
    ⟨rfl, rfl⟩ rfl

theorem createReversalForCreditNoteVoid_effect {cn : CreditNote} {appliedTotal : ℤ}
    {voidReason : String} {result : Db × Invoice}
    (h : createReversalForCreditNoteVoid db today cn appliedTotal voidReason = .ok result) :
    DocumentEffect today db result.1 := by
  replace h := ok_of_check h
  replace h := ok_of_check h
  obtain ⟨created, hcreate, h⟩ := bind_eq_ok.mp h
  obtain rfl := pure_eq_ok.mp h
  obtain ⟨-, hinv, hdb⟩ := createInvoice_ok hcreate
  refine .trans (createInvoice_effect (by decide) hcreate) ?_
  have hfound : created.1.invoices.find? created.2.id = some created.2 := by
    rw [hdb, hinv]
    have hnew := db.invoices.fresh_notMem
    exact (Table.find?_insert hnew _).trans (if_pos rfl)
  have hrewritten : DocumentEffect today created.1 _ := .invoiceRewritten created.1 created.2
    (fun inv => { inv with lineItems :=
      [{ description := reversalLineItemDescription cn.creditNoteNumber appliedTotal
           (strip voidReason)
         quantity := 1
         unitPrice := (splitVatFromGross appliedTotal).1
         totalPrice := (splitVatFromGross appliedTotal).1
         lineType := "service" }] })
    [] (fun _ => rfl) hfound rfl rfl (fun h => h) (fun h => ⟨rfl, h⟩) (by simp)
  rw [List.append_nil] at hrewritten
  exact hrewritten

theorem reverseIfApplied_effect {cn : CreditNote} {appliedTotal : ℤ} {voidReason : String}
    {result : Db × Option Id}
    (h : reverseIfApplied db today cn appliedTotal voidReason = .ok result) :
    DocumentEffect today db result.1 := by
  unfold reverseIfApplied at h
  split at h
  · obtain ⟨created, hcreate, rfl⟩ := map_eq_ok.mp h
    exact createReversalForCreditNoteVoid_effect hcreate
  · obtain rfl := Except.ok.inj h
    exact .refl db

theorem voidCreditNote_effect {creditNoteId organizationId : Id} {reason : Option String}
    (h : voidCreditNote db today creditNoteId organizationId reason = .ok db') :
    DocumentEffect today db db' := by
  obtain ⟨cn, hcn, h⟩ := bind_eq_ok.mp h
  split at h
  · obtain rfl := pure_eq_ok.mp h
    exact .refl db
  replace h := ok_of_check h
  obtain ⟨⟨db₁, reversalInvoiceId⟩, hrev, h⟩ := bind_eq_ok.mp h
  obtain ⟨creditNotes, hupd, h⟩ := bind_eq_ok.mp h
  obtain ⟨-, -, -, -, rfl⟩ := updateById_eq_ok.mp hupd
  obtain rfl := pure_eq_ok.mp h
  refine .trans (reverseIfApplied_effect hrev) (.noteUpdated db₁ cn.id _ ?_ ?_)
  all_goals exact fun _ => rfl

/-- **Every accepted credit note request is a document effect.** -/
theorem CreditNoteOp.exec_effect {op : CreditNoteOp} (h : op.exec db today = .ok db') :
    DocumentEffect today db db' := by
  cases op with
  | create organizationId sourceInvoiceId customerId issueDate amount category reason =>
      exact createCreditNote_effect h
  | applyAuto creditNoteId invoiceId organizationId customerId b2bOrgScope =>
      exact applyCreditNoteAuto_effect h
  | void creditNoteId organizationId reason => exact voidCreditNote_effect h

/-! ### Refund requests -/

/-- Moving a refund on, after issuing a credit note perhaps: it keeps its payment and the
amount requested, and may now have processed all of it. -/
inductive RefundUpdate (today : Day) : Db → Db → Prop
  | refl (db : Db) : RefundUpdate today db db
  | updated (db db₁ : Db) (refund : Refund) (f : Refund → Refund)
      (id : ∀ r, (f r).id = r.id) (note : DocumentEffect today db db₁)
      (found : db.refunds.find? refund.id = some refund)
      (owner : (f refund).billingPaymentId = refund.billingPaymentId)
      (requested : (f refund).requestedAmount = refund.requestedAmount)
      (processed : (f refund).processedAmount = refund.processedAmount ∨
        (f refund).processedAmount = refund.requestedAmount)
      (status : (f refund).status ≠ .reversed) :
      RefundUpdate today db { db₁ with refunds := db₁.refunds.modify refund.id f id }

/-- What a refund request may do: move a refund on, or create one within what is left of
the payment. The amount processed is nothing or all that was requested. -/
inductive RefundEffect (today : Day) : Db → Db → Prop
  | update {db db' : Db} (moved : RefundUpdate today db db') : RefundEffect today db db'
  | created (db : Db) (payment : BillingPayment) (refund : Refund)
      (found : db.payments.find? payment.id = some payment)
      (owner : refund.billingPaymentId = payment.id) (fresh : refund.id = db.refunds.fresh)
      (requested : 0 < refund.requestedAmount)
      (remaining : refund.requestedAmount
        ≤ payment.amount - db.totalNonReversedRefundedForPayment payment.id)
      (processed : refund.processedAmount = 0 ∨
        refund.processedAmount = refund.requestedAmount)
      (status : refund.status ≠ .reversed) :
      RefundEffect today db { db with refunds := db.refunds.insert refund }

/-- What the gateway's answer writes. -/
theorem afterReversal_spec (refund : Refund) (today : Day) (sourceTxnId failedText : String)
    (reversal : TransactionReversalResult) :
    let after := refund.afterReversal today sourceTxnId failedText reversal
    after.id = refund.id ∧ after.billingPaymentId = refund.billingPaymentId ∧
    after.requestedAmount = refund.requestedAmount ∧
    (after.processedAmount = refund.processedAmount ∨
      after.processedAmount = refund.requestedAmount) ∧
    after.status ≠ .reversed := by
  unfold Refund.afterReversal
  by_cases h : reversal.success = true <;> simp [h]

theorem startRefund_ok {sourceTxnId : String} {created refund : Refund}
    (hmethod : created.refundMethod = .cardRefund → created.processedAmount = 0)
    (h : startRefund gateway today sourceTxnId created = .ok refund) :
    refund.id = created.id ∧ refund.billingPaymentId = created.billingPaymentId ∧
    refund.requestedAmount = created.requestedAmount ∧
    (refund.processedAmount = 0 ∨ refund.processedAmount = refund.requestedAmount) ∧
    refund.status ≠ .reversed := by
  unfold startRefund at h
  split at h
  · rename_i hcard
    obtain ⟨reversal, -, rfl⟩ := map_eq_ok.mp h
    obtain ⟨hid, howner, hreq, hproc, hstatus⟩ := afterReversal_spec created today
      sourceTxnId "Braintree refund/void failed" reversal
    rw [hmethod hcard] at hproc
    exact ⟨hid, howner, hreq, hreq.symm ▸ hproc, hstatus⟩
  · obtain rfl := Except.ok.inj h
    unfold Refund.afterManualCreation
    split <;> simp

/-- What `create_refund` has done when it returns: nothing, when the key was used
before, or it stored a refund within what is left of the payment. -/
theorem createRefund_ok {input : RefundInput} (h : createRefund gateway db today input = .ok db') :
    ((db.refundByKey input.organizationId input.idempotencyKey).isSome ∧ db' = db) ∨
    ∃ payment refund,
      ¬ (db.refundByKey input.organizationId input.idempotencyKey).isSome ∧
      db.payments.find? input.billingPaymentId = some payment ∧
      refund.billingPaymentId = payment.id ∧ refund.id = db.refunds.fresh ∧
      refund.requestedAmount = money input.amount ∧ 0 < money input.amount ∧
      money input.amount
        ≤ payment.amount - db.totalNonReversedRefundedForPayment payment.id ∧
      (refund.processedAmount = 0 ∨ refund.processedAmount = refund.requestedAmount) ∧
      refund.status ≠ .reversed ∧
      db' = { db with refunds := db.refunds.insert refund } := by
  obtain ⟨⟨⟩, hpos, h⟩ := bind_eq_ok.mp h
  split at h
  · exact .inl ⟨by assumption, (pure_eq_ok.mp h).symm⟩
  rename_i hkey
  obtain ⟨payment, hpay, h⟩ := bind_eq_ok.mp h
  replace h := ok_of_check h
  replace h := ok_of_check h
  obtain ⟨⟨⟩, hfull, h⟩ := bind_eq_ok.mp h
  obtain ⟨⟨⟩, hpart, h⟩ := bind_eq_ok.mp h
  replace h := ok_of_check h
  replace h := ok_of_check h
  replace h := ok_of_check h
  obtain ⟨refund, hstart, h⟩ := bind_eq_ok.mp h
  obtain rfl := pure_eq_ok.mp h
  have hpay := (getById_eq_some.mp (orRaise_eq_ok.mp hpay)).1
  obtain ⟨hid, howner, hreq, hproc, hstatus⟩ := startRefund_ok
    (by intro hcard; exact if_pos hcard) hstart
  have hpos := not_le.mp (raiseIf_eq_ok.mp hpos)
  -- The two kinds of refund have complementary checks.
  have hremaining : money input.amount
      ≤ payment.amount - db.totalNonReversedRefundedForPayment payment.id := by
    have hfull := raiseIf_eq_ok.mp hfull
    have hpart := raiseIf_eq_ok.mp hpart
    cases hkind : input.refundType with
    | fullRefund => simp only [hkind, true_and, not_not] at hfull; omega
    | partialRefund => simp only [hkind, true_and, not_le] at hpart; omega
  exact .inr ⟨payment, refund, hkey, hpay, howner, hid, hreq, hpos, hremaining, hproc,
    hstatus, rfl⟩

theorem createRefund_effect {input : RefundInput}
    (h : createRefund gateway db today input = .ok db') : RefundEffect today db db' := by
  rcases createRefund_ok h with ⟨-, rfl⟩ | ⟨payment, refund, -, hpay, howner, hid, hreq,
    hpos, hremaining, hproc, hstatus, rfl⟩
  · exact .update (.refl db')
  · have hpid := (Table.find?_eq_some_iff.mp hpay).2
    rw [← hpid] at hpay
    exact .created db payment refund hpay howner hid (hreq ▸ hpos) (hreq ▸ hremaining) hproc
      hstatus

theorem markRefundComplete_update {organizationId refundId : Id} {braintreeStatus : Option String}
    (h : markRefundComplete db today organizationId refundId braintreeStatus = .ok db') :
    RefundUpdate today db db' := by
  obtain ⟨refund, hfound, h⟩ := bind_eq_ok.mp h
  replace h := ok_of_check h
  replace h := ok_of_check h
  obtain ⟨refunds, hupd, h⟩ := bind_eq_ok.mp h
  obtain ⟨-, -, -, -, rfl⟩ := updateById_eq_ok.mp hupd
  obtain rfl := pure_eq_ok.mp h
  have hfound := (getByIdOr404_eq_ok.mp hfound).1
  obtain rfl := (Table.find?_eq_some_iff.mp hfound).2
  refine .updated db db refund _ _ (.refl db) hfound ?_ ?_ (.inr ?_) ?_
  · rfl
  · rfl
  · rfl
  · simp

theorem retried_ok {refund updated : Refund}
    {braintreeStatus failureCode failureMessage : Option String}
    (h : refund.retried gateway today braintreeStatus failureCode failureMessage = .ok updated) :
    updated.billingPaymentId = refund.billingPaymentId ∧
    updated.requestedAmount = refund.requestedAmount ∧
    (updated.processedAmount = refund.processedAmount ∨
      updated.processedAmount = refund.requestedAmount) ∧
    updated.status ≠ .reversed := by
  unfold Refund.retried at h
  split at h
  · obtain rfl := Except.ok.inj h
    exact ⟨rfl, rfl, .inl rfl, by simp [Refund.retryBase]⟩
  · replace h := ok_of_check h
    obtain ⟨reversal, -, h⟩ := bind_eq_ok.mp h
    obtain rfl := pure_eq_ok.mp h
    exact (afterReversal_spec _ today _ _ reversal).2

theorem retryRefund_update {organizationId refundId : Id}
    {braintreeStatus failureCode failureMessage : Option String}
    (h : retryRefund gateway db today organizationId refundId braintreeStatus failureCode
      failureMessage = .ok db') : RefundUpdate today db db' := by
  obtain ⟨refund, hfound, h⟩ := bind_eq_ok.mp h
  replace h := ok_of_check h
  obtain ⟨updated, hretry, h⟩ := bind_eq_ok.mp h
  obtain ⟨refunds, hupd, h⟩ := bind_eq_ok.mp h
  obtain ⟨-, -, -, -, rfl⟩ := updateById_eq_ok.mp hupd
  obtain rfl := pure_eq_ok.mp h
  have hfound := (getByIdOr404_eq_ok.mp hfound).1
  obtain rfl := (Table.find?_eq_some_iff.mp hfound).2
  obtain ⟨howner, hreq, hproc, hstatus⟩ := retried_ok hretry
  exact .updated db db refund _ _ (.refl db) hfound howner hreq hproc hstatus

theorem issueCreditNoteForRefund_update {organizationId refundId : Id} {note : Option String}
    (hpositive : ∀ r ∈ db.refunds.rows, 0 < r.requestedAmount)
    (h : issueCreditNoteForRefund db today organizationId refundId note = .ok db') :
    RefundUpdate today db db' := by
  obtain ⟨refund, hfound, h⟩ := bind_eq_ok.mp h
  replace h := ok_of_check h
  split at h
  · obtain rfl := pure_eq_ok.mp h
    exact .refl db
  obtain ⟨⟨db₁, cn⟩, hnote, h⟩ := bind_eq_ok.mp h
  obtain ⟨refunds, hupd, h⟩ := bind_eq_ok.mp h
  obtain ⟨-, -, -, -, rfl⟩ := updateById_eq_ok.mp hupd
  obtain rfl := pure_eq_ok.mp h
  have hfound := (getByIdOr404_eq_ok.mp hfound).1
  obtain ⟨hmem, rfl⟩ := Table.find?_eq_some_iff.mp hfound
  have heffect := insertCreditNote_effect today (hpositive refund hmem) hnote
  refine .updated db db₁ refund _ _ heffect hfound ?_ ?_ (.inr ?_) ?_
  · rfl
  · rfl
  · rfl
  · simp

/-- **Every accepted refund request is a refund effect.** -/
theorem RefundOp.exec_effect {op : RefundOp}
    (hpositive : ∀ r ∈ db.refunds.rows, 0 < r.requestedAmount) (h : op.exec db today = .ok db') :
    RefundEffect today db db' := by
  cases op with
  | create gateway input => exact createRefund_effect h
  | markComplete organizationId refundId braintreeStatus =>
      exact .update (markRefundComplete_update h)
  | retry gateway organizationId refundId braintreeStatus failureCode failureMessage =>
      exact .update (retryRefund_update h)
  | issueCreditNote organizationId refundId note =>
      exact .update (issueCreditNoteForRefund_update hpositive h)

/-! ### Billing requests -/

/-- A request to the billing side of the back end. -/
inductive BillingOp where
  | payment (op : PaymentOp)
  | invoice (op : InvoiceOp)
  | creditNote (op : CreditNoteOp)
  | refund (op : RefundOp)

/-- Serve a request on a given day. -/
def BillingOp.exec (db : Db) (today : Day) : BillingOp → Except ServiceError Db
  | .payment op => op.exec db today
  | .invoice op => op.exec db today
  | .creditNote op => op.exec db today
  | .refund op => op.exec db today

/-- Serve a dated request; a call that raises is rolled back. -/
def BillingOp.step (db : Db) (request : Day × BillingOp) : Db :=
  settle db (request.2.exec db request.1)

/-- **Every accepted request is one of the three kinds of effect.** -/
theorem BillingOp.exec_cases {op : BillingOp}
    (hpositive : ∀ r ∈ db.refunds.rows, 0 < r.requestedAmount) (h : op.exec db today = .ok db') :
    PaymentEffect today db db' ∨ DocumentEffect today db db' ∨ RefundEffect today db db' := by
  cases op with
  | payment op => exact .inl (PaymentOp.exec_effect h)
  | invoice op => exact .inr (.inl (InvoiceOp.exec_effect h))
  | creditNote op => exact .inr (.inl (CreditNoteOp.exec_effect h))
  | refund op => exact .inr (.inr (RefundOp.exec_effect hpositive h))

/-- So is every served request: one that raised did nothing. -/
theorem BillingOp.step_cases (hpositive : ∀ r ∈ db.refunds.rows, 0 < r.requestedAmount)
    (request : Day × BillingOp) : let db' := BillingOp.step db request
    PaymentEffect request.1 db db' ∨ DocumentEffect request.1 db db' ∨
      RefundEffect request.1 db db' := by
  rcases settle_eq db (request.2.exec db request.1) with hok | heq
  · exact BillingOp.exec_cases hpositive hok
  · dsimp only
    rw [BillingOp.step, heq]
    exact .inl (.refl db)

end SwCouriers
