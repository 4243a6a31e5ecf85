import SwCouriers.ClosedInvoices
import SwCouriers.VoidedPayments

/-!
# Allocations Within an Organisation

A payment belongs to one organisation for good. So does an invoice from the day it is sent:
only a draft may be given to another one, and drafts receive no allocations. Every write of an
allocation looks its invoice up in the payment's organisation, so money never moves from one
organisation to another, and what a payment funds can be looked up again whenever it is
rewritten.

## Main results

* `keepsOwners_exec`: what an accepted request does to the organisations of payments and of
  sent invoices, and to the rows between them.
* `ownRows_run`: after every run, each allocation is from a payment to a sent invoice of the
  payment's organisation.
-/

namespace SwCouriers

open Checked

/-! ### Sent invoices -/

/-- Sent invoices are sent invoices of the same organisation still. -/
def KeepsSent (t t' : TableOf Invoice) : Prop :=
  ∀ i inv, t.find? i = some inv → inv.status = .sent →
    ∃ inv', t'.find? i = some inv' ∧ inv'.status = .sent ∧
      inv'.organizationId = inv.organizationId

theorem KeepsSent.refl (t : TableOf Invoice) : KeepsSent t t :=
  fun _ inv hinv hsent => ⟨inv, hinv, hsent, rfl⟩

theorem KeepsSent.trans {t t₁ t₂ : TableOf Invoice} (h : KeepsSent t t₁)
    (h' : KeepsSent t₁ t₂) : KeepsSent t t₂ := by
  intro i inv hinv hsent
  obtain ⟨inv₁, hinv₁, hsent₁, horg₁⟩ := h i inv hinv hsent
  obtain ⟨inv₂, hinv₂, hsent₂, horg₂⟩ := h' i inv₁ hinv₁ hsent₁
  exact ⟨inv₂, hinv₂, hsent₂, horg₂.trans horg₁⟩

theorem keepsSent_insert {t : TableOf Invoice} {inv : Invoice} (hfresh : inv.id = t.fresh) :
    KeepsSent t (t.insert inv) := by
  have hnew : inv.id ∉ t.rows.map Invoice.id := hfresh ▸ t.fresh_notMem
  intro i old hold hsent
  have hne : ¬ inv.id = i := by
    rintro rfl
    exact hnew (List.mem_map.mpr ⟨old, Table.find?_eq_some_iff.mp hold⟩)
  exact ⟨old, (Table.find?_insert hnew i).trans ((if_neg hne).trans hold), hsent, rfl⟩

/-- A row is rewritten; if it was a sent invoice, as one of the same organisation. -/
theorem keepsSent_modify {t : TableOf Invoice} {inv : Invoice}
    (hfound : t.find? inv.id = some inv) {f : Invoice → Invoice} (hid : ∀ i, (f i).id = i.id)
    (hf : inv.status = .sent →
      (f inv).status = .sent ∧ (f inv).organizationId = inv.organizationId) :
    KeepsSent t (t.modify inv.id f hid) := by
  intro i old hold hsent
  rw [Table.find?_modify, hold]
  split_ifs with hi
  · rw [hi, hfound] at hold
    obtain rfl := Option.some.inj hold
    exact ⟨f inv, rfl, hf hsent⟩
  · exact ⟨old, rfl, hsent, rfl⟩

theorem keepsSent_reproject (db : Db) (today : Day) (ids : List Id) :
    KeepsSent db.invoices (db.reproject today ids) := by
  intro i inv hinv hsent
  rw [find?_reproject, hinv]
  refine ⟨_, rfl, ?_⟩
  split_ifs <;> exact ⟨hsent, rfl⟩

variable {db db' : Db} {today : Day} {payment : BillingPayment}

theorem keepsSent_recompute {invoiceId : Id}
    (h : recomputeInvoiceProjection today db invoiceId = .ok db') :
    KeepsSent db.invoices db'.invoices := by
  obtain ⟨-, rfl⟩ := recomputeInvoiceProjection_eq_ok.mp h
  exact keepsSent_reproject db today [invoiceId]

theorem keepsSent_createInvoice {status : InvoiceStatus} {events : List InvoiceEventType}
    {input : InvoiceInput} {result : Db × Invoice}
    (h : createInvoice db today status events input = .ok result) :
    KeepsSent db.invoices result.1.invoices := by
  obtain ⟨-, -, hdb⟩ := createInvoice_ok h
  rw [hdb]
  exact keepsSent_insert rfl

theorem keepsSent_invoiceOp {op : InvoiceOp} (h : op.exec db today = .ok db') :
    KeepsSent db.invoices db'.invoices := by
  have hclosed : ∀ {outcome : InvoiceEventType} {text reason : String} {invoiceId : Id}
      {organizationId : Option Id}, closeInvoice outcome text db today invoiceId reason
        organizationId = .ok db' → KeepsSent db.invoices db'.invoices := by
    intro outcome text reason invoiceId organizationId h
    obtain ⟨invoice, hfound, -, h⟩ := closeInvoice_ok h
    obtain rfl := (Table.find?_eq_some_iff.mp hfound).2
    have hkeeps := keepsSent_modify hfound (f := fun inv => { inv with
      updatedAt := today, version := invoice.version + 1 }) (fun _ => rfl)
      fun hsent => ⟨hsent, rfl⟩
    exact hkeeps.trans (keepsSent_recompute h)
  cases op with
  | createDraft input =>
      obtain ⟨result, hcreate, rfl⟩ := map_eq_ok.mp h
      exact keepsSent_createInvoice hcreate
  | createAndFinalize input =>
      obtain ⟨result, hcreate, rfl⟩ := map_eq_ok.mp h
      exact keepsSent_createInvoice hcreate
  | updateDraft invoiceId data organizationId =>
      obtain ⟨invoice, _, hfound, -, hdraft, rfl, h⟩ := updateDraft_ok h
      obtain rfl := (Table.find?_eq_some_iff.mp hfound).2
      have hkeeps := keepsSent_modify hfound (f := fun inv => { data.apply inv with
        updatedAt := today, version := invoice.version + 1 }) (fun _ => rfl) fun hsent => by
          rw [hdraft] at hsent
          exact absurd hsent (by decide)
      rcases h with h | ⟨-, rfl⟩
      · exact hkeeps.trans (keepsSent_recompute h)
      · exact hkeeps
  | finalize invoiceId organizationId =>
      obtain rfl | ⟨invoice, hfound, rfl⟩ := finalize_ok h
      · exact .refl _
      obtain rfl := (Table.find?_eq_some_iff.mp hfound).2
      refine keepsSent_modify hfound ?_ fun _ => ⟨rfl, rfl⟩
      exact fun _ => rfl
  | void invoiceId reason organizationId => exact hclosed h
  | writeOff invoiceId reason organizationId => exact hclosed h

theorem insertCreditNote_frame {organizationId customerId sourceInvoiceId : Option Id}
    {issueDate : Day} {amount : ℤ} {reasonCategory : String} {reason : Option String}
    {result : Db × CreditNote}
    (h : insertCreditNote db organizationId customerId sourceInvoiceId issueDate amount
      reasonCategory reason = .ok result) :
    result.1.invoices = db.invoices ∧ result.1.payments = db.payments ∧
      result.1.allocations = db.allocations := by
  replace h := ok_of_check h
  obtain rfl := pure_eq_ok.mp h
  exact ⟨rfl, rfl, rfl⟩

theorem keepsSent_creditNoteOp {op : CreditNoteOp} (h : op.exec db today = .ok db') :
    KeepsSent db.invoices db'.invoices := by
  cases op with
  | create organizationId sourceInvoiceId customerId issueDate amount category reason =>
      replace h := ok_of_check h
      replace h := ok_of_check h
      obtain ⟨source, -, h⟩ := bind_eq_ok.mp h
      obtain ⟨result, hins, h⟩ := bind_eq_ok.mp h
      obtain rfl := pure_eq_ok.mp h
      rw [(insertCreditNote_frame hins).1]
      exact .refl _
  | applyAuto creditNoteId invoiceId organizationId customerId b2bOrgScope =>
      obtain ⟨cn, -, h⟩ := bind_eq_ok.mp h
      replace h := ok_of_check h
      replace h := ok_of_check h
      replace h := ok_of_check h
      obtain ⟨inv, -, h⟩ := bind_eq_ok.mp h
      replace h := ok_of_check h
      replace h := ok_of_check h
      obtain ⟨customer, -, h⟩ := bind_eq_ok.mp h
      replace h := ok_of_check h
      replace h := ok_of_check h
      have hkeeps := keepsSent_recompute h
      exact hkeeps
  | void creditNoteId organizationId reason =>
      obtain ⟨cn, -, h⟩ := bind_eq_ok.mp h
      split at h
      · obtain rfl := pure_eq_ok.mp h
        exact .refl _
      replace h := ok_of_check h
      obtain ⟨⟨db₁, reversalInvoiceId⟩, hrev, h⟩ := bind_eq_ok.mp h
      obtain ⟨creditNotes, hupd, h⟩ := bind_eq_ok.mp h
      obtain rfl := pure_eq_ok.mp h
      unfold reverseIfApplied at hrev
      split at hrev
      · -- The reversal is a new invoice, whose line is written after it.
        obtain ⟨reversal, hreversal, hdb⟩ := map_eq_ok.mp hrev
        replace hreversal := ok_of_check hreversal
        replace hreversal := ok_of_check hreversal
        obtain ⟨created, hcreate, hreversal⟩ := bind_eq_ok.mp hreversal
        obtain rfl := pure_eq_ok.mp hreversal
        obtain ⟨rfl, -⟩ := Prod.mk.inj hdb
        obtain ⟨-, hinv, hcreated⟩ := createInvoice_ok hcreate
        have hfound : created.1.invoices.find? created.2.id = some created.2 := by
          rw [hcreated, hinv]
          exact (Table.find?_insert db.invoices.fresh_notMem _).trans (if_pos rfl)
        refine (keepsSent_createInvoice hcreate).trans
          (keepsSent_modify hfound ?_ fun hsent => ⟨hsent, rfl⟩)
        exact fun _ => rfl
      · obtain ⟨rfl, -⟩ := Prod.mk.inj (Except.ok.inj hrev)
        exact .refl _

/-- A refund moves no money that is allocated. -/
theorem refundOp_frame {op : RefundOp} (h : op.exec db today = .ok db') :
    db'.invoices = db.invoices ∧ db'.payments = db.payments ∧
      db'.allocations = db.allocations := by
  cases op with
  | create gateway input =>
      rcases createRefund_ok h with ⟨-, rfl⟩ | ⟨_, _, -, -, -, -, -, -, -, -, -, rfl⟩ <;>
        exact ⟨rfl, rfl, rfl⟩
  | markComplete organizationId refundId braintreeStatus =>
      obtain ⟨refund, -, h⟩ := bind_eq_ok.mp h
      replace h := ok_of_check h
      replace h := ok_of_check h
      obtain ⟨refunds, -, h⟩ := bind_eq_ok.mp h
      obtain rfl := pure_eq_ok.mp h
      exact ⟨rfl, rfl, rfl⟩
  | retry gateway organizationId refundId braintreeStatus failureCode failureMessage =>
      obtain ⟨refund, -, h⟩ := bind_eq_ok.mp h
      replace h := ok_of_check h
      obtain ⟨updated, -, h⟩ := bind_eq_ok.mp h
      obtain ⟨refunds, -, h⟩ := bind_eq_ok.mp h
      obtain rfl := pure_eq_ok.mp h
      exact ⟨rfl, rfl, rfl⟩
  | issueCreditNote organizationId refundId note =>
      obtain ⟨refund, -, h⟩ := bind_eq_ok.mp h
      replace h := ok_of_check h
      split at h
      · obtain rfl := pure_eq_ok.mp h
        exact ⟨rfl, rfl, rfl⟩
      obtain ⟨⟨db₁, cn⟩, hnote, h⟩ := bind_eq_ok.mp h
      obtain ⟨refunds, -, h⟩ := bind_eq_ok.mp h
      obtain rfl := pure_eq_ok.mp h
      exact insertCreditNote_frame hnote

/-! ### Payments -/

/-- Payments stay with their organisation. -/
def KeepsPayers (t t' : TableOf BillingPayment) : Prop :=
  ∀ id p, t.find? id = some p →
    ∃ p', t'.find? id = some p' ∧ p'.organizationId = p.organizationId

theorem KeepsPayers.refl (t : TableOf BillingPayment) : KeepsPayers t t :=
  fun _ p hp => ⟨p, hp, rfl⟩

theorem KeepsPayers.trans {t t₁ t₂ : TableOf BillingPayment} (h : KeepsPayers t t₁)
    (h' : KeepsPayers t₁ t₂) : KeepsPayers t t₂ := by
  intro id p hp
  obtain ⟨p₁, hp₁, horg₁⟩ := h id p hp
  obtain ⟨p₂, hp₂, horg₂⟩ := h' id p₁ hp₁
  exact ⟨p₂, hp₂, horg₂.trans horg₁⟩

theorem keepsPayers_modify {t : TableOf BillingPayment} (hfound : t.find? payment.id = some payment)
    {f : BillingPayment → BillingPayment} (hid : ∀ p, (f p).id = p.id)
    (hf : (f payment).organizationId = payment.organizationId) :
    KeepsPayers t (t.modify payment.id f hid) := by
  intro id p hp
  rw [Table.find?_modify, hp]
  split_ifs with hi
  · rw [hi, hfound] at hp
    obtain rfl := Option.some.inj hp
    exact ⟨f payment, rfl, hf⟩
  · exact ⟨p, rfl, rfl⟩

/-- The row is from a payment to a sent invoice of the payment's organisation. -/
def Db.OwnsRow (db : Db) (a : BillingPaymentAllocation) : Prop :=
  ∃ p inv, db.payments.find? a.paymentId = some p ∧
    invById db p.organizationId a.invoiceId = some inv ∧ inv.status = .sent

/-- An owned row stays owned. -/
theorem Db.OwnsRow.of_keeps {a : BillingPaymentAllocation} (ha : db.OwnsRow a)
    (hpayers : KeepsPayers db.payments db'.payments) (hsent : KeepsSent db.invoices db'.invoices) :
    db'.OwnsRow a := by
  obtain ⟨p, inv, hp, hinv, hstatus⟩ := ha
  obtain ⟨hfound, horg⟩ := invById_eq_some.mp hinv
  obtain ⟨p', hp', hporg⟩ := hpayers _ p hp
  obtain ⟨inv', hinv', hstatus', hiorg⟩ := hsent _ inv hfound hstatus
  exact ⟨p', inv', hp', invById_eq_some.mpr ⟨hinv', by rw [hiorg, horg, hporg]⟩, hstatus'⟩

/-- What a request does to owners: payments and sent invoices keep theirs, and every
allocation that it adds is within one organisation. -/
structure KeepsOwners (db db' : Db) : Prop where
  payers : KeepsPayers db.payments db'.payments
  sent : KeepsSent db.invoices db'.invoices
  rows : ∀ a ∈ db'.allocations.rows, a ∈ db.allocations.rows ∨ db'.OwnsRow a

theorem KeepsOwners.refl (db : Db) : KeepsOwners db db :=
  ⟨.refl _, .refl _, fun _ ha => .inl ha⟩

theorem KeepsOwners.trans {db₁ db₂ : Db} (h : KeepsOwners db db₁) (h' : KeepsOwners db₁ db₂) :
    KeepsOwners db db₂ where
  payers := h.payers.trans h'.payers
  sent := h.sent.trans h'.sent
  rows a ha := by
    rcases h'.rows a ha with hmem | hown
    · exact (h.rows a hmem).imp_right fun hown => hown.of_keeps h'.payers h'.sent
    · exact .inr hown

theorem keepsOwners_of_allocations_eq (ha : db'.allocations = db.allocations)
    (hp : KeepsPayers db.payments db'.payments) (hi : KeepsSent db.invoices db'.invoices) :
    KeepsOwners db db' :=
  ⟨hp, hi, fun _ hmem => .inl (ha ▸ hmem)⟩

theorem keepsOwners_createPayment {organizationId : Id} {amount transactionFee : ℤ}
    {paymentDate : Day} {status : PaymentRecordStatus} {provider : PaymentProvider}
    {providerTxnId : Option String}
    (h : createPayment db organizationId amount transactionFee paymentDate status provider
      providerTxnId = .ok db') : KeepsOwners db db' := by
  replace h := ok_of_check h
  obtain rfl := pure_eq_ok.mp h
  refine keepsOwners_of_allocations_eq rfl (fun id p hp => ⟨p, ?_, rfl⟩) (.refl _)
  have hne : ¬ db.payments.fresh = id := by
    rintro rfl
    rw [find?_fresh] at hp
    exact Option.some_ne_none _ hp.symm
  rw [Table.find?_insert db.payments.fresh_notMem]
  exact (if_neg hne).trans hp

theorem keepsOwners_recordPayment {input : PaymentInput} (h : recordPayment db input = .ok db') :
    KeepsOwners db db' := by
  replace h := ok_of_check h
  replace h := ok_of_check h
  replace h := ok_of_check h
  replace h := ok_of_check h
  exact keepsOwners_createPayment h

/-- The end of an allocation write, all of whose new rows are within the organisation. -/
theorem keepsOwners_commitAllocations {db₁ : Db} (hpay : Allocatable db payment.id payment)
    (hframe : db₁ = { db with allocations := db₁.allocations })
    (hrows : ∀ a ∈ db₁.allocations.rows, a ∈ db.allocations.rows ∨ db.OwnsRow a)
    (touched : List Id) : KeepsOwners db (db₁.commitAllocations today payment touched) := by
  have hpayments : db₁.payments = db.payments := by rw [hframe]
  have hinvoices : db₁.invoices = db.invoices := by rw [hframe]
  have hsent := keepsSent_reproject db₁ today touched
  rw [hinvoices] at hsent
  have hpayers : KeepsPayers db.payments
      (db₁.payments.modify payment.id (BillingPayment.projected db₁)
        (BillingPayment.projected_id db₁)) := by
    rw [hpayments]
    exact keepsPayers_modify hpay.found (BillingPayment.projected_id db₁) rfl
  exact ⟨hpayers, hsent, fun a ha => (hrows a ha).imp_right fun hown =>
    hown.of_keeps hpayers hsent⟩

/-- A row of the payload is one to a sent invoice of the organisation. -/
theorem ownsRow_of_named (hpay : Allocatable db payment.id payment)
    {rows : List NormalizedAllocation}
    (hsent : ∀ row ∈ rows, ∃ inv, invById db payment.organizationId row.invoiceId = some inv ∧
      inv.status = .sent) {a : BillingPaymentAllocation}
    (ha : ∃ row ∈ rows, a.paymentId = payment.id ∧ a.invoiceId = row.invoiceId ∧
      a.allocatedAmount = row.allocatedAmount) : db.OwnsRow a := by
  obtain ⟨row, hrow, hp, hi, -⟩ := ha
  obtain ⟨inv, hinv, hstatus⟩ := hsent row hrow
  exact ⟨payment, inv, hp ▸ hpay.found, hi ▸ hinv, hstatus⟩

theorem keepsOwners_addOrReviseAllocations {paymentId : Id} {allocations : List AllocationInput}
    (h : addOrReviseAllocations db today paymentId allocations = .ok db') : KeepsOwners db db' := by
  obtain ⟨payment, rows, hpay, -, hnamed, -, rfl⟩ := addOrReviseAllocations_ok h
  obtain rfl := hpay.id_eq
  have hsent : ∀ row ∈ rows, ∃ inv,
      invById db payment.organizationId row.invoiceId = some inv ∧ inv.status = .sent := by
    intro row hrow
    obtain ⟨inv, hinv, hstatus, -⟩ := hnamed row hrow
    exact ⟨inv, hinv, hstatus⟩
  exact keepsOwners_commitAllocations hpay (insertAllocations_frame _ _ _)
    (fun a ha => (mem_insertAllocations ha).imp_right (ownsRow_of_named hpay hsent)) _

theorem keepsOwners_applyAllocationTargets (hpay : Allocatable db payment.id payment)
    {targetMap : List NormalizedAllocation}
    (h : applyAllocationTargets db today payment targetMap = .ok db') : KeepsOwners db db' := by
  rcases applyAllocationTargets_ok hpay h with ⟨rfl, -⟩ | ⟨hnamed, -, rfl⟩
  · exact .refl db'
  have hsent : ∀ row ∈ targetMap, ∃ inv,
      invById db payment.organizationId row.invoiceId = some inv ∧ inv.status = .sent := by
    intro row hrow
    obtain ⟨inv, hinv, hstatus, -⟩ := hnamed row hrow
    exact ⟨inv, hinv, hstatus⟩
  have hframe : (db.deleteAllocations payment.id).insertAllocations payment.id targetMap
      = { db with allocations := ((db.deleteAllocations payment.id).insertAllocations payment.id
          targetMap).allocations } := insertAllocations_frame _ _ _
  refine keepsOwners_commitAllocations hpay hframe (fun a ha => ?_) _
  exact (mem_insertAllocations ha).imp (fun hold => (Table.mem_deleteWhere_iff.mp hold).1)
    (ownsRow_of_named hpay hsent)

theorem keepsOwners_paymentOp {op : PaymentOp} (h : op.exec db today = .ok db') :
    KeepsOwners db db' := by
  cases op with
  | recordPayment input => exact keepsOwners_recordPayment h
  | createPendingPayment organizationId amount paymentDate provider =>
      replace h := ok_of_check h
      exact keepsOwners_createPayment h
  | recordPaymentWithAllocations input allocations =>
      obtain ⟨db₁, hrec, h⟩ := bind_eq_ok.mp h
      have hkeeps := keepsOwners_recordPayment hrec
      split at h
      · obtain rfl := pure_eq_ok.mp h
        exact hkeeps
      · exact hkeeps.trans (keepsOwners_addOrReviseAllocations h)
  | addOrReviseAllocations paymentId allocations => exact keepsOwners_addOrReviseAllocations h
  | replaceAllocations paymentId allocations =>
      obtain ⟨payment, rows, hpay, -, happly⟩ := replaceAllocations_ok h
      obtain rfl := hpay.id_eq
      exact keepsOwners_applyAllocationTargets hpay happly
  | removeAllocation paymentId invoiceId =>
      obtain ⟨payment, invoiceKey, hpay, -, happly⟩ := removeAllocation_ok h
      obtain rfl := hpay.id_eq
      exact keepsOwners_applyAllocationTargets hpay happly
  | voidPayment organizationId paymentId expectedVersion =>
      rcases voidPayment_ok h with rfl | ⟨payment, version, hfound, -, -, rfl⟩
      · exact .refl db'
      · refine keepsOwners_of_allocations_eq rfl (keepsPayers_modify hfound ?_ rfl) (.refl _)
        exact fun _ => rfl
  | markPaymentStatus organizationId paymentId toStatus providerTxnId transactionFee =>
      obtain ⟨payment, fee, hfound, -, -, -, -, -, rfl⟩ := markPaymentStatus_ok h
      refine keepsOwners_of_allocations_eq rfl (keepsPayers_modify hfound ?_ rfl) (.refl _)
      exact fun _ => rfl

/-! ### Runs -/

/-- **What an accepted request does to owners.** -/
theorem keepsOwners_exec {op : BillingOp} (h : op.exec db today = .ok db') :
    KeepsOwners db db' := by
  cases op with
  | payment op => exact keepsOwners_paymentOp h
  | invoice op =>
      obtain ⟨hpayments, hallocations, -⟩ := (InvoiceOp.exec_effect h).frame
      exact keepsOwners_of_allocations_eq hallocations (hpayments ▸ .refl _)
        (keepsSent_invoiceOp h)
  | creditNote op =>
      obtain ⟨hpayments, hallocations, -⟩ := (CreditNoteOp.exec_effect h).frame
      exact keepsOwners_of_allocations_eq hallocations (hpayments ▸ .refl _)
        (keepsSent_creditNoteOp h)
  | refund op =>
      obtain ⟨hinvoices, hpayments, hallocations⟩ := refundOp_frame h
      exact keepsOwners_of_allocations_eq hallocations (hpayments ▸ .refl _)
        (hinvoices ▸ .refl _)

/-- Every allocation is from a payment to a sent invoice of the payment's organisation. -/
def Db.OwnRows (db : Db) : Prop := ∀ a ∈ db.allocations.rows, db.OwnsRow a

theorem KeepsOwners.ownRows (h : KeepsOwners db db') (hrows : db.OwnRows) : db'.OwnRows := by
  intro a ha
  rcases h.rows a ha with hold | hown
  · exact (hrows a hold).of_keeps h.payers h.sent
  · exact hown

theorem ownRows_step (hrows : db.OwnRows) (request : Day × BillingOp) :
    (BillingOp.step db request).OwnRows := by
  rcases settle_eq db (request.2.exec db request.1) with hok | heq
  · exact KeepsOwners.ownRows (keepsOwners_exec hok) hrows
  · rw [BillingOp.step, heq]
    exact hrows

/-- **Allocations stay within an organisation**, whatever requests were served. -/
theorem ownRows_run (users : TableOf User) (requests : List (Day × BillingOp)) :
    (Runs.run BillingOp.step (Db.initial users) requests).OwnRows := by
  exact Runs.run_invariant (I := Db.OwnRows) (fun _ request h => ownRows_step h request)
    (by simp [Db.OwnRows, Db.initial]) requests

end SwCouriers
