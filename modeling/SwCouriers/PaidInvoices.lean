import SwCouriers.BillingInvariant

/-!
# Invoices Stored as Paid

The payment status of an invoice is stored, and listings choose by what is stored. A request
that changes the total of a draft or what is set against an invoice recomputes the status, so an
invoice that is stored as paid has nothing left to pay. Between the write and the recomputation
this fails for the invoices just written, which `PaidSettledBut` leaves out.

## Main results

* `PaidSettledBut.reprojected`: recomputing the statuses of the invoices left out closes the gap.
* `InvoiceOp.exec_paidSettled`, `CreditNoteOp.exec_paidSettled`, `PaymentEffect.paidSettled`,
  `RefundOp.exec_sameLedger`: what the requests keep.
* `paidSettled_run`: **after every run, what is stored as paid is paid**.
-/

namespace SwCouriers

open Checked

/-! ### What is set against an invoice -/

/-- What is set against an invoice: its allocations and its credits. -/
def Db.settledTotal (db : Db) (i : Id) : ℤ :=
  db.totalAllocatedForInvoice i + db.getAppliedTotalForInvoice i

/-- An invoice that is stored as paid has nothing left to pay, the listed ones left out. -/
def PaidSettledBut (ids : List Id) (db : Db) : Prop :=
  ∀ inv ∈ db.invoices.rows, inv.id ∉ ids → inv.paymentStatus = .paid →
    inv.total ≤ db.settledTotal inv.id

/-- An invoice that is stored as paid has nothing left to pay. -/
abbrev PaidSettled (db : Db) : Prop := PaidSettledBut [] db

/-- Nothing that the invariant is about has changed. -/
structure SameLedger (db db' : Db) : Prop where
  invoices : db'.invoices = db.invoices
  allocations : db'.allocations = db.allocations
  creditApplications : db'.creditApplications = db.creditApplications

theorem SameLedger.refl (db : Db) : SameLedger db db := ⟨rfl, rfl, rfl⟩

theorem SameLedger.settledTotal {db db' : Db} (h : SameLedger db db') (i : Id) :
    db'.settledTotal i = db.settledTotal i := by
  rw [Db.settledTotal, Db.totalAllocatedForInvoice, Db.getAppliedTotalForInvoice,
    h.allocations, h.creditApplications]
  rfl

/-! ### Writes -/

section Writes

variable {db db' : Db} {ids : List Id}

/-- Rows that are stored as paid came from such rows with the same total, and no less is set
against the invoices. -/
theorem PaidSettledBut.moved (h : PaidSettled db)
    (hrows : ∀ inv' ∈ db'.invoices.rows, inv'.id ∉ ids → inv'.paymentStatus = .paid →
      ∃ inv ∈ db.invoices.rows, inv.id = inv'.id ∧ inv.paymentStatus = .paid ∧
        inv.total = inv'.total)
    (hsums : ∀ i, i ∉ ids → db.settledTotal i ≤ db'.settledTotal i) :
    PaidSettledBut ids db' := by
  intro inv' hinv' hids hpaid
  obtain ⟨inv, hinv, hid, hstored, htotal⟩ := hrows inv' hinv' hids hpaid
  rw [← htotal]
  refine le_trans (h inv hinv List.not_mem_nil hstored) ?_
  rw [hid]
  exact hsums inv'.id hids

theorem PaidSettled.same (h : PaidSettled db) (hsame : SameLedger db db') : PaidSettled db' :=
  PaidSettledBut.moved h
    (fun inv hinv _ hpaid => ⟨inv, hsame.invoices ▸ hinv, rfl, hpaid, rfl⟩)
    fun i _ => (hsame.settledTotal i).ge

/-- What was computed as paid has nothing left. -/
theorem total_le_of_computePaymentStatus {inv : Invoice} {paid credit : ℤ}
    {outcome : Option InvoiceEventType} {today : Day}
    (h : computePaymentStatus inv paid credit outcome today = .paid) :
    inv.total ≤ paid + credit := by
  unfold computePaymentStatus at h
  dsimp only at h
  split_ifs at h with hvoid hwritten hbalance
  omega

/-- **Recomputing the statuses of the invoices that were left out closes the gap.** -/
theorem PaidSettledBut.reprojected (h : PaidSettledBut ids db) {today : Day}
    (hdb : db' = { db with invoices := db.reproject today ids }) : PaidSettled db' := by
  subst hdb
  intro inv hinv _ hpaid
  obtain ⟨inv₀, hinv₀, rfl⟩ := List.mem_map.mp hinv
  by_cases hids : inv₀.id ∈ ids
  · rw [if_pos hids] at hpaid ⊢
    exact total_le_of_computePaymentStatus hpaid
  · rw [if_neg hids] at hpaid ⊢
    exact h inv₀ hinv₀ hids hpaid

/-- Rewriting a row leaves it out. -/
theorem PaidSettled.rewritten (h : PaidSettled db) {id : Id} {f : Invoice → Invoice}
    (hrows : db'.invoices.rows =
      db.invoices.rows.map fun i => if Entity.id i = id then f i else i)
    (hid : ∀ i, Entity.id (f i) = Entity.id i)
    (hsums : ∀ i, db'.settledTotal i = db.settledTotal i) : PaidSettledBut [id] db' := by
  refine PaidSettledBut.moved h (fun inv' hinv' hids hpaid => ?_) fun i _ => (hsums i).ge
  rw [hrows] at hinv'
  obtain ⟨inv, hinv, rfl⟩ := List.mem_map.mp hinv'
  by_cases hkey : Entity.id inv = id
  · rw [if_pos hkey] at hids
    exact absurd (List.mem_singleton.mpr ((hid inv).trans hkey)) hids
  · rw [if_neg hkey] at hpaid ⊢
    exact ⟨inv, hinv, rfl, hpaid, rfl⟩

/-- Rewriting a row outside its total and its status leaves nothing out. -/
theorem PaidSettled.touched (h : PaidSettled db) {id : Id} {f : Invoice → Invoice}
    (hrows : db'.invoices.rows =
      db.invoices.rows.map fun i => if Entity.id i = id then f i else i)
    (hid : ∀ i, Entity.id (f i) = Entity.id i)
    (hsums : ∀ i, db'.settledTotal i = db.settledTotal i)
    (hkeep : ∀ i, (f i).paymentStatus = i.paymentStatus ∧ (f i).total = i.total) :
    PaidSettled db' := by
  refine PaidSettledBut.moved h (fun inv' hinv' _ hpaid => ?_) fun i _ => (hsums i).ge
  rw [hrows] at hinv'
  obtain ⟨inv, hinv, rfl⟩ := List.mem_map.mp hinv'
  by_cases hkey : Entity.id inv = id
  · rw [if_pos hkey] at hpaid ⊢
    exact ⟨inv, hinv, (hid inv).symm, (hkeep inv).1.symm.trans hpaid, (hkeep inv).2.symm⟩
  · rw [if_neg hkey] at hpaid ⊢
    exact ⟨inv, hinv, rfl, hpaid, rfl⟩

end Writes

/-! ### Requests -/

section Requests

variable {db db' : Db} {today : Day}

theorem createInvoice_paidSettled {status : InvoiceStatus} {events : List InvoiceEventType}
    {input : InvoiceInput} {result : Db × Invoice} (h : PaidSettled db)
    (hc : createInvoice db today status events input = .ok result) : PaidSettled result.1 := by
  obtain ⟨-, -, hdb⟩ := createInvoice_ok hc
  rw [hdb]
  refine PaidSettledBut.moved h (fun inv hinv _ hpaid => ?_) fun i _ => le_refl _
  rw [Table.rows_insert_of_notMem db.invoices.fresh_notMem, List.mem_append,
    List.mem_singleton] at hinv
  rcases hinv with hinv | rfl
  · exact ⟨inv, hinv, rfl, hpaid, rfl⟩
  · -- A new invoice is stored as unpaid.
    exact absurd hpaid (by simp [newInvoice])

variable {invoiceId : Id} {organizationId : Option Id}

/-- A draft whose total was not sent keeps it; one whose amounts were is recomputed. -/
theorem updateDraft_paidSettled {data : InvoiceUpdate} (h : PaidSettled db)
    (hu : updateDraft db today invoiceId data organizationId = .ok db') : PaidSettled db' := by
  obtain ⟨invoice, _, -, -, -, rfl, hu | ⟨hamounts, rfl⟩⟩ := updateDraft_ok hu
  · obtain ⟨-, hdb⟩ := recomputeInvoiceProjection_eq_ok.mp hu
    refine PaidSettledBut.reprojected ?_ hdb
    exact h.rewritten rfl (fun _ => rfl) fun _ => rfl
  · have htotal : data.total = none := by
      simp only [InvoiceUpdate.changesAmounts, Bool.or_eq_false_iff,
        Option.isSome_eq_false_iff, Option.isNone_iff_eq_none] at hamounts
      exact hamounts.1.2
    refine h.touched rfl (fun _ => rfl) (fun _ => rfl) fun inv => ⟨rfl, ?_⟩
    change (data.total.map money).getD inv.total = inv.total
    rw [htotal]
    rfl

theorem finalize_paidSettled (h : PaidSettled db)
    (hf : finalize db today invoiceId organizationId = .ok db') : PaidSettled db' := by
  obtain rfl | ⟨invoice, -, rfl⟩ := finalize_ok hf
  · exact h
  exact h.touched rfl (fun _ => rfl) (fun _ => rfl) fun _ => ⟨rfl, rfl⟩

theorem closeInvoice_paidSettled {outcome : InvoiceEventType} {reasonRequired : String}
    {reason : String} (h : PaidSettled db)
    (hc : closeInvoice outcome reasonRequired db today invoiceId reason organizationId = .ok db') :
    PaidSettled db' := by
  obtain ⟨invoice, -, -, hc⟩ := closeInvoice_ok hc
  obtain ⟨-, hdb⟩ := recomputeInvoiceProjection_eq_ok.mp hc
  refine PaidSettledBut.reprojected ?_ hdb
  exact h.rewritten rfl (fun _ => rfl) fun _ => rfl

/-- Every accepted invoice request keeps what is stored as paid paid. -/
theorem InvoiceOp.exec_paidSettled {op : InvoiceOp} (h : PaidSettled db)
    (hop : op.exec db today = .ok db') : PaidSettled db' := by
  cases op with
  | createDraft input =>
      obtain ⟨result, hcreate, rfl⟩ := map_eq_ok.mp hop
      exact createInvoice_paidSettled h hcreate
  | createAndFinalize input =>
      obtain ⟨result, hcreate, rfl⟩ := map_eq_ok.mp hop
      exact createInvoice_paidSettled h hcreate
  | updateDraft invoiceId data organizationId => exact updateDraft_paidSettled h hop
  | finalize invoiceId organizationId => exact finalize_paidSettled h hop
  | void invoiceId reason organizationId => exact closeInvoice_paidSettled h hop
  | writeOff invoiceId reason organizationId => exact closeInvoice_paidSettled h hop

theorem insertCreditNote_sameLedger {customerId sourceInvoiceId : Option Id} {issueDate : Day}
    {amount : ℤ} {reasonCategory : String} {reason : Option String} {result : Db × CreditNote}
    (h : insertCreditNote db organizationId customerId sourceInvoiceId issueDate amount
      reasonCategory reason = .ok result) : SameLedger db result.1 := by
  replace h := ok_of_check h
  obtain rfl := pure_eq_ok.mp h
  exact ⟨rfl, rfl, rfl⟩

theorem createCreditNote_sameLedger {organizationId : Id}
    {sourceInvoiceId customerId : Option Id} {issueDate : Day} {amount : ℚ}
    {reasonCategory : String} {reason : Option String}
    (h : createCreditNote db organizationId sourceInvoiceId customerId issueDate amount
      reasonCategory reason = .ok db') : SameLedger db db' := by
  replace h := ok_of_check h
  replace h := ok_of_check h
  obtain ⟨source, -, h⟩ := bind_eq_ok.mp h
  obtain ⟨result, hins, h⟩ := bind_eq_ok.mp h
  obtain rfl := pure_eq_ok.mp h
  exact insertCreditNote_sameLedger hins

/-- Credit adds to what is set against one invoice, and its status is recomputed. -/
theorem applyCreditNoteAuto_paidSettled {creditNoteId organizationId : Id} {customerId : Option Id}
    {b2bOrgScope : Bool} (h : PaidSettled db)
    (ha : applyCreditNoteAuto db today creditNoteId invoiceId organizationId customerId
      b2bOrgScope = .ok db') : PaidSettled db' := by
  obtain ⟨cn, -, ha⟩ := bind_eq_ok.mp ha
  replace ha := ok_of_check ha
  replace ha := ok_of_check ha
  replace ha := ok_of_check ha
  obtain ⟨inv, -, ha⟩ := bind_eq_ok.mp ha
  replace ha := ok_of_check ha
  replace ha := ok_of_check ha
  obtain ⟨customer, -, ha⟩ := bind_eq_ok.mp ha
  replace ha := ok_of_check ha
  obtain ⟨hpos, ha⟩ := raiseIf_bind_eq_ok.mp ha
  obtain ⟨-, hdb⟩ := recomputeInvoiceProjection_eq_ok.mp ha
  refine PaidSettledBut.reprojected ?_ hdb
  refine PaidSettledBut.moved h (fun row hrow _ hpaid => ⟨row, hrow, rfl, hpaid, rfl⟩)
    fun i _ => ?_
  refine add_le_add (le_refl _) ?_
  have hnonneg := (not_le.mp hpos).le
  refine le_trans ?_ (le_of_eq (Table.sumWhere_insert db.creditApplications.fresh_notMem).symm)
  split_ifs
  · exact le_add_of_nonneg_right hnonneg
  · exact (add_zero _).ge

theorem createReversal_paidSettled {cn : CreditNote} {appliedTotal : ℤ} {voidReason : String}
    {result : Db × Invoice} (h : PaidSettled db)
    (hr : createReversalForCreditNoteVoid db today cn appliedTotal voidReason = .ok result) :
    PaidSettled result.1 := by
  replace hr := ok_of_check hr
  replace hr := ok_of_check hr
  obtain ⟨created, hcreate, hr⟩ := bind_eq_ok.mp hr
  obtain rfl := pure_eq_ok.mp hr
  exact (createInvoice_paidSettled h hcreate).touched rfl (fun _ => rfl) (fun _ => rfl)
    fun _ => ⟨rfl, rfl⟩

theorem voidCreditNote_paidSettled {creditNoteId organizationId : Id} {reason : Option String}
    (h : PaidSettled db)
    (hv : voidCreditNote db today creditNoteId organizationId reason = .ok db') :
    PaidSettled db' := by
  obtain ⟨cn, -, hv⟩ := bind_eq_ok.mp hv
  split at hv
  · obtain rfl := pure_eq_ok.mp hv
    exact h
  replace hv := ok_of_check hv
  obtain ⟨⟨db₁, reversalInvoiceId⟩, hrev, hv⟩ := bind_eq_ok.mp hv
  obtain ⟨creditNotes, -, hv⟩ := bind_eq_ok.mp hv
  obtain rfl := pure_eq_ok.mp hv
  have h₁ : PaidSettled db₁ := by
    unfold reverseIfApplied at hrev
    split at hrev
    · obtain ⟨created, hcreate, heq⟩ := map_eq_ok.mp hrev
      obtain rfl := (Prod.mk.inj heq).1
      exact createReversal_paidSettled h hcreate
    · obtain ⟨rfl, -⟩ := Prod.mk.inj (Except.ok.inj hrev)
      exact h
  exact h₁.same ⟨rfl, rfl, rfl⟩

/-- Every accepted credit note request keeps what is stored as paid paid. -/
theorem CreditNoteOp.exec_paidSettled {op : CreditNoteOp} (h : PaidSettled db)
    (hop : op.exec db today = .ok db') : PaidSettled db' := by
  cases op with
  | create organizationId sourceInvoiceId customerId issueDate amount category reason =>
      exact h.same (createCreditNote_sameLedger hop)
  | applyAuto creditNoteId invoiceId organizationId customerId b2bOrgScope =>
      exact applyCreditNoteAuto_paidSettled h hop
  | void creditNoteId organizationId reason => exact voidCreditNote_paidSettled h hop

/-- A refund request changes neither invoices nor what is set against them. -/
theorem RefundOp.exec_sameLedger {op : RefundOp} (hop : op.exec db today = .ok db') :
    SameLedger db db' := by
  cases op with
  | create gateway input =>
      rcases createRefund_ok hop with ⟨-, rfl⟩ | ⟨-, -, -, -, -, -, -, -, -, -, -, rfl⟩
      · exact .refl db'
      · exact ⟨rfl, rfl, rfl⟩
  | markComplete organizationId refundId braintreeStatus =>
      obtain ⟨refund, -, hop⟩ := bind_eq_ok.mp hop
      replace hop := ok_of_check hop
      replace hop := ok_of_check hop
      obtain ⟨refunds, -, hop⟩ := bind_eq_ok.mp hop
      obtain rfl := pure_eq_ok.mp hop
      exact ⟨rfl, rfl, rfl⟩
  | retry gateway organizationId refundId braintreeStatus failureCode failureMessage =>
      obtain ⟨refund, -, hop⟩ := bind_eq_ok.mp hop
      replace hop := ok_of_check hop
      obtain ⟨updated, -, hop⟩ := bind_eq_ok.mp hop
      obtain ⟨refunds, -, hop⟩ := bind_eq_ok.mp hop
      obtain rfl := pure_eq_ok.mp hop
      exact ⟨rfl, rfl, rfl⟩
  | issueCreditNote organizationId refundId note =>
      obtain ⟨refund, -, hop⟩ := bind_eq_ok.mp hop
      replace hop := ok_of_check hop
      split at hop
      · obtain rfl := pure_eq_ok.mp hop
        exact .refl db
      obtain ⟨⟨db₁, cn⟩, hnote, hop⟩ := bind_eq_ok.mp hop
      obtain ⟨refunds, -, hop⟩ := bind_eq_ok.mp hop
      obtain rfl := pure_eq_ok.mp hop
      have hsame := insertCreditNote_sameLedger hnote
      exact ⟨hsame.invoices, hsame.allocations, hsame.creditApplications⟩

/-- Payment requests recompute the invoices whose allocations they change. -/
theorem PaymentEffect.paidSettled (hdb : BillingInv db) (h : PaidSettled db)
    (he : PaymentEffect today db db') : PaidSettled db' := by
  induction he with
  | refl => exact h
  | created => exact h.same ⟨rfl, rfl, rfl⟩
  | updated => exact h.same ⟨rfl, rfl, rfl⟩
  | amended db db₁ payment touched hpay ham hresp hfunded =>
      have ham := ham hdb.ledger.positive
      have hcredit : db₁.creditApplications = db.creditApplications := by rw [ham.frame]
      have hinvoices : db₁.invoices = db.invoices := by rw [ham.frame]
      have hgap : PaidSettledBut touched db₁ := by
        refine PaidSettledBut.moved h
          (fun inv hinv _ hpaid => ⟨inv, hinvoices ▸ hinv, rfl, hpaid, rfl⟩) fun i hi => ?_
        rw [Db.settledTotal, Db.settledTotal, ham.totalAllocatedForInvoice_eq_of_notMem hi,
          Db.getAppliedTotalForInvoice, Db.getAppliedTotalForInvoice, hcredit]
      exact (hgap.reprojected rfl).same ⟨rfl, rfl, rfl⟩
  | trans first _ ih₁ ih₂ => exact ih₂ (hdb.paymentEffect first) (ih₁ hdb h)

end Requests

/-! ### Runs -/

theorem PaidSettled.step {db : Db} (hdb : BillingInv db) (h : PaidSettled db)
    (request : Day × BillingOp) : PaidSettled (BillingOp.step db request) := by
  rcases settle_eq db (request.2.exec db request.1) with hok | heq
  · obtain ⟨today, op⟩ := request
    cases op with
    | payment op => exact (PaymentOp.exec_effect hok).paidSettled hdb h
    | invoice op => exact InvoiceOp.exec_paidSettled h hok
    | creditNote op => exact CreditNoteOp.exec_paidSettled h hok
    | refund op => exact h.same (RefundOp.exec_sameLedger hok)
  · rw [BillingOp.step, heq]
    exact h

/-- **After every run of billing requests, what is stored as paid has nothing left to pay.** -/
theorem paidSettled_run (users : TableOf User) (requests : List (Day × BillingOp)) :
    PaidSettled (Runs.run BillingOp.step (Db.initial users) requests) := by
  refine (Runs.run_invariant (I := fun db => BillingInv db ∧ PaidSettled db)
    (fun db request h => ⟨h.1.step request, h.2.step h.1 request⟩)
    ⟨billingInv_initial users, ?_⟩ requests).2
  intro inv hinv
  exact absurd hinv List.not_mem_nil

end SwCouriers
