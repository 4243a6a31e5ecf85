import SwCouriers.AllocationReplacement

/-!
# The Metrics of the Suspension Rules

`_build_metrics` computes, for the daily run of the suspension rules, what an organisation owes.
What was paid on an invoice it takes from the revision with the highest number that each payment
has on the invoice, as if a revision said what the payment puts on the invoice in all. Billing
adds revisions up: `add_or_revise_allocations` writes what comes on top as a further row.

The two agree as long as no payment has two revisions on an invoice. A replacement deletes the
rows of its payment first, so it is only an addition to an invoice which the payment pays already
that makes them differ, and then everything before it counts as unpaid.

## Main results

* `paidTotal_eq_iff`: the metrics see all that was paid if every row is the last of its kind.
* `SinglyRevised.step`, `not_followsLedger_step`: what a request does to that.
* `metrics_follow_ledger_iff`: the runs in which the metrics are those of the ledger.
-/

namespace SwCouriers

open Checked

/-! ### The queries -/

/-- `max_revision_no` of `latest_alloc_subq`. -/
def Db.maxRevisionNo (db : Db) (paymentId invoiceId : Id) : ℕ :=
  ((db.allocations.rows.filter fun a =>
    a.paymentId = paymentId ∧ a.invoiceId = invoiceId).map (·.revisionNo)).foldr max 0

/-- `paid_total` of `paid_subq`: the sum of the latest rows of all payments. -/
def Db.paidTotal (db : Db) (invoiceId : Id) : ℤ :=
  db.allocations.sumWhere (fun a => a.invoiceId = invoiceId ∧
    a.revisionNo = db.maxRevisionNo a.paymentId a.invoiceId) (·.allocatedAmount)

/-- The status is one of `UNPAID_STATES`. -/
def PaymentStatus.isUnpaid : PaymentStatus → Bool
  | .unpaid | .partiallyPaid | .overdue => true
  | _ => false

/-- The metrics that depend on invoices, in exact amounts. -/
structure InvoiceMetrics where
  totalOutstandingAmount : ℤ
  totalOverdueAmount : ℤ
  numberOfUnpaidInvoices : ℤ
  invoiceOverdueDays : ℤ
  creditNotClearedAfterDueDate : ℤ
  outstandingCashBalance : ℤ
  cashInvoiceOverdueDays : ℤ
  deriving DecidableEq, Repr

/-- What one invoice adds to the metrics. `compute_payment_status` reads the clock itself. -/
def InvoiceMetrics.addInvoice (m : InvoiceMetrics) (today clock : Day) (invoice : Invoice)
    (paidTotal creditTotal : ℤ) (outcomeEventType : Option InvoiceEventType) :
    InvoiceMetrics :=
  let status := computePaymentStatus invoice paidTotal creditTotal outcomeEventType clock
  let outstanding := max (invoice.total - creditTotal - paidTotal) 0
  let m := if status.isUnpaid = true then
      { m with
        totalOutstandingAmount := m.totalOutstandingAmount + outstanding
        numberOfUnpaidInvoices := m.numberOfUnpaidInvoices + 1
        outstandingCashBalance := m.outstandingCashBalance + outstanding }
    else m
  if invoice.dueDate < today ∧ status.isUnpaid = true then
    let overdueDays := today - invoice.dueDate
    { m with
      totalOverdueAmount := m.totalOverdueAmount + outstanding
      invoiceOverdueDays := max m.invoiceOverdueDays overdueDays
      creditNotClearedAfterDueDate := max m.creditNotClearedAfterDueDate overdueDays
      cashInvoiceOverdueDays := max m.cashInvoiceOverdueDays overdueDays }
  else m

/-- The loop over the invoices of an organisation that are `SENT`, with what was paid on each. -/
def Db.invoiceMetrics (db : Db) (paid : Id → ℤ) (organizationId : Id) (today clock : Day) :
    InvoiceMetrics :=
  (db.invoices.rows.filter fun inv =>
      inv.organizationId = some organizationId ∧ inv.status = .sent).foldl
    (fun m inv => m.addInvoice today clock inv (paid inv.id) (db.getAppliedTotalForInvoice inv.id)
      (db.latestOutcomeEventType inv.id))
    ⟨0, 0, 0, 0, 0, 0, 0⟩

/-- `_build_metrics`, as far as it is about invoices. -/
def Db.buildMetrics (db : Db) (organizationId : Id) (today clock : Day) : InvoiceMetrics :=
  db.invoiceMetrics db.paidTotal organizationId today clock

/-- The metrics by the balances of billing. -/
def Db.ledgerMetrics (db : Db) (organizationId : Id) (today clock : Day) : InvoiceMetrics :=
  db.invoiceMetrics db.totalAllocatedForInvoice organizationId today clock

/-- The suspension rules see what billing sees. -/
structure FollowsLedger (db : Db) : Prop where
  paid : ∀ inv ∈ db.invoices.rows, inv.status = .sent →
    db.paidTotal inv.id = db.totalAllocatedForInvoice inv.id
  metrics : ∀ organizationId today clock,
    db.buildMetrics organizationId today clock = db.ledgerMetrics organizationId today clock

variable {db db' : Db} {a : BillingPaymentAllocation} {paymentId : Id} {today : Day}

/-- The metrics depend on what was paid on sent invoices. -/
theorem followsLedger_of_paid (h : ∀ inv ∈ db.invoices.rows, inv.status = .sent →
    db.paidTotal inv.id = db.totalAllocatedForInvoice inv.id) : FollowsLedger db := by
  refine ⟨h, fun organizationId today clock => ?_⟩
  refine List.foldl_ext _ _ _ fun m inv hinv => ?_
  obtain ⟨hmem, hsent⟩ := List.mem_filter.mp hinv
  rw [h inv hmem (of_decide_eq_true hsent).2]

/-! ### Revisions -/

theorem le_maxRevisionNo (ha : a ∈ db.allocations.rows) :
    a.revisionNo ≤ db.maxRevisionNo a.paymentId a.invoiceId := by
  refine List.le_max_of_le' 0 (List.mem_map_of_mem (List.mem_filter.mpr ⟨ha, ?_⟩)) le_rfl
  simp

/-- **The metrics see all that was paid** on an invoice exactly if every row on it is the latest
one of its payment. -/
theorem paidTotal_eq_iff (hrows : db.PositiveRows) (invoiceId : Id) :
    db.paidTotal invoiceId = db.totalAllocatedForInvoice invoiceId ↔
      ∀ a ∈ db.allocations.rows, a.invoiceId = invoiceId →
        a.revisionNo = db.maxRevisionNo a.paymentId a.invoiceId := by
  have hsplit : db.totalAllocatedForInvoice invoiceId = db.paidTotal invoiceId
      + db.allocations.sumWhere (fun a => a.invoiceId = invoiceId ∧
        ¬ a.revisionNo = db.maxRevisionNo a.paymentId a.invoiceId) (·.allocatedAmount) :=
    Table.sumWhere_split db.allocations _
  constructor
  · intro h a ha hi
    by_contra hstale
    have hle : a.allocatedAmount ≤ db.allocations.sumWhere (fun a => a.invoiceId = invoiceId ∧
        ¬ a.revisionNo = db.maxRevisionNo a.paymentId a.invoiceId) (·.allocatedAmount) :=
      Table.le_sumWhere (fun a ha _ => (hrows a ha).le) ha ⟨hi, hstale⟩
    have hpos := hrows a ha
    omega
  · intro h
    refine Table.sumWhere_congr (fun a ha => ?_) fun a _ _ => rfl
    exact and_iff_left_of_imp (h a ha)

/-- The payment and the invoice of a row. -/
def BillingPaymentAllocation.parties (a : BillingPaymentAllocation) : Option (Id × Id) :=
  some (a.paymentId, a.invoiceId)

theorem parties_eq_some_iff {invoiceId : Id} :
    a.parties = some (paymentId, invoiceId) ↔
      a.paymentId = paymentId ∧ a.invoiceId = invoiceId := by
  simp [BillingPaymentAllocation.parties]

/-- No payment has two rows on an invoice. -/
def SinglyRevised (db : Db) : Prop :=
  db.allocations.UniqueOn BillingPaymentAllocation.parties

/-- A row without another one of its payment and invoice is the latest one. -/
theorem SinglyRevised.latest (h : SinglyRevised db) (ha : a ∈ db.allocations.rows) :
    a.revisionNo = db.maxRevisionNo a.paymentId a.invoiceId := by
  refine le_antisymm (le_maxRevisionNo ha) (List.max_le_of_forall_le _ _ fun n hn => ?_)
  obtain ⟨a', ha', rfl⟩ := List.mem_map.mp hn
  obtain ⟨hmem, hsame⟩ := List.mem_filter.mp ha'
  obtain ⟨hp, hi⟩ := of_decide_eq_true hsame
  rw [h a' hmem a ha _ (parties_eq_some_iff.mpr ⟨hp, hi⟩) rfl]

/-- While no payment has two rows on an invoice the metrics are those of the ledger. -/
theorem SinglyRevised.followsLedger (h : SinglyRevised db) (hrows : db.PositiveRows) :
    FollowsLedger db :=
  followsLedger_of_paid fun inv _ _ => (paidTotal_eq_iff hrows inv.id).mpr fun _ ha _ => h.latest ha

/-- A payment with two rows on an invoice spoils the metrics. -/
theorem not_followsLedger_of_lt (hrows : db.PositiveRows) (hown : db.OwnRows)
    {a' : BillingPaymentAllocation} (ha : a ∈ db.allocations.rows) (ha' : a' ∈ db.allocations.rows)
    (hp : a'.paymentId = a.paymentId) (hi : a'.invoiceId = a.invoiceId)
    (hlt : a.revisionNo < a'.revisionNo) : ¬ FollowsLedger db := by
  intro h
  obtain ⟨p, inv, -, hinv, hsent⟩ := hown a ha
  obtain ⟨hmem, hid⟩ := Table.find?_eq_some_iff.mp (invById_eq_some.mp hinv).1
  have hpaid := h.paid inv hmem hsent
  have hlatest := (paidTotal_eq_iff hrows _).mp hpaid a ha hid.symm
  have hle := le_maxRevisionNo ha'
  rw [hp, hi] at hle
  omega

/-! ### What a request does to the revisions -/

/-- New rows for invoices on which the payment has none. -/
theorem SinglyRevised.insertAllocations (h : SinglyRevised db) {rows : List NormalizedAllocation}
    (hnd : (rows.map (·.invoiceId)).Nodup)
    (hfree : ∀ row ∈ rows, ∀ a ∈ db.allocations.rows, a.parties ≠ some (paymentId, row.invoiceId)) :
    SinglyRevised (db.insertAllocations paymentId rows) := by
  rw [Db.insertAllocations]
  induction rows generalizing db with
  | nil => exact h
  | cons row rows ih =>
      obtain ⟨hrow, hnd⟩ := List.nodup_cons.mp hnd
      have hkey := allocationRow_key_notMem db paymentId row
      rw [List.foldl_cons]
      refine ih ?_ hnd fun row' hrow' a ha heq => ?_
      · refine Table.UniqueOn.insert h hkey fun s hs a ha heq => ?_
        exact hfree row List.mem_cons_self a ha (heq.trans hs.symm)
      · rcases (Table.mem_insert_iff hkey).mp ha with hold | rfl
        · exact hfree row' (List.mem_cons_of_mem row hrow') a hold heq
        · obtain ⟨-, hsame⟩ := parties_eq_some_iff.mp heq
          exact hrow (List.mem_map.mpr ⟨row', hrow', hsame.symm⟩)

/-- A payment that has nothing on an invoice has no row on it. -/
theorem netAllocation_eq_zero_iff (hrows : db.PositiveRows) {i : Id} :
    db.netAllocation paymentId i = 0 ↔
      ∀ a ∈ db.allocations.rows, a.parties ≠ some (paymentId, i) := by
  constructor
  · intro h a ha heq
    have hle : a.allocatedAmount ≤ db.netAllocation paymentId i :=
      Table.le_sumWhere (fun a ha _ => (hrows a ha).le) ha (parties_eq_some_iff.mp heq)
    have hpos := hrows a ha
    omega
  · intro h
    exact Table.sumWhere_eq_zero fun a ha hrow => h a ha (parties_eq_some_iff.mpr hrow)

/-- A replacement leaves one row of the payment on each of its targets. -/
theorem SinglyRevised.applyAllocationTargets (h : SinglyRevised db) {payment : BillingPayment}
    (hpay : Allocatable db payment.id payment) {targetMap : List NormalizedAllocation}
    (hnd : (targetMap.map (·.invoiceId)).Nodup)
    (happly : applyAllocationTargets db today payment targetMap = .ok db') : SinglyRevised db' := by
  rcases applyAllocationTargets_ok hpay happly with ⟨rfl, -⟩ | ⟨-, -, rfl⟩
  · exact h
  · have hdelete : SinglyRevised (db.deleteAllocations payment.id) := Table.UniqueOn.deleteWhere h _
    refine hdelete.insertAllocations hnd fun row _ a ha heq => ?_
    obtain ⟨-, hother⟩ := Table.mem_deleteWhere_iff.mp ha
    exact hother (parties_eq_some_iff.mp heq).1

/-- The addition names an invoice that the payment is on already. -/
def BillingOp.AddsOnTop (db : Db) : BillingOp → Prop
  | .payment (.addOrReviseAllocations paymentId allocations) =>
      ∃ rows, normalizeAllocations allocations = .ok rows ∧
        ∃ row ∈ rows, db.netAllocation paymentId row.invoiceId ≠ 0
  | _ => False

/-- An addition to invoices that the payment is not on. -/
theorem SinglyRevised.addOrReviseAllocations (h : SinglyRevised db) (hrows : db.PositiveRows)
    {allocations : List AllocationInput}
    (hadd : addOrReviseAllocations db today paymentId allocations = .ok db')
    (hnew : ∀ rows, normalizeAllocations allocations = .ok rows →
      ∀ row ∈ rows, db.netAllocation paymentId row.invoiceId = 0) : SinglyRevised db' := by
  obtain ⟨payment, rows, -, hnormalized, -, -, rfl⟩ := addOrReviseAllocations_ok hadd
  obtain ⟨-, -, hnd⟩ := normalizeAllocations_ok hnormalized
  exact h.insertAllocations hnd fun row hrow =>
    (netAllocation_eq_zero_iff hrows).mp (hnew rows hnormalized row hrow)

theorem allocations_recordPayment {input : PaymentInput} (h : recordPayment db input = .ok db') :
    db'.allocations = db.allocations := by
  replace h := ok_of_check h
  replace h := ok_of_check h
  replace h := ok_of_check h
  replace h := ok_of_check h
  replace h := ok_of_check h
  obtain rfl := pure_eq_ok.mp h
  rfl

/-- A payment that does not exist yet is not on any invoice. -/
theorem netAllocation_fresh (hledger : LedgerInv db) (i : Id) :
    db.netAllocation db.payments.fresh i = 0 := by
  refine Table.sumWhere_eq_zero fun a ha hrow => ?_
  have hfound := hledger.owned a ha
  rw [hrow.1, find?_fresh] at hfound
  exact absurd hfound (by decide)

/-- **An accepted payment call** leaves at most one row of a payment on an invoice unless it is an
addition on top of one. -/
theorem SinglyRevised.paymentOp (h : SinglyRevised db) (hledger : LedgerInv db) {op : PaymentOp}
    (hop : ¬ BillingOp.AddsOnTop db (.payment op)) (hok : op.exec db today = .ok db') :
    SinglyRevised db' := by
  cases op with
  | recordPayment input =>
      rw [SinglyRevised, allocations_recordPayment hok]
      exact h
  | createPendingPayment organizationId amount paymentDate provider =>
      replace hok := ok_of_check hok
      replace hok := ok_of_check hok
      obtain rfl := pure_eq_ok.mp hok
      exact h
  | recordPaymentWithAllocations input allocations =>
      obtain ⟨db₁, hrec, hok⟩ := bind_eq_ok.mp hok
      have hsame := allocations_recordPayment hrec
      have h₁ : SinglyRevised db₁ := by
        rw [SinglyRevised, hsame]
        exact h
      split at hok
      · obtain rfl := pure_eq_ok.mp hok
        exact h₁
      · -- The payment is a new one.
        refine h₁.addOrReviseAllocations ?_ hok fun rows _ row _ => ?_
        · rw [Db.PositiveRows, hsame]
          exact hledger.positive
        · rw [Db.netAllocation, hsame]
          exact netAllocation_fresh hledger row.invoiceId
  | addOrReviseAllocations paymentId allocations =>
      refine h.addOrReviseAllocations hledger.positive hok fun rows hrows row hrow => ?_
      by_contra hne
      exact hop ⟨rows, hrows, row, hrow, hne⟩
  | replaceAllocations paymentId allocations =>
      obtain ⟨payment, rows, hpay, hrows, happly⟩ := replaceAllocations_ok hok
      obtain rfl := hpay.id_eq
      exact h.applyAllocationTargets hpay (normalizeAllocations_ok hrows).2.2 happly
  | removeAllocation paymentId invoiceId =>
      obtain ⟨payment, invoiceKey, hpay, -, happly⟩ := removeAllocation_ok hok
      obtain rfl := hpay.id_eq
      exact h.applyAllocationTargets hpay (withoutInvoice_spec db _ invoiceKey).2 happly
  | voidPayment organizationId paymentId expectedVersion =>
      rcases voidPayment_ok hok with rfl | ⟨payment, version, -, -, -, rfl⟩
      · exact h
      · exact h
  | markPaymentStatus organizationId paymentId toStatus providerTxnId transactionFee =>
      obtain ⟨payment, fee, -, -, -, -, -, -, rfl⟩ := markPaymentStatus_ok hok
      exact h

/-- An accepted request of any kind. -/
theorem SinglyRevised.exec (h : SinglyRevised db) (hledger : LedgerInv db) {op : BillingOp}
    (hop : ¬ op.AddsOnTop db) (hok : op.exec db today = .ok db') : SinglyRevised db' := by
  have hframe : db'.allocations = db.allocations → SinglyRevised db' := by
    intro heq
    rw [SinglyRevised, heq]
    exact h
  cases op with
  | payment op => exact h.paymentOp hledger hop hok
  | invoice op => exact hframe (InvoiceOp.exec_effect hok).frame.2.1
  | creditNote op => exact hframe (CreditNoteOp.exec_effect hok).frame.2.1
  | refund op => exact hframe (refundOp_frame hok).2.2

/-- The rows of before are still there after an insertion. -/
theorem mem_insertAllocations_of_mem {rows : List NormalizedAllocation}
    (ha : a ∈ db.allocations.rows) :
    a ∈ (db.insertAllocations paymentId rows).allocations.rows := by
  rw [Db.insertAllocations]
  induction rows generalizing db with
  | nil => exact ha
  | cons row rows ih =>
      exact ih ((Table.mem_insert_iff (allocationRow_key_notMem db paymentId row)).mpr (.inl ha))

/-- Each entry has become a row that is later than those that were there. -/
theorem exists_later_row {rows : List NormalizedAllocation} {row : NormalizedAllocation}
    (hrow : row ∈ rows) (ha : a ∈ db.allocations.rows) (hp : a.paymentId = paymentId)
    (hi : a.invoiceId = row.invoiceId) :
    ∃ a' ∈ (db.insertAllocations paymentId rows).allocations.rows,
      a'.paymentId = a.paymentId ∧ a'.invoiceId = a.invoiceId ∧ a.revisionNo < a'.revisionNo := by
  obtain ⟨pre, post, rfl⟩ := List.append_of_mem hrow
  let mid := db.insertAllocations paymentId pre
  have hmid : a ∈ mid.allocations.rows := mem_insertAllocations_of_mem ha
  have hsplit : db.insertAllocations paymentId (pre ++ row :: post)
      = (mid.insertAllocation paymentId row).insertAllocations paymentId post := by
    simp only [mid, Db.insertAllocations, List.foldl_append, List.foldl_cons]
  rw [hsplit]
  refine ⟨mid.allocationRow paymentId row, mem_insertAllocations_of_mem ?_, hp.symm, hi.symm, ?_⟩
  · exact (Table.mem_insert_iff (allocationRow_key_notMem mid paymentId row)).mpr (.inr rfl)
  · have hle := le_maxRevisionNo hmid
    rw [hp, hi] at hle
    exact Nat.lt_succ_of_le hle

/-- **An accepted addition on top** of what the payment has on an invoice makes the metrics lose
what was there. -/
theorem not_followsLedger_exec (hledger : LedgerInv db) (hledger' : LedgerInv db')
    (hown' : db'.OwnRows) {op : BillingOp} (hop : op.AddsOnTop db)
    (hok : op.exec db today = .ok db') : ¬ FollowsLedger db' := by
  cases op with
  | payment op =>
      cases op with
      | addOrReviseAllocations paymentId allocations =>
          obtain ⟨rows, hrows, row, hrow, hne⟩ := hop
          obtain ⟨payment, rows', -, hrows', -, -, rfl⟩ := addOrReviseAllocations_ok hok
          obtain rfl : rows = rows' := Except.ok.inj (hrows.symm.trans hrows')
          -- The payment has a row on the invoice, and gets a second one.
          obtain ⟨a, ha, hparties⟩ : ∃ a ∈ db.allocations.rows,
              a.parties = some (paymentId, row.invoiceId) := by
            by_contra hnone
            push Not at hnone
            exact hne ((netAllocation_eq_zero_iff hledger.positive).mpr hnone)
          obtain ⟨hp, hi⟩ := parties_eq_some_iff.mp hparties
          obtain ⟨a', ha', hp', hi', hlt⟩ := exists_later_row hrow ha hp hi
          exact not_followsLedger_of_lt hledger'.positive hown' (mem_insertAllocations_of_mem ha)
            ha' hp' hi' hlt
      | _ => exact hop.elim
  | _ => exact hop.elim

/-! ### Runs -/

/-- What holds while the metrics are right. -/
structure MetricsInv (db : Db) : Prop where
  billing : BillingInv db
  own : db.OwnRows
  single : SinglyRevised db

theorem metricsInv_initial (users : TableOf User) : MetricsInv (Db.initial users) where
  billing := billingInv_initial users
  own := ownRows_run users []
  single := Table.uniqueOn_empty

/-- The request is no addition on top of what a payment has on an invoice, or it is refused. -/
def AddsNothingOnTop (db : Db) (request : Day × BillingOp) : Prop :=
  request.2.AddsOnTop db → (request.2.exec db request.1).isOk = false

theorem MetricsInv.step (h : MetricsInv db) {request : Day × BillingOp}
    (hrequest : AddsNothingOnTop db request) : MetricsInv (BillingOp.step db request) := by
  refine ⟨h.billing.step request, ownRows_step h.own request, ?_⟩
  rcases settle_eq db (request.2.exec db request.1) with hok | heq
  · refine h.single.exec h.billing.ledger (fun hop => ?_) hok
    have haccepted : (request.2.exec db request.1).isOk = true := congrArg Except.isOk hok
    exact absurd (haccepted.symm.trans (hrequest hop)) (by decide)
  · rw [BillingOp.step, heq]
    exact h.single

theorem not_followsLedger_step (h : MetricsInv db) {request : Day × BillingOp}
    (hrequest : ¬ AddsNothingOnTop db request) : ¬ FollowsLedger (BillingOp.step db request) := by
  obtain ⟨hop, haccepted⟩ : request.2.AddsOnTop db ∧
      ¬ (request.2.exec db request.1).isOk = false := by
    simpa only [AddsNothingOnTop, Classical.not_imp] using hrequest
  obtain ⟨db', hok⟩ := exists_eq_ok (Bool.eq_true_of_not_eq_false haccepted)
  have hstep : BillingOp.step db request = db' := by rw [BillingOp.step, hok]; rfl
  have hbilling := h.billing.step request
  have hown := ownRows_step h.own request
  rw [hstep] at hbilling hown ⊢
  exact not_followsLedger_exec h.billing.ledger hbilling.ledger hown hop hok

/-- **When the metrics are those of the ledger.** In a run of billing requests the suspension
rules see, at all times, what was paid on every sent invoice, and compute the metrics that the
balances of billing give, exactly if no accepted addition names an invoice that its payment is on
already. -/
theorem metrics_follow_ledger_iff (users : TableOf User) (requests : List (Day × BillingOp)) :
    (∀ pre post, requests = pre ++ post →
        FollowsLedger (Runs.run BillingOp.step (Db.initial users) pre)) ↔
      Runs.Along BillingOp.step AddsNothingOnTop (Db.initial users) requests :=
  Runs.forall_prefix_iff_along_of_keeps (I := MetricsInv)
    (fun _ h => h.single.followsLedger h.billing.ledger.positive) (fun _ _ h hr => h.step hr)
    (fun _ _ h hr => not_followsLedger_step h hr) (metricsInv_initial users)

/-- 50.00 are put on an invoice of 120.00, and 20.00 more. -/
def addedTwice : List (Day × BillingOp) :=
  sentAndPaid ++ [(1, .payment (.addOrReviseAllocations 1 [⟨some 1, some 50, none⟩])),
    (2, .payment (.addOrReviseAllocations 1 [⟨some 1, some 20, none⟩]))]

/-- Billing has 50.00 outstanding then, and the suspension rules have 100.00. -/
theorem metrics_miss_first_revision :
    ¬ (∀ requests, FollowsLedger (Runs.run BillingOp.step (Db.initial .empty) requests)) ∧
      ((Runs.run BillingOp.step (Db.initial .empty) addedTwice).ledgerMetrics 1 3 3
        |>.totalOutstandingAmount) = 5000 ∧
      ((Runs.run BillingOp.step (Db.initial .empty) addedTwice).buildMetrics 1 3 3
        |>.totalOutstandingAmount) = 10000 := by
  refine ⟨fun h => ?_, by decide +kernel, by decide +kernel⟩
  have heq := (h addedTwice).metrics 1 3 3
  exact absurd (congrArg InvoiceMetrics.totalOutstandingAmount heq) (by decide +kernel)

end SwCouriers
