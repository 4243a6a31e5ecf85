import SwCouriers.BillingEffects

/-!
# The Billing Invariant

What holds of the billing database after every run of requests from one that knows only
users. An invoice's `paid_amount` is the sum of its allocation rows, its status is
`VOID` or `WRITTEN_OFF` exactly when an outcome event was recorded, what is allocated and
credited to it does not exceed its total, and a draft is neither paid nor credited. No
credit note is applied beyond its amount, and no refund has processed more than was
requested.

## Main results

* `BillingInv.paymentEffect`, `BillingInv.documentEffect`, `BillingInv.refundEffect`: each
  effect keeps the invariant.
* `BillingInv.step`, `billingInv_run`: so does each request, and every run has it.
-/

namespace SwCouriers

open Checked

/-! ### Closed invoices -/

variable {i : Id} {inv : Invoice} {today : Day} {db' db₁ : Db}

/-- An invoice is closed exactly when an outcome was recorded. -/
theorem isClosed_iff {db : Db} :
    db.isClosed i = true ↔
      ∃ e ∈ db.invoiceEvents, e.invoiceId = i ∧ e.eventType.isOutcome = true := by
  rw [Db.isClosed, Db.latestOutcomeEventType, Option.isSome_map]
  constructor
  · intro h
    obtain ⟨e, he⟩ := Option.isSome_iff_exists.mp h
    have hmem := List.mem_of_getLast? he
    rw [List.mem_filter, Bool.and_eq_true, decide_eq_true_eq] at hmem
    exact ⟨e, hmem⟩
  · rintro ⟨e, he, hi, hout⟩
    rw [Option.isSome_iff_ne_none, Ne, List.getLast?_eq_none_iff]
    exact List.ne_nil_of_mem (List.mem_filter.mpr ⟨he, by simp [hi, hout]⟩)

/-- The latest outcome is a void or a write-off. -/
theorem latestOutcomeEventType_cases (db : Db) (i : Id) :
    db.latestOutcomeEventType i = none ∨ db.latestOutcomeEventType i = some .voided ∨
      db.latestOutcomeEventType i = some .writtenOff := by
  cases h : db.latestOutcomeEventType i with
  | none => exact .inl rfl
  | some t =>
      obtain ⟨e, he, rfl⟩ := Option.map_eq_some_iff.mp h
      have hmem := List.mem_of_getLast? he
      simp only [List.mem_filter, Bool.and_eq_true, InvoiceEventType.isOutcome,
        Bool.or_eq_true, decide_eq_true_eq] at hmem
      exact .inr (hmem.2.2.imp (congrArg some) (congrArg some))

/-- Whether a payment status says that the invoice was closed. -/
def PaymentStatus.isOutcome (s : PaymentStatus) : Bool :=
  s = .void || s = .writtenOff

/-- The computed status says closed exactly when the invoice is. -/
theorem isOutcome_computePaymentStatus (db : Db) (inv : Invoice) (paid credit : ℤ) (i : Id)
    (today : Day) :
    (computePaymentStatus inv paid credit (db.latestOutcomeEventType i) today).isOutcome
      = db.isClosed i := by
  rw [Db.isClosed]
  rcases latestOutcomeEventType_cases db i with h | h | h
  · rw [h]
    unfold computePaymentStatus
    simp only [reduceCtorEq, if_false, Option.isSome_none]
    split_ifs <;> rfl
  · rw [h]
    rfl
  · rw [h]
    rfl

/-- Events that are no outcome of an invoice do not close it. -/
theorem isClosed_append {db : Db} {events : List InvoiceEvent}
    (h : ∀ e ∈ events, e.invoiceId = i → e.eventType.isOutcome = false) :
    Db.isClosed { db with invoiceEvents := db.invoiceEvents ++ events } i
      = db.isClosed i := by
  rw [Bool.eq_iff_iff, isClosed_iff, isClosed_iff]
  constructor
  · rintro ⟨e, he, hi, hout⟩
    rcases List.mem_append.mp he with he | he
    · exact ⟨e, he, hi, hout⟩
    · rw [h e he hi] at hout
      exact absurd hout (by decide)
  · rintro ⟨e, he, hi, hout⟩
    exact ⟨e, List.mem_append_left _ he, hi, hout⟩

/-! ### The invariant -/

/-- What holds of an invoice with the given sums over its rows. -/
structure Settles (inv : Invoice) (allocated credited : ℤ) (closed : Bool) : Prop where
  paid : inv.paidAmount = allocated
  outcome : inv.paymentStatus.isOutcome = closed
  within : allocated + credited ≤ inv.total
  draft : inv.status = .draft → allocated = 0 ∧ credited = 0

/-- What holds of an invoice of the database. -/
def InvoiceInv (db : Db) (inv : Invoice) : Prop :=
  Settles inv (db.totalAllocatedForInvoice inv.id) (db.getAppliedTotalForInvoice inv.id)
    (db.isClosed inv.id)

/-- What holds of a refund of the database. -/
structure RefundInv (db : Db) (r : Refund) : Prop where
  owned : (db.payments.find? r.billingPaymentId).isSome
  requested : 0 < r.requestedAmount
  processed : 0 ≤ r.processedAmount ∧ r.processedAmount ≤ r.requestedAmount
  status : r.status ≠ .reversed

/-- The invariant of the billing database. -/
structure BillingInv (db : Db) : Prop where
  ledger : LedgerInv db
  allocated : ∀ a ∈ db.allocations.rows, (db.invoices.find? a.invoiceId).isSome
  credited : ∀ a ∈ db.creditApplications.rows, 0 < a.appliedAmount ∧
    (db.invoices.find? a.invoiceId).isSome ∧ (db.creditNotes.find? a.creditNoteId).isSome
  history : ∀ e ∈ db.invoiceEvents, (db.invoices.find? e.invoiceId).isSome
  invoices : ∀ inv ∈ db.invoices.rows, InvoiceInv db inv
  notes : ∀ cn ∈ db.creditNotes.rows,
    db.getAppliedTotalForCreditNote cn.id ≤ cn.totalCreditAmount
  refunds : ∀ r ∈ db.refunds.rows, RefundInv db r

theorem billingInv_initial (users : TableOf User) : BillingInv (Db.initial users) where
  ledger := ⟨by simp [Db.PositiveRows, Db.initial], by simp [Db.initial],
    by simp [Db.initial]⟩
  allocated := by simp [Db.initial]
  credited := by simp [Db.initial]
  history := by simp [Db.initial]
  invoices := by simp [Db.initial]
  notes := by simp [Db.initial]
  refunds := by simp [Db.initial]

section Read

variable {db : Db}

theorem BillingInv.totalAllocatedForInvoice_nonneg (h : BillingInv db) (i : Id) :
    0 ≤ db.totalAllocatedForInvoice i :=
  Table.sumWhere_nonneg fun a ha _ => (h.ledger.positive a ha).le

theorem BillingInv.getAppliedTotalForInvoice_nonneg (h : BillingInv db) (i : Id) :
    0 ≤ db.getAppliedTotalForInvoice i :=
  Table.sumWhere_nonneg fun a ha _ => (h.credited a ha).1.le

/-- Nothing is known of an invoice that does not exist. -/
theorem BillingInv.unknown (h : BillingInv db) (hi : db.invoices.find? i = none) :
    db.totalAllocatedForInvoice i = 0 ∧ db.getAppliedTotalForInvoice i = 0 ∧
      db.isClosed i = false := by
  refine ⟨Table.sumWhere_eq_zero fun a ha hai => ?_, Table.sumWhere_eq_zero fun a ha hai => ?_, ?_⟩
  · have := h.allocated a ha
    rw [hai, hi] at this
    exact absurd this (by decide)
  · have := (h.credited a ha).2.1
    rw [hai, hi] at this
    exact absurd this (by decide)
  · rw [Bool.eq_false_iff, Ne, isClosed_iff]
    rintro ⟨e, he, hei, -⟩
    have := h.history e he
    rw [hei, hi] at this
    exact absurd this (by decide)

theorem BillingInv.invoice_found (h : BillingInv db) (hi : db.invoices.find? i = some inv) :
    InvoiceInv db inv :=
  h.invoices inv (Table.find?_eq_some_iff.mp hi).1

theorem BillingInv.total_nonneg (h : BillingInv db) (hinv : inv ∈ db.invoices.rows) :
    0 ≤ inv.total := by
  have hwithin := (h.invoices inv hinv).within
  have hallocated := h.totalAllocatedForInvoice_nonneg inv.id
  have hcredited := h.getAppliedTotalForInvoice_nonneg inv.id
  omega

theorem BillingInv.refund_positive (h : BillingInv db) :
    ∀ r ∈ db.refunds.rows, 0 < r.requestedAmount :=
  fun r hr => (h.refunds r hr).requested

end Read

/-- Recomputing a projection restores what the row says of the ledger. -/
theorem Settles.projected {db : Db}
    (hwithin : db.totalAllocatedForInvoice inv.id + db.getAppliedTotalForInvoice inv.id ≤ inv.total)
    (hdraft : inv.status = .draft → db.totalAllocatedForInvoice inv.id = 0 ∧
      db.getAppliedTotalForInvoice inv.id = 0) : InvoiceInv db (inv.projected db today) where
  paid := rfl
  outcome := isOutcome_computePaymentStatus db inv _ _ inv.id today
  within := hwithin
  draft := hdraft

/-- An invoice whose sums and outcome did not move keeps its invariant. -/
theorem InvoiceInv.congr {db : Db} (h : InvoiceInv db inv)
    (ha : db'.totalAllocatedForInvoice inv.id = db.totalAllocatedForInvoice inv.id)
    (hc : db'.getAppliedTotalForInvoice inv.id = db.getAppliedTotalForInvoice inv.id)
    (ho : db'.isClosed inv.id = db.isClosed inv.id) : InvoiceInv db' inv := by
  unfold InvoiceInv
  rw [ha, hc, ho]
  exact h

/-- The ledger invariant is about payments and allocation rows only. -/
theorem LedgerInv.congr {db : Db} (h : LedgerInv db) (ha : db'.allocations = db.allocations)
    (hp : db'.payments = db.payments) : LedgerInv db' := by
  refine ⟨fun a hmem => h.positive a (ha ▸ hmem), fun a hmem => ?_, fun p hmem => ?_⟩
  · rw [hp]
    exact h.owned a (ha ▸ hmem)
  · obtain ⟨hallocated, hbalance, hstatus, hfunded⟩ := h.payments p (hp ▸ hmem)
    refine ⟨hallocated.trans ?_, hbalance, hstatus, hfunded⟩
    rw [Db.totalLatestAllocatedForPayment, Db.totalLatestAllocatedForPayment, ha]

/-- What holds of a refund depends on the payments only. -/
theorem RefundInv.congr {db : Db} {r : Refund} (h : RefundInv db r)
    (hp : db'.payments = db.payments) : RefundInv db' r := by
  refine ⟨?_, h.requested, h.processed, h.status⟩
  rw [hp]
  exact h.owned

/-! ### Payments -/

/-- What an allocation write may put on an invoice in all. -/
theorem AmendsPayment.total {db : Db} {paymentId : Id} {touched : List Id}
    (ham : AmendsPayment paymentId touched db db₁) (hr : RespectsInvoice db db₁ paymentId i) :
    db₁.totalAllocatedForInvoice i ≤ db.totalAllocatedForInvoice i ∨
    ∃ inv, db.invoices.find? i = some inv ∧ inv.status = .sent ∧
      db₁.totalAllocatedForInvoice i + db.getAppliedTotalForInvoice i ≤ inv.total := by
  rcases hr with hle | hroom
  · refine .inl ?_
    rw [totalAllocatedForInvoice_eq db₁ paymentId, totalAllocatedForInvoice_eq db paymentId,
      ham.other]
    omega
  · exact .inr hroom

/-- A row that an allocation write leaves is on an invoice that exists. -/
theorem AmendsPayment.isSome_find? {db : Db} (h : BillingInv db) {paymentId : Id}
    {touched : List Id} (ham : AmendsPayment paymentId touched db db₁)
    (hresp : ∀ i, RespectsInvoice db db₁ paymentId i) {a : BillingPaymentAllocation}
    (ha : a ∈ db₁.allocations.rows) : (db.invoices.find? a.invoiceId).isSome := by
  rcases ham.rows a ha with hold | hnew
  · exact h.allocated a hold
  rcases hresp a.invoiceId with hle | ⟨inv, hinv, -, -⟩
  · by_contra hnone
    -- The payment had rows on the invoice before, as it has a positive amount now.
    have hpos : 0 < db₁.netAllocation paymentId a.invoiceId :=
      lt_of_lt_of_le (ham.positive a ha)
        (Table.le_sumWhere (fun b hb _ => (ham.positive b hb).le) ha ⟨hnew, rfl⟩)
    have hzero : db.netAllocation paymentId a.invoiceId = 0 := by
      refine Table.sumWhere_eq_zero fun b hb hbi => hnone ?_
      rw [← hbi.2]
      exact h.allocated b hb
    omega
  · rw [hinv]
    rfl

theorem BillingInv.amended {db : Db} (h : BillingInv db) {payment : BillingPayment}
    {touched : List Id} (hpay : Allocatable db payment.id payment)
    (ham : AmendsPayment payment.id touched db db₁)
    (hresp : ∀ i, RespectsInvoice db db₁ payment.id i)
    (hfunded : db₁.totalLatestAllocatedForPayment payment.id ≤ payment.amount) :
    BillingInv (db₁.commitAllocations today payment touched) := by
  have hsome : ∀ j, ((db₁.reproject today touched).find? j).isSome
      = (db.invoices.find? j).isSome := by
    intro j
    rw [find?_reproject, Option.isSome_map, ham.frame]
  have hcredit : db₁.creditApplications = db.creditApplications := by rw [ham.frame]
  have hevents : db₁.invoiceEvents = db.invoiceEvents := by rw [ham.frame]
  have hnotes : db₁.creditNotes = db.creditNotes := by rw [ham.frame]
  have hrefunds : db₁.refunds = db.refunds := by rw [ham.frame]
  have hpayments : db₁.payments = db.payments := by rw [ham.frame]
  have happlied : ∀ i, db₁.getAppliedTotalForInvoice i = db.getAppliedTotalForInvoice i := by
    intro i
    rw [Db.getAppliedTotalForInvoice, hcredit]
    rfl
  have hclosed : ∀ i, db₁.isClosed i = db.isClosed i := by
    intro i
    rw [Db.isClosed, Db.latestOutcomeEventType, hevents]
    rfl
  constructor
  · exact h.ledger.amended hpay ham hfunded
  · intro a ha
    exact (hsome a.invoiceId).trans (ham.isSome_find? h hresp ha)
  · intro a ha
    obtain ⟨hpos, hinv, hcn⟩ := h.credited a (hcredit ▸ ha)
    exact ⟨hpos, (hsome a.invoiceId).trans hinv, hnotes.symm ▸ hcn⟩
  · intro e he
    exact (hsome e.invoiceId).trans (h.history e (hevents ▸ he))
  · intro inv hinv
    obtain ⟨inv₀, hinv₀, rfl⟩ := List.mem_map.mp hinv
    have hmem : inv₀ ∈ db.invoices.rows := by
      have hinvoices : db₁.invoices = db.invoices := by rw [ham.frame]
      exact hinvoices ▸ hinv₀
    have hold := h.invoices inv₀ hmem
    have hfound : db.invoices.find? inv₀.id = some inv₀ :=
      Table.find?_eq_some_iff.mpr ⟨hmem, rfl⟩
    by_cases hi : inv₀.id ∈ touched
    · rw [if_pos hi]
      have hnonneg : 0 ≤ db₁.totalAllocatedForInvoice inv₀.id :=
        Table.sumWhere_nonneg fun a ha _ => (ham.positive a ha).le
      have hwithin := hold.within
      change InvoiceInv db₁ (inv₀.projected db₁ today)
      refine Settles.projected ?_ ?_
      · rw [happlied]
        rcases ham.total (hresp inv₀.id) with hle | ⟨inv, hinv, -, hroom⟩
        · omega
        · obtain rfl := Option.some.inj (hfound.symm.trans hinv)
          exact hroom
      · intro hdraft
        obtain ⟨hzero, hcredited⟩ := hold.draft hdraft
        rw [happlied]
        rcases ham.total (hresp inv₀.id) with hle | ⟨inv, hinv, hsent, -⟩
        · exact ⟨by omega, hcredited⟩
        · obtain rfl := Option.some.inj (hfound.symm.trans hinv)
          rw [hdraft] at hsent
          exact absurd hsent (by decide)
    · rw [if_neg hi]
      exact hold.congr (ham.totalAllocatedForInvoice_eq_of_notMem hi) (happlied _)
        (hclosed _)
  · intro cn hcn
    rw [Db.getAppliedTotalForCreditNote]
    exact le_trans (le_of_eq (by rw [Db.commitAllocations, hcredit]; rfl))
      (h.notes cn (hnotes ▸ hcn))
  · intro r hr
    have hold := h.refunds r (hrefunds ▸ hr)
    refine ⟨?_, hold.requested, hold.processed, hold.status⟩
    have howned := hold.owned
    rw [← hpayments] at howned
    rw [Db.commitAllocations, Table.isSome_find?_modify]
    exact howned

theorem BillingInv.paymentEffect {db : Db} (h : BillingInv db) (he : PaymentEffect today db db') :
    BillingInv db' := by
  induction he with
  | refl => exact h
  | created db payment seq hfresh halloc hunalloc hstatus hpos =>
      have hledger : PaymentEffect today db _ :=
        .created db payment seq hfresh halloc hunalloc hstatus hpos
      refine ⟨h.ledger.effect hledger, h.allocated, h.credited, h.history, h.invoices,
        h.notes, fun r hr => ?_⟩
      have hold := h.refunds r hr
      refine ⟨?_, hold.requested, hold.processed, hold.status⟩
      have hnew : payment.id ∉ db.payments.rows.map BillingPayment.id := by
        rw [hfresh]
        exact db.payments.fresh_notMem
      rw [Table.find?_insert hnew]
      split_ifs
      · rfl
      · exact hold.owned
  | updated db payment f hid hfound hamount halloc hunalloc hstatus =>
      have hledger : PaymentEffect today db _ :=
        .updated db payment f hid hfound hamount halloc hunalloc hstatus
      refine ⟨h.ledger.effect hledger, h.allocated, h.credited, h.history, h.invoices,
        h.notes, fun r hr => ?_⟩
      have hold := h.refunds r hr
      refine ⟨?_, hold.requested, hold.processed, hold.status⟩
      rw [Table.isSome_find?_modify]
      exact hold.owned
  | amended db db₁ payment touched hpay ham hresp hfunded =>
      exact h.amended hpay (ham h.ledger.positive) (hresp h.ledger.positive) hfunded
  | trans _ _ ih₁ ih₂ => exact ih₂ (ih₁ h)

/-! ### Invoices -/

theorem BillingInv.invoiceCreated {db : Db} (h : BillingInv db) {events : List InvoiceEvent}
    {seq : ℕ} (hfresh : inv.id = db.invoices.fresh) (hpaid : inv.paidAmount = 0)
    (hunpaid : inv.paymentStatus = .unpaid) (htotal : 0 ≤ inv.total)
    (hhistory : ∀ e ∈ events, e.invoiceId = inv.id ∧ e.eventType.isOutcome = false) :
    BillingInv { db with
      invoices := db.invoices.insert inv
      invoiceEvents := db.invoiceEvents ++ events
      invoiceNumberSeq := seq } := by
  have hnew : inv.id ∉ db.invoices.rows.map Invoice.id := by
    rw [hfresh]
    exact db.invoices.fresh_notMem
  have hkeep : ∀ {j : Id}, (db.invoices.find? j).isSome →
      ((db.invoices.insert inv).find? j).isSome := by
    intro j hj
    rw [Table.find?_insert hnew]
    split_ifs
    · rfl
    · exact hj
  have hself : ((db.invoices.insert inv).find? inv.id).isSome := by
    rw [Table.find?_insert hnew]
    exact (congrArg Option.isSome (if_pos rfl)).trans rfl
  have hclosed : ∀ i, Db.isClosed { db with invoiceEvents := db.invoiceEvents ++ events } i
      = db.isClosed i := fun i => isClosed_append fun e he _ => (hhistory e he).2
  refine ⟨h.ledger.congr rfl rfl, fun a ha => hkeep (h.allocated a ha),
    fun a ha => ?_, fun e he => ?_, fun i hi => ?_, h.notes,
    fun r hr => (h.refunds r hr).congr rfl⟩
  · obtain ⟨hpos, hinv, hcn⟩ := h.credited a ha
    exact ⟨hpos, hkeep hinv, hcn⟩
  · rcases List.mem_append.mp he with he | he
    · exact hkeep (h.history e he)
    · rw [(hhistory e he).1]
      exact hself
  · rw [Table.rows_insert_of_notMem hnew, List.mem_append, List.mem_singleton] at hi
    rcases hi with hi | rfl
    · exact (h.invoices i hi).congr rfl rfl (hclosed i.id)
    · obtain ⟨ha, hc, ho⟩ := h.unknown (Table.find?_eq_none_iff.mpr hnew)
      refine InvoiceInv.congr ⟨hpaid.trans ha.symm, ?_, ?_, fun _ => ⟨ha, hc⟩⟩
        rfl rfl (hclosed i.id)
      · rw [hunpaid, ho]
        rfl
      · rw [ha, hc]
        exact htotal

/-- Rewriting invoice rows and recording events of known invoices keeps the invariant
when it does so of each invoice. -/
theorem BillingInv.invoicesRewritten {db : Db} (h : BillingInv db) (invoices : TableOf Invoice)
    (events : List InvoiceEvent)
    (hsome : ∀ j, (invoices.find? j).isSome = (db.invoices.find? j).isSome)
    (hhistory : ∀ e ∈ events, (db.invoices.find? e.invoiceId).isSome)
    (hdb : db' = { db with invoices := invoices, invoiceEvents := db.invoiceEvents ++ events })
    (hinv : ∀ inv ∈ invoices.rows, InvoiceInv db' inv) : BillingInv db' := by
  subst hdb
  refine ⟨h.ledger.congr rfl rfl,
    fun a ha => (hsome _).trans (h.allocated a ha), fun a ha => ?_, fun e he => ?_, hinv,
    h.notes, fun r hr => (h.refunds r hr).congr rfl⟩
  · obtain ⟨hpos, hinv, hcn⟩ := h.credited a ha
    exact ⟨hpos, (hsome _).trans hinv, hcn⟩
  · rcases List.mem_append.mp he with he | he
    · exact (hsome _).trans (h.history e he)
    · exact (hsome _).trans (hhistory e he)

theorem BillingInv.invoiceRewritten {db : Db} (h : BillingInv db) {f : Invoice → Invoice}
    {events : List InvoiceEvent} (hid : ∀ i, (f i).id = i.id)
    (hfound : db.invoices.find? inv.id = some inv) (hpaid : (f inv).paidAmount = inv.paidAmount)
    (hstatus : (f inv).paymentStatus = inv.paymentStatus)
    (htotal : 0 ≤ inv.total → 0 ≤ (f inv).total)
    (hsent : inv.status = .sent → (f inv).total = inv.total ∧ (f inv).status = .sent)
    (hhistory : ∀ e ∈ events, e.invoiceId = inv.id ∧ e.eventType.isOutcome = false) :
    BillingInv { db with
      invoices := db.invoices.modify inv.id f hid
      invoiceEvents := db.invoiceEvents ++ events } := by
  refine h.invoicesRewritten _ events (fun j => Table.isSome_find?_modify _ _ _ hid j)
    (fun e he => ?_) rfl fun i hi => ?_
  · rw [(hhistory e he).1, hfound]
    rfl
  have hclosed : ∀ j, Db.isClosed { db with invoiceEvents := db.invoiceEvents ++ events } j
      = db.isClosed j := fun j => isClosed_append fun e he _ => (hhistory e he).2
  obtain ⟨i₀, hi₀, rfl⟩ := (Table.mem_modify_iff hid).mp hi
  have hold := h.invoices i₀ hi₀
  by_cases hkey : i₀.id = inv.id
  · obtain rfl : i₀ = inv := Table.eq_of_find? hfound hi₀ hkey
    simp only [Entity.id, if_true]
    suffices hnew : InvoiceInv db (f i₀) from hnew.congr rfl rfl (hclosed _)
    refine ⟨?_, ?_, ?_, ?_⟩
    · rw [hpaid, hid]
      exact hold.paid
    · rw [hstatus, hid]
      exact hold.outcome
    · rw [hid]
      cases hdoc : i₀.status with
      | sent =>
          rw [(hsent hdoc).1]
          exact hold.within
      | draft =>
          obtain ⟨ha, hc⟩ := hold.draft hdoc
          rw [ha, hc]
          exact htotal (h.total_nonneg hi₀)
    · intro hdraft
      rw [hid]
      cases hdoc : i₀.status with
      | sent =>
          rw [(hsent hdoc).2] at hdraft
          exact absurd hdraft (by decide)
      | draft => exact hold.draft hdoc
  · simp only [Entity.id, hkey, if_false]
    exact hold.congr rfl rfl (hclosed _)

theorem BillingInv.invoiceReprojected {db : Db} (h : BillingInv db) (today : Day)
    (ids : List Id) : BillingInv { db with invoices := db.reproject today ids } := by
  refine h.invoicesRewritten (db.reproject today ids) [] (fun j => ?_) (by simp)
    (by rw [List.append_nil]) ?_
  · rw [find?_reproject, Option.isSome_map]
  · intro inv hinv
    obtain ⟨inv₀, hinv₀, rfl⟩ := List.mem_map.mp hinv
    have hold := h.invoices inv₀ hinv₀
    split_ifs
    · exact Settles.projected hold.within hold.draft
    · exact hold.congr rfl rfl rfl

theorem BillingInv.invoiceClosed {db : Db} (h : BillingInv db) {f : Invoice → Invoice}
    {outcome : InvoiceEvent} (hid : ∀ i, (f i).id = i.id)
    (hfound : db.invoices.find? inv.id = some inv) (htotal : (f inv).total = inv.total)
    (hstatus : (f inv).status = inv.status) (hevent : outcome.invoiceId = inv.id)
    (hdb : db₁ = { db with
      invoices := db.invoices.modify inv.id f hid
      invoiceEvents := db.invoiceEvents ++ [outcome] }) :
    BillingInv { db₁ with invoices := db₁.reproject today [inv.id] } := by
  subst hdb
  refine h.invoicesRewritten _ [outcome] (fun j => ?_) (fun e he => ?_) rfl fun i hi => ?_
  · rw [find?_reproject, Option.isSome_map, Table.isSome_find?_modify]
  · rw [List.mem_singleton.mp he, hevent, hfound]
    rfl
  obtain ⟨i₁, hi₁, rfl⟩ := List.mem_map.mp hi
  obtain ⟨i₀, hi₀, rfl⟩ := (Table.mem_modify_iff hid).mp hi₁
  have hold := h.invoices i₀ hi₀
  by_cases hkey : i₀.id = inv.id
  · obtain rfl : i₀ = inv := Table.eq_of_find? hfound hi₀ hkey
    simp only [Entity.id, hid, if_true, List.mem_singleton]
    refine Settles.projected ?_ ?_
    · rw [hid, htotal]
      exact hold.within
    · rw [hid, hstatus]
      exact hold.draft
  · simp only [Entity.id, hkey, if_false, List.mem_singleton]
    refine hold.congr rfl rfl (isClosed_append fun e he hi => ?_)
    rw [List.mem_singleton.mp he, hevent] at hi
    exact absurd hi.symm hkey

/-! ### Credit notes -/

theorem BillingInv.noteCreated {db : Db} (h : BillingInv db) {cn : CreditNote}
    (hfresh : cn.id = db.creditNotes.fresh) (hamount : 0 < cn.totalCreditAmount) :
    BillingInv { db with creditNotes := db.creditNotes.insert cn } := by
  have hnew : cn.id ∉ db.creditNotes.rows.map CreditNote.id := by
    rw [hfresh]
    exact db.creditNotes.fresh_notMem
  refine ⟨h.ledger.congr rfl rfl, h.allocated, fun a ha => ?_, h.history,
    h.invoices, fun note hnote => ?_, fun r hr => (h.refunds r hr).congr rfl⟩
  · obtain ⟨hpos, hinv, hcn⟩ := h.credited a ha
    refine ⟨hpos, hinv, ?_⟩
    rw [Table.find?_insert hnew]
    split_ifs
    · rfl
    · exact hcn
  · rw [Table.rows_insert_of_notMem hnew, List.mem_append, List.mem_singleton] at hnote
    rcases hnote with hnote | rfl
    · exact h.notes note hnote
    · -- Nothing was applied of a note that did not exist.
      refine le_trans (le_of_eq (Table.sumWhere_eq_zero fun a ha hai => ?_)) hamount.le
      have hsome := (h.credited a ha).2.2
      rw [hai, Table.find?_eq_none_iff.mpr hnew] at hsome
      exact absurd hsome (by decide)

theorem BillingInv.noteUpdated {db : Db} (h : BillingInv db) {id : Id}
    {f : CreditNote → CreditNote} (hid : ∀ cn, (f cn).id = cn.id)
    (hamount : ∀ cn, (f cn).totalCreditAmount = cn.totalCreditAmount) :
    BillingInv { db with creditNotes := db.creditNotes.modify id f hid } := by
  refine ⟨h.ledger.congr rfl rfl, h.allocated, fun a ha => ?_, h.history,
    h.invoices, fun note hnote => ?_, fun r hr => (h.refunds r hr).congr rfl⟩
  · obtain ⟨hpos, hinv, hcn⟩ := h.credited a ha
    exact ⟨hpos, hinv, (Table.isSome_find?_modify _ _ _ hid _).trans hcn⟩
  · obtain ⟨cn, hcn, rfl⟩ := (Table.mem_modify_iff hid).mp hnote
    have hold := h.notes cn hcn
    split_ifs
    · rw [hid, hamount]
      exact hold
    · exact hold

theorem BillingInv.creditApplied {db : Db} (h : BillingInv db) {cn : CreditNote}
    {app : InvoiceCreditApplication} {event : InvoiceEvent}
    (hnote : db.creditNotes.find? cn.id = some cn) (hfound : db.invoices.find? inv.id = some inv)
    (hsent : inv.status = .sent) (hfresh : app.id = db.creditApplications.fresh)
    (hinvoice : app.invoiceId = inv.id) (hcredit : app.creditNoteId = cn.id)
    (hpositive : 0 < app.appliedAmount)
    (hremaining : app.appliedAmount ≤ cn.totalCreditAmount - db.getAppliedTotalForCreditNote cn.id)
    (houtstanding : app.appliedAmount ≤ inv.total - db.getAppliedTotalForInvoice inv.id
      - db.totalAllocatedForInvoice inv.id)
    (hhistory : event.invoiceId = inv.id ∧ event.eventType.isOutcome = false) (hdb : db₁ = { db with
      creditApplications := db.creditApplications.insert app
      invoiceEvents := db.invoiceEvents ++ [event] }) :
    BillingInv { db₁ with invoices := db₁.reproject today [inv.id] } := by
  have hnew : app.id ∉ db.creditApplications.rows.map InvoiceCreditApplication.id := by
    rw [hfresh]
    exact db.creditApplications.fresh_notMem
  have hclosed : ∀ i, db₁.isClosed i = db.isClosed i := by
    intro i
    rw [hdb]
    refine isClosed_append fun e he _ => ?_
    rw [List.mem_singleton.mp he]
    exact hhistory.2
  have happlied : ∀ i, db₁.getAppliedTotalForInvoice i
      = db.getAppliedTotalForInvoice i + if inv.id = i then app.appliedAmount else 0 := by
    intro i
    rw [hdb, Db.getAppliedTotalForInvoice, Table.sumWhere_insert hnew, hinvoice]
    rfl
  have hsome : ∀ j, ((db₁.reproject today [inv.id]).find? j).isSome
      = (db.invoices.find? j).isSome := by
    intro j
    rw [find?_reproject, Option.isSome_map, hdb]
  have hledger : db₁.allocations = db.allocations ∧ db₁.invoices = db.invoices := by
    rw [hdb]
    exact ⟨rfl, rfl⟩
  have htotal : ∀ i, db₁.totalAllocatedForInvoice i = db.totalAllocatedForInvoice i := by
    intro i
    rw [Db.totalAllocatedForInvoice, hledger.1]
    rfl
  constructor
  · exact h.ledger.congr hledger.1 (by rw [hdb])
  · intro a ha
    exact (hsome a.invoiceId).trans (h.allocated a (hledger.1 ▸ ha))
  · intro a ha
    have hnotes : db₁.creditNotes = db.creditNotes := by rw [hdb]
    rw [hdb, Table.rows_insert_of_notMem hnew, List.mem_append, List.mem_singleton] at ha
    rcases ha with ha | rfl
    · obtain ⟨hpos, hinv, hcn⟩ := h.credited a ha
      exact ⟨hpos, (hsome _).trans hinv, hnotes.symm ▸ hcn⟩
    · refine ⟨hpositive, (hsome _).trans ?_, ?_⟩
      · rw [hinvoice, hfound]
        rfl
      · rw [hcredit, hnotes, hnote]
        rfl
  · intro e he
    rw [hdb] at he
    refine (hsome e.invoiceId).trans ?_
    rcases List.mem_append.mp he with he | he
    · exact h.history e he
    · rw [List.mem_singleton.mp he, hhistory.1, hfound]
      rfl
  · intro i hi
    obtain ⟨i₀, hi₀, rfl⟩ := List.mem_map.mp hi
    rw [hledger.2] at hi₀
    have hold := h.invoices i₀ hi₀
    by_cases hkey : i₀.id = inv.id
    · obtain rfl : i₀ = inv := Table.eq_of_find? hfound hi₀ hkey
      rw [if_pos (List.mem_singleton.mpr rfl)]
      change InvoiceInv db₁ (i₀.projected db₁ today)
      refine Settles.projected ?_ ?_
      · rw [happlied, htotal, if_pos rfl]
        omega
      · intro hdraft
        rw [hsent] at hdraft
        exact absurd hdraft (by decide)
    · rw [if_neg (by rw [List.mem_singleton]; exact hkey)]
      refine hold.congr (htotal _) ((happlied _).trans ?_) (hclosed _)
      rw [if_neg fun heq => hkey heq.symm, add_zero]
  · intro note hmem
    have hmem : note ∈ db.creditNotes.rows := by
      rw [hdb] at hmem
      exact hmem
    have hold := h.notes note hmem
    have hnoted : db₁.getAppliedTotalForCreditNote note.id
        = db.getAppliedTotalForCreditNote note.id
          + if cn.id = note.id then app.appliedAmount else 0 := by
      rw [hdb, Db.getAppliedTotalForCreditNote, Table.sumWhere_insert hnew, hcredit]
      rfl
    refine le_trans (le_of_eq hnoted) ?_
    by_cases hkey : cn.id = note.id
    · obtain rfl : note = cn := Table.eq_of_find? hnote hmem hkey.symm
      rw [if_pos rfl]
      omega
    · rw [if_neg hkey, add_zero]
      exact hold
  · intro r hr
    rw [hdb] at hr
    exact (h.refunds r hr).congr (by rw [hdb])

/-! ### Requests and runs -/

/-- **Every document effect keeps the invariant.** -/
theorem BillingInv.documentEffect {db : Db} (h : BillingInv db) (he : DocumentEffect today db db') :
    BillingInv db' := by
  induction he with
  | refl => exact h
  | invoiceCreated db inv events seq hfresh hpaid hunpaid htotal hhistory =>
      exact h.invoiceCreated hfresh hpaid hunpaid htotal hhistory
  | invoiceRewritten db inv f events hid hfound hpaid hstatus htotal hsent hhistory =>
      exact h.invoiceRewritten hid hfound hpaid hstatus htotal hsent hhistory
  | invoiceReprojected db i => exact h.invoiceReprojected today [i]
  | invoiceClosed db db₁ inv f outcome hid hfound hopen htotal hstatus hevent hdb =>
      exact h.invoiceClosed hid hfound htotal hstatus hevent.1 hdb
  | noteCreated db cn hfresh hamount => exact h.noteCreated hfresh hamount
  | noteUpdated db id f hid hamount => exact h.noteUpdated hid hamount
  | creditApplied db db₁ cn inv app event hnote hfound hsent hopen hfresh hinvoice hcredit
      hpositive hremaining houtstanding hhistory hdb =>
      exact h.creditApplied hnote hfound hsent hfresh hinvoice hcredit hpositive hremaining
        houtstanding hhistory hdb
  | trans _ _ ih₁ ih₂ => exact ih₂ (ih₁ h)

/-- Refund rows may be rewritten freely within their own invariant. -/
theorem BillingInv.refundsRewritten {db : Db} (h : BillingInv db) (refunds : TableOf Refund)
    (hr : ∀ r ∈ refunds.rows, RefundInv db r) : BillingInv { db with refunds := refunds } := by
  refine ⟨h.ledger.congr rfl rfl, h.allocated, h.credited, h.history,
    h.invoices, h.notes, fun r hmem => (hr r hmem).congr rfl⟩

theorem BillingInv.refundUpdate {db : Db} (h : BillingInv db) (he : RefundUpdate today db db') :
    BillingInv db' := by
  cases he with
  | refl => exact h
  | updated db₁ refund f hid hnote hfound howner hrequested hprocessed hstatus =>
      refine (h.documentEffect hnote).refundsRewritten _ fun r hr => ?_
      obtain ⟨r₀, hr₀, rfl⟩ := (Table.mem_modify_iff hid).mp hr
      have hold := (h.documentEffect hnote).refunds r₀ hr₀
      by_cases hkey : r₀.id = refund.id
      · obtain rfl : r₀ = refund :=
          Table.eq_of_find? hfound (hnote.frame.2.2 ▸ hr₀) hkey
        simp only [if_true]
        refine ⟨howner.symm ▸ hold.owned, hrequested.symm ▸ hold.requested, ?_, hstatus⟩
        have hwithin := hold.processed
        rw [hrequested]
        rcases hprocessed with hp | hp <;> omega
      · simp only [hkey, if_false]
        exact hold

/-- **Every refund effect keeps the invariant.** -/
theorem BillingInv.refundEffect {db : Db} (h : BillingInv db) (he : RefundEffect today db db') :
    BillingInv db' := by
  cases he with
  | update he => exact h.refundUpdate he
  | created payment refund hfound howner hfresh hrequested hremaining hprocessed hstatus =>
      refine h.refundsRewritten _ fun r hr => ?_
      have hnew : refund.id ∉ db.refunds.rows.map Refund.id := by
        rw [hfresh]
        exact db.refunds.fresh_notMem
      rw [Table.rows_insert_of_notMem hnew, List.mem_append, List.mem_singleton] at hr
      rcases hr with hr | rfl
      · exact h.refunds r hr
      · refine ⟨by rw [howner, hfound]; rfl, hrequested, ?_, hstatus⟩
        rcases hprocessed with hp | hp <;> omega

theorem BillingInv.step {db : Db} (h : BillingInv db) (request : Day × BillingOp) :
    BillingInv (BillingOp.step db request) := by
  rcases BillingOp.step_cases h.refund_positive request with he | he | he
  · exact h.paymentEffect he
  · exact h.documentEffect he
  · exact h.refundEffect he

/-- **Every run of billing requests keeps the invariant.** -/
theorem billingInv_run (users : TableOf User) (requests : List (Day × BillingOp)) :
    BillingInv (Runs.run BillingOp.step (Db.initial users) requests) :=
  Runs.run_invariant (I := BillingInv) (fun _ request h => h.step request)
    (billingInv_initial users) requests

end SwCouriers
