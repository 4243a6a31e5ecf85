import SwCouriers.AllocationWrites

/-!
# Projections Match the Allocation Ledger

A payment row carries its allocated and unallocated amounts, an invoice row what was
paid on it and the resulting status. Both are copies of sums over the allocation rows,
refreshed by the calls that write those rows. This module shows that the copies are
right after every sequence of payment calls.

`PaymentEffect` says once what a payment call may do to the database; the invariants are
read off its five cases. A call that raises does nothing.

## Main results

* `PaymentOp.exec_effect`: every accepted payment call is a `PaymentEffect`.
* `LedgerInv.effect`: the ledger invariant is kept by every effect.
* `projections_match_ledger`: after every run of payment calls from an empty ledger,
  the payments' projections are the sums of their rows, no net allocation is negative,
  and every invoice that the run has written carries the sum of its rows and the status
  computed from it.
-/

namespace SwCouriers

open Checked

/-! ### Effects of payment calls -/

/-- An allocation write respects an invoice when it does not raise what the payment
puts on it, or when the invoice is a sent one whose total covers all that is settled. -/
def RespectsInvoice (db db₁ : Db) (paymentId i : Id) : Prop :=
  db₁.netAllocation paymentId i ≤ db.netAllocation paymentId i ∨
  ∃ inv, db.invoices.find? i = some inv ∧ inv.status = .sent ∧
    db₁.totalAllocatedForInvoice i + db.getAppliedTotalForInvoice i ≤ inv.total

/-- What a payment call may do to the database. -/
inductive PaymentEffect (today : Day) : Db → Db → Prop
  | refl (db : Db) : PaymentEffect today db db
  | created (db : Db) (payment : BillingPayment) (seq : ℕ)
      (fresh : payment.id = db.payments.fresh) (allocated : payment.allocatedAmount = 0)
      (unallocated : payment.unallocatedAmount = payment.amount)
      (status : payment.allocationStatus = .unallocated) (positive : 0 < payment.amount) :
      PaymentEffect today db
        { db with payments := db.payments.insert payment, paymentNumberSeq := seq }
  /-- A status change: the row is rewritten, its amounts and projections are not. -/
  | updated (db : Db) (payment : BillingPayment) (f : BillingPayment → BillingPayment)
      (id : ∀ p, (f p).id = p.id) (found : db.payments.find? payment.id = some payment)
      (amount : ∀ p, (f p).amount = p.amount)
      (allocated : ∀ p, (f p).allocatedAmount = p.allocatedAmount)
      (unallocated : ∀ p, (f p).unallocatedAmount = p.unallocatedAmount)
      (status : ∀ p, (f p).allocationStatus = p.allocationStatus) :
      PaymentEffect today db { db with payments := db.payments.modify payment.id f id }
  /-- An allocation write. -/
  | amended (db db₁ : Db) (payment : BillingPayment) (touched : List Id)
      (allocatable : Allocatable db payment.id payment)
      (amends : db.PositiveRows → AmendsPayment payment.id touched db db₁)
      (respects : db.PositiveRows → ∀ i, RespectsInvoice db db₁ payment.id i)
      (funded : db₁.totalLatestAllocatedForPayment payment.id ≤ payment.amount) :
      PaymentEffect today db (db₁.commitAllocations today payment touched)
  | trans {db db₁ db₂ : Db} (first : PaymentEffect today db db₁)
      (second : PaymentEffect today db₁ db₂) : PaymentEffect today db db₂

variable {db db' : Db} {today : Day}

theorem createPayment_effect {organizationId : Id} {amount transactionFee : ℤ} {paymentDate : Day}
    {status : PaymentRecordStatus} {provider : PaymentProvider} {providerTxnId : Option String}
    (hpos : 0 < amount)
    (h : createPayment db organizationId amount transactionFee paymentDate status provider
      providerTxnId = .ok db') : PaymentEffect today db db' := by
  replace h := ok_of_check h
  obtain rfl := pure_eq_ok.mp h
  exact .created db _ _ rfl rfl rfl rfl hpos

theorem recordPayment_effect {input : PaymentInput} (h : recordPayment db input = .ok db') :
    PaymentEffect today db db' := by
  replace h := ok_of_check h
  obtain ⟨hpos, h⟩ := raiseIf_bind_eq_ok.mp h
  replace h := ok_of_check h
  replace h := ok_of_check h
  exact createPayment_effect (not_le.mp hpos) h

theorem addOrReviseAllocations_effect {paymentId : Id} {allocations : List AllocationInput}
    (h : addOrReviseAllocations db today paymentId allocations = .ok db') :
    PaymentEffect today db db' := by
  obtain ⟨payment, rows, hpay, hrows, hroom, hfunded, rfl⟩ := addOrReviseAllocations_ok h
  obtain rfl := hpay.id_eq
  obtain ⟨-, hpos, hnd⟩ := normalizeAllocations_ok hrows
  refine .amended db _ payment _ hpay (fun hp => amendsPayment_insert hp hpos) ?_ hfunded
  intro _ i
  by_cases hi : i ∈ rows.map (·.invoiceId)
  · obtain ⟨row, hrow, rfl⟩ := List.mem_map.mp hi
    obtain ⟨inv, hinv, hsent, hle⟩ := hroom row hrow
    refine .inr ⟨inv, (invById_eq_some.mp hinv).1, hsent, ?_⟩
    rw [totalAllocatedForInvoice_eq _ payment.id, netAllocation_insertAllocations,
      otherAllocation_insertAllocations, amountOn_eq_of_mem hnd hrow]
    have := totalAllocatedForInvoice_eq db payment.id row.invoiceId
    omega
  · refine .inl ?_
    rw [netAllocation_insertAllocations, amountOn_eq_zero hi]
    omega

theorem applyAllocationTargets_effect {payment : BillingPayment}
    (hpay : Allocatable db payment.id payment) {targetMap : List NormalizedAllocation}
    (hpos : ∀ t ∈ targetMap, 0 < t.allocatedAmount) (hnd : (targetMap.map (·.invoiceId)).Nodup)
    (h : applyAllocationTargets db today payment targetMap = .ok db') :
    PaymentEffect today db db' := by
  rcases applyAllocationTargets_ok hpay h with ⟨rfl, -⟩ | ⟨hroom, hfunded, rfl⟩
  · exact .refl db'
  refine .amended db _ payment _ hpay ?_ ?_ hfunded
  · intro hp
    exact amendsPayment_replace hp hpos (fun i hi => mem_touchedIds.mpr (.inr hi))
      fun i hi => mem_touchedIds.mpr (.inl hi)
  intro hp i
  by_cases hi : i ∈ targetMap.map (·.invoiceId)
  · obtain ⟨t, ht, rfl⟩ := List.mem_map.mp hi
    obtain ⟨inv, hinv, hsent, hle⟩ := hroom t ht
    refine .inr ⟨inv, (invById_eq_some.mp hinv).1, hsent, ?_⟩
    rw [totalAllocatedForInvoice_eq _ payment.id, netAllocation_insertAllocations,
      netAllocation_deleteAllocations, otherAllocation_insertAllocations,
      otherAllocation_deleteAllocations, amountOn_eq_of_mem hnd ht]
    -- What the payment has on the invoice is its entry in the current map.
    have hcur : ((db.currentMap payment.id).lookup t.invoiceId).getD 0
        = db.netAllocation payment.id t.invoiceId := by
      have := hp.netAllocation_nonneg payment.id t.invoiceId
      rw [lookup_currentMap]
      split_ifs with hnet
      · rfl
      · rw [Option.getD_none]
        omega
    have := totalAllocatedForInvoice_eq db payment.id t.invoiceId
    omega
  · refine .inl ?_
    rw [netAllocation_insertAllocations, netAllocation_deleteAllocations,
      amountOn_eq_zero hi]
    have := hp.netAllocation_nonneg payment.id i
    omega

theorem voidPayment_effect {organizationId paymentId : Id} {expectedVersion : Option ℕ}
    (h : voidPayment db organizationId paymentId expectedVersion = .ok db') :
    PaymentEffect today db db' := by
  rcases voidPayment_ok h with rfl | ⟨payment, version, hfound, -, -, rfl⟩
  · exact .refl db'
  · refine .updated db payment _ ?_ hfound ?_ ?_ ?_ ?_
    all_goals exact fun _ => rfl

theorem markPaymentStatus_effect {organizationId paymentId : Id} {toStatus : PaymentRecordStatus}
    {providerTxnId : Option String} {transactionFee : Option ℚ}
    (h : markPaymentStatus db organizationId paymentId toStatus providerTxnId
      transactionFee = .ok db') : PaymentEffect today db db' := by
  obtain ⟨payment, fee, hfound, -, -, -, -, -, rfl⟩ := markPaymentStatus_ok h
  refine .updated db payment _ ?_ hfound ?_ ?_ ?_ ?_
  all_goals exact fun _ => rfl

/-- **Every accepted payment call is a payment effect.** -/
theorem PaymentOp.exec_effect {op : PaymentOp} (h : op.exec db today = .ok db') :
    PaymentEffect today db db' := by
  cases op with
  | recordPayment input => exact recordPayment_effect h
  | createPendingPayment organizationId amount paymentDate provider =>
      obtain ⟨⟨⟩, hpos, h⟩ := bind_eq_ok.mp h
      exact createPayment_effect (not_le.mp (raiseIf_eq_ok.mp hpos)) h
  | recordPaymentWithAllocations input allocations =>
      obtain ⟨db₁, hrec, h⟩ := bind_eq_ok.mp h
      split at h
      · obtain rfl := pure_eq_ok.mp h
        exact recordPayment_effect hrec
      · exact .trans (recordPayment_effect hrec) (addOrReviseAllocations_effect h)
  | addOrReviseAllocations paymentId allocations => exact addOrReviseAllocations_effect h
  | replaceAllocations paymentId allocations =>
      obtain ⟨payment, rows, hpay, hrows, happly⟩ := replaceAllocations_ok h
      obtain rfl := hpay.id_eq
      obtain ⟨-, hpos, hnd⟩ := normalizeAllocations_ok hrows
      exact applyAllocationTargets_effect hpay hpos hnd happly
  | removeAllocation paymentId invoiceId =>
      obtain ⟨payment, invoiceKey, hpay, -, happly⟩ := removeAllocation_ok h
      obtain rfl := hpay.id_eq
      obtain ⟨hentries, hnd⟩ := withoutInvoice_spec db payment.id invoiceKey
      exact applyAllocationTargets_effect hpay (fun t ht => (hentries t ht).1) hnd happly
  | voidPayment organizationId paymentId expectedVersion => exact voidPayment_effect h
  | markPaymentStatus organizationId paymentId toStatus providerTxnId transactionFee =>
      exact markPaymentStatus_effect h

/-! ### The ledger invariant -/

/-- A payment row carries the sums of its allocation rows. -/
structure PaymentMatches (db : Db) (p : BillingPayment) : Prop where
  allocated : p.allocatedAmount = db.totalLatestAllocatedForPayment p.id
  balance : p.allocatedAmount + p.unallocatedAmount = p.amount
  status : p.allocationStatus = allocationStatusOf p.allocatedAmount p.unallocatedAmount
  funded : 0 ≤ p.unallocatedAmount

/-- The invariant of the allocation ledger. -/
structure LedgerInv (db : Db) : Prop where
  positive : db.PositiveRows
  owned : ∀ a ∈ db.allocations.rows, (db.payments.find? a.paymentId).isSome
  payments : ∀ p ∈ db.payments.rows, PaymentMatches db p

/-- A payment that does not exist has no rows. -/
theorem LedgerInv.totalLatestAllocatedForPayment_eq_zero (h : LedgerInv db) {p : Id}
    (hp : db.payments.find? p = none) : db.totalLatestAllocatedForPayment p = 0 := by
  refine Table.sumWhere_eq_zero fun a ha hap => ?_
  have hsome := h.owned a ha
  rw [hap, hp] at hsome
  exact absurd hsome (by decide)

theorem find?_fresh (t : TableOf BillingPayment) : t.find? t.fresh = none :=
  Table.find?_eq_none_iff.mpr t.fresh_notMem

theorem LedgerInv.created (h : LedgerInv db) {payment : BillingPayment} (seq : ℕ)
    (hfresh : payment.id = db.payments.fresh) (hmatch : PaymentMatches db payment) :
    LedgerInv { db with
      payments := db.payments.insert payment, paymentNumberSeq := seq } where
  positive := h.positive
  owned a ha := by
    have hnew : payment.id ∉ db.payments.rows.map BillingPayment.id := by
      rw [hfresh]
      exact db.payments.fresh_notMem
    rw [Table.find?_insert hnew]
    split_ifs
    · rfl
    · exact h.owned a ha
  payments p hp := by
    have hnew : payment.id ∉ db.payments.rows.map BillingPayment.id := by
      rw [hfresh]
      exact db.payments.fresh_notMem
    rw [Table.rows_insert_of_notMem hnew, List.mem_append, List.mem_singleton] at hp
    rcases hp with hp | rfl
    · exact ⟨(h.payments p hp).1, (h.payments p hp).2, (h.payments p hp).3,
        (h.payments p hp).4⟩
    · exact ⟨hmatch.1, hmatch.2, hmatch.3, hmatch.4⟩

/-- The rows after an allocation write match the ledger: the amended payment was
recomputed, and no other payment's rows moved. -/
theorem LedgerInv.amended {db₁ : Db} (h : LedgerInv db) {payment : BillingPayment}
    {touched : List Id} (hpay : Allocatable db payment.id payment)
    (ham : AmendsPayment payment.id touched db db₁)
    (hfunded : db₁.totalLatestAllocatedForPayment payment.id ≤ payment.amount) :
    LedgerInv (db₁.commitAllocations today payment touched) where
  positive := ham.positive
  owned a ha := by
    have hsame : db₁.payments = db.payments := by rw [ham.frame]
    have hkept : ((db₁.commitAllocations today payment touched).payments.find?
        a.paymentId).isSome = (db.payments.find? a.paymentId).isSome := by
      rw [← hsame]
      exact Table.isSome_find?_modify _ _ _ (BillingPayment.projected_id db₁) _
    rw [hkept]
    rcases ham.rows a ha with hold | hnew
    · exact h.owned a hold
    · rw [hnew, hpay.found]
      rfl
  payments p hp := by
    have hsame : db₁.payments = db.payments := by rw [ham.frame]
    obtain ⟨p₀, hp₀, rfl⟩ :=
      (Table.mem_modify_iff (BillingPayment.projected_id db₁)).mp hp
    rw [hsame] at hp₀
    by_cases hid : p₀.id = payment.id
    · obtain rfl : p₀ = payment := Table.eq_of_find? hpay.found hp₀ hid
      simp only [Entity.id, if_true]
      refine ⟨rfl, ?_, rfl, ?_⟩
      · simp [BillingPayment.projected]
      · simp only [BillingPayment.projected]
        omega
    · have hmatch := h.payments p₀ hp₀
      simp only [Entity.id, hid, if_false]
      exact ⟨hmatch.1.trans (ham.payment p₀.id hid).symm, hmatch.2, hmatch.3, hmatch.4⟩

/-- **The ledger invariant is kept by every payment effect.** -/
theorem LedgerInv.effect (h : LedgerInv db) (he : PaymentEffect today db db') : LedgerInv db' := by
  induction he with
  | refl => exact h
  | created db payment seq hfresh halloc hunalloc hstatus hpos =>
      refine h.created seq hfresh ⟨?_, by omega, ?_, by omega⟩
      · rw [halloc, hfresh, h.totalLatestAllocatedForPayment_eq_zero (find?_fresh _)]
      · rw [hstatus, halloc]
        rfl
  | updated db payment f hid hfound hamount halloc hunalloc hstatus =>
      refine ⟨h.positive, fun a ha => ?_, fun p hp => ?_⟩
      · rw [Table.isSome_find?_modify]
        exact h.owned a ha
      · obtain ⟨p₀, hp₀, rfl⟩ := (Table.mem_modify_iff hid).mp hp
        have hmatch := h.payments p₀ hp₀
        split_ifs
        · refine ⟨?_, ?_, ?_, ?_⟩
          · rw [halloc, hid]
            exact hmatch.1
          · rw [halloc, hunalloc, hamount]
            exact hmatch.2
          · rw [hstatus, halloc, hunalloc]
            exact hmatch.3
          · rw [hunalloc]
            exact hmatch.4
        · exact ⟨hmatch.1, hmatch.2, hmatch.3, hmatch.4⟩
  | amended db db₁ payment touched hpay ham _ hfunded =>
      exact h.amended hpay (ham h.positive) hfunded
  | trans _ _ ih₁ ih₂ => exact ih₂ (ih₁ h)

/-! ### Invoices -/

/-- An invoice row carries the sum of its allocation rows and the payment status of its
stored totals, as of the day the row was written. -/
structure InvoiceMatches (db : Db) (inv : Invoice) : Prop where
  paid : inv.paidAmount = db.totalAllocatedForInvoice inv.id
  status : inv.paymentStatus = computePaymentStatus inv inv.paidAmount
    (db.getAppliedTotalForInvoice inv.id) (db.latestOutcomeEventType inv.id) inv.updatedAt

/-- A payment effect leaves credit applications and invoice events alone, and each
invoice either as it was, with what is paid on it, or matching the ledger. -/
theorem PaymentEffect.invoice (he : PaymentEffect today db db') (h : LedgerInv db) :
    db'.creditApplications = db.creditApplications ∧
    db'.invoiceEvents = db.invoiceEvents ∧
    ∀ i, (db'.invoices.find? i = db.invoices.find? i ∧
        db'.totalAllocatedForInvoice i = db.totalAllocatedForInvoice i) ∨
      ∀ inv, db'.invoices.find? i = some inv → InvoiceMatches db' inv := by
  induction he with
  | refl => exact ⟨rfl, rfl, fun i => .inl ⟨rfl, rfl⟩⟩
  | created => exact ⟨rfl, rfl, fun i => .inl ⟨rfl, rfl⟩⟩
  | updated => exact ⟨rfl, rfl, fun i => .inl ⟨rfl, rfl⟩⟩
  | amended db db₁ payment touched hpay ham _ _ =>
      have ham := ham h.positive
      have hcredit : db₁.creditApplications = db.creditApplications := by rw [ham.frame]
      have hevents : db₁.invoiceEvents = db.invoiceEvents := by rw [ham.frame]
      have hinvoices : db₁.invoices = db.invoices := by rw [ham.frame]
      refine ⟨hcredit, hevents, fun i => ?_⟩
      by_cases hi : i ∈ touched
      · refine .inr fun inv hinv => ?_
        rw [Db.commitAllocations, find?_reproject] at hinv
        obtain ⟨inv₀, -, rfl⟩ := Option.map_eq_some_iff.mp hinv
        rw [if_pos hi]
        exact ⟨rfl, rfl⟩
      · refine .inl ⟨?_, ham.totalAllocatedForInvoice_eq_of_notMem hi⟩
        rw [Db.commitAllocations, find?_reproject, hinvoices]
        simp only [hi, if_false, Option.map_id']
  | @trans db db₁ db₂ he₁ _ ih₁ ih₂ =>
      obtain ⟨hc₁, hev₁, hinv₁⟩ := ih₁ h
      obtain ⟨hc₂, hev₂, hinv₂⟩ := ih₂ (h.effect he₁)
      refine ⟨hc₂.trans hc₁, hev₂.trans hev₁, fun i => ?_⟩
      rcases hinv₂ i with ⟨hrow₂, htot₂⟩ | hmatch
      · rcases hinv₁ i with ⟨hrow₁, htot₁⟩ | hmatch
        · exact .inl ⟨hrow₂.trans hrow₁, htot₂.trans htot₁⟩
        · -- The first effect rewrote the row and the second left it alone.
          refine .inr fun inv hinv => ?_
          have hid : inv.id = i := (Table.find?_eq_some_iff.mp hinv).2
          obtain ⟨hpaid, hstatus⟩ := hmatch inv (hrow₂ ▸ hinv)
          refine ⟨hpaid.trans (by rw [hid, htot₂]), hstatus.trans ?_⟩
          rw [Db.getAppliedTotalForInvoice, Db.getAppliedTotalForInvoice,
            Db.latestOutcomeEventType, Db.latestOutcomeEventType, hc₂, hev₂]
      · exact .inr hmatch

/-! ### Runs -/

/-- Serve a dated request; a call that raises is rolled back. -/
def PaymentOp.step (db : Db) (request : Day × PaymentOp) : Db :=
  settle db (request.2.exec db request.1)

/-- A database before its first payment: any invoices, credit notes and events. -/
def Db.beforePayments (db : Db) : Db :=
  { db with payments := .empty, allocations := .empty }

/-- Some request of the run has rewritten the invoice's row. -/
def Touched (db : Db) (requests : List (Day × PaymentOp)) (i : Id) : Prop :=
  ∃ pre request post, requests = pre ++ request :: post ∧
    (Runs.run PaymentOp.step db (pre ++ [request])).invoices.find? i
      ≠ (Runs.run PaymentOp.step db pre).invoices.find? i

theorem ledgerInv_beforePayments (db : Db) : LedgerInv db.beforePayments where
  positive := by simp [Db.PositiveRows, Db.beforePayments]
  owned := by simp [Db.beforePayments]
  payments := by simp [Db.beforePayments]

/-- A served request is an effect, or nothing happened. -/
theorem PaymentOp.step_effect (db : Db) (request : Day × PaymentOp) :
    PaymentEffect request.1 db (PaymentOp.step db request) := by
  rcases settle_eq db (request.2.exec db request.1) with hok | heq
  · exact PaymentOp.exec_effect hok
  · rw [PaymentOp.step, heq]
    exact .refl db

theorem LedgerInv.step (h : LedgerInv db) (request : Day × PaymentOp) :
    LedgerInv (PaymentOp.step db request) :=
  h.effect (PaymentOp.step_effect db request)

theorem LedgerInv.run (h : LedgerInv db) (requests : List (Day × PaymentOp)) :
    LedgerInv (Runs.run PaymentOp.step db requests) :=
  Runs.run_invariant (I := LedgerInv) (fun _ request hs => hs.step request) h requests

/-- Once an invoice matches the ledger it does so after every further request. -/
theorem invoiceMatches_step (h : LedgerInv db) {i : Id}
    (hmatch : ∀ inv, db.invoices.find? i = some inv → InvoiceMatches db inv)
    (request : Day × PaymentOp) :
    ∀ inv, (PaymentOp.step db request).invoices.find? i = some inv →
      InvoiceMatches (PaymentOp.step db request) inv := by
  obtain ⟨hcredit, hevents, hinv⟩ := (PaymentOp.step_effect db request).invoice h
  rcases hinv i with ⟨hrow, htotal⟩ | hnew
  · intro inv hfind
    have hid : inv.id = i := (Table.find?_eq_some_iff.mp hfind).2
    obtain ⟨hpaid, hstatus⟩ := hmatch inv (hrow ▸ hfind)
    refine ⟨hpaid.trans (by rw [hid, htotal]), hstatus.trans ?_⟩
    rw [Db.getAppliedTotalForInvoice, Db.getAppliedTotalForInvoice,
      Db.latestOutcomeEventType, Db.latestOutcomeEventType, hcredit, hevents]
  · exact hnew

/-- An invoice that a run has rewritten matches the ledger at its end. -/
theorem invoiceMatches_of_touched (h : LedgerInv db) {requests : List (Day × PaymentOp)} {i : Id}
    (ht : Touched db requests i) {inv : Invoice}
    (hinv : (Runs.run PaymentOp.step db requests).invoices.find? i = some inv) :
    InvoiceMatches (Runs.run PaymentOp.step db requests) inv := by
  obtain ⟨pre, request, post, rfl, hchanged⟩ := ht
  have hpre : LedgerInv (Runs.run PaymentOp.step db pre) := h.run pre
  -- The request that rewrote the row left it matching.
  have hsplit : Runs.run PaymentOp.step db (pre ++ [request])
      = PaymentOp.step (Runs.run PaymentOp.step db pre) request := by
    rw [Runs.run_append, Runs.run_cons, Runs.run_nil]
  have hmid : LedgerInv (Runs.run PaymentOp.step db (pre ++ [request])) ∧
      ∀ inv, (Runs.run PaymentOp.step db (pre ++ [request])).invoices.find? i = some inv →
        InvoiceMatches (Runs.run PaymentOp.step db (pre ++ [request])) inv := by
    rw [hsplit] at hchanged ⊢
    refine ⟨hpre.step request, ?_⟩
    obtain ⟨-, -, hrow⟩ := (PaymentOp.step_effect _ request).invoice hpre
    rcases hrow i with ⟨hsame, -⟩ | hmatch
    · exact absurd hsame hchanged
    · exact hmatch
  rw [List.append_cons, Runs.run_append] at hinv ⊢
  have hend := Runs.run_invariant
    (fun s r (hs : LedgerInv s ∧ ∀ inv, s.invoices.find? i = some inv →
      InvoiceMatches s inv) => ⟨hs.1.step r, invoiceMatches_step hs.1 hs.2 r⟩) hmid post
  exact hend.2 inv hinv

/-- **Projections match the ledger.** Whatever payment requests are served, in any
order and on any days, each accepted or rolled back: every payment that is not voided
carries the sum of its allocation rows, the rest of its amount and the status the two
determine; no payment has a negative net allocation to an invoice; and every invoice
that was touched carries the sum of its allocation rows and the payment status of its
stored totals, as of the day of its last write. -/
theorem projections_match_ledger (db : Db) (requests : List (Day × PaymentOp)) :
    let after := Runs.run PaymentOp.step db.beforePayments requests
    (∀ p ∈ after.payments.rows, p.status ≠ .voided →
      p.allocatedAmount = after.totalLatestAllocatedForPayment p.id ∧
      p.allocatedAmount + p.unallocatedAmount = p.amount ∧
      p.allocationStatus = allocationStatusOf p.allocatedAmount p.unallocatedAmount) ∧
    (∀ p i, 0 ≤ after.netAllocation p i) ∧
    (∀ inv ∈ after.invoices.rows, Touched db.beforePayments requests inv.id →
      inv.paidAmount = after.totalAllocatedForInvoice inv.id ∧
      inv.paymentStatus = computePaymentStatus inv inv.paidAmount
        (after.getAppliedTotalForInvoice inv.id) (after.latestOutcomeEventType inv.id)
        inv.updatedAt) := by
  intro after
  have hinv : LedgerInv after := (ledgerInv_beforePayments db).run requests
  refine ⟨fun p hp _ => ?_, hinv.positive.netAllocation_nonneg, fun inv hmem ht => ?_⟩
  · obtain ⟨halloc, hbalance, hstatus, -⟩ := hinv.payments p hp
    exact ⟨halloc, hbalance, hstatus⟩
  · obtain ⟨hpaid, hstatus⟩ := invoiceMatches_of_touched (ledgerInv_beforePayments db) ht
      (Table.find?_eq_some_iff.mpr ⟨hmem, rfl⟩)
    exact ⟨hpaid, hstatus⟩

end SwCouriers
