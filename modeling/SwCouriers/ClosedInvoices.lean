import SwCouriers.BillingInvariant

/-!
# Closed Invoices

A void or a write-off is an outcome event; the invoice stays `SENT`. Applying credit
checks for an outcome, adding and replacing allocations check the document status only.
So a payment can still be put on an invoice that was voided or written off.

`BillingOp.SparesClosed` is the check that is missing, as a condition on the request and
the state it finds: an addition names no closed invoice, and a replacement leaves on a
closed invoice at most what the payment has on it.

## Main results

* `exec_keepsClosed_iff`: an accepted request puts nothing more on closed invoices
  exactly when it meets the condition.
* `closed_invoices_spared`: runs whose requests meet it never do.
* `closed_invoice_paid`: a run in which a voided invoice is paid.
-/

namespace SwCouriers

open Checked

/-- Nothing more was allocated or credited to an invoice that was closed before. -/
def KeepsClosed (db db' : Db) : Prop :=
  ∀ i, db.isClosed i = true →
    db'.totalAllocatedForInvoice i ≤ db.totalAllocatedForInvoice i ∧
    db'.getAppliedTotalForInvoice i ≤ db.getAppliedTotalForInvoice i

/-- The payload names no closed invoice. -/
def NamesOpen (db : Db) (allocations : List AllocationInput) : Prop :=
  ∀ row ∈ allocations, ∀ i ∈ row.invoiceId, db.isClosed i = false

/-- The payload leaves on a closed invoice at most what the payment has on it. -/
def WithinCurrent (db : Db) (paymentId : Id) (allocations : List AllocationInput) : Prop :=
  ∀ row ∈ allocations, ∀ i ∈ row.invoiceId, db.isClosed i = true →
    money (row.allocatedAmount.getD 0) ≤ db.netAllocation paymentId i

instance (db : Db) (allocations : List AllocationInput) :
    Decidable (NamesOpen db allocations) :=
  inferInstanceAs (Decidable (∀ row ∈ allocations, ∀ i ∈ row.invoiceId, _))

instance (db : Db) (paymentId : Id) (allocations : List AllocationInput) :
    Decidable (WithinCurrent db paymentId allocations) :=
  inferInstanceAs (Decidable (∀ row ∈ allocations, ∀ i ∈ row.invoiceId, _ → _))

/-- The request asks for nothing more on a closed invoice. -/
def BillingOp.SparesClosed (db : Db) : BillingOp → Prop
  | .payment (.recordPaymentWithAllocations _ allocations) => NamesOpen db allocations
  | .payment (.addOrReviseAllocations _ allocations) => NamesOpen db allocations
  | .payment (.replaceAllocations paymentId allocations) =>
      WithinCurrent db paymentId allocations
  | _ => True

instance (db : Db) : (op : BillingOp) → Decidable (op.SparesClosed db)
  | .payment (.recordPaymentWithAllocations _ allocations) =>
      inferInstanceAs (Decidable (NamesOpen db allocations))
  | .payment (.addOrReviseAllocations _ allocations) =>
      inferInstanceAs (Decidable (NamesOpen db allocations))
  | .payment (.replaceAllocations paymentId allocations) =>
      inferInstanceAs (Decidable (WithinCurrent db paymentId allocations))
  | .payment (.recordPayment _) | .payment (.createPendingPayment _ _ _ _)
  | .payment (.removeAllocation _ _) | .payment (.voidPayment _ _ _)
  | .payment (.markPaymentStatus _ _ _ _ _) | .invoice _ | .creditNote _ | .refund _ =>
      .isTrue trivial

/-! ### Requests that cannot pay an invoice -/

variable {db db' : Db} {today : Day} {organizationId paymentId : Id}

theorem keepsClosed_of_eq (ha : db'.allocations = db.allocations)
    (hc : db'.creditApplications = db.creditApplications) : KeepsClosed db db' := by
  intro i _
  rw [Db.totalAllocatedForInvoice, Db.getAppliedTotalForInvoice, ha, hc]
  exact ⟨le_rfl, le_rfl⟩

/-- Closed invoices stay closed, and documents give them no credit. -/
theorem DocumentEffect.closed (he : DocumentEffect today db db') {i : Id}
    (hi : db.isClosed i = true) :
    db'.isClosed i = true ∧
      db'.getAppliedTotalForInvoice i = db.getAppliedTotalForInvoice i := by
  have happend : ∀ {d : Db} {es : List InvoiceEvent}, d.isClosed i = true →
      Db.isClosed { d with invoiceEvents := d.invoiceEvents ++ es } i = true := by
    intro d es hd
    obtain ⟨e, hmem, hrest⟩ := isClosed_iff.mp hd
    exact isClosed_iff.mpr ⟨e, List.mem_append_left _ hmem, hrest⟩
  induction he with
  | refl => exact ⟨hi, rfl⟩
  | invoiceCreated => exact ⟨happend hi, rfl⟩
  | invoiceRewritten => exact ⟨happend hi, rfl⟩
  | invoiceReprojected => exact ⟨hi, rfl⟩
  | invoiceClosed db db₁ inv f outcome _ _ _ _ _ _ hdb =>
      subst hdb
      exact ⟨happend hi, rfl⟩
  | noteCreated => exact ⟨hi, rfl⟩
  | noteUpdated => exact ⟨hi, rfl⟩
  | creditApplied db db₁ cn inv app event _ _ _ hopen hfresh hinvoice _ _ _ _ _ hdb =>
      subst hdb
      refine ⟨happend hi, ?_⟩
      have hnew : app.id ∉ db.creditApplications.rows.map InvoiceCreditApplication.id := by
        rw [hfresh]
        exact db.creditApplications.fresh_notMem
      have hne : app.invoiceId ≠ i := by
        rintro rfl
        rw [hinvoice, hopen] at hi
        exact absurd hi (by decide)
      rw [Db.getAppliedTotalForInvoice, Table.sumWhere_insert hnew, if_neg hne, add_zero]
      rfl
  | trans _ _ ih₁ ih₂ =>
      obtain ⟨hc₁, ha₁⟩ := ih₁ hi
      obtain ⟨hc₂, ha₂⟩ := ih₂ hc₁
      exact ⟨hc₂, ha₂.trans ha₁⟩

theorem DocumentEffect.keepsClosed (he : DocumentEffect today db db') : KeepsClosed db db' := by
  intro i hi
  rw [Db.totalAllocatedForInvoice, he.frame.2.1, (he.closed hi).2]
  exact ⟨le_rfl, le_rfl⟩

theorem RefundEffect.keepsClosed (he : RefundEffect today db db') : KeepsClosed db db' := by
  cases he with
  | created => exact keepsClosed_of_eq rfl rfl
  | update he =>
      cases he with
      | refl => exact keepsClosed_of_eq rfl rfl
      | updated db₁ refund f hid hnote => exact hnote.keepsClosed

/-- Recording a payment allocates nothing. -/
theorem recordPayment_keeps {input : PaymentInput} (h : recordPayment db input = .ok db') :
    db'.allocations = db.allocations ∧ db'.creditApplications = db.creditApplications ∧
      db'.invoiceEvents = db.invoiceEvents := by
  replace h := ok_of_check h
  replace h := ok_of_check h
  replace h := ok_of_check h
  replace h := ok_of_check h
  replace h := ok_of_check h
  obtain rfl := pure_eq_ok.mp h
  exact ⟨rfl, rfl, rfl⟩

theorem createPendingPayment_keepsClosed {amount : ℚ} {paymentDate : Day}
    {provider : PaymentProvider}
    (h : createPendingPayment db organizationId amount paymentDate provider = .ok db') :
    KeepsClosed db db' := by
  replace h := ok_of_check h
  replace h := ok_of_check h
  obtain rfl := pure_eq_ok.mp h
  exact keepsClosed_of_eq rfl rfl

theorem voidPayment_keepsClosed {expectedVersion : Option ℕ}
    (h : voidPayment db organizationId paymentId expectedVersion = .ok db') :
    KeepsClosed db db' := by
  rcases voidPayment_ok h with rfl | ⟨payment, version, -, -, -, rfl⟩
  · exact keepsClosed_of_eq rfl rfl
  · exact keepsClosed_of_eq rfl rfl

theorem markPaymentStatus_keepsClosed {toStatus : PaymentRecordStatus}
    {providerTxnId : Option String} {transactionFee : Option ℚ}
    (h : markPaymentStatus db organizationId paymentId toStatus providerTxnId
      transactionFee = .ok db') : KeepsClosed db db' := by
  obtain ⟨payment, fee, -, -, -, -, -, -, rfl⟩ := markPaymentStatus_ok h
  exact keepsClosed_of_eq rfl rfl

/-! ### Requests that pay invoices -/

/-- The invoices and amounts of an accepted payload are those of the request. -/
theorem mem_normalized_iff {allocations : List AllocationInput}
    {rows : List NormalizedAllocation}
    (hmap : allocations.map AllocationInput.normalized? = rows.map some) {i : Id} {a : ℤ} :
    (∃ t ∈ rows, t.invoiceId = i ∧ t.allocatedAmount = a) ↔
      ∃ row ∈ allocations, row.invoiceId = some i ∧
        money (row.allocatedAmount.getD 0) = a := by
  constructor
  · rintro ⟨t, ht, rfl, rfl⟩
    have hmem : some t ∈ allocations.map AllocationInput.normalized? :=
      hmap ▸ List.mem_map_of_mem ht
    obtain ⟨row, hrow, heq⟩ := List.mem_map.mp hmem
    obtain ⟨i, hi, rfl⟩ := Option.map_eq_some_iff.mp heq
    exact ⟨row, hrow, hi, rfl⟩
  · rintro ⟨row, hrow, hi, rfl⟩
    have hmem : row.normalized? ∈ rows.map some := hmap ▸ List.mem_map_of_mem hrow
    obtain ⟨t, ht, heq⟩ := List.mem_map.mp hmem
    rw [AllocationInput.normalized?, hi, Option.map_some] at heq
    obtain rfl := Option.some.inj heq
    exact ⟨_, ht, rfl, rfl⟩

/-- An addition is harmless exactly when it names open invoices only. -/
theorem addOrReviseAllocations_keepsClosed {allocations : List AllocationInput}
    (h : addOrReviseAllocations db today paymentId allocations = .ok db') :
    KeepsClosed db db' ↔ NamesOpen db allocations := by
  obtain ⟨payment, rows, hpay, hrows, -, -, rfl⟩ := addOrReviseAllocations_ok h
  obtain ⟨hmap, hpos, hnd⟩ := normalizeAllocations_ok hrows
  -- What is on an invoice grows by its entry in the payload.
  have htotal : ∀ i, ((db.insertAllocations paymentId rows).commitAllocations today payment
      (rows.map (·.invoiceId))).totalAllocatedForInvoice i
        = db.totalAllocatedForInvoice i + amountOn rows i := by
    intro i
    change (db.insertAllocations paymentId rows).totalAllocatedForInvoice i = _
    rw [totalAllocatedForInvoice_eq _ paymentId, netAllocation_insertAllocations,
      otherAllocation_insertAllocations, totalAllocatedForInvoice_eq db paymentId]
    omega
  have hcredit : ∀ i, ((db.insertAllocations paymentId rows).commitAllocations today payment
      (rows.map (·.invoiceId))).getAppliedTotalForInvoice i
        = db.getAppliedTotalForInvoice i := by
    intro i
    rw [Db.getAppliedTotalForInvoice, Db.commitAllocations, insertAllocations_frame]
    rfl
  constructor
  · intro hkeeps row hrow i hi
    rw [Bool.eq_false_iff]
    intro hclosed
    obtain ⟨t, ht, rfl, -⟩ := (mem_normalized_iff hmap).mpr ⟨row, hrow, hi, rfl⟩
    have hle := (hkeeps t.invoiceId hclosed).1
    have := hpos t ht
    rw [htotal, amountOn_eq_of_mem hnd ht] at hle
    omega
  · intro hopen i hclosed
    have hnot : i ∉ rows.map (·.invoiceId) := by
      rintro hmem
      obtain ⟨t, ht, rfl⟩ := List.mem_map.mp hmem
      obtain ⟨row, hrow, hi, -⟩ := (mem_normalized_iff hmap).mp ⟨t, ht, rfl, rfl⟩
      rw [hopen row hrow _ hi] at hclosed
      exact absurd hclosed (by decide)
    rw [htotal, hcredit, amountOn_eq_zero hnot]
    omega

/-- Replacing a payment's allocations is harmless exactly when no target on a closed
invoice is above what the payment has there. -/
theorem applyAllocationTargets_keepsClosed (hdb : BillingInv db) {payment : BillingPayment}
    (hpay : Allocatable db paymentId payment) {targetMap : List NormalizedAllocation}
    (hnd : (targetMap.map (·.invoiceId)).Nodup)
    (h : applyAllocationTargets db today payment targetMap = .ok db') :
    KeepsClosed db db' ↔ ∀ t ∈ targetMap, db.isClosed t.invoiceId = true →
      t.allocatedAmount ≤ db.netAllocation paymentId t.invoiceId := by
  rcases applyAllocationTargets_ok hpay h with ⟨rfl, hsame⟩ | ⟨-, -, rfl⟩
  · exact ⟨fun _ t ht _ => (hsame t ht).le, fun _ => keepsClosed_of_eq rfl rfl⟩
  have htotal : ∀ i, (((db.deleteAllocations paymentId).insertAllocations paymentId
      targetMap).commitAllocations today payment
        (db.touchedIds paymentId targetMap)).totalAllocatedForInvoice i
      = amountOn targetMap i + db.otherAllocation paymentId i := by
    intro i
    change ((db.deleteAllocations paymentId).insertAllocations paymentId
      targetMap).totalAllocatedForInvoice i = _
    rw [totalAllocatedForInvoice_eq _ paymentId, netAllocation_insertAllocations,
      netAllocation_deleteAllocations, otherAllocation_insertAllocations,
      otherAllocation_deleteAllocations, zero_add]
  have hcredit : ∀ i, (((db.deleteAllocations paymentId).insertAllocations paymentId
      targetMap).commitAllocations today payment
        (db.touchedIds paymentId targetMap)).getAppliedTotalForInvoice i
      = db.getAppliedTotalForInvoice i := by
    intro i
    rw [Db.getAppliedTotalForInvoice, Db.commitAllocations, insertAllocations_frame]
    rfl
  constructor
  · intro hkeeps t ht hclosed
    have hle := (hkeeps t.invoiceId hclosed).1
    rw [htotal, amountOn_eq_of_mem hnd ht, totalAllocatedForInvoice_eq db paymentId] at hle
    omega
  · intro hwithin i hclosed
    rw [htotal, hcredit, totalAllocatedForInvoice_eq db paymentId]
    have hnonneg := hdb.ledger.positive.netAllocation_nonneg paymentId i
    by_cases hi : i ∈ targetMap.map (·.invoiceId)
    · obtain ⟨t, ht, rfl⟩ := List.mem_map.mp hi
      have := hwithin t ht hclosed
      rw [amountOn_eq_of_mem hnd ht]
      omega
    · rw [amountOn_eq_zero hi]
      omega

theorem replaceAllocations_keepsClosed (hdb : BillingInv db) {allocations : List AllocationInput}
    (h : replaceAllocations db today paymentId allocations = .ok db') :
    KeepsClosed db db' ↔ WithinCurrent db paymentId allocations := by
  obtain ⟨payment, rows, hpay, hrows, happly⟩ := replaceAllocations_ok h
  obtain ⟨hmap, -, hnd⟩ := normalizeAllocations_ok hrows
  rw [applyAllocationTargets_keepsClosed hdb hpay hnd happly]
  constructor
  · intro hall row hrow i hi hclosed
    obtain ⟨t, ht, rfl, hamount⟩ := (mem_normalized_iff hmap).mpr ⟨row, hrow, hi, rfl⟩
    exact hamount ▸ hall t ht hclosed
  · intro hall t ht hclosed
    obtain ⟨row, hrow, hi, hamount⟩ := (mem_normalized_iff hmap).mp ⟨t, ht, rfl, rfl⟩
    exact hamount ▸ hall row hrow _ hi hclosed

/-! ### Requests and runs -/

/-- **An accepted request spares closed invoices exactly when it asks for nothing more on
them.** -/
theorem exec_keepsClosed_iff (hdb : BillingInv db) {op : BillingOp}
    (h : op.exec db today = .ok db') : KeepsClosed db db' ↔ op.SparesClosed db := by
  cases op with
  | invoice op => exact iff_of_true (InvoiceOp.exec_effect h).keepsClosed trivial
  | creditNote op => exact iff_of_true (CreditNoteOp.exec_effect h).keepsClosed trivial
  | refund op =>
      exact iff_of_true (RefundOp.exec_effect hdb.refund_positive h).keepsClosed trivial
  | payment op =>
      cases op with
      | recordPayment input =>
          obtain ⟨ha, hc, -⟩ := recordPayment_keeps h
          exact iff_of_true (keepsClosed_of_eq ha hc) trivial
      | createPendingPayment organizationId amount paymentDate provider =>
          exact iff_of_true (createPendingPayment_keepsClosed h) trivial
      | recordPaymentWithAllocations input allocations =>
          obtain ⟨db₁, hrec, h⟩ := bind_eq_ok.mp h
          obtain ⟨ha, hc, he⟩ := recordPayment_keeps hrec
          have hclosed : ∀ i, db₁.isClosed i = db.isClosed i := by
            intro i
            rw [Db.isClosed, Db.latestOutcomeEventType, he]
            rfl
          split at h
          · rename_i hempty
            obtain rfl := pure_eq_ok.mp h
            refine iff_of_true (keepsClosed_of_eq ha hc) fun row hrow => ?_
            rw [List.isEmpty_iff.mp hempty] at hrow
            exact absurd hrow List.not_mem_nil
          · have hadd := addOrReviseAllocations_keepsClosed h
            simp only [KeepsClosed, NamesOpen, hclosed, Db.totalAllocatedForInvoice,
              Db.getAppliedTotalForInvoice, ha, hc] at hadd
            exact hadd
      | addOrReviseAllocations paymentId allocations =>
          exact addOrReviseAllocations_keepsClosed h
      | replaceAllocations paymentId allocations =>
          exact replaceAllocations_keepsClosed hdb h
      | removeAllocation paymentId invoiceId =>
          obtain ⟨payment, invoiceKey, hpay, -, happly⟩ := removeAllocation_ok h
          obtain ⟨hentries, hnd⟩ := withoutInvoice_spec db paymentId invoiceKey
          refine iff_of_true ?_ trivial
          rw [applyAllocationTargets_keepsClosed hdb hpay hnd happly]
          exact fun t ht _ => (hentries t ht).2.le
      | voidPayment organizationId paymentId expectedVersion =>
          exact iff_of_true (voidPayment_keepsClosed h) trivial
      | markPaymentStatus organizationId paymentId toStatus providerTxnId transactionFee =>
          exact iff_of_true (markPaymentStatus_keepsClosed h) trivial

/-- A request that asks for nothing more on closed invoices leaves them as they are,
accepted or not. -/
theorem step_keepsClosed (hdb : BillingInv db) {request : Day × BillingOp}
    (hspares : request.2.SparesClosed db) : KeepsClosed db (BillingOp.step db request) := by
  rcases settle_eq db (request.2.exec db request.1) with hok | heq
  · exact (exec_keepsClosed_iff hdb hok).mpr hspares
  · rw [BillingOp.step, heq]
    exact keepsClosed_of_eq rfl rfl

/-- Applying credit to a closed invoice is refused. -/
theorem applyCreditNoteAuto_closed {creditNoteId invoiceId : Id} {customerId : Option Id}
    {b2bOrgScope : Bool} (hclosed : db.isClosed invoiceId = true) :
    applyCreditNoteAuto db today creditNoteId invoiceId organizationId customerId
      b2bOrgScope ≠ .ok db' := by
  intro h
  obtain ⟨cn, -, h⟩ := bind_eq_ok.mp h
  replace h := ok_of_check h
  replace h := ok_of_check h
  replace h := ok_of_check h
  obtain ⟨inv, hinv, h⟩ := orRaise_bind_eq_ok.mp h
  replace h := ok_of_check h
  obtain ⟨⟨⟩, hopen, -⟩ := bind_eq_ok.mp h
  have hfound := (getById_eq_some.mp hinv).1
  obtain rfl := (Table.find?_eq_some_iff.mp hfound).2
  exact raiseIf_eq_ok.mp hopen hclosed

/-- **Closed invoices take no more money from requests that ask for none.** In a run all
of whose requests ask for nothing more on closed invoices, no request raises what is
allocated or credited to one. After any run the condition is exact for the requests that
are accepted, and applying credit to a closed invoice changes nothing. -/
theorem closed_invoices_spared (users : TableOf User) (requests : List (Day × BillingOp)) :
    let db := Runs.run BillingOp.step (Db.initial users) requests
    (Runs.Along BillingOp.step (fun s r => r.2.SparesClosed s) (Db.initial users) requests →
      Runs.Along BillingOp.step (fun s r => KeepsClosed s (BillingOp.step s r))
        (Db.initial users) requests) ∧
    (∀ (request : Day × BillingOp) (db' : Db), request.2.exec db request.1 = .ok db' →
      (KeepsClosed db db' ↔ request.2.SparesClosed db)) ∧
    (∀ today creditNoteId invoiceId organizationId customerId b2bOrgScope,
      db.isClosed invoiceId = true →
      BillingOp.step db (today, .creditNote (.applyAuto creditNoteId invoiceId
        organizationId customerId b2bOrgScope)) = db) := by
  intro db
  have hdb : BillingInv db := billingInv_run users requests
  refine ⟨fun hspares => ?_, fun request db' hok => exec_keepsClosed_iff hdb hok, ?_⟩
  · refine Runs.along_iff.mpr fun pre request post heq => ?_
    exact step_keepsClosed (billingInv_run users pre)
      (Runs.along_iff.mp hspares pre request post heq)
  · intro today creditNoteId invoiceId organizationId customerId b2bOrgScope hclosed
    rcases settle_eq db (applyCreditNoteAuto db today creditNoteId invoiceId organizationId
      customerId b2bOrgScope) with hok | heq
    · exact absurd hok (applyCreditNoteAuto_closed hclosed)
    · exact heq

/-! ### A voided invoice is paid -/

/-- An invoice for 120.00. -/
def invoiceOf120 : InvoiceInput where
  orderId := none
  organizationId := some 1
  customerId := some 7
  issueDate := 0
  dueDate := 30
  subtotal := 100
  vatRate := 20
  vatAmount := 20
  total := 120
  notes := none

/-- A bank transfer of 120.00. -/
def paymentOf120 : PaymentInput where
  organizationId := 1
  amount := 120
  paymentDate := 0
  clientType := some .customerB2B
  status := .deposited
  provider := .bankTransfer
  providerTxnId := none
  transactionFee := 0
  notes := none

/-- An invoice is sent, a payment recorded and 30.00 of it allocated; then the invoice is
voided. -/
def voidedInvoice : List (Day × BillingOp) :=
  [(0, .invoice (.createAndFinalize invoiceOf120)),
   (0, .payment (.recordPayment paymentOf120)),
   (0, .payment (.addOrReviseAllocations 1 [⟨some 1, some 30, none⟩])),
   (1, .invoice (.void 1 "Order cancelled" (some 1)))]

/-- Allocating 50.00 more to the voided invoice is accepted, and so is replacing the
30.00 by 90.00. -/
theorem closed_invoice_paid :
    let db := Runs.run BillingOp.step (Db.initial .empty) voidedInvoice
    let added := BillingOp.step db
      (2, .payment (.addOrReviseAllocations 1 [⟨some 1, some 50, none⟩]))
    let replaced := BillingOp.step db
      (2, .payment (.replaceAllocations 1 [⟨some 1, some 90, none⟩]))
    db.latestOutcomeEventType 1 = some .voided ∧
    db.totalAllocatedForInvoice 1 = 3000 ∧
    added.totalAllocatedForInvoice 1 = 8000 ∧ ¬ KeepsClosed db added ∧
    replaced.totalAllocatedForInvoice 1 = 9000 ∧ ¬ KeepsClosed db replaced := by
  have hclosed : (Runs.run BillingOp.step (Db.initial .empty) voidedInvoice).isClosed 1
      = true := by decide +kernel
  refine ⟨by decide +kernel, by decide +kernel, by decide +kernel, fun h => ?_,
    by decide +kernel, fun h => ?_⟩
  · exact absurd (h 1 hclosed).1 (by decide +kernel)
  · exact absurd (h 1 hclosed).1 (by decide +kernel)

/-- Lowering the allocation to the voided invoice is a request that the condition lets
through. -/
theorem closed_invoices_spared_lowering :
    Runs.Along BillingOp.step (fun s r => KeepsClosed s (BillingOp.step s r))
      (Db.initial .empty)
      (voidedInvoice ++ [(2, .payment (.replaceAllocations 1 [⟨some 1, some 10, none⟩]))]) :=
  (closed_invoices_spared .empty _).1 (by decide +kernel)

end SwCouriers
