import SwCouriers.SettlementSafety

/-!
# Schedules of Settling Calls

Each of the four calls keeps the settlement discipline. What a call knows of a balance is
what it read of it, at a moment that may be long past: the facts below say what the read is
still worth, should the rows be at the versions that the call has loaded.

## Main results

* `keeps_txn`: each settling call keeps the discipline on its own.
* `invoices_never_over_settled`: along every schedule of settling calls, no invoice is
  settled beyond its total and no payment allocated beyond its amount.
-/

namespace SwCouriers

open Checked ReadCommitted

variable {held : SettlementLock → Prop} {db : Db} {payment : BillingPayment}

/-! ### Reads -/

theorem paymentSeen_of_find? {paymentId : Id} (h : db.payments.find? paymentId = some payment) :
    PaymentSeen payment db := by
  have hid : payment.id = paymentId := (Table.find?_eq_some_iff.mp h).2
  exact ⟨payment, hid ▸ h, rfl, le_rfl⟩

theorem invoiceSeen_of_find? {inv : Invoice} {i : Id} (h : db.invoices.find? i = some inv) :
    InvoiceSeen inv db := by
  have hid : inv.id = i := (Table.find?_eq_some_iff.mp h).2
  exact ⟨inv, hid ▸ h, rfl, le_rfl⟩

/-- The invoices that a call loads are remembered with the versions they had. -/
theorem wp_loadSentInvoices {organizationId : Id} {invoiceIds : List Id}
    {Q : List Invoice → Db → (SettlementLock → Prop) → Prop} (hinv : SettlementInv db)
    (h : ∀ loaded db', Others held db db' → (∀ inv ∈ loaded, InvoiceSeen inv db') →
      Q loaded db' held) :
    settlementDiscipline.wp Q (Interleaved.loadSentInvoices organizationId invoiceIds) db
      held := by
  rw [Interleaved.loadSentInvoices]
  split_ifs
  · exact h [] db ⟨Evolves.refl _ _, hinv⟩ (by simp)
  · refine Discipline.wp_statement.mpr fun db' hothers loaded hok => ?_
    replace hok := ok_of_check hok
    obtain rfl := pure_eq_ok.mp hok
    refine h _ db' hothers fun inv hinv => ?_
    obtain ⟨i, -, hi⟩ := List.mem_filterMap.mp hinv
    exact (invoiceSeen_of_find? (getById_eq_some.mp hi).1).later hothers

/-- The net allocation of a payment, from the payment's rows. -/
theorem netAllocation_eq (db : Db) (p i : Id) :
    db.netAllocation p i
      = (((db.paymentRows p).filter fun a => a.invoiceId = i).map (·.allocatedAmount)).sum := by
  rw [Db.netAllocation, Table.sumWhere, Db.paymentRows, List.filter_filter]
  congr 2
  refine List.filter_congr fun a _ => ?_
  simp [Bool.and_comm]

/-- What `current_map` says of an invoice is the payment's net allocation. -/
theorem lookup_currentMap_getD (hpos : db.PositiveRows) (p i : Id) :
    ((db.currentMap p).lookup i).getD 0 = db.netAllocation p i := by
  have hnonneg := hpos.netAllocation_nonneg p i
  rw [lookup_currentMap]
  split_ifs with h
  · rfl
  · exact (le_antisymm (not_lt.mp h) hnonneg).symm

/-- Deleting all rows of a payment takes its net allocation from an invoice. -/
theorem deletedOn_paymentRows (db : Db) (p i : Id) :
    deletedOn (db.paymentRows p) ((db.paymentRows p).map BillingPaymentAllocation.key) i
      = db.netAllocation p i := by
  rw [netAllocation_eq, deletedOn]
  congr 2
  refine List.filter_congr fun a ha => ?_
  simp [List.mem_map_of_mem ha]

theorem keptOf_paymentRows (rows : List BillingPaymentAllocation) :
    keptOf rows (rows.map BillingPaymentAllocation.key) = 0 := by
  have hnil : (rows.filter fun a => a.key ∉ rows.map BillingPaymentAllocation.key) = [] :=
    List.filter_eq_nil_iff.mpr fun a ha => by simp [List.mem_map_of_mem ha]
  rw [keptOf, hnil, List.map_nil, List.sum_nil]

theorem fst_key_of_mem_paymentRows (db : Db) {p : Id} {k : Id × Id × ℕ}
    (hk : k ∈ (db.paymentRows p).map BillingPaymentAllocation.key) : k.1 = p := by
  obtain ⟨a, ha, rfl⟩ := List.mem_map.mp hk
  exact of_decide_eq_true (List.mem_filter.mp ha).2

/-! ### Adding allocations -/

theorem keptOf_nil (rows : List BillingPaymentAllocation) :
    keptOf rows [] = (rows.map (·.allocatedAmount)).sum := by
  simp [keptOf]

theorem keptOn_nil (db : Db) (i : Id) : db.keptOn [] i = db.totalAllocatedForInvoice i :=
  Table.sumWhere_congr (fun a _ => by simp) fun a _ _ => rfl

/-- The checks of `add_or_revise_allocations`, with the moment at which each balance was
read. -/
theorem ready_of_added {held : SettlementLock → Prop} {rows : List NormalizedAllocation}
    {loaded : List Invoice} {db₁ db₂ db₃ db₄ : Db} (hpaid : PaymentSeen payment db₁)
    (hseen : ∀ inv ∈ loaded, InvoiceSeen inv db₁) (h₁ : Others held db₁ db₂)
    (h₂ : Others held db₂ db₃) (h₃ : Others held db₃ db₄)
    (hfunded : db₁.totalLatestAllocatedForPayment payment.id
      + (rows.map (·.allocatedAmount)).sum ≤ payment.amount)
    (hroom : Interleaved.checkInvoiceRemaining loaded db₂.totalAllocatedForInvoice
      db₃.getAppliedTotalForInvoice rows = .ok ⟨⟩) :
    Ready payment loaded [] rows db₄ := by
  refine ⟨((hpaid.later h₁).later h₂).later h₃, fun inv hinv =>
    (((hseen inv hinv).later h₁).later h₂).later h₃, fun hfresh => ?_, fun row hrow => ?_⟩
  · obtain ⟨-, hsame⟩ := hfresh.earlier hpaid ((h₁.trans h₂).trans h₃)
    rw [keptOf_nil, hsame, ← totalLatestAllocatedForPayment_eq]
    exact hfunded
  · have hcheck := checkEach_eq_ok.mp hroom row hrow
    obtain ⟨inv, hfind, hcheck⟩ := bind_eq_ok.mp hcheck
    have hfind := orRaise_eq_ok.mp hfind
    have hfits := raiseIf_eq_ok.mp hcheck
    obtain ⟨hmem, hid⟩ := eq_id_of_find? hfind
    refine ⟨inv, hfind, fun _ hfresh => ?_⟩
    have hseen₂ := (hseen inv hmem).later h₁
    obtain ⟨-, hallocated, -⟩ := hfresh.earlier hseen₂ (h₂.trans h₃)
    obtain ⟨-, -, hcredited⟩ := hfresh.earlier (hseen₂.later h₂) h₃
    rw [hid] at hallocated hcredited
    rw [keptOn_nil]
    omega

theorem keeps_addOrReviseAllocations (today : Day) (paymentId : Id)
    (allocations : List AllocationInput) :
    settlementDiscipline.Keeps
      (Interleaved.addOrReviseAllocations today paymentId allocations) db held := by
  intro db₀ h₀
  refine Discipline.wp_bind.mpr (Discipline.wp_check.mpr fun _ _ => ?_)
  refine Discipline.wp_bind.mpr (Discipline.wp_statement.mpr fun db₁ h₁ payment hpay => ?_)
  have hpaid := (paymentSeen_of_find? (getByIdOr404_eq_ok.mp hpay).1).later h₁
  refine Discipline.wp_bind.mpr (Discipline.wp_check.mpr fun _ _ => ?_)
  refine Discipline.wp_bind.mpr (Discipline.wp_check.mpr fun rows hrows => ?_)
  obtain ⟨-, hpos, hnd⟩ := normalizeAllocations_ok hrows
  refine Discipline.wp_bind.mpr (wp_loadSentInvoices h₁.2 fun loaded db₂ h₂ hseen => ?_)
  refine Discipline.wp_bind.mpr (Discipline.wp_query.mpr fun db₃ h₃ => ?_)
  refine Discipline.wp_bind.mpr (Discipline.wp_check.mpr fun _ hfunded => ?_)
  refine Discipline.wp_bind.mpr (Discipline.wp_query.mpr fun db₄ h₄ => ?_)
  refine Discipline.wp_bind.mpr (Discipline.wp_query.mpr fun db₅ h₅ => ?_)
  refine Discipline.wp_bind.mpr (Discipline.wp_check.mpr fun _ hroom => ?_)
  have hready := ready_of_added (hpaid.later h₂) hseen h₃ h₄ h₅
    (not_lt.mp (raiseIf_eq_ok.mp hfunded)) hroom
  exact wp_writeAllocations h₅.2 (by simp) hpos hnd hready hnd
    fun row hrow => List.mem_map_of_mem hrow

/-! ### Replacing allocations -/

/-- The checks of `_apply_allocation_targets`, with the moment at which each balance was
read. The payment's own part of a balance was read first and is put back; it is what the
deletion takes away, should the payment be unchanged. -/
theorem ready_of_replaced {held : SettlementLock → Prop} {rows : List NormalizedAllocation}
    {loaded : List Invoice} {db₁ db₂ db₃ db₄ db₅ : Db} (hinv : SettlementInv db₁)
    (hpaid : PaymentSeen payment db₁) (h₁ : Others held db₁ db₂)
    (hseen : ∀ inv ∈ loaded, InvoiceSeen inv db₂) (h₂ : Others held db₂ db₃)
    (h₃ : Others held db₃ db₄) (h₄ : Others held db₄ db₅)
    (hfunded : (rows.map (·.allocatedAmount)).sum ≤ payment.amount)
    (hroom : Interleaved.checkTargetRemaining loaded (db₁.currentMap payment.id)
      db₂.totalAllocatedForInvoice db₃.getAppliedTotalForInvoice rows = .ok ⟨⟩) :
    Ready payment loaded ((db₄.paymentRows payment.id).map BillingPaymentAllocation.key) rows
      db₅ := by
  have hpaid₄ := ((hpaid.later h₁).later h₂).later h₃
  refine ⟨hpaid₄.later h₄, fun inv hinv => (((hseen inv hinv).later h₂).later h₃).later h₄,
    fun hfresh => ?_, fun row hrow => ?_⟩
  · obtain ⟨-, hsame⟩ := hfresh.earlier hpaid₄ h₄
    rw [hsame, keptOf_paymentRows, zero_add]
    exact hfunded
  · have hcheck := checkEach_eq_ok.mp hroom row hrow
    obtain ⟨inv, hfind, hcheck⟩ := bind_eq_ok.mp hcheck
    have hfind := orRaise_eq_ok.mp hfind
    have hfits := raiseIf_eq_ok.mp hcheck
    obtain ⟨hmem, hid⟩ := eq_id_of_find? hfind
    refine ⟨inv, hfind, fun hpay hfresh => ?_⟩
    -- The payment's rows are those that were read, and those that are deleted.
    obtain ⟨-, hsame₄⟩ := hpay.earlier hpaid₄ h₄
    obtain ⟨-, hsame₁⟩ := hpay.earlier hpaid (((h₁.trans h₂).trans h₃).trans h₄)
    have hown : db₅.netAllocation payment.id row.invoiceId
        = db₁.netAllocation payment.id row.invoiceId := by
      rw [netAllocation_eq, netAllocation_eq, hsame₁]
    have hkept := keptOn_add_deletedOn db₅ (p := payment.id)
      (fun k hk => fst_key_of_mem_paymentRows db₄ hk) row.invoiceId
    rw [← hsame₄, deletedOn_paymentRows, hown, hsame₄] at hkept
    rw [lookup_currentMap_getD hinv.positive] at hfits
    obtain ⟨-, hallocated, -⟩ := hfresh.earlier (hseen inv hmem) ((h₂.trans h₃).trans h₄)
    obtain ⟨-, -, hcredited⟩ := hfresh.earlier ((hseen inv hmem).later h₂) (h₃.trans h₄)
    rw [hid] at hallocated hcredited
    omega

/-- A call that writes nothing may be committed. -/
theorem commits_id (hinv : SettlementInv db) : settlementDiscipline.Commits id db held :=
  ⟨hinv, Evolves.refl held db⟩

theorem wp_applyAllocationTargets (today : Day) {rows : List NormalizedAllocation}
    (hinv : SettlementInv db) (hpaid : PaymentSeen payment db)
    (hpos : ∀ row ∈ rows, 0 < row.allocatedAmount) (hnd : (rows.map (·.invoiceId)).Nodup) :
    settlementDiscipline.wp settlementDiscipline.Commits
      (Interleaved.applyAllocationTargets today payment rows) db held := by
  refine Discipline.wp_bind.mpr (Discipline.wp_query.mpr fun db₁ h₁ => ?_)
  refine Discipline.wp_bind.mpr (Discipline.wp_check.mpr fun _ hfunded => ?_)
  refine Discipline.wp_bind.mpr (wp_loadSentInvoices h₁.2 fun loaded db₂ h₂ hseen => ?_)
  dsimp only
  split_ifs
  · exact commits_id h₂.2
  rw [Interleaved.applyTouched]
  refine Discipline.wp_bind.mpr (Discipline.wp_query.mpr fun db₃ h₃ => ?_)
  refine Discipline.wp_bind.mpr (Discipline.wp_query.mpr fun db₄ h₄ => ?_)
  refine Discipline.wp_bind.mpr (Discipline.wp_check.mpr fun _ hroom => ?_)
  split_ifs
  · exact commits_id h₄.2
  rw [Interleaved.replaceRows]
  refine Discipline.wp_bind.mpr (Discipline.wp_query.mpr fun db₅ h₅ => ?_)
  have hready := ready_of_replaced hinv hpaid (h₁.trans h₂) hseen h₃ h₄ h₅
    (not_lt.mp (raiseIf_eq_ok.mp hfunded)) hroom
  refine wp_writeAllocations h₅.2 (fun k hk => fst_key_of_mem_paymentRows _ hk) hpos hnd hready
    ?_ fun row hrow => ?_
  · exact (List.perm_insertionSort _ _).nodup_iff.mpr (List.nodup_dedup _)
  · rw [List.mem_insertionSort, List.mem_dedup]
    exact List.mem_append_right _ (List.mem_map_of_mem hrow)

theorem keeps_replaceAllocations (today : Day) (paymentId : Id)
    (allocations : List AllocationInput) :
    settlementDiscipline.Keeps (Interleaved.replaceAllocations today paymentId allocations) db
      held := by
  intro db₀ h₀
  refine Discipline.wp_bind.mpr (Discipline.wp_statement.mpr fun db₁ h₁ payment hpay => ?_)
  have hpaid := (paymentSeen_of_find? (getByIdOr404_eq_ok.mp hpay).1).later h₁
  refine Discipline.wp_bind.mpr (Discipline.wp_check.mpr fun _ _ => ?_)
  refine Discipline.wp_bind.mpr (Discipline.wp_check.mpr fun rows hrows => ?_)
  obtain ⟨-, hpos, hnd⟩ := normalizeAllocations_ok hrows
  exact wp_applyAllocationTargets today h₁.2 hpaid hpos hnd

theorem keeps_removeAllocation (today : Day) (paymentId : Id) (invoiceId : Option Id) :
    settlementDiscipline.Keeps (Interleaved.removeAllocation today paymentId invoiceId) db
      held := by
  intro db₀ h₀
  refine Discipline.wp_bind.mpr (Discipline.wp_statement.mpr fun db₁ h₁ payment hpay => ?_)
  have hpaid := (paymentSeen_of_find? (getByIdOr404_eq_ok.mp hpay).1).later h₁
  refine Discipline.wp_bind.mpr (Discipline.wp_check.mpr fun _ _ => ?_)
  refine Discipline.wp_bind.mpr (Discipline.wp_query.mpr fun db₂ h₂ => ?_)
  refine Discipline.wp_bind.mpr (Discipline.wp_check.mpr fun invoiceKey _ => ?_)
  refine Discipline.wp_bind.mpr (Discipline.wp_check.mpr fun _ _ => ?_)
  obtain ⟨hentries, hnd⟩ := withoutInvoice_spec db₁ paymentId invoiceKey
  exact wp_applyAllocationTargets today h₂.2 (hpaid.later h₂)
    (fun row hrow => (hentries row hrow).1) hnd

/-! ### Applying credit -/

/-- What a credit writes may be committed: the invoice was held when its balance was read. -/
theorem committable_of_credit {inv : Invoice} {a : InvoiceCreditApplication}
    {u : InvoiceRewrite} {events : List InvoiceEvent} (huid : u.id = inv.id)
    (haid : a.invoiceId = inv.id) (hheld : held (.invoice inv.id))
    (hseen : InvoiceSeen inv db) (hupdated : InvoiceUpdated [inv] u db)
    (hfits : db.totalAllocatedForInvoice inv.id + db.getAppliedTotalForInvoice inv.id
      + a.appliedAmount ≤ inv.total) (hpos : db.PositiveRows) :
    Committable { applied := [a], events := events, invoices := [u] } db held := by
  refine ⟨by simp, by simp, by simp, by simp, ?_, by simp, ?_⟩
  · intro b hb
    obtain rfl := List.mem_singleton.mp hb
    exact ⟨u, List.mem_singleton_self u, huid.trans haid.symm⟩
  · intro v hv
    obtain rfl := List.mem_singleton.mp hv
    refine ⟨huid ▸ hheld, fun row hrow => ?_⟩
    obtain ⟨row₁, hrow₁, hbehind⟩ := hupdated.behind
    obtain rfl := Option.some.inj (hrow.symm.trans hrow₁)
    obtain ⟨row₂, hrow₂, htotal, -⟩ := hseen
    rw [huid] at hrow ⊢
    obtain rfl := Option.some.inj (hrow.symm.trans hrow₂)
    refine ⟨hbehind, ?_⟩
    have hallocated := Writes.totalAllocatedForInvoice_apply_le
      { applied := [a], events := events, invoices := [v] } db (by simp) inv.id
    have hcredited := Writes.getAppliedTotalForInvoice_apply
      { applied := [a], events := events, invoices := [v] } db inv.id
    have hkept := keptOn_le hpos [] inv.id
    simp only [haid, List.filter_nil, List.map_nil, List.sum_nil, List.filter_cons,
      decide_true, if_true, List.map_cons, List.sum_cons] at hallocated hcredited
    omega

theorem keeps_applyCreditNoteAuto (today : Day) (creditNoteId invoiceId organizationId : Id)
    (customerId : Option Id) (b2bOrgScope : Bool) :
    settlementDiscipline.Keeps (Interleaved.applyCreditNoteAuto today creditNoteId invoiceId
      organizationId customerId b2bOrgScope) db held := by
  intro db₀ h₀
  refine Discipline.wp_bind.mpr (Discipline.wp_lockRow.mpr fun db₁ h₁ cn _ => ?_)
  refine Discipline.wp_bind.mpr (Discipline.wp_check.mpr fun _ _ => ?_)
  refine Discipline.wp_bind.mpr (Discipline.wp_lockRow.mpr fun db₂ h₂ inv hinv => ?_)
  have hfound := (getById_eq_some.mp (orRaise_eq_ok.mp hinv)).1
  obtain rfl : inv.id = invoiceId := (Table.find?_eq_some_iff.mp hfound).2
  refine Discipline.wp_bind.mpr (Discipline.wp_check.mpr fun _ _ => ?_)
  refine Discipline.wp_bind.mpr (Discipline.wp_statement.mpr fun db₃ h₃ _ _ => ?_)
  refine Discipline.wp_bind.mpr (Discipline.wp_statement.mpr fun db₄ h₄ _ _ => ?_)
  refine Discipline.wp_bind.mpr (Discipline.wp_check.mpr fun _ _ => ?_)
  refine Discipline.wp_bind.mpr (Discipline.wp_query.mpr fun db₅ h₅ => ?_)
  refine Discipline.wp_bind.mpr (Discipline.wp_query.mpr fun db₆ h₆ => ?_)
  refine Discipline.wp_bind.mpr (Discipline.wp_query.mpr fun db₇ h₇ => ?_)
  refine Discipline.wp_bind.mpr (Discipline.wp_check.mpr fun _ _ => ?_)
  refine Discipline.wp_bind.mpr (wp_recomputeInvoiceProjection (by simp) ?_)
  intro u db₈ huid h₈ hupdated
  have hseen₅ := ((((invoiceSeen_of_find? hfound).later h₂).later h₃).later h₄).later h₅
  have hseen₆ := hseen₅.later h₆
  have hfresh : InvoiceFresh inv db₈ := hupdated.fresh inv (by simp [huid])
  obtain ⟨-, hallocated, -⟩ := hfresh.earlier hseen₅ ((h₆.trans h₇).trans h₈)
  obtain ⟨-, -, hcredited⟩ := hfresh.earlier hseen₆ (h₇.trans h₈)
  refine commits_of_rewrites h₈.2 (committable_of_credit huid rfl (.inl rfl)
    ((hseen₆.later h₇).later h₈) hupdated ?_ h₈.2.positive)
  have hmin := min_le_right (cn.totalCreditAmount - db₄.getAppliedTotalForCreditNote cn.id)
    (inv.total - db₆.getAppliedTotalForInvoice inv.id - db₅.totalAllocatedForInvoice inv.id)
  dsimp only
  omega

/-! ### Schedules -/

/-- Each settling call keeps the discipline. -/
theorem keeps_txn (call : SettlementCall) :
    settlementDiscipline.Keeps call.txn db held := by
  cases call with
  | addOrReviseAllocations today paymentId allocations =>
      exact keeps_addOrReviseAllocations today paymentId allocations
  | replaceAllocations today paymentId allocations =>
      exact keeps_replaceAllocations today paymentId allocations
  | removeAllocation today paymentId invoiceId =>
      exact keeps_removeAllocation today paymentId invoiceId
  | applyCreditNoteAuto today creditNoteId invoiceId organizationId customerId b2bOrgScope =>
      exact keeps_applyCreditNoteAuto today creditNoteId invoiceId organizationId customerId
        b2bOrgScope

theorem BillingInv.settlementInv (h : BillingInv db) : SettlementInv db := by
  refine ⟨h.ledger.positive, fun p row hrow => ?_, fun i row hrow => ?_⟩
  · obtain ⟨hmem, rfl⟩ := Table.find?_eq_some_iff.mp hrow
    have hmatches := h.ledger.payments row hmem
    have hallocated := hmatches.allocated
    have hbalance := hmatches.balance
    have hfunded := hmatches.funded
    change db.totalLatestAllocatedForPayment row.id ≤ row.amount
    omega
  · obtain ⟨hmem, rfl⟩ := Table.find?_eq_some_iff.mp hrow
    exact (h.invoices row hmem).within

/-- The settling calls of any number of transactions, interleaved statement by statement in
the order that `events` gives. -/
def interleave {T : Type} [DecidableEq T] (calls : T → SettlementCall) (db : Db)
    (events : List (Event T)) : Db :=
  (Runs.run (ReadCommitted.step (transactions Db SettlementLock ServiceError))
    (.start db fun t => some (calls t).txn) events).store

/-- **No invoice is settled beyond its total.** From any database that requests can lead to,
along every schedule of settling calls, what is allocated to an invoice and credited on it
together stay within its total, and what is allocated of a payment within its amount. -/
theorem invoices_never_over_settled (users : TableOf User) (requests : List (Day × BillingOp))
    {T : Type} [DecidableEq T] (calls : T → SettlementCall) (events : List (Event T)) :
    let db := interleave calls (Runs.run BillingOp.step (Db.initial users) requests) events
    (∀ inv ∈ db.invoices.rows,
      db.totalAllocatedForInvoice inv.id + db.getAppliedTotalForInvoice inv.id ≤ inv.total) ∧
    ∀ payment ∈ db.payments.rows,
      db.totalLatestAllocatedForPayment payment.id ≤ payment.amount := by
  have hinv : SettlementInv (interleave calls
      (Runs.run BillingOp.step (Db.initial users) requests) events) :=
    Discipline.run (D := settlementDiscipline) (billingInv_run users requests).settlementInv
      (fun t => keeps_txn (calls t)) events
  refine ⟨fun inv hmem => ?_, fun payment hmem => ?_⟩
  · exact hinv.invoices inv.id inv (Table.find?_eq_some_iff.mpr ⟨hmem, rfl⟩)
  · exact hinv.payments payment.id payment (Table.find?_eq_some_iff.mpr ⟨hmem, rfl⟩)

end SwCouriers
