import SwCouriers.AllocationOwners

/-!
# Replacing Allocations

`replace_allocations` sets what a payment puts on each invoice, and `remove_allocation`
replaces the whole by all but one of its entries. Both are operations on the map from
invoices to net allocations, which `latest_for_payment` reads: what it shows afterwards is the
target, a replacement by what is there already writes nothing, and so does one that is made a
second time.

Putting something on one more invoice and taking it off again gives the map back, and with it
what is allocated of the payment and what is paid on every invoice. The payment status of an
invoice depends on the day of its last write besides: one that was unpaid before its due date
and is written again after it comes back as overdue.

## Main results

* `netAllocation_of_applied`: what the payment has on each invoice after a replacement.
* `sameMap_iff`: when a target is what is there already.
* `replaceAllocations_again`: the second of two equal replacements does nothing.
* `replacement_is_set_operation`: the laws of replacing, adding and removing.
-/

namespace SwCouriers

open Checked

/-! ### Maps -/

variable {db db' db₁ db₂ : Db} {paymentId i : Id} {rows targetMap : List NormalizedAllocation}
  {payment payment₂ : BillingPayment} {today : Day}

/-- `latest_for_payment` holds the net allocations that are not zero. -/
theorem mem_latestForPayment {entry : Id × ℤ} :
    entry ∈ db.latestForPayment paymentId ↔
      entry.2 = db.netAllocation paymentId entry.1 ∧ entry.2 ≠ 0 := by
  obtain ⟨i, amount⟩ := entry
  simp only [Db.latestForPayment, List.mem_filter, List.mem_map, List.mem_insertionSort,
    List.mem_dedup, Prod.mk.injEq, decide_eq_true_eq, ne_eq]
  constructor
  · rintro ⟨⟨j, -, rfl, rfl⟩, hne⟩
    exact ⟨rfl, hne⟩
  · rintro ⟨rfl, hne⟩
    refine ⟨⟨i, ?_, rfl, rfl⟩, hne⟩
    -- A sum that is not zero has a row.
    by_contra hnone
    exact hne (Table.sumWhere_eq_zero fun a ha hrow => hnone ⟨a, ⟨ha, hrow.1⟩, hrow.2⟩)

theorem amountOn_pos_iff (hpos : ∀ row ∈ rows, 0 < row.allocatedAmount)
    (hnd : (rows.map (·.invoiceId)).Nodup) : 0 < amountOn rows i ↔ i ∈ rows.map (·.invoiceId) := by
  constructor
  · intro h
    by_contra hi
    rw [amountOn_eq_zero hi] at h
    exact lt_irrefl 0 h
  · intro hi
    obtain ⟨row, hrow, rfl⟩ := List.mem_map.mp hi
    rw [amountOn_eq_of_mem hnd hrow]
    exact hpos row hrow

/-- **A target map is what is there already** when it gives each invoice its net
allocation. -/
theorem sameMap_iff (hrows : db.PositiveRows) (hpos : ∀ row ∈ rows, 0 < row.allocatedAmount)
    (hnd : (rows.map (·.invoiceId)).Nodup) :
    sameMap rows (db.currentMap paymentId) = true ↔
      ∀ i, db.netAllocation paymentId i = amountOn rows i := by
  have hkeys := nodup_currentMap_keys db paymentId
  have hnonneg := hrows.netAllocation_nonneg paymentId
  have hlookup : (∀ row ∈ rows, (db.currentMap paymentId).lookup row.invoiceId
      = some row.allocatedAmount) ↔
        ∀ row ∈ rows, db.netAllocation paymentId row.invoiceId = row.allocatedAmount := by
    refine forall_congr' fun row => forall_congr' fun hrow => ?_
    rw [lookup_currentMap]
    have hp := hpos row hrow
    split_ifs with hnet
    · exact Option.some_inj
    · exact ⟨False.elim, fun h => absurd (h ▸ hp) hnet⟩
  simp only [sameMap, Bool.and_eq_true, decide_eq_true_eq, List.all_eq_true]
  rw [hlookup]
  constructor
  · rintro ⟨hlength, hnet⟩ i
    by_cases hi : i ∈ rows.map (·.invoiceId)
    · obtain ⟨row, hrow, rfl⟩ := List.mem_map.mp hi
      rw [hnet row hrow, amountOn_eq_of_mem hnd hrow]
    · -- The target has as many entries as the map has, so the map has no other.
      have hsub : rows.map (·.invoiceId) ⊆ (db.currentMap paymentId).map (·.1) := by
        intro j hj
        obtain ⟨row, hrow, rfl⟩ := List.mem_map.mp hj
        exact mem_currentMap_keys.mpr ((hnet row hrow).symm ▸ hpos row hrow)
      have hperm := (hnd.subperm hsub).perm_of_length_le (by simp [hlength])
      have hnot : ¬ 0 < db.netAllocation paymentId i := fun h =>
        hi (hperm.mem_iff.mpr (mem_currentMap_keys.mpr h))
      rw [amountOn_eq_zero hi]
      exact le_antisymm (not_lt.mp hnot) (hnonneg i)
  · intro hnet
    have hperm : (rows.map (·.invoiceId)).Perm ((db.currentMap paymentId).map (·.1)) :=
      (List.perm_ext_iff_of_nodup hnd hkeys).mpr fun i => by
        rw [mem_currentMap_keys, hnet, amountOn_pos_iff hpos hnd]
    exact ⟨by simpa using hperm.length_eq, fun row hrow =>
      (hnet row.invoiceId).trans (amountOn_eq_of_mem hnd hrow)⟩

/-! ### Sums -/

/-- What a payment has on distinct invoices is what its rows on them add up to. -/
theorem sum_netAllocation (db : Db) (paymentId : Id) {ids : List Id} (hnd : ids.Nodup) :
    (ids.map (db.netAllocation paymentId)).sum
      = db.allocations.sumWhere (fun a => a.paymentId = paymentId ∧ a.invoiceId ∈ ids)
        (·.allocatedAmount) := by
  induction ids with
  | nil => exact (Table.sumWhere_eq_zero fun a _ h => absurd h.2 List.not_mem_nil).symm
  | cons i ids ih =>
      obtain ⟨hi, hnd⟩ := List.nodup_cons.mp hnd
      rw [List.map_cons, List.sum_cons, ih hnd,
        Table.sumWhere_split (p := fun a : BillingPaymentAllocation =>
          a.paymentId = paymentId ∧ a.invoiceId ∈ i :: ids) db.allocations (·.invoiceId = i)]
      congr 1
      · refine Table.sumWhere_congr (fun a _ => ?_) fun a _ _ => rfl
        constructor
        · rintro ⟨hp, rfl⟩
          exact ⟨⟨hp, List.mem_cons_self⟩, rfl⟩
        · exact fun h => ⟨h.1.1, h.2⟩
      · refine Table.sumWhere_congr (fun a _ => ?_) fun a _ _ => rfl
        constructor
        · rintro ⟨hp, hmem⟩
          exact ⟨⟨hp, List.mem_cons_of_mem i hmem⟩, fun heq => hi (heq ▸ hmem)⟩
        · exact fun h => ⟨h.1.1, (List.mem_cons.mp h.1.2).resolve_left h.2⟩

/-- The total of a payment is the sum of its net allocations. -/
theorem total_eq_of_netAllocation_eq
    (h : ∀ i, db'.netAllocation paymentId i = db.netAllocation paymentId i) :
    db'.totalLatestAllocatedForPayment paymentId
      = db.totalLatestAllocatedForPayment paymentId := by
  let ids := (db.allocations.rows.map (·.invoiceId) ++
    db'.allocations.rows.map (·.invoiceId)).dedup
  have htotal : ∀ d : Db, (∀ a ∈ d.allocations.rows, a.invoiceId ∈ ids) →
      d.totalLatestAllocatedForPayment paymentId = (ids.map (d.netAllocation paymentId)).sum := by
    intro d hd
    rw [sum_netAllocation d paymentId (List.nodup_dedup _)]
    exact Table.sumWhere_congr (fun a ha => (and_iff_left (hd a ha)).symm) fun a _ _ => rfl
  rw [htotal db fun a ha => List.mem_dedup.mpr
      (List.mem_append_left _ (List.mem_map_of_mem ha)),
    htotal db' fun a ha => List.mem_dedup.mpr
      (List.mem_append_right _ (List.mem_map_of_mem ha)), funext h]

/-! ### Replacing -/

/-- The entry may be a target: its invoice is a sent one of the organisation with room for it
next to what the other payments put there. -/
def Admits (db : Db) (payment : BillingPayment) (t : NormalizedAllocation) : Prop :=
  ∃ inv, invById db payment.organizationId t.invoiceId = some inv ∧ inv.status = .sent ∧
    t.allocatedAmount ≤ inv.total - db.getAppliedTotalForInvoice t.invoiceId
      - db.otherAllocation payment.id t.invoiceId

theorem totalAllocated_sub_current (hrows : db.PositiveRows) (paymentId i : Id) :
    db.totalAllocatedForInvoice i - ((db.currentMap paymentId).lookup i).getD 0
      = db.otherAllocation paymentId i := by
  have hnonneg := hrows.netAllocation_nonneg paymentId i
  have htotal := totalAllocatedForInvoice_eq db paymentId i
  rw [lookup_currentMap]
  split_ifs with hnet
  · rw [Option.getD_some]
    omega
  · rw [Option.getD_none]
    omega

/-- The state after a payment's rows were replaced. -/
def Db.replaced (db : Db) (today : Day) (payment : BillingPayment)
    (targetMap : List NormalizedAllocation) : Db :=
  ((db.deleteAllocations payment.id).insertAllocations payment.id targetMap).commitAllocations
    today payment (db.touchedIds payment.id targetMap)

theorem checkSentInvoices_of {organizationId : Id} {ids : List Id}
    (h : ∀ i ∈ ids, ∃ inv, invById db organizationId i = some inv ∧ inv.status = .sent) :
    checkSentInvoices db organizationId ids = .ok () := by
  refine bind_eq_ok.mpr ⟨⟨⟩, checkEach_eq_ok.mpr fun i hi => ?_,
    checkEach_eq_ok.mpr fun i hi => ?_⟩
  · obtain ⟨inv, hinv, -⟩ := h i hi
    exact raiseIf_eq_ok.mpr (by simp [hinv])
  · obtain ⟨inv, hinv, hsent⟩ := h i hi
    exact raiseIf_eq_ok.mpr (by simp [hinv, hsent])

theorem totalLatestAllocatedForPayment_replaced (db : Db) (paymentId : Id)
    (rows : List NormalizedAllocation) :
    ((db.deleteAllocations paymentId).insertAllocations paymentId
        rows).totalLatestAllocatedForPayment paymentId
      = (rows.map (·.allocatedAmount)).sum := by
  have hinserted := sumWhere_insertAllocations (fun p _ => p = paymentId)
    (db.deleteAllocations paymentId) paymentId rows
  have hdeleted := sumWhere_deleteAllocations (fun p _ => p = paymentId) db paymentId
  have hnone : db.allocations.sumWhere
      (fun a => a.paymentId = paymentId ∧ ¬ a.paymentId = paymentId) (·.allocatedAmount) = 0 :=
    Table.sumWhere_eq_zero fun a _ h => h.2 h.1
  rw [Db.totalLatestAllocatedForPayment, hinserted, hdeleted, hnone]
  simp

/-- A payment's projection is recomputed when its allocations do not exceed its amount. -/
theorem recomputePaymentProjection_of (hp : db.payments.find? payment.id = some payment)
    (hle : db.totalLatestAllocatedForPayment payment.id ≤ payment.amount) :
    recomputePaymentProjection db payment = .ok { db with
      payments := db.payments.modify payment.id (BillingPayment.projected db)
        (BillingPayment.projected_id db) } := by
  have hok : ∃ db', recomputePaymentProjection db payment = .ok db' :=
    ⟨_, bind_eq_ok.mpr ⟨⟨⟩, raiseIf_eq_ok.mpr (by omega), bind_eq_ok.mpr
      ⟨_, updateById_eq_ok.mpr ⟨payment, hp, rfl, rfl, rfl⟩, rfl⟩⟩⟩
  obtain ⟨db', hdb'⟩ := hok
  obtain ⟨-, rfl⟩ := recomputePaymentProjection_eq_ok hp hdb'
  exact hdb'

/-- Every invoice that a replacement touches exists. -/
theorem isSome_find?_touched (hdb : BillingInv db) (hadmits : ∀ t ∈ targetMap, Admits db payment t)
    (hi : i ∈ db.touchedIds payment.id targetMap) : (db.invoices.find? i).isSome := by
  rcases mem_touchedIds.mp hi with hcurrent | htarget
  · have hnet := mem_currentMap_keys.mp hcurrent
    by_contra hnone
    have hzero : db.netAllocation payment.id i = 0 :=
      Table.sumWhere_eq_zero fun a ha hrow => hnone (hrow.2 ▸ hdb.allocated a ha)
    omega
  · obtain ⟨t, ht, rfl⟩ := List.mem_map.mp htarget
    obtain ⟨inv, hinv, -⟩ := hadmits t ht
    rw [(invById_eq_some.mp hinv).1]
    rfl

/-- What `_apply_allocation_targets` has checked and done when it returns. -/
theorem applyAllocationTargets_spec (hrows : db.PositiveRows)
    (hpay : Allocatable db payment.id payment) (hpos : ∀ t ∈ targetMap, 0 < t.allocatedAmount)
    (hnd : (targetMap.map (·.invoiceId)).Nodup)
    (h : applyAllocationTargets db today payment targetMap = .ok db') :
    (targetMap.map (·.allocatedAmount)).sum ≤ payment.amount ∧
    (∀ t ∈ targetMap, Admits db payment t) ∧
    ((∀ i, db.netAllocation payment.id i = amountOn targetMap i) ∧ db' = db ∨
      (¬ ∀ i, db.netAllocation payment.id i = amountOn targetMap i) ∧
        db' = db.replaced today payment targetMap) := by
  obtain ⟨htotal, h⟩ := raiseIf_bind_eq_ok.mp h
  obtain ⟨⟨⟩, hsent, h⟩ := bind_eq_ok.mp h
  refine ⟨not_lt.mp htotal, ?_⟩
  dsimp only at h
  split at h
  · rename_i htouched
    have hnone : ∀ i, i ∉ db.touchedIds payment.id targetMap := by
      intro i hi
      rw [Db.touchedIds, htouched] at hi
      exact List.not_mem_nil hi
    have hsame : ∀ i, db.netAllocation payment.id i = amountOn targetMap i := by
      intro i
      have hnot : ¬ 0 < db.netAllocation payment.id i := fun hnet =>
        hnone i (mem_touchedIds.mpr (.inl (mem_currentMap_keys.mpr hnet)))
      have hnonneg := hrows.netAllocation_nonneg payment.id i
      rw [amountOn_eq_zero fun hi => hnone i (mem_touchedIds.mpr (.inr hi))]
      omega
    exact ⟨fun t ht => absurd (mem_touchedIds.mpr (.inr (List.mem_map_of_mem ht)))
      (hnone t.invoiceId), .inl ⟨hsame, (pure_eq_ok.mp h).symm⟩⟩
  obtain ⟨⟨⟩, hroom, h⟩ := bind_eq_ok.mp h
  refine ⟨fun t ht => ?_, ?_⟩
  · obtain ⟨inv, hinv, hstatus⟩ := checkSentInvoices_ok hsent (List.mem_map_of_mem ht)
    obtain ⟨inv', hinv', hle⟩ := bind_eq_ok.mp (checkEach_eq_ok.mp hroom t ht)
    obtain rfl : inv = inv' := Option.some.inj (hinv.symm.trans (orRaise_eq_ok.mp hinv'))
    have hle := not_lt.mp (raiseIf_eq_ok.mp hle)
    rw [totalAllocated_sub_current hrows] at hle
    exact ⟨inv, hinv, hstatus, hle⟩
  split at h
  · rename_i hsame
    exact .inl ⟨(sameMap_iff hrows hpos hnd).mp hsame, (pure_eq_ok.mp h).symm⟩
  · rename_i hsame
    refine .inr ⟨fun hnet => hsame ((sameMap_iff hrows hpos hnd).mpr hnet), ?_⟩
    have hfound : ((db.deleteAllocations payment.id).insertAllocations payment.id
        targetMap).payments.find? payment.id = some payment := by
      rw [insertAllocations_frame]
      exact hpay.found
    exact (commitAllocations_ok hfound (nodup_touchedIds db payment.id targetMap) h).2.2

/-- It returns whenever the targets pass these checks. -/
theorem applyAllocationTargets_of (hdb : BillingInv db) (today : Day)
    (hpay : Allocatable db payment.id payment)
    (htotal : (targetMap.map (·.allocatedAmount)).sum ≤ payment.amount)
    (hadmits : ∀ t ∈ targetMap, Admits db payment t) :
    ∃ db', applyAllocationTargets db today payment targetMap = .ok db' := by
  have hrows := hdb.ledger.positive
  have hsent : checkSentInvoices db payment.organizationId (targetMap.map (·.invoiceId))
      = .ok () := by
    refine checkSentInvoices_of fun i hi => ?_
    obtain ⟨t, ht, rfl⟩ := List.mem_map.mp hi
    obtain ⟨inv, hinv, hstatus, -⟩ := hadmits t ht
    exact ⟨inv, hinv, hstatus⟩
  unfold applyAllocationTargets
  dsimp only
  rw [(raiseIf_eq_ok (w := ⟨⟩)).mpr (not_lt.mpr htotal), ok_bind, hsent, ok_bind]
  split
  · exact ⟨db, rfl⟩
  rw [(checkEach_eq_ok (w := ⟨⟩)).mpr, ok_bind]
  · split
    · exact ⟨db, rfl⟩
    · have hfound : ((db.deleteAllocations payment.id).insertAllocations payment.id
          targetMap).payments.find? payment.id = some payment := by
        rw [insertAllocations_frame]
        exact hpay.found
      rw [recomputePaymentProjection_of hfound
        (totalLatestAllocatedForPayment_replaced db payment.id targetMap ▸ htotal), ok_bind]
      refine ⟨_, (recomputeInvoiceProjections_eq_ok
        (nodup_touchedIds db payment.id targetMap)).mpr ⟨fun i hi => ?_, rfl⟩⟩
      rw [insertAllocations_frame]
      exact (isSome_find?_touched hdb hadmits hi :)
  · intro t ht
    obtain ⟨inv, hinv, -, hle⟩ := hadmits t ht
    refine bind_eq_ok.mpr ⟨inv, orRaise_eq_ok.mpr hinv, raiseIf_eq_ok.mpr (not_lt.mpr ?_)⟩
    rwa [totalAllocated_sub_current hrows]

/-! ### The state after a replacement -/

theorem netAllocation_replaced (db : Db) (today : Day) (payment : BillingPayment)
    (targetMap : List NormalizedAllocation) (i : Id) :
    (db.replaced today payment targetMap).netAllocation payment.id i = amountOn targetMap i := by
  have hnet := netAllocation_insertAllocations (db.deleteAllocations payment.id) payment.id
    targetMap i
  rw [netAllocation_deleteAllocations, zero_add] at hnet
  exact hnet

theorem otherAllocation_replaced (db : Db) (today : Day) (payment : BillingPayment)
    (targetMap : List NormalizedAllocation) (i : Id) :
    (db.replaced today payment targetMap).otherAllocation payment.id i
      = db.otherAllocation payment.id i :=
  (otherAllocation_insertAllocations (db.deleteAllocations payment.id) payment.id targetMap
    i).trans (otherAllocation_deleteAllocations db payment.id i)

/-- **What the payment has on each invoice afterwards**: its target. -/
theorem netAllocation_of_applied (hrows : db.PositiveRows)
    (hpay : Allocatable db payment.id payment) (hpos : ∀ t ∈ targetMap, 0 < t.allocatedAmount)
    (hnd : (targetMap.map (·.invoiceId)).Nodup)
    (h : applyAllocationTargets db today payment targetMap = .ok db') (i : Id) :
    db'.netAllocation payment.id i = amountOn targetMap i := by
  obtain ⟨-, -, ⟨hsame, rfl⟩ | ⟨-, rfl⟩⟩ := applyAllocationTargets_spec hrows hpay hpos hnd h
  · exact hsame i
  · exact netAllocation_replaced db today payment targetMap i

/-- An allocation write of a payment keeps the payment's own data and its invoices'. -/
structure SameParties (db db' : Db) (payment payment' : BillingPayment) : Prop where
  found : db'.payments.find? payment.id = some payment'
  amount : payment'.amount = payment.amount
  status : payment'.status = payment.status
  organization : payment'.organizationId = payment.organizationId
  id : payment'.id = payment.id
  applied : ∀ i, db'.getAppliedTotalForInvoice i = db.getAppliedTotalForInvoice i
  other : ∀ i, db'.otherAllocation payment.id i = db.otherAllocation payment.id i
  events : db'.invoiceEvents = db.invoiceEvents
  invoices : ∀ i inv, db.invoices.find? i = some inv → ∃ inv', db'.invoices.find? i = some inv' ∧
    inv'.organizationId = inv.organizationId ∧ inv'.status = inv.status ∧
    inv'.total = inv.total ∧ inv'.dueDate = inv.dueDate

theorem SameParties.admits {payment' : BillingPayment} (h : SameParties db db' payment payment')
    {t : NormalizedAllocation} (ht : Admits db payment t) : Admits db' payment' t := by
  obtain ⟨inv, hinv, hsent, hle⟩ := ht
  obtain ⟨hfound, horg⟩ := invById_eq_some.mp hinv
  obtain ⟨inv', hinv', horg', hstatus', htotal', -⟩ := h.invoices _ inv hfound
  refine ⟨inv', invById_eq_some.mpr ⟨hinv', ?_⟩, hstatus'.trans hsent, ?_⟩
  · rw [horg', horg, h.organization]
  · rw [h.id, h.applied, h.other, htotal']
    exact hle

/-- A committed write changes the rows of one payment and projections. -/
theorem sameParties_commitAllocations (hfound : db.payments.find? payment.id = some payment)
    (hframe : db₁ = { db with allocations := db₁.allocations })
    (hother : ∀ i, db₁.otherAllocation payment.id i = db.otherAllocation payment.id i)
    (touched : List Id) :
    SameParties db (db₁.commitAllocations today payment touched) payment
      (payment.projected db₁) := by
  have hpayments : db₁.payments = db.payments := by rw [hframe]
  have hcredit : db₁.creditApplications = db.creditApplications := by rw [hframe]
  have hinvoices : db₁.invoices = db.invoices := by rw [hframe]
  have hevents : db₁.invoiceEvents = db.invoiceEvents := by rw [hframe]
  refine ⟨?_, rfl, rfl, rfl, rfl, fun i => ?_, hother, hevents, fun i inv hinv => ?_⟩
  · rw [Db.commitAllocations, Table.find?_modify, hpayments, if_pos rfl, hfound]
    rfl
  · show db₁.getAppliedTotalForInvoice i = _
    rw [Db.getAppliedTotalForInvoice, Db.getAppliedTotalForInvoice, hcredit]
  · refine ⟨if i ∈ touched then inv.projected db₁ today else inv, ?_, ?_⟩
    · rw [Db.commitAllocations, find?_reproject, hinvoices, hinv]
      rfl
    · split_ifs <;> exact ⟨rfl, rfl, rfl, rfl⟩

theorem sameParties_replaced (hfound : db.payments.find? payment.id = some payment)
    (targetMap : List NormalizedAllocation) :
    ∃ payment', SameParties db (db.replaced today payment targetMap) payment payment' := by
  have hframe : (db.deleteAllocations payment.id).insertAllocations payment.id targetMap
      = { db with allocations := ((db.deleteAllocations payment.id).insertAllocations payment.id
          targetMap).allocations } := insertAllocations_frame _ _ _
  exact ⟨_, sameParties_commitAllocations hfound hframe
    (fun i => otherAllocation_replaced db today payment targetMap i) _⟩

theorem SameParties.refl (h : db.payments.find? payment.id = some payment) :
    SameParties db db payment payment :=
  ⟨h, rfl, rfl, rfl, rfl, fun _ => rfl, fun _ => rfl, rfl,
    fun _ inv hinv => ⟨inv, hinv, rfl, rfl, rfl, rfl⟩⟩

theorem SameParties.allocatable {payment' : BillingPayment}
    (h : SameParties db db' payment payment') (hpay : Allocatable db payment.id payment) :
    Allocatable db' payment'.id payment' :=
  ⟨h.id.symm ▸ h.found, h.status.symm ▸ hpay.notVoided⟩

/-- Whatever a call on targets has done, it has kept the parties. -/
theorem sameParties_of_applied (hrows : db.PositiveRows) (hpay : Allocatable db payment.id payment)
    (hpos : ∀ t ∈ targetMap, 0 < t.allocatedAmount) (hnd : (targetMap.map (·.invoiceId)).Nodup)
    (h : applyAllocationTargets db today payment targetMap = .ok db') :
    ∃ payment', SameParties db db' payment payment' := by
  obtain ⟨-, -, ⟨-, rfl⟩ | ⟨-, rfl⟩⟩ := applyAllocationTargets_spec hrows hpay hpos hnd h
  · exact ⟨payment, .refl hpay.found⟩
  · exact sameParties_replaced hpay.found targetMap

/-! ### Replacing twice -/

theorem replaceAllocations_of (hpay : Allocatable db payment.id payment)
    {allocations : List AllocationInput} (hrows : normalizeAllocations allocations = .ok rows)
    (h : applyAllocationTargets db today payment rows = .ok db') :
    replaceAllocations db today payment.id allocations = .ok db' :=
  bind_eq_ok.mpr ⟨payment, getByIdOr404_eq_ok.mpr ⟨hpay.found, rfl⟩, bind_eq_ok.mpr
    ⟨⟨⟩, raiseIf_eq_ok.mpr hpay.notVoided, bind_eq_ok.mpr ⟨rows, hrows, h⟩⟩⟩

/-- Targets that are there already are accepted and change nothing. -/
theorem applyAllocationTargets_same (hdb : BillingInv db) (today : Day)
    (hpay : Allocatable db payment.id payment) (hpos : ∀ t ∈ targetMap, 0 < t.allocatedAmount)
    (hnd : (targetMap.map (·.invoiceId)).Nodup)
    (htotal : (targetMap.map (·.allocatedAmount)).sum ≤ payment.amount)
    (hadmits : ∀ t ∈ targetMap, Admits db payment t)
    (hsame : ∀ i, db.netAllocation payment.id i = amountOn targetMap i) :
    applyAllocationTargets db today payment targetMap = .ok db := by
  obtain ⟨db', h⟩ := applyAllocationTargets_of hdb today hpay htotal hadmits
  obtain ⟨-, -, ⟨-, rfl⟩ | ⟨hdiff, -⟩⟩ :=
    applyAllocationTargets_spec hdb.ledger.positive hpay hpos hnd h
  · exact h
  · exact absurd hsame hdiff

/-- **The second of two equal replacements does nothing**, on whatever day it is made. -/
theorem replaceAllocations_again (hdb : BillingInv db) {allocations : List AllocationInput}
    (h : replaceAllocations db today paymentId allocations = .ok db') (today' : Day) :
    replaceAllocations db' today' paymentId allocations = .ok db' := by
  have hexec : PaymentOp.exec db today (.replaceAllocations paymentId allocations) = .ok db' := h
  have hdb' : BillingInv db' := hdb.paymentEffect (PaymentOp.exec_effect hexec)
  obtain ⟨payment, rows, hpay, hnormalized, happly⟩ := replaceAllocations_ok h
  obtain rfl := hpay.id_eq
  obtain ⟨-, hpos, hnd⟩ := normalizeAllocations_ok hnormalized
  have hrows := hdb.ledger.positive
  obtain ⟨htotal, hadmits, -⟩ := applyAllocationTargets_spec hrows hpay hpos hnd happly
  have hnet := netAllocation_of_applied hrows hpay hpos hnd happly
  obtain ⟨payment', hsame⟩ := sameParties_of_applied hrows hpay hpos hnd happly
  have hagain := applyAllocationTargets_same hdb' today' (hsame.allocatable hpay) hpos hnd
    (hsame.amount ▸ htotal) (fun t ht => hsame.admits (hadmits t ht))
    (hsame.id.symm ▸ hnet)
  have hreplace := replaceAllocations_of (hsame.allocatable hpay) hnormalized hagain
  rwa [hsame.id] at hreplace

/-- The entries of a target map. -/
def targetEntries (rows : List NormalizedAllocation) : List (Id × ℤ) :=
  rows.map fun t => (t.invoiceId, t.allocatedAmount)

/-- `latest_for_payment` shows a target map when it gives each invoice its net allocation. -/
theorem latestForPayment_iff (hpos : ∀ row ∈ rows, 0 < row.allocatedAmount)
    (hnd : (rows.map (·.invoiceId)).Nodup) :
    (∀ entry, entry ∈ db.latestForPayment paymentId ↔ entry ∈ targetEntries rows) ↔
      ∀ i, db.netAllocation paymentId i = amountOn rows i := by
  have hentry : ∀ entry, entry ∈ targetEntries rows ↔
      entry.2 = amountOn rows entry.1 ∧ entry.2 ≠ 0 := by
    rintro ⟨i, amount⟩
    simp only [targetEntries, List.mem_map, Prod.mk.injEq]
    constructor
    · rintro ⟨row, hrow, rfl, rfl⟩
      exact ⟨(amountOn_eq_of_mem hnd hrow).symm, (hpos row hrow).ne'⟩
    · rintro ⟨rfl, hne⟩
      have hi : i ∈ rows.map (·.invoiceId) := by
        by_contra hi
        exact hne (amountOn_eq_zero hi)
      obtain ⟨row, hrow, rfl⟩ := List.mem_map.mp hi
      exact ⟨row, hrow, rfl, (amountOn_eq_of_mem hnd hrow).symm⟩
  constructor
  · intro h i
    have hnet := h (i, db.netAllocation paymentId i)
    have hamount := h (i, amountOn rows i)
    rw [mem_latestForPayment, hentry] at hnet hamount
    by_cases hzero : db.netAllocation paymentId i = 0
    · by_contra hne
      exact hne (hamount.mpr ⟨rfl, fun h0 => hne (hzero.trans h0.symm)⟩).1.symm
    · exact (hnet.mp ⟨rfl, hzero⟩).1
  · intro h entry
    rw [mem_latestForPayment, hentry, h]

/-! ### Adding and removing -/

theorem SameParties.trans {payment₁ : BillingPayment} (h : SameParties db db₁ payment payment₁)
    (h' : SameParties db₁ db₂ payment₁ payment₂) : SameParties db db₂ payment payment₂ where
  found := h.id ▸ h'.found
  amount := h'.amount.trans h.amount
  status := h'.status.trans h.status
  organization := h'.organization.trans h.organization
  id := h'.id.trans h.id
  applied i := (h'.applied i).trans (h.applied i)
  other i := by
    have hother := h'.other i
    rw [h.id] at hother
    exact hother.trans (h.other i)
  events := h'.events.trans h.events
  invoices i inv hinv := by
    obtain ⟨inv₁, hinv₁, horg, hstatus, htotal, hdue⟩ := h.invoices i inv hinv
    obtain ⟨inv₂, hinv₂, horg', hstatus', htotal', hdue'⟩ := h'.invoices i inv₁ hinv₁
    exact ⟨inv₂, hinv₂, horg'.trans horg, hstatus'.trans hstatus, htotal'.trans htotal,
      hdue'.trans hdue⟩

/-- What a removal leaves to its payment: all but the one entry. -/
theorem amountOn_withoutInvoice (hrows : db.PositiveRows) (paymentId invoiceId j : Id) :
    amountOn (db.withoutInvoice paymentId invoiceId) j
      = if j = invoiceId then 0 else db.netAllocation paymentId j := by
  obtain ⟨hentries, hnd⟩ := withoutInvoice_spec db paymentId invoiceId
  have hkeys : ∀ i, i ∈ (db.withoutInvoice paymentId invoiceId).map (·.invoiceId) ↔
      0 < db.netAllocation paymentId i ∧ i ≠ invoiceId := by
    intro i
    rw [← mem_currentMap_keys]
    simp only [Db.withoutInvoice, List.map_map, List.mem_map, List.mem_filter,
      decide_eq_true_eq, Function.comp_apply, ne_eq]
    constructor
    · rintro ⟨entry, ⟨hentry, hne⟩, rfl⟩
      exact ⟨⟨entry, hentry, rfl⟩, hne⟩
    · rintro ⟨⟨entry, hentry, rfl⟩, hne⟩
      exact ⟨entry, ⟨hentry, hne⟩, rfl⟩
  split_ifs with hj
  · exact amountOn_eq_zero fun hmem => ((hkeys j).mp hmem).2 hj
  · by_cases hnet : 0 < db.netAllocation paymentId j
    · obtain ⟨row, hrow, rfl⟩ := List.mem_map.mp ((hkeys j).mpr ⟨hnet, hj⟩)
      rw [amountOn_eq_of_mem hnd hrow]
      exact (hentries row hrow).2
    · rw [amountOn_eq_zero fun hmem => hnet ((hkeys j).mp hmem).1]
      exact le_antisymm (hrows.netAllocation_nonneg paymentId j) (not_lt.mp hnet)

/-- What an accepted addition to one invoice has done. -/
theorem addAllocation_ok {invoiceId : Id} {amount : Option ℚ} {notes : Option String}
    (h : addOrReviseAllocations db today paymentId [⟨some invoiceId, amount, notes⟩] = .ok db₁) :
    ∃ payment payment₁, payment.id = paymentId ∧ Allocatable db payment.id payment ∧
      SameParties db db₁ payment payment₁ ∧
      (∃ inv, db.invoices.find? invoiceId = some inv) ∧ 0 < money (amount.getD 0) ∧
      ∀ j, db₁.netAllocation payment.id j = db.netAllocation payment.id j
        + if j = invoiceId then money (amount.getD 0) else 0 := by
  obtain ⟨payment, rows, hpay, hnormalized, hnamed, -, rfl⟩ := addOrReviseAllocations_ok h
  obtain rfl := hpay.id_eq
  obtain ⟨hmap, hpos, -⟩ := normalizeAllocations_ok hnormalized
  have hrows : rows = [⟨invoiceId, money (amount.getD 0), notes⟩] := by
    have hsome : rows.map some = [⟨invoiceId, money (amount.getD 0), notes⟩].map some :=
      hmap.symm
    exact List.map_injective_iff.mpr (Option.some_injective _) hsome
  obtain rfl := hrows
  obtain ⟨inv, hinv, -⟩ := hnamed _ List.mem_cons_self
  refine ⟨payment, _, rfl, hpay, sameParties_commitAllocations hpay.found
    (insertAllocations_frame db payment.id _)
    (otherAllocation_insertAllocations db payment.id _) _, ⟨inv, (invById_eq_some.mp hinv).1⟩,
    hpos _ List.mem_cons_self, fun j => ?_⟩
  refine (netAllocation_insertAllocations db payment.id _ j).trans ?_
  by_cases hj : j = invoiceId
  · simp [amountOn, hj]
  · simp [amountOn, hj, Ne.symm hj]

/-- Whatever a payment funds may be its target again. -/
theorem admits_funded (hdb : BillingInv db) (hown : db.OwnRows)
    (hpay : Allocatable db payment.id payment) (hi : 0 < db.netAllocation payment.id i)
    (notes : Option String) : Admits db payment ⟨i, db.netAllocation payment.id i, notes⟩ := by
  obtain ⟨a, ha, hp, rfl⟩ : ∃ a ∈ db.allocations.rows, a.paymentId = payment.id ∧
      a.invoiceId = i := by
    by_contra hnone
    exact hi.ne' (Table.sumWhere_eq_zero fun a ha hrow => hnone ⟨a, ha, hrow⟩)
  obtain ⟨p, inv, hfound, hinv, hsent⟩ := hown a ha
  rw [hp, hpay.found] at hfound
  obtain rfl := Option.some.inj hfound
  refine ⟨inv, hinv, hsent, ?_⟩
  have hfind := (invById_eq_some.mp hinv).1
  have hwithin := (hdb.invoice_found hfind).within
  have hid : inv.id = a.invoiceId := (Table.find?_eq_some_iff.mp hfind).2
  rw [hid, totalAllocatedForInvoice_eq db payment.id] at hwithin
  change db.netAllocation payment.id a.invoiceId
    ≤ inv.total - db.getAppliedTotalForInvoice a.invoiceId
      - db.otherAllocation payment.id a.invoiceId
  omega

/-- **An entry of the map can always be removed.** -/
theorem removeAllocation_of (hdb : BillingInv db) (hown : db.OwnRows) (today : Day)
    (hpay : Allocatable db payment.id payment) (hi : 0 < db.netAllocation payment.id i) :
    ∃ db', removeAllocation db today payment.id (some i) = .ok db' := by
  obtain ⟨hentries, hnd⟩ := withoutInvoice_spec db payment.id i
  have hadmits : ∀ t ∈ db.withoutInvoice payment.id i, Admits db payment t := by
    intro t ht
    obtain ⟨hpos, hnet⟩ := hentries t ht
    have hadmits := admits_funded hdb hown hpay (hnet ▸ hpos) t.notes
    rwa [← hnet] at hadmits
  have htotal : ((db.withoutInvoice payment.id i).map (·.allocatedAmount)).sum
      ≤ payment.amount := by
    have hsum : (db.withoutInvoice payment.id i).map (·.allocatedAmount)
        = ((db.withoutInvoice payment.id i).map (·.invoiceId)).map
          (db.netAllocation payment.id) := by
      rw [List.map_map]
      exact List.map_congr_left fun t ht => (hentries t ht).2
    have hle : (((db.withoutInvoice payment.id i).map (·.invoiceId)).map
        (db.netAllocation payment.id)).sum ≤ db.totalLatestAllocatedForPayment payment.id := by
      have hrest : 0 ≤ db.allocations.sumWhere (fun a => a.paymentId = payment.id ∧
          ¬ a.invoiceId ∈ (db.withoutInvoice payment.id i).map (·.invoiceId))
          (·.allocatedAmount) :=
        Table.sumWhere_nonneg fun a ha _ => (hdb.ledger.positive a ha).le
      rw [sum_netAllocation db payment.id hnd, Db.totalLatestAllocatedForPayment,
        Table.sumWhere_split (p := fun a : BillingPaymentAllocation => a.paymentId = payment.id)
          db.allocations (·.invoiceId ∈ (db.withoutInvoice payment.id i).map (·.invoiceId))]
      omega
    obtain ⟨hallocated, hbalance, -, hfunded⟩ :=
      hdb.ledger.payments payment (Table.find?_eq_some_iff.mp hpay.found).1
    rw [hsum]
    omega
  obtain ⟨db', happly⟩ := applyAllocationTargets_of hdb today hpay htotal hadmits
  refine ⟨db', bind_eq_ok.mpr ⟨payment, getByIdOr404_eq_ok.mpr ⟨hpay.found, rfl⟩,
    bind_eq_ok.mpr ⟨⟨⟩, raiseIf_eq_ok.mpr hpay.notVoided, bind_eq_ok.mpr ⟨i, rfl,
      bind_eq_ok.mpr ⟨⟨⟩, raiseIf_eq_ok.mpr ?_, happly⟩⟩⟩⟩⟩
  rw [lookup_currentMap, if_pos hi]
  simp

/-- From `db` to `db₂` a payment's map and its projections are what they were, and so is what
is paid on every invoice. The status of one invoice is recomputed for the day. -/
structure Restored (db db₂ : Db) (paymentId invoiceId : Id) (today : Day) : Prop where
  map : ∀ entry, entry ∈ db₂.latestForPayment paymentId ↔ entry ∈ db.latestForPayment paymentId
  payment : ∃ p p₂, db.payments.find? paymentId = some p ∧
    db₂.payments.find? paymentId = some p₂ ∧ p₂.allocatedAmount = p.allocatedAmount ∧
    p₂.unallocatedAmount = p.unallocatedAmount ∧ p₂.allocationStatus = p.allocationStatus
  paid : ∀ i inv, db.invoices.find? i = some inv →
    ∃ inv₂, db₂.invoices.find? i = some inv₂ ∧ inv₂.paidAmount = inv.paidAmount
  status : ∃ inv inv₂, db.invoices.find? invoiceId = some inv ∧
    db₂.invoices.find? invoiceId = some inv₂ ∧ inv₂.paymentStatus =
      computePaymentStatus inv inv.paidAmount (db.getAppliedTotalForInvoice invoiceId)
        (db.latestOutcomeEventType invoiceId) today

/-- A payment whose net allocations are what they were has its projections back. -/
theorem SameParties.projections (hdb : BillingInv db) (hdb₂ : BillingInv db₂)
    (h : SameParties db db₂ payment payment₂) (hfound : db.payments.find? payment.id = some payment)
    (hnet : ∀ i, db₂.netAllocation payment.id i = db.netAllocation payment.id i) :
    payment₂.allocatedAmount = payment.allocatedAmount ∧
      payment₂.unallocatedAmount = payment.unallocatedAmount ∧
      payment₂.allocationStatus = payment.allocationStatus := by
  obtain ⟨ha, hb, hs, -⟩ :=
    hdb.ledger.payments payment (Table.find?_eq_some_iff.mp hfound).1
  obtain ⟨ha₂, hb₂, hs₂, -⟩ :=
    hdb₂.ledger.payments payment₂ (Table.find?_eq_some_iff.mp h.found).1
  have hallocated : payment₂.allocatedAmount = payment.allocatedAmount := by
    rw [ha₂, ha, h.id, total_eq_of_netAllocation_eq hnet]
  have hamount := h.amount
  have hunallocated : payment₂.unallocatedAmount = payment.unallocatedAmount := by omega
  exact ⟨hallocated, hunallocated, by rw [hs₂, hs, hallocated, hunallocated]⟩

/-- What is allocated to an invoice in all is what it was. -/
theorem SameParties.totalAllocatedForInvoice (h : SameParties db db₂ payment payment₂)
    (hnet : ∀ i, db₂.netAllocation payment.id i = db.netAllocation payment.id i) (i : Id) :
    db₂.totalAllocatedForInvoice i = db.totalAllocatedForInvoice i := by
  rw [totalAllocatedForInvoice_eq db₂ payment.id, totalAllocatedForInvoice_eq db payment.id,
    hnet, h.other]

/-- So is what is paid on it, as its row says. -/
theorem SameParties.paid (hdb : BillingInv db) (hdb₂ : BillingInv db₂)
    (h : SameParties db db₂ payment payment₂)
    (hnet : ∀ i, db₂.netAllocation payment.id i = db.netAllocation payment.id i) {inv : Invoice}
    (hinv : db.invoices.find? i = some inv) :
    ∃ inv₂, db₂.invoices.find? i = some inv₂ ∧ inv₂.paidAmount = inv.paidAmount := by
  obtain ⟨inv₂, hinv₂, -⟩ := h.invoices i inv hinv
  have hid : inv.id = i := (Table.find?_eq_some_iff.mp hinv).2
  have hid₂ : inv₂.id = i := (Table.find?_eq_some_iff.mp hinv₂).2
  refine ⟨inv₂, hinv₂, ?_⟩
  rw [(hdb₂.invoice_found hinv₂).paid, (hdb.invoice_found hinv).paid, hid, hid₂,
    h.totalAllocatedForInvoice hnet]

/-- The status that a replacement gives an invoice that it touches. -/
theorem find?_replaced (today : Day) {inv : Invoice} (hi : i ∈ db.touchedIds payment.id targetMap)
    (hinv : db.invoices.find? i = some inv) : let db' := db.replaced today payment targetMap
    ∃ inv', db'.invoices.find? i = some inv' ∧ inv'.paymentStatus = computePaymentStatus inv
      (db'.totalAllocatedForInvoice i) (db'.getAppliedTotalForInvoice i)
      (db'.latestOutcomeEventType i) today := by
  have hid : inv.id = i := (Table.find?_eq_some_iff.mp hinv).2
  have hinvoices : ((db.deleteAllocations payment.id).insertAllocations payment.id
      targetMap).invoices = db.invoices := by
    rw [insertAllocations_frame]
    rfl
  refine ⟨_, (find?_reproject _ today _ i).trans (congrArg _ (hinvoices ▸ hinv)), ?_⟩
  dsimp only
  rw [if_pos hi, ← hid]
  rfl

/-- **An addition that is removed again is undone**, but for the day that the invoice's status
is computed for. -/
theorem restored_of_added_removed (hdb : BillingInv db) {today' : Day} {invoiceId : Id}
    {amount : Option ℚ} {notes : Option String}
    (huntouched : db.netAllocation paymentId invoiceId = 0)
    (hadd : addOrReviseAllocations db today paymentId [⟨some invoiceId, amount, notes⟩] = .ok db₁)
    (hremove : removeAllocation db₁ today' paymentId (some invoiceId) = .ok db₂) :
    Restored db db₂ paymentId invoiceId today' := by
  have hexec : PaymentOp.exec db today (.addOrReviseAllocations paymentId
    [⟨some invoiceId, amount, notes⟩]) = .ok db₁ := hadd
  have hexec' : PaymentOp.exec db₁ today' (.removeAllocation paymentId (some invoiceId))
    = .ok db₂ := hremove
  have hdb₁ : BillingInv db₁ := hdb.paymentEffect (PaymentOp.exec_effect hexec)
  have hdb₂ : BillingInv db₂ := hdb₁.paymentEffect (PaymentOp.exec_effect hexec')
  obtain ⟨payment, payment₁, rfl, hpay, hsame, ⟨inv, hinv⟩, hpos, hnet₁⟩ :=
    addAllocation_ok hadd
  obtain ⟨p, invoiceKey, hpay₁, hkey, happly⟩ := removeAllocation_ok hremove
  obtain rfl := Option.some.inj hkey
  obtain rfl := Option.some.inj (hpay₁.found.symm.trans hsame.found)
  rw [← hsame.id] at hpay₁ happly
  have hrows₁ := hdb₁.ledger.positive
  obtain ⟨hentries, hnd⟩ := withoutInvoice_spec db₁ p.id invoiceId
  have htargets : ∀ t ∈ db₁.withoutInvoice p.id invoiceId, 0 < t.allocatedAmount :=
    fun t ht => (hentries t ht).1
  obtain ⟨payment₂, hsame'⟩ := sameParties_of_applied hrows₁ hpay₁ htargets hnd happly
  have hboth := hsame.trans hsame'
  have hnet : ∀ j, db₂.netAllocation payment.id j = db.netAllocation payment.id j := by
    intro j
    have hnet₂ := netAllocation_of_applied hrows₁ hpay₁ htargets hnd happly j
    rw [amountOn_withoutInvoice hrows₁, hsame.id, hnet₁] at hnet₂
    rw [hnet₂]
    split_ifs with hj
    · rw [hj, huntouched]
    · exact add_zero _
  refine ⟨fun entry => ?_, ⟨payment, payment₂, hpay.found, hboth.found,
    hboth.projections hdb hdb₂ hpay.found hnet⟩, fun i inv hinv => hboth.paid hdb hdb₂ hnet hinv,
    ?_⟩
  · rw [mem_latestForPayment, mem_latestForPayment, hnet]
  -- The entry was there, so the removal has touched its invoice.
  have hfunded : 0 < db₁.netAllocation p.id invoiceId := by
    rw [hsame.id, hnet₁, huntouched, if_pos rfl, zero_add]
    exact hpos
  obtain ⟨-, -, ⟨hsame₁, -⟩ | ⟨-, hdb₂eq⟩⟩ :=
    applyAllocationTargets_spec hrows₁ hpay₁ htargets hnd happly
  · have hzero := hsame₁ invoiceId
    rw [amountOn_withoutInvoice hrows₁, if_pos rfl] at hzero
    exact absurd hzero hfunded.ne'
  · have htouched : invoiceId ∈ db₁.touchedIds p.id (db₁.withoutInvoice p.id invoiceId) :=
      mem_touchedIds.mpr (.inl (mem_currentMap_keys.mpr hfunded))
    obtain ⟨inv₁, hinv₁, -, -, htotal, hdue⟩ := hsame.invoices invoiceId inv hinv
    obtain ⟨inv₂, hinv₂, hstatus⟩ := find?_replaced today' htouched hinv₁
    rw [← hdb₂eq] at hinv₂ hstatus
    refine ⟨inv, inv₂, hinv, hinv₂, hstatus.trans ?_⟩
    have hid : inv.id = invoiceId := (Table.find?_eq_some_iff.mp hinv).2
    rw [hboth.totalAllocatedForInvoice hnet, hboth.applied, (hdb.invoice_found hinv).paid, hid,
      Db.latestOutcomeEventType, Db.latestOutcomeEventType, hboth.events]
    unfold computePaymentStatus
    rw [htotal, hdue]

/-- The removal of what was just added is accepted. -/
theorem removeAllocation_of_added (hdb : BillingInv db) (hown : db.OwnRows) {invoiceId : Id}
    {amount : Option ℚ} {notes : Option String}
    (huntouched : db.netAllocation paymentId invoiceId = 0)
    (hadd : addOrReviseAllocations db today paymentId [⟨some invoiceId, amount, notes⟩] = .ok db₁)
    (today' : Day) : ∃ db₂, removeAllocation db₁ today' paymentId (some invoiceId) = .ok db₂ := by
  have hexec : PaymentOp.exec db today (.addOrReviseAllocations paymentId
    [⟨some invoiceId, amount, notes⟩]) = .ok db₁ := hadd
  have hdb₁ : BillingInv db₁ := hdb.paymentEffect (PaymentOp.exec_effect hexec)
  have hkeeps : KeepsOwners db db₁ := keepsOwners_paymentOp hexec
  obtain ⟨payment, payment₁, rfl, hpay, hsame, -, hpos, hnet₁⟩ := addAllocation_ok hadd
  have hfunded : 0 < db₁.netAllocation payment₁.id invoiceId := by
    rw [hsame.id, hnet₁, huntouched, if_pos rfl, zero_add]
    exact hpos
  have hremove := removeAllocation_of hdb₁ (hkeeps.ownRows hown) today'
    (hsame.allocatable hpay) hfunded
  rwa [hsame.id] at hremove

/-! ### The laws -/

/-- **Replacing allocations is a set operation.** After any run of requests, whatever
`replace_allocations` accepts is what `latest_for_payment` shows afterwards; if it was shown
before, nothing has changed; and the same replacement again changes nothing on any day. What
is put on an invoice that the payment does not fund can be removed again, which restores the
map, the projections of the payment and what is paid on every invoice, and gives the invoice
the status that these amounts have on the day of the removal. -/
theorem replacement_is_set_operation (users : TableOf User)
    (requests : List (Day × BillingOp)) :
    let db := Runs.run BillingOp.step (Db.initial users) requests
    (∀ today paymentId allocations db',
      replaceAllocations db today paymentId allocations = .ok db' →
      ∃ rows, normalizeAllocations allocations = .ok rows ∧
        (∀ entry, entry ∈ db'.latestForPayment paymentId ↔ entry ∈ targetEntries rows) ∧
        ((∀ entry, entry ∈ db.latestForPayment paymentId ↔ entry ∈ targetEntries rows) →
          db' = db) ∧
        ∀ today', replaceAllocations db' today' paymentId allocations = .ok db') ∧
    (∀ today paymentId invoiceId amount notes db₁, db.netAllocation paymentId invoiceId = 0 →
      addOrReviseAllocations db today paymentId [⟨some invoiceId, amount, notes⟩] = .ok db₁ →
      ∀ today', ∃ db₂, removeAllocation db₁ today' paymentId (some invoiceId) = .ok db₂ ∧
        Restored db db₂ paymentId invoiceId today') := by
  intro db
  have hdb : BillingInv db := billingInv_run users requests
  have hrows := hdb.ledger.positive
  refine ⟨fun today paymentId allocations db' h => ?_,
    fun today paymentId invoiceId amount notes db₁ huntouched hadd today' => ?_⟩
  · obtain ⟨payment, rows, hpay, hnormalized, happly⟩ := replaceAllocations_ok h
    obtain rfl := hpay.id_eq
    obtain ⟨-, hpos, hnd⟩ := normalizeAllocations_ok hnormalized
    refine ⟨rows, hnormalized, (latestForPayment_iff hpos hnd).mpr fun i =>
      netAllocation_of_applied hrows hpay hpos hnd happly i, fun hshown => ?_,
      replaceAllocations_again hdb h⟩
    obtain ⟨-, -, ⟨-, hsame⟩ | ⟨hdiff, -⟩⟩ :=
      applyAllocationTargets_spec hrows hpay hpos hnd happly
    · exact hsame
    · exact absurd ((latestForPayment_iff hpos hnd).mp hshown) hdiff
  · obtain ⟨db₂, hremove⟩ :=
      removeAllocation_of_added hdb (ownRows_run users requests) huntouched hadd today'
    exact ⟨db₂, hremove, restored_of_added_removed hdb huntouched hadd hremove⟩

/-- An invoice is sent and a payment recorded, on the day of both. -/
def sentAndPaid : List (Day × BillingOp) :=
  [(0, .invoice (.createAndFinalize invoiceOf120)),
   (0, .payment (.recordPayment paymentOf120))]

/-- Nothing is replaced by 50.00 on the invoice, twice; or 50.00 is put on it and removed. -/
theorem replacement_is_set_operation_of_50 :
    let db := Runs.run BillingOp.step (Db.initial .empty) sentAndPaid
    (∃ db', replaceAllocations db 2 1 [⟨some 1, some 50, none⟩] = .ok db' ∧
      replaceAllocations db' 40 1 [⟨some 1, some 50, none⟩] = .ok db') ∧
    ∃ db₁ db₂, addOrReviseAllocations db 2 1 [⟨some 1, some 50, none⟩] = .ok db₁ ∧
      removeAllocation db₁ 40 1 (some 1) = .ok db₂ ∧ Restored db db₂ 1 1 40 := by
  intro db
  obtain ⟨db', hreplace⟩ : ∃ db', replaceAllocations db 2 1 [⟨some 1, some 50, none⟩] = .ok db' :=
    exists_eq_ok (by decide +kernel)
  obtain ⟨db₁, hadd⟩ : ∃ db₁, addOrReviseAllocations db 2 1 [⟨some 1, some 50, none⟩] = .ok db₁ :=
    exists_eq_ok (by decide +kernel)
  obtain ⟨hset, hundo⟩ := replacement_is_set_operation .empty sentAndPaid
  obtain ⟨rows, -, -, -, hagain⟩ := hset 2 1 _ db' hreplace
  obtain ⟨db₂, hremove, hrestored⟩ := hundo 2 1 1 _ _ db₁ (by decide +kernel) hadd 40
  exact ⟨⟨db', hreplace, hagain 40⟩, db₁, db₂, hadd, hremove, hrestored⟩

/-- The status does not come back when the invoice has fallen due since it was last written:
50.00 that are put on it on day 40 and removed at once leave it overdue. -/
theorem removed_allocation_leaves_overdue :
    let db := Runs.run BillingOp.step (Db.initial .empty) sentAndPaid
    let db₁ := BillingOp.step db
      (40, .payment (.addOrReviseAllocations 1 [⟨some 1, some 50, none⟩]))
    let db₂ := BillingOp.step db₁ (40, .payment (.removeAllocation 1 (some 1)))
    db.netAllocation 1 1 = 0 ∧ db₁.netAllocation 1 1 = 5000 ∧ db₂.netAllocation 1 1 = 0 ∧
    (db.invoices.find? 1).map (·.paymentStatus) = some .unpaid ∧
    (db₂.invoices.find? 1).map (·.paymentStatus) = some .overdue := by
  decide +kernel

end SwCouriers
