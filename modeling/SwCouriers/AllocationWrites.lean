import SwCouriers.Payments

/-!
# What an Accepted Allocation Call Has Done

Each operation on allocations is taken apart once: from a call that returned, the facts
its checks established and the rows it wrote. Later modules argue from these lemmas and
never unfold an operation again.

Both `add_or_revise_allocations` and `_apply_allocation_targets` end in the same write:
the payment's allocation rows have changed, the payment's projection is recomputed, and
so are those of the touched invoices (`Db.commitAllocations`). `AmendsPayment` says what
the change of rows may do: it stays with one payment, keeps every amount positive, and
moves no invoice that is not touched.

## Main results

* `normalizeAllocations_ok`: an accepted payload names distinct invoices with positive
  amounts.
* `addOrReviseAllocations_ok`, `applyAllocationTargets_ok`, `replaceAllocations_ok`,
  `removeAllocation_ok`: what an accepted call has checked and written.
* `amendsPayment_insert`, `amendsPayment_replace`: either kind of write amends one
  payment.
-/

namespace SwCouriers

open Checked

/-! ### Payloads -/

/-- What an entry of a payload is normalized to, when it names an invoice. -/
def AllocationInput.normalized? (row : AllocationInput) : Option NormalizedAllocation :=
  row.invoiceId.map fun iid => ⟨iid, money (row.allocatedAmount.getD 0), row.notes⟩

variable {rows : List NormalizedAllocation} {i paymentId organizationId : Id} {db db' : Db}
  {today : Day}

/-- Normalizing keeps the entries in order, and each has a positive amount. -/
theorem normalizeFrom_ok {idx : ℕ} {l : List AllocationInput} (h : normalizeFrom idx l = .ok rows) :
    l.map AllocationInput.normalized? = rows.map some ∧
    ∀ row ∈ rows, 0 < row.allocatedAmount := by
  induction l generalizing idx rows with
  | nil =>
      obtain rfl := Except.ok.inj h
      exact ⟨rfl, by simp⟩
  | cons row l ih =>
      obtain ⟨iid, hiid, h⟩ := bind_eq_ok.mp h
      obtain ⟨⟨⟩, hpos, h⟩ := bind_eq_ok.mp h
      obtain ⟨rest, hrest, h⟩ := bind_eq_ok.mp h
      obtain rfl := pure_eq_ok.mp h
      obtain ⟨hmap, hall⟩ := ih hrest
      have hiid := orRaise_eq_ok.mp hiid
      have hpos := raiseIf_eq_ok.mp hpos
      refine ⟨by simp [AllocationInput.normalized?, hiid, hmap], ?_⟩
      intro r hr
      rcases List.mem_cons.mp hr with rfl | hr
      · exact not_le.mp hpos
      · exact hall r hr

/-- An accepted payload names distinct invoices with positive amounts. -/
theorem normalizeAllocations_ok {l : List AllocationInput} (h : normalizeAllocations l = .ok rows) :
    l.map AllocationInput.normalized? = rows.map some ∧
    (∀ row ∈ rows, 0 < row.allocatedAmount) ∧
    (rows.map (·.invoiceId)).Nodup := by
  obtain ⟨rows', hrows, h⟩ := bind_eq_ok.mp h
  obtain ⟨hnd, h⟩ := raiseIf_bind_eq_ok.mp h
  obtain rfl := pure_eq_ok.mp h
  obtain ⟨hmap, hpos⟩ := normalizeFrom_ok hrows
  exact ⟨hmap, hpos, not_not.mp hnd⟩

/-! ### Rows -/

/-- The amount that a list of entries puts on an invoice. -/
def amountOn (rows : List NormalizedAllocation) (invoiceId : Id) : ℤ :=
  ((rows.filter fun r => r.invoiceId = invoiceId).map (·.allocatedAmount)).sum

theorem amountOn_eq_zero (h : i ∉ rows.map (·.invoiceId)) : amountOn rows i = 0 := by
  have hnil : (rows.filter fun r => r.invoiceId = i) = [] := by
    refine List.filter_eq_nil_iff.mpr fun r hr => ?_
    simp only [decide_eq_true_eq]
    rintro rfl
    exact h (List.mem_map_of_mem hr)
  rw [amountOn, hnil, List.map_nil, List.sum_nil]

/-- With distinct invoices, an entry is all that its invoice gets. -/
theorem amountOn_eq_of_mem {row : NormalizedAllocation} (hnd : (rows.map (·.invoiceId)).Nodup)
    (hmem : row ∈ rows) : amountOn rows row.invoiceId = row.allocatedAmount := by
  induction rows with
  | nil => simp at hmem
  | cons r rows ih =>
      obtain ⟨hr, hnd⟩ := List.nodup_cons.mp hnd
      rcases List.mem_cons.mp hmem with rfl | hmem
      · have hrest := amountOn_eq_zero hr
        rw [amountOn] at hrest ⊢
        simp [hrest]
      · have hne : r.invoiceId ≠ row.invoiceId := by
          intro heq
          exact hr (List.mem_map.mpr ⟨row, hmem, heq.symm⟩)
        have := ih hnd hmem
        rw [amountOn] at this ⊢
        simpa [hne] using this

/-- The next revision of an allocation is a new row. -/
theorem allocationRow_key_notMem (db : Db) (paymentId : Id) (row : NormalizedAllocation) :
    (db.allocationRow paymentId row).key
      ∉ db.allocations.rows.map BillingPaymentAllocation.key := by
  rw [List.mem_map]
  rintro ⟨a, ha, hkey⟩
  simp only [BillingPaymentAllocation.key, Db.allocationRow, Prod.mk.injEq] at hkey
  obtain ⟨hp, hi, hrev⟩ := hkey
  have hmem : a.revisionNo ∈ (db.allocations.rows.filter fun a =>
      a.paymentId = paymentId ∧ a.invoiceId = row.invoiceId).map (·.revisionNo) :=
    List.mem_map_of_mem (List.mem_filter.mpr ⟨ha, by simp [hp, hi]⟩)
  have hle := List.le_max_of_le' 0 hmem le_rfl
  rw [Db.nextRevisionNo] at hrev
  omega

section Insert

variable (q : Id → Id → Prop) [∀ p i, Decidable (q p i)]

/-- What a sum over the rows of chosen payments and invoices gains with one revision. -/
theorem sumWhere_insertAllocation (db : Db) (paymentId : Id) (row : NormalizedAllocation) :
    (db.insertAllocation paymentId row).allocations.sumWhere
        (fun a => q a.paymentId a.invoiceId) (·.allocatedAmount)
      = db.allocations.sumWhere (fun a => q a.paymentId a.invoiceId) (·.allocatedAmount)
        + if q paymentId row.invoiceId then row.allocatedAmount else 0 := by
  rw [Db.insertAllocation, Table.sumWhere_insert (allocationRow_key_notMem db paymentId row)]
  rfl

theorem sumWhere_insertAllocations (db : Db) (paymentId : Id)
    (rows : List NormalizedAllocation) :
    (db.insertAllocations paymentId rows).allocations.sumWhere
        (fun a => q a.paymentId a.invoiceId) (·.allocatedAmount)
      = db.allocations.sumWhere (fun a => q a.paymentId a.invoiceId) (·.allocatedAmount)
        + ((rows.filter fun r => q paymentId r.invoiceId).map (·.allocatedAmount)).sum := by
  rw [Db.insertAllocations]
  induction rows generalizing db with
  | nil => simp
  | cons row rows ih =>
      rw [List.foldl_cons, ih, sumWhere_insertAllocation]
      by_cases h : q paymentId row.invoiceId <;> simp [h, add_assoc]

end Insert

/-- Creating revisions changes the allocation rows only. -/
theorem insertAllocations_frame (db : Db) (paymentId : Id)
    (rows : List NormalizedAllocation) :
    db.insertAllocations paymentId rows
      = { db with allocations := (db.insertAllocations paymentId rows).allocations } := by
  rw [Db.insertAllocations]
  induction rows generalizing db with
  | nil => rfl
  | cons row rows ih =>
      rw [List.foldl_cons, ih]
      rfl

/-- A row after the loop was there before or is one of the revisions. -/
theorem mem_insertAllocations {a : BillingPaymentAllocation}
    (ha : a ∈ (db.insertAllocations paymentId rows).allocations.rows) :
    a ∈ db.allocations.rows ∨
      ∃ row ∈ rows, a.paymentId = paymentId ∧ a.invoiceId = row.invoiceId ∧
        a.allocatedAmount = row.allocatedAmount := by
  rw [Db.insertAllocations] at ha
  induction rows generalizing db with
  | nil => exact .inl ha
  | cons row rows ih =>
      rw [List.foldl_cons] at ha
      rcases ih ha with hold | ⟨r, hr, hrow⟩
      · rw [Db.insertAllocation, Table.rows_insert_of_notMem
          (allocationRow_key_notMem db paymentId row), List.mem_append] at hold
        rcases hold with hold | hnew
        · exact .inl hold
        · obtain rfl := List.mem_singleton.mp hnew
          exact .inr ⟨row, List.mem_cons_self, rfl, rfl, rfl⟩
      · exact .inr ⟨r, List.mem_cons_of_mem row hr, hrow⟩

/-- Deleting a payment's rows takes them out of every sum. -/
theorem sumWhere_deleteAllocations (q : Id → Id → Prop) [∀ p i, Decidable (q p i)]
    (db : Db) (paymentId : Id) :
    (db.deleteAllocations paymentId).allocations.sumWhere
        (fun a => q a.paymentId a.invoiceId) (·.allocatedAmount)
      = db.allocations.sumWhere
        (fun a => q a.paymentId a.invoiceId ∧ ¬ a.paymentId = paymentId)
        (·.allocatedAmount) := by
  rw [Db.deleteAllocations, Table.sumWhere_deleteWhere,
    Table.sumWhere_split db.allocations (·.paymentId = paymentId)]
  omega

/-! ### Sums over the ledger -/

/-- What the other payments put on an invoice. -/
def Db.otherAllocation (db : Db) (paymentId invoiceId : Id) : ℤ :=
  db.allocations.sumWhere (fun a => a.paymentId ≠ paymentId ∧ a.invoiceId = invoiceId)
    (·.allocatedAmount)

/-- An invoice is paid by one payment and by all others. -/
theorem totalAllocatedForInvoice_eq (db : Db) (paymentId invoiceId : Id) :
    db.totalAllocatedForInvoice invoiceId
      = db.netAllocation paymentId invoiceId + db.otherAllocation paymentId invoiceId := by
  rw [Db.totalAllocatedForInvoice,
    Table.sumWhere_split db.allocations (·.paymentId = paymentId)]
  congr 1
  · exact Table.sumWhere_congr (fun a _ => and_comm) fun a _ _ => rfl
  · exact Table.sumWhere_congr (fun a _ => and_comm) fun a _ _ => rfl

/-- `current_map` holds the positive net allocations. -/
theorem lookup_currentMap (db : Db) (paymentId invoiceId : Id) :
    (db.currentMap paymentId).lookup invoiceId =
      if 0 < db.netAllocation paymentId invoiceId
      then some (db.netAllocation paymentId invoiceId) else none := by
  rw [Db.currentMap, Db.latestForPayment, List.filter_map, List.filter_map]
  split_ifs with hpos
  · refine List.lookup_graph (fun iid => db.netAllocation paymentId iid) ?_
    simp only [List.mem_filter, List.mem_insertionSort, List.mem_dedup, List.mem_map,
      Function.comp_apply, decide_eq_true_eq]
    refine ⟨⟨?_, by omega⟩, hpos⟩
    -- A positive sum has a row.
    by_contra hnone
    have hzero : db.netAllocation paymentId invoiceId = 0 :=
      Table.sumWhere_eq_zero fun a ha hrow => hnone ⟨a, ⟨ha, hrow.1⟩, hrow.2⟩
    omega
  · refine List.lookup_eq_none_iff.mpr fun entry hentry => ?_
    obtain ⟨iid, hiid, rfl⟩ := List.mem_map.mp hentry
    simp only [List.mem_filter, Function.comp_apply, decide_eq_true_eq] at hiid
    rw [bne_iff_ne]
    rintro rfl
    exact hpos hiid.2

theorem mem_currentMap_keys {invoiceId : Id} :
    invoiceId ∈ (db.currentMap paymentId).map (·.1) ↔
      0 < db.netAllocation paymentId invoiceId := by
  have hlookup := lookup_currentMap db paymentId invoiceId
  constructor
  · intro hmem
    by_contra hpos
    rw [if_neg hpos, List.lookup_eq_none_iff] at hlookup
    obtain ⟨entry, hentry, rfl⟩ := List.mem_map.mp hmem
    simpa using hlookup entry hentry
  · intro hpos
    by_contra hmem
    have hnone : (db.currentMap paymentId).lookup invoiceId = none := by
      refine List.lookup_eq_none_iff.mpr fun entry hentry => ?_
      rw [bne_iff_ne]
      rintro rfl
      exact hmem (List.mem_map_of_mem hentry)
    rw [hnone, if_pos hpos] at hlookup
    exact absurd hlookup (by simp)

theorem nodup_currentMap_keys (db : Db) (paymentId : Id) :
    ((db.currentMap paymentId).map (·.1)).Nodup := by
  rw [Db.currentMap, Db.latestForPayment, List.filter_map, List.filter_map, List.map_map]
  refine List.Nodup.map (fun a b h => h) ?_
  refine List.Nodup.filter _ (List.Nodup.filter _ ?_)
  exact (List.perm_insertionSort _ _).nodup_iff.mpr (List.nodup_dedup _)

/-! ### The common write -/

/-- The write that ends every accepted allocation call: the payment's projection and
those of the touched invoices, recomputed from the allocation rows of `db`. -/
def Db.commitAllocations (db : Db) (today : Day) (payment : BillingPayment)
    (touched : List Id) : Db :=
  { db with
    payments := db.payments.modify payment.id (BillingPayment.projected db)
      (BillingPayment.projected_id db)
    invoices := db.reproject today touched }

/-- From `db` to `db₁` only the allocation rows of one payment changed, every amount
that was added is positive, and only touched invoices moved. -/
structure AmendsPayment (paymentId : Id) (touched : List Id) (db db₁ : Db) : Prop where
  frame : db₁ = { db with allocations := db₁.allocations }
  rows : ∀ a ∈ db₁.allocations.rows, a ∈ db.allocations.rows ∨ a.paymentId = paymentId
  other : ∀ i, db₁.otherAllocation paymentId i = db.otherAllocation paymentId i
  payment : ∀ p, p ≠ paymentId →
    db₁.totalLatestAllocatedForPayment p = db.totalLatestAllocatedForPayment p
  untouched : ∀ i, i ∉ touched →
    db₁.netAllocation paymentId i = db.netAllocation paymentId i
  positive : ∀ a ∈ db₁.allocations.rows, 0 < a.allocatedAmount

/-- An untouched invoice is paid what it was paid. -/
theorem AmendsPayment.totalAllocatedForInvoice_eq_of_notMem {touched : List Id} {db₁ : Db}
    (h : AmendsPayment paymentId touched db db₁) (hi : i ∉ touched) :
    db₁.totalAllocatedForInvoice i = db.totalAllocatedForInvoice i := by
  rw [totalAllocatedForInvoice_eq db₁ paymentId, totalAllocatedForInvoice_eq db paymentId,
    h.other, h.untouched i hi]

/-- The rows of the ledger have positive amounts. -/
def Db.PositiveRows (db : Db) : Prop :=
  ∀ a ∈ db.allocations.rows, 0 < a.allocatedAmount

theorem Db.PositiveRows.netAllocation_nonneg (h : db.PositiveRows) (paymentId invoiceId : Id) :
    0 ≤ db.netAllocation paymentId invoiceId :=
  Table.sumWhere_nonneg fun a ha _ => (h a ha).le

theorem netAllocation_insertAllocations (db : Db) (paymentId : Id)
    (rows : List NormalizedAllocation) (i : Id) :
    (db.insertAllocations paymentId rows).netAllocation paymentId i
      = db.netAllocation paymentId i + amountOn rows i := by
  have h := sumWhere_insertAllocations (fun p j => p = paymentId ∧ j = i) db paymentId rows
  simpa [Db.netAllocation, amountOn] using h

theorem netAllocation_deleteAllocations (db : Db) (paymentId i : Id) :
    (db.deleteAllocations paymentId).netAllocation paymentId i = 0 := by
  have h := sumWhere_deleteAllocations (fun p j => p = paymentId ∧ j = i) db paymentId
  rw [Db.netAllocation, h]
  exact Table.sumWhere_eq_zero fun a _ hrow => hrow.2 hrow.1.1

theorem otherAllocation_insertAllocations (db : Db) (paymentId : Id)
    (rows : List NormalizedAllocation) (i : Id) :
    (db.insertAllocations paymentId rows).otherAllocation paymentId i
      = db.otherAllocation paymentId i := by
  have h := sumWhere_insertAllocations (fun p j => p ≠ paymentId ∧ j = i) db paymentId rows
  simpa [Db.otherAllocation] using h

theorem otherAllocation_deleteAllocations (db : Db) (paymentId i : Id) :
    (db.deleteAllocations paymentId).otherAllocation paymentId i
      = db.otherAllocation paymentId i := by
  have h := sumWhere_deleteAllocations (fun p j => p ≠ paymentId ∧ j = i) db paymentId
  rw [Db.otherAllocation, h]
  exact Table.sumWhere_congr (fun a _ => by tauto) fun a _ _ => rfl

theorem totalLatestAllocatedForPayment_insertAllocations {p : Id} (hp : p ≠ paymentId) (db : Db)
    (rows : List NormalizedAllocation) :
    (db.insertAllocations paymentId rows).totalLatestAllocatedForPayment p
      = db.totalLatestAllocatedForPayment p := by
  have h := sumWhere_insertAllocations (fun r _ => r = p) db paymentId rows
  simpa [Db.totalLatestAllocatedForPayment, hp.symm] using h

theorem totalLatestAllocatedForPayment_deleteAllocations {p : Id} (hp : p ≠ paymentId) (db : Db) :
    (db.deleteAllocations paymentId).totalLatestAllocatedForPayment p
      = db.totalLatestAllocatedForPayment p := by
  have h := sumWhere_deleteAllocations (fun r _ => r = p) db paymentId
  rw [Db.totalLatestAllocatedForPayment, h]
  refine Table.sumWhere_congr (fun a _ => ?_) fun a _ _ => rfl
  constructor
  · exact fun hcond => hcond.1
  · rintro rfl
    exact ⟨rfl, hp⟩

/-- Adding revisions amends the payment. -/
theorem amendsPayment_insert (hrows : db.PositiveRows)
    (hpos : ∀ row ∈ rows, 0 < row.allocatedAmount) :
    AmendsPayment paymentId (rows.map (·.invoiceId)) db
      (db.insertAllocations paymentId rows) where
  frame := insertAllocations_frame db paymentId rows
  rows a ha := by
    rcases mem_insertAllocations ha with hold | ⟨-, -, hp, -, -⟩
    · exact .inl hold
    · exact .inr hp
  other := otherAllocation_insertAllocations db paymentId rows
  payment _ hp := totalLatestAllocatedForPayment_insertAllocations hp db rows
  untouched i hi := by
    rw [netAllocation_insertAllocations, amountOn_eq_zero hi, add_zero]
  positive a ha := by
    rcases mem_insertAllocations ha with hold | ⟨row, hrow, -, -, hamt⟩
    · exact hrows a hold
    · exact hamt ▸ hpos row hrow

/-- Replacing a payment's rows amends it, when every invoice it paid is touched. -/
theorem amendsPayment_replace (hrows : db.PositiveRows)
    (hpos : ∀ row ∈ rows, 0 < row.allocatedAmount) {touched : List Id}
    (htarget : ∀ i ∈ rows.map (·.invoiceId), i ∈ touched)
    (hcurrent : ∀ i ∈ (db.currentMap paymentId).map (·.1), i ∈ touched) :
    AmendsPayment paymentId touched db
      ((db.deleteAllocations paymentId).insertAllocations paymentId rows) where
  frame := insertAllocations_frame _ _ _
  rows a ha := by
    rcases mem_insertAllocations ha with hold | ⟨-, -, hp, -, -⟩
    · exact .inl (Table.mem_deleteWhere_iff.mp hold).1
    · exact .inr hp
  other i := by
    rw [otherAllocation_insertAllocations, otherAllocation_deleteAllocations]
  payment p hp := by
    rw [totalLatestAllocatedForPayment_insertAllocations hp,
      totalLatestAllocatedForPayment_deleteAllocations hp]
  untouched i hi := by
    have hzero : db.netAllocation paymentId i = 0 := by
      have hnonneg := hrows.netAllocation_nonneg paymentId i
      have hle : ¬ 0 < db.netAllocation paymentId i :=
        fun h => hi (hcurrent i (mem_currentMap_keys.mpr h))
      omega
    rw [netAllocation_insertAllocations, netAllocation_deleteAllocations,
      amountOn_eq_zero fun h => hi (htarget i h), hzero, add_zero]
  positive a ha := by
    rcases mem_insertAllocations ha with hold | ⟨row, hrow, -, -, hamt⟩
    · exact hrows a (Table.mem_deleteWhere_iff.mp hold).1
    · exact hamt ▸ hpos row hrow

/-! ### Accepted calls -/

theorem invById_eq_some {invoiceId : Id} {inv : Invoice} :
    invById db organizationId invoiceId = some inv ↔
      db.invoices.find? invoiceId = some inv ∧ inv.organizationId = some organizationId := by
  rw [invById, getById_eq_some, decide_eq_true_eq]

/-- The invoices that passed the check exist in the organisation and are sent. -/
theorem checkSentInvoices_ok {ids : List Id} (h : checkSentInvoices db organizationId ids = .ok ())
    (hi : i ∈ ids) : ∃ inv, invById db organizationId i = some inv ∧ inv.status = .sent := by
  obtain ⟨⟨⟩, hfound, hsent⟩ := bind_eq_ok.mp h
  have hfound := raiseIf_eq_ok.mp (checkEach_eq_ok.mp hfound i hi)
  have hsent := not_not.mp (raiseIf_eq_ok.mp (checkEach_eq_ok.mp hsent i hi))
  cases hinv : invById db organizationId i with
  | none => simp [hinv] at hfound
  | some inv => exact ⟨inv, rfl, by simpa [hinv] using hsent⟩

/-- The two projection updates that end a call are one write. -/
theorem commitAllocations_ok {payment : BillingPayment} {touched : List Id}
    (hp : db.payments.find? payment.id = some payment) (hnd : touched.Nodup) (h : (do
      let db ← recomputePaymentProjection db payment
      recomputeInvoiceProjections today db touched) = .ok db') :
    db.totalLatestAllocatedForPayment payment.id ≤ payment.amount ∧
    (∀ i ∈ touched, (db.invoices.find? i).isSome) ∧
    db' = db.commitAllocations today payment touched := by
  obtain ⟨db₁, hpay, hinv⟩ := bind_eq_ok.mp h
  obtain ⟨hle, rfl⟩ := recomputePaymentProjection_eq_ok hp hpay
  obtain ⟨hfound, rfl⟩ := (recomputeInvoiceProjections_eq_ok hnd).mp hinv
  exact ⟨hle, hfound, rfl⟩

/-- The state of a payment that may be allocated. -/
structure Allocatable (db : Db) (paymentId : Id) (payment : BillingPayment) : Prop where
  found : db.payments.find? paymentId = some payment
  notVoided : payment.status ≠ .voided

theorem Allocatable.id_eq {payment : BillingPayment} (h : Allocatable db paymentId payment) :
    payment.id = paymentId :=
  (Table.find?_eq_some_iff.mp h.found).2

/-- **What `add_or_revise_allocations` has done** when it returns: every named invoice
is a sent one of the payment's organisation with room for its amount, and a revision of
each was created. -/
theorem addOrReviseAllocations_ok {allocations : List AllocationInput}
    (h : addOrReviseAllocations db today paymentId allocations = .ok db') :
    ∃ payment rows,
      Allocatable db paymentId payment ∧
      normalizeAllocations allocations = .ok rows ∧
      (∀ row ∈ rows, ∃ inv, invById db payment.organizationId row.invoiceId = some inv ∧
        inv.status = .sent ∧
        row.allocatedAmount ≤ inv.total - db.getAppliedTotalForInvoice row.invoiceId
          - db.totalAllocatedForInvoice row.invoiceId) ∧
      (db.insertAllocations paymentId rows).totalLatestAllocatedForPayment paymentId
        ≤ payment.amount ∧
      db' = (db.insertAllocations paymentId rows).commitAllocations today payment
        (rows.map (·.invoiceId)) := by
  replace h := ok_of_check h
  obtain ⟨payment, hpay, h⟩ := bind_eq_ok.mp h
  obtain ⟨hvoid, h⟩ := raiseIf_bind_eq_ok.mp h
  obtain ⟨rows, hrows, h⟩ := bind_eq_ok.mp h
  obtain ⟨⟨⟩, hsent, h⟩ := bind_eq_ok.mp h
  replace h := ok_of_check h
  obtain ⟨⟨⟩, hroom, h⟩ := bind_eq_ok.mp h
  obtain ⟨hfound, -⟩ := getByIdOr404_eq_ok.mp hpay
  have halloc : Allocatable db paymentId payment := ⟨hfound, hvoid⟩
  have hid := halloc.id_eq
  have hfound' : (db.insertAllocations paymentId rows).payments.find? payment.id
      = some payment := by
    rw [insertAllocations_frame, hid]
    exact hfound
  obtain ⟨hle, -, rfl⟩ := commitAllocations_ok hfound'
    (normalizeAllocations_ok hrows).2.2 h
  refine ⟨payment, rows, halloc, hrows, ?_, hid ▸ hle, rfl⟩
  intro row hrow
  obtain ⟨inv, hinv, hstatus⟩ := checkSentInvoices_ok hsent (List.mem_map_of_mem hrow)
  obtain ⟨inv', hinv', hle⟩ := bind_eq_ok.mp (checkEach_eq_ok.mp hroom row hrow)
  obtain rfl : inv = inv' := Option.some.inj (hinv.symm.trans (orRaise_eq_ok.mp hinv'))
  exact ⟨inv, hinv, hstatus, not_lt.mp (raiseIf_eq_ok.mp hle)⟩

/-- The invoices that a replacement touches. -/
def Db.touchedIds (db : Db) (paymentId : Id) (targetMap : List NormalizedAllocation) :
    List Id :=
  ((((db.currentMap paymentId).map (·.1)) ++ targetMap.map (·.invoiceId)).dedup).insertionSort
    (· ≤ ·)

theorem mem_touchedIds {targetMap : List NormalizedAllocation} :
    i ∈ db.touchedIds paymentId targetMap ↔
      i ∈ (db.currentMap paymentId).map (·.1) ∨ i ∈ targetMap.map (·.invoiceId) := by
  simp only [Db.touchedIds, List.mem_insertionSort, List.mem_dedup, List.mem_append]

theorem nodup_touchedIds (db : Db) (paymentId : Id)
    (targetMap : List NormalizedAllocation) : (db.touchedIds paymentId targetMap).Nodup :=
  (List.perm_insertionSort _ _).nodup_iff.mpr (List.nodup_dedup _)

/-- **What `_apply_allocation_targets` has done** when it returns: nothing, as every
target is what the payment has on the invoice already, or the payment's rows were replaced by the
target map, each of whose invoices is a sent one of the organisation with room for its amount. -/
theorem applyAllocationTargets_ok {payment : BillingPayment}
    (hpay : Allocatable db paymentId payment) {targetMap : List NormalizedAllocation}
    (h : applyAllocationTargets db today payment targetMap = .ok db') :
    (db' = db ∧ ∀ t ∈ targetMap,
      t.allocatedAmount = db.netAllocation paymentId t.invoiceId) ∨
    (∀ t ∈ targetMap, ∃ inv, invById db payment.organizationId t.invoiceId = some inv ∧
      inv.status = .sent ∧
      t.allocatedAmount ≤ inv.total - db.getAppliedTotalForInvoice t.invoiceId
        - (db.totalAllocatedForInvoice t.invoiceId
          - ((db.currentMap paymentId).lookup t.invoiceId).getD 0)) ∧
    ((db.deleteAllocations paymentId).insertAllocations paymentId
        targetMap).totalLatestAllocatedForPayment paymentId ≤ payment.amount ∧
    db' = ((db.deleteAllocations paymentId).insertAllocations paymentId
      targetMap).commitAllocations today payment (db.touchedIds paymentId targetMap) := by
  obtain rfl := hpay.id_eq
  replace h := ok_of_check h
  obtain ⟨⟨⟩, hsent, h⟩ := bind_eq_ok.mp h
  dsimp only at h
  split at h
  · rename_i htouched
    refine .inl ⟨(pure_eq_ok.mp h).symm, fun t ht => ?_⟩
    have hmem : t.invoiceId ∈ db.touchedIds payment.id targetMap :=
      mem_touchedIds.mpr (.inr (List.mem_map_of_mem ht))
    rw [Db.touchedIds, htouched] at hmem
    exact absurd hmem List.not_mem_nil
  obtain ⟨⟨⟩, hroom, h⟩ := bind_eq_ok.mp h
  split at h
  · rename_i hsame
    refine .inl ⟨(pure_eq_ok.mp h).symm, fun t ht => ?_⟩
    have hlookup : (db.currentMap payment.id).lookup t.invoiceId = some t.allocatedAmount := by
      rw [sameMap, Bool.and_eq_true, List.all_eq_true] at hsame
      simpa using hsame.2 t ht
    rw [lookup_currentMap] at hlookup
    split_ifs at hlookup
    exact (Option.some.inj hlookup).symm
  have hfound : ((db.deleteAllocations payment.id).insertAllocations payment.id
      targetMap).payments.find? payment.id = some payment := by
    rw [insertAllocations_frame]
    exact hpay.found
  obtain ⟨hle, -, rfl⟩ := commitAllocations_ok hfound
    (nodup_touchedIds db payment.id targetMap) h
  refine .inr ⟨?_, hle, rfl⟩
  intro t ht
  obtain ⟨inv, hinv, hstatus⟩ := checkSentInvoices_ok hsent (List.mem_map_of_mem ht)
  obtain ⟨inv', hinv', hle⟩ := bind_eq_ok.mp (checkEach_eq_ok.mp hroom t ht)
  obtain rfl : inv = inv' := Option.some.inj (hinv.symm.trans (orRaise_eq_ok.mp hinv'))
  exact ⟨inv, hinv, hstatus, not_lt.mp (raiseIf_eq_ok.mp hle)⟩

/-- What `replace_allocations` has done when it returns. -/
theorem replaceAllocations_ok {allocations : List AllocationInput}
    (h : replaceAllocations db today paymentId allocations = .ok db') :
    ∃ payment rows, Allocatable db paymentId payment ∧
      normalizeAllocations allocations = .ok rows ∧
      applyAllocationTargets db today payment rows = .ok db' := by
  obtain ⟨payment, hpay, h⟩ := bind_eq_ok.mp h
  obtain ⟨hvoid, h⟩ := raiseIf_bind_eq_ok.mp h
  obtain ⟨rows, hrows, h⟩ := bind_eq_ok.mp h
  obtain ⟨hfound, -⟩ := getByIdOr404_eq_ok.mp hpay
  exact ⟨payment, rows, ⟨hfound, hvoid⟩, hrows, h⟩

/-- The target map of a removal: what is there, less one invoice. -/
def Db.withoutInvoice (db : Db) (paymentId invoiceId : Id) : List NormalizedAllocation :=
  ((db.currentMap paymentId).filter fun entry => entry.1 ≠ invoiceId).map
    fun entry => ⟨entry.1, entry.2, none⟩

/-- What `remove_allocation` has done when it returns. -/
theorem removeAllocation_ok {invoiceId : Option Id}
    (h : removeAllocation db today paymentId invoiceId = .ok db') :
    ∃ payment invoiceKey, Allocatable db paymentId payment ∧ invoiceId = some invoiceKey ∧
      applyAllocationTargets db today payment (db.withoutInvoice paymentId invoiceKey)
        = .ok db' := by
  obtain ⟨payment, hpay, h⟩ := bind_eq_ok.mp h
  obtain ⟨hvoid, h⟩ := raiseIf_bind_eq_ok.mp h
  obtain ⟨invoiceKey, hkey, h⟩ := orRaise_bind_eq_ok.mp h
  replace h := ok_of_check h
  obtain ⟨hfound, -⟩ := getByIdOr404_eq_ok.mp hpay
  exact ⟨payment, invoiceKey, ⟨hfound, hvoid⟩, hkey, h⟩

/-- What an accepted `void_payment` has checked and written. -/
theorem voidPayment_ok {expectedVersion : Option ℕ}
    (h : voidPayment db organizationId paymentId expectedVersion = .ok db') :
    db' = db ∨ ∃ (payment : BillingPayment) (version : ℕ),
      db.payments.find? payment.id = some payment ∧ payment.id = paymentId ∧
      db.totalLatestAllocatedForPayment payment.id ≤ 0 ∧
      db' = { db with
        payments := db.payments.modify payment.id
          (fun p => { p with status := .voided, version := version }) fun _ => rfl } := by
  obtain ⟨payment, hpay, h⟩ := bind_eq_ok.mp h
  split at h
  · exact .inl (pure_eq_ok.mp h).symm
  obtain ⟨hunfunded, h⟩ := raiseIf_bind_eq_ok.mp h
  obtain ⟨payments, hupd, h⟩ := bind_eq_ok.mp h
  obtain ⟨-, -, -, -, rfl⟩ := updateById_eq_ok.mp hupd
  obtain rfl := pure_eq_ok.mp h
  have hfound := (getByIdOr404_eq_ok.mp hpay).1
  obtain rfl := (Table.find?_eq_some_iff.mp hfound).2
  exact .inr ⟨payment, _, hfound, rfl, not_lt.mp hunfunded, rfl⟩

/-- What an accepted `mark_payment_status` has checked and written. -/
theorem markPaymentStatus_ok {toStatus : PaymentRecordStatus} {providerTxnId : Option String}
    {transactionFee : Option ℚ}
    (h : markPaymentStatus db organizationId paymentId toStatus providerTxnId transactionFee
      = .ok db') :
    ∃ (payment : BillingPayment) (fee : ℤ), db.payments.find? payment.id = some payment ∧
      payment.id = paymentId ∧ payment.organizationId = organizationId ∧
      (payment.status = .voided → toStatus = .voided) ∧
      (∀ fee ∈ transactionFee, 0 ≤ money fee) ∧
      db.providerTxnTaken payment.organizationId payment.provider
        (providerTxnId.or payment.providerTxnId) (some payment.id) = false ∧
      db' = { db with
        payments := db.payments.modify payment.id
          (fun p => { p with
            status := toStatus
            providerTxnId := providerTxnId.or payment.providerTxnId
            transactionFee := fee
            version := payment.version + 1 }) fun _ => rfl } := by
  obtain ⟨payment, hpay, h⟩ := bind_eq_ok.mp h
  obtain ⟨hstays, h⟩ := raiseIf_bind_eq_ok.mp h
  obtain ⟨hfee, h⟩ := raiseIf_bind_eq_ok.mp h
  obtain ⟨htxn, h⟩ := raiseIf_bind_eq_ok.mp h
  obtain ⟨payments, hupd, h⟩ := bind_eq_ok.mp h
  obtain ⟨-, -, -, -, rfl⟩ := updateById_eq_ok.mp hupd
  obtain rfl := pure_eq_ok.mp h
  obtain ⟨hfound, hscope⟩ := getByIdOr404_eq_ok.mp hpay
  obtain rfl := (Table.find?_eq_some_iff.mp hfound).2
  refine ⟨payment, _, hfound, rfl, of_decide_eq_true hscope, fun hv => ?_, ?_,
    eq_false_of_ne_true htxn, rfl⟩
  · exact not_not.mp fun hne => hstays ⟨hv, hne⟩
  · rintro fee rfl
    exact not_lt.mp fun hneg => hfee ⟨rfl, hneg⟩

/-- The entries of a removal's target map are net allocations that are there. -/
theorem withoutInvoice_spec (db : Db) (paymentId invoiceId : Id) :
    (∀ row ∈ db.withoutInvoice paymentId invoiceId, 0 < row.allocatedAmount ∧
      row.allocatedAmount = db.netAllocation paymentId row.invoiceId) ∧
    ((db.withoutInvoice paymentId invoiceId).map (·.invoiceId)).Nodup := by
  constructor
  · intro row hrow
    obtain ⟨entry, hentry, rfl⟩ := List.mem_map.mp hrow
    have hmem := List.mem_of_mem_filter hentry
    have hpos : 0 < entry.2 := by simpa using (List.mem_filter.mp hmem).2
    obtain ⟨iid, -, rfl⟩ := List.mem_map.mp
      (List.mem_of_mem_filter (List.mem_of_mem_filter hmem))
    exact ⟨hpos, rfl⟩
  · rw [Db.withoutInvoice, List.map_map]
    exact ((nodup_currentMap_keys db paymentId).sublist (List.filter_sublist.map _))

end SwCouriers
