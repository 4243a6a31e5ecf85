import SwCouriers.AllocationLedger

/-!
# A Voided Payment Funds Nothing

Every operation that writes allocations refuses a voided payment, and `void_payment` refuses
one that has allocations. `mark_payment_status` sets any status and looks at the allocations
of none: told to void a payment that still funds an invoice, it does, and the payment keeps
funding it, since from then on no operation may take the allocations back.

No operation gives a voided payment another status.

## Main results

* `keepsVoided_exec`: what every other operation does to voided payments.
* `voided_stays_voided`: a voided payment is voided for good.
* `voided_funds_nothing_iff`: in exactly those runs that mark no funded payment as voided,
  voided payments fund nothing.
-/

namespace SwCouriers

open Checked

/-- Every voided payment has a net allocation of zero to every invoice. -/
def Db.FundsNothing (db : Db) : Prop :=
  ∀ p ∈ db.payments.rows, p.status = .voided → ∀ i, db.netAllocation p.id i = 0

variable {db db' : Db} {today : Day} {payment : BillingPayment}
  {f : BillingPayment → BillingPayment}

/-- With positive rows, a payment that funds no invoice has no total. -/
theorem Db.PositiveRows.total_eq_zero_iff (h : db.PositiveRows) (paymentId : Id) :
    db.totalLatestAllocatedForPayment paymentId = 0 ↔
      ∀ i, db.netAllocation paymentId i = 0 := by
  have hnonneg : ∀ a ∈ db.allocations.rows, a.paymentId = paymentId →
      0 ≤ a.allocatedAmount := fun a ha _ => (h a ha).le
  constructor
  · intro htotal i
    refine Table.sumWhere_eq_zero fun a ha hrow => ?_
    have hle : a.allocatedAmount ≤ db.totalLatestAllocatedForPayment paymentId :=
      Table.le_sumWhere hnonneg ha hrow.1
    have hpos := h a ha
    omega
  · intro hnet
    refine Table.sumWhere_eq_zero fun a ha hrow => ?_
    have hle : a.allocatedAmount ≤ db.netAllocation paymentId a.invoiceId :=
      Table.le_sumWhere (fun b hb _ => (h b hb).le) ha ⟨hrow, rfl⟩
    have hpos := h a ha
    have hzero := hnet a.invoiceId
    omega

/-- Voided payments stay voided. -/
def VoidedStays (db db' : Db) : Prop :=
  ∀ id p, db.payments.find? id = some p → p.status = .voided →
    ∃ p', db'.payments.find? id = some p' ∧ p'.status = .voided

/-- What an operation does to voided payments: those there are stay voided and get no
allocation, and a payment that becomes voided has none. -/
structure KeepsVoided (db db' : Db) : Prop where
  stays : VoidedStays db db'
  total : ∀ id p, db.payments.find? id = some p → p.status = .voided →
    db'.totalLatestAllocatedForPayment id = db.totalLatestAllocatedForPayment id
  becomes : ∀ id p', db'.payments.find? id = some p' → p'.status = .voided →
    (∃ p, db.payments.find? id = some p ∧ p.status = .voided) ∨
      db'.totalLatestAllocatedForPayment id = 0

theorem KeepsVoided.refl (db : Db) : KeepsVoided db db :=
  ⟨fun _ p hp hv => ⟨p, hp, hv⟩, fun _ _ _ _ => rfl, fun _ p hp hv => .inl ⟨p, hp, hv⟩⟩

theorem KeepsVoided.trans {db₁ db₂ : Db} (h : KeepsVoided db db₁) (h' : KeepsVoided db₁ db₂) :
    KeepsVoided db db₂ where
  stays id p hp hv := by
    obtain ⟨p₁, hp₁, hv₁⟩ := h.stays id p hp hv
    exact h'.stays id p₁ hp₁ hv₁
  total id p hp hv := by
    obtain ⟨p₁, hp₁, hv₁⟩ := h.stays id p hp hv
    rw [h'.total id p₁ hp₁ hv₁, h.total id p hp hv]
  becomes id p₂ hp₂ hv₂ := by
    rcases h'.becomes id p₂ hp₂ hv₂ with ⟨p₁, hp₁, hv₁⟩ | hzero
    · rw [h'.total id p₁ hp₁ hv₁]
      exact h.becomes id p₁ hp₁ hv₁
    · exact .inr hzero

/-- Voided payments that funded nothing still do, and no other payment has become one that
funds something. -/
theorem KeepsVoided.fundsNothing (h : KeepsVoided db db') (hrows : db.PositiveRows)
    (hrows' : db'.PositiveRows) (hnothing : db.FundsNothing) : db'.FundsNothing := by
  intro p' hp' hv'
  refine (hrows'.total_eq_zero_iff p'.id).mp ?_
  have hfound' : db'.payments.find? p'.id = some p' := Table.find?_eq_some_iff.mpr ⟨hp', rfl⟩
  rcases h.becomes p'.id p' hfound' hv' with ⟨p, hp, hv⟩ | hzero
  · obtain ⟨hmem, hid⟩ := Table.find?_eq_some_iff.mp hp
    have hnet := hnothing p hmem hv
    rw [h.total p'.id p hp hv, hrows.total_eq_zero_iff]
    rwa [show p.id = p'.id from hid] at hnet
  · exact hzero

/-! ### The three kinds of write -/

/-- A new payment has no allocations yet, whatever its status is. -/
theorem keepsVoided_createPayment (hinv : LedgerInv db) {organizationId : Id}
    {amount transactionFee : ℤ} {paymentDate : Day} {status : PaymentRecordStatus}
    {provider : PaymentProvider} {providerTxnId : Option String}
    (h : createPayment db organizationId amount transactionFee paymentDate status provider
      providerTxnId = .ok db') : KeepsVoided db db' := by
  replace h := ok_of_check h
  obtain rfl := pure_eq_ok.mp h
  have hnew := db.payments.fresh_notMem
  refine ⟨fun id p hp hv => ⟨p, ?_, hv⟩, fun _ _ _ _ => rfl, fun id p' hp' hv' => ?_⟩
  · have hne : ¬ db.payments.fresh = id := by
      rintro rfl
      rw [find?_fresh] at hp
      exact Option.some_ne_none _ hp.symm
    rw [Table.find?_insert hnew]
    exact (if_neg hne).trans hp
  · rw [Table.find?_insert hnew] at hp'
    split_ifs at hp' with hid
    · refine .inr ?_
      have hzero := hinv.totalLatestAllocatedForPayment_eq_zero (find?_fresh db.payments)
      rw [← hid]
      exact hzero
    · exact .inl ⟨p', hp', hv'⟩

/-- An allocation write concerns a payment that is not voided, and does not void it. -/
theorem keepsVoided_amended {db₁ : Db} {touched : List Id}
    (hpay : Allocatable db payment.id payment) (ham : AmendsPayment payment.id touched db db₁) :
    KeepsVoided db (db₁.commitAllocations today payment touched) := by
  have hsame : db₁.payments = db.payments := by rw [ham.frame]
  have hfind : ∀ id, (db₁.commitAllocations today payment touched).payments.find? id
      = if id = payment.id then some (payment.projected db₁) else db.payments.find? id := by
    intro id
    rw [Db.commitAllocations, Table.find?_modify, hsame]
    split_ifs with hid
    · rw [hid, hpay.found]
      rfl
    · rfl
  have hne : ∀ id p, db.payments.find? id = some p → p.status = .voided → id ≠ payment.id := by
    rintro id p hp hv rfl
    exact hpay.notVoided (Option.some.inj (hp.symm.trans hpay.found) ▸ hv)
  refine ⟨fun id p hp hv => ⟨p, ?_, hv⟩, fun id p hp hv => ham.payment id (hne id p hp hv),
    fun id p' hp' hv' => ?_⟩
  · rw [hfind, if_neg (hne id p hp hv), hp]
  · rw [hfind] at hp'
    split_ifs at hp' with hid
    · obtain rfl := Option.some.inj hp'
      exact absurd hv' hpay.notVoided
    · exact .inl ⟨p', hp', hv'⟩

theorem find?_updated (hfound : db.payments.find? payment.id = some payment)
    (hid : ∀ p, (f p).id = p.id) (id : Id) :
    (db.payments.modify payment.id f hid).find? id
      = if id = payment.id then some (f payment) else db.payments.find? id := by
  rw [Table.find?_modify]
  split_ifs with h
  · rw [h, hfound]
    rfl
  · rfl

/-- A change of status that revives no voided payment. -/
theorem voidedStays_updated (hfound : db.payments.find? payment.id = some payment)
    (hid : ∀ p, (f p).id = p.id)
    (hstays : payment.status = .voided → (f payment).status = .voided) :
    VoidedStays db { db with payments := db.payments.modify payment.id f hid } := by
  intro id p hp hv
  show ∃ p', (db.payments.modify payment.id f hid).find? id = some p' ∧ p'.status = .voided
  rw [find?_updated hfound]
  split_ifs with h
  · rw [h, hfound] at hp
    obtain rfl := Option.some.inj hp
    exact ⟨_, rfl, hstays hv⟩
  · exact ⟨p, hp, hv⟩

/-- A change of status that voids no funded payment either. -/
theorem keepsVoided_updated (hfound : db.payments.find? payment.id = some payment)
    (hid : ∀ p, (f p).id = p.id) (hstays : payment.status = .voided → (f payment).status = .voided)
    (hunfunded : (f payment).status = .voided → payment.status = .voided ∨
      db.totalLatestAllocatedForPayment payment.id = 0) :
    KeepsVoided db { db with payments := db.payments.modify payment.id f hid } := by
  refine ⟨voidedStays_updated hfound hid hstays, fun _ _ _ _ => rfl, fun id p' hp' hv' => ?_⟩
  have hp' : (db.payments.modify payment.id f hid).find? id = some p' := hp'
  rw [find?_updated hfound] at hp'
  split_ifs at hp' with h
  · obtain rfl := Option.some.inj hp'
    rw [h]
    rcases hunfunded hv' with hv | hzero
    · exact .inl ⟨payment, hfound, hv⟩
    · exact .inr hzero
  · exact .inl ⟨p', hp', hv'⟩

/-- Of a payment that a change of status has voided. -/
theorem total_eq_zero_of_updated (hrows : db.PositiveRows)
    (hfound : db.payments.find? payment.id = some payment) (hid : ∀ p, (f p).id = p.id)
    (hvoided : (f payment).status = .voided)
    (hnothing : Db.FundsNothing { db with payments := db.payments.modify payment.id f hid }) :
    db.totalLatestAllocatedForPayment payment.id = 0 := by
  have hmem : f payment ∈ (db.payments.modify payment.id f hid).rows :=
    (Table.mem_modify_iff hid).mpr
      ⟨payment, (Table.find?_eq_some_iff.mp hfound).1, if_pos rfl⟩
  have hnet := hnothing (f payment) hmem hvoided
  rw [hid] at hnet
  exact (hrows.total_eq_zero_iff payment.id).mpr hnet

/-! ### The operations -/

theorem keepsVoided_recordPayment (hinv : LedgerInv db) {input : PaymentInput}
    (h : recordPayment db input = .ok db') : KeepsVoided db db' := by
  replace h := ok_of_check h
  replace h := ok_of_check h
  replace h := ok_of_check h
  replace h := ok_of_check h
  exact keepsVoided_createPayment hinv h

theorem keepsVoided_addOrReviseAllocations (hrows : db.PositiveRows) {paymentId : Id}
    {allocations : List AllocationInput}
    (h : addOrReviseAllocations db today paymentId allocations = .ok db') : KeepsVoided db db' := by
  obtain ⟨payment, rows, hpay, hnormalized, -, -, rfl⟩ := addOrReviseAllocations_ok h
  obtain rfl := hpay.id_eq
  obtain ⟨-, hpos, -⟩ := normalizeAllocations_ok hnormalized
  exact keepsVoided_amended hpay (amendsPayment_insert hrows hpos)

theorem keepsVoided_applyAllocationTargets (hrows : db.PositiveRows)
    (hpay : Allocatable db payment.id payment) {targetMap : List NormalizedAllocation}
    (hpos : ∀ t ∈ targetMap, 0 < t.allocatedAmount)
    (h : applyAllocationTargets db today payment targetMap = .ok db') : KeepsVoided db db' := by
  rcases applyAllocationTargets_ok hpay h with ⟨rfl, -⟩ | ⟨-, -, rfl⟩
  · exact .refl db'
  · exact keepsVoided_amended hpay (amendsPayment_replace hrows hpos
      (fun i hi => mem_touchedIds.mpr (.inr hi)) fun i hi => mem_touchedIds.mpr (.inl hi))

theorem keepsVoided_voidPayment (hrows : db.PositiveRows) {organizationId paymentId : Id}
    {expectedVersion : Option ℕ}
    (h : voidPayment db organizationId paymentId expectedVersion = .ok db') :
    KeepsVoided db db' := by
  rcases voidPayment_ok h with rfl | ⟨payment, version, hfound, -, hunfunded, rfl⟩
  · exact .refl db'
  have hnonneg : 0 ≤ db.totalLatestAllocatedForPayment payment.id :=
    Table.sumWhere_nonneg fun a ha _ => (hrows a ha).le
  have hzero : db.totalLatestAllocatedForPayment payment.id = 0 :=
    le_antisymm hunfunded hnonneg
  exact keepsVoided_updated hfound _ (fun _ => rfl) fun _ => .inr hzero

/-- The request marks a payment as voided that funds an invoice, and passes the checks: the
payment is one of the organisation, the fee is not negative and the provider's transaction is
not taken. -/
def PaymentOp.VoidsFunded (db : Db) : PaymentOp → Prop
  | .markPaymentStatus organizationId paymentId toStatus providerTxnId transactionFee =>
      toStatus = .voided ∧ 0 < db.totalLatestAllocatedForPayment paymentId ∧
        (∀ fee ∈ transactionFee, 0 ≤ money fee) ∧
        ∃ payment, db.payments.find? paymentId = some payment ∧
          payment.organizationId = organizationId ∧
          db.providerTxnTaken payment.organizationId payment.provider
            (providerTxnId.or payment.providerTxnId) (some payment.id) = false
  | _ => False

theorem keepsVoided_markPaymentStatus (hrows : db.PositiveRows) {organizationId paymentId : Id}
    {toStatus : PaymentRecordStatus} {providerTxnId : Option String} {transactionFee : Option ℚ}
    (hvoids : ¬ (PaymentOp.markPaymentStatus organizationId paymentId toStatus providerTxnId
      transactionFee).VoidsFunded db)
    (h : markPaymentStatus db organizationId paymentId toStatus providerTxnId transactionFee
      = .ok db') : KeepsVoided db db' := by
  obtain ⟨payment, fee, hfound, rfl, hscope, hstays, hfee, htxn, rfl⟩ := markPaymentStatus_ok h
  refine keepsVoided_updated hfound _ hstays fun hv => .inr ?_
  have hnonneg : 0 ≤ db.totalLatestAllocatedForPayment payment.id :=
    Table.sumWhere_nonneg fun a ha _ => (hrows a ha).le
  by_contra hfunded
  exact hvoids ⟨hv, lt_of_le_of_ne hnonneg (Ne.symm hfunded), hfee, payment, hfound, hscope,
    htxn⟩

/-- **What an accepted request does to voided payments**, unless it voids a funded one. -/
theorem keepsVoided_exec (hinv : LedgerInv db) {op : PaymentOp} (hvoids : ¬ op.VoidsFunded db)
    (h : op.exec db today = .ok db') : KeepsVoided db db' := by
  cases op with
  | recordPayment input => exact keepsVoided_recordPayment hinv h
  | createPendingPayment organizationId amount paymentDate provider =>
      replace h := ok_of_check h
      exact keepsVoided_createPayment hinv h
  | recordPaymentWithAllocations input allocations =>
      obtain ⟨db₁, hrec, h⟩ := bind_eq_ok.mp h
      have hkeeps := keepsVoided_recordPayment hinv hrec
      split at h
      · obtain rfl := pure_eq_ok.mp h
        exact hkeeps
      · have heffect : PaymentEffect today db db₁ := recordPayment_effect hrec
        exact hkeeps.trans (keepsVoided_addOrReviseAllocations (hinv.effect heffect).positive h)
  | addOrReviseAllocations paymentId allocations =>
      exact keepsVoided_addOrReviseAllocations hinv.positive h
  | replaceAllocations paymentId allocations =>
      obtain ⟨payment, rows, hpay, hrows, happly⟩ := replaceAllocations_ok h
      obtain rfl := hpay.id_eq
      exact keepsVoided_applyAllocationTargets hinv.positive hpay
        (normalizeAllocations_ok hrows).2.1 happly
  | removeAllocation paymentId invoiceId =>
      obtain ⟨payment, invoiceKey, hpay, -, happly⟩ := removeAllocation_ok h
      obtain rfl := hpay.id_eq
      obtain ⟨hentries, -⟩ := withoutInvoice_spec db payment.id invoiceKey
      exact keepsVoided_applyAllocationTargets hinv.positive hpay
        (fun t ht => (hentries t ht).1) happly
  | voidPayment organizationId paymentId expectedVersion =>
      exact keepsVoided_voidPayment hinv.positive h
  | markPaymentStatus organizationId paymentId toStatus providerTxnId transactionFee =>
      exact keepsVoided_markPaymentStatus hinv.positive hvoids h

/-- A request that voids a funded payment is accepted, and the payment goes on funding. -/
theorem exec_of_voidsFunded (hrows : db.PositiveRows) {op : PaymentOp}
    (hvoids : op.VoidsFunded db) : ∃ db', op.exec db today = .ok db' ∧ ¬ db'.FundsNothing := by
  cases op with
  | markPaymentStatus organizationId paymentId toStatus providerTxnId transactionFee =>
      obtain ⟨rfl, hfunded, hfee, payment, hfound, hscope, htxn⟩ := hvoids
      obtain rfl := (Table.find?_eq_some_iff.mp hfound).2
      have hget : getByIdOr404 db.payments payment.id
          (fun p => p.organizationId = organizationId) = .ok payment :=
        getByIdOr404_eq_ok.mpr ⟨hfound, decide_eq_true hscope⟩
      have hfee' : ¬ (transactionFee.isSome = true ∧
          (transactionFee.map money).getD payment.transactionFee < 0) := by
        rintro ⟨hsome, hneg⟩
        obtain ⟨fee, rfl⟩ := Option.isSome_iff_exists.mp hsome
        exact absurd (hfee fee rfl) (not_le.mpr hneg)
      refine ⟨_, bind_eq_ok.mpr ⟨payment, hget, bind_eq_ok.mpr ⟨⟨⟩,
        raiseIf_eq_ok.mpr fun hne => hne.2 rfl, bind_eq_ok.mpr ⟨⟨⟩, raiseIf_eq_ok.mpr hfee',
        bind_eq_ok.mpr ⟨⟨⟩, raiseIf_eq_ok.mpr (ne_true_of_eq_false htxn),
        bind_eq_ok.mpr ⟨_, updateById_eq_ok.mpr ⟨payment, hfound, decide_eq_true hscope, rfl,
          rfl⟩, rfl⟩⟩⟩⟩⟩, fun hnothing => ?_⟩
      exact hfunded.ne' (total_eq_zero_of_updated hrows hfound _ rfl hnothing)
  | _ => exact hvoids.elim

/-! ### Runs -/

/-- A step that voids no funded payment keeps voided payments as they are. -/
theorem keepsVoided_step (hinv : LedgerInv db) (request : Day × PaymentOp)
    (hvoids : ¬ request.2.VoidsFunded db) : KeepsVoided db (PaymentOp.step db request) := by
  rcases settle_eq db (request.2.exec db request.1) with hok | heq
  · exact keepsVoided_exec hinv hvoids hok
  · rw [PaymentOp.step, heq]
    exact .refl db

/-- No request revives a voided payment, not even one that voids a funded one. -/
theorem voidedStays_step (hinv : LedgerInv db) (request : Day × PaymentOp) :
    VoidedStays db (PaymentOp.step db request) := by
  by_cases hvoids : request.2.VoidsFunded db
  · obtain ⟨db', hexec, -⟩ : ∃ db', request.2.exec db request.1 = .ok db' ∧ ¬ db'.FundsNothing :=
      exec_of_voidsFunded hinv.positive hvoids
    rw [PaymentOp.step, hexec, settle_ok]
    cases hop : request.2 with
    | markPaymentStatus organizationId paymentId toStatus providerTxnId transactionFee =>
        rw [hop] at hexec
        obtain ⟨payment, fee, hfound, -, -, hstays, -, -, rfl⟩ := markPaymentStatus_ok hexec
        exact voidedStays_updated hfound _ hstays
    | _ =>
        rw [hop] at hvoids
        exact hvoids.elim
  · exact (keepsVoided_step hinv request hvoids).stays

/-- **A voided payment is voided for good.** -/
theorem voided_stays_voided (hinv : LedgerInv db) (requests : List (Day × PaymentOp)) {id : Id}
    {p : BillingPayment} (hp : db.payments.find? id = some p) (hv : p.status = .voided) :
    ∃ p', (Runs.run PaymentOp.step db requests).payments.find? id = some p' ∧
      p'.status = .voided := by
  refine (Runs.run_invariant (I := fun db : Db => LedgerInv db ∧
    ∃ p', db.payments.find? id = some p' ∧ p'.status = .voided) (fun db request h => ?_)
    ⟨hinv, p, hp, hv⟩ requests).2
  obtain ⟨hinv, p', hp', hv'⟩ := h
  exact ⟨hinv.step request, voidedStays_step hinv request id p' hp' hv'⟩

/-- **One step**: voided payments go on funding nothing exactly when it voids no funded one. -/
theorem fundsNothing_step_iff (db : Db) (request : Day × PaymentOp) (hinv : LedgerInv db)
    (hnothing : db.FundsNothing) :
    (PaymentOp.step db request).FundsNothing ↔ ¬ request.2.VoidsFunded db := by
  constructor
  · intro h hvoids
    obtain ⟨db', hexec, hfunds⟩ := exec_of_voidsFunded hinv.positive hvoids
    rw [PaymentOp.step, hexec] at h
    exact hfunds h
  · intro hvoids
    exact (keepsVoided_step hinv request hvoids).fundsNothing hinv.positive
      (hinv.step request).positive hnothing

/-- A voided payment funds nothing: at every point of the run it has a net allocation of zero
to every invoice, and it is still voided at the end. -/
def VoidedFundNothing (db : Db) (requests : List (Day × PaymentOp)) : Prop :=
  ∀ pre post, requests = pre ++ post →
    (Runs.run PaymentOp.step db pre).FundsNothing ∧
    ∀ id p, (Runs.run PaymentOp.step db pre).payments.find? id = some p → p.status = .voided →
      ∃ p', (Runs.run PaymentOp.step db requests).payments.find? id = some p' ∧
        p'.status = .voided

/-- A sent invoice over a hundred pounds. -/
def hundredPounds : Invoice where
  id := 1
  invoiceNumber := "INV-000001"
  organizationId := some 1
  customerId := none
  orderId := none
  subtotal := 10000
  vatRate := 0
  vatAmount := 0
  total := 10000
  paidAmount := 0
  paymentStatus := .unpaid
  issueDate := 0
  dueDate := 30
  status := .sent
  notes := none
  lineItems := []
  updatedAt := 0
  version := 1

/-- An organisation with that invoice. -/
def oneInvoice : Db := { Db.initial .empty with invoices := Table.singleton hundredPounds }

/-- A payment of a hundred pounds is recorded and put on the invoice. -/
def paidInFull : List (Day × PaymentOp) :=
  [(0, .recordPayment ⟨1, 100, 0, some .customerB2B, .deposited, .bankTransfer, none, 0, none⟩),
    (0, .addOrReviseAllocations 1 [⟨some 1, some 100, none⟩])]

/-- Marked as voided, it goes on paying the invoice. -/
theorem voided_goes_on_funding :
    ¬ ∀ (db : Db) (requests : List (Day × PaymentOp)),
      VoidedFundNothing db.beforePayments requests := by
  intro h
  obtain ⟨hnothing, -⟩ := h oneInvoice
    (paidInFull ++ [(0, .markPaymentStatus 1 1 .voided none none)]) _ [] (List.append_nil _).symm
  have hvoided : ∃ p ∈ (Runs.run PaymentOp.step oneInvoice.beforePayments
      (paidInFull ++ [(0, .markPaymentStatus 1 1 .voided none none)])).payments.rows,
      p.status = .voided ∧ p.id = 1 := by decide +kernel
  have hfunds : (Runs.run PaymentOp.step oneInvoice.beforePayments
      (paidInFull ++ [(0, .markPaymentStatus 1 1 .voided none none)])).netAllocation 1 1
        = 10000 := by decide +kernel
  obtain ⟨p, hp, hv, hid⟩ := hvoided
  have hzero := hnothing p hp hv 1
  rw [hid, hfunds] at hzero
  exact absurd hzero (by decide)

/-- **A voided payment funds nothing** in exactly those runs in which no payment is marked as
voided that has allocations. -/
theorem voided_funds_nothing_iff (db : Db) (requests : List (Day × PaymentOp)) :
    VoidedFundNothing db.beforePayments requests ↔
      Runs.Along PaymentOp.step (fun db request => ¬ request.2.VoidsFunded db)
        db.beforePayments requests := by
  have hinv := ledgerInv_beforePayments db
  have hnothing : db.beforePayments.FundsNothing := fun p hp => absurd hp List.not_mem_nil
  rw [← Runs.forall_prefix_iff_along (I := LedgerInv) (fun _ request h => h.step request)
    fundsNothing_step_iff hinv hnothing requests]
  refine forall_congr' fun pre => forall_congr' fun post => forall_congr' fun heq => ?_
  refine and_iff_left fun id p hp hv => ?_
  rw [heq, Runs.run_append]
  exact voided_stays_voided (hinv.run pre) post hp hv

end SwCouriers
