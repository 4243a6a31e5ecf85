import SwCouriers.BillingInvariant

/-!
# Refund Conservation

`create_refund` compares the new refund with what is left of the payment after the
refunds that were processed. A refund that is still open counts as nothing there, and
`mark_refund_complete`, `retry_refund` and `issue_credit_note_for_refund` later process
it in full without looking again. So several refunds can be opened against one payment,
each for all of it.

`BillingOp.WithinRequested` is the check that would count them: the new refund and all
that was requested before fit in the payment.

## Main results

* `requested_le_step`: a request that meets it keeps the requested amounts within the
  payments.
* `refunds_conserved`: then no payment is ever refunded beyond its amount.
* `payment_refunded_twice`: a payment that is refunded twice over.
-/

namespace SwCouriers

open Checked

/-- All that was requested of a payment in refunds, processed or not. -/
def Db.totalRequestedForPayment (db : Db) (paymentId : Id) : ℤ :=
  db.refunds.sumWhere (fun r => r.billingPaymentId = paymentId ∧ r.status ≠ .reversed)
    (·.requestedAmount)

/-- A new refund fits in its payment beside all that was requested before. A request
under a key that was used opens no refund. -/
def BillingOp.WithinRequested (db : Db) : BillingOp → Prop
  | .refund (.create _ input) =>
      (db.refundByKey input.organizationId input.idempotencyKey).isSome = true ∨
      ∀ payment ∈ db.payments.find? input.billingPaymentId,
        money input.amount + db.totalRequestedForPayment payment.id ≤ payment.amount
  | _ => True

instance (db : Db) : (op : BillingOp) → Decidable (op.WithinRequested db)
  | .refund (.create _ input) => inferInstanceAs (Decidable (_ ∨
      ∀ payment ∈ db.payments.find? input.billingPaymentId, _))
  | .refund (.markComplete _ _ _) | .refund (.retry _ _ _ _ _ _)
  | .refund (.issueCreditNote _ _ _) | .payment _ | .invoice _ | .creditNote _ =>
      .isTrue trivial

/-- No payment has more requested of it than it has. -/
def RequestedWithin (db : Db) : Prop :=
  ∀ p ∈ db.payments.rows, db.totalRequestedForPayment p.id ≤ p.amount

variable {db db' : Db} {today : Day}

/-- What was processed was requested. -/
theorem BillingInv.refunded_le_requested (h : BillingInv db) (p : Id) :
    db.totalNonReversedRefundedForPayment p ≤ db.totalRequestedForPayment p :=
  Table.sumWhere_le_sumWhere fun r hr _ => (h.refunds r hr).processed.2

/-! ### Steps -/

/-- Payment requests leave refunds alone and keep the amount of every payment; a new
payment has no refunds yet. -/
theorem RequestedWithin.paymentEffect (h : RequestedWithin db) (hdb : BillingInv db)
    (he : PaymentEffect today db db') : RequestedWithin db' := by
  induction he with
  | refl => exact h
  | created db payment seq hfresh _ _ _ hpos =>
      intro p hp
      have hnew : payment.id ∉ db.payments.rows.map BillingPayment.id := by
        rw [hfresh]
        exact db.payments.fresh_notMem
      rw [Table.rows_insert_of_notMem hnew, List.mem_append, List.mem_singleton] at hp
      rcases hp with hp | rfl
      · exact h p hp
      · refine le_trans (le_of_eq (Table.sumWhere_eq_zero fun r hr hrow => ?_)) hpos.le
        have howned := (hdb.refunds r hr).owned
        rw [hrow.1, Table.find?_eq_none_iff.mpr hnew] at howned
        exact absurd howned (by decide)
  | updated db payment f hid _ hamount =>
      intro p hp
      obtain ⟨p₀, hp₀, rfl⟩ := (Table.mem_modify_iff hid).mp hp
      split_ifs
      · rw [hid, hamount]
        exact h p₀ hp₀
      · exact h p₀ hp₀
  | amended db db₁ payment touched _ ham _ _ =>
      intro p hp
      have ham := ham hdb.ledger.positive
      have hpayments : db₁.payments = db.payments := by rw [ham.frame]
      have hrefunds : db₁.refunds = db.refunds := by rw [ham.frame]
      obtain ⟨p₀, hp₀, rfl⟩ :=
        (Table.mem_modify_iff (BillingPayment.projected_id db₁)).mp hp
      have hold := h p₀ (hpayments ▸ hp₀)
      rw [Db.totalRequestedForPayment, ← hrefunds] at hold
      split_ifs <;> exact hold
  | trans he₁ _ ih₁ ih₂ => exact ih₂ (ih₁ h hdb) (hdb.paymentEffect he₁)

theorem RequestedWithin.documentEffect (h : RequestedWithin db) (he : DocumentEffect today db db') :
    RequestedWithin db' := by
  obtain ⟨hpayments, -, hrefunds⟩ := he.frame
  intro p hp
  rw [Db.totalRequestedForPayment, hrefunds]
  exact h p (hpayments ▸ hp)

/-- Moving a refund on requests nothing more. -/
theorem requestedWithin_modify (h : RequestedWithin db) {refund : Refund} {f : Refund → Refund}
    (hid : ∀ r, (f r).id = r.id) (hfound : db.refunds.find? refund.id = some refund)
    (hstatus : refund.status ≠ .reversed)
    (howner : (f refund).billingPaymentId = refund.billingPaymentId)
    (hrequested : (f refund).requestedAmount = refund.requestedAmount)
    (hafter : (f refund).status ≠ .reversed) :
    RequestedWithin { db with refunds := db.refunds.modify refund.id f hid } := by
  intro p hp
  refine le_trans (le_of_eq ?_) (h p hp)
  rw [Db.totalRequestedForPayment, Table.sumWhere_modify hfound, howner, hrequested]
  simp only [hstatus, hafter, ne_eq, not_false_eq_true, and_true]
  rw [sub_add_cancel]
  rfl

/-- A refund that fits in its payment beside all that was requested before. -/
theorem requestedWithin_insert (h : RequestedWithin db) {payment : BillingPayment} {refund : Refund}
    (hfound : db.payments.find? payment.id = some payment)
    (howner : refund.billingPaymentId = payment.id) (hfresh : refund.id = db.refunds.fresh)
    (hfits : refund.requestedAmount + db.totalRequestedForPayment payment.id ≤ payment.amount) :
    RequestedWithin { db with refunds := db.refunds.insert refund } := by
  intro p hp
  have hnew : refund.id ∉ db.refunds.rows.map Refund.id := by
    rw [hfresh]
    exact db.refunds.fresh_notMem
  have hold := h p hp
  have htotal : Db.totalRequestedForPayment
      { db with refunds := db.refunds.insert refund } p.id
      = db.totalRequestedForPayment p.id
        + if refund.billingPaymentId = p.id ∧ refund.status ≠ .reversed
          then refund.requestedAmount else 0 := by
    rw [Db.totalRequestedForPayment, Table.sumWhere_insert hnew]
    rfl
  rw [htotal]
  split_ifs with hrow
  · obtain rfl : p = payment :=
      Table.eq_of_find? hfound hp (hrow.1.symm.trans howner)
    omega
  · omega

theorem RequestedWithin.refundUpdate (h : RequestedWithin db) (hdb : BillingInv db)
    (he : RefundUpdate today db db') : RequestedWithin db' := by
  cases he with
  | refl => exact h
  | updated db₁ refund f hid hnote hfound howner hrequested _ hstatus =>
      have hkept : db₁.refunds = db.refunds := hnote.frame.2.2
      have hold := hdb.refunds refund (Table.find?_eq_some_iff.mp hfound).1
      exact requestedWithin_modify (h.documentEffect hnote) hid (hkept ▸ hfound)
        hold.status howner hrequested hstatus

theorem createRefund_requestedWithin {gateway : Gateway} {input : RefundInput}
    (h : RequestedWithin db)
    (hwithin : BillingOp.WithinRequested db (.refund (.create gateway input)))
    (hok : createRefund gateway db today input = .ok db') : RequestedWithin db' := by
  rcases createRefund_ok hok with ⟨-, rfl⟩ | ⟨payment, refund, hnew, hpay, howner, hid,
    hreq, -, -, -, -, rfl⟩
  · exact h
  have hpid := (Table.find?_eq_some_iff.mp hpay).2
  have hfound : db.payments.find? payment.id = some payment := by
    rw [← hpid] at hpay
    exact hpay
  refine requestedWithin_insert h hfound howner hid ?_
  rw [hreq]
  rcases hwithin with hkey | hfits
  · exact absurd hkey hnew
  · exact hfits payment hpay

/-- A request that meets the condition keeps the requested amounts within the
payments. -/
theorem requested_le_step (hdb : BillingInv db) (h : RequestedWithin db) {request : Day × BillingOp}
    (hwithin : request.2.WithinRequested db) : RequestedWithin (BillingOp.step db request) := by
  obtain ⟨today, op⟩ := request
  rcases settle_eq db (op.exec db today) with hok | heq
  · cases op with
    | payment op => exact h.paymentEffect hdb (PaymentOp.exec_effect hok)
    | invoice op => exact h.documentEffect (InvoiceOp.exec_effect hok)
    | creditNote op => exact h.documentEffect (CreditNoteOp.exec_effect hok)
    | refund op =>
        cases op with
        | create gateway input => exact createRefund_requestedWithin h hwithin hok
        | markComplete organizationId refundId braintreeStatus =>
            exact h.refundUpdate hdb (markRefundComplete_update hok)
        | retry gateway organizationId refundId braintreeStatus failureCode failureMessage =>
            exact h.refundUpdate hdb (retryRefund_update hok)
        | issueCreditNote organizationId refundId note =>
            exact h.refundUpdate hdb
              (issueCreditNoteForRefund_update hdb.refund_positive hok)
  · rw [BillingOp.step, heq]
    exact h

/-! ### Runs -/

/-- **Refunds are conserved when open refunds are counted.** In a run whose refund
requests all fit in their payments beside what was requested before, no payment is
refunded beyond its amount, in any state of the run. -/
theorem refunds_conserved (users : TableOf User) (requests : List (Day × BillingOp))
    (hwithin : Runs.Along BillingOp.step (fun db r => r.2.WithinRequested db)
      (Db.initial users) requests)
    (pre post : List (Day × BillingOp)) (hpre : requests = pre ++ post) :
    let db := Runs.run BillingOp.step (Db.initial users) pre
    ∀ p ∈ db.payments.rows, db.totalNonReversedRefundedForPayment p.id ≤ p.amount := by
  intro db p hp
  subst hpre
  have hinv : BillingInv db ∧ RequestedWithin db := by
    refine Runs.run_invariant_of_along
      (I := fun s => BillingInv s ∧ RequestedWithin s) ?_ ⟨billingInv_initial users, ?_⟩
      hwithin.prefix_run
    · rintro s request ⟨hs, hrequested⟩ hfits
      exact ⟨hs.step request, requested_le_step hs hrequested hfits⟩
    · intro p hp
      exact absurd hp List.not_mem_nil
  exact (hinv.1.refunded_le_requested p.id).trans (hinv.2 p hp)

/-- A bank transfer of 100.00 from organisation 1. -/
def paymentOf100 : PaymentInput where
  organizationId := 1
  amount := 100
  paymentDate := 0
  clientType := some .customerB2B
  status := .deposited
  provider := .bankTransfer
  providerTxnId := none
  transactionFee := 0
  notes := none

/-- A refund of the first payment by bank transfer. -/
def bankRefund (amount : ℚ) (refundType : RefundType) : RefundInput where
  organizationId := 1
  billingPaymentId := 1
  amount := amount
  refundType := refundType
  refundMethod := .bankTransfer
  reasonCategory := "OTHER"
  reasonDescription := "Parcel lost"
  invoiceId := none
  linkedBookingRef := none
  idempotencyKey := none

/-- A gateway that refuses everything. -/
def refusingGateway : Gateway := fun txn _ => .ok ⟨false, "refund", txn, none, none⟩

/-- A payment of 100.00, two full refunds of it, both completed. -/
def doubleRefund : List (Day × BillingOp) :=
  [(0, .payment (.recordPayment paymentOf100)),
   (1, .refund (.create refusingGateway (bankRefund 100 .fullRefund))),
   (1, .refund (.create refusingGateway (bankRefund 100 .fullRefund))),
   (2, .refund (.markComplete 1 1 none)),
   (2, .refund (.markComplete 1 2 none))]

/-- The payment is refunded 200.00 in all. -/
theorem payment_refunded_twice :
    let db := Runs.run BillingOp.step (Db.initial .empty) doubleRefund
    (db.payments.find? 1).map (·.amount) = some 10000 ∧
    db.totalNonReversedRefundedForPayment 1 = 20000 ∧
    ¬ ∀ p ∈ db.payments.rows, db.totalNonReversedRefundedForPayment p.id ≤ p.amount := by
  decide +kernel

/-- A run that meets the condition: 40.00 are refunded and completed, then the rest. -/
theorem refunds_conserved_in_two_parts :
    let requests : List (Day × BillingOp) :=
      [(0, .payment (.recordPayment paymentOf100)),
       (1, .refund (.create refusingGateway (bankRefund 40 .partialRefund))),
       (2, .refund (.markComplete 1 1 none)),
       (3, .refund (.create refusingGateway (bankRefund 60 .fullRefund))),
       (4, .refund (.markComplete 1 2 none))]
    let db := Runs.run BillingOp.step (Db.initial .empty) requests
    db.totalNonReversedRefundedForPayment 1 = 10000 ∧
    ∀ p ∈ db.payments.rows, db.totalNonReversedRefundedForPayment p.id ≤ p.amount :=
  ⟨by decide +kernel, refunds_conserved .empty _ (by decide +kernel) _ []
    (List.append_nil _).symm⟩

end SwCouriers
