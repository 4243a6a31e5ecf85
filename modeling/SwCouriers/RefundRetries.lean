import SwCouriers.AllocationOwners

/-!
# Refund Retries

A card refund asks the gateway to reverse a transaction. `create_refund` names the transaction
of the payment, `retry_refund` the one that the last attempt stored on the refund, and a failed
attempt stores what `refund_or_void_transaction` answers as its transaction. Almost every
failure answers the transaction it was asked about. One does not: a transaction that has been
refunded before answers the refund that the gateway made then, and the next retry tries to
reverse that refund instead of the charge.

What a call asks the gateway about is seen by running it against a gateway that answers nothing
but the question.

## Main results

* `refundOrVoidTransaction_failed`: what a failed reversal answers as its transaction.
* `retryRefund_asks_iff`: when a retry reaches the gateway, and about which transaction.
* `hitsOriginal_step_iff`: what one request does to the next retry.
* `retries_hit_original_iff`: retries ask about the payment's own transaction in exactly those
  runs where no attempt finds another refund on it.
-/

namespace SwCouriers

open Checked

/-! ### The gateway -/

/-- A transaction at the gateway, as far as a reversal reads it. An attribute that is missing
is `none`, and so is an amount that is not a number. -/
structure BraintreeTransaction where
  status : Option String
  type : Option String
  refundedTransactionId : Option String
  refundId : Option String
  amount : Option ℚ

/-- The result of a write at the gateway, with the id of its transaction. -/
structure BraintreeResult where
  isSuccess : Bool
  transactionId : Option String
  message : Option String

/-- The payload of a refund. -/
structure RefundPayload where
  orderId : String
  amount : Option String

/-- The gateway's client. A refund whose payload it does not take is `none`. -/
structure Braintree where
  find : String → Except ServiceError BraintreeTransaction
  void : String → Except ServiceError BraintreeResult
  refundPayload : String → RefundPayload → Except ServiceError (Option BraintreeResult)
  refund : String → Option String → Except ServiceError BraintreeResult

/-- What is not under the control of the service: `str.lower`, and how an identifier is
written. -/
structure ReversalEnv where
  lower : String → String
  idText : Id → String

/-- `str(value or "").strip().lower()`. -/
def ReversalEnv.word (env : ReversalEnv) (value : Option String) : String :=
  env.lower (strip (value.getD ""))

/-- `getattr(tx, "refund_id")`, if there is one. -/
def BraintreeTransaction.refund? (tx : BraintreeTransaction) : Option String :=
  stripOrNone tx.refundId

/-- The failure of a reversal that wrote nothing at the gateway. -/
def notReversed (action rawId transactionId : String) (message : Option String) :
    TransactionReversalResult :=
  ⟨false, action, rawId, some transactionId, message⟩

/-- The branch of `refund_or_void_transaction` for a transaction that is not settled yet. -/
def voidTransaction (braintree : Braintree) (rawId : String) (amount : Option ℤ)
    (tx : BraintreeTransaction) : Except ServiceError TransactionReversalResult :=
  let txAmount := tx.amount.map Decimal.quantizeHalfEven
  if amount.isSome = true ∧ txAmount.isSome = true ∧ amount ≠ txAmount then
    .ok (notReversed "void" rawId rawId (some ("Partial void is not supported by Braintree. "
      ++ "Use full amount for void or wait for settlement and refund partial.")))
  else do
    let result ← braintree.void rawId
    if result.isSuccess then return ⟨true, "void", rawId, some rawId, none⟩
    else return notReversed "void" rawId rawId (stripOrNone result.message)

/-- `gateway.transaction.refund`, with a payload when there is an order id and the client takes
one. -/
def Braintree.requestRefund (braintree : Braintree) (rawId : String)
    (refundAmount orderId : Option String) : Except ServiceError BraintreeResult :=
  if orderId.getD "" = "" then braintree.refund rawId refundAmount
  else do
    match ← braintree.refundPayload rawId
        ⟨truncate 255 (strip (orderId.getD "")), refundAmount⟩ with
    | some result => return result
    | none => braintree.refund rawId refundAmount

/-- The branch for a settled transaction. -/
def refundTransaction (braintree : Braintree) (rawId : String) (amount : Option ℤ)
    (orderId : Option String) : Except ServiceError TransactionReversalResult := do
  let result ← braintree.requestRefund rawId (amount.map Decimal.render) orderId
  if result.isSuccess then
    return ⟨true, "refund", rawId, stripOrNone result.transactionId, none⟩
  else return ⟨false, "refund", rawId, none, stripOrNone result.message⟩

/-- Why nothing can be reversed on the transaction, going by what it is. -/
def BraintreeTransaction.refusal? (env : ReversalEnv) (tx : BraintreeTransaction) :
    Option String :=
  if env.word tx.status = "voided" then
    some "Transaction is already voided and cannot be reversed again."
  else if env.word tx.status = "settlement_declined" then
    some "Transaction settlement was declined; nothing to refund or void."
  else if env.word tx.type = "credit" then
    some "Transaction is already a credit/refund transaction."
  else if tx.refundedTransactionId.getD "" ≠ "" then
    some "Transaction is already a refund record and cannot be reversed."
  else none

/-- `refund_or_void_transaction`. -/
def refundOrVoidTransaction (env : ReversalEnv) (braintree : Braintree)
    (transactionId : String) (amount : Option ℤ) (orderId : Option String) :
    Except ServiceError TransactionReversalResult := do
  let rawId := strip transactionId
  raiseIf (rawId = "") (invalid "transaction_id is required")
  let tx ← braintree.find rawId
  match tx.refusal? env, tx.refund? with
  | some message, _ => return notReversed "none" rawId rawId (some message)
  | none, some refundId =>
      return notReversed "none" rawId refundId (some "Transaction has already been refunded.")
  | none, none =>
      let status := env.word tx.status
      if status ∈ ["authorized", "submitted_for_settlement", "settlement_pending"] then
        voidTransaction braintree rawId amount tx
      else if status ∉ ["settling", "settled"] then
        return notReversed "none" rawId rawId (some ("Transaction status '"
          ++ (if status = "" then "unknown" else status) ++ "' is not refundable yet."))
      else refundTransaction braintree rawId amount orderId

/-- The transaction can be looked up, is none that is refused for what it is, and carries the
id of a refund that is not its own. -/
def Braintree.CarriesOther (env : ReversalEnv) (braintree : Braintree) (rawId : String) : Prop :=
  ∃ tx refundId, braintree.find rawId = .ok tx ∧ tx.refusal? env = none ∧
    tx.refund? = some refundId ∧ refundId ≠ rawId

theorem stripOrNone_some {text : String} (hstrip : strip text = text) (hne : text ≠ "") :
    stripOrNone (some text) = some text := by
  simp [stripOrNone, hstrip, hne]

variable {braintree : Braintree} {rawId : String} {amount : Option ℤ}
  {result : TransactionReversalResult} {env : ReversalEnv} {db : Db} {refundId paymentId : Id}
  {refund : Refund}

/-- A void that fails answers the transaction. -/
theorem voidTransaction_failed {tx : BraintreeTransaction}
    (h : voidTransaction braintree rawId amount tx = .ok result) (hf : result.success = false) :
    result.transactionId = some rawId := by
  unfold voidTransaction at h
  dsimp only at h
  split at h
  · obtain rfl := Except.ok.inj h
    rfl
  · obtain ⟨written, -, h⟩ := bind_eq_ok.mp h
    split at h
    · obtain rfl := pure_eq_ok.mp h
      exact absurd hf (by simp)
    · obtain rfl := pure_eq_ok.mp h
      rfl

/-- A refund that fails answers no transaction. -/
theorem refundTransaction_failed {orderId : Option String}
    (h : refundTransaction braintree rawId amount orderId = .ok result)
    (hf : result.success = false) : result.transactionId = none := by
  obtain ⟨written, -, h⟩ := bind_eq_ok.mp h
  split at h
  · obtain rfl := pure_eq_ok.mp h
    exact absurd hf (by simp)
  · obtain rfl := pure_eq_ok.mp h
    rfl

/-- **What a failed reversal answers as its transaction**: the one it was asked about or none,
unless that one carries another refund, whose id it then answers. -/
theorem refundOrVoidTransaction_failed {orderId : Option String} (hraw : strip rawId = rawId)
    (hne : rawId ≠ "") (h : refundOrVoidTransaction env braintree rawId amount orderId = .ok result)
    (hf : result.success = false) :
    (stripOrNone result.transactionId).getD rawId = rawId ↔
      ¬ braintree.CarriesOther env rawId := by
  replace h := ok_of_check h
  obtain ⟨tx, hfind, h⟩ := bind_eq_ok.mp h
  rw [hraw] at hfind
  dsimp only at h
  rw [hraw] at h
  have hcarries : braintree.CarriesOther env rawId ↔
      tx.refusal? env = none ∧ ∃ refundId, tx.refund? = some refundId ∧ refundId ≠ rawId := by
    constructor
    · rintro ⟨tx', refundId, hfind', hrefusal, hrefund, hother⟩
      obtain rfl := Except.ok.inj (hfind.symm.trans hfind')
      exact ⟨hrefusal, refundId, hrefund, hother⟩
    · rintro ⟨hrefusal, refundId, hrefund, hother⟩
      exact ⟨tx, refundId, hfind, hrefusal, hrefund, hother⟩
  rw [hcarries]
  -- All branches but the second answer the transaction itself or none.
  have hown : result.transactionId = some rawId ∨ result.transactionId = none →
      (stripOrNone result.transactionId).getD rawId = rawId := by
    rintro (hanswer | hanswer)
    · rw [hanswer, stripOrNone_some hraw hne, Option.getD_some]
    · rw [hanswer]
      rfl
  split at h
  · rename_i message hrefusal
    obtain rfl := pure_eq_ok.mp h
    refine iff_of_true (hown (.inl rfl)) fun hnone => ?_
    rw [hrefusal] at hnone
    exact Option.some_ne_none _ hnone.1
  · rename_i refundId hrefusal hrefund
    obtain rfl := pure_eq_ok.mp h
    obtain ⟨hstrip, hne'⟩ := strip_of_stripOrNone hrefund
    rw [hrefusal, hrefund]
    simp [notReversed, stripOrNone_some hstrip hne']
  · rename_i hrefusal hrefund
    refine iff_of_true (hown ?_) fun hsome => ?_
    · split at h
      · exact .inl (voidTransaction_failed h hf)
      split at h
      · obtain rfl := pure_eq_ok.mp h
        exact .inl rfl
      · exact .inr (refundTransaction_failed h hf)
    · obtain ⟨-, refundId, hrefund', -⟩ := hsome
      rw [hrefund] at hrefund'
      exact Option.some_ne_none _ hrefund'.symm

/-- A transaction that carries another refund is answered for as a failure. -/
theorem refundOrVoidTransaction_of_carries (hraw : strip rawId = rawId) (hne : rawId ≠ "")
    (amount : Option ℤ) (orderId : Option String) (h : braintree.CarriesOther env rawId) :
    ∃ result, refundOrVoidTransaction env braintree rawId amount orderId = .ok result ∧
      result.success = false := by
  obtain ⟨tx, refundId, hfind, hrefusal, hrefund, -⟩ := h
  refine ⟨notReversed "none" rawId refundId (some "Transaction has already been refunded."), ?_,
    rfl⟩
  unfold refundOrVoidTransaction
  dsimp only
  rw [hraw, (raiseIf_eq_ok (w := ⟨⟩)).mpr hne, ok_bind, hfind, ok_bind, hrefusal, hrefund]
  rfl

/-- Either way: what a reversal stores for the next attempt if it failed is the transaction it
was asked about, exactly when that one carries no other refund. -/
theorem refundOrVoidTransaction_stores {orderId : Option String} (hraw : strip rawId = rawId)
    (hne : rawId ≠ "")
    (h : refundOrVoidTransaction env braintree rawId amount orderId = .ok result) :
    (result.success = false → (stripOrNone result.transactionId).getD rawId = rawId) ↔
      ¬ braintree.CarriesOther env rawId := by
  cases hsuccess : result.success with
  | false =>
      exact (forall_prop_of_true rfl).trans (refundOrVoidTransaction_failed hraw hne h hsuccess)
  | true =>
      refine iff_of_true (fun hfalse => absurd hfalse (by decide)) fun hcarries => ?_
      obtain ⟨failure, hfailure, hfalse⟩ :=
        refundOrVoidTransaction_of_carries hraw hne amount orderId hcarries
      obtain rfl := Except.ok.inj (h.symm.trans hfailure)
      rw [hsuccess] at hfalse
      exact absurd hfalse (by decide)

/-! ### Requests -/

/-- A gateway that answers nothing but the question. -/
def probe : Gateway := fun transactionId _ => .error (.uncaught transactionId)

/-- The transaction that a call asks the gateway about, if it gets that far. -/
def askedAbout (call : Gateway → Except ServiceError Db) : Option String :=
  match call probe with
  | .error (.uncaught transactionId) => some transactionId
  | _ => none

theorem askedAbout_eq_some {call : Gateway → Except ServiceError Db} {transactionId : String} :
    askedAbout call = some transactionId ↔ call probe = .error (.uncaught transactionId) := by
  unfold askedAbout
  split
  · rename_i t ht
    rw [ht, Option.some_inj, Except.error.injEq, ServiceError.uncaught.injEq]
  · rename_i hne
    exact iff_of_false (Option.some_ne_none _).symm (hne transactionId)

/-- The requests that reach the gateway, each with the gateway as it is then. -/
inductive RefundRequest where
  | create (braintree : Braintree) (input : RefundInput)
  | retry (braintree : Braintree) (organizationId refundId : Id)
      (braintreeStatus failureCode failureMessage : Option String)

/-- The gateway as the refund's calls use it. -/
def ReversalEnv.gateway (env : ReversalEnv) (braintree : Braintree) (refundId : Id) : Gateway :=
  fun transactionId amount => refundOrVoidTransaction env braintree transactionId (some amount)
    (some (env.idText refundId))

def RefundRequest.toOp (env : ReversalEnv) (db : Db) : RefundRequest → RefundOp
  | .create braintree input => .create (env.gateway braintree db.refunds.fresh) input
  | .retry braintree organizationId refundId braintreeStatus failureCode failureMessage =>
      .retry (env.gateway braintree refundId) organizationId refundId braintreeStatus failureCode
        failureMessage

/-- Serve a dated request; a call that raises is rolled back. -/
def RefundRequest.step (env : ReversalEnv) (db : Db) (request : Day × RefundRequest) : Db :=
  settle db ((request.2.toOp env db).exec db request.1)

/-- The payment's own transaction, as `create_refund` reads it. -/
def Db.providerTransaction (db : Db) (paymentId : Id) : String :=
  strip (((db.payments.find? paymentId).bind (·.providerTxnId)).getD "")

/-- Whatever retry of the refund comes next asks about the payment's own transaction. -/
def HitsOriginal (db : Db) (refundId paymentId : Id) : Prop :=
  ∀ today organizationId braintreeStatus failureCode failureMessage transactionId,
    askedAbout (fun gateway => retryRefund gateway db today organizationId refundId
      braintreeStatus failureCode failureMessage) = some transactionId →
    transactionId = db.providerTransaction paymentId

/-- The request is a retry of the failed refund, at a time when the payment's own transaction
carries another refund. -/
def RefundRequest.FindsOther (env : ReversalEnv) (db : Db) (refundId paymentId : Id) :
    RefundRequest → Prop
  | .create _ _ => False
  | .retry braintree organizationId id _ _ _ => id = refundId ∧
      braintree.CarriesOther env (db.providerTransaction paymentId) ∧
      ∃ refund, db.refunds.find? refundId = some refund ∧
        refund.organizationId = organizationId ∧ refund.status = .failed

/-- The row of a card refund that was retried with its own transaction. -/
def Refund.afterRetry (refund : Refund) (today : Day) (failureCode failureMessage : Option String)
    (reversal : TransactionReversalResult) : Refund :=
  (refund.retryBase .processing (some "RETRYING") failureCode failureMessage).afterReversal today
    (strip (refund.braintreeTransactionId.getD "")) "Braintree refund/void failed on retry"
    reversal

/-- A failed card refund that has a transaction is retried with it. -/
theorem retryRefund_eq (hfound : db.refunds.find? refundId = some refund)
    (hfailed : refund.status = .failed) (hcard : refund.refundMethod = .cardRefund)
    (hsource : strip (refund.braintreeTransactionId.getD "") ≠ "") (gateway : Gateway) (today : Day)
    (braintreeStatus failureCode failureMessage : Option String) :
    retryRefund gateway db today refund.organizationId refundId braintreeStatus failureCode
        failureMessage
      = (gateway (strip (refund.braintreeTransactionId.getD "")) refund.requestedAmount).map
        fun reversal => { db with
          refunds := db.refunds.modify refund.id (fun r =>
            { refund.afterRetry today failureCode failureMessage reversal with id := r.id })
            fun _ => rfl } := by
  have hget : getByIdOr404 db.refunds refundId (inRefundOrganization refund.organizationId)
      = .ok refund := getByIdOr404_eq_ok.mpr ⟨hfound, decide_eq_true rfl⟩
  have hid : refund.id = refundId := (Table.find?_eq_some_iff.mp hfound).2
  unfold retryRefund Refund.retried
  rw [hget, ok_bind, (raiseIf_eq_ok (w := ⟨⟩)).mpr (not_not.mpr hfailed), ok_bind,
    if_neg (not_not.mpr hcard)]
  dsimp only
  rw [(raiseIf_eq_ok (w := ⟨⟩)).mpr hsource, ok_bind]
  cases gateway (strip (refund.braintreeTransactionId.getD "")) refund.requestedAmount with
  | error e => rfl
  | ok reversal =>
      exact bind_eq_ok.mpr ⟨_, rfl, bind_eq_ok.mpr ⟨_, updateById_eq_ok.mpr
        ⟨refund, hid ▸ hfound, decide_eq_true rfl, rfl, rfl⟩, rfl⟩⟩

/-- **When a retry reaches the gateway**, and about which transaction. -/
theorem retryRefund_asks_iff {today : Day} {organizationId : Id}
    {braintreeStatus failureCode failureMessage : Option String} {transactionId : String} :
    askedAbout (fun gateway => retryRefund gateway db today organizationId refundId
      braintreeStatus failureCode failureMessage) = some transactionId ↔
    ∃ refund, db.refunds.find? refundId = some refund ∧
      refund.organizationId = organizationId ∧ refund.status = .failed ∧
      refund.refundMethod = .cardRefund ∧
      strip (refund.braintreeTransactionId.getD "") = transactionId ∧ transactionId ≠ "" := by
  rw [askedAbout_eq_some]
  constructor
  · intro h
    rcases bind_eq_error.mp h with h | ⟨refund, hget, h⟩
    · exact absurd (orRaise_eq_error.mp h).2 (by simp)
    obtain ⟨hfound, hscope⟩ := getByIdOr404_eq_ok.mp hget
    rcases bind_eq_error.mp h with h | ⟨⟨⟩, hfailed, h⟩
    · exact absurd (raiseIf_eq_error.mp h).2 (by simp [invalid])
    rcases bind_eq_error.mp h with h | ⟨updated, -, h⟩
    · unfold Refund.retried at h
      split at h
      · exact absurd h (by simp)
      rename_i hcard
      rcases bind_eq_error.mp h with h | ⟨⟨⟩, hsource, h⟩
      · exact absurd (raiseIf_eq_error.mp h).2 (by simp [invalid])
      rcases bind_eq_error.mp h with h | ⟨reversal, hprobe, -⟩
      · obtain rfl := ServiceError.uncaught.inj (Except.error.inj h)
        exact ⟨refund, hfound, of_decide_eq_true hscope, not_not.mp (raiseIf_eq_ok.mp hfailed),
          not_not.mp hcard, rfl, raiseIf_eq_ok.mp hsource⟩
      · exact absurd hprobe (by simp [probe])
    · -- What raises after the gateway is the update.
      rcases bind_eq_error.mp h with h | ⟨refunds, -, h⟩
      · unfold updateById at h
        rcases bind_eq_error.mp h with h | ⟨record, -, h⟩
        · exact absurd (orRaise_eq_error.mp h).2 (by simp)
        rcases bind_eq_error.mp h with h | ⟨⟨⟩, -, h⟩
        · exact absurd (raiseIf_eq_error.mp h).2 (by simp [modifiedElsewhere])
        · exact absurd h (by simp [pure, Except.pure])
      · exact absurd h (by simp [pure, Except.pure])
  · rintro ⟨refund, hfound, rfl, hfailed, hcard, rfl, hne⟩
    exact retryRefund_eq hfound hfailed hcard hne probe today braintreeStatus failureCode
      failureMessage

/-! ### One refund -/

/-- The row is a card refund of the payment, and a failed one names a transaction. -/
structure IsCardRefund (paymentId : Id) (refund : Refund) : Prop where
  card : refund.refundMethod = .cardRefund
  owner : refund.billingPaymentId = paymentId
  named : refund.status = .failed → strip (refund.braintreeTransactionId.getD "") ≠ ""

/-- The refund is a card refund of the payment, which names a transaction. -/
structure Tracks (db : Db) (refundId paymentId : Id) : Prop where
  refund : ∃ refund, db.refunds.find? refundId = some refund ∧ IsCardRefund paymentId refund
  source : db.providerTransaction paymentId ≠ ""

/-- The next retry hits the original when the refund, if it failed, has stored it. -/
theorem hitsOriginal_iff (hfound : db.refunds.find? refundId = some refund)
    (h : IsCardRefund paymentId refund) :
    HitsOriginal db refundId paymentId ↔ (refund.status = .failed →
      strip (refund.braintreeTransactionId.getD "") = db.providerTransaction paymentId) := by
  constructor
  · intro hits hfailed
    exact hits 0 refund.organizationId none none none _ (retryRefund_asks_iff.mpr
      ⟨refund, hfound, rfl, hfailed, h.card, rfl, h.named hfailed⟩)
  · intro hstored today organizationId braintreeStatus failureCode failureMessage transactionId
      hasked
    obtain ⟨refund', hfound', -, hfailed, -, rfl, -⟩ := retryRefund_asks_iff.mp hasked
    obtain rfl := Option.some.inj (hfound.symm.trans hfound')
    exact hstored hfailed

/-- What a failed reversal leaves for the next retry to read. -/
theorem strip_afterReversal (refund : Refund) (today : Day) (sourceTxnId failedText : String)
    (reversal : TransactionReversalResult) (hsource : strip sourceTxnId = sourceTxnId) :
    strip ((refund.afterReversal today sourceTxnId failedText
        reversal).braintreeTransactionId.getD "")
      = (stripOrNone reversal.transactionId).getD sourceTxnId := by
  have hstored : (refund.afterReversal today sourceTxnId failedText
      reversal).braintreeTransactionId
        = some ((stripOrNone reversal.transactionId).getD sourceTxnId) := by
    unfold Refund.afterReversal
    dsimp only
    split_ifs <;> rfl
  rw [hstored, Option.getD_some]
  cases hanswer : stripOrNone reversal.transactionId with
  | none => exact hsource
  | some text => exact (strip_of_stripOrNone hanswer).1

theorem status_afterReversal (refund : Refund) (today : Day) (sourceTxnId failedText : String)
    (reversal : TransactionReversalResult) :
    (refund.afterReversal today sourceTxnId failedText reversal).status = .failed ↔
      reversal.success = false := by
  unfold Refund.afterReversal
  dsimp only
  split_ifs with hsuccess <;> simp [hsuccess]

theorem afterReversal_refundMethod (refund : Refund) (today : Day)
    (sourceTxnId failedText : String) (reversal : TransactionReversalResult) :
    (refund.afterReversal today sourceTxnId failedText reversal).refundMethod
      = refund.refundMethod := by
  unfold Refund.afterReversal
  dsimp only
  split_ifs <;> rfl

/-- A retry of the failed refund, and the gateway's answer to it. -/
structure Retries (env : ReversalEnv) (refundId : Id) (refund : Refund)
    (reversal : TransactionReversalResult) (request : RefundRequest) : Prop where
  failed : refund.status = .failed
  answered : ∃ braintree braintreeStatus failureCode failureMessage,
    request = .retry braintree refund.organizationId refundId braintreeStatus failureCode
      failureMessage ∧
    env.gateway braintree refundId (strip (refund.braintreeTransactionId.getD ""))
      refund.requestedAmount = .ok reversal

/-- A creation leaves the refunds that are there. -/
theorem find?_afterCreate {gateway : Gateway} (hfound : db.refunds.find? refundId = some refund)
    (today : Day) (input : RefundInput) :
    (settle db (createRefund gateway db today input)).refunds.find? refundId = some refund := by
  rcases settle_eq db (createRefund gateway db today input) with hok | heq
  · rcases createRefund_ok hok with ⟨-, heq⟩ | ⟨_, created, -, -, -, hfresh, -, -, -, -, -, heq⟩
    · rw [heq]
      exact hfound
    · -- The new refund has an id of its own.
      have hnew : created.id ∉ db.refunds.rows.map Refund.id := hfresh ▸ db.refunds.fresh_notMem
      have hne : ¬ created.id = refundId := by
        rintro rfl
        exact hnew (List.mem_map.mpr ⟨refund, Table.find?_eq_some_iff.mp hfound⟩)
      rw [heq]
      exact (Table.find?_insert hnew refundId).trans ((if_neg hne).trans hfound)
  · rw [heq]
    exact hfound

/-- So does a retry that is refused, or is one of another refund. -/
theorem find?_afterOtherRetry {gateway : Gateway} (hfound : db.refunds.find? refundId = some refund)
    {organizationId id : Id}
    (hother : ¬ (id = refundId ∧ refund.organizationId = organizationId ∧ refund.status = .failed))
    (today : Day) (braintreeStatus failureCode failureMessage : Option String) :
    (settle db (retryRefund gateway db today organizationId id braintreeStatus failureCode
      failureMessage)).refunds.find? refundId = some refund := by
  rcases settle_eq db (retryRefund gateway db today organizationId id braintreeStatus failureCode
    failureMessage) with hok | heq
  · obtain ⟨row, hget, hok⟩ := bind_eq_ok.mp hok
    obtain ⟨hfailed, hok⟩ := raiseIf_bind_eq_ok.mp hok
    obtain ⟨updated, -, hok⟩ := bind_eq_ok.mp hok
    obtain ⟨refunds, hupd, hok⟩ := bind_eq_ok.mp hok
    obtain ⟨-, -, -, -, rfl⟩ := updateById_eq_ok.mp hupd
    obtain ⟨hrow, hscope⟩ := getByIdOr404_eq_ok.mp hget
    have hid : row.id = id := (Table.find?_eq_some_iff.mp hrow).2
    have hne : refundId ≠ row.id := by
      rintro rfl
      rw [← hid, hfound] at hrow
      obtain rfl := Option.some.inj hrow
      exact hother ⟨hid.symm, of_decide_eq_true hscope, not_not.mp hfailed⟩
    rw [← pure_eq_ok.mp hok]
    refine (Table.find?_modify_of_ne _ _ ?_ hne).trans hfound
    exact fun _ => rfl
  · rw [heq]
    exact hfound

/-- A retry that the gateway answers writes the answer on the refund. -/
theorem find?_afterRetry {gateway : Gateway} (hfound : db.refunds.find? refundId = some refund)
    (h : IsCardRefund paymentId refund) (hfailed : refund.status = .failed)
    {reversal : TransactionReversalResult}
    (hanswer : gateway (strip (refund.braintreeTransactionId.getD "")) refund.requestedAmount
      = .ok reversal) (today : Day) (braintreeStatus failureCode failureMessage : Option String) :
    (settle db (retryRefund gateway db today refund.organizationId refundId braintreeStatus
      failureCode failureMessage)).refunds.find? refundId
      = some { refund.afterRetry today failureCode failureMessage reversal with
          id := refund.id } := by
  have hid : refund.id = refundId := (Table.find?_eq_some_iff.mp hfound).2
  have hself := Table.find?_modify_self db.refunds refund.id (fun r : Refund =>
    { refund.afterRetry today failureCode failureMessage reversal with id := r.id }) fun _ => rfl
  rw [retryRefund_eq hfound hfailed h.card (h.named hfailed), hanswer]
  rw [hid, hfound] at hself
  exact hid ▸ hself

/-- **What a request does to a card refund**: nothing, or it is a retry whose answer is
written on it. -/
theorem step_refund_cases (hfound : db.refunds.find? refundId = some refund)
    (h : IsCardRefund paymentId refund) (request : Day × RefundRequest) :
    ((∀ reversal, ¬ Retries env refundId refund reversal request.2) ∧
      (RefundRequest.step env db request).refunds.find? refundId = some refund) ∨
    ∃ reversal refund', Retries env refundId refund reversal request.2 ∧
      (RefundRequest.step env db request).refunds.find? refundId = some refund' ∧
      refund'.refundMethod = .cardRefund ∧ refund'.billingPaymentId = paymentId ∧
      (refund'.status = .failed ↔ reversal.success = false) ∧
      strip (refund'.braintreeTransactionId.getD "")
        = (stripOrNone reversal.transactionId).getD
          (strip (refund.braintreeTransactionId.getD "")) := by
  obtain ⟨today, request⟩ := request
  cases request with
  | create braintree input =>
      refine .inl ⟨fun reversal hretries => ?_, find?_afterCreate hfound today input⟩
      obtain ⟨_, _, _, _, heq, -⟩ := hretries.answered
      exact absurd heq (by simp)
  | retry braintree organizationId id braintreeStatus failureCode failureMessage =>
      by_cases hreach : id = refundId ∧ refund.organizationId = organizationId ∧
        refund.status = .failed
      · obtain ⟨rfl, rfl, hfailed⟩ := hreach
        cases hanswer : env.gateway braintree id
            (strip (refund.braintreeTransactionId.getD "")) refund.requestedAmount with
        | error e =>
            refine .inl ⟨fun reversal hretries => ?_, ?_⟩
            · obtain ⟨_, _, _, _, heq, hok⟩ := hretries.answered
              obtain ⟨rfl, -⟩ := RefundRequest.retry.inj heq
              rw [hanswer] at hok
              exact absurd hok (by simp)
            · show (settle db (retryRefund _ db today _ id _ _ _)).refunds.find? id = some refund
              rw [retryRefund_eq hfound hfailed h.card (h.named hfailed), hanswer]
              exact hfound
        | ok reversal =>
            have hwritten := find?_afterRetry hfound h hfailed hanswer today braintreeStatus
              failureCode failureMessage
            have howner : (refund.afterRetry today failureCode failureMessage
                reversal).billingPaymentId = refund.billingPaymentId :=
              (afterReversal_spec _ today _ _ reversal).2.1
            exact .inr ⟨reversal, _, ⟨hfailed, braintree, braintreeStatus, failureCode,
              failureMessage, rfl, hanswer⟩, hwritten,
              (afterReversal_refundMethod _ today _ _ reversal).trans h.card,
              howner.trans h.owner, status_afterReversal _ _ _ _ reversal,
              strip_afterReversal _ _ _ _ reversal (strip_strip _)⟩
      · refine .inl ⟨fun reversal hretries => ?_, find?_afterOtherRetry hfound hreach today
          braintreeStatus failureCode failureMessage⟩
        obtain ⟨_, _, _, _, heq, -⟩ := hretries.answered
        obtain ⟨-, rfl, rfl, -⟩ := RefundRequest.retry.inj heq
        exact hreach ⟨rfl, rfl, hretries.failed⟩

theorem payments_step (env : ReversalEnv) (db : Db) (request : Day × RefundRequest) :
    (RefundRequest.step env db request).payments = db.payments := by
  rcases settle_eq db ((request.2.toOp env db).exec db request.1) with hok | heq
  · exact (refundOp_frame hok).2.1
  · rw [RefundRequest.step, heq]

theorem providerTransaction_step (env : ReversalEnv) (db : Db) (request : Day × RefundRequest)
    (paymentId : Id) :
    (RefundRequest.step env db request).providerTransaction paymentId
      = db.providerTransaction paymentId := by
  rw [Db.providerTransaction, payments_step, Db.providerTransaction]

theorem stripOrNone_getD_ne {value : Option String} {text : String} (hne : text ≠ "") :
    (stripOrNone value).getD text ≠ "" := by
  cases hvalue : stripOrNone value with
  | none => exact hne
  | some _ => exact (strip_of_stripOrNone hvalue).2

/-- A card refund stays one, whatever is served. -/
theorem tracks_step (h : Tracks db refundId paymentId) (request : Day × RefundRequest) :
    Tracks (RefundRequest.step env db request) refundId paymentId := by
  obtain ⟨⟨refund, hfound, hcard⟩, hsource⟩ := h
  refine ⟨?_, providerTransaction_step env db request paymentId ▸ hsource⟩
  rcases step_refund_cases hfound hcard request with ⟨-, hsame⟩ |
    ⟨reversal, refund', hretries, hwritten, hmethod, howner, -, hstored⟩
  · exact ⟨refund, hsame, hcard⟩
  · exact ⟨refund', hwritten, hmethod, howner,
      fun _ => hstored ▸ stripOrNone_getD_ne (hcard.named hretries.failed)⟩

theorem strip_providerTransaction (db : Db) (paymentId : Id) :
    strip (db.providerTransaction paymentId) = db.providerTransaction paymentId :=
  strip_strip _

/-- **What one request does to the next retry**: it goes on hitting the payment's own
transaction exactly when the request finds no other refund on it. -/
theorem hitsOriginal_step_iff (h : Tracks db refundId paymentId)
    (hits : HitsOriginal db refundId paymentId) (request : Day × RefundRequest) :
    HitsOriginal (RefundRequest.step env db request) refundId paymentId ↔
      ¬ request.2.FindsOther env db refundId paymentId := by
  obtain ⟨⟨refund, hfound, hcard⟩, hsource⟩ := h
  have hstored := (hitsOriginal_iff hfound hcard).mp hits
  have hown := strip_providerTransaction db paymentId
  rcases step_refund_cases hfound hcard request with ⟨hnone, hsame⟩ |
    ⟨reversal, refund', hretries, hwritten, hmethod, howner, hstatus, hstored'⟩
  · rw [hitsOriginal_iff hsame hcard, providerTransaction_step]
    refine iff_of_true hstored fun hfinds => ?_
    -- The gateway would have answered.
    cases hrequest : request.2 with
    | create braintree input =>
        rw [hrequest] at hfinds
        exact hfinds
    | retry braintree organizationId id braintreeStatus failureCode failureMessage =>
        rw [hrequest] at hfinds hnone
        obtain ⟨rfl, hcarries, refund', hfound', rfl, hfailed⟩ := hfinds
        obtain rfl := Option.some.inj (hfound.symm.trans hfound')
        obtain ⟨reversal, hanswer, -⟩ := refundOrVoidTransaction_of_carries hown hsource
          (some refund.requestedAmount) (some (env.idText id)) hcarries
        rw [← hstored hfailed] at hanswer
        exact hnone reversal ⟨hfailed, braintree, braintreeStatus, failureCode, failureMessage,
          rfl, hanswer⟩
  · obtain ⟨hfailed, braintree, braintreeStatus, failureCode, failureMessage, hrequest,
      hanswer⟩ := hretries
    have hsame := hstored hfailed
    have hcard' : IsCardRefund paymentId refund' := ⟨hmethod, howner,
      fun _ => hstored' ▸ stripOrNone_getD_ne (hcard.named hfailed)⟩
    have hfinds : request.2.FindsOther env db refundId paymentId ↔
        braintree.CarriesOther env (db.providerTransaction paymentId) := by
      rw [hrequest]
      exact ⟨fun hfinds => hfinds.2.1, fun hcarries =>
        ⟨rfl, hcarries, refund, hfound, rfl, hfailed⟩⟩
    rw [hsame] at hanswer hstored'
    rw [hitsOriginal_iff hwritten hcard', providerTransaction_step, hstatus, hstored', hfinds]
    exact refundOrVoidTransaction_stores hown hsource hanswer

/-! ### Creating a card refund -/

/-- What `create_refund` has done when it opened a card refund: it has asked the gateway about
the payment's own transaction and stored the answer. -/
theorem createCardRefund_ok {gateway : Gateway} {db' : Db} {today : Day} {input : RefundInput}
    (hcard : input.refundMethod = .cardRefund)
    (hkey : (db.refundByKey input.organizationId input.idempotencyKey).isSome = false)
    (h : createRefund gateway db today input = .ok db') :
    ∃ (created : Refund) (reversal : TransactionReversalResult),
      created.id = db.refunds.fresh ∧
      created.refundMethod = .cardRefund ∧ created.billingPaymentId = input.billingPaymentId ∧
      db.providerTransaction input.billingPaymentId ≠ "" ∧
      askedAbout (fun gateway => createRefund gateway db today input)
        = some (db.providerTransaction input.billingPaymentId) ∧
      gateway (db.providerTransaction input.billingPaymentId) created.requestedAmount
        = .ok reversal ∧
      db' = { db with
        refunds := db.refunds.insert (created.afterReversal today
          (db.providerTransaction input.billingPaymentId) "Braintree refund/void failed"
          reversal) } := by
  obtain ⟨⟨⟩, hpos, h⟩ := bind_eq_ok.mp h
  rw [if_neg (by rw [hkey]; decide)] at h
  obtain ⟨payment, hpay, h⟩ := bind_eq_ok.mp h
  obtain ⟨⟨⟩, hinvoice, h⟩ := bind_eq_ok.mp h
  obtain ⟨⟨⟩, hremaining, h⟩ := bind_eq_ok.mp h
  obtain ⟨⟨⟩, hfull, h⟩ := bind_eq_ok.mp h
  obtain ⟨⟨⟩, hpart, h⟩ := bind_eq_ok.mp h
  obtain ⟨⟨⟩, hsource, h⟩ := bind_eq_ok.mp h
  obtain ⟨⟨⟩, hnumber, h⟩ := bind_eq_ok.mp h
  obtain ⟨⟨⟩, hunique, h⟩ := bind_eq_ok.mp h
  obtain ⟨refund, hstart, h⟩ := bind_eq_ok.mp h
  obtain rfl := pure_eq_ok.mp h
  have hfound := (getById_eq_some.mp (orRaise_eq_ok.mp hpay)).1
  have hown : db.providerTransaction input.billingPaymentId
      = strip (payment.providerTxnId.getD "") := by
    rw [Db.providerTransaction, hfound]
    rfl
  have hne : strip (payment.providerTxnId.getD "") ≠ "" := fun hempty =>
    raiseIf_eq_ok.mp hsource ⟨hcard, hempty⟩
  unfold startRefund at hstart
  rw [if_pos (show (newRefund db payment input _ _).refundMethod = _ from hcard)] at hstart
  obtain ⟨reversal, hanswer, rfl⟩ := map_eq_ok.mp hstart
  rw [hown]
  refine ⟨_, reversal, rfl, hcard, (Table.find?_eq_some_iff.mp hfound).2, hne,
    askedAbout_eq_some.mpr ?_, hanswer, rfl⟩
  -- The checks before the gateway do not depend on it.
  refine bind_eq_error.mpr (.inr ⟨⟨⟩, hpos, ?_⟩)
  rw [if_neg (by rw [hkey]; decide)]
  refine bind_eq_error.mpr (.inr ⟨payment, hpay, bind_eq_error.mpr (.inr ⟨⟨⟩, hinvoice,
    bind_eq_error.mpr (.inr ⟨⟨⟩, hremaining, bind_eq_error.mpr (.inr ⟨⟨⟩, hfull,
    bind_eq_error.mpr (.inr ⟨⟨⟩, hpart, bind_eq_error.mpr (.inr ⟨⟨⟩, hsource,
    bind_eq_error.mpr (.inr ⟨⟨⟩, hnumber, bind_eq_error.mpr (.inr ⟨⟨⟩, hunique,
    bind_eq_error.mpr (.inl ?_)⟩)⟩)⟩)⟩)⟩)⟩)⟩)⟩)
  unfold startRefund
  rw [if_pos (show (newRefund db payment input _ _).refundMethod = _ from hcard)]
  rfl

/-- The created refund is a card refund of the payment, and the next retry hits the payment's own
transaction unless the gateway found another refund on it. -/
theorem tracks_created {db' : Db} {today : Day} {input : RefundInput}
    (hcard : input.refundMethod = .cardRefund)
    (hkey : (db.refundByKey input.organizationId input.idempotencyKey).isSome = false)
    (h : createRefund (env.gateway braintree db.refunds.fresh) db today input = .ok db') :
    Tracks db' db.refunds.fresh input.billingPaymentId ∧
      db'.payments = db.payments ∧
      (HitsOriginal db' db.refunds.fresh input.billingPaymentId ↔
        ¬ braintree.CarriesOther env (db.providerTransaction input.billingPaymentId)) := by
  obtain ⟨created, reversal, hfresh, hmethod, hpayment, hsource, -, hanswer, rfl⟩ :=
    createCardRefund_ok hcard hkey h
  have hown := strip_providerTransaction db input.billingPaymentId
  have hstored := strip_afterReversal created today
    (db.providerTransaction input.billingPaymentId) "Braintree refund/void failed" reversal hown
  obtain ⟨hid, howner, -⟩ := afterReversal_spec created today
    (db.providerTransaction input.billingPaymentId) "Braintree refund/void failed" reversal
  have hid := hid.trans hfresh
  have hrow : IsCardRefund input.billingPaymentId (created.afterReversal today
      (db.providerTransaction input.billingPaymentId) "Braintree refund/void failed" reversal) :=
    ⟨(afterReversal_refundMethod _ _ _ _ _).trans hmethod, howner.trans hpayment,
      fun _ => hstored ▸ stripOrNone_getD_ne hsource⟩
  have hnew := db.refunds.fresh_notMem
  rw [← hid] at hnew
  have hfound := (Table.find?_insert hnew db.refunds.fresh).trans (if_pos hid)
  refine ⟨⟨⟨_, hfound, hrow⟩, hsource⟩, rfl, ?_⟩
  rw [hitsOriginal_iff hfound hrow, status_afterReversal, hstored]
  exact refundOrVoidTransaction_stores hown hsource hanswer

/-! ### Runs -/

/-- **Every reversal hits the original charge** in exactly those runs where no attempt finds
another refund on it. The creation of a card refund asks the gateway about the payment's own
transaction; then, whatever requests on this and other refunds follow, every retry of the refund
at any point asks about it too, exactly when neither the creation nor a retry of the failed
refund found a refund of another id there. -/
theorem retries_hit_original_iff (env : ReversalEnv) (braintree : Braintree) (db db₁ : Db)
    (today : Day) (input : RefundInput) (hcard : input.refundMethod = .cardRefund)
    (hkey : (db.refundByKey input.organizationId input.idempotencyKey).isSome = false)
    (hcreate : createRefund (env.gateway braintree db.refunds.fresh) db today input = .ok db₁)
    (requests : List (Day × RefundRequest)) :
    askedAbout (fun gateway => createRefund gateway db today input)
      = some (db.providerTransaction input.billingPaymentId) ∧
    ((∀ pre post, requests = pre ++ post →
        HitsOriginal (Runs.run (RefundRequest.step env) db₁ pre) db.refunds.fresh
          input.billingPaymentId) ↔
      ¬ braintree.CarriesOther env (db.providerTransaction input.billingPaymentId) ∧
      Runs.Along (RefundRequest.step env) (fun s request =>
        ¬ request.2.FindsOther env s db.refunds.fresh input.billingPaymentId) db₁ requests) := by
  obtain ⟨_, _, -, -, -, -, hasked, -, -⟩ := createCardRefund_ok hcard hkey hcreate
  obtain ⟨htracks, -, hits⟩ := tracks_created hcard hkey hcreate
  refine ⟨hasked, ?_⟩
  rw [← hits]
  have hruns : HitsOriginal db₁ db.refunds.fresh input.billingPaymentId → _ := fun hm =>
    Runs.forall_prefix_iff_along
      (I := fun s => Tracks s db.refunds.fresh input.billingPaymentId)
      (M := fun s => HitsOriginal s db.refunds.fresh input.billingPaymentId)
      (G := fun s request =>
        ¬ request.2.FindsOther env s db.refunds.fresh input.billingPaymentId)
      (fun _ request h => tracks_step h request)
      (fun _ request h hm => hitsOriginal_step_iff h hm request) htracks hm requests
  constructor
  · intro h
    have hm : HitsOriginal db₁ db.refunds.fresh input.billingPaymentId := h [] requests rfl
    exact ⟨hm, (hruns hm).mp h⟩
  · rintro ⟨hm, halong⟩
    exact (hruns hm).mpr halong

/-! ### A second refund of one charge -/

/-- A card payment of 120.00. -/
def cardPaymentOf120 : PaymentInput :=
  { paymentOf120 with provider := .braintree, providerTxnId := some "tx_charge" }

/-- The billing database after it was recorded. -/
def chargedDb : Db :=
  Runs.run BillingOp.step (Db.initial .empty) [(0, .payment (.recordPayment cardPaymentOf120))]

/-- The gateway with the charge settled, and refunded before or not. Its answer to a refund is
given. -/
def settledCharge (refundId : Option String) (answer : BraintreeResult) : Braintree where
  find _ := .ok ⟨some "settled", some "sale", none, refundId, some 120⟩
  void _ := .ok answer
  refundPayload _ _ := .ok (some answer)
  refund _ _ := .ok answer

/-- Part of the payment is to be refunded to the card. -/
def partialRefundOf (amount : ℚ) : RefundInput where
  organizationId := 1
  billingPaymentId := 1
  amount := amount
  refundType := .partialRefund
  refundMethod := .cardRefund
  reasonCategory := "SERVICE_ISSUE"
  reasonDescription := "Late delivery"
  invoiceId := none
  linkedBookingRef := none
  idempotencyKey := none

/-- Texts in lower case, and a name for every refund. -/
def plainReversals : ReversalEnv := ⟨id, fun _ => "refund"⟩

/-- 40.00 are refunded. The refund of 30.00 more fails, since the charge carries the first
refund, and its retry would reverse that one instead of the charge. -/
theorem second_refund_retries_first :
    let first := RefundRequest.step plainReversals chargedDb
      (1, .create (settledCharge none ⟨true, some "tx_refund", none⟩) (partialRefundOf 40))
    let second := RefundRequest.step plainReversals first
      (2, .create (settledCharge (some "tx_refund") ⟨true, some "tx_second", none⟩)
        (partialRefundOf 30))
    (first.refunds.find? 1).map (·.status) = some .completed ∧
    (second.refunds.find? 2).map (·.status) = some .failed ∧
    second.providerTransaction 1 = "tx_charge" ∧
    askedAbout (fun gateway => retryRefund gateway second 3 1 2 none none none)
      = some "tx_refund" ∧
    ¬ HitsOriginal second 2 1 := by
  intro first second
  have hasked : askedAbout (fun gateway => retryRefund gateway second 3 1 2 none none none)
      = some "tx_refund" := by decide +kernel
  refine ⟨by decide +kernel, by decide +kernel, by decide +kernel, hasked, fun hits => ?_⟩
  exact absurd (hits 3 1 none none none "tx_refund" hasked) (by decide +kernel)

/-- A charge that was not refunded carries no other refund. -/
theorem not_carriesOther_settledCharge (env : ReversalEnv) (answer : BraintreeResult)
    (rawId : String) : ¬ (settledCharge none answer).CarriesOther env rawId := by
  rintro ⟨tx, refundId, hfind, -, hrefund, -⟩
  obtain rfl := Except.ok.inj hfind
  exact Option.some_ne_none _ hrefund.symm

/-- A first refund that the gateway declined twice is tried on the charge again. -/
theorem retries_hit_original_iff_declined :
    ∃ db₁, HitsOriginal (RefundRequest.step plainReversals db₁
      (2, .retry (settledCharge none ⟨false, none, some "declined"⟩) 1 1 none none none)) 1 1 := by
  obtain ⟨db₁, hcreate⟩ : ∃ db₁, createRefund (plainReversals.gateway
      (settledCharge none ⟨false, none, some "declined"⟩) chargedDb.refunds.fresh) chargedDb 1
      (partialRefundOf 40) = .ok db₁ := exists_eq_ok (by decide +kernel)
  have hfresh : chargedDb.refunds.fresh = 1 := by decide +kernel
  have hiff := (retries_hit_original_iff plainReversals _ chargedDb db₁ 1 (partialRefundOf 40) rfl
    (by decide +kernel) hcreate
    [(2, .retry (settledCharge none ⟨false, none, some "declined"⟩) 1 1 none none none)]).2
  have hits := hiff.mpr ⟨not_carriesOther_settledCharge _ _ _,
    fun hfinds => not_carriesOther_settledCharge _ _ _ hfinds.2.1, trivial⟩ _ []
    (List.append_nil _).symm
  rw [hfresh] at hits
  exact ⟨db₁, hits⟩

end SwCouriers
