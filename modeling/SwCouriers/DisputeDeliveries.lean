import SwCouriers.Webhooks

/-!
# Deliveries of Disputes

The table of webhook events has two unique indexes, on the dispute and on the transaction, each
together with the kind of the notification. A dispute row has both columns. So a second dispute on
one transaction, of which the gateway tells the same kind, is turned away by the index of
transactions, and the handler believes that it has handled it before.

## Main results

* `braintreeWebhook_dispute`: a notification is skipped if either index knows it.
* `step_new`: what is done for one that is new.
* `step_keeps_recorded`: what is recorded is never recorded or applied again.
* `disputes_applied_once_iff`: the runs in which each notification is applied exactly once.
-/

namespace SwCouriers.Webhooks

open Checked

/-! ### What was handled -/

/-- A dispute and a kind of notification. -/
abbrev DisputeKey := String × DisputeKind

/-- The row says that the notification of the dispute was handled. -/
def WebhookEvent.isOf (key : DisputeKey) (e : WebhookEvent) : Bool :=
  e.disputeId = some key.1 && e.webhookKind = .dispute key.2

/-- The event says that the notification of the dispute was applied to the payment. -/
def PaymentEvent.isOf (paymentId : Id) (key : DisputeKey) (e : PaymentEvent) : Bool :=
  e.paymentId = paymentId && e.disputeId = some key.1 && e.webhookKind = .dispute key.2

/-- How often the notification was recorded. -/
def Store.recorded (s : Store) (key : DisputeKey) : ℕ := s.webhookEvents.countP (·.isOf key)

/-- How often it was applied to a payment. -/
def Store.applied (s : Store) (paymentId : Id) (key : DisputeKey) : ℕ :=
  s.paymentEvents.countP (·.isOf paymentId key)

/-- The dispute that a delivery is about, if the handler finds one in it. -/
def Delivery.dispute? (env : Env) (d : Delivery) : Option (DisputeKind × DisputeSummary) :=
  match d.notification with
  | some ⟨.dispute kind, dispute, transaction⟩ =>
      (extractDisputeSummary env ⟨.dispute kind, dispute, transaction⟩).map fun summary =>
        (kind, summary)
  | _ => none

/-- The notification of a summary. -/
def DisputeSummary.key (summary : DisputeSummary) (kind : DisputeKind) : DisputeKey :=
  (summary.disputeId, kind)

/-- The same kind was received for the transaction before. -/
def DisputeSummary.Seen (summary : DisputeSummary) (kind : DisputeKind) (s : Store) : Prop :=
  ∃ e ∈ s.webhookEvents, e.webhookKind = .dispute kind ∧
    summary.braintreeTransactionId.isSome = true ∧
    e.braintreeTransactionId = summary.braintreeTransactionId

instance (summary : DisputeSummary) (kind : DisputeKind) (s : Store) :
    Decidable (summary.Seen kind s) :=
  inferInstanceAs (Decidable (∃ e ∈ s.webhookEvents, _))

variable {s s' : Store} {summary : DisputeSummary} {kind : DisputeKind} {env : Env} {d : Delivery}
  {now : Instant} {txId status : String} {n : Notification}

theorem recorded_ne_zero_iff {key : DisputeKey} :
    s.recorded key ≠ 0 ↔ ∃ e ∈ s.webhookEvents, e.isOf key = true := by
  rw [← Nat.pos_iff_ne_zero, Store.recorded, List.countP_pos_iff]

theorem existsDispute_iff :
    s.existsDispute summary.disputeId (.dispute kind) = true ↔
      s.recorded (summary.key kind) ≠ 0 := by
  rw [recorded_ne_zero_iff]
  exact List.any_eq_true

/-- The row of a dispute is refused by one index or by the other. -/
theorem clashes_event_iff :
    (∃ e ∈ s.webhookEvents, (summary.event kind).Clashes e) ↔
      s.recorded (summary.key kind) ≠ 0 ∨ summary.Seen kind s := by
  rw [recorded_ne_zero_iff]
  constructor
  · rintro ⟨e, he, hkind, ⟨-, hdispute⟩ | ⟨hsome, htxn⟩⟩
    · refine .inl ⟨e, he, ?_⟩
      rw [WebhookEvent.isOf, ← hdispute, ← hkind]
      simp [DisputeSummary.event, DisputeSummary.key]
    · exact .inr ⟨e, he, hkind.symm, hsome, htxn.symm⟩
  · rintro (⟨e, he, hof⟩ | ⟨e, he, hkind, hsome, htxn⟩)
    · obtain ⟨hdispute, hkind⟩ := Bool.and_eq_true_iff.mp hof
      exact ⟨e, he, (of_decide_eq_true hkind).symm, .inl ⟨rfl, (of_decide_eq_true hdispute).symm⟩⟩
    · exact ⟨e, he, hkind.symm, .inr ⟨hsome, htxn.symm⟩⟩

theorem braintreeWebhook_dispute (hd : d.dispute? env = some (kind, summary)) :
    braintreeWebhook env s d =
      if s.recorded (summary.key kind) ≠ 0 ∨ summary.Seen kind s then .ok s
      else applyDispute env { s with webhookEvents := s.webhookEvents ++ [summary.event kind] }
        d.now kind summary := by
  obtain ⟨now, n, stale⟩ := d
  unfold Delivery.dispute? at hd
  split at hd
  · rename_i kind' dispute transaction heq
    obtain rfl : n = _ := heq
    obtain ⟨summary', hsummary, hpair⟩ := Option.map_eq_some_iff.mp hd
    obtain ⟨rfl, rfl⟩ := Prod.mk.inj hpair
    simp only [braintreeWebhook, disputeWebhook, hsummary, existsDispute_iff, Store.createEvent?,
      clashes_event_iff]
    by_cases hrecorded : s.recorded (summary'.key kind') ≠ 0
    · simp [hrecorded]
    · by_cases hseen : summary'.Seen kind' s
      · simp [hseen]
      · simp [hrecorded, hseen]
  · exact absurd hd (Option.some_ne_none _).symm

/-- A notification that was handled before changes nothing. -/
theorem step_again (hd : d.dispute? env = some (kind, summary))
    (h : s.recorded (summary.key kind) ≠ 0) : step env s d = s := by
  rw [step, braintreeWebhook_dispute hd, if_pos (.inl h)]
  rfl

/-- Neither does one of a kind that the transaction had before. -/
theorem step_seen (hd : d.dispute? env = some (kind, summary)) (h : summary.Seen kind s) :
    step env s d = s := by
  rw [step, braintreeWebhook_dispute hd, if_pos (.inr h)]
  rfl

/-! ### What is applied -/

/-- The status that a notification has billing write. -/
def DisputeSummary.statusFor (summary : DisputeSummary) (kind : DisputeKind) : String :=
  if kind = .won then "WON" else summary.status

/-- The amount that it has billing write. -/
def DisputeSummary.amountFor (summary : DisputeSummary) (kind : DisputeKind) : Option ℚ :=
  if kind.isInitiated = true then summary.amount else none

/-- The fee that it has billing write. -/
def DisputeSummary.feeFor (summary : DisputeSummary) (env : Env) (kind : DisputeKind) : Option ℤ :=
  if kind.isInitiated = true then estimateDisputeFee env summary.currency summary.cardType
  else none

/-- The handler applies notifications of all kinds but one. -/
theorem applyDispute_eq {paymentText : String} (hkind : kind ≠ .underReview)
    (horder : summary.orderId = some paymentText)
    (htxn : summary.braintreeTransactionId = some txId) :
    applyDispute env s now kind summary =
      applyBraintreeDisputeStatus env s now paymentText txId summary.disputeId
        (summary.statusFor kind) (summary.amountFor kind) (summary.feeFor env kind) kind := by
  simp only [applyDispute, horder, htxn]
  cases kind with
  | underReview => exact absurd rfl hkind
  | _ =>
      simp [DisputeKind.isInitiated, DisputeKind.isLoss, DisputeSummary.statusFor,
        DisputeSummary.amountFor, DisputeSummary.feeFor, applyBraintreeDisputeWon,
        applyBraintreeDisputeLost]

/-- The rows that billing writes for a notification. -/
def Store.withDispute (s : Store) (env : Env) (now : Instant) (kind : DisputeKind)
    (summary : DisputeSummary) (paymentId : Id) (payment : PaymentRow) (txId status : String) :
    Store :=
  { s with
    payments := Function.update s.payments paymentId
      (some (payment.disputed now status (summary.amountFor kind) (summary.feeFor env kind)))
    paymentEvents := s.paymentEvents ++ [disputeEvent paymentId txId summary.disputeId status
      (summary.amountFor kind) (summary.feeFor env kind) kind] }

/-- The notification names a payment, on which billing writes a status. -/
def DisputeSummary.Names (summary : DisputeSummary) (env : Env) (s : Store) (kind : DisputeKind)
    (paymentId : Id) (status : String) : Prop :=
  kind ≠ .underReview ∧ summary.braintreeTransactionId.isSome = true ∧
    summary.orderId.bind env.uuid.read = some paymentId ∧ (s.payments paymentId).isSome = true ∧
    normalizeStatus env braintreeDisputeStatusMap (summary.statusFor kind) = some status

/-- What the notification has billing write fits the database, whatever the widths of its columns:
the order is the text of a key, and if it is the key of a payment no amount is negative. -/
def DisputeSummary.Fits (summary : DisputeSummary) (env : Env) (s : Store) (kind : DisputeKind) :
    Prop :=
  kind ≠ .underReview → summary.braintreeTransactionId.isSome = true →
    ∀ paymentText, summary.orderId = some paymentText →
      ∃ paymentId, env.uuid.read paymentText = some paymentId ∧
        ((s.payments paymentId).isSome = true →
          ¬ ((summary.amountFor kind).map money).any (· < 0) = true ∧
          ¬ (summary.feeFor env kind).any (· < 0) = true)

theorem textOrNone_of_ne {text : String} (h : strip text = text) (hne : text ≠ "") :
    textOrNone text = some text := by
  rw [textOrNone, stripOrNone, h, if_neg hne]

theorem strip_of_textOrNone {text t : String} (h : textOrNone text = some t) :
    strip t = t ∧ t ≠ "" := by
  rw [textOrNone, stripOrNone] at h
  split_ifs at h with hempty
  obtain rfl := Option.some.inj h
  exact ⟨strip_strip text, hempty⟩

/-- A summary never has an empty status, so billing always has one to write. -/
theorem exists_status (h : extractDisputeSummary env n = some summary) (kind : DisputeKind) :
    ∃ status, normalizeStatus env braintreeDisputeStatusMap (summary.statusFor kind)
      = some status := by
  obtain ⟨dispute, -, h⟩ := Option.bind_eq_some_iff.mp h
  obtain ⟨disputeId, -, h⟩ := Option.bind_eq_some_iff.mp h
  obtain rfl := Option.some.inj h
  have hstatus : ∀ text : String, strip text = text → text ≠ "" →
      ∃ status, normalizeStatus env braintreeDisputeStatusMap text = some status := by
    intro text hstrip hne
    rw [normalizeStatus, textOrNone_of_ne hstrip hne]
    exact ⟨_, rfl⟩
  unfold DisputeSummary.statusFor
  split_ifs
  · exact hstatus "WON" (by decide +kernel) (by decide)
  · cases htext : textOrNone dispute.status with
    | none => exact hstatus "UNKNOWN" (by decide +kernel) (by decide)
    | some text => exact hstatus text (strip_of_textOrNone htext).1 (strip_of_textOrNone htext).2

/-- **A notification that names a payment** has its status written. -/
theorem applyDispute_names {paymentId : Id} {payment : PaymentRow}
    (hnames : summary.Names env s kind paymentId status) (hfits : summary.Fits env s kind)
    (hpayment : s.payments paymentId = some payment)
    (htxn : summary.braintreeTransactionId = some txId) :
    applyDispute env s now kind summary
      = .ok (s.withDispute env now kind summary paymentId payment txId status) := by
  obtain ⟨hkind, htxnSome, horder, hfound, hstatus⟩ := hnames
  obtain ⟨paymentText, horder, hread⟩ := Option.bind_eq_some_iff.mp horder
  obtain ⟨paymentId', hread', hamounts⟩ := hfits hkind htxnSome paymentText horder
  obtain rfl : paymentId = paymentId' := Option.some.inj (hread.symm.trans hread')
  obtain ⟨hamount, hfee⟩ := hamounts hfound
  rw [applyDispute_eq hkind horder htxn, applyBraintreeDisputeStatus, hstatus]
  simp only [findKey, hread, orRaise, ok_bind, hpayment, raiseIf, if_neg hamount, if_neg hfee]
  rfl

/-- One that names none has nothing written. -/
theorem applyDispute_no_names (hsummary : extractDisputeSummary env n = some summary)
    (hfits : summary.Fits env s kind)
    (hnames : ∀ paymentId status, ¬ summary.Names env s kind paymentId status) :
    applyDispute env s now kind summary = .ok s := by
  obtain ⟨status, hstatus⟩ := exists_status hsummary kind
  by_cases hkind : kind = .underReview
  · subst hkind
    unfold applyDispute
    split <;> rfl
  · cases horder : summary.orderId with
    | none => simp only [applyDispute, horder]
    | some paymentText =>
        cases htxn : summary.braintreeTransactionId with
        | none => simp only [applyDispute, horder, htxn]
        | some txId =>
            have htxnSome : summary.braintreeTransactionId.isSome = true := by rw [htxn]; rfl
            obtain ⟨paymentId, hread, -⟩ := hfits hkind htxnSome paymentText horder
            have hnone : s.payments paymentId = none := by
              by_contra hsome
              exact hnames paymentId status ⟨hkind, htxnSome, by rw [horder]; exact hread,
                Option.isSome_iff_ne_none.mpr hsome, hstatus⟩
            rw [applyDispute_eq hkind horder htxn, applyBraintreeDisputeStatus, hstatus]
            simp only [findKey, hread, orRaise, ok_bind, hnone]
            rfl

/-- One that does not fit fails. -/
theorem applyDispute_not_fits (hsummary : extractDisputeSummary env n = some summary)
    (hfits : ¬ summary.Fits env s kind) : ∃ e, applyDispute env s now kind summary = .error e := by
  obtain ⟨status, hstatus⟩ := exists_status hsummary kind
  unfold DisputeSummary.Fits at hfits
  push Not at hfits
  obtain ⟨hkind, htxnSome, paymentText, horder, hunfit⟩ := hfits
  obtain ⟨txId, htxn⟩ := Option.isSome_iff_exists.mp htxnSome
  rw [applyDispute_eq hkind horder htxn, applyBraintreeDisputeStatus, hstatus]
  cases hread : env.uuid.read paymentText with
  | none => exact ⟨_, by simp only [findKey, hread, orRaise]; rfl⟩
  | some paymentId =>
      obtain ⟨hfound, hnegative⟩ := hunfit paymentId hread
      obtain ⟨payment, hpayment⟩ := Option.isSome_iff_exists.mp hfound
      simp only [findKey, hread, orRaise, ok_bind, hpayment, raiseIf]
      by_cases hamount : ((summary.amountFor kind).map money).any (· < 0) = true
      · exact ⟨_, by simp only [if_pos hamount]; rfl⟩
      · exact ⟨_, by simp only [if_neg hamount, if_pos (hnegative hamount), ok_bind]; rfl⟩

/-! ### What a delivery does to the counts -/

/-- A row that was written. -/
def Store.withEvent (s : Store) (e : WebhookEvent) : Store :=
  { s with webhookEvents := s.webhookEvents ++ [e] }

theorem recorded_withEvent (s : Store) (e : WebhookEvent) (key : DisputeKey) :
    (s.withEvent e).recorded key = s.recorded key + if e.isOf key = true then 1 else 0 := by
  simp [Store.recorded, Store.withEvent, List.countP_append, List.countP_singleton]

theorem isOf_event_iff {key : DisputeKey} :
    (summary.event kind).isOf key = true ↔ summary.key kind = key := by
  simp [WebhookEvent.isOf, DisputeSummary.event, DisputeSummary.key, Prod.ext_iff]

theorem applied_withDispute (s : Store) (env : Env) (now : Instant) (kind : DisputeKind)
    (summary : DisputeSummary) (paymentId : Id) (payment : PaymentRow) (txId status : String)
    (p : Id) (key : DisputeKey) :
    (s.withDispute env now kind summary paymentId payment txId status).applied p key
      = s.applied p key + if paymentId = p ∧ summary.key kind = key then 1 else 0 := by
  simp [Store.applied, Store.withDispute, List.countP_append, List.countP_singleton,
    PaymentEvent.isOf, disputeEvent, DisputeSummary.key, Prod.ext_iff, and_assoc]

/-- Nothing is recorded of disputes and nothing applied. -/
structure KeepsDisputes (s s' : Store) : Prop where
  recorded : ∀ key, s'.recorded key = s.recorded key
  applied : ∀ paymentId key, s'.applied paymentId key = s.applied paymentId key

theorem KeepsDisputes.refl (s : Store) : KeepsDisputes s s :=
  ⟨fun _ => rfl, fun _ _ => rfl⟩

theorem KeepsDisputes.trans {s₁ s₂ : Store} (h : KeepsDisputes s s₁) (h' : KeepsDisputes s₁ s₂) :
    KeepsDisputes s s₂ :=
  ⟨fun key => (h'.recorded key).trans (h.recorded key),
    fun p key => (h'.applied p key).trans (h.applied p key)⟩

/-- A row that is about no dispute. -/
theorem keepsDisputes_withEvent (s : Store) {e : WebhookEvent} (h : e.disputeId = none) :
    KeepsDisputes s (s.withEvent e) := by
  refine ⟨fun key => ?_, fun _ _ => rfl⟩
  rw [recorded_withEvent, WebhookEvent.isOf, h]
  simp

theorem keepsDisputes_paymentStatus {paymentText : String} {kind : WebhookKind}
    (h : applyBraintreePaymentStatus env s now paymentText txId status kind = .ok s') :
    KeepsDisputes s s' := by
  unfold applyBraintreePaymentStatus at h
  split at h
  · obtain rfl := Except.ok.inj h
    exact .refl s
  · obtain ⟨paymentId, -, h⟩ := bind_eq_ok.mp h
    split at h
    · obtain rfl := pure_eq_ok.mp h
      exact .refl s
    · obtain rfl := pure_eq_ok.mp h
      refine ⟨fun _ => rfl, fun p key => ?_⟩
      simp [Store.applied, List.countP_append, PaymentEvent.isOf]

theorem keepsDisputes_refundStatus {refundText : String}
    (h : applyBraintreeRefundStatus env s now refundText txId status = .ok s') :
    KeepsDisputes s s' := by
  unfold applyBraintreeRefundStatus at h
  split at h
  · obtain rfl := Except.ok.inj h
    exact .refl s
  · obtain ⟨refundId, -, h⟩ := bind_eq_ok.mp h
    split at h
    · obtain rfl := pure_eq_ok.mp h
      exact .refl s
    · obtain rfl := pure_eq_ok.mp h
      exact ⟨fun _ => rfl, fun _ _ => rfl⟩

theorem keepsDisputes_applySettlement {kind : SettlementKind} {summary : TransactionSummary}
    (h : applySettlement env s now kind summary = .ok s') : KeepsDisputes s s' := by
  simp only [applySettlement] at h
  split at h
  · obtain ⟨s₁, hpayment, h⟩ := bind_eq_ok.mp h
    refine (keepsDisputes_paymentStatus hpayment).trans ?_
    split_ifs at h
    · exact keepsDisputes_refundStatus h
    · obtain rfl := pure_eq_ok.mp h
      exact .refl _
  · obtain rfl := Except.ok.inj h
    exact .refl _

theorem keepsDisputes_settlement {kind : SettlementKind} {stale : Bool}
    (h : settlementWebhook env s now kind n stale = .ok s') : KeepsDisputes s s' := by
  simp only [settlementWebhook] at h
  split_ifs at h
  · obtain rfl := Except.ok.inj h
    exact .refl s
  · unfold Store.createEvent? at h
    split_ifs at h
    · obtain rfl := Except.ok.inj h
      exact .refl s
    · have hrow : (⟨.settlement kind, (extractTransactionSummary n).braintreeTransactionId,
          none⟩ : WebhookEvent).disputeId = none := rfl
      exact (keepsDisputes_withEvent s hrow).trans (keepsDisputes_applySettlement h)

/-- A delivery in which the handler finds no dispute leaves the disputes alone. -/
theorem keepsDisputes_step (hd : d.dispute? env = none) : KeepsDisputes s (step env s d) := by
  rcases settle_eq s (braintreeWebhook env s d) with hok | heq
  · obtain ⟨now, n, stale⟩ := d
    cases n with
    | none => exact .refl s
    | some n =>
        obtain ⟨kind, dispute, transaction⟩ := n
        cases kind with
        | dispute kind =>
            have hnone : extractDisputeSummary env ⟨.dispute kind, dispute, transaction⟩ = none :=
              Option.map_eq_none_iff.mp hd
            simp only [step, braintreeWebhook, disputeWebhook, hnone, settle_ok]
            exact keepsDisputes_withEvent s (e := ⟨.dispute kind, none, none⟩) rfl
        | settlement kind => exact keepsDisputes_settlement hok
        | other text => exact keepsDisputes_withEvent s (e := ⟨.other _, none, none⟩) rfl
  · rw [step, heq]
    exact .refl s

/-- The summary of a dispute was extracted from a notification. -/
theorem exists_extract (hd : d.dispute? env = some (kind, summary)) :
    ∃ n, extractDisputeSummary env n = some summary := by
  unfold Delivery.dispute? at hd
  split at hd
  · obtain ⟨summary', hsummary, hpair⟩ := Option.map_eq_some_iff.mp hd
    obtain ⟨-, rfl⟩ := Prod.mk.inj hpair
    exact ⟨_, hsummary⟩
  · exact absurd hd (Option.some_ne_none _).symm

/-- **A notification that is new** is recorded, and its status written on the payment that it
names, if it fits; otherwise the request fails and nothing is recorded. -/
inductive NewStep (env : Env) (s : Store) (now : Instant) (kind : DisputeKind)
    (summary : DisputeSummary) : Store → Prop
  | named (paymentId : Id) (payment : PaymentRow) (txId status : String)
      (names : summary.Names env s kind paymentId status)
      (found : s.payments paymentId = some payment) :
      NewStep env s now kind summary ((s.withEvent (summary.event kind)).withDispute env now kind
        summary paymentId payment txId status)
  | unnamed (names : ∀ paymentId status, ¬ summary.Names env s kind paymentId status) :
      NewStep env s now kind summary (s.withEvent (summary.event kind))

theorem step_new (hd : d.dispute? env = some (kind, summary))
    (hrecorded : s.recorded (summary.key kind) = 0) (hseen : ¬ summary.Seen kind s)
    (hfits : summary.Fits env s kind) : NewStep env s d.now kind summary (step env s d) := by
  obtain ⟨n, hsummary⟩ := exists_extract hd
  have hstep : step env s d = settle s
      (applyDispute env (s.withEvent (summary.event kind)) d.now kind summary) := by
    rw [step, braintreeWebhook_dispute hd, if_neg (by simp [hrecorded, hseen])]
    rfl
  rw [hstep]
  by_cases hnames : ∃ paymentId status, summary.Names env s kind paymentId status
  · obtain ⟨paymentId, status, hnames⟩ := hnames
    obtain ⟨txId, htxn⟩ := Option.isSome_iff_exists.mp hnames.2.1
    obtain ⟨payment, hpayment⟩ := Option.isSome_iff_exists.mp hnames.2.2.2.1
    rw [applyDispute_names (s := s.withEvent (summary.event kind)) hnames hfits hpayment htxn]
    exact .named paymentId payment txId status hnames hpayment
  · push Not at hnames
    rw [applyDispute_no_names (s := s.withEvent (summary.event kind)) hsummary hfits hnames]
    exact .unnamed hnames

/-- One that does not fit leaves everything as it is. -/
theorem step_not_fits (hd : d.dispute? env = some (kind, summary))
    (hfits : ¬ summary.Fits env s kind) : step env s d = s := by
  obtain ⟨n, hsummary⟩ := exists_extract hd
  rw [step, braintreeWebhook_dispute hd]
  split_ifs
  · rfl
  · obtain ⟨e, he⟩ := applyDispute_not_fits (s := s.withEvent (summary.event kind)) hsummary hfits
    exact congrArg (settle s) he

/-- What a delivery about a dispute may do. -/
theorem step_cases (hd : d.dispute? env = some (kind, summary)) :
    step env s d = s ∨
      s.recorded (summary.key kind) = 0 ∧ NewStep env s d.now kind summary (step env s d) := by
  by_cases hrecorded : s.recorded (summary.key kind) = 0
  · by_cases hseen : summary.Seen kind s
    · exact .inl (step_seen hd hseen)
    · by_cases hfits : summary.Fits env s kind
      · exact .inr ⟨hrecorded, step_new hd hrecorded hseen hfits⟩
      · exact .inl (step_not_fits hd hfits)
  · exact .inl (step_again hd hrecorded)

theorem NewStep.recorded (h : NewStep env s now kind summary s') (key : DisputeKey) :
    s'.recorded key = s.recorded key + if summary.key kind = key then 1 else 0 := by
  have hevent : (s.withEvent (summary.event kind)).recorded key
      = s.recorded key + if summary.key kind = key then 1 else 0 := by
    rw [recorded_withEvent]
    simp only [isOf_event_iff]
  cases h with
  | named => exact hevent
  | unnamed => exact hevent

/-- A new notification is applied at most to its own dispute and kind. -/
theorem NewStep.applied_of_ne (h : NewStep env s now kind summary s') {key : DisputeKey}
    (hkey : summary.key kind ≠ key) (paymentId : Id) :
    s'.applied paymentId key = s.applied paymentId key := by
  cases h with
  | named p payment txId status names found =>
      rw [applied_withDispute, if_neg fun h => hkey h.2]
      rfl
  | unnamed names => rfl

/-- Each notification is recorded at most once, and applied only if it is recorded. -/
structure Recorded (s : Store) : Prop where
  once : ∀ key, s.recorded key ≤ 1
  first : ∀ paymentId key, s.recorded key = 0 → s.applied paymentId key = 0

theorem recorded_initial (payments : Id → Option PaymentRow) (refunds : Id → Option RefundRow) :
    Recorded (.initial payments refunds) :=
  ⟨fun _ => Nat.zero_le 1, fun _ _ _ => rfl⟩

/-- **What is recorded is done with**: no delivery records or applies it again. -/
theorem step_keeps_recorded (env : Env) (d : Delivery) {key : DisputeKey}
    (hkey : s.recorded key ≠ 0) :
    (step env s d).recorded key = s.recorded key ∧
      ∀ paymentId, (step env s d).applied paymentId key = s.applied paymentId key := by
  cases hd : d.dispute? env with
  | none =>
      have hkeeps := keepsDisputes_step (s := s) hd
      exact ⟨hkeeps.recorded key, fun p => hkeeps.applied p key⟩
  | some pair =>
      obtain ⟨kind, summary⟩ := pair
      rcases step_cases (s := s) hd with heq | ⟨hnew, hstep⟩
      · rw [heq]
        exact ⟨rfl, fun _ => rfl⟩
      · have hne : summary.key kind ≠ key := by
          rintro rfl
          exact hkey hnew
        refine ⟨?_, hstep.applied_of_ne hne⟩
        rw [hstep.recorded, if_neg hne, add_zero]

theorem Recorded.step (h : Recorded s) (d : Delivery) : Recorded (step env s d) := by
  cases hd : d.dispute? env with
  | none =>
      have hkeeps := keepsDisputes_step (s := s) hd
      refine ⟨fun key => (hkeeps.recorded key).trans_le (h.once key), fun p key hkey => ?_⟩
      rw [hkeeps.applied]
      exact h.first p key ((hkeeps.recorded key).symm.trans hkey)
  | some pair =>
      obtain ⟨kind, summary⟩ := pair
      rcases step_cases (s := s) hd with heq | ⟨hnew, hstep⟩
      · rw [heq]
        exact h
      · refine ⟨fun key => ?_, fun p key hkey => ?_⟩
        · rw [hstep.recorded]
          split_ifs with heq
          · rw [← heq, hnew]
          · exact h.once key
        · rw [hstep.recorded] at hkey
          split_ifs at hkey with heq
          rw [hstep.applied_of_ne heq]
          exact h.first p key hkey

/-- A run leaves what is recorded as it is. -/
theorem run_keeps_recorded (env : Env) {key : DisputeKey} (hkey : s.recorded key ≠ 0)
    (ds : List Delivery) :
    (Runs.run (step env) s ds).recorded key = s.recorded key ∧
      ∀ paymentId, (Runs.run (step env) s ds).applied paymentId key = s.applied paymentId key := by
  induction ds generalizing s with
  | nil => exact ⟨rfl, fun _ => rfl⟩
  | cons d ds ih =>
      obtain ⟨hrecorded, happlied⟩ := step_keeps_recorded env d hkey
      obtain ⟨hrecorded', happlied'⟩ := ih (s := step env s d) (hrecorded ▸ hkey)
      exact ⟨hrecorded'.trans hrecorded, fun p => (happlied' p).trans (happlied p)⟩

/-! ### Exactly once -/

/-- The delivery of a dispute's notification in `s` was handled as it should, seen from a later
state: the notification is recorded once; if it was before, nothing happened; and if it is new, it
is applied once to the payment that it names, which shows its status then, and to no other. -/
structure Once (env : Env) (s : Store) (d : Delivery) (kind : DisputeKind)
    (summary : DisputeSummary) (later : Store) : Prop where
  recorded : later.recorded (summary.key kind) = 1
  again : s.recorded (summary.key kind) ≠ 0 → step env s d = s
  applied : s.recorded (summary.key kind) = 0 → ∀ paymentId status,
    summary.Names env s kind paymentId status → later.applied paymentId (summary.key kind) = 1
  elsewhere : s.recorded (summary.key kind) = 0 → ∀ paymentId,
    (∀ status, ¬ summary.Names env s kind paymentId status) →
      later.applied paymentId (summary.key kind) = 0
  written : s.recorded (summary.key kind) = 0 → ∀ paymentId status,
    summary.Names env s kind paymentId status →
      ((step env s d).payments paymentId).bind PaymentRow.disputeStatus = some status

/-- Every dispute that a run tells of was handled as it should, from its delivery on. -/
def AppliedOnce (env : Env) (s : Store) (ds : List Delivery) : Prop :=
  ∀ pre d mid post, ds = pre ++ d :: (mid ++ post) → ∀ kind summary,
    d.dispute? env = some (kind, summary) →
      Once env (Runs.run (step env) s pre) d kind summary
        (Runs.run (step env) s (pre ++ d :: mid))

/-- The notification was recorded before, or its transaction has had no notification of the kind
and it fits the database. -/
def Delivery.Handleable (env : Env) (s : Store) (d : Delivery) : Prop :=
  ∀ kind summary, d.dispute? env = some (kind, summary) →
    s.recorded (summary.key kind) ≠ 0 ∨ ¬ summary.Seen kind s ∧ summary.Fits env s kind

/-- A notification names one payment, and one status for it. -/
theorem DisputeSummary.Names.unique {p p' : Id} {status' : String}
    (h : summary.Names env s kind p status) (h' : summary.Names env s kind p' status') :
    p = p' ∧ status = status' :=
  ⟨Option.some.inj (h.2.2.1.symm.trans h'.2.2.1),
    Option.some.inj (h.2.2.2.2.symm.trans h'.2.2.2.2)⟩

/-- What a new notification is after its step. -/
theorem once_of_new (h : Recorded s) (hnew : s.recorded (summary.key kind) = 0)
    (hstep : NewStep env s d.now kind summary (step env s d)) :
    Once env s d kind summary (step env s d) := by
  have hzero : ∀ p, s.applied p (summary.key kind) = 0 := fun p => h.first p _ hnew
  refine ⟨by rw [hstep.recorded, hnew, if_pos rfl], fun hne => absurd hnew hne,
    fun _ p status hnames => ?_, fun _ p hnames => ?_, fun _ p status hnames => ?_⟩
  · generalize step env s d = s' at hstep
    cases hstep with
    | named p' payment txId status' names found =>
        obtain ⟨rfl, -⟩ := hnames.unique names
        rw [applied_withDispute, if_pos ⟨rfl, rfl⟩]
        exact congrArg (· + 1) (hzero p)
    | unnamed names => exact absurd hnames (names p status)
  · generalize step env s d = s' at hstep
    cases hstep with
    | named p' payment txId status' names found =>
        have hne : ¬ (p' = p ∧ summary.key kind = summary.key kind) := by
          rintro ⟨rfl, -⟩
          exact hnames status' names
        rw [applied_withDispute, if_neg hne]
        exact hzero p
    | unnamed names => exact hzero p
  · generalize step env s d = s' at hstep
    cases hstep with
    | named p' payment txId status' names found =>
        obtain ⟨rfl, rfl⟩ := hnames.unique names
        simp [Store.withDispute, PaymentRow.disputed]
    | unnamed names => exact absurd hnames (names p status)

/-- What was handled as it should stays so. -/
theorem Once.later {t : Store} (h : Once env s d kind summary t) (ds : List Delivery) :
    Once env s d kind summary (Runs.run (step env) t ds) := by
  have hkey : t.recorded (summary.key kind) ≠ 0 := by
    rw [h.recorded]
    exact Nat.one_ne_zero
  obtain ⟨hrecorded, happlied⟩ := run_keeps_recorded env hkey ds
  exact ⟨hrecorded.trans h.recorded, h.again,
    fun hnew p status hnames => (happlied p).trans (h.applied hnew p status hnames),
    fun hnew p hnames => (happlied p).trans (h.elsewhere hnew p hnames), h.written⟩

/-- A delivery that can be handled is handled as it should. -/
theorem once_of_handleable (h : Recorded s) (hd : d.dispute? env = some (kind, summary))
    (hd' : d.Handleable env s) : Once env s d kind summary (step env s d) := by
  by_cases hrecorded : s.recorded (summary.key kind) = 0
  · obtain ⟨hseen, hfits⟩ := (hd' kind summary hd).resolve_left (not_not.mpr hrecorded)
    exact once_of_new h hrecorded (step_new hd hrecorded hseen hfits)
  · have hsame := step_again hd hrecorded
    have hone : s.recorded (summary.key kind) = 1 :=
      le_antisymm (h.once _) (Nat.one_le_iff_ne_zero.mpr hrecorded)
    exact ⟨by rw [hsame, hone], fun _ => hsame, fun hnew => absurd hnew hrecorded,
      fun hnew => absurd hnew hrecorded, fun hnew => absurd hnew hrecorded⟩

/-- One that cannot be handled is not recorded. -/
theorem handleable_of_once (h : ∀ kind summary, d.dispute? env = some (kind, summary) →
      Once env s d kind summary (step env s d)) : d.Handleable env s := by
  intro kind summary hd
  by_contra hnot
  push Not at hnot
  obtain ⟨hnew, hrefused⟩ := hnot
  have hsame : step env s d = s := by
    by_cases hseen : summary.Seen kind s
    · exact step_seen hd hseen
    · exact step_not_fits hd (hrefused hseen)
  have hone := (h kind summary hd).recorded
  rw [hsame, hnew] at hone
  exact absurd hone Nat.zero_ne_one

/-- **When each dispute is applied exactly once.** In a run of deliveries, in any order and with
any repetitions, every notification of a dispute is recorded once and applied once, and its
repetitions change nothing, exactly if no new notification finds that its transaction has had one
of its kind before, and each of them fits the database. -/
theorem disputes_applied_once_iff (env : Env) (payments : Id → Option PaymentRow)
    (refunds : Id → Option RefundRow) (ds : List Delivery) :
    AppliedOnce env (.initial payments refunds) ds ↔
      Runs.Along (step env) (fun s d => d.Handleable env s) (.initial payments refunds) ds := by
  have hrecorded : ∀ pre, Recorded (Runs.run (step env) (.initial payments refunds) pre) :=
    Runs.run_invariant (I := Recorded) (fun _ d h => h.step d) (recorded_initial payments refunds)
  rw [Runs.along_iff]
  constructor
  · rintro h pre d post rfl
    refine handleable_of_once fun kind summary hd => ?_
    have honce := h pre d [] post rfl kind summary hd
    rwa [Runs.run_append, Runs.run_cons, Runs.run_nil] at honce
  · rintro h pre d mid post rfl kind summary hd
    rw [Runs.run_append, Runs.run_cons]
    exact (once_of_handleable (hrecorded pre) hd (h pre d (mid ++ post) rfl)).later mid

/-! ### Two disputes on one transaction -/

/-- A gateway for texts without capital letters, and without fees. -/
def plainEnv : Env := ⟨id, id, decimalUuid, fun _ _ => none⟩

/-- A payment that nobody disputes. -/
def plainPayment : PaymentRow := ⟨none, 0, 0, none, none⟩

/-- The notification that a dispute on the transaction of the payment 4 has been opened. -/
def openedDispute (id : String) (amount : ℚ) : Delivery where
  now := 0
  notification := some ⟨.dispute .opened, some ⟨id, "open", some amount, "GBP",
    some ⟨"txn", decimalUuid.write 4, "Visa"⟩, none⟩, none⟩
  stale := false

/-- Of two disputes on the transaction only the first one is recorded and applied. -/
theorem second_dispute_ignored :
    ¬ (∀ ds, AppliedOnce plainEnv (.initial (fun _ => some plainPayment) fun _ => none) ds) ∧
      (Runs.run (step plainEnv) (.initial (fun _ => some plainPayment) fun _ => none)
        [openedDispute "first" 30, openedDispute "second" 20]).recorded ("second", .opened) = 0 ∧
      (Runs.run (step plainEnv) (.initial (fun _ => some plainPayment) fun _ => none)
        [openedDispute "first" 30, openedDispute "second" 20]).applied 4 ("first", .opened) = 1 ∧
      (Runs.run (step plainEnv) (.initial (fun _ => some plainPayment) fun _ => none)
        [openedDispute "first" 30, openedDispute "second" 20]).applied 4 ("second", .opened)
          = 0 := by
  refine ⟨fun h => ?_, by decide +kernel, by decide +kernel, by decide +kernel⟩
  have honce := h _ [openedDispute "first" 30] (openedDispute "second" 20) [] [] rfl .opened
    ⟨"second", some "txn", some (decimalUuid.write 4), "open", some 20, "GBP", some "Visa"⟩
    (by decide +kernel)
  exact absurd honce.recorded (by decide +kernel)

end SwCouriers.Webhooks
