import SwCouriers.DisputeDeliveries

/-!
# Where a Dispute Ends

The gateway tells of a dispute that it was opened, that it is disputed and how it ended, in any
order. Each kind is applied when it comes for the first time, and the handler writes the status of
the payment without looking at what it is. There is no order of the statuses anywhere: the kind
that comes last for the first time decides.

## Main results

* `Progress.step`: what is known of the payment after each delivery.
* `last_new_kind_decides`: the status in which a dispute ends.
-/

namespace SwCouriers.Webhooks

open Checked

/-- The notifications that are the first of their kind, in the order of their delivery. -/
def firstDeliveries (notes : List (DisputeKind × DisputeSummary)) :
    List (DisputeKind × DisputeSummary) :=
  notes.foldl (fun firsts note =>
    if note.1 ∈ firsts.map (·.1) then firsts else firsts ++ [note]) []

/-- The status that a payment shows after the notifications that were the first of their kind, if
it showed `status` before. -/
def finalStatus (env : Env) (status : Option String)
    (firsts : List (DisputeKind × DisputeSummary)) : Option String :=
  match firsts.getLast? with
  | none => status
  | some (kind, summary) =>
      normalizeStatus env braintreeDisputeStatusMap (summary.statusFor kind)

theorem firstDeliveries_append (notes : List (DisputeKind × DisputeSummary))
    (note : DisputeKind × DisputeSummary) :
    firstDeliveries (notes ++ [note]) =
      if note.1 ∈ (firstDeliveries notes).map (·.1) then firstDeliveries notes
      else firstDeliveries notes ++ [note] := by
  rw [firstDeliveries, List.foldl_append]
  rfl

theorem finalStatus_append (env : Env) (status : Option String)
    (firsts : List (DisputeKind × DisputeSummary)) (kind : DisputeKind)
    (summary : DisputeSummary) :
    finalStatus env status (firsts ++ [(kind, summary)])
      = normalizeStatus env braintreeDisputeStatusMap (summary.statusFor kind) := by
  simp [finalStatus]

/-- One dispute: its identifier, its transaction, and the payment that is the order of the
transaction, as a text and as a key. -/
structure DisputeCase where
  disputeId : String
  txId : String
  paymentText : String
  paymentId : Id

/-- The delivery brings a notification of the dispute, of a kind that is applied, whose amounts
are not negative. -/
def DisputeCase.Tells (c : DisputeCase) (env : Env) (d : Delivery) : Prop :=
  ∃ kind summary, d.dispute? env = some (kind, summary) ∧ kind ≠ .underReview ∧
    summary.disputeId = c.disputeId ∧ summary.braintreeTransactionId = some c.txId ∧
    summary.orderId = some c.paymentText ∧
    ¬ ((summary.amountFor kind).map money).any (· < 0) = true ∧
    ¬ (summary.feeFor env kind).any (· < 0) = true

/-- Nothing was received about the dispute or another one on its transaction, and the payment
exists. -/
structure DisputeCase.Starts (c : DisputeCase) (env : Env) (s : Store) : Prop where
  key : env.uuid.read c.paymentText = some c.paymentId
  payment : (s.payments c.paymentId).isSome = true
  dispute : ∀ kind, s.recorded (c.disputeId, kind) = 0
  transaction : ∀ e ∈ s.webhookEvents, e.braintreeTransactionId = some c.txId →
    ∀ kind, e.webhookKind ≠ .dispute kind

/-- What is known after the notifications that were the first of their kind. -/
structure Progress (c : DisputeCase) (env : Env) (status : Option String)
    (firsts : List (DisputeKind × DisputeSummary)) (s : Store) : Prop where
  key : env.uuid.read c.paymentText = some c.paymentId
  payment : (s.payments c.paymentId).isSome = true
  dispute : ∀ kind, s.recorded (c.disputeId, kind) ≠ 0 ↔ kind ∈ firsts.map (·.1)
  transaction : ∀ e ∈ s.webhookEvents, e.braintreeTransactionId = some c.txId →
    ∀ kind, e.webhookKind = .dispute kind → kind ∈ firsts.map (·.1)
  status : (s.payments c.paymentId).bind PaymentRow.disputeStatus = finalStatus env status firsts

theorem DisputeCase.Starts.progress {c : DisputeCase} {env : Env} {s : Store}
    (h : c.Starts env s) :
    Progress c env ((s.payments c.paymentId).bind PaymentRow.disputeStatus) [] s where
  key := h.key
  payment := h.payment
  dispute kind := by simp [h.dispute kind]
  transaction e he htxn kind hkind := absurd hkind (h.transaction e he htxn kind)
  status := rfl

/-- **One more notification** of the dispute changes the payment if it is the first of its
kind. -/
theorem Progress.step {c : DisputeCase} {env : Env} {status : Option String}
    {notes : List (DisputeKind × DisputeSummary)} {s : Store}
    (h : Progress c env status (firstDeliveries notes) s) {d : Delivery} (hd : c.Tells env d) :
    Progress c env status (firstDeliveries (notes ++ (d.dispute? env).toList)) (step env s d) := by
  obtain ⟨kind, summary, hd, hkind, hid, htxn, horder, hamount, hfee⟩ := hd
  have hkey : summary.key kind = (c.disputeId, kind) := by rw [DisputeSummary.key, hid]
  rw [hd, Option.toList_some, firstDeliveries_append]
  split_ifs with hold
  · -- The kind was delivered before.
    rw [step_again hd (by rw [hkey]; exact (h.dispute kind).mpr hold)]
    exact h
  · have hnew : s.recorded (summary.key kind) = 0 := by
      rw [hkey]
      exact not_not.mp fun hne => hold ((h.dispute kind).mp hne)
    have hseen : ¬ summary.Seen kind s := by
      rintro ⟨e, he, hkind', -, htxn'⟩
      exact hold (h.transaction e he (htxn'.trans htxn) kind hkind')
    have hfits : summary.Fits env s kind := by
      intro _ _ text htext
      obtain rfl := Option.some.inj (horder.symm.trans htext)
      exact ⟨c.paymentId, h.key, fun _ => ⟨hamount, hfee⟩⟩
    obtain ⟨n, hsummary⟩ := exists_extract hd
    obtain ⟨shown, hshown⟩ := exists_status hsummary kind
    have hnames : summary.Names env s kind c.paymentId shown :=
      ⟨hkind, by rw [htxn]; rfl, by rw [horder]; exact h.key, h.payment, hshown⟩
    have hstep := step_new hd hnew hseen hfits
    generalize Webhooks.step env s d = s' at hstep
    cases hstep with
    | unnamed names => exact absurd hnames (names _ _)
    | named p payment txId shown' names found =>
        obtain ⟨rfl, rfl⟩ := hnames.unique names
        have hshows : ((s.withEvent (summary.event kind)).withDispute env d.now kind summary
            c.paymentId payment txId shown).payments c.paymentId
              = some (payment.disputed d.now shown (summary.amountFor kind)
                (summary.feeFor env kind)) := Function.update_self ..
        refine ⟨h.key, by rw [hshows]; rfl, fun kind' => ?_, fun e he htxn' kind' hkind' => ?_, ?_⟩
        · have hcount := recorded_withEvent s (summary.event kind) (c.disputeId, kind')
          have hof : (summary.event kind).isOf (c.disputeId, kind') = true ↔ kind = kind' := by
            rw [isOf_event_iff, hkey, Prod.mk.injEq]
            exact and_iff_right rfl
          rw [List.map_append, List.mem_append, ← h.dispute kind']
          change (s.withEvent (summary.event kind)).recorded (c.disputeId, kind') ≠ 0 ↔ _
          rw [hcount]
          simp only [hof, List.map_cons, List.map_nil, List.mem_singleton]
          split_ifs with heq
          · simp [heq]
          · simp [Ne.symm heq]
        · rw [List.map_append, List.mem_append]
          rcases List.mem_append.mp he with he | he
          · exact .inl (h.transaction e he htxn' kind' hkind')
          · obtain rfl := List.mem_singleton.mp he
            exact .inr (List.mem_singleton.mpr (WebhookKind.dispute.inj hkind').symm)
        · rw [hshows, finalStatus_append, hshown]
          rfl

/-- What is known after a run. -/
theorem Progress.run {c : DisputeCase} {env : Env} {status : Option String}
    {notes : List (DisputeKind × DisputeSummary)} {s : Store}
    (h : Progress c env status (firstDeliveries notes) s) {ds : List Delivery}
    (hds : ∀ d ∈ ds, c.Tells env d) :
    Progress c env status (firstDeliveries (notes ++ ds.filterMap (·.dispute? env)))
      (Runs.run (Webhooks.step env) s ds) := by
  induction ds generalizing notes s with
  | nil => rwa [List.filterMap_nil, List.append_nil]
  | cons d ds ih =>
      have hstep := h.step (hds d List.mem_cons_self)
      have hrun := ih hstep fun d' hd' => hds d' (List.mem_cons_of_mem d hd')
      have hnotes : (d :: ds).filterMap (·.dispute? env)
          = (d.dispute? env).toList ++ ds.filterMap (·.dispute? env) := by
        cases hd : d.dispute? env <;> simp [hd]
      rw [hnotes, ← List.append_assoc]
      exact hrun

/-- **Where a dispute ends.** However the notifications of a dispute are ordered and repeated, the
payment shows the status of the one whose kind was delivered for the first time last. So it shows
how the dispute ended when the outcome comes after each of the other kinds has been delivered. -/
theorem last_new_kind_decides (c : DisputeCase) (env : Env) (s : Store) (hs : c.Starts env s)
    (ds : List Delivery) (hds : ∀ d ∈ ds, c.Tells env d) :
    ((Runs.run (step env) s ds).payments c.paymentId).bind PaymentRow.disputeStatus =
      finalStatus env ((s.payments c.paymentId).bind PaymentRow.disputeStatus)
        (firstDeliveries (ds.filterMap (·.dispute? env))) :=
  have hstart : Progress c env ((s.payments c.paymentId).bind PaymentRow.disputeStatus)
      (firstDeliveries []) s := hs.progress
  (hstart.run hds).status

/-- A notification about the dispute `first` on the transaction of the payment 4. -/
def disputeNote (kind : DisputeKind) (status : String) : Delivery where
  now := 0
  notification := some ⟨.dispute kind, some ⟨"first", status, some 30, "GBP",
    some ⟨"txn", decimalUuid.write 4, "Visa"⟩, none⟩, none⟩
  stale := false

/-- The dispute of `disputeNote`. -/
def firstDispute : DisputeCase := ⟨"first", "txn", decimalUuid.write 4, 4⟩

theorem starts_firstDispute :
    firstDispute.Starts plainEnv (.initial (fun _ => some plainPayment) fun _ => none) where
  key := decimalUuid.read_write 4
  payment := rfl
  dispute _ := rfl
  transaction _ he := absurd he List.not_mem_nil

/-- What the handler reads in a notification of `firstDispute`. -/
def firstSummary (status : String) : DisputeSummary :=
  ⟨"first", some "txn", some (decimalUuid.write 4), status, some 30, "GBP", some "Visa"⟩

theorem tells_opened : firstDispute.Tells plainEnv (disputeNote .opened "open") :=
  ⟨.opened, firstSummary "open", by decide +kernel, by decide, rfl, rfl, rfl, by decide +kernel,
    by decide +kernel⟩

theorem tells_won : firstDispute.Tells plainEnv (disputeNote .won "won") :=
  ⟨.won, firstSummary "won", by decide +kernel, by decide, rfl, rfl, rfl, by decide +kernel,
    by decide +kernel⟩

/-- A dispute that is won and told of as opened afterwards, twice. -/
theorem last_new_kind_decides_opened :
    ((Runs.run (step plainEnv) (.initial (fun _ => some plainPayment) fun _ => none)
      [disputeNote .won "won", disputeNote .opened "open", disputeNote .won "won"]).payments 4).bind
        PaymentRow.disputeStatus =
      finalStatus plainEnv none (firstDeliveries [(.won, firstSummary "won"),
        (.opened, firstSummary "open"), (.won, firstSummary "won")]) := by
  refine (last_new_kind_decides firstDispute plainEnv
    (.initial (fun _ => some plainPayment) fun _ => none) starts_firstDispute
    [disputeNote .won "won", disputeNote .opened "open", disputeNote .won "won"] ?_).trans ?_
  · intro d hd
    simp only [List.mem_cons, List.not_mem_nil, or_false] at hd
    rcases hd with rfl | rfl | rfl
    · exact tells_won
    · exact tells_opened
    · exact tells_won
  · decide +kernel

/-- The two orders of the same two notifications end differently, and one of them not with the
outcome. -/
theorem order_decides_status :
    ((Runs.run (step plainEnv) (.initial (fun _ => some plainPayment) fun _ => none)
      [disputeNote .opened "open", disputeNote .won "won"]).payments 4).bind
        PaymentRow.disputeStatus = some "WON" ∧
      ((Runs.run (step plainEnv) (.initial (fun _ => some plainPayment) fun _ => none)
        [disputeNote .won "won", disputeNote .opened "open"]).payments 4).bind
          PaymentRow.disputeStatus = some "OPEN" := by
  decide +kernel

end SwCouriers.Webhooks
