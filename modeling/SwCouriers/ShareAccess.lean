import SwCouriers.DocumentShares

/-!
# Shares over Time

What requests do to the codes, the shares and the documents. A share keeps its link and its
recipients; once it is revoked it stays so, and once a document is deleted it does. Anybody with
the link may still ask what became of the share.

## Main results

* `drives`: requests do to the codes what their events say.
* `ages_run`: shares and documents after a run.
* `closed_for_ever`: what is refused once a share is revoked or its document is deleted.
-/

namespace SwCouriers.DocumentShares

open Checked Requests StepUp

variable {env : ShareEnv} {s s' : ShareState} {α : Type}

/-! ### Requests as events -/

/-- A request for a code gets through to the codes. -/
def Reaches (env : ShareEnv) (shareToken : String) (email : EmailStr) (s : ShareState) : Prop :=
  ∃ share, s.getByToken shareToken = some share ∧ assertShareActive s.today share = .ok () ∧
    recipientIsAllowed env share email.text = true

instance (shareToken : String) (email : EmailStr) (s : ShareState) :
    Decidable (Reaches env shareToken email s) :=
  decidable_of_iff ((s.getByToken shareToken).any fun share =>
      (assertShareActive s.today share).isOk && recipientIsAllowed env share email.text) <| by
    simp only [Option.any_eq_true, Bool.and_eq_true, Reaches]
    refine exists_congr fun share => and_congr_right fun _ => and_congr_left fun _ => ?_
    cases assertShareActive s.today share <;> simp [Except.isOk, Except.toBool]

/-- The event that a request is for the codes. -/
def ShareRequest.event (env : ShareEnv) (s : ShareState) (r : ShareRequest) : Event ShareHolder :=
  match r.call with
  | .send shareToken email otpCode =>
      if Reaches env shareToken email (s.tick r.elapsed) then
        sendEvent sharePolicy (holderOf env shareToken email) otpCode (s.stepUp.tick r.elapsed)
      else .quiet
  | .verify shareToken email otpCode =>
      if Reaches env shareToken email (s.tick r.elapsed) then
        verifyEvent sharePolicy env.secrets (holderOf env shareToken email) otpCode
          (s.stepUp.tick r.elapsed)
      else .quiet
  | _ => .quiet

variable {share : OrgDocumentShare} {call : ShareCall} {shareId orgId : Id} {answer : ShareAnswer}

theorem openShare_eq_ok {shareToken : String} :
    openShare shareToken s = .ok share ↔
      s.getByToken shareToken = some share ∧ assertShareActive s.today share = .ok () := by
  unfold openShare getShareForPublicOtp
  rw [bind_eq_ok]
  constructor
  · rintro ⟨share', hfound, h⟩
    obtain ⟨⟨⟩, hactive, h⟩ := bind_eq_ok.mp h
    obtain rfl := pure_eq_ok.mp h
    exact ⟨orRaise_eq_ok.mp hfound, hactive⟩
  · rintro ⟨hfound, hactive⟩
    exact ⟨share, orRaise_eq_ok.mpr hfound, bind_eq_ok.mpr ⟨(), hactive, rfl⟩⟩

section Codes

variable {shareToken : String} {email : EmailStr}

theorem sendShareOtp_of_reaches (otpCode : String) (h : Reaches env shareToken email s) :
    sendShareOtp env shareToken email otpCode s =
      onStepUp (sendOtp sharePolicy (holderOf env shareToken email) otpCode) s := by
  obtain ⟨share, hshare, hactive, hallowed⟩ := h
  refine (Handler.bind_lookup_of_ok (openShare_eq_ok.mpr ⟨hshare, hactive⟩)).trans ?_
  rw [if_pos hallowed]

theorem sendShareOtp_of_not_reaches (otpCode : String) (h : ¬ Reaches env shareToken email s) :
    ∃ answer, sendShareOtp env shareToken email otpCode s = (answer, s) := by
  cases hopen : openShare shareToken s with
  | error e => exact ⟨.error e, Handler.bind_of_error (by rw [Handler.lookup_apply, hopen])⟩
  | ok share =>
      refine ⟨.ok (), (Handler.bind_lookup_of_ok hopen).trans ?_⟩
      obtain ⟨hshare, hactive⟩ := openShare_eq_ok.mp hopen
      rw [if_neg fun hallowed => h ⟨share, hshare, hactive, hallowed⟩]
      rfl

theorem verifyShareOtp_of_reaches (otpCode : String) (h : Reaches env shareToken email s) :
    verifyShareOtp env shareToken email otpCode s =
      onStepUp (verifyOtp sharePolicy env.secrets (holderOf env shareToken email) otpCode) s := by
  obtain ⟨share, hshare, hactive, hallowed⟩ := h
  refine (Handler.bind_lookup_of_ok (openShare_eq_ok.mpr ⟨hshare, hactive⟩)).trans ?_
  exact Handler.bind_check_of_ok (raiseIf_eq_ok (w := ⟨⟩) |>.mpr (by simp [hallowed]))

theorem verifyShareOtp_of_not_reaches (otpCode : String) (h : ¬ Reaches env shareToken email s) :
    ∃ e, verifyShareOtp env shareToken email otpCode s = (.error e, s) := by
  cases hopen : openShare shareToken s with
  | error e => exact ⟨e, Handler.bind_of_error (by rw [Handler.lookup_apply, hopen])⟩
  | ok share =>
      obtain ⟨hshare, hactive⟩ := openShare_eq_ok.mp hopen
      refine ⟨invalidOtp, (Handler.bind_lookup_of_ok hopen).trans (Handler.bind_of_error ?_)⟩
      rw [Handler.check_apply, raiseIf, if_pos]
      exact Bool.eq_false_of_not_eq_true fun hallowed => h ⟨share, hshare, hactive, hallowed⟩

end Codes

/-! ### Requests that leave the codes alone -/

/-- The codes, the tokens and the counters are as they were. -/
def KeepsStepUp (s s' : ShareState) : Prop := s'.stepUp = s.stepUp

instance : Std.Refl KeepsStepUp := ⟨fun _ => rfl⟩

instance : IsTrans ShareState KeepsStepUp := ⟨fun _ _ _ h h' => Eq.trans h' h⟩

open Handler in
theorem moves_openSharedDocument (activityType : OrgDocumentActivityType) (shareToken : String)
    (token : Option String) :
    Handler.Moves KeepsStepUp (openSharedDocument activityType env shareToken token) := by
  refine moves_bind (moves_lookup _) fun _ => moves_bind (moves_lookup _) fun _ => ?_
  refine moves_bind (moves_lookup _) fun _ => moves_bind (moves_write fun _ => rfl) fun _ => ?_
  exact moves_bind (moves_write fun _ => rfl) fun _ => moves_pure _

open Handler in
/-- Requests other than those for codes leave the codes alone, whether they raise or not. -/
theorem moves_handle (hsend : ∀ shareToken email otpCode, call ≠ .send shareToken email otpCode)
    (hverify : ∀ shareToken email otpCode, call ≠ .verify shareToken email otpCode) :
    Handler.Moves KeepsStepUp (call.handle env) := by
  cases call with
  | share orgId docId data =>
      refine moves_bind ?_ fun _ => moves_pure _
      refine moves_bind (moves_lookup _) fun _ => moves_bind (moves_lookup _) fun _ => ?_
      refine moves_bind (moves_lookup _) fun _ => moves_bind (moves_query _) fun _ => ?_
      refine moves_bind (moves_write fun _ => rfl) fun _ => ?_
      exact moves_bind (moves_write fun _ => rfl) fun _ => moves_pure _
  | extend orgId shareId expiryDate reason =>
      refine moves_bind ?_ fun _ => moves_pure _
      refine moves_bind (moves_lookup _) fun _ => moves_bind (moves_lookup _) fun _ => ?_
      refine moves_bind (moves_check _) fun _ => moves_bind (moves_write fun _ => rfl) fun _ => ?_
      exact moves_write fun _ => rfl
  | revoke orgId shareId reason adminUserId =>
      refine moves_bind ?_ fun _ => moves_pure _
      refine moves_bind (moves_lookup _) fun _ => moves_bind (moves_check _) fun _ => ?_
      refine moves_bind (moves_query _) fun _ => moves_bind (moves_write fun _ => rfl) fun _ => ?_
      exact moves_write fun _ => rfl
  | delete orgId docId =>
      refine moves_bind ?_ fun _ => moves_pure _
      refine moves_bind (moves_lookup _) fun _ => moves_bind (moves_write fun _ => rfl) fun _ => ?_
      exact moves_write fun _ => rfl
  | info shareToken =>
      refine moves_bind (moves_bind (moves_lookup _) fun _ => ?_) fun _ => moves_pure _
      exact moves_bind (moves_query _) fun _ => moves_pure _
  | send shareToken email otpCode => exact absurd rfl (hsend shareToken email otpCode)
  | verify shareToken email otpCode => exact absurd rfl (hverify shareToken email otpCode)
  | access shareToken token =>
      exact moves_bind (moves_openSharedDocument _ shareToken token) fun _ => moves_pure _
  | download shareToken token =>
      exact moves_bind (moves_openSharedDocument _ shareToken token) fun _ => moves_pure _

/-- What is left of the codes when a request is over. -/
theorem stepUp_inSession (m : Service α) (s : ShareState) :
    (inSession ShareState.rollback m s).2.stepUp =
      match (m s).1 with
      | .ok _ => (m s).2.stepUp
      | .error _ => StepUp.rollback s.stepUp (m s).2.stepUp := by
  unfold inSession
  rcases m s with ⟨_ | _, _⟩ <;> rfl

theorem stepUp_inSession_of_keeps {m : Service α} (h : KeepsStepUp s (m s).2) :
    (inSession ShareState.rollback m s).2.stepUp = s.stepUp := by
  rw [stepUp_inSession, show (m s).2.stepUp = s.stepUp from h]
  cases (m s).1 <;> rfl

/-- A request that is one for the codes does to them what that one does. -/
theorem stepUp_inSession_onStepUp {β : Type} {m : Service α}
    {n : Handler (Store ShareHolder) AccessError α} {f : α → β} (h : m s = onStepUp n s) :
    (inSession ShareState.rollback (do let a ← m; return f a) s).2.stepUp
      = (inSession StepUp.rollback n s.stepUp).2 := by
  have hbind : (do let a ← m; return f a : Service β) s
      = ((n s.stepUp).1.map f, { s with stepUp := (n s.stepUp).2 }) := by
    change Handler.bind m _ s = _
    rw [Handler.bind, h, onStepUp]
    rcases n s.stepUp with ⟨_ | _, _⟩ <;> rfl
  rw [stepUp_inSession, hbind]
  unfold inSession
  rcases n s.stepUp with ⟨_ | _, _⟩ <;> rfl

/-- A request that ends where it began leaves the codes alone. -/
theorem keepsStepUp_of_eq {β : Type} {m : Service α} {f : α → β} {answer : Except AccessError α}
    (h : m s = (answer, s)) : KeepsStepUp s ((do let a ← m; return f a : Service β) s).2 := by
  change KeepsStepUp s (Handler.bind m _ s).2
  rw [Handler.bind, h]
  cases answer <;> rfl

/-- **Requests do to the codes what their events say.** -/
theorem drives (env : ShareEnv) :
    Drives sharePolicy env.secrets (step env) ShareState.stepUp (ShareRequest.event env) := by
  have hquiet : ∀ (s : ShareState) (r : ShareRequest),
      KeepsStepUp (s.tick r.elapsed) (r.call.handle env (s.tick r.elapsed)).2 →
        Next sharePolicy env.secrets s.stepUp .quiet (step env s r).stepUp :=
    fun s r h => ⟨r.elapsed, trivial, stepUp_inSession_of_keeps h⟩
  rintro s ⟨elapsed, call⟩
  cases call with
  | send shareToken email otpCode =>
      simp only [ShareRequest.event]
      split_ifs with hreaches
      · have hstep := stepUp_inSession_onStepUp (f := fun _ => ShareAnswer.done)
          (sendShareOtp_of_reaches otpCode hreaches)
        exact hstep ▸ next_sendOtp elapsed
      · obtain ⟨answer, hanswer⟩ := sendShareOtp_of_not_reaches otpCode hreaches
        exact hquiet s ⟨elapsed, _⟩ (keepsStepUp_of_eq hanswer)
  | verify shareToken email otpCode =>
      simp only [ShareRequest.event]
      split_ifs with hreaches
      · have hstep := stepUp_inSession_onStepUp (f := ShareAnswer.verified)
          (verifyShareOtp_of_reaches otpCode hreaches)
        exact hstep ▸ next_verifyOtp elapsed
      · obtain ⟨e, he⟩ := verifyShareOtp_of_not_reaches otpCode hreaches
        exact hquiet s ⟨elapsed, _⟩ (keepsStepUp_of_eq he)
  | share orgId docId data =>
      exact hquiet s _ (moves_handle (fun _ _ _ => by simp) (fun _ _ _ => by simp) _)
  | extend orgId shareId expiryDate reason =>
      exact hquiet s _ (moves_handle (fun _ _ _ => by simp) (fun _ _ _ => by simp) _)
  | revoke orgId shareId reason adminUserId =>
      exact hquiet s _ (moves_handle (fun _ _ _ => by simp) (fun _ _ _ => by simp) _)
  | delete orgId docId =>
      exact hquiet s _ (moves_handle (fun _ _ _ => by simp) (fun _ _ _ => by simp) _)
  | info shareToken =>
      exact hquiet s _ (moves_handle (fun _ _ _ => by simp) (fun _ _ _ => by simp) _)
  | access shareToken token =>
      exact hquiet s _ (moves_handle (fun _ _ _ => by simp) (fun _ _ _ => by simp) _)
  | download shareToken token =>
      exact hquiet s _ (moves_handle (fun _ _ _ => by simp) (fun _ _ _ => by simp) _)

/-! ### What a request does to the shares -/

/-- The same share, later: it keeps its link and its recipients, and stays revoked. -/
structure OrgDocumentShare.Continues (share share' : OrgDocumentShare) : Prop where
  id : share'.id = share.id
  documentId : share'.documentId = share.documentId
  shareToken : share'.shareToken = share.shareToken
  recipients : share'.recipients = share.recipients
  otpRequired : share'.otpRequired = share.otpRequired
  revoked : share.status = .revoked → share'.status = .revoked

theorem OrgDocumentShare.Continues.refl (share : OrgDocumentShare) : share.Continues share :=
  ⟨rfl, rfl, rfl, rfl, rfl, fun h => h⟩

theorem OrgDocumentShare.Continues.trans {a b c : OrgDocumentShare} (h : a.Continues b)
    (h' : b.Continues c) : a.Continues c where
  id := h'.id.trans h.id
  documentId := h'.documentId.trans h.documentId
  shareToken := h'.shareToken.trans h.shareToken
  recipients := h'.recipients.trans h.recipients
  otpRequired := h'.otpRequired.trans h.otpRequired
  revoked := fun hrevoked => h'.revoked (h.revoked hrevoked)

/-- The shares and the documents, later. -/
structure Ages (s s' : ShareState) : Prop where
  shares : ∀ share ∈ s.shares.rows, ∃ share' ∈ s'.shares.rows, share.Continues share'
  documents : ∀ doc ∈ s.documents.rows, doc.isActive = false →
    ∃ doc' ∈ s'.documents.rows, doc'.id = doc.id ∧ doc'.isActive = false

/-- What is not in these two tables does not matter. -/
theorem Ages.of_eq (hshares : s'.shares = s.shares) (hdocuments : s'.documents = s.documents) :
    Ages s s' := by
  refine ⟨fun share hshare => ⟨share, ?_, .refl share⟩, fun doc hdoc h => ⟨doc, ?_, rfl, h⟩⟩
  · rwa [hshares]
  · rwa [hdocuments]

theorem Ages.refl (s : ShareState) : Ages s s := .of_eq rfl rfl

theorem Ages.trans {s₁ s₂ s₃ : ShareState} (h : Ages s₁ s₂) (h' : Ages s₂ s₃) : Ages s₁ s₃ := by
  refine ⟨fun share hshare => ?_, fun doc hdoc hinactive => ?_⟩
  · obtain ⟨share₂, hshare₂, hcont⟩ := h.shares share hshare
    obtain ⟨share₃, hshare₃, hcont'⟩ := h'.shares share₂ hshare₂
    exact ⟨share₃, hshare₃, hcont.trans hcont'⟩
  · obtain ⟨doc₂, hdoc₂, hid, hinactive₂⟩ := h.documents doc hdoc hinactive
    obtain ⟨doc₃, hdoc₃, hid', hinactive₃⟩ := h'.documents doc₂ hdoc₂ hinactive₂
    exact ⟨doc₃, hdoc₃, hid'.trans hid, hinactive₃⟩

/-- An update of a share that it survives. -/
theorem ages_modify {f : OrgDocumentShare → OrgDocumentShare} (hshares : s'.shares.rows =
      s.shares.rows.map fun share => if share.id = shareId then f share else share)
    (hdocuments : s'.documents = s.documents)
    (hcont : ∀ share ∈ s.shares.rows, share.id = shareId → share.Continues (f share)) :
    Ages s s' := by
  refine ⟨fun share hshare => ?_, fun doc hdoc h => ⟨doc, hdocuments ▸ hdoc, rfl, h⟩⟩
  rw [hshares]
  refine ⟨_, List.mem_map_of_mem hshare, ?_⟩
  split_ifs with hid
  · exact hcont share hshare hid
  · exact .refl share

/-- **Shares and documents age** with every accepted request. -/
theorem Change.ages (h : Change env s call answer s') : Ages s s' := by
  cases h with
  | shared hdoc =>
      exact ⟨fun share hshare => ⟨share, Table.mem_insert_of_mem hshare, .refl share⟩,
        fun doc hdoc h => ⟨doc, hdoc, rfl, h⟩⟩
  | extended hshare horg hlive =>
      refine ages_modify rfl rfl fun share hmem hid => ?_
      -- Only a share that is not revoked is extended.
      obtain ⟨hmem', hid'⟩ := Table.find?_eq_some_iff.mp hshare
      rw [← Table.eq_of_key hmem hmem' (hid.trans hid'.symm)] at hlive
      exact ⟨rfl, rfl, rfl, rfl, rfl, fun hrevoked => absurd hrevoked hlive⟩
  | revoked hshare horg hlive =>
      refine ages_modify rfl rfl fun share _ _ => ?_
      exact ⟨rfl, rfl, rfl, rfl, rfl, fun _ => rfl⟩
  | deleted hdoc =>
      refine ⟨fun share hshare => ⟨share, hshare, .refl share⟩, fun doc hmem hinactive => ?_⟩
      refine ⟨_, List.mem_map_of_mem hmem, ?_⟩
      split_ifs <;> simp [hinactive]
  | looked hfound => exact .refl s
  | sent hopen t => exact .of_eq rfl rfl
  | verified hopen t => exact .of_eq rfl rfl
  | opened hcall hopen hotp hdoc =>
      refine ages_modify rfl rfl fun share _ _ => ?_
      exact ⟨rfl, rfl, rfl, rfl, rfl, fun hrevoked => by simp [incrementAccessCount, hrevoked]⟩

/-- A request is accepted, or leaves everything but the codes as it was. -/
theorem submit_cases (env : ShareEnv) (s : ShareState) (r : ShareRequest) :
    (∃ answer, (r.submit env s).1 = .ok answer ∧
      Change env (s.tick r.elapsed) r.call answer (step env s r)) ∨
    ∃ e t, (r.submit env s).1 = .error e ∧
      step env s r = { s.tick r.elapsed with stepUp := t } := by
  unfold step ShareRequest.submit inSession
  split
  · rename_i answer s' h
    exact .inl ⟨answer, rfl, change_of_ok h⟩
  · rename_i e s' h
    exact .inr ⟨e, _, rfl, rfl⟩

/-- What a request that was accepted has done. -/
theorem change_of_submit {r : ShareRequest} (h : (r.submit env s).1 = .ok answer) :
    Change env (s.tick r.elapsed) r.call answer (step env s r) := by
  rcases submit_cases env s r with ⟨answer', h', hchange⟩ | ⟨e, t, h', -⟩
  · rw [h] at h'
    exact Except.ok.inj h' ▸ hchange
  · rw [h] at h'
    exact absurd h' (by simp)

theorem ages_step (env : ShareEnv) (s : ShareState) (r : ShareRequest) : Ages s (step env s r) := by
  have htick : Ages s (s.tick r.elapsed) := .of_eq rfl rfl
  rcases submit_cases env s r with ⟨answer, -, h⟩ | ⟨e, t, -, h⟩
  · exact htick.trans h.ages
  · rw [h]
    exact .of_eq rfl rfl

theorem ages_run (env : ShareEnv) (s : ShareState) (requests : List ShareRequest) :
    Ages s (Runs.run (step env) s requests) :=
  Runs.rel_run_of_along Ages.refl (fun _ _ _ => Ages.trans)
    (Runs.along_of_invariant (I := fun _ => True) (fun _ _ _ => trivial)
      (fun s r _ => ages_step env s r) trivial requests)

/-- Every share has the link that was drawn for it. -/
def Linked (env : ShareEnv) (s : ShareState) : Prop :=
  ∀ share ∈ s.shares.rows, share.shareToken = env.shareToken share.id

theorem mem_of_getByToken {shareToken : String} (h : s.getByToken shareToken = some share) :
    share ∈ s.shares.rows ∧ share.shareToken = shareToken := by
  rw [ShareState.getByToken] at h
  exact ⟨List.mem_of_find?_eq_some h, by simpa using List.find?_some h⟩

/-- The link of a share leads to it. -/
theorem Linked.getByToken_iff (h : Linked env s) :
    s.getByToken (env.shareToken shareId) = some share ↔ share ∈ s.shares.rows ∧
      share.id = shareId := by
  constructor
  · intro hfound
    obtain ⟨hmem, htoken⟩ := mem_of_getByToken hfound
    exact ⟨hmem, env.shareToken_injective ((h share hmem).symm.trans htoken)⟩
  · rintro ⟨hmem, rfl⟩
    have hsome : (s.getByToken (env.shareToken share.id)).isSome = true :=
      List.find?_isSome.mpr ⟨share, hmem, decide_eq_true (h share hmem)⟩
    obtain ⟨found, hfound⟩ := Option.isSome_iff_exists.mp hsome
    obtain ⟨hmem', htoken⟩ := mem_of_getByToken hfound
    rw [h found hmem'] at htoken
    rw [hfound, Table.eq_of_key hmem' hmem (env.shareToken_injective htoken)]

theorem linked_modify (h : Linked env s) {f : OrgDocumentShare → OrgDocumentShare}
    (hshares : s'.shares.rows =
      s.shares.rows.map fun share => if share.id = shareId then f share else share)
    (hf : ∀ share, (f share).id = share.id)
    (htoken : ∀ share, (f share).shareToken = share.shareToken) : Linked env s' := by
  intro share hshare
  rw [hshares] at hshare
  obtain ⟨share₀, hshare₀, rfl⟩ := List.mem_map.mp hshare
  split_ifs
  · rw [htoken, hf]
    exact h share₀ hshare₀
  · exact h share₀ hshare₀

theorem Change.linked (h : Change env s call answer s') (hs : Linked env s) : Linked env s' := by
  cases h with
  | shared hdoc =>
      intro share hshare
      rcases Table.mem_or_eq_of_mem_insert hshare with hshare | rfl
      · exact hs share hshare
      · rfl
  | extended hshare horg hlive => exact linked_modify hs rfl (fun _ => rfl) fun _ => rfl
  | revoked hshare horg hlive => exact linked_modify hs rfl (fun _ => rfl) fun _ => rfl
  | opened hcall hopen hotp hdoc => exact linked_modify hs rfl (fun _ => rfl) fun _ => rfl
  | deleted hdoc => exact hs
  | looked hfound => exact hs
  | sent hopen t => exact hs
  | verified hopen t => exact hs

theorem linked_run (hs : Linked env s) (requests : List ShareRequest) :
    Linked env (Runs.run (step env) s requests) := by
  refine Runs.run_invariant (fun s r hs => ?_) hs requests
  rcases submit_cases env s r with ⟨answer, -, h⟩ | ⟨e, t, -, h⟩
  · exact h.linked hs
  · rw [h]
    exact hs

/-! ### Closed links -/

/-- A call that is about a code for the link of a share, opens the link, or changes the share. -/
def ShareCall.Uses (env : ShareEnv) (shareId : Id) : ShareCall → Prop
  | .extend _ shareId' _ _ | .revoke _ shareId' _ _ => shareId' = shareId
  | .send shareToken _ _ | .verify shareToken _ _ | .access shareToken _ | .download shareToken _ =>
      shareToken = env.shareToken shareId
  | .share _ _ _ | .delete _ _ | .info _ => False

/-- Nobody gets through to a share that is revoked, nor to one that has expired. -/
theorem assertShareActive_eq_ok {today : Day} :
    assertShareActive today share = .ok () ↔
      share.status ≠ .revoked ∧ (∀ day ∈ share.expiryDate, today ≤ day) ∧
        share.status ≠ .expired := by
  have hday : (share.expiryDate.any fun day => day < today) = true ↔
      ¬ ∀ day ∈ share.expiryDate, today ≤ day := by
    cases share.expiryDate <;> simp
  rw [assertShareActive, bind_eq_ok]
  simp only [raiseIf_eq_ok]
  by_cases hrevoked : share.status = .revoked
  · have heffective : effectiveShareStatus today share = .revoked := if_pos hrevoked
    simp [heffective, hrevoked]
  · by_cases hlate : (share.expiryDate.any fun day => day < today) = true
    · have heffective : effectiveShareStatus today share = .expired := by
        rw [effectiveShareStatus, if_neg hrevoked, if_pos hlate]
      rw [heffective]
      exact ⟨fun ⟨_, _, h⟩ => absurd rfl h, fun ⟨_, h, _⟩ => absurd h (hday.mp hlate)⟩
    · have heffective : effectiveShareStatus today share = share.status := by
        rw [effectiveShareStatus, if_neg hrevoked, if_neg hlate]
      have hopen := not_not.mp (mt hday.mpr hlate)
      rw [heffective]
      exact ⟨fun ⟨_, _, h⟩ => ⟨hrevoked, hopen, h⟩, fun ⟨_, _, h⟩ => ⟨⟨⟩, hrevoked, h⟩⟩

/-- A share that is revoked cannot be used. -/
theorem Change.not_uses_of_revoked (hs : Linked env s) (h : Change env s call answer s')
    (hshare : share ∈ s.shares.rows) (hrevoked : share.status = .revoked) :
    ¬ call.Uses env share.id := by
  have hfound : ∀ {shareId : Id} {found : OrgDocumentShare}, shareId = share.id →
      s.shares.find? shareId = some found → found.status = .revoked := by
    rintro shareId found rfl h
    rw [Table.find?_eq_some_iff.mpr ⟨hshare, rfl⟩] at h
    exact Option.some.inj h ▸ hrevoked
  have hlink : ∀ {shareToken : String} {found : OrgDocumentShare},
      shareToken = env.shareToken share.id → openShare shareToken s ≠ .ok found := by
    rintro shareToken found rfl hopen
    obtain ⟨hget, hactive⟩ := openShare_eq_ok.mp hopen
    obtain ⟨hmem, hid⟩ := hs.getByToken_iff.mp hget
    rw [Table.eq_of_key hmem hshare hid] at hactive
    exact (assertShareActive_eq_ok.mp hactive).1 hrevoked
  cases h with
  | shared hdoc => exact id
  | deleted hdoc => exact id
  | looked hfound => exact id
  | extended hshare' horg hlive => exact fun huses => hlive (hfound huses hshare')
  | revoked hshare' horg hlive => exact fun huses => hlive (hfound huses hshare')
  | sent hopen t => exact fun huses => hlink huses hopen
  | verified hopen t => exact fun huses => hlink huses hopen
  | opened hcall hopen hotp hdoc =>
      rcases hcall with ⟨rfl, -⟩ | ⟨rfl, -⟩
      · exact fun huses => hlink huses hopen
      · exact fun huses => hlink huses hopen

/-- A document that was deleted is not given out. -/
theorem Change.not_opens_of_deleted (hs : Linked env s) (h : Change env s call answer s')
    (hshare : share ∈ s.shares.rows) {doc : OrgDocument} (hdoc : doc ∈ s.documents.rows)
    (hid : doc.id = share.documentId) (hinactive : doc.isActive = false) (token : Option String) :
    ¬ (call = .access share.shareToken token ∨ call = .download share.shareToken token) := by
  have hlink : ∀ {shareToken : String} {found : OrgDocumentShare} {doc' : OrgDocument},
      shareToken = share.shareToken → openShare shareToken s = .ok found →
        activeDocument found.documentId s ≠ .ok doc' := by
    rintro shareToken found doc' rfl hopen hactive
    obtain ⟨hget, -⟩ := openShare_eq_ok.mp hopen
    rw [hs share hshare] at hget
    obtain ⟨hmem, hsame⟩ := hs.getByToken_iff.mp hget
    obtain ⟨hmem', hid', hlive⟩ := activeDocument_eq_ok hactive
    rw [Table.eq_of_key hmem hshare hsame, ← hid] at hid'
    rw [Table.eq_of_key hmem' hdoc hid', hinactive] at hlive
    exact Bool.false_ne_true hlive
  rintro (rfl | rfl)
  · cases h with
    | opened hcall hopen hotp hactive =>
        rcases hcall with ⟨hcall, -⟩ | ⟨hcall, -⟩
        · exact hlink (ShareCall.access.inj hcall).1.symm hopen hactive
        · exact ShareCall.noConfusion hcall
  · cases h with
    | opened hcall hopen hotp hactive =>
        rcases hcall with ⟨hcall, -⟩ | ⟨hcall, -⟩
        · exact ShareCall.noConfusion hcall
        · exact hlink (ShareCall.download.inj hcall).1.symm hopen hactive

/-- What a revocation leaves behind. -/
theorem Change.exists_revoked {adminUserId : Id} {reason : String}
    (h : Change env s (.revoke orgId shareId reason adminUserId) answer s') :
    ∃ share ∈ s'.shares.rows, share.id = shareId ∧ share.status = .revoked := by
  cases h with
  | revoked hshare horg hlive =>
      obtain ⟨hmem, hid⟩ := Table.find?_eq_some_iff.mp hshare
      exact ⟨_, List.mem_map_of_mem hmem, by simp [hid, OrgDocumentShare.revoke]⟩
  | opened hcall => rcases hcall with ⟨hcall, -⟩ | ⟨hcall, -⟩ <;> exact ShareCall.noConfusion hcall

/-- What a deletion leaves behind. -/
theorem Change.exists_inactive {docId : Id} (h : Change env s (.delete orgId docId) answer s') :
    ∃ doc ∈ s'.documents.rows, doc.id = docId ∧ doc.isActive = false := by
  cases h with
  | deleted hdoc =>
      obtain ⟨hmem, hid, -⟩ := getActiveByOrgAndId_eq_ok hdoc
      exact ⟨_, List.mem_map_of_mem hmem, by simp [hid]⟩
  | opened hcall => rcases hcall with ⟨hcall, -⟩ | ⟨hcall, -⟩ <;> exact ShareCall.noConfusion hcall

/-- A request that is refused. -/
def ShareRequest.Refused (env : ShareEnv) (s : ShareState) (r : ShareRequest) : Prop :=
  ∃ e, (r.submit env s).1 = .error e

theorem linked_initial (env : ShareEnv) (organizations : List Id)
    (documents : Table OrgDocument.id) (now : Instant) :
    Linked env (ShareState.initial organizations documents now) :=
  fun _ hshare => absurd hshare List.not_mem_nil

/-! ### A guest -/

/-- Links that can be told apart by their lengths. -/
def plainEnv : ShareEnv where
  lower := id
  secrets := letterSecrets
  shareToken n := String.ofList (List.replicate n 'b')
  shareToken_injective := fun m n h => by
    have hlength := congrArg (fun text : String => text.toList.length) h
    simpa using hlength
  documentUrl := id

/-- The address that is invited. -/
def guest : EmailStr := ⟨"guest@mail.com", by decide⟩

/-- The only document. -/
def oneDocument : Table OrgDocument.id := .singleton ⟨1, 1, true, "docs/1.pdf"⟩

/-- A guest is invited to the document, and exchanges a code. -/
def oneGuest : List ShareRequest :=
  [⟨0, .share 1 1 ⟨[guest], none, true⟩⟩, ⟨0, .send "b" guest "123456"⟩,
    ⟨0, .verify "b" guest "123456"⟩]

/-- Whoever asks about a share is told. -/
theorem submit_info {shareToken : String} (elapsed : ℕ)
    (hfound : s.getByToken shareToken = some share) :
    (ShareRequest.submit env s ⟨elapsed, .info shareToken⟩).1
      = .ok (.info (share.info (s.tick elapsed).today)) := by
  have hrun : getShareInfo shareToken (s.tick elapsed)
      = (.ok (share.info (s.tick elapsed).today), s.tick elapsed) :=
    Handler.bind_lookup_of_ok (orRaise_eq_ok.mpr hfound)
  have hhandle : (ShareCall.info shareToken).handle env (s.tick elapsed)
      = (.ok (.info (share.info (s.tick elapsed).today)), s.tick elapsed) :=
    Handler.bind_pure_eq_ok.mpr ⟨_, hrun, rfl⟩
  simp only [ShareRequest.submit, inSession, hhandle]

/-- A share that was revoked is there, and still is. -/
theorem exists_revoked_run {before : List ShareRequest} (after : List ShareRequest)
    {closing : ShareRequest}
    (hok : (closing.submit env (Runs.run (step env) s before)).1 = .ok answer) {adminUserId : Id}
    {reason : String} (hcall : closing.call = .revoke orgId shareId reason adminUserId) :
    ∃ share ∈ (Runs.run (step env) s (before ++ closing :: after)).shares.rows,
      share.id = shareId ∧ share.status = .revoked := by
  rw [Runs.run_append_cons]
  have hchange := change_of_submit hok
  rw [hcall] at hchange
  obtain ⟨share, hshare, hid, hrevoked⟩ := hchange.exists_revoked
  obtain ⟨share', hshare', hcont⟩ := (ages_run env _ after).shares share hshare
  exact ⟨share', hshare', hcont.id.trans hid, hcont.revoked hrevoked⟩

/-- A document that was deleted still is. -/
theorem exists_inactive_run {before : List ShareRequest} (after : List ShareRequest)
    {closing : ShareRequest}
    (hok : (closing.submit env (Runs.run (step env) s before)).1 = .ok answer) {docId : Id}
    (hcall : closing.call = .delete orgId docId) :
    ∃ doc ∈ (Runs.run (step env) s (before ++ closing :: after)).documents.rows,
      doc.id = docId ∧ doc.isActive = false := by
  rw [Runs.run_append_cons]
  have hchange := change_of_submit hok
  rw [hcall] at hchange
  obtain ⟨doc, hdoc, hid, hinactive⟩ := hchange.exists_inactive
  obtain ⟨doc', hdoc', hid', hinactive'⟩ := (ages_run env _ after).documents doc hdoc hinactive
  exact ⟨doc', hdoc', hid'.trans hid, hinactive'⟩

/-- **Once a share is revoked**, no code is sent or exchanged for its link any more, nobody opens
or downloads the document through it, extends the share or revokes it again, and whoever asks about
it is told that it is revoked; once a document is deleted, none of its links gives out its
address. -/
theorem closed_for_ever (env : ShareEnv) (organizations : List Id)
    (documents : Table OrgDocument.id) (now : Instant)
    (before after : List ShareRequest) (closing r : ShareRequest)
    {answer : ShareAnswer}
    (hok : (closing.submit env
      (Runs.run (step env) (.initial organizations documents now) before)).1 = .ok answer) :
    let s := Runs.run (step env) (.initial organizations documents now)
      (before ++ closing :: after)
    (∀ orgId shareId reason adminUserId, closing.call = .revoke orgId shareId reason adminUserId →
        (r.call.Uses env shareId → r.Refused env s) ∧
        (r.call = .info (env.shareToken shareId) →
          ∃ info, (r.submit env s).1 = .ok (.info info) ∧ info.status = .revoked)) ∧
      ∀ orgId docId, closing.call = .delete orgId docId → ∀ share ∈ s.shares.rows,
        share.documentId = docId → ∀ token,
          r.call = .access share.shareToken token ∨ r.call = .download share.shareToken token →
            r.Refused env s := by
  intro s
  have hlinked : Linked env s := linked_run (linked_initial env organizations documents now) _
  have htick : Linked env (s.tick r.elapsed) := hlinked
  refine ⟨fun orgId shareId reason adminUserId hcall => ?_,
    fun orgId docId hcall share hshare hdocument token hopens => ?_⟩
  · obtain ⟨share, hshare, rfl, hrevoked⟩ := exists_revoked_run after hok hcall
    refine ⟨fun huses => ?_, fun hinfo => ?_⟩
    · rcases submit_cases env s r with ⟨answer', -, h⟩ | ⟨e, t, h, -⟩
      · exact absurd huses (h.not_uses_of_revoked htick hshare hrevoked)
      · exact ⟨e, h⟩
    · obtain ⟨elapsed, call⟩ := r
      obtain rfl : call = .info (env.shareToken share.id) := hinfo
      refine ⟨_, submit_info elapsed (hlinked.getByToken_iff.mpr ⟨hshare, rfl⟩), ?_⟩
      exact if_pos hrevoked
  · obtain ⟨doc, hdoc, hid, hinactive⟩ := exists_inactive_run after hok hcall
    rcases submit_cases env s r with ⟨answer', -, h⟩ | ⟨e, t, h, -⟩
    · exact absurd hopens
        (h.not_opens_of_deleted htick hshare hdoc (hid.trans hdocument.symm) hinactive token)
    · exact ⟨e, h⟩

/-- The guest's token is of no use after the share is revoked. -/
theorem closed_for_ever_guest :
    ShareRequest.Refused plainEnv
      (Runs.run (step plainEnv) (.initial [1] oneDocument 0)
        (oneGuest ++ [⟨0, .revoke 1 1 "Shared by mistake." 9⟩]))
      ⟨0, .access "b" (some "a")⟩ :=
  ((closed_for_ever plainEnv [1] oneDocument 0 oneGuest [] ⟨0, .revoke 1 1 "Shared by mistake." 9⟩
    ⟨0, .access "b" (some "a")⟩ (show _ = Except.ok ShareAnswer.done from rfl)).1 1 1 _ _ rfl).1 rfl

end SwCouriers.DocumentShares
