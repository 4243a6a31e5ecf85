import SwCouriers.ShareAccess

/-!
# What Lies behind the Address of a Shared Document

Whoever is given the address of a shared document has its link, and the share was neither revoked
nor has it expired. If the share is protected, they have exchanged a code that was sent to an
invited address, not long before.

## Main results

* `shared_access_traced`: what is behind every address that is given out.
* `wrong_share_codes_le`: how many wrong codes are looked up while a code can be used.
* `access_counts_match`: the counters of the shares and the log of activities agree.
-/

namespace SwCouriers.DocumentShares

open Checked Requests StepUp

variable {env : ShareEnv} {s s' : ShareState}

/-! ### Codes and tokens of a link -/

/-- Who has a code sent. -/
theorem of_event_sent {r : ShareRequest} {otp : Otp ShareHolder}
    (h : r.event env s = .sent otp) :
    ∃ email, r.call = .send otp.holder.shareToken email otp.otpCode ∧
      env.lower email.text = otp.holder.recipientEmail ∧
      Reaches env otp.holder.shareToken email (s.tick r.elapsed) ∧
      (r.submit env s).1 = .ok .done := by
  obtain ⟨elapsed, call⟩ := r
  cases call with
  | send shareToken email otpCode =>
      simp only [ShareRequest.event] at h
      split_ifs at h with hreaches
      simp only [sendEvent] at h
      split_ifs at h with hroom
      obtain rfl := Event.sent.inj h
      refine ⟨email, rfl, rfl, hreaches, answer_inSession (a := ()) ?_⟩
      rw [sendShareOtp_of_reaches otpCode hreaches, onStepUp, sendOtp_apply]
      exact congrArg Prod.fst (if_pos hroom)
  | verify shareToken email otpCode =>
      simp only [ShareRequest.event, verifyEvent] at h
      split_ifs at h
      split at h <;> simp at h
  | share | extend | revoke | delete | info | access | download =>
      exact absurd h (by simp [ShareRequest.event])

/-- Who exchanges a code. -/
theorem of_event_verified {r : ShareRequest} {otp : Otp ShareHolder}
    {token : AccessToken ShareHolder} (h : r.event env s = .verified otp token) :
    ∃ email verified, r.call = .verify otp.holder.shareToken email otp.otpCode ∧
      env.lower email.text = otp.holder.recipientEmail ∧
      Reaches env otp.holder.shareToken email (s.tick r.elapsed) ∧
      (r.submit env s).1 = .ok (.verified verified) ∧
      env.secrets.hashToken verified.accessToken = token.tokenHash := by
  obtain ⟨elapsed, call⟩ := r
  cases call with
  | verify shareToken email otpCode =>
      simp only [ShareRequest.event] at h
      split_ifs at h with hreaches
      simp only [verifyEvent] at h
      split_ifs at h with hlocked
      have hfree := Bool.eq_false_of_not_eq_true hlocked
      cases hfound :
          (s.stepUp.tick elapsed).findValidOtp (holderOf env shareToken email) otpCode with
      | none => simp [hfound] at h
      | some found =>
          rw [hfound] at h
          obtain ⟨rfl, rfl⟩ := Event.verified.inj h
          obtain ⟨-, hholder, rfl, -⟩ := mem_of_findValidOtp hfound
          rw [hholder]
          refine ⟨email, sharePolicy.issued env.secrets (s.stepUp.tick elapsed), rfl, rfl, hreaches,
            answer_inSession ?_, rfl⟩
          rw [verifyShareOtp_of_reaches _ hreaches, onStepUp]
          change (verifyOtp _ _ _ _ (s.stepUp.tick elapsed)).1 = _
          rw [verifyOtp_apply hfree, hfound]
  | send shareToken email otpCode =>
      simp only [ShareRequest.event, sendEvent] at h
      split_ifs at h
  | share | extend | revoke | delete | info | access | download =>
      exact absurd h (by simp [ShareRequest.event])

/-! ### Whoever is given an address -/

/-- Before the requests are over, a code was sent to an address that the share is for, and
exchanged for the token within ten minutes, less than an hour before `time`. -/
def CodeExchanged (env : ShareEnv) (s₀ : ShareState) (requests : List ShareRequest)
    (share : OrgDocumentShare) (token : Option String) (time : Instant) : Prop :=
  ∃ pre sent mid verify post sentTo email otpCode verified,
    requests = pre ++ sent :: mid ++ verify :: post ∧
    sent.call = .send share.shareToken sentTo otpCode ∧
    env.lower sentTo.text = env.lower email.text ∧
    (sent.submit env (Runs.run (step env) s₀ pre)).1 = .ok .done ∧
    verify.call = .verify share.shareToken email otpCode ∧
    (verify.submit env (Runs.run (step env) s₀ (pre ++ sent :: mid))).1
      = .ok (.verified verified) ∧
    recipientIsAllowed env share email.text = true ∧
    token.map env.secrets.hashToken = some (env.secrets.hashToken verified.accessToken) ∧
    (Runs.run (step env) s₀ (pre ++ sent :: mid ++ [verify])).stepUp.now
      < (Runs.run (step env) s₀ (pre ++ [sent])).stepUp.now + seconds (10 * 60) ∧
    time < (Runs.run (step env) s₀ (pre ++ sent :: mid ++ [verify])).stepUp.now + seconds 3600

/-- A token that is accepted for a link is in the table, and can be used for it. -/
theorem exists_token_of_validate {shareToken : String} {token : Option String}
    (h : validateOtpTokenForShare env shareToken token s = .ok ()) :
    ∃ row ∈ s.stepUp.tokens.rows, token.map env.secrets.hashToken = some row.tokenHash ∧
      row.holder.shareToken = shareToken ∧ row.isValid s.stepUp.now = true := by
  obtain ⟨text, htext, h⟩ := orRaise_bind_eq_ok.mp h
  obtain ⟨row, hrow, -⟩ := bind_eq_ok.mp h
  obtain ⟨hfound, hvalid⟩ := Option.filter_eq_some_iff.mp (orRaise_eq_ok.mp hrow)
  obtain ⟨hmem, hhash⟩ := Table.find?_eq_some_iff.mp hfound
  simp only [Bool.and_eq_true, decide_eq_true_eq] at hvalid
  refine ⟨row, hmem, ?_, hvalid⟩
  rw [(Option.filter_eq_some_iff.mp htext).1, Option.map_some, hhash]

/-- Time alone does nothing to shares and documents. -/
theorem Ages.tick (h : Ages s s') (m n : ℕ) : Ages (s.tick m) (s'.tick n) :=
  ⟨h.shares, h.documents⟩

/-- Whoever reached the codes of a link then was invited to what the link leads to now. -/
theorem allowed_of_reaches {shareToken : String} {email : EmailStr} (hs' : Linked env s')
    (hages : Ages s s') (h : Reaches env shareToken email s)
    {share : OrgDocumentShare} (hshare : s'.getByToken shareToken = some share) :
    recipientIsAllowed env share email.text = true := by
  obtain ⟨before, hget, -, hallowed⟩ := h
  obtain ⟨hmem, htoken⟩ := mem_of_getByToken hget
  obtain ⟨after, hafter, hcont⟩ := hages.shares before hmem
  rw [← htoken, ← hcont.shareToken, hs' after hafter] at hshare
  obtain ⟨hmem', hid⟩ := hs'.getByToken_iff.mp hshare
  rw [Table.eq_of_key hmem' hafter hid, recipientIsAllowed, hcont.recipients]
  exact hallowed

/-- What a request for an address has checked. -/
theorem Change.of_url {call : ShareCall} {shareToken url : String} {token : Option String}
    (h : Change env s call (.url url) s')
    (hcall : call = .access shareToken token ∨ call = .download shareToken token) :
    ∃ share doc, openShare shareToken s = .ok share ∧
      (share.otpRequired = true → validateOtpTokenForShare env shareToken token s = .ok ()) ∧
      activeDocument share.documentId s = .ok doc ∧ url = env.documentUrl doc.r2Key := by
  cases h with
  | opened hcall' hopen hotp hdoc =>
      rcases hcall with rfl | rfl <;> rcases hcall' with ⟨heq, -⟩ | ⟨heq, -⟩
      · obtain ⟨rfl, rfl⟩ := ShareCall.access.inj heq
        exact ⟨_, _, hopen, hotp, hdoc, rfl⟩
      · exact ShareCall.noConfusion heq
      · exact ShareCall.noConfusion heq
      · obtain ⟨rfl, rfl⟩ := ShareCall.download.inj heq
        exact ⟨_, _, hopen, hotp, hdoc, rfl⟩

/-- **Whoever is given the address** of a document has the link of a share of it, which was not
revoked and has not expired, and the document was not deleted. If the share is protected, a code
was sent to an invited address and exchanged for the token, not long ago. -/
theorem shared_access_traced (env : ShareEnv) (organizations : List Id)
    (documents : Table OrgDocument.id) (now : Instant) (requests : List ShareRequest)
    (r : ShareRequest) {shareToken url : String}
    {token : Option String}
    (hcall : r.call = .access shareToken token ∨ r.call = .download shareToken token)
    (hok : (r.submit env (Runs.run (step env) (.initial organizations documents now) requests)).1
      = .ok (.url url)) :
    let s := (Runs.run (step env) (.initial organizations documents now) requests).tick r.elapsed
    ∃ share ∈ s.shares.rows, ∃ doc ∈ s.documents.rows, share.shareToken = shareToken ∧
      share.status ≠ .revoked ∧ (∀ day ∈ share.expiryDate, s.today ≤ day) ∧
      doc.id = share.documentId ∧ doc.isActive = true ∧ url = env.documentUrl doc.r2Key ∧
      (share.otpRequired = true →
        CodeExchanged env (.initial organizations documents now) requests share token
          s.stepUp.now) := by
  intro s
  have hchange : Change env s r.call (.url url) _ := change_of_submit hok
  obtain ⟨share, doc, hopen, hotp, hdoc, rfl⟩ := hchange.of_url hcall
  obtain ⟨hget, hactive⟩ := openShare_eq_ok.mp hopen
  obtain ⟨hmem, hlink⟩ := mem_of_getByToken hget
  obtain ⟨hlive, hdays, -⟩ := assertShareActive_eq_ok.mp hactive
  obtain ⟨hdocMem, hdocId, hdocActive⟩ := activeDocument_eq_ok hdoc
  refine ⟨share, hmem, doc, hdocMem, hlink, hlive, hdays, hdocId, hdocActive, rfl,
    fun hrequired => ?_⟩
  obtain ⟨row, hrow, hhash, hholder, hvalid⟩ := exists_token_of_validate (hotp hrequired)
  obtain ⟨hunrevoked, hunexpired⟩ : row.revokedAt = none ∧ s.stepUp.now < row.expiresAt := by
    simpa [AccessToken.isValid] using hvalid
  obtain ⟨pre, sent, mid, verify, post, otp, rfl, hsent, hverified, howner, hexchanged, hexpires,
    -⟩ := exists_sent_verified (drives env) (s := .initial organizations documents now)
      (sound_initial sharePolicy env.secrets now) rfl rfl hrow hunrevoked
  obtain ⟨sentTo, hsend, hsentTo, -, hsendOk⟩ := of_event_sent hsent
  obtain ⟨email, verified, hverify, hemail, hreaches, hverifyOk, hverifyHash⟩ :=
    of_event_verified hverified
  have hotpLink : otp.holder.shareToken = share.shareToken := by
    rw [← howner, hholder, hlink]
  refine ⟨pre, sent, mid, verify, post, sentTo, email, otp.otpCode, verified, rfl, ?_, ?_, hsendOk,
    ?_, hverifyOk, ?_, ?_, hexchanged, ?_⟩
  · rw [hsend, ← hotpLink]
    rfl
  · rw [hsentTo, hemail]
    rfl
  · rw [hverify, hotpLink]
  · -- The share has had the same recipients since.
    have hlinked : Linked env s :=
      linked_run (linked_initial env organizations documents now) _
    have hlater := ages_run env
      (Runs.run (step env) (.initial organizations documents now) (pre ++ sent :: mid))
      (verify :: post)
    rw [← Runs.run_append] at hlater
    have hages : Ages ((Runs.run (step env) (.initial organizations documents now)
        (pre ++ sent :: mid)).tick verify.elapsed) s :=
      hlater.tick _ _
    exact allowed_of_reaches hlinked hages hreaches (by rw [hotpLink, hlink]; exact hget)
  · rw [hhash, hverifyHash]
  · exact hexpires ▸ hunexpired

/-- There is a code behind the address that the guest is given. -/
theorem shared_access_traced_guest :
    ∃ share, share.otpRequired = true ∧
      CodeExchanged plainEnv (.initial [1] oneDocument 0) oneGuest share (some "a") 0 := by
  obtain ⟨share, hshare, -, -, -, -, -, -, -, -, hexchanged⟩ :=
    shared_access_traced plainEnv [1] oneDocument 0 oneGuest ⟨0, .access "b" (some "a")⟩ (.inl rfl)
      (show _ = Except.ok (ShareAnswer.url "docs/1.pdf") from rfl)
  obtain rfl := List.mem_singleton.mp hshare
  exact ⟨_, rfl, hexchanged rfl⟩

/-! ### Guessing -/

/-- **How often a code of a link can be guessed at.** From when it is sent, and for as long as it
can be used, at most eight wrong codes are looked up for the link and the address. -/
theorem wrong_share_codes_le (env : ShareEnv) (organizations : List Id)
    (documents : Table OrgDocument.id) (now : Instant) (pre mid : List ShareRequest)
    (sent : ShareRequest) (otp : Otp ShareHolder)
    (hsent : sent.event env (Runs.run (step env) (.initial organizations documents now) pre)
      = .sent otp)
    (hthere : otp ∈ (Runs.run (step env) (.initial organizations documents now)
      (pre ++ sent :: mid)).stepUp.otps.rows)
    (hlives : (Runs.run (step env) (.initial organizations documents now)
      (pre ++ sent :: mid)).stepUp.now < otp.expiresAt) :
    Runs.count (step env) (Wrong (ShareRequest.event env) otp.holder)
      (Runs.run (step env) (.initial organizations documents now) (pre ++ [sent])) mid ≤ 8 := by
  have hnext := drives env (Runs.run (step env) (.initial organizations documents now) pre) sent
  rw [hsent] at hnext
  obtain ⟨elapsed, ⟨-, hotp⟩, -⟩ := hnext
  have hunused : otp.isUsed = false := by
    rw [hotp]
    rfl
  have hbound := wrong_codes_le (drives env) (by decide) (by decide) (by decide) (by decide)
    (s := .initial organizations documents now)
    (sound_initial sharePolicy env.secrets now) (fun _ => rfl) hsent fun r hr hid => by
      rw [Table.eq_of_key hr hthere hid, Otp.isValid_eq_true_iff]
      exact ⟨hunused, hlives⟩
  have hmax : sharePolicy.limits.max = 5 := rfl
  rw [Runs.run_append_cons, Runs.run_nil]
  omega

/-- The guest mistypes the code. -/
theorem wrong_share_codes_le_guest :
    Runs.count (step plainEnv)
      (Wrong (ShareRequest.event plainEnv) (holderOf plainEnv "b" guest))
      (Runs.run (step plainEnv) (.initial [1] oneDocument 0) (oneGuest.take 2))
      [⟨0, .verify "b" guest "123465"⟩] ≤ 8 :=
  wrong_share_codes_le plainEnv [1] oneDocument 0 (oneGuest.take 1) _
    ⟨0, .send "b" guest "123456"⟩
    ⟨1, holderOf plainEnv "b" guest, "123456", false, 600000000, 0⟩ rfl
    (List.mem_singleton.mpr rfl) (by decide)

/-! ### Counters and activities -/

/-- The number of times that the shares of a document were opened, by their counters. -/
def ShareState.accessCounts (documentId : Id) (s : ShareState) : ℤ :=
  s.shares.sumWhere (fun share => share.documentId = documentId) fun share => share.accessCount

/-- The same by the log of activities. -/
def ShareState.externalActivities (documentId : Id) (s : ShareState) : ℕ :=
  s.activities.countP fun activity =>
    activity.documentId = documentId ∧ activity.actorRole = "External (shared link)"

@[simp] theorem accessCounts_log (documentId docId : Id) (activityType : OrgDocumentActivityType)
    (actorRole : String) : (s.log docId activityType actorRole).accessCounts documentId
      = s.accessCounts documentId := rfl

@[simp] theorem externalActivities_log (documentId docId : Id)
    (activityType : OrgDocumentActivityType) (actorRole : String) :
    (s.log docId activityType actorRole).externalActivities documentId
      = s.externalActivities documentId
        + if docId = documentId ∧ actorRole = "External (shared link)" then 1 else 0 := by
  simp [ShareState.externalActivities, ShareState.log, List.countP_append, List.countP_singleton]

/-- The counters move with the share that is updated. -/
theorem accessCounts_modifyShare {shareId : Id} {share : OrgDocumentShare}
    (hshare : s.shares.find? shareId = some share) (f : OrgDocumentShare → OrgDocumentShare)
    (hf : ∀ share, (f share).id = share.id) (hdoc : (f share).documentId = share.documentId)
    (documentId : Id) : (s.modifyShare shareId f hf).accessCounts documentId
      = s.accessCounts documentId + if share.documentId = documentId
          then ((f share).accessCount : ℤ) - share.accessCount else 0 := by
  rw [ShareState.accessCounts, ShareState.modifyShare, Table.sumWhere_modify hshare, hdoc,
    ShareState.accessCounts]
  split_ifs <;> omega

/-- Opening a document counts, and is logged. -/
theorem Change.accessCounts {call : ShareCall} {answer : ShareAnswer}
    (h : Change env s call answer s') {documentId : Id}
    (hs : s.accessCounts documentId = s.externalActivities documentId) :
    s'.accessCounts documentId = s'.externalActivities documentId := by
  -- What an administrator does counts for nothing, and is not logged as from outside.
  have hkept : ∀ {shareId : Id} {share : OrgDocumentShare} (f : OrgDocumentShare → OrgDocumentShare)
      (hf : ∀ share, (f share).id = share.id), s.shares.find? shareId = some share →
        (f share).documentId = share.documentId → (f share).accessCount = share.accessCount →
          (s.modifyShare shareId f hf).accessCounts documentId
            = s.externalActivities documentId := by
    intro shareId share f hf hshare hdoc hcount
    rw [accessCounts_modifyShare hshare f hf hdoc, hcount, sub_self, ite_self, hs, add_zero]
  cases h with
  | @shared orgId docId data doc hdoc =>
      rw [accessCounts_log, externalActivities_log, if_neg (by simp), add_zero]
      refine Eq.trans (Table.sumWhere_insert (Table.fresh_notMem s.shares)) ?_
      rw [show ((newShare env orgId docId data s.shares.fresh).accessCount : ℤ) = 0 from rfl,
        ite_self, add_zero]
      exact hs
  | extended hshare horg hlive =>
      rw [accessCounts_log, externalActivities_log, if_neg (by simp), add_zero]
      exact hkept _ _ hshare rfl rfl
  | revoked hshare horg hlive =>
      rw [accessCounts_log, externalActivities_log, if_neg (by simp), add_zero]
      exact hkept _ _ hshare rfl rfl
  | deleted hdoc =>
      rw [accessCounts_log, externalActivities_log, if_neg (by simp), add_zero]
      exact hs
  | looked hfound => exact hs
  | sent hopen t => exact hs
  | verified hopen t => exact hs
  | @opened call activityType shareToken token share doc hcall hopen hotp hdoc =>
      obtain ⟨hget, -⟩ := openShare_eq_ok.mp hopen
      have hshare : s.shares.find? share.id = some share :=
        Table.find?_eq_some_iff.mpr ⟨(mem_of_getByToken hget).1, rfl⟩
      rw [accessCounts_log, externalActivities_log]
      refine (accessCounts_modifyShare hshare incrementAccessCount _ rfl documentId).trans ?_
      change _ = ((s.externalActivities documentId + _ : ℕ) : ℤ)
      rw [hs]
      by_cases hid : share.documentId = documentId
      · simp [hid, incrementAccessCount]
      · simp [hid]

/-- **The counters agree with the log.** How often the shares of a document were opened, by their
counters, is how often the log says that somebody from outside has seen or downloaded it. -/
theorem access_counts_match (organizations : List Id) (documents : Table OrgDocument.id)
    (now : Instant) (requests : List ShareRequest) (documentId : Id) :
    (Runs.run (step env) (.initial organizations documents now) requests).accessCounts documentId
      = (Runs.run (step env) (.initial organizations documents now) requests).externalActivities
        documentId := by
  refine Runs.run_invariant (I := fun s : ShareState =>
      s.accessCounts documentId = s.externalActivities documentId) (fun s r hs => ?_) rfl requests
  rcases submit_cases env s r with ⟨answer, -, h⟩ | ⟨e, t, -, h⟩
  · exact h.accessCounts hs
  · rw [h]
    exact hs

end SwCouriers.DocumentShares
