import SwCouriers.Lib.Windows
import SwCouriers.StepUpRuns

/-!
# Access to Documents

A signed-in user who wants to see the documents of organisations, drivers or vehicles proves once
more who they are: a code goes to the mailbox of the account, and is exchanged for a token that
goes with every request for documents of that kind. A change of the password revokes the tokens of
the user, of every kind; the password that comes with an accepted invite leaves them.

## Main results

* `doc_access_iff_traced`: who gets at documents has exchanged a code within the last hour, which
  was sent to that user not ten minutes before and was unused, and the tokens of the user were not
  revoked since; and all of these get at documents.
* `doc_codes_limited`: what holds of the codes of a user after every run.
-/

namespace SwCouriers.DocAccess

open Checked Requests StepUp

/-! ### The service -/

/-- `DocAccessScope`. -/
inductive DocAccessScope where
  | orgDocuments
  | driverDocuments
  | vehicleDocuments
  deriving DecidableEq, Repr

/-- Who a code is for: the user, and the kind of documents. -/
structure DocHolder where
  userId : Id
  accessScope : DocAccessScope
  deriving DecidableEq

/-- The constants of `DocAccessService`. -/
def docPolicy : Policy where
  otpTtlMinutes := 10
  tokenTtlSeconds := 3600
  rateLimitMax := 3
  rateLimitWindowMinutes := 10
  verifyFailMax := 5
  lockoutSeconds := 900
  failWindowSeconds := 600
  lockedMessage :=
    "Too many invalid OTP attempts for document access. Please wait before trying again or " ++
      "request a new code."

/-- `_otp_send_paths`. -/
def otpSendPaths : DocAccessScope → String × String
  | .driverDocuments =>
      ("POST /v1/drivers/documents/otp/send", "POST /v1/drivers/documents/otp/verify")
  | .vehicleDocuments =>
      ("POST /v1/vehicles/documents/otp/send", "POST /v1/vehicles/documents/otp/verify")
  | .orgDocuments =>
      ("POST /v1/organizations/documents/otp/send", "POST /v1/organizations/documents/otp/verify")

/-- `_token_header_name`. -/
def tokenHeaderName : DocAccessScope → String
  | .driverDocuments => "X-Driver-Doc-Access-Token"
  | .vehicleDocuments => "X-Vehicle-Doc-Access-Token"
  | .orgDocuments => "X-Doc-Access-Token"

/-- `DocAccessService.send_otp`. -/
def sendOtp (userId : Id) (accessScope : DocAccessScope) (otpCode : String) :
    Handler (Store DocHolder) AccessError Unit :=
  StepUp.sendOtp docPolicy ⟨userId, accessScope⟩ otpCode

/-- `DocAccessService.verify_otp`. -/
def verifyOtp (secrets : Secrets) (userId : Id) (accessScope : DocAccessScope)
    (otpCode : String) : Handler (Store DocHolder) AccessError Verified :=
  StepUp.verifyOtp docPolicy secrets ⟨userId, accessScope⟩ otpCode

/-- `revoke_all_active_for_user`. -/
def revokeAllActiveForUser (userId : Id) : Store DocHolder → Store DocHolder :=
  Store.revokeAllActive fun holder => holder.userId = userId

/-- `DocAccessService.validate_token`. -/
def validateToken (secrets : Secrets) (token : String) (userId : Id)
    (accessScope : DocAccessScope) (s : Store DocHolder) : Except AccessError Unit := do
  let (sendPath, verifyPath) := otpSendPaths accessScope
  let row ← orRaise (s.findValidToken secrets token fun holder => holder.accessScope = accessScope)
    (unauthenticated ("Document access token is missing, invalid, or expired. " ++
      "Request a new OTP via " ++ sendPath ++ " and verify it via " ++ verifyPath ++ ". " ++
      "Pass the token as the `" ++ tokenHeaderName accessScope ++ "` header."))
  raiseIf (row.holder.userId ≠ userId)
    (unauthenticated "Document access token does not belong to this user.")

/-- What is said about a missing header. -/
def headerRequired (accessScope : DocAccessScope) : String :=
  let what := match accessScope with
    | .orgDocuments => " header is required for document endpoints. "
    | .driverDocuments =>
        " header is required for driver compliance document endpoints " ++
          "(list, get, upload, update, delete). "
    | .vehicleDocuments => " header is required to list or delete vehicle documents. "
  let (sendPath, verifyPath) := otpSendPaths accessScope
  tokenHeaderName accessScope ++ what ++ "Request an OTP via " ++ sendPath ++ ", " ++
    "then verify it via " ++ verifyPath ++ " to receive your token."

/-- What the three dependencies below do. -/
def requireAccess (accessScope : DocAccessScope) (secrets : Secrets) (userId : Id)
    (header : Option String) (s : Store DocHolder) : Except AccessError Unit :=
  match header.filter fun token => token ≠ "" with
  | none => .error (unauthenticated (headerRequired accessScope))
  | some token => validateToken secrets token userId accessScope s

/-- `_require_doc_access`. -/
def requireDocAccess : Secrets → Id → Option String → Store DocHolder → Except AccessError Unit :=
  requireAccess .orgDocuments

/-- `_require_driver_doc_access`. -/
def requireDriverDocAccess :
    Secrets → Id → Option String → Store DocHolder → Except AccessError Unit :=
  requireAccess .driverDocuments

/-- `_require_vehicle_doc_access`. -/
def requireVehicleDocAccess :
    Secrets → Id → Option String → Store DocHolder → Except AccessError Unit :=
  requireAccess .vehicleDocuments

/-! ### Requests -/

/-- The methods of `AuthService` that set the password of a user who has an account. -/
inductive PasswordMethod where
  | changePassword
  | setPasswordAdmin
  | supportIssueTemporaryPassword
  | confirmPasswordReset
  | completeInviteActivation
  deriving DecidableEq, Repr

/-- Those that call `revoke_all_active_for_user`. -/
def PasswordMethod.revokesDocTokens : PasswordMethod → Bool
  | .completeInviteActivation => false
  | _ => true

/-- What is asked of the service, or a password that `AuthService` sets. -/
inductive DocCall where
  | send (userId : Id) (accessScope : DocAccessScope) (otpCode : String)
  | verify (userId : Id) (accessScope : DocAccessScope) (otpCode : String)
  | password (userId : Id) (method : PasswordMethod)
  deriving DecidableEq

/-- A request, some time after the one before it. -/
structure DocRequest where
  elapsed : ℕ
  call : DocCall
  deriving DecidableEq

variable (secrets : Secrets)

/-- What a request answers: a verification has a token. -/
def DocRequest.answer (s : Store DocHolder) (r : DocRequest) :
    Except AccessError (Option Verified) :=
  match r.call with
  | .send userId accessScope otpCode =>
      (inSession rollback (sendOtp userId accessScope otpCode) (s.tick r.elapsed)).1.map
        fun _ => none
  | .verify userId accessScope otpCode =>
      (inSession rollback (verifyOtp secrets userId accessScope otpCode) (s.tick r.elapsed)).1.map
        some
  | .password .. => .ok none

/-- What a request leaves behind. -/
def step (s : Store DocHolder) (r : DocRequest) : Store DocHolder :=
  match r.call with
  | .send userId accessScope otpCode =>
      (inSession rollback (sendOtp userId accessScope otpCode) (s.tick r.elapsed)).2
  | .verify userId accessScope otpCode =>
      (inSession rollback (verifyOtp secrets userId accessScope otpCode) (s.tick r.elapsed)).2
  | .password userId method =>
      if method.revokesDocTokens then revokeAllActiveForUser userId (s.tick r.elapsed)
      else s.tick r.elapsed

/-- The event that a request is. -/
def DocRequest.event (s : Store DocHolder) (r : DocRequest) : Event DocHolder :=
  match r.call with
  | .send userId accessScope otpCode =>
      sendEvent docPolicy ⟨userId, accessScope⟩ otpCode (s.tick r.elapsed)
  | .verify userId accessScope otpCode =>
      verifyEvent docPolicy secrets ⟨userId, accessScope⟩ otpCode (s.tick r.elapsed)
  | .password userId method =>
      if method.revokesDocTokens then .revoked fun holder => holder.userId = userId else .quiet

/-- Requests do to the store what their events say. -/
theorem drives : Drives docPolicy secrets (step secrets) id (DocRequest.event secrets) := by
  rintro s ⟨elapsed, call⟩
  cases call with
  | send userId accessScope otpCode => exact next_sendOtp elapsed
  | verify userId accessScope otpCode => exact next_verifyOtp elapsed
  | password userId method =>
      cases hrevokes : method.revokesDocTokens <;>
        simp only [DocRequest.event, step, hrevokes] <;> exact ⟨elapsed, trivial, rfl⟩

variable {secrets}
variable {s : Store DocHolder} {r : DocRequest}

/-- Who has sent a code. -/
theorem of_event_sent {otp : Otp DocHolder} (h : r.event secrets s = .sent otp) :
    r.call = .send otp.holder.userId otp.holder.accessScope otp.otpCode ∧
      r.answer secrets s = .ok none := by
  obtain ⟨elapsed, call⟩ := r
  cases call with
  | send userId accessScope otpCode =>
      simp only [DocRequest.event, sendEvent] at h
      split_ifs at h with hroom
      obtain rfl := Event.sent.inj h
      refine ⟨rfl, ?_⟩
      simp only [DocRequest.answer, sendOtp, inSession, sendOtp_apply, if_pos hroom]
      rfl
  | verify userId accessScope otpCode =>
      simp only [DocRequest.event, verifyEvent] at h
      split_ifs at h
      split at h <;> simp at h
  | password userId method =>
      simp only [DocRequest.event] at h
      split_ifs at h

/-- Who has exchanged a code. -/
theorem of_event_verified {otp : Otp DocHolder} {token : AccessToken DocHolder}
    (h : r.event secrets s = .verified otp token) :
    r.call = .verify otp.holder.userId otp.holder.accessScope otp.otpCode ∧
      token.holder = otp.holder ∧
      token.expiresAt = (s.tick r.elapsed).now + docPolicy.tokenTtl ∧
      ∃ verified, r.answer secrets s = .ok (some verified) ∧
        secrets.hashToken verified.accessToken = token.tokenHash := by
  obtain ⟨elapsed, call⟩ := r
  cases call with
  | send userId accessScope otpCode =>
      simp only [DocRequest.event, sendEvent] at h
      split_ifs at h
  | verify userId accessScope otpCode =>
      simp only [DocRequest.event, verifyEvent] at h
      split_ifs at h with hlocked
      have hfree := Bool.eq_false_of_not_eq_true hlocked
      cases hfound : (s.tick elapsed).findValidOtp ⟨userId, accessScope⟩ otpCode with
      | none => simp [hfound] at h
      | some found =>
          rw [hfound] at h
          obtain ⟨rfl, rfl⟩ := Event.verified.inj h
          obtain ⟨-, hholder, rfl, -⟩ := mem_of_findValidOtp hfound
          refine ⟨by rw [hholder], rfl, rfl, docPolicy.issued secrets (s.tick elapsed), ?_, rfl⟩
          simp only [DocRequest.answer, verifyOtp, inSession, verifyOtp_apply hfree, hfound]
          rfl
  | password userId method =>
      simp only [DocRequest.event] at h
      split_ifs at h

/-- Whose tokens are revoked. -/
theorem of_event_revoked {p : DocHolder → Bool} (h : r.event secrets s = .revoked p) :
    ∃ userId method, r.call = .password userId method ∧ method.revokesDocTokens = true ∧
      p = fun holder : DocHolder => decide (holder.userId = userId) := by
  obtain ⟨elapsed, call⟩ := r
  cases call with
  | send userId accessScope otpCode =>
      simp only [DocRequest.event, sendEvent] at h
      split_ifs at h
  | verify userId accessScope otpCode =>
      simp only [DocRequest.event, verifyEvent] at h
      split_ifs at h
      split at h <;> simp at h
  | password userId method =>
      simp only [DocRequest.event] at h
      split_ifs at h with hrevokes
      exact ⟨userId, method, rfl, hrevokes, (Event.revoked.inj h).symm⟩

/-- A verification that answers with a token has exchanged a code for it. -/
theorem event_of_answer {userId : Id} {accessScope : DocAccessScope} {otpCode : String}
    {verified : Verified} (hcall : r.call = .verify userId accessScope otpCode)
    (h : r.answer secrets s = .ok (some verified)) :
    ∃ otp token, r.event secrets s = .verified otp token ∧ otp.holder = ⟨userId, accessScope⟩ := by
  simp only [DocRequest.answer, DocRequest.event, hcall, verifyOtp, inSession, verifyEvent] at h ⊢
  by_cases hlocked : ((s.tick r.elapsed).guards ⟨userId, accessScope⟩).locked
      (s.tick r.elapsed).now = true
  · obtain ⟨e, he⟩ := verifyOtp_apply_of_locked docPolicy secrets otpCode hlocked
    rw [he] at h
    exact absurd h (by simp [Except.map])
  · rw [verifyOtp_apply (Bool.eq_false_of_not_eq_true hlocked)] at h
    rw [if_neg hlocked]
    cases hfound : (s.tick r.elapsed).findValidOtp ⟨userId, accessScope⟩ otpCode with
    | none =>
        rw [hfound] at h
        exact absurd h (by simp [Except.map])
    | some otp => exact ⟨otp, _, rfl, (mem_of_findValidOtp hfound).2.1⟩

/-- A request by which the user exchanges a code for documents of the kind. -/
def Exchanges (secrets : Secrets) (userId : Id) (accessScope : DocAccessScope)
    (s : Store DocHolder) (r : DocRequest) : Prop :=
  ∃ otpCode verified, r.call = .verify userId accessScope otpCode ∧
    r.answer secrets s = .ok (some verified)

/-- An exchange is a success for the counters of its holder. -/
theorem outcome_of_exchanges {userId : Id} {accessScope : DocAccessScope}
    (h : Exchanges secrets userId accessScope s r) :
    (r.event secrets s).outcome ⟨userId, accessScope⟩ = .success := by
  obtain ⟨otpCode, verified, hcall, hanswer⟩ := h
  obtain ⟨otp, token, hevent, hotp⟩ := event_of_answer hcall hanswer
  rw [hevent]
  exact if_pos hotp

/-! ### Whoever gets at documents -/

variable {userId : Id} {accessScope : DocAccessScope}

/-- A token that is accepted is in the table, and can be used by the user for such documents. -/
theorem exists_token_of_validateToken {token : String}
    (h : validateToken secrets token userId accessScope s = .ok ()) :
    ∃ row ∈ s.tokens.rows, row.tokenHash = secrets.hashToken token ∧
      row.holder = ⟨userId, accessScope⟩ ∧ row.isValid s.now = true := by
  obtain ⟨row, hrow, h⟩ := orRaise_bind_eq_ok.mp h
  have howner := raiseIf_eq_ok.mp h
  obtain ⟨hfound, hvalid⟩ := Option.filter_eq_some_iff.mp hrow
  obtain ⟨hmem, hhash⟩ := Table.find?_eq_some_iff.mp hfound
  simp only [Bool.and_eq_true, decide_eq_true_eq] at hvalid
  refine ⟨row, hmem, hhash, ?_, hvalid.2⟩
  rw [← not_not.mp howner, ← hvalid.1]

/-- A token in the table is accepted from its user, for such documents, while it can be used. -/
theorem validateToken_eq_ok {token : String} {row : AccessToken DocHolder}
    (hmem : row ∈ s.tokens.rows) (hhash : row.tokenHash = secrets.hashToken token)
    (hholder : row.holder = ⟨userId, accessScope⟩) (hvalid : row.isValid s.now = true) :
    validateToken secrets token userId accessScope s = .ok () := by
  have hfound : (s.findValidToken secrets token fun holder => holder.accessScope = accessScope)
      = some row := by
    rw [Store.findValidToken, Table.find?_eq_some_iff.mpr ⟨hmem, hhash⟩,
      Option.filter_eq_some_iff]
    exact ⟨rfl, by simp [hholder, hvalid]⟩
  unfold validateToken
  rw [hfound]
  exact raiseIf_eq_ok.mpr (not_not.mpr (by rw [hholder]))

/-- A request that revokes the tokens of the user. -/
def Revokes (userId : Id) (r : DocRequest) : Prop :=
  ∃ method, r.call = .password userId method ∧ method.revokesDocTokens = true

/-- The requests before an access by the user to documents of the kind, with the header given: a
code is sent; within ten minutes, in which no code is exchanged, it is exchanged for the token; and
the token is used within an hour, in which the tokens of the user are not revoked. -/
def Traced (secrets : Secrets) (now : Instant) (requests : List DocRequest) (userId : Id)
    (accessScope : DocAccessScope) (header : Option String) : Prop :=
  ∃ pre sent mid verify post otpCode verified,
    requests = pre ++ sent :: mid ++ verify :: post ∧
    sent.call = .send userId accessScope otpCode ∧
    sent.answer secrets (Runs.run (step secrets) (.initial now) pre) = .ok none ∧
    verify.call = .verify userId accessScope otpCode ∧
    verify.answer secrets (Runs.run (step secrets) (.initial now) (pre ++ sent :: mid))
      = .ok (some verified) ∧
    (header.filter (· ≠ "")).map secrets.hashToken
      = some (secrets.hashToken verified.accessToken) ∧
    (Runs.run (step secrets) (.initial now) (pre ++ sent :: mid ++ [verify])).now
      < (Runs.run (step secrets) (.initial now) (pre ++ [sent])).now + seconds (10 * 60) ∧
    Runs.Along (step secrets) (fun s r => ¬ Exchanges secrets userId accessScope s r)
      (Runs.run (step secrets) (.initial now) (pre ++ [sent])) mid ∧
    (Runs.run (step secrets) (.initial now) requests).now
      < (Runs.run (step secrets) (.initial now) (pre ++ sent :: mid ++ [verify])).now
        + seconds 3600 ∧
    ∀ r ∈ post, ¬ Revokes userId r

/-- Whoever gets at documents has exchanged a code for the token, not long ago. -/
theorem traced_of_access (now : Instant) (requests : List DocRequest) {header : Option String}
    (h : requireAccess accessScope secrets userId header
      (Runs.run (step secrets) (.initial now) requests) = .ok ()) :
    Traced secrets now requests userId accessScope header := by
  unfold requireAccess at h
  split at h
  · exact absurd h (by simp)
  · rename_i token htoken
    obtain ⟨row, hrow, hhash, hholder, hvalid⟩ := exists_token_of_validateToken h
    obtain ⟨hlive, hunexpired⟩ : row.revokedAt = none ∧ _ := by
      simpa [AccessToken.isValid] using hvalid
    obtain ⟨pre, sent, mid, verify, post, otp, rfl, hsent, hverified, howner, hexchanged, hexpires,
      hsince⟩ := exists_sent_verified (drives secrets) (s := Store.initial now)
        (sound_initial docPolicy secrets now) rfl rfl hrow hlive
    set s₁ := step secrets (Runs.run (step secrets) (.initial now) (pre ++ sent :: mid)) verify
    have hthere : ∀ part, part <+: post →
        row ∈ (Runs.run (step secrets) s₁ part).tokens.rows := fun part hpart => by
      have := hsince part hpart
      rwa [Runs.run_append_cons] at this
    have hend : (Runs.run (step secrets) s₁ post).now < row.expiresAt := by
      rwa [Runs.run_append_cons] at hunexpired
    obtain ⟨hsend, hsendOk⟩ := of_event_sent hsent
    obtain ⟨hverify, -, -, verified, hverifyOk, hverifyHash⟩ := of_event_verified hverified
    have hotp : otp.holder = ⟨userId, accessScope⟩ := howner ▸ hholder
    rw [hotp] at hverify
    refine ⟨pre, sent, mid, verify, post, otp.otpCode, verified, rfl, ?_, hsendOk, hverify,
      hverifyOk, ?_, hexchanged, ?_, ?_, fun r hr => ?_⟩
    · rw [hsend]
      simp only [Otp.issued, hotp]
    · rw [htoken, Option.map_some, hverifyHash, hhash]
    · refine (not_success_of_verified (drives secrets) (sound_initial docPolicy secrets now) hsent
        hverified).imp fun s r hquiet hexchange => hquiet ?_
      rw [hotp]
      exact outcome_of_exchanges hexchange
    · exact hexpires ▸ hunexpired
    · rintro ⟨method, hcall, hrevokes⟩
      obtain ⟨part, rest, rfl⟩ := List.append_of_mem hr
      have hspared := Runs.along_iff.mp (not_revoked_of_since (drives secrets) hlive hthere hend)
        part r rest rfl _ (by rw [DocRequest.event, hcall]; exact if_pos hrevokes)
      simp [hholder] at hspared

/-- Whoever has exchanged a code not long ago gets at documents with the token. -/
theorem access_of_traced (now : Instant) (requests : List DocRequest) {header : Option String}
    (h : Traced secrets now requests userId accessScope header) :
    requireAccess accessScope secrets userId header
      (Runs.run (step secrets) (.initial now) requests) = .ok () := by
  obtain ⟨pre, sent, mid, verify, post, otpCode, verified, rfl, -, -, hcall, hanswer, hheader, -,
    -, hhour, hspared⟩ := h
  set before := Runs.run (step secrets) (.initial now) (pre ++ sent :: mid) with hbefore
  obtain ⟨otp, token, hevent, hotp⟩ := event_of_answer hcall hanswer
  obtain ⟨-, hholder, -, verified', hanswer', hhash⟩ := of_event_verified hevent
  obtain rfl : verified = verified' := by
    rw [hanswer] at hanswer'
    exact Option.some.inj (Except.ok.inj hanswer')
  have hnext : Next docPolicy secrets before (.verified otp token)
      (step secrets before verify) := hevent ▸ drives secrets before verify
  have hsound : Sound docPolicy secrets before :=
    sound_run (drives secrets) (sound_initial docPolicy secrets now) (pre ++ sent :: mid)
  obtain ⟨htoken, hlive⟩ := hnext.token_of_verified hsound
  obtain ⟨-, -, -, -, hexpires⟩ := hnext.of_verified
  have hend : token ∈ (Runs.run (step secrets) (step secrets before verify) post).tokens.rows := by
    refine token_run (drives secrets) htoken (Runs.along_iff.mpr fun part r rest heq p hp => ?_)
    have hother := hspared r (heq ▸ List.mem_append_right part List.mem_cons_self)
    obtain ⟨changed, method, hchanged, hrevokes, rfl⟩ := of_event_revoked hp
    rw [hholder, hotp, decide_eq_false_iff_not]
    rintro rfl
    exact hother ⟨method, hchanged, hrevokes⟩
  unfold requireAccess
  cases hfilter : header.filter (· ≠ "") with
  | none =>
      rw [hfilter] at hheader
      exact absurd hheader (by simp)
  | some text =>
      rw [hfilter, Option.map_some, hhash] at hheader
      have hsplit := @Runs.run_append_cons _ _ (step secrets) (.initial now)
        (pre ++ sent :: mid) verify
      rw [hsplit, hsplit, ← hbefore, Runs.run_nil] at hhour
      rw [hsplit, ← hbefore]
      refine validateToken_eq_ok hend (Option.some.inj hheader).symm (hholder.trans hotp) ?_
      simp only [AccessToken.isValid, hlive, Option.isNone_none, Bool.true_and, decide_eq_true_eq]
      rw [hexpires]
      exact hhour

/-- **Who gets at documents**: exactly those who have exchanged a code for the token, less than an
hour ago, and whose tokens were not revoked since; the code was sent to the same user for the same
kind of documents, less than ten minutes before it was exchanged, and no code was exchanged in
between. -/
theorem doc_access_iff_traced (now : Instant) (requests : List DocRequest)
    (header : Option String) :
    requireAccess accessScope secrets userId header
        (Runs.run (step secrets) (.initial now) requests) = .ok () ↔
      Traced secrets now requests userId accessScope header :=
  ⟨traced_of_access now requests, access_of_traced now requests⟩

/-- A user exchanges a code for documents of drivers, and one for documents of organisations. -/
def twoCodes : List DocRequest :=
  [⟨0, .send 7 .driverDocuments "654321"⟩, ⟨0, .verify 7 .driverDocuments "654321"⟩,
    ⟨0, .send 7 .orgDocuments "123456"⟩, ⟨480000000, .verify 7 .orgDocuments "123456"⟩,
    ⟨1800000000, .password 8 .changePassword⟩, ⟨0, .password 7 .completeInviteActivation⟩]

/-- Half an hour later, with another password, the second token is accepted, and the first one for
other documents only. -/
example :
    requireDocAccess letterSecrets 7 (some "aa")
        (Runs.run (step letterSecrets) (.initial 0) twoCodes) = .ok () ∧
      (requireDocAccess letterSecrets 7 (some "a")
        (Runs.run (step letterSecrets) (.initial 0) twoCodes)).isOk = false :=
  ⟨rfl, rfl⟩

/-! ### The codes of a user -/

/-- **The codes of a user** for one kind of documents, after every run: no ten minutes saw more
than three of them sent, at most one of them can be used, and there are no more tokens of the user
than codes that are used. -/
theorem doc_codes_limited (now : Instant) (requests : List DocRequest) (holder : DocHolder) :
    let s := Runs.run (step secrets) (.initial now) requests
    (∀ start, (s.otps.rows.countP fun r => r.holder = holder ∧ start ≤ r.createdAt ∧
        r.createdAt ≤ start + seconds (10 * 60)) ≤ 3) ∧
      (s.otps.rows.countP fun r => r.holder = holder ∧ r.isValid s.now = true) ≤ 1 ∧
      (s.tokens.rows.countP fun r => r.holder = holder)
        ≤ s.otps.rows.countP fun r => r.holder = holder && r.isUsed := by
  intro s
  have hsound : Sound docPolicy secrets s :=
    sound_run (drives secrets) (sound_initial docPolicy secrets now) requests
  refine ⟨fun start => ?_, ?_, hsound.exchanged holder⟩
  · have hquota := hsound.quota holder start
    rw [AttemptLimits.within, Store.sentTimes, List.countP_map, List.countP_filter] at hquota
    refine le_trans (le_of_eq (List.countP_congr fun r _ => ?_)) hquota
    simp only [Bool.and_eq_true, Function.comp_apply, decide_eq_true_eq]
    exact and_comm
  · rw [Windows.countP_le_one_iff]
    refine (List.Nodup.of_map _ s.otps.nodup).pairwise_of_forall_ne fun r hr r' hr' hne => ?_
    rintro ⟨⟨hholder, hvalid⟩, hholder', hvalid'⟩
    exact hne (hsound.single r hr r' hr' (hholder.trans hholder'.symm) hvalid hvalid')

end SwCouriers.DocAccess
