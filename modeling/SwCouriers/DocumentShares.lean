import SwCouriers.StepUpRuns

/-!
# Shared Documents

A document of an organisation can be shared by a link, with a list of addresses. Whoever has the
link may look the document up; if the share is protected, they must have had a code sent to one of
the addresses, and exchanged it for a token. An administrator extends a share or revokes it, and
deletes the document.

A request that raises is rolled back. The wrong codes stay counted.

## Main definitions

* `shareDocument`, `extendExpiry`, `revokeShare`, `deleteDocument`: the administrator's requests.
* `sendShareOtp`, `verifyShareOtp`: a code for an invited address.
* `getShareInfo`: what anybody with a link is told about its share.
* `accessSharedDocument`, `downloadSharedDocument`: the document behind a link.
* `ShareRequest.submit`, `step`: one request.

## Main results

* `change_of_ok`: what an accepted request does.
-/

namespace SwCouriers.DocumentShares

open Checked Requests StepUp

/-! ### The tables -/

/-- `EmailStr`: an address that a request has brought, without blanks around it. -/
structure EmailStr where
  text : String
  stripped : strip text = text

/-- Who a code is for: a link, and an address in lower case. -/
structure ShareHolder where
  shareToken : String
  recipientEmail : String
  deriving DecidableEq

/-- `OrgDocumentShareStatus`. -/
inductive OrgDocumentShareStatus where
  | active
  | expired
  | revoked
  | downloaded
  deriving DecidableEq, Repr

/-- `OrgDocumentShare`. -/
structure OrgDocumentShare where
  id : Id
  organizationId : Id
  documentId : Id
  shareToken : String
  recipients : List String
  expiryDate : Option Day
  otpRequired : Bool
  status : OrgDocumentShareStatus
  accessCount : ℕ
  revokedAt : Option Day
  revokedBy : Option Id
  statusReason : Option String
  deriving DecidableEq

/-- `OrgDocument`. -/
structure OrgDocument where
  id : Id
  organizationId : Id
  isActive : Bool
  r2Key : String
  deriving DecidableEq

/-- `OrgDocumentActivityType`, as far as shares go. -/
inductive OrgDocumentActivityType where
  | downloaded
  | viewed
  | shared
  | deleted
  | revoked
  | extended
  deriving DecidableEq, Repr

/-- `OrgDocumentActivity`. -/
structure OrgDocumentActivity where
  documentId : Id
  activityType : OrgDocumentActivityType
  actorRole : String
  deriving DecidableEq

/-- The tables of the service, and the store of the codes, which has the clock. -/
structure ShareState where
  organizations : List Id
  documents : Table OrgDocument.id
  shares : Table OrgDocumentShare.id
  activities : List OrgDocumentActivity
  stepUp : Store ShareHolder

/-- What the service uses beside the state. The links drawn are all different. -/
structure ShareEnv where
  /-- `str.lower`. -/
  lower : String → String
  secrets : Secrets
  /-- `secrets.token_hex(32)`, for the share with the key given. -/
  shareToken : Id → String
  shareToken_injective : Function.Injective shareToken
  /-- `generate_document_url`. -/
  documentUrl : String → String

/-- The constants of `ShareOtpService`. -/
def sharePolicy : Policy where
  otpTtlMinutes := 10
  tokenTtlSeconds := 3600
  rateLimitMax := 3
  rateLimitWindowMinutes := 10
  verifyFailMax := 5
  lockoutSeconds := 900
  failWindowSeconds := 600
  lockedMessage :=
    "Too many invalid OTP attempts. Please wait before trying again or request a new code."

namespace ShareState

/-- `date.today()`. -/
def today (s : ShareState) : Day := s.stepUp.now / 86400000000

/-- Time passes. -/
def tick (elapsed : ℕ) (s : ShareState) : ShareState := { s with stepUp := s.stepUp.tick elapsed }

/-- A rollback: the tables are as they were, while Redis and the clock are not. -/
def rollback (before after : ShareState) : ShareState :=
  { before with stepUp := StepUp.rollback before.stepUp after.stepUp }

/-- `get_by_token`. -/
def getByToken (shareToken : String) (s : ShareState) : Option OrgDocumentShare :=
  s.shares.rows.find? fun share => share.shareToken = shareToken

/-- `get_active_by_org_and_id`. -/
def getActiveByOrgAndId (orgId docId : Id) (s : ShareState) : Except AccessError OrgDocument :=
  orRaise ((s.documents.find? docId).filter fun doc => doc.organizationId = orgId && doc.isActive)
    (.service (.notFound "document" (some docId)))

/-- An activity is logged. -/
def log (documentId : Id) (activityType : OrgDocumentActivityType) (actorRole : String)
    (s : ShareState) : ShareState :=
  { s with activities := s.activities ++ [⟨documentId, activityType, actorRole⟩] }

/-- An update of a share. -/
def modifyShare (shareId : Id) (f : OrgDocumentShare → OrgDocumentShare)
    (hf : ∀ share, (f share).id = share.id) (s : ShareState) : ShareState :=
  { s with shares := s.shares.modify shareId f hf }

end ShareState

/-- A part of a request. -/
abbrev Service (α : Type) := Handler ShareState AccessError α

/-- A part that works on the codes. -/
def onStepUp {α : Type} (m : Handler (Store ShareHolder) AccessError α) : Service α := fun s =>
  ((m s.stepUp).1, { s with stepUp := (m s.stepUp).2 })

/-- `ForbiddenError`. -/
def forbidden (message : String) : AccessError := .service (.forbidden message)

/-! ### Requests of an administrator -/

/-- `expiry_must_be_future`. -/
def expiryMustBeFuture (expiryDate : Option Day) (today : Day) : Except AccessError Unit :=
  raiseIf ((expiryDate.any fun day => day < today) = true)
    (.service (invalid "expiry_date must be today or a future date."))

/-- `OrgDocumentShareCreate`. -/
structure OrgDocumentShareCreate where
  recipients : List EmailStr
  expiryDate : Option Day
  passwordProtected : Bool

/-- The row of a share that is created. -/
def newShare (env : ShareEnv) (orgId docId : Id) (data : OrgDocumentShareCreate) (shareId : Id) :
    OrgDocumentShare where
  id := shareId
  organizationId := orgId
  documentId := docId
  shareToken := env.shareToken shareId
  recipients := data.recipients.map EmailStr.text
  expiryDate := data.expiryDate
  otpRequired := data.passwordProtected
  status := .active
  accessCount := 0
  revokedAt := none
  revokedBy := none
  statusReason := none

/-- `share_document`. -/
def shareDocument (env : ShareEnv) (orgId docId : Id) (data : OrgDocumentShareCreate) :
    Service Id := do
  .lookup fun s => expiryMustBeFuture data.expiryDate s.today
  .lookup fun s => raiseIf (orgId ∉ s.organizations)
    (.service (.notFound "organizations" (some orgId)))
  let _ ← .lookup fun s => s.getActiveByOrgAndId orgId docId
  let shareId ← .query fun s => s.shares.fresh
  .write fun s => { s with shares := s.shares.insert (newShare env orgId docId data shareId) }
  .write (ShareState.log docId .shared "Admin")
  return shareId

/-- A share of the organisation. -/
def shareOfOrg (orgId shareId : Id) (s : ShareState) : Except AccessError OrgDocumentShare := do
  let share ← orRaise (s.shares.find? shareId)
    (.service (.notFound "org_document_shares" (some shareId)))
  raiseIf (share.organizationId ≠ orgId) (.service (.notFound "share" (some shareId)))
  return share

/-- What extending a share writes. -/
def OrgDocumentShare.extend (expiryDate : Day) (reason : String) (share : OrgDocumentShare) :
    OrgDocumentShare :=
  { share with expiryDate := some expiryDate, status := .active, statusReason := some reason }

/-- What revoking a share writes. -/
def OrgDocumentShare.revoke (today : Day) (adminUserId : Id) (reason : String)
    (share : OrgDocumentShare) : OrgDocumentShare :=
  { share with
    status := .revoked
    revokedAt := some today
    revokedBy := some adminUserId
    statusReason := some reason }

/-- `extend_expiry`. -/
def extendExpiry (orgId shareId : Id) (expiryDate : Day) (reason : String) : Service Unit := do
  .lookup fun s => expiryMustBeFuture (some expiryDate) s.today
  let share ← .lookup (shareOfOrg orgId shareId)
  .check (raiseIf (share.status = .revoked)
    (.service (invalid "Cannot extend expiry on a revoked share.")))
  .write (ShareState.modifyShare shareId (OrgDocumentShare.extend expiryDate reason) fun _ => rfl)
  .write (ShareState.log share.documentId .extended "Admin")

/-- `revoke_share`. -/
def revokeShare (orgId shareId : Id) (reason : String) (adminUserId : Id) : Service Unit := do
  let share ← .lookup (shareOfOrg orgId shareId)
  .check (raiseIf (share.status = .revoked) (.service (invalid "Share is already revoked.")))
  let today ← .query ShareState.today
  .write (ShareState.modifyShare shareId (OrgDocumentShare.revoke today adminUserId reason)
    fun _ => rfl)
  .write (ShareState.log share.documentId .revoked "Admin")

/-- `soft_delete`. -/
def ShareState.softDelete (docId : Id) (s : ShareState) : ShareState :=
  { s with
    documents := s.documents.modify docId (fun doc => { doc with isActive := false }) fun _ => rfl }

/-- `delete_document`. -/
def deleteDocument (orgId docId : Id) : Service Unit := do
  let _ ← .lookup fun s => s.getActiveByOrgAndId orgId docId
  .write (ShareState.softDelete docId)
  .write (ShareState.log docId .deleted "Admin")

/-! ### Codes -/

/-- `_normalize_share_recipient_email`, `_normalize_share_otp_email`. -/
def normalizeEmail (env : ShareEnv) (email : String) : String := env.lower (strip email)

/-- `recipient_is_allowed`. -/
def recipientIsAllowed (env : ShareEnv) (share : OrgDocumentShare) (email : String) : Bool :=
  normalizeEmail env email ∈ share.recipients.map (normalizeEmail env)

/-- `_effective_share_status`. -/
def effectiveShareStatus (today : Day) (share : OrgDocumentShare) : OrgDocumentShareStatus :=
  if share.status = .revoked then .revoked
  else if (share.expiryDate.any fun day => day < today) = true then .expired
  else share.status

/-- `SharedDocumentInfoResponse`, without the texts of the share. -/
structure SharedDocumentInfo where
  shareToken : String
  otpRequired : Bool
  status : OrgDocumentShareStatus
  expiryDate : Option Day
  deriving DecidableEq

/-- What `get_share_info` says about a share. -/
def OrgDocumentShare.info (today : Day) (share : OrgDocumentShare) : SharedDocumentInfo where
  shareToken := share.shareToken
  otpRequired := share.otpRequired
  status := effectiveShareStatus today share
  expiryDate := share.expiryDate

/-- `assert_share_active_for_otp`, which the two requests for the document repeat. -/
def assertShareActive (today : Day) (share : OrgDocumentShare) : Except AccessError Unit := do
  let effectiveStatus := effectiveShareStatus today share
  raiseIf (effectiveStatus = .revoked) (forbidden "This share link has been revoked.")
  raiseIf (effectiveStatus = .expired) (forbidden "This share link has expired.")

/-- `get_share_for_public_otp`. -/
def getShareForPublicOtp (shareToken : String) (s : ShareState) :
    Except AccessError OrgDocumentShare :=
  orRaise (s.getByToken shareToken) (.linkNotFound "shared document" shareToken)

/-- `get_share_info`. A share that is revoked or has expired is answered too. -/
def getShareInfo (shareToken : String) : Service SharedDocumentInfo := do
  let share ← .lookup (getShareForPublicOtp shareToken)
  let today ← .query ShareState.today
  return share.info today

/-- What the other requests with a link begin with. -/
def openShare (shareToken : String) (s : ShareState) : Except AccessError OrgDocumentShare := do
  let share ← getShareForPublicOtp shareToken s
  assertShareActive s.today share
  return share

/-- Who a code for an address is for. -/
def holderOf (env : ShareEnv) (shareToken : String) (email : EmailStr) : ShareHolder :=
  ⟨shareToken, env.lower email.text⟩

/-- `send_share_otp`. An address that was not invited gets the same answer, and no code. -/
def sendShareOtp (env : ShareEnv) (shareToken : String) (email : EmailStr) (otpCode : String) :
    Service Unit := do
  let share ← .lookup (openShare shareToken)
  if recipientIsAllowed env share email.text then
    onStepUp (sendOtp sharePolicy (holderOf env shareToken email) otpCode)
  else return

/-- `verify_share_otp`. -/
def verifyShareOtp (env : ShareEnv) (shareToken : String) (email : EmailStr) (otpCode : String) :
    Service Verified := do
  let share ← .lookup (openShare shareToken)
  .check (raiseIf (recipientIsAllowed env share email.text = false) invalidOtp)
  onStepUp (verifyOtp sharePolicy env.secrets (holderOf env shareToken email) otpCode)

/-! ### The document -/

/-- What is said about a token that does not do. -/
def badShareToken : AccessError :=
  unauthenticated ("Share access token is missing, invalid, or expired. " ++
    "Request a new OTP via POST /\x7bshare_token\x7d/otp/send.")

/-- `_validate_otp_token_for_share`. -/
def validateOtpTokenForShare (env : ShareEnv) (shareToken : String)
    (shareAccessToken : Option String) (s : ShareState) : Except AccessError Unit := do
  let token ← orRaise (shareAccessToken.filter (· ≠ ""))
    (unauthenticated
      "OTP verification is required. Request a code via POST /\x7bshare_token\x7d/otp/send.")
  let row ← orRaise (s.stepUp.findValidToken env.secrets token
    fun holder => holder.shareToken = shareToken) badShareToken
  let share ← orRaise (s.getByToken shareToken) badShareToken
  raiseIf (recipientIsAllowed env share row.holder.recipientEmail = false) badShareToken

/-- `increment_access_count`. -/
def incrementAccessCount (share : OrgDocumentShare) : OrgDocumentShare :=
  { share with
    accessCount := share.accessCount + 1
    status := if share.status = .active then .downloaded else share.status }

/-- The document, if it was not deleted. -/
def activeDocument (documentId : Id) (s : ShareState) : Except AccessError OrgDocument :=
  orRaise ((s.documents.find? documentId).filter fun doc => doc.isActive)
    (.service (.notFound "document" (some documentId)))

/-- What the two requests for the document do. -/
def openSharedDocument (activityType : OrgDocumentActivityType) (env : ShareEnv)
    (shareToken : String) (shareAccessToken : Option String) : Service String := do
  let share ← .lookup (openShare shareToken)
  .lookup fun s =>
    if share.otpRequired then validateOtpTokenForShare env shareToken shareAccessToken s else .ok ()
  let doc ← .lookup (activeDocument share.documentId)
  .write (ShareState.modifyShare share.id incrementAccessCount fun _ => rfl)
  .write (ShareState.log share.documentId activityType "External (shared link)")
  return env.documentUrl doc.r2Key

/-- `access_shared_document`. -/
def accessSharedDocument : ShareEnv → String → Option String → Service String :=
  openSharedDocument .viewed

/-- `download_shared_document`. -/
def downloadSharedDocument : ShareEnv → String → Option String → Service String :=
  openSharedDocument .downloaded

/-! ### Requests -/

/-- What is asked of the services. -/
inductive ShareCall where
  | share (orgId docId : Id) (data : OrgDocumentShareCreate)
  | extend (orgId shareId : Id) (expiryDate : Day) (reason : String)
  | revoke (orgId shareId : Id) (reason : String) (adminUserId : Id)
  | delete (orgId docId : Id)
  | info (shareToken : String)
  | send (shareToken : String) (email : EmailStr) (otpCode : String)
  | verify (shareToken : String) (email : EmailStr) (otpCode : String)
  | access (shareToken : String) (shareAccessToken : Option String)
  | download (shareToken : String) (shareAccessToken : Option String)

/-- What a request may answer with. -/
inductive ShareAnswer where
  | done
  | shared (shareId : Id)
  | info (info : SharedDocumentInfo)
  | verified (verified : Verified)
  | url (documentUrl : String)
  deriving DecidableEq

/-- The handler of a call. -/
def ShareCall.handle (env : ShareEnv) : ShareCall → Service ShareAnswer
  | .share orgId docId data => return .shared (← shareDocument env orgId docId data)
  | .extend orgId shareId expiryDate reason => do
      extendExpiry orgId shareId expiryDate reason
      return .done
  | .revoke orgId shareId reason adminUserId => do
      revokeShare orgId shareId reason adminUserId
      return .done
  | .delete orgId docId => do
      deleteDocument orgId docId
      return .done
  | .info shareToken => return .info (← getShareInfo shareToken)
  | .send shareToken email otpCode => do
      sendShareOtp env shareToken email otpCode
      return .done
  | .verify shareToken email otpCode =>
      return .verified (← verifyShareOtp env shareToken email otpCode)
  | .access shareToken shareAccessToken =>
      return .url (← accessSharedDocument env shareToken shareAccessToken)
  | .download shareToken shareAccessToken =>
      return .url (← downloadSharedDocument env shareToken shareAccessToken)

/-- A request, some time after the one before it. -/
structure ShareRequest where
  elapsed : ℕ
  call : ShareCall

/-- A request in a session of its own: what it answers, and what it leaves behind. -/
def ShareRequest.submit (env : ShareEnv) (s : ShareState) (r : ShareRequest) :
    Except AccessError ShareAnswer × ShareState :=
  inSession ShareState.rollback (r.call.handle env) (s.tick r.elapsed)

/-- One request. -/
def step (env : ShareEnv) (s : ShareState) (r : ShareRequest) : ShareState := (r.submit env s).2

/-- The organisations with their documents, before anything is shared. -/
def ShareState.initial (organizations : List Id) (documents : Table OrgDocument.id)
    (now : Instant) : ShareState :=
  ⟨organizations, documents, .empty, [], .initial now⟩

/-! ### What a request does -/

/-- What an accepted request does: the tables, the answer, and what was checked. -/
inductive Change (env : ShareEnv) (s : ShareState) :
    ShareCall → ShareAnswer → ShareState → Prop where
  | shared {orgId docId : Id} {data : OrgDocumentShareCreate} {doc : OrgDocument}
      (hdoc : s.getActiveByOrgAndId orgId docId = .ok doc) :
      Change env s (.share orgId docId data) (.shared s.shares.fresh)
        (ShareState.log docId .shared "Admin"
          { s with shares := s.shares.insert (newShare env orgId docId data s.shares.fresh) })
  | extended {orgId shareId : Id} {expiryDate : Day} {reason : String} {share : OrgDocumentShare}
      (hshare : s.shares.find? shareId = some share) (horg : share.organizationId = orgId)
      (hlive : share.status ≠ .revoked) :
      Change env s (.extend orgId shareId expiryDate reason) .done
        ((s.modifyShare shareId (.extend expiryDate reason) fun _ => rfl).log share.documentId
          .extended "Admin")
  | revoked {orgId shareId adminUserId : Id} {reason : String} {share : OrgDocumentShare}
      (hshare : s.shares.find? shareId = some share) (horg : share.organizationId = orgId)
      (hlive : share.status ≠ .revoked) :
      Change env s (.revoke orgId shareId reason adminUserId) .done
        ((s.modifyShare shareId (.revoke s.today adminUserId reason) fun _ => rfl).log
          share.documentId .revoked "Admin")
  | deleted {orgId docId : Id} {doc : OrgDocument}
      (hdoc : s.getActiveByOrgAndId orgId docId = .ok doc) :
      Change env s (.delete orgId docId) .done ((s.softDelete docId).log docId .deleted "Admin")
  | looked {shareToken : String} {share : OrgDocumentShare}
      (hfound : s.getByToken shareToken = some share) :
      Change env s (.info shareToken) (.info (share.info s.today)) s
  | sent {shareToken : String} {email : EmailStr} {otpCode : String} {share : OrgDocumentShare}
      (hopen : openShare shareToken s = .ok share) (t : Store ShareHolder) :
      Change env s (.send shareToken email otpCode) .done { s with stepUp := t }
  | verified {shareToken : String} {email : EmailStr} {otpCode : String} {verified : Verified}
      {share : OrgDocumentShare} (hopen : openShare shareToken s = .ok share)
      (t : Store ShareHolder) :
      Change env s (.verify shareToken email otpCode) (.verified verified) { s with stepUp := t }
  | opened {call : ShareCall} {activityType : OrgDocumentActivityType} {shareToken : String}
      {token : Option String} {share : OrgDocumentShare} {doc : OrgDocument}
      (hcall : call = .access shareToken token ∧ activityType = .viewed ∨
        call = .download shareToken token ∧ activityType = .downloaded)
      (hopen : openShare shareToken s = .ok share)
      (hotp : share.otpRequired = true →
        validateOtpTokenForShare env shareToken token s = .ok ())
      (hdoc : activeDocument share.documentId s = .ok doc) :
      Change env s call (.url (env.documentUrl doc.r2Key))
        ((s.modifyShare share.id incrementAccessCount fun _ => rfl).log share.documentId
          activityType "External (shared link)")

variable {env : ShareEnv} {s s' : ShareState}

theorem shareOfOrg_eq_ok {orgId shareId : Id} {share : OrgDocumentShare} :
    shareOfOrg orgId shareId s = .ok share ↔
      s.shares.find? shareId = some share ∧ share.organizationId = orgId := by
  unfold shareOfOrg
  rw [bind_eq_ok]
  constructor
  · rintro ⟨share', hfound, h⟩
    obtain ⟨⟨⟩, horg, h⟩ := bind_eq_ok.mp h
    obtain rfl := pure_eq_ok.mp h
    exact ⟨orRaise_eq_ok.mp hfound, not_not.mp (raiseIf_eq_ok.mp horg)⟩
  · rintro ⟨hfound, horg⟩
    refine ⟨share, orRaise_eq_ok.mpr hfound, bind_eq_ok.mpr ⟨⟨⟩, ?_, rfl⟩⟩
    exact raiseIf_eq_ok.mpr (not_not.mpr horg)

theorem getActiveByOrgAndId_eq_ok {orgId docId : Id} {doc : OrgDocument}
    (h : s.getActiveByOrgAndId orgId docId = .ok doc) :
    doc ∈ s.documents.rows ∧ doc.id = docId ∧ doc.organizationId = orgId ∧
      doc.isActive = true := by
  obtain ⟨hfound, hactive⟩ := Option.filter_eq_some_iff.mp (orRaise_eq_ok.mp h)
  obtain ⟨hmem, hid⟩ := Table.find?_eq_some_iff.mp hfound
  rw [Bool.and_eq_true, decide_eq_true_eq] at hactive
  exact ⟨hmem, hid, hactive⟩

theorem activeDocument_eq_ok {docId : Id} {doc : OrgDocument}
    (h : activeDocument docId s = .ok doc) :
    doc ∈ s.documents.rows ∧ doc.id = docId ∧ doc.isActive = true := by
  obtain ⟨hfound, hactive⟩ := Option.filter_eq_some_iff.mp (orRaise_eq_ok.mp h)
  obtain ⟨hmem, hid⟩ := Table.find?_eq_some_iff.mp hfound
  exact ⟨hmem, hid, hactive⟩

theorem onStepUp_eq_ok {α : Type} {m : Handler (Store ShareHolder) AccessError α} {a : α}
    (h : onStepUp m s = (.ok a, s')) : ∃ t, s' = { s with stepUp := t } :=
  ⟨_, (Prod.mk.inj h).2.symm⟩

/-- What opening a document does. -/
theorem openSharedDocument_eq_ok {activityType : OrgDocumentActivityType} {shareToken url : String}
    {token : Option String}
    (h : openSharedDocument activityType env shareToken token s = (.ok url, s')) :
    ∃ share doc, openShare shareToken s = .ok share ∧
      (share.otpRequired = true → validateOtpTokenForShare env shareToken token s = .ok ()) ∧
      activeDocument share.documentId s = .ok doc ∧ url = env.documentUrl doc.r2Key ∧
      s' = (s.modifyShare share.id incrementAccessCount fun _ => rfl).log share.documentId
        activityType "External (shared link)" := by
  obtain ⟨share, hopen, h⟩ := Handler.bind_lookup_eq_ok.mp h
  obtain ⟨⟨⟩, hotp, h⟩ := Handler.bind_lookup_eq_ok.mp h
  obtain ⟨doc, hdoc, h⟩ := Handler.bind_lookup_eq_ok.mp h
  obtain ⟨hurl, rfl⟩ := Prod.mk.inj h
  refine ⟨share, doc, hopen, fun hrequired => ?_, hdoc, (Except.ok.inj hurl).symm, rfl⟩
  rwa [if_pos hrequired] at hotp

/-- **What an accepted request does.** -/
theorem change_of_ok {call : ShareCall} {answer : ShareAnswer}
    (h : call.handle env s = (.ok answer, s')) : Change env s call answer s' := by
  cases call with
  | share orgId docId data =>
      obtain ⟨shareId, hrun, rfl⟩ := Handler.bind_pure_eq_ok.mp h
      obtain ⟨⟨⟩, -, hrun⟩ := Handler.bind_lookup_eq_ok.mp hrun
      obtain ⟨⟨⟩, -, hrun⟩ := Handler.bind_lookup_eq_ok.mp hrun
      obtain ⟨doc, hdoc, hrun⟩ := Handler.bind_lookup_eq_ok.mp hrun
      obtain ⟨rfl, rfl⟩ := Handler.pure_eq_ok.mp hrun
      exact .shared hdoc
  | extend orgId shareId expiryDate reason =>
      obtain ⟨⟨⟩, hrun, rfl⟩ := Handler.bind_pure_eq_ok.mp h
      obtain ⟨⟨⟩, -, hrun⟩ := Handler.bind_lookup_eq_ok.mp hrun
      obtain ⟨share, hshare, hrun⟩ := Handler.bind_lookup_eq_ok.mp hrun
      obtain ⟨⟨⟩, hlive, hrun⟩ := Handler.bind_check_eq_ok.mp hrun
      obtain ⟨-, rfl⟩ := Prod.mk.inj hrun
      obtain ⟨hfound, horg⟩ := shareOfOrg_eq_ok.mp hshare
      exact .extended hfound horg (raiseIf_eq_ok.mp hlive)
  | revoke orgId shareId reason adminUserId =>
      obtain ⟨⟨⟩, hrun, rfl⟩ := Handler.bind_pure_eq_ok.mp h
      obtain ⟨share, hshare, hrun⟩ := Handler.bind_lookup_eq_ok.mp hrun
      obtain ⟨⟨⟩, hlive, hrun⟩ := Handler.bind_check_eq_ok.mp hrun
      obtain ⟨-, rfl⟩ := Prod.mk.inj hrun
      obtain ⟨hfound, horg⟩ := shareOfOrg_eq_ok.mp hshare
      exact .revoked hfound horg (raiseIf_eq_ok.mp hlive)
  | delete orgId docId =>
      obtain ⟨⟨⟩, hrun, rfl⟩ := Handler.bind_pure_eq_ok.mp h
      obtain ⟨doc, hdoc, hrun⟩ := Handler.bind_lookup_eq_ok.mp hrun
      obtain ⟨-, rfl⟩ := Prod.mk.inj hrun
      exact .deleted hdoc
  | info shareToken =>
      obtain ⟨info, hrun, rfl⟩ := Handler.bind_pure_eq_ok.mp h
      obtain ⟨share, hfound, hrun⟩ := Handler.bind_lookup_eq_ok.mp hrun
      obtain ⟨rfl, rfl⟩ := Handler.pure_eq_ok.mp hrun
      exact .looked (orRaise_eq_ok.mp hfound)
  | send shareToken email otpCode =>
      obtain ⟨⟨⟩, hrun, rfl⟩ := Handler.bind_pure_eq_ok.mp h
      obtain ⟨share, hopen, hrun⟩ := Handler.bind_lookup_eq_ok.mp hrun
      split at hrun
      · obtain ⟨t, rfl⟩ := onStepUp_eq_ok hrun
        exact .sent hopen t
      · obtain ⟨-, rfl⟩ := Prod.mk.inj hrun
        exact .sent hopen s.stepUp
  | verify shareToken email otpCode =>
      obtain ⟨verified, hrun, rfl⟩ := Handler.bind_pure_eq_ok.mp h
      obtain ⟨share, hopen, hrun⟩ := Handler.bind_lookup_eq_ok.mp hrun
      obtain ⟨⟨⟩, -, hrun⟩ := Handler.bind_check_eq_ok.mp hrun
      obtain ⟨t, rfl⟩ := onStepUp_eq_ok hrun
      exact .verified hopen t
  | access shareToken token =>
      obtain ⟨url, hrun, rfl⟩ := Handler.bind_pure_eq_ok.mp h
      obtain ⟨share, doc, hopen, hotp, hdoc, rfl, rfl⟩ := openSharedDocument_eq_ok hrun
      exact .opened (.inl ⟨rfl, rfl⟩) hopen hotp hdoc
  | download shareToken token =>
      obtain ⟨url, hrun, rfl⟩ := Handler.bind_pure_eq_ok.mp h
      obtain ⟨share, doc, hopen, hotp, hdoc, rfl, rfl⟩ := openSharedDocument_eq_ok hrun
      exact .opened (.inr ⟨rfl, rfl⟩) hopen hotp hdoc

end SwCouriers.DocumentShares
