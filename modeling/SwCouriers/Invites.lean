import SwCouriers.Auth
import SwCouriers.Lib.Throttles
import SwCouriers.Permissions
import SwCouriers.StepUp

/-!
# Invitations

An account is made by somebody else, and activated by a link that is sent to its address. A link
can be used once, within some days. Drivers have links of their own: a new one replaces those
before it, and a driver may ask for one. Who else has lost a link leaves a request, of which the
administrators are notified, and which one of them answers with a new link.

What other services do to accounts is not told here: `InviteCall.elsewhere` may do anything to
what they work on. Deleting an account reaches the requests for links and the notifications by
their foreign keys (`InviteState.onDelete`). Its invites, and its entry in `email_verified`, which
is a table of its own here and written by nobody else, would go as well; they stay here, where no
query finds them, as each of them joins the account.

A request that raises is rolled back. The counters in Redis stay.

## Main definitions

* `createInvite`, `createDriverActivationInviteRow`: the two kinds of links.
* `completeInviteActivation`, `completeDriverActivation`: a link is used.
* `requestInviteLinkReminder`, `resendInviteForActivationLinkRequest`: lost links.
* `InviteRequest.submit`, `step`: one request.
-/

namespace SwCouriers.Invites

open Checked Requests AttemptLimits
open Auth (AuthDb AuthEnv AuthUser)
open Permissions (Resource)
open StepUp (AccessError seconds ttl)

/-! ### The tables -/

/-- `Invite`. -/
structure Invite where
  id : Id
  userId : Id
  tokenHash : String
  expiresAt : Instant
  usedAt : Option Instant
  invitedByUserId : Option Id
  createdAt : Instant
  deriving DecidableEq

/-- `ActivationLinkRequestStatus`. -/
inductive ActivationLinkRequestStatus where
  | pending
  | resolved
  deriving DecidableEq, Repr

/-- `ActivationLinkRequest`. -/
structure ActivationLinkRequest where
  id : Id
  requesterUserId : Id
  status : ActivationLinkRequestStatus
  resolvedByUserId : Option Id
  resolvedInviteId : Option Id
  resolvedAt : Option Instant
  deriving DecidableEq

/-- The request, when accounts are gone that may have answered it. -/
def ActivationLinkRequest.forget (gone : Id → Bool) (request : ActivationLinkRequest) :
    ActivationLinkRequest :=
  { request with resolvedByUserId := request.resolvedByUserId.filter fun userId => !gone userId }

/-- A notification that somebody asks for a link. -/
structure LinkRequestNotification where
  recipientId : Id
  organizationId : Option Id
  activationLinkRequestId : Id
  deriving DecidableEq

/-- What other services work on, as far as invitations read it. -/
structure Accounts where
  db : AuthDb
  /-- The three account managers of an organisation. -/
  accountManagers : Id → Option (List (Option Id))
  /-- `list_active_admin_recipient_ids_for_resource`, for those who may write. -/
  adminRecipients : Resource → List Id

/-- An account that was there and is not there afterwards. -/
def Accounts.deleted (before after : Accounts) (userId : Id) : Bool :=
  (before.db.users.find? userId).isSome && (after.db.users.find? userId).isNone

/-- The tables, the counters in Redis, and the clock. -/
structure InviteState where
  accounts : Accounts
  emailVerified : List Id
  invites : Table Invite.id
  linkRequests : Table ActivationLinkRequest.id
  notifications : List LinkRequestNotification
  throttles : Id → Throttle
  resends : String → Option Counter
  now : Instant

/-- What the service uses beside the state. The tokens drawn are all different. -/
structure InviteEnv extends AuthEnv where
  /-- `secrets.token_urlsafe(32)`, for the invite with the key given. -/
  inviteToken : Id → String
  /-- `hash_token` of the text of such a token. -/
  hashInviteToken : String → String
  hash_injective : Function.Injective fun id => hashInviteToken (inviteToken id)
  /-- `DRIVER_ACTIVATION_INVITE_EXPIRE_DAYS`. -/
  driverActivationInviteExpireDays : ℕ
  /-- `DRIVER_ACTIVATION_RESEND_MAX_PER_HOUR`. -/
  driverActivationResendMaxPerHour : ℕ

/-- `INVITE_EXPIRE_DAYS`. -/
def inviteExpireDays : ℕ := 7

/-- `timedelta(days=n)`. -/
def days (n : ℕ) : ℤ := seconds (n * 86400)

/-- `INVITE_SEND_MAX_DAILY_REQUESTS`, `INVITE_SEND_BASE_COOLDOWN_SECONDS`. A time to live of less
than half a second is rounded to none. -/
def inviteThrottling : Throttling where
  window := seconds 86400
  max := 5
  cooldown n := seconds (30 * 2 ^ (n - 1))
  slack := 500000

/-- A part of a request. -/
abbrev Service (α : Type) := Handler InviteState AccessError α

namespace InviteState

/-- Time passes. -/
def tick (elapsed : ℕ) (s : InviteState) : InviteState := { s with now := s.now + elapsed }

/-- A rollback: the tables are as they were, while Redis and the clock are not. -/
def rollback (before after : InviteState) : InviteState :=
  { before with throttles := after.throttles, resends := after.resends, now := after.now }

/-- `get_by_id`. -/
def user (userId : Id) (s : InviteState) : Except AccessError Auth.User :=
  orRaise (s.accounts.db.users.find? userId) (.service (.notFound "user" (some userId)))

/-- A change of the accounts. -/
def mapDb (f : AuthDb → AuthDb) (s : InviteState) : InviteState :=
  { s with accounts := { s.accounts with db := f s.accounts.db } }

/-! ### Invites -/

/-- `create`. -/
def addInvite (invite : Invite) (s : InviteState) : InviteState :=
  { s with invites := s.invites.insert invite }

/-- `UPDATE invites SET used_at WHERE p`. -/
def useWhere (p : Invite → Bool) (s : InviteState) : InviteState :=
  { s with
    invites := s.invites.mapRows
      (fun invite => if p invite then { invite with usedAt := some s.now } else invite)
      fun invite => by split <;> rfl }

/-- `invalidate_pending_invites_for_user`. -/
def invalidatePendingInvitesForUser (userId : Id) : InviteState → InviteState :=
  useWhere fun invite => invite.userId = userId && invite.usedAt.isNone

/-- `find_latest_invite_id_for_user`. -/
def findLatestInviteIdForUser (userId : Id) (s : InviteState) : Option Id :=
  (Table.latest Invite.createdAt (s.invites.rows.filter fun invite => invite.userId = userId)).map
    Invite.id

/-- An invite that can be used: `find_pending_by_token_hash` joins the user. -/
def pending (s : InviteState) (invite : Invite) : Bool :=
  invite.usedAt.isNone && decide (s.now < invite.expiresAt) &&
    (s.accounts.db.users.find? invite.userId).isSome && decide (invite.userId ∉ s.emailVerified)

/-- `find_pending_by_token_hash`, with the user. -/
def findPendingByTokenHash (hash : String) (s : InviteState) : Option (Invite × Auth.User) :=
  (s.invites.rows.find? fun invite => invite.tokenHash = hash && s.pending invite).bind
    fun invite => (s.accounts.db.users.find? invite.userId).map (invite, ·)

/-- `find_by_token_hash_with_user`. -/
def findByTokenHashWithUser (hash : String) (s : InviteState) : Option (Invite × Auth.User) :=
  (s.invites.rows.find? fun invite => invite.tokenHash = hash).bind
    fun invite => (s.accounts.db.users.find? invite.userId).map (invite, ·)

/-! ### Requests for links -/

/-- `get_pending_for_user`: a unique index lets a user have one. -/
def getPendingForUser (userId : Id) (s : InviteState) : Option ActivationLinkRequest :=
  s.linkRequests.rows.find? fun request =>
    request.requesterUserId = userId && request.status = .pending

/-- A key that no request has, and none had that somebody was notified of. -/
def freshRequestId (s : InviteState) : Id :=
  max s.linkRequests.fresh
    ((s.notifications.map LinkRequestNotification.activationLinkRequestId).foldr max 0 + 1)

/-- A request for a link, and the notifications of it. -/
def addLinkRequest (userId : Id) (organizationId : Option Id) (recipientIds : List Id)
    (s : InviteState) : InviteState :=
  { s with
    linkRequests := s.linkRequests.insert ⟨s.freshRequestId, userId, .pending, none, none, none⟩
    notifications := s.notifications ++
      recipientIds.map fun recipientId => ⟨recipientId, organizationId, s.freshRequestId⟩ }

/-- `resolve_pending_by_id`. -/
def resolvePendingById (requestId actorId inviteId : Id) (s : InviteState) : InviteState :=
  { s with
    linkRequests := s.linkRequests.modify requestId
      (fun request => if request.status = .pending then
        { request with
          status := .resolved
          resolvedByUserId := some actorId
          resolvedInviteId := some inviteId
          resolvedAt := some s.now } else request)
      fun request => by split <;> rfl }

/-! ### Accounts that are deleted -/

/-- The foreign keys to `users`: the requests of an account that is gone go too, and so do the
notifications to it (`CASCADE`), and it is no longer named by what it has answered (`SET NULL`). -/
def onDelete (gone : Id → Bool) (s : InviteState) : InviteState :=
  { s with
    linkRequests := (s.linkRequests.deleteWhere fun request => gone request.requesterUserId = true
      ).mapRows (ActivationLinkRequest.forget gone) fun _ => rfl
    notifications := s.notifications.filter fun n => !gone n.recipientId }

/-- Other services change what they work on. -/
def changeAccounts (f : Accounts → Accounts) (s : InviteState) : InviteState :=
  { s.onDelete (s.accounts.deleted (f s.accounts)) with accounts := f s.accounts }

end InviteState

/-! ### Links -/

/-- The invite that is created next. -/
def newInvite (env : InviteEnv) (userId : Id) (lifetime : ℤ) (invitedByUserId : Option Id)
    (s : InviteState) : Invite where
  id := s.invites.fresh
  userId := userId
  tokenHash := env.hashInviteToken (env.inviteToken s.invites.fresh)
  expiresAt := s.now + lifetime
  usedAt := none
  invitedByUserId := invitedByUserId
  createdAt := s.now

/-- `_enforce_invite_scope_for_target_org`. -/
def enforceInviteScopeForTargetOrg (inviter : AuthUser) (targetOrganizationId : Option Id)
    (organizationId : Option Id) : Except AccessError Unit :=
  raiseIf (inviter.role ∉ [Auth.UserRole.admin, Auth.UserRole.superAdmin] ∧
      ¬ (inviter.organizationId = organizationId ∧ organizationId = targetOrganizationId))
    (.service (.forbidden "You cannot send an invite to this user"))

/-- `_invite_send_throttle_should_suppress`. -/
def inviteSendThrottleShouldSuppress (userId : Id) (s : InviteState) : Bool :=
  ((s.throttles userId).closedUntil.any fun e => decide (0 < ttl s.now e)) ||
    decide (inviteThrottling.max ≤ (s.throttles userId).count s.now)

/-- `_invite_send_throttle_consume`. -/
def inviteSendThrottleConsume (userId : Id) (s : InviteState) : InviteState :=
  { s with
    throttles := Function.update s.throttles userId
      ((s.throttles userId).consume inviteThrottling s.now) }

/-- `CreateInviteResult`. -/
structure CreateInviteResult where
  throttled : Bool
  invite : Option Invite
  rawToken : Option String
  user : Auth.User
  /-- `none` is the identifier of zeros. -/
  publicInviteId : Option Id

/-- `create_invite`. -/
def createInvite (env : InviteEnv) (inviter : AuthUser) (userId : Id) (expiresDays : Option ℕ)
    (organizationId : Option Id) : Service CreateInviteResult := do
  let user ← .lookup (InviteState.user userId)
  .lookup fun s => raiseIf (user.id ∈ s.emailVerified)
    (.service (.conflict "User has already accepted their invite"))
  .check (enforceInviteScopeForTargetOrg inviter user.organizationId organizationId)
  if ← .query (inviteSendThrottleShouldSuppress userId) then do
    let latest ← .query (InviteState.findLatestInviteIdForUser userId)
    return ⟨true, none, none, user, latest⟩
  else do
    .write (inviteSendThrottleConsume userId)
    let expiry := (expiresDays.filter (· ≠ 0)).getD inviteExpireDays
    let invite ← .query (newInvite env userId (days expiry) (some inviter.id))
    .write (InviteState.addInvite invite)
    return ⟨false, some invite, some (env.inviteToken invite.id), user, some invite.id⟩

/-- `_create_driver_activation_invite_row`. -/
def createDriverActivationInviteRow (env : InviteEnv) (targetUserId : Id)
    (invitedByUserId : Option Id) (inviter : Option AuthUser) :
    Service (Invite × String × Auth.User) := do
  let user ← .lookup (InviteState.user targetUserId)
  .check (raiseIf (user.role ≠ .driver) (.service (invalid "Not a driver account")))
  .lookup fun s => raiseIf (user.id ∈ s.emailVerified)
    (.service (.conflict "This account has already completed activation"))
  let driver ← .query fun s => s.accounts.db.drivers.find? user.id
  .check (raiseIf ((driver.any fun d => d.accountStatus = .pendingActivation) = false)
    (.service (invalid "Driver is not awaiting activation")))
  .check (match inviter with
    | some inviter => enforceInviteScopeForTargetOrg inviter user.organizationId none
    | none => .ok ())
  .write (InviteState.invalidatePendingInvitesForUser user.id)
  let invite ← .query (newInvite env user.id (days env.driverActivationInviteExpireDays)
    invitedByUserId)
  .write (InviteState.addInvite invite)
  return (invite, env.inviteToken invite.id, user)

/-- The link for somebody who has asked for one. -/
def linkForRequester (env : InviteEnv) (inviter : AuthUser) (target : Auth.User) :
    Service CreateInviteResult :=
  if target.role = .driver then do
    let (invite, rawToken, user) ← createDriverActivationInviteRow env target.id (some inviter.id)
      (some inviter)
    return ⟨false, some invite, some rawToken, user, some invite.id⟩
  else createInvite env inviter target.id none none

/-- `resend_invite_for_activation_link_request`. The invite named must be there. -/
def resendInviteForActivationLinkRequest (env : InviteEnv) (inviter : AuthUser) (requestId : Id) :
    Service CreateInviteResult := do
  let handled : AccessError :=
    .service (.conflict "Activation link request has already been handled")
  let request ← .lookup fun s => orRaise (s.linkRequests.find? requestId)
    (.service (.notFound "activation_link_request" (some requestId)))
  .check (raiseIf (request.status ≠ .pending) handled)
  let target ← .lookup (InviteState.user request.requesterUserId)
  let result ← linkForRequester env inviter target
  let inviteId ← .lookup fun s => orRaise
    (result.publicInviteId.filter fun inviteId => (s.invites.find? inviteId).isSome)
    (.service (.integrity "activation_link_requests_resolved_invite_id_fkey"))
  let pending ← .query fun s => (s.linkRequests.find? request.id).any fun r => r.status = .pending
  .write (InviteState.resolvePendingById request.id inviter.id inviteId)
  .check (raiseIf (pending = false) handled)
  return result

/-! ### Using a link -/

/-- `mark_used_and_invalidate_sibling_invites`. -/
def markUsedAndInvalidateSiblingInvites (inviteId userId : Id) : Service Bool := do
  let claimed ← .query fun s => (s.invites.find? inviteId).any fun invite =>
    invite.userId = userId && invite.usedAt.isNone
  if claimed then do
    .write (InviteState.useWhere fun invite =>
      invite.id = inviteId && invite.userId = userId && invite.usedAt.isNone)
    .write (InviteState.invalidatePendingInvitesForUser userId)
    return true
  else return false

theorem id_active (u : Auth.User) : ({ u with status := .active } : Auth.User).id = u.id := rfl

/-- What an activation writes to the account. -/
def InviteState.activateAccount (env : InviteEnv) (userId : Id) (password : String)
    (s : InviteState) : InviteState :=
  { s with emailVerified := userId :: s.emailVerified }.mapDb fun db =>
    (db.setPassword userId (env.hashPassword password) s.now false).modifyUser userId
      (fun u => { u with status := .active }) id_active

/-- `_activate_role_specific_profile`. -/
def activateRoleSpecificProfile (user : Auth.User) : Service Unit :=
  .when (user.role = .driver) (.write (InviteState.mapDb (AuthDb.activateDriverOnLogin user.id)))

/-- What is said about a link that does not do. -/
def invalidLink : AccessError := StepUp.unauthenticated "Invalid or expired invite link"

/-- The invite of a link, with its user. -/
def pendingLink (env : InviteEnv) (token : String) (s : InviteState) :
    Except AccessError (Invite × Auth.User) :=
  orRaise (s.findPendingByTokenHash (env.hashInviteToken token)) invalidLink

/-- `complete_invite_activation`. -/
def completeInviteActivation (env : InviteEnv) (token password : String)
    (allowedRoles : Option (List Auth.UserRole)) : Service Id := do
  let (invite, user) ← .lookup (pendingLink env token)
  .check (raiseIf (∃ roles ∈ allowedRoles, user.role ∉ roles) invalidLink)
  let claimed ← markUsedAndInvalidateSiblingInvites invite.id invite.userId
  .check (raiseIf (claimed = false) (.service (.conflict "Invite has already been accepted")))
  .write (InviteState.activateAccount env invite.userId password)
  .write fun s => s.mapDb (AuthDb.revokeAllForUser invite.userId s.now)
  activateRoleSpecificProfile user
  return invite.userId

/-- `complete_driver_activation`. -/
def completeDriverActivation (env : InviteEnv) (token password : String) : Service Id :=
  completeInviteActivation env token password (some [.driver])

/-- `verify_email`, with the user whom the token of the link names. -/
def verifyEmail (sub : Option Id) : Service (Option Id) := do
  let userId ← .check (orRaise sub
    (StepUp.unauthenticated "Invalid or expired verification link"))
  let user ← .lookup fun s => orRaise (s.accounts.db.users.find? userId)
    (StepUp.unauthenticated "Invalid or expired verification link")
  if ← .query fun s => decide (user.id ∈ s.emailVerified) then return none
  else do
    .write fun s => { s with emailVerified := user.id :: s.emailVerified }
    .write (InviteState.mapDb (AuthDb.modifyUser user.id (fun u => { u with status := .active })
      id_active))
    return some user.id

/-! ### Lost links -/

/-- Who is told that a user has lost the link, and for which organisation. -/
def reminderRecipients (user : Auth.User) (s : InviteState) : Option (List Id × Option Id) :=
  match user.role with
  | .admin | .superAdmin => some (s.accounts.adminRecipients .admins, none)
  | .driver => some (s.accounts.adminRecipients .drivers, none)
  | .customerB2b => do
      let organizationId ← user.organizationId
      let managers ← s.accounts.accountManagers organizationId
      return (managers.reduceOption.reverse.dedup.reverse, some organizationId)
  | .warehouseStaff | .customerB2c => none

/-- `request_invite_link_reminder`, with the key of the request that is made. -/
def requestInviteLinkReminder (env : InviteEnv) (email : String) : Service (Option Id) := do
  let found ← .query fun s => s.accounts.db.findByEmail env.toAuthEnv (env.lower (strip email))
  match found.filter fun user => user.status = .pendingVerification with
  | none => return none
  | some user => do
      let told ← .query fun s =>
        if (s.getPendingForUser user.id).isSome then none
        else (reminderRecipients user s).filter fun told => told.1 ≠ []
      match told with
      | none => return none
      | some (recipientIds, organizationId) => do
          let requestId ← .query InviteState.freshRequestId
          .write (InviteState.addLinkRequest user.id organizationId
            recipientIds.reverse.dedup.reverse)
          return some requestId

/-- One more try to have a link resent. -/
def InviteState.countResend (email : String) (s : InviteState) : InviteState :=
  { s with
    resends := Function.update s.resends email
      (some ((⟨s.resends email, none⟩ : Throttle).bump (seconds 3600) s.now)) }

/-- The driver with the address, if one waits for activation. -/
def awaitingDriver (env : InviteEnv) (email : String) (s : InviteState) : Option Auth.User :=
  (s.accounts.db.findByEmail env.toAuthEnv email).filter fun user =>
    user.role = .driver && decide (user.id ∉ s.emailVerified) &&
      (s.accounts.db.drivers.find? user.id).any fun d => d.accountStatus = .pendingActivation

/-- `resend_driver_activation_public`. Who is not waiting for a link is not told so. -/
def resendDriverActivationPublic (env : InviteEnv) (email : String) :
    Service (Option (Invite × String × Auth.User)) := do
  let normalized := env.lower (strip email)
  if normalized = "" then return none
  else do
    .write (InviteState.countResend normalized)
    .lookup fun s => raiseIf
      (∃ c ∈ s.resends normalized, env.driverActivationResendMaxPerHour < c.count)
      (.rateLimit "Too many resend requests for this email. Please try again later." 3600)
    match ← .query (awaitingDriver env normalized) with
    | none => return none
    | some user => return some (← createDriverActivationInviteRow env user.id none none)

/-! ### Looking at a link -/

/-- `_get_pending_invite_with_user`, `validate_invite`: whose link it is. -/
def validateInvite (env : InviteEnv) (token : String) (s : InviteState) :
    Except AccessError Auth.User := do
  let (invite, user) ← pendingLink env token s
  raiseIf (invite.expiresAt < s.now) (StepUp.unauthenticated "Invite link has expired")
  return user

/-- What is said about a link of a driver. -/
inductive DriverLinkState where
  | valid (user : Auth.User) (expiresAt : Instant)
  | invalid
  | alreadyActivated
  | expired
  deriving DecidableEq

/-- `validate_driver_activation_token`. -/
def validateDriverActivationToken (env : InviteEnv) (token : String) (s : InviteState) :
    DriverLinkState :=
  let raw := strip token
  if raw = "" then .invalid
  else match s.findByTokenHashWithUser (env.hashInviteToken raw) with
    | none => .invalid
    | some (invite, user) =>
        if user.role ≠ .driver then .invalid
        else if invite.usedAt.isSome then .invalid
        else if user.id ∈ s.emailVerified then .alreadyActivated
        else if invite.expiresAt ≤ s.now then .expired
        else .valid user invite.expiresAt

/-! ### Requests -/

/-- The jobs that send a link. -/
inductive MailJob where
  | sendInviteEmail
  | sendDriverActivationEmail
  deriving DecidableEq, Repr

/-- An e-mail with a link. -/
structure Mail where
  job : MailJob
  toEmail : String
  token : String
  deriving DecidableEq

/-- What is asked of the services. -/
inductive InviteCall where
  /-- `create_invite`, as the services of administrators and contacts use it. -/
  | invite (inviter : AuthUser) (userId : Id) (expiresDays : Option ℕ) (organizationId : Option Id)
  /-- `send_invite`. -/
  | send (inviter : AuthUser) (userId : Id)
  | resend (inviter : AuthUser) (requestId : Id)
  | remind (email : String)
  | activate (token password : String)
  | setPassword (token password : String)
  | resendPublic (email : String)
  | verify (sub : Option Id)
  /-- Whatever other services do. -/
  | elsewhere (f : Accounts → Accounts)

/-- What has come of a request; not every client is told. -/
inductive InviteAnswer where
  | issued (userId : Id) (mail : Mail)
  | throttled (publicInviteId : Option Id)
  | ignored
  | requested (requestId : Id)
  | activated (userId : Id)
  | emailVerified (userId : Id)
  deriving DecidableEq

/-- The answer for a link that `create_invite` has made, or has not. -/
def CreateInviteResult.answer (result : CreateInviteResult) : InviteAnswer :=
  match result.rawToken with
  | some token => .issued result.user.id
      ⟨if result.user.role = .driver then .sendDriverActivationEmail else .sendInviteEmail,
        result.user.email, token⟩
  | none => .throttled result.publicInviteId

/-- The answer for a link of a driver. -/
def driverAnswer (row : Invite × String × Auth.User) : InviteAnswer :=
  .issued row.2.2.id ⟨.sendDriverActivationEmail, row.2.2.email, row.2.1⟩

/-- The handler of a call. -/
def InviteCall.handle (env : InviteEnv) : InviteCall → Service InviteAnswer
  | .invite inviter userId expiresDays organizationId => do
      let result ← createInvite env inviter userId expiresDays organizationId
      return (match result.rawToken with
        | some token => .issued result.user.id ⟨.sendInviteEmail, result.user.email, token⟩
        | none => .throttled result.publicInviteId)
  | .send inviter userId => do
      let target ← .lookup (InviteState.user userId)
      if target.role = .driver then
        return driverAnswer (← createDriverActivationInviteRow env userId (some inviter.id)
          (some inviter))
      else return (← createInvite env inviter userId none none).answer
  | .resend inviter requestId =>
      return (← resendInviteForActivationLinkRequest env inviter requestId).answer
  | .remind email => do
      let requested ← requestInviteLinkReminder env email
      return (requested.elim .ignored .requested)
  | .activate token password =>
      return .activated (← completeInviteActivation env (strip token) password none)
  | .setPassword token password =>
      return .activated (← completeDriverActivation env (strip token) password)
  | .resendPublic email => do
      let sent ← resendDriverActivationPublic env email
      return (sent.elim .ignored driverAnswer)
  | .verify sub => do
      let verified ← verifyEmail sub
      return (verified.elim .ignored .emailVerified)
  | .elsewhere f => do
      .write (InviteState.changeAccounts f)
      return .ignored

/-- A request, some time after the one before it. -/
structure InviteRequest where
  elapsed : ℕ
  call : InviteCall

/-- A request in a session of its own: what it answers, and what it leaves behind. -/
def InviteRequest.submit (env : InviteEnv) (s : InviteState) (r : InviteRequest) :
    Except AccessError InviteAnswer × InviteState :=
  inSession InviteState.rollback (r.call.handle env) (s.tick r.elapsed)

/-- One request. -/
def step (env : InviteEnv) (s : InviteState) (r : InviteRequest) : InviteState :=
  (r.submit env s).2

/-- Accounts, some of which are verified, before anybody is invited. -/
def InviteState.initial (accounts : Accounts) (emailVerified : List Id) (now : Instant) :
    InviteState :=
  ⟨accounts, emailVerified, .empty, .empty, [], fun _ => .fresh, fun _ => none, now⟩

end SwCouriers.Invites
