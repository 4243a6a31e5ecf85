import SwCouriers.Invites

/-!
# What Requests do to Invitations

`Change` says what an accepted request does to the invites and to the accounts that are verified.

## Main results

* `createInvite_eq_ok`, `createDriverRow_eq_ok`, `resend_eq_ok`, `complete_eq_ok`: one lemma for
  each service.
* `change_of_ok`: what an accepted request does.
-/

namespace SwCouriers.Invites

open Checked Requests
open Auth (AuthDb AuthUser)
open StepUp (AccessError)

variable {env : InviteEnv} {s s' : InviteState}

/-! ### What the services do -/

variable {userId : Id} {user : Auth.User} {inviter : AuthUser} {result : CreateInviteResult}
  {call : InviteCall}

theorem user_eq_ok :
    s.user userId = .ok user ↔ s.accounts.db.users.find? userId = some user := orRaise_eq_ok

theorem id_of_find (h : s.accounts.db.users.find? userId = some user) :
    user.id = userId := (Table.find?_eq_some_iff.mp h).2

/-- How long a link of `create_invite` can be used. -/
def inviteLifetime (expiresDays : Option ℕ) : ℤ :=
  days ((expiresDays.filter (· ≠ 0)).getD inviteExpireDays)

/-- What `create_invite` does: nothing if it is throttled. -/
theorem createInvite_eq_ok {expiresDays : Option ℕ} {organizationId : Option Id}
    (h : createInvite env inviter userId expiresDays organizationId s = (.ok result, s')) :
    ∃ user, s.accounts.db.users.find? userId = some user ∧ userId ∉ s.emailVerified ∧
      (inviteSendThrottleShouldSuppress userId s = true ∧ s' = s ∧
          result = ⟨true, none, none, user, s.findLatestInviteIdForUser userId⟩ ∨
        inviteSendThrottleShouldSuppress userId s = false ∧
          s' = (inviteSendThrottleConsume userId s).addInvite
            (newInvite env userId (inviteLifetime expiresDays) (some inviter.id) s) ∧
          result = ⟨false,
            some (newInvite env userId (inviteLifetime expiresDays) (some inviter.id) s),
            some (env.inviteToken s.invites.fresh), user, some s.invites.fresh⟩) := by
  obtain ⟨user, huser, h⟩ := Handler.bind_lookup_eq_ok.mp h
  obtain ⟨⟨⟩, hunverified, h⟩ := Handler.bind_lookup_eq_ok.mp h
  obtain ⟨⟨⟩, -, h⟩ := Handler.bind_check_eq_ok.mp h
  have hfound := user_eq_ok.mp huser
  have hnew := raiseIf_eq_ok.mp hunverified
  rw [id_of_find hfound] at hnew
  refine ⟨user, hfound, hnew, ?_⟩
  rw [Handler.bind_query] at h
  cases hthrottled : inviteSendThrottleShouldSuppress userId s with
  | true =>
      rw [hthrottled] at h
      obtain ⟨hresult, rfl⟩ := Prod.mk.inj h
      exact .inl ⟨rfl, rfl, (Except.ok.inj hresult).symm⟩
  | false =>
      rw [hthrottled] at h
      obtain ⟨hresult, rfl⟩ := Prod.mk.inj h
      exact .inr ⟨rfl, rfl, (Except.ok.inj hresult).symm⟩

theorem fresh_useWhere (p : Invite → Bool) (s : InviteState) :
    (s.useWhere p).invites.fresh = s.invites.fresh := by
  have hkeys : (s.useWhere p).invites.rows.map Invite.id = s.invites.rows.map Invite.id :=
    Table.map_key_mapRows _ _ fun invite => by split <;> rfl
  rw [Table.fresh, hkeys, Table.fresh]

/-- The links that a new one replaces do not matter for it. -/
theorem newInvite_useWhere (userId : Id) (lifetime : ℤ) (invitedByUserId : Option Id)
    (p : Invite → Bool) :
    newInvite env userId lifetime invitedByUserId (s.useWhere p)
      = newInvite env userId lifetime invitedByUserId s := by
  rw [newInvite, newInvite, fresh_useWhere]
  rfl

/-- What `_create_driver_activation_invite_row` does. -/
theorem createDriverRow_eq_ok {targetUserId : Id} {invitedByUserId : Option Id}
    {inviter : Option AuthUser} {row : Invite × String × Auth.User}
    (h : createDriverActivationInviteRow env targetUserId invitedByUserId inviter s
      = (.ok row, s')) :
    ∃ user, s.accounts.db.users.find? targetUserId = some user ∧
      targetUserId ∉ s.emailVerified ∧ user.role = .driver ∧
      s' = (s.invalidatePendingInvitesForUser targetUserId).addInvite (newInvite env targetUserId
        (days env.driverActivationInviteExpireDays) invitedByUserId s) ∧
      row = (newInvite env targetUserId (days env.driverActivationInviteExpireDays)
        invitedByUserId s, env.inviteToken s.invites.fresh, user) := by
  obtain ⟨user, huser, h⟩ := Handler.bind_lookup_eq_ok.mp h
  obtain ⟨⟨⟩, hrole, h⟩ := Handler.bind_check_eq_ok.mp h
  obtain ⟨⟨⟩, hunverified, h⟩ := Handler.bind_lookup_eq_ok.mp h
  rw [Handler.bind_query] at h
  obtain ⟨⟨⟩, -, h⟩ := Handler.bind_check_eq_ok.mp h
  obtain ⟨⟨⟩, -, h⟩ := Handler.bind_check_eq_ok.mp h
  rw [Handler.bind_write, Handler.bind_query, Handler.bind_write,
    InviteState.invalidatePendingInvitesForUser, newInvite_useWhere] at h
  have hfound := user_eq_ok.mp huser
  have hnew := raiseIf_eq_ok.mp hunverified
  rw [id_of_find hfound] at hnew h
  obtain ⟨hrow, rfl⟩ := Prod.mk.inj h
  exact ⟨user, hfound, hnew, not_not.mp (raiseIf_eq_ok.mp hrole), rfl, (Except.ok.inj hrow).symm⟩

/-- What `resend_invite_for_activation_link_request` does. -/
theorem resend_eq_ok {requestId : Id}
    (h : resendInviteForActivationLinkRequest env inviter requestId s = (.ok result, s')) :
    ∃ request target s₁ inviteId, s.linkRequests.find? requestId = some request ∧
      request.status = .pending ∧
      s.accounts.db.users.find? request.requesterUserId = some target ∧
      linkForRequester env inviter target s = (.ok result, s₁) ∧
      result.publicInviteId = some inviteId ∧ (s₁.invites.find? inviteId).isSome = true ∧
      s' = s₁.resolvePendingById requestId inviter.id inviteId := by
  obtain ⟨request, hrequest, h⟩ := Handler.bind_lookup_eq_ok.mp h
  obtain ⟨⟨⟩, hpending, h⟩ := Handler.bind_check_eq_ok.mp h
  obtain ⟨target, htarget, h⟩ := Handler.bind_lookup_eq_ok.mp h
  obtain ⟨result', s₁, hresult, h⟩ := Handler.bind_eq_ok.mp h
  obtain ⟨inviteId, hinviteId, h⟩ := Handler.bind_lookup_eq_ok.mp h
  rw [Handler.bind_query, Handler.bind_write] at h
  obtain ⟨⟨⟩, -, h⟩ := Handler.bind_check_eq_ok.mp h
  obtain ⟨rfl, rfl⟩ := Handler.pure_eq_ok.mp h
  have hfound := orRaise_eq_ok.mp hrequest
  obtain ⟨hpublic, hthere⟩ := Option.filter_eq_some_iff.mp (orRaise_eq_ok.mp hinviteId)
  have hid : request.id = requestId := (Table.find?_eq_some_iff.mp hfound).2
  exact ⟨request, target, s₁, inviteId, hfound, not_not.mp (raiseIf_eq_ok.mp hpending),
    user_eq_ok.mp htarget, hresult, hpublic, hthere, by rw [hid]⟩

/-- What is found for the hash of a token. -/
theorem findPending_eq_some {hash : String} {invite : Invite}
    (h : s.findPendingByTokenHash hash = some (invite, user)) :
    invite ∈ s.invites.rows ∧ invite.tokenHash = hash ∧ invite.usedAt = none ∧
      s.now < invite.expiresAt ∧ invite.userId ∉ s.emailVerified ∧
      s.accounts.db.users.find? invite.userId = some user := by
  obtain ⟨found, hfound, h⟩ := Option.bind_eq_some_iff.mp h
  obtain ⟨user', huser, h⟩ := Option.map_eq_some_iff.mp h
  obtain ⟨rfl, rfl⟩ := Prod.mk.inj h
  have hmem := List.mem_of_find?_eq_some hfound
  have hp := List.find?_some hfound
  simp only [InviteState.pending, Bool.and_eq_true, decide_eq_true_eq, Option.isNone_iff_eq_none]
    at hp
  obtain ⟨hhash, ⟨⟨hunused, hlive⟩, -⟩, hunverified⟩ := hp
  exact ⟨hmem, hhash, hunused, hlive, hunverified, huser⟩

theorem useWhere_useWhere {p q : Invite → Bool} (hpq : ∀ invite, p invite = true → q invite = true)
    (hq : ∀ invite : Invite, invite.usedAt.isSome = true → q invite = false) (s : InviteState) :
    (s.useWhere p).useWhere q = s.useWhere q := by
  rw [InviteState.useWhere, InviteState.useWhere, InviteState.useWhere]
  congr 1
  ext1
  simp only [Table.rows_mapRows, List.map_map]
  refine List.map_congr_left fun invite _ => ?_
  by_cases hp : p invite = true
  · simp [hp, hpq invite hp, hq]
  · simp [hp]

/-- A link that was found is claimed, and all links of the user with it. -/
theorem markUsed_of_pending {invite : Invite} (hinvite : invite ∈ s.invites.rows)
    (hunused : invite.usedAt = none) :
    markUsedAndInvalidateSiblingInvites invite.id invite.userId s
      = (.ok true, s.invalidatePendingInvitesForUser invite.userId) := by
  have hfind : s.invites.find? invite.id = some invite :=
    Table.find?_eq_some_iff.mpr ⟨hinvite, rfl⟩
  rw [markUsedAndInvalidateSiblingInvites, Handler.bind_query, hfind]
  simp only [Option.any_some, hunused, Option.isNone_none, decide_true, Bool.and_self, if_true]
  rw [Handler.bind_write, Handler.bind_write, InviteState.invalidatePendingInvitesForUser,
    useWhere_useWhere]
  · rfl
  · intro invite' hp
    simp only [Bool.and_eq_true] at hp ⊢
    exact ⟨hp.1.2, hp.2⟩
  · intro invite' hused
    simp [hused]

theorem activateProfile_apply (user : Auth.User) (s : InviteState) :
    ∃ s', activateRoleSpecificProfile user s = (.ok (), s') ∧ s'.invites = s.invites ∧
      s'.emailVerified = s.emailVerified := by
  rw [activateRoleSpecificProfile, Handler.when]
  split
  · exact ⟨_, rfl, rfl, rfl⟩
  · exact ⟨_, rfl, rfl, rfl⟩

/-- A link that was found is used, if the role of its user is allowed. -/
theorem complete_of_found {token : String} (password : String)
    {allowedRoles : Option (List Auth.UserRole)} {invite : Invite}
    (hfound : s.findPendingByTokenHash (env.hashInviteToken token) = some (invite, user))
    (hroles : ∀ roles ∈ allowedRoles, user.role ∈ roles) :
    ∃ s', completeInviteActivation env token password allowedRoles s = (.ok invite.userId, s') ∧
      s'.invites = (s.invalidatePendingInvitesForUser invite.userId).invites ∧
      s'.emailVerified = invite.userId :: s.emailVerified := by
  obtain ⟨hmem, -, hunused, -⟩ := findPending_eq_some hfound
  obtain ⟨s', hprofile, hinvites, hverified⟩ := activateProfile_apply user
    (((s.invalidatePendingInvitesForUser invite.userId).activateAccount env invite.userId
      password).mapDb (AuthDb.revokeAllForUser invite.userId s.now))
  refine ⟨s', ?_, hinvites, hverified⟩
  have hlink : pendingLink env token s = .ok (invite, user) := orRaise_eq_ok.mpr hfound
  refine (Handler.bind_lookup_of_ok hlink).trans ?_
  refine (Handler.bind_check_of_ok (raiseIf_eq_ok (w := ⟨⟩) |>.mpr ?_)).trans ?_
  · rintro ⟨roles, hroles', hrole⟩
    exact hrole (hroles roles hroles')
  · refine (Handler.bind_of_ok (markUsed_of_pending hmem hunused)).trans ?_
    refine (Handler.bind_check_of_ok rfl).trans ?_
    exact Handler.bind_of_ok hprofile

/-- What `complete_invite_activation` does. -/
theorem complete_eq_ok {token password : String} {allowedRoles : Option (List Auth.UserRole)}
    (h : completeInviteActivation env token password allowedRoles s = (.ok userId, s')) :
    ∃ invite user, s.findPendingByTokenHash (env.hashInviteToken token) = some (invite, user) ∧
      (∀ roles ∈ allowedRoles, user.role ∈ roles) ∧ invite.userId = userId ∧
      s'.invites = (s.invalidatePendingInvitesForUser userId).invites ∧
      s'.emailVerified = userId :: s.emailVerified := by
  obtain ⟨⟨invite, user⟩, hlookup, hrest⟩ := Handler.bind_lookup_eq_ok.mp h
  obtain ⟨⟨⟩, hcheck, -⟩ := Handler.bind_check_eq_ok.mp hrest
  have hfound := orRaise_eq_ok.mp hlookup
  have hroles : ∀ roles ∈ allowedRoles, user.role ∈ roles := by
    intro roles hroles
    by_contra hrole
    exact raiseIf_eq_ok.mp hcheck ⟨roles, hroles, hrole⟩
  obtain ⟨s₁, hrun, hinvites, hverified⟩ := complete_of_found password hfound hroles
  obtain ⟨hid, rfl⟩ := Prod.mk.inj (hrun.symm.trans h)
  obtain rfl := Except.ok.inj hid
  exact ⟨invite, user, hfound, hroles, rfl, hinvites, hverified⟩

/-! ### What a request does -/

/-- How long a link can be used. -/
def lifetime (env : InviteEnv) (call : InviteCall) (mail : Mail) : ℤ :=
  match mail.job, call with
  | .sendDriverActivationEmail, _ => days env.driverActivationInviteExpireDays
  | .sendInviteEmail, .invite _ _ expiresDays _ => inviteLifetime expiresDays
  | .sendInviteEmail, _ => inviteLifetime none

/-- The links that are left when a new one is sent. -/
def InviteState.replaced (job : MailJob) (userId : Id) (s : InviteState) : InviteState :=
  match job with
  | .sendInviteEmail => s
  | .sendDriverActivationEmail => s.invalidatePendingInvitesForUser userId

/-- What an accepted request does to the invites and to the accounts that are verified. -/
inductive Change (env : InviteEnv) (s : InviteState) (call : InviteCall) :
    InviteAnswer → InviteState → Prop where
  | issued {s' : InviteState} {userId : Id} {mail : Mail} {invitedByUserId : Option Id}
      {user : Auth.User} (huser : s.accounts.db.users.find? userId = some user)
      (hmail : mail.toEmail = user.email) (hunverified : userId ∉ s.emailVerified)
      (htoken : mail.token = env.inviteToken s.invites.fresh)
      (hinvites : s'.invites = (s.replaced mail.job userId).invites.insert
        (newInvite env userId (lifetime env call mail) invitedByUserId s))
      (hverified : s'.emailVerified = s.emailVerified) : Change env s call (.issued userId mail) s'
  | activated {s' : InviteState} {userId : Id} {invite : Invite} {user : Auth.User}
      {token password : String} {allowedRoles : Option (List Auth.UserRole)}
      (hcall : call = .activate token password ∧ allowedRoles = none ∨
        call = .setPassword token password ∧ allowedRoles = some [.driver])
      (hfound : s.findPendingByTokenHash (env.hashInviteToken (strip token)) = some (invite, user))
      (hroles : ∀ roles ∈ allowedRoles, user.role ∈ roles) (hid : invite.userId = userId)
      (hinvites : s'.invites = (s.invalidatePendingInvitesForUser userId).invites)
      (hverified : s'.emailVerified = userId :: s.emailVerified) :
      Change env s call (.activated userId) s'
  | verified {s' : InviteState} {userId : Id} (hunverified : userId ∉ s.emailVerified)
      (hinvites : s'.invites = s.invites)
      (hverified : s'.emailVerified = userId :: s.emailVerified) :
      Change env s call (.emailVerified userId) s'
  | throttled {s' : InviteState} {inviteId : Option Id} (hinvites : s'.invites = s.invites)
      (hverified : s'.emailVerified = s.emailVerified) : Change env s call (.throttled inviteId) s'
  | requested {s' : InviteState} {requestId : Id} (hinvites : s'.invites = s.invites)
      (hverified : s'.emailVerified = s.emailVerified) : Change env s call (.requested requestId) s'
  | ignored {s' : InviteState} (hinvites : s'.invites = s.invites)
      (hverified : s'.emailVerified = s.emailVerified) : Change env s call .ignored s'

/-- A link that `create_invite` makes for somebody, or does not make. -/
theorem change_of_createInvite {expiresDays : Option ℕ} {organizationId : Option Id}
    {s₁ : InviteState}
    (h : createInvite env inviter userId expiresDays organizationId s = (.ok result, s₁))
    (hlifetime : ∀ toEmail token,
      lifetime env call ⟨.sendInviteEmail, toEmail, token⟩ = inviteLifetime expiresDays)
    (hinvites : s'.invites = s₁.invites) (hverified : s'.emailVerified = s₁.emailVerified) :
    Change env s call (match result.rawToken with
      | some token => .issued result.user.id ⟨.sendInviteEmail, result.user.email, token⟩
      | none => .throttled result.publicInviteId) s' := by
  obtain ⟨user, hfound, hunverified, ⟨-, rfl, rfl⟩ | ⟨-, rfl, rfl⟩⟩ := createInvite_eq_ok h
  · exact .throttled hinvites hverified
  · obtain rfl := id_of_find hfound
    have hrow : s'.invites = (s.replaced .sendInviteEmail user.id).invites.insert
        (newInvite env user.id (lifetime env call ⟨.sendInviteEmail, user.email,
          env.inviteToken s.invites.fresh⟩) (some inviter.id) s) := by
      rw [hinvites, hlifetime]
      rfl
    exact .issued hfound rfl hunverified rfl hrow hverified

/-- A link for a driver. -/
theorem change_of_createDriverRow {targetUserId : Id} {invitedByUserId : Option Id}
    {inviter : Option AuthUser} {row : Invite × String × Auth.User} {s₁ : InviteState}
    (h : createDriverActivationInviteRow env targetUserId invitedByUserId inviter s = (.ok row, s₁))
    (hinvites : s'.invites = s₁.invites) (hverified : s'.emailVerified = s₁.emailVerified) :
    Change env s call (driverAnswer row) s' := by
  obtain ⟨user, hfound, hunverified, -, rfl, rfl⟩ := createDriverRow_eq_ok h
  obtain rfl := id_of_find hfound
  exact .issued hfound rfl hunverified rfl hinvites hverified

theorem answer_of_createInvite {expiresDays : Option ℕ} {organizationId : Option Id}
    (h : createInvite env inviter userId expiresDays organizationId s = (.ok result, s'))
    (huser : s.accounts.db.users.find? userId = some user) (hrole : user.role ≠ .driver) :
    result.answer = match result.rawToken with
      | some token => .issued result.user.id ⟨.sendInviteEmail, result.user.email, token⟩
      | none => .throttled result.publicInviteId := by
  obtain ⟨user', hfound, -, ⟨-, -, rfl⟩ | ⟨-, -, rfl⟩⟩ := createInvite_eq_ok h
  · rfl
  · rw [huser] at hfound
    obtain rfl := Option.some.inj hfound
    rw [CreateInviteResult.answer]
    dsimp only
    rw [if_neg hrole]

theorem answer_of_createDriverRow {targetUserId : Id} {invitedByUserId : Option Id}
    {inviter : Option AuthUser} {row : Invite × String × Auth.User}
    (h : createDriverActivationInviteRow env targetUserId invitedByUserId inviter s
      = (.ok row, s')) :
    CreateInviteResult.answer ⟨false, some row.1, some row.2.1, row.2.2, some row.1.id⟩
      = driverAnswer row := by
  obtain ⟨user, -, -, hrole, -, rfl⟩ := createDriverRow_eq_ok h
  rw [CreateInviteResult.answer, driverAnswer]
  dsimp only
  rw [if_pos hrole]

/-- The link for somebody who has asked for one. -/
theorem change_of_linkForRequester {requestId : Id} {target : Auth.User} {s₁ : InviteState}
    (htarget : s.accounts.db.users.find? target.id = some target)
    (h : linkForRequester env inviter target s = (.ok result, s₁))
    (hinvites : s'.invites = s₁.invites) (hverified : s'.emailVerified = s₁.emailVerified) :
    Change env s (.resend inviter requestId) result.answer s' := by
  rw [linkForRequester] at h
  split at h
  · obtain ⟨row, hrow, rfl⟩ := Handler.bind_pure_eq_ok.mp h
    rw [answer_of_createDriverRow hrow]
    exact change_of_createDriverRow hrow hinvites hverified
  · rename_i hrole
    rw [answer_of_createInvite h htarget hrole]
    exact change_of_createInvite h (fun _ _ => rfl) hinvites hverified

/-- The invites and the accounts that are verified are as they were. -/
def KeepsInvites (s s' : InviteState) : Prop :=
  s'.invites = s.invites ∧ s'.emailVerified = s.emailVerified

instance : Std.Refl KeepsInvites := ⟨fun _ => ⟨rfl, rfl⟩⟩

instance : IsTrans InviteState KeepsInvites :=
  ⟨fun _ _ _ h h' => ⟨h'.1.trans h.1, h'.2.trans h.2⟩⟩

open Handler in
theorem moves_requestInviteLinkReminder (env : InviteEnv) (email : String) :
    Handler.Moves KeepsInvites (requestInviteLinkReminder env email) := by
  refine moves_bind (moves_query _) fun found => ?_
  split
  · exact moves_pure _
  · refine moves_bind (moves_query _) fun told => ?_
    split
    · exact moves_pure _
    · refine moves_bind (moves_query _) fun requestId => ?_
      exact moves_bind (moves_write fun _ => ⟨rfl, rfl⟩) fun _ => moves_pure _

/-- **What an accepted request does.** -/
theorem change_of_ok {answer : InviteAnswer} (h : call.handle env s = (.ok answer, s')) :
    Change env s call answer s' := by
  cases call with
  | invite inviter userId expiresDays organizationId =>
      obtain ⟨result, hresult, rfl⟩ := Handler.bind_pure_eq_ok.mp h
      exact change_of_createInvite hresult (fun _ _ => rfl) rfl rfl
  | send inviter userId =>
      obtain ⟨target, htarget, h⟩ := Handler.bind_lookup_eq_ok.mp h
      split at h
      · obtain ⟨row, hrow, rfl⟩ := Handler.bind_pure_eq_ok.mp h
        exact change_of_createDriverRow hrow rfl rfl
      · rename_i hrole
        obtain ⟨result, hresult, rfl⟩ := Handler.bind_pure_eq_ok.mp h
        rw [answer_of_createInvite hresult (user_eq_ok.mp htarget) hrole]
        exact change_of_createInvite hresult (fun _ _ => rfl) rfl rfl
  | resend inviter requestId =>
      obtain ⟨result, hresult, rfl⟩ := Handler.bind_pure_eq_ok.mp h
      obtain ⟨request, target, s₂, inviteId, -, -, htarget, hlink, -, -, rfl⟩ :=
        resend_eq_ok hresult
      rw [← id_of_find htarget] at htarget
      exact change_of_linkForRequester htarget hlink rfl rfl
  | remind email =>
      obtain ⟨requested, hrequested, rfl⟩ := Handler.bind_pure_eq_ok.mp h
      have hkept := (moves_requestInviteLinkReminder env email).rel hrequested
      cases requested with
      | none => exact .ignored hkept.1 hkept.2
      | some requestId => exact .requested hkept.1 hkept.2
  | activate token password =>
      obtain ⟨userId, hid, rfl⟩ := Handler.bind_pure_eq_ok.mp h
      obtain ⟨invite, user, hfound, hroles, hid, hinvites, hverified⟩ := complete_eq_ok hid
      exact .activated (.inl ⟨rfl, rfl⟩) hfound hroles hid hinvites hverified
  | setPassword token password =>
      obtain ⟨userId, hid, rfl⟩ := Handler.bind_pure_eq_ok.mp h
      obtain ⟨invite, user, hfound, hroles, hid, hinvites, hverified⟩ := complete_eq_ok hid
      exact .activated (.inr ⟨rfl, rfl⟩) hfound hroles hid hinvites hverified
  | resendPublic email =>
      obtain ⟨sent, hsent, rfl⟩ := Handler.bind_pure_eq_ok.mp h
      rw [resendDriverActivationPublic] at hsent
      split at hsent
      · obtain ⟨rfl, rfl⟩ := Handler.pure_eq_ok.mp hsent
        exact .ignored rfl rfl
      · rw [Handler.bind_write] at hsent
        obtain ⟨⟨⟩, -, hsent⟩ := Handler.bind_lookup_eq_ok.mp hsent
        rw [Handler.bind_query] at hsent
        cases hdriver : awaitingDriver env (env.lower (strip email))
            (s.countResend (env.lower (strip email))) with
        | none =>
            rw [hdriver] at hsent
            obtain ⟨rfl, rfl⟩ := Handler.pure_eq_ok.mp hsent
            exact .ignored rfl rfl
        | some driver =>
            rw [hdriver] at hsent
            obtain ⟨row, s₂, hrow, hpure⟩ := Handler.bind_eq_ok.mp hsent
            generalize driver.id = driverId at hrow
            obtain ⟨rfl, rfl⟩ := Handler.pure_eq_ok.mp hpure
            obtain ⟨user, hfound, hunverified, -, rfl, rfl⟩ := createDriverRow_eq_ok hrow
            obtain rfl := id_of_find hfound
            exact .issued hfound rfl hunverified rfl rfl rfl
  | verify sub =>
      obtain ⟨verified, hverified, rfl⟩ := Handler.bind_pure_eq_ok.mp h
      obtain ⟨userId, -, hverified⟩ := Handler.bind_check_eq_ok.mp hverified
      obtain ⟨user, -, hverified⟩ := Handler.bind_lookup_eq_ok.mp hverified
      rw [Handler.bind_query] at hverified
      split at hverified
      · obtain ⟨rfl, rfl⟩ := Handler.pure_eq_ok.mp hverified
        exact .ignored rfl rfl
      · rename_i hunverified
        obtain ⟨rfl, rfl⟩ := Handler.pure_eq_ok.mp hverified
        exact .verified (by simpa using hunverified) rfl rfl
  | elsewhere f =>
      obtain ⟨rfl, rfl⟩ := Handler.pure_eq_ok.mp h
      exact .ignored rfl rfl

/-! ### The clock and the throttles -/

/-- The calls that may come to `create_invite`. -/
def InviteCall.makesInvite : InviteCall → Bool
  | .invite _ _ _ _ | .send _ _ | .resend _ _ => true
  | _ => false

section Rest

open Handler

variable {R : InviteState → InviteState → Prop} [Std.Refl R] [IsTrans InviteState R]
  (hR : ∀ {s s' : InviteState}, s'.now = s.now → s'.throttles = s.throttles → R s s')

include hR

theorem moves_createDriverRow (targetUserId : Id) (invitedByUserId : Option Id)
    (inviter : Option AuthUser) :
    Handler.Moves R (createDriverActivationInviteRow env targetUserId invitedByUserId inviter) := by
  refine moves_bind (moves_lookup _) fun user => moves_bind (moves_check _) fun _ => ?_
  refine moves_bind (moves_lookup _) fun _ => moves_bind (moves_query _) fun _ => ?_
  refine moves_bind (moves_check _) fun _ => moves_bind (moves_check _) fun _ => ?_
  refine moves_bind (moves_write fun _ => hR rfl rfl) fun _ => ?_
  refine moves_bind (moves_query _) fun _ => ?_
  exact moves_bind (moves_write fun _ => hR rfl rfl) fun _ => moves_pure _

theorem moves_complete (token password : String) (allowedRoles : Option (List Auth.UserRole)) :
    Handler.Moves R (completeInviteActivation env token password allowedRoles) := by
  refine moves_bind (moves_lookup _) fun found => moves_bind (moves_check _) fun _ => ?_
  refine moves_bind ?_ fun claimed => moves_bind (moves_check _) fun _ => ?_
  · refine moves_bind (moves_query _) fun claimed => ?_
    split
    · refine moves_bind (moves_write fun _ => hR rfl rfl) fun _ => ?_
      exact moves_bind (moves_write fun _ => hR rfl rfl) fun _ => moves_pure _
    · exact moves_pure _
  · refine moves_bind (moves_write fun _ => hR rfl rfl) fun _ => ?_
    refine moves_bind (moves_write fun _ => hR rfl rfl) fun _ => ?_
    exact moves_bind (moves_when fun _ => moves_write fun _ => hR rfl rfl) fun _ =>
      moves_pure _

/-- A request changes the clock and the throttles as `create_invite` does, if it makes links in this
way. -/
theorem moves_handle
    (hcreate : call.makesInvite = true → ∀ inviter userId expiresDays organizationId,
      Handler.Moves R (createInvite env inviter userId expiresDays organizationId)) :
    Handler.Moves R (call.handle env) := by
  cases call with
  | invite inviter userId expiresDays organizationId =>
      exact moves_bind (hcreate rfl _ _ _ _) fun _ => moves_pure _
  | send inviter userId =>
      refine moves_bind (moves_lookup _) fun target => ?_
      split
      · exact moves_bind (moves_createDriverRow hR _ _ _) fun _ => moves_pure _
      · exact moves_bind (hcreate rfl _ _ _ _) fun _ => moves_pure _
  | resend inviter requestId =>
      refine moves_bind ?_ fun _ => moves_pure _
      refine moves_bind (moves_lookup _) fun request => moves_bind (moves_check _) fun _ => ?_
      refine moves_bind (moves_lookup _) fun target => moves_bind ?_ fun result => ?_
      · rw [linkForRequester]
        split
        · exact moves_bind (moves_createDriverRow hR _ _ _) fun _ => moves_pure _
        · exact hcreate rfl _ _ _ _
      · refine moves_bind (moves_lookup _) fun _ => moves_bind (moves_query _) fun _ => ?_
        refine moves_bind (moves_write fun _ => hR rfl rfl) fun _ => ?_
        exact moves_bind (moves_check _) fun _ => moves_pure _
  | remind email =>
      refine moves_bind (moves_bind (moves_query _) fun found => ?_) fun _ => moves_pure _
      split
      · exact moves_pure _
      · refine moves_bind (moves_query _) fun told => ?_
        split
        · exact moves_pure _
        · refine moves_bind (moves_query _) fun _ => ?_
          exact moves_bind (moves_write fun _ => hR rfl rfl) fun _ => moves_pure _
  | activate token password => exact moves_bind (moves_complete hR _ _ _) fun _ => moves_pure _
  | setPassword token password => exact moves_bind (moves_complete hR _ _ _) fun _ => moves_pure _
  | resendPublic email =>
      refine moves_bind ?_ fun _ => moves_pure _
      rw [resendDriverActivationPublic]
      split
      · exact moves_pure _
      · refine moves_bind (moves_write fun _ => hR rfl rfl) fun _ => ?_
        refine moves_bind (moves_lookup _) fun _ => moves_bind (moves_query _) fun driver => ?_
        split
        · exact moves_pure _
        · exact moves_bind (moves_createDriverRow hR _ _ _) fun _ => moves_pure _
  | verify sub =>
      refine moves_bind ?_ fun _ => moves_pure _
      refine moves_bind (moves_check _) fun userId => moves_bind (moves_lookup _) fun user => ?_
      refine moves_bind (moves_query _) fun verified => ?_
      split
      · exact moves_pure _
      · refine moves_bind (moves_write fun _ => hR rfl rfl) fun _ => ?_
        exact moves_bind (moves_write fun _ => hR rfl rfl) fun _ => moves_pure _
  | elsewhere f => exact moves_bind (moves_write fun _ => hR rfl rfl) fun _ => moves_pure _

end Rest

/-- The clock stands still during a request. -/
def KeepsNow (s s' : InviteState) : Prop := s'.now = s.now

instance : Std.Refl KeepsNow := ⟨fun _ => rfl⟩

instance : IsTrans InviteState KeepsNow := ⟨fun _ _ _ h h' => Eq.trans h' h⟩

open Handler in
theorem moves_createInvite (inviter : AuthUser) (userId : Id) (expiresDays : Option ℕ)
    (organizationId : Option Id) :
    Handler.Moves KeepsNow (createInvite env inviter userId expiresDays organizationId) := by
  refine moves_bind (moves_lookup _) fun user => moves_bind (moves_lookup _) fun _ => ?_
  refine moves_bind (moves_check _) fun _ => moves_bind (moves_query _) fun throttled => ?_
  split
  · exact moves_bind (moves_query _) fun _ => moves_pure _
  · refine moves_bind (moves_write fun _ => rfl) fun _ => moves_bind (moves_query _) fun _ => ?_
    exact moves_bind (moves_write fun _ => rfl) fun _ => moves_pure _

theorem now_step (env : InviteEnv) (s : InviteState) (r : InviteRequest) :
    (step env s r).now = s.now + r.elapsed := by
  have hnow : KeepsNow (s.tick r.elapsed) (r.call.handle env (s.tick r.elapsed)).2 :=
    moves_handle (fun h _ => h) (fun _ => moves_createInvite) _
  rw [step, InviteRequest.submit, inSession]
  split <;> rename_i h <;> rw [h] at hnow <;> exact hnow

end SwCouriers.Invites
