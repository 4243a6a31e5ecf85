import SwCouriers.InviteChanges

/-!
# What Lies behind an Activation

An account is activated with a link that was sent to its address. The link has not expired, and
since it was sent the account was not verified in any other way, and no link of a driver was sent
to it.

## Main results

* `validateInvite_iff`, `validateDriverActivationToken_iff`: a link is valid exactly when it can be
  used.
* `activation_iff_traced`: who can activate an account.
* `verified_for_good`: an account is verified once.
-/

namespace SwCouriers.Invites

open Checked Requests
open Auth (AuthUser)

variable {env : InviteEnv} {s s' : InviteState} {r : InviteRequest}

/-! ### Steps -/

/-- A request is accepted, or leaves the invites and what is verified as they were. -/
theorem submit_cases (env : InviteEnv) (s : InviteState) (r : InviteRequest) :
    (∃ answer, (r.submit env s).1 = .ok answer ∧
      Change env (s.tick r.elapsed) r.call answer (step env s r)) ∨
    ∃ e, (r.submit env s).1 = .error e ∧ KeepsInvites s (step env s r) := by
  rw [step, InviteRequest.submit, inSession]
  split
  · rename_i answer s' h
    exact .inl ⟨answer, rfl, change_of_ok h⟩
  · rename_i e s' h
    exact .inr ⟨e, rfl, rfl, rfl⟩

variable {answer : InviteAnswer} {invite : Invite} {userId : Id}

/-- The change that an answer is for. -/
theorem change_of_answer (h : (r.submit env s).1 = .ok answer) :
    Change env (s.tick r.elapsed) r.call answer (step env s r) := by
  rcases submit_cases env s r with ⟨answer', h', hchange⟩ | ⟨e, h', -⟩
  · rw [h] at h'
    exact Except.ok.inj h' ▸ hchange
  · rw [h] at h'
    exact absurd h' (by simp)

/-- The account that is verified with an answer. -/
def InviteAnswer.verifies : InviteAnswer → Option Id
  | .activated userId | .emailVerified userId => some userId
  | _ => none

/-- What an accepted request adds to the accounts that are verified. -/
theorem Change.emailVerified {call : InviteCall} (h : Change env s call answer s') :
    s'.emailVerified = answer.verifies.toList ++ s.emailVerified := by
  cases h with
  | issued _ _ _ _ _ hverified => exact hverified
  | activated _ _ _ _ _ hverified => exact hverified
  | verified _ _ hverified => exact hverified
  | throttled _ hverified | requested _ hverified | ignored _ hverified => exact hverified

/-- A request with which no link of a user can be used any more. -/
def Closes (env : InviteEnv) (userId : Id) (s : InviteState) (r : InviteRequest) : Prop :=
  (r.submit env s).1 = .ok (.activated userId) ∨ (r.submit env s).1 = .ok (.emailVerified userId) ∨
    ∃ mail : Mail, mail.job = .sendDriverActivationEmail ∧
      (r.submit env s).1 = .ok (.issued userId mail)

/-- An invite that is not used after some were used was there and is not one of them. -/
theorem mem_useWhere_iff {p : Invite → Bool} (hunused : invite.usedAt = none) :
    invite ∈ (s.useWhere p).invites.rows ↔ invite ∈ s.invites.rows ∧ p invite = false := by
  rw [InviteState.useWhere, Table.mem_mapRows_iff]
  constructor
  · rintro ⟨before, hbefore, rfl⟩
    split at hunused <;> rename_i hp
    · exact absurd hunused (by simp)
    · rw [if_neg hp]
      exact ⟨hbefore, by simpa using hp⟩
  · rintro ⟨hinvite, hp⟩
    exact ⟨invite, hinvite, by simp [hp]⟩

theorem mem_invalidate_iff (hunused : invite.usedAt = none) :
    invite ∈ (s.invalidatePendingInvitesForUser userId).invites.rows ↔
      invite ∈ s.invites.rows ∧ invite.userId ≠ userId := by
  rw [InviteState.invalidatePendingInvitesForUser, mem_useWhere_iff hunused]
  simp [hunused]

theorem mem_replaced_iff {job : MailJob} (hunused : invite.usedAt = none) :
    invite ∈ (s.replaced job userId).invites.rows ↔
      invite ∈ s.invites.rows ∧ (job = .sendDriverActivationEmail → invite.userId ≠ userId) := by
  cases job with
  | sendInviteEmail => exact ⟨fun h => ⟨h, fun hjob => nomatch hjob⟩, fun h => h.1⟩
  | sendDriverActivationEmail =>
      exact (mem_invalidate_iff hunused).trans (and_congr_right fun _ => by simp)

/-- What was verified stays verified. -/
theorem verified_step (env : InviteEnv) (r : InviteRequest) (h : userId ∈ s.emailVerified) :
    userId ∈ (step env s r).emailVerified := by
  rcases submit_cases env s r with ⟨answer, -, hchange⟩ | ⟨e, -, -, hverified⟩
  · rw [hchange.emailVerified]
    exact List.mem_append_right _ h
  · exact hverified ▸ h

theorem verified_run (env : InviteEnv) (h : userId ∈ s.emailVerified)
    (requests : List InviteRequest) : userId ∈ (Runs.run (step env) s requests).emailVerified :=
  Runs.run_invariant (I := fun s : InviteState => userId ∈ s.emailVerified)
    (fun _ r h => verified_step env r h) h requests

/-- Who is not verified yet stays so, unless the request closes the links. -/
theorem unverified_step (h : userId ∉ s.emailVerified) (hopen : ¬ Closes env userId s r) :
    userId ∉ (step env s r).emailVerified := by
  rcases submit_cases env s r with ⟨answer, hanswer, hchange⟩ | ⟨e, -, -, hverified⟩
  · rw [hchange.emailVerified]
    refine List.not_mem_append (fun hverifies => hopen ?_) h
    cases answer with
    | activated userId' => exact .inl (List.mem_singleton.mp hverifies ▸ hanswer)
    | emailVerified userId' => exact .inr (.inl (List.mem_singleton.mp hverifies ▸ hanswer))
    | issued | throttled | ignored | requested => exact absurd hverifies List.not_mem_nil
  · exact hverified ▸ h

/-- An unused invite stays unused, unless the request closes the links. -/
theorem unused_step (hinvite : invite ∈ s.invites.rows) (hunused : invite.usedAt = none)
    (hopen : ¬ Closes env invite.userId s r) : invite ∈ (step env s r).invites.rows := by
  have hmem : invite ∈ (s.tick r.elapsed).invites.rows := hinvite
  rcases submit_cases env s r with ⟨answer, hanswer, hchange⟩ | ⟨e, -, hinvites, -⟩
  · cases hchange with
    | @issued s' userId mail invitedByUserId user huser hmail hunverified htoken hinvites
        hverified =>
        rw [hinvites]
        refine Table.mem_insert_of_mem ((mem_replaced_iff hunused).mpr ⟨hmem, ?_⟩)
        rintro hjob rfl
        exact hopen (.inr (.inr ⟨mail, hjob, hanswer⟩))
    | activated hcall hfound hroles hid hinvites hverified =>
        rw [hinvites]
        refine (mem_invalidate_iff hunused).mpr ⟨hmem, ?_⟩
        rintro rfl
        exact hopen (.inl hanswer)
    | verified hunverified hinvites hverified => exact hinvites ▸ hmem
    | throttled hinvites hverified => exact hinvites ▸ hmem
    | requested hinvites hverified => exact hinvites ▸ hmem
    | ignored hinvites hverified => exact hinvites ▸ hmem
  · exact hinvites ▸ hinvite

/-- With a request that closes the links, every invite of the user is used. -/
theorem not_mem_of_closes (hinvite : invite ∈ s.invites.rows) (hunused : invite.usedAt = none)
    (hunverified : invite.userId ∉ (step env s r).emailVerified)
    (hcloses : Closes env invite.userId s r) : invite ∉ (step env s r).invites.rows := by
  have hmem : invite ∈ (s.tick r.elapsed).invites.rows := hinvite
  rcases hcloses with h | h | ⟨mail, hjob, h⟩
  · cases change_of_answer h with
    | activated hcall hfound hroles hid hinvites hverified =>
        rw [hverified] at hunverified
        exact absurd List.mem_cons_self hunverified
  · cases change_of_answer h with
    | verified hunverified' hinvites hverified =>
        rw [hverified] at hunverified
        exact absurd List.mem_cons_self hunverified
  · cases change_of_answer h with
    | issued huser hmail hunverified' htoken hinvites hverified =>
        rw [hinvites]
        intro h'
        rcases Table.mem_or_eq_of_mem_insert h' with hold | hnew
        · exact ((mem_replaced_iff hunused).mp hold).2 hjob rfl
        · have hfresh : invite.id = (s.tick r.elapsed).invites.fresh := congrArg Invite.id hnew
          exact absurd (hfresh ▸ List.mem_map_of_mem (f := Invite.id) hmem) (Table.fresh_notMem _)

/-- Where an unused invite comes from. -/
theorem issued_of_mem (hnew : invite ∉ s.invites.rows) (hunused : invite.usedAt = none)
    (hinvite : invite ∈ (step env s r).invites.rows) :
    ∃ mail, (r.submit env s).1 = .ok (.issued invite.userId mail) ∧
      mail.token = env.inviteToken s.invites.fresh ∧ ∃ invitedByUserId,
        invite = newInvite env invite.userId (lifetime env r.call mail) invitedByUserId
          (s.tick r.elapsed) := by
  have hnew' : invite ∉ (s.tick r.elapsed).invites.rows := hnew
  rcases submit_cases env s r with ⟨answer, hanswer, hchange⟩ | ⟨e, -, hinvites, -⟩
  · cases hchange with
    | @issued s' userId mail invitedByUserId user huser hmail hunverified htoken hinvites
        hverified =>
        rw [hinvites] at hinvite
        rcases Table.mem_or_eq_of_mem_insert hinvite with hold | rfl
        · exact absurd ((mem_replaced_iff hunused).mp hold).1 hnew'
        · exact ⟨mail, hanswer, htoken, invitedByUserId, rfl⟩
    | activated hcall hfound hroles hid hinvites hverified =>
        rw [hinvites] at hinvite
        exact absurd ((mem_invalidate_iff hunused).mp hinvite).1 hnew'
    | verified hunverified hinvites hverified => exact absurd (hinvites ▸ hinvite) hnew'
    | throttled hinvites hverified => exact absurd (hinvites ▸ hinvite) hnew'
    | requested hinvites hverified => exact absurd (hinvites ▸ hinvite) hnew'
    | ignored hinvites hverified => exact absurd (hinvites ▸ hinvite) hnew'
  · exact absurd (hinvites ▸ hinvite) hnew

/-! ### Tokens -/

/-- Every invite has the token that was drawn for it. -/
def Linked (env : InviteEnv) (s : InviteState) : Prop :=
  ∀ invite ∈ s.invites.rows, invite.tokenHash = env.hashInviteToken (env.inviteToken invite.id)

theorem linked_initial (env : InviteEnv) (accounts : Accounts) (emailVerified : List Id)
    (now : Instant) : Linked env (.initial accounts emailVerified now) :=
  fun _ h => absurd h List.not_mem_nil

theorem Linked.useWhere (h : Linked env s) (p : Invite → Bool) : Linked env (s.useWhere p) := by
  intro invite hinvite
  obtain ⟨before, hbefore, rfl⟩ := List.mem_map.mp hinvite
  split <;> exact h before hbefore

theorem Linked.step (h : Linked env s) (r : InviteRequest) : Linked env (step env s r) := by
  have hs : Linked env (s.tick r.elapsed) := h
  rcases submit_cases env s r with ⟨answer, hanswer, hchange⟩ | ⟨e, -, hinvites, -⟩
  · intro invite hinvite
    cases hchange with
    | @issued s' userId mail invitedByUserId user huser hmail hunverified htoken hinvites
        hverified =>
        rw [hinvites] at hinvite
        rcases Table.mem_or_eq_of_mem_insert hinvite with hold | rfl
        · cases hjob : mail.job with
          | sendInviteEmail =>
              rw [hjob] at hold
              exact hs invite hold
          | sendDriverActivationEmail =>
              rw [hjob] at hold
              exact hs.useWhere _ invite hold
        · rfl
    | activated hcall hfound hroles hid hinvites hverified =>
        rw [hinvites] at hinvite
        exact hs.useWhere _ invite hinvite
    | verified hunverified hinvites hverified => exact hs invite (hinvites ▸ hinvite)
    | throttled hinvites hverified => exact hs invite (hinvites ▸ hinvite)
    | requested hinvites hverified => exact hs invite (hinvites ▸ hinvite)
    | ignored hinvites hverified => exact hs invite (hinvites ▸ hinvite)
  · exact fun invite hinvite => h invite (hinvites ▸ hinvite)

theorem linked_run (h : Linked env s) (requests : List InviteRequest) :
    Linked env (Runs.run (Invites.step env) s requests) :=
  Runs.run_invariant (fun _ r h => h.step r) h requests

/-- A token leads to the invite for which it was drawn, which no other row has. -/
theorem Linked.find?_eq (h : Linked env s) {hash : String} {p : Invite → Bool}
    (hinvite : invite ∈ s.invites.rows) (hhash : invite.tokenHash = hash) (hp : p invite = true) :
    (s.invites.rows.find? fun invite => invite.tokenHash = hash && p invite) = some invite := by
  have hsome : (s.invites.rows.find? fun invite =>
      invite.tokenHash = hash && p invite).isSome = true :=
    List.find?_isSome.mpr ⟨invite, hinvite, by simp [hhash, hp]⟩
  obtain ⟨found, hfound⟩ := Option.isSome_iff_exists.mp hsome
  have hmem := List.mem_of_find?_eq_some hfound
  have hmeets := List.find?_some hfound
  simp only [Bool.and_eq_true, decide_eq_true_eq] at hmeets
  have hid : found.id = invite.id := by
    refine env.hash_injective ?_
    dsimp only
    rw [← h found hmem, ← h invite hinvite, hmeets.1, hhash]
  rwa [Table.eq_of_key hmem hinvite hid] at hfound

theorem Linked.findPending (h : Linked env s) {user : Auth.User} {hash : String}
    (hinvite : invite ∈ s.invites.rows) (hhash : invite.tokenHash = hash)
    (hunused : invite.usedAt = none) (hlive : s.now < invite.expiresAt)
    (hunverified : invite.userId ∉ s.emailVerified)
    (huser : s.accounts.db.users.find? invite.userId = some user) :
    s.findPendingByTokenHash hash = some (invite, user) := by
  have hpending : s.pending invite = true := by
    simp [InviteState.pending, hunused, hlive, hunverified, huser]
  rw [InviteState.findPendingByTokenHash, h.find?_eq hinvite hhash hpending, Option.bind_some,
    huser]
  rfl

/-! ### Whoever activates an account -/

/-- Before the requests are over, the link was sent to the address that the user had then. It has
not expired at `time`, and no request has closed the links of the user since. -/
def LinkSent (env : InviteEnv) (s₀ : InviteState) (requests : List InviteRequest) (userId : Id)
    (token : String) (time : Instant) : Prop :=
  ∃ pre issue mid mail user, requests = pre ++ issue :: mid ∧
    (issue.submit env (Runs.run (step env) s₀ pre)).1 = .ok (.issued userId mail) ∧
    (Runs.run (step env) s₀ pre).accounts.db.users.find? userId = some user ∧
    mail.toEmail = user.email ∧ env.hashInviteToken mail.token = env.hashInviteToken token ∧
    Runs.Along (step env) (fun s r => ¬ Closes env userId s r)
      (Runs.run (step env) s₀ (pre ++ [issue])) mid ∧
    time < (Runs.run (step env) s₀ (pre ++ [issue])).now + lifetime env issue.call mail

/-- A link that can be used was sent. -/
theorem linkSent_of_found {s₀ : InviteState} (hs₀ : s₀.invites = .empty)
    (requests : List InviteRequest) (elapsed : ℕ) {token : String} {user : Auth.User}
    (hfound : ((Runs.run (step env) s₀ requests).tick elapsed).findPendingByTokenHash
      (env.hashInviteToken token) = some (invite, user)) :
    LinkSent env s₀ requests invite.userId token
      ((Runs.run (step env) s₀ requests).now + elapsed) := by
  obtain ⟨hinvite, hhash, hunused, hlive, hunverified, -⟩ := findPending_eq_some hfound
  have hstart : invite ∉ s₀.invites.rows := by
    rw [hs₀]
    exact List.not_mem_nil
  have hissue : ∀ s r, invite ∉ s.invites.rows → invite ∈ (step env s r).invites.rows →
      ∃ mail, (r.submit env s).1 = .ok (.issued invite.userId mail) ∧
        mail.token = env.inviteToken s.invites.fresh ∧ ∃ invitedByUserId,
          invite = newInvite env invite.userId (lifetime env r.call mail) invitedByUserId
            (s.tick r.elapsed) := fun s r hold hmem => issued_of_mem hold hunused hmem
  obtain ⟨pre, issue, mid, rfl, ⟨mail, hissued, htoken, invitedByUserId, hnew⟩, hsince⟩ :=
    Runs.exists_last_start (P := fun s : InviteState => invite ∈ s.invites.rows) hissue hstart
      hinvite
  obtain ⟨user', huser', hmail⟩ : ∃ user',
      (Runs.run (step env) s₀ pre).accounts.db.users.find? invite.userId = some user' ∧
        mail.toEmail = user'.email := by
    cases change_of_answer hissued with
    | issued huser hmail => exact ⟨_, huser, hmail⟩
  refine ⟨pre, issue, mid, mail, user', rfl, hissued, huser', hmail, ?_, ?_, ?_⟩
  · rw [htoken, ← hhash, hnew]
    rfl
  · refine Runs.along_iff.mpr fun mid₁ r mid₂ hmid hcloses => ?_
    have hbefore := hsince mid₁ ⟨r :: mid₂, hmid.symm⟩
    have hafter := hsince (mid₁ ++ [r]) ⟨mid₂, by simp [hmid]⟩
    rw [← Runs.run_append, List.append_assoc, List.singleton_append] at hcloses
    have hlast : Runs.run (step env) s₀ (pre ++ issue :: (mid₁ ++ [r]))
        = step env (Runs.run (step env) s₀ (pre ++ issue :: mid₁)) r := by
      rw [← List.cons_append, ← List.append_assoc, Runs.run_append]
      rfl
    rw [hlast] at hafter
    refine not_mem_of_closes hbefore hunused (fun hverified => hunverified ?_) hcloses hafter
    have hend := verified_run env hverified mid₂
    rw [← hlast, ← Runs.run_append] at hend
    change invite.userId ∈ (Runs.run (step env) s₀ (pre ++ issue :: mid)).emailVerified
    simpa [hmid] using hend
  · have hissue : Runs.run (step env) s₀ (pre ++ [issue])
        = step env (Runs.run (step env) s₀ pre) issue := Runs.run_append_cons _ _ _ _
    rw [hissue, now_step]
    rw [hnew] at hlive
    exact hlive

/-- A link that was sent can be used. -/
theorem found_of_linkSent {s₀ : InviteState} (hs₀ : Linked env s₀) (requests : List InviteRequest)
    (elapsed : ℕ) {token : String} {user : Auth.User}
    (huser : (Runs.run (step env) s₀ requests).accounts.db.users.find? userId = some user)
    (hsent : LinkSent env s₀ requests userId token
      ((Runs.run (step env) s₀ requests).now + elapsed)) :
    ∃ invite, ((Runs.run (step env) s₀ requests).tick elapsed).findPendingByTokenHash
      (env.hashInviteToken token) = some (invite, user) ∧ invite.userId = userId := by
  obtain ⟨pre, issue, mid, mail, -, rfl, hissued, -, -, hhash, hopen, hlive⟩ := hsent
  have hissue : Runs.run (step env) s₀ (pre ++ [issue])
      = step env (Runs.run (step env) s₀ pre) issue := Runs.run_append_cons _ _ _ _
  have hsplit : Runs.run (step env) s₀ (pre ++ issue :: mid)
      = Runs.run (step env) (Runs.run (step env) s₀ (pre ++ [issue])) mid := by
    rw [hissue, Runs.run_append_cons]
  rw [hissue, now_step] at hlive
  obtain ⟨invite, hmem, hid, hunused, hexpires, htoken, hunverified⟩ : ∃ invite ∈
      (Runs.run (step env) s₀ (pre ++ [issue])).invites.rows, invite.userId = userId ∧
        invite.usedAt = none ∧ invite.expiresAt = (Runs.run (step env) s₀ pre).now + issue.elapsed
          + lifetime env issue.call mail ∧ invite.tokenHash = env.hashInviteToken mail.token ∧
        userId ∉ (Runs.run (step env) s₀ (pre ++ [issue])).emailVerified := by
    rw [hissue]
    cases change_of_answer hissued with
    | @issued _ _ _ invitedByUserId _ _ _ hunverified htoken hinvites hverified =>
        refine ⟨newInvite env userId (lifetime env issue.call mail) invitedByUserId
          ((Runs.run (step env) s₀ pre).tick issue.elapsed), ?_, rfl, rfl, rfl, by rw [htoken]; rfl,
          hverified ▸ hunverified⟩
        rw [hinvites]
        refine (Table.mem_insert_iff ?_).mpr (.inr rfl)
        cases mail.job with
        | sendInviteEmail => exact Table.fresh_notMem _
        | sendDriverActivationEmail =>
            have hfresh := Table.fresh_notMem ((Runs.run (step env) s₀ pre).tick
              issue.elapsed |>.invalidatePendingInvitesForUser userId).invites
            rwa [InviteState.invalidatePendingInvitesForUser, fresh_useWhere] at hfresh
  subst hid
  -- The invite stays unused, and the user unverified.
  have hstep : ∀ s r, (invite ∈ s.invites.rows ∧ invite.userId ∉ s.emailVerified) →
      ¬ Closes env invite.userId s r →
        invite ∈ (step env s r).invites.rows ∧ invite.userId ∉ (step env s r).emailVerified :=
    fun s r h hopen => ⟨unused_step h.1 hunused hopen, unverified_step h.2 hopen⟩
  obtain ⟨hend, hend'⟩ := Runs.run_invariant_of_along hstep ⟨hmem, hunverified⟩ hopen
  rw [← hsplit] at hend hend'
  have hlinked : Linked env ((Runs.run (step env) s₀ (pre ++ issue :: mid)).tick elapsed) :=
    linked_run hs₀ _
  exact ⟨invite, hlinked.findPending hend (htoken.trans hhash) hunused (hexpires ▸ hlive) hend'
    huser, rfl⟩

/-- The request with which a link is used, in the application of drivers or anywhere else. -/
def useLink (driverApp : Bool) (token password : String) : InviteCall :=
  if driverApp then .setPassword token password else .activate token password

/-- A link is used exactly when its invite is found, in the application of drivers for a driver. -/
theorem activated_iff_found (s : InviteState) (elapsed : ℕ) (driverApp : Bool)
    (token password : String) (userId : Id) :
    (InviteRequest.submit env s ⟨elapsed, useLink driverApp token password⟩).1
        = .ok (.activated userId) ↔
      ∃ invite user, (s.tick elapsed).findPendingByTokenHash (env.hashInviteToken (strip token))
          = some (invite, user) ∧ invite.userId = userId ∧
        (driverApp = true → user.role = .driver) := by
  constructor
  · intro h
    cases change_of_answer h with
    | @activated s' userId invite user token' password' allowedRoles hcall hfound hroles hid =>
        rcases hcall with ⟨hcall, rfl⟩ | ⟨hcall, rfl⟩ <;> cases driverApp
        · obtain ⟨rfl, -⟩ := InviteCall.activate.inj hcall
          exact ⟨invite, user, hfound, hid, nofun⟩
        · exact InviteCall.noConfusion hcall
        · exact InviteCall.noConfusion hcall
        · obtain ⟨rfl, -⟩ := InviteCall.setPassword.inj hcall
          exact ⟨invite, user, hfound, hid, fun _ => by simpa using hroles _ rfl⟩
  · rintro ⟨invite, user, hfound, rfl, hrole⟩
    cases driverApp with
    | false =>
        have hroles : ∀ roles ∈ (none : Option (List Auth.UserRole)), user.role ∈ roles := nofun
        obtain ⟨s', hrun, -⟩ := complete_of_found password hfound hroles
        exact answer_inSession (congrArg Prod.fst hrun)
    | true =>
        have hroles : ∀ roles ∈ some [.driver], user.role ∈ roles := fun roles hroles => by
          obtain rfl := Option.some.inj hroles
          simpa using hrole rfl
        obtain ⟨s', hrun, -⟩ := complete_of_found password hfound hroles
        exact answer_inSession (congrArg Prod.fst hrun)

/-- **A link is valid** exactly when it can be used, and then for the account that it is said to be
for. -/
theorem validateInvite_iff (s : InviteState) (elapsed : ℕ) (token password : String)
    (userId : Id) :
    (∃ user, validateInvite env (strip token) (s.tick elapsed) = .ok user ∧ user.id = userId) ↔
      (InviteRequest.submit env s ⟨elapsed, .activate token password⟩).1
        = .ok (.activated userId) := by
  rw [show InviteCall.activate token password = useLink false token password from rfl,
    activated_iff_found]
  constructor
  · rintro ⟨user, h, rfl⟩
    obtain ⟨⟨invite, user'⟩, hfound, h⟩ := bind_eq_ok.mp h
    replace h := ok_of_check h
    obtain rfl := pure_eq_ok.mp h
    have hfound := orRaise_eq_ok.mp hfound
    exact ⟨invite, user', hfound, (id_of_find (findPending_eq_some hfound).2.2.2.2.2).symm, nofun⟩
  · rintro ⟨invite, user, hfound, rfl, -⟩
    obtain ⟨-, -, -, hlive, -, huser⟩ := findPending_eq_some hfound
    exact ⟨user, bind_eq_ok.mpr ⟨(invite, user), orRaise_eq_ok.mpr hfound,
      bind_eq_ok.mpr ⟨(), raiseIf_eq_ok.mpr (not_lt.mpr hlive.le), rfl⟩⟩, id_of_find huser⟩

/-- **A link of a driver is valid** exactly when it can be used in the application of drivers. -/
theorem validateDriverActivationToken_iff (hs : Linked env s) (elapsed : ℕ)
    {token : String} (htoken : strip token ≠ "") (password : String) (userId : Id) :
    (∃ user expiresAt, validateDriverActivationToken env token (s.tick elapsed)
        = .valid user expiresAt ∧ user.id = userId) ↔
      (InviteRequest.submit env s ⟨elapsed, .setPassword token password⟩).1
        = .ok (.activated userId) := by
  rw [show InviteCall.setPassword token password = useLink true token password from rfl,
    activated_iff_found]
  have htick : Linked env (s.tick elapsed) := hs
  constructor
  · rintro ⟨user, expiresAt, h, rfl⟩
    rw [validateDriverActivationToken, if_neg htoken] at h
    split at h
    · exact DriverLinkState.noConfusion h
    · rename_i invite user' hfound
      split_ifs at h with hrole hused hverified hexpired
      obtain ⟨rfl, rfl⟩ := DriverLinkState.valid.inj h
      obtain ⟨found, hfind, hjoin⟩ := Option.bind_eq_some_iff.mp hfound
      obtain ⟨joined, huser, heq⟩ := Option.map_eq_some_iff.mp hjoin
      obtain ⟨rfl, rfl⟩ := Prod.mk.inj heq
      have hid := id_of_find huser
      refine ⟨found, joined, htick.findPending (List.mem_of_find?_eq_some hfind)
        (by simpa using List.find?_some hfind) (by simpa using hused) (not_le.mp hexpired)
        (hid ▸ hverified) huser, hid.symm, fun _ => not_not.mp hrole⟩
  · rintro ⟨invite, user, hfound, rfl, hrole⟩
    obtain ⟨hmem, hhash, hunused, hlive, hunverified, huser⟩ := findPending_eq_some hfound
    have hid := id_of_find huser
    have hfirst := htick.find?_eq (p := fun _ => true) hmem hhash rfl
    simp only [Bool.and_true] at hfirst
    have hjoined : (s.tick elapsed).findByTokenHashWithUser (env.hashInviteToken (strip token))
        = some (invite, user) := by
      rw [InviteState.findByTokenHashWithUser, hfirst, Option.bind_some, huser]
      rfl
    refine ⟨user, invite.expiresAt, ?_, hid⟩
    rw [validateDriverActivationToken, if_neg htoken, hjoined]
    simp only [hrole rfl, hunused, hid, hunverified, not_le.mpr hlive, ne_eq, not_true_eq_false,
      if_false, Option.isSome_none, Bool.false_eq_true]

/-- **Who activates an account**: exactly those with the link of an e-mail to the account's address,
if it has not expired and since then the account was not activated or verified, nor a link of a
driver sent to it. In the application of drivers it is the account of a driver. -/
theorem activation_iff_traced (accounts : Accounts) (emailVerified : List Id) (now : Instant)
    (requests : List InviteRequest) (elapsed : ℕ) (driverApp : Bool) (token password : String)
    (userId : Id) :
    let s₀ := InviteState.initial accounts emailVerified now
    let s := Runs.run (step env) s₀ requests
    (InviteRequest.submit env s ⟨elapsed, useLink driverApp token password⟩).1
        = .ok (.activated userId) ↔
      (∃ user, s.accounts.db.users.find? userId = some user ∧
        (driverApp = true → user.role = .driver)) ∧
      LinkSent env s₀ requests userId (strip token) (s.now + elapsed) := by
  intro s₀ s
  have hlinked₀ : Linked env s₀ := linked_initial env accounts emailVerified now
  rw [activated_iff_found]
  constructor
  · rintro ⟨invite, user, hfound, rfl, hrole⟩
    exact ⟨⟨user, (findPending_eq_some hfound).2.2.2.2.2, hrole⟩,
      linkSent_of_found rfl requests elapsed hfound⟩
  · rintro ⟨⟨user, huser, hrole⟩, hsent⟩
    obtain ⟨invite, hfound, hid⟩ := found_of_linkSent hlinked₀ requests elapsed huser hsent
    exact ⟨invite, user, hfound, hid, hrole⟩

/-! ### Once verified -/

/-- The account that is verified with an answer, or gets a link. -/
def InviteAnswer.concerns : InviteAnswer → Option Id
  | .issued userId _ => some userId
  | answer => answer.verifies

/-- The answer to an accepted request. -/
def accepted (env : InviteEnv) (s : InviteState) (r : InviteRequest) : Option InviteAnswer :=
  (r.submit env s).1.toOption

/-- An accepted request is about an account that is not verified yet. -/
theorem concerns_step (h : accepted env s r = some answer) :
    (∀ userId ∈ answer.concerns, userId ∉ s.emailVerified) ∧
      ∀ userId ∈ answer.verifies, userId ∈ (step env s r).emailVerified := by
  have hok : (r.submit env s).1 = .ok answer := by
    cases hanswer : (r.submit env s).1 with
    | error e => rw [accepted, hanswer] at h; exact absurd h nofun
    | ok answer' => rw [accepted, hanswer] at h; exact congrArg _ (Option.some.inj h)
  have hchange := change_of_answer hok
  refine ⟨?_, fun userId hid => ?_⟩
  · cases hchange with
    | issued _ _ hunverified => exact fun _ hid => Option.some.inj hid ▸ hunverified
    | activated _ hfound _ hid =>
        exact fun _ hid' => Option.some.inj hid' ▸ hid ▸ (findPending_eq_some hfound).2.2.2.2.1
    | verified hunverified => exact fun _ hid => Option.some.inj hid ▸ hunverified
    | throttled | requested | ignored => exact nofun
  · rw [hchange.emailVerified]
    exact List.mem_append_left _ (Option.mem_toList.mpr hid)

/-- Nobody who is verified is in the answers of a run. -/
theorem concerns_run {requests : List InviteRequest}
    (h : answer ∈ Runs.collect (step env) (accepted env) s requests)
    (hid : userId ∈ answer.concerns) : userId ∉ s.emailVerified := by
  obtain ⟨pre, r, post, -, hanswer⟩ := Runs.exists_of_mem_collect h
  exact fun hverified => (concerns_step hanswer).1 userId hid (verified_run env hverified pre)

/-- **Once an account is verified**, no later request of a run verifies it, and none sends it a
link. -/
theorem verified_for_good (env : InviteEnv) (s : InviteState) (requests : List InviteRequest) :
    (Runs.collect (step env) (accepted env) s requests).Pairwise fun earlier later =>
      ∀ userId ∈ earlier.verifies, userId ∉ later.concerns := by
  induction requests generalizing s with
  | nil => exact .nil
  | cons r requests ih =>
      rw [Runs.collect_cons, List.pairwise_append]
      refine ⟨?_, ih _, fun earlier hearlier later hlater userId hverifies hconcerns => ?_⟩
      · cases accepted env s r with
        | none => exact .nil
        | some answer => exact List.pairwise_singleton _ _
      · exact concerns_run hlater hconcerns
          ((concerns_step (Option.mem_toList.mp hearlier)).2 userId hverifies)

end SwCouriers.Invites
