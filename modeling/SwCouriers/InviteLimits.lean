import SwCouriers.InviteTraces

/-!
# Limits on Invitations

The throttle of `create_invite` is kept in Redis, where no rollback reaches it.

## Main results

* `throttle_next`: a request is one step of a throttle.
* `invites_throttled`: how many links `create_invite` sends to a user, and how far apart.
-/

namespace SwCouriers.Invites

open Checked Requests AttemptLimits
open Auth (AuthUser)
open StepUp (AccessError seconds ttl)

variable {env : InviteEnv} {s s' : InviteState} {r : InviteRequest}

/-! ### The throttles -/

/-- The throttles are as they were. -/
def KeepsThrottles (s s' : InviteState) : Prop := s'.throttles = s.throttles

instance : Std.Refl KeepsThrottles := ⟨fun _ => rfl⟩

instance : IsTrans InviteState KeepsThrottles := ⟨fun _ _ _ h h' => Eq.trans h' h⟩

variable {inviter : AuthUser}

/-- `create_invite` changes nothing before it raises. -/
theorem createInvite_eq_error {userId : Id} {expiresDays : Option ℕ} {organizationId : Option Id}
    {e : AccessError}
    (h : createInvite env inviter userId expiresDays organizationId s = (.error e, s')) :
    s' = s := by
  rcases Handler.bind_lookup_eq_error.mp h with ⟨-, rfl⟩ | ⟨user, -, h⟩
  · rfl
  rcases Handler.bind_lookup_eq_error.mp h with ⟨-, rfl⟩ | ⟨⟨⟩, -, h⟩
  · rfl
  rcases Handler.bind_check_eq_error.mp h with ⟨-, rfl⟩ | ⟨⟨⟩, -, h⟩
  · rfl
  rw [Handler.bind_query] at h
  cases hthrottled : inviteSendThrottleShouldSuppress userId s <;> rw [hthrottled] at h <;>
    exact absurd (Prod.mk.inj h).1 (by simp)

/-- The link for somebody who has asked for one is there to be named. If a throttle was used, a
link was made. -/
theorem linkForRequester_eq_ok {target : Auth.User} {result : CreateInviteResult}
    (h : linkForRequester env inviter target s = (.ok result, s')) :
    s'.linkRequests = s.linkRequests ∧ s'.notifications = s.notifications ∧
      (∀ inviteId, result.publicInviteId = some inviteId → ∃ invite ∈ s'.invites.rows,
        invite.id = inviteId ∧ invite.userId = target.id) ∧
      (s'.throttles = s.throttles ∨ result.publicInviteId.isSome = true) := by
  rw [linkForRequester] at h
  split at h
  · obtain ⟨row, s₁, hrow, hpure⟩ := Handler.bind_eq_ok.mp h
    obtain ⟨user, -, -, -, rfl, rfl⟩ := createDriverRow_eq_ok hrow
    obtain ⟨rfl, rfl⟩ := Handler.pure_eq_ok.mp hpure
    refine ⟨rfl, rfl, fun inviteId hid => ?_, .inl rfl⟩
    have hfresh := Table.fresh_notMem (s.invalidatePendingInvitesForUser target.id).invites
    rw [InviteState.invalidatePendingInvitesForUser, fresh_useWhere] at hfresh
    exact ⟨_, (Table.mem_insert_iff hfresh).mpr (.inr rfl), Option.some.inj hid, rfl⟩
  · obtain ⟨user, -, -, ⟨-, rfl, rfl⟩ | ⟨-, rfl, rfl⟩⟩ := createInvite_eq_ok h
    · refine ⟨rfl, rfl, fun inviteId hid => ?_, .inl rfl⟩
      obtain ⟨invite, hlatest, rfl⟩ := Option.map_eq_some_iff.mp hid
      obtain ⟨hmem, huser⟩ := List.mem_filter.mp (List.argmax_mem hlatest)
      exact ⟨invite, hmem, rfl, of_decide_eq_true huser⟩
    · refine ⟨rfl, rfl, fun inviteId hid => ?_, .inr rfl⟩
      have hfresh := Table.fresh_notMem s.invites
      exact ⟨_, (Table.mem_insert_iff hfresh).mpr (.inr rfl), Option.some.inj hid, rfl⟩

/-- No throttle is used when a request for a link is refused. -/
theorem resend_eq_error {requestId : Id} {e : AccessError}
    (h : resendInviteForActivationLinkRequest env inviter requestId s = (.error e, s')) :
    s'.throttles = s.throttles := by
  rcases Handler.bind_lookup_eq_error.mp h with ⟨-, rfl⟩ | ⟨request, hrequest, h⟩
  · rfl
  rcases Handler.bind_check_eq_error.mp h with ⟨-, rfl⟩ | ⟨⟨⟩, hpending, h⟩
  · rfl
  rcases Handler.bind_lookup_eq_error.mp h with ⟨-, rfl⟩ | ⟨target, htarget, h⟩
  · rfl
  rcases Handler.bind_eq_error.mp h with hlink | ⟨result, s₁, hlink, h⟩
  · rw [linkForRequester] at hlink
    split at hlink
    · have hrow := Handler.bind_pure_eq_error.mp hlink
      exact (moves_createDriverRow (R := KeepsThrottles) (fun _ h => h) _ _ _).rel hrow
    · rw [createInvite_eq_error hlink]
  · obtain ⟨hrequests, -, hthere, hthrottles⟩ := linkForRequester_eq_ok hlink
    rcases Handler.bind_lookup_eq_error.mp h with ⟨hmissing, rfl⟩ | ⟨inviteId, hinviteId, h⟩
    · refine hthrottles.resolve_right fun hsome => ?_
      obtain ⟨inviteId, hinviteId⟩ := Option.isSome_iff_exists.mp hsome
      obtain ⟨invite, hinvite, hid, -⟩ := hthere inviteId hinviteId
      rw [hinviteId, Option.filter_some, if_pos] at hmissing
      · exact absurd hmissing (by simp [orRaise])
      · rw [Table.find?_eq_some_iff.mpr ⟨hinvite, hid⟩]
        rfl
    · -- The request is still pending.
      have hfound := orRaise_eq_ok.mp hrequest
      rw [Handler.bind_query, Handler.bind_write, hrequests,
        (Table.find?_eq_some_iff.mp hfound).2, hfound, Option.any_some,
        decide_eq_true (not_not.mp (raiseIf_eq_ok.mp hpending))] at h
      exact absurd (Prod.mk.inj h).1 (by simp)

/-- What a request that was accepted, and has the answer, does to the throttles. -/
def Throttles (s : InviteState) (answer : InviteAnswer) (s' : InviteState) : Prop :=
  (∃ userId mail, answer = .issued userId mail ∧ mail.job = .sendInviteEmail ∧
      inviteSendThrottleShouldSuppress userId s = false ∧
      s'.throttles = (inviteSendThrottleConsume userId s).throttles) ∨
    (∀ userId mail, answer = .issued userId mail → mail.job ≠ .sendInviteEmail) ∧
      s'.throttles = s.throttles

theorem throttles_of_createInvite {userId : Id} {expiresDays : Option ℕ}
    {organizationId : Option Id} {result : CreateInviteResult} {s₁ : InviteState}
    (h : createInvite env inviter userId expiresDays organizationId s = (.ok result, s₁))
    (hs : s'.throttles = s₁.throttles) :
    Throttles s (match result.rawToken with
      | some token => .issued result.user.id ⟨.sendInviteEmail, result.user.email, token⟩
      | none => .throttled result.publicInviteId) s' := by
  obtain ⟨user, hfound, -, ⟨-, rfl, rfl⟩ | ⟨hopen, rfl, rfl⟩⟩ := createInvite_eq_ok h
  · exact .inr ⟨fun _ _ h => InviteAnswer.noConfusion h, hs⟩
  · obtain rfl := id_of_find hfound
    exact .inl ⟨user.id, _, rfl, rfl, hopen, hs⟩

theorem throttles_of_createDriverRow {targetUserId : Id} {invitedByUserId : Option Id}
    {inviter : Option AuthUser} {row : Invite × String × Auth.User} {s₁ : InviteState}
    (h : createDriverActivationInviteRow env targetUserId invitedByUserId inviter s
      = (.ok row, s₁)) (hs : s'.throttles = s₁.throttles) : Throttles s (driverAnswer row) s' := by
  obtain ⟨user, -, -, -, rfl, rfl⟩ := createDriverRow_eq_ok h
  refine .inr ⟨fun userId mail hmail => ?_, hs⟩
  obtain ⟨-, rfl⟩ := InviteAnswer.issued.inj hmail
  exact MailJob.noConfusion

/-- A request that comes to no link of `create_invite`. -/
theorem throttles_of_moves {call : InviteCall} {answer : InviteAnswer}
    (h : call.handle env s = (.ok answer, s')) (hcall : call.makesInvite = false)
    (hanswer : ∀ userId mail, answer = .issued userId mail → mail.job ≠ .sendInviteEmail) :
    Throttles s answer s' := by
  have hmoves : Handler.Moves KeepsThrottles (call.handle env) :=
    moves_handle (fun _ h => h) fun hcreate => absurd (hcall.symm.trans hcreate) Bool.false_ne_true
  exact .inr ⟨hanswer, hmoves.rel h⟩

/-- **What an accepted request does to the throttles.** -/
theorem throttles_of_ok {call : InviteCall} {answer : InviteAnswer}
    (h : call.handle env s = (.ok answer, s')) : Throttles s answer s' := by
  cases call with
  | invite inviter userId expiresDays organizationId =>
      obtain ⟨result, hresult, rfl⟩ := Handler.bind_pure_eq_ok.mp h
      exact throttles_of_createInvite hresult rfl
  | send inviter userId =>
      obtain ⟨target, htarget, h⟩ := Handler.bind_lookup_eq_ok.mp h
      split at h
      · obtain ⟨row, hrow, rfl⟩ := Handler.bind_pure_eq_ok.mp h
        exact throttles_of_createDriverRow hrow rfl
      · rename_i hrole
        obtain ⟨result, hresult, rfl⟩ := Handler.bind_pure_eq_ok.mp h
        rw [answer_of_createInvite hresult (user_eq_ok.mp htarget) hrole]
        exact throttles_of_createInvite hresult rfl
  | resend inviter requestId =>
      obtain ⟨result, hresult, rfl⟩ := Handler.bind_pure_eq_ok.mp h
      obtain ⟨request, target, s₂, inviteId, -, -, htarget, hlink, -, -, rfl⟩ :=
        resend_eq_ok hresult
      rw [← id_of_find htarget] at htarget
      rw [linkForRequester] at hlink
      split at hlink
      · rename_i hrole
        obtain ⟨row, hrow, rfl⟩ := Handler.bind_pure_eq_ok.mp hlink
        rw [answer_of_createDriverRow hrow]
        exact throttles_of_createDriverRow hrow rfl
      · rename_i hrole
        rw [answer_of_createInvite hlink htarget hrole]
        exact throttles_of_createInvite hlink rfl
  | remind email =>
      refine throttles_of_moves h rfl fun userId mail hissued => ?_
      obtain ⟨requested, s₁, -, hpure⟩ := Handler.bind_eq_ok.mp h
      have hanswer := Except.ok.inj (Prod.mk.inj hpure).1
      rw [hissued] at hanswer
      cases requested <;> exact InviteAnswer.noConfusion hanswer
  | activate token password =>
      refine throttles_of_moves h rfl fun userId mail hissued => ?_
      obtain ⟨userId', s₁, -, hpure⟩ := Handler.bind_eq_ok.mp h
      have hanswer := Except.ok.inj (Prod.mk.inj hpure).1
      rw [hissued] at hanswer
      exact InviteAnswer.noConfusion hanswer
  | setPassword token password =>
      refine throttles_of_moves h rfl fun userId mail hissued => ?_
      obtain ⟨userId', s₁, -, hpure⟩ := Handler.bind_eq_ok.mp h
      have hanswer := Except.ok.inj (Prod.mk.inj hpure).1
      rw [hissued] at hanswer
      exact InviteAnswer.noConfusion hanswer
  | resendPublic email =>
      refine throttles_of_moves h rfl fun userId mail hissued => ?_
      obtain ⟨sent, s₁, -, hpure⟩ := Handler.bind_eq_ok.mp h
      have hanswer := Except.ok.inj (Prod.mk.inj hpure).1
      rw [hissued] at hanswer
      cases sent with
      | none => exact InviteAnswer.noConfusion hanswer
      | some row =>
          obtain ⟨-, rfl⟩ := InviteAnswer.issued.inj hanswer
          exact MailJob.noConfusion
  | verify sub =>
      refine throttles_of_moves h rfl fun userId mail hissued => ?_
      obtain ⟨verified, s₁, -, hpure⟩ := Handler.bind_eq_ok.mp h
      have hanswer := Except.ok.inj (Prod.mk.inj hpure).1
      rw [hissued] at hanswer
      cases verified <;> exact InviteAnswer.noConfusion hanswer
  | elsewhere f =>
      refine throttles_of_moves h rfl fun userId mail hissued => ?_
      have hanswer := Except.ok.inj (Prod.mk.inj h).1
      rw [hissued] at hanswer
      exact InviteAnswer.noConfusion hanswer

/-- A request that is refused uses no throttle. -/
theorem throttles_of_error {call : InviteCall} {e : AccessError}
    (h : call.handle env s = (.error e, s')) : s'.throttles = s.throttles := by
  have hmoves : call.makesInvite = false → s'.throttles = s.throttles := fun hcall =>
    (moves_handle (R := KeepsThrottles) (fun _ h => h) fun hcreate =>
      absurd (hcall.symm.trans hcreate) Bool.false_ne_true).rel h
  cases call with
  | invite inviter userId expiresDays organizationId =>
      rw [createInvite_eq_error (Handler.bind_pure_eq_error.mp h)]
  | send inviter userId =>
      rcases Handler.bind_lookup_eq_error.mp h with ⟨-, rfl⟩ | ⟨target, -, h⟩
      · rfl
      split at h
      · have hrow := Handler.bind_pure_eq_error.mp h
        exact (moves_createDriverRow (R := KeepsThrottles) (fun _ h => h) _ _ _).rel hrow
      · rw [createInvite_eq_error (Handler.bind_pure_eq_error.mp h)]
  | resend inviter requestId =>
      have hresend := Handler.bind_pure_eq_error.mp h
      exact resend_eq_error hresend
  | remind email => exact hmoves rfl
  | activate token password => exact hmoves rfl
  | setPassword token password => exact hmoves rfl
  | resendPublic email => exact hmoves rfl
  | verify sub => exact hmoves rfl
  | elsewhere f => exact hmoves rfl

/-- A request with which `create_invite` sends a link to the user. -/
def sendsInvite (env : InviteEnv) (userId : Id) (s : InviteState) (r : InviteRequest) : Bool :=
  match (r.submit env s).1 with
  | .ok (.issued userId' mail) => userId' = userId && mail.job = .sendInviteEmail
  | _ => false

/-- Nothing is sent while the throttle is closed. -/
theorem open_of_not_suppressed {userId : Id}
    (h : inviteSendThrottleShouldSuppress userId s = false) :
    (s.throttles userId).count s.now < inviteThrottling.max ∧
      ∀ e, (s.throttles userId).closedUntil = some e → e < s.now + inviteThrottling.slack := by
  rw [inviteSendThrottleShouldSuppress, Bool.or_eq_false_iff, decide_eq_false_iff_not, not_le] at h
  refine ⟨h.2, fun e he => ?_⟩
  have httl := h.1
  rw [he, Option.any_some, decide_eq_false_iff_not, ttl] at httl
  change e < s.now + 500000
  omega

/-- **A request is one step of the throttle** of each user. -/
theorem throttle_next (env : InviteEnv) (userId : Id) (s : InviteState) (r : InviteRequest) :
    Throttle.Next inviteThrottling (s.now, s.throttles userId) (sendsInvite env userId s r = true)
      ((step env s r).now, (step env s r).throttles userId) := by
  have hnow := now_step env s r
  refine ⟨by rw [hnow]; exact Int.le_add_of_nonneg_right (Int.natCast_nonneg _), ?_⟩
  dsimp only
  rw [hnow]
  rcases hrun : r.call.handle env (s.tick r.elapsed) with ⟨e | answer, s'⟩
  · have hsubmit : r.submit env s = (.error e, (s.tick r.elapsed).rollback s') := by
      rw [InviteRequest.submit, inSession, hrun]
    have hsends : sendsInvite env userId s r = false := by
      rw [sendsInvite, hsubmit]
    rw [hsends, step, hsubmit]
    refine ⟨fun _ => ?_, fun h => absurd h Bool.false_ne_true⟩
    change s'.throttles userId = _
    rw [throttles_of_error hrun]
    rfl
  · have hsubmit : r.submit env s = (.ok answer, s') := by
      rw [InviteRequest.submit, inSession, hrun]
    rw [sendsInvite, step, hsubmit]
    dsimp only
    rcases throttles_of_ok hrun with ⟨userId', mail, rfl, hjob, hopen, hthrottles⟩ | ⟨hquiet, hsame⟩
    · by_cases hid : userId' = userId
      · obtain ⟨hcount, hclosed⟩ := open_of_not_suppressed hopen
        subst hid
        refine ⟨fun h => absurd (by simp [hjob]) h, fun _ => ⟨hcount, hclosed, ?_⟩⟩
        rw [hthrottles]
        exact Function.update_self ..
      · refine ⟨fun _ => ?_, fun h => absurd h (by simp [hid])⟩
        rw [hthrottles]
        exact Function.update_of_ne (Ne.symm hid) ..
    · refine ⟨fun _ => ?_, fun h => ?_⟩
      · rw [hsame]
        rfl
      · cases answer with
        | issued userId' mail =>
            simp only [Bool.and_eq_true, decide_eq_true_eq] at h
            exact absurd h.2 (hquiet userId' mail rfl)
        | _ => exact absurd h (by simp)

/-- When `create_invite` sent links to a user. -/
def inviteTimes (env : InviteEnv) (userId : Id) : InviteState → List InviteRequest → List ℤ :=
  Throttle.sendTimes (step env) (fun s => (s.now, s.throttles userId))
    fun s r => sendsInvite env userId s r = true

/-- **How many links** `create_invite` sends to a user: no day of 24 hours sees more than nine, and
half a minute is between any two, less what is rounded. -/
theorem invites_throttled (accounts : Accounts) (emailVerified : List Id) (now : Instant)
    (requests : List InviteRequest) (userId : Id) :
    let times := inviteTimes env userId (.initial accounts emailVerified now) requests
    (∀ start, (times.countP fun t => start ≤ t ∧ t < start + days 1) ≤ 9) ∧
      times.Pairwise fun earlier later => earlier + 29500000 < later := by
  have hcooldown : ∀ n, 0 < n → inviteThrottling.cooldown 1 ≤ inviteThrottling.cooldown n := by
    intro n hn
    have hpow : 2 ^ (1 - 1) ≤ 2 ^ (n - 1) := Nat.pow_le_pow_right (by decide) (Nat.zero_le _)
    simp only [inviteThrottling, seconds]
    omega
  intro times
  refine ⟨fun start => ?_, ?_⟩
  · have hwithin := Throttle.sends_within (by decide) (by decide)
      hcooldown (throttle_next env userId) (s := .initial accounts emailVerified now) rfl requests
      start
    have hmax : inviteThrottling.max = 5 := rfl
    change Guard.inWindow inviteThrottling.window start times ≤ 9
    change Guard.inWindow inviteThrottling.window start times + 1 ≤ _ at hwithin
    omega
  · have hapart := Throttle.sends_apart (by decide) (by decide)
      hcooldown (throttle_next env userId) (s := .initial accounts emailVerified now) rfl requests
    refine hapart.imp fun {earlier later} h => ?_
    change earlier + 30000000 < later + 500000 at h
    omega

end SwCouriers.Invites
