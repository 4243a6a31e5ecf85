import SwCouriers.AuthRuns

/-!
# Ended Sessions and their Credentials

A logout or a change of the password ends sessions. An access token of an ended session is
refused for good when it has expired, when it is blacklisted, its session marked or its user
suspended for as long as it lives, or when its session version is an old one. `logout_session`,
`logout_other_sessions`, `logout_all` and a support password see to that; `logout` blacklists
only the access token that was issued with the refresh token it is given, and the other changes
of a password revoke refresh tokens only.

## Main results

* `SessionDead.evolves`: a session whose credentials are refused stays so in every run.
* `ended_credentials_refused`: what ends a session cleanly ends its credentials for good.
-/

namespace SwCouriers.Auth

open Checked Requests Runs

variable {env : AuthEnv} {ctx : RequestContext} {s s' : AuthState}

/-! ### Tokens that are refused for good -/

/-- A marker is there for as long as the token lives. -/
def AccessToken.CoveredBy (tok : AccessToken) (expiry : Option Instant) : Prop :=
  ∃ e, expiry = some e ∧ tok.exp * second ≤ e

/-- The access token is refused from now on. -/
def Refused (s : AuthState) (tok : AccessToken) : Prop :=
  tok.exp * second ≤ s.clock ∨ tok.CoveredBy (s.redis.tokenBlacklist tok.jti) ∨
    (∃ sid, tok.sid = some sid ∧ tok.CoveredBy (s.redis.sessionRevoked sid)) ∨
    tok.CoveredBy (s.redis.userSuspended tok.sub) ∨
    ∃ u ∈ s.db.users.rows, ∃ sv, u.id = tok.sub ∧ tok.sv = some sv ∧ sv < u.sessionSv

/-- A session whose credentials are all refused from now on. -/
structure SessionDead (s : AuthState) (sid : Id) : Prop where
  known : sid < s.nextUuid
  toks : ∀ tok ∈ s.db.issuedAccess, tok.sid = some sid → Refused s tok
  rows : ∀ rt ∈ s.db.refreshTokens.rows, rt.sessionId = some sid → ¬ rt.isActive s.clock = true

variable {tok : AccessToken} {sid : Id} {db : AuthDb} {x : Session} {newPassword : String}
  {u : Unit}

theorem AccessToken.CoveredBy.lasts {m m' : Id → Option Instant} {k : Id} (h : tok.CoveredBy (m k))
    (hm : Lasts m m') : tok.CoveredBy (m' k) := by
  obtain ⟨e, hk, hle⟩ := h
  obtain ⟨e', hk', hle'⟩ := hm k e hk
  exact ⟨e', hk', hle.trans hle'⟩

theorem Refused.evolves (h : Refused s tok) (hstep : Evolves s s') : Refused s' tok := by
  rcases h with hexp | hblack | ⟨sid, hsid, hmarked⟩ | hsuspended | ⟨u, hu, sv, hid, hsv, hlt⟩
  · exact .inl (hexp.trans hstep.clock)
  · exact .inr (.inl (hblack.lasts hstep.tokenBlacklist))
  · exact .inr (.inr (.inl ⟨sid, hsid, hmarked.lasts hstep.sessionRevoked⟩))
  · exact .inr (.inr (.inr (.inl (hstep.userSuspended ▸ hsuspended))))
  · obtain ⟨u', hu', hid', hle⟩ := hstep.users u hu
    exact .inr (.inr (.inr (.inr ⟨u', hu', sv, hid'.trans hid, hsv, hlt.trans_le hle⟩)))

theorem SessionDead.not_open (h : SessionDead s sid) : ¬ Open s sid := by
  rintro (hnew | ⟨rt, hrt, hsid, hactive⟩)
  · exact absurd h.known (not_lt.mpr hnew)
  · exact h.rows rt hrt hsid hactive

/-- **A session whose credentials are refused stays so.** -/
theorem SessionDead.evolves (h : SessionDead s sid) (hstep : Evolves s s') :
    SessionDead s' sid := by
  refine ⟨lt_of_lt_of_le h.known hstep.nextUuid, fun tok htok hsid => ?_,
    fun rt hrt hsid hactive => ?_⟩
  · rcases hstep.toks tok htok with hold | ⟨sid', hsid', hopen⟩
    · exact (h.toks tok hold hsid).evolves hstep
    · obtain rfl := Option.some.inj (hsid'.symm.trans hsid)
      exact absurd hopen h.not_open
  · rcases hstep.rows rt hrt with ⟨rt₀, hrt₀, hrev⟩ | ⟨sid', hsid', hopen⟩
    · exact h.rows rt₀ hrt₀ (hrev.sessionId.symm.trans hsid) (hrev.isActive hstep.clock hactive)
    · obtain rfl := Option.some.inj (hsid'.symm.trans hsid)
      exact h.not_open hopen

/-! ### Checks of credentials -/

theorem AccessToken.CoveredBy.existsAt {expiry : Option Instant} {now : Instant}
    (h : tok.CoveredBy expiry) (hnow : now < tok.exp * second) :
    Auth.existsAt now expiry = true := by
  obtain ⟨e, rfl, hle⟩ := h
  exact decide_eq_true (hnow.trans_le hle)

/-- What `_get_auth_user` has checked of a token that it accepts. -/
theorem getAuthUser_eq_ok {clientType : ClientType} {user : AuthUser}
    (h : getAuthUser clientType tok s = .ok user) :
    tok ∈ s.db.issuedAccess ∧ ¬ Refused s tok ∧ user.id = tok.sub ∧ user.sid = tok.sid ∧
      user.jti = tok.jti := by
  obtain ⟨_, hdecode, h⟩ := bind_eq_ok.mp h
  obtain ⟨_, hissued, hexp⟩ := bind_eq_ok.mp hdecode
  obtain ⟨_, hblack, h⟩ := bind_eq_ok.mp h
  obtain ⟨_, hmarked, h⟩ := bind_eq_ok.mp h
  obtain ⟨_, hsuspended, h⟩ := bind_eq_ok.mp h
  obtain ⟨_, -, h⟩ := bind_eq_ok.mp h
  obtain ⟨_, hsv, h⟩ := bind_eq_ok.mp h
  obtain ⟨_, -, h⟩ := bind_eq_ok.mp h
  obtain rfl := Except.ok.inj h
  have hlive : s.clock < tok.exp * second := not_le.mp (raiseIf_eq_ok.mp hexp)
  refine ⟨not_not.mp (raiseIf_eq_ok.mp hissued), ?_, rfl, rfl, rfl⟩
  rintro (hdead | hcovered | ⟨sid, hsid, hcovered⟩ | hcovered | ⟨u, hu, sv, hid, htoksv, hlt⟩)
  · exact absurd hlive (not_lt.mpr hdead)
  · exact raiseIf_eq_ok.mp hblack (hcovered.existsAt hlive)
  · refine raiseIf_eq_ok.mp hmarked ?_
    rw [hsid, Option.any_some]
    exact hcovered.existsAt hlive
  · exact raiseIf_eq_ok.mp hsuspended (hcovered.existsAt hlive)
  · rw [checkSessionVersion, htoksv] at hsv
    obtain ⟨u', hu', hsame⟩ := orRaise_bind_eq_ok.mp hsv
    obtain rfl : u' = u := by
      obtain ⟨hmem, hid'⟩ := Table.find?_eq_some_iff.mp hu'
      exact Table.eq_of_key hmem hu (hid'.trans hid.symm)
    exact absurd (not_not.mp (raiseIf_eq_ok.mp hsame)) hlt.ne

theorem not_refresh_of_dead {raw : RefreshJwt} {rt : RefreshToken} (h : SessionDead s sid)
    (hrt : s.db.refreshTokens.find? (env.hashToken raw) = some rt) (hsid : rt.sessionId = some sid)
    (tokens : TokenData) : refreshTokens env ctx raw s ≠ (.ok tokens, s') := by
  intro hok
  obtain ⟨record, user, _, _, -, hrecord, hactive, -⟩ := refreshTokens_eq_ok hok
  obtain rfl := Option.some.inj (hrecord.symm.trans hrt)
  exact h.rows record (Table.find?_eq_some_iff.mp hrt).1 hsid hactive

/-! ### What ends a session -/

/-- The user all of whose sessions an operation ends. -/
def AuthOp.endsUser (env : AuthEnv) (s : AuthState) : AuthOp → Option Id
  | .logoutAll raw => (s.db.refreshTokens.find? (env.hashToken raw)).map RefreshToken.userId
  | .changePassword _ tok _ _ => some tok.sub
  | .setPasswordAdmin userId _ _ _ => some userId
  | .confirmPasswordReset _ _ token =>
      (s.redis.resetSessions (env.hashResetToken (strip token))).map ResetSession.userId
  | .supportIssueTemporaryPassword _ targetUserId _ => some targetUserId
  | _ => none

/-- The operation ends the session, if it is done. -/
def AuthOp.Names (env : AuthEnv) (s : AuthState) (x : Session) : AuthOp → Prop
  | .logout raw =>
      (s.db.refreshTokens.find? (env.hashToken raw)).bind RefreshToken.sessionId =
        some x.sessionId
  | .logoutSession _ _ sid => x.sessionId = sid
  | .logoutOtherSessions _ tok => x.userId = tok.sub ∧ tok.sid ≠ some x.sessionId
  | op => op.endsUser env s = some x.userId

/-- The request is done, and it ends the session. -/
def Ends (env : AuthEnv) (s : AuthState) (r : AuthRequest) (sid : Id) : Prop :=
  (r.op.handle env (s.tick r.elapsed)).1 = .ok () ∧
    ∃ x ∈ s.db.sessions.rows, x.sessionId = sid ∧ r.op.Names env (s.tick r.elapsed) x

/-- The operation leaves no credential of the sessions that it ends. A logout is given the only
active refresh token of its session, and the session's access tokens but the one that came with
it are refused already; so are the access tokens of a user whose password is changed by other
means than by the support. -/
def AuthOp.Clean (env : AuthEnv) (s : AuthState) : AuthOp → Prop
  | .logout raw => ∀ record, s.db.refreshTokens.find? (env.hashToken raw) = some record →
      (∀ rt ∈ s.db.refreshTokens.rows, rt.sessionId = record.sessionId →
        rt.isActive s.clock = true → rt = record) ∧
      ∀ tok ∈ s.db.issuedAccess, tok.sid = record.sessionId →
        Refused s tok ∨ record.accessJti = some tok.jti
  | .changePassword _ tok _ _ => ∀ t ∈ s.db.issuedAccess, t.sub = tok.sub → Refused s t
  | .setPasswordAdmin userId _ _ _ => ∀ t ∈ s.db.issuedAccess, t.sub = userId → Refused s t
  | .confirmPasswordReset _ _ token => ∀ t ∈ s.db.issuedAccess,
      (s.redis.resetSessions (env.hashResetToken (strip token))).map ResetSession.userId =
        some t.sub → Refused s t
  | _ => True

/-! ### Rows that are revoked -/

/-- Every row of the session's refresh tokens that was active is revoked. -/
theorem rows_revokeTokensWhere {now : Instant} {p : RefreshToken → Bool}
    (hp : ∀ rt ∈ db.refreshTokens.rows, rt.sessionId = some sid → rt.isActive now = true →
      p rt = true) :
    ∀ rt ∈ (db.revokeTokensWhere now p).refreshTokens.rows, rt.sessionId = some sid →
      ¬ rt.isActive now = true := by
  intro rt hrt hsid hactive
  obtain ⟨rt₀, hrt₀, rfl⟩ := List.mem_map.mp hrt
  split at hactive
  · simp [RefreshToken.isActive, RefreshToken.revoke] at hactive
  · rename_i hnot
    rw [if_neg hnot] at hsid
    exact hnot (hp rt₀ hrt₀ hsid hactive)

/-- A token that is there is covered by a marker that is set now. -/
theorem WellKept.coveredBy (hs : WellKept env s) (htok : tok ∈ s.db.issuedAccess) {ks : List Id}
    {k : Id} (hk : k ∈ ks) {m : Id → Option Instant} :
    tok.CoveredBy (withEntries ks (some (s.clock + env.accessTtl)) m k) :=
  ⟨_, if_pos hk, hs.tok_exp tok htok⟩

/-! ### Sessions that are ended by name -/

/-- Sessions whose refresh tokens are revoked and which are marked are dead. -/
theorem sessionDead_of_marked {sids : List Id} (hs : WellKept env s) (hx : x ∈ s.db.sessions.rows)
    (hmem : x.sessionId ∈ sids) (hclock : s'.clock = s.clock) (hnext : s'.nextUuid = s.nextUuid)
    (hissued : s'.db.issuedAccess = s.db.issuedAccess)
    (hrows : s'.db.refreshTokens = (s.db.revokeRefreshTokensForSessions sids s.clock).refreshTokens)
    (hmarked : s'.redis.sessionRevoked =
      withEntries sids (some (s.clock + env.accessTtl)) s.redis.sessionRevoked) :
    SessionDead s' x.sessionId := by
  refine ⟨?_, fun tok htok hsid => ?_, ?_⟩
  · rw [hnext]
    exact hs.sessionId_lt x hx
  · rw [hissued] at htok
    refine .inr (.inr (.inl ⟨x.sessionId, hsid, ?_⟩))
    rw [hmarked]
    exact hs.coveredBy htok hmem
  · rw [hclock, hrows]
    refine rows_revokeTokensWhere fun rt _ hsid hactive => ?_
    rw [RefreshToken.ofSessions, hsid, hactive, Option.any_some, Bool.and_true,
      decide_eq_true_eq]
    exact hmem

theorem logoutSession_dead (hs : WellKept env s) (user : AuthUser) (hx : x ∈ s.db.sessions.rows) :
    SessionDead (logoutSession env user x.sessionId s).2 x.sessionId := by
  rw [logoutSession_apply]
  exact sessionDead_of_marked hs hx (List.mem_singleton_self _) rfl rfl rfl rfl rfl

/-- A session that is revoked has lost its credentials. -/
def RevokedDead (s : AuthState) : Prop :=
  ∀ x ∈ s.db.sessions.rows, x.revoked = true → SessionDead s x.sessionId

/-- The session that is kept is the one of the access token. -/
theorem WellKept.keptSession (hs : WellKept env s) {user : AuthUser} {keep : Id}
    (htok : tok ∈ s.db.issuedAccess) (hsid : user.sid = tok.sid) (hjti : user.jti = tok.jti)
    (h : keptSession user s = .ok keep) : tok.sid = some keep := by
  unfold Auth.keptSession at h
  split at h
  · rename_i sid hfound
    obtain ⟨rt, hrt, hrtsid⟩ := Option.bind_eq_some_iff.mp hfound
    have hfits := List.find?_some hrt
    simp only [Bool.and_eq_true, decide_eq_true_eq] at hfits
    rw [← Except.ok.inj h, ← hrtsid]
    exact (hs.pair rt (List.mem_of_find?_eq_some hrt) tok htok (hjti ▸ hfits.1.2)).symm
  · split at h
    · rename_i sid hsome
      rw [← Except.ok.inj h, ← hsid]
      exact (Option.filter_eq_some_iff.mp hsome).1
    · exact absurd h (by simp)

theorem logoutOtherSessions_dead (hs : WellKept env s) (hrevoked : RevokedDead s) {user : AuthUser}
    {n : ℕ} {keep : Id} (hkeep : keptSession user s = .ok keep)
    (h : logoutOtherSessions env user s = (.ok n, s')) (hx : x ∈ s.db.sessions.rows)
    (huser : x.userId = user.id) (hne : x.sessionId ≠ keep) : SessionDead s' x.sessionId := by
  have hevolves : Evolves s s' := ((keeps_logoutOtherSessions user).rel h).evolves hs
  obtain ⟨keep', hkeep', -, rfl⟩ := logoutOtherSessions_eq_ok h
  obtain rfl := Except.ok.inj (hkeep.symm.trans hkeep')
  by_cases hdead : x.revoked = true
  · exact (hrevoked x hx hdead).evolves hevolves
  · have hmem : x.sessionId ∈ s.db.sessionsExcept user.id keep := by
      refine List.mem_map.mpr ⟨x, List.mem_filter.mpr ⟨hx, ?_⟩, rfl⟩
      simp [huser, hdead, hne]
    rw [if_pos (List.ne_nil_of_mem hmem)]
    exact sessionDead_of_marked hs hx hmem rfl rfl rfl rfl rfl

/-! ### All sessions of a user -/

/-- The refresh tokens of a user are revoked; other tokens are not, and none is issued. -/
structure RevokesUser (userId : Id) (s s' : AuthState) : Prop where
  clock : s'.clock = s.clock
  nextUuid : s'.nextUuid = s.nextUuid
  issuedAccess : s'.db.issuedAccess = s.db.issuedAccess
  refreshTokens : s'.db.refreshTokens = (s.db.revokeAllForUser userId s.clock).refreshTokens

theorem userId_eq {y : Session} (hx : x ∈ s.db.sessions.rows) (hy : y ∈ s.db.sessions.rows)
    (h : some y.sessionId = some x.sessionId) : y.userId = x.userId :=
  congrArg Session.userId (Table.eq_of_key hy hx (Option.some.inj h))

theorem RevokesUser.sessionDead {userId : Id} (h : RevokesUser userId s s') (hs : WellKept env s)
    (hx : x ∈ s.db.sessions.rows) (huser : x.userId = userId)
    (htoks : ∀ tok ∈ s.db.issuedAccess, tok.sub = userId → Refused s' tok) :
    SessionDead s' x.sessionId := by
  refine ⟨?_, fun tok htok hsid => ?_, ?_⟩
  · rw [h.nextUuid]
    exact hs.sessionId_lt x hx
  · rw [h.issuedAccess] at htok
    obtain ⟨y, hy, hysid, hyuser⟩ := hs.tok_session tok htok
    refine htoks tok htok ?_
    rw [hyuser, userId_eq hx hy (hysid.symm.trans hsid), huser]
  · rw [h.clock, h.refreshTokens]
    refine rows_revokeTokensWhere fun rt hrt hsid hactive => ?_
    obtain ⟨y, hy, hysid, hyuser⟩ := hs.row_session rt hrt
    have howner : rt.userId = userId := by
      rw [hyuser, userId_eq hx hy (hysid.symm.trans hsid), huser]
    simp only [RefreshToken.isActive, Bool.and_eq_true] at hactive
    simp [howner, hactive.1]

theorem revokesUser_withoutSessions (userId : Id) (s : AuthState) :
    RevokesUser userId s (withoutSessions env userId s) := by
  refine ⟨rfl, rfl, ?_, ?_⟩
  · exact (foldl_revokeSession_eq userId s.clock _ _).2.2
  · exact (foldl_revokeSession_eq userId s.clock _ _).1

theorem withoutSessions_dead (hs : WellKept env s) (hx : x ∈ s.db.sessions.rows) :
    SessionDead (withoutSessions env x.userId s) x.sessionId := by
  refine (revokesUser_withoutSessions x.userId s).sessionDead hs hx rfl fun tok htok hsub => ?_
  obtain ⟨u, hu, sv, hid, hsv, hle⟩ := hs.tok_sv tok htok
  have husers : (withoutSessions env x.userId s).db.users =
      (s.db.incrementSessionSv x.userId).users :=
    (foldl_revokeSession_eq x.userId s.clock _ _).2.1
  refine .inr (.inr (.inr (.inr ⟨{ u with sessionSv := u.sessionSv + 1 }, ?_, sv, hid, hsv, ?_⟩)))
  · rw [husers]
    exact List.mem_map.mpr ⟨u, hu, if_pos (hid.trans hsub)⟩
  · exact Int.lt_add_one_of_le hle

theorem changePassword_eq_ok {userId : Id} {currentPassword : String}
    (h : changePassword env userId currentPassword newPassword s = (.ok u, s')) :
    RevokesUser userId s s' ∧ s'.db.sessions = s.db.sessions := by
  rw [changePassword, bind_currentTime] at h
  obtain ⟨_, -, h⟩ := Handler.bind_lookup_eq_ok.mp h
  obtain ⟨_, -, h⟩ := Handler.bind_check_eq_ok.mp h
  rw [bind_writeDb] at h
  obtain ⟨-, rfl⟩ := Prod.mk.inj h
  exact ⟨⟨rfl, rfl, rfl, rfl⟩, rfl⟩

theorem setPasswordAdmin_eq_ok {userId : Id} {force : Bool} {role : Option UserRole}
    (h : setPasswordAdmin env userId newPassword force role s = (.ok u, s')) :
    RevokesUser userId s s' ∧ s'.db.sessions = s.db.sessions := by
  rw [setPasswordAdmin, bind_currentTime] at h
  obtain ⟨_, -, h⟩ := Handler.bind_check_eq_ok.mp h
  obtain ⟨_, -, h⟩ := Handler.bind_lookup_eq_ok.mp h
  obtain ⟨_, -, h⟩ := Handler.bind_check_eq_ok.mp h
  obtain ⟨_, -, h⟩ := Handler.bind_check_eq_ok.mp h
  rw [bind_writeDb] at h
  obtain ⟨-, rfl⟩ := Prod.mk.inj h
  exact ⟨⟨rfl, rfl, rfl, rfl⟩, rfl⟩

theorem confirmPasswordReset_eq_ok {token : String}
    (h : confirmPasswordReset env ctx newPassword token s = (.ok u, s')) :
    ∃ reset, s.redis.resetSessions (env.hashResetToken (strip token)) = some reset ∧
      RevokesUser reset.userId s s' ∧ s'.db.sessions = s.db.sessions := by
  rw [confirmPasswordReset, bind_currentTime] at h
  obtain ⟨reset, hreset, h⟩ := Handler.bind_lookup_eq_ok.mp h
  obtain ⟨_, -, h⟩ := Handler.bind_lookup_eq_ok.mp h
  obtain ⟨_, -, h⟩ := Handler.bind_check_eq_ok.mp h
  obtain ⟨updated, s₁, hatomic, h⟩ := Handler.bind_eq_ok.mp h
  rw [atomicPasswordReset, bind_currentTime, Handler.bind_query, bind_when_writeDb] at hatomic
  obtain ⟨-, rfl⟩ := Prod.mk.inj hatomic
  obtain ⟨_, -, h⟩ := Handler.bind_check_eq_ok.mp h
  obtain ⟨-, rfl⟩ := Prod.mk.inj h
  have hfound := (Option.filter_eq_some_iff.mp (orRaise_eq_ok.mp hreset)).1
  refine ⟨reset, hfound, ⟨rfl, rfl, ?_, ?_⟩, ?_⟩ <;> dsimp only [AuthState.mapDb] <;> split <;> rfl

/-- What the support does before the sessions are invalidated ends nothing early. -/
theorem supportIssueTemporaryPassword_eq_ok {actorId targetUserId : Id}
    (h : supportIssueTemporaryPassword env actorId targetUserId newPassword s = (.ok u, s')) :
    ∃ s₁, Keeps env s s₁ ∧ s₁.db.sessions = s.db.sessions ∧
      s' = withoutSessions env targetUserId s₁ := by
  rw [supportIssueTemporaryPassword, bind_currentTime] at h
  obtain ⟨_, -, h⟩ := Handler.bind_check_eq_ok.mp h
  obtain ⟨user, -, h⟩ := Handler.bind_lookup_eq_ok.mp h
  obtain ⟨_, -, h⟩ := Handler.bind_check_eq_ok.mp h
  rw [bind_writeDb, bind_writeDb] at h
  obtain ⟨_, s₁, hdriver, h⟩ := Handler.bind_eq_ok.mp h
  obtain ⟨count, hinvalidate⟩ := invalidateAllSessionsForUser_apply env targetUserId s₁
  rw [Handler.bind_of_ok hinvalidate] at h
  have hprofile : Handler.Moves (Keeps env) (.when (user.role = .driver)
      (writeDb (AuthDb.activateDriverOnLogin targetUserId))) :=
    Handler.moves_when fun _ => keeps_writeDb (keeps_activateDriverOnLogin targetUserId)
  have hsessions : s₁.db.sessions = s.db.sessions := by
    unfold Handler.when at hdriver
    split at hdriver
    · rw [← (Prod.mk.inj hdriver).2]
      rfl
    · rw [← (Prod.mk.inj hdriver).2]
      rfl
  refine ⟨s₁, ?_, hsessions, (Prod.mk.inj h).2.symm⟩
  have hpassword := keeps_setPassword env targetUserId (env.hashPassword newPassword)
    s.clock true s
  refine (hpassword.trans ?_).trans (hprofile.rel hdriver)
  refine keeps_modifyUser targetUserId _ (fun u => ?_) _
  exact le_rfl

/-! ### Logouts -/

variable (env) in
theorem logout_apply (raw : RefreshJwt) (s : AuthState) :
    logout env raw s = (.ok (),
      (s.blacklisted env ((s.db.refreshTokens.find? (env.hashToken raw)).bind
        RefreshToken.accessJti).toList).mapDb
          (AuthDb.revokeToken (env.hashToken raw) s.clock)) := by
  rw [logout, bind_currentTime, Handler.bind_query,
    Handler.bind_of_ok (blacklistAll_apply _ s)]
  rfl

/-- A logout with the only active refresh token, when all access tokens but its own are refused
already. -/
theorem logout_dead (hs : WellKept env s) {raw : RefreshJwt} {record : RefreshToken}
    (hrecord : s.db.refreshTokens.find? (env.hashToken raw) = some record)
    (hx : x ∈ s.db.sessions.rows) (hsid : record.sessionId = some x.sessionId)
    (hclean : (AuthOp.logout raw).Clean env s) : SessionDead (logout env raw s).2 x.sessionId := by
  have hevolves : Evolves s (logout env raw s).2 := (keeps_logout raw s).evolves hs
  obtain ⟨honly, htoks⟩ := hclean record hrecord
  rw [logout_apply, hrecord] at hevolves ⊢
  refine ⟨hs.sessionId_lt x hx, fun tok htok htoksid => ?_, ?_⟩
  · rcases htoks tok htok (htoksid.trans hsid.symm) with hrefused | hjti
    · exact hrefused.evolves hevolves
    · exact .inr (.inl (hs.coveredBy htok (by simp [hjti])))
  · refine rows_revokeTokensWhere fun rt hrt hrtsid hactive => ?_
    rw [honly rt hrt (hrtsid.trans hsid.symm) hactive]
    exact decide_eq_true (Table.find?_eq_some_iff.mp hrecord).2

/-! ### Every operation -/

theorem asUser_eq_ok {α : Type} {f : AuthUser → Service α} (h : asUser ctx tok f s = (.ok (), s')) :
    ∃ user a, getAuthUser ctx.clientType tok s = .ok user ∧ f user s = (.ok a, s') := by
  obtain ⟨user, huser, h⟩ := Handler.bind_lookup_eq_ok.mp h
  obtain ⟨a, s₁, hf, h⟩ := Handler.bind_eq_ok.mp h
  obtain ⟨-, rfl⟩ := Prod.mk.inj h
  exact ⟨user, a, huser, hf⟩

/-- What is done cleanly leaves the sessions that it ends without credentials. -/
theorem handle_dead {op : AuthOp} (hs : WellKept env s) (hrevoked : RevokedDead s)
    (hevolves : Evolves s s') (h : op.handle env s = (.ok (), s')) (hclean : op.Clean env s)
    (hx : x ∈ s.db.sessions.rows) (hnames : op.Names env s x) : SessionDead s' x.sessionId := by
  cases op with
  | login ctx email password => exact absurd hnames (by simp [AuthOp.Names, AuthOp.endsUser])
  | refreshTokens ctx raw => exact absurd hnames (by simp [AuthOp.Names, AuthOp.endsUser])
  | logout raw =>
      obtain ⟨record, hrecord, hsid⟩ := Option.bind_eq_some_iff.mp hnames
      have hdead := logout_dead hs hrecord hx hsid hclean
      rwa [show logout env raw s = (.ok (), s') from h] at hdead
  | logoutSession ctx tok sid =>
      obtain ⟨user, n, -, hlogout⟩ := asUser_eq_ok h
      obtain rfl : x.sessionId = sid := hnames
      have hdead := logoutSession_dead hs user hx
      rwa [hlogout] at hdead
  | logoutOtherSessions ctx tok =>
      obtain ⟨user, n, huser, hlogout⟩ := asUser_eq_ok h
      obtain ⟨htok, -, hid, hsid, hjti⟩ := getAuthUser_eq_ok huser
      obtain ⟨keep, hkeep, -⟩ := logoutOtherSessions_eq_ok hlogout
      have hkept := hs.keptSession htok hsid hjti hkeep
      refine logoutOtherSessions_dead hs hrevoked hkeep hlogout hx (hnames.1.trans hid.symm) ?_
      rintro rfl
      exact hnames.2 hkept
  | logoutAll raw =>
      obtain ⟨record, hrecord, huser⟩ := Option.map_eq_some_iff.mp hnames
      obtain ⟨n, s₁, hall, hdone⟩ := Handler.bind_eq_ok.mp h
      rw [logoutAll, Handler.bind_query, hrecord] at hall
      obtain ⟨count, happly⟩ := invalidateAllSessionsForUser_apply env record.userId s
      simp only [happly] at hall
      rw [← (Prod.mk.inj hdone).2, ← (Prod.mk.inj hall).2, huser]
      exact withoutSessions_dead hs hx
  | changePassword ctx tok currentPassword newPassword =>
      obtain ⟨user, _, huser, hchange⟩ := asUser_eq_ok h
      obtain ⟨-, -, hid, -⟩ := getAuthUser_eq_ok huser
      rw [hid] at hchange
      exact (changePassword_eq_ok hchange).1.sessionDead hs hx (Option.some.inj hnames).symm
        fun t ht hsub => (hclean t ht hsub).evolves hevolves
  | setPasswordAdmin userId newPassword force role =>
      exact (setPasswordAdmin_eq_ok h).1.sessionDead hs hx (Option.some.inj hnames).symm
        fun t ht hsub => (hclean t ht hsub).evolves hevolves
  | confirmPasswordReset ctx newPassword token =>
      obtain ⟨reset, hreset, hrevokes, -⟩ := confirmPasswordReset_eq_ok h
      have hnames : (s.redis.resetSessions _).map ResetSession.userId = some x.userId := hnames
      rw [hreset] at hnames
      refine hrevokes.sessionDead hs hx (Option.some.inj hnames).symm fun t ht hsub => ?_
      refine (hclean t ht ?_).evolves hevolves
      rw [hreset, hsub]
      rfl
  | supportIssueTemporaryPassword actorId targetUserId newPassword =>
      obtain ⟨s₁, hkeeps, -, rfl⟩ := supportIssueTemporaryPassword_eq_ok h
      obtain rfl : targetUserId = x.userId := Option.some.inj hnames
      obtain ⟨g, hrows, hg⟩ := hkeeps.sessions
      have hdead := withoutSessions_dead (hs.keeps hkeeps)
        (x := g x) (hrows ▸ List.mem_map_of_mem hx)
      rwa [(hg x).1, (hg x).2] at hdead

/-! ### Sessions that are revoked -/

/-- The sessions that become revoked are among the given ones. -/
def RevokesOnly (P : Session → Prop) (db db' : AuthDb) : Prop :=
  ∀ x' ∈ db'.sessions.rows, x'.revoked = true →
    ∃ x ∈ db.sessions.rows, x.sessionId = x'.sessionId ∧ (x.revoked = true ∨ P x)

theorem revokesOnly_of_eq {P : Session → Prop} {db' : AuthDb} (h : db'.sessions = db.sessions) :
    RevokesOnly P db db' :=
  fun x hx hrevoked => ⟨x, h ▸ hx, rfl, .inl hrevoked⟩

theorem revokesOnly_of_map {P : Session → Prop} {db' : AuthDb} {g : Session → Session}
    (h : db'.sessions.rows = db.sessions.rows.map g)
    (hg : ∀ x, (g x).sessionId = x.sessionId ∧ ((g x).revoked = true → x.revoked = true ∨ P x)) :
    RevokesOnly P db db' := by
  intro x' hx' hrevoked
  rw [h] at hx'
  obtain ⟨x, hx, rfl⟩ := List.mem_map.mp hx'
  exact ⟨x, hx, (hg x).1.symm, (hg x).2 hrevoked⟩

theorem revokesOnly_revokeSessionsWhere (now : Instant) (p : Session → Bool) (db : AuthDb) :
    RevokesOnly (fun x => p x = true) db (db.revokeSessionsWhere now p) := by
  refine revokesOnly_of_map rfl fun x => ?_
  split
  · exact ⟨rfl, fun _ => .inr ‹_›⟩
  · exact ⟨rfl, .inl⟩

theorem RevokesOnly.mono {P Q : Session → Prop} {db' : AuthDb} (h : RevokesOnly P db db')
    (hPQ : ∀ x ∈ db.sessions.rows, P x → Q x) : RevokesOnly Q db db' := by
  intro x' hx' hrevoked
  obtain ⟨x, hx, hid, hor⟩ := h x' hx' hrevoked
  exact ⟨x, hx, hid, hor.imp_right (hPQ x hx)⟩

theorem foldl_revokeSession_sessions (userId : Id) (now : Instant) (sids : List Id)
    (db : AuthDb) :
    ∃ g : Session → Session,
      (sids.foldl (fun db sid => db.revokeSession userId sid now) db).sessions.rows =
        db.sessions.rows.map g ∧
      ∀ x, (g x).sessionId = x.sessionId ∧ (g x).userId = x.userId ∧
        ((g x).revoked = true → x.revoked = true ∨ x.userId = userId) := by
  induction sids generalizing db with
  | nil => exact ⟨id, by simp, fun _ => ⟨rfl, rfl, .inl⟩⟩
  | cons sid sids ih =>
      obtain ⟨g, hrows, hg⟩ := ih (db.revokeSession userId sid now)
      let revoke := fun x : Session =>
        if AuthDb.unrevokedSession userId sid x then x.revoke now else x
      have hfirst : ∀ x, (revoke x).sessionId = x.sessionId ∧ (revoke x).userId = x.userId ∧
          ((revoke x).revoked = true → x.revoked = true ∨ x.userId = userId) := by
        intro x
        by_cases hx : AuthDb.unrevokedSession userId sid x = true
        · have huser : x.userId = userId := by
            simp only [AuthDb.unrevokedSession, Bool.and_eq_true, decide_eq_true_eq] at hx
            exact hx.1.1
          rw [show revoke x = x.revoke now from if_pos hx]
          exact ⟨rfl, rfl, fun _ => .inr huser⟩
        · rw [show revoke x = x from if_neg hx]
          exact ⟨rfl, rfl, .inl⟩
      refine ⟨g ∘ revoke, ?_, fun x => ?_⟩
      · rw [List.foldl_cons, hrows]
        exact List.map_map
      · obtain ⟨hid, huser, hrevoked⟩ := hg (revoke x)
        obtain ⟨hid', huser', hrevoked'⟩ := hfirst x
        refine ⟨hid.trans hid', huser.trans huser', fun h => ?_⟩
        rcases hrevoked h with h | h
        · exact hrevoked' h
        · exact .inr (huser'.symm.trans h)

theorem revokesOnly_withoutSessions (userId : Id) (s : AuthState) :
    RevokesOnly (fun x => x.userId = userId) s.db (withoutSessions env userId s).db := by
  obtain ⟨g, hrows, hg⟩ := foldl_revokeSession_sessions userId s.clock
    (((s.db.incrementSessionSv userId).listActiveSessions userId s.clock).map Session.sessionId)
    ((s.db.incrementSessionSv userId).revokeAllForUser userId s.clock)
  exact revokesOnly_of_map hrows fun x => ⟨(hg x).1, (hg x).2.2⟩

theorem revokesOnly_touchSession (sid : Id) (now : Instant) (db : AuthDb) :
    RevokesOnly (fun _ => False) db (db.touchSession env ctx sid now) := by
  refine revokesOnly_of_map rfl fun x => ?_
  split <;> exact ⟨rfl, .inl⟩

variable (ctx) in
theorem revokesOnly_withLogin (hs : WellKept env s) (user : User) :
    RevokesOnly (fun _ => False) s.db (withLogin env ctx user s).db := by
  intro x' hx' hrevoked
  obtain ⟨x, hx, hid, hold⟩ := revokesOnly_touchSession s.nextUuid s.clock _ x' hx' hrevoked
  have hkept := hs.keeps (keeps_limitedDb _ user.id s.clock s)
  have hrows : (withPair env user ctx.clientType s.nextUuid
      (withOpened env ctx user.id s)).db.sessions.rows =
      (limitedDb user.id s.clock s.db).sessions.rows ++
        [nextSession env ctx user.id (s.mapDb (limitedDb user.id s.clock))] :=
    withSession_rows _ hkept user.id
  rw [hrows, limitedDb_sessions] at hx
  rcases List.mem_append.mp hx with hx | hx
  · exact ⟨x, hx, hid, hold⟩
  · obtain rfl := List.mem_singleton.mp hx
    exact absurd hold (by simp [nextSession])

theorem revokesOnly_login {email password : String} {tokens : TokenData} (hs : WellKept env s)
    (h : login env ctx email password s = (.ok tokens, s')) :
    RevokesOnly (fun _ => False) s.db s'.db := by
  obtain ⟨user, -, -, hcomplete⟩ := login_eq_ok.mp h
  obtain ⟨-, s₁, hissue, rfl⟩ := completeLogin_eq_ok.mp hcomplete
  obtain ⟨-, -, -, rfl⟩ := issueTokens_eq_ok.mp hissue
  have hchecked := hs.keeps (keeps_checkedDb _ ctx user password s)
  have hlogin := revokesOnly_withLogin ctx hchecked user
  intro x' hx' hrevoked
  obtain ⟨x, hx, hfacts⟩ := hlogin x' hx' hrevoked
  rw [AuthState.mapDb_db, checkedDb, driverDb_sessions, preparedDb_sessions] at hx
  exact ⟨x, hx, hfacts⟩

theorem revokesOnly_refreshTokens {raw : RefreshJwt} {tokens : TokenData} (hs : WellKept env s)
    (h : refreshTokens env ctx raw s = (.ok tokens, s')) :
    RevokesOnly (fun _ => False) s.db s'.db := by
  obtain ⟨record, user, sid, s₁, -, hrecord, -, -, hsid, -, rfl⟩ := refreshTokens_eq_ok h
  obtain ⟨x, hx, hxid, -⟩ := hs.row_session record (Table.find?_eq_some_iff.mp hrecord).1
  rcases sessionOf_eq_ok hsid with ⟨-, rfl⟩ | ⟨hnone, -⟩
  · intro x' hx' hrevoked
    obtain ⟨y, hy, hfacts⟩ := revokesOnly_touchSession sid s.clock _ x' hx' hrevoked
    have hsessions : (withPair env user ctx.clientType sid ((withTaken env raw s).mapDb
        (limitedDb user.id (withTaken env raw s).clock))).db.sessions = s.db.sessions :=
      limitedDb_sessions
    rw [hsessions] at hy
    exact ⟨y, hy, hfacts⟩
  · exact absurd (hxid.symm.trans hnone) (by simp)

/-- **What becomes revoked is ended**, by an operation that is always clean. -/
theorem handle_revokes {op : AuthOp} (hs : WellKept env s)
    (h : op.handle env s = (.ok (), s')) :
    RevokesOnly (fun x => op.Names env s x ∧ op.Clean env s) s.db s'.db := by
  cases op with
  | login ctx email password =>
      obtain ⟨tokens, s₁, hlogin, hdone⟩ := Handler.bind_eq_ok.mp h
      rw [← (Prod.mk.inj hdone).2]
      exact (revokesOnly_login hs hlogin).mono fun _ _ => False.elim
  | refreshTokens ctx raw =>
      obtain ⟨tokens, s₁, hrefresh, hdone⟩ := Handler.bind_eq_ok.mp h
      rw [← (Prod.mk.inj hdone).2]
      exact (revokesOnly_refreshTokens hs hrefresh).mono fun _ _ => False.elim
  | logout raw =>
      have hstate := (logout_apply env raw s).symm.trans h
      rw [← (Prod.mk.inj hstate).2]
      exact revokesOnly_of_eq rfl
  | logoutSession ctx tok sid =>
      obtain ⟨user, n, -, hlogout⟩ := asUser_eq_ok h
      rw [logoutSession_apply] at hlogout
      rw [← (Prod.mk.inj hlogout).2]
      refine (revokesOnly_revokeSessionsWhere s.clock (AuthDb.unrevokedSession user.id sid)
        (s.db.revokeRefreshTokensForSessions [sid] s.clock)).mono fun x _ hx => ⟨?_, trivial⟩
      simp only [AuthDb.unrevokedSession, Bool.and_eq_true, decide_eq_true_eq] at hx
      exact hx.1.2
  | logoutOtherSessions ctx tok =>
      obtain ⟨user, n, huser, hlogout⟩ := asUser_eq_ok h
      obtain ⟨htok, -, hid, hsid, hjti⟩ := getAuthUser_eq_ok huser
      obtain ⟨keep, hkeep, -, rfl⟩ := logoutOtherSessions_eq_ok hlogout
      have hkept := hs.keptSession htok hsid hjti hkeep
      split
      · refine (revokesOnly_revokeSessionsWhere s.clock (fun x => x.userId = user.id &&
          x.sessionId ∈ s.db.sessionsExcept user.id keep) s.db).mono fun x _ hx => ⟨?_, trivial⟩
        simp only [Bool.and_eq_true, decide_eq_true_eq] at hx
        obtain ⟨y, hy, hyid⟩ := List.mem_map.mp hx.2
        have hother : y.sessionId ≠ keep := by
          have hfits := (List.mem_filter.mp hy).2
          simp only [Bool.and_eq_true, decide_eq_true_eq] at hfits
          exact hfits.2
        refine ⟨hx.1.trans hid, ?_⟩
        rw [hkept, ← hyid]
        exact fun heq => hother (Option.some.inj heq).symm
      · exact revokesOnly_of_eq rfl
  | logoutAll raw =>
      obtain ⟨n, s₁, hall, hdone⟩ := Handler.bind_eq_ok.mp h
      rw [← (Prod.mk.inj hdone).2]
      rw [logoutAll, Handler.bind_query] at hall
      cases hrecord : s.db.refreshTokens.find? (env.hashToken raw) with
      | none =>
          rw [hrecord] at hall
          rw [← (Prod.mk.inj hall).2]
          exact revokesOnly_of_eq rfl
      | some record =>
          rw [hrecord] at hall
          obtain ⟨count, happly⟩ := invalidateAllSessionsForUser_apply env record.userId s
          simp only [happly] at hall
          rw [← (Prod.mk.inj hall).2]
          refine (revokesOnly_withoutSessions record.userId s).mono fun x _ hx => ⟨?_, trivial⟩
          simp only [AuthOp.Names, AuthOp.endsUser, hrecord, Option.map_some, hx]
  | changePassword ctx tok currentPassword newPassword =>
      obtain ⟨user, _, -, hchange⟩ := asUser_eq_ok h
      exact revokesOnly_of_eq (changePassword_eq_ok hchange).2
  | setPasswordAdmin userId newPassword force role =>
      exact revokesOnly_of_eq (setPasswordAdmin_eq_ok h).2
  | confirmPasswordReset ctx newPassword token =>
      obtain ⟨reset, -, -, hsessions⟩ := confirmPasswordReset_eq_ok h
      exact revokesOnly_of_eq hsessions
  | supportIssueTemporaryPassword actorId targetUserId newPassword =>
      obtain ⟨s₁, -, hsessions, rfl⟩ := supportIssueTemporaryPassword_eq_ok h
      intro x' hx' hrevoked
      obtain ⟨x, hx, hid, hor⟩ := revokesOnly_withoutSessions targetUserId s₁ x' hx' hrevoked
      rw [hsessions] at hx
      exact ⟨x, hx, hid, hor.imp_right fun huser => ⟨congrArg some huser.symm, trivial⟩⟩

/-! ### Runs -/

/-- The tables are in order, and what is revoked is dead. -/
structure Sound (env : AuthEnv) (s : AuthState) : Prop where
  wellKept : WellKept env s
  revokedDead : RevokedDead s

theorem RevokedDead.evolves (h : RevokedDead s) (hevolves : Evolves s s')
    (hsessions : s'.db.sessions = s.db.sessions) : RevokedDead s' :=
  fun x hx hrevoked => (h x (hsessions ▸ hx) hrevoked).evolves hevolves

theorem Sound.tick (hs : Sound env s) (elapsed : ℕ) : Sound env (s.tick elapsed) :=
  ⟨hs.wellKept.keeps (keeps_tick env elapsed s),
    hs.revokedDead.evolves ((keeps_tick env elapsed s).evolves hs.wellKept) rfl⟩

variable (env) in
/-- A request that is done leaves the state that its operation made; one that raises leaves the
tables as they were. -/
theorem step_cases (s : AuthState) (r : AuthRequest) :
    (∃ s', r.op.handle env (s.tick r.elapsed) = (.ok (), s') ∧ step env s r = s') ∨
      (r.op.handle env (s.tick r.elapsed)).1 ≠ .ok () ∧ (step env s r).db = s.db := by
  rw [step, submit, inSession]
  split
  · rename_i s' hok
    exact .inl ⟨s', hok, rfl⟩
  · rename_i e s' herror
    refine .inr ⟨?_, rfl⟩
    rw [herror]
    exact fun h => by cases h

theorem step_sound (hs : Sound env s) (r : AuthRequest) : Sound env (step env s r) := by
  refine ⟨(step_reached hs.wellKept r).wellKept, ?_⟩
  have htick := hs.tick r.elapsed
  have hevolves := (handle_reached htick.wellKept r.op).evolves
  rcases step_cases env s r with ⟨s', hok, hstep⟩ | ⟨-, hdb⟩
  · rw [inSession_eq_ok.mpr hok] at hevolves
    rw [hstep]
    intro x' hx' hrevoked
    obtain ⟨x, hx, hid, hor⟩ := handle_revokes htick.wellKept hok x' hx' hrevoked
    rw [← hid]
    rcases hor with hold | ⟨hnames, hclean⟩
    · exact (htick.revokedDead x hx hold).evolves hevolves
    · exact handle_dead htick.wellKept htick.revokedDead hevolves hok hclean hx hnames
  · exact hs.revokedDead.evolves (step_reached hs.wellKept r).evolves (congrArg AuthDb.sessions hdb)

theorem run_sound (hs : Sound env s) (requests : List AuthRequest) :
    Sound env (run (step env) s requests) :=
  run_invariant (I := Sound env) (fun _ r h => step_sound h r) hs requests

theorem SessionDead.run (h : SessionDead s sid) (hs : Sound env s) (requests : List AuthRequest) :
    SessionDead (run (step env) s requests) sid := by
  induction requests generalizing s with
  | nil => exact h
  | cons r requests ih =>
      exact ih (h.evolves (step_reached hs.wellKept r).evolves) (step_sound hs r)

/-- Nobody has logged in yet: there are no sessions, tokens or markers of them. -/
structure NoSessions (s : AuthState) : Prop where
  sessions : s.db.sessions.rows = []
  refreshTokens : s.db.refreshTokens.rows = []
  issuedAccess : s.db.issuedAccess = []
  issuedRefresh : s.db.issuedRefresh = []
  tokenBlacklist : ∀ jti, s.redis.tokenBlacklist jti = none
  sessionRevoked : ∀ sid, s.redis.sessionRevoked sid = none

theorem NoSessions.sound (env : AuthEnv) (hs : NoSessions s) : Sound env s := by
  refine ⟨?_, ?_⟩
  · constructor <;>
      simp [hs.sessions, hs.refreshTokens, hs.issuedAccess, hs.issuedRefresh, hs.tokenBlacklist,
        hs.sessionRevoked]
  · simp [RevokedDead, hs.sessions]

/-- No access token of the session passes, and no refresh token of it is exchanged, however long
the state is left alone. -/
def CredentialsRefused (env : AuthEnv) (s : AuthState) (sid : Id) : Prop :=
  ∀ elapsed : ℕ,
    (∀ tok ∈ s.db.issuedAccess, tok.sid = some sid →
      ∀ clientType user, getAuthUser clientType tok (s.tick elapsed) ≠ .ok user) ∧
    ∀ raw rt, s.db.refreshTokens.find? (env.hashToken raw) = some rt → rt.sessionId = some sid →
      ∀ ctx tokens, (submit elapsed (refreshTokens env ctx raw) s).1 ≠ .ok tokens

theorem SessionDead.credentialsRefused (h : SessionDead s sid) (hs : WellKept env s) :
    CredentialsRefused env s sid := by
  intro elapsed
  have hdead := h.evolves ((keeps_tick env elapsed s).evolves hs)
  refine ⟨fun tok htok hsid clientType user hok => ?_, fun raw rt hrt hsid ctx tokens hok => ?_⟩
  · exact (getAuthUser_eq_ok hok).2.1 (hdead.toks tok htok hsid)
  · obtain ⟨s', hsubmit⟩ : ∃ s', submit elapsed (refreshTokens env ctx raw) s = (.ok tokens, s') :=
      ⟨_, Prod.ext hok rfl⟩
    exact not_refresh_of_dead hdead hrt hsid tokens (inSession_eq_ok.mp hsubmit)

/-- **Ending a session cleanly ends its credentials for good**: after a request that ends a
session, if its operation is clean, no credential of the session is accepted in any later state
of the run. -/
theorem ended_credentials_refused (env : AuthEnv) (s : AuthState) (hs : NoSessions s)
    (pre : List AuthRequest) (r : AuthRequest) (post : List AuthRequest)
    (hclean : r.op.Clean env ((run (step env) s pre).tick r.elapsed)) :
    ∀ sid, Ends env (run (step env) s pre) r sid →
      CredentialsRefused env (run (step env) s (pre ++ r :: post)) sid := by
  rintro sid ⟨hdone, x, hx, rfl, hnames⟩
  have hbefore := run_sound (hs.sound env) pre
  have hafter := step_sound hbefore r
  have htick := hbefore.tick r.elapsed
  have hdead : SessionDead (step env (run (step env) s pre) r) x.sessionId := by
    rcases step_cases env (run (step env) s pre) r with ⟨s', hok, hstep⟩ | ⟨hnot, -⟩
    · have hevolves := (handle_reached htick.wellKept r.op).evolves
      rw [inSession_eq_ok.mpr hok] at hevolves
      rw [hstep]
      exact handle_dead htick.wellKept htick.revokedDead hevolves hok hclean hx hnames
    · exact absurd hdone hnot
  rw [run_append, run_cons]
  exact (hdead.run hafter post).credentialsRefused (run_sound hafter post).wellKept

/-! ### The administrator of the small service -/

/-- The administrator logs in. -/
def adaLogsIn : AuthRequest := ⟨0, .login ⟨.admin, none, none⟩ "ada" "secret"⟩

/-- The access token of that login. -/
def adaAccess : AccessToken := ⟨11, 1, .admin, .admin, 900, none, some 10, some 0⟩

/-- The refresh token of that login. -/
def adaRefresh : RefreshJwt := ⟨12, 1, .admin, 604800⟩

theorem noSessions_adaState : NoSessions adaState :=
  ⟨rfl, rfl, rfl, rfl, fun _ => rfl, fun _ => rfl⟩

/-- The session of that login. -/
def adaSession : Session :=
  ⟨10, 1, false, none, some 0, some (604800 * second), none, none⟩

theorem logout_all_ends_adas_session :
    CredentialsRefused plainEnv (run (step plainEnv) adaState
      ([adaLogsIn] ++ ⟨60, .logoutAll adaRefresh⟩ :: [adaLogsIn])) 10 := by
  refine ended_credentials_refused plainEnv adaState noSessions_adaState [adaLogsIn]
    ⟨60, .logoutAll adaRefresh⟩ [adaLogsIn] trivial 10 ⟨?_, adaSession, ?_, rfl, ?_⟩
  · decide +kernel
  · decide +kernel
  · change (AuthOp.logoutAll adaRefresh).endsUser plainEnv _ = some 1
    decide +kernel

/-- **A changed password leaves the access tokens**: the session ends, and its access token still
passes. -/
theorem changed_password_leaves_access_token :
    ¬ ∀ (env : AuthEnv) (s : AuthState), NoSessions s →
      ∀ (pre : List AuthRequest) (r : AuthRequest) (post : List AuthRequest) (sid : Id),
        Ends env (run (step env) s pre) r sid →
          CredentialsRefused env (run (step env) s (pre ++ r :: post)) sid := by
  intro hall
  let change : AuthRequest :=
    ⟨60, .changePassword ⟨.admin, none, none⟩ adaAccess "secret" "better"⟩
  have hends : Ends plainEnv (run (step plainEnv) adaState [adaLogsIn]) change 10 :=
    ⟨by decide +kernel, adaSession, by decide +kernel, rfl, rfl⟩
  have hrefused := (hall plainEnv adaState noSessions_adaState _ _ [] 10 hends 0).1 adaAccess
    (by decide +kernel) rfl .admin
  have haccepted : (getAuthUser .admin adaAccess ((run (step plainEnv) adaState
      ([adaLogsIn] ++ change :: [])).tick 0)).isOk = true := by decide +kernel
  cases huser : getAuthUser .admin adaAccess ((run (step plainEnv) adaState
      ([adaLogsIn] ++ change :: [])).tick 0) with
  | ok user => exact hrefused user huser
  | error e =>
      rw [huser] at haccepted
      exact absurd haccepted Bool.false_ne_true

end SwCouriers.Auth
