import SwCouriers.AuthEffects
import SwCouriers.Lib.Runs

/-!
# Runs of Requests on Sessions

Logins, refreshes, logouts and changes of passwords, one request at a time. Most of what they
write only ends something: `Keeps` says that rows stay and are at most revoked, that versions of
sessions grow and that markers in Redis are renewed. Only a login and a refresh issue tokens, and
only for a session that is `Open`, that is, new or with a refresh token that is still active.

## Main results

* `WellKept.keeps`, `Keeps.evolves`: what ends nothing early keeps the tables in order.
* `handle_reached`, `step_reached`: a request keeps the tables in order and issues tokens for open
  sessions only.
-/

namespace SwCouriers.Auth

open Checked Requests Runs

/-! ### Requests -/

/-- The operations on sessions and passwords, as the routes call them: what needs a caller is
given the access token of the caller. -/
inductive AuthOp where
  | login (ctx : RequestContext) (email password : String)
  | refreshTokens (ctx : RequestContext) (raw : RefreshJwt)
  | logout (raw : RefreshJwt)
  | logoutSession (ctx : RequestContext) (tok : AccessToken) (sessionId : Id)
  | logoutOtherSessions (ctx : RequestContext) (tok : AccessToken)
  | logoutAll (raw : RefreshJwt)
  | changePassword (ctx : RequestContext) (tok : AccessToken)
      (currentPassword newPassword : String)
  | setPasswordAdmin (userId : Id) (newPassword : String) (forcePasswordChange : Bool)
      (auditUserRole : Option UserRole)
  | confirmPasswordReset (ctx : RequestContext) (newPassword passwordResetToken : String)
  | supportIssueTemporaryPassword (actorId targetUserId : Id) (newPassword : String)

/-- The access token's user, before the operation. -/
def asUser {α : Type} (ctx : RequestContext) (tok : AccessToken) (f : AuthUser → Service α) :
    Service Unit := do
  let user ← .lookup (getAuthUser ctx.clientType tok)
  let _ ← f user

/-- What a request runs. -/
def AuthOp.handle (env : AuthEnv) : AuthOp → Service Unit
  | .login ctx email password => do let _ ← Auth.login env ctx email password
  | .refreshTokens ctx raw => do let _ ← Auth.refreshTokens env ctx raw
  | .logout raw => Auth.logout env raw
  | .logoutSession ctx tok sid => asUser ctx tok fun user => Auth.logoutSession env user sid
  | .logoutOtherSessions ctx tok => asUser ctx tok fun user => Auth.logoutOtherSessions env user
  | .logoutAll raw => do let _ ← Auth.logoutAll env raw
  | .changePassword ctx tok currentPassword newPassword =>
      asUser ctx tok fun user => Auth.changePassword env user.id currentPassword newPassword
  | .setPasswordAdmin userId newPassword force role =>
      Auth.setPasswordAdmin env userId newPassword force role
  | .confirmPasswordReset ctx newPassword token =>
      Auth.confirmPasswordReset env ctx newPassword token
  | .supportIssueTemporaryPassword actorId targetUserId newPassword =>
      Auth.supportIssueTemporaryPassword env actorId targetUserId newPassword

/-- A request, some time after the one before it. -/
structure AuthRequest where
  elapsed : ℕ
  op : AuthOp

/-- The state once a request is done. -/
def step (env : AuthEnv) (s : AuthState) (r : AuthRequest) : AuthState :=
  (submit r.elapsed (r.op.handle env) s).2

/-! ### What requests keep -/

/-- The entries of a marker: as before, or renewed for the life of an access token. -/
def Renews (env : AuthEnv) (now now' : Instant) (m m' : Id → Option Instant) : Prop :=
  ∀ k, m' k = m k ∨ ∃ e, m' k = some e ∧ now + env.accessTtl ≤ e ∧ e ≤ now' + env.accessTtl

/-- A revised row of a refresh token is at most revoked. -/
structure RefreshToken.Revises (rt rt' : RefreshToken) : Prop where
  tokenHash : rt'.tokenHash = rt.tokenHash
  userId : rt'.userId = rt.userId
  accessJti : rt'.accessJti = rt.accessJti
  sessionId : rt'.sessionId = rt.sessionId
  expiresAt : rt'.expiresAt = rt.expiresAt
  revoked : rt.revoked = true → rt'.revoked = true

/-- Nothing is issued and nothing is taken back: rows of refresh tokens are at most revoked,
sessions stay with their users, versions grow and markers are renewed. -/
structure Keeps (env : AuthEnv) (s s' : AuthState) : Prop where
  clock : s.clock ≤ s'.clock
  nextUuid : s.nextUuid ≤ s'.nextUuid
  users : ∃ g : User → User, s'.db.users.rows = s.db.users.rows.map g ∧
    ∀ u, (g u).id = u.id ∧ u.sessionSv ≤ (g u).sessionSv
  sessions : ∃ g : Session → Session, s'.db.sessions.rows = s.db.sessions.rows.map g ∧
    ∀ x, (g x).sessionId = x.sessionId ∧ (g x).userId = x.userId
  refreshTokens : ∃ g : RefreshToken → RefreshToken,
    s'.db.refreshTokens.rows = s.db.refreshTokens.rows.map g ∧
    ∀ rt : RefreshToken, rt.Revises (g rt)
  issuedAccess : s'.db.issuedAccess = s.db.issuedAccess
  issuedRefresh : s'.db.issuedRefresh = s.db.issuedRefresh
  tokenBlacklist : Renews env s.clock s'.clock s.redis.tokenBlacklist s'.redis.tokenBlacklist
  sessionRevoked : Renews env s.clock s'.clock s.redis.sessionRevoked s'.redis.sessionRevoked
  userSuspended : s'.redis.userSuspended = s.redis.userSuspended

section

variable {env : AuthEnv} {ctx : RequestContext} {s s' s₁ s₂ s₃ : AuthState}
variable {now now' : Instant} {m m' : Id → Option Instant}

theorem Renews.refl (m : Id → Option Instant) : Renews env now now' m m := fun _ => .inl rfl

theorem Renews.trans {now'' : Instant} {m'' : Id → Option Instant} (h : Renews env now now' m m')
    (h' : Renews env now' now'' m' m'') (hnow : now ≤ now') (hnow' : now' ≤ now'') :
    Renews env now now'' m m'' := by
  intro k
  rcases h' k with hk' | ⟨e, hk', hle, hge⟩
  · rcases h k with hk | ⟨e, hk, hle, hge⟩
    · exact .inl (hk'.trans hk)
    · exact .inr ⟨e, hk'.trans hk, hle, hge.trans (by gcongr)⟩
  · exact .inr ⟨e, hk', le_trans (by gcongr) hle, hge⟩

theorem RefreshToken.Revises.refl (rt : RefreshToken) : rt.Revises rt :=
  ⟨rfl, rfl, rfl, rfl, rfl, id⟩

theorem RefreshToken.Revises.trans {rt rt' rt'' : RefreshToken} (h : rt.Revises rt')
    (h' : rt'.Revises rt'') : rt.Revises rt'' :=
  ⟨h'.tokenHash.trans h.tokenHash, h'.userId.trans h.userId, h'.accessJti.trans h.accessJti,
    h'.sessionId.trans h.sessionId, h'.expiresAt.trans h.expiresAt,
    fun hr => h'.revoked (h.revoked hr)⟩

theorem Keeps.refl (s : AuthState) : Keeps env s s :=
  ⟨le_rfl, le_rfl, ⟨id, by simp, fun _ => ⟨rfl, le_rfl⟩⟩, ⟨id, by simp, fun _ => ⟨rfl, rfl⟩⟩,
    ⟨id, by simp, .refl⟩, rfl, rfl, .refl _, .refl _, rfl⟩

theorem Keeps.trans (h : Keeps env s₁ s₂) (h' : Keeps env s₂ s₃) : Keeps env s₁ s₃ := by
  obtain ⟨gu, hu, hgu⟩ := h.users
  obtain ⟨gu', hu', hgu'⟩ := h'.users
  obtain ⟨gs, hs, hgs⟩ := h.sessions
  obtain ⟨gs', hs', hgs'⟩ := h'.sessions
  obtain ⟨gr, hr, hgr⟩ := h.refreshTokens
  obtain ⟨gr', hr', hgr'⟩ := h'.refreshTokens
  exact {
    clock := h.clock.trans h'.clock
    nextUuid := le_trans h.nextUuid h'.nextUuid
    users := ⟨gu' ∘ gu, by rw [hu', hu, List.map_map], fun u =>
      ⟨(hgu' _).1.trans (hgu u).1, (hgu u).2.trans (hgu' _).2⟩⟩
    sessions := ⟨gs' ∘ gs, by rw [hs', hs, List.map_map], fun x =>
      ⟨(hgs' _).1.trans (hgs x).1, (hgs' _).2.trans (hgs x).2⟩⟩
    refreshTokens := ⟨gr' ∘ gr, by rw [hr', hr, List.map_map], fun rt =>
      (hgr rt).trans (hgr' _)⟩
    issuedAccess := h'.issuedAccess.trans h.issuedAccess
    issuedRefresh := h'.issuedRefresh.trans h.issuedRefresh
    tokenBlacklist := h.tokenBlacklist.trans h'.tokenBlacklist h.clock h'.clock
    sessionRevoked := h.sessionRevoked.trans h'.sessionRevoked h.clock h'.clock
    userSuspended := h'.userSuspended.trans h.userSuspended }

instance : Std.Refl (Keeps env) := ⟨Keeps.refl⟩

instance : IsTrans AuthState (Keeps env) := ⟨fun _ _ _ => Keeps.trans⟩

/-! ### Writes -/

variable (env) in
theorem keeps_tick (elapsed : ℕ) (s : AuthState) : Keeps env s (s.tick elapsed) :=
  { (Keeps.refl s : Keeps env s s) with
    clock := by
      have hclock : (s.tick elapsed).clock = s.clock + elapsed := rfl
      rw [hclock]
      linarith
    tokenBlacklist := .refl _
    sessionRevoked := .refl _ }

theorem keeps_revokeTokensWhere (now : Instant) (p : RefreshToken → Bool) (s : AuthState) :
    Keeps env s (s.mapDb (AuthDb.revokeTokensWhere now p)) :=
  { Keeps.refl s with
    refreshTokens := ⟨_, rfl, fun rt => by
      split
      · exact ⟨rfl, rfl, rfl, rfl, rfl, fun _ => rfl⟩
      · exact .refl rt⟩ }

theorem keeps_revokeSessionsWhere (now : Instant) (p : Session → Bool) (s : AuthState) :
    Keeps env s (s.mapDb (AuthDb.revokeSessionsWhere now p)) :=
  { Keeps.refl s with
    sessions := ⟨_, rfl, fun x => by split <;> exact ⟨rfl, rfl⟩⟩ }

theorem keeps_modifyUser (userId : Id) {f : User → User} (hf : ∀ u, (f u).id = u.id)
    (hsv : ∀ u, u.sessionSv ≤ (f u).sessionSv) (s : AuthState) :
    Keeps env s (s.mapDb (AuthDb.modifyUser userId f hf)) :=
  { Keeps.refl s with
    users := ⟨_, rfl, fun u => by
      split
      · exact ⟨hf u, hsv u⟩
      · exact ⟨rfl, le_rfl⟩⟩ }

theorem keeps_touchSession (sid : Id) (now : Instant) (s : AuthState) :
    Keeps env s (s.mapDb (AuthDb.touchSession env ctx sid now)) :=
  { Keeps.refl s with
    sessions := ⟨_, rfl, fun x => by split <;> exact ⟨rfl, rfl⟩⟩ }

theorem keeps_activateDriverOnLogin (userId : Id) (s : AuthState) :
    Keeps env s (s.mapDb (AuthDb.activateDriverOnLogin userId)) :=
  { Keeps.refl s with }

theorem renews_update (now : Instant) (m : Id → Option Instant) (k : Id) :
    Renews env now now m (Function.update m k (some (now + env.accessTtl))) := by
  intro j
  by_cases hj : j = k
  · subst hj
    exact .inr ⟨_, Function.update_self .., le_rfl, le_rfl⟩
  · exact .inl (Function.update_of_ne hj ..)

theorem keeps_blacklistAccessJti (jti : Id) (s : AuthState) :
    Keeps env s (s.blacklistAccessJti env jti) :=
  { (Keeps.refl s : Keeps env s s) with
    tokenBlacklist := renews_update s.clock s.redis.tokenBlacklist jti
    sessionRevoked := .refl _ }

theorem keeps_markSessionRevoked (sid : Id) (s : AuthState) :
    Keeps env s (s.markSessionRevoked env sid) :=
  { (Keeps.refl s : Keeps env s s) with
    sessionRevoked := renews_update s.clock s.redis.sessionRevoked sid
    tokenBlacklist := .refl _ }

theorem keeps_foldl {α : Type} {f : AuthState → α → AuthState}
    (hf : ∀ s a, Keeps env s (f s a)) (as : List α) (s : AuthState) :
    Keeps env s (as.foldl f s) := by
  induction as generalizing s with
  | nil => exact .refl s
  | cons a as ih => exact (hf s a).trans (ih _)

/-- What a rollback leaves. -/
theorem keeps_rollback (h : Keeps env s s') : Keeps env s (rollback s s') :=
  { (Keeps.refl s : Keeps env s s) with
    clock := h.clock
    nextUuid := h.nextUuid
    tokenBlacklist := h.tokenBlacklist
    sessionRevoked := h.sessionRevoked
    userSuspended := h.userSuspended }

/-! ### What the tables know -/

/-- What the rows and the tokens that were handed out have to do with each other. -/
structure WellKept (env : AuthEnv) (s : AuthState) : Prop where
  sessionId_lt : ∀ x ∈ s.db.sessions.rows, x.sessionId < s.nextUuid
  row_session : ∀ rt ∈ s.db.refreshTokens.rows, ∃ x ∈ s.db.sessions.rows,
    rt.sessionId = some x.sessionId ∧ rt.userId = x.userId
  jwt_row : ∀ jwt ∈ s.db.issuedRefresh, ∃ rt ∈ s.db.refreshTokens.rows,
    rt.tokenHash = env.hashToken jwt ∧ rt.userId = jwt.sub
  tok_session : ∀ tok ∈ s.db.issuedAccess, ∃ x ∈ s.db.sessions.rows,
    tok.sid = some x.sessionId ∧ tok.sub = x.userId
  tok_exp : ∀ tok ∈ s.db.issuedAccess, tok.exp * second ≤ s.clock + env.accessTtl
  tok_sv : ∀ tok ∈ s.db.issuedAccess, ∃ u ∈ s.db.users.rows, ∃ sv, u.id = tok.sub ∧
    tok.sv = some sv ∧ sv ≤ u.sessionSv
  tok_jti_lt : ∀ tok ∈ s.db.issuedAccess, tok.jti < s.nextUuid
  row_jti_lt : ∀ rt ∈ s.db.refreshTokens.rows, ∀ jti ∈ rt.accessJti, jti < s.nextUuid
  pair : ∀ rt ∈ s.db.refreshTokens.rows, ∀ tok ∈ s.db.issuedAccess,
    rt.accessJti = some tok.jti → rt.sessionId = tok.sid
  blacklist_le : ∀ jti e, s.redis.tokenBlacklist jti = some e → e ≤ s.clock + env.accessTtl
  revoked_le : ∀ sid e, s.redis.sessionRevoked sid = some e → e ≤ s.clock + env.accessTtl

theorem Renews.bounded (h : Renews env now now' m m') (hnow : now ≤ now')
    (hm : ∀ k e, m k = some e → e ≤ now + env.accessTtl) :
    ∀ k e, m' k = some e → e ≤ now' + env.accessTtl := by
  intro k e hk
  rcases h k with hsame | ⟨e', hnew, -, hle⟩
  · exact (hm k e (hsame ▸ hk)).trans (by gcongr)
  · obtain rfl := Option.some.inj (hnew.symm.trans hk)
    exact hle

/-- What ends nothing early keeps the tables in order. -/
theorem WellKept.keeps (hs : WellKept env s) (h : Keeps env s s') : WellKept env s' := by
  obtain ⟨gu, hu, hgu⟩ := h.users
  obtain ⟨gs, hsessions, hgs⟩ := h.sessions
  obtain ⟨gr, hrows, hgr⟩ := h.refreshTokens
  have hsession : ∀ {sid userId : Id}, (∃ x ∈ s.db.sessions.rows, some sid = some x.sessionId ∧
      userId = x.userId) → ∃ x ∈ s'.db.sessions.rows, some sid = some x.sessionId ∧
      userId = x.userId := by
    rintro sid userId ⟨x, hx, hid, huser⟩
    refine ⟨gs x, hsessions ▸ List.mem_map_of_mem hx, ?_, ?_⟩
    · rw [(hgs x).1, hid]
    · rw [(hgs x).2, huser]
  have hnow : s.clock + env.accessTtl ≤ s'.clock + env.accessTtl := by
    have hclock := h.clock
    gcongr
  constructor
  · intro x hx
    rw [hsessions] at hx
    obtain ⟨x₀, hx₀, rfl⟩ := List.mem_map.mp hx
    rw [(hgs x₀).1]
    exact lt_of_lt_of_le (hs.sessionId_lt x₀ hx₀) h.nextUuid
  · intro rt hrt
    rw [hrows] at hrt
    obtain ⟨rt₀, hrt₀, rfl⟩ := List.mem_map.mp hrt
    obtain ⟨x, hx, hid, huser⟩ := hs.row_session rt₀ hrt₀
    rw [(hgr rt₀).sessionId, (hgr rt₀).userId, hid]
    exact hsession ⟨x, hx, rfl, huser⟩
  · intro jwt hjwt
    rw [h.issuedRefresh] at hjwt
    obtain ⟨rt, hrt, hhash, huser⟩ := hs.jwt_row jwt hjwt
    exact ⟨gr rt, hrows ▸ List.mem_map_of_mem hrt, (hgr rt).tokenHash.trans hhash,
      (hgr rt).userId.trans huser⟩
  · intro tok htok
    rw [h.issuedAccess] at htok
    obtain ⟨x, hx, hid, huser⟩ := hs.tok_session tok htok
    rw [hid]
    exact hsession ⟨x, hx, rfl, huser⟩
  · intro tok htok
    rw [h.issuedAccess] at htok
    exact (hs.tok_exp tok htok).trans hnow
  · intro tok htok
    rw [h.issuedAccess] at htok
    obtain ⟨u, hmem, sv, hid, htoksv, hle⟩ := hs.tok_sv tok htok
    exact ⟨gu u, hu ▸ List.mem_map_of_mem hmem, sv, (hgu u).1.trans hid, htoksv,
      hle.trans (hgu u).2⟩
  · intro tok htok
    rw [h.issuedAccess] at htok
    exact lt_of_lt_of_le (hs.tok_jti_lt tok htok) h.nextUuid
  · intro rt hrt jti hjti
    rw [hrows] at hrt
    obtain ⟨rt₀, hrt₀, rfl⟩ := List.mem_map.mp hrt
    rw [(hgr rt₀).accessJti] at hjti
    exact lt_of_lt_of_le (hs.row_jti_lt rt₀ hrt₀ jti hjti) h.nextUuid
  · intro rt hrt tok htok hjti
    rw [hrows] at hrt
    obtain ⟨rt₀, hrt₀, rfl⟩ := List.mem_map.mp hrt
    rw [h.issuedAccess] at htok
    rw [(hgr rt₀).accessJti] at hjti
    rw [(hgr rt₀).sessionId]
    exact hs.pair rt₀ hrt₀ tok htok hjti
  · exact h.tokenBlacklist.bounded h.clock hs.blacklist_le
  · exact h.sessionRevoked.bounded h.clock hs.revoked_le

/-! ### Open sessions -/

/-- A session for which tokens may still be issued: a new one, or one with an active refresh
token. -/
def Open (s : AuthState) (sid : Id) : Prop :=
  s.nextUuid ≤ sid ∨
    ∃ rt ∈ s.db.refreshTokens.rows, rt.sessionId = some sid ∧ rt.isActive s.clock = true

/-- An entry of a marker stays at least as long. -/
def Lasts (m m' : Id → Option Instant) : Prop :=
  ∀ k e, m k = some e → ∃ e', m' k = some e' ∧ e ≤ e'

/-- What a request may do to sessions: tokens are issued for open sessions only, and nothing
that was ended comes back. -/
structure Evolves (s s' : AuthState) : Prop where
  clock : s.clock ≤ s'.clock
  nextUuid : s.nextUuid ≤ s'.nextUuid
  users : ∀ u ∈ s.db.users.rows, ∃ u' ∈ s'.db.users.rows, u'.id = u.id ∧
    u.sessionSv ≤ u'.sessionSv
  rows : ∀ rt' ∈ s'.db.refreshTokens.rows,
    (∃ rt ∈ s.db.refreshTokens.rows, rt.Revises rt') ∨
      ∃ sid, rt'.sessionId = some sid ∧ Open s sid
  toks : ∀ tok ∈ s'.db.issuedAccess, tok ∈ s.db.issuedAccess ∨
    ∃ sid, tok.sid = some sid ∧ Open s sid
  tokenBlacklist : Lasts s.redis.tokenBlacklist s'.redis.tokenBlacklist
  sessionRevoked : Lasts s.redis.sessionRevoked s'.redis.sessionRevoked
  userSuspended : s'.redis.userSuspended = s.redis.userSuspended

theorem Renews.lasts (h : Renews env now now' m m')
    (hm : ∀ k e, m k = some e → e ≤ now + env.accessTtl) : Lasts m m' := by
  intro k e hk
  rcases h k with hsame | ⟨e', hnew, hle, -⟩
  · exact ⟨e, hsame.trans hk, le_rfl⟩
  · exact ⟨e', hnew, (hm k e hk).trans hle⟩

theorem Keeps.evolves (h : Keeps env s s') (hs : WellKept env s) : Evolves s s' := by
  obtain ⟨gu, hu, hgu⟩ := h.users
  obtain ⟨gr, hrows, hgr⟩ := h.refreshTokens
  refine ⟨h.clock, h.nextUuid, fun u hmem => ?_, fun rt' hrt' => .inl ?_, fun tok htok => .inl ?_,
    h.tokenBlacklist.lasts hs.blacklist_le, h.sessionRevoked.lasts hs.revoked_le,
    h.userSuspended⟩
  · exact ⟨gu u, hu ▸ List.mem_map_of_mem hmem, hgu u⟩
  · rw [hrows] at hrt'
    obtain ⟨rt, hrt, rfl⟩ := List.mem_map.mp hrt'
    exact ⟨rt, hrt, hgr rt⟩
  · rwa [h.issuedAccess] at htok

theorem RefreshToken.Revises.isActive {rt rt' : RefreshToken} (h : rt.Revises rt')
    (hnow : now ≤ now') (hactive : rt'.isActive now' = true) : rt.isActive now = true := by
  simp only [RefreshToken.isActive, Bool.and_eq_true, Bool.not_eq_true', decide_eq_true_eq,
    h.expiresAt] at hactive ⊢
  refine ⟨?_, hnow.trans_lt hactive.2⟩
  by_contra hrevoked
  exact absurd (h.revoked (by simpa using hrevoked)) (by simp [hactive.1])

/-- A session that is open later was open before. -/
theorem Evolves.open_of_open (h : Evolves s s') {sid : Id} (hopen : Open s' sid) :
    Open s sid := by
  rcases hopen with hnew | ⟨rt', hrt', hsid, hactive⟩
  · exact .inl (le_trans h.nextUuid hnew)
  · rcases h.rows rt' hrt' with ⟨rt, hrt, hrev⟩ | ⟨sid', hsid', hopen⟩
    · exact .inr ⟨rt, hrt, hrev.sessionId.symm.trans hsid, hrev.isActive h.clock hactive⟩
    · obtain rfl := Option.some.inj (hsid'.symm.trans hsid)
      exact hopen

theorem Lasts.trans {m'' : Id → Option Instant} (h : Lasts m m') (h' : Lasts m' m'') :
    Lasts m m'' := by
  intro k e hk
  obtain ⟨e', hk', hle⟩ := h k e hk
  obtain ⟨e'', hk'', hle'⟩ := h' k e' hk'
  exact ⟨e'', hk'', hle.trans hle'⟩

theorem Evolves.trans (h : Evolves s₁ s₂) (h' : Evolves s₂ s₃) : Evolves s₁ s₃ := by
  refine ⟨h.clock.trans h'.clock, le_trans h.nextUuid h'.nextUuid, fun u hu => ?_,
    fun rt hrt => ?_, fun tok htok => ?_, h.tokenBlacklist.trans h'.tokenBlacklist,
    h.sessionRevoked.trans h'.sessionRevoked, h'.userSuspended.trans h.userSuspended⟩
  · obtain ⟨u₂, hu₂, hid, hle⟩ := h.users u hu
    obtain ⟨u₃, hu₃, hid', hle'⟩ := h'.users u₂ hu₂
    exact ⟨u₃, hu₃, hid'.trans hid, hle.trans hle'⟩
  · rcases h'.rows rt hrt with ⟨rt₂, hrt₂, hrev⟩ | ⟨sid, hsid, hopen⟩
    · rcases h.rows rt₂ hrt₂ with ⟨rt₁, hrt₁, hrev'⟩ | ⟨sid, hsid, hopen⟩
      · exact .inl ⟨rt₁, hrt₁, hrev'.trans hrev⟩
      · exact .inr ⟨sid, hrev.sessionId.trans hsid, hopen⟩
    · exact .inr ⟨sid, hsid, h.open_of_open hopen⟩
  · rcases h'.toks tok htok with htok₂ | ⟨sid, hsid, hopen⟩
    · exact h.toks tok htok₂
    · exact .inr ⟨sid, hsid, h.open_of_open hopen⟩

/-! ### Opening sessions and issuing tokens -/

/-- Drawing identifiers changes nothing else. -/
theorem keeps_nextUuid {n : Id} (hn : s.nextUuid ≤ n) : Keeps env s { s with nextUuid := n } :=
  { (Keeps.refl s : Keeps env s s) with nextUuid := hn }

variable (ctx) in
theorem withSession_rows (hs : WellKept env s) (userId : Id) :
    (withSession env ctx userId s).db.sessions.rows =
      s.db.sessions.rows ++ [nextSession env ctx userId s] := by
  refine Table.rows_insert_of_notMem fun hmem => ?_
  obtain ⟨x, hx, hid⟩ := List.mem_map.mp hmem
  exact absurd hid (ne_of_lt (hs.sessionId_lt x hx))

/-- A session is opened under a new identifier. -/
theorem WellKept.withSession (hs : WellKept env s) (userId : Id) :
    WellKept env (withSession env ctx userId s) := by
  have hrows := withSession_rows ctx hs userId
  have hle : s.nextUuid ≤ (Auth.withSession env ctx userId s).nextUuid := Nat.le_succ _
  have hsession : ∀ x ∈ s.db.sessions.rows,
      x ∈ (Auth.withSession env ctx userId s).db.sessions.rows :=
    fun x hx => hrows ▸ List.mem_append_left _ hx
  refine {
    sessionId_lt := fun x hx => ?_
    row_session := fun rt hrt => ?_
    jwt_row := hs.jwt_row
    tok_session := fun tok htok => ?_
    tok_exp := hs.tok_exp
    tok_sv := hs.tok_sv
    tok_jti_lt := fun tok htok => lt_of_lt_of_le (hs.tok_jti_lt tok htok) hle
    row_jti_lt := fun rt hrt jti hjti => lt_of_lt_of_le (hs.row_jti_lt rt hrt jti hjti) hle
    pair := hs.pair
    blacklist_le := hs.blacklist_le
    revoked_le := hs.revoked_le }
  · rw [hrows] at hx
    rcases List.mem_append.mp hx with hx | hx
    · exact lt_of_lt_of_le (hs.sessionId_lt x hx) hle
    · obtain rfl := List.mem_singleton.mp hx
      exact Nat.lt_succ_self s.nextUuid
  · obtain ⟨x, hx, hfacts⟩ := hs.row_session rt hrt
    exact ⟨x, hsession x hx, hfacts⟩
  · obtain ⟨x, hx, hfacts⟩ := hs.tok_session tok htok
    exact ⟨x, hsession x hx, hfacts⟩

theorem evolves_withSession (userId : Id) : Evolves s (withSession env ctx userId s) where
  clock := le_rfl
  nextUuid := Nat.le_succ _
  users u hu := ⟨u, hu, rfl, le_rfl⟩
  rows rt hrt := .inl ⟨rt, hrt, .refl rt⟩
  toks _ htok := .inl htok
  tokenBlacklist _ e he := ⟨e, he, le_rfl⟩
  sessionRevoked _ e he := ⟨e, he, le_rfl⟩
  userSuspended := rfl

section Pair

variable {user : User} {clientType : ClientType} {sid : Id}
variable (sid) in
theorem withPair_rows
    (hfree : s.db.refreshTokens.find? (env.hashToken (nextRefreshJwt env user clientType s)) =
      none) :
    (withPair env user clientType sid s).db.refreshTokens.rows =
      s.db.refreshTokens.rows ++ [nextRefreshToken env user clientType sid s] :=
  Table.rows_insert_of_notMem (Table.find?_eq_none_iff.mp hfree)

theorem exp_mul_second_le (t : Instant) : t / second * second ≤ t := by
  exact Int.ediv_mul_le t (by decide)

/-- A pair of tokens is issued for a session of the user. -/
theorem WellKept.withPair (hs : WellKept env s)
    (hfree : s.db.refreshTokens.find? (env.hashToken (nextRefreshJwt env user clientType s)) =
      none)
    (hsession : ∃ x ∈ s.db.sessions.rows, x.sessionId = sid ∧ x.userId = user.id)
    (huser : ∃ u ∈ s.db.users.rows, u.id = user.id ∧ user.sessionSv ≤ u.sessionSv) :
    WellKept env (withPair env user clientType sid s) := by
  obtain ⟨x, hx, hxid, hxuser⟩ := hsession
  obtain ⟨u, hu, huid, husv⟩ := huser
  have hrows := withPair_rows sid hfree
  have hle : s.nextUuid ≤ (Auth.withPair env user clientType sid s).nextUuid :=
    Nat.le_add_right _ _
  have hnew : s.nextUuid < (Auth.withPair env user clientType sid s).nextUuid :=
    Nat.lt_add_of_pos_right (by decide)
  have hold : ∀ rt ∈ s.db.refreshTokens.rows,
      rt ∈ (Auth.withPair env user clientType sid s).db.refreshTokens.rows :=
    fun rt hrt => hrows ▸ List.mem_append_left _ hrt
  have htoks : ∀ tok ∈ (Auth.withPair env user clientType sid s).db.issuedAccess,
      tok ∈ s.db.issuedAccess ∨ tok = nextAccessToken env user clientType sid s := by
    intro tok htok
    exact (List.mem_append.mp htok).imp_right List.mem_singleton.mp
  have hcases : ∀ rt ∈ (Auth.withPair env user clientType sid s).db.refreshTokens.rows,
      rt ∈ s.db.refreshTokens.rows ∨ rt = nextRefreshToken env user clientType sid s := by
    intro rt hrt
    rw [hrows] at hrt
    exact (List.mem_append.mp hrt).imp_right List.mem_singleton.mp
  refine {
    sessionId_lt := fun x hx => lt_of_lt_of_le (hs.sessionId_lt x hx) hle
    row_session := fun rt hrt => ?_
    jwt_row := fun jwt hjwt => ?_
    tok_session := fun tok htok => ?_
    tok_exp := fun tok htok => ?_
    tok_sv := fun tok htok => ?_
    tok_jti_lt := fun tok htok => ?_
    row_jti_lt := fun rt hrt jti hjti => ?_
    pair := fun rt hrt tok htok hjti => ?_
    blacklist_le := hs.blacklist_le
    revoked_le := hs.revoked_le }
  · rcases hcases rt hrt with hrt | rfl
    · exact hs.row_session rt hrt
    · exact ⟨x, hx, congrArg some hxid.symm, hxuser.symm⟩
  · rcases List.mem_append.mp hjwt with hjwt | hjwt
    · obtain ⟨rt, hrt, hfacts⟩ := hs.jwt_row jwt hjwt
      exact ⟨rt, hold rt hrt, hfacts⟩
    · obtain rfl := List.mem_singleton.mp hjwt
      exact ⟨nextRefreshToken env user clientType sid s, by simp [hrows], rfl, rfl⟩
  · rcases htoks tok htok with htok | rfl
    · exact hs.tok_session tok htok
    · exact ⟨x, hx, congrArg some hxid.symm, hxuser.symm⟩
  · rcases htoks tok htok with htok | rfl
    · exact hs.tok_exp tok htok
    · exact exp_mul_second_le _
  · rcases htoks tok htok with htok | rfl
    · exact hs.tok_sv tok htok
    · exact ⟨u, hu, user.sessionSv, huid, rfl, husv⟩
  · rcases htoks tok htok with htok | rfl
    · exact lt_of_lt_of_le (hs.tok_jti_lt tok htok) hle
    · exact hnew
  · rcases hcases rt hrt with hrt | rfl
    · exact lt_of_lt_of_le (hs.row_jti_lt rt hrt jti hjti) hle
    · obtain rfl := Option.some.inj hjti
      exact hnew
  -- a new identifier pairs the new row with the new token only
  · rcases hcases rt hrt with hrt | rfl <;> rcases htoks tok htok with htok | rfl
    · exact hs.pair rt hrt tok htok hjti
    · exact absurd (hs.row_jti_lt rt hrt _ hjti) (lt_irrefl _)
    · exact absurd (hs.tok_jti_lt tok htok) (by rw [← Option.some.inj hjti]; exact lt_irrefl _)
    · rfl

theorem Evolves.withPair {s₀ : AuthState} (h : Evolves s₀ s) (hopen : Open s₀ sid)
    (hfree : s.db.refreshTokens.find? (env.hashToken (nextRefreshJwt env user clientType s)) =
      none) : Evolves s₀ (withPair env user clientType sid s) := by
  refine { h with
    nextUuid := le_trans h.nextUuid (Nat.le_add_right _ _)
    rows := fun rt hrt => ?_
    toks := fun tok htok => ?_ }
  · rw [withPair_rows _ hfree] at hrt
    rcases List.mem_append.mp hrt with hrt | hrt
    · exact h.rows rt hrt
    · obtain rfl := List.mem_singleton.mp hrt
      exact .inr ⟨sid, rfl, hopen⟩
  · rcases List.mem_append.mp htok with htok | htok
    · exact h.toks tok htok
    · obtain rfl := List.mem_singleton.mp htok
      exact .inr ⟨sid, rfl, hopen⟩

end Pair

/-! ### Requests that raise -/

/-- Redis and the clock are as they were; identifiers may have been drawn. -/
structure Draws (s s' : AuthState) : Prop where
  redis : s'.redis = s.redis
  clock : s'.clock = s.clock
  nextUuid : s.nextUuid ≤ s'.nextUuid

instance : Std.Refl Draws := ⟨fun _ => ⟨rfl, rfl, le_rfl⟩⟩

instance : IsTrans AuthState Draws :=
  ⟨fun _ _ _ h h' => ⟨h'.redis.trans h.redis, h'.clock.trans h.clock,
    le_trans h.nextUuid h'.nextUuid⟩⟩

open Handler

theorem draws_writeDb (f : AuthDb → AuthDb) : Moves Draws (writeDb f) :=
  moves_write fun _ => ⟨rfl, rfl, le_rfl⟩

theorem draws_currentTime : Moves Draws currentTime := moves_query _

theorem draws_uuid4 : Moves Draws uuid4 := fun _ => ⟨rfl, rfl, Nat.le_succ _⟩

theorem draws_createSession (userId : Id) : Moves Draws (createSession env ctx userId) :=
  moves_bind draws_currentTime fun _ => moves_bind draws_uuid4 fun _ =>
    moves_bind (moves_lookup _) fun _ => moves_bind (draws_writeDb _) fun _ => moves_pure _

theorem draws_limitActiveSessions (userId : Id) : Moves Draws (limitActiveSessions userId) :=
  moves_bind draws_currentTime fun _ => moves_bind (moves_query _) fun _ =>
    moves_when fun _ => draws_writeDb _

theorem draws_issuePair (user : User) (clientType : ClientType) (sid : Id) :
    Moves Draws (issuePair env user clientType sid) := by
  refine moves_bind draws_currentTime fun _ => moves_bind ?_ fun _ => moves_bind ?_ ?_
  · exact moves_bind draws_currentTime fun _ => moves_bind draws_uuid4 fun _ => moves_pure _
  · exact moves_bind draws_currentTime fun _ => moves_bind draws_uuid4 fun _ => moves_pure _
  · rintro ⟨raw, tokenHash, expiresAt⟩
    refine moves_bind (moves_bind (moves_lookup _) fun _ => draws_writeDb _) fun _ => ?_
    exact moves_bind (draws_writeDb _) fun _ => moves_pure _

theorem draws_login (email password : String) : Moves Draws (login env ctx email password) := by
  refine moves_bind draws_currentTime fun _ => moves_bind (moves_lookup _) fun user =>
    moves_bind (moves_check _) fun _ => moves_bind (moves_check _) fun _ =>
    moves_bind (moves_lookup _) fun _ => moves_bind (moves_check _) fun _ => ?_
  split
  · refine moves_bind draws_currentTime fun _ => moves_bind ?_ fun _ => moves_bind ?_ fun _ =>
      moves_bind ?_ fun _ => moves_bind ?_ fun _ => moves_bind ?_ fun _ =>
      moves_bind (draws_writeDb _) fun _ => moves_pure _
    · exact moves_when fun _ => draws_writeDb _
    · exact moves_when fun _ => draws_writeDb _
    · exact moves_when fun _ => draws_writeDb _
    · exact moves_when fun _ => moves_bind (moves_lookup _) fun _ =>
        moves_bind (moves_check _) fun _ => moves_when fun _ => draws_writeDb _
    · exact moves_bind draws_currentTime fun _ => moves_bind (draws_limitActiveSessions _) fun _ =>
        moves_bind (draws_createSession _) fun _ => moves_bind (draws_issuePair _ _ _) fun _ =>
        moves_bind (draws_writeDb _) fun _ => moves_pure _
  · refine moves_bind ?_ fun _ => moves_raise _
    exact moves_bind draws_currentTime fun _ => moves_bind (draws_writeDb _) fun _ =>
      moves_bind (moves_query _) fun _ => moves_when fun _ => draws_writeDb _

theorem draws_sessionOf (userId : Id) (record : RefreshToken) :
    Moves Draws (sessionOf env ctx userId record) := by
  unfold sessionOf
  split
  · exact moves_pure _
  · exact moves_bind (draws_createSession _) fun _ => moves_bind (draws_writeDb _) fun _ =>
      moves_pure _

theorem draws_refreshTokens (raw : RefreshJwt) :
    Moves Draws (refreshTokens env ctx raw) := by
  refine moves_bind draws_currentTime fun _ => moves_bind ?_ fun record => moves_bind ?_ fun _ =>
    moves_bind (moves_check _) fun _ => moves_bind (moves_check _) fun _ =>
    moves_bind (moves_lookup _) fun user => moves_bind (moves_lookup _) fun _ =>
    moves_bind (moves_check _) fun _ => moves_bind (draws_sessionOf _ _) fun _ =>
    moves_bind (draws_limitActiveSessions _) fun _ => moves_bind (draws_issuePair _ _ _) fun _ =>
    moves_bind (draws_writeDb _) fun _ => moves_pure _
  · exact moves_bind draws_currentTime fun _ => moves_bind (moves_lookup _) fun _ =>
      moves_bind (moves_lookup _) fun _ => moves_bind (moves_lookup _) fun _ =>
      moves_bind (moves_check _) fun _ =>
      moves_bind (moves_when fun _ => moves_bind (draws_writeDb _) fun _ => moves_raise _)
        fun _ => moves_pure _
  · exact moves_bind draws_currentTime fun _ => moves_bind (moves_query _) fun _ =>
      moves_bind (draws_writeDb _) fun _ => moves_pure _

/-! ### Logins and refreshes -/

/-- Tables in order, reached without bringing anything back. -/
structure Reached (env : AuthEnv) (s s' : AuthState) : Prop where
  wellKept : WellKept env s'
  evolves : Evolves s s'

theorem Reached.keeps (h : Reached env s₁ s₂) (hkeeps : Keeps env s₂ s₃) : Reached env s₁ s₃ :=
  ⟨h.wellKept.keeps hkeeps, h.evolves.trans (hkeeps.evolves h.wellKept)⟩

theorem WellKept.reached (hs : WellKept env s) (h : Keeps env s s') : Reached env s s' :=
  ⟨hs.keeps h, h.evolves hs⟩

variable (env) in
theorem keeps_limitedDb (userId : Id) (now : Instant) (s : AuthState) :
    Keeps env s (s.mapDb (limitedDb userId now)) := by
  rw [AuthState.mapDb, limitedDb]
  split
  · exact keeps_revokeTokensWhere now _ s
  · exact .refl s

variable (env ctx) in
theorem keeps_checkedDb (user : User) (password : String) (s : AuthState) :
    Keeps env s (s.mapDb (checkedDb env ctx user password)) := by
  have hprepared : Keeps env s (s.mapDb (preparedDb env user password)) :=
    keeps_modifyUser user.id _ (fun u => (preparedUser_sessionSv u).ge) s
  refine hprepared.trans ?_
  change Keeps env _ ((s.mapDb (preparedDb env user password)).mapDb (driverDb ctx user))
  rw [AuthState.mapDb.eq_def (driverDb ctx user), driverDb, withDriver]
  split_ifs
  · exact keeps_activateDriverOnLogin user.id _
  · exact .refl _
  · exact .refl _

/-- The user, as far as the version of its sessions goes. -/
def HasUser (user : User) (s : AuthState) : Prop :=
  ∃ u ∈ s.db.users.rows, u.id = user.id ∧ user.sessionSv ≤ u.sessionSv

theorem HasUser.keeps {user : User} (huser : HasUser user s) (h : Keeps env s s') :
    HasUser user s' := by
  obtain ⟨u, hu, hid, hsv⟩ := huser
  obtain ⟨g, hrows, hg⟩ := h.users
  exact ⟨g u, hrows ▸ List.mem_map_of_mem hu, (hg u).1.trans hid, hsv.trans (hg u).2⟩

theorem hasUser_of_mem {user : User} (h : user ∈ s.db.users.rows) : HasUser user s :=
  ⟨user, h, rfl, le_rfl⟩

theorem reached_withLogin {user : User} (hs : WellKept env s) (huser : HasUser user s)
    (hfree : (limitedDb user.id s.clock s.db).refreshTokens.find?
      (env.hashToken (nextRefreshJwt env user ctx.clientType (withOpened env ctx user.id s))) =
      none) : Reached env s (withLogin env ctx user s) := by
  have hlimited := keeps_limitedDb env user.id s.clock s
  have hkept := hs.keeps hlimited
  have hopened : WellKept env (withOpened env ctx user.id s) := hkept.withSession user.id
  have hevolves : Evolves s (withOpened env ctx user.id s) :=
    (hlimited.evolves hs).trans (evolves_withSession user.id)
  have hsession : ∃ x ∈ (withOpened env ctx user.id s).db.sessions.rows,
      x.sessionId = s.nextUuid ∧ x.userId = user.id := by
    refine ⟨nextSession env ctx user.id (s.mapDb (limitedDb user.id s.clock)), ?_, rfl, rfl⟩
    rw [withOpened, withSession_rows _ hkept]
    exact List.mem_append_right _ (List.mem_singleton_self _)
  have huser' : HasUser user (s.mapDb (limitedDb user.id s.clock)) := huser.keeps hlimited
  have hpair : Reached env s
      (withPair env user ctx.clientType s.nextUuid (withOpened env ctx user.id s)) :=
    ⟨hopened.withPair hfree hsession huser',
      hevolves.withPair (.inl le_rfl) hfree⟩
  exact hpair.keeps (keeps_touchSession _ _ _)

theorem reached_login {email password : String} {tokens : TokenData} (hs : WellKept env s)
    (h : login env ctx email password s = (.ok tokens, s')) : Reached env s s' := by
  obtain ⟨user, hallowed, -, hcomplete⟩ := login_eq_ok.mp h
  obtain ⟨-, s₁, hissue, rfl⟩ := completeLogin_eq_ok.mp hcomplete
  obtain ⟨-, hfree, -, rfl⟩ := issueTokens_eq_ok.mp hissue
  have hchecked := keeps_checkedDb env ctx user password s
  have huser : HasUser user s := hasUser_of_mem (List.mem_of_find?_eq_some hallowed.found)
  have hlogin := reached_withLogin (hs.keeps hchecked) (huser.keeps hchecked) hfree
  have hreached : Reached env s (withLogin env ctx user
      (s.mapDb (checkedDb env ctx user password))) :=
    ⟨hlogin.wellKept, (hchecked.evolves hs).trans hlogin.evolves⟩
  refine hreached.keeps ?_
  rw [AuthDb.updateLastLogin]
  refine keeps_modifyUser user.id _ (fun u => ?_) _
  exact le_rfl

theorem reached_refreshTokens {raw : RefreshJwt} {tokens : TokenData} (hs : WellKept env s)
    (h : refreshTokens env ctx raw s = (.ok tokens, s')) : Reached env s s' := by
  obtain ⟨record, user, sid, s₁, hissued, hrecord, hactive, hfound, hsid, hfree, rfl⟩ :=
    refreshTokens_eq_ok h
  obtain ⟨hmem, hhash⟩ := Table.find?_eq_some_iff.mp hrecord
  obtain ⟨humem, huid⟩ := Table.find?_eq_some_iff.mp hfound
  obtain ⟨x, hx, hxid, hxuser⟩ := hs.row_session record hmem
  -- every row has a session, so none has to be opened for it
  rcases sessionOf_eq_ok hsid with ⟨hown, rfl⟩ | ⟨hnone, -⟩
  · obtain rfl : x.sessionId = sid := Option.some.inj (hxid.symm.trans hown)
    have htaken : Keeps env s _ := keeps_revokeTokensWhere s.clock
      (AuthDb.activeWithHash (env.hashToken raw) s.clock) s
    have hlimited := htaken.trans (keeps_limitedDb _ user.id s.clock _)
    have howner : x.userId = user.id := by
      obtain ⟨rt, hrt, hrthash, hrtuser⟩ := hs.jwt_row raw hissued
      rw [← hxuser, huid, ← hrtuser, Table.eq_of_key hmem hrt (hhash.trans hrthash.symm)]
    obtain ⟨g, hrows, hg⟩ := hlimited.sessions
    have hsession : ∃ y ∈
        ((withTaken env raw s).mapDb (limitedDb user.id s.clock)).db.sessions.rows,
        y.sessionId = x.sessionId ∧ y.userId = user.id :=
      ⟨g x, hrows ▸ List.mem_map_of_mem hx, (hg x).1, (hg x).2.trans howner⟩
    have hpair : Reached env s (withPair env user ctx.clientType x.sessionId
        ((withTaken env raw s).mapDb (limitedDb user.id s.clock))) :=
      ⟨(hs.keeps hlimited).withPair hfree hsession ((hasUser_of_mem humem).keeps hlimited),
        (hlimited.evolves hs).withPair (.inr ⟨record, hmem, hxid, hactive⟩) hfree⟩
    exact hpair.keeps (keeps_touchSession _ _ _)
  · exact absurd (hxid.symm.trans hnone) (by simp)

/-! ### Logouts and passwords -/

theorem keeps_writeDb {f : AuthDb → AuthDb} (h : ∀ s, Keeps env s (s.mapDb f)) :
    Moves (Keeps env) (writeDb f) := moves_write h

theorem keeps_blacklistAll (jtis : List Id) : Moves (Keeps env) (blacklistAll env jtis) :=
  moves_write fun s => keeps_foldl (fun s jti => keeps_blacklistAccessJti jti s) jtis s

theorem keeps_markAllRevoked (sids : List Id) : Moves (Keeps env) (markAllRevoked env sids) :=
  moves_write fun s => keeps_foldl (fun s sid => keeps_markSessionRevoked sid s) sids s

theorem keeps_logout (raw : RefreshJwt) : Moves (Keeps env) (logout env raw) :=
  moves_bind (moves_query _) fun _ => moves_bind (moves_query _) fun _ =>
    moves_bind (keeps_blacklistAll _) fun _ => keeps_writeDb (keeps_revokeTokensWhere _ _)

theorem keeps_logoutSession (user : AuthUser) (sid : Id) :
    Moves (Keeps env) (logoutSession env user sid) :=
  moves_bind (moves_query _) fun _ => moves_bind (moves_query _) fun _ =>
    moves_bind (keeps_blacklistAll _) fun _ =>
    moves_bind (keeps_writeDb (keeps_revokeTokensWhere _ _)) fun _ =>
    moves_bind (moves_query _) fun _ =>
    moves_bind (keeps_writeDb (keeps_revokeSessionsWhere _ _)) fun _ =>
    moves_bind (keeps_markAllRevoked _) fun _ => moves_pure _

theorem keeps_logoutOtherSessions (user : AuthUser) :
    Moves (Keeps env) (logoutOtherSessions env user) := by
  refine moves_bind (moves_query _) fun _ => moves_bind (moves_lookup _) fun _ =>
    moves_bind (moves_query _) fun _ => moves_bind (moves_when fun _ => ?_) fun _ => moves_pure _
  exact moves_bind (keeps_writeDb (keeps_revokeSessionsWhere _ _)) fun _ =>
    moves_bind (moves_query _) fun _ => moves_bind (keeps_blacklistAll _) fun _ =>
    moves_bind (keeps_writeDb (keeps_revokeTokensWhere _ _)) fun _ => keeps_markAllRevoked _

theorem keeps_revokeSessions (userId : Id) (sids : List Id) (now : Instant) (s : AuthState) :
    Keeps env s (s.mapDb fun db =>
      sids.foldl (fun db sid => db.revokeSession userId sid now) db) := by
  induction sids generalizing s with
  | nil => exact .refl s
  | cons sid sids ih => exact (keeps_revokeSessionsWhere now _ s).trans (ih _)

theorem keeps_invalidateAllSessionsForUser (userId : Id) :
    Moves (Keeps env) (invalidateAllSessionsForUser env userId) := by
  refine moves_bind (moves_query _) fun _ => moves_bind (keeps_writeDb ?_) fun _ =>
    moves_bind (moves_query _) fun _ => moves_bind (moves_query _) fun _ =>
    moves_bind (keeps_blacklistAll _) fun _ => moves_bind (moves_query _) fun _ =>
    moves_bind (keeps_writeDb (keeps_revokeTokensWhere _ _)) fun _ =>
    moves_bind (keeps_writeDb (keeps_revokeSessions _ _ _)) fun _ =>
    moves_bind (keeps_markAllRevoked _) fun _ => moves_pure _
  exact fun s => keeps_modifyUser userId _ (fun u => (Int.lt_succ u.sessionSv).le) s

theorem keeps_logoutAll (raw : RefreshJwt) : Moves (Keeps env) (logoutAll env raw) := by
  refine moves_bind (moves_query _) fun record => ?_
  split
  · exact moves_pure _
  · exact keeps_invalidateAllSessionsForUser _

variable (env) in
theorem keeps_setPassword (userId : Id) (newHash : String) (now : Instant) (force : Bool)
    (s : AuthState) : Keeps env s (s.mapDb (AuthDb.setPassword userId newHash now force)) := by
  rw [AuthDb.setPassword]
  refine keeps_modifyUser userId _ (fun u => ?_) s
  exact le_rfl

theorem keeps_changePassword (userId : Id) (currentPassword newPassword : String) :
    Moves (Keeps env) (changePassword env userId currentPassword newPassword) :=
  moves_bind (moves_query _) fun _ => moves_bind (moves_lookup _) fun _ =>
    moves_bind (moves_check _) fun _ =>
    moves_bind (keeps_writeDb (keeps_setPassword _ _ _ _ _)) fun _ =>
    keeps_writeDb (keeps_revokeTokensWhere _ _)

theorem keeps_setPasswordAdmin (userId : Id) (newPassword : String) (force : Bool)
    (role : Option UserRole) :
    Moves (Keeps env) (setPasswordAdmin env userId newPassword force role) :=
  moves_bind (moves_query _) fun _ => moves_bind (moves_check _) fun _ =>
    moves_bind (moves_lookup _) fun _ => moves_bind (moves_check _) fun _ =>
    moves_bind (moves_check _) fun _ =>
    moves_bind (keeps_writeDb (keeps_setPassword _ _ _ _ _)) fun _ =>
    keeps_writeDb (keeps_revokeTokensWhere _ _)

theorem keeps_supportIssueTemporaryPassword (actorId targetUserId : Id) (newPassword : String) :
    Moves (Keeps env) (supportIssueTemporaryPassword env actorId targetUserId newPassword) := by
  refine moves_bind (moves_query _) fun _ => moves_bind (moves_check _) fun _ =>
    moves_bind (moves_lookup _) fun _ => moves_bind (moves_check _) fun _ =>
    moves_bind (keeps_writeDb (keeps_setPassword _ _ _ _ _)) fun _ =>
    moves_bind (keeps_writeDb ?_) fun _ =>
    moves_bind (moves_when fun _ => keeps_writeDb (keeps_activateDriverOnLogin _)) fun _ =>
    moves_bind (keeps_invalidateAllSessionsForUser _) fun _ => moves_pure _
  intro s
  refine keeps_modifyUser targetUserId _ (fun u => ?_) s
  exact le_rfl

theorem keeps_confirmPasswordReset (newPassword token : String) :
    Moves (Keeps env) (confirmPasswordReset env ctx newPassword token) := by
  refine moves_bind (moves_query _) fun _ => moves_bind (moves_lookup _) fun _ =>
    moves_bind (moves_lookup _) fun _ => moves_bind (moves_check _) fun _ =>
    moves_bind (moves_bind (moves_query _) fun _ => moves_bind (moves_query _) fun _ =>
      moves_bind (moves_when fun _ => keeps_writeDb ?_) fun _ => moves_pure _) fun _ =>
    moves_bind (moves_check _) fun _ => moves_bind (moves_write ?_) fun _ =>
    keeps_writeDb (keeps_revokeTokensWhere _ _)
  · intro s
    refine keeps_modifyUser _ _ (fun u => ?_) s
    exact le_rfl
  · exact fun s => { (Keeps.refl s : Keeps env s s) with }

theorem keeps_asUser {α : Type} {f : AuthUser → Service α} (tok : AccessToken)
    (hf : ∀ user, Moves (Keeps env) (f user)) : Moves (Keeps env) (asUser ctx tok f) :=
  moves_bind (moves_lookup _) fun user => moves_bind (hf user) fun _ => moves_pure _

/-! ### Runs -/

theorem keeps_inSession {m : Service Unit} (hm : Moves (Keeps env) m) (s : AuthState) :
    Keeps env s (inSession rollback m s).2 := by
  rw [inSession]
  split
  · rename_i hok
    exact hm.rel hok
  · rename_i herror
    exact keeps_rollback (hm.rel herror)

theorem reached_inSession {m : Service Unit} (hdraws : Moves Draws m)
    (hm : ∀ {s'}, m s = (.ok (), s') → Reached env s s') (hs : WellKept env s) :
    Reached env s (inSession rollback m s).2 := by
  rw [inSession]
  split
  · rename_i hok
    exact hm hok
  · rename_i s₁ herror
    obtain ⟨hredis, hclock, hnext⟩ := hdraws.rel herror
    have hrollback : rollback s s₁ = { s with nextUuid := s₁.nextUuid } := by
      rw [rollback]
      congr
    rw [hrollback]
    exact hs.reached (keeps_nextUuid hnext)

/-- **What an operation does to sessions**: the tables stay in order, and tokens are issued for
open sessions only. -/
theorem handle_reached (hs : WellKept env s) (op : AuthOp) :
    Reached env s (inSession rollback (op.handle env) s).2 := by
  have hkeeps : Moves (Keeps env) (op.handle env) →
      Reached env s (inSession rollback (op.handle env) s).2 :=
    fun hm => hs.reached (keeps_inSession hm s)
  cases op with
  | login ctx email password =>
      refine reached_inSession (moves_bind (draws_login _ _) fun _ => moves_pure _) ?_ hs
      intro s' h
      obtain ⟨tokens, s₁, hlogin, hdone⟩ := Handler.bind_eq_ok.mp h
      rw [← (Prod.mk.inj hdone).2]
      exact reached_login hs hlogin
  | refreshTokens ctx raw =>
      refine reached_inSession (moves_bind (draws_refreshTokens _) fun _ => moves_pure _) ?_ hs
      intro s' h
      obtain ⟨tokens, s₁, hrefresh, hdone⟩ := Handler.bind_eq_ok.mp h
      rw [← (Prod.mk.inj hdone).2]
      exact reached_refreshTokens hs hrefresh
  | logout raw => exact hkeeps (keeps_logout raw)
  | logoutSession ctx tok sid =>
      exact hkeeps (keeps_asUser tok fun user => keeps_logoutSession user sid)
  | logoutOtherSessions ctx tok => exact hkeeps (keeps_asUser tok keeps_logoutOtherSessions)
  | logoutAll raw => exact hkeeps (moves_bind (keeps_logoutAll raw) fun _ => moves_pure _)
  | changePassword ctx tok currentPassword newPassword =>
      exact hkeeps (keeps_asUser tok fun user => keeps_changePassword user.id _ _)
  | setPasswordAdmin userId newPassword force role =>
      exact hkeeps (keeps_setPasswordAdmin userId _ _ _)
  | confirmPasswordReset ctx newPassword token =>
      exact hkeeps (keeps_confirmPasswordReset _ _)
  | supportIssueTemporaryPassword actorId targetUserId newPassword =>
      exact hkeeps (keeps_supportIssueTemporaryPassword _ _ _)

/-- The same of a request, some time after the one before it. -/
theorem step_reached (hs : WellKept env s) (r : AuthRequest) : Reached env s (step env s r) := by
  have htick := hs.reached (keeps_tick _ r.elapsed s)
  have hhandle := handle_reached htick.wellKept r.op
  exact ⟨hhandle.wellKept, htick.evolves.trans hhandle.evolves⟩

end

end SwCouriers.Auth
