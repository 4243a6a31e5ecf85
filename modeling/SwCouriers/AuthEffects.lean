import SwCouriers.Auth

/-!
# What Requests Write

The parts of a request, each as the state it leaves behind: when a session is created, when a
pair of tokens is issued, and what a login that returns has checked and written.

## Main results

* `createSession_eq_ok`, `issuePair_eq_ok`, `issueTokens_eq_ok`: when these return, and what.
* `login_eq_ok`: what a login that returns has checked, and the state it leaves.
-/

namespace SwCouriers.Auth

open Checked Requests

variable {env : AuthEnv} {ctx : RequestContext} {s s' : AuthState}

/-! ### Single steps -/

@[simp] theorem AuthState.mapDb_db (f : AuthDb → AuthDb) (s : AuthState) :
    (s.mapDb f).db = f s.db := rfl

theorem bind_currentTime {α : Type} (f : Instant → Service α) (s : AuthState) :
    (currentTime >>= f) s = f s.clock s := rfl

theorem bind_writeDb {α : Type} (g : AuthDb → AuthDb) (f : Unit → Service α) (s : AuthState) :
    (writeDb g >>= f) s = f () (s.mapDb g) := rfl

theorem bind_when_writeDb {β : Type} {c : Prop} [Decidable c] (g : AuthDb → AuthDb)
    {f : Unit → Service β} (s : AuthState) :
    (Handler.when c (writeDb g) >>= f) s = f () (s.mapDb fun db => if c then g db else db) := by
  rw [writeDb, Handler.bind_when_write]
  by_cases hc : c
  · simp only [AuthState.mapDb, if_pos hc]
  · simp only [AuthState.mapDb, if_neg hc]

/-! ### Tokens -/

/-- The access token that is issued next. -/
def nextAccessToken (env : AuthEnv) (user : User) (clientType : ClientType) (sid : Id)
    (s : AuthState) : AccessToken where
  jti := s.nextUuid
  sub := user.id
  role := user.role
  aud := clientType
  exp := (s.clock + env.accessTtl) / second
  organizationId := user.organizationId
  sid := some sid
  sv := some user.sessionSv

/-- The refresh token that is issued next. -/
def nextRefreshJwt (env : AuthEnv) (user : User) (clientType : ClientType) (s : AuthState) :
    RefreshJwt :=
  ⟨s.nextUuid + 1, user.id, clientType, (s.clock + env.refreshTtl) / second⟩

/-- The row of the refresh token that is issued next. -/
def nextRefreshToken (env : AuthEnv) (user : User) (clientType : ClientType) (sid : Id)
    (s : AuthState) : RefreshToken where
  tokenHash := env.hashToken (nextRefreshJwt env user clientType s)
  userId := user.id
  accessJti := some s.nextUuid
  expiresAt := s.clock + env.refreshTtl
  revoked := false
  revokedAt := none
  sessionId := some sid
  createdAt := s.clock

/-- The state once a pair of tokens is issued. -/
def withPair (env : AuthEnv) (user : User) (clientType : ClientType) (sid : Id)
    (s : AuthState) : AuthState :=
  { s with
    nextUuid := s.nextUuid + 2
    db := { s.db with
      refreshTokens := s.db.refreshTokens.insert (nextRefreshToken env user clientType sid s)
      issuedAccess := s.db.issuedAccess ++ [nextAccessToken env user clientType sid s]
      issuedRefresh := s.db.issuedRefresh ++ [nextRefreshJwt env user clientType s] } }

theorem createToken_eq_ok {record : RefreshToken} {u : Unit} :
    createToken record s = (.ok u, s') ↔
      s.db.refreshTokens.find? record.tokenHash = none ∧
      s' = s.mapDb fun db => { db with refreshTokens := db.refreshTokens.insert record } := by
  rw [createToken, Handler.bind_lookup_eq_ok]
  constructor
  · rintro ⟨_, hfree, hwrite⟩
    refine ⟨?_, (Prod.mk.inj hwrite).2.symm⟩
    simpa using raiseIf_eq_ok.mp hfree
  · rintro ⟨hfree, rfl⟩
    exact ⟨(), raiseIf_eq_ok.mpr (by simp [hfree]), rfl⟩

variable {tokens : TokenData}

theorem issuePair_eq_ok {user : User} {clientType : ClientType} {sid : Id} :
    issuePair env user clientType sid s = (.ok tokens, s') ↔
      s.db.refreshTokens.find? (env.hashToken (nextRefreshJwt env user clientType s)) = none ∧
      tokens = ⟨nextAccessToken env user clientType sid s,
        nextRefreshJwt env user clientType s⟩ ∧
      s' = withPair env user clientType sid s := by
  change (createToken (nextRefreshToken env user clientType sid s) >>= _)
    { s with nextUuid := s.nextUuid + 1 + 1 } = _ ↔ _
  rw [Handler.bind_eq_ok]
  constructor
  · rintro ⟨_, s₁, hcreate, hdone⟩
    obtain ⟨hfree, rfl⟩ := createToken_eq_ok.mp hcreate
    obtain ⟨htokens, hstate⟩ := Prod.mk.inj hdone
    exact ⟨hfree, (Except.ok.inj htokens).symm, hstate.symm⟩
  · rintro ⟨hfree, rfl, rfl⟩
    exact ⟨(), _, createToken_eq_ok.mpr ⟨hfree, rfl⟩, rfl⟩

/-! ### Sessions -/

/-- The session that is created next. -/
def nextSession (env : AuthEnv) (ctx : RequestContext) (userId : Id) (s : AuthState) :
    Session where
  sessionId := s.nextUuid
  userId := userId
  revoked := false
  revokedAt := none
  lastSeenAt := some s.clock
  inactivityExpiresAt := some (s.clock + env.refreshTtl)
  userAgent := ctx.userAgent
  ipAddress := ctx.ipAddress

/-- The state once a session is created. -/
def withSession (env : AuthEnv) (ctx : RequestContext) (userId : Id) (s : AuthState) :
    AuthState :=
  { s with
    nextUuid := s.nextUuid + 1
    db := { s.db with sessions := s.db.sessions.insert (nextSession env ctx userId s) } }

theorem createSession_eq_ok {userId sid : Id} :
    createSession env ctx userId s = (.ok sid, s') ↔
      s.db.sessions.find? s.nextUuid = none ∧ sid = s.nextUuid ∧
      s' = withSession env ctx userId s := by
  change ((.lookup _ : Service Unit) >>= _) { s with nextUuid := s.nextUuid + 1 } = _ ↔ _
  rw [Handler.bind_lookup_eq_ok]
  constructor
  · rintro ⟨_, hfree, hdone⟩
    obtain ⟨hsid, hstate⟩ := Prod.mk.inj hdone
    refine ⟨?_, (Except.ok.inj hsid).symm, hstate.symm⟩
    simpa using raiseIf_eq_ok.mp hfree
  · rintro ⟨hfree, rfl, rfl⟩
    exact ⟨(), raiseIf_eq_ok.mpr (by simp [hfree]), rfl⟩

/-- What `limitActiveSessions` makes of the tables. -/
def limitedDb (userId : Id) (now : Instant) (db : AuthDb) : AuthDb :=
  if maxActiveSessionsPerUser ≤ db.countActiveForUser userId now then
    db.revokeOldestKeeping userId (maxActiveSessionsPerUser - 1) now
  else db

theorem limitActiveSessions_apply (userId : Id) (s : AuthState) :
    limitActiveSessions userId s = (.ok (), s.mapDb (limitedDb userId s.clock)) := by
  change Handler.when (maxActiveSessionsPerUser ≤ s.db.countActiveForUser userId s.clock) _ s = _
  by_cases hfull : maxActiveSessionsPerUser ≤ s.db.countActiveForUser userId s.clock
  · rw [Handler.when, if_pos hfull, AuthState.mapDb, limitedDb, if_pos hfull]
    rfl
  · rw [Handler.when, if_neg hfull, AuthState.mapDb, limitedDb, if_neg hfull]
    rfl

/-- The state once a login has opened a session. -/
def withOpened (env : AuthEnv) (ctx : RequestContext) (userId : Id) (s : AuthState) :
    AuthState :=
  withSession env ctx userId (s.mapDb (limitedDb userId s.clock))

/-- The state once a login has issued its tokens. -/
def withLogin (env : AuthEnv) (ctx : RequestContext) (user : User) (s : AuthState) : AuthState :=
  (withPair env user ctx.clientType s.nextUuid (withOpened env ctx user.id s)).mapDb
    fun db => db.touchSession env ctx s.nextUuid s.clock

theorem issueTokens_eq_ok {user : User} :
    issueTokens env ctx user s = (.ok tokens, s') ↔
      (limitedDb user.id s.clock s.db).sessions.find? s.nextUuid = none ∧
      (limitedDb user.id s.clock s.db).refreshTokens.find?
        (env.hashToken (nextRefreshJwt env user ctx.clientType
          (withOpened env ctx user.id s))) = none ∧
      tokens = ⟨nextAccessToken env user ctx.clientType s.nextUuid
          (withOpened env ctx user.id s),
        nextRefreshJwt env user ctx.clientType (withOpened env ctx user.id s)⟩ ∧
      s' = withLogin env ctx user s := by
  rw [issueTokens, bind_currentTime, Handler.bind_of_ok (limitActiveSessions_apply user.id s),
    Handler.bind_eq_ok]
  constructor
  · rintro ⟨sid, s₁, hsession, hrest⟩
    obtain ⟨hfree, rfl, rfl⟩ := createSession_eq_ok.mp hsession
    obtain ⟨pair, s₂, hpair, hdone⟩ := Handler.bind_eq_ok.mp hrest
    obtain ⟨hhash, rfl, rfl⟩ := issuePair_eq_ok.mp hpair
    obtain ⟨htokens, hstate⟩ := Prod.mk.inj hdone
    exact ⟨hfree, hhash, (Except.ok.inj htokens).symm, hstate.symm⟩
  · rintro ⟨hfree, hhash, rfl, rfl⟩
    refine ⟨_, _, createSession_eq_ok.mpr ⟨hfree, rfl, rfl⟩, ?_⟩
    exact Handler.bind_eq_ok.mpr ⟨_, _, issuePair_eq_ok.mpr ⟨hhash, rfl, rfl⟩, rfl⟩

/-! ### Login -/

/-- A driver may log in: the account is active, or waits for the first login. -/
def driverMayLogIn (user : User) (db : AuthDb) : Prop :=
  ∃ driver, db.drivers.find? user.id = some driver ∧
    (driver.accountStatus = .active ∨ driver.accountStatus = .pendingActivation)

/-- What the check of a driver's account makes of the tables. -/
def withDriver (user : User) (db : AuthDb) : AuthDb :=
  if (db.drivers.find? user.id).any fun d => d.accountStatus = .pendingActivation then
    db.activateDriverOnLogin user.id
  else db

theorem checkDriverLogin_eq_ok {user : User} {u : Unit} :
    checkDriverLogin user s = (.ok u, s') ↔
      driverMayLogIn user s.db ∧ s' = s.mapDb (withDriver user) := by
  rw [checkDriverLogin, Handler.bind_lookup_eq_ok]
  have hwrite : ∀ driver, s.db.drivers.find? user.id = some driver →
      Handler.when (driver.accountStatus = .pendingActivation)
        (writeDb (AuthDb.activateDriverOnLogin user.id)) s =
        (.ok (), s.mapDb (withDriver user)) := by
    intro driver hdriver
    rw [AuthState.mapDb, withDriver, hdriver, Option.any_some]
    by_cases hpending : driver.accountStatus = .pendingActivation
    · rw [Handler.when, if_pos hpending, if_pos (decide_eq_true hpending)]
      rfl
    · rw [Handler.when, if_neg hpending, if_neg (by simp [hpending])]
      rfl
  constructor
  · rintro ⟨driver, hdriver, hrest⟩
    rw [orRaise_eq_ok] at hdriver
    obtain ⟨_, hstatus, hrest⟩ := Handler.bind_check_eq_ok.mp hrest
    rw [hwrite driver hdriver] at hrest
    refine ⟨⟨driver, hdriver, ?_⟩, (Prod.mk.inj hrest).2.symm⟩
    have hnot := raiseIf_eq_ok.mp hstatus
    by_contra hneither
    exact hnot (not_or.mp hneither)
  · rintro ⟨⟨driver, hdriver, hstatus⟩, rfl⟩
    refine ⟨driver, orRaise_eq_ok.mpr hdriver, ?_⟩
    refine Handler.bind_check_eq_ok.mpr ⟨(), raiseIf_eq_ok.mpr ?_, hwrite driver hdriver⟩
    rintro ⟨hactive, hpending⟩
    exact hstatus.elim hactive hpending

section Prepared

variable {user : User} {password : String}

/-- What a login writes to its user before the tokens are issued. -/
def preparedUser (env : AuthEnv) (user : User) (password : String) (u : User) : User :=
  let reset := if 0 < user.failedLoginAttempts then
    { u with failedLoginAttempts := 0, lockedUntil := none } else u
  let rehashed := if env.checkNeedsRehash user.passwordHash = true then
    { reset with passwordHash := env.hashPassword password } else reset
  if isInactivityReactivatable user = true then
    if rehashed.status = .inactive ∧ rehashed.inactiveReason = some "INACTIVITY" then
      { rehashed with status := .active, inactiveReason := none } else rehashed
  else rehashed

theorem preparedUser_id (u : User) : (preparedUser env user password u).id = u.id := by
  simp only [preparedUser]
  split_ifs <;> rfl

theorem preparedUser_email (u : User) : (preparedUser env user password u).email = u.email := by
  simp only [preparedUser]
  split_ifs <;> rfl

/-- The tables once a login has written to its user. -/
def preparedDb (env : AuthEnv) (user : User) (password : String) : AuthDb → AuthDb :=
  AuthDb.modifyUser user.id (preparedUser env user password) preparedUser_id

theorem modifyUser_modifyUser {userId : Id} {f g : User → User} (hf : ∀ u, (f u).id = u.id)
    (hg : ∀ u, (g u).id = u.id) (db : AuthDb) :
    (db.modifyUser userId f hf).modifyUser userId g hg =
      db.modifyUser userId (fun u => g (f u)) fun u => (hg (f u)).trans (hf u) := by
  simp only [AuthDb.modifyUser, Table.modify_modify]

theorem ite_modifyUser {userId : Id} {f : User → User} (hf : ∀ u, (f u).id = u.id) (c : Prop)
    [Decidable c] (db : AuthDb) :
    (if c then db.modifyUser userId f hf else db) =
      db.modifyUser userId (fun u => if c then f u else u)
        fun u => by split <;> simp [hf] := by
  by_cases hc : c
  · simp only [if_pos hc]
  · simp only [if_neg hc, AuthDb.modifyUser]
    rw [Table.modify_id _ _ fun _ => rfl]

theorem preparedDb_eq (db : AuthDb) :
    (let reset := if 0 < user.failedLoginAttempts then db.resetFailedAttempts user.id else db
    let rehashed := if env.checkNeedsRehash user.passwordHash = true then
      reset.updatePasswordHash user.id (env.hashPassword password) else reset
    if isInactivityReactivatable user = true then rehashed.reactivateOnLogin user.id
    else rehashed) = preparedDb env user password db := by
  dsimp only [AuthDb.resetFailedAttempts, AuthDb.updatePasswordHash, AuthDb.reactivateOnLogin]
  rw [ite_modifyUser, ite_modifyUser, ite_modifyUser, modifyUser_modifyUser,
    modifyUser_modifyUser]
  rfl

end Prepared

/-- What a login writes to the driver too, if it comes from the driver app. -/
def driverDb (ctx : RequestContext) (user : User) (db : AuthDb) : AuthDb :=
  if ctx.clientType = .driver then withDriver user db else db

theorem when_checkDriverLogin_eq_ok {user : User} {u : Unit} :
    Handler.when (ctx.clientType = .driver) (checkDriverLogin user) s = (.ok u, s') ↔
      (ctx.clientType = .driver → driverMayLogIn user s.db) ∧ s' = s.mapDb (driverDb ctx user) := by
  by_cases hdriver : ctx.clientType = .driver
  · have hdb : s.mapDb (driverDb ctx user) = s.mapDb (withDriver user) := by
      simp only [AuthState.mapDb, driverDb, if_pos hdriver]
    rw [Handler.when, if_pos hdriver, checkDriverLogin_eq_ok, hdb]
    simp only [hdriver, forall_const]
  · have hdb : s.mapDb (driverDb ctx user) = s := by
      simp only [AuthState.mapDb, driverDb, if_neg hdriver]
    rw [Handler.when, if_neg hdriver, hdb]
    simp [hdriver, eq_comm]

/-- What a login writes before the tokens are issued. -/
def checkedDb (env : AuthEnv) (ctx : RequestContext) (user : User) (password : String)
    (db : AuthDb) : AuthDb :=
  driverDb ctx user (preparedDb env user password db)

theorem completeLogin_eq_ok {user : User} {password : String} :
    completeLogin env ctx user password s = (.ok tokens, s') ↔
      (ctx.clientType = .driver → driverMayLogIn user (preparedDb env user password s.db)) ∧
      ∃ s₁, issueTokens env ctx user (s.mapDb (checkedDb env ctx user password)) =
        (.ok tokens, s₁) ∧ s' = s₁.mapDb (AuthDb.updateLastLogin user.id s.clock) := by
  rw [completeLogin, bind_currentTime, bind_when_writeDb, bind_when_writeDb, bind_when_writeDb]
  simp only [AuthState.mapDb, preparedDb_eq]
  change (Handler.when _ _ >>= _) (s.mapDb (preparedDb env user password)) = _ ↔ _
  rw [Handler.bind_eq_ok]
  constructor
  · rintro ⟨_, s₁, hcheck, hrest⟩
    obtain ⟨hallowed, rfl⟩ := when_checkDriverLogin_eq_ok.mp hcheck
    obtain ⟨pair, s₂, hissue, hdone⟩ := Handler.bind_eq_ok.mp hrest
    obtain ⟨htokens, hstate⟩ := Prod.mk.inj hdone
    obtain rfl := Except.ok.inj htokens
    exact ⟨hallowed, s₂, hissue, hstate.symm⟩
  · rintro ⟨hallowed, s₂, hissue, rfl⟩
    refine ⟨(), _, when_checkDriverLogin_eq_ok.mpr ⟨hallowed, rfl⟩, ?_⟩
    exact Handler.bind_eq_ok.mpr ⟨tokens, s₂, hissue, rfl⟩

/-- The checks of a login before the password, for the user that the email names. -/
structure LoginAllowed (env : AuthEnv) (ctx : RequestContext) (email : String) (s : AuthState)
    (user : User) : Prop where
  found : s.db.findByEmail env email = some user
  unlocked : (user.lockedUntil.any fun until_ => s.clock < until_) = false
  status : checkLoginStatus user = .ok ()
  portal : assertB2bPortalAccess user ctx.clientType s = .ok ()
  clientType : ctx.clientType = roleToClientType user.role

/-- **What a login that returns has checked.** -/
theorem login_eq_ok {email password : String} :
    login env ctx email password s = (.ok tokens, s') ↔
      ∃ user, LoginAllowed env ctx email s user ∧
        env.verifyPassword password user.passwordHash = true ∧
        completeLogin env ctx user password s = (.ok tokens, s') := by
  rw [login, bind_currentTime, Handler.bind_lookup_eq_ok]
  constructor
  · rintro ⟨user, hfound, hrest⟩
    obtain ⟨_, hunlocked, hrest⟩ := Handler.bind_check_eq_ok.mp hrest
    obtain ⟨_, hstatus, hrest⟩ := Handler.bind_check_eq_ok.mp hrest
    obtain ⟨_, hportal, hrest⟩ := Handler.bind_lookup_eq_ok.mp hrest
    obtain ⟨_, hclient, hrest⟩ := Handler.bind_check_eq_ok.mp hrest
    have hclient := not_not.mp (raiseIf_eq_ok.mp hclient)
    have hallowed : LoginAllowed env ctx email s user :=
      ⟨orRaise_eq_ok.mp hfound, by simpa using raiseIf_eq_ok.mp hunlocked, hstatus, hportal,
        hclient⟩
    by_cases hpassword : env.verifyPassword password user.passwordHash = true
    · rw [if_pos hpassword] at hrest
      exact ⟨user, hallowed, hpassword, hrest⟩
    · rw [if_neg hpassword] at hrest
      obtain ⟨_, s₁, -, hraise⟩ := Handler.bind_eq_ok.mp hrest
      exact absurd (Prod.mk.inj hraise).1 (by simp)
  · rintro ⟨user, hallowed, hpassword, hrest⟩
    refine ⟨user, orRaise_eq_ok.mpr hallowed.found, ?_⟩
    refine Handler.bind_check_eq_ok.mpr ⟨(), raiseIf_eq_ok.mpr ?_, ?_⟩
    · rw [hallowed.unlocked]
      decide
    refine Handler.bind_check_eq_ok.mpr ⟨(), hallowed.status, ?_⟩
    refine Handler.bind_lookup_eq_ok.mpr ⟨(), hallowed.portal, ?_⟩
    refine Handler.bind_check_eq_ok.mpr ⟨(), raiseIf_eq_ok.mpr ?_, ?_⟩
    · exact not_not.mpr hallowed.clientType
    rw [if_pos hpassword]
    exact hrest

/-! ### Refreshing -/

/-- The state once the presented token is revoked. -/
def withTaken (env : AuthEnv) (raw : RefreshJwt) (s : AuthState) : AuthState :=
  s.mapDb (AuthDb.revokeTokensWhere s.clock (AuthDb.activeWithHash (env.hashToken raw) s.clock))

/-- The state once the session of the presented token has its next pair of tokens. -/
def withRefresh (env : AuthEnv) (ctx : RequestContext) (user : User) (sid : Id)
    (s : AuthState) : AuthState :=
  (withPair env user ctx.clientType sid (s.mapDb (limitedDb user.id s.clock))).mapDb
    fun db => db.touchSession env ctx sid s.clock

theorem presentedToken_eq_ok {raw : RefreshJwt} {record : RefreshToken}
    (h : presentedToken env raw s = (.ok record, s')) :
    raw ∈ s.db.issuedRefresh ∧ s.db.refreshTokens.find? (env.hashToken raw) = some record ∧
      s' = s := by
  rw [presentedToken, bind_currentTime] at h
  obtain ⟨_, hdecode, h⟩ := Handler.bind_lookup_eq_ok.mp h
  obtain ⟨_, -, h⟩ := Handler.bind_lookup_eq_ok.mp h
  obtain ⟨found, hfound, h⟩ := Handler.bind_lookup_eq_ok.mp h
  obtain ⟨_, -, h⟩ := Handler.bind_check_eq_ok.mp h
  have hissued := not_not.mp (not_or.mp (raiseIf_eq_ok.mp hdecode)).1
  obtain ⟨_, s₁, hwhen, h⟩ := Handler.bind_eq_ok.mp h
  obtain ⟨rfl, rfl⟩ := Handler.pure_eq_ok.mp h
  refine ⟨hissued, orRaise_eq_ok.mp hfound, ?_⟩
  unfold Handler.when at hwhen
  split at hwhen
  · obtain ⟨_, s₂, -, hraise⟩ := Handler.bind_eq_ok.mp hwhen
    exact absurd (Prod.mk.inj hraise).1 (by simp)
  · exact (Prod.mk.inj hwhen).2.symm

/-- The session of a refresh token: its own, or a new one if it has none. -/
theorem sessionOf_eq_ok {userId sid : Id} {record : RefreshToken}
    (h : sessionOf env ctx userId record s = (.ok sid, s')) :
    (record.sessionId = some sid ∧ s' = s) ∨
      (record.sessionId = none ∧ s.db.sessions.find? s.nextUuid = none ∧ sid = s.nextUuid ∧
        s' = (withSession env ctx userId s).mapDb
          (AuthDb.attachSessionIdIfMissing record.tokenHash sid)) := by
  rw [sessionOf] at h
  cases hsid : record.sessionId with
  | some sid' =>
      simp only [hsid] at h
      obtain ⟨hok, rfl⟩ := Prod.mk.inj h
      exact .inl ⟨congrArg some (Except.ok.inj hok), rfl⟩
  | none =>
      simp only [hsid] at h
      obtain ⟨sid', s₁, hcreate, h⟩ := Handler.bind_eq_ok.mp h
      obtain ⟨hfree, rfl, rfl⟩ := createSession_eq_ok.mp hcreate
      obtain ⟨rfl, rfl⟩ := Handler.pure_eq_ok.mp h
      exact .inr ⟨rfl, hfree, rfl, rfl⟩

theorem activeUser_eq_ok {userId : Id} {user : User} (h : activeUser userId s = .ok user) :
    s.db.users.find? userId = some user := by
  obtain ⟨found, hfound, h⟩ := orRaise_bind_eq_ok.mp h
  obtain ⟨_, -, h⟩ := bind_eq_ok.mp h
  rw [← Except.ok.inj h]
  exact hfound

/-- **What a refresh that returns has checked**, and the state it leaves. -/
theorem refreshTokens_eq_ok {raw : RefreshJwt}
    (h : refreshTokens env ctx raw s = (.ok tokens, s')) :
    ∃ record user sid s₁, raw ∈ s.db.issuedRefresh ∧
      s.db.refreshTokens.find? (env.hashToken raw) = some record ∧
      record.isActive s.clock = true ∧ s.db.users.find? raw.sub = some user ∧
      sessionOf env ctx raw.sub record (withTaken env raw s) = (.ok sid, s₁) ∧
      (s₁.mapDb (limitedDb user.id s₁.clock)).db.refreshTokens.find?
        (env.hashToken (nextRefreshJwt env user ctx.clientType
          (s₁.mapDb (limitedDb user.id s₁.clock)))) = none ∧
      s' = withRefresh env ctx user sid s₁ := by
  rw [refreshTokens, bind_currentTime] at h
  obtain ⟨record, s₁, hpresented, h⟩ := Handler.bind_eq_ok.mp h
  obtain ⟨hissued, hrecord, hsame⟩ := presentedToken_eq_ok hpresented
  rw [hsame] at h
  obtain ⟨taken, s₁, htaken, h⟩ := Handler.bind_eq_ok.mp h
  obtain ⟨hfound, rfl⟩ := Prod.mk.inj htaken
  obtain ⟨_, hok, h⟩ := Handler.bind_check_eq_ok.mp h
  obtain ⟨_, -, h⟩ := Handler.bind_check_eq_ok.mp h
  obtain ⟨user, huser, h⟩ := Handler.bind_lookup_eq_ok.mp h
  obtain ⟨_, -, h⟩ := Handler.bind_lookup_eq_ok.mp h
  obtain ⟨_, -, h⟩ := Handler.bind_check_eq_ok.mp h
  obtain ⟨sid, s₁, hsid, h⟩ := Handler.bind_eq_ok.mp h
  have huser : s.db.users.find? raw.sub = some user := activeUser_eq_ok huser
  have hid : raw.sub = user.id := (Table.find?_eq_some_iff.mp huser).2.symm
  rw [Handler.bind_of_ok (limitActiveSessions_apply raw.sub s₁), hid] at h
  obtain ⟨pair, s₂, hpair, h⟩ := Handler.bind_eq_ok.mp h
  obtain ⟨hfree, -, rfl⟩ := issuePair_eq_ok.mp hpair
  obtain ⟨-, rfl⟩ := Prod.mk.inj h
  have hclock : s.clock = s₁.clock := by
    rcases sessionOf_eq_ok hsid with ⟨-, rfl⟩ | ⟨-, -, -, rfl⟩ <;> rfl
  -- that the update found the token active is what the row says
  have hactive : record.isActive s.clock = true := by
    have hany : s.db.refreshTokens.rows.any
        (AuthDb.activeWithHash (env.hashToken raw) s.clock) = true := by
      have hnot := raiseIf_eq_ok.mp hok
      rw [← Except.ok.inj hfound] at hnot
      exact (Bool.not_eq_false _).mp hnot
    obtain ⟨rt, hrt, hfits⟩ := List.any_eq_true.mp hany
    rw [AuthDb.activeWithHash, Bool.and_eq_true, decide_eq_true_eq] at hfits
    rw [← hfits.1] at hrecord
    rw [← Table.eq_of_key hrt (Table.find?_eq_some_iff.mp hrecord).1
      (Table.find?_eq_some_iff.mp hrecord).2.symm]
    exact hfits.2
  refine ⟨record, user, sid, s₁, hissued, hrecord, hactive, huser, hsid, hfree, ?_⟩
  rw [withRefresh, ← hclock]

/-! ### Logouts -/

/-- The entries of some keys are replaced. -/
def withEntries (ks : List Id) (v : Option Instant) (m : Id → Option Instant) (k : Id) :
    Option Instant :=
  if k ∈ ks then v else m k

theorem withEntries_nil (v : Option Instant) (m : Id → Option Instant) :
    withEntries [] v m = m := by
  funext k
  simp [withEntries]

theorem withEntries_cons (k : Id) (ks : List Id) (v : Option Instant) (m : Id → Option Instant) :
    withEntries ks v (Function.update m k v) = withEntries (k :: ks) v m := by
  funext j
  by_cases hj : j = k
  · subst hj
    simp [withEntries]
  · simp [withEntries, hj]

/-- The state once access tokens are blacklisted. -/
def AuthState.blacklisted (env : AuthEnv) (jtis : List Id) (s : AuthState) : AuthState :=
  let tokenBlacklist :=
    withEntries jtis (some (s.clock + env.accessTtl)) s.redis.tokenBlacklist
  { s with redis := { s.redis with tokenBlacklist := tokenBlacklist } }

/-- The state once sessions are marked. -/
def AuthState.marked (env : AuthEnv) (sids : List Id) (s : AuthState) : AuthState :=
  let sessionRevoked :=
    withEntries sids (some (s.clock + env.accessTtl)) s.redis.sessionRevoked
  { s with redis := { s.redis with sessionRevoked := sessionRevoked } }

theorem blacklistAll_apply (jtis : List Id) (s : AuthState) :
    blacklistAll env jtis s = (.ok (), s.blacklisted env jtis) := by
  have hfold : jtis.foldl (fun s jti => s.blacklistAccessJti env jti) s =
      s.blacklisted env jtis := by
    induction jtis generalizing s with
    | nil => rw [AuthState.blacklisted, withEntries_nil]; rfl
    | cons jti jtis ih =>
        rw [List.foldl_cons, ih]
        simp only [AuthState.blacklisted, ← withEntries_cons]
        rfl
  rw [blacklistAll, Handler.write_apply, hfold]

theorem markAllRevoked_apply (sids : List Id) (s : AuthState) :
    markAllRevoked env sids s = (.ok (), s.marked env sids) := by
  have hfold : sids.foldl (fun s sid => s.markSessionRevoked env sid) s =
      s.marked env sids := by
    induction sids generalizing s with
    | nil => rw [AuthState.marked, withEntries_nil]; rfl
    | cons sid sids ih =>
        rw [List.foldl_cons, ih]
        simp only [AuthState.marked, ← withEntries_cons]
        rfl
  rw [markAllRevoked, Handler.write_apply, hfold]

/-- The tables once a session is ended by `logout_session`. -/
def endedDb (userId sid : Id) (now : Instant) (db : AuthDb) : AuthDb :=
  (db.revokeRefreshTokensForSessions [sid] now).revokeSession userId sid now

theorem logoutSession_apply (user : AuthUser) (sid : Id) (s : AuthState) :
    logoutSession env user sid s =
      (.ok (if s.db.sessions.rows.countP (AuthDb.unrevokedSession user.id sid) ≠ 0 then 1 else 0),
        ((s.blacklisted env (s.db.getActiveAccessJtisForSessions [sid] s.clock)).mapDb
          (endedDb user.id sid s.clock)).marked env [sid]) := by
  rw [logoutSession, bind_currentTime, Handler.bind_query,
    Handler.bind_of_ok (blacklistAll_apply _ s), bind_writeDb, Handler.bind_query, bind_writeDb,
    Handler.bind_of_ok (markAllRevoked_apply _ _)]
  rfl

/-- The state once the other sessions of a user are ended. -/
def withoutOthers (env : AuthEnv) (userId : Id) (sids : List Id) (s : AuthState) : AuthState :=
  let revoked := s.mapDb (AuthDb.revokeSessionsById userId sids s.clock)
  let jtis := revoked.db.getActiveAccessJtisForSessions sids s.clock
  ((revoked.blacklisted env jtis).mapDb
    (AuthDb.revokeRefreshTokensForSessions sids s.clock)).marked env sids

theorem logoutOtherSessions_apply (user : AuthUser) (s : AuthState) :
    logoutOtherSessions env user s = match keptSession user s with
      | .error e => (.error e, s)
      | .ok keep => (.ok (s.db.sessionsExcept user.id keep).length,
          if s.db.sessionsExcept user.id keep ≠ [] then
            withoutOthers env user.id (s.db.sessionsExcept user.id keep) s else s) := by
  rw [logoutOtherSessions, bind_currentTime]
  cases hkeep : keptSession user s with
  | error e => exact Handler.bind_of_error (Prod.ext hkeep rfl)
  | ok keep =>
      rw [Handler.bind_lookup_of_ok hkeep, Handler.bind_query]
      have hwhen : Handler.when (s.db.sessionsExcept user.id keep ≠ []) (do
          writeDb (AuthDb.revokeSessionsById user.id (s.db.sessionsExcept user.id keep) s.clock)
          let jtis ← .query fun s' => s'.db.getActiveAccessJtisForSessions
            (s.db.sessionsExcept user.id keep) s.clock
          blacklistAll env jtis
          writeDb (AuthDb.revokeRefreshTokensForSessions (s.db.sessionsExcept user.id keep)
            s.clock)
          markAllRevoked env (s.db.sessionsExcept user.id keep)) s =
          (.ok (), if s.db.sessionsExcept user.id keep ≠ [] then
            withoutOthers env user.id (s.db.sessionsExcept user.id keep) s else s) := by
        rw [Handler.when]
        split
        · rw [bind_writeDb, Handler.bind_query, Handler.bind_of_ok (blacklistAll_apply _ _),
            bind_writeDb, markAllRevoked_apply]
          rfl
        · rfl
      exact Handler.bind_of_ok hwhen

theorem logoutOtherSessions_eq_ok {user : AuthUser} {n : ℕ}
    (h : logoutOtherSessions env user s = (.ok n, s')) :
    ∃ keep, keptSession user s = .ok keep ∧ n = (s.db.sessionsExcept user.id keep).length ∧
      s' = if s.db.sessionsExcept user.id keep ≠ [] then
        withoutOthers env user.id (s.db.sessionsExcept user.id keep) s else s := by
  rw [logoutOtherSessions_apply] at h
  cases hkeep : keptSession user s with
  | error e =>
      rw [hkeep] at h
      exact nomatch (Prod.mk.inj h).1
  | ok keep =>
      rw [hkeep] at h
      obtain ⟨hn, hs'⟩ := Prod.mk.inj h
      exact ⟨keep, rfl, (Except.ok.inj hn).symm, hs'.symm⟩

/-- The state once all sessions of a user are invalidated. -/
def withoutSessions (env : AuthEnv) (userId : Id) (s : AuthState) : AuthState :=
  let raised := s.mapDb (AuthDb.incrementSessionSv userId)
  let sids := (raised.db.listActiveSessions userId s.clock).map Session.sessionId
  let jtis := raised.db.getActiveAccessJtis userId s.clock
  (((raised.blacklisted env jtis).mapDb (AuthDb.revokeAllForUser userId s.clock)).mapDb
    fun db => sids.foldl (fun db sid => db.revokeSession userId sid s.clock) db).marked env sids

variable (env) in
theorem invalidateAllSessionsForUser_apply (userId : Id) (s : AuthState) :
    ∃ count, invalidateAllSessionsForUser env userId s =
      (.ok count, withoutSessions env userId s) := by
  rw [invalidateAllSessionsForUser, bind_currentTime, bind_writeDb, Handler.bind_query,
    Handler.bind_query, Handler.bind_of_ok (blacklistAll_apply _ _), Handler.bind_query,
    bind_writeDb, bind_writeDb, Handler.bind_of_ok (markAllRevoked_apply _ _)]
  exact ⟨_, rfl⟩

theorem foldl_revokeSession_eq (userId : Id) (now : Instant) (sids : List Id)
    (db : AuthDb) :
    (sids.foldl (fun db sid => db.revokeSession userId sid now) db).refreshTokens =
      db.refreshTokens ∧
    (sids.foldl (fun db sid => db.revokeSession userId sid now) db).users = db.users ∧
    (sids.foldl (fun db sid => db.revokeSession userId sid now) db).issuedAccess =
      db.issuedAccess := by
  induction sids generalizing db with
  | nil => exact ⟨rfl, rfl, rfl⟩
  | cons sid sids ih => exact ih _

/-! ### What a login leaves alone -/

section Frame

variable {user : User} {password : String} {userId : Id} {now : Instant} {db : AuthDb}

@[simp] theorem limitedDb_users : (limitedDb userId now db).users = db.users := by
  rw [limitedDb]
  split <;> rfl

@[simp] theorem limitedDb_organizations :
    (limitedDb userId now db).organizations = db.organizations := by
  rw [limitedDb]
  split <;> rfl

@[simp] theorem limitedDb_drivers : (limitedDb userId now db).drivers = db.drivers := by
  rw [limitedDb]
  split <;> rfl

@[simp] theorem limitedDb_sessions : (limitedDb userId now db).sessions = db.sessions := by
  rw [limitedDb]
  split <;> rfl

theorem revokeTokensWhere_find? (p : RefreshToken → Bool) (hash : String) :
    (db.revokeTokensWhere now p).refreshTokens.find? hash =
      (db.refreshTokens.find? hash).map fun rt => if p rt then rt.revoke now else rt := by
  rw [AuthDb.revokeTokensWhere, Table.find?_mapRows]

theorem limitedDb_find?_eq_none {hash : String} :
    (limitedDb userId now db).refreshTokens.find? hash = none ↔
      db.refreshTokens.find? hash = none := by
  rw [limitedDb]
  split
  · rw [AuthDb.revokeOldestKeeping, revokeTokensWhere_find?, Option.map_eq_none_iff]
  · rfl

theorem withLogin_users : (withLogin env ctx user s).db.users = s.db.users :=
  limitedDb_users

theorem withLogin_organizations :
    (withLogin env ctx user s).db.organizations = s.db.organizations :=
  limitedDb_organizations

theorem withLogin_drivers : (withLogin env ctx user s).db.drivers = s.db.drivers :=
  limitedDb_drivers

@[simp] theorem driverDb_users : (driverDb ctx user db).users = db.users := by
  rw [driverDb, withDriver]
  split_ifs <;> rfl

@[simp] theorem driverDb_organizations :
    (driverDb ctx user db).organizations = db.organizations := by
  rw [driverDb, withDriver]
  split_ifs <;> rfl

@[simp] theorem driverDb_sessions : (driverDb ctx user db).sessions = db.sessions := by
  rw [driverDb, withDriver]
  split_ifs <;> rfl

@[simp] theorem driverDb_refreshTokens :
    (driverDb ctx user db).refreshTokens = db.refreshTokens := by
  rw [driverDb, withDriver]
  split_ifs <;> rfl

theorem updateLastLogin_users :
    (db.updateLastLogin userId now).users =
      db.users.modify userId (fun u => { u with lastLogin := some now }) fun _ => rfl := rfl

theorem updateLastLogin_drivers : (db.updateLastLogin userId now).drivers = db.drivers := rfl

theorem updateLastLogin_organizations :
    (db.updateLastLogin userId now).organizations = db.organizations := rfl

/-- A login writes to its own driver only. -/
theorem driverDb_find?_of_ne (h : userId ≠ user.id) :
    (driverDb ctx user db).drivers.find? userId = db.drivers.find? userId := by
  rw [driverDb, withDriver]
  split_ifs
  · rw [AuthDb.activateDriverOnLogin]
    exact Table.find?_modify_of_ne db.drivers _ (fun _ => by split <;> rfl) h
  · rfl
  · rfl

@[simp] theorem preparedDb_drivers : (preparedDb env user password db).drivers = db.drivers := by
  rfl

@[simp] theorem preparedDb_organizations :
    (preparedDb env user password db).organizations = db.organizations := by
  rfl

@[simp] theorem preparedDb_sessions :
    (preparedDb env user password db).sessions = db.sessions := by
  rfl

@[simp] theorem preparedDb_refreshTokens :
    (preparedDb env user password db).refreshTokens = db.refreshTokens := by
  rfl

theorem preparedUser_sessionSv (u : User) :
    (preparedUser env user password u).sessionSv = u.sessionSv := by
  simp only [preparedUser]
  split_ifs <;> rfl

/-- What a login makes of its user. -/
def loggedIn (env : AuthEnv) (user : User) (password : String) (now : Instant) (u : User) :
    User :=
  { preparedUser env user password u with lastLogin := some now }

theorem loggedIn_id (u : User) : (loggedIn env user password now u).id = u.id :=
  preparedUser_id u

/-- Whoever has logged in has no failed attempts. -/
theorem loggedIn_failedLoginAttempts :
    (loggedIn env user password now user).failedLoginAttempts = 0 := by
  simp only [loggedIn, preparedUser]
  by_cases hfailed : 0 < user.failedLoginAttempts
  · simp only [if_pos hfailed]
    split_ifs <;> rfl
  · have hzero : user.failedLoginAttempts = 0 := Nat.eq_zero_of_not_pos hfailed
    simp only [if_neg hfailed]
    split_ifs <;> exact hzero

/-- **What a login writes to accounts**: to its user, and to its user's driver. -/
theorem login_accounts {email : String} (h : login env ctx email password s = (.ok tokens, s')) :
    ∃ user, LoginAllowed env ctx email s user ∧
      env.verifyPassword password user.passwordHash = true ∧
      (ctx.clientType = .driver → driverMayLogIn user s.db) ∧
      s'.db.users = s.db.users.modify user.id (loggedIn env user password s.clock)
        loggedIn_id ∧
      (∀ userId, userId ≠ user.id →
        s'.db.drivers.find? userId = s.db.drivers.find? userId) ∧
      s'.db.organizations = s.db.organizations := by
  obtain ⟨user, hallowed, hpassword, hlogin⟩ := login_eq_ok.mp h
  obtain ⟨hdriver, s₁, hissue, rfl⟩ := completeLogin_eq_ok.mp hlogin
  obtain ⟨-, -, -, rfl⟩ := issueTokens_eq_ok.mp hissue
  refine ⟨user, hallowed, hpassword, hdriver, ?_, fun userId hne => ?_, ?_⟩
  · have husers : (withLogin env ctx user (s.mapDb (checkedDb env ctx user password))).db.users =
        s.db.users.modify user.id (preparedUser env user password) preparedUser_id :=
      withLogin_users.trans driverDb_users
    rw [AuthState.mapDb_db, updateLastLogin_users, husers, Table.modify_modify]
    rfl
  · rw [AuthState.mapDb_db, updateLastLogin_drivers, withLogin_drivers, AuthState.mapDb_db,
      checkedDb, driverDb_find?_of_ne hne, preparedDb_drivers]
  · rw [AuthState.mapDb_db, updateLastLogin_organizations, withLogin_organizations,
      AuthState.mapDb_db, checkedDb, driverDb_organizations, preparedDb_organizations]

end Frame

end SwCouriers.Auth
