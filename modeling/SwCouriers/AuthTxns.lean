import SwCouriers.AuthEffects
import SwCouriers.Lib.RowLocks

/-!
# Sessions and Tokens, Statement by Statement

`login`, `refresh_tokens` and the three logouts as transactions whose statements interleave with
those of others. `Auth` has the same operations as they run alone; here each query is a
statement of its own, which reads what is committed when it runs, together with the writes that
the transaction has made before (`fun s => q (w s)`).

An `UPDATE` of a row by its key waits for the row and looks at its latest version. An `UPDATE` of
all tokens of some sessions or of a user finds its rows when it begins, and waits for them one
after the other. Both compare with a time that was read before. An insertion claims its entries
of the unique indexes. The identifiers that `uuid4` draws are arguments of the call (`Draw`). What
is written to Redis is left out: of it a refresh reads only whether the user is suspended.

`AuthLock.revoking` and `AuthLock.taking` are no locks of the database. With the first a
transaction marks that its update has looked for the tokens of sessions that it revokes, with the
second that it has begun to exchange a token. They carry the transaction that does, so nobody
ever waits for them. `AuthStore.exchanged` records the refresh tokens that were exchanged for new
ones.

## Main definitions

* `login`, `refreshTokens`, `logoutSession`, `logoutOtherSessions`, `logoutAll`: the operations.
* `AuthCall.txn`: one request as a transaction.
-/

namespace SwCouriers.AuthTxns

open Checked ReadCommitted Auth

/-- The committed store, with the hashes of the refresh tokens that were exchanged. -/
structure AuthStore extends AuthState where
  exchanged : List String

/-- The sessions of a user that a logout revokes. -/
structure Scope where
  userId : Id
  sids : List Id
  deriving DecidableEq

/-- The token belongs to one of the sessions. -/
def Scope.covers (scope : Scope) (rt : RefreshToken) : Bool :=
  rt.userId = scope.userId && rt.ofSessions scope.sids

/-- What a transaction can lock, and the marks of the transaction `t` (see above). -/
inductive AuthLock (T : Type) where
  | token (hash : String)
  /-- `refresh_tokens_token_hash_key`. -/
  | newToken (hash : String)
  | session (sid : Id)
  /-- `sessions_pkey`. -/
  | newSession (sid : Id)
  | user (id : Id)
  | driver (userId : Id)
  | revoking (t : T) (scope : Scope)
  | taking (t : T) (hash : String)
  deriving DecidableEq

/-- A part of a transaction. -/
abbrev AuthTxn (T α : Type) := Txn AuthStore (AuthLock T) ServiceError α

/-- The identifiers that `uuid4` draws for a request. -/
structure Draw where
  sessionId : Id
  accessJti : Id
  refreshJti : Id

namespace AuthStore

/-- A change of the tables. -/
def mapDb (f : AuthDb → AuthDb) (s : AuthStore) : AuthStore := { s with db := f s.db }

/-- The refresh tokens. -/
def tokens (s : AuthStore) : Table RefreshToken.tokenHash := s.db.refreshTokens

/-- The sessions. -/
def sessionRows (s : AuthStore) : Table Session.sessionId := s.db.sessions

end AuthStore

/-! ### Rows that are added -/

section

variable (env : AuthEnv) (ctx : RequestContext) (draw : Draw) (now : Instant)

/-- The session that `create_session` adds. -/
def newSession (userId : Id) : Session where
  sessionId := draw.sessionId
  userId := userId
  revoked := false
  revokedAt := none
  lastSeenAt := some now
  inactivityExpiresAt := some (now + env.refreshTtl)
  userAgent := ctx.userAgent
  ipAddress := ctx.ipAddress

/-- The claims of the refresh token that is issued. -/
def newJwt (user : Auth.User) : RefreshJwt :=
  ⟨draw.refreshJti, user.id, ctx.clientType, (now + env.refreshTtl) / second⟩

/-- The row of the refresh token that is issued. -/
def newToken (user : Auth.User) (sid : Id) : RefreshToken where
  tokenHash := env.hashToken (newJwt env ctx draw now user)
  userId := user.id
  accessJti := some draw.accessJti
  expiresAt := now + env.refreshTtl
  revoked := false
  revokedAt := none
  sessionId := some sid
  createdAt := now

/-- The access token that is issued with it. -/
def newAccess (user : Auth.User) (sid : Id) : AccessToken where
  jti := draw.accessJti
  sub := user.id
  role := user.role
  aud := ctx.clientType
  exp := (now + env.accessTtl) / second
  organizationId := user.organizationId
  sid := some sid
  sv := some user.sessionSv

/-- A session is added. -/
def addSession (userId : Id) (db : AuthDb) : AuthDb :=
  { db with sessions := db.sessions.insert (newSession env ctx draw now userId) }

/-- A pair of tokens is issued for a session, which is touched. -/
def addPair (user : Auth.User) (sid : Id) (db : AuthDb) : AuthDb :=
  { db with
    refreshTokens := db.refreshTokens.insert (newToken env ctx draw now user sid)
    issuedAccess := db.issuedAccess ++ [newAccess env ctx draw now user sid]
    issuedRefresh := db.issuedRefresh ++ [newJwt env ctx draw now user] }.touchSession env ctx sid
      now

end

/-! ### Statements -/

section

variable {T : Type}

/-- An update of a row of `users`. -/
def updateUser (userId : Id) : AuthTxn T Unit := .lock (.user userId) fun _ => .pure ()

/-- The update that revokes tokens: its clock and the tokens that it revokes. -/
def revokeTokens (t : T) (scope : Scope) (p : Instant → RefreshToken → Bool) :
    AuthTxn T (Instant × List String) := do
  let now ← Txn.query fun s => s.clock
  let taken ← .lock (.revoking t scope) fun s =>
    Txn.takeRows .token AuthStore.tokens (p now)
      ((s.tokens.rows.filter (p now)).map RefreshToken.tokenHash)
  return (now, taken)

/-- The update that revokes sessions of a user: the sessions that it revokes. -/
def revokeSessions (p : Session → Bool) : AuthTxn T (List Id) :=
  Txn.updateWhere .session AuthStore.sessionRows p

/-- What a transaction writes that revokes tokens and sessions. -/
def revoked (userId : Id) (now : Instant) (hashes : List String) (sids : List Id) (db : AuthDb) :
    AuthDb :=
  (db.revokeTokensWhere now fun rt => rt.tokenHash ∈ hashes).revokeSessionsById userId sids now

/-- What makes room when a user has as many tokens as are allowed: the tokens that it revokes,
which are found after the writes `w`. -/
def limitActiveSessions (userId : Id) (w : AuthDb → AuthDb) : AuthTxn T (List String) := do
  let full ← Txn.query fun s =>
    decide (maxActiveSessionsPerUser ≤ (w s.db).countActiveForUser userId s.clock)
  if full then
    let oldest ← Txn.query fun s =>
      (w s.db).oldestActive userId (maxActiveSessionsPerUser - 1) s.clock
    Txn.takeRows .token AuthStore.tokens (fun rt => rt.tokenHash ∈ oldest) oldest
  else
    return []

/-- The entries of the unique indexes for a new session. -/
def claimSession (draw : Draw) : AuthTxn T Unit :=
  Txn.claim (.newSession draw.sessionId)
    (fun s => (s.db.sessions.find? draw.sessionId).isSome) (.integrity "sessions_pkey")

/-- The entry of the unique index for a new refresh token. -/
def claimToken (hash : String) : AuthTxn T Unit :=
  Txn.claim (.newToken hash) (fun s => (s.db.refreshTokens.find? hash).isSome)
    (.integrity "refresh_tokens_token_hash_key")

end

/-! ### Login -/

section

variable {T : Type} (env : AuthEnv) (ctx : RequestContext) (draw : Draw)

/-- The check of the driver's account. -/
def checkDriverLogin (user : Auth.User) : AuthTxn T Unit := do
  let driver ← Txn.statement fun s => orRaise (s.db.drivers.find? user.id)
    (.authentication invalidCredentialsMessage)
  let _ ← Txn.check (raiseIf (driver.accountStatus ≠ .active ∧
    driver.accountStatus ≠ .pendingActivation) (.authentication invalidCredentialsMessage))
  if driver.accountStatus = .pendingActivation then .lock (.driver user.id) fun _ => .pure ()
  else return ()

/-- What a login writes. -/
def loggedInDb (user : Auth.User) (password : String) (now : Instant) (oldest : List String)
    (db : AuthDb) : AuthDb :=
  ((addPair env ctx draw now user draw.sessionId (addSession env ctx draw now user.id
    ((checkedDb env ctx user password db).revokeTokensWhere now
      fun rt => rt.tokenHash ∈ oldest))).updateLastLogin user.id now)

/-- What a login does once the password is right. -/
def completeLogin (user : Auth.User) (password : String) : AuthTxn T (AuthStore → AuthStore) := do
  let now ← Txn.query fun s => s.clock
  if 0 < user.failedLoginAttempts ∨ env.checkNeedsRehash user.passwordHash = true ∨
      isInactivityReactivatable user = true then updateUser user.id
  if ctx.clientType = .driver then checkDriverLogin user
  let oldest ← limitActiveSessions user.id id
  claimSession draw
  claimToken (env.hashToken (newJwt env ctx draw now user))
  updateUser user.id
  return AuthStore.mapDb (loggedInDb env ctx draw user password now oldest)

/-- `login`. -/
def login (email password : String) : AuthTxn T (AuthStore → AuthStore) := do
  let user ← Txn.statement fun s => do
    let user ← orRaise (s.db.findByEmail env email) (.authentication invalidCredentialsMessage)
    raiseIf (user.lockedUntil.any fun until_ => s.clock < until_)
      (.authentication invalidCredentialsMessage)
    checkLoginStatus user
    return user
  let _ ← Txn.statement fun s => assertB2bPortalAccess user ctx.clientType s.toAuthState
  let _ ← Txn.check (verifyClientTypeForRole ctx.clientType user.role)
  if env.verifyPassword password user.passwordHash then completeLogin env ctx draw user password
  else .lock (.user user.id) fun _ => .raise (.authentication invalidCredentialsMessage)

/-! ### Refreshing -/

/-- The refresh token is taken: it is revoked. -/
def taken (hash : String) (now : Instant) (db : AuthDb) : AuthDb :=
  db.revokeTokensWhere now fun rt => rt.tokenHash = hash

/-- The session of a refresh token; one from before sessions gets a new one. -/
def withOwnSession (userId : Id) (record : RefreshToken) (now : Instant) (db : AuthDb) : AuthDb :=
  if record.sessionId.isSome then db
  else (addSession env ctx draw now userId db).attachSessionIdIfMissing record.tokenHash
    draw.sessionId

/-- What a refresh writes. -/
def refreshedDb (user : Auth.User) (record : RefreshToken) (now : Instant) (oldest : List String)
    (db : AuthDb) : AuthDb :=
  let opened := withOwnSession env ctx draw user.id record now (taken record.tokenHash now db)
  addPair env ctx draw now user (record.sessionId.getD draw.sessionId)
    (opened.revokeTokensWhere now fun rt => rt.tokenHash ∈ oldest)

/-- `refresh_tokens` once the token is taken. -/
def completeRefresh (user : Auth.User) (record : RefreshToken) (now : Instant) :
    AuthTxn T (AuthStore → AuthStore) := do
  if record.sessionId = none then claimSession draw
  let oldest ← limitActiveSessions user.id (taken record.tokenHash now)
  claimToken (env.hashToken (newJwt env ctx draw now user))
  Txn.lock (.session (record.sessionId.getD draw.sessionId)) fun _ => .pure ()
  return fun s => { s with
    db := refreshedDb env ctx draw user record now oldest s.db
    exchanged := s.exchanged ++ [record.tokenHash] }

/-- The row of the presented token, after the checks that come before it is taken. -/
def presentedToken (raw : RefreshJwt) : AuthTxn T RefreshToken := do
  let _ ← Txn.statement fun s => decodeRefresh raw s.toAuthState
  let _ ← Txn.statement fun s => raiseIf (s.isUserSuspended raw.sub = true)
    (.authentication "Your account has been suspended. Please contact support.")
  let record ← Txn.statement fun s => orRaise (s.db.refreshTokens.find? (env.hashToken raw))
    (.authentication "Refresh token not found")
  let _ ← Txn.check (raiseIf (record.revoked = true)
    (.authentication "Refresh token is no longer valid. Please log in again."))
  let expired ← Txn.query fun s => decide (record.expiresAt < s.clock)
  if expired then
    .lock (.token record.tokenHash) fun _ => .raise (.authentication "Refresh token has expired")
  else return record

/-- `revoke_if_active`: the time at which the token was taken. -/
def revokeIfActive (t : T) (hash : String) : AuthTxn T Instant :=
  .lock (.taking t hash) fun s => do
    let _ ← Txn.lockRow (.token hash) fun s' =>
      raiseIf (¬ ((s'.db.refreshTokens.find? hash).any fun rt => rt.isActive s.clock) = true)
        (.authentication
          ("Refresh token was already used. If you opened multiple tabs, use the latest session " ++
            "or log in again."))
    return s.clock

/-- `refresh_tokens`. -/
def refreshTokens (t : T) (raw : RefreshJwt) : AuthTxn T (AuthStore → AuthStore) := do
  let record ← presentedToken env raw
  let now ← revokeIfActive t record.tokenHash
  let _ ← Txn.check (raiseIf (raw.aud ≠ ctx.clientType) (.authentication
    "Refresh token was issued for a different client. Use the correct app or portal."))
  let user ← Txn.statement fun s => activeUser raw.sub s.toAuthState
  let _ ← Txn.statement fun s => assertB2bPortalAccess user ctx.clientType s.toAuthState
  let _ ← Txn.check (verifyClientTypeForRole ctx.clientType user.role)
  completeRefresh env ctx draw user record now

end

/-! ### Logouts -/

section

variable {T : Type} (t : T)

/-- `logout_session`. -/
def logoutSession (user : AuthUser) (sid : Id) : AuthTxn T (AuthStore → AuthStore) := do
  let (now, hashes) ← revokeTokens t ⟨user.id, [sid]⟩ fun now rt =>
    rt.ofSessions [sid] && rt.isActive now
  let sids ← revokeSessions (AuthDb.unrevokedSession user.id sid)
  return AuthStore.mapDb (revoked user.id now hashes sids)

/-- The session that `logout_other_sessions` keeps. -/
def keptSession (user : AuthUser) : AuthTxn T Id := do
  let tokenRef ← Txn.query fun s =>
    (s.db.findActiveByAccessJti user.id user.jti s.clock).bind RefreshToken.sessionId
  match tokenRef with
  | some sid => return sid
  | none =>
      Txn.statement fun s =>
        orRaise (user.sid.filter fun sid => s.db.sessionIsActiveForUser user.id sid)
          (.authentication "Session identifier missing; please log in again")

/-- `logout_other_sessions`. -/
def logoutOtherSessions (user : AuthUser) : AuthTxn T (AuthStore → AuthStore) := do
  let keep ← keptSession user
  let ids ← Txn.query fun s => s.db.sessionsExcept user.id keep
  if ids = [] then return id
  else do
    let sids ← revokeSessions fun x => x.userId = user.id && x.sessionId ∈ ids
    let (now, hashes) ← revokeTokens t ⟨user.id, ids⟩ fun now rt =>
      rt.ofSessions ids && rt.isActive now
    return AuthStore.mapDb (revoked user.id now hashes sids)

/-- `logout_all`. -/
def logoutAll (env : AuthEnv) (raw : RefreshJwt) : AuthTxn T (AuthStore → AuthStore) := do
  let record ← Txn.query fun s => s.db.refreshTokens.find? (env.hashToken raw)
  match record with
  | none => return id
  | some record => do
      updateUser record.userId
      let ids ← Txn.query fun s =>
        (s.db.listActiveSessions record.userId s.clock).map Session.sessionId
      let (now, hashes) ← revokeTokens t ⟨record.userId, ids⟩ fun _ rt =>
        rt.userId = record.userId && !rt.revoked
      let sids ← Txn.forEach (fun (sids : List Id) sid => do
        let more ← revokeSessions (AuthDb.unrevokedSession record.userId sid)
        return sids ++ more) ids []
      return AuthStore.mapDb fun db =>
        revoked record.userId now hashes sids (db.incrementSessionSv record.userId)

end

/-! ### Requests -/

/-- What can be asked of the service; time may pass as well. -/
inductive AuthCall where
  | login (ctx : RequestContext) (draw : Draw) (email password : String)
  | refreshTokens (ctx : RequestContext) (draw : Draw) (raw : RefreshJwt)
  | logoutSession (user : AuthUser) (sid : Id)
  | logoutOtherSessions (user : AuthUser)
  | logoutAll (raw : RefreshJwt)
  | tick (elapsed : ℕ)

/-- A request as a transaction. -/
def AuthCall.txn {T : Type} (env : AuthEnv) (t : T) : AuthCall → AuthTxn T (AuthStore → AuthStore)
  | .login ctx draw email password => AuthTxns.login env ctx draw email password
  | .refreshTokens ctx draw raw => AuthTxns.refreshTokens env ctx draw t raw
  | .logoutSession user sid => AuthTxns.logoutSession t user sid
  | .logoutOtherSessions user => AuthTxns.logoutOtherSessions t user
  | .logoutAll raw => AuthTxns.logoutAll t env raw
  | .tick elapsed => .pure fun s => { s with clock := s.clock + elapsed }

/-! ### A sample store -/

/-- The refresh token that Ada was given. -/
def adaJwt : RefreshJwt := ⟨7, 1, .admin, Auth.plainEnv.refreshTtl / second⟩

/-- Ada at her laptop. -/
def adaContext : RequestContext := ⟨.admin, none, none⟩

/-- Her session. -/
def adaSession : Session where
  sessionId := 1
  userId := 1
  revoked := false
  revokedAt := none
  lastSeenAt := none
  inactivityExpiresAt := none
  userAgent := none
  ipAddress := none

/-- The row of her token. -/
def adaToken : RefreshToken where
  tokenHash := Auth.plainEnv.hashToken adaJwt
  userId := 1
  accessJti := some 6
  expiresAt := Auth.plainEnv.refreshTtl
  revoked := false
  revokedAt := none
  sessionId := some 1
  createdAt := 0

/-- Ada has logged in. -/
def adaStore : AuthStore where
  toAuthState := adaState.mapDb fun db => { db with
    sessions := db.sessions.insert adaSession
    refreshTokens := db.refreshTokens.insert adaToken
    issuedRefresh := [adaJwt] }
  exchanged := []

end SwCouriers.AuthTxns
