import Mathlib.Data.List.Sort
import SwCouriers.Common
import SwCouriers.Lib.Requests
import SwCouriers.Lib.Table

/-!
# Logins, Sessions and their Credentials

`AuthService`, with the repositories it uses and the dependency `_get_auth_user` that checks an
access token. A session of a device has refresh tokens, of which it rotates one for the next,
and access tokens, which live for a short time. What ends a session is spread over four
mechanisms: the rows of its refresh tokens, a blacklist of access tokens and a marker of the
session, which are kept in Redis for a while, and a version number of the user's sessions.

A request runs in a database session of its own: what it has written is committed when it
returns and rolled back when it raises, while Redis keeps what was written to it
(`inSession rollback`). Redis is available. A token is what its signature vouches for, so the
tokens that decode are those that the service has issued. The clock stands still during a
request. Passwords are hashed and verified by parameters; identifiers that `uuid4` draws are
new.

## Main definitions

* `AuthState`: the tables, Redis, the clock and the next identifier.
* `getAuthUser`: whom an access token stands for.
* `login`, `refreshTokens`, `listSessions`, `logoutOtherSessions`, `logoutSession`, `logout`,
  `logoutAll`, `changePassword`, `setPasswordAdmin`, `supportIssueTemporaryPassword`,
  `confirmPasswordReset`: the operations.
-/

namespace SwCouriers.Auth

open Checked Requests

/-! ### Rows and tokens -/

/-- `UserRole`. -/
inductive UserRole where
  | superAdmin | admin | warehouseStaff | driver | customerB2b | customerB2c
  deriving DecidableEq, Repr

/-- `ClientType`. -/
inductive ClientType where
  | admin | customerB2b | customerB2c | warehouse | driver
  deriving DecidableEq, Repr

/-- `ROLE_TO_CLIENT_TYPE`. -/
def roleToClientType : UserRole → ClientType
  | .superAdmin => .admin
  | .admin => .admin
  | .warehouseStaff => .warehouse
  | .driver => .driver
  | .customerB2b => .customerB2b
  | .customerB2c => .customerB2c

/-- `UserStatus`. -/
inductive UserStatus where
  | active | inactive | suspended | pendingVerification
  deriving DecidableEq, Repr

/-- `DriverAccountStatus`. -/
inductive DriverAccountStatus where
  | draft | pendingActivation | active | suspended | inactive
  deriving DecidableEq, Repr

/-- A row of `users`. -/
structure User where
  id : Id
  email : String
  passwordHash : String
  role : UserRole
  status : UserStatus
  inactiveReason : Option String
  failedLoginAttempts : ℕ
  lockedUntil : Option Instant
  sessionSv : ℤ
  passwordChangedAt : Option Instant
  forcePasswordChange : Bool
  organizationId : Option Id
  lastLogin : Option Instant
  deriving DecidableEq

/-- A row of `organizations`. -/
structure Organization where
  id : Id
  isSuspended : Bool
  deriving DecidableEq

/-- A row of `drivers`. -/
structure Driver where
  userId : Id
  accountStatus : DriverAccountStatus
  deriving DecidableEq

/-- A row of `sessions`. -/
structure Session where
  sessionId : Id
  userId : Id
  revoked : Bool
  revokedAt : Option Instant
  lastSeenAt : Option Instant
  inactivityExpiresAt : Option Instant
  userAgent : Option String
  ipAddress : Option String
  deriving DecidableEq

/-- A row of `refresh_tokens`. -/
structure RefreshToken where
  tokenHash : String
  userId : Id
  accessJti : Option Id
  expiresAt : Instant
  revoked : Bool
  revokedAt : Option Instant
  sessionId : Option Id
  createdAt : Instant
  deriving DecidableEq

/-- The claims of an access token. `exp` is in seconds. -/
structure AccessToken where
  jti : Id
  sub : Id
  role : UserRole
  aud : ClientType
  exp : ℤ
  organizationId : Option Id
  sid : Option Id
  sv : Option ℤ
  deriving DecidableEq

/-- The claims of a refresh token. -/
structure RefreshJwt where
  jti : Id
  sub : Id
  aud : ClientType
  exp : ℤ
  deriving DecidableEq

/-- The tables, with the tokens that were handed out. -/
structure AuthDb where
  users : Table User.id
  organizations : Table Organization.id
  drivers : Table Driver.userId
  sessions : Table Session.sessionId
  refreshTokens : Table RefreshToken.tokenHash
  issuedAccess : List AccessToken
  issuedRefresh : List RefreshJwt

/-- A password reset session: for whom it is, when it was made (in seconds) and its end. -/
structure ResetSession where
  userId : Id
  issuedAt : ℤ
  expiresAt : Instant
  deriving DecidableEq

/-- What Redis holds: markers with their ends, by key. -/
structure AuthRedis where
  tokenBlacklist : Id → Option Instant
  sessionRevoked : Id → Option Instant
  userSuspended : Id → Option Instant
  resetSessions : String → Option ResetSession

/-- The state that requests work on. -/
structure AuthState where
  db : AuthDb
  redis : AuthRedis
  clock : Instant
  nextUuid : Id

/-- What the service uses beside the state. -/
structure AuthEnv where
  /-- `JWT_ACCESS_TOKEN_EXPIRE_MINUTES`. -/
  accessMinutes : ℕ
  /-- `JWT_REFRESH_TOKEN_EXPIRE_DAYS`. -/
  refreshDays : ℕ
  /-- `str.lower`. -/
  lower : String → String
  verifyPassword : String → String → Bool
  hashPassword : String → String
  verify_hashPassword : ∀ password, verifyPassword password (hashPassword password) = true
  checkNeedsRehash : String → Bool
  /-- `validate_password_strength`: what is wrong with a password. -/
  validatePasswordStrength : String → Option String
  /-- `hash_token` of a refresh token. -/
  hashToken : RefreshJwt → String
  /-- `hash_token` of the text of a password reset token. -/
  hashResetToken : String → String
  maskIpAddress : Option String → Option String

/-- What a request is sent with. -/
structure RequestContext where
  clientType : ClientType
  userAgent : Option String
  ipAddress : Option String

/-- `AuthUser`. -/
structure AuthUser where
  id : Id
  role : UserRole
  clientType : ClientType
  jti : Id
  sid : Option Id
  sv : Option ℤ
  organizationId : Option Id
  deriving DecidableEq

/-- `TokenData`. -/
structure TokenData where
  accessToken : AccessToken
  refreshToken : RefreshJwt
  deriving DecidableEq

/-- A part of a request. -/
abbrev Service (α : Type) := Handler AuthState ServiceError α

/-- A rollback: the tables are as they were, while Redis and the clock are not. -/
def rollback (before after : AuthState) : AuthState := { after with db := before.db }

/-! ### Constants -/

/-- A second, in microseconds. -/
def second : ℤ := 1000000

/-- `MAX_LOGIN_ATTEMPTS`. -/
def maxLoginAttempts : ℕ := 5

/-- `LOCKOUT_DURATION_MINUTES`. -/
def lockoutDurationMinutes : ℤ := 15

/-- `MAX_ACTIVE_SESSIONS_PER_USER`. -/
def maxActiveSessionsPerUser : ℕ := 3

/-- `_INVALID_CREDENTIALS_MESSAGE`. -/
def invalidCredentialsMessage : String := "Invalid email or password"

/-- How long an access token lives, and what says that it was revoked. -/
def AuthEnv.accessTtl (env : AuthEnv) : ℤ := env.accessMinutes * 60 * second

/-- How long a refresh token lives. -/
def AuthEnv.refreshTtl (env : AuthEnv) : ℤ := env.refreshDays * 86400 * second

/-! ### Redis -/

/-- A key of Redis that ends at `expiry` exists at `now`. -/
def existsAt (now : Instant) (expiry : Option Instant) : Bool :=
  expiry.any fun e => decide (now < e)

namespace AuthState

/-- `is_token_blacklisted`. -/
def isTokenBlacklisted (s : AuthState) (jti : Id) : Bool :=
  existsAt s.clock (s.redis.tokenBlacklist jti)

/-- `is_session_revoked`. -/
def isSessionRevoked (s : AuthState) (sid : Id) : Bool :=
  existsAt s.clock (s.redis.sessionRevoked sid)

/-- `is_user_suspended`. -/
def isUserSuspended (s : AuthState) (userId : Id) : Bool :=
  existsAt s.clock (s.redis.userSuspended userId)

/-- `_blacklist_access_jti`. -/
def blacklistAccessJti (env : AuthEnv) (jti : Id) (s : AuthState) : AuthState :=
  let tokenBlacklist :=
    Function.update s.redis.tokenBlacklist jti (some (s.clock + env.accessTtl))
  { s with redis := { s.redis with tokenBlacklist := tokenBlacklist } }

/-- `mark_session_revoked`, for the life of an access token. -/
def markSessionRevoked (env : AuthEnv) (sid : Id) (s : AuthState) : AuthState :=
  let sessionRevoked :=
    Function.update s.redis.sessionRevoked sid (some (s.clock + env.accessTtl))
  { s with redis := { s.redis with sessionRevoked := sessionRevoked } }

/-- A change of the tables. -/
def mapDb (f : AuthDb → AuthDb) (s : AuthState) : AuthState := { s with db := f s.db }

end AuthState

/-! ### Repositories -/

/-- Not revoked and not expired. -/
def RefreshToken.isActive (now : Instant) (rt : RefreshToken) : Bool :=
  !rt.revoked && decide (now < rt.expiresAt)

/-- A refresh token of one of the given sessions. -/
def RefreshToken.ofSessions (sids : List Id) (rt : RefreshToken) : Bool :=
  rt.sessionId.any fun sid => sid ∈ sids

/-- What an update that revokes a refresh token writes. -/
def RefreshToken.revoke (now : Instant) (rt : RefreshToken) : RefreshToken :=
  { rt with revoked := true, revokedAt := some now }

/-- What an update that revokes a session writes. -/
def Session.revoke (now : Instant) (s : Session) : Session :=
  { s with revoked := true, revokedAt := some now }

namespace AuthDb

/-- `UPDATE refresh_tokens SET revoked … WHERE p`. -/
def revokeTokensWhere (now : Instant) (p : RefreshToken → Bool) (db : AuthDb) : AuthDb :=
  { db with
    refreshTokens := db.refreshTokens.mapRows (fun rt => if p rt then rt.revoke now else rt)
      fun rt => by split <;> rfl }

/-- `UPDATE sessions SET revoked … WHERE p`. -/
def revokeSessionsWhere (now : Instant) (p : Session → Bool) (db : AuthDb) : AuthDb :=
  { db with
    sessions := db.sessions.mapRows (fun s => if p s then s.revoke now else s)
      fun s => by split <;> rfl }

/-- An update of a user. -/
def modifyUser (userId : Id) (f : User → User) (hf : ∀ u, (f u).id = u.id) (db : AuthDb) :
    AuthDb :=
  { db with users := db.users.modify userId f hf }

/-- `find_by_email`. -/
def findByEmail (env : AuthEnv) (email : String) (db : AuthDb) : Option User :=
  db.users.rows.find? fun u => u.email = env.lower (strip email)

/-- `increment_failed_attempts`. -/
def incrementFailedAttempts (userId : Id) : AuthDb → AuthDb :=
  modifyUser userId (fun u => { u with failedLoginAttempts := u.failedLoginAttempts + 1 })
    fun _ => rfl

/-- `lock_account`. -/
def lockAccount (userId : Id) (lockedUntil : Instant) : AuthDb → AuthDb :=
  modifyUser userId (fun u => { u with lockedUntil := some lockedUntil }) fun _ => rfl

/-- `reset_failed_attempts`. -/
def resetFailedAttempts (userId : Id) : AuthDb → AuthDb :=
  modifyUser userId (fun u => { u with failedLoginAttempts := 0, lockedUntil := none })
    fun _ => rfl

/-- The update of the hash when its parameters are outdated. -/
def updatePasswordHash (userId : Id) (newHash : String) : AuthDb → AuthDb :=
  modifyUser userId (fun u => { u with passwordHash := newHash }) fun _ => rfl

/-- `reactivate_on_login`, for a user found inactive for inactivity. -/
def reactivateOnLogin (userId : Id) : AuthDb → AuthDb :=
  modifyUser userId (fun u =>
    if u.status = .inactive ∧ u.inactiveReason = some "INACTIVITY" then
      { u with status := .active, inactiveReason := none } else u)
    fun _ => by split <;> rfl

/-- `update_last_login`. -/
def updateLastLogin (userId : Id) (now : Instant) : AuthDb → AuthDb :=
  modifyUser userId (fun u => { u with lastLogin := some now }) fun _ => rfl

/-- `increment_session_sv`. -/
def incrementSessionSv (userId : Id) : AuthDb → AuthDb :=
  modifyUser userId (fun u => { u with sessionSv := u.sessionSv + 1 }) fun _ => rfl

/-- What a new password writes to its user. -/
def setPassword (userId : Id) (newHash : String) (now : Instant) (force : Bool) :
    AuthDb → AuthDb :=
  modifyUser userId (fun u => { u with
    passwordHash := newHash
    passwordChangedAt := some now
    forcePasswordChange := force }) fun _ => rfl

/-- `activate_driver_on_login`. -/
def activateDriverOnLogin (userId : Id) (db : AuthDb) : AuthDb :=
  { db with
    drivers := db.drivers.modify userId
      (fun d => if d.accountStatus = .pendingActivation then
        { d with accountStatus := .active } else d)
      fun _ => by split <;> rfl }

/-- `find_active_by_access_jti`. -/
def findActiveByAccessJti (userId jti : Id) (now : Instant) (db : AuthDb) :
    Option RefreshToken :=
  db.refreshTokens.rows.find? fun rt =>
    rt.userId = userId && rt.accessJti = some jti && rt.isActive now

/-- `count_active_for_user`. -/
def countActiveForUser (userId : Id) (now : Instant) (db : AuthDb) : ℕ :=
  db.refreshTokens.rows.countP fun rt => rt.userId = userId && rt.isActive now

/-- The active tokens of a user beyond the `keepCount` newest. -/
def oldestActive (userId : Id) (keepCount : ℕ) (now : Instant) (db : AuthDb) : List String :=
  let active := db.refreshTokens.rows.filter fun rt => rt.userId = userId && rt.isActive now
  ((active.insertionSort fun a b => b.createdAt ≤ a.createdAt).map
    RefreshToken.tokenHash).drop keepCount

/-- `revoke_oldest_keeping`. -/
def revokeOldestKeeping (userId : Id) (keepCount : ℕ) (now : Instant) (db : AuthDb) : AuthDb :=
  db.revokeTokensWhere now fun rt => rt.tokenHash ∈ db.oldestActive userId keepCount now

/-- `get_active_access_jtis`. -/
def getActiveAccessJtis (userId : Id) (now : Instant) (db : AuthDb) : List Id :=
  (db.refreshTokens.rows.filter fun rt => rt.userId = userId && rt.isActive now).filterMap
    RefreshToken.accessJti

/-- `get_active_access_jtis_for_sessions`. -/
def getActiveAccessJtisForSessions (sids : List Id) (now : Instant) (db : AuthDb) : List Id :=
  (db.refreshTokens.rows.filter fun rt => rt.ofSessions sids && rt.isActive now).filterMap
    RefreshToken.accessJti

/-- `revoke`. -/
def revokeToken (tokenHash : String) (now : Instant) : AuthDb → AuthDb :=
  revokeTokensWhere now fun rt => rt.tokenHash = tokenHash

/-- What `revoke_if_active` revokes. -/
def activeWithHash (tokenHash : String) (now : Instant) (rt : RefreshToken) : Bool :=
  rt.tokenHash = tokenHash && rt.isActive now

/-- `attach_session_id_if_missing`. -/
def attachSessionIdIfMissing (tokenHash : String) (sid : Id) (db : AuthDb) : AuthDb :=
  { db with
    refreshTokens := db.refreshTokens.modify tokenHash
      (fun rt => if rt.sessionId.isNone then { rt with sessionId := some sid } else rt)
      fun _ => by split <;> rfl }

/-- `revoke_all_for_user`. -/
def revokeAllForUser (userId : Id) (now : Instant) : AuthDb → AuthDb :=
  revokeTokensWhere now fun rt => rt.userId = userId && !rt.revoked

/-- `revoke_refresh_tokens_for_sessions`. -/
def revokeRefreshTokensForSessions (sids : List Id) (now : Instant) : AuthDb → AuthDb :=
  revokeTokensWhere now fun rt => rt.ofSessions sids && rt.isActive now

/-- `touch_session`. -/
def touchSession (env : AuthEnv) (ctx : RequestContext) (sid : Id) (now : Instant)
    (db : AuthDb) : AuthDb :=
  { db with
    sessions := db.sessions.modify sid
      (fun s => { s with
        lastSeenAt := some now
        inactivityExpiresAt := some (now + env.refreshTtl)
        userAgent := ctx.userAgent
        ipAddress := ctx.ipAddress })
      fun _ => rfl }

/-- `nulls_last` of a descending order. -/
def seenAfter : Option Instant → Option Instant → Bool
  | _, none => true
  | none, some _ => false
  | some x, some y => decide (y ≤ x)

/-- `list_active_sessions`. -/
def listActiveSessions (userId : Id) (now : Instant) (db : AuthDb) : List Session :=
  (db.sessions.rows.filter fun s => s.userId = userId && !s.revoked &&
    db.refreshTokens.rows.any fun rt =>
      rt.userId = userId && rt.sessionId = some s.sessionId && rt.isActive now).insertionSort
    fun a b => seenAfter a.lastSeenAt b.lastSeenAt = true

/-- `session_is_active_for_user`. -/
def sessionIsActiveForUser (userId sid : Id) (db : AuthDb) : Bool :=
  db.sessions.rows.any fun s => s.userId = userId && s.sessionId = sid && !s.revoked

/-- What `revoke_session` revokes. -/
def unrevokedSession (userId sid : Id) (s : Session) : Bool :=
  s.userId = userId && s.sessionId = sid && !s.revoked

/-- `revoke_session`. -/
def revokeSession (userId sid : Id) (now : Instant) : AuthDb → AuthDb :=
  revokeSessionsWhere now (unrevokedSession userId sid)

/-- The sessions that `revoke_sessions_except` finds. -/
def sessionsExcept (userId keep : Id) (db : AuthDb) : List Id :=
  (db.sessions.rows.filter fun s =>
    s.userId = userId && !s.revoked && s.sessionId ≠ keep).map Session.sessionId

/-- What `revoke_sessions_except` writes. -/
def revokeSessionsById (userId : Id) (sids : List Id) (now : Instant) : AuthDb → AuthDb :=
  revokeSessionsWhere now fun s => s.userId = userId && s.sessionId ∈ sids

end AuthDb

/-! ### Parts that operations share -/

/-- The clock of the request. -/
def currentTime : Service Instant := .query AuthState.clock

/-- `uuid4()`. -/
def uuid4 : Service Id := fun s => (.ok s.nextUuid, { s with nextUuid := s.nextUuid + 1 })

/-- A write to the tables. -/
def writeDb (f : AuthDb → AuthDb) : Service Unit := .write (AuthState.mapDb f)

/-- `_blacklist_access_jti` for each of a list. -/
def blacklistAll (env : AuthEnv) (jtis : List Id) : Service Unit :=
  .write fun s => jtis.foldl (fun s jti => s.blacklistAccessJti env jti) s

/-- `mark_session_revoked` for each of a list. -/
def markAllRevoked (env : AuthEnv) (sids : List Id) : Service Unit :=
  .write fun s => sids.foldl (fun s sid => s.markSessionRevoked env sid) s

/-- `verify_client_type_for_role`. -/
def verifyClientTypeForRole (clientType : ClientType) (role : UserRole) :
    Except ServiceError Unit :=
  raiseIf (clientType ≠ roleToClientType role) (.authentication
    "Client type not allowed for your role. Use the correct app or portal for your account.")

/-- `_assert_b2b_portal_access`. -/
def assertB2bPortalAccess (user : User) (clientType : ClientType) (s : AuthState) :
    Except ServiceError Unit :=
  raiseIf (clientType = .customerB2b ∧ user.role = .customerB2b ∧
      (user.organizationId.bind s.db.organizations.find?).any Organization.isSuspended)
    (.authentication invalidCredentialsMessage)

/-- `create_access_token`: the claims are those of the user, and `exp` is cut to seconds. -/
def createAccessToken (env : AuthEnv) (user : User) (clientType : ClientType) (sid : Id) :
    Service AccessToken := do
  let now ← currentTime
  let jti ← uuid4
  return {
    jti := jti
    sub := user.id
    role := user.role
    aud := clientType
    exp := (now + env.accessTtl) / second
    organizationId := user.organizationId
    sid := some sid
    sv := some user.sessionSv }

/-- `create_refresh_token`: the token, its hash and its end. -/
def createRefreshToken (env : AuthEnv) (user : User) (clientType : ClientType) :
    Service (RefreshJwt × String × Instant) := do
  let now ← currentTime
  let jti ← uuid4
  let expiresAt := now + env.refreshTtl
  let jwt : RefreshJwt := ⟨jti, user.id, clientType, expiresAt / second⟩
  return (jwt, env.hashToken jwt, expiresAt)

/-- `SessionRepository.create_session`. -/
def createSession (env : AuthEnv) (ctx : RequestContext) (userId : Id) : Service Id := do
  let now ← currentTime
  let sid ← uuid4
  .lookup fun s => raiseIf ((s.db.sessions.find? sid).isSome = true) (.integrity "sessions_pkey")
  let record : Session := {
    sessionId := sid
    userId := userId
    revoked := false
    revokedAt := none
    lastSeenAt := some now
    inactivityExpiresAt := some (now + env.refreshTtl)
    userAgent := ctx.userAgent
    ipAddress := ctx.ipAddress }
  writeDb fun db => { db with sessions := db.sessions.insert record }
  return sid

/-- `RefreshTokenRepository.create`. -/
def createToken (record : RefreshToken) : Service Unit := do
  .lookup fun s => raiseIf ((s.db.refreshTokens.find? record.tokenHash).isSome = true)
    (.integrity "refresh_tokens_token_hash_key")
  writeDb fun db => { db with refreshTokens := db.refreshTokens.insert record }

/-- The tokens of a session, as both `_issue_tokens` and `refresh_tokens` make them: an access
token and a refresh token that is stored with the identifier of the access token. -/
def issuePair (env : AuthEnv) (user : User) (clientType : ClientType) (sid : Id) :
    Service TokenData := do
  let now ← currentTime
  let accessToken ← createAccessToken env user clientType sid
  let (raw, tokenHash, expiresAt) ← createRefreshToken env user clientType
  createToken {
    tokenHash := tokenHash
    userId := user.id
    accessJti := some accessToken.jti
    expiresAt := expiresAt
    revoked := false
    revokedAt := none
    sessionId := some sid
    createdAt := now }
  writeDb fun db => { db with
    issuedAccess := db.issuedAccess ++ [accessToken]
    issuedRefresh := db.issuedRefresh ++ [raw] }
  return ⟨accessToken, raw⟩

/-- Older tokens make room when a user has as many as are allowed. -/
def limitActiveSessions (userId : Id) : Service Unit := do
  let now ← currentTime
  let activeCount ← .query fun s => s.db.countActiveForUser userId now
  .when (maxActiveSessionsPerUser ≤ activeCount)
    (writeDb fun db => db.revokeOldestKeeping userId (maxActiveSessionsPerUser - 1) now)

/-- `_issue_tokens`. -/
def issueTokens (env : AuthEnv) (ctx : RequestContext) (user : User) : Service TokenData := do
  let now ← currentTime
  limitActiveSessions user.id
  let sid ← createSession env ctx user.id
  let tokens ← issuePair env user ctx.clientType sid
  writeDb fun db => db.touchSession env ctx sid now
  return tokens

/-! ### Login -/

/-- A user who was made inactive for inactivity only. -/
def isInactivityReactivatable (user : User) : Bool :=
  user.status = .inactive && user.inactiveReason = some "INACTIVITY"

/-- The check of the account's status. -/
def checkLoginStatus (user : User) : Except ServiceError Unit :=
  if user.status ≠ .active ∧ isInactivityReactivatable user = false then
    match user.status with
    | .suspended => .error (.authentication
        "Your account has been suspended. Please contact support.")
    | .pendingVerification => .error (.authentication
        "Please Activate your account by clicking the link in the email we sent you.")
    | _ => .error (.authentication invalidCredentialsMessage)
  else .ok ()

/-- `_handle_failed_login`. -/
def handleFailedLogin (user : User) : Service Unit := do
  let now ← currentTime
  writeDb (AuthDb.incrementFailedAttempts user.id)
  let newCount ← .query fun s =>
    ((s.db.users.find? user.id).map User.failedLoginAttempts).getD 0
  .when (maxLoginAttempts ≤ newCount) (writeDb (AuthDb.lockAccount user.id
    (now + lockoutDurationMinutes * 60 * second)))

/-- The check of the driver's account, which is activated at the first login. -/
def checkDriverLogin (user : User) : Service Unit := do
  let driver ← .lookup fun s => orRaise (s.db.drivers.find? user.id)
    (.authentication invalidCredentialsMessage)
  .check (raiseIf (driver.accountStatus ≠ .active ∧ driver.accountStatus ≠ .pendingActivation)
    (.authentication invalidCredentialsMessage))
  .when (driver.accountStatus = .pendingActivation)
    (writeDb (AuthDb.activateDriverOnLogin user.id))

/-- What a login does once the password is right. -/
def completeLogin (env : AuthEnv) (ctx : RequestContext) (user : User) (password : String) :
    Service TokenData := do
  let now ← currentTime
  .when (0 < user.failedLoginAttempts) (writeDb (AuthDb.resetFailedAttempts user.id))
  .when (env.checkNeedsRehash user.passwordHash = true)
    (writeDb (AuthDb.updatePasswordHash user.id (env.hashPassword password)))
  .when (isInactivityReactivatable user = true) (writeDb (AuthDb.reactivateOnLogin user.id))
  .when (ctx.clientType = .driver) (checkDriverLogin user)
  let tokens ← issueTokens env ctx user
  writeDb (AuthDb.updateLastLogin user.id now)
  return tokens

/-- `login`. -/
def login (env : AuthEnv) (ctx : RequestContext) (email password : String) :
    Service TokenData := do
  let now ← currentTime
  let user ← .lookup fun s => orRaise (s.db.findByEmail env email)
    (.authentication invalidCredentialsMessage)
  .check (raiseIf (user.lockedUntil.any fun until_ => now < until_)
    (.authentication invalidCredentialsMessage))
  .check (checkLoginStatus user)
  .lookup (assertB2bPortalAccess user ctx.clientType)
  .check (verifyClientTypeForRole ctx.clientType user.role)
  if env.verifyPassword password user.passwordHash then completeLogin env ctx user password
  else do
    handleFailedLogin user
    .raise (.authentication invalidCredentialsMessage)

/-! ### Requests -/

/-- Time passes. -/
def AuthState.tick (elapsed : ℕ) (s : AuthState) : AuthState :=
  { s with clock := s.clock + elapsed }

/-- A request, some time after the one before it, in a database session of its own. -/
def submit {α : Type} (elapsed : ℕ) (m : Service α) (s : AuthState) :
    Except ServiceError α × AuthState :=
  inSession rollback m (s.tick elapsed)

/-! ### Tokens that are presented -/

/-- `decode_token` of an access token. -/
def decodeAccess (tok : AccessToken) (s : AuthState) : Except ServiceError Unit := do
  raiseIf (tok ∉ s.db.issuedAccess) (.authentication "Invalid access token")
  raiseIf (tok.exp * second ≤ s.clock) (.authentication "Access token has expired")

/-- The check of the session version in an access token. -/
def checkSessionVersion (tok : AccessToken) (s : AuthState) : Except ServiceError Unit :=
  match tok.sv with
  | none => .ok ()
  | some sv => do
      let user ← orRaise (s.db.users.find? tok.sub) (.authentication "User not found")
      raiseIf (sv ≠ user.sessionSv) (.authentication "Session has been revoked")

/-- `_get_auth_user`. -/
def getAuthUser (clientType : ClientType) (tok : AccessToken) (s : AuthState) :
    Except ServiceError AuthUser := do
  decodeAccess tok s
  raiseIf (s.isTokenBlacklisted tok.jti = true) (.authentication "Token has been revoked")
  raiseIf ((tok.sid.any fun sid => s.isSessionRevoked sid) = true)
    (.authentication "Session has been revoked")
  raiseIf (s.isUserSuspended tok.sub = true)
    (.authentication "Your account has been suspended. Please contact support.")
  raiseIf (tok.aud ≠ clientType) (.authentication
    "Token was issued for a different client. Use the correct app or portal.")
  checkSessionVersion tok s
  raiseIf (roleToClientType tok.role ≠ clientType)
    (.authentication "Role/client type mismatch")
  return {
    id := tok.sub
    role := tok.role
    clientType := clientType
    jti := tok.jti
    sid := tok.sid
    sv := tok.sv.filter fun sv => decide (0 ≤ sv)
    organizationId := tok.organizationId }

/-- `decode_token` of a refresh token. -/
def decodeRefresh (raw : RefreshJwt) (s : AuthState) : Except ServiceError Unit :=
  raiseIf (raw ∉ s.db.issuedRefresh ∨ raw.exp * second ≤ s.clock)
    (.authentication "Invalid refresh token")

/-- `revoke_if_active`: whether the token was active, and no longer is. -/
def revokeIfActive (tokenHash : String) : Service Bool := do
  let now ← currentTime
  let active ← .query fun s => s.db.refreshTokens.rows.any (AuthDb.activeWithHash tokenHash now)
  writeDb (AuthDb.revokeTokensWhere now (AuthDb.activeWithHash tokenHash now))
  return active

/-- The session of a refresh token; a token from before sessions gets one. -/
def sessionOf (env : AuthEnv) (ctx : RequestContext) (userId : Id) (record : RefreshToken) :
    Service Id :=
  match record.sessionId with
  | some sid => pure sid
  | none => do
      let sid ← createSession env ctx userId
      writeDb (AuthDb.attachSessionIdIfMissing record.tokenHash sid)
      return sid

/-- The refresh token's row, after the checks that `refresh_tokens` makes before it takes it. -/
def presentedToken (env : AuthEnv) (raw : RefreshJwt) : Service RefreshToken := do
  let now ← currentTime
  .lookup (decodeRefresh raw)
  .lookup fun s => raiseIf (s.isUserSuspended raw.sub = true)
    (.authentication "Your account has been suspended. Please contact support.")
  let record ← .lookup fun s => orRaise (s.db.refreshTokens.find? (env.hashToken raw))
    (.authentication "Refresh token not found")
  .check (raiseIf (record.revoked = true)
    (.authentication "Refresh token is no longer valid. Please log in again."))
  .when (record.expiresAt < now) (do
    writeDb (AuthDb.revokeToken (env.hashToken raw) now)
    .raise (.authentication "Refresh token has expired"))
  return record

/-- The user of a refresh token, who has to be active. -/
def activeUser (userId : Id) (s : AuthState) : Except ServiceError User := do
  let user ← orRaise (s.db.users.find? userId) (.authentication "User account is not active")
  raiseIf (user.status ≠ .active) (.authentication "User account is not active")
  return user

/-- `refresh_tokens`. -/
def refreshTokens (env : AuthEnv) (ctx : RequestContext) (raw : RefreshJwt) :
    Service TokenData := do
  let now ← currentTime
  let record ← presentedToken env raw
  let revokedOk ← revokeIfActive (env.hashToken raw)
  .check (raiseIf (revokedOk = false) (.authentication
    ("Refresh token was already used. If you opened multiple tabs, use the latest session or "
      ++ "log in again.")))
  .check (raiseIf (raw.aud ≠ ctx.clientType) (.authentication
    "Refresh token was issued for a different client. Use the correct app or portal."))
  let user ← .lookup (activeUser raw.sub)
  .lookup (assertB2bPortalAccess user ctx.clientType)
  .check (verifyClientTypeForRole ctx.clientType user.role)
  let sid ← sessionOf env ctx raw.sub record
  limitActiveSessions raw.sub
  let tokens ← issuePair env user ctx.clientType sid
  writeDb fun db => db.touchSession env ctx sid now
  return tokens

/-! ### Sessions -/

/-- `SessionDevice`; what it says of the browser and the place is read off the user agent and
the address. -/
structure SessionDevice where
  sessionId : Id
  userAgent : Option String
  ipAddress : Option String
  lastSeenAt : Option Instant
  inactivityExpiresAt : Option Instant
  current : Bool
  deriving DecidableEq

/-- `list_sessions`. -/
def listSessions (env : AuthEnv) (user : AuthUser) : Service (List SessionDevice) := do
  let now ← currentTime
  let sessions ← .query fun s => s.db.listActiveSessions user.id now
  return sessions.map fun s => {
    sessionId := s.sessionId
    userAgent := s.userAgent
    ipAddress := env.maskIpAddress s.ipAddress
    lastSeenAt := s.lastSeenAt
    inactivityExpiresAt := s.inactivityExpiresAt
    current := user.sid = some s.sessionId }

/-- The session that `logout_other_sessions` keeps. -/
def keptSession (user : AuthUser) (s : AuthState) : Except ServiceError Id :=
  match (s.db.findActiveByAccessJti user.id user.jti s.clock).bind RefreshToken.sessionId with
  | some sid => .ok sid
  | none =>
      match user.sid.filter fun sid => s.db.sessionIsActiveForUser user.id sid with
      | some sid => .ok sid
      | none => .error (.authentication "Session identifier missing; please log in again")

/-- `logout_other_sessions`. -/
def logoutOtherSessions (env : AuthEnv) (user : AuthUser) : Service ℕ := do
  let now ← currentTime
  let keep ← .lookup (keptSession user)
  let revokedIds ← .query fun s => s.db.sessionsExcept user.id keep
  .when (revokedIds ≠ []) (do
    writeDb (AuthDb.revokeSessionsById user.id revokedIds now)
    let jtis ← .query fun s => s.db.getActiveAccessJtisForSessions revokedIds now
    blacklistAll env jtis
    writeDb (AuthDb.revokeRefreshTokensForSessions revokedIds now)
    markAllRevoked env revokedIds)
  return revokedIds.length

/-- `logout_session`. -/
def logoutSession (env : AuthEnv) (user : AuthUser) (sessionId : Id) : Service ℕ := do
  let now ← currentTime
  let jtis ← .query fun s => s.db.getActiveAccessJtisForSessions [sessionId] now
  blacklistAll env jtis
  writeDb (AuthDb.revokeRefreshTokensForSessions [sessionId] now)
  let revoked ← .query fun s =>
    s.db.sessions.rows.countP (AuthDb.unrevokedSession user.id sessionId)
  writeDb (AuthDb.revokeSession user.id sessionId now)
  markAllRevoked env [sessionId]
  return if revoked ≠ 0 then 1 else 0

/-- `logout`. -/
def logout (env : AuthEnv) (raw : RefreshJwt) : Service Unit := do
  let now ← currentTime
  let record ← .query fun s => s.db.refreshTokens.find? (env.hashToken raw)
  blacklistAll env (record.bind RefreshToken.accessJti).toList
  writeDb (AuthDb.revokeToken (env.hashToken raw) now)

/-- What `logout_all` and `_invalidate_all_sessions_for_user` share. -/
def invalidateAllSessionsForUser (env : AuthEnv) (userId : Id) : Service ℕ := do
  let now ← currentTime
  writeDb (AuthDb.incrementSessionSv userId)
  let sids ← .query fun s => (s.db.listActiveSessions userId now).map Session.sessionId
  let jtis ← .query fun s => s.db.getActiveAccessJtis userId now
  blacklistAll env jtis
  let count ← .query fun s =>
    s.db.refreshTokens.rows.countP fun rt => rt.userId = userId && !rt.revoked
  writeDb (AuthDb.revokeAllForUser userId now)
  writeDb fun db => sids.foldl (fun db sid => db.revokeSession userId sid now) db
  markAllRevoked env sids
  return count

/-- `logout_all`. -/
def logoutAll (env : AuthEnv) (raw : RefreshJwt) : Service ℕ := do
  match ← .query fun s => s.db.refreshTokens.find? (env.hashToken raw) with
  | none => return 0
  | some record => invalidateAllSessionsForUser env record.userId

/-! ### Passwords -/

/-- `change_password`. -/
def changePassword (env : AuthEnv) (userId : Id) (currentPassword newPassword : String) :
    Service Unit := do
  let now ← currentTime
  let user ← .lookup fun s => orRaise (s.db.users.find? userId)
    (.authentication "User not found")
  .check (raiseIf (env.verifyPassword currentPassword user.passwordHash = false)
    (.authentication "Current password is incorrect"))
  writeDb (AuthDb.setPassword userId (env.hashPassword newPassword) now false)
  writeDb (AuthDb.revokeAllForUser userId now)

/-- `set_password_admin`. -/
def setPasswordAdmin (env : AuthEnv) (userId : Id) (newPassword : String)
    (forcePasswordChange : Bool) (auditUserRole : Option UserRole) : Service Unit := do
  let now ← currentTime
  .check (raiseIf (auditUserRole ≠ some .admin)
    (.forbidden "Only administrators can change driver passwords directly"))
  let user ← .lookup fun s => orRaise (s.db.users.find? userId)
    (.authentication "User not found")
  .check (raiseIf (user.role ≠ .driver)
    (.forbidden "This endpoint can only change passwords for DRIVER users"))
  .check (match env.validatePasswordStrength newPassword with
    | some message => .error (invalid message)
    | none => .ok ())
  writeDb (AuthDb.setPassword userId (env.hashPassword newPassword) now forcePasswordChange)
  writeDb (AuthDb.revokeAllForUser userId now)

/-- `support_issue_temporary_password`, which also activates the account. -/
def supportIssueTemporaryPassword (env : AuthEnv) (actorId targetUserId : Id)
    (newPassword : String) : Service Unit := do
  let now ← currentTime
  .check (raiseIf (targetUserId = actorId)
    (.forbidden "You cannot issue a support password for your own account"))
  let user ← .lookup fun s => orRaise (s.db.users.find? targetUserId)
    (.notFound "user" (some targetUserId))
  .check (raiseIf (env.verifyPassword newPassword user.passwordHash = true)
    (invalid "New password must be different from the user's current password"))
  writeDb (AuthDb.setPassword targetUserId (env.hashPassword newPassword) now true)
  writeDb (AuthDb.modifyUser targetUserId (fun u => { u with status := .active }) fun _ => rfl)
  .when (user.role = .driver) (writeDb (AuthDb.activateDriverOnLogin targetUserId))
  let _ ← invalidateAllSessionsForUser env targetUserId

/-- `atomic_password_reset`: only if the password has not changed since the reset session. -/
def atomicPasswordReset (userId : Id) (newHash : String) (issuedAt : ℤ) : Service Bool := do
  let now ← currentTime
  let fits ← .query fun s => (s.db.users.find? userId).any fun u =>
    u.passwordChangedAt.all fun changed => decide (changed ≤ issuedAt * second)
  .when (fits = true) (writeDb (AuthDb.modifyUser userId
    (fun u => { u with passwordHash := newHash, passwordChangedAt := some now }) fun _ => rfl))
  return fits

/-- The reset session that a token names, if it is there. -/
def resetSessionOf (key : String) (s : AuthState) : Except ServiceError ResetSession :=
  orRaise ((s.redis.resetSessions key).filter fun r => decide (s.clock < r.expiresAt))
    (.authentication "Invalid or expired reset session")

/-- `confirm_password_reset`. -/
def confirmPasswordReset (env : AuthEnv) (ctx : RequestContext) (newPassword : String)
    (passwordResetToken : String) : Service Unit := do
  let now ← currentTime
  let key := env.hashResetToken (strip passwordResetToken)
  let reset ← .lookup (resetSessionOf key)
  let user ← .lookup fun s => orRaise (s.db.users.find? reset.userId)
    (.authentication "Invalid or expired reset session")
  .check (raiseIf (roleToClientType user.role ≠ ctx.clientType)
    (.authentication "Invalid or expired reset session"))
  let updated ← atomicPasswordReset reset.userId (env.hashPassword newPassword) reset.issuedAt
  .check (raiseIf (updated = false) (.authentication "Invalid or expired reset session"))
  .write fun s => { s with redis := { s.redis with
    resetSessions := Function.update s.redis.resetSessions key none } }
  writeDb (AuthDb.revokeAllForUser reset.userId now)

/-! ### A small service -/

/-- A service whose passwords are kept as they are. -/
def plainEnv : AuthEnv where
  accessMinutes := 15
  refreshDays := 7
  lower := id
  verifyPassword password hash := password = hash
  hashPassword := id
  verify_hashPassword := fun _ => decide_eq_true rfl
  checkNeedsRehash _ := false
  validatePasswordStrength _ := none
  hashToken jwt := toString jwt.jti
  hashResetToken := id
  maskIpAddress := id

/-- An administrator whose password is `"secret"`. -/
def ada : User where
  id := 1
  email := "ada"
  passwordHash := "secret"
  role := .admin
  status := .active
  inactiveReason := none
  failedLoginAttempts := 0
  lockedUntil := none
  sessionSv := 0
  passwordChangedAt := none
  forcePasswordChange := false
  organizationId := none
  lastLogin := none

/-- A state with one user, in which nobody has logged in. -/
def adaState : AuthState where
  db := {
    users := Table.empty.insert ada
    organizations := Table.empty
    drivers := Table.empty
    sessions := Table.empty
    refreshTokens := Table.empty
    issuedAccess := []
    issuedRefresh := [] }
  redis := ⟨fun _ => none, fun _ => none, fun _ => none, fun _ => none⟩
  clock := 0
  nextUuid := 10

end SwCouriers.Auth
