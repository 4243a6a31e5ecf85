import SwCouriers.Auth
import SwCouriers.Lib.Commands

/-!
# Resetting a Password

The three requests by which a user who has forgotten the password sets a new one: a one-time code
is asked for, the code is exchanged for a reset token, and the token is used once. The code, the
token and the pointer from the user to the token are kept in Redis, command by command; the
password is changed by one conditional update.

All of it is about one user. A token is a secret until the request that draws it answers, so no
caller has one before it is handed out. The marks `ResetLock.requesting`, `ResetLock.verifying` and
`ResetLock.confirming` are no locks: they say that the request `t` is between its first command and
the last that goes with it, and nobody ever waits for them.

## Main definitions

* `requestPasswordReset`, `verifyPasswordResetOtp`, `confirmPasswordReset`: the requests.
* `ResetCall.prog`: one request.
-/

namespace SwCouriers.PasswordReset

open Checked ReadCommitted Commands Auth

/-! ### The database and Redis -/

/-- The value of `pwd_reset_otp:{user_id}` and the end of its time to live. -/
structure ResetOtp where
  hash : String
  iat : ℤ
  expiresAt : Instant
  /-- Which of the codes issued so far it is. -/
  code : ℕ
  deriving DecidableEq

/-- The value of `pwd_reset_sess:{hash}` and the end of its time to live. -/
structure ResetSession where
  iat : ℤ
  expiresAt : Instant
  /-- Which code it was obtained from. -/
  code : ℕ
  /-- Whether the token may be known to a caller. -/
  handedOut : Bool
  deriving DecidableEq

/-- The value of `pwd_reset_user_session:{user_id}` and the end of its time to live. -/
structure ResetPointer where
  hash : String
  expiresAt : Instant
  deriving DecidableEq

/-- A password change: which code it goes back to, and how many codes had been issued. -/
structure PasswordChange where
  code : ℕ
  issued : ℕ
  deriving DecidableEq

/-- What is kept about the user. How many codes were issued and which changes were made is kept
by nobody. -/
structure ResetStore where
  clock : Instant
  passwordHash : String
  passwordChangedAt : Option Instant
  otp : Option ResetOtp
  sessions : String → Option ResetSession
  pointer : Option ResetPointer
  issued : ℕ
  changes : List PasswordChange

/-- The row of the user, and the marks of the request `t` (see above). -/
inductive ResetLock (T : Type) where
  | user
  | requesting (t : T)
  | verifying (t : T)
  | confirming (t : T) (session : ResetSession)
  deriving DecidableEq

/-- What the requests use: the digest of codes and tokens, `str.strip`, and the role of the user. -/
structure ResetEnv where
  hashToken : String → String
  strip : String → String
  role : Auth.UserRole

/-- `PASSWORD_RESET_EXPIRE_MINUTES`. -/
def passwordResetExpireMinutes : ℤ := 15

/-- `PASSWORD_RESET_SESSION_MINUTES`. -/
def passwordResetSessionMinutes : ℤ := 30

/-- How long a code can be used. -/
def otpTtl : ℤ := passwordResetExpireMinutes * 60 * second

/-- How long a reset token can be used. -/
def sessionTtl : ℤ := passwordResetSessionMinutes * 60 * second

namespace ResetStore

/-- The codes that have led to a password change. -/
def usedCodes (s : ResetStore) : List ℕ := s.changes.map PasswordChange.code

/-- `GET` of the pointer. -/
def readPointer (s : ResetStore) : Option String :=
  (s.pointer.filter fun p => s.clock < p.expiresAt).map ResetPointer.hash

/-- `GET` of the code, if it is the one with this digest. -/
def readOtp (hash : String) (s : ResetStore) : Option ResetOtp :=
  s.otp.filter fun o => s.clock < o.expiresAt && o.hash = hash

/-- `GET` of the session of a token that a caller has. -/
def readSession (hash : String) (s : ResetStore) : Option ResetSession :=
  (s.sessions hash).filter fun e => s.clock < e.expiresAt && e.handedOut

/-- The condition of `atomic_password_reset`. -/
def unchangedSince (e : ResetSession) (s : ResetStore) : Bool :=
  s.passwordChangedAt.all fun changedAt => changedAt ≤ e.iat * second

/-- `SET` of a new code. -/
def setOtp (hash : String) (iat : ℤ) (s : ResetStore) : ResetStore :=
  { s with otp := some ⟨hash, iat, s.clock + otpTtl, s.issued + 1⟩, issued := s.issued + 1 }

/-- `DEL` of the code. -/
def deleteOtp (s : ResetStore) : ResetStore := { s with otp := none }

/-- `SET` of the session of a token. -/
def setSession (hash : String) (iat : ℤ) (code : ℕ) (s : ResetStore) : ResetStore :=
  { s with
    sessions := Function.update s.sessions hash (some ⟨iat, s.clock + sessionTtl, code, false⟩) }

/-- `DEL` of the session of a token. -/
def deleteSession (hash : String) (s : ResetStore) : ResetStore :=
  { s with sessions := Function.update s.sessions hash none }

/-- `SET` of the pointer, after which the token is handed out. -/
def setPointer (hash : String) (s : ResetStore) : ResetStore :=
  { s with
    pointer := some ⟨hash, s.clock + sessionTtl⟩
    sessions := Function.update s.sessions hash
      ((s.sessions hash).map fun e => { e with handedOut := true }) }

/-- `DEL` of the pointer. -/
def deletePointer (s : ResetStore) : ResetStore := { s with pointer := none }

/-- What `atomic_password_reset` writes. -/
def changePassword (newHash : String) (now : Instant) (code : ℕ) (s : ResetStore) : ResetStore :=
  { s with
    passwordHash := newHash
    passwordChangedAt := some now
    changes := s.changes ++ [⟨code, s.issued⟩] }

end ResetStore

/-! ### Requests -/

section

variable {T : Type} (env : ResetEnv) (t : T)

/-- A part of a request. -/
abbrev ResetProg (T α : Type) := Prog ResetStore (ResetLock T) ServiceError α

/-- `_revoke_password_reset_session`, the first command of which may set a mark. -/
def revokePasswordResetSession (mark : Option (ResetLock T)) : ResetProg T Unit :=
  .command id (fun _ => mark) none fun s =>
    match s.readPointer with
    | none => .pure ()
    | some hash => do
        Prog.run (ResetStore.deleteSession hash)
        Prog.run ResetStore.deletePointer

/-- `_store_password_reset_otp`. -/
def storePasswordResetOtp (otp : String) : ResetProg T Unit :=
  .read fun s =>
    .command (ResetStore.setOtp (env.hashToken otp) (s.clock / second)) (fun _ => none)
      (some (.requesting t)) fun _ => .pure ()

/-- `_try_consume_password_reset_otp`. -/
def tryConsumePasswordResetOtp (otp : String) : ResetProg T (Option ResetOtp) :=
  .command id (fun s => (s.readOtp (env.hashToken otp)).map fun _ => .verifying t) none fun s =>
    match s.readOtp (env.hashToken otp) with
    | none => .pure none
    | some o => do
        Prog.run ResetStore.deleteOtp
        return some o

/-- `request_password_reset`, with the code that is drawn. -/
def requestPasswordReset (clientType : Auth.ClientType) (otp : String) : ResetProg T Unit :=
  if roleToClientType env.role ≠ clientType then
    .raise (invalid "Invalid email provided, please provide a valid email address.")
  else do
    revokePasswordResetSession (some (.requesting t))
    storePasswordResetOtp env t otp

/-- What `verify_password_reset_otp` answers when it fails. -/
def otpError : ServiceError := .authentication "Invalid or expired verification code"

/-- What `verify_password_reset_otp` does with a code that it has consumed. -/
def openResetSession (o : ResetOtp) (token : String) : ResetProg T Unit := do
  revokePasswordResetSession none
  .read fun s =>
    .command (ResetStore.setSession (env.hashToken token) (s.clock / second) o.code)
      (fun _ => none) none fun _ =>
        .command (ResetStore.setPointer (env.hashToken token)) (fun _ => none)
          (some (.verifying t)) fun _ => .pure ()

/-- `verify_password_reset_otp`, with the token that is drawn. -/
def verifyPasswordResetOtp (clientType : Auth.ClientType) (otp token : String) : ResetProg T Unit :=
  if roleToClientType env.role ≠ clientType then .raise otpError
  else do
    let consumed ← tryConsumePasswordResetOtp env t otp
    match consumed with
    | none => .raise otpError
    | some o => openResetSession env t o token

/-- What `confirm_password_reset` answers when it fails. -/
def sessionError : ServiceError := .authentication "Invalid or expired reset session"

/-- `confirm_password_reset`, with the digest of the new password. -/
def confirmPasswordReset (clientType : Auth.ClientType) (token newHash : String) :
    ResetProg T (ResetStore → ResetStore) :=
  let hash := env.hashToken (env.strip token)
  .command id (fun s => (s.readSession hash).map fun e => .confirming t e) none fun s =>
    match s.readSession hash with
    | none => .raise sessionError
    | some e =>
        if roleToClientType env.role ≠ clientType then .raise sessionError
        else .read fun s' =>
          .lock .user fun s'' =>
            if s''.unchangedSince e then do
              Prog.run (ResetStore.deleteSession hash)
              Prog.run ResetStore.deletePointer
              return ResetStore.changePassword newHash s'.clock e.code
            else .raise sessionError

/-- What is asked for the user; time may pass as well. -/
inductive ResetCall where
  | request (clientType : Auth.ClientType) (otp : String)
  | verify (clientType : Auth.ClientType) (otp token : String)
  | confirm (clientType : Auth.ClientType) (token newHash : String)
  | tick (elapsed : ℕ)

/-- A request. -/
def ResetCall.prog : ResetCall → ResetProg T (ResetStore → ResetStore)
  | .request clientType otp => do
      requestPasswordReset env t clientType otp
      return id
  | .verify clientType otp token => do
      verifyPasswordResetOtp env t clientType otp token
      return id
  | .confirm clientType token newHash => confirmPasswordReset env t clientType token newHash
  | .tick elapsed => .pure fun s => { s with clock := s.clock + elapsed }

end

/-- A store with no reset under way. -/
def noReset (clock : Instant) (passwordHash : String) (passwordChangedAt : Option Instant) :
    ResetStore where
  clock := clock
  passwordHash := passwordHash
  passwordChangedAt := passwordChangedAt
  otp := none
  sessions := fun _ => none
  pointer := none
  issued := 0
  changes := []

end SwCouriers.PasswordReset
