import Mathlib.Data.List.MinMax
import Mathlib.Logic.Function.Basic
import SwCouriers.Common
import SwCouriers.Lib.AttemptLimits
import SwCouriers.Lib.Requests
import SwCouriers.Lib.Table

/-!
# One-time Codes for Documents

Who wants to see a document has a code of six digits sent to a mailbox, and exchanges it for an
access token. `DocAccessService` and `ShareOtpService` do this in the same way, with the same
numbers: for a user and the kind of documents, and for an invited address and the link it was
invited to. Here is the part they share, over whoever a code is sent to.

The codes and the tokens are rows of the database, so a request that raises leaves them as they
were. The wrong codes are counted in Redis, and stay counted. What requests do to the store is said
once, by the events of `Event`; what is true of runs follows from `Next`.

## Main results

* `next_sendOtp`, `next_verifyOtp`: a request is one event.
* `Sound.next`: the codes of a holder keep within the quota, at most one of them can be used, and
  no more tokens than used codes are there.
* `Next.mem_otps`, `Next.mem_tokens`: codes and tokens come from events.
* `Next.guard`: what an event is for the counters of a holder.
-/

namespace SwCouriers.StepUp

open Checked Requests AttemptLimits

variable {K : Type}

/-! ### The store -/

/-- `DocOtp` and `ShareOtp`. -/
structure Otp (K : Type) where
  id : Id
  holder : K
  otpCode : String
  isUsed : Bool
  expiresAt : Instant
  createdAt : Instant
  deriving DecidableEq

/-- `DocAccessToken` and `ShareAccessToken`; the second kind is never revoked. -/
structure AccessToken (K : Type) where
  holder : K
  tokenHash : String
  expiresAt : Instant
  revokedAt : Option Instant
  deriving DecidableEq

/-- The codes and the tokens, with their unique keys, the counters in Redis, and the clock. -/
structure Store (K : Type) where
  otps : Table (Otp.id (K := K))
  tokens : Table (AccessToken.tokenHash (K := K))
  guards : K → Guard
  now : Instant

/-- Nothing was sent yet. -/
def Store.initial (now : Instant) : Store K := ⟨.empty, .empty, fun _ => .fresh, now⟩

/-- `secrets.token_hex` and `hash_token`. The tokens drawn are numbered, and have hashes of their
own. -/
structure Secrets where
  tokenHex : ℕ → String
  hashToken : String → String
  hash_injective : Function.Injective fun n => hashToken (tokenHex n)

/-- Tokens that can be told apart by their lengths, and are their own hashes. -/
def letterSecrets : Secrets where
  tokenHex n := String.ofList (List.replicate (n + 1) 'a')
  hashToken := id
  hash_injective := fun m n h => by
    have hlength := congrArg (fun text : String => text.toList.length) h
    simpa using hlength

/-- The constants of one of the two services. -/
structure Policy where
  otpTtlMinutes : ℕ
  tokenTtlSeconds : ℕ
  rateLimitMax : ℕ
  rateLimitWindowMinutes : ℕ
  verifyFailMax : ℕ
  lockoutSeconds : ℕ
  failWindowSeconds : ℕ
  lockedMessage : String

/-- What the services raise: `RateLimitError` has a time to wait with it, and `NotFoundError` may
name a link. -/
inductive AccessError where
  | service (error : ServiceError)
  | linkNotFound (resource shareToken : String)
  | rateLimit (message : String) (retryAfter : ℤ)
  deriving DecidableEq

/-- `AuthenticationError`. -/
def unauthenticated (message : String) : AccessError := .service (.authentication message)

/-- What is said about a code that does not do. -/
def invalidOtp : AccessError := unauthenticated "Invalid or expired OTP. Please request a new one."

/-- A second, in microseconds. -/
def seconds (n : ℕ) : ℤ := n * 1000000

namespace Policy

/-- How long a code can be used. -/
def otpTtl (policy : Policy) : ℤ := seconds (policy.otpTtlMinutes * 60)

/-- How long a token can be used. -/
def tokenTtl (policy : Policy) : ℤ := seconds policy.tokenTtlSeconds

/-- How far back the codes sent are counted. -/
def rateLimitWindow (policy : Policy) : ℤ := seconds (policy.rateLimitWindowMinutes * 60)

/-- The limits on wrong codes. -/
def limits (policy : Policy) : Limits :=
  ⟨seconds policy.failWindowSeconds, seconds policy.lockoutSeconds, policy.verifyFailMax⟩

/-- The text for too many codes. -/
def tooManyRequests (policy : Policy) : String :=
  "Too many OTP requests. Maximum " ++ toString policy.rateLimitMax ++ " per " ++
    toString policy.rateLimitWindowMinutes ++ " minutes. Please wait and try again."

end Policy

/-! ### Repositories -/

/-- A code that was not used and has not expired. -/
def Otp.isValid (now : Instant) (otp : Otp K) : Bool := !otp.isUsed && decide (now < otp.expiresAt)

/-- A code that meets `p` is used from now on. -/
def Otp.mark (p : Otp K → Bool) (otp : Otp K) : Otp K :=
  if p otp then { otp with isUsed := true } else otp

/-- A token that was not revoked and has not expired. -/
def AccessToken.isValid (now : Instant) (token : AccessToken K) : Bool :=
  token.revokedAt.isNone && decide (now < token.expiresAt)

namespace Store

/-- Time passes. -/
def tick (elapsed : ℕ) (s : Store K) : Store K := { s with now := s.now + elapsed }

/-- A code is added. -/
def addOtp (otp : Otp K) (s : Store K) : Store K := { s with otps := s.otps.insert otp }

/-- `UPDATE … SET is_used WHERE p`. -/
def markWhere (p : Otp K → Bool) (s : Store K) : Store K :=
  { s with otps := s.otps.mapRows (Otp.mark p) fun r => by unfold Otp.mark; split <;> rfl }

/-- `mark_used`. -/
def markUsed (otpId : Id) : Store K → Store K := markWhere fun r => r.id = otpId

/-- A token is added. -/
def addToken (token : AccessToken K) (s : Store K) : Store K :=
  { s with tokens := s.tokens.insert token }

/-- `revoke_all_active_for_user`, of the holders that meet `p`. -/
def revokeAllActive (p : K → Bool) (s : Store K) : Store K :=
  { s with
    tokens := s.tokens.mapRows
      (fun r => if p r.holder && r.isValid s.now then { r with revokedAt := some s.now } else r)
      fun r => by split <;> rfl }

/-- `find_valid` of a token, for the holders that meet `p`. -/
def findValidToken (secrets : Secrets) (rawToken : String) (p : K → Bool) (s : Store K) :
    Option (AccessToken K) :=
  (s.tokens.find? (secrets.hashToken rawToken)).filter fun r => p r.holder && r.isValid s.now

section Holders

variable [DecidableEq K]

/-- `count_recent`. -/
def countRecent (holder : K) (since : Instant) (s : Store K) : ℕ :=
  s.otps.rows.countP fun r => r.holder = holder ∧ since ≤ r.createdAt

/-- `invalidate_unused_active_for_user_scope`, `invalidate_unused_active_for_recipient`. -/
def invalidateUnusedActive (holder : K) (s : Store K) : Store K :=
  s.markWhere fun r => r.holder = holder && r.isValid s.now

/-- `find_valid` of a code: the latest one. -/
def findValidOtp (holder : K) (otpCode : String) (s : Store K) : Option (Otp K) :=
  Table.latest Otp.createdAt <| s.otps.rows.filter fun r =>
    r.holder = holder ∧ r.otpCode = otpCode ∧ r.isValid s.now = true

/-- The counters of a holder change. -/
def modifyGuard (holder : K) (f : Guard → Guard) (s : Store K) : Store K :=
  { s with guards := Function.update s.guards holder (f (s.guards holder)) }

/-- `_record_doc_otp_verify_failure`, `_record_share_otp_verify_failure`. -/
def recordVerifyFailure (policy : Policy) (holder : K) (s : Store K) : Store K :=
  s.modifyGuard holder (Guard.recordFailure policy.limits s.now)

/-- `_clear_doc_otp_verify_failures`, `_clear_share_otp_verify_failures`. -/
def clearVerifyFailures (holder : K) (s : Store K) : Store K := s.modifyGuard holder Guard.clear

end Holders

end Store

/-! ### Codes as they were sent -/

/-- A code as it was sent. -/
def Otp.issued (otp : Otp K) : Otp K := { otp with isUsed := false }

@[simp] theorem Otp.issued_mark (p : Otp K → Bool) (otp : Otp K) :
    (otp.mark p).issued = otp.issued := by
  unfold Otp.mark
  split <;> rfl

variable {r r' otp : Otp K} {token : AccessToken K}

theorem Otp.id_eq (h : r.issued = r'.issued) : r.id = r'.id :=
  show r.issued.id = r'.issued.id from congrArg Otp.id h

theorem Otp.holder_eq (h : r.issued = r'.issued) : r.holder = r'.holder :=
  show r.issued.holder = r'.issued.holder from congrArg Otp.holder h

theorem Otp.createdAt_eq (h : r.issued = r'.issued) : r.createdAt = r'.createdAt :=
  show r.issued.createdAt = r'.issued.createdAt from congrArg Otp.createdAt h

theorem Otp.expiresAt_eq (h : r.issued = r'.issued) : r.expiresAt = r'.expiresAt :=
  show r.issued.expiresAt = r'.issued.expiresAt from congrArg Otp.expiresAt h

theorem Otp.isUsed_mark (p : Otp K → Bool) (otp : Otp K) :
    (otp.mark p).isUsed = (p otp || otp.isUsed) := by
  unfold Otp.mark
  cases h : p otp <;> simp

theorem Otp.isValid_eq_true_iff {now : Instant} :
    otp.isValid now = true ↔ otp.isUsed = false ∧ now < otp.expiresAt := by
  simp [Otp.isValid]

/-- A code that can be used after some were marked was not one of them. -/
theorem Otp.isValid_mark_iff {now : Instant} {p : Otp K → Bool} :
    (otp.mark p).isValid now = true ↔ p otp = false ∧ otp.isValid now = true := by
  simp only [isValid_eq_true_iff, isUsed_mark, Bool.or_eq_false_iff,
    expiresAt_eq (issued_mark p otp), and_assoc]

/-- A code that can be used could be used before. -/
theorem Otp.isValid_of_le {now now' : Instant} (h : now ≤ now') (hvalid : otp.isValid now' = true) :
    otp.isValid now = true := by
  rw [isValid_eq_true_iff] at hvalid ⊢
  exact ⟨hvalid.1, lt_of_le_of_lt h hvalid.2⟩

@[simp] theorem Store.rows_markWhere (p : Otp K → Bool) (s : Store K) :
    (s.markWhere p).otps.rows = s.otps.rows.map (Otp.mark p) := rfl

/-! ### Services -/

/-- A rollback: the tables are as they were, while Redis and the clock are not. -/
def rollback (before after : Store K) : Store K :=
  { after with otps := before.otps, tokens := before.tokens }

/-- `redis.ttl`, in seconds. -/
def ttl (now expiresAt : Instant) : ℤ := ((expiresAt - now) / 1000 + 500) / 1000

/-- The code that is sent next. -/
def Policy.newOtp (policy : Policy) (holder : K) (otpCode : String) (s : Store K) : Otp K where
  id := s.otps.fresh
  holder := holder
  otpCode := otpCode
  isUsed := false
  expiresAt := s.now + policy.otpTtl
  createdAt := s.now

/-- The token that is issued next. -/
def Policy.newToken (policy : Policy) (secrets : Secrets) (holder : K) (s : Store K) :
    AccessToken K where
  holder := holder
  tokenHash := secrets.hashToken (secrets.tokenHex s.tokens.rows.length)
  expiresAt := s.now + policy.tokenTtl
  revokedAt := none

/-- What a verification answers. -/
structure Verified where
  accessToken : String
  expiresIn : ℕ
  expiresAt : Instant
  deriving DecidableEq

/-- The answer that goes with it. -/
def Policy.issued (policy : Policy) (secrets : Secrets) (s : Store K) : Verified where
  accessToken := secrets.tokenHex s.tokens.rows.length
  expiresIn := policy.tokenTtlSeconds
  expiresAt := s.now + policy.tokenTtl

variable [DecidableEq K]

/-- `send_otp`. -/
def sendOtp (policy : Policy) (holder : K) (otpCode : String) :
    Handler (Store K) AccessError Unit := do
  let recent ← .query fun s => s.countRecent holder (s.now - policy.rateLimitWindow)
  .check (raiseIf (policy.rateLimitMax ≤ recent) (.service (invalid policy.tooManyRequests)))
  .write (Store.invalidateUnusedActive holder)
  .write fun s => s.addOtp (policy.newOtp holder otpCode s)

/-- `_enforce_doc_otp_verify_not_locked`, `_enforce_share_otp_verify_not_locked`. -/
def enforceNotLocked (policy : Policy) (holder : K) (s : Store K) : Except AccessError Unit :=
  match (s.guards holder).lockedUntil.filter fun e => s.now < e with
  | some e => .error (.rateLimit policy.lockedMessage (max (ttl s.now e) 0))
  | none => .ok ()

/-- `verify_otp`. -/
def verifyOtp (policy : Policy) (secrets : Secrets) (holder : K) (otpCode : String) :
    Handler (Store K) AccessError Verified := do
  .lookup (enforceNotLocked policy holder)
  match ← .query (Store.findValidOtp holder otpCode) with
  | none => do
      .write (Store.recordVerifyFailure policy holder)
      .raise invalidOtp
  | some otp => do
      .write (Store.clearVerifyFailures holder)
      .write (Store.markUsed otp.id)
      let rawToken ← .query fun s => secrets.tokenHex s.tokens.rows.length
      let expiresAt ← .query fun s => s.now + policy.tokenTtl
      .write fun s => s.addToken (policy.newToken secrets holder s)
      return ⟨rawToken, policy.tokenTtlSeconds, expiresAt⟩

/-! ### Events -/

/-- What happens to the store. -/
inductive Event (K : Type) where
  | quiet
  | sent (otp : Otp K)
  | failed (holder : K)
  | verified (otp : Otp K) (token : AccessToken K)
  | revoked (p : K → Bool)

/-- When it may happen. -/
def Event.Allowed (policy : Policy) (secrets : Secrets) (s : Store K) : Event K → Prop
  | .quiet => True
  | .sent otp => s.countRecent otp.holder (s.now - policy.rateLimitWindow) < policy.rateLimitMax ∧
      otp = policy.newOtp otp.holder otp.otpCode s
  | .failed holder => (s.guards holder).locked s.now = false
  | .verified otp token => otp ∈ s.otps.rows ∧ otp.isValid s.now = true ∧
      token = policy.newToken secrets otp.holder s
  | .revoked _ => True

/-- What the store is afterwards. -/
def Event.apply (policy : Policy) (s : Store K) : Event K → Store K
  | .quiet => s
  | .sent otp => (s.invalidateUnusedActive otp.holder).addOtp otp
  | .failed holder => s.recordVerifyFailure policy holder
  | .verified otp token => ((s.clearVerifyFailures otp.holder).markUsed otp.id).addToken token
  | .revoked p => s.revokeAllActive p

/-- Some time passes, and then the event happens. -/
def Next (policy : Policy) (secrets : Secrets) (s : Store K) (e : Event K) (s' : Store K) : Prop :=
  ∃ elapsed : ℕ, e.Allowed policy secrets (s.tick elapsed) ∧
    s' = e.apply policy (s.tick elapsed)

/-- The event of `send_otp`. -/
def sendEvent (policy : Policy) (holder : K) (otpCode : String) (s : Store K) : Event K :=
  if s.countRecent holder (s.now - policy.rateLimitWindow) < policy.rateLimitMax then
    .sent (policy.newOtp holder otpCode s)
  else .quiet

/-- The event of `verify_otp`. -/
def verifyEvent (policy : Policy) (secrets : Secrets) (holder : K) (otpCode : String)
    (s : Store K) : Event K :=
  if (s.guards holder).locked s.now = true then .quiet
  else match s.findValidOtp holder otpCode with
    | none => .failed holder
    | some otp => .verified otp (policy.newToken secrets otp.holder s)

variable {policy : Policy} {secrets : Secrets} {holder : K} {otpCode : String} {s s' : Store K}

theorem newOtp_invalidateUnusedActive :
    policy.newOtp holder otpCode (s.invalidateUnusedActive holder)
      = policy.newOtp holder otpCode s := by
  have hkeys : (s.invalidateUnusedActive holder).otps.rows.map Otp.id = s.otps.rows.map Otp.id :=
    Table.map_key_mapRows _ _ fun r => by unfold Otp.mark; split <;> rfl
  unfold Policy.newOtp Table.fresh
  rw [hkeys]
  rfl

theorem mem_of_findValidOtp (h : s.findValidOtp holder otpCode = some otp) :
    otp ∈ s.otps.rows ∧ otp.holder = holder ∧ otp.otpCode = otpCode ∧
      otp.isValid s.now = true := by
  have hmem := List.argmax_mem h
  rw [List.mem_filter, decide_eq_true_eq] at hmem
  exact hmem

omit [DecidableEq K] in
theorem enforceNotLocked_eq_ok_iff :
    enforceNotLocked policy holder s = .ok () ↔ (s.guards holder).locked s.now = false := by
  unfold enforceNotLocked Guard.locked
  cases (s.guards holder).lockedUntil with
  | none => simp
  | some e => by_cases he : s.now < e <;> simp [Option.filter, he]

theorem sendOtp_apply :
    sendOtp policy holder otpCode s =
      if s.countRecent holder (s.now - policy.rateLimitWindow) < policy.rateLimitMax then
        (.ok (), (sendEvent policy holder otpCode s).apply policy s)
      else (.error (.service (invalid policy.tooManyRequests)), s) := by
  unfold sendOtp sendEvent
  rw [Handler.bind_query]
  by_cases h : policy.rateLimitMax ≤ s.countRecent holder (s.now - policy.rateLimitWindow)
  · rw [if_neg (by omega)]
    refine Handler.bind_of_error ?_
    rw [Handler.check_apply, raiseIf, if_pos h]
  · rw [if_pos (by omega), if_pos (by omega)]
    refine (Handler.bind_check_of_ok (raiseIf_eq_ok (w := ⟨⟩) |>.mpr h)).trans ?_
    rw [Handler.bind_write, Handler.write_apply, newOtp_invalidateUnusedActive]
    rfl

/-- A verification that is not locked out finds a code, or counts a failure. -/
theorem verifyOtp_apply (hfree : (s.guards holder).locked s.now = false) :
    verifyOtp policy secrets holder otpCode s =
      match s.findValidOtp holder otpCode with
      | none => (.error invalidOtp, s.recordVerifyFailure policy holder)
      | some _ => (.ok (policy.issued secrets s),
          (verifyEvent policy secrets holder otpCode s).apply policy s) := by
  unfold verifyOtp verifyEvent
  rw [Handler.bind_lookup_of_ok (enforceNotLocked_eq_ok_iff.mpr hfree), Handler.bind_query,
    if_neg (by simp [hfree])]
  cases hfound : s.findValidOtp holder otpCode with
  | none => rfl
  | some otp =>
      obtain ⟨-, rfl, -⟩ := mem_of_findValidOtp hfound
      rfl

theorem verifyOtp_apply_of_locked (policy : Policy) (secrets : Secrets) (otpCode : String)
    (hlocked : (s.guards holder).locked s.now = true) :
    ∃ e, verifyOtp policy secrets holder otpCode s =
      (.error (.rateLimit policy.lockedMessage e), s) := by
  obtain ⟨e, he, hlt⟩ := Guard.locked_eq_true_iff.mp hlocked
  refine ⟨max (ttl s.now e) 0, Handler.bind_of_error ?_⟩
  simp [Handler.lookup_apply, enforceNotLocked, he, Option.filter, hlt]

/-- **What a request for a code does.** -/
theorem next_sendOtp (elapsed : ℕ) :
    Next policy secrets s (sendEvent policy holder otpCode (s.tick elapsed))
      (inSession rollback (sendOtp policy holder otpCode) (s.tick elapsed)).2 := by
  refine ⟨elapsed, ?_, ?_⟩
  · unfold sendEvent
    split_ifs with h
    · exact ⟨h, rfl⟩
    · exact trivial
  · unfold inSession
    rw [sendOtp_apply]
    split_ifs with h
    · rfl
    · rw [sendEvent, if_neg h]
      rfl

/-- **What a verification does.** -/
theorem next_verifyOtp (elapsed : ℕ) :
    Next policy secrets s (verifyEvent policy secrets holder otpCode (s.tick elapsed))
      (inSession rollback (verifyOtp policy secrets holder otpCode) (s.tick elapsed)).2 := by
  refine ⟨elapsed, ?_, ?_⟩
  · unfold verifyEvent
    split_ifs with hlocked
    · exact trivial
    · cases hfound : (s.tick elapsed).findValidOtp holder otpCode with
      | none => exact Bool.eq_false_of_not_eq_true hlocked
      | some otp =>
          obtain ⟨hmem, -, -, hvalid⟩ := mem_of_findValidOtp hfound
          exact ⟨hmem, hvalid, rfl⟩
  · unfold inSession
    by_cases hlocked : ((s.tick elapsed).guards holder).locked (s.tick elapsed).now = true
    · obtain ⟨e, he⟩ := verifyOtp_apply_of_locked policy secrets otpCode hlocked
      rw [he, verifyEvent, if_pos hlocked]
      rfl
    · rw [verifyOtp_apply (Bool.eq_false_of_not_eq_true hlocked), verifyEvent, if_neg hlocked]
      cases (s.tick elapsed).findValidOtp holder otpCode with
      | none => rfl
      | some otp => rfl

/-! ### What holds of the codes and the tokens -/

/-- When codes were sent to the holder. -/
def Store.sentTimes (holder : K) (s : Store K) : List Instant :=
  (s.otps.rows.filter fun r => r.holder = holder).map Otp.createdAt

/-- How many tokens the holder has got. -/
def Store.tokenCount (holder : K) (s : Store K) : ℕ :=
  s.tokens.rows.countP fun r => r.holder = holder

/-- How many codes of the holder are used. -/
def Store.usedCount (holder : K) (s : Store K) : ℕ :=
  s.otps.rows.countP fun r => r.holder = holder && r.isUsed

/-- What holds of the codes and the tokens after any requests. -/
structure Sound (policy : Policy) (secrets : Secrets) (s : Store K) : Prop where
  times : ∀ r ∈ s.otps.rows, r.createdAt ≤ s.now ∧ r.expiresAt = r.createdAt + policy.otpTtl
  quota : ∀ holder, Quota policy.rateLimitWindow policy.rateLimitMax (s.sentTimes holder)
  single : ∀ r ∈ s.otps.rows, ∀ r' ∈ s.otps.rows, r.holder = r'.holder →
    r.isValid s.now = true → r'.isValid s.now = true → r = r'
  drawn : s.tokens.rows.map AccessToken.tokenHash =
    (List.range s.tokens.rows.length).map fun n => secrets.hashToken (secrets.tokenHex n)
  exchanged : ∀ holder, s.tokenCount holder ≤ s.usedCount holder

theorem sound_initial (policy : Policy) (secrets : Secrets) (now : Instant) :
    Sound policy secrets (Store.initial now : Store K) where
  times := fun _ hr => absurd hr List.not_mem_nil
  quota := fun _ => quota_nil _ _
  single := fun _ hr => absurd hr List.not_mem_nil
  drawn := rfl
  exchanged := fun _ => le_rfl

theorem Sound.tick (h : Sound policy secrets s) (elapsed : ℕ) :
    Sound policy secrets (s.tick elapsed) where
  times := fun r hr => ⟨(h.times r hr).1.trans (by simp [Store.tick]), (h.times r hr).2⟩
  quota := h.quota
  single := fun r hr r' hr' hholder hvalid hvalid' =>
    h.single r hr r' hr' hholder (Otp.isValid_of_le (by simp [Store.tick]) hvalid)
      (Otp.isValid_of_le (by simp [Store.tick]) hvalid')
  drawn := h.drawn
  exchanged := h.exchanged

theorem sentTimes_markWhere (p : Otp K → Bool) (holder : K) (s : Store K) :
    (s.markWhere p).sentTimes holder = s.sentTimes holder := by
  simp only [Store.sentTimes, Store.rows_markWhere, List.filter_map, List.map_map]
  have hfilter : ((fun r : Otp K => decide (r.holder = holder)) ∘ Otp.mark p)
      = fun r => decide (r.holder = holder) :=
    funext fun r => by simp only [Function.comp_apply, Otp.holder_eq (Otp.issued_mark p r)]
  rw [hfilter]
  exact List.map_congr_left fun r _ => Otp.createdAt_eq (Otp.issued_mark p r)

/-- Marking keeps the codes that were used. -/
theorem usedCount_le_markWhere (p : Otp K → Bool) (holder : K) (s : Store K) :
    s.usedCount holder ≤ (s.markWhere p).usedCount holder := by
  simp only [Store.usedCount, Store.rows_markWhere, List.countP_map]
  refine List.countP_mono_left fun r _ hr => ?_
  simp only [Bool.and_eq_true, decide_eq_true_eq, Function.comp_apply, Otp.isUsed_mark,
    Otp.holder_eq (Otp.issued_mark p r)] at hr ⊢
  simp [hr]

/-- Marking a code that was not used makes one more that is. -/
theorem usedCount_lt_markUsed (hmem : otp ∈ s.otps.rows) (hunused : otp.isUsed = false) :
    s.usedCount otp.holder < (s.markUsed otp.id).usedCount otp.holder := by
  obtain ⟨l, r, hrows⟩ := List.append_of_mem hmem
  have hle : ∀ l : List (Otp K), l.countP (fun r => r.holder = otp.holder && r.isUsed) ≤
      (l.map (Otp.mark fun r => r.id = otp.id)).countP
        fun r => r.holder = otp.holder && r.isUsed := by
    intro l
    rw [List.countP_map]
    refine List.countP_mono_left fun r _ hr => ?_
    simp only [Bool.and_eq_true, decide_eq_true_eq, Function.comp_apply, Otp.isUsed_mark,
      Otp.holder_eq (Otp.issued_mark _ r)] at hr ⊢
    simp [hr]
  have hl := hle l
  have hr := hle r
  have hone : Otp.mark (fun r => r.id = otp.id) otp = { otp with isUsed := true } := by
    simp [Otp.mark]
  simp only [Store.usedCount, Store.markUsed, Store.rows_markWhere, hrows, List.map_append,
    List.map_cons, List.countP_append, List.countP_cons, hone, hunused, Bool.and_false,
    Bool.false_eq_true, if_false, decide_true, Bool.and_self, if_true]
  omega

/-- Marking codes keeps everything but the codes that can be used. -/
theorem Sound.markWhere (h : Sound policy secrets s) (p : Otp K → Bool) :
    Sound policy secrets (s.markWhere p) where
  times := by
    intro r hr
    obtain ⟨r₀, hr₀, rfl⟩ := List.mem_map.mp hr
    have hissued := Otp.issued_mark p r₀
    rw [Otp.createdAt_eq hissued, Otp.expiresAt_eq hissued]
    exact h.times r₀ hr₀
  quota := fun holder => by
    rw [sentTimes_markWhere]
    exact h.quota holder
  single := by
    intro r hr r' hr' hholder hvalid hvalid'
    obtain ⟨r₀, hr₀, rfl⟩ := List.mem_map.mp hr
    obtain ⟨r₁, hr₁, rfl⟩ := List.mem_map.mp hr'
    rw [Otp.holder_eq (Otp.issued_mark p r₀), Otp.holder_eq (Otp.issued_mark p r₁)] at hholder
    rw [h.single r₀ hr₀ r₁ hr₁ hholder (Otp.isValid_mark_iff.mp hvalid).2
      (Otp.isValid_mark_iff.mp hvalid').2]
  drawn := h.drawn
  exchanged := fun holder => (h.exchanged holder).trans (usedCount_le_markWhere p holder s)

/-- The counters in Redis do not matter here. -/
theorem Sound.modifyGuard (h : Sound policy secrets s) (holder : K) (f : Guard → Guard) :
    Sound policy secrets (s.modifyGuard holder f) :=
  ⟨h.times, h.quota, h.single, h.drawn, h.exchanged⟩

theorem countRecent_eq (holder : K) (since : Instant) (s : Store K) :
    s.countRecent holder since = (s.sentTimes holder).countP fun t => since ≤ t := by
  rw [Store.sentTimes, List.countP_map, List.countP_filter, Store.countRecent]
  refine List.countP_congr fun r _ => ?_
  simp [and_comm]

/-- What a request for a code leaves behind. -/
theorem Sound.sent (h : Sound policy secrets s)
    (hallowed : (Event.sent otp).Allowed policy secrets s) :
    Sound policy secrets ((Event.sent otp).apply policy s) := by
  obtain ⟨hroom, hotp⟩ := hallowed
  set s₁ := s.invalidateUnusedActive otp.holder with hs₁
  have h₁ : Sound policy secrets s₁ := h.markWhere _
  have hid : otp.id ∉ s₁.otps.rows.map Otp.id := by
    rw [hotp, ← newOtp_invalidateUnusedActive]
    exact s₁.otps.fresh_notMem
  have hrows : (s₁.addOtp otp).otps.rows = s₁.otps.rows ++ [otp] :=
    Table.rows_insert_of_notMem hid
  have hmem : ∀ r ∈ (s₁.addOtp otp).otps.rows, r ∈ s₁.otps.rows ∨ r = otp := by
    intro r hr
    rwa [hrows, List.mem_append, List.mem_singleton] at hr
  -- The holder's older codes were all marked, so none of them can be used.
  have hnone : ∀ r ∈ s₁.otps.rows, r.holder = otp.holder → r.isValid s.now = false := by
    intro r hr hholder
    obtain ⟨r₀, hr₀, rfl⟩ := List.mem_map.mp hr
    refine Bool.eq_false_of_not_eq_true fun hvalid => ?_
    obtain ⟨hp, hvalid₀⟩ := Otp.isValid_mark_iff.mp hvalid
    rw [Otp.holder_eq (Otp.issued_mark _ r₀)] at hholder
    simp [hholder, hvalid₀] at hp
  refine ⟨fun r hr => ?_, fun holder => ?_, fun r hr r' hr' hholder hvalid hvalid' => ?_, h₁.drawn,
    fun holder => (h₁.exchanged holder).trans ?_⟩
  · rcases hmem r hr with hr | rfl
    · exact h₁.times r hr
    · rw [hotp]
      exact ⟨le_rfl, rfl⟩
  · change Quota _ _ ((s₁.addOtp otp).sentTimes holder)
    rw [Store.sentTimes, hrows, List.filter_append, List.map_append]
    by_cases hholder : otp.holder = holder
    · have hcreated : otp.createdAt = s.now := by rw [hotp]; rfl
      rw [List.filter_cons_of_pos (by simpa using hholder), List.filter_nil, List.map_singleton,
        hcreated]
      refine Quota.perm ((h₁.quota holder).cons ?_) (List.perm_append_singleton _ _).symm
      rw [hs₁, Store.invalidateUnusedActive, sentTimes_markWhere, ← countRecent_eq, ← hholder]
      exact hroom
    · rw [List.filter_cons_of_neg (by simpa using hholder), List.filter_nil, List.map_nil,
        List.append_nil]
      exact h₁.quota holder
  · rcases hmem r hr with hr | rfl <;> rcases hmem r' hr' with hr' | rfl
    · exact h₁.single r hr r' hr' hholder hvalid hvalid'
    · exact absurd hvalid (by simp [hnone r hr hholder, Event.apply, Store.addOtp,
        Store.invalidateUnusedActive, Store.markWhere])
    · exact absurd hvalid' (by simp [hnone r' hr' hholder.symm, Event.apply, Store.addOtp,
        Store.invalidateUnusedActive, Store.markWhere])
    · rfl
  · change s₁.usedCount holder ≤ (s₁.addOtp otp).usedCount holder
    rw [Store.usedCount, Store.usedCount, hrows, List.countP_append]
    omega

/-- A token that is drawn has a hash that no other token has. -/
theorem Sound.newToken_notMem (h : Sound policy secrets s) (holder : K) :
    (policy.newToken secrets holder s).tokenHash ∉ s.tokens.rows.map AccessToken.tokenHash := by
  rw [h.drawn, List.mem_map]
  rintro ⟨n, hn, heq⟩
  obtain rfl := secrets.hash_injective heq
  exact absurd (List.mem_range.mp hn) (Nat.lt_irrefl _)

variable {e : Event K}

/-- What a verification leaves behind. -/
theorem Sound.verified (h : Sound policy secrets s)
    (hallowed : (Event.verified otp token).Allowed policy secrets s) :
    Sound policy secrets ((Event.verified otp token).apply policy s) := by
  obtain ⟨hmem, hvalid, rfl⟩ := hallowed
  set s₁ := s.clearVerifyFailures otp.holder
  have h₂ : Sound policy secrets (s₁.markUsed otp.id) := (h.modifyGuard _ _).markWhere _
  have hfresh := h.newToken_notMem otp.holder
  have hrows : (Store.addToken (policy.newToken secrets otp.holder s)
      (s₁.markUsed otp.id)).tokens.rows = s.tokens.rows ++ [policy.newToken secrets otp.holder s] :=
    Table.rows_insert_of_notMem hfresh
  refine ⟨h₂.times, h₂.quota, h₂.single, ?_, fun holder => ?_⟩
  · change (Store.addToken _ _).tokens.rows.map _ = _
    rw [Event.apply, hrows, List.map_append, h.drawn, List.length_append, List.length_singleton,
      List.range_succ, List.map_append]
    rfl
  · rw [Event.apply, Store.tokenCount, hrows, List.countP_append, List.countP_singleton]
    change s.tokenCount holder + (if decide (otp.holder = holder) = true then 1 else 0) ≤
      (s₁.markUsed otp.id).usedCount holder
    by_cases hholder : otp.holder = holder
    · have hunused := (Otp.isValid_eq_true_iff.mp hvalid).1
      have hlt := usedCount_lt_markUsed (s := s₁) hmem hunused
      rw [if_pos (decide_eq_true hholder), ← hholder]
      exact (Nat.succ_le_succ (h.exchanged otp.holder)).trans hlt
    · rw [if_neg fun hp => hholder (of_decide_eq_true hp), Nat.add_zero]
      exact (h.exchanged holder).trans (usedCount_le_markWhere _ holder s₁)

/-- **Every event keeps the codes and the tokens sound.** -/
theorem Sound.next (h : Sound policy secrets s) (hnext : Next policy secrets s e s') :
    Sound policy secrets s' := by
  obtain ⟨elapsed, hallowed, rfl⟩ := hnext
  have ht := h.tick elapsed
  cases e with
  | quiet => exact ht
  | sent otp => exact ht.sent hallowed
  | failed holder => exact ht.modifyGuard _ _
  | verified otp token => exact ht.verified hallowed
  | revoked p =>
      have hkeys : ((s.tick elapsed).revokeAllActive p).tokens.rows.map AccessToken.tokenHash
          = s.tokens.rows.map AccessToken.tokenHash :=
        Table.map_key_mapRows _ _ fun r => by split <;> rfl
      refine ⟨ht.times, ht.quota, ht.single, ?_, fun holder => ?_⟩
      · have hlen : ((s.tick elapsed).revokeAllActive p).tokens.rows.length
            = s.tokens.rows.length := List.length_map _
        rw [Event.apply, hkeys, hlen]
        exact h.drawn
      · refine le_trans (le_of_eq ?_) (ht.exchanged holder)
        rw [Event.apply, Store.tokenCount, Store.revokeAllActive, Table.rows_mapRows,
          List.countP_map]
        refine List.countP_congr fun r _ => ?_
        simp only [Function.comp_apply]
        split <;> rfl

/-! ### Rows from one event to the next -/

/-- A code that is there was there before, or has just been sent. -/
theorem Next.mem_otps (h : Next policy secrets s e s') (hr' : r' ∈ s'.otps.rows) :
    (∃ r ∈ s.otps.rows, r.issued = r'.issued) ∨ e = .sent r'.issued := by
  obtain ⟨elapsed, hallowed, rfl⟩ := h
  have hmarked : ∀ p, r' ∈ s.otps.rows.map (Otp.mark p) →
      ∃ r ∈ s.otps.rows, r.issued = r'.issued := by
    intro p hmem
    obtain ⟨r, hr, rfl⟩ := List.mem_map.mp hmem
    exact ⟨r, hr, (Otp.issued_mark p r).symm⟩
  cases e with
  | sent otp =>
      rcases Table.mem_or_eq_of_mem_insert hr' with hold | rfl
      · exact .inl (hmarked _ hold)
      · have hissued : r'.issued = r' := by
          rw [hallowed.2]
          rfl
        exact .inr (by rw [hissued])
  | verified otp token => exact .inl (hmarked _ hr')
  | quiet => exact .inl ⟨r', hr', rfl⟩
  | failed holder => exact .inl ⟨r', hr', rfl⟩
  | revoked p => exact .inl ⟨r', hr', rfl⟩

/-- A code stays, and stays used. -/
theorem Next.otp_kept (h : Next policy secrets s e s') (hr : r ∈ s.otps.rows) :
    ∃ r' ∈ s'.otps.rows, r'.issued = r.issued ∧ (r.isUsed = true → r'.isUsed = true) := by
  obtain ⟨elapsed, -, rfl⟩ := h
  have hused : ∀ p : Otp K → Bool, r.isUsed = true → (r.mark p).isUsed = true := by
    intro p hr
    rw [Otp.isUsed_mark, hr, Bool.or_true]
  cases e with
  | sent otp =>
      exact ⟨r.mark _, Table.mem_insert_of_mem (List.mem_map_of_mem hr), Otp.issued_mark _ r,
        hused _⟩
  | verified otp token =>
      exact ⟨r.mark _, List.mem_map_of_mem hr, Otp.issued_mark _ r, hused _⟩
  | quiet => exact ⟨r, hr, rfl, id⟩
  | failed holder => exact ⟨r, hr, rfl, id⟩
  | revoked p => exact ⟨r, hr, rfl, id⟩

/-- A token that is there was there before, and not revoked if it is not revoked now, or it has
just been issued. -/
theorem Next.mem_tokens (h : Next policy secrets s e s') {r' : AccessToken K}
    (hr' : r' ∈ s'.tokens.rows) :
    (∃ r ∈ s.tokens.rows, r.tokenHash = r'.tokenHash ∧ (r'.revokedAt = none → r = r')) ∨
      ∃ otp, e = .verified otp r' := by
  obtain ⟨elapsed, -, rfl⟩ := h
  cases e with
  | verified otp token =>
      rcases Table.mem_or_eq_of_mem_insert hr' with hold | rfl
      · exact .inl ⟨r', hold, rfl, fun _ => rfl⟩
      · exact .inr ⟨otp, rfl⟩
  | revoked p =>
      obtain ⟨r, hr, rfl⟩ := List.mem_map.mp hr'
      refine .inl ⟨r, hr, ?_, fun hnone => ?_⟩
      · split <;> rfl
      · split at hnone
        · exact absurd hnone (Option.some_ne_none _)
        · rw [if_neg ‹_›]
  | quiet => exact .inl ⟨r', hr', rfl, fun _ => rfl⟩
  | sent otp => exact .inl ⟨r', hr', rfl, fun _ => rfl⟩
  | failed holder => exact .inl ⟨r', hr', rfl, fun _ => rfl⟩

/-- A code that is sent is there, and can be used for as long as it lives. -/
theorem Next.mem_of_sent (h : Next policy secrets s (.sent otp) s') :
    otp ∈ s'.otps.rows ∧ otp.expiresAt = s'.now + policy.otpTtl ∧ otp.createdAt = s'.now := by
  obtain ⟨elapsed, ⟨-, hotp⟩, rfl⟩ := h
  have hid : otp.id ∉
      ((s.tick elapsed).invalidateUnusedActive otp.holder).otps.rows.map Otp.id := by
    rw [hotp, ← newOtp_invalidateUnusedActive]
    exact Table.fresh_notMem _
  refine ⟨(Table.mem_insert_iff hid).mpr (.inr rfl), ?_, ?_⟩ <;> rw [hotp] <;> rfl

/-- What a verification exchanges, and for what. -/
theorem Next.of_verified (h : Next policy secrets s (.verified otp token) s') :
    otp ∈ s.otps.rows ∧ otp.isUsed = false ∧ s'.now < otp.expiresAt ∧
      token.holder = otp.holder ∧ token.expiresAt = s'.now + policy.tokenTtl := by
  obtain ⟨elapsed, ⟨hmem, hvalid, rfl⟩, rfl⟩ := h
  obtain ⟨hunused, hlives⟩ := Otp.isValid_eq_true_iff.mp hvalid
  exact ⟨hmem, hunused, hlives, rfl, rfl⟩

/-- A token that a verification issues is there. -/
theorem Next.token_of_verified (h : Next policy secrets s (.verified otp token) s')
    (hs : Sound policy secrets s) : token ∈ s'.tokens.rows ∧ token.revokedAt = none := by
  obtain ⟨elapsed, ⟨-, -, rfl⟩, rfl⟩ := h
  exact ⟨(Table.mem_insert_iff ((hs.tick elapsed).newToken_notMem otp.holder)).mpr (.inr rfl), rfl⟩

/-- A token stays as it is unless its holder's are revoked. -/
theorem Next.token_kept (h : Next policy secrets s e s') (htoken : token ∈ s.tokens.rows)
    (hspared : ∀ p, e = .revoked p → p token.holder = false) : token ∈ s'.tokens.rows := by
  obtain ⟨elapsed, -, rfl⟩ := h
  cases e with
  | verified otp issued => exact Table.mem_insert_of_mem htoken
  | revoked p =>
      refine List.mem_map.mpr ⟨token, htoken, if_neg ?_⟩
      simp [hspared p rfl]
  | quiet => exact htoken
  | sent otp => exact htoken
  | failed holder => exact htoken

/-- A token that survives a revocation has expired. -/
theorem Next.expired_of_revoked {p : K → Bool} (h : Next policy secrets s (.revoked p) s')
    (htoken : token ∈ s'.tokens.rows) (hlive : token.revokedAt = none)
    (hp : p token.holder = true) : token.expiresAt ≤ s'.now := by
  obtain ⟨elapsed, -, rfl⟩ := h
  obtain ⟨r, -, hr⟩ := List.mem_map.mp htoken
  by_contra hunexpired
  split at hr
  · rw [← hr] at hlive
    exact absurd hlive (Option.some_ne_none _)
  · rename_i hspared
    refine hspared ?_
    rw [hr]
    simp only [AccessToken.isValid, hp, hlive, Option.isNone_none, Bool.true_and,
      decide_eq_true_eq]
    exact not_le.mp hunexpired

/-- The code that a verification exchanges is used from then on. -/
theorem Next.used_of_verified (h : Next policy secrets s (.verified otp token) s') :
    ∃ r ∈ s'.otps.rows, r.id = otp.id ∧ r.isUsed = true := by
  obtain ⟨elapsed, ⟨hmem, -⟩, rfl⟩ := h
  refine ⟨otp.mark fun r => r.id = otp.id, List.mem_map_of_mem hmem, ?_, ?_⟩
  · exact Otp.id_eq (Otp.issued_mark _ otp)
  · simp [Otp.isUsed_mark]

theorem Next.now_le (h : Next policy secrets s e s') : s.now ≤ s'.now := by
  obtain ⟨elapsed, -, rfl⟩ := h
  have htick : s.now ≤ (s.tick elapsed).now := by simp [Store.tick]
  cases e <;> exact htick

/-! ### The counters -/

/-- What the event is for the counters of a holder. -/
def Event.outcome (holder : K) : Event K → Guard.Outcome
  | .failed holder' => if holder' = holder then .failure else .quiet
  | .verified otp _ => if otp.holder = holder then .success else .quiet
  | _ => .quiet

/-- The counters of a holder do what the event is for them. -/
theorem Next.guard (h : Next policy secrets s e s') (holder : K) :
    Guard.Next policy.limits (s.now, s.guards holder) (e.outcome holder)
      (s'.now, s'.guards holder) := by
  refine ⟨h.now_le, ?_⟩
  obtain ⟨elapsed, hallowed, rfl⟩ := h
  cases e with
  | quiet => rfl
  | sent otp => rfl
  | revoked p => rfl
  | failed holder' =>
      by_cases heq : holder' = holder
      · subst heq
        simp only [Event.outcome, if_pos]
        exact ⟨hallowed, Function.update_self ..⟩
      · simp only [Event.outcome, if_neg heq]
        exact Function.update_of_ne (Ne.symm heq) _ _
  | verified otp token =>
      by_cases heq : otp.holder = holder
      · subst heq
        simp only [Event.outcome, if_pos]
        exact Function.update_self ..
      · simp only [Event.outcome, if_neg heq]
        exact Function.update_of_ne (Ne.symm heq) _ _

end SwCouriers.StepUp
