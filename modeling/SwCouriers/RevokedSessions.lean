import SwCouriers.Lib.LooseWrites
import SwCouriers.SingleUse

/-!
# Revoked Sessions and their Tokens

A logout revokes the tokens of a session that its `UPDATE` finds, and the session. A refresh that
is under way replaces the token that the `UPDATE` waits for by a new one, which the `UPDATE` never
sees; and where the token has expired meanwhile, the `UPDATE` does not even wait. The refresh does
not look at the session. In both ways a revoked session is left with an active token.

These are the only ways: in every schedule in which no commit adds a token to a session whose
tokens another open transaction has already looked for to revoke them, and none revokes a session
one of whose tokens another open transaction is exchanging, the tokens of a revoked session are
never active.

## Main results

* `revoked_sessions_stay_dead`: **no active token of a revoked session**, along every undisturbed
  schedule.
* `logout_misses_new_token`: the schedule in which a refresh revives the session.
-/

namespace SwCouriers.AuthTxns

open Checked ReadCommitted Auth Discipline

/-- What a commit touches that it does not lock: the search for the tokens of a session to which
it adds one, and the exchange of a token whose session it revokes. -/
def loose {T : Type} (s s' : AuthStore) : AuthLock T → Prop
  | .revoking _ scope => ∃ rt ∈ s'.tokens.rows, scope.covers rt = true ∧ rt.revoked = false ∧
      ∀ rt₀ ∈ s.tokens.rows, rt₀.tokenHash ≠ rt.tokenHash
  | .taking _ hash => ∃ rt ∈ s.tokens.rows, rt ∈ s'.tokens.rows ∧ rt.tokenHash = hash ∧
      rt.revoked = false ∧ ∃ x ∈ s.sessionRows.rows, ∃ x' ∈ s'.sessionRows.rows,
        x'.sessionId = x.sessionId ∧ rt.sessionId = some x.sessionId ∧ x.revoked = false ∧
        x'.revoked = true
  | _ => False

/-- A revoked session has no active token. -/
structure RevokedDead (env : AuthEnv) (s : AuthStore) : Prop where
  linked : Linked env s
  dead : ∀ x ∈ s.sessionRows.rows, x.revoked = true → ∀ rt ∈ s.tokens.rows,
    rt.sessionId = some x.sessionId → rt.isActive s.clock = false

section

variable {T : Type} {touched touched' : AuthLock T → Prop} {s₁ s₂ s₃ : AuthStore}

theorem not_loose_self (s : AuthStore) (k : AuthLock T) : ¬ loose s s k := by
  cases k with
  | revoking t scope =>
      rintro ⟨rt, hrt, -, -, hnew⟩
      exact hnew rt hrt rfl
  | taking t hash =>
      rintro ⟨rt, -, -, -, -, x, hx, x', hx', hid, -, hlive, hdead⟩
      obtain rfl := Table.eq_of_key hx' hx hid
      exact absurd (hdead.symm.trans hlive) (by decide)
  | _ => exact id

/-- What two commits touch, one of them touches. -/
theorem loose_trans (h : Follows touched s₁ s₂) (h' : Follows touched' s₂ s₃) {k : AuthLock T}
    (hloose : loose s₁ s₃ k) : loose s₁ s₂ k ∨ loose s₂ s₃ k := by
  cases k with
  | revoking t scope =>
      obtain ⟨rt, hrt, hcovers, hlive, hnew⟩ := hloose
      rcases h'.mem_of_not_revoked hrt hlive with hold | ⟨hnew', -⟩
      · exact .inl ⟨rt, hold, hcovers, hlive, hnew⟩
      · exact .inr ⟨rt, hrt, hcovers, hlive, hnew'⟩
  | taking t hash =>
      obtain ⟨rt, h₁, h₃, hhash, hlive, x, hx, x', hx', hid, hsession, hx_live, hx'_dead⟩ := hloose
      have h₂ := h.mem_between h' h₁ h₃ hlive
      obtain ⟨x₂, hx₂, hid₂, -⟩ := h.keptSession x hx
      cases hx₂_live : x₂.revoked with
      | true =>
          exact .inl ⟨rt, h₁, h₂, hhash, hlive, x, hx, x₂, hx₂, hid₂, hsession, hx_live, hx₂_live⟩
      | false =>
          exact .inr ⟨rt, h₂, h₃, hhash, hlive, x₂, hx₂, x', hx', hid.trans hid₂.symm,
            hsession.trans (congrArg some hid₂.symm), hx₂_live, hx'_dead⟩
  | _ => exact absurd hloose id

end

/-- The discipline of revoked sessions. -/
def revokedDead (env : AuthEnv) (T : Type) : Discipline AuthStore (AuthLock T) where
  inv := RevokedDead env
  evolves touched s s' := Follows touched s s' ∧ ∀ k, loose s s' k → touched k
  refl touched s := ⟨Follows.refl touched s, fun k hk => absurd hk (not_loose_self s k)⟩
  trans h h' := ⟨h.1.trans h'.1, fun k hk =>
    (loose_trans h.1 h'.1 hk).elim (h.2 k) (h'.2 k)⟩
  mono hsub h := ⟨h.1.mono hsub, fun k hk => hsub k (h.2 k hk)⟩

section

variable {T : Type} {env : AuthEnv} {s s' : AuthStore} {held : AuthLock T → Prop}
  {hashes : List String} {tokens : List RefreshToken} {opened : List Session}
  {ended : Session → Prop}

theorem orderly_revokedDead : Orderly env (revokedDead env T) :=
  ⟨fun h => h.1, fun h => h.linked⟩

/-- Revoked sessions have no active token after a commit that revokes the active tokens of the
sessions that it ends, and adds tokens only to sessions that are not revoked. -/
theorem dead_of_writes (hs : RevokedDead env s)
    (h : Writes env hashes tokens opened ended s.db s'.db) (hclock : s.clock ≤ s'.clock)
    (hcovered : ∀ x ∈ s.sessionRows.rows, ended x → ∀ rt ∈ s.tokens.rows,
      rt.sessionId = some x.sessionId → rt.isActive s.clock = true → rt.tokenHash ∈ hashes)
    (hnew : ∀ rt ∈ tokens, ∀ x ∈ s.sessionRows.rows, rt.sessionId = some x.sessionId →
      x.revoked = false ∧ ¬ ended x) :
    ∀ x ∈ s'.sessionRows.rows, x.revoked = true → ∀ rt ∈ s'.tokens.rows,
      rt.sessionId = some x.sessionId → rt.isActive s'.clock = false := by
  intro x' hx' hdead rt hrt hsession
  refine Bool.eq_false_iff.mpr fun hactive' => ?_
  obtain ⟨hlive, hunexpired⟩ := isActive_eq_true.mp hactive'
  have hactive : rt.isActive s.clock = true :=
    isActive_eq_true.mpr ⟨hlive, hclock.trans_lt hunexpired⟩
  -- the session was there, and was revoked or is ended now
  obtain ⟨x, hx, hid, hrevoked⟩ : ∃ x ∈ s.sessionRows.rows, x.sessionId = x'.sessionId ∧
      (x.revoked = true ∨ ended x) := by
    rcases h.addedSession x' hx' with ⟨x, hx, hid⟩ | ⟨_, -, -, -, hunrevoked⟩
    · obtain ⟨x'', hx'', hid'', -, hsame⟩ := h.keptSession x hx
      obtain rfl := Table.eq_of_key hx'' hx' (hid''.trans hid)
      exact ⟨x, hx, hid, hsame.imp (fun hsame => hsame.symm.trans hdead) fun hended => hended.1⟩
    · exact absurd (hdead.symm.trans hunrevoked) (by decide)
  rw [← hid] at hsession
  rcases h.mem_of_not_revoked hrt hlive with ⟨hold, hnot⟩ | hadded
  · rcases hrevoked with hrevoked | hended
    · exact absurd (hactive.symm.trans (hs.dead x hx hrevoked rt hold hsession)) (by decide)
    · exact hnot (hcovered x hx hended rt hold hsession hactive)
  · obtain ⟨hunrevoked, hnot⟩ := hnew rt hadded x hx hsession
    rcases hrevoked with hrevoked | hended
    · exact absurd (hrevoked.symm.trans hunrevoked) (by decide)
    · exact hnot hended

variable {write : AuthStore → AuthStore}

/-- When writes may be committed loosely. -/
theorem commitsLoosely_of_writes (hs : RevokedDead env s)
    (h : Writes env hashes tokens opened ended s.db (write s).db)
    (hclock : s.clock ≤ (write s).clock) (hhashes : ∀ hash ∈ hashes, held (.token hash))
    (htokens : ∀ rt ∈ tokens, held (.newToken rt.tokenHash))
    (hopened : ∀ x ∈ opened, held (.newSession x.sessionId)) (hlinked : Linked env (write s))
    (hcovered : ∀ x ∈ s.sessionRows.rows, ended x → ∀ rt ∈ s.tokens.rows,
      rt.sessionId = some x.sessionId → rt.isActive s.clock = true → rt.tokenHash ∈ hashes)
    (hnew : ∀ rt ∈ tokens, ∀ x ∈ s.sessionRows.rows, rt.sessionId = some x.sessionId →
      x.revoked = false ∧ ¬ ended x) : (revokedDead env T).CommitsLoosely loose write s held := by
  refine ⟨⟨hlinked, dead_of_writes hs h hclock hcovered hnew⟩, ?_, fun k hk => .inr hk⟩
  exact (h.follows hclock hhashes htokens hopened).mono fun k hk => .inl hk

section

variable {ctx : RequestContext} {draw : Draw} {t : T} {user : Auth.User} {now : Instant}
  {oldest : List String}

theorem commitsLoosely_loggedIn {password : String} (hs : RevokedDead env s)
    (h : LoggingIn env ctx draw user now oldest s held) :
    (revokedDead env T).CommitsLoosely loose
      (AuthStore.mapDb (loggedInDb env ctx draw user password now oldest)) s held := by
  refine commitsLoosely_of_writes hs h.writes le_rfl h.oldest h.newTokens h.opened
    (h.linked hs.linked) (fun _ _ hended => hended.elim) fun rt hrt x hx hsession => ?_
  -- the session of the new token is not there yet
  obtain rfl := List.mem_singleton.mp hrt
  refine absurd ?_ (Table.find?_eq_none_iff.mp h.sessionFree)
  exact List.mem_map.mpr ⟨x, hx, (Option.some.inj hsession).symm⟩

/-- The session of a token that is exchanged is not revoked before the exchange is over. -/
theorem Exchanging.session_live {record : RefreshToken}
    (h : Exchanging (revokedDead env T) env ctx draw t user record now oldest s held)
    {x : Session} (hx : x ∈ s.sessionRows.rows) (hsession : record.sessionId = some x.sessionId) :
    x.revoked = false := by
  obtain ⟨s₁, hinv, hmem, hactive, ⟨hfollows, hloose⟩, -⟩ := h.began
  obtain ⟨x₁, hx₁, hid, -⟩ := hinv.linked.owner record hmem x.sessionId hsession
  have hlive₁ : x₁.revoked = false := by
    by_contra hdead
    have hinactive := hinv.dead x₁ hx₁ (Bool.not_eq_false _ ▸ hdead) record hmem
      (hsession.trans (congrArg some hid.symm))
    exact absurd (hactive.symm.trans hinactive) (by decide)
  by_contra hdead
  refine hloose (.taking t record.tokenHash) ⟨record, hmem, h.mem, rfl, h.unrevoked, x₁, hx₁, x,
    hx, hid.symm, hsession.trans (congrArg some hid.symm), hlive₁, ?_⟩ rfl
  exact Bool.not_eq_false _ ▸ hdead

theorem commitsLoosely_refreshed {record : RefreshToken} (hs : RevokedDead env s)
    (h : Exchanging (revokedDead env T) env ctx draw t user record now oldest s held) :
    (revokedDead env T).CommitsLoosely loose
      (AuthStore.refreshed env ctx draw user record now oldest) s held := by
  refine commitsLoosely_of_writes hs h.writes le_rfl h.hashes h.newTokens h.opened
    (h.linked hs.linked) (fun _ _ hended => hended.elim) fun rt hrt x hx hsession => ⟨?_, id⟩
  obtain rfl := List.mem_singleton.mp hrt
  have hid : record.sessionId.getD draw.sessionId = x.sessionId := Option.some.inj hsession
  cases hown : record.sessionId with
  | none =>
      rw [hown, Option.getD_none] at hid
      refine absurd ?_ (Table.find?_eq_none_iff.mp (h.newSession hown).2)
      exact List.mem_map.mpr ⟨x, hx, hid.symm⟩
  | some sid =>
      rw [hown, Option.getD_some] at hid
      exact h.session_live hx (hown.trans (congrArg some hid))

/-- A logout revokes all active tokens of the sessions that it ends. -/
theorem Ending.covered {userId : Id} {sids : List Id} (hlinked : Linked env s)
    (h : Ending (revokedDead env T) t userId now hashes sids s held) :
    ∀ x ∈ s.sessionRows.rows, x.userId = userId ∧ x.sessionId ∈ sids → ∀ rt ∈ s.tokens.rows,
      rt.sessionId = some x.sessionId → rt.isActive s.clock = true → rt.tokenHash ∈ hashes := by
  rintro x hx ⟨rfl, hsid⟩ rt hrt hsession hactive
  obtain ⟨scope, p, hscope, hsids, hp, hlooked⟩ := h.scope
  obtain ⟨s₁, hnow, ⟨⟨hfollows, hloose⟩, -⟩, hfound⟩ := hlooked.found
  obtain ⟨hlive, hunexpired⟩ := isActive_eq_true.mp hactive
  have howner : rt.userId = scope.userId := by
    obtain ⟨x', hx', hid, huser⟩ := hlinked.owner rt hrt x.sessionId hsession
    obtain rfl := Table.eq_of_key hx' hx hid
    exact huser.symm.trans hscope.symm
  have hcovers : scope.covers rt = true := by
    simp only [Scope.covers, RefreshToken.ofSessions, hsession, howner, Option.any_some,
      hsids x.sessionId hsid, decide_true, Bool.and_self]
  rcases hfollows.mem_of_not_revoked hrt hlive with hold | ⟨hnew, -⟩
  · refine hfound rt hold hrt (hp rt hcovers (isActive_eq_true.mpr ⟨hlive, ?_⟩))
    exact (hnow.trans hfollows.clock).trans_lt hunexpired
  · -- the token was added behind the back of the update
    exact absurd rfl (hloose (.revoking t scope) ⟨rt, hrt, hcovers, hlive, hnew⟩)

theorem commitsLoosely_revoked {userId : Id} {sids : List Id} (hs : RevokedDead env s)
    (h : Ending (revokedDead env T) t userId now hashes sids s held)
    (hwrites : Writes env hashes [] [] (fun x => x.userId = userId ∧ x.sessionId ∈ sids) s.db
      (write s).db) (hclock : s.clock ≤ (write s).clock) :
    (revokedDead env T).CommitsLoosely loose write s held := by
  obtain ⟨scope, p, -, -, -, hlooked⟩ := h.scope
  exact commitsLoosely_of_writes hs hwrites hclock hlooked.token
    (fun _ hrt => absurd hrt List.not_mem_nil) (fun _ hx => absurd hx List.not_mem_nil)
    (hwrites.linked hs.linked fun _ hrt => absurd hrt List.not_mem_nil)
    (h.covered hs.linked) fun _ hrt => absurd hrt List.not_mem_nil

/-- What touches neither tokens nor sessions may be committed. -/
theorem commitsLoosely_of_refl (hs : RevokedDead env s) (hdb : (write s).db = s.db)
    (hclock : s.clock ≤ (write s).clock) :
    (revokedDead env T).CommitsLoosely loose write s held := by
  have hwrites : Writes env [] [] [] (fun _ => False) s.db (write s).db := hdb ▸ Writes.refl _
  exact commitsLoosely_of_writes hs hwrites hclock (fun _ hmem => absurd hmem List.not_mem_nil)
    (fun _ hrt => absurd hrt List.not_mem_nil) (fun _ hx => absurd hx List.not_mem_nil)
    (hwrites.linked hs.linked fun _ hrt => absurd hrt List.not_mem_nil)
    (fun _ _ hended => hended.elim) fun _ hrt => absurd hrt List.not_mem_nil

end

/-- Every request keeps the discipline but for what it touches loosely. -/
theorem Committing.commitsLoosely {t : T} (hs : RevokedDead env s)
    (h : Committing (revokedDead env T) env t s held write) :
    (revokedDead env T).CommitsLoosely loose write s held := by
  cases h with
  | nothing => exact commitsLoosely_of_refl hs rfl le_rfl
  | login hlogging => exact commitsLoosely_loggedIn hs hlogging
  | refresh hexchanging => exact commitsLoosely_refreshed hs hexchanging
  | logout hending => exact commitsLoosely_revoked hs hending writes_revoked le_rfl
  | logoutAll hending =>
      refine commitsLoosely_revoked hs hending (writes_revoked.congr ?_ ⟨rfl, rfl, rfl⟩) le_rfl
      exact ⟨rfl, rfl, rfl⟩
  | tick =>
      exact commitsLoosely_of_refl hs rfl (le_add_of_nonneg_right (Int.natCast_nonneg _))

end

/-! ### All requests together -/

section

variable {T : Type} [DecidableEq T]

/-- **The tokens of a revoked session are not active**, in every state that is reached by an
undisturbed schedule of any number of requests: none of its commits adds a token to a session
whose tokens another open transaction has looked for to revoke them, and none revokes a session
one of whose unrevoked tokens another open transaction is exchanging. -/
theorem revoked_sessions_stay_dead (env : AuthEnv) {s : AuthStore} (hs : RevokedDead env s)
    (call : T → AuthCall) {events : List (Event T)}
    (hevents : Runs.Along (step (transactions AuthStore (AuthLock T) ServiceError))
      (Undisturbed loose) (authStart env s call) events) :
    ∀ x ∈ (authAfter env s call events).store.sessionRows.rows, x.revoked = true →
      ∀ rt ∈ (authAfter env s call events).store.tokens.rows, rt.sessionId = some x.sessionId →
        rt.isActive (authAfter env s call events).store.clock = false :=
  (run_of_undisturbed (D := revokedDead env T) hs (fun t _ hs' => wp_mono
    (fun _ _ _ h => h.2.commitsLoosely h.1) (wp_txn orderly_revokedDead (call t) hs'.2))
    hevents).dead

end

/-! ### A refresh during a logout -/

theorem revokedDead_adaStore : RevokedDead Auth.plainEnv adaStore := by
  refine ⟨linked_adaStore, fun x hx hdead => ?_⟩
  obtain rfl := List.mem_singleton.mp hx
  exact absurd hdead (by decide)

/-- Ada, as her access token names her. -/
def adaUser : AuthUser := ⟨1, .admin, .admin, 6, some 1, some 0, none⟩

/-- Ada refreshes in one tab, and ends the session in another. -/
def refreshAndLogout (t : ℕ) : AuthCall :=
  if t = 0 then .refreshTokens adaContext ⟨2, 30, 40⟩ adaJwt else .logoutSession adaUser 1

/-- First the refresh, then the logout. -/
def oneAfterTheOther : List (Event ℕ) :=
  List.replicate 12 (.step 0) ++ ([.crash 0] ++ List.replicate 6 (.step 1))

theorem undisturbed_oneAfterTheOther :
    Runs.Along (step (transactions AuthStore (AuthLock ℕ) ServiceError)) (Undisturbed loose)
      (authStart Auth.plainEnv adaStore refreshAndLogout) oneAfterTheOther := by
  have hstart : Alone (authStart Auth.plainEnv adaStore refreshAndLogout) 0 :=
    fun k u howner => nomatch howner
  obtain ⟨hfirst, halone⟩ := hstart.along loose 12
  exact Runs.along_append.mpr ⟨hfirst, trivial, ((halone.crash 1).along loose 6).1⟩

/-- One after the other leave the session without an active token. -/
theorem ended_session_is_dead :
    ∃ x ∈ (authAfter Auth.plainEnv adaStore refreshAndLogout
        oneAfterTheOther).store.sessionRows.rows,
      x.revoked = true ∧
      ∀ rt ∈ (authAfter Auth.plainEnv adaStore refreshAndLogout oneAfterTheOther).store.tokens.rows,
        rt.sessionId = some x.sessionId → rt.isActive (authAfter Auth.plainEnv adaStore
          refreshAndLogout oneAfterTheOther).store.clock = false := by
  obtain ⟨x, hx, hdead⟩ : ∃ x ∈ (authAfter Auth.plainEnv adaStore refreshAndLogout
      oneAfterTheOther).store.sessionRows.rows, x.revoked = true := by decide +kernel
  exact ⟨x, hx, hdead, revoked_sessions_stay_dead Auth.plainEnv revokedDead_adaStore
    refreshAndLogout undisturbed_oneAfterTheOther x hx hdead⟩

/-- The logout waits for the token that is being exchanged. -/
def waitingForTheRefresh : List (Event ℕ) :=
  List.replicate 6 (.step 0) ++ List.replicate 2 (.step 1) ++ List.replicate 6 (.step 0) ++
    List.replicate 4 (.step 1)

/-- Both have committed: the session is revoked, and the new token is active. -/
theorem logout_misses_new_token :
    RevokedDead Auth.plainEnv adaStore ∧
      ((authAfter Auth.plainEnv adaStore refreshAndLogout
        waitingForTheRefresh).txn 0).isNone = true ∧
      ((authAfter Auth.plainEnv adaStore refreshAndLogout
        waitingForTheRefresh).txn 1).isNone = true ∧
      ∃ x ∈ (authAfter Auth.plainEnv adaStore refreshAndLogout
          waitingForTheRefresh).store.sessionRows.rows, x.revoked = true ∧
        ∃ rt ∈ (authAfter Auth.plainEnv adaStore refreshAndLogout
            waitingForTheRefresh).store.tokens.rows, rt.sessionId = some x.sessionId ∧
          rt.isActive (authAfter Auth.plainEnv adaStore refreshAndLogout
            waitingForTheRefresh).store.clock = true :=
  ⟨revokedDead_adaStore, by decide +kernel, by decide +kernel, by decide +kernel⟩

end SwCouriers.AuthTxns
