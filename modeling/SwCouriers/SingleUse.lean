import SwCouriers.AuthTxnWrites

/-!
# Refresh Tokens Are Exchanged Once

However logins, refreshes and logouts interleave, a refresh token is exchanged for a new one at
most once, and a session has at most one token that is not revoked: the conditional `UPDATE`
holds the row until the new token is committed in its place. A request that fails after it took
the token leaves the row as it was, and free.

## Main results

* `Committing.commits`: every request keeps the discipline.
* `refresh_tokens_single_use`: **single use**, along every schedule.
-/

namespace SwCouriers.AuthTxns

open Checked ReadCommitted Auth Discipline

/-- What holds of every committed store: a session has at most one token that is not revoked,
and the tokens that were exchanged are revoked, each exchanged once. -/
structure SingleUse (env : AuthEnv) (s : AuthStore) : Prop where
  linked : Linked env s
  single : ∀ sid, ∀ rt ∈ s.tokens.rows, ∀ rt' ∈ s.tokens.rows, rt.sessionId = some sid →
    rt'.sessionId = some sid → rt.revoked = false → rt'.revoked = false → rt = rt'
  once : s.exchanged.Nodup
  spent : ∀ hash ∈ s.exchanged, ∃ rt ∈ s.tokens.rows, rt.tokenHash = hash ∧ rt.revoked = true

/-- The discipline of single use. -/
def singleUse (env : AuthEnv) (T : Type) : Discipline AuthStore (AuthLock T) where
  inv := SingleUse env
  evolves := Follows
  refl := Follows.refl
  trans := Follows.trans
  mono := Follows.mono

section

variable {T : Type} {env : AuthEnv} {s s' : AuthStore} {hashes : List String}
  {tokens : List RefreshToken} {opened : List Session} {ended : Session → Prop}

theorem orderly_singleUse : Orderly env (singleUse env T) :=
  ⟨fun h => h, fun h => h.linked⟩

/-- A session has at most one unrevoked token after a commit: the one that is added replaces
what the session had before. -/
theorem single_of_writes (hs : SingleUse env s)
    (h : Writes env hashes tokens opened ended s.db s'.db)
    (hone : ∀ rt ∈ tokens, ∀ rt' ∈ tokens, rt = rt')
    (hreplaces : ∀ rt ∈ tokens, ∀ rt₀ ∈ s.tokens.rows, rt₀.revoked = false →
      rt₀.sessionId.isSome → rt₀.sessionId = rt.sessionId → rt₀.tokenHash ∈ hashes) :
    ∀ sid, ∀ rt ∈ s'.tokens.rows, ∀ rt' ∈ s'.tokens.rows, rt.sessionId = some sid →
      rt'.sessionId = some sid → rt.revoked = false → rt'.revoked = false → rt = rt' := by
  intro sid rt hrt rt' hrt' hsid hsid' hlive hlive'
  rcases h.mem_of_not_revoked hrt hlive with ⟨hold, hnot⟩ | hnew
  · rcases h.mem_of_not_revoked hrt' hlive' with ⟨hold', -⟩ | hnew'
    · exact hs.single sid rt hold rt' hold' hsid hsid' hlive hlive'
    · refine absurd (hreplaces rt' hnew' rt hold hlive ?_ (hsid.trans hsid'.symm)) hnot
      rw [hsid, Option.isSome_some]
  · rcases h.mem_of_not_revoked hrt' hlive' with ⟨hold', hnot'⟩ | hnew'
    · refine absurd (hreplaces rt hnew rt' hold' hlive' ?_ (hsid'.trans hsid.symm)) hnot'
      rw [hsid', Option.isSome_some]
    · exact hone rt hnew rt' hnew'

/-- Exchanged tokens stay revoked. -/
theorem spent_of_writes (hs : SingleUse env s)
    (h : Writes env hashes tokens opened ended s.db s'.db) :
    ∀ hash ∈ s.exchanged, ∃ rt ∈ s'.tokens.rows, rt.tokenHash = hash ∧ rt.revoked = true := by
  intro hash hmem
  obtain ⟨rt, hrt, rfl, hdead⟩ := hs.spent hash hmem
  obtain ⟨rt', hrt', hhash, -, -, hsame⟩ := h.kept rt hrt
  refine ⟨rt', hrt', hhash, ?_⟩
  rcases hsame with ⟨-, rfl⟩ | ⟨-, hrevoked, -⟩
  · exact hdead
  · exact hrevoked

/-- What adds no token keeps the invariant. -/
theorem SingleUse.of_writes (hs : SingleUse env s)
    (h : Writes env hashes [] [] ended s.db s'.db) (hexchanged : s'.exchanged = s.exchanged) :
    SingleUse env s' where
  linked := h.linked hs.linked fun _ hrt => absurd hrt List.not_mem_nil
  single := single_of_writes hs h (fun _ hrt => absurd hrt List.not_mem_nil)
    fun _ hrt => absurd hrt List.not_mem_nil
  once := hexchanged ▸ hs.once
  spent := hexchanged ▸ spent_of_writes hs h

end

section

variable {T : Type} {env : AuthEnv} {s : AuthStore} {held : AuthLock T → Prop}
variable {ctx : RequestContext} {draw : Draw} {user : Auth.User} {now : Instant}
  {oldest : List String}

theorem commits_loggedIn {password : String} (hs : SingleUse env s)
    (h : LoggingIn env ctx draw user now oldest s held) :
    (singleUse env T).Commits
      (AuthStore.mapDb (loggedInDb env ctx draw user password now oldest)) s held := by
  set s' := s.mapDb (loggedInDb env ctx draw user password now oldest)
  have hwrites : Writes env oldest [newToken env ctx draw now user draw.sessionId]
      [newSession env ctx draw now user.id] (fun _ => False) s.db s'.db := h.writes
  have hspent : ∀ hash ∈ s.exchanged, ∃ rt ∈ s'.tokens.rows, rt.tokenHash = hash ∧
      rt.revoked = true := spent_of_writes hs hwrites
  refine ⟨⟨h.linked hs.linked, single_of_writes hs hwrites ?_ ?_, hs.once, hspent⟩,
    hwrites.follows le_rfl h.oldest h.newTokens h.opened⟩
  · intro rt hrt rt' hrt'
    rw [List.mem_singleton.mp hrt, List.mem_singleton.mp hrt']
  · intro rt hrt rt₀ hrt₀ _ _ hsid
    obtain rfl := List.mem_singleton.mp hrt
    exact absurd hsid (hs.linked.no_tokens h.sessionFree hrt₀)

theorem commits_refreshed {t : T} {record : RefreshToken} (hs : SingleUse env s)
    (h : Exchanging (singleUse env T) env ctx draw t user record now oldest s held) :
    (singleUse env T).Commits (AuthStore.refreshed env ctx draw user record now oldest) s
      held := by
  set s' := s.refreshed env ctx draw user record now oldest
  have hwrites : Writes env (record.tokenHash :: oldest)
      [newToken env ctx draw now user (record.sessionId.getD draw.sessionId)]
      (openedFor env ctx draw now user.id record) (fun _ => False) s.db s'.db := h.writes
  have hspent : ∀ hash ∈ s.exchanged, ∃ rt ∈ s'.tokens.rows, rt.tokenHash = hash ∧
      rt.revoked = true := spent_of_writes hs hwrites
  refine ⟨⟨h.linked hs.linked, single_of_writes hs hwrites ?_ ?_, ?_, ?_⟩,
    hwrites.follows le_rfl h.hashes h.newTokens h.opened⟩
  · intro rt hrt rt' hrt'
    rw [List.mem_singleton.mp hrt, List.mem_singleton.mp hrt']
  · -- the only other unrevoked token of the session is the one that is exchanged
    intro rt hrt rt₀ hrt₀ hlive hsome hsid
    obtain rfl := List.mem_singleton.mp hrt
    change rt₀.sessionId = some (record.sessionId.getD draw.sessionId) at hsid
    cases hsession : record.sessionId with
    | none =>
        rw [hsession, Option.getD_none] at hsid
        exact absurd hsid (hs.linked.no_tokens (h.newSession hsession).2 hrt₀)
    | some sid =>
        rw [hsession, Option.getD_some] at hsid
        obtain rfl := hs.single sid rt₀ hrt₀ record h.mem hsid hsession hlive h.unrevoked
        exact List.mem_cons_self
  · -- the token was not exchanged before: it is not revoked
    refine List.nodup_append.mpr ⟨hs.once, List.nodup_singleton _, fun hash hmem hash' hmem' => ?_⟩
    rw [List.mem_singleton.mp hmem']
    rintro rfl
    obtain ⟨rt, hrt, hhash, hdead⟩ := hs.spent _ hmem
    obtain rfl := Table.eq_of_key hrt h.mem hhash
    exact absurd (hdead.symm.trans h.unrevoked) (by decide)
  · intro hash hmem
    rcases List.mem_append.mp hmem with hold | hnew
    · exact hspent hash hold
    · obtain ⟨rt', hrt', hhash, -, -, hsame⟩ := hwrites.kept record h.mem
      refine ⟨rt', hrt', hhash.trans (List.mem_singleton.mp hnew).symm, ?_⟩
      rcases hsame with ⟨hnot, -⟩ | ⟨-, hrevoked, -⟩
      · exact absurd List.mem_cons_self hnot
      · exact hrevoked

/-- What only revokes may be committed. -/
theorem commits_of_writes {hashes : List String} {ended : Session → Prop}
    {write : AuthStore → AuthStore} (hs : SingleUse env s)
    (h : Writes env hashes [] [] ended s.db (write s).db)
    (hexchanged : (write s).exchanged = s.exchanged) (hclock : s.clock ≤ (write s).clock)
    (hheld : ∀ hash ∈ hashes, held (.token hash)) :
    (singleUse env T).Commits write s held :=
  ⟨hs.of_writes h hexchanged, h.follows hclock hheld (fun _ hrt => absurd hrt List.not_mem_nil)
    fun _ hx => absurd hx List.not_mem_nil⟩

/-- Every request keeps the discipline of single use. -/
theorem Committing.commits {t : T} {write : AuthStore → AuthStore} (hs : SingleUse env s)
    (h : Committing (singleUse env T) env t s held write) :
    (singleUse env T).Commits write s held := by
  cases h with
  | nothing =>
      exact commits_of_writes hs (.refl _) rfl le_rfl fun _ hmem => absurd hmem List.not_mem_nil
  | login hlogging => exact commits_loggedIn hs hlogging
  | refresh hexchanging => exact commits_refreshed hs hexchanging
  | logout hending =>
      obtain ⟨scope, p, -, -, -, hlooked⟩ := hending.scope
      exact commits_of_writes hs writes_revoked rfl le_rfl hlooked.token
  | logoutAll hending =>
      obtain ⟨scope, p, -, -, -, hlooked⟩ := hending.scope
      refine commits_of_writes hs (writes_revoked.congr ?_ ⟨rfl, rfl, rfl⟩) rfl le_rfl
        hlooked.token
      exact ⟨rfl, rfl, rfl⟩
  | tick =>
      exact commits_of_writes hs (.refl _) rfl
        (le_add_of_nonneg_right (Int.natCast_nonneg _)) fun _ hmem => absurd hmem List.not_mem_nil

end

/-! ### All requests together -/

section

variable {T : Type} [DecidableEq T]

/-- The transactions of a number of requests before any of them has started. -/
def authStart (env : AuthEnv) (s : AuthStore) (call : T → AuthCall) :
    State AuthStore (AuthLock T) T (Rest AuthStore (AuthLock T) ServiceError) :=
  .start s fun t => some ((call t).txn env t)

/-- Where a number of requests are after a schedule. -/
def authAfter (env : AuthEnv) (s : AuthStore) (call : T → AuthCall) (events : List (Event T)) :
    State AuthStore (AuthLock T) T (Rest AuthStore (AuthLock T) ServiceError) :=
  Runs.run (step (transactions AuthStore (AuthLock T) ServiceError)) (authStart env s call) events

/-- **Refresh tokens are single use.** Along every schedule of any number of requests, however
many present the same token: no token is exchanged twice, a session has at most one active token
in every committed state, and a request that fails leaves every row as it was, and none of them
locked by it. -/
theorem refresh_tokens_single_use (env : AuthEnv) {s : AuthStore} (hs : SingleUse env s)
    (call : T → AuthCall) (events : List (Event T)) :
    (authAfter env s call events).store.exchanged.Nodup ∧
      (∀ now sid, ∀ rt ∈ (authAfter env s call events).store.tokens.rows,
        ∀ rt' ∈ (authAfter env s call events).store.tokens.rows,
        rt.sessionId = some sid → rt'.sessionId = some sid → rt.isActive now = true →
        rt'.isActive now = true → rt = rt') ∧
      ∀ t e, Fails (authAfter env s call events) t e →
        (authAfter env s call (events ++ [e])).store = (authAfter env s call events).store ∧
        ∀ k, (authAfter env s call (events ++ [e])).owner k ≠ some t := by
  have hrun : SingleUse env (authAfter env s call events).store :=
    Discipline.run (D := singleUse env T) hs (fun t s' hs' => wp_mono
      (fun write s held h => h.2.commits h.1) (wp_txn orderly_singleUse (call t) hs'.2)) events
  refine ⟨hrun.once, fun now sid rt hrt rt' hrt' hsid hsid' hactive hactive' => ?_,
    fun t e hfails => ?_⟩
  · exact hrun.single sid rt hrt rt' hrt' hsid hsid' (isActive_eq_true.mp hactive).1
      (isActive_eq_true.mp hactive').1
  · have hstep := step_of_fails hfails
    rwa [authAfter, Runs.run_append]

end

/-! ### Two tabs refresh at once -/

theorem linked_adaStore : Linked Auth.plainEnv adaStore := by
  have htokens : adaStore.tokens.rows = [adaToken] := rfl
  constructor
  · intro rt hrt sid hsid
    rw [htokens] at hrt
    obtain rfl := List.mem_singleton.mp hrt
    obtain rfl := Option.some.inj hsid
    exact ⟨adaSession, List.mem_singleton_self _, rfl, rfl⟩
  · intro jwt hjwt
    obtain rfl := List.mem_singleton.mp hjwt
    exact ⟨adaToken, List.mem_singleton_self _, rfl, rfl⟩

theorem singleUse_adaStore : SingleUse Auth.plainEnv adaStore := by
  refine ⟨linked_adaStore, fun sid rt hrt rt' hrt' _ _ _ _ => ?_, List.nodup_nil,
    fun _ hmem => absurd hmem List.not_mem_nil⟩
  exact (List.mem_singleton.mp hrt).trans (List.mem_singleton.mp hrt').symm

/-- Every request presents the same token. -/
def refreshTwice (t : ℕ) : AuthCall := .refreshTokens adaContext ⟨2, 30 + t, 40 + t⟩ adaJwt

/-- The requests 0 and 1 take turns. -/
def takingTurns (rounds : ℕ) : List (Event ℕ) :=
  (List.replicate rounds [.step 0, .step 1]).flatten

/-- Of two tabs that refresh at the same time, one exchanges the token. -/
theorem two_tabs_exchange_once :
    SingleUse Auth.plainEnv adaStore ∧
      (authAfter Auth.plainEnv adaStore refreshTwice (takingTurns 13)).store.exchanged.Nodup ∧
      (authAfter Auth.plainEnv adaStore refreshTwice (takingTurns 13)).store.exchanged = ["7"] :=
  ⟨singleUse_adaStore,
    (refresh_tokens_single_use Auth.plainEnv singleUse_adaStore refreshTwice (takingTurns 13)).1,
    by decide +kernel⟩

end SwCouriers.AuthTxns
