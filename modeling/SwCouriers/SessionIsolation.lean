import SwCouriers.AuthRuns

/-!
# Session Operations and Other Users

`logout_other_sessions` and `list_sessions` touch and show only what belongs to the user who
asks. `logout_session` takes a session id from the request; of its four effects only the update
of the session looks at the user, while the access tokens that are blacklisted, the refresh tokens
that are revoked and the marker are those of the session, whoever it belongs to.

## Main results

* `logoutSession_isolated_iff`: when `logout_session` leaves other users alone.
* `session_operations_isolated`: **what the three operations change and tell**.
* `ada_ends_beas_session`: a user ends the session of another one.
-/

namespace SwCouriers.Auth

open Checked Requests

/-- What belongs to other users is as it was: their sessions, their refresh tokens, the blacklist
entries of their access tokens, and the markers of their sessions. -/
structure Isolated (userId : Id) (s s' : AuthState) : Prop where
  sessions : s'.db.sessions.rows.filter (fun x => x.userId ≠ userId) =
    s.db.sessions.rows.filter fun x => x.userId ≠ userId
  tokens : s'.db.refreshTokens.rows.filter (fun rt => rt.userId ≠ userId) =
    s.db.refreshTokens.rows.filter fun rt => rt.userId ≠ userId
  blacklist : ∀ tok ∈ s.db.issuedAccess, tok.sub ≠ userId →
    s'.redis.tokenBlacklist tok.jti = s.redis.tokenBlacklist tok.jti
  markers : ∀ x ∈ s.db.sessions.rows, x.userId ≠ userId →
    s'.redis.sessionRevoked x.sessionId = s.redis.sessionRevoked x.sessionId

/-- The states differ at most in what belongs to other users, and in what is not kept for any
user. -/
structure SameFor (userId : Id) (s s' : AuthState) : Prop where
  clock : s.clock = s'.clock
  sessions : s.db.sessions.rows.filter (fun x => x.userId = userId) =
    s'.db.sessions.rows.filter fun x => x.userId = userId
  tokens : s.db.refreshTokens.rows.filter (fun rt => rt.userId = userId) =
    s'.db.refreshTokens.rows.filter fun rt => rt.userId = userId

/-- Refresh tokens belong to the users of their sessions, and are paired with access tokens of
the same users. -/
structure Owned (s : AuthState) : Prop where
  token_session : ∀ rt ∈ s.db.refreshTokens.rows, ∀ sid, rt.sessionId = some sid →
    ∃ x ∈ s.db.sessions.rows, x.sessionId = sid ∧ x.userId = rt.userId
  token_pair : ∀ rt ∈ s.db.refreshTokens.rows, ∀ tok ∈ s.db.issuedAccess,
    rt.accessJti = some tok.jti → tok.sub = rt.userId

/-- It is so in every state that requests reach. -/
theorem WellKept.owned {env : AuthEnv} {s : AuthState} (hs : WellKept env s) : Owned s where
  token_session rt hrt sid hsid := by
    obtain ⟨x, hx, hsession, huser⟩ := hs.row_session rt hrt
    exact ⟨x, hx, (Option.some.inj (hsid.symm.trans hsession)).symm, huser.symm⟩
  token_pair rt hrt tok htok hjti := by
    obtain ⟨x, hx, hsession, huser⟩ := hs.row_session rt hrt
    obtain ⟨y, hy, hsession', hsub⟩ := hs.tok_session tok htok
    have hid : x.sessionId = y.sessionId := by
      refine Option.some.inj ?_
      rw [← hsession, ← hsession', hs.pair rt hrt tok htok hjti]
    obtain rfl := Table.eq_of_key hx hy hid
    exact hsub.trans huser.symm

section

variable {env : AuthEnv} {user : AuthUser} {s s' : AuthState} {userId : Id}

/-- Rows that are not rewritten are the same rows. -/
theorem filter_map_of_eq {ρ : Type} {p : ρ → Bool} {f : ρ → ρ} {rows : List ρ}
    (hp : ∀ r, p (f r) = p r) (hf : ∀ r ∈ rows, p r = true → f r = r) :
    (rows.map f).filter p = rows.filter p := by
  have hcomp : p ∘ f = p := funext hp
  rw [List.filter_map, hcomp]
  refine (List.map_congr_left fun r hr => ?_).trans (List.map_id _)
  exact hf r (List.mem_filter.mp hr).1 (List.mem_filter.mp hr).2

theorem Isolated.refl (userId : Id) (s : AuthState) : Isolated userId s s :=
  ⟨rfl, rfl, fun _ _ _ => rfl, fun _ _ _ => rfl⟩

/-- What is ended when the tokens of sessions are revoked and blacklisted and the sessions are
marked, together with sessions of the user. -/
theorem isolated_of_sessions {sids : List Id} {p : Session → Bool} {now : Instant}
    (hs : Owned s) (hp : ∀ x, p x = true → x.userId = userId)
    (htokens : ∀ x ∈ s.db.sessions.rows, x.sessionId ∈ sids → x.userId ≠ userId →
      ∀ rt ∈ s.db.refreshTokens.rows, rt.sessionId = some x.sessionId →
        rt.isActive s.clock = false)
    (hmarkers : ∀ x ∈ s.db.sessions.rows, x.sessionId ∈ sids → x.userId ≠ userId →
      s.redis.sessionRevoked x.sessionId = some (s.clock + env.accessTtl)) :
    Isolated userId s (((s.blacklisted env (s.db.getActiveAccessJtisForSessions sids
      s.clock)).mapDb fun db => (db.revokeRefreshTokensForSessions sids s.clock
        ).revokeSessionsWhere now p).marked env sids) := by
  -- the active tokens of the sessions are the user's
  have hactive : ∀ rt ∈ s.db.refreshTokens.rows,
      (rt.ofSessions sids && rt.isActive s.clock) = true → rt.userId = userId := by
    intro rt hrt hmatch
    obtain ⟨hof, hactive⟩ := Bool.and_eq_true_iff.mp hmatch
    obtain ⟨sid, hsid, hmem⟩ := (Option.any_eq_true _ _).mp hof
    obtain ⟨x, hx, rfl, hxuser⟩ := hs.token_session rt hrt sid hsid
    by_contra hother
    have hdead := htokens x hx (of_decide_eq_true hmem) (hxuser ▸ hother) rt hrt hsid
    exact absurd (hactive.symm.trans hdead) (by decide)
  refine ⟨filter_map_of_eq (fun x => ?_) fun x _ hx => ?_,
    filter_map_of_eq (fun rt => ?_) fun rt hrt hother => ?_, fun tok htok hother => ?_,
    fun x hx hother => ?_⟩
  · split <;> rfl
  · rw [if_neg fun hmatch => of_decide_eq_true hx (hp x hmatch)]
  · split <;> rfl
  · rw [if_neg fun hmatch => of_decide_eq_true hother (hactive rt hrt hmatch)]
  · refine if_neg fun hmem => ?_
    obtain ⟨rt, hrt, hjti⟩ := List.mem_filterMap.mp hmem
    obtain ⟨hrt, hmatch⟩ := List.mem_filter.mp hrt
    exact hother ((hs.token_pair rt hrt tok htok hjti).trans (hactive rt hrt hmatch))
  · change withEntries sids _ s.redis.sessionRevoked x.sessionId = _
    rw [withEntries]
    split
    · rename_i hmem
      exact (hmarkers x hx hmem hother).symm
    · rfl

/-! ### One session -/

/-- The session is not another user's, or there is nothing to end in it: none of its tokens is
active, and its marker already ends when a new one would. -/
def Confined (env : AuthEnv) (userId sid : Id) (s : AuthState) : Prop :=
  ∀ x ∈ s.db.sessions.rows, x.sessionId = sid → x.userId ≠ userId →
    (∀ rt ∈ s.db.refreshTokens.rows, rt.sessionId = some sid → rt.isActive s.clock = false) ∧
    s.redis.sessionRevoked sid = some (s.clock + env.accessTtl)

/-- **`logout_session` leaves other users alone** exactly if the session is not another user's,
or there is nothing to end in it. -/
theorem logoutSession_isolated_iff (hs : Owned s) (sid : Id) :
    Isolated user.id s (logoutSession env user sid s).2 ↔ Confined env user.id sid s := by
  rw [logoutSession_apply]
  constructor
  · rintro h x hx rfl hother
    refine ⟨fun rt hrt hsid => ?_, ?_⟩
    · refine Bool.eq_false_iff.mpr fun hactive => ?_
      obtain ⟨y, hy, hid, huser⟩ := hs.token_session rt hrt _ hsid
      obtain rfl := Table.eq_of_key hy hx hid
      -- the row is still there, but it was rewritten
      have hkept : rt ∈ s.db.refreshTokens.rows.filter fun rt => rt.userId ≠ user.id :=
        List.mem_filter.mpr ⟨hrt, decide_eq_true (huser ▸ hother)⟩
      rw [← h.tokens] at hkept
      obtain ⟨rt₀, hrt₀, hwritten⟩ := List.mem_map.mp (List.mem_filter.mp hkept).1
      obtain rfl : rt₀ = rt := by
        refine Table.eq_of_key hrt₀ hrt ?_
        rw [← hwritten]
        split <;> rfl
      have hmatch : (rt₀.ofSessions [y.sessionId] && rt₀.isActive s.clock) = true := by
        simp [RefreshToken.ofSessions, hsid, hactive]
      have hrevoked : rt₀.revoked = true := by
        rw [← hwritten]
        exact (congrArg RefreshToken.revoked (if_pos hmatch)).trans rfl
      rw [RefreshToken.isActive, hrevoked] at hactive
      exact Bool.false_ne_true hactive
    · have hmarker := h.markers x hx hother
      change withEntries [x.sessionId] _ s.redis.sessionRevoked x.sessionId = _ at hmarker
      rw [withEntries, if_pos (List.mem_singleton_self _)] at hmarker
      exact hmarker.symm
  · intro h
    refine isolated_of_sessions hs (fun x hmatch => ?_) ?_ ?_
    · simp only [AuthDb.unrevokedSession, Bool.and_eq_true, decide_eq_true_eq] at hmatch
      exact hmatch.1.1
    · intro x hx hmem hother rt hrt hsid
      obtain rfl := List.mem_singleton.mp hmem
      exact (h x hx rfl hother).1 rt hrt hsid
    · intro x hx hmem hother
      obtain rfl := List.mem_singleton.mp hmem
      exact (h x hx rfl hother).2

/-! ### The other sessions -/

/-- **`logout_other_sessions` leaves other users alone.** -/
theorem logoutOtherSessions_isolated (hs : Owned s) :
    Isolated user.id s (logoutOtherSessions env user s).2 := by
  rw [logoutOtherSessions_apply]
  cases keptSession user s with
  | error e => exact .refl _ _
  | ok keep =>
      dsimp only
      split
      · -- all sessions that are found are the user's
        have hown : ∀ x ∈ s.db.sessions.rows,
            x.sessionId ∈ s.db.sessionsExcept user.id keep → x.userId = user.id := by
          intro x hx hmem
          obtain ⟨y, hy, hid⟩ := List.mem_map.mp hmem
          obtain ⟨hy, hmatch⟩ := List.mem_filter.mp hy
          obtain rfl := Table.eq_of_key hy hx hid
          simp only [Bool.and_eq_true, decide_eq_true_eq] at hmatch
          exact hmatch.1.1
        refine isolated_of_sessions hs (fun x hmatch => ?_) ?_ ?_
        · exact of_decide_eq_true (Bool.and_eq_true_iff.mp hmatch).1
        · exact fun x hx hmem hother => absurd (hown x hx hmem) hother
        · exact fun x hx hmem hother => absurd (hown x hx hmem) hother
      · exact .refl _ _

/-! ### What the caller is told -/

/-- The sessions of a user. -/
def AuthDb.ownSessions (userId : Id) (db : AuthDb) : List Session :=
  db.sessions.rows.filter fun x => x.userId = userId

/-- The refresh tokens of a user. -/
def AuthDb.ownTokens (userId : Id) (db : AuthDb) : List RefreshToken :=
  db.refreshTokens.rows.filter fun rt => rt.userId = userId

theorem sessionsExcept_eq (userId keep : Id) (db : AuthDb) :
    db.sessionsExcept userId keep = ((db.ownSessions userId).filter fun x =>
      !x.revoked && decide (x.sessionId ≠ keep)).map Session.sessionId := by
  rw [AuthDb.sessionsExcept, AuthDb.ownSessions, List.filter_filter]
  refine congrArg (List.map _) (List.filter_congr fun x _ => ?_)
  grind

theorem listActiveSessions_eq (userId : Id) (now : Instant) (db : AuthDb) :
    db.listActiveSessions userId now = ((db.ownSessions userId).filter fun x =>
      !x.revoked && (db.ownTokens userId).any fun rt =>
        rt.sessionId = some x.sessionId && rt.isActive now).insertionSort
      fun a b => AuthDb.seenAfter a.lastSeenAt b.lastSeenAt = true := by
  rw [AuthDb.listActiveSessions, AuthDb.ownSessions, AuthDb.ownTokens, List.filter_filter]
  refine congrArg (List.insertionSort _) (List.filter_congr fun x _ => ?_)
  rw [List.any_filter]
  simp only [Bool.and_assoc, Bool.and_comm, Bool.and_left_comm]

theorem countP_unrevoked_eq (userId sid : Id) (db : AuthDb) :
    db.sessions.rows.countP (AuthDb.unrevokedSession userId sid) =
      (db.ownSessions userId).countP fun x => decide (x.sessionId = sid) && !x.revoked := by
  rw [AuthDb.ownSessions, List.countP_filter]
  refine List.countP_congr fun x _ => ?_
  rw [AuthDb.unrevokedSession, Bool.and_assoc, Bool.and_comm]

theorem findActiveByAccessJti_eq (userId jti : Id) (now : Instant) (db : AuthDb) :
    db.findActiveByAccessJti userId jti now =
      (db.ownTokens userId).find? fun rt => rt.accessJti = some jti && rt.isActive now := by
  rw [AuthDb.findActiveByAccessJti, AuthDb.ownTokens, List.find?_filter]
  simp only [Bool.and_assoc, Bool.decide_and, Bool.decide_eq_true]

theorem sessionIsActiveForUser_eq (userId sid : Id) (db : AuthDb) :
    db.sessionIsActiveForUser userId sid =
      (db.ownSessions userId).any fun x => x.sessionId = sid && !x.revoked := by
  rw [AuthDb.sessionIsActiveForUser, AuthDb.ownSessions, List.any_filter]
  simp only [Bool.and_assoc]

/-- What the caller is told depends on the caller's sessions and tokens only. -/
theorem results_eq_of_sameFor (h : SameFor user.id s s') :
    (∀ sid, (logoutSession env user sid s).1 = (logoutSession env user sid s').1) ∧
      (logoutOtherSessions env user s).1 = (logoutOtherSessions env user s').1 ∧
      (listSessions env user s).1 = (listSessions env user s').1 := by
  have hsessions : s.db.ownSessions user.id = s'.db.ownSessions user.id := h.sessions
  have htokens : s.db.ownTokens user.id = s'.db.ownTokens user.id := h.tokens
  refine ⟨fun sid => ?_, ?_, ?_⟩
  · rw [logoutSession_apply, logoutSession_apply, countP_unrevoked_eq, countP_unrevoked_eq,
      hsessions]
  · have hkept : keptSession user s = keptSession user s' := by
      simp only [keptSession, findActiveByAccessJti_eq, sessionIsActiveForUser_eq, hsessions,
        htokens, h.clock]
    rw [logoutOtherSessions_apply, logoutOtherSessions_apply, hkept]
    cases keptSession user s' with
    | error e => rfl
    | ok keep => simp only [sessionsExcept_eq, hsessions]
  · have hlist : s.db.listActiveSessions user.id s.clock =
        s'.db.listActiveSessions user.id s'.clock := by
      rw [listActiveSessions_eq, listActiveSessions_eq, hsessions, htokens, h.clock]
    rw [listSessions, bind_currentTime, bind_currentTime, Handler.bind_query, Handler.bind_query,
      hlist]
    rfl

/-- **What the session operations change and tell.** `logout_other_sessions` and `list_sessions`
leave what belongs to other users as it is, `logout_session` exactly if the session is not
another user's or there is nothing to end in it; and the caller is told the same in any two states
that differ only in what belongs to others. -/
theorem session_operations_isolated (env : AuthEnv) (user : AuthUser) {s : AuthState}
    (hs : Owned s) :
    (∀ sid, Isolated user.id s (logoutSession env user sid s).2 ↔ Confined env user.id sid s) ∧
      Isolated user.id s (logoutOtherSessions env user s).2 ∧
      Isolated user.id s (listSessions env user s).2 ∧
      ∀ s', SameFor user.id s s' →
        (∀ sid, (logoutSession env user sid s).1 = (logoutSession env user sid s').1) ∧
        (logoutOtherSessions env user s).1 = (logoutOtherSessions env user s').1 ∧
        (listSessions env user s).1 = (listSessions env user s').1 :=
  ⟨logoutSession_isolated_iff hs, logoutOtherSessions_isolated hs, .refl _ _,
    fun _ hsame => results_eq_of_sameFor hsame⟩

end

/-! ### Ada ends a session of Bea -/

/-- The session of Ada is 1, and that of Bea is 5. -/
def adaAndBea : AuthState :=
  let session (sid userId : Id) : Session := ⟨sid, userId, false, none, none, none, none, none⟩
  let token (sid userId : Id) : RefreshToken :=
    ⟨toString sid, userId, none, plainEnv.refreshTtl, false, none, some sid, 0⟩
  adaState.mapDb fun db => { db with
    users := db.users.insert { ada with id := 2, email := "bea" }
    sessions := (db.sessions.insert (session 1 1)).insert (session 5 2)
    refreshTokens := (db.refreshTokens.insert (token 1 1)).insert (token 5 2) }

/-- Ada, as her access token names her. -/
def adaCaller : AuthUser := ⟨1, .admin, .admin, 6, some 1, some 0, none⟩

theorem owned_adaAndBea : Owned adaAndBea := by
  refine ⟨fun rt hrt sid hsid => ?_, fun rt _ tok htok => absurd htok List.not_mem_nil⟩
  have hrows : ∀ rt ∈ adaAndBea.db.refreshTokens.rows, ∀ sid ∈ rt.sessionId,
      ∃ x ∈ adaAndBea.db.sessions.rows, x.sessionId = sid ∧ x.userId = rt.userId := by
    decide +kernel
  exact hrows rt hrt sid hsid

/-- Ada ends her own session, and what is Bea's stays. -/
theorem ada_ends_her_session :
    Owned adaAndBea ∧
      Isolated 1 adaAndBea (logoutSession plainEnv adaCaller 1 adaAndBea).2 :=
  ⟨owned_adaAndBea, ((session_operations_isolated plainEnv adaCaller owned_adaAndBea).1 1).mpr
    (by unfold Confined; decide +kernel)⟩

/-- Ada names the session of Bea, and the refresh token of Bea is revoked. -/
theorem ada_ends_beas_session :
    Owned adaAndBea ∧
      ¬ Isolated 1 adaAndBea (logoutSession plainEnv adaCaller 5 adaAndBea).2 :=
  ⟨owned_adaAndBea, fun h => absurd h.tokens (by decide +kernel)⟩

end SwCouriers.Auth
