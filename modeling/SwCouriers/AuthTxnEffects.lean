import SwCouriers.AuthTxns

/-!
# What Transactions on Tokens Hold and Write

However transactions on sessions and tokens interleave, a refresh token that is locked stays as
it is, a change of one revokes it, and rows are added only under the entries of the unique
indexes (`Follows`). From this, what each operation knows when it commits.

## Main results

* `wp_refreshTokens`: a refresh commits while it holds the token that it exchanges, which is
  still as it was found.
* `wp_login`: a login commits under entries of the unique indexes that are its own.
* `wp_revokeTokens` and the rules for the logouts: an update of many tokens holds what it
  revokes.
-/

namespace SwCouriers.AuthTxns

open Checked ReadCommitted Auth Discipline

variable {T : Type}

/-! ### How stores follow each other -/

/-- What a store may turn into when the given locks may be touched. -/
structure Follows (touched : AuthLock T → Prop) (s s' : AuthStore) : Prop where
  clock : s.clock ≤ s'.clock
  kept : ∀ rt ∈ s.tokens.rows, ∃ rt' ∈ s'.tokens.rows, rt'.tokenHash = rt.tokenHash ∧
    rt'.userId = rt.userId ∧ rt'.expiresAt = rt.expiresAt ∧
    (rt' = rt ∨ touched (.token rt.tokenHash) ∧ rt'.revoked = true)
  added : ∀ rt' ∈ s'.tokens.rows, (∃ rt ∈ s.tokens.rows, rt.tokenHash = rt'.tokenHash) ∨
    touched (.newToken rt'.tokenHash)
  keptSession : ∀ x ∈ s.sessionRows.rows, ∃ x' ∈ s'.sessionRows.rows,
    x'.sessionId = x.sessionId ∧ x'.userId = x.userId ∧ (x.revoked = true → x'.revoked = true)
  newSession : ∀ x' ∈ s'.sessionRows.rows, (∃ x ∈ s.sessionRows.rows, x.sessionId = x'.sessionId) ∨
    touched (.newSession x'.sessionId)

variable {rt : RefreshToken} {t : T}

namespace Follows

variable {touched touched' : AuthLock T → Prop} {s s' s₁ s₂ s₃ : AuthStore}

theorem refl (touched : AuthLock T → Prop) (s : AuthStore) : Follows touched s s :=
  ⟨le_rfl, fun rt hrt => ⟨rt, hrt, rfl, rfl, rfl, .inl rfl⟩, fun rt hrt => .inl ⟨rt, hrt, rfl⟩,
    fun x hx => ⟨x, hx, rfl, rfl, id⟩, fun x hx => .inl ⟨x, hx, rfl⟩⟩

theorem mono (hsub : ∀ k, touched k → touched' k) (h : Follows touched s s') :
    Follows touched' s s' where
  clock := h.clock
  kept rt hrt := by
    obtain ⟨rt', hrt', hhash, huser, hexp, hsame⟩ := h.kept rt hrt
    exact ⟨rt', hrt', hhash, huser, hexp, hsame.imp_right fun hr => ⟨hsub _ hr.1, hr.2⟩⟩
  added rt hrt := (h.added rt hrt).imp_right (hsub _)
  keptSession := h.keptSession
  newSession x hx := (h.newSession x hx).imp_right (hsub _)

theorem trans (h : Follows touched s₁ s₂) (h' : Follows touched s₂ s₃) :
    Follows touched s₁ s₃ where
  clock := h.clock.trans h'.clock
  kept rt hrt := by
    obtain ⟨rt₂, hrt₂, hhash, huser, hexp, hsame⟩ := h.kept rt hrt
    obtain ⟨rt₃, hrt₃, hhash', huser', hexp', hsame'⟩ := h'.kept rt₂ hrt₂
    refine ⟨rt₃, hrt₃, hhash'.trans hhash, huser'.trans huser, hexp'.trans hexp, ?_⟩
    rcases hsame with rfl | ⟨htouched, hrevoked⟩
    · exact hsame'
    · -- what is revoked stays revoked
      rcases hsame' with rfl | ⟨-, hrevoked'⟩
      · exact .inr ⟨htouched, hrevoked⟩
      · exact .inr ⟨htouched, hrevoked'⟩
  added rt hrt := by
    rcases h'.added rt hrt with ⟨rt₂, hrt₂, hhash⟩ | htouched
    · exact hhash ▸ h.added rt₂ hrt₂
    · exact .inr htouched
  keptSession x hx := by
    obtain ⟨x₂, hx₂, hid, huser, hdead⟩ := h.keptSession x hx
    obtain ⟨x₃, hx₃, hid', huser', hdead'⟩ := h'.keptSession x₂ hx₂
    exact ⟨x₃, hx₃, hid'.trans hid, huser'.trans huser, fun hrevoked => hdead' (hdead hrevoked)⟩
  newSession x hx := by
    rcases h'.newSession x hx with ⟨x₂, hx₂, hid⟩ | htouched
    · exact hid ▸ h.newSession x₂ hx₂
    · exact .inr htouched

/-- A token that may not be touched stays as it is. -/
theorem mem_of_not_touched (h : Follows touched s s') (hrt : rt ∈ s.tokens.rows)
    (hnot : ¬ touched (.token rt.tokenHash)) : rt ∈ s'.tokens.rows := by
  obtain ⟨rt', hrt', -, -, -, hsame⟩ := h.kept rt hrt
  rcases hsame with rfl | ⟨htouched, -⟩
  · exact hrt'
  · exact absurd htouched hnot

/-- A token that is not revoked is as it was, or it is new. -/
theorem mem_of_not_revoked (h : Follows touched s s') (hrt : rt ∈ s'.tokens.rows)
    (hrevoked : rt.revoked = false) :
    rt ∈ s.tokens.rows ∨
      (∀ rt₀ ∈ s.tokens.rows, rt₀.tokenHash ≠ rt.tokenHash) ∧ touched (.newToken rt.tokenHash) := by
  by_cases hold : ∃ rt₀ ∈ s.tokens.rows, rt₀.tokenHash = rt.tokenHash
  · obtain ⟨rt₀, hrt₀, hhash⟩ := hold
    obtain ⟨rt', hrt', hhash', -, -, hsame⟩ := h.kept rt₀ hrt₀
    obtain rfl := Table.eq_of_key hrt' hrt (hhash'.trans hhash)
    rcases hsame with rfl | ⟨-, hdead⟩
    · exact .inl hrt₀
    · exact absurd (hdead.symm.trans hrevoked) (by decide)
  · refine .inr ⟨fun rt₀ hrt₀ hhash => hold ⟨rt₀, hrt₀, hhash⟩, ?_⟩
    exact (h.added rt hrt).resolve_left hold

/-- A token that is not revoked in the end was there in between, too. -/
theorem mem_between (h : Follows touched s₁ s₂) (h' : Follows touched' s₂ s₃)
    (h₁ : rt ∈ s₁.tokens.rows) (h₃ : rt ∈ s₃.tokens.rows) (hrevoked : rt.revoked = false) :
    rt ∈ s₂.tokens.rows := by
  obtain ⟨rt₂, h₂, hhash, -, -, rfl | ⟨-, hdead⟩⟩ := h.kept rt h₁
  · exact h₂
  · obtain ⟨rt₃, hrt₃, hhash', -, -, hsame⟩ := h'.kept rt₂ h₂
    obtain rfl := Table.eq_of_key hrt₃ h₃ (hhash'.trans hhash)
    rcases hsame with rfl | ⟨-, hdead'⟩
    · exact absurd (hdead.symm.trans hrevoked) (by decide)
    · exact absurd (hdead'.symm.trans hrevoked) (by decide)

end Follows

/-! ### Links between the tables -/

/-- Tokens belong to sessions of their users, and every refresh token that was issued has its
row. -/
structure Linked (env : AuthEnv) (s : AuthStore) : Prop where
  owner : ∀ rt ∈ s.tokens.rows, ∀ sid, rt.sessionId = some sid →
    ∃ x ∈ s.sessionRows.rows, x.sessionId = sid ∧ x.userId = rt.userId
  jwt_row : ∀ jwt ∈ s.db.issuedRefresh, ∃ rt ∈ s.tokens.rows,
    rt.tokenHash = env.hashToken jwt ∧ rt.userId = jwt.sub

/-- A discipline for the store in which what is committed follows what was, and the tables are
linked. -/
structure Orderly (env : AuthEnv) (D : Discipline AuthStore (AuthLock T)) : Prop where
  follows : ∀ {touched s s'}, D.evolves touched s s' → Follows touched s s'
  linked : ∀ {s}, D.inv s → Linked env s

section

variable {env : AuthEnv} {ctx : RequestContext} {draw : Draw}
  {D : Discipline AuthStore (AuthLock T)} {s s' : AuthStore} {held held' : AuthLock T → Prop}

theorem Orderly.mem_of_held (hD : Orderly env D) (h : D.Rely held s s') (hrt : rt ∈ s.tokens.rows)
    (hheld : held (.token rt.tokenHash)) : rt ∈ s'.tokens.rows :=
  (hD.follows h.1).mem_of_not_touched hrt (not_not.mpr hheld)

theorem Orderly.hash_free (hD : Orderly env D) (h : D.Rely held s s') {hash : String}
    (hfree : s.tokens.find? hash = none) (hheld : held (.newToken hash)) :
    s'.tokens.find? hash = none := by
  rw [Table.find?_eq_none_iff] at hfree ⊢
  intro hmem
  obtain ⟨rt, hrt, rfl⟩ := List.mem_map.mp hmem
  rcases (hD.follows h.1).added rt hrt with ⟨rt₀, hrt₀, hhash⟩ | htouched
  · exact hfree (List.mem_map.mpr ⟨rt₀, hrt₀, hhash⟩)
  · exact htouched hheld

theorem Orderly.session_free (hD : Orderly env D) (h : D.Rely held s s') {sid : Id}
    (hfree : s.sessionRows.find? sid = none) (hheld : held (.newSession sid)) :
    s'.sessionRows.find? sid = none := by
  rw [Table.find?_eq_none_iff] at hfree ⊢
  intro hmem
  obtain ⟨x, hx, rfl⟩ := List.mem_map.mp hmem
  rcases (hD.follows h.1).newSession x hx with ⟨x₀, hx₀, hid⟩ | htouched
  · exact hfree (List.mem_map.mpr ⟨x₀, hx₀, hid⟩)
  · exact htouched hheld

/-! ### Rules for the statements -/

theorem wp_updateUser {Q : Unit → AuthStore → (AuthLock T → Prop) → Prop} (userId : Id)
    (h : ∀ s' held', D.Later s held s' held' → Q () s' held') :
    D.wp Q (updateUser userId : AuthTxn T Unit) s held :=
  fun s' hs' => h s' _ (.of_lock hs')

theorem wp_limitActiveSessions {Q : List String → AuthStore → (AuthLock T → Prop) → Prop}
    (userId : Id) (w : AuthDb → AuthDb)
    (h : ∀ oldest s' held', D.Later s held s' held' → (∀ hash ∈ oldest, held' (.token hash)) →
      Q oldest s' held') :
    D.wp Q (limitActiveSessions userId w : AuthTxn T (List String)) s held := by
  refine wp_bind.mpr fun s₁ hs₁ => ?_
  by_cases hfull : maxActiveSessionsPerUser ≤ (w s.db).countActiveForUser userId s.clock
  · simp only [hfull, decide_true]
    refine wp_bind.mpr fun s₂ hs₂ => wp_takeRows_held hs₂.2 fun taken s' held' hlater htaken => ?_
    exact h taken s' held' ⟨hlater.1, (hs₁.trans hs₂).trans hlater.2⟩ fun k hk => (htaken k hk).2
  · simp only [hfull, decide_false]
    exact h [] s₁ held (.of_rely hs₁) fun _ hk => absurd hk List.not_mem_nil

theorem wp_claimToken {Q : Unit → AuthStore → (AuthLock T → Prop) → Prop} (hD : Orderly env D)
    (hash : String)
    (h : ∀ s' held', D.Later s held s' held' → held' (.newToken hash) →
      s'.tokens.find? hash = none → Q () s' held') :
    D.wp Q (claimToken hash : AuthTxn T Unit) s held := by
  refine wp_claim.mpr fun s' hs' hfree => ?_
  refine h s' _ (.of_lock hs') (.inl rfl) ?_
  exact hD.hash_free hs' (Option.isSome_eq_false_iff.mp hfree |> Option.isNone_iff_eq_none.mp)
    (.inl rfl)

theorem wp_claimSession {Q : Unit → AuthStore → (AuthLock T → Prop) → Prop} (hD : Orderly env D)
    (draw : Draw)
    (h : ∀ s' held', D.Later s held s' held' → held' (.newSession draw.sessionId) →
      s'.sessionRows.find? draw.sessionId = none → Q () s' held') :
    D.wp Q (claimSession draw : AuthTxn T Unit) s held := by
  refine wp_claim.mpr fun s' hs' hfree => ?_
  refine h s' _ (.of_lock hs') (.inl rfl) ?_
  exact hD.session_free hs' (Option.isSome_eq_false_iff.mp hfree |> Option.isNone_iff_eq_none.mp)
    (.inl rfl)

/-! ### Logins -/

/-- What a login knows when it commits. -/
structure LoggingIn (env : AuthEnv) (ctx : RequestContext) (draw : Draw) (user : Auth.User)
    (now : Instant) (oldest : List String) (s : AuthStore) (held : AuthLock T → Prop) : Prop where
  oldest : ∀ hash ∈ oldest, held (.token hash)
  newSession : held (.newSession draw.sessionId)
  sessionFree : s.sessionRows.find? draw.sessionId = none
  newToken : held (.newToken (env.hashToken (newJwt env ctx draw now user)))
  tokenFree : s.tokens.find? (env.hashToken (newJwt env ctx draw now user)) = none

theorem wp_checkDriverLogin {Q : Unit → AuthStore → (AuthLock T → Prop) → Prop} (user : Auth.User)
    (h : ∀ s' held', D.Later s held s' held' → Q () s' held') :
    D.wp Q (checkDriverLogin user : AuthTxn T Unit) s held := by
  refine wp_bind.mpr (wp_statement.mpr fun s₁ hs₁ driver _ => ?_)
  refine wp_bind.mpr (wp_check.mpr fun _ _ => ?_)
  split
  · exact fun s₂ hs₂ => h s₂ _ ((Later.of_rely hs₁).trans (.of_lock hs₂))
  · exact h s₁ held (.of_rely hs₁)

variable {Q : (AuthStore → AuthStore) → AuthStore → (AuthLock T → Prop) → Prop}

theorem wp_completeLogin (hD : Orderly env D) {user : Auth.User} {password : String}
    (h : ∀ now oldest s' held', LoggingIn env ctx draw user now oldest s' held' →
      Q (AuthStore.mapDb (loggedInDb env ctx draw user password now oldest)) s' held') :
    D.wp Q (completeLogin env ctx draw user password : AuthTxn T _) s held := by
  refine wp_bind.mpr fun s₀ hs₀ => ?_
  have hissue : ∀ now s₁ held₁, D.inv s₁ →
      D.wp Q (do
        let oldest ← limitActiveSessions user.id id
        claimSession draw
        claimToken (env.hashToken (newJwt env ctx draw now user))
        updateUser user.id
        return AuthStore.mapDb (loggedInDb env ctx draw user password now oldest) :
          AuthTxn T _) s₁ held₁ := by
    intro now s₁ held₁ hinv₁
    refine wp_bind.mpr (wp_limitActiveSessions _ _ fun oldest s₂ held₂ hlater₂ holdest => ?_)
    refine wp_bind.mpr (wp_claimSession hD draw fun s₃ held₃ hlater₃ hsession habsent => ?_)
    refine wp_bind.mpr (wp_claimToken hD _ fun s₄ held₄ hlater₄ htoken hfree => ?_)
    refine wp_bind.mpr (wp_updateUser _ fun s₅ held₅ hlater₅ => ?_)
    have hlater := hlater₄.trans hlater₅
    exact h now oldest s₅ held₅ {
      oldest := fun hash hhash => (hlater₃.trans hlater).1 _ (holdest hash hhash)
      newSession := hlater.1 _ hsession
      sessionFree := hD.session_free hlater.2 habsent hsession
      newToken := hlater₅.1 _ htoken
      tokenFree := hD.hash_free hlater₅.2 hfree htoken }
  have hdriver : ∀ now s₁ held₁, D.inv s₁ →
      D.wp Q (do
        if ctx.clientType = .driver then checkDriverLogin user
        let oldest ← limitActiveSessions user.id id
        claimSession draw
        claimToken (env.hashToken (newJwt env ctx draw now user))
        updateUser user.id
        return AuthStore.mapDb (loggedInDb env ctx draw user password now oldest) :
          AuthTxn T _) s₁ held₁ := by
    intro now s₁ held₁ hinv₁
    split
    · exact wp_bind.mpr (wp_checkDriverLogin user fun s₂ held₂ hlater₂ =>
        hissue now s₂ held₂ hlater₂.2.2)
    · exact hissue now s₁ held₁ hinv₁
  dsimp only
  split
  · exact wp_bind.mpr (wp_updateUser _ fun s₁ held₁ hlater₁ => hdriver _ s₁ held₁ hlater₁.2.2)
  · exact hdriver _ s₀ held hs₀.2

/-- **The rule for a login**: when it commits, its session and its token are not there yet, and
nobody else can add them. -/
theorem wp_login (hD : Orderly env D) {email password : String}
    (h : ∀ user now oldest s' held', LoggingIn env ctx draw user now oldest s' held' →
      Q (AuthStore.mapDb (loggedInDb env ctx draw user password now oldest)) s' held') :
    D.wp Q (login env ctx draw email password : AuthTxn T _) s held := by
  refine wp_bind.mpr (wp_statement.mpr fun s₁ hs₁ user _ => ?_)
  refine wp_bind.mpr (wp_statement.mpr fun s₂ hs₂ _ _ => ?_)
  refine wp_bind.mpr (wp_check.mpr fun _ _ => ?_)
  split
  · exact wp_completeLogin hD fun now oldest s' held' hlogging =>
      h user now oldest s' held' hlogging
  · exact fun _ _ => trivial

/-! ### Refreshes -/

/-- What a refresh knows when it commits. -/
structure Exchanging (D : Discipline AuthStore (AuthLock T)) (env : AuthEnv)
    (ctx : RequestContext) (draw : Draw) (t : T) (user : Auth.User) (record : RefreshToken)
    (now : Instant) (oldest : List String) (s : AuthStore) (held : AuthLock T → Prop) : Prop where
  token : held (.token record.tokenHash)
  mem : record ∈ s.tokens.rows
  unrevoked : record.revoked = false
  owner : record.userId = user.id
  oldest : ∀ hash ∈ oldest, held (.token hash)
  newSession : record.sessionId = none → held (.newSession draw.sessionId) ∧
    s.sessionRows.find? draw.sessionId = none
  newToken : held (.newToken (env.hashToken (newJwt env ctx draw now user)))
  tokenFree : s.tokens.find? (env.hashToken (newJwt env ctx draw now user)) = none
  taking : held (.taking t record.tokenHash)
  /-- The token was active when the exchange began. -/
  began : ∃ s₁, D.inv s₁ ∧ record ∈ s₁.tokens.rows ∧ record.isActive s₁.clock = true ∧
    D.Rely (fun k => k = .taking t record.tokenHash) s₁ s

theorem isActive_eq_true {now : Instant} :
    rt.isActive now = true ↔ rt.revoked = false ∧ now < rt.expiresAt := by
  simp [RefreshToken.isActive]

/-- What a refresh has once it took the token of a user: the record is locked and as it was when
the exchange began. -/
structure Taken (D : Discipline AuthStore (AuthLock T)) (t : T) (userId : Id)
    (record : RefreshToken) (s : AuthStore) (held : AuthLock T → Prop) : Prop where
  token : held (.token record.tokenHash)
  mem : record ∈ s.tokens.rows
  owner : record.userId = userId
  taking : held (.taking t record.tokenHash)
  began : ∃ s₁, D.inv s₁ ∧ record ∈ s₁.tokens.rows ∧ record.isActive s₁.clock = true ∧
    D.Rely (fun k => k = .taking t record.tokenHash) s₁ s

theorem Taken.later (hD : Orderly env D) {userId : Id} {record : RefreshToken}
    (h : Taken D t userId record s held) (hlater : D.Later s held s' held') :
    Taken D t userId record s' held' where
  token := hlater.1 _ h.token
  mem := hD.mem_of_held hlater.2 h.mem h.token
  owner := h.owner
  taking := hlater.1 _ h.taking
  began := by
    obtain ⟨s₁, hinv, hmem, hactive, hrely⟩ := h.began
    exact ⟨s₁, hinv, hmem, hactive, hrely.trans (hlater.2.weaken fun k hk => hk ▸ h.taking)⟩

/-- The rule for the rest of a refresh, once the token is taken. -/
theorem wp_completeRefresh (hD : Orderly env D) {user : Auth.User} {record : RefreshToken}
    {now : Instant} (hinv : D.inv s) (htaken : Taken D t user.id record s held)
    (h : ∀ oldest s' held', Exchanging D env ctx draw t user record now oldest s' held' →
      Q (fun s => { s with
        db := refreshedDb env ctx draw user record now oldest s.db
        exchanged := s.exchanged ++ [record.tokenHash] }) s' held') :
    D.wp Q (completeRefresh env ctx draw user record now : AuthTxn T _) s held := by
  have hissue : ∀ s₂ held₂, D.Later s held s₂ held₂ →
      (record.sessionId = none → held₂ (.newSession draw.sessionId) ∧
        s₂.sessionRows.find? draw.sessionId = none) →
      D.wp Q (do
        let oldest ← limitActiveSessions user.id (taken record.tokenHash now)
        claimToken (env.hashToken (newJwt env ctx draw now user))
        Txn.lock (.session (record.sessionId.getD draw.sessionId)) fun _ => .pure ()
        return fun s => { s with
          db := refreshedDb env ctx draw user record now oldest s.db
          exchanged := s.exchanged ++ [record.tokenHash] } : AuthTxn T _) s₂ held₂ := by
    intro s₂ held₂ hlater₂ hsession₂
    refine wp_bind.mpr (wp_limitActiveSessions _ _ fun oldest s₃ held₃ hlater₃ holdest => ?_)
    refine wp_bind.mpr (wp_claimToken hD _ fun s₄ held₄ hlater₄ hnew hfree => ?_)
    refine wp_bind.mpr fun s₅ hs₅ => ?_
    have hlater : D.Later s₂ held₂ s₅ _ := (hlater₃.trans hlater₄).trans (.of_lock hs₅)
    have htaken₅ := htaken.later hD (hlater₂.trans hlater)
    obtain ⟨_, -, -, hactive, -⟩ := htaken₅.began
    refine h oldest s₅ _ {
      token := htaken₅.token
      mem := htaken₅.mem
      unrevoked := (isActive_eq_true.mp hactive).1
      owner := htaken₅.owner
      oldest := fun hash hhash => .inr (hlater₄.1 _ (holdest hash hhash))
      newSession := fun hnone => ?_
      newToken := .inr hnew
      tokenFree := hD.hash_free hs₅ hfree (.inr hnew)
      taking := htaken₅.taking
      began := htaken₅.began }
    obtain ⟨hclaimed, habsent⟩ := hsession₂ hnone
    exact ⟨hlater.1 _ hclaimed, hD.session_free hlater.2 habsent hclaimed⟩
  rw [completeRefresh]
  split
  · refine wp_bind.mpr (wp_claimSession hD draw fun s₂ held₂ hlater₂ hnew hfree => ?_)
    exact hissue s₂ held₂ hlater₂ fun _ => ⟨hnew, hfree⟩
  · rename_i hsome
    exact hissue s held (.refl hinv) fun hnone => absurd hnone hsome

/-- The row of the presented token was there, and it is the row of a token of the user. -/
theorem wp_presentedToken (hD : Orderly env D) {raw : RefreshJwt}
    {Q : RefreshToken → AuthStore → (AuthLock T → Prop) → Prop} (hinv : D.inv s)
    (h : ∀ record s₀ s', record ∈ s₀.tokens.rows → record.userId = raw.sub →
      D.Rely held s₀ s' → Q record s' held) :
    D.wp Q (presentedToken env raw : AuthTxn T RefreshToken) s held := by
  refine wp_bind.mpr (wp_statement.mpr fun s₁ hs₁ _ hdecode => ?_)
  refine wp_bind.mpr (wp_statement.mpr fun s₂ hs₂ _ _ => ?_)
  refine wp_bind.mpr (wp_statement.mpr fun s₃ hs₃ record hfound => ?_)
  obtain ⟨hrecord, hhash⟩ := Table.find?_eq_some_iff.mp (orRaise_eq_ok.mp hfound)
  refine wp_bind.mpr (wp_check.mpr fun _ _ => ?_)
  refine wp_bind.mpr fun s₄ hs₄ => ?_
  have hissued : raw ∈ s.db.issuedRefresh := not_not.mp (not_or.mp (raiseIf_eq_ok.mp hdecode)).1
  have howner : record.userId = raw.sub := by
    obtain ⟨rt, hrt, hrthash, hsub⟩ := (hD.linked hinv).jwt_row raw hissued
    obtain ⟨rt', hrt', hhash', huser', -⟩ := (hD.follows (hs₁.trans hs₂).1).kept rt hrt
    rw [Table.eq_of_key hrecord hrt' (hhash.trans (hhash'.trans hrthash).symm), huser', hsub]
  by_cases hexpired : record.expiresAt < s₃.clock
  · simp only [hexpired, decide_true]
    exact fun _ _ => trivial
  · simp only [hexpired, decide_false]
    exact h record s₂ s₄ hrecord howner (hs₃.trans hs₄)

/-- The rule for the update that takes a token: the row that it finds active is the one that was
read before. -/
theorem wp_revokeIfActive (hD : Orderly env D) {record : RefreshToken} {s₀ : AuthStore}
    {Q : Instant → AuthStore → (AuthLock T → Prop) → Prop} (hrecord : record ∈ s₀.tokens.rows)
    (hrely : D.Rely held s₀ s)
    (h : ∀ now s' held', D.Later s held s' held' → Taken D t record.userId record s' held' →
      Q now s' held') : D.wp Q (revokeIfActive t record.tokenHash : AuthTxn T Instant) s held := by
  intro s₁ hs₁
  refine wp_bind.mpr (wp_lockRow.mpr fun s₂ hs₂ _ hfits => ?_)
  have hfound : ((s₁.db.refreshTokens.find? record.tokenHash).any fun rt =>
      rt.isActive s.clock) = true := not_not.mp (raiseIf_eq_ok.mp hfits)
  obtain ⟨rt, hrt, hactive⟩ := (Option.any_eq_true _ _).mp hfound
  obtain ⟨hrtmem, hrthash⟩ := Table.find?_eq_some_iff.mp hrt
  obtain ⟨hunrevoked, hunexpired⟩ := isActive_eq_true.mp hactive
  have hfollows := (hD.follows hrely.1).trans ((hD.follows hs₁.1).mono fun k hk hheld => hk
    (.inr hheld))
  obtain rfl : rt = record := by
    obtain ⟨rt', hrt', hhash', -, -, hsame⟩ := hfollows.kept record hrecord
    obtain rfl := Table.eq_of_key hrt' hrtmem (hhash'.trans hrthash.symm)
    rcases hsame with hsame | ⟨-, hdead⟩
    · exact hsame
    · exact absurd (hdead.symm.trans hunrevoked) (by decide)
  have hmem : rt ∈ s.tokens.rows :=
    (hD.follows hrely.1).mem_between (hD.follows hs₁.1) hrecord hrtmem hunrevoked
  refine h _ s₂ _ ⟨fun k hk => .inr (.inr hk), ?_⟩ {
    token := .inl rfl
    mem := hD.mem_of_held hs₂ hrtmem (.inl rfl)
    owner := rfl
    taking := .inr (.inl rfl)
    began := ⟨s, hrely.2, hmem, isActive_eq_true.mpr ⟨hunrevoked, hunexpired⟩, ?_⟩ }
  · exact (hs₁.weaken fun k hk => .inr hk).trans (hs₂.weaken fun k hk => .inr (.inr hk))
  · exact (hs₁.weaken fun k hk => .inl hk).trans (hs₂.weaken fun k hk => .inr (.inl hk))

/-- **The rule for a refresh**: when it commits, it holds the token that it exchanges, which is
still as it was found. -/
theorem wp_refreshTokens (hD : Orderly env D) {raw : RefreshJwt} (hinv : D.inv s)
    (h : ∀ user record now oldest s' held',
      Exchanging D env ctx draw t user record now oldest s' held' →
      Q (fun s => { s with
        db := refreshedDb env ctx draw user record now oldest s.db
        exchanged := s.exchanged ++ [record.tokenHash] }) s' held') :
    D.wp Q (refreshTokens env ctx draw t raw : AuthTxn T _) s held := by
  refine wp_bind.mpr (wp_presentedToken hD hinv fun record s₀ s₁ hrecord howner hrely => ?_)
  refine wp_bind.mpr (wp_revokeIfActive hD hrecord hrely fun now s₂ held₂ _ htaken => ?_)
  refine wp_bind.mpr (wp_check.mpr fun _ _ => ?_)
  refine wp_bind.mpr (wp_statement.mpr fun s₃ hs₃ user huser => ?_)
  refine wp_bind.mpr (wp_statement.mpr fun s₄ hs₄ _ _ => ?_)
  refine wp_bind.mpr (wp_check.mpr fun _ _ => ?_)
  have hid : user.id = raw.sub := (Table.find?_eq_some_iff.mp (activeUser_eq_ok huser)).2
  have htaken' : Taken D t user.id record s₄ held₂ := by
    rw [hid, ← howner]
    exact htaken.later hD (.of_rely (hs₃.trans hs₄))
  exact wp_completeRefresh hD hs₄.2 htaken' fun oldest s' held' hexchanging =>
    h user record now oldest s' held' hexchanging

/-! ### Logouts -/

/-- What a transaction knows of the tokens that its update revokes. -/
structure Looked (D : Discipline AuthStore (AuthLock T)) (t : T) (scope : Scope)
    (p : Instant → RefreshToken → Bool) (now : Instant) (hashes : List String) (s : AuthStore)
    (held : AuthLock T → Prop) : Prop where
  token : ∀ hash ∈ hashes, held (.token hash)
  revoking : held (.revoking t scope)
  /-- It holds all that it found, but for what others have revoked meanwhile. -/
  found : ∃ s₁, now ≤ s₁.clock ∧ D.Rely (fun k => k = .revoking t scope) s₁ s ∧
    ∀ rt ∈ s₁.tokens.rows, rt ∈ s.tokens.rows → p now rt = true → rt.tokenHash ∈ hashes

theorem Looked.later (hD : Orderly env D) {scope : Scope} {p : Instant → RefreshToken → Bool}
    (hp : ∀ now rt, p now rt = true → rt.revoked = false) {now : Instant} {hashes : List String}
    (h : Looked D t scope p now hashes s held) (hlater : D.Later s held s' held') :
    Looked D t scope p now hashes s' held' where
  token hash hhash := hlater.1 _ (h.token hash hhash)
  revoking := hlater.1 _ h.revoking
  found := by
    obtain ⟨s₁, hnow, hrely, hfound⟩ := h.found
    refine ⟨s₁, hnow, hrely.trans (hlater.2.weaken fun k hk => hk ▸ h.revoking), ?_⟩
    intro rt h₁ h₃ hmatch
    exact hfound rt h₁ ((hD.follows hrely.1).mem_between (hD.follows hlater.2.1) h₁ h₃
      (hp now rt hmatch)) hmatch

/-- The same while the rows of `left` are still to be taken; `s₁` is what the update has
found. -/
structure Looking (D : Discipline AuthStore (AuthLock T)) (t : T) (scope : Scope)
    (p : RefreshToken → Bool) (s₁ : AuthStore) (left hashes : List String) (s : AuthStore)
    (held : AuthLock T → Prop) : Prop where
  token : ∀ hash ∈ hashes, held (.token hash)
  revoking : held (.revoking t scope)
  rely : D.Rely (fun k => k = .revoking t scope) s₁ s
  found : ∀ rt ∈ s₁.tokens.rows, rt ∈ s.tokens.rows → p rt = true →
    rt.tokenHash ∈ hashes ∨ rt.tokenHash ∈ left

/-- One row is taken, or it is passed over. -/
theorem Looking.next (hD : Orderly env D) {scope : Scope} {p : RefreshToken → Bool}
    (hp : ∀ rt, p rt = true → rt.revoked = false) {s₁ : AuthStore} {k : String}
    {left hashes : List String} (h : Looking D t scope p s₁ (k :: left) hashes s held)
    (hrely : D.Rely (fun j => j = .token k ∨ held j) s s') :
    Looking D t scope p s₁ left
      (if (s.tokens.find? k).any p then hashes ++ [k] else hashes) s'
      fun j => j = .token k ∨ held j where
  token hash hhash := by
    split at hhash
    · rcases List.mem_append.mp hhash with hold | hnew
      · exact .inr (h.token hash hold)
      · exact .inl (List.mem_singleton.mp hnew ▸ rfl)
    · exact .inr (h.token hash hhash)
  revoking := .inr h.revoking
  rely := h.rely.trans (hrely.weaken fun j hj => .inr (hj ▸ h.revoking))
  found rt h₁ h₃ hmatch := by
    have hmem : rt ∈ s.tokens.rows :=
      (hD.follows h.rely.1).mem_between (hD.follows hrely.1) h₁ h₃ (hp rt hmatch)
    rcases h.found rt h₁ hmem hmatch with hold | hleft
    · refine .inl ?_
      split
      · exact List.mem_append_left _ hold
      · exact hold
    · rcases List.mem_cons.mp hleft with rfl | hrest
      · -- the row is still as it was found, so it is taken
        have hfind : s.tokens.find? rt.tokenHash = some rt :=
          Table.find?_eq_some_iff.mpr ⟨hmem, rfl⟩
        simp only [hfind, Option.any_some, hmatch, if_true]
        exact .inl (List.mem_append_right _ (List.mem_singleton_self _))
      · exact .inr hrest

/-- **The rule for an update of many tokens**, of which those can match that are not revoked. -/
theorem wp_revokeTokens (hD : Orderly env D) {scope : Scope} {p : Instant → RefreshToken → Bool}
    (hp : ∀ now rt, p now rt = true → rt.revoked = false)
    {Q : Instant × List String → AuthStore → (AuthLock T → Prop) → Prop}
    (h : ∀ now hashes s' held', D.Later s held s' held' →
      Looked D t scope p now hashes s' held' → Q (now, hashes) s' held') :
    D.wp Q (revokeTokens t scope p : AuthTxn T _) s held := by
  refine wp_bind.mpr fun s₁ hs₁ => wp_bind.mpr fun s₂ hs₂ => ?_
  have hclock : s.clock ≤ s₁.clock := (hD.follows hs₁.1).clock
  have hstart : D.Later s held s₂ fun j => j = .revoking t scope ∨ held j :=
    (Later.of_rely hs₁).trans (.of_lock hs₂)
  refine wp_mono ?_ (wp_takeRows (I := fun left hashes s' held' =>
    D.Later s held s' held' ∧ Looking D t scope (p s.clock) s₁ left hashes s' held') ?_ ?_)
  · rintro hashes s' held' ⟨hlater, hlooking⟩
    refine h s.clock hashes s' held' hlater {
      token := hlooking.token
      revoking := hlooking.revoking
      found := ⟨s₁, hclock, hlooking.rely, fun rt h₁ h₃ hmatch => ?_⟩ }
    exact (hlooking.found rt h₁ h₃ hmatch).resolve_right List.not_mem_nil
  · rintro k left hashes s₃ held₃ ⟨hlater, hlooking⟩ s' hs'
    exact ⟨hlater.step (fun _ hk => .inr hk) hs', hlooking.next hD (hp s.clock) hs'⟩
  · refine ⟨hstart, {
      token := fun hash hhash => absurd hhash List.not_mem_nil
      revoking := .inl rfl
      rely := hs₂.weaken fun k hk => .inl hk
      found := fun rt h₁ _ hmatch => .inr ?_ }⟩
    exact List.mem_map.mpr ⟨rt, List.mem_filter.mpr ⟨h₁, hmatch⟩, rfl⟩

/-- What a logout knows when it commits: it holds the tokens that it revokes, of the sessions of
a scope, and it revokes sessions of this scope only. -/
structure Ending (D : Discipline AuthStore (AuthLock T)) (t : T) (userId : Id) (now : Instant)
    (hashes : List String) (sids : List Id) (s : AuthStore) (held : AuthLock T → Prop) :
    Prop where
  scope : ∃ scope p, scope.userId = userId ∧ (∀ sid ∈ sids, sid ∈ scope.sids) ∧
    (∀ rt, scope.covers rt = true → rt.isActive now = true → p now rt = true) ∧
    Looked D t scope p now hashes s held

/-- What the updates of tokens look for is not revoked. -/
theorem active_of_sessions (sids : List Id) (now : Instant) (rt : RefreshToken)
    (h : (rt.ofSessions sids && rt.isActive now) = true) : rt.revoked = false :=
  (isActive_eq_true.mp (Bool.and_eq_true_iff.mp h).2).1

theorem wp_logoutSession (hD : Orderly env D) {user : AuthUser} {sid : Id}
    (h : ∀ now hashes sids s' held', Ending D t user.id now hashes sids s' held' →
      Q (AuthStore.mapDb (revoked user.id now hashes sids)) s' held') :
    D.wp Q (logoutSession t user sid : AuthTxn T _) s held := by
  refine wp_bind.mpr (wp_revokeTokens hD (active_of_sessions [sid])
    fun now hashes s₁ held₁ _ hlooked => ?_)
  refine wp_bind.mpr (wp_updateWhere_held fun sids s₂ held₂ hlater₂ hsids => ?_)
  refine h now hashes sids s₂ held₂ ⟨⟨⟨user.id, [sid]⟩, _, rfl, fun x hx => ?_, ?_,
    hlooked.later hD (active_of_sessions [sid]) hlater₂⟩⟩
  · obtain ⟨⟨row, -, rfl, hrow⟩, -⟩ := hsids x hx
    simp only [AuthDb.unrevokedSession, Bool.and_eq_true, decide_eq_true_eq] at hrow
    exact List.mem_singleton.mpr hrow.1.2
  · intro rt hcovers hactive
    exact Bool.and_eq_true_iff.mpr ⟨(Bool.and_eq_true_iff.mp hcovers).2, hactive⟩

theorem wp_keptSession {user : AuthUser} {Q : Id → AuthStore → (AuthLock T → Prop) → Prop}
    (h : ∀ keep s', D.Rely held s s' → Q keep s' held) :
    D.wp Q (keptSession user : AuthTxn T Id) s held := by
  refine wp_bind.mpr (wp_query.mpr fun s₁ hs₁ => ?_)
  split
  · exact h _ s₁ hs₁
  · exact wp_statement.mpr fun s₂ hs₂ keep _ => h keep s₂ (hs₁.trans hs₂)

theorem wp_logoutOtherSessions (hD : Orderly env D) {user : AuthUser}
    (hnothing : ∀ s' held', D.inv s' → Q id s' held')
    (h : ∀ now hashes sids s' held', Ending D t user.id now hashes sids s' held' →
      Q (AuthStore.mapDb (revoked user.id now hashes sids)) s' held') :
    D.wp Q (logoutOtherSessions t user : AuthTxn T _) s held := by
  refine wp_bind.mpr (wp_keptSession fun keep s₁ hs₁ => ?_)
  refine wp_bind.mpr (wp_query.mpr fun s₂ hs₂ => ?_)
  split
  · exact hnothing s₂ held hs₂.2
  · refine wp_bind.mpr (wp_updateWhere_held fun sids s₃ held₃ _ hsids => ?_)
    refine wp_bind.mpr (wp_revokeTokens hD (active_of_sessions _)
      fun now hashes s₄ held₄ _ hlooked => ?_)
    refine h now hashes sids s₄ held₄ ⟨⟨_, _, rfl, fun x hx => ?_, ?_, hlooked⟩⟩
    · obtain ⟨⟨row, -, rfl, hrow⟩, -⟩ := hsids x hx
      exact of_decide_eq_true (Bool.and_eq_true_iff.mp hrow).2
    · intro rt hcovers hactive
      exact Bool.and_eq_true_iff.mpr ⟨(Bool.and_eq_true_iff.mp hcovers).2, hactive⟩

theorem wp_logoutAll (hD : Orderly env D) {raw : RefreshJwt}
    (hnothing : ∀ s' held', D.inv s' → Q id s' held')
    (h : ∀ userId now hashes sids s' held', Ending D t userId now hashes sids s' held' →
      Q (AuthStore.mapDb fun db => revoked userId now hashes sids (db.incrementSessionSv userId))
        s' held') : D.wp Q (logoutAll t env raw : AuthTxn T _) s held := by
  refine wp_bind.mpr (wp_query.mpr fun s₁ hs₁ => ?_)
  split
  · exact hnothing s₁ held hs₁.2
  rename_i record _
  refine wp_bind.mpr (wp_updateUser _ fun s₂ held₂ _ => wp_bind.mpr fun s₃ hs₃ => ?_)
  have hp : ∀ (_ : Instant) (rt : RefreshToken),
      (decide (rt.userId = record.userId) && !rt.revoked) = true → rt.revoked = false :=
    fun _ rt hrt => by simpa using (Bool.and_eq_true_iff.mp hrt).2
  refine wp_bind.mpr (wp_revokeTokens hD hp fun now hashes s₄ held₄ _ hlooked => ?_)
  set ids := (s₂.db.listActiveSessions record.userId s₂.clock).map Session.sessionId
  -- only sessions of the list are revoked, and what was locked stays so
  refine wp_bind.mpr (wp_mono ?_ (wp_forEach (I := fun left sids s' held' =>
    (∀ sid ∈ left, sid ∈ ids) ∧ (∀ sid ∈ sids, sid ∈ ids) ∧ D.Later s₄ held₄ s' held') ?_ ?_))
  · rintro sids s₅ held₅ ⟨-, hsids, hlater⟩
    refine h record.userId now hashes sids s₅ held₅
      ⟨⟨_, _, rfl, hsids, ?_, hlooked.later hD hp hlater⟩⟩
    intro rt hcovers hactive
    refine Bool.and_eq_true_iff.mpr ⟨(Bool.and_eq_true_iff.mp hcovers).1, ?_⟩
    simp [(isActive_eq_true.mp hactive).1]
  · rintro sid left sids s' held' ⟨hleft, hsids, hlater⟩
    refine wp_bind.mpr (wp_updateWhere_held fun more s'' held'' hlater'' hmore => ?_)
    refine ⟨fun x hx => hleft x (.tail _ hx), fun x hx => ?_, hlater.trans hlater''⟩
    rcases List.mem_append.mp hx with hx | hx
    · exact hsids x hx
    · obtain ⟨⟨row, -, rfl, hrow⟩, -⟩ := hmore x hx
      simp only [AuthDb.unrevokedSession, Bool.and_eq_true, decide_eq_true_eq] at hrow
      exact hrow.1.2 ▸ hleft sid (.head _)
  · obtain ⟨_, -, hrely, -⟩ := hlooked.found
    exact ⟨fun _ hx => hx, fun _ hx => absurd hx List.not_mem_nil, .refl hrely.2⟩

end

/-! ### All requests -/

/-- What a request commits, and what it knows then. -/
inductive Committing (D : Discipline AuthStore (AuthLock T)) (env : AuthEnv) (t : T)
    (s : AuthStore) (held : AuthLock T → Prop) : (AuthStore → AuthStore) → Prop
  | nothing : Committing D env t s held id
  | login {ctx draw user password now oldest}
      (h : LoggingIn env ctx draw user now oldest s held) :
      Committing D env t s held
        (AuthStore.mapDb (loggedInDb env ctx draw user password now oldest))
  | refresh {ctx draw user record now oldest}
      (h : Exchanging D env ctx draw t user record now oldest s held) :
      Committing D env t s held fun s => { s with
        db := refreshedDb env ctx draw user record now oldest s.db
        exchanged := s.exchanged ++ [record.tokenHash] }
  | logout {userId now hashes sids} (h : Ending D t userId now hashes sids s held) :
      Committing D env t s held (AuthStore.mapDb (revoked userId now hashes sids))
  | logoutAll {userId now hashes sids} (h : Ending D t userId now hashes sids s held) :
      Committing D env t s held (AuthStore.mapDb fun db =>
        revoked userId now hashes sids (db.incrementSessionSv userId))
  | tick {elapsed : ℕ} : Committing D env t s held fun s => { s with clock := s.clock + elapsed }

/-- **The rule for every request.** -/
theorem wp_txn {env : AuthEnv} {D : Discipline AuthStore (AuthLock T)} (hD : Orderly env D)
    (call : AuthCall) {s : AuthStore} {held : AuthLock T → Prop} (hinv : D.inv s) :
    D.wp (fun write s held => D.inv s ∧ Committing D env t s held write) (call.txn env t) s
      held := by
  refine wp_and_inv hinv ?_
  cases call with
  | login ctx draw email password =>
      exact wp_login hD fun user now oldest s' held' hlogging => .login hlogging
  | refreshTokens ctx draw raw =>
      exact wp_refreshTokens hD hinv fun user record now oldest s' held' hexchanging =>
        .refresh hexchanging
  | logoutSession user sid =>
      exact wp_logoutSession hD fun now hashes sids s' held' hending => .logout hending
  | logoutOtherSessions user =>
      exact wp_logoutOtherSessions hD (fun _ _ _ => .nothing)
        fun now hashes sids s' held' hending => .logout hending
  | logoutAll raw =>
      exact wp_logoutAll hD (fun _ _ _ => .nothing)
        fun userId now hashes sids s' held' hending => .logoutAll hending
  | tick elapsed => exact .tick

end SwCouriers.AuthTxns
