import SwCouriers.AuthTxnEffects

/-!
# What the Transactions on Tokens Write

Each commit of `AuthTxns` revokes some tokens, adds at most one token and one session, and ends
some sessions; everything else about tokens and sessions stays. `Writes` says this once, and what
disciplines need of a commit follows from it.

## Main results

* `writes_loggedInDb`, `writes_refreshedDb`, `writes_revoked`: what each operation writes.
* `Writes.follows`, `Writes.linked`, `Writes.mem_of_not_revoked`: what follows from it.
-/

namespace SwCouriers.AuthTxns

open Checked ReadCommitted Auth Discipline

variable {T : Type} {env : AuthEnv} {ctx : RequestContext} {draw : Draw}

/-- What is written to tokens and sessions: the tokens with the given hashes are revoked, tokens
are added, sessions are opened, and only those may be revoked of which `ended` holds. -/
structure Writes (env : AuthEnv) (hashes : List String) (tokens : List RefreshToken)
    (opened : List Session) (ended : Session → Prop) (db db' : AuthDb) : Prop where
  kept : ∀ rt ∈ db.refreshTokens.rows, ∃ rt' ∈ db'.refreshTokens.rows,
    rt'.tokenHash = rt.tokenHash ∧ rt'.userId = rt.userId ∧ rt'.expiresAt = rt.expiresAt ∧
    (rt.tokenHash ∉ hashes ∧ rt' = rt ∨ rt.tokenHash ∈ hashes ∧ rt'.revoked = true ∧
      (rt'.sessionId = rt.sessionId ∨
        ∃ x ∈ opened, rt'.sessionId = some x.sessionId ∧ x.userId = rt.userId))
  added : ∀ rt' ∈ db'.refreshTokens.rows,
    (∃ rt ∈ db.refreshTokens.rows, rt.tokenHash = rt'.tokenHash) ∨ rt' ∈ tokens
  stored : ∀ rt ∈ tokens, rt ∈ db'.refreshTokens.rows
  keptSession : ∀ x ∈ db.sessions.rows, ∃ x' ∈ db'.sessions.rows, x'.sessionId = x.sessionId ∧
    x'.userId = x.userId ∧ (x'.revoked = x.revoked ∨ ended x ∧ x'.revoked = true)
  addedSession : ∀ x' ∈ db'.sessions.rows,
    (∃ x ∈ db.sessions.rows, x.sessionId = x'.sessionId) ∨
    ∃ x ∈ opened, x.sessionId = x'.sessionId ∧ x.userId = x'.userId ∧ x'.revoked = false
  storedSession : ∀ x ∈ opened, ∃ x' ∈ db'.sessions.rows, x'.sessionId = x.sessionId ∧
    x'.userId = x.userId
  issued : ∀ jwt ∈ db'.issuedRefresh, jwt ∈ db.issuedRefresh ∨
    ∃ rt ∈ tokens, rt.tokenHash = env.hashToken jwt ∧ rt.userId = jwt.sub

namespace Writes

variable {hashes hashes' : List String} {tokens : List RefreshToken} {opened opened' : List Session}
  {ended : Session → Prop} {db db' db₁ db₂ db₃ : AuthDb}

/-- Nothing is written to tokens and sessions. -/
theorem refl (db : AuthDb) : Writes env [] [] [] (fun _ => False) db db where
  kept rt hrt := ⟨rt, hrt, rfl, rfl, rfl, .inl ⟨List.not_mem_nil, rfl⟩⟩
  added rt hrt := .inl ⟨rt, hrt, rfl⟩
  stored _ hrt := absurd hrt List.not_mem_nil
  keptSession x hx := ⟨x, hx, rfl, rfl, .inl rfl⟩
  addedSession x hx := .inl ⟨x, hx, rfl⟩
  storedSession _ hx := absurd hx List.not_mem_nil
  issued _ hjwt := .inl hjwt

/-- Only the tables of tokens and sessions matter. -/
theorem congr {db₀ db₀' : AuthDb} (h : Writes env hashes tokens opened ended db db')
    (hbefore : db.refreshTokens = db₀.refreshTokens ∧ db.sessions = db₀.sessions ∧
      db.issuedRefresh = db₀.issuedRefresh)
    (hafter : db'.refreshTokens = db₀'.refreshTokens ∧ db'.sessions = db₀'.sessions ∧
      db'.issuedRefresh = db₀'.issuedRefresh) :
    Writes env hashes tokens opened ended db₀ db₀' := by
  obtain ⟨htokens, hsessions, hissued⟩ := hbefore
  obtain ⟨htokens', hsessions', hissued'⟩ := hafter
  obtain ⟨h1, h2, h3, h4, h5, h6, h7⟩ := h
  rw [htokens, htokens'] at h1 h2
  rw [htokens'] at h3
  rw [hsessions, hsessions'] at h4 h5
  rw [hsessions'] at h6
  rw [hissued, hissued'] at h7
  exact ⟨h1, h2, h3, h4, h5, h6, h7⟩

/-- Only which hashes and which sessions there are matters. -/
theorem of_mem_iff (h : Writes env hashes tokens opened ended db db')
    (hhashes : ∀ hash, hash ∈ hashes ↔ hash ∈ hashes')
    (hopened : ∀ x, x ∈ opened ↔ x ∈ opened') :
    Writes env hashes' tokens opened' ended db db' := by
  obtain ⟨h1, h2, h3, h4, h5, h6, h7⟩ := h
  simp only [hhashes, hopened] at h1 h5 h6
  exact ⟨h1, h2, h3, h4, h5, h6, h7⟩

/-- First some tokens are revoked and sessions opened, then more is written. -/
theorem trans (h : Writes env hashes [] opened (fun _ => False) db₁ db₂)
    (h' : Writes env hashes' tokens opened' (fun _ => False) db₂ db₃) :
    Writes env (hashes ++ hashes') tokens (opened ++ opened') (fun _ => False) db₁ db₃ where
  kept rt hrt := by
    obtain ⟨rt₂, hrt₂, hhash, huser, hexp, hsame⟩ := h.kept rt hrt
    obtain ⟨rt₃, hrt₃, hhash', huser', hexp', hsame'⟩ := h'.kept rt₂ hrt₂
    refine ⟨rt₃, hrt₃, hhash'.trans hhash, huser'.trans huser, hexp'.trans hexp, ?_⟩
    rcases hsame with ⟨hnot, rfl⟩ | ⟨hmem, hrevoked, hsession⟩
    · rcases hsame' with ⟨hnot', rfl⟩ | ⟨hmem', hrevoked', hsession'⟩
      · exact .inl ⟨fun hmem => (List.mem_append.mp hmem).elim hnot hnot', rfl⟩
      · refine .inr ⟨List.mem_append_right _ hmem', hrevoked', hsession'.imp_right ?_⟩
        exact fun ⟨x, hx, hid, hx_user⟩ => ⟨x, List.mem_append_right _ hx, hid, hx_user⟩
    · have hdead : rt₃.revoked = true := by
        rcases hsame' with ⟨-, rfl⟩ | ⟨-, hrevoked', -⟩
        · exact hrevoked
        · exact hrevoked'
      have hopened : rt₃.sessionId = rt₂.sessionId ∨ ∃ x ∈ opened ++ opened',
          rt₃.sessionId = some x.sessionId ∧ x.userId = rt.userId := by
        rcases hsame' with ⟨-, rfl⟩ | ⟨-, -, hsession'⟩
        · exact .inl rfl
        · exact hsession'.imp_right fun ⟨x, hx, hid, hx_user⟩ =>
            ⟨x, List.mem_append_right _ hx, hid, hx_user.trans huser⟩
      refine .inr ⟨List.mem_append_left _ hmem, hdead, ?_⟩
      rcases hopened with heq | hnew
      · rw [heq]
        exact hsession.imp_right fun ⟨x, hx, hid, hx_user⟩ =>
          ⟨x, List.mem_append_left _ hx, hid, hx_user⟩
      · exact .inr hnew
  added rt₃ hrt₃ := by
    rcases h'.added rt₃ hrt₃ with ⟨rt₂, hrt₂, hhash⟩ | hnew
    · exact .inl (hhash ▸ (h.added rt₂ hrt₂).resolve_right List.not_mem_nil)
    · exact .inr hnew
  stored := h'.stored
  keptSession x hx := by
    obtain ⟨x₂, hx₂, hid, huser, hsame⟩ := h.keptSession x hx
    obtain ⟨x₃, hx₃, hid', huser', hsame'⟩ := h'.keptSession x₂ hx₂
    refine ⟨x₃, hx₃, hid'.trans hid, huser'.trans huser, .inl ?_⟩
    rw [hsame'.resolve_right fun hended => hended.1, hsame.resolve_right fun hended => hended.1]
  addedSession x₃ hx₃ := by
    rcases h'.addedSession x₃ hx₃ with ⟨x₂, hx₂, hid⟩ | ⟨x, hx, hid, hrest⟩
    · rcases h.addedSession x₂ hx₂ with ⟨x, hx, hid'⟩ | ⟨x, hx, hid', huser', hlive⟩
      · exact .inl ⟨x, hx, hid'.trans hid⟩
      · obtain ⟨x₃', hx₃', hid'', huser'', hsame⟩ := h'.keptSession x₂ hx₂
        obtain rfl := Table.eq_of_key hx₃' hx₃ (hid''.trans hid)
        refine .inr ⟨x, List.mem_append_left _ hx, hid'.trans hid, huser'.trans huser''.symm, ?_⟩
        rw [hsame.resolve_right fun hended => hended.1, hlive]
    · exact .inr ⟨x, List.mem_append_right _ hx, hid, hrest⟩
  storedSession x hx := by
    rcases List.mem_append.mp hx with hx | hx
    · obtain ⟨x₂, hx₂, hid, huser⟩ := h.storedSession x hx
      obtain ⟨x₃, hx₃, hid', huser', -⟩ := h'.keptSession x₂ hx₂
      exact ⟨x₃, hx₃, hid'.trans hid, huser'.trans huser⟩
    · exact h'.storedSession x hx
  issued jwt hjwt := by
    rcases h'.issued jwt hjwt with hold | hnew
    · refine .inl ((h.issued jwt hold).resolve_right ?_)
      exact fun ⟨_, hrt, _⟩ => List.not_mem_nil hrt
    · exact .inr hnew

/-- A token that is not revoked was there and is not among the given ones, or it is new. -/
theorem mem_of_not_revoked (h : Writes env hashes tokens opened ended db db') {rt : RefreshToken}
    (hrt : rt ∈ db'.refreshTokens.rows) (hrevoked : rt.revoked = false) :
    rt ∈ db.refreshTokens.rows ∧ rt.tokenHash ∉ hashes ∨ rt ∈ tokens := by
  rcases h.added rt hrt with ⟨rt₀, hrt₀, hhash⟩ | hnew
  · obtain ⟨rt', hrt', hhash', -, -, hsame⟩ := h.kept rt₀ hrt₀
    obtain rfl := Table.eq_of_key hrt' hrt (hhash'.trans hhash)
    rcases hsame with ⟨hnot, rfl⟩ | ⟨-, hdead, -⟩
    · exact .inl ⟨hrt₀, hnot⟩
    · exact absurd (hdead.symm.trans hrevoked) (by decide)
  · exact .inr hnew

/-- What is written follows what was, when all that is written to may be touched. -/
theorem follows {s s' : AuthStore} {touched : AuthLock T → Prop}
    (h : Writes env hashes tokens opened ended s.db s'.db) (hclock : s.clock ≤ s'.clock)
    (hhashes : ∀ hash ∈ hashes, touched (.token hash))
    (htokens : ∀ rt ∈ tokens, touched (.newToken rt.tokenHash))
    (hopened : ∀ x ∈ opened, touched (.newSession x.sessionId)) : Follows touched s s' where
  clock := hclock
  kept rt hrt := by
    obtain ⟨rt', hrt', hhash, huser, hexp, hsame⟩ := h.kept rt hrt
    refine ⟨rt', hrt', hhash, huser, hexp, ?_⟩
    rcases hsame with ⟨-, rfl⟩ | ⟨hmem, hrevoked, -⟩
    · exact .inl rfl
    · exact .inr ⟨hhashes _ hmem, hrevoked⟩
  added rt hrt := (h.added rt hrt).imp_right (htokens rt)
  keptSession x hx := by
    obtain ⟨x', hx', hid, huser, hsame⟩ := h.keptSession x hx
    refine ⟨x', hx', hid, huser, fun hrevoked => ?_⟩
    rcases hsame with hsame | ⟨-, hdead⟩
    · exact hsame.trans hrevoked
    · exact hdead
  newSession x hx := by
    refine (h.addedSession x hx).imp_right ?_
    exact fun ⟨x₀, hx₀, hid, _⟩ => hid ▸ hopened x₀ hx₀

/-- The tables stay linked if the new tokens belong to sessions of their users. -/
theorem linked {s s' : AuthStore} (h : Writes env hashes tokens opened ended s.db s'.db)
    (hlinked : Linked env s)
    (htokens : ∀ rt ∈ tokens, ∀ sid, rt.sessionId = some sid →
      (∃ x ∈ opened, x.sessionId = sid ∧ x.userId = rt.userId) ∨
      ∃ x ∈ s.sessionRows.rows, x.sessionId = sid ∧ x.userId = rt.userId) : Linked env s' := by
  have hold : ∀ x ∈ s.sessionRows.rows, ∃ x' ∈ s'.sessionRows.rows,
      x'.sessionId = x.sessionId ∧ x'.userId = x.userId := by
    intro x hx
    obtain ⟨x', hx', hid, huser, -⟩ := h.keptSession x hx
    exact ⟨x', hx', hid, huser⟩
  refine ⟨fun rt' hrt' sid hsid => ?_, fun jwt hjwt => ?_⟩
  · rcases h.added rt' hrt' with ⟨rt, hrt, hhash⟩ | hnew
    · obtain ⟨rt'', hrt'', hhash', huser, -, hsame⟩ := h.kept rt hrt
      obtain rfl := Table.eq_of_key hrt'' hrt' (hhash'.trans hhash)
      have hcases : rt''.sessionId = rt.sessionId ∨
          ∃ x ∈ opened, rt''.sessionId = some x.sessionId ∧ x.userId = rt.userId := by
        rcases hsame with ⟨-, rfl⟩ | ⟨-, -, hsession⟩
        · exact .inl rfl
        · exact hsession
      rcases hcases with hsame | ⟨x, hx, hnew, hx_user⟩
      · obtain ⟨x, hx, rfl, hx_user⟩ := hlinked.owner rt hrt sid (hsame ▸ hsid)
        obtain ⟨x', hx', hid', huser'⟩ := hold x hx
        exact ⟨x', hx', hid', (huser'.trans hx_user).trans huser.symm⟩
      · obtain rfl := Option.some.inj (hnew.symm.trans hsid)
        obtain ⟨x', hx', hid', huser'⟩ := h.storedSession x hx
        exact ⟨x', hx', hid', (huser'.trans hx_user).trans huser.symm⟩
    · rcases htokens rt' hnew sid hsid with ⟨x, hx, rfl, huser⟩ | ⟨x, hx, rfl, huser⟩
      · obtain ⟨x', hx', hid', huser'⟩ := h.storedSession x hx
        exact ⟨x', hx', hid', huser'.trans huser⟩
      · obtain ⟨x', hx', hid', huser'⟩ := hold x hx
        exact ⟨x', hx', hid', huser'.trans huser⟩
  · rcases h.issued jwt hjwt with hold' | ⟨rt, hrt, hhash, hsub⟩
    · obtain ⟨rt, hrt, hhash, hsub⟩ := hlinked.jwt_row jwt hold'
      obtain ⟨rt', hrt', hhash', huser, -⟩ := h.kept rt hrt
      exact ⟨rt', hrt', hhash'.trans hhash, huser.trans hsub⟩
    · exact ⟨rt, h.stored rt hrt, hhash, hsub⟩

end Writes

/-! ### Single writes -/

section

variable {db : AuthDb} {hashes : List String} {now : Instant}
variable (now) in
theorem writes_revokeTokensWhere {p : RefreshToken → Bool}
    (hp : ∀ rt, p rt = true ↔ rt.tokenHash ∈ hashes) :
    Writes env hashes [] [] (fun _ => False) db (db.revokeTokensWhere now p) where
  kept rt hrt := by
    refine ⟨if p rt then rt.revoke now else rt, List.mem_map.mpr ⟨rt, hrt, rfl⟩, ?_⟩
    by_cases hmem : rt.tokenHash ∈ hashes
    · rw [if_pos ((hp rt).mpr hmem)]
      exact ⟨rfl, rfl, rfl, .inr ⟨hmem, rfl, .inl rfl⟩⟩
    · rw [if_neg fun hmatch => hmem ((hp rt).mp hmatch)]
      exact ⟨rfl, rfl, rfl, .inl ⟨hmem, rfl⟩⟩
  added rt' hrt' := by
    obtain ⟨rt, hrt, rfl⟩ := List.mem_map.mp hrt'
    refine .inl ⟨rt, hrt, ?_⟩
    split <;> rfl
  stored _ hrt := absurd hrt List.not_mem_nil
  keptSession x hx := ⟨x, hx, rfl, rfl, .inl rfl⟩
  addedSession x hx := .inl ⟨x, hx, rfl⟩
  storedSession _ hx := absurd hx List.not_mem_nil
  issued _ hjwt := .inl hjwt

variable (ctx now) in
theorem writes_addSession (userId : Id) (hfree : db.sessions.find? draw.sessionId = none) :
    Writes env [] [] [newSession env ctx draw now userId] (fun _ => False) db
      (addSession env ctx draw now userId db) := by
  have hrows : (addSession env ctx draw now userId db).sessions.rows =
      db.sessions.rows ++ [newSession env ctx draw now userId] :=
    Table.rows_insert_of_notMem (Table.find?_eq_none_iff.mp hfree)
  exact {
    kept := fun rt hrt => ⟨rt, hrt, rfl, rfl, rfl, .inl ⟨List.not_mem_nil, rfl⟩⟩
    added := fun rt hrt => .inl ⟨rt, hrt, rfl⟩
    stored := fun _ hrt => absurd hrt List.not_mem_nil
    keptSession := fun x hx =>
      ⟨x, by rw [hrows]; exact List.mem_append_left _ hx, rfl, rfl, .inl rfl⟩
    addedSession := fun x hx => by
      rw [hrows] at hx
      rcases List.mem_append.mp hx with hold | hnew
      · exact .inl ⟨x, hold, rfl⟩
      · obtain rfl := List.mem_singleton.mp hnew
        exact .inr ⟨_, hnew, rfl, rfl, rfl⟩
    storedSession := fun x hx =>
      ⟨x, by rw [hrows]; exact List.mem_append_right _ hx, rfl, rfl⟩
    issued := fun _ hjwt => .inl hjwt }

/-- A session is attached to a token that is revoked already. -/
theorem writes_attachSession {hash : String} {x : Session}
    (hdead : ∀ rt ∈ db.refreshTokens.rows, rt.tokenHash = hash → rt.revoked = true ∧
      x.userId = rt.userId)
    (hx : ∃ x' ∈ db.sessions.rows, x'.sessionId = x.sessionId ∧ x'.userId = x.userId) :
    Writes env [hash] [] [x] (fun _ => False) db
      (db.attachSessionIdIfMissing hash x.sessionId) where
  kept rt hrt := by
    by_cases hhash : rt.tokenHash = hash
    · obtain ⟨hrevoked, huser⟩ := hdead rt hrt hhash
      have hmem : rt.tokenHash ∈ [hash] := List.mem_singleton.mpr hhash
      refine ⟨if rt.sessionId.isNone then { rt with sessionId := some x.sessionId } else rt,
        List.mem_map.mpr ⟨rt, hrt, if_pos hhash⟩, ?_⟩
      split
      · exact ⟨rfl, rfl, rfl, .inr ⟨hmem, hrevoked,
          .inr ⟨x, List.mem_singleton_self _, rfl, huser⟩⟩⟩
      · exact ⟨rfl, rfl, rfl, .inr ⟨hmem, hrevoked, .inl rfl⟩⟩
    · refine ⟨rt, List.mem_map.mpr ⟨rt, hrt, if_neg hhash⟩, rfl, rfl, rfl, .inl ⟨?_, rfl⟩⟩
      exact fun hmem => hhash (List.mem_singleton.mp hmem)
  added rt' hrt' := by
    obtain ⟨rt, hrt, rfl⟩ := List.mem_map.mp hrt'
    refine .inl ⟨rt, hrt, ?_⟩
    by_cases hhash : rt.tokenHash = hash
    · rw [if_pos hhash]
      dsimp only
      split <;> rfl
    · rw [if_neg hhash]
  stored _ hrt := absurd hrt List.not_mem_nil
  keptSession y hy := ⟨y, hy, rfl, rfl, .inl rfl⟩
  addedSession y hy := .inl ⟨y, hy, rfl⟩
  storedSession y hy := by
    obtain rfl := List.mem_singleton.mp hy
    exact hx
  issued _ hjwt := .inl hjwt

variable (ctx now) in
theorem writes_addPair (user : Auth.User) (sid : Id)
    (hfree : db.refreshTokens.find? (env.hashToken (newJwt env ctx draw now user)) = none) :
    Writes env [] [newToken env ctx draw now user sid] [] (fun _ => False) db
      (addPair env ctx draw now user sid db) := by
  have hrows : (addPair env ctx draw now user sid db).refreshTokens.rows =
      db.refreshTokens.rows ++ [newToken env ctx draw now user sid] :=
    Table.rows_insert_of_notMem (Table.find?_eq_none_iff.mp hfree)
  exact {
    kept := fun rt hrt =>
      ⟨rt, by rw [hrows]; exact List.mem_append_left _ hrt, rfl, rfl, rfl,
        .inl ⟨List.not_mem_nil, rfl⟩⟩
    added := fun rt hrt => by
      rw [hrows] at hrt
      exact (List.mem_append.mp hrt).imp_left fun hold => ⟨rt, hold, rfl⟩
    stored := fun rt hrt => by rw [hrows]; exact List.mem_append_right _ hrt
    keptSession := fun x hx => by
      refine ⟨_, List.mem_map.mpr ⟨x, hx, rfl⟩, ?_⟩
      split
      · exact ⟨rfl, rfl, .inl rfl⟩
      · exact ⟨rfl, rfl, .inl rfl⟩
    addedSession := fun x' hx' => by
      obtain ⟨x, hx, rfl⟩ := List.mem_map.mp hx'
      refine .inl ⟨x, hx, ?_⟩
      split <;> rfl
    storedSession := fun _ hx => absurd hx List.not_mem_nil
    issued := fun jwt hjwt => (List.mem_append.mp hjwt).imp_right fun hnew => by
      obtain rfl := List.mem_singleton.mp hnew
      exact ⟨_, List.mem_singleton_self _, rfl, rfl⟩ }

end

/-! ### What the operations write -/

section

variable {db : AuthDb} {hashes oldest : List String} {now : Instant} {user : Auth.User}
variable (env ctx user) in
theorem checkedDb_tables (password : String) (db : AuthDb) :
    db.refreshTokens = (checkedDb env ctx user password db).refreshTokens ∧
      db.sessions = (checkedDb env ctx user password db).sessions ∧
      db.issuedRefresh = (checkedDb env ctx user password db).issuedRefresh := by
  rw [checkedDb, driverDb]
  split
  · rw [withDriver]
    split <;> exact ⟨rfl, rfl, rfl⟩
  · exact ⟨rfl, rfl, rfl⟩

/-- No token is added by a revocation. -/
theorem find?_revokeTokensWhere_eq_none {p : RefreshToken → Bool} {hash : String}
    (h : db.refreshTokens.find? hash = none) :
    (db.revokeTokensWhere now p).refreshTokens.find? hash = none := by
  rw [AuthDb.revokeTokensWhere, Table.find?_mapRows, h, Option.map_none]

theorem mem_oldest_iff (oldest : List String) (rt : RefreshToken) :
    decide (rt.tokenHash ∈ oldest) = true ↔ rt.tokenHash ∈ oldest := decide_eq_true_iff

/-- **What a login writes.** -/
theorem writes_loggedInDb {password : String}
    (hsession : db.sessions.find? draw.sessionId = none)
    (htoken : db.refreshTokens.find? (env.hashToken (newJwt env ctx draw now user)) = none) :
    Writes env oldest [newToken env ctx draw now user draw.sessionId]
      [newSession env ctx draw now user.id] (fun _ => False) db
      (loggedInDb env ctx draw user password now oldest db) := by
  obtain ⟨htokens, hsessions, hissued⟩ := checkedDb_tables env ctx user password db
  rw [hsessions] at hsession
  rw [htokens] at htoken
  have hrevoke : Writes env oldest [] [] (fun _ => False)
      (checkedDb env ctx user password db) _ :=
    writes_revokeTokensWhere now (mem_oldest_iff oldest)
  have hopen := hrevoke.trans (writes_addSession ctx now user.id hsession)
  have hissue := hopen.trans (writes_addPair ctx now user draw.sessionId
    (find?_revokeTokensWhere_eq_none htoken))
  simp only [List.append_nil, List.nil_append] at hissue
  exact hissue.congr ⟨htokens.symm, hsessions.symm, hissued.symm⟩ ⟨rfl, rfl, rfl⟩

/-- The session that a refresh opens. -/
def openedFor (env : AuthEnv) (ctx : RequestContext) (draw : Draw) (now : Instant) (userId : Id)
    (record : RefreshToken) : List Session :=
  if record.sessionId.isSome then [] else [newSession env ctx draw now userId]

variable (env ctx now) in
theorem writes_withOwnSession {userId : Id} {record : RefreshToken}
    (hmem : record ∈ db.refreshTokens.rows) (howner : record.userId = userId)
    (hsession : record.sessionId = none → db.sessions.find? draw.sessionId = none) :
    Writes env [record.tokenHash] [] (openedFor env ctx draw now userId record)
      (fun _ => False) db
      (withOwnSession env ctx draw userId record now (taken record.tokenHash now db)) := by
  have htaken : Writes env [record.tokenHash] [] [] (fun _ => False) db
      (taken record.tokenHash now db) :=
    writes_revokeTokensWhere _ fun rt => by simp
  rw [withOwnSession, openedFor]
  split
  · exact htaken
  · rename_i hnone
    have hfree := hsession (Option.not_isSome_iff_eq_none.mp hnone)
    have hopen := htaken.trans (writes_addSession ctx now userId hfree)
    refine (hopen.trans (writes_attachSession (x := newSession env ctx draw now userId) ?_ ?_)
      ).of_mem_iff (by simp) (by simp)
    · -- the token was taken before
      intro rt hrt hhash
      obtain ⟨rt', hrt', hhash', huser, -, hsame⟩ := hopen.kept record hmem
      obtain rfl := Table.eq_of_key hrt' hrt (hhash'.trans hhash.symm)
      refine ⟨?_, (huser.trans howner).symm⟩
      rcases hsame with ⟨hnot, -⟩ | ⟨-, hrevoked, -⟩
      · exact absurd (List.mem_append_left _ (List.mem_singleton_self _)) hnot
      · exact hrevoked
    · exact hopen.storedSession _ (List.mem_append_right _ (List.mem_singleton_self _))

/-- **What a refresh writes.** -/
theorem writes_refreshedDb {record : RefreshToken} (hmem : record ∈ db.refreshTokens.rows)
    (howner : record.userId = user.id)
    (hsession : record.sessionId = none → db.sessions.find? draw.sessionId = none)
    (htoken : db.refreshTokens.find? (env.hashToken (newJwt env ctx draw now user)) = none) :
    Writes env (record.tokenHash :: oldest)
      [newToken env ctx draw now user (record.sessionId.getD draw.sessionId)]
      (openedFor env ctx draw now user.id record) (fun _ => False) db
      (refreshedDb env ctx draw user record now oldest db) := by
  have hopen := writes_withOwnSession env ctx now hmem howner hsession
  have hrevoke := hopen.trans (writes_revokeTokensWhere now (mem_oldest_iff oldest))
  refine (hrevoke.trans (writes_addPair ctx now user
    (record.sessionId.getD draw.sessionId) ?_)).of_mem_iff (by simp) (by simp)
  refine find?_revokeTokensWhere_eq_none (Table.find?_eq_none_iff.mpr fun hin => ?_)
  obtain ⟨rt', hrt', hhash⟩ := List.mem_map.mp hin
  obtain ⟨rt, hrt, hhash'⟩ := (hopen.added rt' hrt').resolve_right List.not_mem_nil
  exact Table.find?_eq_none_iff.mp htoken (List.mem_map.mpr ⟨rt, hrt, hhash'.trans hhash⟩)

/-- **What a logout writes.** -/
theorem writes_revoked {userId : Id} {sids : List Id} :
    Writes env hashes [] [] (fun x => x.userId = userId ∧ x.sessionId ∈ sids) db
      (revoked userId now hashes sids db) := by
  have hrevoke : Writes env hashes [] [] (fun _ => False) db (db.revokeTokensWhere now _) :=
    writes_revokeTokensWhere _ (mem_oldest_iff hashes)
  exact {
    kept := hrevoke.kept
    added := hrevoke.added
    stored := hrevoke.stored
    keptSession := fun x hx => by
      refine ⟨_, List.mem_map.mpr ⟨x, hx, rfl⟩, ?_⟩
      split
      · rename_i hmatch
        simp only [Bool.and_eq_true, decide_eq_true_eq] at hmatch
        exact ⟨rfl, rfl, .inr ⟨hmatch, rfl⟩⟩
      · exact ⟨rfl, rfl, .inl rfl⟩
    addedSession := fun x' hx' => by
      obtain ⟨x, hx, rfl⟩ := List.mem_map.mp hx'
      refine .inl ⟨x, hx, ?_⟩
      split <;> rfl
    storedSession := fun _ hx => absurd hx List.not_mem_nil
    issued := hrevoke.issued }

end

/-! ### What the operations may write -/

section

variable {T : Type} {D : Discipline AuthStore (AuthLock T)} {t : T} {s : AuthStore}
  {held : AuthLock T → Prop} {user : Auth.User} {record : RefreshToken} {password : String}
  {now : Instant} {oldest : List String}

/-- A session that is not there has no tokens. -/
theorem Linked.no_tokens (h : Linked env s) {sid : Id}
    (hfree : s.sessionRows.find? sid = none) {rt : RefreshToken} (hrt : rt ∈ s.tokens.rows) :
    rt.sessionId ≠ some sid := by
  intro hsid
  obtain ⟨x, hx, hid, -⟩ := h.owner rt hrt sid hsid
  exact Table.find?_eq_none_iff.mp hfree (List.mem_map.mpr ⟨x, hx, hid⟩)

namespace LoggingIn

variable (h : LoggingIn env ctx draw user now oldest s held)

include h

/-- What a login writes, where it commits. -/
theorem writes : Writes env oldest [AuthTxns.newToken env ctx draw now user draw.sessionId]
    [AuthTxns.newSession env ctx draw now user.id] (fun _ => False) s.db
    (loggedInDb env ctx draw user password now oldest s.db) :=
  writes_loggedInDb h.sessionFree h.tokenFree

theorem newTokens : ∀ rt ∈ [AuthTxns.newToken env ctx draw now user draw.sessionId],
    held (.newToken rt.tokenHash) := by
  intro rt hrt
  obtain rfl := List.mem_singleton.mp hrt
  exact h.newToken

theorem opened : ∀ x ∈ [AuthTxns.newSession env ctx draw now user.id],
    held (.newSession x.sessionId) := by
  intro x hx
  obtain rfl := List.mem_singleton.mp hx
  exact h.newSession

/-- The tables stay linked. -/
theorem linked (hlinked : Linked env s) :
    Linked env (s.mapDb (loggedInDb env ctx draw user password now oldest)) := by
  refine Writes.linked h.writes hlinked fun rt hrt sid hsid => ?_
  obtain rfl := List.mem_singleton.mp hrt
  obtain rfl := Option.some.inj hsid
  exact .inl ⟨_, List.mem_singleton_self _, rfl, rfl⟩

end LoggingIn

/-- The session that a refresh opens is one that the refresh may add. -/
theorem Exchanging.opened
    (h : Exchanging D env ctx draw t user record now oldest s held) :
    ∀ x ∈ openedFor env ctx draw now user.id record, held (.newSession x.sessionId) := by
  intro x hx
  rw [openedFor] at hx
  split at hx
  · exact absurd hx List.not_mem_nil
  · rename_i hnone
    obtain rfl := List.mem_singleton.mp hx
    exact (h.newSession (Option.not_isSome_iff_eq_none.mp hnone)).1

/-- The new token of a refresh belongs to a session of its user. -/
theorem Exchanging.owner_new (hlinked : Linked env s)
    (h : Exchanging D env ctx draw t user record now oldest s held) :
    (∃ x ∈ openedFor env ctx draw now user.id record,
      x.sessionId = record.sessionId.getD draw.sessionId ∧ x.userId = user.id) ∨
    ∃ x ∈ s.sessionRows.rows, x.sessionId = record.sessionId.getD draw.sessionId ∧
      x.userId = user.id := by
  cases hsession : record.sessionId with
  | none =>
      refine .inl ⟨AuthTxns.newSession env ctx draw now user.id, ?_, rfl, rfl⟩
      rw [openedFor, hsession]
      exact List.mem_singleton_self _
  | some sid =>
      obtain ⟨x, hx, hid, huser⟩ := hlinked.owner record h.mem sid hsession
      exact .inr ⟨x, hx, hid, huser.trans h.owner⟩

/-- What a refresh writes, where it commits. -/
theorem Exchanging.writes
    (h : Exchanging D env ctx draw t user record now oldest s held) :
    Writes env (record.tokenHash :: oldest)
      [AuthTxns.newToken env ctx draw now user (record.sessionId.getD draw.sessionId)]
      (openedFor env ctx draw now user.id record) (fun _ => False) s.db
      (refreshedDb env ctx draw user record now oldest s.db) :=
  writes_refreshedDb h.mem h.owner (fun hnone => (h.newSession hnone).2) h.tokenFree

/-- The store after a refresh. -/
def AuthStore.refreshed (env : AuthEnv) (ctx : RequestContext) (draw : Draw) (user : Auth.User)
    (record : RefreshToken) (now : Instant) (oldest : List String) (s : AuthStore) : AuthStore :=
  { s with
    db := refreshedDb env ctx draw user record now oldest s.db
    exchanged := s.exchanged ++ [record.tokenHash] }

/-- The tables stay linked. -/
theorem Exchanging.linked (h : Exchanging D env ctx draw t user record now oldest s held)
    (hlinked : Linked env s) :
    Linked env (s.refreshed env ctx draw user record now oldest) := by
  refine Writes.linked h.writes hlinked fun rt hrt sid hsid => ?_
  obtain rfl := List.mem_singleton.mp hrt
  obtain rfl := Option.some.inj hsid
  exact h.owner_new hlinked

theorem Exchanging.hashes (h : Exchanging D env ctx draw t user record now oldest s held) :
    ∀ hash ∈ record.tokenHash :: oldest, held (.token hash) := by
  intro hash hmem
  rcases List.mem_cons.mp hmem with rfl | hold
  · exact h.token
  · exact h.oldest hash hold

theorem Exchanging.newTokens (h : Exchanging D env ctx draw t user record now oldest s held) :
    ∀ rt ∈ [AuthTxns.newToken env ctx draw now user (record.sessionId.getD draw.sessionId)],
      held (.newToken rt.tokenHash) := by
  intro rt hrt
  obtain rfl := List.mem_singleton.mp hrt
  exact h.newToken

end

end SwCouriers.AuthTxns
