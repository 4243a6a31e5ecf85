import SwCouriers.PasswordReset

/-!
# One Code, one Password Change

A code is read, compared and deleted by separate commands, and the token that it is exchanged for
can be found again only through a pointer that the next exchange overwrites. So one code can be
exchanged twice, and the second token changes the password again, unless the first change falls in
a later second than the one in which that token was drawn.

It cannot, in the schedules in which nobody writes the session of a token while another request is
between its first command and its last; nobody issues a code while another request is between
reading a code or a session and the last command that goes with it; and no password is changed
while a code is being exchanged, or, at a time at which its own condition still holds, with the
code of a session that another request has read.

## Main results

* `one_code_one_change`: **one code, one password change**, along every undisturbed schedule.
* `code_changes_password_twice`: the schedule in which a code leads to two changes.
-/

namespace SwCouriers.PasswordReset

open Checked ReadCommitted Commands Auth Discipline

/-! ### The discipline -/

/-- The session of a token is written. -/
def NewSession (s s' : ResetStore) : Prop :=
  ∃ hash e, s'.sessions hash = some e ∧ s.sessions hash ≠ some e

/-- What a request touches that it does not lock. -/
def loose {T : Type} (s s' : ResetStore) : ResetLock T → Prop
  | .user => False
  | .requesting _ => NewSession s s'
  | .verifying _ => NewSession s s' ∨ s.issued ≠ s'.issued ∨ s.changes ≠ s'.changes
  | .confirming _ e => NewSession s s' ∨ s.issued ≠ s'.issued ∨
      (e.code ∈ s'.usedCodes ∧ e.code ∉ s.usedCodes ∧ s'.unchangedSince e = true)

namespace ResetStore

/-- A token that a caller may have can be used. -/
def Usable (s : ResetStore) (hash : String) (e : ResetSession) : Prop :=
  s.sessions hash = some e ∧ e.handedOut = true ∧ s.clock < e.expiresAt

/-- No caller has a token that can be used. -/
def NoneUsable (s : ResetStore) : Prop := ∀ hash e, ¬ s.Usable hash e

end ResetStore

/-- What holds of the codes, the tokens and the changes. -/
structure OneCode (s : ResetStore) : Prop where
  session_le : ∀ hash e, s.sessions hash = some e → e.code ≤ s.issued ∧ e.iat * second ≤ s.clock
  /-- A code that waits to be exchanged is the last one issued, and nothing has come of it. -/
  otp_latest : ∀ o ∈ s.otp, o.code = s.issued ∧ o.code ∉ s.usedCodes ∧
    ∀ hash e, s.sessions hash = some e → e.code ≠ o.code
  /-- A token that can be used is the one pointed to, comes from the last code issued, and no
  change has come of that. -/
  usable_latest : ∀ hash e, s.Usable hash e →
    (∃ p ∈ s.pointer, p.hash = hash ∧ e.expiresAt ≤ p.expiresAt) ∧
      e.code = s.issued ∧ e.code ∉ s.usedCodes
  change_latest : ∀ c ∈ s.changes, c.code = c.issued ∧ c.issued ≤ s.issued
  nodup : s.usedCodes.Nodup

/-- How a store evolves, whatever is held. -/
structure Later (s s' : ResetStore) : Prop where
  clock : s.clock ≤ s'.clock
  issued : s.issued ≤ s'.issued
  changes : ∀ code ∈ s.usedCodes, code ∈ s'.usedCodes
  changedAt : ∀ e, s'.unchangedSince e = true → s.unchangedSince e = true
  otp : ∀ o, s'.otp = some o → s.otp = some o ∨ s.issued < s'.issued

theorem Later.refl (s : ResetStore) : Later s s :=
  ⟨le_refl _, le_refl _, fun _ h => h, fun _ h => h, fun _ h => .inl h⟩

theorem Later.trans {s₁ s₂ s₃ : ResetStore} (h : Later s₁ s₂) (h' : Later s₂ s₃) :
    Later s₁ s₃ where
  clock := h.clock.trans h'.clock
  issued := h.issued.trans h'.issued
  changes code hcode := h'.changes code (h.changes code hcode)
  changedAt e he := h.changedAt e (h'.changedAt e he)
  otp o ho := by
    rcases h'.otp o ho with hsame | hlt
    · exact (h.otp o hsame).imp_right fun hlt => hlt.trans_le h'.issued
    · exact .inr (h.issued.trans_lt hlt)

theorem NewSession.trans {s₁ s₂ s₃ : ResetStore} (h : NewSession s₁ s₃) :
    NewSession s₁ s₂ ∨ NewSession s₂ s₃ := by
  obtain ⟨hash, e, he, hne⟩ := h
  by_cases hmid : s₂.sessions hash = some e
  · exact .inl ⟨hash, e, hmid, hne⟩
  · exact .inr ⟨hash, e, he, hmid⟩

theorem ne_trans_or {α : Type} {a b c : α} (h : a ≠ c) : a ≠ b ∨ b ≠ c := by
  by_cases hab : a = b
  · exact .inr (hab ▸ h)
  · exact .inl hab

theorem loose_trans {T : Type} {s₁ s₂ s₃ : ResetStore} (h₂₃ : Later s₂ s₃)
    {k : ResetLock T} (h : loose s₁ s₃ k) : loose s₁ s₂ k ∨ loose s₂ s₃ k := by
  cases k with
  | user => exact h.elim
  | requesting t => exact NewSession.trans h
  | verifying t =>
      rcases h with hnew | hissued | hchanges
      · exact hnew.trans.imp .inl .inl
      · exact (ne_trans_or hissued).imp (.inr ∘ .inl) (.inr ∘ .inl)
      · exact (ne_trans_or hchanges).imp (.inr ∘ .inr) (.inr ∘ .inr)
  | confirming t e =>
      rcases h with hnew | hissued | ⟨hused, hunused, hsince⟩
      · exact hnew.trans.imp .inl .inl
      · exact (ne_trans_or hissued).imp (.inr ∘ .inl) (.inr ∘ .inl)
      · by_cases hmid : e.code ∈ s₂.usedCodes
        · exact .inl (.inr (.inr ⟨hmid, hunused, h₂₃.changedAt e hsince⟩))
        · exact .inr (.inr (.inr ⟨hused, hmid, hsince⟩))

theorem not_loose_self {T : Type} {s : ResetStore} {k : ResetLock T} : ¬ loose s s k := by
  have hnew : ¬ NewSession s s := fun ⟨hash, e, he, hne⟩ => hne he
  cases k with
  | user => exact id
  | requesting t => exact hnew
  | verifying t => exact fun h => h.elim hnew fun h => h.elim (· rfl) (· rfl)
  | confirming t e => exact fun h => h.elim hnew fun h => h.elim (· rfl) fun h => h.2.1 h.1

/-- The discipline of the codes. -/
def oneCode (T : Type) : Discipline ResetStore (ResetLock T) where
  inv := OneCode
  evolves touched s s' := Later s s' ∧
    (¬ touched .user → s'.changes = s.changes ∧ s'.passwordChangedAt = s.passwordChangedAt) ∧
    ∀ k, loose s s' k → touched k
  refl touched s := ⟨.refl s, fun _ => ⟨rfl, rfl⟩, fun k hk => absurd hk not_loose_self⟩
  trans := by
    rintro touched s₁ s₂ s₃ ⟨hlater, huser, hloose⟩ ⟨hlater', huser', hloose'⟩
    refine ⟨hlater.trans hlater', fun hfree => ?_, fun k hk => ?_⟩
    · exact ⟨(huser' hfree).1.trans (huser hfree).1, (huser' hfree).2.trans (huser hfree).2⟩
    · exact (loose_trans hlater' hk).elim (hloose k) (hloose' k)
  mono := by
    rintro touched touched' s s' hsub ⟨hlater, huser, hloose⟩
    exact ⟨hlater, fun hfree => huser fun h => hfree (hsub _ h), fun k hk => hsub k (hloose k hk)⟩

/-! ### What the requests may do -/

section

variable {T : Type} {t : T} {s s' : ResetStore} {held : ResetLock T → Prop}

/-- A command or a write that leaves the changes alone. -/
theorem changes_of_later {f : ResetStore → ResetStore} (hinv : OneCode (f s))
    (hlater : Later s (f s)) (hchanges : (f s).changes = s.changes)
    (hchangedAt : (f s).passwordChangedAt = s.passwordChangedAt) :
    Changes (oneCode T) loose f s held :=
  ⟨hinv, hlater, fun _ => ⟨hchanges, hchangedAt⟩, fun _ hk => .inr hk⟩

theorem changes_id (h : OneCode s) : Changes (oneCode T) loose id s held :=
  changes_of_later h (.refl s) rfl rfl

variable {hash : String} {e : ResetSession} {code : ℕ}

theorem sessions_deleteSession {other : String}
    (h : (s.deleteSession hash).sessions other = some e) :
    s.sessions other = some e ∧ other ≠ hash := by
  by_cases heq : other = hash
  · subst heq
    simp [ResetStore.deleteSession] at h
  · exact ⟨by simpa [ResetStore.deleteSession, Function.update_of_ne heq] using h, heq⟩

theorem usable_deleteSession {other : String} (h : (s.deleteSession hash).Usable other e) :
    s.Usable other e ∧ other ≠ hash :=
  ⟨⟨(sessions_deleteSession h.1).1, h.2⟩, (sessions_deleteSession h.1).2⟩

theorem changes_deleteSession (h : OneCode s) (hash : String) :
    Changes (oneCode T) loose (ResetStore.deleteSession hash) s held := by
  refine changes_of_later ?_ ⟨le_refl _, le_refl _, fun _ h => h, fun _ h => h, fun _ h => .inl h⟩
    rfl rfl
  exact
    { session_le := fun other e he => h.session_le other e (sessions_deleteSession he).1
      otp_latest := fun o ho =>
        have ⟨hcode, hunused, hnone⟩ := h.otp_latest o ho
        ⟨hcode, hunused, fun other e he => hnone other e (sessions_deleteSession he).1⟩
      usable_latest := fun other e he => h.usable_latest other e (usable_deleteSession he).1
      change_latest := h.change_latest
      nodup := h.nodup }

theorem changes_deletePointer (h : OneCode s) (hnone : s.NoneUsable) :
    Changes (oneCode T) loose ResetStore.deletePointer s held := by
  refine changes_of_later ?_ ⟨le_refl _, le_refl _, fun _ h => h, fun _ h => h, fun _ h => .inl h⟩
    rfl rfl
  exact
    { session_le := h.session_le
      otp_latest := h.otp_latest
      usable_latest := fun other e he => absurd he (hnone other e)
      change_latest := h.change_latest
      nodup := h.nodup }

theorem changes_deleteOtp (h : OneCode s) :
    Changes (oneCode T) loose ResetStore.deleteOtp s held := by
  refine changes_of_later ?_
    ⟨le_refl _, le_refl _, fun _ h => h, fun _ h => h, fun _ h => nomatch h⟩ rfl rfl
  exact
    { session_le := h.session_le
      otp_latest := fun o ho => nomatch ho
      usable_latest := h.usable_latest
      change_latest := h.change_latest
      nodup := h.nodup }

theorem changes_tick (h : OneCode s) (elapsed : ℕ) :
    Changes (oneCode T) loose (fun s => { s with clock := s.clock + elapsed }) s held := by
  have hle : s.clock ≤ s.clock + elapsed := by
    exact Int.le_add_of_nonneg_right (Int.natCast_nonneg elapsed)
  refine changes_of_later ?_ ⟨hle, le_refl _, fun _ h => h, fun _ h => h, fun _ h => .inl h⟩ rfl rfl
  exact
    { session_le := fun other e he =>
        ⟨(h.session_le other e he).1, (h.session_le other e he).2.trans hle⟩
      otp_latest := h.otp_latest
      usable_latest := fun other e he =>
        h.usable_latest other e ⟨he.1, he.2.1, hle.trans_lt he.2.2⟩
      change_latest := h.change_latest
      nodup := h.nodup }

/-- The codes of the changes are codes that were issued. -/
theorem OneCode.used_le (h : OneCode s) (hcode : code ∈ s.usedCodes) : code ≤ s.issued := by
  obtain ⟨c, hc, rfl⟩ := List.mem_map.mp hcode
  obtain ⟨heq, hle⟩ := h.change_latest c hc
  exact heq.trans_le hle

theorem changes_setOtp (h : OneCode s) (hnone : s.NoneUsable) (hash : String) (iat : ℤ) :
    Changes (oneCode T) loose (ResetStore.setOtp hash iat) s held := by
  refine changes_of_later ?_ ⟨le_refl _, Nat.le_succ _, fun _ h => h, fun _ h => h,
    fun _ _ => .inr (Nat.lt_succ_self _)⟩ rfl rfl
  refine ⟨fun other e he => ?_, fun o ho => ?_, fun other e he => absurd he (hnone other e),
    fun c hc => ?_, h.nodup⟩
  · exact ⟨Nat.le_succ_of_le (h.session_le other e he).1, (h.session_le other e he).2⟩
  · obtain rfl := Option.some.inj ho
    refine ⟨rfl, fun hused => ?_, fun other e he => ?_⟩
    · exact absurd (h.used_le hused) (Nat.not_succ_le_self _)
    · exact ((h.session_le other e he).1.trans_lt (Nat.lt_succ_self _)).ne
  · exact ⟨(h.change_latest c hc).1, Nat.le_succ_of_le (h.change_latest c hc).2⟩

theorem changes_setSession (h : OneCode s) (hotp : s.otp = none) {iat : ℤ} (hcode : code ≤ s.issued)
    (hiat : iat * second ≤ s.clock) :
    Changes (oneCode T) loose (ResetStore.setSession hash iat code) s held := by
  refine changes_of_later ?_ ⟨le_refl _, le_refl _, fun _ h => h, fun _ h => h, fun _ h => .inl h⟩
    rfl rfl
  have hold : ∀ other e, (s.setSession hash iat code).sessions other = some e →
      e = ⟨iat, s.clock + sessionTtl, code, false⟩ ∨ s.sessions other = some e := by
    intro other e he
    simp only [ResetStore.setSession, Function.update_apply] at he
    split at he
    · exact .inl (Option.some.inj he).symm
    · exact .inr he
  refine ⟨fun other e he => ?_, fun o ho => ?_, fun other e he => ?_, h.change_latest, h.nodup⟩
  · rcases hold other e he with rfl | hsame
    · exact ⟨hcode, hiat⟩
    · exact h.session_le other e hsame
  · exact absurd (hotp.symm.trans ho) (by simp)
  · rcases hold other e he.1 with rfl | hsame
    · exact absurd he.2.1 (by simp)
    · exact h.usable_latest other e ⟨hsame, he.2⟩

theorem changes_setPointer (h : OneCode s) (hnone : s.NoneUsable)
    (hown : ∀ e, s.sessions hash = some e →
      e.code = s.issued ∧ e.code ∉ s.usedCodes ∧ e.expiresAt ≤ s.clock + sessionTtl) :
    Changes (oneCode T) loose (ResetStore.setPointer hash) s held := by
  refine changes_of_later ?_ ⟨le_refl _, le_refl _, fun _ h => h, fun _ h => h, fun _ h => .inl h⟩
    rfl rfl
  have hold : ∀ other e, (s.setPointer hash).sessions other = some e →
      ∃ e', s.sessions other = some e' ∧ e.code = e'.code ∧ e.iat = e'.iat ∧
        e.expiresAt = e'.expiresAt ∧ (other = hash ∨ e = e') := by
    intro other e he
    simp only [ResetStore.setPointer, Function.update_apply] at he
    split at he
    · rename_i heq
      subst heq
      obtain ⟨e', he', rfl⟩ := Option.map_eq_some_iff.mp he
      exact ⟨e', he', rfl, rfl, rfl, .inl rfl⟩
    · exact ⟨e, he, rfl, rfl, rfl, .inr rfl⟩
  refine ⟨fun other e he => ?_, fun o ho => ?_, fun other e he => ?_, h.change_latest, h.nodup⟩
  · obtain ⟨e', he', hcode, hiat, -, -⟩ := hold other e he
    rw [hcode, hiat]
    exact h.session_le other e' he'
  · obtain ⟨hcode, hunused, hother⟩ := h.otp_latest o ho
    refine ⟨hcode, hunused, fun other e he => ?_⟩
    obtain ⟨e', he', hsame, -⟩ := hold other e he
    rw [hsame]
    exact hother other e' he'
  · obtain ⟨e', he', hcode, -, hexpiry, rfl | rfl⟩ := hold other e he.1
    · obtain ⟨hissued, hunused, hle⟩ := hown e' he'
      rw [hcode, hexpiry]
      exact ⟨⟨_, rfl, rfl, hle⟩, hissued, hunused⟩
    · exact absurd ⟨he', he.2⟩ (hnone other e)

/-- The password is changed by the request that has locked the row. -/
theorem changes_changePassword (h : OneCode s) (huser : held .user) (hnone : s.NoneUsable)
    (hotp : s.otp = none) (hcode : e.code = s.issued) (hunused : e.code ∉ s.usedCodes)
    {now : Instant} (hnow : e.iat * second ≤ now) (hsince : s.unchangedSince e = true)
    (newHash : String) :
    Changes (oneCode T) loose (ResetStore.changePassword newHash now e.code) s held := by
  have hused : (s.changePassword newHash now e.code).usedCodes = s.usedCodes ++ [e.code] := by
    simp [ResetStore.usedCodes, ResetStore.changePassword]
  refine ⟨⟨h.session_le, fun o ho => ?_, fun other e' he' => absurd he' (hnone other e'),
    fun c hc => ?_, ?_⟩, ⟨le_refl _, le_refl _, fun code hold => ?_, fun e' he' => ?_,
    fun _ h => .inl h⟩, fun hfree => absurd (.inl huser) hfree, fun _ hk => .inr hk⟩
  · exact absurd (hotp.symm.trans ho) (by simp)
  · rcases List.mem_append.mp hc with hold | hlast
    · exact h.change_latest c hold
    · obtain rfl := List.mem_singleton.mp hlast
      exact ⟨hcode, le_refl _⟩
  · rw [hused]
    exact h.nodup.append (List.nodup_singleton _) fun a ha ha' =>
      hunused (List.mem_singleton.mp ha' ▸ ha)
  · rw [hused]
    exact List.mem_append_left _ hold
  · -- the change before this one was made no later than the token was drawn
    simp only [ResetStore.unchangedSince, Option.all_eq_true, decide_eq_true_eq] at hsince ⊢
    have hle : now ≤ e'.iat * second := by
      simpa [ResetStore.unchangedSince, ResetStore.changePassword] using he'
    exact fun changedAt hat => (hsince changedAt hat).trans (hnow.trans hle)

/-! ### The requests -/

/-- While these are held, nobody else writes the session of a token. -/
def Quiet (held : ResetLock T → Prop) : Prop :=
  ∀ s s', (oneCode T).Rely held s s' → ¬ NewSession s s'

theorem quiet_of_requesting (h : held (.requesting t)) : Quiet held :=
  fun _ _ hrely hnew => hrely.1.2.2 (.requesting t) hnew h

theorem quiet_of_verifying (h : held (.verifying t)) : Quiet held :=
  fun _ _ hrely hnew => hrely.1.2.2 (.verifying t) (.inl hnew) h

theorem quiet_of_confirming (h : held (.confirming t e)) : Quiet held :=
  fun _ _ hrely hnew => hrely.1.2.2 (.confirming t e) (.inl hnew) h

theorem sessions_of_quiet (hquiet : Quiet held) (hrely : (oneCode T).Rely held s s')
    (h : s'.sessions hash = some e) : s.sessions hash = some e := by
  by_contra hne
  exact hquiet s s' hrely ⟨hash, e, h, hne⟩

theorem usable_of_quiet (hquiet : Quiet held) (hrely : (oneCode T).Rely held s s')
    (h : s'.Usable hash e) : s.Usable hash e :=
  ⟨sessions_of_quiet hquiet hrely h.1, h.2.1, hrely.1.1.clock.trans_lt h.2.2⟩

theorem noneUsable_of_quiet (hquiet : Quiet held) (hrely : (oneCode T).Rely held s s')
    (h : s.NoneUsable) : s'.NoneUsable :=
  fun hash e he => h hash e (usable_of_quiet hquiet hrely he)

/-- The pointer finds the only token that can be used. -/
theorem OneCode.readPointer (h : OneCode s) (he : s.Usable hash e) : s.readPointer = some hash := by
  obtain ⟨⟨p, hp, hhash, hle⟩, -⟩ := h.usable_latest hash e he
  have hlive : s.clock < p.expiresAt := he.2.2.trans_le hle
  rw [ResetStore.readPointer, hp]
  simp [Option.filter, hlive, hhash]

/-- The rule for `_revoke_password_reset_session`: it leaves no token that can be used, and keeps
what its own commands and the others keep. -/
theorem wp_revoke {mark : Option (ResetLock T)} {I : ResetStore → Prop}
    {marked : ResetLock T → Prop} {Q : Unit → ResetStore → (ResetLock T → Prop) → Prop}
    (hmarked : marked = fun j => mark = some j ∨ held j) (hquiet : Quiet marked) (hs : OneCode s)
    (hstart : I s) (hrely : ∀ s s', (oneCode T).Rely marked s s' → I s → I s')
    (hsession : ∀ s hash, I s → I (s.deleteSession hash))
    (hpointer : ∀ s, I s → I s.deletePointer)
    (h : ∀ s', OneCode s' → I s' → s'.NoneUsable → Q () s' marked) :
    wp (oneCode T) loose Q (revokePasswordResetSession mark) s held := by
  subst hmarked
  refine wp_get hs fun s₁ hs₁ => ?_
  have hI := hrely s s₁ hs₁ hstart
  cases hread : s.readPointer with
  | none =>
      refine h s₁ hs₁.2 hI fun hash e he => ?_
      have hfound := hs.readPointer (usable_of_quiet hquiet hs₁ he)
      exact absurd (hfound.symm.trans hread) (by simp)
  | some pointed =>
      refine wp_bind.mpr (wp_run (changes_deleteSession hs₁.2 pointed) fun s₂ hs₂ => ?_)
      have hnone : s₂.NoneUsable := by
        intro hash e he
        obtain ⟨husable, hne⟩ := usable_deleteSession (usable_of_quiet hquiet hs₂ he)
        have hfound := hs.readPointer (usable_of_quiet hquiet hs₁ husable)
        exact hne (Option.some.inj (hfound.symm.trans hread))
      have hI₂ := hrely _ s₂ hs₂ (hsession s₁ pointed hI)
      refine wp_run (changes_deletePointer hs₂.2 hnone) fun s₃ hs₃ => ?_
      exact h s₃ hs₃.2 (hrely _ s₃ hs₃ (hpointer s₂ hI₂)) (noneUsable_of_quiet hquiet hs₃ hnone)

theorem wp_request (env : ResetEnv) (clientType : Auth.ClientType) (otp : String) (hs : OneCode s) :
    wp (oneCode T) loose (fun write s held => Changes (oneCode T) loose write s held)
      ((ResetCall.request clientType otp).prog env t) s held := by
  refine wp_bind.mpr ?_
  rw [requestPasswordReset]
  split
  · trivial
  have hquiet : Quiet fun j => some (ResetLock.requesting t) = some j ∨ held j :=
    quiet_of_requesting (.inl rfl)
  refine wp_bind.mpr (wp_revoke (I := fun _ => True) rfl hquiet hs trivial
    (fun _ _ _ _ => trivial) (fun _ _ _ => trivial) (fun _ _ => trivial)
    fun s₁ hs₁ _ hnone => ?_)
  intro s₂ hs₂
  have hnone₂ := noneUsable_of_quiet hquiet hs₂ hnone
  exact ⟨changes_setOtp hs₂.2 hnone₂ _ _, fun s₃ hs₃ => changes_id hs₃.2⟩

/-! ### Exchanging a code -/

/-- The code is the last one issued, and nothing has come of it. -/
structure Unspent (code : ℕ) (s : ResetStore) : Prop where
  issued : code = s.issued
  unused : code ∉ s.usedCodes

theorem Unspent.rely (h : Unspent code s) (hheld : held (.verifying t))
    (hrely : (oneCode T).Rely held s s') : Unspent code s' := by
  obtain ⟨⟨-, -, hloose⟩, -⟩ := hrely
  have hissued : s.issued = s'.issued := by
    by_contra hne
    exact hloose (.verifying t) (.inr (.inl hne)) hheld
  have hchanges : s.changes = s'.changes := by
    by_contra hne
    exact hloose (.verifying t) (.inr (.inr hne)) hheld
  refine ⟨h.issued.trans hissued, ?_⟩
  rw [ResetStore.usedCodes, ← hchanges]
  exact h.unused

/-- A code waits to be exchanged only after it was issued. -/
theorem otp_none_of_issued (hrely : (oneCode T).Rely held s s') (hissued : s.issued = s'.issued)
    (h : s.otp = none) : s'.otp = none := by
  refine Option.eq_none_iff_forall_ne_some.mpr fun o ho => ?_
  rcases hrely.1.1.otp o ho with hsame | hlt
  · exact absurd (h.symm.trans hsame) (by simp)
  · exact absurd hissued hlt.ne

/-- The code has been consumed, and nothing has come of it yet. -/
structure Consumed (code : ℕ) (s : ResetStore) : Prop extends Unspent code s where
  otp : s.otp = none

theorem Consumed.rely (h : Consumed code s) (hheld : held (.verifying t))
    (hrely : (oneCode T).Rely held s s') : Consumed code s' := by
  have hunspent := h.toUnspent.rely hheld hrely
  exact ⟨hunspent, otp_none_of_issued hrely (h.issued.symm.trans hunspent.issued) h.otp⟩

theorem noneUsable_setSession (h : s.NoneUsable) (hash : String) (iat : ℤ) (code : ℕ) :
    (s.setSession hash iat code).NoneUsable := by
  rintro other e ⟨he, hout, hlive⟩
  simp only [ResetStore.setSession, Function.update_apply] at he
  split at he
  · obtain rfl := Option.some.inj he
    exact absurd hout (by simp)
  · exact h other e ⟨he, hout, hlive⟩

theorem wp_openResetSession (env : ResetEnv) {o : ResetOtp} (token : String)
    {Q : Unit → ResetStore → (ResetLock T → Prop) → Prop} (hs : OneCode s) (ho : Consumed o.code s)
    (hheld : held (.verifying t)) (h : ∀ s' held', OneCode s' → Q () s' held') :
    wp (oneCode T) loose Q (openResetSession env t o token) s held := by
  have hquiet := quiet_of_verifying hheld
  have hmarked : held = fun j => none = some j ∨ held j := by simp
  refine wp_bind.mpr (wp_revoke (I := Consumed o.code) hmarked hquiet hs ho
    (fun s s' hrely h => h.rely hheld hrely) (fun s hash h => ⟨⟨h.issued, h.unused⟩, h.otp⟩)
    (fun s h => ⟨⟨h.issued, h.unused⟩, h.otp⟩) fun s₁ hs₁ ho₁ hnone₁ => ?_)
  intro s₂ hs₂
  have ho₂ := ho₁.rely hheld hs₂
  have hnone₂ := noneUsable_of_quiet hquiet hs₂ hnone₁
  have hiat : s₁.clock / second * second ≤ s₂.clock :=
    (Int.ediv_mul_le _ (by decide)).trans hs₂.1.1.clock
  refine ⟨changes_setSession hs₂.2 ho₂.otp ho₂.issued.le hiat, ?_⟩
  have hheld' : (fun j => ((none : Option (ResetLock T)) = some j ∨ held j) ∧
      (none : Option (ResetLock T)) ≠ some j) = held := by simp
  rw [hheld']
  intro s₃ hs₃
  have ho₃ : Unspent o.code s₃ :=
    (⟨ho₂.issued, ho₂.unused⟩ : Unspent o.code (s₂.setSession _ _ _)).rely hheld hs₃
  have hnone₃ := noneUsable_of_quiet hquiet hs₃ (noneUsable_setSession hnone₂ _ _ _)
  refine ⟨changes_setPointer hs₃.2 hnone₃ fun e he => ?_, fun s₄ hs₄ => h s₄ _ hs₄.2⟩
  -- the session is the one that was just written
  have hown := sessions_of_quiet hquiet hs₃ he
  simp only [ResetStore.setSession, Function.update_self] at hown
  obtain rfl := Option.some.inj hown
  exact ⟨ho₃.issued, ho₃.unused, Int.add_le_add_right hs₃.1.1.clock _⟩

theorem readOtp_eq_some {o : ResetOtp} (h : s.readOtp hash = some o) : s.otp = some o :=
  (Option.filter_eq_some_iff.mp h).1

/-- As long as a code waits to be exchanged, no token can be used. -/
theorem OneCode.noneUsable_of_otp (h : OneCode s) {o : ResetOtp} (ho : s.otp = some o) :
    s.NoneUsable := by
  intro hash e he
  obtain ⟨hcode, -, hother⟩ := h.otp_latest o ho
  exact hother hash e he.1 ((h.usable_latest hash e he).2.1.trans hcode.symm)

theorem wp_verify (env : ResetEnv) (clientType : Auth.ClientType) (otp token : String)
    (hs : OneCode s) :
    wp (oneCode T) loose (fun write s held => Changes (oneCode T) loose write s held)
      ((ResetCall.verify clientType otp token).prog env t) s held := by
  refine wp_bind.mpr ?_
  rw [verifyPasswordResetOtp]
  split
  · trivial
  refine wp_bind.mpr (wp_get hs fun s₁ hs₁ => ?_)
  cases hread : s.readOtp (env.hashToken otp) with
  | none => trivial
  | some o =>
      simp only [hread, Option.map_some] at hs₁ ⊢
      have hheld : some (ResetLock.verifying t) = some (.verifying t) ∨ held (.verifying t) :=
        .inl rfl
      obtain ⟨hcode, hunused, -⟩ := hs.otp_latest o (readOtp_eq_some hread)
      have hunspent : Unspent o.code s₁ :=
        (⟨hcode, hunused⟩ : Unspent o.code s).rely hheld hs₁
      refine wp_bind.mpr (wp_run (changes_deleteOtp hs₁.2) fun s₂ hs₂ => ?_)
      have hconsumed : Consumed o.code s₂ :=
        (⟨⟨hunspent.issued, hunspent.unused⟩, rfl⟩ : Consumed o.code s₁.deleteOtp).rely hheld hs₂
      exact wp_openResetSession env token hs₂.2 hconsumed hheld fun s₃ held₃ hs₃ =>
        changes_id hs₃

/-! ### Using a token -/

/-- The session `e` of a token has been read, and was the only one that could be used. -/
structure Confirming (hash : String) (e : ResetSession) (s : ResetStore) : Prop where
  issued : e.code = s.issued
  otp : s.otp = none
  only : ∀ other e', s.Usable other e' → other = hash
  iat : e.iat * second ≤ s.clock
  /-- If something has come of its code, the update does not find the row. -/
  changed : e.code ∈ s.usedCodes → s.unchangedSince e = false

theorem Confirming.rely (h : Confirming hash e s) (hheld : held (.confirming t e))
    (hrely : (oneCode T).Rely held s s') : Confirming hash e s' := by
  have hloose := hrely.1.2.2
  have hissued : s.issued = s'.issued := by
    by_contra hne
    exact hloose (.confirming t e) (.inr (.inl hne)) hheld
  refine ⟨h.issued.trans hissued, otp_none_of_issued hrely hissued h.otp, fun other e' he' => ?_,
    h.iat.trans hrely.1.1.clock, fun hused => ?_⟩
  · exact h.only other e' (usable_of_quiet (quiet_of_confirming hheld) hrely he')
  · by_contra hsince
    rw [Bool.not_eq_false] at hsince
    by_cases hbefore : e.code ∈ s.usedCodes
    · exact absurd (hrely.1.1.changedAt e hsince) (by simp [h.changed hbefore])
    · exact hloose (.confirming t e) (.inr (.inr ⟨hused, hbefore, hsince⟩)) hheld

/-- The row is locked, and the update has found it. -/
structure Confirmed (hash : String) (e : ResetSession) (s : ResetStore) : Prop
    extends Confirming hash e s where
  unused : e.code ∉ s.usedCodes
  since : s.unchangedSince e = true

theorem Confirmed.rely (h : Confirmed hash e s) (hheld : held (.confirming t e))
    (huser : held .user) (hrely : (oneCode T).Rely held s s') : Confirmed hash e s' := by
  obtain ⟨hchanges, hchangedAt⟩ := hrely.1.2.1 (not_not_intro huser)
  refine ⟨h.toConfirming.rely hheld hrely, ?_, ?_⟩
  · rw [ResetStore.usedCodes, hchanges]
    exact h.unused
  · rw [ResetStore.unchangedSince, hchangedAt]
    exact h.since

theorem Confirmed.deleteSession (h : Confirmed hash e s) :
    Confirmed hash e (s.deleteSession hash) ∧ (s.deleteSession hash).NoneUsable := by
  refine ⟨⟨⟨h.issued, h.otp, fun other e' he' => ?_, h.iat, h.changed⟩, h.unused, h.since⟩,
    fun other e' he' => ?_⟩
  · exact h.only other e' (usable_deleteSession he').1
  · obtain ⟨husable, hne⟩ := usable_deleteSession he'
    exact hne (h.only other e' husable)

theorem confirming_of_readSession (hs : OneCode s) (h : s.readSession hash = some e) :
    Confirming hash e s := by
  obtain ⟨hfound, hlive⟩ := Option.filter_eq_some_iff.mp h
  simp only [Bool.and_eq_true, decide_eq_true_eq] at hlive
  have husable : s.Usable hash e := ⟨hfound, hlive.2, hlive.1⟩
  obtain ⟨-, hissued, hunused⟩ := hs.usable_latest hash e husable
  refine ⟨hissued, ?_, fun other e' he' => ?_, (hs.session_le hash e hfound).2, fun hused =>
    absurd hused hunused⟩
  · refine Option.eq_none_iff_forall_ne_some.mpr fun o ho => ?_
    exact hs.noneUsable_of_otp ho hash e husable
  · exact Option.some.inj ((hs.readPointer he').symm.trans (hs.readPointer husable))

theorem wp_confirm (env : ResetEnv) (clientType : Auth.ClientType) (token newHash : String)
    (hs : OneCode s) :
    wp (oneCode T) loose (fun write s held => Changes (oneCode T) loose write s held)
      ((ResetCall.confirm clientType token newHash).prog env t) s held := by
  refine wp_get hs fun s₁ hs₁ => ?_
  cases hread : s.readSession (env.hashToken (env.strip token)) with
  | none => trivial
  | some e =>
      simp only [hread, Option.map_some] at hs₁ ⊢
      split
      · trivial
      have h₁ : Confirming (env.hashToken (env.strip token)) e s₁ :=
        (confirming_of_readSession hs hread).rely (.inl rfl) hs₁
      intro s₂ hs₂ s₃ hs₃
      have h₂ : Confirming (env.hashToken (env.strip token)) e s₂ := h₁.rely (.inl rfl) hs₂
      dsimp only
      split
      · rename_i hsince
        have hconfirmed : Confirmed (env.hashToken (env.strip token)) e s₂ :=
          ⟨h₂, fun hused => by simp [h₂.changed hused] at hsince, hsince⟩
        obtain ⟨hdeleted, hnone⟩ :=
          (hconfirmed.rely (t := t) (.inr (.inl rfl)) (.inl rfl) hs₃).deleteSession
        refine wp_bind.mpr (wp_run (changes_deleteSession hs₃.2 _) fun s₄ hs₄ => ?_)
        have h₄ := hdeleted.rely (t := t) (.inr (.inl rfl)) (.inl rfl) hs₄
        have hquiet : Quiet fun j => j = .user ∨ (some (.confirming t e) = some j ∨ held j) :=
          quiet_of_confirming (t := t) (e := e) (.inr (.inl rfl))
        have hnone₄ := noneUsable_of_quiet hquiet hs₄ hnone
        refine wp_bind.mpr (wp_run (changes_deletePointer hs₄.2 hnone₄) fun s₅ hs₅ => ?_)
        have h₅ : Confirmed (env.hashToken (env.strip token)) e s₅ :=
          (⟨⟨h₄.issued, h₄.otp, h₄.only, h₄.iat, h₄.changed⟩, h₄.unused, h₄.since⟩ :
            Confirmed _ e s₄.deletePointer).rely (t := t) (.inr (.inl rfl)) (.inl rfl) hs₅
        exact changes_changePassword hs₅.2 (.inl rfl) (noneUsable_of_quiet hquiet hs₅ hnone₄)
          h₅.otp h₅.issued h₅.unused h₁.iat h₅.since newHash
      · trivial

end

/-! ### All requests together -/

/-- Every request keeps the codes to one change each, but for what it touches loosely. -/
theorem ResetCall.keeps {T : Type} (env : ResetEnv) (call : ResetCall) (t : T) (s : ResetStore)
    (held : ResetLock T → Prop) : Keeps (oneCode T) loose (call.prog env t) s held := by
  intro s' hs'
  cases call with
  | request clientType otp => exact wp_request env clientType otp hs'.2
  | verify clientType otp token => exact wp_verify env clientType otp token hs'.2
  | confirm clientType token newHash => exact wp_confirm env clientType token newHash hs'.2
  | tick elapsed => exact changes_tick hs'.2 elapsed

section

variable {T : Type} [DecidableEq T]

/-- The requests before any of them has started. -/
def resetStart (env : ResetEnv) (s : ResetStore) (call : T → ResetCall) :
    State ResetStore (ResetLock T) T (Commands.Rest ResetStore (ResetLock T) ServiceError) :=
  .start s fun t => some ((call t).prog env t)

/-- Where the requests are after a schedule. -/
def resetAfter (env : ResetEnv) (s : ResetStore) (call : T → ResetCall) (events : List (Event T)) :
    State ResetStore (ResetLock T) T (Commands.Rest ResetStore (ResetLock T) ServiceError) :=
  Runs.run Commands.step (resetStart env s call) events

theorem oneCode_noReset (clock : Instant) (passwordHash : String)
    (passwordChangedAt : Option Instant) :
    OneCode (noReset clock passwordHash passwordChangedAt) where
  session_le _ _ he := nomatch he
  otp_latest _ ho := nomatch ho
  usable_latest _ _ he := nomatch he.1
  change_latest _ hc := nomatch hc
  nodup := List.nodup_nil

/-- **One code, one password change**: in every state that an undisturbed schedule of any number
of requests reaches, no two changes go back to one code, each change goes back to the last code
that had been issued when it was made, and the code and the tokens that can still be used are the
last code issued and tokens obtained from it. -/
theorem one_code_one_change (env : ResetEnv) (clock : Instant) (passwordHash : String)
    (passwordChangedAt : Option Instant) (call : T → ResetCall) {events : List (Event T)}
    (hevents : Runs.Along Commands.step (Undisturbed loose)
      (resetStart env (noReset clock passwordHash passwordChangedAt) call) events) :
    let s := (resetAfter env (noReset clock passwordHash passwordChangedAt) call events).store
    s.usedCodes.Nodup ∧ (∀ c ∈ s.changes, c.code = c.issued) ∧
      (∀ o ∈ s.otp, o.code = s.issued) ∧
      ∀ hash, ∀ e ∈ s.readSession hash, e.code = s.issued := by
  have hstart := oneCode_noReset clock passwordHash passwordChangedAt
  have h := run_of_undisturbed (D := oneCode T) hstart
    (fun t => (call t).keeps env t _ fun _ => False) hevents
  refine ⟨h.nodup, fun c hc => (h.change_latest c hc).1, fun o ho => (h.otp_latest o ho).1,
    fun hash e he => ?_⟩
  exact (confirming_of_readSession h he).issued

end

/-! ### A code is exchanged twice -/

/-- An administrator, with digests and texts that are easy to read. -/
def resetEnv : ResetEnv := ⟨fun raw => "#" ++ raw, id, .admin⟩

/-- The password is not known any more. -/
def forgotten : ResetStore := noReset 0 "old" none

/-- Request 0 asks for a code, requests 1 and 2 exchange it, requests 3 and 4 use the two tokens,
and request 5 lets a second pass. -/
def resetTwice : ℕ → ResetCall
  | 0 => .request .admin "123456"
  | 1 => .verify .admin "123456" "a"
  | 2 => .verify .admin "123456" "b"
  | 3 => .confirm .admin "a" "first"
  | 4 => .confirm .admin "b" "second"
  | _ => .tick 1000000

/-- One request after the other. -/
def oneByOne : List (Event ℕ) :=
  List.replicate 4 (.step 0) ++ .crash 0 :: (List.replicate 7 (.step 1) ++
    .crash 1 :: List.replicate 6 (.step 3))

theorem undisturbed_oneByOne :
    Runs.Along Commands.step (Undisturbed loose) (resetStart resetEnv forgotten resetTwice)
      oneByOne := by
  have hcrash : ∀ (σ : State ResetStore (ResetLock ℕ) ℕ (Commands.Rest ResetStore (ResetLock ℕ)
      ServiceError)) (t : ℕ), Undisturbed loose σ (.crash t) :=
    fun σ t k u hloose _ => absurd hloose not_loose_self
  have hstart : Alone (resetStart resetEnv forgotten resetTwice) 0 :=
    fun k u howner => nomatch howner
  obtain ⟨hfirst, halone⟩ := hstart.along loose 4
  obtain ⟨hsecond, halone'⟩ := (halone.crash 1).along loose 7
  exact Runs.along_append.mpr ⟨hfirst, hcrash _ 0, Runs.along_append.mpr
    ⟨hsecond, hcrash _ 1, ((halone'.crash 3).along _ 6).1⟩⟩

/-- One by one they change the password once. -/
theorem code_changes_password_once :
    (resetAfter resetEnv forgotten resetTwice oneByOne).store.usedCodes = [1] ∧
      (resetAfter resetEnv forgotten resetTwice oneByOne).store.usedCodes.Nodup :=
  ⟨by decide +kernel,
    (one_code_one_change resetEnv 0 "old" none resetTwice undisturbed_oneByOne).1⟩

/-- Both exchanges read the code before either deletes it. -/
def bothExchange : List (Event ℕ) :=
  List.replicate 4 (.step 0) ++ [.step 1, .step 2] ++ List.replicate 6 (.step 1) ++
    List.replicate 6 (.step 3) ++ [.step 5] ++ List.replicate 6 (.step 2) ++
    List.replicate 6 (.step 4)

/-- One code was issued, and it has changed the password twice. -/
theorem code_changes_password_twice :
    (resetAfter resetEnv forgotten resetTwice bothExchange).store.issued = 1 ∧
      (resetAfter resetEnv forgotten resetTwice bothExchange).store.usedCodes = [1, 1] ∧
      ¬ (resetAfter resetEnv forgotten resetTwice bothExchange).store.usedCodes.Nodup := by
  have hused : (resetAfter resetEnv forgotten resetTwice bothExchange).store.usedCodes = [1, 1] :=
    by decide +kernel
  exact ⟨by decide +kernel, hused, by simp [hused]⟩

end SwCouriers.PasswordReset
