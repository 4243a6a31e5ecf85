import SwCouriers.Lib.Provenance
import SwCouriers.StepUp

/-!
# Runs of the One-time Codes

What is true of the codes and the tokens in every run of a system that has such a store, and does
nothing to it but the events of the two services.

## Main results

* `sound_run`: the codes and the tokens are sound after every run.
* `exists_sent`, `exists_verified`, `exists_sent_verified`: where a code and a token come from.
* `not_success_of_verified`: a code that is exchanged was unused until then.
* `wrong_codes_le`: how often a wrong code is compared with one that can be used.
-/

namespace SwCouriers.StepUp

open AttemptLimits

variable {K σ α : Type} [DecidableEq K] {policy : Policy} {secrets : Secrets} {step : σ → α → σ}
  {view : σ → Store K} {event : σ → α → Event K}

/-- A system does to its store what the events say. -/
def Drives (policy : Policy) (secrets : Secrets) (step : σ → α → σ) (view : σ → Store K)
    (event : σ → α → Event K) : Prop :=
  ∀ s a, Next policy secrets (view s) (event s a) (view (step s a))

/-- A wrong code of the holder is compared with the codes that can be used. -/
def Wrong (event : σ → α → Event K) (holder : K) (s : σ) (a : α) : Prop :=
  (event s a).outcome holder = .failure

instance (event : σ → α → Event K) (holder : K) (s : σ) (a : α) :
    Decidable (Wrong event holder s a) :=
  inferInstanceAs (Decidable (_ = _))

variable {s : σ} {as : List α} {token : AccessToken K}

theorem sound_run (h : Drives policy secrets step view event) (hs : Sound policy secrets (view s))
    (as : List α) : Sound policy secrets (view (Runs.run step s as)) :=
  Runs.run_invariant (I := fun s => Sound policy secrets (view s))
    (fun s a hs => hs.next (h s a)) hs as

/-- **Where a code comes from.** It was sent by a request of the run. -/
theorem exists_sent (h : Drives policy secrets step view event) (hs : (view s).otps.rows = [])
    {r : Otp K} (hr : r ∈ (view (Runs.run step s as)).otps.rows) :
    ∃ pre a post, as = pre ++ a :: post ∧ event (Runs.run step s pre) a = .sent r.issued := by
  have hstart : ∀ s a, (¬ ∃ r' ∈ (view s).otps.rows, r'.issued = r.issued) →
      (∃ r' ∈ (view (step s a)).otps.rows, r'.issued = r.issued) → event s a = .sent r.issued := by
    rintro s a hnot ⟨r', hr', hissued⟩
    rcases (h s a).mem_otps hr' with ⟨r₀, hr₀, heq⟩ | hsent
    · exact absurd ⟨r₀, hr₀, heq.trans hissued⟩ hnot
    · rw [hsent, hissued]
  obtain ⟨pre, a, post, heq, hsent, -⟩ :=
    Runs.exists_last_start hstart (by simp [hs]) ⟨r, hr, rfl⟩
  exact ⟨pre, a, post, heq, hsent⟩

/-- **Where a token comes from.** It was issued by a verification of the run, and if it is not
revoked it was not revoked since. -/
theorem exists_verified (h : Drives policy secrets step view event) (hs : (view s).tokens.rows = [])
    (htoken : token ∈ (view (Runs.run step s as)).tokens.rows) (hlive : token.revokedAt = none) :
    ∃ pre a post otp, as = pre ++ a :: post ∧
      event (Runs.run step s pre) a = .verified otp token ∧
      ∀ mid, mid <+: post → token ∈ (view (Runs.run step s (pre ++ a :: mid))).tokens.rows := by
  have hstart : ∀ s a, token ∉ (view s).tokens.rows → token ∈ (view (step s a)).tokens.rows →
      ∃ otp, event s a = .verified otp token := by
    intro s a hnot hthere
    rcases (h s a).mem_tokens hthere with ⟨r, hr, -, hsame⟩ | hverified
    · exact absurd (hsame hlive ▸ hr) hnot
    · exact hverified
  obtain ⟨pre, a, post, heq, ⟨otp, hverified⟩, hsince⟩ :=
    Runs.exists_last_start hstart (by simp [hs]) htoken
  exact ⟨pre, a, post, otp, heq, hverified, hsince⟩

/-- **Where a token that is not revoked comes from.** A code was sent, and exchanged for the token
before it had expired. -/
theorem exists_sent_verified (h : Drives policy secrets step view event)
    (hs : Sound policy secrets (view s)) (hotps : (view s).otps.rows = [])
    (htokens : (view s).tokens.rows = []) (htoken : token ∈ (view (Runs.run step s as)).tokens.rows)
    (hlive : token.revokedAt = none) :
    ∃ pre a mid b post otp, as = pre ++ a :: mid ++ b :: post ∧
      event (Runs.run step s pre) a = .sent otp.issued ∧
      event (Runs.run step s (pre ++ a :: mid)) b = .verified otp token ∧
      token.holder = otp.holder ∧
      (view (Runs.run step s (pre ++ a :: mid ++ [b]))).now
        < (view (Runs.run step s (pre ++ [a]))).now + policy.otpTtl ∧
      token.expiresAt
        = (view (Runs.run step s (pre ++ a :: mid ++ [b]))).now + policy.tokenTtl ∧
      ∀ part, part <+: post →
        token ∈ (view (Runs.run step s (pre ++ a :: mid ++ b :: part))).tokens.rows := by
  obtain ⟨before, b, post, otp, rfl, hverified, hsince⟩ := exists_verified h htokens htoken hlive
  have hnext := h (Runs.run step s before) b
  rw [hverified] at hnext
  obtain ⟨hmem, -, hlives, hholder, hexpires⟩ := hnext.of_verified
  obtain ⟨pre, a, mid, rfl, hsent⟩ := exists_sent h hotps hmem
  have hone : Runs.run step s (pre ++ a :: mid ++ [b])
      = step (Runs.run step s (pre ++ a :: mid)) b := Runs.run_append_cons _ _ _ _
  refine ⟨pre, a, mid, b, post, otp, rfl, hsent, hverified, hholder, ?_, ?_, hsince⟩
  · have hfirst := h (Runs.run step s pre) a
    rw [hsent] at hfirst
    obtain ⟨-, -, hcreated⟩ := hfirst.mem_of_sent
    have hend := ((sound_run h hs (pre ++ a :: mid)).times otp hmem).2
    rw [hone, Runs.run_append_cons s pre a [], Runs.run_nil, ← hcreated]
    exact hlives.trans_eq hend
  · rw [hone, hexpires]

/-- The clock of a run goes on. -/
theorem now_le_run (h : Drives policy secrets step view event) (s : σ) (as : List α) :
    (view s).now ≤ (view (Runs.run step s as)).now := by
  induction as generalizing s with
  | nil => exact le_rfl
  | cons a as ih => exact (h s a).now_le.trans (ih (step s a))

/-- A token that is there all the time, and has not expired at the end, is one that nobody has
revoked. -/
theorem not_revoked_of_since (h : Drives policy secrets step view event)
    (hlive : token.revokedAt = none)
    (hsince : ∀ part, part <+: as → token ∈ (view (Runs.run step s part)).tokens.rows)
    (hend : (view (Runs.run step s as)).now < token.expiresAt) :
    Runs.Along step (fun s a => ∀ p, event s a = .revoked p → p token.holder = false) s as := by
  refine Runs.along_iff.mpr fun pre a post heq p hrevoked =>
    Bool.eq_false_of_not_eq_true fun hp => ?_
  have hthere := hsince (pre ++ [a]) (by simp [heq])
  have hnext := h (Runs.run step s pre) a
  rw [hrevoked] at hnext
  rw [Runs.run_append_cons, Runs.run_nil] at hthere
  have hexpired := hnext.expired_of_revoked hthere hlive hp
  have hlater := now_le_run h (step (Runs.run step s pre) a) post
  rw [heq, Runs.run_append_cons] at hend
  exact absurd (hexpired.trans hlater) (not_le.mpr hend)

/-- A token stays as it is while nobody revokes it. -/
theorem token_run (h : Drives policy secrets step view event)
    (htoken : token ∈ (view s).tokens.rows)
    (hspared : Runs.Along step (fun s a => ∀ p, event s a = .revoked p → p token.holder = false)
      s as) : token ∈ (view (Runs.run step s as)).tokens.rows :=
  Runs.run_invariant_of_along (I := fun s => token ∈ (view s).tokens.rows)
    (fun s a htoken hspared => (h s a).token_kept htoken hspared) htoken hspared

/-- A code that was used stays so. -/
theorem used_run (h : Drives policy secrets step view event) {i : Id}
    (hs : ∃ r ∈ (view s).otps.rows, r.id = i ∧ r.isUsed = true) (as : List α) :
    ∃ r ∈ (view (Runs.run step s as)).otps.rows, r.id = i ∧ r.isUsed = true := by
  refine Runs.run_invariant (I := fun s => ∃ r ∈ (view s).otps.rows, r.id = i ∧ r.isUsed = true)
    ?_ hs as
  rintro s a ⟨r, hr, rfl, hused⟩
  obtain ⟨r', hr', hissued, hkept⟩ := (h s a).otp_kept hr
  exact ⟨r', hr', Otp.id_eq hissued, hkept hused⟩

/-- A code stays. -/
theorem otp_run (h : Drives policy secrets step view event) {r : Otp K}
    (hr : r ∈ (view s).otps.rows) (as : List α) :
    ∃ r' ∈ (view (Runs.run step s as)).otps.rows, r'.issued = r.issued := by
  refine Runs.run_invariant (I := fun s => ∃ r' ∈ (view s).otps.rows, r'.issued = r.issued)
    ?_ ⟨r, hr, rfl⟩ as
  rintro s a ⟨r₀, hr₀, hissued⟩
  obtain ⟨r', hr', heq, -⟩ := (h s a).otp_kept hr₀
  exact ⟨r', hr', heq.trans hissued⟩

/-! ### Guessing -/

/-- While a code can be used, its holder gets no token: the code would be used for it. -/
theorem not_success_of_valid (h : Drives policy secrets step view event)
    (hs : Sound policy secrets (view s)) {r : Otp K} (hr : r ∈ (view s).otps.rows) (as : List α)
    (hend : ∀ r' ∈ (view (Runs.run step s as)).otps.rows, r'.id = r.id →
      r'.isValid (view (Runs.run step s as)).now = true) :
    Runs.Along step (fun s a => (event s a).outcome r.holder ≠ .success) s as := by
  -- Used at any time, the code would be used at the end.
  have hnever : ∀ pre post, as = pre ++ post →
      ¬ ∃ r' ∈ (view (Runs.run step s pre)).otps.rows, r'.id = r.id ∧ r'.isUsed = true := by
    rintro pre post rfl hused
    obtain ⟨r', hr', hid, hused'⟩ := used_run h hused post
    rw [← Runs.run_append] at hr'
    have hunused := (Otp.isValid_eq_true_iff.mp (hend r' hr' hid)).1
    exact absurd hused' (by simp [hunused])
  refine Runs.along_iff.mpr fun pre a post heq hsuccess => ?_
  have hnext := h (Runs.run step s pre) a
  cases hev : event (Runs.run step s pre) a with
  | verified otp token =>
      rw [hev] at hnext hsuccess
      have hholder : otp.holder = r.holder := by
        by_contra hne
        simp [Event.outcome, hne] at hsuccess
      have hused := hnext.used_of_verified
      have hsound := sound_run h hs pre
      have hlater := now_le_run h (step (Runs.run step s pre) a) post
      obtain ⟨elapsed, ⟨hmem, hvalid, -⟩, hstep⟩ := hnext
      have hnow : (view (step (Runs.run step s pre) a)).now
          = ((view (Runs.run step s pre)).tick elapsed).now := by
        rw [hstep]
        rfl
      -- The code of the holder can be used now, as at the end, so it is the one exchanged.
      obtain ⟨r', hr', hissued⟩ := otp_run h hr pre
      have hunused : r'.isUsed = false := by
        refine Bool.eq_false_of_not_eq_true fun hused => ?_
        exact hnever pre (a :: post) heq ⟨r', hr', Otp.id_eq hissued, hused⟩
      have hlives : ((view (Runs.run step s pre)).tick elapsed).now < r'.expiresAt := by
        obtain ⟨r'', hr'', hissued'⟩ := otp_run h hr as
        have hexp := (Otp.isValid_eq_true_iff.mp (hend r'' hr'' (Otp.id_eq hissued'))).2
        rw [Otp.expiresAt_eq hissued, ← Otp.expiresAt_eq hissued', ← hnow]
        refine lt_of_le_of_lt hlater ?_
        rw [heq, Runs.run_append_cons] at hexp
        exact hexp
      have hsame : otp = r' := (hsound.tick elapsed).single otp hmem r' hr'
        (hholder.trans (Otp.holder_eq hissued).symm) hvalid
        (Otp.isValid_eq_true_iff.mpr ⟨hunused, hlives⟩)
      refine hnever (pre ++ [a]) post (by rw [heq]; simp) ?_
      rw [Runs.run_append, Runs.run_cons, Runs.run_nil, ← Otp.id_eq hissued, ← hsame]
      exact hused
  | quiet => simp [hev, Event.outcome] at hsuccess
  | sent otp => simp [hev, Event.outcome] at hsuccess
  | failed holder => simp [hev, Event.outcome, ite_eq_iff] at hsuccess
  | revoked p => simp [hev, Event.outcome] at hsuccess

/-- **Single use.** Between the time a code is sent and the time it is exchanged its holder
exchanges no code. -/
theorem not_success_of_verified (h : Drives policy secrets step view event)
    (hs : Sound policy secrets (view s)) {pre mid : List α} {a b : α} {otp : Otp K}
    (hsent : event (Runs.run step s pre) a = .sent otp.issued)
    (hverified : event (Runs.run step s (pre ++ a :: mid)) b = .verified otp token) :
    Runs.Along step (fun s a => (event s a).outcome otp.holder ≠ .success)
      (Runs.run step s (pre ++ [a])) mid := by
  have hnext := h (Runs.run step s pre) a
  rw [hsent] at hnext
  obtain ⟨hmem, -⟩ := hnext.mem_of_sent
  have hone : Runs.run step s (pre ++ [a]) = step (Runs.run step s pre) a :=
    Runs.run_append_cons s pre a []
  have hsound := sound_run h hs (pre ++ [a])
  rw [hone] at hsound ⊢
  refine not_success_of_valid h hsound hmem mid fun r hr hid => ?_
  rw [← Runs.run_append_cons] at hr ⊢
  have hexchange := h (Runs.run step s (pre ++ a :: mid)) b
  rw [hverified] at hexchange
  obtain ⟨elapsed, ⟨hthere, hvalid, -⟩, -⟩ := hexchange
  obtain rfl : r = otp := Table.eq_of_key hr hthere hid
  exact Otp.isValid_of_le (by simp [Store.tick]) hvalid

/-- **How often a code can be guessed at.** From when a code is sent until a time at which it can
still be used, at most `2 * max - 2` wrong codes of its holder are looked up, if a code does not
outlive a counter of failures, nor a counter a lock. -/
theorem wrong_codes_le (h : Drives policy secrets step view event) (hmax : 2 ≤ policy.limits.max)
    (hwindow : 0 < policy.limits.window) (hlockout : policy.limits.window ≤ policy.limits.lockout)
    (httl : policy.otpTtl ≤ policy.limits.window) (hs : Sound policy secrets (view s))
    (hfresh : ∀ holder, (view s).guards holder = .fresh) {pre mid : List α} {a : α} {otp : Otp K}
    (hsent : event (Runs.run step s pre) a = .sent otp)
    (hend : ∀ r ∈ (view (Runs.run step s (pre ++ a :: mid))).otps.rows, r.id = otp.id →
      r.isValid (view (Runs.run step s (pre ++ a :: mid))).now = true) :
    Runs.count step (Wrong event otp.holder) (step (Runs.run step s pre) a) mid + 2
      ≤ 2 * policy.limits.max := by
  have hnext := h (Runs.run step s pre) a
  rw [hsent] at hnext
  obtain ⟨hmem, hexpires, -⟩ := hnext.mem_of_sent
  have hone : Runs.run step s (pre ++ [a]) = step (Runs.run step s pre) a :=
    Runs.run_append_cons s pre a []
  have hsound := sound_run h hs (pre ++ [a])
  rw [hone] at hsound
  rw [Runs.run_append_cons] at hend
  have hquiet := not_success_of_valid h hsound hmem mid hend
  have hshort : (view (Runs.run step (step (Runs.run step s pre) a) mid)).now
      < (view (step (Runs.run step s pre) a)).now + policy.limits.window := by
    obtain ⟨r, hr, hissued⟩ := otp_run h hmem mid
    have hlives := (Otp.isValid_eq_true_iff.mp (hend r hr (Otp.id_eq hissued))).2
    rw [Otp.expiresAt_eq hissued, hexpires] at hlives
    exact lt_of_lt_of_le hlives (add_le_add_right httl _)
  have hbound := Guard.failures_le hmax hwindow hlockout
    (fun s a => (h s a).guard otp.holder) (hfresh otp.holder) (pre ++ [a]) mid
    (by rwa [hone]) (by rwa [Runs.run_append, hone])
  rwa [Guard.failureTimes, Runs.length_collect, hone] at hbound

end SwCouriers.StepUp
