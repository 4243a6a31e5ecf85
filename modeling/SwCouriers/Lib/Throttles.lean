import SwCouriers.Lib.AttemptLimits

/-!
# Throttles

A throttle limits how often something is sent. It keeps a counter, which starts with the first
sending and has a time to live, and after each sending it is closed for a while, for longer with
each sending that the counter has counted. Nothing is sent while the throttle is closed, nor when
the counter is full.

A counter is started anew when it has expired. So a window of the length of its life may hold the
sendings of two counters, but not the first one of the older counter.

## Main results

* `Throttle.sends_within`: a window of the length of a counter's life has at most `2 * max - 1` of
  the sendings of a run.
* `Throttle.sends_apart`: there is time between any two sendings of a run.
-/

namespace AttemptLimits

open Guard

/-- A counter of sendings, and until when nothing is sent. -/
structure Throttle where
  counter : Option Counter
  closedUntil : Option ℤ
  deriving DecidableEq

/-- How long a counter lives, how much it counts, how long the throttle is closed after a sending
that made it count so much, and how much earlier than that it may open. -/
structure Throttling where
  window : ℤ
  max : ℕ
  cooldown : ℕ → ℤ
  slack : ℤ

namespace Throttle

/-- Nothing was sent yet. -/
def fresh : Throttle := ⟨none, none⟩

/-- The counter, if it has not expired. -/
def live (now : ℤ) (t : Throttle) : Option Counter := t.counter.filter fun c => now < c.expiresAt

/-- How much the counter has counted. -/
def count (now : ℤ) (t : Throttle) : ℕ := (t.live now).elim 0 Counter.count

/-- What the counter is after one more sending. -/
def bump (window now : ℤ) (t : Throttle) : Counter :=
  match t.live now with
  | some c => { c with count := c.count + 1 }
  | none => ⟨1, now + window⟩

/-- A sending. -/
def consume (limits : Throttling) (now : ℤ) (t : Throttle) : Throttle :=
  ⟨some (t.bump limits.window now), some (now + limits.cooldown (t.bump limits.window now).count)⟩

/-- The sendings so far, as the throttle has them at `now`. A window that is still open has begun
after `now - window`; the counter that lives has begun in it, or before it. -/
structure Respects (limits : Throttling) (now : ℤ) (t : Throttle) (times : List ℤ) : Prop where
  past : ∀ u ∈ times, u ≤ now
  idle : t.live now = none → ∀ a, now < a + limits.window → since a times + 1 ≤ limits.max
  counting : ∀ c, t.live now = some c → c.count ≤ limits.max ∧ c.expiresAt ≤ now + limits.window ∧
    ∀ a, now < a + limits.window → since a times + 1 ≤ limits.max + c.count ∧
      (c.expiresAt < a + limits.window → since a times + 1 ≤ c.count)
  windows : ∀ a, inWindow limits.window a times + 1 ≤ 2 * limits.max
  closed : ∀ u ∈ times, ∃ e, t.closedUntil = some e ∧ u + limits.cooldown 1 ≤ e
  apart : times.Pairwise fun later earlier => earlier + limits.cooldown 1 < later + limits.slack

variable {limits : Throttling} {now : ℤ} {t : Throttle} {times : List ℤ}

theorem live_eq_some_iff {c : Counter} :
    t.live now = some c ↔ t.counter = some c ∧ now < c.expiresAt := by
  rw [live, Option.filter_eq_some_iff, decide_eq_true_eq]

theorem live_eq_none_iff : t.live now = none ↔ ∀ c, t.counter = some c → c.expiresAt ≤ now := by
  rw [live, Option.filter_eq_none_iff]
  simp only [decide_eq_true_eq, not_lt]

theorem respects_fresh (now : ℤ) (hmax : 0 < limits.max) : Respects limits now fresh [] where
  past := fun _ hu => absurd hu List.not_mem_nil
  idle := fun _ _ _ => by
    simp only [since, List.countP_nil]
    omega
  counting := fun c hc => absurd (live_eq_some_iff.mp hc).1 (by simp [fresh])
  windows := fun a => by
    simp only [inWindow, List.countP_nil]
    omega
  closed := fun _ hu => absurd hu List.not_mem_nil
  apart := .nil

/-- Time passes. -/
theorem Respects.tick (h : Respects limits now t times) {now' : ℤ} (hnow : now ≤ now') :
    Respects limits now' t times where
  past := fun u hu => (h.past u hu).trans hnow
  idle := by
    intro hlive a ha
    cases hc : t.live now with
    | none => exact h.idle hc a (by omega)
    | some c =>
        -- The counter has expired: what it has counted lies in the window only in part.
        obtain ⟨hcount, -, hcounts⟩ := h.counting c hc
        have hexpired := live_eq_none_iff.mp hlive c (live_eq_some_iff.mp hc).1
        have hpart := (hcounts a (by omega)).2 (by omega)
        omega
  counting := by
    intro c hc
    obtain ⟨hcounter, hlive⟩ := live_eq_some_iff.mp hc
    obtain ⟨hcount, hexp, hcounts⟩ := h.counting c (live_eq_some_iff.mpr ⟨hcounter, by omega⟩)
    exact ⟨hcount, by omega, fun a ha => hcounts a (by omega)⟩
  windows := h.windows
  closed := h.closed
  apart := h.apart

/-- A sending is counted, if the throttle is open and its counter is not full. -/
theorem Respects.consume (h : Respects limits now t times) (hwindow : 0 < limits.window)
    (hcooldown : ∀ n, 0 < n → limits.cooldown 1 ≤ limits.cooldown n)
    (hcount : t.count now < limits.max)
    (hopen : ∀ e, t.closedUntil = some e → e < now + limits.slack) :
    Respects limits now (t.consume limits now) (now :: times) := by
  have hbump : ∀ a, now < a + limits.window → (t.bump limits.window now).count ≤ limits.max ∧
      since a times + 2 ≤ limits.max + (t.bump limits.window now).count ∧
      0 < (t.bump limits.window now).count := by
    intro a ha
    unfold bump
    unfold count at hcount
    cases hc : t.live now with
    | none =>
        have := h.idle hc a ha
        rw [hc] at hcount
        dsimp only [Option.elim] at hcount ⊢
        omega
    | some c =>
        have := ((h.counting c hc).2.2 a ha).1
        rw [hc] at hcount
        dsimp only [Option.elim] at hcount ⊢
        omega
  have hexp : (t.bump limits.window now).expiresAt ≤ now + limits.window ∧
      now < (t.bump limits.window now).expiresAt := by
    unfold bump
    cases hc : t.live now with
    | none => exact ⟨le_rfl, by dsimp only; omega⟩
    | some c => exact ⟨(h.counting c hc).2.1, (live_eq_some_iff.mp hc).2⟩
  have hpositive := (hbump now (by omega)).2.2
  refine ⟨fun u hu => ?_, fun hlive => ?_, fun c hc => ?_, fun a => ?_, fun u hu => ?_, ?_⟩
  · rcases List.mem_cons.mp hu with rfl | hu
    · exact le_rfl
    · exact h.past u hu
  · have := live_eq_none_iff.mp hlive _ rfl
    omega
  · obtain rfl := Option.some.inj (live_eq_some_iff.mp hc).1
    refine ⟨(hbump now (by omega)).1, hexp.1, fun a ha => ⟨?_, fun hstarted => ?_⟩⟩
    · rw [since_cons]
      have := (hbump a ha).2.1
      split_ifs <;> omega
    · rw [since_cons]
      unfold bump at hstarted ⊢
      cases hc : t.live now with
      | none =>
          -- The counter starts now, so a window that it has begun before is still to come.
          rw [hc] at hstarted
          dsimp only at hstarted ⊢
          rw [since_eq_zero fun u hu => by have := h.past u hu; omega, if_neg (by omega)]
      | some c =>
          rw [hc] at hstarted
          have := ((h.counting c hc).2.2 a ha).2 hstarted
          dsimp only at hstarted ⊢
          split_ifs <;> omega
  · rw [inWindow_cons]
    split_ifs with hin
    · have hle := inWindow_le_since limits.window a times
      have := hbump a hin.2
      omega
    · exact h.windows a
  · refine ⟨_, rfl, ?_⟩
    have hcool := hcooldown _ hpositive
    rcases List.mem_cons.mp hu with rfl | hu
    · omega
    · have := h.past u hu
      omega
  · refine List.pairwise_cons.mpr ⟨fun u hu => ?_, h.apart⟩
    obtain ⟨e, he, hle⟩ := h.closed u hu
    have := hopen e he
    omega

/-! ### Runs -/

/-- The clock goes on, and something is sent or not. -/
def Next (limits : Throttling) (s : ℤ × Throttle) (sent : Prop) (s' : ℤ × Throttle) : Prop :=
  s.1 ≤ s'.1 ∧ (¬ sent → s'.2 = s.2) ∧
    (sent → s.2.count s'.1 < limits.max ∧
      (∀ e, s.2.closedUntil = some e → e < s'.1 + limits.slack) ∧ s'.2 = s.2.consume limits s'.1)

section Runs

variable {σ α : Type*} {step : σ → α → σ} {view : σ → ℤ × Throttle} {sent : σ → α → Prop}
variable [∀ s a, Decidable (sent s a)]

/-- When something was sent in a run. -/
def sendTimes (step : σ → α → σ) (view : σ → ℤ × Throttle) (sent : σ → α → Prop)
    [∀ s a, Decidable (sent s a)] : σ → List α → List ℤ :=
  Runs.collect step fun s a => if sent s a then some (view (step s a)).1 else none

/-- The sendings of a run add up. -/
theorem Respects.run (hwindow : 0 < limits.window)
    (hcooldown : ∀ n, 0 < n → limits.cooldown 1 ≤ limits.cooldown n)
    (hnext : ∀ s a, Next limits (view s) (sent s a) (view (step s a))) {s : σ}
    (h : Respects limits (view s).1 (view s).2 times) (as : List α) :
    Respects limits (view (Runs.run step s as)).1 (view (Runs.run step s as)).2
      ((sendTimes step view sent s as).reverse ++ times) := by
  induction as generalizing s times with
  | nil => exact h
  | cons a as ih =>
      obtain ⟨hclock, hquiet, hsent⟩ := hnext s a
      rw [sendTimes, Runs.collect_cons, List.reverse_append, List.append_assoc]
      refine ih ?_
      by_cases ha : sent s a
      · obtain ⟨hcount, hopen, heq⟩ := hsent ha
        rw [if_pos ha, heq]
        exact (h.tick hclock).consume hwindow hcooldown hcount hopen
      · rw [if_neg ha, hquiet ha]
        exact h.tick hclock

/-- **The bound of a throttle.** A window of the length of a counter's life has at most
`2 * max - 1` of the sendings of a run. -/
theorem sends_within (hmax : 0 < limits.max) (hwindow : 0 < limits.window)
    (hcooldown : ∀ n, 0 < n → limits.cooldown 1 ≤ limits.cooldown n)
    (hnext : ∀ s a, Next limits (view s) (sent s a) (view (step s a))) {s : σ}
    (hs : (view s).2 = fresh) (as : List α) (a : ℤ) :
    inWindow limits.window a (sendTimes step view sent s as) + 1 ≤ 2 * limits.max := by
  have hstart : Respects limits (view s).1 (view s).2 [] := hs ▸ respects_fresh _ hmax
  have hrun := (hstart.run hwindow hcooldown hnext as).windows a
  rwa [List.append_nil, inWindow, List.countP_reverse] at hrun

/-- **Sendings are apart**: each is later than the one before by the shortest time for which the
throttle is closed. -/
theorem sends_apart (hmax : 0 < limits.max) (hwindow : 0 < limits.window)
    (hcooldown : ∀ n, 0 < n → limits.cooldown 1 ≤ limits.cooldown n)
    (hnext : ∀ s a, Next limits (view s) (sent s a) (view (step s a))) {s : σ}
    (hs : (view s).2 = fresh) (as : List α) :
    (sendTimes step view sent s as).Pairwise fun earlier later =>
      earlier + limits.cooldown 1 < later + limits.slack := by
  have hstart : Respects limits (view s).1 (view s).2 [] := hs ▸ respects_fresh _ hmax
  have hrun := (hstart.run hwindow hcooldown hnext as).apart
  rwa [List.append_nil, List.pairwise_reverse] at hrun

end Runs

end Throttle

end AttemptLimits
