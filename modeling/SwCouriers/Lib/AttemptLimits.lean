import Mathlib.Algebra.Order.Group.Int
import Mathlib.Data.List.Count
import Mathlib.Order.Lattice
import SwCouriers.Lib.Provenance

/-!
# Limits on Attempts

Two ways to limit how often something is tried. A quota looks back over a window and counts what
was admitted in it. A lockout keeps a counter in a store of expiring keys: the first failure
starts the counter and its time to live, the last one that is allowed removes the counter and sets
a lock, and a success removes the counter.

The counter of a lockout is started anew when it has expired, so a window may hold failures of two
counters. The first of them has begun before the window, and has not led to a lock.

## Main results

* `Quota.cons`: what a quota admits stays within it, in every window.
* `Guard.Respects.le_of_window`: with at most `max` failures to a counter, a window holds at most
  `2 * max - 2` failures.
* `Guard.failures_le`: the same of a part of a run in which there is no success.
-/

namespace AttemptLimits

/-! ### Quotas -/

/-- How many of the times lie in the closed window that starts at `a`. -/
def within (window a : ℤ) (times : List ℤ) : ℕ :=
  times.countP fun t => a ≤ t ∧ t ≤ a + window

/-- In every window there are at most `max` of the times. -/
def Quota (window : ℤ) (max : ℕ) (times : List ℤ) : Prop :=
  ∀ a, within window a times ≤ max

theorem quota_nil (window : ℤ) (max : ℕ) : Quota window max [] := fun _ => Nat.zero_le max

/-- What is admitted because the window that ends now is not full stays within the quota. -/
theorem Quota.cons {window : ℤ} {max : ℕ} {times : List ℤ} (h : Quota window max times) {now : ℤ}
    (hroom : (times.countP fun t => now - window ≤ t) < max) : Quota window max (now :: times) := by
  intro a
  rw [within, List.countP_cons]
  split_ifs with hnow
  · have hle : within window a times ≤ times.countP fun t => now - window ≤ t := by
      refine List.countP_mono_left fun t _ ht => ?_
      simp only [decide_eq_true_eq] at ht hnow ⊢
      omega
    exact Nat.lt_of_le_of_lt hle hroom
  · exact h a

/-- The order in which things were admitted does not matter. -/
theorem Quota.perm {window : ℤ} {max : ℕ} {times times' : List ℤ} (h : Quota window max times)
    (hperm : times.Perm times') : Quota window max times' := by
  intro a
  rw [within, ← hperm.countP_eq]
  exact h a

/-! ### Lockouts -/

/-- How long a counter of failures lives, how long a lock does, and how many failures it takes. -/
structure Limits where
  window : ℤ
  lockout : ℤ
  max : ℕ

/-- A counter of failures. -/
structure Counter where
  count : ℕ
  expiresAt : ℤ
  deriving DecidableEq

/-- What the store holds about one thing that is tried: the counter, and until when the lock
lasts. -/
structure Guard where
  failures : Option Counter
  lockedUntil : Option ℤ
  deriving DecidableEq

namespace Guard

/-- Nothing was tried yet. -/
def fresh : Guard := ⟨none, none⟩

/-- There is a lock. -/
def locked (now : ℤ) (g : Guard) : Bool := g.lockedUntil.any fun e => decide (now < e)

/-- The counter, if it has not expired. -/
def live (now : ℤ) (g : Guard) : Option Counter := g.failures.filter fun c => now < c.expiresAt

/-- What the counter is after one more failure. -/
def bump (limits : Limits) (now : ℤ) (g : Guard) : Counter :=
  match g.live now with
  | some c => { c with count := c.count + 1 }
  | none => ⟨1, now + limits.window⟩

/-- A failure. -/
def recordFailure (limits : Limits) (now : ℤ) (g : Guard) : Guard :=
  let c := g.bump limits now
  if limits.max ≤ c.count then ⟨none, some (now + limits.lockout)⟩
  else { g with failures := some c }

/-- A success. -/
def clear (g : Guard) : Guard := { g with failures := none }

/-! ### What the counters say about the failures -/

/-- How many of the times are not before `a`. -/
def since (a : ℤ) (times : List ℤ) : ℕ := times.countP fun t => a ≤ t

theorem since_cons (a t : ℤ) (times : List ℤ) :
    since a (t :: times) = since a times + if a ≤ t then 1 else 0 := by
  simp only [since, List.countP_cons, decide_eq_true_eq]

theorem since_eq_zero {a : ℤ} {times : List ℤ} (h : ∀ t ∈ times, t < a) : since a times = 0 := by
  rw [since, List.countP_eq_zero]
  intro t ht
  simpa using h t ht

/-- How many of the times lie in the half-open window that starts at `a`. -/
def inWindow (window a : ℤ) (times : List ℤ) : ℕ :=
  times.countP fun t => a ≤ t ∧ t < a + window

theorem inWindow_cons (window a t : ℤ) (times : List ℤ) :
    inWindow window a (t :: times) =
      inWindow window a times + if a ≤ t ∧ t < a + window then 1 else 0 := by
  simp only [inWindow, List.countP_cons, decide_eq_true_eq]

theorem inWindow_le_since (window a : ℤ) (times : List ℤ) :
    inWindow window a times ≤ since a times :=
  List.countP_mono_left fun t _ ht => by
    simp only [decide_eq_true_eq] at ht ⊢
    exact ht.1

/-- The failures since the last success, as the store has them at `now`. A window that is still
open has begun after `now - window`; the counter that lives has begun in it, or before it. -/
structure Respects (limits : Limits) (now : ℤ) (g : Guard) (times : List ℤ) : Prop where
  past : ∀ t ∈ times, t ≤ now
  idle : g.live now = none → g.locked now = false →
    ∀ a, now < a + limits.window → since a times + 2 ≤ limits.max
  counting : ∀ c, g.live now = some c → c.count < limits.max ∧ c.expiresAt ≤ now + limits.window ∧
    g.locked now = false ∧ ∀ a, now < a + limits.window →
      since a times + 2 ≤ limits.max + c.count ∧
        (c.expiresAt < a + limits.window → since a times + 1 ≤ c.count)
  waiting : g.locked now = true → (∀ e ∈ g.lockedUntil, ∀ t ∈ times, t + limits.lockout ≤ e) ∧
    ∀ a, now < a + limits.window → since a times + 2 ≤ 2 * limits.max
  windows : ∀ a, inWindow limits.window a times + 2 ≤ 2 * limits.max

variable {limits : Limits} {now : ℤ} {g : Guard} {times : List ℤ}

theorem live_eq_some_iff {c : Counter} :
    g.live now = some c ↔ g.failures = some c ∧ now < c.expiresAt := by
  rw [live, Option.filter_eq_some_iff, decide_eq_true_eq]

theorem live_eq_none_iff : g.live now = none ↔ ∀ c, g.failures = some c → c.expiresAt ≤ now := by
  rw [live, Option.filter_eq_none_iff]
  simp only [decide_eq_true_eq, not_lt]

theorem locked_eq_true_iff : g.locked now = true ↔ ∃ e, g.lockedUntil = some e ∧ now < e := by
  simp [locked, Option.any_eq_true]

theorem locked_eq_false_iff : g.locked now = false ↔ ∀ e, g.lockedUntil = some e → e ≤ now := by
  rw [← Bool.not_eq_true, locked_eq_true_iff]
  push Not
  rfl

/-- Nothing was tried yet. -/
theorem respects_fresh (now : ℤ) (hmax : 2 ≤ limits.max) : Respects limits now fresh [] where
  past := fun _ ht => absurd ht List.not_mem_nil
  idle := fun _ _ _ _ => by simpa [since] using hmax
  counting := fun c hc => absurd (live_eq_some_iff.mp hc).1 (by simp [fresh])
  waiting := fun h => absurd h (by simp [locked, fresh])
  windows := fun a => by
    simp only [inWindow, List.countP_nil]
    omega

/-- Time passes. -/
theorem Respects.tick (h : Respects limits now g times) (hmax : 2 ≤ limits.max)
    (hlockout : limits.window ≤ limits.lockout) {now' : ℤ} (hnow : now ≤ now') :
    Respects limits now' g times where
  past := fun t ht => (h.past t ht).trans hnow
  idle := by
    intro hlive hfree a ha
    cases hc : g.live now with
    | some c =>
        -- The counter has expired: what it has counted lies in the window only in part.
        obtain ⟨hcount, -, -, hcounts⟩ := h.counting c hc
        have hexpired := live_eq_none_iff.mp hlive c (live_eq_some_iff.mp hc).1
        have hpart := (hcounts a (by omega)).2 (by omega)
        omega
    | none =>
        cases hl : g.locked now with
        | false => exact h.idle hc hl a (by omega)
        | true =>
            -- The lock has expired: every failure is older than the window.
            obtain ⟨e, he, -⟩ := locked_eq_true_iff.mp hl
            have hover := locked_eq_false_iff.mp hfree e he
            rw [since_eq_zero fun t ht => ?_]
            · simpa using hmax
            · have := (h.waiting hl).1 e he t ht
              omega
  counting := by
    intro c hc
    obtain ⟨hfail, hlive⟩ := live_eq_some_iff.mp hc
    obtain ⟨hcount, hexp, hfree, hcounts⟩ :=
      h.counting c (live_eq_some_iff.mpr ⟨hfail, by omega⟩)
    refine ⟨hcount, by omega, locked_eq_false_iff.mpr fun e he => ?_, fun a ha =>
      hcounts a (by omega)⟩
    have := locked_eq_false_iff.mp hfree e he
    omega
  waiting := by
    intro hl
    obtain ⟨e, he, hlt⟩ := locked_eq_true_iff.mp hl
    obtain ⟨hlocks, hcounts⟩ := h.waiting (locked_eq_true_iff.mpr ⟨e, he, by omega⟩)
    exact ⟨hlocks, fun a ha => hcounts a (by omega)⟩
  windows := h.windows

/-- How many failures lie in a window that is still open, when the next one comes. -/
theorem Respects.since_le (h : Respects limits now g times) (hfree : g.locked now = false)
    {a : ℤ} (ha : now < a + limits.window) :
    (g.bump limits now).count ≤ limits.max ∧
      since a times + 3 ≤ limits.max + (g.bump limits now).count := by
  unfold bump
  cases hc : g.live now with
  | none =>
      have := h.idle hc hfree a ha
      dsimp only
      omega
  | some c =>
      obtain ⟨hcount, -, -, hcounts⟩ := h.counting c hc
      have := (hcounts a ha).1
      dsimp only
      omega

/-- A failure is counted. -/
theorem Respects.recordFailure (h : Respects limits now g times)
    (hwindow : 0 < limits.window) (hlockout : limits.window ≤ limits.lockout)
    (hfree : g.locked now = false) :
    Respects limits now (g.recordFailure limits now) (now :: times) := by
  have hpast : ∀ t ∈ now :: times, t ≤ now := by
    intro t ht
    rcases List.mem_cons.mp ht with rfl | ht
    · exact le_rfl
    · exact h.past t ht
  have hwindows : ∀ a, inWindow limits.window a (now :: times) + 2 ≤ 2 * limits.max := by
    intro a
    rw [inWindow_cons]
    split_ifs with hin
    · have hle := inWindow_le_since limits.window a times
      have := h.since_le hfree hin.2
      omega
    · exact h.windows a
  unfold Guard.recordFailure
  dsimp only
  split_ifs with hfull
  · refine ⟨hpast, fun _ hl => ?_, fun c hc => ?_, fun _ => ⟨fun e he t ht => ?_, fun a ha => ?_⟩,
      hwindows⟩
    · have := locked_eq_false_iff.mp hl (now + limits.lockout) rfl
      omega
    · exact absurd (live_eq_some_iff.mp hc).1 (by simp)
    · obtain rfl := Option.some.inj he
      have := hpast t ht
      omega
    · rw [since_cons]
      have := h.since_le hfree ha
      split_ifs <;> omega
  · have hexp : (g.bump limits now).expiresAt ≤ now + limits.window ∧
        now < (g.bump limits now).expiresAt := by
      unfold bump
      cases hc : g.live now with
      | none => exact ⟨le_rfl, by dsimp only; omega⟩
      | some c => exact ⟨(h.counting c hc).2.1, (live_eq_some_iff.mp hc).2⟩
    refine ⟨hpast, fun hlive _ => ?_, fun c hc => ?_, fun hl => ?_, hwindows⟩
    · have := live_eq_none_iff.mp hlive _ rfl
      omega
    · obtain rfl := Option.some.inj (live_eq_some_iff.mp hc).1
      refine ⟨by omega, hexp.1, hfree, fun a ha => ⟨?_, fun hstarted => ?_⟩⟩
      · rw [since_cons]
        have := h.since_le hfree ha
        split_ifs <;> omega
      · rw [since_cons]
        unfold bump at hstarted ⊢
        cases hc : g.live now with
        | none =>
            -- The counter starts now, so a window that it has begun before is still to come.
            rw [hc] at hstarted
            dsimp only at hstarted ⊢
            rw [since_eq_zero fun t ht => by have := h.past t ht; omega, if_neg (by omega)]
        | some c =>
            rw [hc] at hstarted
            have := ((h.counting c hc).2.2.2 a ha).2 hstarted
            dsimp only at hstarted ⊢
            split_ifs <;> omega
    · have : g.locked now = true := hl
      simp [hfree] at this

/-- After a success there are no failures that count. -/
theorem Respects.clear (h : Respects limits now g times) (hmax : 2 ≤ limits.max) :
    Respects limits now g.clear [] where
  past := fun _ ht => absurd ht List.not_mem_nil
  idle := fun _ _ _ _ => by simpa [since] using hmax
  counting := fun c hc => absurd (live_eq_some_iff.mp hc).1 (by simp [Guard.clear])
  waiting := fun hl => ⟨fun _ _ _ ht => absurd ht List.not_mem_nil, fun a ha => by
    have := (h.waiting hl).2 a ha
    simp only [since, List.countP_nil]
    omega⟩
  windows := fun a => by
    simp only [inWindow, List.countP_nil]
    omega

/-! ### Runs -/

/-- What an attempt, or anything else that happens, is for the guard. -/
inductive Outcome where
  | quiet
  | failure
  | success
  deriving DecidableEq

/-- The clock goes on, and the guard does what the outcome says. -/
def Next (limits : Limits) (s : ℤ × Guard) (outcome : Outcome) (s' : ℤ × Guard) : Prop :=
  s.1 ≤ s'.1 ∧ match outcome with
    | .quiet => s'.2 = s.2
    | .failure => s.2.locked s'.1 = false ∧ s'.2 = s.2.recordFailure limits s'.1
    | .success => s'.2 = s.2.clear

/-- The failures that count after the next thing that happens. -/
def failuresAfter (now : ℤ) (times : List ℤ) : Outcome → List ℤ
  | .quiet => times
  | .failure => now :: times
  | .success => []

theorem Respects.next {s s' : ℤ × Guard} {outcome : Outcome} (h : Respects limits s.1 s.2 times)
    (hmax : 2 ≤ limits.max) (hwindow : 0 < limits.window)
    (hlockout : limits.window ≤ limits.lockout) (hnext : Next limits s outcome s') :
    Respects limits s'.1 s'.2 (failuresAfter s'.1 times outcome) := by
  have hnow := h.tick hmax hlockout hnext.1
  cases outcome with
  | quiet => exact (show s'.2 = s.2 from hnext.2) ▸ hnow
  | failure =>
      obtain ⟨hfree, heq⟩ : _ ∧ _ := hnext.2
      exact heq ▸ hnow.recordFailure hwindow hlockout hfree
  | success => exact (show s'.2 = s.2.clear from hnext.2) ▸ hnow.clear hmax

section Runs

variable {σ α : Type*} {step : σ → α → σ} {view : σ → ℤ × Guard} {outcome : σ → α → Outcome}

/-- When the failures of a run were. -/
def failureTimes (step : σ → α → σ) (view : σ → ℤ × Guard) (outcome : σ → α → Outcome) :
    σ → List α → List ℤ :=
  Runs.collect step fun s a => if outcome s a = .failure then some (view (step s a)).1 else none

/-- The clock of a run goes on. -/
theorem clock_le (hnext : ∀ s a, Next limits (view s) (outcome s a) (view (step s a))) (s : σ)
    (as : List α) : (view s).1 ≤ (view (Runs.run step s as)).1 := by
  induction as generalizing s with
  | nil => exact le_rfl
  | cons a as ih => exact (hnext s a).1.trans (ih (step s a))

variable {s : σ}

/-- The failures of a run lie between its start and its end. -/
theorem mem_failureTimes (hnext : ∀ s a, Next limits (view s) (outcome s a) (view (step s a)))
    {as : List α} {t : ℤ} (ht : t ∈ failureTimes step view outcome s as) :
    (view s).1 ≤ t ∧ t ≤ (view (Runs.run step s as)).1 := by
  obtain ⟨pre, a, post, rfl, hout⟩ := Runs.exists_of_mem_collect ht
  obtain ⟨-, hout⟩ := Option.ite_none_right_eq_some.mp hout
  obtain rfl := Option.some.inj hout
  rw [Runs.run_append_cons]
  exact ⟨(clock_le hnext s pre).trans (hnext _ a).1, clock_le hnext _ post⟩

/-- In a part of a run without a success, the failures add up. -/
theorem Respects.run (hmax : 2 ≤ limits.max) (hwindow : 0 < limits.window)
    (hlockout : limits.window ≤ limits.lockout)
    (hnext : ∀ s a, Next limits (view s) (outcome s a) (view (step s a)))
    (h : Respects limits (view s).1 (view s).2 times) {as : List α}
    (has : Runs.Along step (fun s a => outcome s a ≠ .success) s as) :
    Respects limits (view (Runs.run step s as)).1 (view (Runs.run step s as)).2
      ((failureTimes step view outcome s as).reverse ++ times) := by
  induction as generalizing s times with
  | nil => exact h
  | cons a as ih =>
      have hstep := h.next hmax hwindow hlockout (hnext s a)
      have hrest := ih hstep has.2
      have hone : (if outcome s a = .failure then some (view (step s a)).1 else none).toList.reverse
          ++ times = failuresAfter (view (step s a)).1 times (outcome s a) := by
        cases hout : outcome s a with
        | quiet => rfl
        | failure => rfl
        | success => exact absurd hout has.1
      rw [failureTimes, Runs.collect_cons, List.reverse_append, List.append_assoc, hone]
      exact hrest

/-- Whatever has happened, the failures since the last success are what the guard says. -/
theorem exists_respects (hmax : 2 ≤ limits.max) (hwindow : 0 < limits.window)
    (hlockout : limits.window ≤ limits.lockout)
    (hnext : ∀ s a, Next limits (view s) (outcome s a) (view (step s a))) (hs : (view s).2 = fresh)
    (as : List α) :
    ∃ times, Respects limits (view (Runs.run step s as)).1 (view (Runs.run step s as)).2 times := by
  refine Runs.run_invariant (I := fun s => ∃ times, Respects limits (view s).1 (view s).2 times)
    (fun s a ⟨times, h⟩ => ⟨_, h.next hmax hwindow hlockout (hnext s a)⟩) ⟨[], ?_⟩ as
  rw [hs]
  exact respects_fresh _ hmax

/-- **The lockout bound.** A part of a run that is shorter than the life of a counter, and in which
there is no success, has at most `2 * max - 2` failures. -/
theorem failures_le (hmax : 2 ≤ limits.max) (hwindow : 0 < limits.window)
    (hlockout : limits.window ≤ limits.lockout)
    (hnext : ∀ s a, Next limits (view s) (outcome s a) (view (step s a))) (hs : (view s).2 = fresh)
    (pre mid : List α)
    (hmid : Runs.Along step (fun s a => outcome s a ≠ .success) (Runs.run step s pre) mid)
    (hshort : (view (Runs.run step s (pre ++ mid))).1
      < (view (Runs.run step s pre)).1 + limits.window) :
    (failureTimes step view outcome (Runs.run step s pre) mid).length + 2 ≤ 2 * limits.max := by
  obtain ⟨times, hpre⟩ := exists_respects hmax hwindow hlockout hnext hs pre
  have hend := (hpre.run hmax hwindow hlockout hnext hmid).windows (view (Runs.run step s pre)).1
  rw [Runs.run_append] at hshort
  have hall : inWindow limits.window (view (Runs.run step s pre)).1
      (failureTimes step view outcome (Runs.run step s pre) mid).reverse
        = (failureTimes step view outcome (Runs.run step s pre) mid).length := by
    rw [inWindow, List.countP_reverse, List.countP_eq_length]
    intro t ht
    obtain ⟨hle, hge⟩ := mem_failureTimes hnext ht
    simp only [decide_eq_true_eq]
    omega
  rw [inWindow, List.countP_append] at hend
  rw [inWindow] at hall
  omega

end Runs

end Guard

end AttemptLimits
