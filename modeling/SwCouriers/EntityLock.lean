import Mathlib.Logic.Function.Basic
import SwCouriers.Common
import SwCouriers.Lib.Runs

/-!
# The Entity Lock

`_acquire_entity_lock` and `_release_entity_lock` of the status automation. The lock of an entity
is a key in Redis that a worker sets if it is absent, with an expiry of thirty seconds, and deletes
when the evaluation is over; the transaction is committed after that. The deletion does not look
at whose key it is.

A worker that takes longer than its key lives still believes that it holds the lock. Nothing goes
wrong as long as nobody asks for the lock in that time; who does ask gets it, and then the first
worker deletes the key of the second one.

## Main results

* `Owned.step`: while nobody overtakes, the key of a worker that holds the lock is its own.
* `lock_excludes_iff`: the lock excludes in exactly those runs in which no worker asks for it
  while another one is still evaluating whose key has expired.
-/

namespace SwCouriers.EntityLock

variable {W : Type}

/-! ### The lock -/

/-- `ex=30`. -/
def lockTtl : Instant := 30000000

/-- The value under the key, and when it expires. Redis does not know who set it: `setBy`. -/
structure Entry (W : Type) where
  value : Id
  expiresAt : Instant
  setBy : W
  deriving DecidableEq

/-- Where a worker is: it evaluates an event, under a key that expires at some moment, or it has
released the lock and its transaction is still open. -/
inductive Phase where
  | idle
  | evaluating (eventId : Id) (expiresAt : Instant)
  | committing
  deriving DecidableEq

/-- The clock, the key of the entity, and the workers. -/
structure State (W : Type) where
  now : Instant
  entry : Option (Entry W)
  phase : W → Phase

/-- What is under the key for Redis. -/
def State.live (s : State W) : Option (Entry W) :=
  s.entry.filter fun entry => s.now < entry.expiresAt

/-- `_acquire_entity_lock`, with its answer. -/
def acquireEntityLock (s : State W) (w : W) (eventId : Id) (redisUp : Bool) : State W × Bool :=
  if redisUp = false then (s, false)
  else if s.live.isSome then (s, false)
  else ({ s with entry := some ⟨eventId, s.now + lockTtl, w⟩ }, true)

/-- `_release_entity_lock` of a lock that was acquired. -/
def releaseEntityLock (s : State W) (redisUp : Bool) : State W :=
  if redisUp = false then s else { s with entry := none }

/-- No worker is at work; a key may have been left behind. -/
def State.initial (now : Instant) (entry : Option (Entry W)) : State W :=
  ⟨now, entry, fun _ => .idle⟩

/-! ### Exclusion -/

/-- The worker believes that it holds the lock. -/
def State.Holds (s : State W) (w : W) : Prop := ∃ eventId t, s.phase w = .evaluating eventId t

/-- At most one worker believes that it holds the lock, and the lock that it would release is no
other worker's. -/
def State.Exclusive (s : State W) : Prop :=
  (∀ w w', s.Holds w → s.Holds w' → w = w') ∧
    ∀ w entry, s.Holds w → s.live = some entry → entry.setBy = w

/-- At most one worker holds the lock, and the key is the one that it has set. -/
structure Owned (s : State W) : Prop where
  one : ∀ w w', s.Holds w → s.Holds w' → w = w'
  own : ∀ w eventId t, s.phase w = .evaluating eventId t → s.entry = some ⟨eventId, t, w⟩

variable {s : State W} {w : W}

theorem Owned.exclusive (h : Owned s) : s.Exclusive := by
  refine ⟨h.one, fun w entry hw hlive => ?_⟩
  obtain ⟨eventId, t, hphase⟩ := hw
  have hentry := (Option.filter_eq_some_iff.mp hlive).1
  rw [h.own w eventId t hphase] at hentry
  rw [← Option.some.inj hentry]

theorem owned_initial (now : Instant) (entry : Option (Entry W)) :
    Owned (State.initial now entry) := by
  refine ⟨fun w w' hw _ => ?_, fun w eventId t h => absurd h (by simp [State.initial])⟩
  obtain ⟨eventId, t, h⟩ := hw
  exact absurd h (by simp [State.initial])

/-- The key of the worker that holds the lock is free once it has expired. -/
theorem Owned.live_eq_none_iff (h : Owned s) {eventId : Id} {t : Instant}
    (hphase : s.phase w = .evaluating eventId t) : s.live = none ↔ t ≤ s.now := by
  rw [State.live, h.own w eventId t hphase, Option.filter_eq_none_iff]
  simp

/-! ### Steps -/

variable [DecidableEq W]

/-- What may happen. A worker that crashes leaves its key behind. -/
inductive Action (W : Type) where
  | tick (micros : ℕ)
  | acquire (w : W) (eventId : Id) (redisUp : Bool)
  | release (w : W) (redisUp : Bool)
  | commit (w : W)
  | crash (w : W)

/-- A worker goes on. -/
def State.goTo (s : State W) (w : W) (phase : Phase) : State W :=
  { s with phase := Function.update s.phase w phase }

/-- A worker that is idle asks for the lock; if it does not get it, it skips the event. -/
def State.start (s : State W) (w : W) (eventId : Id) (redisUp : Bool) : State W :=
  if s.phase w = .idle then
    let (s', acquired) := acquireEntityLock s w eventId redisUp
    if acquired then s'.goTo w (.evaluating eventId (s.now + lockTtl)) else s'
  else s

/-- A worker has evaluated its event. -/
def State.finish (s : State W) (w : W) (redisUp : Bool) : State W :=
  match s.phase w with
  | .evaluating _ _ => (releaseEntityLock s redisUp).goTo w .committing
  | _ => s

/-- One step. -/
def step (s : State W) : Action W → State W
  | .tick micros => { s with now := s.now + micros }
  | .acquire w eventId redisUp => s.start w eventId redisUp
  | .release w redisUp => s.finish w redisUp
  | .commit w => if s.phase w = .committing then s.goTo w .idle else s
  | .crash w => s.goTo w .idle

/-- A worker asks for the lock while another one, whose key has expired, still evaluates. -/
def Action.Overtakes (s : State W) : Action W → Prop
  | .acquire w _ redisUp => redisUp = true ∧ s.phase w = .idle ∧
      ∃ w' eventId t, s.phase w' = .evaluating eventId t ∧ t ≤ s.now
  | _ => False

/-- A worker that starts with Redis up and the key free holds the lock; any other attempt changes
nothing. -/
theorem start_eq (s : State W) (w : W) (eventId : Id) (redisUp : Bool) :
    s.start w eventId redisUp =
      if s.phase w = .idle ∧ redisUp = true ∧ s.live = none then
        State.goTo { s with entry := some ⟨eventId, s.now + lockTtl, w⟩ } w
          (.evaluating eventId (s.now + lockTtl))
      else s := by
  unfold State.start acquireEntityLock
  cases redisUp <;> cases s.live <;> by_cases hidle : s.phase w = .idle <;> simp [hidle]

theorem holds_goTo_iff {phase : Phase} {w' : W} :
    (s.goTo w phase).Holds w' ↔
      if w' = w then ∃ eventId t, phase = .evaluating eventId t else s.Holds w' := by
  unfold State.Holds State.goTo
  by_cases hw : w' = w
  · rw [if_pos hw, hw]
    simp
  · rw [if_neg hw]
    simp [Function.update_of_ne hw]

/-- A worker that stops holding the lock leaves the others as they are. -/
theorem Owned.goTo (h : Owned s) (s' : State W) (hphase : s'.phase = s.phase) {phase : Phase}
    (hstops : ∀ eventId t, phase ≠ .evaluating eventId t)
    (hentry : s'.entry = s.entry ∨ s.Holds w) : Owned (s'.goTo w phase) := by
  have hholds : ∀ w', (s'.goTo w phase).Holds w' → w' ≠ w ∧ s.Holds w' := by
    intro w' hw'
    rw [holds_goTo_iff] at hw'
    split_ifs at hw' with hw
    · obtain ⟨eventId, t, heq⟩ := hw'
      exact absurd heq (hstops eventId t)
    · refine ⟨hw, ?_⟩
      rwa [State.Holds, hphase] at hw'
  refine ⟨fun a b ha hb => h.one a b (hholds a ha).2 (hholds b hb).2, fun a eventId t ha => ?_⟩
  obtain ⟨hne, hheld⟩ := hholds a ⟨eventId, t, ha⟩
  rcases hentry with hentry | hw
  · have hphase' : s.phase a = .evaluating eventId t := by
      rw [← hphase, ← Function.update_of_ne hne phase s'.phase]
      exact ha
    exact hentry.trans (h.own a eventId t hphase')
  · exact absurd (h.one a w hheld hw) hne

/-- A worker that starts when nobody holds the lock is the only one, under its own key. -/
theorem owned_start {eventId : Id} {t : Instant} (hnone : ∀ w', ¬ s.Holds w') :
    Owned (State.goTo { s with entry := some ⟨eventId, t, w⟩ } w (.evaluating eventId t)) := by
  have hone : ∀ w', (State.goTo { s with entry := some ⟨eventId, t, w⟩ } w
      (.evaluating eventId t)).Holds w' → w' = w := by
    intro w' hw'
    rw [holds_goTo_iff] at hw'
    split_ifs at hw' with hw
    · exact hw
    · exact absurd hw' (hnone w')
  refine ⟨fun b c hb hc => (hone b hb).trans (hone c hc).symm, fun b eventId' t' hb => ?_⟩
  obtain rfl := hone b ⟨eventId', t', hb⟩
  obtain ⟨rfl, rfl⟩ := Phase.evaluating.inj ((Function.update_self b _ s.phase).symm.trans hb)
  rfl

/-- **While nobody overtakes**, the key of the worker that holds the lock stays its own. -/
theorem Owned.step {a : Action W} (h : Owned s) (ha : ¬ a.Overtakes s) : Owned (step s a) := by
  cases a with
  | tick micros => exact ⟨h.one, h.own⟩
  | acquire w eventId redisUp =>
      refine (congrArg Owned (start_eq s w eventId redisUp)).mpr ?_
      split_ifs with hstarts
      · -- The key is free, so nobody holds the lock: who did would be overtaken.
        obtain ⟨hidle, hup, hfree⟩ := hstarts
        refine owned_start ?_
        rintro w' ⟨eventId', t, hphase⟩
        exact ha ⟨hup, hidle, w', eventId', t, hphase, (h.live_eq_none_iff hphase).mp hfree⟩
      · exact h
  | release w redisUp =>
      refine (congrArg Owned (show EntityLock.step s (.release w redisUp)
        = s.finish w redisUp from rfl)).mpr ?_
      unfold State.finish
      split
      · rename_i eventId t hphase
        unfold releaseEntityLock
        split_ifs
        · exact h.goTo s rfl (fun _ _ => by simp) (.inl rfl)
        · exact h.goTo { s with entry := none } rfl (fun _ _ => by simp)
            (.inr ⟨eventId, t, hphase⟩)
      · exact h
  | commit w =>
      by_cases hphase : s.phase w = .committing
      · exact (congrArg Owned (if_pos hphase)).mpr (h.goTo s rfl (fun _ _ => by simp) (.inl rfl))
      · exact (congrArg Owned (if_neg hphase)).mpr h
  | crash w => exact h.goTo s rfl (fun _ _ => by simp) (.inl rfl)

/-- Who overtakes another worker holds the lock beside it. -/
theorem not_exclusive_of_overtakes {a : Action W} (h : Owned s) (ha : a.Overtakes s) :
    ¬ (EntityLock.step s a).Exclusive := by
  cases a with
  | acquire w eventId redisUp =>
      obtain ⟨hup, hidle, w', eventId', t, hphase, hexpired⟩ := ha
      have hne : w' ≠ w := by
        rintro rfl
        rw [hidle] at hphase
        exact Phase.noConfusion hphase
      have hfree := (h.live_eq_none_iff hphase).mpr hexpired
      have hstep : EntityLock.step s (.acquire w eventId redisUp)
          = State.goTo { s with entry := some ⟨eventId, s.now + lockTtl, w⟩ } w
            (.evaluating eventId (s.now + lockTtl)) :=
        (start_eq s w eventId redisUp).trans (if_pos ⟨hidle, hup, hfree⟩)
      rw [hstep]
      rintro ⟨hone, -⟩
      refine hne (hone w' w (holds_goTo_iff.mpr ?_) (holds_goTo_iff.mpr ?_))
      · rw [if_neg hne]
        exact ⟨eventId', t, hphase⟩
      · rw [if_pos rfl]
        exact ⟨eventId, _, rfl⟩
  | _ => exact ha.elim

/-- **When the lock excludes.** In a run of the workers on one entity, at most one of them
believes at all times that it holds the lock, and none ever releases another one's, exactly if no
worker asks for the lock while another one still evaluates whose key has expired. -/
theorem lock_excludes_iff (now : Instant) (entry : Option (Entry W)) (actions : List (Action W)) :
    (∀ pre post, actions = pre ++ post →
        (Runs.run step (State.initial now entry) pre).Exclusive) ↔
      Runs.Along step (fun s a => ¬ a.Overtakes s) (State.initial now entry) actions :=
  Runs.forall_prefix_iff_along_of_keeps (fun _ h => h.exclusive) (fun _ _ h ha => h.step ha)
    (fun _ _ h ha => not_exclusive_of_overtakes h (not_not.mp ha)) (owned_initial now entry)

/-! ### A slow worker -/

/-- The first worker takes longer than thirty seconds, and the second one gets the lock. -/
def slowEvaluation : List (Action ℕ) :=
  [.acquire 1 101 true, .tick 31000000, .acquire 2 102 true]

/-- Both evaluate, and after the first one has released the lock a third one gets it, while the
second one evaluates under a key that would not have expired. -/
theorem release_frees_another :
    ¬ (∀ actions : List (Action ℕ),
        (Runs.run step (State.initial 0 none) actions).Exclusive) ∧
      (Runs.run step (State.initial 0 none)
          (slowEvaluation ++ [.release 1 true, .acquire 3 103 true])).phase 2
        = .evaluating 102 61000000 ∧
      (Runs.run step (State.initial 0 none)
          (slowEvaluation ++ [.release 1 true, .acquire 3 103 true])).phase 3
        = .evaluating 103 61000000 := by
  refine ⟨fun h => ?_, by decide, by decide⟩
  obtain ⟨hone, -⟩ := h slowEvaluation
  exact absurd (hone 1 2 ⟨101, 30000000, by decide⟩ ⟨102, 61000000, by decide⟩) (by decide)

end SwCouriers.EntityLock
