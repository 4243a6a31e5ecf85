import SwCouriers.Lib.TransactionLogic

/-!
# Requests that Work on a Database and on a Store of Commands

Beside its transaction, a request may send commands to a store that has none: a command takes
effect at once, for everybody, and is not undone when the transaction is. `Prog` adds such
commands to the statements of a transaction; the state `S` holds what is committed together with
what the commands work on.

As with writes that no lock covers, `loose s s' k` says that turning `s` into `s'` touches `k`,
which need not be locked; a command can also take a lock and give one back, which lets a lock stand
for a stretch of a request. A schedule is undisturbed if nothing it does touches loosely what
another request holds.

## Main results

* `wp_bind`, `wp_ofTxn`, `wp_run`, `wp_get`: the rules.
* `run_of_undisturbed`: what a discipline says of the state holds along every undisturbed
  schedule.
* `Alone.along`: a request that runs alone disturbs nobody.
-/

namespace Commands

open ReadCommitted

/-- A program of statements and commands. -/
inductive Prog (S K ε α : Type) where
  | pure (a : α)
  | raise (e : ε)
  | read (next : S → Prog S K ε α)
  | lock (k : K) (next : S → Prog S K ε α)
  /-- A command, which reads the state and changes it at once; a lock may be taken with it, which
  may depend on what it reads, and one given back. -/
  | command (f : S → S) (take : S → Option K) (drop : Option K) (next : S → Prog S K ε α)

namespace Prog

variable {S K ε α β : Type}

/-- One program after the other. -/
def bind : Prog S K ε α → (α → Prog S K ε β) → Prog S K ε β
  | pure a, f => f a
  | raise e, _ => raise e
  | read next, f => read fun s => (next s).bind f
  | lock k next, f => lock k fun s => (next s).bind f
  | command g take drop next, f => command g take drop fun s => (next s).bind f

instance : Monad (Prog S K ε) where
  pure := Prog.pure
  bind := Prog.bind

/-- A part that only works on the database. -/
def ofTxn : Txn S K ε α → Prog S K ε α
  | .pure a => pure a
  | .raise e => raise e
  | .read next => read fun s => ofTxn (next s)
  | .lock k next => lock k fun s => ofTxn (next s)

/-- A command whose answer is not used. -/
def run (f : S → S) : Prog S K ε Unit := command f (fun _ => none) none fun _ => pure ()

end Prog

/-- Where a request is: at the rest of its program, or at its end. -/
abbrev Rest (S K ε : Type) := Option (Prog S K ε (S → S))

section Machine

variable {S K ε T : Type}

/-- The request `t` takes a lock and gives one back. -/
def exchange [DecidableEq K] [DecidableEq T] (owner : K → Option T) (t : T) (take drop : Option K)
    (k : K) : Option T :=
  if take = some k ∨ owner k = some t then if drop = some k then none else some t else owner k

/-- One step of a schedule. -/
def step [DecidableEq K] [DecidableEq T] (σ : State S K T (Rest S K ε)) :
    Event T → State S K T (Rest S K ε)
  | .crash t => σ.finish t σ.store none
  | .step t =>
      match σ.txn t with
      | none => σ
      | some (.pure write) => σ.finish t (write σ.store) none
      | some (.raise _) => σ.finish t σ.store none
      | some (.read next) => { σ with txn := Function.update σ.txn t (some (next σ.store)) }
      | some (.lock k next) =>
          if σ.owner k = none ∨ σ.owner k = some t then
            { σ with
              owner := Function.update σ.owner k (some t)
              txn := Function.update σ.txn t (some (next σ.store)) }
          else σ
      | some (.command f take drop next) =>
          if ∀ k ∈ take σ.store, σ.owner k = none ∨ σ.owner k = some t then
            { store := f σ.store
              owner := exchange σ.owner t (take σ.store) drop
              txn := Function.update σ.txn t (some (next σ.store)) }
          else σ

/-- What the step changes touches nothing loosely that another request holds. -/
def Undisturbed [DecidableEq K] [DecidableEq T] (loose : S → S → K → Prop)
    (σ : State S K T (Rest S K ε)) (e : Event T) : Prop :=
  ∀ k u, loose σ.store (step σ e).store k → σ.owner k = some u → e = .step u

end Machine

section Logic

variable {S K ε α β : Type} (D : Discipline S K) (loose : S → S → K → Prop)

/-- The state may be changed, if nobody else holds what this touches loosely. -/
def Changes (f : S → S) (s : S) (held : K → Prop) : Prop :=
  D.inv (f s) ∧ D.evolves (fun k => held k ∨ loose s (f s) k) s (f s)

/-- What has to hold of the state and the locks held for the result to satisfy `Q`. -/
def wp (Q : α → S → (K → Prop) → Prop) : Prog S K ε α → S → (K → Prop) → Prop
  | .pure a, s, held => Q a s held
  | .raise _, _, _ => True
  | .read next, s, held => ∀ s', D.Rely held s s' → wp Q (next s) s' held
  | .lock k next, s, held =>
      ∀ s', D.Rely (fun j => j = k ∨ held j) s s' →
        wp Q (next s) s' fun j => j = k ∨ held j
  | .command f take drop next, s, held =>
      Changes D loose f s held ∧
        ∀ s', D.Rely (fun j => (take s = some j ∨ held j) ∧ drop ≠ some j) (f s) s' →
          wp Q (next s) s' fun j => (take s = some j ∨ held j) ∧ drop ≠ some j

/-- A request keeps the discipline but for what it touches loosely. -/
def Keeps (p : Prog S K ε (S → S)) (s : S) (held : K → Prop) : Prop :=
  ∀ s', D.Rely held s s' → wp D loose (fun write s held => Changes D loose write s held) p s' held

variable {D loose}

section Rules

variable {Q : α → S → (K → Prop) → Prop} {s : S} {held : K → Prop}

theorem wp_bind {p : Prog S K ε β} {f : β → Prog S K ε α} :
    wp D loose Q (p >>= f) s held ↔ wp D loose (fun b => wp D loose Q (f b)) p s held := by
  change wp D loose Q (p.bind f) s held ↔ _
  induction p generalizing s held with
  | pure b => exact Iff.rfl
  | raise e => exact Iff.rfl
  | read next ih => exact forall₂_congr fun s' _ => ih s
  | lock k next ih => exact forall₂_congr fun s' _ => ih s
  | command g take drop next ih => exact and_congr_right fun _ => forall₂_congr fun s' _ => ih s

/-- A part that only works on the database follows the rules for transactions. -/
theorem wp_ofTxn {p : Txn S K ε α} (h : D.wp Q p s held) :
    wp D loose Q (.ofTxn p) s held := by
  induction p generalizing s held with
  | pure a => exact h
  | raise e => trivial
  | read next ih => exact fun s' hs' => ih s (h s' hs')
  | lock k next ih => exact fun s' hs' => ih s (h s' hs')

theorem wp_run {f : S → S} {Q : Unit → S → (K → Prop) → Prop} (hf : Changes D loose f s held)
    (h : ∀ s', D.Rely held (f s) s' → Q () s' held) :
    wp D loose Q (.run f : Prog S K ε Unit) s held := by
  have hheld : (fun j => ((none : Option K) = some j ∨ held j) ∧ (none : Option K) ≠ some j) =
      held := by
    funext j
    simp
  refine ⟨hf, ?_⟩
  rw [hheld]
  exact h

/-- A command that only reads, and may take a lock with it. -/
theorem wp_get {take : S → Option K} {next : S → Prog S K ε α} (hs : D.inv s)
    (h : ∀ s', D.Rely (fun j => take s = some j ∨ held j) s s' →
      wp D loose Q (next s) s' fun j => take s = some j ∨ held j) :
    wp D loose Q (.command id take none next) s held := by
  have hheld : (fun j => (take s = some j ∨ held j) ∧ (none : Option K) ≠ some j) =
      fun j => take s = some j ∨ held j := by
    funext j
    simp
  refine ⟨⟨hs, D.refl _ _⟩, ?_⟩
  rw [hheld]
  exact h

end Rules

theorem Keeps.rely {p : Prog S K ε (S → S)} {s s' : S} {held : K → Prop}
    (h : Keeps D loose p s held) (hrely : D.Rely held s s') : Keeps D loose p s' held :=
  fun s'' hs'' => h s'' (hrely.trans hs'')

end Logic

/-! ### Schedules -/

section Schedules

variable {S K ε T : Type} {D : Discipline S K} {loose : S → S → K → Prop}

/-- What is known of a state along an undisturbed schedule. -/
structure Sound (D : Discipline S K) (loose : S → S → K → Prop)
    (σ : State S K T (Rest S K ε)) : Prop where
  inv : D.inv σ.store
  holds : ∀ t, ∀ p ∈ σ.txn t, Keeps D loose p σ.store fun k => σ.owner k = some t

variable [DecidableEq T] [DecidableEq K] {σ : State S K T (Rest S K ε)}
variable {t : T}

omit [DecidableEq K] in
/-- The end of a request, when the others may rely on what it leaves behind. -/
theorem Sound.finish (h : Sound D loose σ) {s : S} (hinv : D.inv s)
    (hothers : ∀ u, u ≠ t → D.Rely (fun k => σ.owner k = some u) σ.store s) :
    Sound D loose (σ.finish t s none) :=
  ⟨hinv, forall_txn_finish (C := fun rest held => ∀ p ∈ rest, Keeps D loose p s held) (by simp)
    fun u hut p hp => (h.holds u p hp).rely (hothers u hut)⟩

omit [DecidableEq K] in
/-- A step of one request that the others may rely on. -/
theorem Sound.advance (h : Sound D loose σ) {s : S} {owner : K → Option T} {q : Prog S K ε (S → S)}
    (hinv : D.inv s) (hothers : ∀ u, u ≠ t → D.Rely (fun k => σ.owner k = some u) σ.store s)
    (howner : ∀ u, u ≠ t → ∀ k, owner k = some u ↔ σ.owner k = some u)
    (hself : Keeps D loose q s fun k => owner k = some t) :
    Sound D loose ⟨s, owner, Function.update σ.txn t (some q)⟩ :=
  ⟨hinv, forall_txn_update (C := fun rest held => ∀ p ∈ rest, Keeps D loose p s held) howner
    (fun _ hp => Option.some.inj hp ▸ hself)
    fun u hut p hp => (h.holds u p hp).rely (hothers u hut)⟩

theorem exchange_iff_of_ne {owner : K → Option T} {u : T} (hut : u ≠ t) {take : Option K}
    (hfree : ∀ k ∈ take, owner k = none ∨ owner k = some t) (drop : Option K) (k : K) :
    exchange owner t take drop k = some u ↔ owner k = some u := by
  rw [exchange]
  split_ifs with hown hdrop
  · rcases hown with htake | howner
    · rcases hfree k htake with hnone | hsome
      · simp [hnone]
      · simp [hsome, hut.symm]
    · simp [howner, hut.symm]
  · rcases hown with htake | howner
    · rcases hfree k htake with hnone | hsome
      · simp [hnone, hut.symm]
      · simp [hsome]
    · simp [howner]
  · exact Iff.rfl

theorem exchange_self_iff {owner : K → Option T} (take drop : Option K) (k : K) :
    exchange owner t take drop k = some t ↔
      (take = some k ∨ owner k = some t) ∧ drop ≠ some k := by
  rw [exchange]
  split_ifs with hown hdrop
  · simp [hdrop]
  · simp [hown, hdrop]
  · exact ⟨fun howner => absurd (.inr howner) hown, fun h => absurd h.1 hown⟩

/-- One step of an undisturbed schedule. -/
theorem Sound.step (h : Sound D loose σ) {e : Event T} (he : Undisturbed loose σ e) :
    Sound D loose (Commands.step σ e) := by
  have hsame : ∀ u, D.Rely (fun k => σ.owner k = some u) σ.store σ.store :=
    fun u => ⟨D.refl _ _, h.inv⟩
  cases e with
  | crash t => exact h.finish h.inv fun u _ => hsame u
  | step t =>
      -- what is touched is the request's own, or held by nobody else
      have hothers : ∀ f : S → S, (Commands.step σ (.step t)).store = f σ.store →
          Changes D loose f σ.store (fun k => σ.owner k = some t) →
          ∀ u, u ≠ t → D.Rely (fun k => σ.owner k = some u) σ.store (f σ.store) := by
        rintro f hstore ⟨hinv, hevolves⟩ u hut
        refine ⟨D.mono ?_ hevolves, hinv⟩
        rintro k (hheld | hloose) hother
        · exact hut (Option.some.inj (hother.symm.trans hheld))
        · have heq := he k u (hstore ▸ hloose) hother
          exact hut (Event.step.inj heq).symm
      cases htxn : σ.txn t with
      | none => simpa only [Commands.step, htxn] using h
      | some p =>
          have hkeeps := h.holds t p htxn σ.store (hsame t)
          cases p with
          | pure write =>
              simp only [Commands.step, htxn] at hothers ⊢
              exact h.finish hkeeps.1 (hothers write rfl hkeeps)
          | raise error =>
              simp only [Commands.step, htxn]
              exact h.finish h.inv fun u _ => hsame u
          | read next =>
              simp only [Commands.step, htxn]
              exact h.advance h.inv (fun u _ => hsame u) (fun _ _ _ => Iff.rfl)
                (fun s' hs' => hkeeps s' hs')
          | lock k next =>
              simp only [Commands.step, htxn]
              split_ifs with hfree
              · refine h.advance h.inv (fun u _ => hsame u)
                  (fun u hut => update_owner_iff hut hfree) ?_
                have hheld : (fun j => Function.update σ.owner k (some t) j = some t) =
                    fun j => j = k ∨ σ.owner j = some t :=
                  funext fun j => propext (update_owner_self j)
                rw [hheld]
                exact fun s' hs' => hkeeps s' hs'
              · exact h
          | command f take drop next =>
              simp only [Commands.step, htxn] at hothers ⊢
              obtain ⟨hchanges, hnext⟩ := hkeeps
              split_ifs at hothers ⊢ with hfree
              · refine h.advance hchanges.1 (hothers f rfl hchanges)
                  (fun u hut => exchange_iff_of_ne hut hfree drop) ?_
                have hheld : (fun j => exchange σ.owner t (take σ.store) drop j = some t) =
                    fun j => (take σ.store = some j ∨ σ.owner j = some t) ∧ drop ≠ some j :=
                  funext fun j => propext (exchange_self_iff (take σ.store) drop j)
                rw [hheld]
                exact fun s' hs' => hnext s' hs'
              · exact h

/-- **Along an undisturbed schedule** the state satisfies what the discipline says. -/
theorem run_of_undisturbed {s : S} (hinv : D.inv s) {p : T → Prog S K ε (S → S)}
    (hp : ∀ t, Keeps D loose (p t) s fun _ => False) {events : List (Event T)}
    (hevents : Runs.Along Commands.step (Undisturbed loose) (.start s fun t => some (p t))
      events) :
    D.inv (Runs.run Commands.step (.start s fun t => some (p t)) events).store := by
  have hstart : Sound D loose (State.start (K := K) s fun t => some (p t)) := by
    refine ⟨hinv, fun t q hq => ?_⟩
    obtain rfl := Option.some.inj hq
    have hnone : (fun k => (State.start (K := K) s fun t => some (p t)).owner k = some t) =
        fun _ => False := funext fun k => eq_false (by simp [State.start])
    rw [hnone]
    exact hp t
  exact (Runs.run_invariant_of_along (I := Sound D loose) (fun σ e h he => h.step he) hstart
    hevents).inv

/-! ### Requests that run alone -/

/-- Only the request `t` holds anything. -/
def Alone (σ : State S K T (Rest S K ε)) (t : T) : Prop := ∀ k u, σ.owner k = some u → u = t

theorem Alone.undisturbed (h : Alone σ t) : Undisturbed loose σ (.step t) :=
  fun k u _ howner => congrArg Event.step (h k u howner).symm

theorem Alone.step (h : Alone σ t) : Alone (Commands.step σ (.step t)) t := by
  intro k u howner
  by_contra hne
  refine hne (h k u ?_)
  cases htxn : σ.txn t with
  | none => simpa only [Commands.step, htxn] using howner
  | some p =>
      cases p with
      | pure write =>
          simp only [Commands.step, htxn] at howner
          exact (finish_owner_iff hne).mp howner
      | raise error =>
          simp only [Commands.step, htxn] at howner
          exact (finish_owner_iff hne).mp howner
      | read next => simpa only [Commands.step, htxn] using howner
      | lock j next =>
          simp only [Commands.step, htxn] at howner
          split_ifs at howner with hfree
          · exact (update_owner_iff hne hfree k).mp howner
          · exact howner
      | command f take drop next =>
          simp only [Commands.step, htxn] at howner
          split_ifs at howner with hfree
          · exact (exchange_iff_of_ne hne hfree drop k).mp howner
          · exact howner

/-- A request disturbs nobody as long as it runs alone. -/
theorem Alone.along (loose : S → S → K → Prop) (h : Alone σ t) (n : Nat) :
    Runs.Along Commands.step (Undisturbed loose) σ (List.replicate n (.step t)) ∧
      Alone (Runs.run Commands.step σ (List.replicate n (.step t))) t := by
  induction n generalizing σ with
  | zero => exact ⟨trivial, h⟩
  | succ n ih =>
      obtain ⟨halong, halone⟩ := ih h.step
      exact ⟨⟨h.undisturbed, halong⟩, halone⟩

/-- Nothing is held once it has ended. -/
theorem Alone.crash (h : Alone σ t) (u : T) : Alone (Commands.step σ (.crash t)) u := by
  intro k v howner
  by_cases hvt : v = t
  · subst hvt
    exact absurd howner finish_owner_self
  · exact absurd (h k v ((finish_owner_iff hvt).mp howner)) hvt

end Schedules

end Commands
