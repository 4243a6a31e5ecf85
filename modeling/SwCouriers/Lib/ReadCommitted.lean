import Mathlib.Logic.Function.Basic
import Mathlib.Tactic.SplitIfs
import SwCouriers.Lib.Runs

/-!
# Transactions at Read Committed

A store is shared by transactions, each of which runs a program one statement at a time.
Between two statements of one transaction the others take any number of theirs, in any
order. What a statement reads is what is committed when it runs, so two statements of one
transaction may see different stores. A transaction keeps its own writes to itself until
it commits them all at once; a row that it has locked stays its own until then, and whoever
else wants to lock the row waits.

An outline of a program says what holds of the store, and what a transaction may rely on
at each of its points while it holds given rows. It has to be kept by the transaction's own
statements, and by whatever another transaction commits without holding one of those rows.

## Main results

* `Outline.Sound.run`: what an outline says holds after every schedule.
* `advances_step`, `exists_commit_of_ne`: what a step does to a transaction, and that it
  changes the store only by committing.
-/

namespace ReadCommitted

/-- What a transaction does next: `S` is the store, `K` what can be locked and `L` the
points of the program. -/
inductive Action (S K L : Type*) where
  /-- A statement that reads what is committed. -/
  | read (next : S → L)
  /-- A statement that waits for a row, locks it and reads what is committed then. -/
  | lock (k : K) (next : S → L)
  /-- The transaction's writes become visible and its locks are released. -/
  | commit (write : S → S) (next : L)
  /-- The writes are forgotten and the locks released. -/
  | abort (next : L)
  /-- The transaction is over. -/
  | halt

/-- The program that every transaction runs, each from a point of its own. -/
structure Program (S K L : Type*) where
  next : L → Action S K L
  /-- Where a transaction is once it was aborted from outside. -/
  dead : L
  halts : next dead = .halt

/-- The committed store, the owner of every row, and where each transaction is. -/
structure State (S K T L : Type*) where
  store : S
  owner : K → Option T
  txn : T → L

/-- A schedule lets one transaction after another take a step. A transaction may also be
aborted from outside at any time, as the victim of a deadlock or for any other reason. -/
inductive Event (T : Type*) where
  | step (t : T)
  | crash (t : T)

variable {S K T L : Type*}

/-- No transaction has started and nothing is locked. -/
def State.start (s : S) (l : T → L) : State S K T L := ⟨s, fun _ => none, l⟩

/-- A transaction ends at `l`, with `s` committed, and its locks are released. -/
def State.finish [DecidableEq T] (σ : State S K T L) (t : T) (s : S) (l : L) : State S K T L where
  store := s
  owner := fun k => if σ.owner k = some t then none else σ.owner k
  txn := Function.update σ.txn t l

/-- One step of a schedule. -/
def step [DecidableEq K] [DecidableEq T] (p : Program S K L) (σ : State S K T L) :
    Event T → State S K T L
  | .crash t => σ.finish t σ.store p.dead
  | .step t =>
      match p.next (σ.txn t) with
      | .read next => { σ with txn := Function.update σ.txn t (next σ.store) }
      | .lock k next =>
          if σ.owner k = none ∨ σ.owner k = some t then
            { σ with
              owner := Function.update σ.owner k (some t)
              txn := Function.update σ.txn t (next σ.store) }
          else σ
      | .commit write next => σ.finish t (write σ.store) next
      | .abort next => σ.finish t σ.store next
      | .halt => σ

/-- An outline of a program. `holds l s held` is what a transaction at `l` knows of the
store `s` while it holds the rows `held`; `guarantee held s s'` is what a transaction that
holds them may turn the store into. -/
structure Outline (p : Program S K L) where
  inv : S → Prop
  holds : L → S → (K → Prop) → Prop
  guarantee : (K → Prop) → S → S → Prop
  dead : ∀ s, holds p.dead s fun _ => False
  read : ∀ {l s held next}, p.next l = .read next → inv s → holds l s held →
    holds (next s) s held
  lock : ∀ {l s held k next}, p.next l = .lock k next → inv s → holds l s held →
    holds (next s) s fun j => j = k ∨ held j
  commit : ∀ {l s held write next}, p.next l = .commit write next → inv s →
    holds l s held → inv (write s) ∧ guarantee held s (write s) ∧
      holds next (write s) fun _ => False
  abort : ∀ {l s held next}, p.next l = .abort next → inv s → holds l s held →
    holds next s fun _ => False
  stable : ∀ {l s s' held other}, holds l s held → guarantee other s s' →
    (∀ k, held k → ¬ other k) → holds l s' held

/-- What an outline says of a state. -/
structure Outline.Sound {p : Program S K L} (o : Outline p) (σ : State S K T L) : Prop where
  inv : o.inv σ.store
  holds : ∀ t, o.holds (σ.txn t) σ.store fun k => σ.owner k = some t

variable {s : S} {k : K} {t : T}

theorem Outline.sound_start {p : Program S K L} {o : Outline p} {l : T → L} (hinv : o.inv s)
    (hstart : ∀ t, o.holds (l t) s fun _ => False) : o.Sound (State.start (K := K) s l) := by
  refine ⟨hinv, fun t => ?_⟩
  have hnone : (fun k => (State.start (K := K) s l).owner k = some t) = fun _ => False :=
    funext fun k => eq_false (by simp [State.start])
  rw [hnone]
  exact hstart t

/-- Where one transaction can be after a step of any of them. -/
inductive Advances (p : Program S K L) (s : S) (l : L) : L → Prop
  | stay : Advances p s l l
  | dead : Advances p s l p.dead
  | read {next : S → L} (h : p.next l = .read next) : Advances p s l (next s)
  | lock {k : K} {next : S → L} (h : p.next l = .lock k next) : Advances p s l (next s)
  | commit {write : S → S} {next : L} (h : p.next l = .commit write next) :
      Advances p s l next
  | abort {next : L} (h : p.next l = .abort next) : Advances p s l next

section Locks

variable [DecidableEq K] {owner : K → Option T}

/-- Taking a free row takes it from nobody else. -/
theorem update_owner_iff {u : T} (hne : u ≠ t) (hfree : owner k = none ∨ owner k = some t) (j : K) :
    Function.update owner k (some t) j = some u ↔ owner j = some u := by
  by_cases hj : j = k
  · subst hj
    rw [Function.update_self]
    rcases hfree with hfree | hfree <;> simp [hfree, hne.symm]
  · rw [Function.update_of_ne hj]

theorem update_owner_self (j : K) :
    Function.update owner k (some t) j = some t ↔ j = k ∨ owner j = some t := by
  by_cases hj : j = k
  · subst hj
    simp
  · rw [Function.update_of_ne hj]
    simp [hj]

end Locks

section Ends

variable [DecidableEq T] {p : Program S K L} {o : Outline p} {σ : State S K T L}
variable {l : L}

/-- The rows of the other transactions are theirs after one has ended. -/
theorem finish_owner_iff {u : T} (hne : u ≠ t) :
    (σ.finish t s l).owner k = some u ↔ σ.owner k = some u := by
  simp only [State.finish]
  split_ifs with h
  · rw [h]
    simp [hne.symm]
  · rfl

theorem finish_owner_self : ¬ (σ.finish t s l).owner k = some t := by
  simp only [State.finish]
  split_ifs with h
  · simp
  · exact h

/-- What is known of every transaction and of what it holds stays known when one of them moves and
what the others hold stays theirs. -/
theorem forall_txn_update {C : L → (K → Prop) → Prop} {owner : K → Option T}
    (howner : ∀ u, u ≠ t → ∀ k, owner k = some u ↔ σ.owner k = some u)
    (hself : C l fun k => owner k = some t)
    (hothers : ∀ u, u ≠ t → C (σ.txn u) fun k => σ.owner k = some u) (u : T) :
    C (Function.update σ.txn t l u) fun k => owner k = some u := by
  by_cases hut : u = t
  · subst hut
    rwa [Function.update_self]
  · have hsame : (fun k => owner k = some u) = fun k => σ.owner k = some u :=
      funext fun k => propext (howner u hut k)
    rw [Function.update_of_ne hut, hsame]
    exact hothers u hut

/-- What is known of every transaction stays known when one of them ends, holding nothing. -/
theorem forall_txn_finish {C : L → (K → Prop) → Prop} (hself : C l fun _ => False)
    (hothers : ∀ u, u ≠ t → C (σ.txn u) fun k => σ.owner k = some u) (u : T) :
    C ((σ.finish t s l).txn u) fun k => (σ.finish t s l).owner k = some u := by
  refine forall_txn_update (fun _ hut _ => finish_owner_iff hut) ?_ hothers u
  have hnone : (fun k => (σ.finish t s l).owner k = some t) = fun _ => False :=
    funext fun k => eq_false finish_owner_self
  exact hnone ▸ hself

/-- The end of a transaction, when what it leaves behind is sound and the others can live
with it. -/
theorem Outline.sound_finish (hinv : o.inv s) (hself : o.holds l s fun _ => False)
    (hothers : ∀ u, u ≠ t → o.holds (σ.txn u) s fun k => σ.owner k = some u) :
    o.Sound (σ.finish t s l) :=
  ⟨hinv, forall_txn_finish (C := fun l held => o.holds l s held) hself hothers⟩

/-- A statement of one transaction that commits nothing leaves the others where they
were. -/
theorem Outline.Sound.advance (h : o.Sound σ) {owner : K → Option T}
    (howner : ∀ u, u ≠ t → ∀ k, owner k = some u ↔ σ.owner k = some u)
    (hself : o.holds l σ.store fun k => owner k = some t) :
    o.Sound { σ with owner := owner, txn := Function.update σ.txn t l } :=
  ⟨h.inv, forall_txn_update (C := fun l held => o.holds l σ.store held) howner hself
    fun u _ => h.holds u⟩

/-- The others stay where they are when one transaction moves. -/
theorem advances_update {u : T} (h : Advances p σ.store (σ.txn t) l) :
    Advances p σ.store (σ.txn u) (Function.update σ.txn t l u) := by
  by_cases hut : u = t
  · subst hut
    rwa [Function.update_self]
  · rw [Function.update_of_ne hut]
    exact .stay

end Ends

section Schedules

variable [DecidableEq K] [DecidableEq T] {p : Program S K L} {o : Outline p}
  {σ : State S K T L}

/-- One step keeps what an outline says. -/
theorem Outline.Sound.step (h : o.Sound σ) (e : Event T) : o.Sound (step p σ e) := by
  cases e with
  | crash t => exact o.sound_finish h.inv (o.dead σ.store) fun u _ => h.holds u
  | step t =>
      rw [ReadCommitted.step]
      split
      case h_1 next hnext =>
        exact h.advance (fun _ _ _ => Iff.rfl) (o.read hnext h.inv (h.holds t))
      case h_2 k next hnext =>
        split_ifs with hfree
        · refine h.advance (fun u hut => update_owner_iff hut hfree) ?_
          have hheld : (fun j => Function.update σ.owner k (some t) j = some t)
              = fun j => j = k ∨ σ.owner j = some t :=
            funext fun j => propext (update_owner_self j)
          rw [hheld]
          exact o.lock hnext h.inv (h.holds t)
        · exact h
      case h_3 write next hnext =>
        obtain ⟨hinv, hguar, hself⟩ := o.commit hnext h.inv (h.holds t)
        refine o.sound_finish hinv hself fun u hut => ?_
        refine o.stable (h.holds u) hguar fun k hk hk' => ?_
        exact hut (Option.some.inj (hk.symm.trans hk'))
      case h_4 next hnext =>
        exact o.sound_finish h.inv (o.abort hnext h.inv (h.holds t)) fun u _ => h.holds u
      case h_5 => exact h

/-- A step that changes the store commits it. -/
theorem exists_commit_of_ne {e : Event T} (hne : (ReadCommitted.step p σ e).store ≠ σ.store) :
    ∃ t write next, e = .step t ∧ p.next (σ.txn t) = .commit write next ∧
      ReadCommitted.step p σ e = σ.finish t (write σ.store) next := by
  cases e with
  | crash t => exact absurd rfl hne
  | step t =>
      rw [ReadCommitted.step] at hne ⊢
      split at hne
      case h_3 write next hnext => exact ⟨t, write, next, rfl, hnext, rfl⟩
      case h_2 k next hnext =>
        split_ifs at hne
        · exact absurd rfl hne
        · exact absurd rfl hne
      all_goals exact absurd rfl hne

/-- What a step makes of the store is guaranteed, for the rows that one transaction holds. -/
theorem Outline.Sound.guarantee_step (h : o.Sound σ) (e : Event T) :
    (ReadCommitted.step p σ e).store = σ.store ∨
      ∃ held, o.guarantee held σ.store (ReadCommitted.step p σ e).store := by
  by_cases hsame : (ReadCommitted.step p σ e).store = σ.store
  · exact .inl hsame
  · obtain ⟨t, write, next, -, hnext, heq⟩ := exists_commit_of_ne hsame
    rw [heq]
    exact .inr ⟨_, (o.commit hnext h.inv (h.holds t)).2.1⟩

/-- **What an outline says holds after every schedule.** -/
theorem Outline.Sound.run (h : o.Sound σ) (events : List (Event T)) :
    o.Sound (Runs.run (ReadCommitted.step p) σ events) :=
  Runs.run_invariant (fun _ e hs => hs.step e) h events

theorem advances_step (p : Program S K L) (σ : State S K T L) (e : Event T) (u : T) :
    Advances p σ.store (σ.txn u) ((ReadCommitted.step p σ e).txn u) := by
  cases e with
  | crash t => exact advances_update .dead
  | step t =>
      rw [ReadCommitted.step]
      split
      case h_1 next hnext => exact advances_update (.read hnext)
      case h_2 k next hnext =>
        split_ifs
        · exact advances_update (.lock hnext)
        · exact .stay
      case h_3 write next hnext => exact advances_update (.commit hnext)
      case h_4 next hnext => exact advances_update (.abort hnext)
      case h_5 => exact .stay

end Schedules

end ReadCommitted
