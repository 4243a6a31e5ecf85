import SwCouriers.Lib.ReadCommitted

/-!
# A Logic for Transactions

A transaction is written as a program of statements (`Txn`): each reads the committed store,
some lock a row first, any may raise. What the program returns is the transaction's writes,
which are then committed at once.

A discipline says what every committed store satisfies and how the store evolves while
given rows may be touched. `wp` is what has to hold before a program for its result to
satisfy a postcondition, whatever the others commit between two statements without
touching a row that the transaction holds. One rule per statement, and the rule for
sequencing, reduce a transaction to facts about stores.

## Main results

* `wp_bind`, `wp_check`, `wp_query`, `wp_statement`, `wp_lockRow`, `wp_forEach`: the rules.
* `wp_seeing`, `wp_seeing_commits`: the rules for what a transaction does after writes of its
  own.
* `step_of_fails`: a transaction that fails leaves nothing behind.
* `Discipline.evolves_run`: how the store evolves along a schedule.
* `Discipline.run`: transactions that keep the discipline on their own keep it together.
-/

namespace ReadCommitted

/-- A program of statements over the store `S`, with locks `K` and errors `ε`. -/
inductive Txn (S K ε α : Type) where
  | pure (a : α)
  | raise (e : ε)
  | read (next : S → Txn S K ε α)
  | lock (k : K) (next : S → Txn S K ε α)

namespace Txn

variable {S K ε α β : Type}

/-- One program after the other. -/
def bind : Txn S K ε α → (α → Txn S K ε β) → Txn S K ε β
  | pure a, f => f a
  | raise e, _ => raise e
  | read next, f => read fun s => (next s).bind f
  | lock k next, f => lock k fun s => (next s).bind f

instance : Monad (Txn S K ε) where
  pure := Txn.pure
  bind := Txn.bind

/-- A check between two statements. -/
def check : Except ε α → Txn S K ε α
  | .ok a => pure a
  | .error e => raise e

/-- A statement that reads. -/
def query (q : S → α) : Txn S K ε α := read fun s => pure (q s)

/-- A statement that reads, and a check of what it read. -/
def statement (q : S → Except ε α) : Txn S K ε α := read fun s => check (q s)

/-- A statement that locks a row and reads, and a check of what it read. -/
def lockRow (k : K) (q : S → Except ε α) : Txn S K ε α := lock k fun s => check (q s)

/-- A part of a transaction that sees the writes `w` which the transaction made before it. -/
def seeing (w : S → S) : Txn S K ε α → Txn S K ε α
  | pure a => pure a
  | raise e => raise e
  | read next => read fun s => (next (w s)).seeing w
  | lock k next => lock k fun s => (next (w s)).seeing w

/-- A loop over a list, with an accumulator. -/
def forEach (f : β → α → Txn S K ε β) : List α → β → Txn S K ε β
  | [], b => pure b
  | a :: l, b => (f b a).bind (forEach f l)

end Txn

/-- Where a transaction is: at the rest of its program, or at its end. -/
abbrev Rest (S K ε : Type) := Option (Txn S K ε (S → S))

/-- The next statement of a transaction. -/
def Rest.next {S K ε : Type} : Rest S K ε → Action S K (Rest S K ε)
  | none => .halt
  | some (.pure write) => .commit write none
  | some (.raise _) => .abort none
  | some (.read next) => .read fun s => some (next s)
  | some (.lock k next) => .lock k fun s => some (next s)

/-- Transactions that are written as programs. -/
def transactions (S K ε : Type) : Program S K (Rest S K ε) where
  next := Rest.next
  dead := none
  halts := rfl

/-- What every committed store satisfies, and how a store evolves when the rows that may be
touched are given. -/
structure Discipline (S K : Type) where
  inv : S → Prop
  evolves : (K → Prop) → S → S → Prop
  refl : ∀ touched s, evolves touched s s
  trans : ∀ {touched s₁ s₂ s₃}, evolves touched s₁ s₂ → evolves touched s₂ s₃ →
    evolves touched s₁ s₃
  mono : ∀ {touched touched' s s'}, (∀ k, touched k → touched' k) →
    evolves touched s s' → evolves touched' s s'

namespace Discipline

variable {S K ε α β : Type} (D : Discipline S K)

/-- What the others may turn the store into while a transaction holds given rows. -/
def Rely (held : K → Prop) (s s' : S) : Prop :=
  D.evolves (fun k => ¬ held k) s s' ∧ D.inv s'

/-- What has to hold of the store and the rows held for the result to satisfy `Q`. -/
def wp (Q : α → S → (K → Prop) → Prop) : Txn S K ε α → S → (K → Prop) → Prop
  | .pure a, s, held => Q a s held
  | .raise _, _, _ => True
  | .read next, s, held => ∀ s', D.Rely held s s' → wp Q (next s) s' held
  | .lock k next, s, held =>
      ∀ s', D.Rely (fun j => j = k ∨ held j) s s' →
        wp Q (next s) s' fun j => j = k ∨ held j

/-- The writes of a transaction may be committed. -/
def Commits (write : S → S) (s : S) (held : K → Prop) : Prop :=
  D.inv (write s) ∧ D.evolves held s (write s)

/-- A transaction keeps the discipline, from a given store on. -/
def Keeps (p : Txn S K ε (S → S)) (s : S) (held : K → Prop) : Prop :=
  ∀ s', D.Rely held s s' → D.wp D.Commits p s' held

/-- Writes that are still to be committed, from a given store on: whatever else gets locked
and whatever the others commit, they may be committed, and what the others do looks the same
through them. -/
def Pending (w : S → S) (s : S) (held : K → Prop) : Prop :=
  ∀ s', D.Rely held s s' → ∀ held' : K → Prop, (∀ k, held k → held' k) →
    D.Commits w s' held' ∧ ∀ s'', D.Rely held' s' s'' → D.Rely held' (w s') (w s'')

variable {D}

theorem Rely.trans {held : K → Prop} {s₁ s₂ s₃ : S} (h₁ : D.Rely held s₁ s₂)
    (h₂ : D.Rely held s₂ s₃) : D.Rely held s₁ s₃ :=
  ⟨D.trans h₁.1 h₂.1, h₂.2⟩

variable {s' : S}

/-- The more a transaction holds, the less the others can do. -/
theorem Rely.weaken {held held' : K → Prop} {s : S} (hsub : ∀ k, held k → held' k)
    (h : D.Rely held' s s') : D.Rely held s s' :=
  ⟨D.mono (fun k hk hheld => hk (hsub k hheld)) h.1, h.2⟩

/-- A later point of a transaction: it holds more, and the others have gone on. -/
def Later (D : Discipline S K) (s : S) (held : K → Prop) (s' : S) (held' : K → Prop) : Prop :=
  (∀ k, held k → held' k) ∧ D.Rely held s s'

theorem Later.step {s₀ s : S} {held₀ held held' : K → Prop} (h : D.Later s₀ held₀ s held)
    (hsub : ∀ k, held k → held' k) (hrely : D.Rely held' s s') : D.Later s₀ held₀ s' held' :=
  ⟨fun k hk => hsub k (h.1 k hk), h.2.trans (hrely.weaken fun k hk => hsub k (h.1 k hk))⟩

theorem Later.refl {s : S} {held : K → Prop} (hinv : D.inv s) : D.Later s held s held :=
  ⟨fun _ hk => hk, D.refl _ _, hinv⟩

theorem Later.trans {s₁ s₂ s₃ : S} {held₁ held₂ held₃ : K → Prop}
    (h : D.Later s₁ held₁ s₂ held₂) (h' : D.Later s₂ held₂ s₃ held₃) :
    D.Later s₁ held₁ s₃ held₃ :=
  ⟨fun k hk => h'.1 k (h.1 k hk), h.2.trans (h'.2.weaken h.1)⟩

/-- What the others have done meanwhile. -/
theorem Later.of_rely {s : S} {held : K → Prop} (h : D.Rely held s s') :
    D.Later s held s' held := ⟨fun _ hk => hk, h⟩

/-- A row was locked meanwhile. -/
theorem Later.of_lock {s : S} {held : K → Prop} {k : K}
    (h : D.Rely (fun j => j = k ∨ held j) s s') : D.Later s held s' fun j => j = k ∨ held j :=
  ⟨fun _ hk => .inr hk, h.weaken fun _ hk => .inr hk⟩

/-! ### The rules -/

section Rules

variable {Q : α → S → (K → Prop) → Prop} {s : S} {held : K → Prop}

theorem wp_bind {p : Txn S K ε β} {f : β → Txn S K ε α} :
    D.wp Q (p >>= f) s held ↔ D.wp (fun b => D.wp Q (f b)) p s held := by
  change D.wp Q (p.bind f) s held ↔ _
  induction p generalizing s held with
  | pure b => exact Iff.rfl
  | raise e => exact Iff.rfl
  | read next ih => exact forall₂_congr fun s' _ => ih s
  | lock k next ih => exact forall₂_congr fun s' _ => ih s

theorem wp_check {x : Except ε α} :
    D.wp Q (.check x : Txn S K ε α) s held ↔ ∀ a, x = .ok a → Q a s held := by
  cases x with
  | error e => simp [Txn.check, wp]
  | ok a => simp [Txn.check, wp]

theorem wp_query {q : S → α} :
    D.wp Q (.query q : Txn S K ε α) s held ↔ ∀ s', D.Rely held s s' → Q (q s) s' held :=
  Iff.rfl

theorem wp_statement {q : S → Except ε α} :
    D.wp Q (.statement q : Txn S K ε α) s held ↔
      ∀ s', D.Rely held s s' → ∀ a, q s = .ok a → Q a s' held :=
  forall₂_congr fun _ _ => wp_check

theorem wp_lockRow {k : K} {q : S → Except ε α} :
    D.wp Q (.lockRow k q : Txn S K ε α) s held ↔
      ∀ s', D.Rely (fun j => j = k ∨ held j) s s' → ∀ a, q s = .ok a →
        Q a s' fun j => j = k ∨ held j :=
  forall₂_congr fun _ _ => wp_check

/-- The postcondition may be weakened. -/
theorem wp_mono {Q' : α → S → (K → Prop) → Prop} (hQ : ∀ a s held, Q a s held → Q' a s held)
    {p : Txn S K ε α} (h : D.wp Q p s held) : D.wp Q' p s held := by
  induction p generalizing s held with
  | pure a => exact hQ a s held h
  | raise e => trivial
  | read next ih => exact fun s' hs' => ih s (h s' hs')
  | lock k next ih => exact fun s' hs' => ih s (h s' hs')

/-- What every committed store satisfies holds at the end as well. -/
theorem wp_and_inv {p : Txn S K ε α} (hinv : D.inv s) (h : D.wp Q p s held) :
    D.wp (fun a s held => D.inv s ∧ Q a s held) p s held := by
  induction p generalizing s held with
  | pure a => exact ⟨hinv, h⟩
  | raise e => trivial
  | read next ih => exact fun s' hs' => ih s hs'.2 (h s' hs')
  | lock k next ih => exact fun s' hs' => ih s hs'.2 (h s' hs')

theorem Pending.later {w : S → S} {held' : K → Prop} (h : D.Pending w s held)
    (hsub : ∀ k, held k → held' k) (hrely : D.Rely held' s s') : D.Pending w s' held' :=
  fun s'' hrely' held'' hsub' =>
    h s'' ((hrely.trans hrely').weaken hsub) held'' fun k hk => hsub' k (hsub k hk)

/-- The rule for a part that sees earlier writes: it runs as it would on the store with the
writes, and they may still be committed afterwards. -/
theorem wp_seeing {w : S → S} {p : Txn S K ε α} (hinv : D.inv s) (hw : D.Pending w s held)
    (h : D.wp Q p (w s) held) :
    D.wp (fun a s held => Q a (w s) held ∧ D.Commits w s held) (p.seeing w) s held := by
  induction p generalizing s held with
  | pure a => exact ⟨h, (hw s ⟨D.refl _ s, hinv⟩ held fun _ hk => hk).1⟩
  | raise e => trivial
  | read next ih =>
      intro s' hs'
      have hview := (hw s ⟨D.refl _ s, hinv⟩ held fun _ hk => hk).2 s' hs'
      exact ih (w s) hs'.2 (hw.later (fun _ hk => hk) hs') (h (w s') hview)
  | lock k next ih =>
      intro s' hs'
      have hview := (hw s ⟨D.refl _ s, hinv⟩ _ fun _ hk => .inr hk).2 s' hs'
      exact ih (w s) hs'.2 (hw.later (fun _ hk => .inr hk) hs') (h (w s') hview)

/-- The rest of a transaction after its writes `w`. -/
theorem wp_seeing_commits {w : S → S} {p : Txn S K ε (S → S)} (hinv : D.inv s)
    (hw : D.Pending w s held) (h : D.wp D.Commits p (w s) held) :
    D.wp D.Commits (p.seeing w >>= fun w' => pure fun s => w' (w s)) s held := by
  refine wp_bind.mpr (wp_mono ?_ (wp_seeing hinv hw h))
  rintro w' s held ⟨hw', hw⟩
  exact ⟨hw'.1, D.trans hw.2 hw'.2⟩

/-- A loop keeps what each of its rounds keeps; `I` may depend on what is left to do. -/
theorem wp_forEach {f : β → α → Txn S K ε β} {I : List α → β → S → (K → Prop) → Prop}
    (hround : ∀ a rest b s held, I (a :: rest) b s held → D.wp (I rest) (f b a) s held)
    {l : List α} {b : β} (h : I l b s held) :
    D.wp (I []) (.forEach f l b : Txn S K ε β) s held := by
  induction l generalizing b s held with
  | nil => exact h
  | cons a l ih =>
      refine wp_bind.mpr ?_
      exact wp_mono (fun b s held hI => ih hI) (hround a l b s held h)

end Rules

/-! ### Schedules -/

/-- The event ends the transaction `t` without a commit. -/
def Fails {T : Type} (σ : State S K T (Rest S K ε)) (t : T) : Event T → Prop
  | .crash u => u = t
  | .step u => u = t ∧ ∃ e, σ.txn t = some (.raise e)

/-- A transaction that fails leaves nothing behind: neither a write nor a lock. -/
theorem step_of_fails {T : Type} [DecidableEq K] [DecidableEq T] {σ : State S K T (Rest S K ε)}
    {t : T} {e : Event T} (h : Fails σ t e) :
    (step (transactions S K ε) σ e).store = σ.store ∧
      ∀ k, (step (transactions S K ε) σ e).owner k ≠ some t := by
  cases e with
  | crash u =>
      obtain rfl : u = t := h
      exact ⟨rfl, fun k => finish_owner_self⟩
  | step u =>
      obtain ⟨rfl, error, htxn⟩ := h
      simp only [step, transactions, Rest.next, htxn]
      exact ⟨rfl, fun k => finish_owner_self⟩

/-- Transactions that keep the discipline have an outline. -/
def outline (D : Discipline S K) : Outline (transactions S K ε) where
  inv := D.inv
  holds := fun rest s held => ∀ p ∈ rest, D.Keeps p s held
  guarantee := fun held s s' => D.evolves held s s' ∧ D.inv s'
  dead := fun _ p hp => absurd hp (Option.not_mem_none p)
  read := by
    intro rest s held next hnext hinv h p hp s' hs'
    match rest, hnext with
    | some (.read _), rfl =>
        obtain rfl := Option.some.inj hp
        exact h _ rfl s ⟨D.refl _ s, hinv⟩ s' hs'
  lock := by
    intro rest s held k next hnext hinv h p hp s' hs'
    match rest, hnext with
    | some (.lock _ _), rfl =>
        obtain rfl := Option.some.inj hp
        exact h _ rfl s ⟨D.refl _ s, hinv⟩ s' hs'
  commit := by
    intro rest s held write next hnext hinv h
    match rest, hnext with
    | some (.pure _), rfl =>
        obtain ⟨hinv', hevolves⟩ : D.Commits write s held := h _ rfl s ⟨D.refl _ s, hinv⟩
        exact ⟨hinv', ⟨hevolves, hinv'⟩, fun p hp => absurd hp (Option.not_mem_none p)⟩
  abort := by
    intro rest s held next hnext _ _
    match rest, hnext with
    | some (.raise _), rfl => exact fun p hp => absurd hp (Option.not_mem_none p)
  stable := by
    intro rest s s' held other h hguar hdisjoint p hp s'' hs''
    -- What another transaction commits touches nothing that is held here.
    have hother : D.evolves (fun k => ¬ held k) s s' :=
      D.mono (fun k hk hheld => hdisjoint k hheld hk) hguar.1
    exact h p hp s'' ⟨D.trans hother hs''.1, hs''.2⟩

/-- The store evolves along every schedule. -/
theorem evolves_run {T : Type} [DecidableEq K] [DecidableEq T] {D : Discipline S K}
    {σ : State S K T (Rest S K ε)} (h : D.outline.Sound σ) (events : List (Event T)) :
    D.evolves (fun _ => True) σ.store
      (Runs.run (step (transactions S K ε)) σ events).store := by
  induction events generalizing σ with
  | nil => exact D.refl _ _
  | cons e events ih =>
      refine D.trans ?_ (ih (h.step e))
      rcases h.guarantee_step e with hsame | ⟨held, hevolves, -⟩
      · rw [hsame]
        exact D.refl _ _
      · exact D.mono (fun _ _ => trivial) hevolves

/-- **Transactions that keep a discipline each on its own keep it together**, whatever the
schedule. -/
theorem run {T : Type} [DecidableEq K] [DecidableEq T] {D : Discipline S K} {s : S}
    (hinv : D.inv s) {p : T → Txn S K ε (S → S)} (hp : ∀ t, D.Keeps (p t) s fun _ => False)
    (events : List (Event T)) :
    D.inv (Runs.run (step (transactions S K ε)) (.start s fun t => some (p t)) events).store := by
  have hstart : D.outline.Sound (State.start (K := K) s fun t => some (p t)) := by
    refine Outline.sound_start hinv fun t q hq => ?_
    obtain rfl := Option.some.inj hq
    exact hp t
  exact (hstart.run events).inv

end Discipline

end ReadCommitted
