import SwCouriers.Lib.RowLocks

/-!
# What Transactions Commit

Whatever a transaction reads, what it commits is one of the results of its program, and it
commits once. A property that all results of its program have is a property of its writes,
along every schedule and with no regard to locks.

## Main results

* `always_bind`, `always_check`, `Always.seeing`: the rules for the results of a program.
* `wp_of_always`: the rule for a part of a transaction of which only the results matter.
* `Sourced.run`, `Sourced.commit_of_ne`: a step that changes the store commits a result of the
  program that its transaction was started with.
* `store_step_of_raises`: a transaction that raises has committed nothing.
-/

namespace ReadCommitted

namespace Txn

variable {S K ε α β : Type}

/-- Whatever the program reads, what it returns satisfies `P`. -/
def Always (P : α → Prop) : Txn S K ε α → Prop
  | pure a => P a
  | raise _ => True
  | read next => ∀ s, (next s).Always P
  | lock _ next => ∀ s, (next s).Always P

variable {P : α → Prop}

theorem always_bind {p : Txn S K ε β} {f : β → Txn S K ε α} :
    (p >>= f).Always P ↔ p.Always fun b => (f b).Always P := by
  change (p.bind f).Always P ↔ _
  induction p with
  | pure b => exact Iff.rfl
  | raise e => exact Iff.rfl
  | read next ih => exact forall_congr' fun s => ih s
  | lock k next ih => exact forall_congr' fun s => ih s

theorem always_check {x : Except ε α} :
    (check x : Txn S K ε α).Always P ↔ ∀ a, x = .ok a → P a := by
  cases x <;> simp [check, Always]

/-- The property may be weakened. -/
theorem Always.imp {Q : α → Prop} {p : Txn S K ε α} (h : p.Always P) (hPQ : ∀ a, P a → Q a) :
    p.Always Q := by
  induction p with
  | pure a => exact hPQ a h
  | raise e => trivial
  | read next ih => exact fun s => ih s (h s)
  | lock k next ih => exact fun s => ih s (h s)

theorem always_true (p : Txn S K ε α) : p.Always fun _ => True := by
  induction p with
  | pure a => trivial
  | raise e => trivial
  | read next ih => exact ih
  | lock k next ih => exact ih

/-- Earlier writes of the transaction do not matter. -/
theorem Always.seeing {p : Txn S K ε α} (h : p.Always P) (w : S → S) :
    (p.seeing w).Always P := by
  induction p with
  | pure a => exact h
  | raise e => trivial
  | read next ih => exact fun s => ih (w s) (h (w s))
  | lock k next ih => exact fun s => ih (w s) (h (w s))

end Txn

/-- The rule for a part of a transaction of which only the results matter. -/
theorem Discipline.wp_of_always {S K ε α : Type} {D : Discipline S K} {s : S} {held : K → Prop}
    {Q : α → S → (K → Prop) → Prop} {P : α → Prop} {p : Txn S K ε α} (hinv : D.inv s)
    (hp : p.Always P)
    (h : ∀ a s' held', D.Later s held s' held' → D.inv s' → P a → Q a s' held') :
    D.wp Q p s held := by
  suffices hlater : ∀ s' held', D.Later s held s' held' → D.inv s' → D.wp Q p s' held' from
    hlater s held (.refl hinv) hinv
  induction p with
  | pure a => exact fun s' held' hlater hinv' => h a s' held' hlater hinv' hp
  | raise e => exact fun _ _ _ _ => trivial
  | read next ih =>
      intro s' held' hlater _ s'' hrely
      exact ih s' (hp s') s'' held' (hlater.step (fun _ hk => hk) hrely) hrely.2
  | lock k next ih =>
      intro s' held' hlater _ s'' hrely
      exact ih s' (hp s') s'' _ (hlater.step (fun _ hk => .inr hk) hrely) hrely.2

/-- What can be left of a transaction after a step of a schedule. -/
theorem advances_cases {S K ε : Type} {s : S} {rest rest' : Rest S K ε}
    (h : Advances (transactions S K ε) s rest rest') {q : Txn S K ε (S → S)}
    (hq : rest' = some q) :
    rest = some q ∨ (∃ next, rest = some (.read next) ∧ q = next s) ∨
      ∃ k next, rest = some (.lock k next) ∧ q = next s := by
  cases h with
  | stay => exact .inl hq
  | dead => cases hq
  | read hnext =>
      match rest, hnext with
      | some (.read next), rfl => exact .inr (.inl ⟨next, rfl, (Option.some.inj hq).symm⟩)
  | lock hnext =>
      match rest, hnext with
      | some (.lock k next), rfl => exact .inr (.inr ⟨k, next, rfl, (Option.some.inj hq).symm⟩)
  | commit hnext =>
      match rest, hnext with
      | some (.pure _), rfl => cases hq
  | abort hnext =>
      match rest, hnext with
      | some (.raise _), rfl => cases hq

section Schedules

variable {S K ε T : Type} {P : T → (S → S) → Prop}

/-- What the transactions may still commit are results of the programs they were started
with. -/
def Sourced (P : T → (S → S) → Prop) (σ : State S K T (Rest S K ε)) : Prop :=
  ∀ t, ∀ p ∈ σ.txn t, p.Always (P t)

theorem sourced_start {s : S} {p : T → Txn S K ε (S → S)} (h : ∀ t, (p t).Always (P t)) :
    Sourced P (.start s fun t => some (p t) : State S K T (Rest S K ε)) := by
  intro t q hq
  obtain rfl := Option.some.inj hq
  exact h t

variable [DecidableEq K] [DecidableEq T] {σ : State S K T (Rest S K ε)}

theorem Sourced.step (h : Sourced P σ) (e : Event T) :
    Sourced P (step (transactions S K ε) σ e) := by
  intro t q hq
  have hstep := advances_step (transactions S K ε) σ e t
  rcases advances_cases hstep hq with hrest | ⟨next, hrest, rfl⟩ | ⟨k, next, hrest, rfl⟩
  · exact h t q hrest
  · exact h t _ hrest σ.store
  · exact h t _ hrest σ.store

theorem Sourced.run (h : Sourced P σ) (events : List (Event T)) :
    Sourced P (Runs.run (ReadCommitted.step (transactions S K ε)) σ events) :=
  Runs.run_invariant (fun _ e hs => hs.step e) h events

/-- A step that changes the store commits what its transaction has returned, and ends it. -/
theorem commit_of_ne {e : Event T}
    (hne : (ReadCommitted.step (transactions S K ε) σ e).store ≠ σ.store) :
    ∃ t write, e = .step t ∧ σ.txn t = some (.pure write) ∧
      ReadCommitted.step (transactions S K ε) σ e = σ.finish t (write σ.store) none := by
  obtain ⟨t, write, next, rfl, hnext, hstep⟩ := exists_commit_of_ne hne
  match hrest : σ.txn t with
  | none =>
      rw [hrest] at hnext
      cases hnext
  | some (.pure w) =>
      rw [hrest] at hnext
      obtain ⟨rfl, rfl⟩ : w = write ∧ none = next := by simpa [transactions, Rest.next] using hnext
      exact ⟨t, w, rfl, hrest, hstep⟩
  | some (.raise _) | some (.read _) | some (.lock _ _) =>
      rw [hrest] at hnext
      cases hnext

/-- **A step that changes the store commits a result of the program that its transaction was
started with.** -/
theorem Sourced.commit_of_ne (h : Sourced P σ) {e : Event T}
    (hne : (ReadCommitted.step (transactions S K ε) σ e).store ≠ σ.store) :
    ∃ t write, e = .step t ∧ P t write ∧
      (ReadCommitted.step (transactions S K ε) σ e).store = write σ.store := by
  obtain ⟨t, write, rfl, hrest, hstep⟩ := ReadCommitted.commit_of_ne hne
  exact ⟨t, write, rfl, h t _ hrest, by rw [hstep]; rfl⟩

/-! ### Transactions that raise -/

/-- The transaction is about to raise. -/
def Raises (σ : State S K T (Rest S K ε)) (t : T) : Prop := ∃ e, σ.txn t = some (.raise e)

/-- A transaction that is over stays so. -/
theorem txn_step_of_none {t : T} (h : σ.txn t = none) (e : Event T) :
    (ReadCommitted.step (transactions S K ε) σ e).txn t = none := by
  have hstep := advances_step (transactions S K ε) σ e t
  rw [h] at hstep
  cases hq : (ReadCommitted.step (transactions S K ε) σ e).txn t with
  | none => rfl
  | some q =>
      rcases advances_cases hstep hq with hrest | ⟨_, hrest, -⟩ | ⟨_, _, hrest, -⟩ <;> cases hrest

/-- **A transaction that raises has left the store alone** with each of its steps, the one that
raises included. -/
theorem store_step_of_raises {pre : List (Event T)} {t : T}
    (h : Raises (Runs.run (ReadCommitted.step (transactions S K ε)) σ pre) t)
    {earlier later : List (Event T)} (hpre : pre ++ [.step t] = earlier ++ .step t :: later) :
    (Runs.run (ReadCommitted.step (transactions S K ε)) σ (earlier ++ [.step t])).store =
      (Runs.run (ReadCommitted.step (transactions S K ε)) σ earlier).store := by
  rw [Runs.run_append, Runs.run_cons, Runs.run_nil]
  by_contra hne
  obtain ⟨u, write, hu, hrest, hstep⟩ := commit_of_ne hne
  obtain rfl := Event.step.inj hu
  obtain ⟨error, hraise⟩ := h
  rcases List.eq_nil_or_concat later with rfl | ⟨mid, e, rfl⟩
  · obtain ⟨rfl, -⟩ := List.append_inj' hpre rfl
    exact absurd (hraise.symm.trans hrest) (by simp)
  · -- The commit would have ended the transaction long before it raised.
    have hpre' : pre ++ [.step t] = (earlier ++ .step t :: mid) ++ [e] := by simpa using hpre
    obtain ⟨hsplit, -⟩ := List.append_inj' hpre' rfl
    have hover : (Runs.run (ReadCommitted.step (transactions S K ε)) σ pre).txn t = none := by
      rw [hsplit, Runs.run_append, Runs.run_cons]
      refine Runs.run_invariant (I := fun τ : State S K T (Rest S K ε) => τ.txn t = none)
        (fun _ e hover => txn_step_of_none hover e) ?_ mid
      rw [hstep]
      simp [State.finish]
    exact absurd (hraise.symm.trans hover) (by simp)

end Schedules

end ReadCommitted
