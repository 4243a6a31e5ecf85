import SwCouriers.Lib.TransactionResults

/-!
# Writes that no Lock Covers

A transaction may commit a write that touches what it has not locked: it adds a row that
another transaction would have found, had it looked later. `loose s s' k` says that turning the
store `s` into `s'` touches `k` in this way. Such transactions do not keep a discipline in every
schedule, but they do in the schedules in which no commit touches loosely what another
transaction holds.

## Main results

* `wp_seeing_commitsLoosely`: the rule for what a transaction does after writes of its own.
* `run_of_undisturbed`, `evolves_of_undisturbed`: what a discipline says of the store, and of
  how it evolves, holds along every undisturbed schedule.
* `Alone.along`: a transaction that runs alone disturbs nobody.
-/

namespace ReadCommitted

namespace Discipline

variable {S K ε T : Type} {D : Discipline S K} {loose : S → S → K → Prop}

/-- The writes may be committed, if nobody else holds what they touch loosely. -/
def CommitsLoosely (D : Discipline S K) (loose : S → S → K → Prop) (write : S → S) (s : S)
    (held : K → Prop) : Prop :=
  D.inv (write s) ∧ D.evolves (fun k => held k ∨ loose s (write s) k) s (write s)

/-- A transaction keeps the discipline but for what it touches loosely. -/
def KeepsLoosely (D : Discipline S K) (loose : S → S → K → Prop) (p : Txn S K ε (S → S)) (s : S)
    (held : K → Prop) : Prop :=
  ∀ s', D.Rely held s s' → D.wp (D.CommitsLoosely loose) p s' held

/-- What the step commits touches nothing loosely that another transaction holds. -/
def Undisturbed (loose : S → S → K → Prop) (σ : State S K T (Rest S K ε)) : Event T → Prop
  | .crash _ => True
  | .step t => ∀ write, σ.txn t = some (.pure write) →
      ∀ k u, loose σ.store (write σ.store) k → σ.owner k = some u → u = t

/-- What is known of a state along an undisturbed schedule. -/
structure SoundLoosely (D : Discipline S K) (loose : S → S → K → Prop)
    (σ : State S K T (Rest S K ε)) : Prop where
  inv : D.inv σ.store
  holds : ∀ t, ∀ p ∈ σ.txn t, D.KeepsLoosely loose p σ.store fun k => σ.owner k = some t

variable {s : S} {t : T}

/-- The rest of a transaction after its writes `w`, which touch nothing loosely that the rest does
not touch. -/
theorem wp_seeing_commitsLoosely {w : S → S} {p : Txn S K ε (S → S)} {held : K → Prop}
    (hinv : D.inv s) (hw : D.Pending w s held) (hloose : ∀ s s' k, loose (w s) s' k → loose s s' k)
    (h : D.wp (D.CommitsLoosely loose) p (w s) held) :
    D.wp (D.CommitsLoosely loose) (p.seeing w >>= fun w' => pure fun s => w' (w s)) s held := by
  refine wp_bind.mpr (wp_mono ?_ (wp_seeing hinv hw h))
  rintro w' s held ⟨⟨hinv', hrest⟩, -, hfirst⟩
  refine ⟨hinv', D.trans (D.mono (fun _ => .inl) hfirst) (D.mono (fun k hk => ?_) hrest)⟩
  exact hk.imp_right (hloose s _ k)

theorem KeepsLoosely.rely {p : Txn S K ε (S → S)} {s' : S} {held : K → Prop}
    (h : D.KeepsLoosely loose p s held) (hrely : D.Rely held s s') :
    D.KeepsLoosely loose p s' held :=
  fun s'' hs'' => h s'' (hrely.trans hs'')

variable [DecidableEq T] {σ : State S K T (Rest S K ε)}

/-- The end of a transaction, when the others may rely on what it leaves behind. -/
theorem SoundLoosely.finish (h : SoundLoosely D loose σ) (hinv : D.inv s)
    (hothers : ∀ u, u ≠ t → D.Rely (fun k => σ.owner k = some u) σ.store s) :
    SoundLoosely D loose (σ.finish t s none) :=
  ⟨hinv, forall_txn_finish
    (C := fun rest held => ∀ p ∈ rest, D.KeepsLoosely loose p s held) (by simp)
    fun u hut p hp => (h.holds u p hp).rely (hothers u hut)⟩

/-- A statement that commits nothing leaves the others where they were. -/
theorem SoundLoosely.advance (h : SoundLoosely D loose σ) {owner : K → Option T}
    {q : Txn S K ε (S → S)} (howner : ∀ u, u ≠ t → ∀ k, owner k = some u ↔ σ.owner k = some u)
    (hself : D.KeepsLoosely loose q σ.store fun k => owner k = some t) :
    SoundLoosely D loose { σ with owner := owner, txn := Function.update σ.txn t (some q) } :=
  ⟨h.inv, forall_txn_update
    (C := fun rest held => ∀ p ∈ rest, D.KeepsLoosely loose p σ.store held) howner
    (fun _ hp => Option.some.inj hp ▸ hself) fun u _ => h.holds u⟩

variable [DecidableEq K]

/-- One step of an undisturbed schedule. -/
theorem SoundLoosely.step (h : SoundLoosely D loose σ) {e : Event T}
    (he : Undisturbed loose σ e) :
    SoundLoosely D loose (ReadCommitted.step (transactions S K ε) σ e) := by
  have hsame : ∀ u, D.Rely (fun k => σ.owner k = some u) σ.store σ.store :=
    fun u => ⟨D.refl _ _, h.inv⟩
  cases e with
  | crash t => exact h.finish h.inv fun u _ => hsame u
  | step t =>
      cases htxn : σ.txn t with
      | none => simpa only [ReadCommitted.step, transactions, Rest.next, htxn] using h
      | some p =>
          have hkeeps := h.holds t p htxn
          cases p with
          | pure write =>
              simp only [ReadCommitted.step, transactions, Rest.next, htxn]
              obtain ⟨hinv, hevolves⟩ : D.CommitsLoosely loose write σ.store _ :=
                hkeeps σ.store (hsame t)
              refine h.finish hinv fun u hut => ⟨D.mono ?_ hevolves, hinv⟩
              -- what is touched is the committer's, or held by nobody else
              rintro k (hheld | hloose) hother
              · exact hut (Option.some.inj (hother.symm.trans hheld))
              · exact hut (he write htxn k u hloose hother)
          | raise error =>
              simp only [ReadCommitted.step, transactions, Rest.next, htxn]
              exact h.finish h.inv fun u _ => hsame u
          | read next =>
              simp only [ReadCommitted.step, transactions, Rest.next, htxn]
              exact h.advance (fun _ _ _ => Iff.rfl) (hkeeps σ.store (hsame t))
          | lock k next =>
              simp only [ReadCommitted.step, transactions, Rest.next, htxn]
              split_ifs with hfree
              · refine h.advance (fun u hut => update_owner_iff hut hfree) ?_
                have hheld : (fun j => Function.update σ.owner k (some t) j = some t) =
                    fun j => j = k ∨ σ.owner j = some t :=
                  funext fun j => propext (update_owner_self j)
                rw [hheld]
                exact fun s' hs' => hkeeps σ.store (hsame t) s' hs'
              · exact h

omit [DecidableEq T] [DecidableEq K] in
theorem soundLoosely_start (hinv : D.inv s) {p : T → Txn S K ε (S → S)}
    (hp : ∀ t, D.KeepsLoosely loose (p t) s fun _ => False) :
    SoundLoosely D loose (State.start (K := K) s fun t => some (p t)) := by
  refine ⟨hinv, fun t q hq => ?_⟩
  obtain rfl := Option.some.inj hq
  have hnone : (fun k => (State.start (K := K) s fun t => some (p t)).owner k = some t) =
      fun _ => False := funext fun k => eq_false (by simp [State.start])
  rw [hnone]
  exact hp t

/-- What is known of a state is known all along an undisturbed schedule. -/
theorem SoundLoosely.run (h : SoundLoosely D loose σ) {events : List (Event T)}
    (hevents : Runs.Along (ReadCommitted.step (transactions S K ε)) (Undisturbed loose) σ
      events) :
    SoundLoosely D loose (Runs.run (ReadCommitted.step (transactions S K ε)) σ events) :=
  Runs.run_invariant_of_along (I := SoundLoosely D loose) (fun _ _ h he => h.step he) h hevents

/-- **Along an undisturbed schedule** the store satisfies what the discipline says. -/
theorem run_of_undisturbed (hinv : D.inv s) {p : T → Txn S K ε (S → S)}
    (hp : ∀ t, D.KeepsLoosely loose (p t) s fun _ => False) {events : List (Event T)}
    (hevents : Runs.Along (ReadCommitted.step (transactions S K ε)) (Undisturbed loose)
      (.start s fun t => some (p t)) events) :
    D.inv (Runs.run (ReadCommitted.step (transactions S K ε)) (.start s fun t => some (p t))
      events).store :=
  ((soundLoosely_start hinv hp).run hevents).inv

/-- The store evolves along every undisturbed schedule. -/
theorem evolves_of_undisturbed (h : SoundLoosely D loose σ) {events : List (Event T)}
    (hevents : Runs.Along (ReadCommitted.step (transactions S K ε)) (Undisturbed loose) σ
      events) :
    D.evolves (fun _ => True) σ.store
      (Runs.run (ReadCommitted.step (transactions S K ε)) σ events).store := by
  induction events generalizing σ with
  | nil => exact D.refl _ _
  | cons e events ih =>
      refine D.trans ?_ (ih (h.step hevents.1) hevents.2)
      by_cases hsame : (ReadCommitted.step (transactions S K ε) σ e).store = σ.store
      · rw [hsame]
        exact D.refl _ _
      · obtain ⟨t, write, rfl, htxn, hstep⟩ := commit_of_ne hsame
        rw [hstep]
        exact D.mono (fun _ _ => trivial) (h.holds t _ htxn σ.store ⟨D.refl _ _, h.inv⟩).2

/-! ### Transactions that run alone -/

/-- Only the transaction `t` holds anything. -/
def Alone (σ : State S K T (Rest S K ε)) (t : T) : Prop := ∀ k u, σ.owner k = some u → u = t

omit [DecidableEq T] [DecidableEq K] in
theorem Alone.undisturbed (h : Alone σ t) : Undisturbed loose σ (.step t) :=
  fun _ _ k u _ howner => h k u howner

theorem Alone.step (h : Alone σ t) :
    Alone (ReadCommitted.step (transactions S K ε) σ (.step t)) t := by
  intro k u howner
  cases htxn : σ.txn t with
  | none =>
      simp only [ReadCommitted.step, transactions, Rest.next, htxn] at howner
      exact h k u howner
  | some p =>
      cases p with
      | pure write =>
          simp only [ReadCommitted.step, transactions, Rest.next, htxn] at howner
          by_contra hne
          exact hne (h k u ((finish_owner_iff hne).mp howner))
      | raise error =>
          simp only [ReadCommitted.step, transactions, Rest.next, htxn] at howner
          by_contra hne
          exact hne (h k u ((finish_owner_iff hne).mp howner))
      | read next =>
          simp only [ReadCommitted.step, transactions, Rest.next, htxn] at howner
          exact h k u howner
      | lock j next =>
          simp only [ReadCommitted.step, transactions, Rest.next, htxn] at howner
          split_ifs at howner with hfree
          · by_contra hne
            exact hne (h k u ((update_owner_iff hne hfree k).mp howner))
          · exact h k u howner

/-- A transaction disturbs nobody as long as it runs alone. -/
theorem Alone.along (loose : S → S → K → Prop) (h : Alone σ t) (n : Nat) :
    Runs.Along (ReadCommitted.step (transactions S K ε)) (Undisturbed loose) σ
        (List.replicate n (.step t)) ∧
      Alone (Runs.run (ReadCommitted.step (transactions S K ε)) σ
        (List.replicate n (.step t))) t := by
  induction n generalizing σ with
  | zero => exact ⟨trivial, h⟩
  | succ n ih =>
      obtain ⟨halong, halone⟩ := ih h.step
      exact ⟨⟨h.undisturbed, halong⟩, halone⟩

/-- Nothing is held once it has ended. -/
theorem Alone.crash (h : Alone σ t) (u : T) :
    Alone (ReadCommitted.step (transactions S K ε) σ (.crash t)) u := by
  intro k v howner
  by_cases hvt : v = t
  · subst hvt
    exact absurd howner finish_owner_self
  · exact absurd (h k v ((finish_owner_iff hvt).mp howner)) hvt

end Discipline

end ReadCommitted
