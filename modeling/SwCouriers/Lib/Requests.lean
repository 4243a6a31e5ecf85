import Mathlib.Logic.Basic
import SwCouriers.Lib.Checked

/-!
# Requests with a Session

A request handler changes a state step by step and may raise in the middle. What it has written
until then is kept or undone by whoever runs it: `inSession` keeps the state of a handler that
returns, and of one that raises only the part that is not transactional.

## Main results

* `bind_eq_ok`, `check_eq_ok`: a handler that returns has taken every one of its steps.
* `Moves`: a relation between the states before and after a handler, whether it returns or
  raises; for a preorder it holds of a handler if it holds of its writes.
* `inSession_eq_ok`, `inSession_error`: what a request leaves behind.
-/

namespace Requests

/-- A handler: what it returns or raises, and the state it has made. -/
def Handler (σ ε α : Type) := σ → Except ε α × σ

namespace Handler

variable {σ ε α β : Type}

/-- One handler after the other; what raises ends the request. -/
def bind (m : Handler σ ε α) (f : α → Handler σ ε β) : Handler σ ε β := fun s =>
  match m s with
  | (.ok a, s') => f a s'
  | (.error e, s') => (.error e, s')

instance : Monad (Handler σ ε) where
  pure a := fun s => (.ok a, s)
  bind := Handler.bind

/-- Raise an exception. -/
def raise (e : ε) : Handler σ ε α := fun s => (.error e, s)

/-- Look at the state. -/
def query (f : σ → α) : Handler σ ε α := fun s => (.ok (f s), s)

/-- Change the state. -/
def write (f : σ → σ) : Handler σ ε Unit := fun s => (.ok (), f s)

/-- A check of values that are at hand. -/
def check (x : Except ε α) : Handler σ ε α := fun s => (x, s)

/-- Look at the state, and check what was found. -/
def lookup (f : σ → Except ε α) : Handler σ ε α := fun s => (f s, s)

/-- Do something only under a condition. -/
def when (c : Prop) [Decidable c] (m : Handler σ ε Unit) : Handler σ ε Unit :=
  if c then m else pure ()

variable {m : Handler σ ε α} {f : α → Handler σ ε β} {s s' : σ} {a : α} {b : β} {e : ε}

theorem bind_eq_ok :
    (m >>= f) s = (.ok b, s') ↔ ∃ a s₁, m s = (.ok a, s₁) ∧ f a s₁ = (.ok b, s') := by
  change Handler.bind m f s = _ ↔ _
  rw [Handler.bind]
  split
  · rename_i a s₁ hm
    rw [hm]
    refine ⟨fun h => ⟨a, s₁, rfl, h⟩, ?_⟩
    rintro ⟨a', s₁', h, h'⟩
    obtain ⟨rfl, rfl⟩ := Prod.mk.inj h |>.imp_left Except.ok.inj
    exact h'
  · rename_i e s₁ hm
    rw [hm]
    simp

@[simp] theorem pure_apply (s : σ) : (pure a : Handler σ ε α) s = (.ok a, s) := rfl

@[simp] theorem write_apply (g : σ → σ) (s : σ) :
    (write g : Handler σ ε Unit) s = (.ok (), g s) := rfl

@[simp] theorem check_apply (x : Except ε α) (s : σ) :
    (check x : Handler σ ε α) s = (x, s) := rfl

@[simp] theorem lookup_apply (g : σ → Except ε α) (s : σ) :
    (lookup g : Handler σ ε α) s = (g s, s) := rfl

variable {x : Except ε α} {g : σ → Except ε α}

theorem check_eq_ok : (check x : Handler σ ε α) s = (.ok a, s') ↔ x = .ok a ∧ s' = s := by
  rw [check_apply, Prod.mk.injEq, @eq_comm _ s s']

theorem lookup_eq_ok : (lookup g : Handler σ ε α) s = (.ok a, s') ↔ g s = .ok a ∧ s' = s := by
  rw [lookup_apply, Prod.mk.injEq, @eq_comm _ s s']

/-- What follows a step that returns. -/
theorem bind_of_ok (hm : m s = (.ok a, s')) : (m >>= f) s = f a s' := by
  change Handler.bind m f s = _
  rw [Handler.bind, hm]

theorem bind_lookup_of_ok (hg : g s = .ok a) : ((lookup g : Handler σ ε α) >>= f) s = f a s :=
  bind_of_ok (lookup_eq_ok.mpr ⟨hg, rfl⟩)

theorem bind_check_of_ok (hx : x = .ok a) : ((check x : Handler σ ε α) >>= f) s = f a s :=
  bind_of_ok (check_eq_ok.mpr ⟨hx, rfl⟩)

theorem bind_query (g : σ → α) (s : σ) : ((query g : Handler σ ε α) >>= f) s = f (g s) s := rfl

theorem bind_write {k : Unit → Handler σ ε β} (g : σ → σ) (s : σ) :
    ((write g : Handler σ ε Unit) >>= k) s = k () (g s) := rfl

/-- What follows a conditional write. -/
theorem bind_when_write {k : Unit → Handler σ ε β} {c : Prop} [Decidable c] (g : σ → σ) (s : σ) :
    (when c (write g) >>= k) s = k () (if c then g s else s) := by
  by_cases hc : c
  · simp only [when, if_pos hc]
    rfl
  · simp only [when, if_neg hc]
    rfl

theorem bind_lookup_eq_ok :
    ((lookup g : Handler σ ε α) >>= f) s = (.ok b, s') ↔
      ∃ a, g s = .ok a ∧ f a s = (.ok b, s') := by
  rw [bind_eq_ok]
  constructor
  · rintro ⟨a, s₁, hg, hf⟩
    obtain ⟨hg, rfl⟩ := lookup_eq_ok.mp hg
    exact ⟨a, hg, hf⟩
  · rintro ⟨a, hg, hf⟩
    exact ⟨a, s, lookup_eq_ok.mpr ⟨hg, rfl⟩, hf⟩

theorem bind_check_eq_ok :
    ((check x : Handler σ ε α) >>= f) s = (.ok b, s') ↔ ∃ a, x = .ok a ∧ f a s = (.ok b, s') :=
  bind_lookup_eq_ok (g := fun _ => x)

theorem pure_eq_ok {a' : α} :
    (pure a : Handler σ ε α) s = (.ok a', s') ↔ a = a' ∧ s = s' := by
  rw [pure_apply, Prod.mk.injEq, Except.ok.injEq]

/-- What is made of the result of a handler that returns. -/
theorem bind_pure_eq_ok {g : α → β} :
    (m >>= fun a => pure (g a)) s = (.ok b, s') ↔ ∃ a, m s = (.ok a, s') ∧ g a = b := by
  rw [bind_eq_ok]
  constructor
  · rintro ⟨a, s₁, hm, hpure⟩
    obtain ⟨rfl, rfl⟩ := pure_eq_ok.mp hpure
    exact ⟨a, hm, rfl⟩
  · rintro ⟨a, hm, rfl⟩
    exact ⟨a, s', hm, rfl⟩

/-- A step that raises ends the request. -/
theorem bind_of_error (hm : m s = (.error e, s')) : (m >>= f) s = (.error e, s') := by
  change Handler.bind m f s = _
  rw [Handler.bind, hm]

theorem bind_eq_error :
    (m >>= f) s = (.error e, s') ↔
      m s = (.error e, s') ∨ ∃ a s₁, m s = (.ok a, s₁) ∧ f a s₁ = (.error e, s') := by
  change Handler.bind m f s = _ ↔ _
  rw [Handler.bind]
  rcases m s with ⟨_ | _, _⟩ <;> simp

theorem bind_pure_eq_error {g : α → β} :
    (m >>= fun a => pure (g a)) s = (.error e, s') ↔ m s = (.error e, s') := by
  rw [bind_eq_error, or_iff_left_iff_imp]
  rintro ⟨a, s₁, -, hpure⟩
  exact absurd (Prod.mk.inj hpure).1 (by simp)

/-- What follows a step that raises or returns, but changes nothing. -/
theorem bind_lookup_eq_error :
    ((lookup g : Handler σ ε α) >>= f) s = (.error e, s') ↔
      g s = .error e ∧ s' = s ∨ ∃ a, g s = .ok a ∧ f a s = (.error e, s') := by
  rw [bind_eq_error, lookup_apply, Prod.mk.injEq, @eq_comm _ s s']
  refine or_congr Iff.rfl (exists_congr fun a => ?_)
  constructor
  · rintro ⟨s₁, hrun, hf⟩
    obtain ⟨hg, rfl⟩ := Prod.mk.inj hrun
    exact ⟨hg, hf⟩
  · rintro ⟨hg, hf⟩
    exact ⟨s, by rw [hg], hf⟩

theorem bind_check_eq_error :
    ((check x : Handler σ ε α) >>= f) s = (.error e, s') ↔
      x = .error e ∧ s' = s ∨ ∃ a, x = .ok a ∧ f a s = (.error e, s') :=
  bind_lookup_eq_error (g := fun _ => x)

/-! ### Relations between the states before and after -/

/-- The handler takes every state to a related one, whether it returns or raises. -/
def Moves (R : σ → σ → Prop) (m : Handler σ ε α) : Prop := ∀ s, R s (m s).2

variable {R : σ → σ → Prop}

theorem Moves.rel {r : Except ε α} (hm : Moves R m) (h : m s = (r, s')) : R s s' := by
  have hs := hm s
  rwa [h] at hs

theorem moves_write {g : σ → σ} (h : ∀ s, R s (g s)) : Moves R (write g : Handler σ ε Unit) := h

section Preorder

variable [Std.Refl R]

theorem moves_pure (a : α) : Moves R (pure a : Handler σ ε α) := fun s => Std.Refl.refl s

theorem moves_raise (e : ε) : Moves R (raise e : Handler σ ε α) := fun s => Std.Refl.refl s

theorem moves_query (g : σ → α) : Moves R (query g : Handler σ ε α) := fun s => Std.Refl.refl s

theorem moves_check (x : Except ε α) : Moves R (check x : Handler σ ε α) :=
  fun s => Std.Refl.refl s

theorem moves_lookup (g : σ → Except ε α) : Moves R (lookup g : Handler σ ε α) :=
  fun s => Std.Refl.refl s

theorem moves_when {c : Prop} [Decidable c] {m : Handler σ ε Unit} (h : c → Moves R m) :
    Moves R (when c m) := by
  unfold when
  split
  · exact h ‹c›
  · exact moves_pure ()

end Preorder

theorem moves_bind [IsTrans σ R] (hm : Moves R m) (hf : ∀ a, Moves R (f a)) :
    Moves R (m >>= f) := by
  intro s
  change R s (Handler.bind m f s).2
  rw [Handler.bind]
  split
  · rename_i a s₁ h
    exact IsTrans.trans _ _ _ (hm.rel h) (hf a s₁)
  · rename_i e s₁ h
    exact hm.rel h

end Handler

variable {σ ε α : Type} {undo : σ → σ → σ} {m : Handler σ ε α} {s s' : σ} {a : α} {e : ε}

/-- A request in a session of its own: its writes are committed when it returns, and when it
raises `undo` says what is left of them. -/
def inSession (undo : σ → σ → σ) (m : Handler σ ε α) : Handler σ ε α := fun s =>
  match m s with
  | (.ok a, s') => (.ok a, s')
  | (.error e, s') => (.error e, undo s s')

theorem inSession_eq_ok : inSession undo m s = (.ok a, s') ↔ m s = (.ok a, s') := by
  rw [inSession]
  split
  · rename_i hm
    rw [hm]
  · rename_i hm
    rw [hm]
    simp

theorem inSession_error (h : inSession undo m s = (.error e, s')) :
    ∃ s₁, m s = (.error e, s₁) ∧ s' = undo s s₁ := by
  rw [inSession] at h
  split at h
  · exact absurd (Prod.mk.inj h).1 (by simp)
  · rename_i e₁ s₁ hm
    obtain ⟨he, rfl⟩ := Prod.mk.inj h
    obtain rfl := Except.error.inj he
    exact ⟨s₁, hm, rfl⟩

/-- A request answers what its handler returns, whatever is made of that. -/
theorem answer_inSession {β : Type} {f : α → β} (h : (m s).1 = .ok a) :
    (inSession undo (do let a ← m; return f a) s).1 = .ok (f a) := by
  change (inSession undo (Handler.bind m _) s).1 = _
  rw [inSession, Handler.bind]
  rcases hrun : m s with ⟨_ | _, t⟩
  · rw [hrun] at h
    exact absurd h (by simp)
  · rw [hrun] at h
    obtain rfl := Except.ok.inj h
    rfl

end Requests
