import Mathlib.Data.List.Forall2
import Mathlib.Logic.Basic

/-!
# Checked Computations

Service code is a sequence of checks, each of which either raises or lets the call
continue, followed by a write. This module fixes the `Except` vocabulary for such
code: `raiseIf` for a guard, `orRaise` for a lookup that must succeed, and `settle`
for what the caller's transaction keeps — the new state on success, the old one when
the call raised and was rolled back.

## Main results

* `bind_eq_ok`, `raiseIf_bind_eq_ok`, `orRaise_bind_eq_ok`, `ok_of_check`: a successful call
  passed every one of its checks, in order. These peel a `do` block apart.
* `exists_bind_ok`, `exists_raiseIf_bind_ok`: a call goes through, one check after the other.
* `bind_eq_error`, `raiseIf_eq_error`, `orRaise_eq_error`: the check at which a call raised.
* `checkEach_eq_ok`, `mapEach_eq_ok`: a loop succeeds exactly when each round does;
  `foldlM_ok` is the rule for a loop with an accumulator.
* `settle_eq`: a transaction keeps the state of a successful call or none of it.
-/

namespace Checked

universe u v

variable {ε : Type v} {α β : Type u} {σ : Type u}

/-- Raise `e` when the condition holds. -/
def raiseIf (c : Prop) [Decidable c] (e : ε) : Except ε PUnit.{u + 1} :=
  if c then .error e else .ok ⟨⟩

/-- The value looked up, or the error `e` when there is none. -/
def orRaise (o : Option α) (e : ε) : Except ε α :=
  match o with
  | some a => .ok a
  | none => .error e

/-- Run the check `f` on each element in turn. -/
def checkEach (f : α → Except ε PUnit.{u + 1}) : List α → Except ε PUnit.{u + 1}
  | [] => .ok ⟨⟩
  | a :: l => do
      f a
      checkEach f l

/-- Run `f` on each element in turn and keep the results. -/
def mapEach (f : α → Except ε β) : List α → Except ε (List β)
  | [] => .ok []
  | a :: l => do
      let b ← f a
      let bs ← mapEach f l
      return b :: bs

/-- What a transaction leaves behind: the state of a successful call, and the state
before it when the call raised. -/
def settle (s : σ) (x : Except ε σ) : σ :=
  match x with
  | .ok s' => s'
  | .error _ => s

variable {x : Except ε α} {f : α → Except ε β} {b : β} {a : α} {e : ε} {c : Prop} {l : List α}

/-- A sequence succeeds exactly when its parts do, each on the previous result. -/
theorem bind_eq_ok : (x >>= f) = .ok b ↔ ∃ a, x = .ok a ∧ f a = .ok b := by
  cases x <;> simp [bind, Except.bind]

/-- Behind a check, a successful call goes on. -/
theorem ok_of_check {x : Except ε PUnit.{u + 1}} {f : PUnit → Except ε β} (h : (x >>= f) = .ok b) :
    f ⟨⟩ = .ok b := by
  obtain ⟨⟨⟩, -, h⟩ := bind_eq_ok.mp h
  exact h

/-- A call goes through when its first part does and the rest does from there. -/
theorem exists_bind_ok (hx : x = .ok a) (hf : ∃ b, f a = .ok b) : ∃ b, (x >>= f) = .ok b := by
  obtain ⟨b, hb⟩ := hf
  exact ⟨b, bind_eq_ok.mpr ⟨a, hx, hb⟩⟩

/-- A sequence raises where its first part does, or its second on the first's result. -/
theorem bind_eq_error : (x >>= f) = .error e ↔ x = .error e ∨ ∃ a, x = .ok a ∧ f a = .error e := by
  cases x <;> simp [bind, Except.bind]

@[simp] theorem ok_bind (a : α) (f : α → Except ε β) : (.ok a >>= f) = f a := rfl

theorem pure_eq_ok {b : α} : (pure a : Except ε α) = .ok b ↔ a = b := by
  simp [pure, Except.pure]

theorem map_eq_ok {g : α → β} : x.map g = .ok b ↔ ∃ a, x = .ok a ∧ g a = b := by
  cases x <;> simp [Except.map]

/-- A call that does not raise has a result. -/
theorem exists_eq_ok (h : x.isOk = true) : ∃ a, x = .ok a := by
  cases x with
  | error e => exact absurd h Bool.false_ne_true
  | ok a => exact ⟨a, rfl⟩

/-- A guard lets the call continue exactly when its condition fails. -/
theorem raiseIf_eq_ok [Decidable c] {w : PUnit} : raiseIf c e = .ok w ↔ ¬ c := by
  unfold raiseIf
  by_cases h : c <;> simp [h]

/-- A successful call passed the guard. -/
theorem raiseIf_bind_eq_ok [Decidable c] {f : PUnit → Except ε β} :
    (raiseIf c e >>= f) = .ok b ↔ ¬ c ∧ f ⟨⟩ = .ok b := by
  rw [bind_eq_ok]
  exact ⟨fun ⟨_, hc, hf⟩ => ⟨raiseIf_eq_ok.mp hc, hf⟩,
    fun ⟨hc, hf⟩ => ⟨⟨⟩, raiseIf_eq_ok.mpr hc, hf⟩⟩

/-- A call goes through behind a check that does not raise. -/
theorem exists_raiseIf_bind_ok [Decidable c] {f : PUnit → Except ε β} (hc : ¬ c)
    (hf : ∃ b, f ⟨⟩ = .ok b) : ∃ b, (raiseIf c e >>= f) = .ok b :=
  exists_bind_ok (raiseIf_eq_ok.mpr hc) hf

theorem raiseIf_eq_error [Decidable c] {e' : ε} :
    (raiseIf c e : Except ε PUnit.{u + 1}) = .error e' ↔ c ∧ e = e' := by
  unfold raiseIf
  by_cases h : c <;> simp [h]

theorem orRaise_eq_ok {o : Option α} : orRaise o e = .ok a ↔ o = some a := by
  cases o <;> simp [orRaise]

/-- A successful call found what it looked up. -/
theorem orRaise_bind_eq_ok {o : Option α} :
    (orRaise o e >>= f) = .ok b ↔ ∃ a, o = some a ∧ f a = .ok b := by
  simp only [bind_eq_ok, orRaise_eq_ok]

theorem orRaise_eq_error {o : Option α} {e' : ε} : orRaise o e = .error e' ↔ o = none ∧ e = e' := by
  cases o <;> simp [orRaise]

/-- A loop of checks succeeds exactly when every round does. -/
theorem checkEach_eq_ok {f : α → Except ε PUnit.{u + 1}} {w : PUnit} :
    checkEach f l = .ok w ↔ ∀ a ∈ l, f a = .ok ⟨⟩ := by
  induction l with
  | nil => simp [checkEach]
  | cons a l ih =>
      rw [checkEach, bind_eq_ok, List.forall_mem_cons]
      constructor
      · rintro ⟨⟨⟩, ha, hl⟩
        exact ⟨ha, ih.mp hl⟩
      · rintro ⟨ha, hl⟩
        exact ⟨⟨⟩, ha, ih.mpr hl⟩

/-- A loop that keeps results succeeds exactly when every round does, with its result. -/
theorem mapEach_eq_ok {bs : List β} :
    mapEach f l = .ok bs ↔ List.Forall₂ (fun a b => f a = .ok b) l bs := by
  induction l generalizing bs with
  | nil =>
      rw [mapEach, List.forall₂_nil_left_iff]
      exact ⟨fun h => (Except.ok.inj h).symm, fun h => by rw [h]⟩
  | cons a l ih =>
      rw [mapEach, List.forall₂_cons_left_iff, bind_eq_ok]
      constructor
      · rintro ⟨b, hb, h⟩
        obtain ⟨rest, hrest, h⟩ := bind_eq_ok.mp h
        exact ⟨b, rest, hb, ih.mp hrest, (pure_eq_ok.mp h).symm⟩
      · rintro ⟨b, rest, hb, hrest, rfl⟩
        exact ⟨b, hb, bind_eq_ok.mpr ⟨rest, ih.mpr hrest, rfl⟩⟩

/-- Every element on the right of a pointwise relation has a partner on the left. -/
theorem exists_of_forall₂_right {γ δ : Type*} {R : γ → δ → Prop} {l : List γ}
    {bs : List δ} {b : δ} (h : List.Forall₂ R l bs) (hb : b ∈ bs) : ∃ a ∈ l, R a b := by
  induction h with
  | nil => exact absurd hb List.not_mem_nil
  | cons hround _ ih =>
      rcases List.mem_cons.mp hb with rfl | hb
      · exact ⟨_, List.mem_cons_self, hround⟩
      · obtain ⟨a, ha, hround⟩ := ih hb
        exact ⟨a, List.mem_cons_of_mem _ ha, hround⟩

/-- Every result that a loop keeps is the result of one of its rounds. -/
theorem exists_of_mem_mapEach {bs : List β} (h : mapEach f l = .ok bs) (hb : b ∈ bs) :
    ∃ a ∈ l, f a = .ok b := by
  obtain ⟨a, ha, hround⟩ := exists_of_forall₂_right (mapEach_eq_ok.mp h) hb
  exact ⟨a, ha, hround⟩

/-- A loop that keeps results, split at one of its rounds. -/
theorem mapEach_append_cons_eq_ok {r : List α} {bs : List β} :
    mapEach f (l ++ a :: r) = .ok bs ↔ ∃ bl b br, mapEach f l = .ok bl ∧ f a = .ok b ∧
      mapEach f r = .ok br ∧ bs = bl ++ b :: br := by
  simp only [mapEach_eq_ok]
  constructor
  · intro h
    have hl := List.forall₂_take_append _ _ _ (List.Forall₂.flip h)
    have hr := List.forall₂_drop_append _ _ _ (List.Forall₂.flip h)
    obtain ⟨b, br, hb, hbr, hdrop⟩ := List.forall₂_cons_right_iff.mp hr
    exact ⟨_, b, br, hl.flip, hb, hbr.flip, by rw [← hdrop, List.take_append_drop]⟩
  · rintro ⟨bl, b, br, hl, hb, hr, rfl⟩
    exact List.rel_append hl (.cons hb hr)

/-- A loop that can take each of its rounds from where the rounds before it have led gets
through. -/
theorem foldlM_ok {f : β → α → Except ε β} {I : β → Prop}
    (hround : ∀ b, I b → ∀ a ∈ l, ∃ b', f b a = .ok b' ∧ I b') (hb : I b) :
    ∃ b', l.foldlM f b = .ok b' ∧ I b' := by
  induction l generalizing b with
  | nil => exact ⟨b, rfl, hb⟩
  | cons a l ih =>
      obtain ⟨b', hok, hb'⟩ := hround b hb a List.mem_cons_self
      rw [List.foldlM_cons, hok]
      exact ih (fun c hc d hd => hround c hc d (List.mem_cons_of_mem a hd)) hb'

/-- A transaction commits a successful call or keeps nothing of it. -/
theorem settle_eq (s : σ) (x : Except ε σ) :
    x = .ok (settle s x) ∨ settle s x = s := by
  cases x <;> simp [settle]

@[simp] theorem settle_ok (s s' : σ) : settle s (.ok s' : Except ε σ) = s' := rfl

@[simp] theorem settle_error (s : σ) (e : ε) : settle s (.error e : Except ε σ) = s := rfl

end Checked
