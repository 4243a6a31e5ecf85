import Mathlib.Logic.Basic

/-!
# Runs of a State Machine

A state machine is a function `step : σ → α → σ`: one operation `a` takes the state
`s` to `step s a`. A run is the fold of a list of operations. `Along G s as` says that
every operation of the run meets `G` in the state it is taken from, which is how a
side condition on the steps of a run is expressed.

## Main results

* `run_invariant`: a property that each step preserves holds after every run.
* `run_invariant_of_along`: the same when each step needs a side condition.
* `along_iff`: the side condition, read at each position of the run.
* `along_of_invariant`: an invariant turns a fact about steps into one about runs.
* `forall_prefix_iff_of_along`, `forall_prefix_iff_along`: what one step keeps exactly under a
  side condition, a run keeps exactly along it.
* `forall_prefix_iff_along_of_keeps`: the same when the invariant is kept along the condition.
* `exists_turn`: a step that occurs once in a run, among steps that leave its part alone.
* `forall_segment_iff_along`: a preorder relates any two states of a run, the earlier one to
  the later one, exactly if it relates the states around each step.
-/

namespace Runs

variable {σ α : Type*}

/-- The state after a list of operations, taken in order. -/
def run (step : σ → α → σ) (s : σ) (as : List α) : σ :=
  as.foldl step s

/-- Every operation of the run meets `G` in the state it is taken from. -/
def Along (step : σ → α → σ) (G : σ → α → Prop) : σ → List α → Prop
  | _, [] => True
  | s, a :: as => G s a ∧ Along step G (step s a) as

instance Along.decidable (step : σ → α → σ) (G : σ → α → Prop)
    [∀ s a, Decidable (G s a)] : (s : σ) → (as : List α) → Decidable (Along step G s as)
  | _, [] => .isTrue trivial
  | s, a :: as =>
      have := Along.decidable step G (step s a) as
      inferInstanceAs (Decidable (G s a ∧ Along step G (step s a) as))

variable {step : σ → α → σ}

@[simp] theorem run_nil (s : σ) : run step s [] = s := rfl

@[simp] theorem run_cons (s : σ) (a : α) (as : List α) :
    run step s (a :: as) = run step (step s a) as := rfl

theorem run_append (s : σ) (as bs : List α) :
    run step s (as ++ bs) = run step (run step s as) bs := by
  simp [run, List.foldl_append]

variable {I : σ → Prop} {G : σ → α → Prop} {s : σ} {as : List α} {R : σ → σ → Prop}

/-- A property that every step preserves under the side condition `G` holds after
every run that meets `G`. -/
theorem run_invariant_of_along (hstep : ∀ s a, I s → G s a → I (step s a)) (hs : I s)
    (has : Along step G s as) : I (run step s as) := by
  induction as generalizing s with
  | nil => exact hs
  | cons a as ih => exact ih (hstep s a hs has.1) has.2

/-- A property that every step preserves holds after every run. -/
theorem run_invariant (hstep : ∀ s a, I s → I (step s a)) (hs : I s) (as : List α) :
    I (run step s as) := by
  induction as generalizing s with
  | nil => exact hs
  | cons a as ih => exact ih (hstep s a hs)

/-- The side condition of a run, read at each of its positions. -/
theorem along_iff :
    Along step G s as ↔
      ∀ pre a post, as = pre ++ a :: post → G (run step s pre) a := by
  induction as generalizing s with
  | nil => simp [Along]
  | cons b as ih =>
      constructor
      · rintro ⟨hb, has⟩ pre a post heq
        cases pre with
        | nil =>
            obtain ⟨rfl, -⟩ : b = a ∧ as = post := by simpa using heq
            exact hb
        | cons c pre =>
            obtain ⟨rfl, htail⟩ : b = c ∧ as = pre ++ a :: post := by simpa using heq
            exact ih.mp has pre a post htail
      · intro h
        refine ⟨h [] b as rfl, ih.mpr fun pre a post heq => ?_⟩
        exact h (b :: pre) a post (by rw [heq, List.cons_append])

/-- The side condition may be weakened at each step. -/
theorem Along.imp {H : σ → α → Prop} (h : ∀ s a, G s a → H s a) (has : Along step G s as) :
    Along step H s as :=
  along_iff.mpr fun pre a post heq => h _ _ (along_iff.mp has pre a post heq)

/-- A side condition also holds on every initial part of the run. -/
theorem Along.prefix_run {bs : List α} (h : Along step G s (as ++ bs)) : Along step G s as := by
  induction as generalizing s with
  | nil => exact trivial
  | cons a as ih => exact ⟨h.1, ih h.2⟩

theorem along_append {bs : List α} :
    Along step G s (as ++ bs) ↔ Along step G s as ∧ Along step G (run step s as) bs := by
  induction as generalizing s with
  | nil => simp [Along]
  | cons a as ih => simp only [List.cons_append, Along, ih, run_cons, and_assoc]

/-- What an invariant implies of a step holds at every step of every run. -/
theorem along_of_invariant (hstep : ∀ s a, I s → I (step s a)) (hG : ∀ s a, I s → G s a) (hs : I s)
    (as : List α) : Along step G s as :=
  along_iff.mpr fun pre _ _ _ => hG _ _ (run_invariant hstep hs pre)

/-- When a step that meets `H` keeps `M` exactly if it meets `G`, then along a run that meets
`H` the property `M` holds in every state exactly if every step of the run meets `G`. -/
theorem forall_prefix_iff_of_along {M : σ → Prop} {H : σ → α → Prop}
    (hM : ∀ s a, M s → H s a → (M (step s a) ↔ G s a)) (hm : M s) (has : Along step H s as) :
    (∀ pre post, as = pre ++ post → M (run step s pre)) ↔ Along step G s as := by
  induction as generalizing s with
  | nil =>
      refine ⟨fun _ => trivial, fun _ pre post heq => ?_⟩
      obtain ⟨rfl, -⟩ := List.append_eq_nil_iff.mp heq.symm
      exact hm
  | cons a as ih =>
      constructor
      · intro h
        have hstep : M (step s a) := h [a] as rfl
        refine ⟨(hM s a hm has.1).mp hstep, (ih hstep has.2).mp fun pre post heq => ?_⟩
        exact h (a :: pre) post (by rw [heq, List.cons_append])
      · rintro ⟨hG, hrest⟩ pre post heq
        have hstep : M (step s a) := (hM s a hm has.1).mpr hG
        cases pre with
        | nil => exact hm
        | cons b pre =>
            obtain ⟨rfl, htail⟩ : a = b ∧ as = pre ++ post := by simpa using heq
            exact (ih hstep has.2).mpr hrest pre post htail

/-- The same in the states that an invariant allows. -/
theorem forall_prefix_iff_along {M : σ → Prop} (hI : ∀ s a, I s → I (step s a))
    (hM : ∀ s a, I s → M s → (M (step s a) ↔ G s a)) (hs : I s) (hm : M s) (as : List α) :
    (∀ pre post, as = pre ++ post → M (run step s pre)) ↔ Along step G s as :=
  forall_prefix_iff_of_along (fun s a hm hs => hM s a hs hm) hm
    (along_of_invariant (G := fun s _ => I s) hI (fun _ _ hs => hs) hs as)

/-- When an invariant `I` implies `M`, is kept by the steps that meet `G`, and `M` is lost with
every other step, `M` holds in every state of a run exactly if every step meets `G`. -/
theorem forall_prefix_iff_along_of_keeps {M : σ → Prop} (hIM : ∀ s, I s → M s)
    (hkeeps : ∀ s a, I s → G s a → I (step s a)) (hloses : ∀ s a, I s → ¬ G s a → ¬ M (step s a))
    (hs : I s) : (∀ pre post, as = pre ++ post → M (run step s pre)) ↔ Along step G s as := by
  induction as generalizing s with
  | nil =>
      refine ⟨fun _ => trivial, fun _ pre post heq => ?_⟩
      obtain ⟨rfl, -⟩ := List.append_eq_nil_iff.mp heq.symm
      exact hIM s hs
  | cons a as ih =>
      constructor
      · intro h
        have hG : G s a := by_contra fun hG => hloses s a hs hG (h [a] as rfl)
        refine ⟨hG, (ih (hkeeps s a hs hG)).mp fun pre post heq => ?_⟩
        exact h (a :: pre) post (by rw [heq, List.cons_append])
      · rintro ⟨hG, hrest⟩ pre post heq
        cases pre with
        | nil => exact hIM s hs
        | cons b pre =>
            obtain ⟨rfl, htail⟩ : a = b ∧ as = pre ++ post := by simpa using heq
            exact (ih (hkeeps s a hs hG)).mpr hrest pre post htail

/-- A preorder along a run, step by step. -/
theorem rel_run_of_along (hrefl : ∀ s, R s s) (htrans : ∀ s t u, R s t → R t u → R s u)
    (has : Along step (fun s a => R s (step s a)) s as) : R s (run step s as) := by
  induction as generalizing s with
  | nil => exact hrefl s
  | cons a as ih => exact htrans _ _ _ has.1 (ih has.2)

/-- Steps that leave a part alone, up to a preorder, do so in a run, too. -/
theorem rel_run_of_notMem (hrefl : ∀ s, R s s) (htrans : ∀ s t u, R s t → R t u → R s u) {a : α}
    (hother : ∀ s b, b ≠ a → R s (step s b)) (ha : a ∉ as) (s : σ) : R s (run step s as) := by
  refine rel_run_of_along hrefl htrans (along_iff.mpr fun pre b post heq => hother _ b ?_)
  rintro rfl
  exact ha (heq ▸ List.mem_append_right pre List.mem_cons_self)

/-- Whose turn comes once in a run finds its part as it was at the start, and leaves it as it is
at the end. -/
theorem exists_turn (hrefl : ∀ s, R s s) (htrans : ∀ s t u, R s t → R t u → R s u) {a : α}
    (hother : ∀ s b, b ≠ a → R s (step s b)) (hnd : as.Nodup) (ha : a ∈ as) (s : σ) :
    ∃ t, R s t ∧ R (step t a) (run step s as) := by
  obtain ⟨pre, post, rfl⟩ := List.append_of_mem ha
  obtain ⟨-, hpost, hdisjoint⟩ := List.nodup_append.mp hnd
  have hpre : a ∉ pre := fun hmem => hdisjoint a hmem a List.mem_cons_self rfl
  refine ⟨run step s pre, rel_run_of_notMem hrefl htrans hother hpre s, ?_⟩
  rw [run_append, run_cons]
  exact rel_run_of_notMem hrefl htrans hother (List.nodup_cons.mp hpost).1 _

/-- A preorder relates the states at the two ends of every segment of a run exactly if it
relates the states around each step. -/
theorem forall_segment_iff_along (hrefl : ∀ s, R s s) (htrans : ∀ s t u, R s t → R t u → R s u) :
    (∀ pre mid post, as = pre ++ mid ++ post → R (run step s pre) (run step s (pre ++ mid))) ↔
      Along step (fun s a => R s (step s a)) s as := by
  constructor
  · intro h
    refine along_iff.mpr fun pre a post heq => ?_
    have hround := h pre [a] post (by rw [heq, List.append_assoc, List.singleton_append])
    rwa [run_append] at hround
  · intro has pre mid post heq
    rw [run_append]
    refine rel_run_of_along hrefl htrans (along_iff.mpr fun pre' a post' hmid => ?_)
    rw [← run_append]
    refine along_iff.mp has (pre ++ pre') a (post' ++ post) ?_
    rw [heq, hmid, List.append_assoc, List.append_assoc, List.append_assoc, List.cons_append]

end Runs
