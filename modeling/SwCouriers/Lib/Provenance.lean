import Mathlib.Data.List.Induction
import SwCouriers.Lib.Runs

/-!
# Where the State of a Run Comes from

What is true at the end of a run and was not true at its start has become true with some step of
it, and has been true ever since the last such step. What a run puts out is collected step by
step.

## Main results

* `exists_last_start`: the step since which something has been true.
* `exists_of_mem_collect`: the output of a run comes from its steps.
* `length_collect`: how often something happens in a run.
-/

namespace Runs

variable {σ α β : Type*} {step : σ → α → σ}

/-- A run reaches what its parts reach, one after the other. -/
theorem run_append_cons (s : σ) (pre : List α) (a : α) (post : List α) :
    run step s (pre ++ a :: post) = run step (step (run step s pre) a) post := by
  rw [run_append, run_cons]

/-- Something that is true at the end of a run, and was not true at its start, has been true since
some step of the run, which meets `E` if every step does with which it becomes true. -/
theorem exists_last_start {P : σ → Prop} {E : σ → α → Prop}
    (hstart : ∀ s a, ¬ P s → P (step s a) → E s a) {s : σ} (hs : ¬ P s) {as : List α}
    (has : P (run step s as)) :
    ∃ pre a post, as = pre ++ a :: post ∧ E (run step s pre) a ∧
      ∀ mid, mid <+: post → P (run step s (pre ++ a :: mid)) := by
  induction as using List.reverseRecOn with
  | nil => exact absurd has hs
  | append_singleton as b ih =>
      by_cases hP : P (run step s as)
      · obtain ⟨pre, a, post, rfl, hE, hsince⟩ := ih hP
        refine ⟨pre, a, post ++ [b], by simp, hE, fun mid hmid => ?_⟩
        rcases List.prefix_concat_iff.mp hmid with rfl | hmid
        · simpa using has
        · exact hsince mid hmid
      · rw [run_append, run_cons, run_nil] at has
        refine ⟨as, b, [], rfl, hstart _ _ hP has, fun mid hmid => ?_⟩
        obtain rfl := List.prefix_nil.mp hmid
        rwa [run_append, run_cons, run_nil]

/-! ### What a run puts out -/

/-- What the steps of a run put out, in order. -/
def collect (step : σ → α → σ) (out : σ → α → Option β) : σ → List α → List β
  | _, [] => []
  | s, a :: as => (out s a).toList ++ collect step out (step s a) as

variable {out : σ → α → Option β}

@[simp] theorem collect_cons (s : σ) (a : α) (as : List α) :
    collect step out s (a :: as) = (out s a).toList ++ collect step out (step s a) as := rfl

/-- What a run puts out was put out by one of its steps. -/
theorem exists_of_mem_collect {s : σ} {as : List α} {b : β} (h : b ∈ collect step out s as) :
    ∃ pre a post, as = pre ++ a :: post ∧ out (run step s pre) a = some b := by
  induction as generalizing s with
  | nil => exact absurd h List.not_mem_nil
  | cons a as ih =>
      rcases List.mem_append.mp h with hhead | htail
      · exact ⟨[], a, as, rfl, Option.mem_toList.mp hhead⟩
      · obtain ⟨pre, c, post, rfl, hout⟩ := ih htail
        exact ⟨a :: pre, c, post, rfl, hout⟩

/-! ### How often something happens -/

/-- How many steps of a run meet `E` in the state that they are taken from. -/
def count (step : σ → α → σ) (E : σ → α → Prop) [∀ s a, Decidable (E s a)] : σ → List α → ℕ
  | _, [] => 0
  | s, a :: as => (if E s a then 1 else 0) + count step E (step s a) as

/-- A run puts something out as often as it takes a step that does. -/
theorem length_collect {E : σ → α → Prop} [∀ s a, Decidable (E s a)] (f : σ → α → β) (s : σ)
    (as : List α) :
    (collect step (fun s a => if E s a then some (f s a) else none) s as).length
      = count step E s as := by
  induction as generalizing s with
  | nil => rfl
  | cons a as ih =>
      rw [collect_cons, List.length_append, ih, count]
      split_ifs <;> rfl

end Runs
