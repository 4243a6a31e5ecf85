import Mathlib.Data.List.Count
import Mathlib.Order.Lattice

/-!
# Chains of Windows

A window has two bounds, each of which may be missing, and holds the bounds it has. In a chain
of windows each ends at a mark and the next starts there. A point at a mark then lies in both,
and a missing mark opens both windows towards each other.

## Main results

* `countP_chain`: how many windows of a chain a point lies in.
* `pairwise_chain_iff`: the windows share no point `x` exactly when no more marks are shared at
  `x` than the chain leaves out on its two sides.
-/

namespace Windows

variable {τ : Type*} [LinearOrder τ]

/-- `x` is not before the bound. -/
def Opens (bound : Option τ) (x : τ) : Prop := ∀ s ∈ bound, s ≤ x

/-- `x` is not after the bound. -/
def Closes (bound : Option τ) (x : τ) : Prop := ∀ s ∈ bound, x ≤ s

/-- `x` lies in the window. -/
def Contains (x : τ) (window : Option τ × Option τ) : Prop :=
  Opens window.1 x ∧ Closes window.2 x

/-- The mark keeps `x` on neither side: it is missing, or it is `x`. -/
def Shared (x : τ) (mark : Option τ) : Prop := ∀ s ∈ mark, s = x

instance (bound : Option τ) (x : τ) : Decidable (Opens bound x) :=
  decidable_of_iff (bound.all fun s => decide (s ≤ x)) (by cases bound <;> simp [Opens])

instance (bound : Option τ) (x : τ) : Decidable (Closes bound x) :=
  decidable_of_iff (bound.all fun s => decide (x ≤ s)) (by cases bound <;> simp [Closes])

instance (x : τ) : DecidablePred (Contains x) := fun _ => instDecidableAnd

instance (x : τ) : DecidablePred (Shared x) := fun mark =>
  decidable_of_iff (mark.all fun s => decide (s = x)) (by cases mark <;> simp [Shared])

/-- The windows between consecutive marks. -/
def chain (start : Option τ) : List (Option τ) → List (Option τ × Option τ)
  | [] => []
  | mark :: marks => (start, mark) :: chain mark marks

/-- The marks that are there do not decrease. -/
def InOrder (marks : List (Option τ)) : Prop :=
  marks.Pairwise fun a b => ∀ s ∈ a, ∀ t ∈ b, s ≤ t

/-- `x` is before the start of the chain, and not after its first mark. -/
def BeforeAll (start : Option τ) (marks : List (Option τ)) (x : τ) : Prop :=
  ¬ Opens start x ∧ ∀ mark ∈ marks.head?, ∀ t ∈ mark, x ≤ t

/-- `x` is after the last mark of the chain. -/
def AfterAll (marks : List (Option τ)) (x : τ) : Prop :=
  ∃ mark ∈ marks.getLast?, ¬ Closes mark x

instance (start : Option τ) (marks : List (Option τ)) (x : τ) :
    Decidable (BeforeAll start marks x) :=
  decidable_of_iff (¬ Opens start x ∧ marks.head?.all fun mark => decide (Closes mark x))
    (by cases marks <;> simp [BeforeAll, Closes])

instance (marks : List (Option τ)) (x : τ) : Decidable (AfterAll marks x) :=
  decidable_of_iff (marks.getLast?.any fun mark => decide (¬ Closes mark x))
    (by cases h : marks.getLast? <;> simp [AfterAll, h])

/-- The inner marks of the chain that are shared at `x`. -/
def sharedMarks (marks : List (Option τ)) (x : τ) : ℕ :=
  marks.dropLast.countP (Shared x ·)

/-- On how many sides the chain leaves `x` out. -/
def sidesMissed (start : Option τ) (marks : List (Option τ)) (x : τ) : ℕ :=
  (if BeforeAll start marks x then 1 else 0) + (if AfterAll marks x then 1 else 0)

/-- No more marks are shared at `x` than the chain leaves `x` out on its sides. -/
def Once (start : Option τ) (marks : List (Option τ)) (x : τ) : Prop :=
  sharedMarks marks x ≤ sidesMissed start marks x

instance (start : Option τ) (marks : List (Option τ)) (x : τ) :
    Decidable (Once start marks x) := inferInstanceAs (Decidable (_ ≤ _))

@[simp] theorem opens_none (x : τ) : Opens none x := by simp [Opens]

variable {x : τ}

@[simp] theorem opens_some {s : τ} : Opens (some s) x ↔ s ≤ x := by simp [Opens]

@[simp] theorem closes_none (x : τ) : Closes none x := by simp [Closes]

@[simp] theorem closes_some {s : τ} : Closes (some s) x ↔ x ≤ s := by simp [Closes]

omit [LinearOrder τ] in
@[simp] theorem shared_none (x : τ) : Shared x none := by simp [Shared]

omit [LinearOrder τ] in
@[simp] theorem shared_some {s : τ} : Shared x (some s) ↔ s = x := by simp [Shared]

/-! ### Counting windows -/

theorem beforeAll_cons (start mark : Option τ) (marks : List (Option τ)) (x : τ) :
    BeforeAll start (mark :: marks) x ↔ ¬ Opens start x ∧ Closes mark x := by
  simp [BeforeAll, Closes]

/-- In a chain in order, what is before a mark is not after the next. -/
theorem closes_next {mark next : Option τ} {marks : List (Option τ)}
    (h : InOrder (mark :: next :: marks)) (hmark : ¬ Opens mark x) : Closes next x := by
  intro t ht
  simp only [Opens, not_forall, not_le] at hmark
  obtain ⟨s, hs, hlt⟩ := hmark
  have hle : s ≤ t := (List.pairwise_cons.mp h).1 next List.mem_cons_self s hs t ht
  exact hlt.le.trans hle

/-- At a mark, `x` is in the window before it or left of that window exactly as often as the
mark is shared or not yet passed. -/
theorem split_at_mark (start mark : Option τ) (x : τ) :
    (if Contains x (start, mark) then 1 else 0)
        + (if ¬ Opens start x ∧ Closes mark x then 1 else 0)
      = (if Shared x mark then 1 else 0) + (if Opens mark x then 0 else 1) := by
  cases mark with
  | none => by_cases h : Opens start x <;> simp [Contains, h]
  | some t =>
      rcases lt_trichotomy t x with hlt | rfl | hlt
      · simp [Contains, hlt.not_ge, hlt.le, hlt.ne]
      · by_cases h : Opens start t <;> simp [Contains, h]
      · by_cases h : Opens start x <;> simp [Contains, h, hlt.not_ge, hlt.le, hlt.ne']

/-- **How many windows of a chain hold a point**: one for each shared inner mark and one more,
less the sides on which the chain leaves the point out. -/
theorem countP_chain (start mark : Option τ) (marks : List (Option τ)) (x : τ)
    (h : InOrder (mark :: marks)) :
    (chain start (mark :: marks)).countP (Contains x ·) + sidesMissed start (mark :: marks) x
      = sharedMarks (mark :: marks) x + 1 := by
  induction marks generalizing start mark with
  | nil =>
      by_cases hstart : Opens start x <;> by_cases hmark : Closes mark x <;>
        simp [chain, sidesMissed, sharedMarks, beforeAll_cons, AfterAll, Contains, hstart, hmark]
  | cons next marks ih =>
      have hrest := ih mark next (List.pairwise_cons.mp h).2
      have hsplit := split_at_mark start mark x
      have hafter : AfterAll (mark :: next :: marks) x ↔ AfterAll (next :: marks) x := by
        simp [AfterAll]
      have hnext : (¬ Opens mark x ∧ Closes next x) ↔ ¬ Opens mark x :=
        ⟨And.left, fun hmark => ⟨hmark, closes_next h hmark⟩⟩
      simp only [chain, sidesMissed, sharedMarks, List.countP_cons, beforeAll_cons,
        List.dropLast_cons_cons, hafter, hnext, decide_eq_true_eq, ite_not] at hrest hsplit ⊢
      omega

/-! ### Disjoint windows -/

/-- At most one element of a list has a property exactly when no two have it. -/
theorem countP_le_one_iff {β : Type*} (p : β → Prop) [DecidablePred p] (l : List β) :
    l.countP (p ·) ≤ 1 ↔ l.Pairwise fun a b => ¬ (p a ∧ p b) := by
  induction l with
  | nil => simp
  | cons a l ih =>
      rw [List.pairwise_cons, ← ih, List.countP_cons]
      by_cases ha : p a
      · have hnone : l.countP (p ·) = 0 ↔ ∀ b ∈ l, ¬ (p a ∧ p b) := by
          simp [List.countP_eq_zero, ha]
        rw [← hnone, if_pos (decide_eq_true ha)]
        omega
      · simp [ha]

/-- **Windows that share no point**: those of a chain in order do not share `x` exactly when no
more inner marks are shared at `x` than the chain leaves out on its sides. -/
theorem pairwise_chain_iff {start : Option τ} {marks : List (Option τ)} (h : InOrder marks) :
    ((chain start marks).Pairwise fun a b => ¬ (Contains x a ∧ Contains x b))
      ↔ Once start marks x := by
  rw [← countP_le_one_iff]
  cases marks with
  | nil => simp [chain, Once, sharedMarks]
  | cons mark marks =>
      have hcount := countP_chain start mark marks x h
      rw [Once]
      omega

end Windows
