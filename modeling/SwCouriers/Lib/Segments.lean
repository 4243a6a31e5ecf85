import Mathlib.Data.List.Basic

/-!
# Segments of a List

Some elements of a list start a new segment. The list falls into segments, each from a start, or
from the head of the list, up to the next start. A loop can decide whether all elements of some
segment have a property with two variables: what it has found of the segments before, and whether
all elements of the present one have it so far.

## Main results

* `isSegment_cons_iff`: the segments of a list, by its first segment and the rest.
* `foldl_step_iff`: the loop decides what it should.
-/

namespace Segments

variable {α : Type*}

/-- A segment of `l`: it starts at the head of `l` or with a start, no other of its elements is a
start, and it ends at the end of `l` or before a start. -/
def IsSegment (start : α → Bool) (l run : List α) : Prop :=
  ∃ (pre : List α) (a : α) (tail post : List α),
    l = pre ++ (a :: tail) ++ post ∧ run = a :: tail ∧
    (pre = [] ∨ start a = true) ∧ (∀ b ∈ tail, start b = false) ∧
    (∀ b ∈ post.head?, start b = true)

/-- No list without elements has a segment. -/
theorem not_isSegment_nil (start : α → Bool) (run : List α) : ¬ IsSegment start [] run := by
  rintro ⟨pre, a, tail, post, hl, -⟩
  simp at hl

/-- What is left after the elements that are no starts begins with a start. -/
theorem head_dropWhile (start : α → Bool) (l : List α) :
    ∀ b ∈ (l.dropWhile fun b => !start b).head?, start b = true := by
  intro b hb
  have hnot := List.head?_dropWhile_not (fun b => !start b) l
  rw [Option.mem_def.mp hb] at hnot
  simpa using hnot

/-- **The segments of a list** are the one from its head up to the next start, and those of the
list from there on. -/
theorem isSegment_cons_iff {start : α → Bool} {a : α} {l run : List α} :
    IsSegment start (a :: l) run ↔ run = a :: l.takeWhile (fun b => !start b) ∨
      IsSegment start (l.dropWhile fun b => !start b) run := by
  constructor
  · rintro ⟨pre, b, tail, post, hl, rfl, hstart, htail, hpost⟩
    have htail' : ∀ b ∈ tail, (!start b) = true := fun b hb => by rw [htail b hb]; rfl
    cases pre with
    | nil =>
        obtain ⟨rfl, rfl⟩ : a = b ∧ l = tail ++ post := by simpa using hl
        have hnone : post.takeWhile (fun b => !start b) = [] := by
          cases post with
          | nil => rfl
          | cons c post => exact List.takeWhile_cons_of_neg (by simp [hpost c (by simp)])
        rw [List.takeWhile_append_of_pos htail', hnone, List.append_nil]
        exact .inl rfl
    | cons c pre =>
        obtain ⟨rfl, rfl⟩ : a = c ∧ l = pre ++ (b :: tail) ++ post := by simpa using hl
        have hb : start b = true := hstart.resolve_left (List.cons_ne_nil _ _)
        refine .inr ⟨pre.dropWhile fun b => !start b, b, tail, post, ?_, rfl, .inr hb, htail, hpost⟩
        rw [List.append_assoc, List.dropWhile_append]
        split_ifs with hempty
        · rw [List.isEmpty_iff.mp hempty]
          exact List.dropWhile_cons_of_neg (by simp [hb])
        · rw [List.append_assoc]
  · have hsplit := List.takeWhile_append_dropWhile (p := fun b => !start b) (l := l)
    rintro (rfl | ⟨pre, b, tail, post, hl, rfl, hstart, htail, hpost⟩)
    · refine ⟨[], a, l.takeWhile fun b => !start b, l.dropWhile fun b => !start b, ?_, rfl,
        .inl rfl, fun b hb => ?_, head_dropWhile start l⟩
      · rw [List.nil_append, List.cons_append, hsplit]
      · have hall := List.all_eq_true.mp (List.all_takeWhile (p := fun b => !start b) (l := l)) b hb
        simpa using hall
    · refine ⟨a :: l.takeWhile (fun b => !start b) ++ pre, b, tail, post, ?_, rfl, .inr ?_, htail,
        hpost⟩
      · calc a :: l = a :: (l.takeWhile (fun b => !start b) ++ l.dropWhile fun b => !start b) := by
              rw [hsplit]
          _ = _ := by rw [hl]; simp
      · rcases hstart with rfl | hstart
        · exact head_dropWhile start l b (by rw [hl]; simp)
        · exact hstart

/-! ### A loop over segments -/

/-- What the loop knows: of each complete segment whether all its elements have the property, and
whether those of the present one have it so far. -/
def step (start p : α → Bool) (known : List Bool × Bool) (a : α) : List Bool × Bool :=
  if start a then (known.1 ++ [known.2], p a) else (known.1, known.2 && p a)

/-- **The loop decides** whether some segment consists of elements with the property. -/
theorem foldl_step_iff (start p : α → Bool) (l : List α) (known : List Bool × Bool) :
    ((l.foldl (step start p) known).1 ++ [(l.foldl (step start p) known).2]).any id = true ↔
      known.1.any id = true ∨
      (known.2 = true ∧ ∀ a ∈ l.takeWhile (fun b => !start b), p a = true) ∨
      ∃ run, IsSegment start (l.dropWhile fun b => !start b) run ∧ ∀ a ∈ run, p a = true := by
  induction l generalizing known with
  | nil => simp [not_isSegment_nil]
  | cons a l ih =>
      rw [List.foldl_cons, ih]
      by_cases hstart : start a = true
      · -- A new segment begins, and the one before it is complete.
        have hnot : ¬ (!start a) = true := by simp [hstart]
        rw [step, if_pos hstart, List.takeWhile_cons_of_neg (p := fun b => !start b) hnot,
          List.dropWhile_cons_of_neg (p := fun b => !start b) hnot]
        simp only [isSegment_cons_iff, List.any_append, or_and_right, exists_or, exists_eq_left,
          List.forall_mem_cons, List.not_mem_nil, false_implies, implies_true, and_true]
        simp [or_assoc]
      · have hpos : (!start a) = true := by simpa using hstart
        rw [step, if_neg hstart, List.takeWhile_cons_of_pos (p := fun b => !start b) hpos,
          List.dropWhile_cons_of_pos (p := fun b => !start b) hpos]
        simp only [List.forall_mem_cons, Bool.and_eq_true, and_assoc]

/-- The loop over a list, from its head on. -/
theorem foldl_head_iff (start p : α → Bool) (a : α) (l : List α) :
    ((l.foldl (step start p) ([], p a)).1 ++ [(l.foldl (step start p) ([], p a)).2]).any id = true
      ↔ ∃ run, IsSegment start (a :: l) run ∧ ∀ b ∈ run, p b = true := by
  rw [foldl_step_iff]
  simp only [isSegment_cons_iff, or_and_right, exists_or, exists_eq_left, List.forall_mem_cons]
  simp

end Segments
