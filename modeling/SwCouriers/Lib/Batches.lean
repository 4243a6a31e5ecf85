import Mathlib.Data.List.Perm.Basic

/-!
# Sequences Cut into Batches

A sequence is processed batch by batch. What an element yields may depend on what came before
it, and differently on what came in earlier batches and on what came earlier in its own batch:
`f before seen a` is what `a` yields when the earlier batches held `before` and its own batch
began with `seen`.

## Main definitions

* `batch`, `cut`: what one batch, and a list of batches, yields.

## Main results

* `perm_cut_iff`: every cut yields the same, up to order, exactly if for no element it matters
  where its batch began.
* `getLast?_filter_iff`: the last element of a kind, and what comes after it.
-/

namespace Batches

variable {α β κ : Type*}

/-- The last element of a kind: no element after it is of the kind. -/
theorem getLast?_filter_iff {p : α → Bool} {l : List α} {a : α} :
    (l.filter p).getLast? = some a ↔
      p a = true ∧ ∃ init rest, l = init ++ a :: rest ∧ ∀ b ∈ rest, p b = false := by
  rw [List.getLast?_filter, List.find?_eq_some_iff_append]
  refine and_congr_right fun _ => ⟨?_, ?_⟩
  · rintro ⟨rest, init, hl, hrest⟩
    refine ⟨init.reverse, rest.reverse, ?_, fun b hb => ?_⟩
    · rw [← List.reverse_reverse l, hl]
      simp
    · simpa using hrest b (List.mem_reverse.mp hb)
  · rintro ⟨init, rest, rfl, hrest⟩
    refine ⟨rest.reverse, init.reverse, by simp, fun b hb => ?_⟩
    simpa using hrest b (List.mem_reverse.mp hb)

section Yields

variable (f : List α → List α → α → List β)

/-- What the rest of a batch yields. -/
def batch (before : List α) : List α → List α → List β
  | _, [] => []
  | seen, a :: rest => f before seen a ++ batch before (seen ++ [a]) rest

/-- What the batches yield, one after the other. -/
def cut : List α → List (List α) → List β
  | _, [] => []
  | before, items :: batches => batch f before [] items ++ cut (before ++ items) batches

/-- What the elements yield when each is a batch of its own. -/
def alone : List α → List α → List β
  | _, [] => []
  | before, a :: rest => f before [] a ++ alone (before ++ [a]) rest

/-- For no element of the sequence it matters where its batch began. -/
def CutFree (l : List α) : Prop :=
  ∀ before seen a rest, l = before ++ seen ++ a :: rest →
    (f before seen a).Perm (f (before ++ seen) [] a)

end Yields

variable {f : List α → List α → α → List β}

theorem batch_append (before seen xs ys : List α) :
    batch f before seen (xs ++ ys)
      = batch f before seen xs ++ batch f before (seen ++ xs) ys := by
  induction xs generalizing seen with
  | nil => rw [List.nil_append, List.append_nil]; rfl
  | cons a xs ih =>
      have hseen : seen ++ a :: xs = seen ++ [a] ++ xs := by simp
      rw [List.cons_append, batch, ih, ← hseen, ← List.append_assoc]
      rfl

theorem alone_append (before xs ys : List α) :
    alone f before (xs ++ ys) = alone f before xs ++ alone f (before ++ xs) ys := by
  induction xs generalizing before with
  | nil => rw [List.nil_append, List.append_nil]; rfl
  | cons a xs ih =>
      have hbefore : before ++ a :: xs = before ++ [a] ++ xs := by simp
      rw [List.cons_append, alone, ih, ← hbefore, ← List.append_assoc]
      rfl

variable {before seen rest : List α}

/-- The rest of a batch yields what its elements yield alone. -/
theorem perm_batch_alone (post : List α) (h : CutFree f (before ++ seen ++ rest ++ post)) :
    (batch f before seen rest).Perm (alone f (before ++ seen) rest) := by
  induction rest generalizing seen with
  | nil => exact .nil
  | cons a rest ih =>
      rw [batch, alone, List.append_assoc before]
      refine (h before seen a (rest ++ post) (by simp)).append (ih ?_)
      rwa [← List.append_assoc, List.append_assoc _ [a], List.singleton_append]

theorem perm_cut_alone {batches : List (List α)} (h : CutFree f (before ++ batches.flatten)) :
    (cut f before batches).Perm (alone f before batches.flatten) := by
  induction batches generalizing before with
  | nil => exact .nil
  | cons items batches ih =>
      rw [List.flatten_cons, ← List.append_assoc] at h
      rw [cut, List.flatten_cons, alone_append]
      have hfirst : (batch f before [] items).Perm (alone f (before ++ []) items) :=
        perm_batch_alone batches.flatten (by rwa [List.append_nil])
      rw [List.append_nil] at hfirst
      exact hfirst.append (ih h)

section Keys

variable [DecidableEq κ] {key : β → κ} {keyOf : α → κ}
  (hkey : ∀ before seen a, ∀ b ∈ f before seen a, key b = keyOf a)
include hkey

/-- Elements with other keys yield nothing under this one. -/
theorem filter_batch_of_notMem {k : κ} (hk : k ∉ rest.map keyOf) :
    (batch f before seen rest).filter (fun b => key b = k) = [] := by
  induction rest generalizing seen with
  | nil => rfl
  | cons a rest ih =>
      rw [List.map_cons, List.mem_cons, not_or] at hk
      rw [batch, List.filter_append, ih hk.2, List.append_nil]
      refine List.filter_eq_nil_iff.mpr fun b hb hbk => hk.1 ?_
      exact (of_decide_eq_true hbk).symm.trans (hkey _ _ _ b hb)

/-- Under the key of an element a batch yields what the element does. -/
theorem filter_batch_of_mem {a : α} (hnodup : ((seen ++ a :: rest).map keyOf).Nodup) :
    (batch f before [] (seen ++ a :: rest)).filter (fun b => key b = keyOf a)
      = f before seen a := by
  rw [List.map_append, List.map_cons, List.nodup_append] at hnodup
  obtain ⟨-, hrest, hdisjoint⟩ := hnodup
  have hseen : keyOf a ∉ seen.map keyOf := fun hmem =>
    hdisjoint _ hmem _ List.mem_cons_self rfl
  rw [batch_append, List.nil_append, batch, List.filter_append, List.filter_append,
    filter_batch_of_notMem hkey hseen, filter_batch_of_notMem hkey (List.nodup_cons.mp hrest).1,
    List.nil_append, List.append_nil]
  exact List.filter_eq_self.mpr fun b hb => decide_eq_true (hkey _ _ _ b hb)

/-- The same in two batches of which the second holds the element. -/
theorem filter_cut_of_mem {a : α} (hnodup : ((before ++ (seen ++ a :: rest)).map keyOf).Nodup) :
    (cut f [] [before, seen ++ a :: rest]).filter (fun b => key b = keyOf a)
      = f before seen a := by
  rw [List.map_append, List.nodup_append] at hnodup
  obtain ⟨-, hsecond, hdisjoint⟩ := hnodup
  have hbefore : keyOf a ∉ before.map keyOf := fun hmem =>
    hdisjoint _ hmem _ (List.mem_map_of_mem (by simp)) rfl
  simp only [cut, List.nil_append, List.append_nil]
  rw [List.filter_append, filter_batch_of_notMem hkey hbefore, List.nil_append]
  exact filter_batch_of_mem hkey hsecond

/-- **Cuts.** If what the elements yield can be told apart, every way of cutting the sequence
yields the same as one single batch exactly if for no element it matters where its batch
began. -/
theorem perm_cut_iff {l : List α} (hnodup : (l.map keyOf).Nodup) :
    (∀ batches : List (List α), batches.flatten = l → (cut f [] batches).Perm (cut f [] [l])) ↔
      CutFree f l := by
  constructor
  · rintro h before seen a rest rfl
    have hfirst := h [before, seen ++ a :: rest] (by simp)
    have hsecond := h [before ++ seen, [] ++ a :: rest] (by simp)
    have hfilter := (hfirst.trans hsecond.symm).filter fun b => decide (key b = keyOf a)
    rw [List.append_assoc] at hnodup
    rwa [filter_cut_of_mem hkey hnodup, filter_cut_of_mem hkey (by simpa using hnodup)] at hfilter
  · rintro h batches rfl
    have hsingle : (cut f [] [batches.flatten]).Perm (alone f [] [batches.flatten].flatten) :=
      perm_cut_alone (by simpa using h)
    rw [List.flatten_singleton] at hsingle
    exact (perm_cut_alone (by simpa using h)).trans hsingle.symm

end Keys

end Batches
