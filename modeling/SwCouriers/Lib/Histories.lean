import Mathlib.Data.List.Chain
import Mathlib.Data.List.Nodup

/-!
# Histories of a Status

A status that changes leaves a transition behind each time. The transitions are the history of
the status when each of them starts where the one before it ended, and the last one ended at what
the status is now. Where several things have a status of their own, the transitions stand in one
list together, each under the key of the thing that it is about.

## Main results

* `IsHistory.snoc`, `IsHistory.append_change`: a history goes on with a transition from the status
  that it has reached.
* `IsHistory.unique`: a history has one status.
* `about_map_of_mem`, `about_map_of_notMem`: what a list with distinct keys says of one of them.
* `isHistory_moved`, `isHistory_settled`: histories of many things go on when some of them move to
  one new status, or those of them that are not there yet.
-/

namespace Histories

variable {σ κ ι : Type*}

/-- From one status to another; the first transition of a history starts nowhere. -/
structure Transition (σ : Type*) where
  fromStatus : Option σ
  toStatus : σ
  deriving DecidableEq, Repr

/-- The transitions are a complete history of the status. -/
structure IsHistory (events : List (Transition σ)) (status : σ) : Prop where
  links : events.IsChain fun e e' => e'.fromStatus = some e.toStatus
  reaches : events.getLast?.map Transition.toStatus = some status

/-- The transition from a status to a new one, if there is a new one. -/
def changeOf [DecidableEq σ] (status : σ) : Option σ → List (Transition σ)
  | none => []
  | some new => if new = status then [] else [⟨some status, new⟩]

/-- A history has one status. -/
theorem IsHistory.unique {events : List (Transition σ)} {s s' : σ} (h : IsHistory events s)
    (h' : IsHistory events s') : s = s' :=
  Option.some.inj (h.reaches.symm.trans h'.reaches)

theorem isHistory_singleton (start : Option σ) (status : σ) :
    IsHistory [⟨start, status⟩] status :=
  ⟨.singleton _, rfl⟩

/-- A history goes on from the status that it has reached. -/
theorem IsHistory.snoc {events : List (Transition σ)} {status : σ} (h : IsHistory events status)
    (new : σ) : IsHistory (events ++ [⟨some status, new⟩]) new := by
  refine ⟨h.links.append (.singleton _) fun e he e' he' => ?_, by simp⟩
  have hlast : some e.toStatus = some status := by
    rw [← h.reaches, he]
    rfl
  obtain rfl : ⟨some status, new⟩ = e' := by simpa using he'
  exact hlast.symm

/-- It goes on when a change is recorded, and stays as it is when there is none. -/
theorem IsHistory.append_change [DecidableEq σ] {events : List (Transition σ)} {status : σ}
    (h : IsHistory events status) (new : Option σ) :
    IsHistory (events ++ changeOf status new) (new.getD status) := by
  cases new with
  | none => rwa [changeOf, List.append_nil]
  | some new =>
      rw [changeOf]
      split_ifs with heq
      · obtain rfl := heq
        rwa [List.append_nil]
      · exact h.snoc new

/-- From every history of the one status, the transitions lead to a history of the other. -/
def Continues (status : σ) (new : List (Transition σ)) (status' : σ) : Prop :=
  ∀ events, IsHistory events status → IsHistory (events ++ new) status'

theorem continues_nil (status : σ) : Continues status [] status := by
  intro events h
  rwa [List.append_nil]

theorem continues_single (status new : σ) : Continues status [⟨some status, new⟩] new :=
  fun _ h => h.snoc new

theorem continues_changeOf [DecidableEq σ] (status : σ) (new : Option σ) :
    Continues status (changeOf status new) (new.getD status) :=
  fun _ h => h.append_change new

variable [DecidableEq κ]

/-- What a list of transitions says of one key. -/
def about (events : List (κ × Transition σ)) (key : κ) : List (Transition σ) :=
  (events.filter fun e => e.1 = key).map (·.2)

@[simp] theorem about_nil (key : κ) : about ([] : List (κ × Transition σ)) key = [] := rfl

theorem about_append (events events' : List (κ × Transition σ)) (key : κ) :
    about (events ++ events') key = about events key ++ about events' key := by
  rw [about, List.filter_append, List.map_append]
  rfl

theorem about_cons (e : κ × Transition σ) (events : List (κ × Transition σ)) (key : κ) :
    about (e :: events) key = if e.1 = key then e.2 :: about events key else about events key := by
  unfold about
  by_cases h : e.1 = key <;> simp [h]

variable {keyOf : ι → κ}

/-- A list that is about other keys. -/
theorem about_map_of_notMem {l : List ι} {f : ι → Transition σ} {key : κ} (h : key ∉ l.map keyOf) :
    about (l.map fun x => (keyOf x, f x)) key = [] := by
  induction l with
  | nil => rfl
  | cons x l ih =>
      have hx : keyOf x ≠ key := fun heq => h (heq ▸ List.mem_cons_self)
      have hl : key ∉ l.map keyOf := fun hmem => h (List.mem_cons_of_mem _ hmem)
      rw [List.map_cons, about_cons, if_neg hx, ih hl]

/-- A list with distinct keys has one transition for each. -/
theorem about_map_of_mem {l : List ι} {f : ι → Transition σ} (hnd : (l.map keyOf).Nodup) {x : ι}
    (hx : x ∈ l) : about (l.map fun x => (keyOf x, f x)) (keyOf x) = [f x] := by
  induction l with
  | nil => exact absurd hx List.not_mem_nil
  | cons y l ih =>
      obtain ⟨hy, hnd⟩ := List.nodup_cons.mp hnd
      rw [List.map_cons, about_cons]
      rcases List.mem_cons.mp hx with rfl | hx
      · rw [if_pos rfl, about_map_of_notMem hy]
      · have hne : keyOf y ≠ keyOf x := fun heq => hy (heq ▸ List.mem_map_of_mem hx)
        rw [if_neg hne, ih hnd hx]

/-- Transitions of one key. -/
theorem about_tag (key key' : κ) (new : List (Transition σ)) :
    about (new.map fun e => (key, e)) key' = if key = key' then new else [] := by
  induction new with
  | nil => rw [List.map_nil, about_nil, ite_self]
  | cons e new ih =>
      rw [List.map_cons, about_cons, ih]
      split_ifs <;> rfl

/-- Some of the things with distinct keys move to one new status, each leaving a transition from
the status that it had: the histories of all of them go on. -/
theorem isHistory_moved {rows moved : List ι} {statusOf : ι → σ} {events : List (κ × Transition σ)}
    (h : ∀ x ∈ rows, IsHistory (about events (keyOf x)) (statusOf x)) (hnd : (rows.map keyOf).Nodup)
    (hsub : ∀ x ∈ moved, x ∈ rows) (hmoved : (moved.map keyOf).Nodup) (new : σ) {x : ι}
    (hx : x ∈ rows) :
    IsHistory (about (events ++ moved.map fun y => (keyOf y, ⟨some (statusOf y), new⟩)) (keyOf x))
      (if keyOf x ∈ moved.map keyOf then new else statusOf x) := by
  rw [about_append]
  by_cases hkey : keyOf x ∈ moved.map keyOf
  · obtain ⟨y, hy, heq⟩ := List.mem_map.mp hkey
    obtain rfl := List.inj_on_of_nodup_map hnd (hsub y hy) hx heq
    rw [if_pos hkey, about_map_of_mem (f := fun y => ⟨some (statusOf y), new⟩) hmoved hy]
    exact (h y hx).snoc new
  · rw [if_neg hkey, about_map_of_notMem hkey, List.append_nil]
    exact h x hx

/-- The same when only those move that are not at the new status yet. -/
theorem isHistory_settled [DecidableEq σ] {rows picked : List ι} {statusOf : ι → σ}
    {events : List (κ × Transition σ)}
    (h : ∀ x ∈ rows, IsHistory (about events (keyOf x)) (statusOf x)) (hnd : (rows.map keyOf).Nodup)
    (hsub : ∀ x ∈ picked, x ∈ rows) (hpicked : (picked.map keyOf).Nodup) (new : σ) {x : ι}
    (hx : x ∈ rows) :
    IsHistory (about (events ++ (picked.filter fun y => statusOf y ≠ new).map
        fun y => (keyOf y, ⟨some (statusOf y), new⟩)) (keyOf x))
      (if keyOf x ∈ picked.map keyOf then new else statusOf x) := by
  have hmoved := isHistory_moved h hnd
    (fun y hy => hsub y (List.mem_filter.mp hy).1)
    (hpicked.sublist ((List.filter_sublist (p := fun y => statusOf y ≠ new)).map keyOf)) new hx
  have hstatus : (if keyOf x ∈ (picked.filter fun y => statusOf y ≠ new).map keyOf then new
      else statusOf x) = if keyOf x ∈ picked.map keyOf then new else statusOf x := by
    by_cases hmem : keyOf x ∈ picked.map keyOf
    · rw [if_pos hmem]
      obtain ⟨y, hy, heq⟩ := List.mem_map.mp hmem
      obtain rfl := List.inj_on_of_nodup_map hnd (hsub y hy) hx heq
      by_cases hat : statusOf y = new
      · rw [hat, ite_self]
      · rw [if_pos (List.mem_map_of_mem (List.mem_filter.mpr ⟨hy, decide_eq_true hat⟩))]
    · rw [if_neg hmem, if_neg]
      intro hin
      obtain ⟨y, hy, heq⟩ := List.mem_map.mp hin
      exact hmem (heq ▸ List.mem_map_of_mem (List.mem_filter.mp hy).1)
  rwa [hstatus] at hmoved

end Histories
