import Mathlib.Data.List.Basic

/-!
# Preferred Matches

Requirements are tried in turn over a list, and the first element that meets the first
requirement that any element meets is chosen (`firstOf`). When what is chosen has to be allowed
afterwards, an element that is not allowed can stand before one that is: it shadows it
(`Shadowed`).

## Main results

* `firstOf_cons_of_exists`, `firstOf_cons_of_forall`: which requirement decides.
* `exists_allowed_iff`: when some element is allowed, the first one is, or it shadows it.
-/

namespace Preferences

variable {α : Type*}

/-- The first element that meets the first requirement that any element meets. -/
def firstOf : List (α → Bool) → List α → Option α
  | [], _ => none
  | p :: ps, l => (l.find? p).or (firstOf ps l)

variable {p allowed : α → Bool} {ps : List (α → Bool)} {l : List α}

/-- A requirement that some element meets decides. -/
theorem firstOf_cons_of_exists (h : ∃ a ∈ l, p a = true) :
    firstOf (p :: ps) l = l.find? p := by
  obtain ⟨a, ha⟩ := Option.isSome_iff_exists.mp (List.find?_isSome.mpr h)
  rw [firstOf, ha]
  rfl

/-- A requirement that no element meets is passed over. -/
theorem firstOf_cons_of_forall (h : ∀ a ∈ l, p a = false) :
    firstOf (p :: ps) l = firstOf ps l := by
  have hnone : l.find? p = none :=
    List.find?_eq_none.mpr fun a ha => by rw [h a ha]; exact Bool.false_ne_true
  rw [firstOf, hnone]
  rfl

/-- The first requirements are tried first. -/
theorem firstOf_append (ps qs : List (α → Bool)) (l : List α) :
    firstOf (ps ++ qs) l = (firstOf ps l).or (firstOf qs l) := by
  induction ps with
  | nil => rfl
  | cons p ps ih => rw [List.cons_append, firstOf, firstOf, ih, Option.or_assoc]

theorem mem_of_firstOf {a : α} (h : firstOf ps l = some a) : a ∈ l := by
  induction ps with
  | nil => cases h
  | cons p ps ih =>
      rcases Option.or_eq_some_iff.mp h with hfind | ⟨-, hrest⟩
      · exact List.mem_of_find?_eq_some hfind
      · exact ih hrest

/-- The first element that meets the requirement is not allowed, and a later one that meets it
is. -/
def Shadowed (allowed p : α → Bool) (l : List α) : Prop :=
  ∃ pre a post, l = pre ++ a :: post ∧ (∀ b ∈ pre, p b = false) ∧ p a = true ∧
    allowed a = false ∧ ∃ b ∈ post, p b = true ∧ allowed b = true

/-- **When an element that meets the requirement is allowed, the first one is allowed exactly if
it does not shadow it.** -/
theorem exists_allowed_iff (h : ∃ a ∈ l, p a = true ∧ allowed a = true) :
    (∃ a, l.find? p = some a ∧ allowed a = true) ↔ ¬ Shadowed allowed p l := by
  constructor
  · rintro ⟨a, hfind, hallowed⟩ ⟨pre, b, post, rfl, hpre, hb, hforbidden, -⟩
    have hfirst : (pre ++ b :: post).find? p = some b :=
      List.find?_eq_some_iff_append.mpr
        ⟨hb, pre, post, rfl, fun c hc => by rw [hpre c hc]; rfl⟩
    obtain rfl := Option.some.inj (hfind.symm.trans hfirst)
    rw [hforbidden] at hallowed
    exact Bool.false_ne_true hallowed
  · intro hclear
    obtain ⟨b, hb, hpb, hallowed⟩ := h
    obtain ⟨a, hfind⟩ := Option.isSome_iff_exists.mp (List.find?_isSome.mpr ⟨b, hb, hpb⟩)
    refine ⟨a, hfind, ?_⟩
    by_contra hforbidden
    obtain ⟨hpa, pre, post, rfl, hpre⟩ := List.find?_eq_some_iff_append.mp hfind
    have hpre : ∀ c ∈ pre, p c = false := fun c hc => by simpa using hpre c hc
    have hforbidden := Bool.eq_false_iff.mpr hforbidden
    refine hclear ⟨pre, a, post, rfl, hpre, hpa, hforbidden, b, ?_, hpb, hallowed⟩
    -- The allowed element is neither the first one nor before it.
    rcases List.mem_append.mp hb with hb | hb
    · exact absurd hpb (by rw [hpre b hb]; exact Bool.false_ne_true)
    · rcases List.mem_cons.mp hb with rfl | hb
      · exact absurd hallowed (by rw [hforbidden]; exact Bool.false_ne_true)
      · exact hb

end Preferences
