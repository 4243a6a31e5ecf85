import SwCouriers.Common
import SwCouriers.Lib.Table

/-!
# The Base Repository

The operations of `app/common/repository.py` that every module's repository inherits:
a lookup by identifier inside a scope, the lookup that raises when nothing is found,
and the version-checked update.

An update with an `expected_version` is a single `UPDATE … WHERE version = :expected`
that writes `expected + 1`; no matching row means that another request came first.

## Main results

* `getByIdOr404_eq_ok`: what a lookup found is a row of the table, in scope.
* `updateById_eq_ok`: an update went through exactly when the row was found in scope at
  the expected version.
-/

namespace SwCouriers

open Checked

/-- A table of the database: its name, its primary key and its version column. -/
class Entity (ρ : Type) where
  tablename : String
  id : ρ → Id
  version : ρ → ℕ

/-- The rows of an entity, keyed by identifier. -/
abbrev TableOf (ρ : Type) [Entity ρ] := Table (Entity.id : ρ → Id)

variable {ρ : Type} [Entity ρ]

/-- `BaseRepository.get_by_id`, with the scope filters as a predicate. -/
def getById (t : TableOf ρ) (id : Id) (scope : ρ → Bool) : Option ρ :=
  (t.find? id).filter scope

/-- `BaseRepository.get_by_id_or_404`. -/
def getByIdOr404 (t : TableOf ρ) (id : Id) (scope : ρ → Bool) : Except ServiceError ρ :=
  orRaise (getById t id scope) (.notFound (Entity.tablename ρ) (some id))

/-- `BaseRepository.update_by_id` with an expected version. The new row is `f` of the
old one; `f` writes the new version along with the other columns. -/
def updateById (t : TableOf ρ) (id : Id) (f : ρ → ρ)
    (hf : ∀ r, Entity.id (f r) = Entity.id r) (expectedVersion : ℕ) (scope : ρ → Bool) :
    Except ServiceError (TableOf ρ) := do
  let record ← getByIdOr404 t id scope
  raiseIf (Entity.version record ≠ expectedVersion)
    (modifiedElsewhere (Entity.tablename ρ))
  return t.modify id f hf

/-- The scope that lets every row through. -/
def anyScope : ρ → Bool := fun _ => true

theorem getById_eq_some {t : TableOf ρ} {id : Id} {scope : ρ → Bool} {r : ρ} :
    getById t id scope = some r ↔ t.find? id = some r ∧ scope r = true := by
  simp [getById, Option.filter_eq_some_iff]

/-- What a lookup found is a row of the table, in scope. -/
theorem getByIdOr404_eq_ok {t : TableOf ρ} {id : Id} {scope : ρ → Bool} {r : ρ} :
    getByIdOr404 t id scope = .ok r ↔ t.find? id = some r ∧ scope r = true := by
  rw [getByIdOr404, orRaise_eq_ok, getById_eq_some]

/-- An update goes through exactly when the row is found in scope at the expected
version. -/
theorem updateById_eq_ok {t t' : TableOf ρ} {id : Id} {f : ρ → ρ}
    {hf : ∀ r, Entity.id (f r) = Entity.id r} {expectedVersion : ℕ} {scope : ρ → Bool} :
    updateById t id f hf expectedVersion scope = .ok t' ↔
      ∃ r, t.find? id = some r ∧ scope r = true ∧ Entity.version r = expectedVersion ∧
        t.modify id f hf = t' := by
  unfold updateById
  constructor
  · intro h
    obtain ⟨r, hr, h⟩ := bind_eq_ok.mp h
    obtain ⟨⟨⟩, hv, h⟩ := bind_eq_ok.mp h
    obtain ⟨hfind, hscope⟩ := getByIdOr404_eq_ok.mp hr
    exact ⟨r, hfind, hscope, not_not.mp (raiseIf_eq_ok.mp hv), pure_eq_ok.mp h⟩
  · rintro ⟨r, hfind, hscope, hv, rfl⟩
    refine bind_eq_ok.mpr ⟨r, getByIdOr404_eq_ok.mpr ⟨hfind, hscope⟩, ?_⟩
    exact bind_eq_ok.mpr ⟨⟨⟩, raiseIf_eq_ok.mpr (not_not.mpr hv), rfl⟩

end SwCouriers
