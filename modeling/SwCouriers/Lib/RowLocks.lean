import SwCouriers.Lib.Table
import SwCouriers.Lib.TransactionLogic

/-!
# Statements that Lock the Rows they Find

`SELECT … WHERE p … FOR UPDATE` and `UPDATE … WHERE p` at read committed. Such a statement
first sees which committed rows match, and then takes them one after the other: it waits for
each row, locks it, and looks at its latest version. A row that does not match any longer is
passed over; a row that came to match in the meantime is not found.

An `UPDATE … WHERE p` takes all rows that still match; those it writes.

A unique index lets an insertion wait for whoever has inserted the same entry and not yet
committed; `claim` locks the entry and looks whether it is taken.

## Main results

* `wp_selectForUpdate`, `wp_selectForUpdate_held`: the rules for one row, with what is known of
  the rows still to try, and when nothing has to be known of them.
* `wp_takeRows`, `wp_takeRows_held`, `wp_updateWhere_held`: the rules for an update of all rows
  that match.
* `wp_claim`: the rule for an entry of a unique index.
-/

namespace ReadCommitted

namespace Txn

variable {S K ε κ ρ : Type} {key : ρ → κ} [DecidableEq κ]

/-- The rows with the given keys are tried in turn until one still matches. -/
def tryRows (row : κ → K) (table : S → Table key) (p : ρ → Bool) :
    List κ → Txn S K ε (Option ρ)
  | [] => .pure none
  | k :: ks => .lock (row k) fun s =>
      match ((table s).find? k).filter p with
      | some r => .pure (some r)
      | none => tryRows row table p ks

/-- `SELECT … WHERE p … FOR UPDATE LIMIT 1`. -/
def selectForUpdate (row : κ → K) (table : S → Table key) (p : ρ → Bool) :
    Txn S K ε (Option ρ) :=
  .read fun s => tryRows row table p (((table s).rows.filter p).map key)

/-- The rows with the given keys are locked in turn; the keys of those that still match. -/
def takeRows (row : κ → K) (table : S → Table key) (p : ρ → Bool) (ks : List κ) :
    Txn S K ε (List κ) :=
  forEach (fun taken k => .lock (row k) fun s =>
    .pure (if ((table s).find? k).any p then taken ++ [k] else taken)) ks []

/-- `UPDATE … WHERE p`: the keys of the rows that it writes. -/
def updateWhere (row : κ → K) (table : S → Table key) (p : ρ → Bool) : Txn S K ε (List κ) :=
  .read fun s => takeRows row table p (((table s).rows.filter p).map key)

/-- An entry of a unique index, for a row that is about to be inserted. -/
def claim (k : K) (taken : S → Bool) (e : ε) : Txn S K ε Unit :=
  .lock k fun s => if taken s then .raise e else .pure ()

end Txn

namespace Discipline

variable {S K ε κ ρ : Type} {key : ρ → κ} [DecidableEq κ] {D : Discipline S K}
  {row : κ → K} {table : S → Table key} {p : ρ → Bool} {s : S} {held : K → Prop}

/-- The rule for the rows that are tried in turn; `I` may depend on which are left. -/
theorem wp_tryRows {Q : Option ρ → S → (K → Prop) → Prop}
    {I : List κ → S → (K → Prop) → Prop}
    (hfound : ∀ k ks s held, I (k :: ks) s held →
      ∀ s', D.Rely (fun j => j = row k ∨ held j) s s' →
        ∀ r, (table s).find? k = some r → p r = true →
          Q (some r) s' fun j => j = row k ∨ held j)
    (hpassed : ∀ k ks s held, I (k :: ks) s held →
      ∀ s', D.Rely (fun j => j = row k ∨ held j) s s' →
        (∀ r, (table s).find? k = some r → p r = false) → I ks s' fun j => j = row k ∨ held j)
    (hnone : ∀ s held, I [] s held → Q none s held) {ks : List κ} (h : I ks s held) :
    D.wp Q (.tryRows row table p ks : Txn S K ε (Option ρ)) s held := by
  induction ks generalizing s held with
  | nil => exact hnone s held h
  | cons k ks ih =>
      intro s' hs'
      dsimp only
      cases hlook : ((table s).find? k).filter p with
      | some r =>
          obtain ⟨hr, hp⟩ := Option.filter_eq_some_iff.mp hlook
          exact hfound k ks s held h s' hs' r hr hp
      | none =>
          refine ih (hpassed k ks s held h s' hs' fun r hr => ?_)
          rw [hr, Option.filter_some] at hlook
          by_contra hp
          rw [if_pos (Bool.not_eq_false _ ▸ hp)] at hlook
          exact Option.some_ne_none r hlook

/-- **The rule for a row that is selected for update.** -/
theorem wp_selectForUpdate {Q : Option ρ → S → (K → Prop) → Prop}
    {I : List κ → S → (K → Prop) → Prop}
    (hstart : ∀ s', D.Rely held s s' → I (((table s).rows.filter p).map key) s' held)
    (hfound : ∀ k ks s held, I (k :: ks) s held →
      ∀ s', D.Rely (fun j => j = row k ∨ held j) s s' →
        ∀ r, (table s).find? k = some r → p r = true →
          Q (some r) s' fun j => j = row k ∨ held j)
    (hpassed : ∀ k ks s held, I (k :: ks) s held →
      ∀ s', D.Rely (fun j => j = row k ∨ held j) s s' →
        (∀ r, (table s).find? k = some r → p r = false) → I ks s' fun j => j = row k ∨ held j)
    (hnone : ∀ s held, I [] s held → Q none s held) :
    D.wp Q (.selectForUpdate row table p : Txn S K ε (Option ρ)) s held :=
  fun s' hs' => wp_tryRows hfound hpassed hnone (hstart s' hs')

/-- The rule when it only matters that a row which was found stays as it is while it is
held. -/
theorem wp_selectForUpdate_held {Q : Option ρ → S → (K → Prop) → Prop}
    (hkept : ∀ {s s' held r}, r ∈ (table s).rows → held (row (key r)) → D.Rely held s s' →
      r ∈ (table s').rows)
    (hfound : ∀ s' held' r, D.Later s held s' held' → r ∈ (table s').rows → p r = true →
      held' (row (key r)) → Q (some r) s' held')
    (hnone : ∀ s' held', D.Later s held s' held' → Q none s' held') :
    D.wp Q (.selectForUpdate row table p : Txn S K ε (Option ρ)) s held := by
  refine wp_selectForUpdate (I := fun _ s' held' => D.Later s held s' held')
    (fun s' hs' => ⟨fun _ hk => hk, hs'⟩) ?_ ?_ hnone
  · intro k ks s₁ held₁ hlater s' hs' r hr hp
    obtain ⟨hmem, rfl⟩ := Table.find?_eq_some_iff.mp hr
    exact hfound s' _ r (hlater.step (fun _ hk => .inr hk) hs')
      (hkept hmem (.inl rfl) hs') hp (.inl rfl)
  · intro k ks s₁ held₁ hlater s' hs' _
    exact hlater.step (fun _ hk => .inr hk) hs'

/-- **The rule for an update of all rows that match**; `I` may depend on which are left and
which are taken. -/
theorem wp_takeRows {I : List κ → List κ → S → (K → Prop) → Prop}
    (hround : ∀ k ks taken s held, I (k :: ks) taken s held →
      ∀ s', D.Rely (fun j => j = row k ∨ held j) s s' →
        I ks (if ((table s).find? k).any p then taken ++ [k] else taken) s'
          fun j => j = row k ∨ held j)
    {ks : List κ} (h : I ks [] s held) :
    D.wp (I []) (.takeRows row table p ks : Txn S K ε (List κ)) s held :=
  wp_forEach hround h

/-- The rule when it only matters that the rows which were taken are held. -/
theorem wp_takeRows_held {Q : List κ → S → (K → Prop) → Prop} {ks : List κ}
    (hinv : D.inv s)
    (h : ∀ taken s' held', D.Later s held s' held' → (∀ k ∈ taken, k ∈ ks ∧ held' (row k)) →
      Q taken s' held') :
    D.wp Q (.takeRows row table p ks : Txn S K ε (List κ)) s held := by
  refine wp_mono (fun taken s' held' hI => h taken s' held' hI.1 hI.2.2)
    (wp_takeRows (I := fun left taken s' held' => D.Later s held s' held' ∧
      (∀ k ∈ left, k ∈ ks) ∧ ∀ k ∈ taken, k ∈ ks ∧ held' (row k)) ?_ ?_)
  · rintro k left taken s₁ held₁ ⟨hlater, hleft, htaken⟩ s' hs'
    refine ⟨hlater.step (fun _ hk => .inr hk) hs', fun j hj => hleft j (.tail _ hj), ?_⟩
    have hold : ∀ j ∈ taken, j ∈ ks ∧ (row j = row k ∨ held₁ (row j)) :=
      fun j hj => ⟨(htaken j hj).1, .inr (htaken j hj).2⟩
    split
    · intro j hj
      rcases List.mem_append.mp hj with hj | hj
      · exact hold j hj
      · obtain rfl := List.mem_singleton.mp hj
        exact ⟨hleft j (.head _), .inl rfl⟩
    · exact hold
  · exact ⟨⟨fun _ hk => hk, D.refl _ _, hinv⟩, fun _ hk => hk, fun _ hk => absurd hk
      List.not_mem_nil⟩

theorem wp_updateWhere_held {Q : List κ → S → (K → Prop) → Prop}
    (h : ∀ taken s' held', D.Later s held s' held' →
      (∀ k ∈ taken, (∃ r ∈ (table s).rows, key r = k ∧ p r = true) ∧ held' (row k)) →
      Q taken s' held') :
    D.wp Q (.updateWhere row table p : Txn S K ε (List κ)) s held := by
  intro s₁ hs₁
  refine wp_takeRows_held hs₁.2 fun taken s' held' hlater htaken => ?_
  refine h taken s' held' ⟨hlater.1, hs₁.trans hlater.2⟩ fun k hk => ⟨?_, (htaken k hk).2⟩
  obtain ⟨r, hr, hkey⟩ := List.mem_map.mp (htaken k hk).1
  exact ⟨r, (List.mem_filter.mp hr).1, hkey, (List.mem_filter.mp hr).2⟩

theorem wp_claim {Q : Unit → S → (K → Prop) → Prop} {k : K} {taken : S → Bool} {e : ε} :
    D.wp Q (.claim k taken e : Txn S K ε Unit) s held ↔
      ∀ s', D.Rely (fun j => j = k ∨ held j) s s' → taken s = false →
        Q () s' fun j => j = k ∨ held j := by
  refine forall₂_congr fun s' _ => ?_
  dsimp only
  cases taken s <;> simp [wp]

end Discipline

end ReadCommitted
