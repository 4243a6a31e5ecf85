import SwCouriers.Lib.Table

/-!
# Rows with a Lifetime

A table may be a history: a row is added open, keeps what it refers to, ends at most once, and
then stays as it is for ever. `Ages` says that a table has turned into a later version of
itself, with the rows that may have ended and the references that may have been added.

## Main results

* `Ages.refl`, `Ages.trans`, `Ages.mono`: versions of a table in order of time.
* `Ages.mem_of_isOpen`: an open row of the later version is an open row of the earlier one, or
  it was added.
* `Ages.modify`, `Ages.insert`: what ends a row, and what adds one.
* `Ages.modify_both`: what happens to the other rows looks the same when one row has ended.
-/

namespace Table

variable {κ ρ ι : Type*} {key : ρ → κ}

/-- A later version of a table: each row is still there, or it was open and has ended. -/
structure Ages (isOpen : ρ → Bool) (refs : ρ → ι) (ends : κ → Prop) (adds : ι → Prop)
    (t t' : Table key) : Prop where
  kept : ∀ r ∈ t.rows, r ∈ t'.rows ∨ isOpen r = true ∧ ends (key r) ∧
    ∃ r' ∈ t'.rows, key r' = key r ∧ refs r' = refs r ∧ isOpen r' = false
  added : ∀ r' ∈ t'.rows, (∃ r ∈ t.rows, key r = key r') ∨ adds (refs r')

namespace Ages

variable {isOpen : ρ → Bool} {refs : ρ → ι} {ends ends' : κ → Prop} {adds adds' : ι → Prop}
  {t t' t'' : Table key}

theorem refl (t : Table key) : Ages isOpen refs ends adds t t :=
  ⟨fun _ hr => .inl hr, fun r hr => .inl ⟨r, hr, rfl⟩⟩

variable {r : ρ}

/-- What a row refers to does not change. -/
theorem refs_eq (h : Ages isOpen refs ends adds t t') {r' : ρ} (hr : r ∈ t.rows)
    (hr' : r' ∈ t'.rows) (hkey : key r = key r') : refs r' = refs r := by
  rcases h.kept r hr with hsame | ⟨-, -, r₂, hr₂, hkey₂, hrefs, -⟩
  · rw [eq_of_key hsame hr' hkey]
  · rw [← hrefs, eq_of_key hr₂ hr' (hkey₂.trans hkey)]

theorem trans (h : Ages isOpen refs ends adds t t') (h' : Ages isOpen refs ends adds t' t'') :
    Ages isOpen refs ends adds t t'' where
  kept := by
    intro r hr
    rcases h.kept r hr with hsame | ⟨hopen, hends, r', hr', hkey, hrefs, hclosed⟩
    · exact h'.kept r hsame
    · -- What has ended stays as it is.
      rcases h'.kept r' hr' with hsame' | ⟨hopen', -⟩
      · exact .inr ⟨hopen, hends, r', hsame', hkey, hrefs, hclosed⟩
      · exact absurd (hclosed.symm.trans hopen') Bool.false_ne_true
  added := by
    intro r'' hr''
    rcases h'.added r'' hr'' with ⟨r', hr', hkey'⟩ | hadds
    · rcases h.added r' hr' with ⟨r, hr, hkey⟩ | hadds
      · exact .inl ⟨r, hr, hkey.trans hkey'⟩
      · exact .inr (h'.refs_eq hr' hr'' hkey' ▸ hadds)
    · exact .inr hadds

theorem mono (hends : ∀ k, ends k → ends' k) (hadds : ∀ i, adds i → adds' i)
    (h : Ages isOpen refs ends adds t t') : Ages isOpen refs ends' adds' t t' where
  kept := fun r hr => (h.kept r hr).imp_right fun ⟨hopen, hend, hrow⟩ =>
    ⟨hopen, hends _ hend, hrow⟩
  added := fun r hr => (h.added r hr).imp_right (hadds _)

/-- A row that may not end stays as it is. -/
theorem mem_of_not_ends (h : Ages isOpen refs ends adds t t') (hr : r ∈ t.rows)
    (hends : ¬ ends (key r)) : r ∈ t'.rows :=
  (h.kept r hr).resolve_right fun hrow => hends hrow.2.1

/-- A row that has ended stays as it is. -/
theorem mem_of_ended (h : Ages isOpen refs ends adds t t') (hr : r ∈ t.rows)
    (hclosed : isOpen r = false) : r ∈ t'.rows :=
  (h.kept r hr).resolve_right fun hrow =>
    absurd (hclosed.symm.trans hrow.1) Bool.false_ne_true

/-- An open row was open before, or it was added. -/
theorem mem_of_isOpen (h : Ages isOpen refs ends adds t t') (hr : r ∈ t'.rows)
    (hopen : isOpen r = true) : r ∈ t.rows ∨ adds (refs r) := by
  refine (h.added r hr).imp_left ?_
  rintro ⟨r₀, hr₀, hkey⟩
  rcases h.kept r₀ hr₀ with hsame | ⟨-, -, r₁, hr₁, hkey₁, -, hclosed⟩
  · exact eq_of_key hsame hr hkey ▸ hr₀
  · rw [eq_of_key hr₁ hr (hkey₁.trans hkey), hopen] at hclosed
    exact absurd hclosed.symm Bool.false_ne_true

section Writes

variable [DecidableEq κ] {f : ρ → ρ} (hf : ∀ r, key (f r) = key r)

/-- An open row ends. -/
theorem modify (hr : r ∈ t.rows) (hopen : isOpen r = true) (hends : ends (key r))
    (hrefs : refs (f r) = refs r) (hclosed : isOpen (f r) = false) :
    Ages isOpen refs ends adds t (t.modify (key r) f hf) where
  kept := by
    intro r₀ hr₀
    by_cases hkey : key r₀ = key r
    · obtain rfl := eq_of_key hr₀ hr hkey
      refine .inr ⟨hopen, hends, f r₀, ?_, hf r₀, hrefs, hclosed⟩
      exact (mem_modify_iff hf).mpr ⟨r₀, hr₀, if_pos rfl⟩
    · exact .inl ((mem_modify_iff hf).mpr ⟨r₀, hr₀, if_neg hkey⟩)
  added := by
    intro r' hr'
    obtain ⟨r₀, hr₀, rfl⟩ := (mem_modify_iff hf).mp hr'
    refine .inl ⟨r₀, hr₀, ?_⟩
    split_ifs
    · exact (hf r₀).symm
    · rfl

/-- A row is added. -/
theorem insert (hr : key r ∉ t.rows.map key) (hadds : adds (refs r)) :
    Ages isOpen refs ends adds t (t.insert r) where
  kept := by
    intro r₀ hr₀
    rw [rows_insert_of_notMem hr]
    exact .inl (List.mem_append_left _ hr₀)
  added := by
    intro r₀ hr₀
    rw [rows_insert_of_notMem hr, List.mem_append, List.mem_singleton] at hr₀
    rcases hr₀ with hr₀ | rfl
    · exact .inl ⟨r₀, hr₀, rfl⟩
    · exact .inr hadds

/-- When a row that may not end is rewritten on both sides, the later version is still the
later version. -/
theorem modify_both (h : Ages isOpen refs ends adds t t') {k : κ} (hk : ¬ ends k)
    (hrefs : ∀ r, refs (f r) = refs r) :
    Ages isOpen refs ends adds (t.modify k f hf) (t'.modify k f hf) where
  kept := by
    intro r hr
    obtain ⟨r₀, hr₀, rfl⟩ := (mem_modify_iff hf).mp hr
    by_cases hkey : key r₀ = k
    · rw [if_pos hkey]
      have hsame := h.mem_of_not_ends hr₀ (hkey ▸ hk)
      exact .inl ((mem_modify_iff hf).mpr ⟨r₀, hsame, if_pos hkey⟩)
    · rw [if_neg hkey]
      rcases h.kept r₀ hr₀ with hsame | ⟨hopen, hends, r', hr', hkey', hsame, hclosed⟩
      · exact .inl ((mem_modify_iff hf).mpr ⟨r₀, hsame, if_neg hkey⟩)
      · refine .inr ⟨hopen, hends, r', ?_, hkey', hsame, hclosed⟩
        exact (mem_modify_iff hf).mpr ⟨r', hr', if_neg (hkey' ▸ hkey)⟩
  added := by
    intro r' hr'
    obtain ⟨r₀', hr₀', rfl⟩ := (mem_modify_iff hf).mp hr'
    have hkeys : ∀ r, key (if key r = k then f r else r) = key r := by
      intro r
      split_ifs
      · exact hf r
      · rfl
    rcases h.added r₀' hr₀' with ⟨r, hr, hkey⟩ | hadds
    · refine .inl ⟨_, (mem_modify_iff hf).mpr ⟨r, hr, rfl⟩, ?_⟩
      rw [hkeys, hkeys, hkey]
    · right
      split_ifs
      · rwa [hrefs]
      · exact hadds

end Writes

end Ages

end Table
