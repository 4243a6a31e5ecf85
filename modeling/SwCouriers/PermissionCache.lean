import SwCouriers.Permissions

/-!
# The Permission Cache

A change of overrides deletes the cache entry before it commits, and a resolution that missed the
cache writes what it has read, whatever was committed meanwhile. So a set of permissions that is
no longer the user's can come into the cache, and stays there until it expires or the next change.

It cannot, if no change commits another set of permissions while a resolution is between its
reading of the overrides and its write to the cache, and no resolution writes to the cache while a
change is between its deletion of the entry and its commit.

## Main results

* `permission_cache_coherent`: **the cache has what the database says**, along every undisturbed
  schedule.
* `revoked_permission_is_cached`: the schedule in which a revoked permission is cached.
-/

namespace SwCouriers.Permissions

open Checked ReadCommitted Commands Discipline

/-- What a request touches that it does not lock: a commit of another set of permissions touches
the resolutions that have read the overrides, a write to the cache the changes that have deleted
the entry. -/
def loose {T : Type} (user : PermUser) (s s' : PermStore) : PermLock T → Prop
  | .row _ => False
  | .loaded _ => s.resolved user ≠ s'.resolved user
  | .deleted _ => ∃ p, s'.cache = some p ∧ s.cache ≠ some p

/-- The entry of the cache, if there is one, is what the database says. -/
def Coherent (user : PermUser) (s : PermStore) : Prop := ∀ p ∈ s.cache, p = s.resolved user

/-- The discipline of the cache. -/
def coherence (user : PermUser) (T : Type) : Discipline PermStore (PermLock T) where
  inv := Coherent user
  evolves touched s s' := ∀ k, loose user s s' k → touched k
  refl touched s k hk := by
    cases k with
    | row resource => exact absurd hk id
    | loaded t => exact absurd rfl hk
    | deleted t =>
        obtain ⟨p, hp, hne⟩ := hk
        exact absurd hp hne
  trans := by
    intro touched s₁ s₂ s₃ h h' k hk
    cases k with
    | row resource => exact absurd hk id
    | loaded t =>
        by_cases hsame : s₁.resolved user = s₂.resolved user
        · exact h' (.loaded t) fun heq => hk (hsame.trans heq)
        · exact h _ hsame
    | deleted t =>
        obtain ⟨p, hp, hne⟩ := hk
        by_cases hsame : s₂.cache = some p
        · exact h _ ⟨p, hsame, hne⟩
        · exact h' _ ⟨p, hp, hsame⟩
  mono hsub h k hk := hsub k (h k hk)

section

variable {T : Type} {user : PermUser} {t : T} {s s' : PermStore} {held : PermLock T → Prop}

/-- What a resolution has read stays what the database says. -/
theorem resolved_of_loaded (hheld : held (.loaded t)) (h : (coherence user T).Rely held s s') :
    s'.resolved user = s.resolved user := by
  by_contra hne
  exact h.1 (.loaded t) (fun heq => hne heq.symm) hheld

/-- After a change has deleted the entry there is none. -/
theorem cache_of_deleted (hheld : held (.deleted t)) (hnone : s.cache = none)
    (h : (coherence user T).Rely held s s') : s'.cache = none := by
  cases hcache : s'.cache with
  | none => rfl
  | some p => exact absurd hheld (h.1 (.deleted t) ⟨p, hcache, by rw [hnone]; simp⟩)

/-- Whatever the discipline has to say of changes, they may be made if they leave the cache
coherent. -/
theorem changes_of_coherent {f : PermStore → PermStore} (h : Coherent user (f s)) :
    Changes (coherence user T) (loose user) f s held :=
  ⟨h, fun _ hk => .inr hk⟩

theorem coherent_dropCached (s : PermStore) : Coherent user s.dropCached :=
  fun _ hp => absurd hp (Option.not_mem_none _)

/-! ### Resolutions -/

theorem wp_resolvePermissions {Q : PermissionSet → PermStore → (PermLock T → Prop) → Prop}
    (h : ∀ p s' held', Coherent user s' → Q p s' held') :
    wp (coherence user T) (loose user) Q (resolvePermissions user t) s held := by
  intro s₁ hs₁
  dsimp only
  cases s.cache with
  | some cached => exact h cached s₁ held hs₁.2
  | none =>
      intro s₂ hs₂
      -- what is written is still what the database says
      have hsame := resolved_of_loaded (.inl rfl) hs₂
      refine ⟨changes_of_coherent fun p hp => ?_, fun s₃ hs₃ => h _ s₃ _ hs₃.2⟩
      obtain rfl := Option.some.inj hp
      exact hsame.symm

/-! ### Changes -/

/-- What a change writes leaves the cache to the command that deletes its entry. -/
def LeavesCache (write : PermStore → PermStore) : Prop := ∀ s, (write s).cache = s.cache

theorem leavesCache_deleteOverrides (resources : List String) :
    LeavesCache (PermStore.deleteOverrides resources) := fun _ => rfl

theorem leavesCache_upsert (resource : Resource) (level : PermissionLevel) :
    LeavesCache (PermStore.upsert resource level) := by
  intro s
  rw [PermStore.upsert]
  split <;> rfl

theorem leavesCache_bulkSet (deleted : List String)
    (permissions : List (Resource × PermissionLevel)) :
    LeavesCache (PermStore.bulkSet deleted permissions) := by
  have hinsert : ∀ s : PermStore, (permissions.foldl (fun s p =>
      { s with overrides := s.overrides.insert ⟨p.1.value, p.2.value⟩ }) s).cache = s.cache := by
    induction permissions with
    | nil => exact fun _ => rfl
    | cons p permissions ih => exact fun s => ih _
  exact fun s => hinsert (s.deleteOverrides deleted)

/-- The rule for a change: it deletes the entry, and commits while there is none. -/
theorem wp_change {body : PermTxn T (PermStore → PermStore)}
    (hbody : (coherence user T).wp (fun write _ _ => LeavesCache write) body s held) :
    wp (coherence user T) (loose user)
      (fun write s held => Changes (coherence user T) (loose user) write s held) (do
        let write ← Prog.ofTxn body
        invalidateCache t
        return write) s held := by
  refine wp_bind.mpr (wp_ofTxn (wp_mono (fun write s held hwrite => ?_) hbody))
  refine wp_bind.mpr ⟨changes_of_coherent (coherent_dropCached s), fun s' hs' => ?_⟩
  have hheld : ((some (.deleted t) : Option (PermLock T)) = some (.deleted t) ∨
      held (.deleted t)) ∧ (none : Option (PermLock T)) ≠ some (.deleted t) :=
    ⟨.inl rfl, by simp⟩
  have hnone : s'.cache = none := cache_of_deleted hheld rfl hs'
  refine changes_of_coherent fun p hp => ?_
  rw [hwrite, hnone] at hp
  exact absurd hp (Option.not_mem_none _)

theorem wp_deleteRows {p : Override → Bool}
    {Q : List String → PermStore → (PermLock T → Prop) → Prop}
    (h : ∀ deleted s' held', Q deleted s' held') :
    (coherence user T).wp Q (deleteRows p : PermTxn T (List String)) s held :=
  wp_updateWhere_held fun deleted s' held' _ _ => h deleted s' held'

theorem wp_setPermissionTxn (resource : Resource) (level : PermissionLevel) :
    (coherence user T).wp (fun write _ _ => LeavesCache write)
      (setPermissionTxn user resource level : PermTxn T _) s held := by
  refine Discipline.wp_bind.mpr (wp_statement.mpr fun s₁ _ _ _ => ?_)
  refine Discipline.wp_bind.mpr (wp_check.mpr fun _ _ => ?_)
  split
  · exact Discipline.wp_bind.mpr (wp_deleteRows fun deleted _ _ =>
      leavesCache_deleteOverrides deleted)
  · exact Discipline.wp_bind.mpr fun _ _ => leavesCache_upsert resource level

theorem wp_bulkSetPermissionsTxn (permissions : List (Resource × PermissionLevel)) :
    (coherence user T).wp (fun write _ _ => LeavesCache write)
      (bulkSetPermissionsTxn user permissions : PermTxn T _) s held := by
  refine Discipline.wp_bind.mpr (wp_statement.mpr fun s₁ _ _ _ => ?_)
  refine Discipline.wp_bind.mpr (wp_check.mpr fun _ _ => ?_)
  refine Discipline.wp_bind.mpr (wp_deleteRows fun deleted _ _ => ?_)
  refine Discipline.wp_bind.mpr (wp_mono (fun _ _ _ _ => leavesCache_bulkSet deleted _)
    (wp_forEach (I := fun _ _ _ _ => True) ?_ trivial))
  exact fun p rest b s₂ held₂ _ => wp_claim.mpr fun _ _ _ => trivial

theorem wp_resetToDefaultsTxn :
    (coherence user T).wp (fun write _ _ => LeavesCache write)
      (resetToDefaultsTxn user : PermTxn T _) s held := by
  refine Discipline.wp_bind.mpr (wp_statement.mpr fun s₁ _ _ _ => ?_)
  exact Discipline.wp_bind.mpr (wp_deleteRows fun deleted _ _ =>
    leavesCache_deleteOverrides deleted)

/-! ### All requests -/

/-- Every request keeps the cache coherent but for what it touches loosely. -/
theorem PermCall.keeps (call : PermCall) (t : T) (s : PermStore) (held : PermLock T → Prop) :
    Keeps (coherence user T) (loose user) (call.prog user t) s held := by
  intro s' hs'
  cases call with
  | resolvePermissions =>
      exact wp_bind.mpr (wp_resolvePermissions fun p s₁ held₁ hs₁ => changes_of_coherent hs₁)
  | checkPermission resource required =>
      refine wp_bind.mpr (wp_bind.mpr (wp_resolvePermissions fun p s₁ held₁ hs₁ => ?_))
      dsimp only
      split
      · trivial
      · exact changes_of_coherent hs₁
  | setPermission resource level => exact wp_change (wp_setPermissionTxn resource level)
  | bulkSetPermissions permissions => exact wp_change (wp_bulkSetPermissionsTxn permissions)
  | resetToDefaults => exact wp_change wp_resetToDefaultsTxn
  | expire =>
      exact wp_bind.mpr (wp_run (changes_of_coherent (coherent_dropCached s')) fun s₁ hs₁ =>
        changes_of_coherent hs₁.2)

end

/-! ### All requests together -/

section

variable {T : Type} [DecidableEq T]

/-- The requests before any of them has started. -/
def permStart (user : PermUser) (s : PermStore) (call : T → PermCall) :
    State PermStore (PermLock T) T (Commands.Rest PermStore (PermLock T) ServiceError) :=
  .start s fun t => some ((call t).prog user t)

/-- Where the requests are after a schedule. -/
def permAfter (user : PermUser) (s : PermStore) (call : T → PermCall) (events : List (Event T)) :
    State PermStore (PermLock T) T (Commands.Rest PermStore (PermLock T) ServiceError) :=
  Runs.run Commands.step (permStart user s call) events

/-- **The cache has what the database says**, in every state that is reached by an undisturbed
schedule of any number of changes and resolutions: none commits another set of permissions while a
resolution is between its reading and its write to the cache, and none writes to the cache while a
change is between its deletion of the entry and its commit. -/
theorem permission_cache_coherent (user : PermUser) {s : PermStore} (hs : Coherent user s)
    (call : T → PermCall) {events : List (Event T)}
    (hevents : Runs.Along Commands.step (Undisturbed (loose user)) (permStart user s call) events) :
    ∀ p ∈ (permAfter user s call events).store.cache,
      p = (permAfter user s call events).store.resolved user :=
  run_of_undisturbed (D := coherence user T) hs
    (fun t => (call t).keeps t s fun _ => False) hevents

end

/-! ### A permission is revoked during a resolution -/

/-- An administrator. -/
def anAdmin : PermUser := ⟨1, .admin⟩

/-- Without overrides, and with nothing cached. -/
def noOverrides : PermStore := ⟨true, .empty, none⟩

/-- Request 0 resolves the permissions, request 1 takes billing away. -/
def resolveAndRevoke (t : ℕ) : PermCall :=
  if t = 0 then .resolvePermissions else .setPermission .billing .none

theorem coherent_noOverrides : Coherent anAdmin noOverrides :=
  fun _ hp => absurd hp (Option.not_mem_none _)

/-- First the change, then the resolution. -/
def revokedFirst : List (Event ℕ) :=
  List.replicate 4 (.step 1) ++ ([.crash 1] ++ List.replicate 4 (.step 0))

theorem undisturbed_revokedFirst :
    Runs.Along Commands.step (Undisturbed (loose anAdmin))
      (permStart anAdmin noOverrides resolveAndRevoke) revokedFirst := by
  have hstart : Alone (permStart anAdmin noOverrides resolveAndRevoke) 1 :=
    fun k u howner => nomatch howner
  obtain ⟨hfirst, halone⟩ := hstart.along (loose anAdmin) 4
  refine Runs.along_append.mpr ⟨hfirst, fun k u hloose _ => ?_, ((halone.crash 0).along _ 4).1⟩
  exact absurd hloose ((coherence anAdmin ℕ).refl (fun _ => False) _ k)

/-- One after the other leave in the cache what the database says. -/
theorem revoked_permission_is_gone :
    ∃ p ∈ (permAfter anAdmin noOverrides resolveAndRevoke revokedFirst).store.cache,
      p = (permAfter anAdmin noOverrides resolveAndRevoke revokedFirst).store.resolved anAdmin ∧
        p .billing = .none := by
  obtain ⟨p, hp, hbilling⟩ : ∃ p, p ∈ (permAfter anAdmin noOverrides resolveAndRevoke
      revokedFirst).store.cache ∧ p .billing = .none := ⟨_, rfl, by decide +kernel⟩
  exact ⟨p, hp, permission_cache_coherent anAdmin coherent_noOverrides resolveAndRevoke
    undisturbed_revokedFirst p hp, hbilling⟩

/-- The change comes between the reading of the resolution and its write to the cache. -/
def revokedMeanwhile : List (Event ℕ) :=
  List.replicate 2 (.step 0) ++ List.replicate 4 (.step 1) ++ List.replicate 2 (.step 0)

/-- Both are done; the database says that billing is not allowed, the cache that it is. -/
theorem revoked_permission_is_cached :
    Coherent anAdmin noOverrides ∧
      ((permAfter anAdmin noOverrides resolveAndRevoke revokedMeanwhile).txn 0).isNone = true ∧
      ((permAfter anAdmin noOverrides resolveAndRevoke revokedMeanwhile).txn 1).isNone = true ∧
      ((permAfter anAdmin noOverrides resolveAndRevoke revokedMeanwhile).store.cache.map fun p =>
        effectivePermissionLevel p .billing .write) = some .write ∧
      effectivePermissionLevel ((permAfter anAdmin noOverrides resolveAndRevoke
        revokedMeanwhile).store.resolved anAdmin) .billing .write = .none :=
  ⟨coherent_noOverrides, by decide +kernel, by decide +kernel, by decide +kernel,
    by decide +kernel⟩

end SwCouriers.Permissions
