import Mathlib.Data.List.Infix
import Mathlib.Data.List.Pairwise
import Mathlib.Data.List.Sort
import SwCouriers.Common
import SwCouriers.Lib.Preferences
import SwCouriers.Lib.Table

/-!
# Service Tiers

The service tiers of the catalogue and of the organisations, and what an organisation sees of
them: `merge_effective_service_tiers` puts its own tiers over the global ones of the same name
and audience and adds the others, `get_effective_tiers_with_source_for_org` adds the state of
the contract lines, and `resolve_effective_tier_for_org` finds the one tier that a request names
by an identifier or by a name.

The partial unique indexes on name and audience are fields of the database. A name alone is not
unique: it may occur once for every audience.

## Main results

* `mergeEffectiveServiceTiers_pairwise`: no identifier, own or global, is on two merged rows.
* `effective_eq_of_id`: a requested identifier is that of one effective tier at most.
-/

namespace SwCouriers.ServiceTiers

open Checked Preferences

/-! ### Data -/

/-- `ServiceTierAudience`. -/
inductive Audience where
  | customerB2B | customerB2C | both
  deriving DecidableEq, Repr

/-- `ServiceTierScopeType`. -/
inductive ScopeType where
  | global | org
  deriving DecidableEq, Repr

/-- `ServiceTierStatus`. -/
inductive TierStatus where
  | active | inactive
  deriving DecidableEq, Repr

/-- A service tier. Prices are in hundredths, and keys are the texts they are loaded as. -/
structure ServiceTier where
  id : String
  tierName : String
  description : Option String
  durationDays : ℤ
  errorMarginKg : ℤ
  pricePerKg : ℤ
  pricePerPackage : ℤ
  basePrice : ℤ
  scopeType : ScopeType
  scopeOrgId : Option String
  availableFor : Audience
  color : Option String
  icon : Option String
  status : TierStatus
  deriving DecidableEq, Repr

/-- What a tier is merged by: `(tier_name, available_for)`. -/
def ServiceTier.nameKey (t : ServiceTier) : String × Audience :=
  (t.tierName, t.availableFor)

/-- `uq_service_tier_global_name_audience`. -/
def ServiceTier.globalSlot (t : ServiceTier) : Option (String × Audience) :=
  if t.scopeType = .global then some t.nameKey else none

/-- `uq_service_tier_org_name_audience`; a null is distinct from every null. -/
def ServiceTier.orgSlot (t : ServiceTier) : Option (String × String × Audience) :=
  if t.scopeType = .org then t.scopeOrgId.map fun org => (org, t.nameKey) else none

/-- `OrgServiceTierContractLine.mode`. -/
inductive ContractMode where
  | standard | custom
  deriving DecidableEq, Repr

/-- A contract line: whether an organisation may book a global tier. -/
structure ContractLine where
  id : String
  organizationId : String
  globalTemplateId : String
  mode : ContractMode
  permitted : Bool
  isDefault : Bool
  sortOrder : ℤ
  deriving DecidableEq, Repr

/-- The tables that tiers are resolved from. -/
structure TierDb where
  organizations : List String
  tiers : Table ServiceTier.id
  lines : Table ContractLine.id
  globalNames : Table.UniqueOn ServiceTier.globalSlot tiers
  orgNames : Table.UniqueOn ServiceTier.orgSlot tiers

/-- The errors of resolving a tier. -/
inductive TierError where
  | validation (message : String)
  | notFound (resource id : String)
  deriving DecidableEq, Repr

/-! ### Queries -/

namespace TierDb

/-- `ORDER BY tier_name`. -/
def byName (tiers : List ServiceTier) : List ServiceTier :=
  tiers.insertionSort fun a b => a.tierName ≤ b.tierName

/-- `list_active_global`. -/
def listActiveGlobal (db : TierDb) : List ServiceTier :=
  byName (db.tiers.rows.filter fun t =>
    t.scopeType = .global && t.scopeOrgId = none && t.status = .active)

/-- `list_active_for_org`. -/
def listActiveForOrg (db : TierDb) (organizationId : String) : List ServiceTier :=
  byName (db.tiers.rows.filter fun t =>
    t.scopeType = .org && t.scopeOrgId = some organizationId && t.status = .active)

/-- `find_global_superfast`: at most one row, by the unique index. -/
def findGlobalSuperfast (db : TierDb) : Option ServiceTier :=
  db.tiers.rows.find? fun t =>
    t.scopeType = .global && t.scopeOrgId = none && t.tierName = "Superfast" &&
      t.availableFor = .both

/-- `list_for_organization` of the contract lines. -/
def linesOf (db : TierDb) (organizationId : String) : List ContractLine :=
  (db.lines.rows.filter fun ln => ln.organizationId = organizationId).insertionSort
    fun a b => a.sortOrder ≤ b.sortOrder

end TierDb

/-! ### Effective tiers -/

/-- One row of the merge. -/
structure MergedTier where
  tier : ServiceTier
  isOverride : Bool
  sourceScopeType : ScopeType
  sourceTierId : String
  globalTierId : Option String
  deriving DecidableEq, Repr

/-- `org_by_key[key]`: the last row of the key, as a dictionary keeps it. -/
def orgByKey (orgRows : List ServiceTier) (key : String × Audience) : Option ServiceTier :=
  orgRows.reverse.find? fun o => o.nameKey = key

/-- What a global tier is merged to. -/
def mergeGlobal (orgRows : List ServiceTier) (g : ServiceTier) : MergedTier :=
  match orgByKey orgRows g.nameKey with
  | some o => ⟨o, true, .org, o.id, some g.id⟩
  | none => ⟨g, false, .global, g.id, some g.id⟩

/-- What an organisation's tier without a global one is merged to. -/
def mergeOrgOnly (o : ServiceTier) : MergedTier :=
  ⟨o, false, .org, o.id, none⟩

/-- `merge_effective_service_tiers`. -/
def mergeEffectiveServiceTiers (globalRows orgRows : List ServiceTier) : List MergedTier :=
  globalRows.map (mergeGlobal orgRows) ++
    (orgRows.filter fun o => o.nameKey ∉ globalRows.map ServiceTier.nameKey).map mergeOrgOnly

/-- A row with the state of its contract line. -/
structure EffectiveRow extends MergedTier where
  permitted : Bool
  isDefault : Bool
  plainType : ContractMode
  /-- `permitted_locked`, `tier_name_locked` and `is_system_tier`. -/
  isSystemTier : Bool
  deriving DecidableEq, Repr

/-- The body of the loop over the merged rows. The last line of a global tier is the one that a
dictionary keeps. -/
def enrich (lines : List ContractLine) (superfastId : Option String) (row : MergedTier) :
    EffectiveRow :=
  let gid := row.globalTierId
  let ln := gid.bind fun g => lines.reverse.find? fun ln => ln.globalTemplateId = g
  let isSuperfast := superfastId.any fun s => gid.getD "" = s
  match ln with
  | some ln => ⟨row, isSuperfast || ln.permitted, ln.isDefault, ln.mode, isSuperfast⟩
  | none =>
      let isOrgOnly := row.sourceScopeType = .org && !row.isOverride
      ⟨row, isSuperfast || isOrgOnly, false, if isOrgOnly then .custom else .standard,
        isSuperfast⟩

/-- The rows of `get_effective_tiers_with_source_for_org`. -/
def TierDb.effectiveTiers (db : TierDb) (organizationId : String) : List EffectiveRow :=
  (mergeEffectiveServiceTiers db.listActiveGlobal (db.listActiveForOrg organizationId)).map
    (enrich (db.linesOf organizationId) (db.findGlobalSuperfast.map ServiceTier.id))

/-- `get_effective_tiers_with_source_for_org`. -/
def TierDb.getEffectiveTiersWithSourceForOrg (db : TierDb) (organizationId : String) :
    Except TierError (List EffectiveRow) := do
  raiseIf (organizationId ∉ db.organizations) (.notFound "Organization" organizationId)
  return db.effectiveTiers organizationId

/-! ### Resolving a request -/

/-- The dictionary that is returned: the columns of the tier and what was added to them. -/
structure ResolvedTier where
  tier : ServiceTier
  isOverride : Bool
  sourceScopeType : ScopeType
  globalTierId : Option String
  permitted : Bool
  isDefault : Bool
  plainType : ContractMode
  deriving DecidableEq, Repr

namespace EffectiveRow

/-- `_tier_id_of`. -/
def tierIdOf (row : EffectiveRow) : String :=
  if row.tier.id = "" then row.sourceTierId else row.tier.id

/-- The test of the scan for an identifier. -/
def hasId (tid : String) (row : EffectiveRow) : Bool :=
  row.tierIdOf = tid || row.globalTierId.getD "" = tid

/-- The test of the first scan for a name. `needle` is in upper case. -/
def hasName (upper : String → String) (needle : String) (row : EffectiveRow) : Bool :=
  upper row.tier.tierName ≠ "" && upper row.tier.tierName = needle

/-- The test of the second scan for a name: `needle in name`. -/
def containsName (upper : String → String) (needle : String) (row : EffectiveRow) : Bool :=
  upper row.tier.tierName ≠ "" && needle.toList <:+: (upper row.tier.tierName).toList

/-- The flat dictionary of a row. -/
def flatten (row : EffectiveRow) : ResolvedTier where
  tier := row.tier
  isOverride := row.isOverride
  sourceScopeType := row.sourceScopeType
  globalTierId := row.globalTierId
  permitted := row.permitted
  isDefault := row.isDefault
  plainType := row.plainType

end EffectiveRow

/-- The scans for an identifier. -/
def idScans : Option String → List (EffectiveRow → Bool)
  | some tid => [EffectiveRow.hasId tid]
  | none => []

/-- The scans for a name. -/
def nameScans (upper : String → String) : Option String → List (EffectiveRow → Bool)
  | some tname =>
      [EffectiveRow.hasName upper (upper tname), EffectiveRow.containsName upper (upper tname)]
  | none => []

/-- `match`: each scan is tried when those before it found nothing. -/
def matchTier (upper : String → String) (effective : List EffectiveRow)
    (tid tname : Option String) : Option EffectiveRow :=
  firstOf (idScans tid ++ nameScans upper tname) effective

/-- `resolve_effective_tier_for_org`. -/
def resolveEffectiveTierForOrg (upper : String → String) (db : TierDb) (organizationId : String)
    (tierId tierName : Option String) : Except TierError ResolvedTier := do
  raiseIf (tierId.getD "" = "" ∧ tierName.getD "" = "")
    (.validation "tier_id or tier_name is required to resolve a service tier")
  let effective ← db.getEffectiveTiersWithSourceForOrg organizationId
  let tid := stripOrNone tierId
  let tname := stripOrNone tierName
  let label := (tid.or tname).getD ""
  let row ← orRaise (matchTier upper effective tid tname) (.notFound "ServiceTier" label)
  raiseIf (row.permitted = false)
    (.validation ("Service tier '" ++ label ++ "' is not permitted for this organisation"))
  return row.flatten

/-! ### What the merge is made of -/

section Merge

variable {db : TierDb} {organizationId : String}

theorem mem_listActiveGlobal_iff {t : ServiceTier} :
    t ∈ db.listActiveGlobal ↔ t ∈ db.tiers.rows ∧ t.scopeType = .global ∧
      t.scopeOrgId = none ∧ t.status = .active := by
  simp [TierDb.listActiveGlobal, TierDb.byName, and_assoc]

theorem mem_listActiveForOrg_iff {t : ServiceTier} :
    t ∈ db.listActiveForOrg organizationId ↔ t ∈ db.tiers.rows ∧ t.scopeType = .org ∧
      t.scopeOrgId = some organizationId ∧ t.status = .active := by
  simp [TierDb.listActiveForOrg, TierDb.byName, and_assoc]

/-- Active global tiers of one name and audience are one. -/
theorem eq_of_global {g g' : ServiceTier} (hg : g ∈ db.listActiveGlobal)
    (hg' : g' ∈ db.listActiveGlobal) (hkey : g.nameKey = g'.nameKey) : g = g' := by
  obtain ⟨hmem, hscope, -⟩ := mem_listActiveGlobal_iff.mp hg
  obtain ⟨hmem', hscope', -⟩ := mem_listActiveGlobal_iff.mp hg'
  refine db.globalNames g hmem g' hmem' g.nameKey (if_pos hscope) ?_
  rw [hkey]
  exact if_pos hscope'

theorem nodup_byName {tiers : List ServiceTier} (h : tiers.Nodup) :
    (TierDb.byName tiers).Nodup :=
  (List.perm_insertionSort _ _).nodup_iff.mpr h

theorem nodup_listActiveGlobal : db.listActiveGlobal.Nodup :=
  nodup_byName ((List.Nodup.of_map ServiceTier.id db.tiers.nodup).filter _)

theorem nodup_listActiveForOrg : (db.listActiveForOrg organizationId).Nodup :=
  nodup_byName ((List.Nodup.of_map ServiceTier.id db.tiers.nodup).filter _)

variable {o : ServiceTier} {tid : String}

theorem mem_of_orgByKey {orgRows : List ServiceTier} {key : String × Audience}
    (h : orgByKey orgRows key = some o) : o ∈ orgRows ∧ o.nameKey = key :=
  ⟨List.mem_reverse.mp (List.mem_of_find?_eq_some h), by simpa using List.find?_some h⟩

/-- The identifiers of a merged row: that of its tier and that of the global one. -/
def MergedTier.HasIdent (row : MergedTier) (tid : String) : Prop :=
  row.tier.id = tid ∨ row.globalTierId = some tid

/-- Two merged rows have no identifier in common. -/
def MergedTier.Apart (row row' : MergedTier) : Prop :=
  ∀ tid, row.HasIdent tid → ¬ row'.HasIdent tid

instance : Std.Symm MergedTier.Apart where
  symm _ _ h tid h' hident := h tid hident h'

/-- An identifier of a merged global tier is its own or that of the organisation's tier of the
same name and audience. -/
theorem hasIdent_mergeGlobal {orgRows : List ServiceTier} {g : ServiceTier}
    (h : (mergeGlobal orgRows g).HasIdent tid) :
    g.id = tid ∨ ∃ o ∈ orgRows, o.nameKey = g.nameKey ∧ o.id = tid := by
  unfold mergeGlobal at h
  split at h
  · rename_i o ho
    obtain ⟨hmem, hkey⟩ := mem_of_orgByKey ho
    rcases h with h | h
    · exact .inr ⟨o, hmem, hkey, h⟩
    · exact .inl (Option.some.inj h)
  · rcases h with h | h
    · exact .inl h
    · exact .inl (Option.some.inj h)

theorem hasIdent_mergeOrgOnly : (mergeOrgOnly o).HasIdent tid ↔ o.id = tid := by
  simp [MergedTier.HasIdent, mergeOrgOnly]

/-- A global and an organisation's tier have different keys. -/
theorem ne_id_of_scopes {g : ServiceTier} (hg : g ∈ db.listActiveGlobal)
    (ho : o ∈ db.listActiveForOrg organizationId) : g.id ≠ o.id := by
  intro heq
  obtain ⟨hmem, hscope, -⟩ := mem_listActiveGlobal_iff.mp hg
  obtain ⟨hmem', hscope', -⟩ := mem_listActiveForOrg_iff.mp ho
  obtain rfl := Table.eq_of_key hmem hmem' heq
  rw [hscope] at hscope'
  cases hscope'

theorem eq_of_org_id {o' : ServiceTier} (ho : o ∈ db.listActiveForOrg organizationId)
    (ho' : o' ∈ db.listActiveForOrg organizationId) (heq : o.id = o'.id) : o = o' :=
  Table.eq_of_key (mem_listActiveForOrg_iff.mp ho).1 (mem_listActiveForOrg_iff.mp ho').1 heq

/-- **No identifier is on two merged rows.** -/
theorem mergeEffectiveServiceTiers_pairwise :
    (mergeEffectiveServiceTiers db.listActiveGlobal
      (db.listActiveForOrg organizationId)).Pairwise MergedTier.Apart := by
  refine List.pairwise_append.mpr ⟨List.pairwise_map.mpr ?_, List.pairwise_map.mpr ?_, ?_⟩
  · refine nodup_listActiveGlobal.imp_of_mem fun {g g'} hg hg' hne tid h h' => hne ?_
    rcases hasIdent_mergeGlobal h with h | ⟨o, ho, hkey, h⟩ <;>
      rcases hasIdent_mergeGlobal h' with h' | ⟨o', ho', hkey', h'⟩
    · exact Table.eq_of_key (mem_listActiveGlobal_iff.mp hg).1
        (mem_listActiveGlobal_iff.mp hg').1 (h.trans h'.symm)
    · exact absurd (h.trans h'.symm) (ne_id_of_scopes hg ho')
    · exact absurd (h'.trans h.symm) (ne_id_of_scopes hg' ho)
    · -- The same tier of the organisation stands over both.
      obtain rfl := eq_of_org_id ho ho' (h.trans h'.symm)
      exact eq_of_global hg hg' (hkey.symm.trans hkey')
  · refine (nodup_listActiveForOrg.filter _).imp_of_mem fun {o o'} ho ho' hne tid h h' => hne ?_
    exact eq_of_org_id (List.mem_filter.mp ho).1 (List.mem_filter.mp ho').1
      ((hasIdent_mergeOrgOnly.mp h).trans (hasIdent_mergeOrgOnly.mp h').symm)
  · intro r hr r' hr' tid h h'
    obtain ⟨g, hg, rfl⟩ := List.mem_map.mp hr
    obtain ⟨o, ho, rfl⟩ := List.mem_map.mp hr'
    obtain ⟨ho, hfree⟩ := List.mem_filter.mp ho
    have h' := hasIdent_mergeOrgOnly.mp h'
    rcases hasIdent_mergeGlobal h with h | ⟨o', ho', hkey, h⟩
    · exact ne_id_of_scopes hg ho (h.trans h'.symm)
    · -- A tier that stands over a global one is not added once more.
      obtain rfl := eq_of_org_id ho' ho (h.trans h'.symm)
      have hfree : o'.nameKey ∉ db.listActiveGlobal.map ServiceTier.nameKey :=
        of_decide_eq_true hfree
      rw [hkey] at hfree
      exact hfree (List.mem_map_of_mem hg)

theorem sourceTierId_of_mem_merge {globalRows orgRows : List ServiceTier} {row : MergedTier}
    (h : row ∈ mergeEffectiveServiceTiers globalRows orgRows) :
    row.sourceTierId = row.tier.id := by
  rcases List.mem_append.mp h with h | h
  · obtain ⟨g, -, rfl⟩ := List.mem_map.mp h
    unfold mergeGlobal
    split <;> rfl
  · obtain ⟨o, -, rfl⟩ := List.mem_map.mp h
    rfl

theorem toMergedTier_enrich (lines : List ContractLine) (superfastId : Option String)
    (row : MergedTier) : (enrich lines superfastId row).toMergedTier = row := by
  unfold enrich
  dsimp only
  split <;> rfl

/-- A row that the scan for an identifier stops at has it. -/
theorem hasIdent_of_hasId (htid : tid ≠ "") {row : EffectiveRow}
    (hrow : row ∈ db.effectiveTiers organizationId) (h : row.hasId tid = true) :
    row.toMergedTier.HasIdent tid := by
  obtain ⟨merged, hmerged, rfl⟩ := List.mem_map.mp hrow
  rw [EffectiveRow.hasId, Bool.or_eq_true, decide_eq_true_eq, decide_eq_true_eq] at h
  rcases h with h | h
  · rw [EffectiveRow.tierIdOf, toMergedTier_enrich, sourceTierId_of_mem_merge hmerged,
      ite_self] at h
    rw [toMergedTier_enrich]
    exact .inl h
  · refine .inr ?_
    cases hglobal : (enrich (db.linesOf organizationId)
        (db.findGlobalSuperfast.map ServiceTier.id) merged).globalTierId with
    | none =>
        rw [hglobal] at h
        exact absurd h.symm htid
    | some gid =>
        rw [hglobal] at h
        exact congrArg some h

/-- **A requested identifier is that of one effective tier at most.** -/
theorem effective_eq_of_id (htid : tid ≠ "") {row row' : EffectiveRow}
    (hrow : row ∈ db.effectiveTiers organizationId)
    (hrow' : row' ∈ db.effectiveTiers organizationId) (h : row.hasId tid = true)
    (h' : row'.hasId tid = true) : row = row' := by
  have hident := hasIdent_of_hasId htid hrow h
  have hident' := hasIdent_of_hasId htid hrow' h'
  obtain ⟨merged, hmerged, rfl⟩ := List.mem_map.mp hrow
  obtain ⟨merged', hmerged', rfl⟩ := List.mem_map.mp hrow'
  rw [toMergedTier_enrich] at hident hident'
  by_contra hne
  refine mergeEffectiveServiceTiers_pairwise.forall hmerged hmerged' ?_ tid hident hident'
  rintro rfl
  exact hne rfl

end Merge

end SwCouriers.ServiceTiers
