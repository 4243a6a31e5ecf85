import SwCouriers.ServiceTiers

/-!
# Which Tier a Request Finds

`resolve_effective_tier_for_org` scans the effective tiers for the requested identifier, then for
the requested name, then for a name that contains it, and stops at the first tier it meets. Only
then does it ask whether this tier is permitted. A tier's name is unique together with its
audience only, so the first tier of a name may be one that the organisation may not book while
another of the same name is permitted: the request is refused although what it names is there.

An identifier is that of one tier at most, so an identifier alone finds what is permitted.

## Main results

* `resolve_eq_ok_iff`: what a request finds.
* `finds_permitted_iff`: **a request finds what is permitted exactly if no tier that is not
  permitted stands in the way**: none has the identifier when a permitted one has the name, and
  none of the name comes before the permitted ones when none has the identifier.
* `permitted_namesake_refused`: a name whose first tier is not permitted, and whose second is.
-/

namespace SwCouriers.ServiceTiers

open Checked Preferences

/-! ### What a request asks for -/

section Request

variable (upper : String → String) (tierId tierName : Option String)

/-- The row has the requested identifier, as its own or as that of its global tier. -/
def isRequestedId (row : EffectiveRow) : Bool :=
  (stripOrNone tierId).any fun tid => row.hasId tid

/-- The row has exactly the requested name, ignoring case. -/
def isRequestedName (row : EffectiveRow) : Bool :=
  (stripOrNone tierName).any fun tname => row.hasName upper (upper tname)

/-- The name of the row contains the requested one, ignoring case. -/
def containsRequestedName (row : EffectiveRow) : Bool :=
  (stripOrNone tierName).any fun tname => row.containsName upper (upper tname)

/-- What a request should find among the effective tiers. When a permitted tier has the
requested identifier, or else exactly the requested name, it finds such a tier; and what it
finds is permitted, and has more than a name that contains the requested one when some tier has
exactly that name. -/
structure FindsPermitted (effective : List EffectiveRow)
    (result : Except TierError ResolvedTier) : Prop where
  byId : (∃ row ∈ effective, row.permitted = true ∧ isRequestedId tierId row = true) →
    ∃ row ∈ effective, row.permitted = true ∧ isRequestedId tierId row = true ∧
      result = .ok row.flatten
  byName : (¬ ∃ row ∈ effective, row.permitted = true ∧ isRequestedId tierId row = true) →
    (∃ row ∈ effective, row.permitted = true ∧ isRequestedName upper tierName row = true) →
    ∃ row ∈ effective, row.permitted = true ∧ isRequestedName upper tierName row = true ∧
      result = .ok row.flatten
  found : ∀ tier, result = .ok tier → ∃ row ∈ effective, row.permitted = true ∧
    tier = row.flatten ∧
      ((∃ other ∈ effective, isRequestedName upper tierName other = true) →
        isRequestedId tierId row = true ∨ isRequestedName upper tierName row = true)

/-- No tier that is not permitted stands in the way: when a permitted tier has the requested
name, none has the requested identifier; and when no tier has the identifier, none of the name
comes before the permitted ones. -/
structure Unobstructed (effective : List EffectiveRow) : Prop where
  byId : (∃ row ∈ effective, row.permitted = true ∧ isRequestedName upper tierName row = true) →
    ∀ row ∈ effective, isRequestedId tierId row = true → row.permitted = true
  byName : (∀ row ∈ effective, isRequestedId tierId row = false) →
    ¬ Shadowed EffectiveRow.permitted (isRequestedName upper tierName) effective

end Request

/-! ### What it finds -/

section Result

variable {upper : String → String} {db : TierDb} {organizationId : String}
  {tierId tierName : Option String} {effective : List EffectiveRow}

/-- The scans, with those of a part that was not sent finding nothing. -/
theorem matchTier_eq :
    matchTier upper effective (stripOrNone tierId) (stripOrNone tierName) =
      firstOf [isRequestedId tierId, isRequestedName upper tierName,
        containsRequestedName upper tierName] effective := by
  have hnever : ∀ p : EffectiveRow → Bool, (∀ row, p row = false) → effective.find? p = none :=
    fun p hp => List.find?_eq_none.mpr fun row _ => by rw [hp row]; exact Bool.false_ne_true
  have hid : firstOf (idScans (stripOrNone tierId)) effective =
      effective.find? (isRequestedId tierId) := by
    unfold isRequestedId
    cases stripOrNone tierId with
    | none => exact (hnever _ fun _ => rfl).symm
    | some tid => exact Option.or_none
  have hname : firstOf (nameScans upper (stripOrNone tierName)) effective =
      (effective.find? (isRequestedName upper tierName)).or
        ((effective.find? (containsRequestedName upper tierName)).or none) := by
    unfold isRequestedName containsRequestedName
    cases stripOrNone tierName with
    | none =>
        simp only [Option.any_none]
        rw [hnever _ fun _ => rfl]
        rfl
    | some tname => rfl
  rw [matchTier, firstOf_append, hid, hname]
  rfl

/-- **What a request finds**: the tier that the scans stop at, when it is permitted. -/
theorem resolve_eq_ok_iff
    (heffective : db.getEffectiveTiersWithSourceForOrg organizationId = .ok effective)
    {tier : ResolvedTier} :
    resolveEffectiveTierForOrg upper db organizationId tierId tierName = .ok tier ↔
      ∃ row, firstOf [isRequestedId tierId, isRequestedName upper tierName,
        containsRequestedName upper tierName] effective = some row ∧ row.permitted = true ∧
          row.flatten = tier := by
  rw [← matchTier_eq]
  constructor
  · intro h
    replace h := ok_of_check h
    obtain ⟨effective', heffective', h⟩ := bind_eq_ok.mp h
    obtain rfl := Except.ok.inj (heffective.symm.trans heffective')
    obtain ⟨row, hrow, h⟩ := bind_eq_ok.mp h
    obtain ⟨⟨⟩, hpermitted, h⟩ := bind_eq_ok.mp h
    exact ⟨row, orRaise_eq_ok.mp hrow, Bool.not_eq_false _ ▸ raiseIf_eq_ok.mp hpermitted,
      pure_eq_ok.mp h⟩
  · rintro ⟨row, hrow, hpermitted, rfl⟩
    refine bind_eq_ok.mpr ⟨⟨⟩, raiseIf_eq_ok.mpr ?_, ?_⟩
    · -- Without an identifier and a name no scan is made.
      rintro ⟨hid, hname⟩
      have hempty : ∀ value : Option String, value.getD "" = "" → stripOrNone value = none := by
        intro value hvalue
        cases value with
        | none => rfl
        | some text =>
            obtain rfl : text = "" := hvalue
            rfl
      rw [hempty _ hid, hempty _ hname] at hrow
      cases hrow
    · refine bind_eq_ok.mpr ⟨effective, heffective, bind_eq_ok.mpr ⟨row,
        orRaise_eq_ok.mpr hrow, bind_eq_ok.mpr ⟨⟨⟩, raiseIf_eq_ok.mpr ?_, rfl⟩⟩⟩
      rw [hpermitted]
      decide

/-! ### When it finds what is permitted -/

/-- The requested identifier is that of one effective tier at most. -/
theorem requestedId_unique {row row' : EffectiveRow}
    (hrow : row ∈ db.effectiveTiers organizationId)
    (hrow' : row' ∈ db.effectiveTiers organizationId) (h : isRequestedId tierId row = true)
    (h' : isRequestedId tierId row' = true) : row = row' := by
  unfold isRequestedId at h h'
  cases htid : stripOrNone tierId with
  | none =>
      rw [htid] at h
      cases h
  | some tid =>
      rw [htid] at h h'
      exact effective_eq_of_id (strip_of_stripOrNone htid).2 hrow hrow' h h'

/-- What was found is permitted, and a tier of exactly the requested name goes before one whose
name contains it. -/
theorem found_of_resolve
    (heffective : db.getEffectiveTiersWithSourceForOrg organizationId = .ok effective)
    {tier : ResolvedTier}
    (h : resolveEffectiveTierForOrg upper db organizationId tierId tierName = .ok tier) :
    ∃ row ∈ effective, row.permitted = true ∧ tier = row.flatten ∧
      ((∃ other ∈ effective, isRequestedName upper tierName other = true) →
        isRequestedId tierId row = true ∨ isRequestedName upper tierName row = true) := by
  obtain ⟨row, hrow, hpermitted, rfl⟩ := (resolve_eq_ok_iff heffective).mp h
  refine ⟨row, mem_of_firstOf hrow, hpermitted, rfl, fun hexact => ?_⟩
  by_cases hid : ∃ other ∈ effective, isRequestedId tierId other = true
  · rw [firstOf_cons_of_exists hid] at hrow
    exact .inl (List.find?_some hrow)
  · have hid : ∀ other ∈ effective, isRequestedId tierId other = false :=
      fun other hother => Bool.eq_false_iff.mpr fun h => hid ⟨other, hother, h⟩
    rw [firstOf_cons_of_forall hid, firstOf_cons_of_exists hexact] at hrow
    exact .inr (List.find?_some hrow)

/-- **A request finds what is permitted exactly if nothing stands in the way.** -/
theorem finds_permitted_iff
    (heffective : db.getEffectiveTiersWithSourceForOrg organizationId = .ok effective) :
    FindsPermitted upper tierId tierName effective
        (resolveEffectiveTierForOrg upper db organizationId tierId tierName) ↔
      Unobstructed upper tierId tierName effective := by
  have hrows := ok_of_check heffective
  obtain rfl := pure_eq_ok.mp hrows
  constructor
  · intro h
    refine ⟨fun hname row hrow hid => ?_, fun hnone hshadowed => ?_⟩
    · -- Otherwise the scan stops at the row, and the request is refused.
      by_contra hforbidden
      have hnoid : ¬ ∃ other ∈ db.effectiveTiers organizationId, other.permitted = true ∧
          isRequestedId tierId other = true := by
        rintro ⟨other, hother, hallowed, hother_id⟩
        obtain rfl := requestedId_unique hrow hother hid hother_id
        exact hforbidden hallowed
      obtain ⟨winner, -, -, -, hfound⟩ := h.byName hnoid hname
      obtain ⟨first, hfirst, hallowed, -⟩ := (resolve_eq_ok_iff heffective).mp hfound
      rw [firstOf_cons_of_exists ⟨row, hrow, hid⟩] at hfirst
      have hmem := List.mem_of_find?_eq_some hfirst
      obtain rfl := requestedId_unique hrow hmem hid (List.find?_some hfirst)
      exact hforbidden hallowed
    · obtain ⟨pre, row, post, heq, -, -, -, other, hother, hother_name, hallowed⟩ := id hshadowed
      have hmem : other ∈ db.effectiveTiers organizationId :=
        heq ▸ List.mem_append_right pre (List.mem_cons_of_mem row hother)
      have hexact : ∃ r ∈ db.effectiveTiers organizationId,
          isRequestedName upper tierName r = true ∧ r.permitted = true :=
        ⟨other, hmem, hother_name, hallowed⟩
      have hnoid : ¬ ∃ r ∈ db.effectiveTiers organizationId, r.permitted = true ∧
          isRequestedId tierId r = true := by
        rintro ⟨r, hr, -, hid⟩
        rw [hnone r hr] at hid
        cases hid
      obtain ⟨winner, -, -, -, hfound⟩ := h.byName hnoid ⟨other, hmem, hallowed, hother_name⟩
      obtain ⟨first, hfirst, hfirst_allowed, -⟩ := (resolve_eq_ok_iff heffective).mp hfound
      rw [firstOf_cons_of_forall hnone,
        firstOf_cons_of_exists ⟨other, hmem, hother_name⟩] at hfirst
      exact (exists_allowed_iff hexact).mp ⟨first, hfirst, hfirst_allowed⟩ hshadowed
  · intro h
    refine ⟨?_, fun hnoid hname => ?_, fun tier htier => found_of_resolve heffective htier⟩
    · rintro ⟨row, hrow, hallowed, hid⟩
      obtain ⟨first, hfirst⟩ := Option.isSome_iff_exists.mp
        (List.find?_isSome.mpr ⟨row, hrow, hid⟩)
      obtain rfl := requestedId_unique hrow (List.mem_of_find?_eq_some hfirst) hid
        (List.find?_some hfirst)
      refine ⟨row, hrow, hallowed, hid, (resolve_eq_ok_iff heffective).mpr
        ⟨row, ?_, hallowed, rfl⟩⟩
      rw [firstOf_cons_of_exists ⟨row, hrow, hid⟩]
      exact hfirst
    · -- No tier has the identifier, so the scan for the name decides.
      have hnone : ∀ row ∈ db.effectiveTiers organizationId,
          isRequestedId tierId row = false := fun row hrow =>
        Bool.eq_false_iff.mpr fun hid => hnoid ⟨row, hrow, h.byId hname row hrow hid, hid⟩
      obtain ⟨other, hother, hallowed, hother_name⟩ := hname
      obtain ⟨first, hfirst, hfirst_allowed⟩ :=
        (exists_allowed_iff ⟨other, hother, hother_name, hallowed⟩).mpr (h.byName hnone)
      refine ⟨first, List.mem_of_find?_eq_some hfirst, hfirst_allowed,
        List.find?_some hfirst, (resolve_eq_ok_iff heffective).mpr
          ⟨first, ?_, hfirst_allowed, rfl⟩⟩
      rw [firstOf_cons_of_forall hnone, firstOf_cons_of_exists ⟨other, hother, hother_name⟩]
      exact hfirst

end Result

/-! ### A name that two tiers have -/

/-- `str.upper` on ASCII text. -/
def asciiUpper (text : String) : String :=
  String.ofList (text.toList.map Char.toUpper)

/-- A tier for every audience that the organisation has no contract line for. -/
def standardTier : ServiceTier where
  id := "tier-global"
  tierName := "Standard"
  description := none
  durationDays := 2
  errorMarginKg := 0
  pricePerKg := 0
  pricePerPackage := 500
  basePrice := 0
  scopeType := .global
  scopeOrgId := none
  availableFor := .both
  color := none
  icon := none
  status := .active

/-- The organisation's own tier of the same name, for business customers. -/
def ownStandardTier : ServiceTier :=
  { standardTier with
    id := "tier-own"
    pricePerPackage := 400
    scopeType := .org
    scopeOrgId := some "org"
    availableFor := .customerB2B }

/-- The two tiers. -/
def namesakes : Table ServiceTier.id := (Table.singleton standardTier).insert ownStandardTier

theorem namesakes_globalNames : Table.UniqueOn ServiceTier.globalSlot namesakes := by
  decide +kernel

theorem namesakes_orgNames : Table.UniqueOn ServiceTier.orgSlot namesakes := by
  decide +kernel

/-- An organisation with a tier of its own beside a global one of the same name. -/
def namesakeDb : TierDb where
  organizations := ["org"]
  tiers := namesakes
  lines := .empty
  globalNames := namesakes_globalNames
  orgNames := namesakes_orgNames

theorem namesakeDb_effectiveTiers :
    namesakeDb.getEffectiveTiersWithSourceForOrg "org"
      = .ok (namesakeDb.effectiveTiers "org") :=
  bind_eq_ok.mpr ⟨⟨⟩, raiseIf_eq_ok.mpr (by decide), rfl⟩

/-- **The organisation's own tier is permitted, and a request for its name is refused**: the
global one comes first. -/
theorem permitted_namesake_refused :
    ¬ FindsPermitted asciiUpper none (some "Standard") (namesakeDb.effectiveTiers "org")
      (resolveEffectiveTierForOrg asciiUpper namesakeDb "org" none (some "Standard")) := by
  intro h
  obtain ⟨row, -, -, -, hfound⟩ := h.byName (by decide +kernel) (by decide +kernel)
  have hrefused : (resolveEffectiveTierForOrg asciiUpper namesakeDb "org" none
      (some "Standard")).toOption = none := by decide +kernel
  rw [hfound] at hrefused
  cases hrefused

/-- Its identifier finds it. -/
theorem own_tier_found_by_id :
    FindsPermitted asciiUpper (some "tier-own") none (namesakeDb.effectiveTiers "org")
      (resolveEffectiveTierForOrg asciiUpper namesakeDb "org" (some "tier-own") none) := by
  refine (finds_permitted_iff namesakeDb_effectiveTiers).mpr ⟨by decide +kernel, fun hnone => ?_⟩
  exact absurd hnone (by decide +kernel)

end SwCouriers.ServiceTiers
