import SwCouriers.Lib.Runs
import SwCouriers.PricingAgreement

/-!
# Editing an Order Again and Again

Each recomputation reads what the one before has stored. Two things can get lost on the way.
A discount that takes nothing off at some weights is not stored again, and is missing when
the weights go up again. And the flag of the minimum charge, once set, is carried over.

An edit gives each stop its packages. The state of a run is the latest result with the
packages it was priced on; the claim is that it is what a single recomputation from the
original snapshots would give on these packages.

## Main results

* `kept_kept_iff`: two recomputations keep the discounts that one keeps exactly if no
  discount is needed again that the first has dropped.
* `edit_history_iff`: along every run of edits the outcome depends on the packages alone
  exactly if each edit finds the discounts it needs and leaves no stop above its minimum
  charge that is marked as below it.
-/

namespace SwCouriers

open Checked

/-! ### Discount entries -/

/-- What a discount entry is apart from the amount that was taken off last. A fixed sum is
read back from that amount. -/
def DiscountEntry.rule (entry : DiscountEntry) : DiscountEntry :=
  { entry with amount := if entry.type = .fixedPerBooking then entry.amount else "" }

/-- An entry as pricing writes it. -/
def DiscountEntry.Canonical (entry : DiscountEntry) : Prop :=
  ∃ value : ℤ, entry.value = Decimal.render value ∧
    (entry.type = .volumeTiered ∨ entry.orderCount = none) ∧
    (entry.type = .fixedPerBooking → ∃ amount : ℤ, entry.amount = Decimal.render amount)

/-- What an entry takes off a base amount, if anything. -/
def DiscountEntry.retake (base : ℤ) (entry : DiscountEntry) : Option (ℤ × DiscountEntry) :=
  match reapplyDiscount base entry with
  | .ok taken => taken
  | .error _ => none

theorem reapplyDiscount_congr {entry entry' : DiscountEntry} (h : entry.rule = entry'.rule)
    (base : ℤ) : reapplyDiscount base entry = reapplyDiscount base entry' := by
  obtain ⟨type, tierId, value, amount, orderCount⟩ := entry
  obtain ⟨type', tierId', value', amount', orderCount'⟩ := entry'
  simp only [DiscountEntry.rule, DiscountEntry.mk.injEq] at h
  obtain ⟨rfl, rfl, rfl, hamount, rfl⟩ := h
  cases type with
  | fixedPerBooking =>
      obtain rfl : amount = amount' := by simpa using hamount
      rfl
  | percentage => rfl
  | volumeTiered => rfl

theorem retake_congr {entry entry' : DiscountEntry} (h : entry.rule = entry'.rule)
    (base : ℤ) : entry.retake base = entry'.retake base := by
  rw [DiscountEntry.retake, DiscountEntry.retake, reapplyDiscount_congr h]

variable {today : Day}

section Entries

variable {entry : DiscountEntry}

/-- A canonical entry is read back without an error, and stored again with its rule. -/
theorem DiscountEntry.Canonical.reapply (h : entry.Canonical) (base : ℤ) :
    reapplyDiscount base entry = .ok (entry.retake base) ∧
      ∀ x, entry.retake base = some x → x.2.Canonical ∧ x.2.rule = entry.rule := by
  obtain ⟨type, tierId, text, amountText, orderCount⟩ := entry
  obtain ⟨value, rfl, hcount, hfixed⟩ := h
  have hstored : Decimal.render (money (pounds value)) = Decimal.render value :=
    congrArg Decimal.render (money_stored value)
  cases type with
  | fixedPerBooking =>
      obtain ⟨amount, rfl⟩ := hfixed rfl
      obtain rfl : orderCount = none := hcount.resolve_left (by simp)
      have hreapply : reapplyDiscount base ⟨.fixedPerBooking, tierId, Decimal.render value,
          Decimal.render amount, none⟩ = .ok (fixedEntry tierId amount (pounds value)) := by
        simp only [reapplyDiscount, decimal_text_render, if_neg (Decimal.render_ne_empty amount)]
        simp [bind, Except.bind, pure, Except.pure]
      rw [DiscountEntry.retake, hreapply]
      refine ⟨rfl, fun x hx => ?_⟩
      simp only [fixedEntry] at hx
      split_ifs at hx
      obtain rfl := Option.some.inj hx
      rw [hstored]
      exact ⟨⟨value, rfl, .inr rfl, fun _ => ⟨amount, rfl⟩⟩, rfl⟩
  | percentage =>
      obtain rfl : orderCount = none := hcount.resolve_left (by simp)
      have hreapply : reapplyDiscount base ⟨.percentage, tierId, Decimal.render value,
          amountText, none⟩ = .ok (percentageEntry .percentage tierId none base
            (pounds value)) := by
        simp only [reapplyDiscount, decimal_text_render]
        rfl
      rw [DiscountEntry.retake, hreapply]
      refine ⟨rfl, fun x hx => ?_⟩
      simp only [percentageEntry] at hx
      split_ifs at hx
      obtain rfl := Option.some.inj hx
      rw [hstored]
      exact ⟨⟨value, rfl, .inr rfl, (by simp)⟩, rfl⟩
  | volumeTiered =>
      have hreapply : reapplyDiscount base ⟨.volumeTiered, tierId, Decimal.render value,
          amountText, orderCount⟩ = .ok (percentageEntry .volumeTiered tierId orderCount base
            (pounds value)) := by
        simp only [reapplyDiscount, decimal_text_render]
        rfl
      rw [DiscountEntry.retake, hreapply]
      refine ⟨rfl, fun x hx => ?_⟩
      simp only [percentageEntry] at hx
      split_ifs at hx
      obtain rfl := Option.some.inj hx
      rw [hstored]
      exact ⟨⟨value, rfl, .inl rfl, (by simp)⟩, rfl⟩

/-- The entries of a live discount are canonical. -/
theorem canonical_applyDiscount {base : ℤ} {tierId : Option String} {orderCount : ℕ}
    {d : OrgDiscountConfig} {x : ℤ × DiscountEntry}
    (h : applyDiscount base tierId orderCount today d = .ok (some x)) : x.2.Canonical := by
  have hpercentage : ∀ {type : DiscountType} {count : Option ℕ} {pct : ℚ},
      (type = .percentage ∧ count = none ∨ type = .volumeTiered) →
      percentageEntry type d.serviceTierId count base pct = some x → x.2.Canonical := by
    intro type count pct htype hx
    simp only [percentageEntry] at hx
    split_ifs at hx
    obtain rfl := Option.some.inj hx
    rcases htype with ⟨rfl, rfl⟩ | rfl
    · exact ⟨money pct, rfl, .inr rfl, (by simp)⟩
    · exact ⟨money pct, rfl, .inl rfl, (by simp)⟩
  unfold applyDiscount at h
  split at h
  · exact absurd (Except.ok.inj h) (by simp)
  split at h
  · exact absurd (Except.ok.inj h) (by simp)
  split at h
  · have hx := Except.ok.inj h
    simp only [fixedEntry] at hx
    split_ifs at hx
    obtain rfl := Option.some.inj hx
    exact ⟨_, rfl, .inr rfl, fun _ => ⟨_, rfl⟩⟩
  · exact hpercentage (.inl ⟨rfl, rfl⟩) (Except.ok.inj h)
  · obtain ⟨pct, -, h⟩ := bind_eq_ok.mp h
    exact hpercentage (.inr rfl) (Except.ok.inj h)

end Entries

/-! ### Discounts of a stop -/

/-- What stored discounts take off a base amount, and what is stored of them. -/
def retaken (base : ℤ) (entries : List DiscountEntry) : ℤ × List DiscountEntry :=
  collectDiscounts base (entries.map (·.retake base))

/-- The discounts that take something off a base amount, with what they take off. -/
def kept (base : ℤ) (entries : List DiscountEntry) : List (ℤ × DiscountEntry) :=
  entries.filterMap (·.retake base)

theorem kept_cons (base : ℤ) (d : DiscountEntry) (entries : List DiscountEntry) :
    kept base (d :: entries) = (d.retake base).toList ++ kept base entries := by
  rw [kept, List.filterMap_cons]
  cases d.retake base <;> rfl

theorem retaken_eq (base : ℤ) (entries : List DiscountEntry) :
    retaken base entries = (if base < ((kept base entries).map (·.1)).sum then base
      else ((kept base entries).map (·.1)).sum, (kept base entries).map (·.2)) := by
  have hkept : (entries.map (·.retake base)).reduceOption = kept base entries := by
    rw [List.reduceOption, List.filterMap_map]
    rfl
  rw [retaken, collectDiscounts, hkept]

section Discounts

variable {entries : List DiscountEntry} {base base' : ℤ}

theorem reapplySnapshotDiscounts_eq (h : ∀ d ∈ entries, d.Canonical) (base : ℤ) :
    reapplySnapshotDiscounts base entries = .ok (retaken base entries) := by
  have hrounds : mapEach (reapplyDiscount base) entries
      = .ok (entries.map (·.retake base)) := by
    rw [mapEach_eq_ok, List.forall₂_map_right_iff]
    exact List.forall₂_same.mpr fun d hd => ((h d hd).reapply base).1
  rw [reapplySnapshotDiscounts, hrounds]
  rfl

theorem canonical_retaken (h : ∀ d ∈ entries, d.Canonical) (base : ℤ) :
    ∀ d ∈ (retaken base entries).2, d.Canonical := by
  rw [retaken_eq]
  intro d hd
  obtain ⟨x, hx, rfl⟩ := List.mem_map.mp hd
  obtain ⟨d₀, hd₀, hretake⟩ := List.mem_filterMap.mp hx
  exact (((h d₀ hd₀).reapply base).2 x hretake).1

/-- A discount that takes something off now has taken something off before. -/
def Recalled (base base' : ℤ) (entries : List DiscountEntry) : Prop :=
  ∀ d ∈ entries, (d.retake base').isSome → (d.retake base).isSome

/-- Two recomputations keep what one keeps if no discount was dropped that is needed. -/
theorem kept_kept (h : ∀ d ∈ entries, d.Canonical) (hrecalled : Recalled base base' entries) :
    kept base' ((retaken base entries).2) = kept base' entries := by
  rw [retaken_eq]
  dsimp only
  induction entries with
  | nil => rfl
  | cons d entries ih =>
      obtain ⟨hd, hrest⟩ := List.forall_mem_cons.mp h
      obtain ⟨hrecall, hrecalls⟩ := List.forall_mem_cons.mp hrecalled
      have ih := ih hrest hrecalls
      cases hbase : d.retake base with
      | none =>
          have hnone : d.retake base' = none := by
            by_contra hsome
            have := hrecall (Option.isSome_iff_ne_none.mpr hsome)
            rw [hbase] at this
            exact absurd this (by decide)
          rw [kept_cons, kept_cons, hbase, hnone]
          exact ih
      | some x =>
          have hsame : x.2.retake base' = d.retake base' :=
            retake_congr ((hd.reapply base).2 x hbase).2 base'
          rw [kept_cons base d, hbase, kept_cons base' d, ← hsame, ← ih]
          exact kept_cons base' x.2 _

/-- Then what is taken off in the end is the same as well. -/
theorem retaken_retaken (h : ∀ d ∈ entries, d.Canonical)
    (hstored : ∀ d ∈ entries, (d.retake base').isSome →
      ∃ e ∈ (retaken base entries).2, e.rule = d.rule) :
    retaken base' ((retaken base entries).2) = retaken base' entries := by
  have hrecalled : Recalled base base' entries := by
    intro d hd hsome
    obtain ⟨e, he, hrule⟩ := hstored d hd hsome
    rw [retaken_eq] at he
    obtain ⟨y, hy, rfl⟩ := List.mem_map.mp he
    obtain ⟨d₀, hd₀, hretake⟩ := List.mem_filterMap.mp hy
    have hrule₀ := (((h d₀ hd₀).reapply base).2 y hretake).2
    rw [← retake_congr (hrule₀.symm.trans hrule) base, hretake]
    rfl
  rw [retaken_eq base', retaken_eq base' entries, kept_kept h hrecalled]

/-- **Two recomputations keep what one keeps exactly if** every discount that takes something
off in the end is among those that the first has stored. -/
theorem kept_kept_iff (h : ∀ d ∈ entries, d.Canonical) :
    (retaken base' ((retaken base entries).2)).2 = (retaken base' entries).2 ↔
      ∀ d ∈ entries, (d.retake base').isSome →
        ∃ e ∈ (retaken base entries).2, e.rule = d.rule := by
  constructor
  · intro heq d hd hsome
    obtain ⟨x, hx⟩ := Option.isSome_iff_exists.mp hsome
    have hmem : x.2 ∈ (retaken base' entries).2 := by
      rw [retaken_eq]
      exact List.mem_map_of_mem (List.mem_filterMap.mpr ⟨d, hd, hx⟩)
    rw [← heq, retaken_eq base'] at hmem
    obtain ⟨y, hy, hyx⟩ := List.mem_map.mp hmem
    obtain ⟨e, he, hretake⟩ := List.mem_filterMap.mp hy
    refine ⟨e, he, ?_⟩
    have hrule := ((canonical_retaken h base e he).reapply base').2 y hretake
    rw [← hrule.2, hyx]
    exact (((h d hd).reapply base').2 x hx).2
  · intro hstored
    rw [retaken_retaken h hstored]

end Discounts

/-! ### A stop -/

/-- The stop with other packages. -/
def StopInput.withPackages (stop : StopInput) (packages : List PackageInput) : StopInput :=
  { stop with packages := packages }

/-- What a stop is priced by and never changes: the stop, its rates, its minimum charge and its
VAT rate. -/
structure StopRules where
  stop : StopInput
  plan : Plan
  prices : TierPrices
  minCharge : ℤ
  vatRate : VatRate
  vatPct : ℤ

/-- What a recomputation reads of the one before. -/
structure PriceMemory where
  discounts : List DiscountEntry
  minChargeApplied : Bool

/-- The memory that a stored breakdown holds. -/
def StopBreakdown.memory (bd : StopBreakdown) : PriceMemory :=
  ⟨bd.discounts, bd.minChargeApplied⟩

/-- The subtotal of a stop less what its stored discounts take off. -/
def StopRules.after (rules : StopRules) (discounts : List DiscountEntry)
    (packages : List PackageInput) : ℤ :=
  discountBase rules.prices packages - (retaken (discountBase rules.prices packages) discounts).1

/-- The subtotal is below the minimum charge. -/
def StopRules.below (rules : StopRules) (discounts : List DiscountEntry)
    (packages : List PackageInput) : Bool :=
  0 < rules.minCharge ∧ rules.after discounts packages < rules.minCharge

/-- The stop recomputed on some packages. -/
def StopRules.price (rules : StopRules) (memory : PriceMemory) (packages : List PackageInput) :
    PricedStop :=
  buildStop (rules.stop.withPackages packages) (rules.plan.snapshot rules.prices)
    (orElseText rules.plan.plainName (orElseText
      (rules.plan.snapshot rules.prices).tierNameAtOrderTime rules.stop.serviceTierName))
    { figuresOf rules.prices packages
        (retaken (discountBase rules.prices packages) memory.discounts) rules.minCharge
        rules.vatRate (pounds rules.vatPct) with
      minChargeApplied := memory.minChargeApplied || rules.below memory.discounts packages }

/-- The stored breakdown holds the rules. -/
structure StopRules.Stored (rules : StopRules) (bd : StopBreakdown) : Prop where
  plan : bd.pricingPlan = rules.plan.snapshot rules.prices
  minCharge : bd.minCharge = Decimal.render rules.minCharge
  vatRate : bd.vatRate = rules.vatRate
  vatRatePct : bd.vatRatePct = Decimal.render rules.vatPct
  canonical : ∀ d ∈ bd.discounts, d.Canonical

section Stop

variable {rules : StopRules} {memory : PriceMemory} {packages : List PackageInput}
  {bd : StopBreakdown}

theorem stored_price (rules : StopRules) (hcanonical : ∀ d ∈ memory.discounts, d.Canonical)
    (packages : List PackageInput) : rules.Stored (rules.price memory packages).breakdown :=
  ⟨rfl, rfl, rfl, congrArg Decimal.render (money_stored rules.vatPct),
    canonical_retaken hcanonical _⟩

/-- A stored stop is recomputed by its rules. -/
theorem StopRules.Stored.recompute (h : rules.Stored bd) (fallback : VatRate) :
    recomputeStop fallback ((rules.stop.withPackages packages).withStored bd)
      = .ok (rules.price bd.memory packages) := by
  have hdiscount : reapplySnapshotDiscounts
      (discountBase rules.prices (rules.stop.withPackages packages).packages) bd.discounts
        = .ok (retaken (discountBase rules.prices packages) bd.discounts) :=
    reapplySnapshotDiscounts_eq h.canonical _
  rw [recomputeStop_stored h.plan h.minCharge h.vatRate h.vatRatePct hdiscount]
  rfl

/-- What is left after the discounts is not negative. -/
theorem StopRules.after_nonneg (rules : StopRules) {discounts : List DiscountEntry}
    (hcanonical : ∀ d ∈ discounts, d.Canonical) (packages : List PackageInput) :
    0 ≤ rules.after discounts packages := by
  obtain ⟨sum, hsum, htaken⟩ := capped_reapplySnapshotDiscounts
    (reapplySnapshotDiscounts_eq hcanonical (discountBase rules.prices packages))
  rw [StopRules.after, htaken]
  omega

theorem StopRules.below_iff (rules : StopRules) {discounts : List DiscountEntry}
    (hcanonical : ∀ d ∈ discounts, d.Canonical) (packages : List PackageInput) :
    rules.below discounts packages = true ↔ rules.after discounts packages < rules.minCharge := by
  have hnonneg := rules.after_nonneg hcanonical packages
  rw [StopRules.below, decide_eq_true_iff]
  omega

end Stop

/-! ### What is compared -/

/-- The discounts, the amounts and the flag of a stop. -/
structure StopOutcome where
  discounts : List DiscountEntry
  totalDiscount : String
  subtotalAfterDiscount : String
  subtotal : String
  vatAmount : String
  total : String
  minChargeApplied : Bool
  deriving DecidableEq

/-- What is compared of a stop's breakdown. -/
def StopBreakdown.outcome (bd : StopBreakdown) : StopOutcome :=
  ⟨bd.discounts, bd.totalDiscount, bd.subtotalAfterDiscount, bd.subtotal, bd.vatAmount, bd.total,
    bd.minChargeApplied⟩

/-- The flag says whether the subtotal after the discounts is below the minimum charge. -/
def StopBreakdown.FlagExact (bd : StopBreakdown) : Prop :=
  ∃ after minCharge : ℤ, bd.subtotalAfterDiscount = Decimal.render after ∧
    bd.minCharge = Decimal.render minCharge ∧
    (bd.minChargeApplied = true ↔ after < minCharge)

section Outcome

variable {rules : StopRules} {memory memory' : PriceMemory} {packages : List PackageInput}

/-- Two memories give the same outcome exactly if they give the same discounts and flag. -/
theorem outcome_price_iff :
    (rules.price memory packages).breakdown.outcome
        = (rules.price memory' packages).breakdown.outcome ↔
      retaken (discountBase rules.prices packages) memory.discounts
          = retaken (discountBase rules.prices packages) memory'.discounts ∧
        (memory.minChargeApplied || rules.below memory.discounts packages)
          = (memory'.minChargeApplied || rules.below memory'.discounts packages) := by
  constructor
  · intro h
    have hentries := congrArg StopOutcome.discounts h
    have htotal := render_inj.mp (congrArg StopOutcome.totalDiscount h)
    exact ⟨Prod.ext htotal hentries, congrArg StopOutcome.minChargeApplied h⟩
  · rintro ⟨hretaken, hflag⟩
    simp only [StopBreakdown.outcome, StopRules.price, buildStop, figuresOf, hretaken, hflag]

/-- The outcome depends on the weights of the packages alone. -/
theorem outcome_price_of_weights {packages' : List PackageInput}
    (h : packages.map (·.declaredWeightKg) = packages'.map (·.declaredWeightKg)) :
    (rules.price memory packages).breakdown.outcome
      = (rules.price memory packages').breakdown.outcome := by
  have htotals : ∀ pkgs : List PackageInput, pkgs.map (packageTotal rules.prices)
      = (pkgs.map (·.declaredWeightKg)).map fun weight =>
        rules.prices.perPackage + money (pounds rules.prices.perKg * weight.getD 0) := by
    intro pkgs
    rw [List.map_map]
    rfl
  have hsum : (pricedPackages packages rules.prices).2
      = (pricedPackages packages' rules.prices).2 := by
    simp only [pricedPackages, htotals, h]
  unfold StopRules.price StopRules.below StopRules.after figuresOf discountBase
  generalize pricedPackages packages rules.prices = priced at hsum ⊢
  generalize pricedPackages packages' rules.prices = priced' at hsum ⊢
  obtain ⟨entries, sum⟩ := priced
  obtain ⟨entries', sum'⟩ := priced'
  obtain rfl : sum = sum' := hsum
  rfl

theorem flagExact_price_iff (hcanonical : ∀ d ∈ memory.discounts, d.Canonical) :
    (rules.price memory packages).breakdown.FlagExact ↔
      (memory.minChargeApplied = true →
        rules.after memory.discounts packages < rules.minCharge) := by
  have hbelow := rules.below_iff hcanonical packages
  have hflag : (rules.price memory packages).breakdown.minChargeApplied
      = (memory.minChargeApplied || rules.below memory.discounts packages) := rfl
  constructor
  · rintro ⟨after, minCharge, hafter, hmin, hiff⟩ hset
    obtain rfl : rules.after memory.discounts packages = after := render_inj.mp hafter
    obtain rfl : rules.minCharge = minCharge := render_inj.mp hmin
    exact hiff.mp (by rw [hflag, hset, Bool.true_or])
  · intro h
    refine ⟨rules.after memory.discounts packages, rules.minCharge, rfl, rfl, ?_⟩
    rw [hflag, Bool.or_eq_true, hbelow]
    exact ⟨fun hor => hor.elim h id, .inr⟩

end Outcome

/-! ### One stop, one edit -/

/-- The rates of a stored breakdown. -/
def StopBreakdown.rates (bd : StopBreakdown) : TierPrices :=
  match tierPrices bd.pricingPlan with
  | .ok prices => prices
  | .error _ => ⟨0, 0, 0⟩

/-- A stored amount in pence. -/
def storedPence (text : String) : ℤ :=
  match (Scalar.text text).decimal with
  | .ok amount => money amount
  | .error _ => 0

/-- The edit of a stop finds every discount of the original that takes something off, and a
stop that is marked as below its minimum charge is below it again. -/
def StopBreakdown.Keeps (original bd : StopBreakdown) (packages : List PackageInput) : Prop :=
  (∀ d ∈ original.discounts, (d.retake (discountBase bd.rates packages)).isSome →
    ∃ e ∈ bd.discounts, e.rule = d.rule) ∧
  (bd.minChargeApplied = true →
    discountBase bd.rates packages - (retaken (discountBase bd.rates packages) bd.discounts).1
      < storedPence bd.minCharge)

/-- The stop is what one recomputation of the original would give on its packages, and its flag
is exact. -/
def StopRules.Faithful (rules : StopRules) (original : PriceMemory) (bd : StopBreakdown)
    (packages : List PackageInput) : Prop :=
  bd.outcome = (rules.price original packages).breakdown.outcome ∧ bd.FlagExact

theorem storedPence_render (n : ℤ) : storedPence (Decimal.render n) = n := by
  rw [storedPence, decimal_text_render]
  exact money_stored n

section Step

variable {rules : StopRules} {original bd : StopBreakdown} {packages packages' : List PackageInput}

theorem StopRules.Stored.rates_eq (h : rules.Stored bd) : bd.rates = rules.prices := by
  rw [StopBreakdown.rates, h.plan, tierPrices_snapshot]

/-- **One edit.** A faithful stop stays faithful exactly if the edit keeps its price. -/
theorem faithful_price_iff (horiginal : rules.Stored original) (hbd : rules.Stored bd)
    (hfaithful : rules.Faithful original.memory bd packages) :
    rules.Faithful original.memory (rules.price bd.memory packages').breakdown packages' ↔
      original.Keeps bd packages' := by
  obtain ⟨houtcome, -⟩ := hfaithful
  have hentries : bd.discounts
      = (retaken (discountBase rules.prices packages) original.discounts).2 :=
    congrArg StopOutcome.discounts houtcome
  have hflag : bd.minChargeApplied
      = (original.minChargeApplied || rules.below original.discounts packages) :=
    congrArg StopOutcome.minChargeApplied houtcome
  have hmin : storedPence bd.minCharge = rules.minCharge := by
    rw [hbd.minCharge, storedPence_render]
  unfold StopRules.Faithful StopBreakdown.Keeps
  rw [hbd.rates_eq, hmin, outcome_price_iff, flagExact_price_iff hbd.canonical]
  constructor
  · rintro ⟨⟨hretaken, -⟩, hexact⟩
    refine ⟨?_, hexact⟩
    have hkept := congrArg Prod.snd hretaken
    simp only [StopBreakdown.memory, hentries] at hkept ⊢
    exact (kept_kept_iff horiginal.canonical).mp hkept
  · rintro ⟨hfound, hexact⟩
    rw [hentries] at hfound
    have hretaken : retaken (discountBase rules.prices packages') bd.discounts
        = retaken (discountBase rules.prices packages') original.discounts := by
      rw [hentries]
      exact retaken_retaken horiginal.canonical hfound
    have hsame : rules.below bd.discounts packages' = rules.below original.discounts packages' := by
      rw [StopRules.below, StopRules.below, StopRules.after, StopRules.after, hretaken]
    refine ⟨⟨hretaken, ?_⟩, hexact⟩
    have hbelow := (rules.below_iff hbd.canonical packages').mpr
    -- A flag of the original is a flag of the stop, so either flag implies the comparison.
    simp only [StopBreakdown.memory, ← hsame]
    cases hset : bd.minChargeApplied with
    | true => rw [hbelow (hexact hset), Bool.or_true, Bool.or_true]
    | false =>
        rw [hset] at hflag
        rw [(Bool.or_eq_false_iff.mp hflag.symm).1]

end Step

/-! ### The original -/

/-- The rules that a stored breakdown holds. -/
def StopRules.ofStored (stop : StopInput) (bd : StopBreakdown) : StopRules where
  stop := stop
  plan := bd.pricingPlan
  prices := bd.rates
  minCharge := storedPence bd.minCharge
  vatRate := bd.vatRate
  vatPct := storedPence bd.vatRatePct

/-- The texts of a priced stop are those of its amounts. -/
structure PricedStop.Consistent (priced : PricedStop) : Prop where
  subtotal : priced.breakdown.subtotal = Decimal.render priced.subtotal
  vatAmount : priced.breakdown.vatAmount = Decimal.render priced.vatAmount
  total : priced.breakdown.total = Decimal.render priced.total

/-- A stop as it was priced at first. -/
structure Original (stop : StopInput) (bd : StopBreakdown) : Prop where
  stored : (StopRules.ofStored stop bd).Stored bd
  faithful : (StopRules.ofStored stop bd).Faithful bd.memory bd stop.packages

theorem canonical_applyDiscounts {base : ℤ} {discounts : List OrgDiscountConfig}
    {tierId : Option String} {orderCount : ℕ} {discount : ℤ × List DiscountEntry}
    (h : applyDiscounts base discounts tierId orderCount today = .ok discount) :
    ∀ d ∈ discount.2, d.Canonical := by
  obtain ⟨rounds, hrounds, h⟩ := bind_eq_ok.mp h
  obtain rfl := pure_eq_ok.mp h
  intro d hd
  obtain ⟨x, hx, rfl⟩ := List.mem_map.mp hd
  obtain ⟨config, -, hround⟩ := exists_of_mem_mapEach hrounds (List.reduceOption_mem_iff.mp hx)
  exact canonical_applyDiscount hround

/-- A stop that was built from figures, and whose discounts take off again what they took
off. -/
theorem original_buildStop {stop : StopInput} {plan : Plan} {prices : TierPrices}
    {discount : ℤ × List DiscountEntry} (minCharge : ℤ) (vatRate : VatRate) (vatPct : ℤ)
    (display : Option String) (hcanonical : ∀ d ∈ discount.2, d.Canonical)
    (hretaken : retaken (discountBase prices stop.packages) discount.2 = discount) :
    Original stop (buildStop stop (plan.snapshot prices) display (figuresOf prices stop.packages
      discount minCharge vatRate (pounds vatPct))).breakdown := by
  have hrules : StopRules.ofStored stop (buildStop stop (plan.snapshot prices) display
      (figuresOf prices stop.packages discount minCharge vatRate (pounds vatPct))).breakdown
      = ⟨stop, plan.snapshot prices, prices, minCharge, vatRate, vatPct⟩ := by
    simp only [StopRules.ofStored, StopBreakdown.rates, buildStop, figuresOf, tierPrices_snapshot,
      money_stored, storedPence_render]
  have hafter : discountBase prices stop.packages - discount.1
      = StopRules.after ⟨stop, plan.snapshot prices, prices, minCharge, vatRate, vatPct⟩
        discount.2 stop.packages := by
    rw [StopRules.after, hretaken]
  have hbelow := StopRules.below_iff
    ⟨stop, plan.snapshot prices, prices, minCharge, vatRate, vatPct⟩ hcanonical stop.packages
  constructor
  · rw [hrules]
    exact ⟨(snapshot_snapshot plan prices).symm, rfl, rfl,
      congrArg Decimal.render (money_stored vatPct), hcanonical⟩
  · rw [hrules]
    constructor
    · have hflag : StopRules.below ⟨stop, plan.snapshot prices, prices, minCharge, vatRate, vatPct⟩
          discount.2 stop.packages = (figuresOf prices stop.packages discount minCharge vatRate
            (pounds vatPct)).minChargeApplied := by
        rw [StopRules.below, ← hafter]
        rfl
      have hfigures : { figuresOf prices stop.packages
          (retaken (discountBase prices stop.packages) discount.2) minCharge vatRate
          (pounds vatPct) with
            minChargeApplied := (figuresOf prices stop.packages discount minCharge vatRate
              (pounds vatPct)).minChargeApplied || StopRules.below
                ⟨stop, plan.snapshot prices, prices, minCharge, vatRate, vatPct⟩
                discount.2 stop.packages }
          = figuresOf prices stop.packages discount minCharge vatRate (pounds vatPct) := by
        rw [hretaken, hflag, Bool.or_self]
      exact (congrArg (fun figures => (buildStop stop (plan.snapshot prices) display
        figures).breakdown.outcome) hfigures).symm
    · refine ⟨discountBase prices stop.packages - discount.1, minCharge, rfl, rfl, ?_⟩
      rw [hafter, ← hbelow, StopRules.below, ← hafter]
      rfl

/-- Pricing from live data gives an original. -/
theorem original_computeStop {upper : String → String} {ctx : PricingContext} {stop : StopInput}
    {priced : PricedStop} (hplaces : ctx.TwoPlaces)
    (h : computeStop upper ctx today stop = .ok priced) :
    Original stop priced.breakdown ∧ priced.Consistent := by
  obtain ⟨plan, prices, discount, -, -, hdiscount, rfl⟩ := computeStop_eq_ok h
  have hcanonical := canonical_applyDiscounts hdiscount
  have hretaken : retaken (discountBase prices stop.packages) discount.2 = discount :=
    Except.ok.inj ((reapplySnapshotDiscounts_eq hcanonical _).symm.trans
      (reapplySnapshotDiscounts_applied hplaces hdiscount))
  exact ⟨original_buildStop _ _ _ _ hcanonical hretaken, rfl, rfl, rfl⟩

/-! ### Runs of edits -/

/-- An edit: the packages of each stop, by its position. -/
abbrev Edit := ℕ → List PackageInput

/-- An order under edit. -/
structure EditedOrder where
  stops : List StopInput
  orderUuid : Option Id
  orderId : Option String

/-- The latest result, and the packages it was priced on. -/
structure EditState where
  result : PricingResult
  packages : Edit

namespace EditedOrder

variable (order : EditedOrder)

/-- The inputs of a recomputation on edited packages. -/
def inputs (stored : List StopBreakdown) (edit : Edit) : List StopInput :=
  List.zipWith (fun s bd => (s.1.withPackages (edit s.2)).withStored bd) order.stops.zipIdx stored

/-- One edit: the stored breakdowns are recomputed on the new packages. -/
def recompute (result : PricingResult) (edit : Edit) : Except ServiceError PricingResult :=
  recomputePriceBreakdownFromSnapshot result.breakdown.snapshot
    (order.inputs result.breakdown.stops edit) order.orderUuid order.orderId

/-- The edit as a step. An edit that fails changes nothing. -/
def step (s : EditState) (edit : Edit) : EditState :=
  match order.recompute s.result edit with
  | .ok result => ⟨result, edit⟩
  | .error _ => s

/-- The order as it was priced at first. -/
def opened (start : PricingResult) : EditState :=
  ⟨start, fun i => (order.stops[i]?.map (·.packages)).getD []⟩

end EditedOrder

/-- What is compared of a result: the amounts of the order, and of each stop its discounts,
amounts and flag. -/
def PricingResult.outcome (result : PricingResult) : (ℤ × ℤ × ℤ) × List StopOutcome :=
  ((result.subtotal, result.vatAmount, result.totalAmount),
    result.breakdown.stops.map (·.outcome))

/-- The result is what a single edit of the original to the present packages gives, and every
flag is exact. -/
def EditedOrder.HistoryFree (order : EditedOrder) (start : PricingResult) (s : EditState) : Prop :=
  s.result.outcome = (order.step (order.opened start) s.packages).result.outcome ∧
    ∀ bd ∈ s.result.breakdown.stops, bd.FlagExact

/-- The edit keeps the price of every stop. -/
def EditState.Keeps (start : PricingResult) (s : EditState) (edit : Edit) : Prop :=
  List.Forall₂ (fun original bd => original.1.Keeps bd (edit original.2))
    start.breakdown.stops.zipIdx s.result.breakdown.stops

section Lists

variable {α β γ δ : Type} {as : List α} {bs : List β}

theorem forall₂_zipWith_iff {R : α → γ → Prop} {f : α → β → γ} (h : as.length = bs.length) :
    List.Forall₂ R as (List.zipWith f as bs) ↔ List.Forall₂ (fun a b => R a (f a b)) as bs := by
  induction as generalizing bs with
  | nil =>
      obtain rfl := List.eq_nil_of_length_eq_zero h.symm
      simp
  | cons a as ih =>
      cases bs with
      | nil => exact absurd h (Nat.succ_ne_zero _)
      | cons b bs =>
          simp only [List.zipWith_cons_cons, List.forall₂_cons, ih (Nat.succ.inj h)]

theorem forall₂_and_right {R : α → β → Prop} {P : β → Prop} :
    List.Forall₂ (fun a b => R a b ∧ P b) as bs ↔ List.Forall₂ R as bs ∧ ∀ b ∈ bs, P b := by
  constructor
  · intro h
    induction h with
    | nil => exact ⟨.nil, nofun⟩
    | cons h _ ih => exact ⟨.cons h.1 ih.1, List.forall_mem_cons.mpr ⟨h.2, ih.2⟩⟩
  · rintro ⟨h, hP⟩
    induction h with
    | nil => exact .nil
    | cons h _ ih =>
        obtain ⟨hb, hbs⟩ := List.forall_mem_cons.mp hP
        exact .cons ⟨h, hb⟩ (ih hbs)

theorem map_eq_map_iff_forall₂ {f : α → γ} {g : β → γ} :
    bs.map g = as.map f ↔ List.Forall₂ (fun a b => g b = f a) as bs := by
  rw [eq_comm, ← List.forall₂_eq_eq_eq, List.forall₂_map_left_iff, List.forall₂_map_right_iff]
  simp only [eq_comm]

theorem mapEach_zipWith {f : α → β → γ} {f' : α → β → δ} {g : γ → Except ServiceError δ}
    (h : List.Forall₂ (fun a b => g (f a b) = .ok (f' a b)) as bs) :
    mapEach g (List.zipWith f as bs) = .ok (List.zipWith f' as bs) := by
  rw [mapEach_eq_ok]
  induction h with
  | nil => exact .nil
  | cons h _ ih => exact .cons h ih

end Lists

/-- A stop of the original, its first breakdown and its position. -/
abbrev Place := (StopInput × StopBreakdown) × ℕ

/-- The rules at a place. -/
def Place.rules (place : Place) : StopRules := .ofStored place.1.1 place.1.2

/-- The places of an order. -/
def EditedOrder.places (order : EditedOrder) (start : PricingResult) : List Place :=
  (order.stops.zip start.breakdown.stops).zipIdx

/-- The stops after an edit. -/
def repriced (edit : Edit) (places : List Place) (priced : List PricedStop) : List PricedStop :=
  List.zipWith (fun place p => place.rules.price p.breakdown.memory (edit place.2)) places priced

/-- A priced stop at its place. -/
structure Place.Holds (place : Place) (priced : PricedStop) : Prop where
  stored : place.rules.Stored priced.breakdown
  consistent : priced.Consistent

/-- The result holds the stops of an order. -/
structure EditedOrder.Records (order : EditedOrder) (start result : PricingResult)
    (priced : List PricedStop) : Prop where
  result_eq : result = orderResult order.orderUuid order.orderId "GBP" priced
  holds : List.Forall₂ Place.Holds (order.places start) priced

section Order

variable {order : EditedOrder} {start result : PricingResult} {priced : List PricedStop}

theorem holds_repriced {places : List Place} (h : List.Forall₂ Place.Holds places priced)
    (edit : Edit) : List.Forall₂ Place.Holds places (repriced edit places priced) := by
  rw [repriced, forall₂_zipWith_iff h.length_eq]
  exact h.imp fun place p hp => ⟨stored_price _ hp.stored.canonical _, rfl, rfl, rfl⟩

theorem consistent_of_holds {places : List Place} (h : List.Forall₂ Place.Holds places priced) :
    ∀ p ∈ priced, p.Consistent :=
  (forall₂_and_right.mp (h.imp fun _ _ hp => ⟨hp.stored, hp.consistent⟩)).2

theorem stops_zipIdx (hlength : order.stops.length = start.breakdown.stops.length) :
    order.stops.zipIdx = (order.places start).map (Prod.map Prod.fst id) := by
  rw [EditedOrder.places, ← List.zipIdx_map, List.map_fst_zip hlength.le]

/-- An edit of a recorded result succeeds, stop by stop. -/
theorem EditedOrder.Records.recompute (h : order.Records start result priced)
    (hlength : order.stops.length = start.breakdown.stops.length) (edit : Edit) :
    ∃ after, order.recompute result edit = .ok after ∧
      order.Records start after (repriced edit (order.places start) priced) := by
  refine ⟨_, ?_, rfl, holds_repriced h.holds edit⟩
  have hinputs : order.inputs result.breakdown.stops edit = List.zipWith (fun (place : Place) p =>
      (place.1.1.withPackages (edit place.2)).withStored p.breakdown) (order.places start)
        priced := by
    rw [h.result_eq, EditedOrder.inputs, stops_zipIdx hlength]
    exact List.zipWith_map
  have hpriced : ∀ fallback, mapEach (recomputeStop fallback) (List.zipWith
      (fun (place : Place) p => (place.1.1.withPackages (edit place.2)).withStored p.breakdown)
      (order.places start) priced)
        = .ok (repriced edit (order.places start) priced) := fun fallback =>
    mapEach_zipWith (h.holds.imp fun place p hp => hp.stored.recompute fallback)
  rw [EditedOrder.recompute, recomputePriceBreakdownFromSnapshot, hinputs, hpriced, h.result_eq]
  rfl

theorem render_injective : Function.Injective Decimal.render := fun _ _ h => render_inj.mp h

/-- Amounts are equal where their texts are. -/
theorem map_amount_eq {priced' : List PricedStop} (amount : PricedStop → ℤ)
    (text : StopOutcome → String)
    (h : ∀ p ∈ priced, text p.breakdown.outcome = Decimal.render (amount p))
    (h' : ∀ p ∈ priced', text p.breakdown.outcome = Decimal.render (amount p))
    (hmap : priced.map (·.breakdown.outcome) = priced'.map (·.breakdown.outcome)) :
    priced.map amount = priced'.map amount := by
  refine List.map_injective_iff.mpr render_injective ?_
  calc (priced.map amount).map Decimal.render
      = (priced.map (·.breakdown.outcome)).map text := by
        rw [List.map_map, List.map_map]
        exact List.map_congr_left fun p hp => (h p hp).symm
    _ = (priced'.map (·.breakdown.outcome)).map text := by rw [hmap]
    _ = (priced'.map amount).map Decimal.render := by
        rw [List.map_map, List.map_map]
        exact List.map_congr_left fun p hp => h' p hp

/-- The outcome of a result is that of its stops: the sums follow. -/
theorem outcome_orderResult_iff {priced' : List PricedStop}
    (h : ∀ p ∈ priced, p.Consistent) (h' : ∀ p ∈ priced', p.Consistent) :
    (orderResult order.orderUuid order.orderId "GBP" priced).outcome
        = (orderResult order.orderUuid order.orderId "GBP" priced').outcome ↔
      priced.map (·.breakdown.outcome) = priced'.map (·.breakdown.outcome) := by
  have hstops : ∀ ps : List PricedStop, (orderResult order.orderUuid order.orderId "GBP"
      ps).breakdown.stops.map (·.outcome) = ps.map (·.breakdown.outcome) := fun ps => List.map_map
  simp only [PricingResult.outcome, hstops, Prod.mk.injEq, and_iff_right_iff_imp]
  intro hmap
  have hsubtotal := map_amount_eq (·.subtotal) (·.subtotal) (fun p hp => (h p hp).subtotal)
    (fun p hp => (h' p hp).subtotal) hmap
  have hvat := map_amount_eq (·.vatAmount) (·.vatAmount) (fun p hp => (h p hp).vatAmount)
    (fun p hp => (h' p hp).vatAmount) hmap
  have htotal := map_amount_eq (·.total) (·.total) (fun p hp => (h p hp).total)
    (fun p hp => (h' p hp).total) hmap
  exact ⟨congrArg List.sum hsubtotal, congrArg List.sum hvat, congrArg List.sum htotal⟩

/-- The places of an order that was just priced. -/
structure EditedOrder.Opens (order : EditedOrder) (start : PricingResult)
    (priced : List PricedStop) : Prop where
  length_eq : order.stops.length = start.breakdown.stops.length
  records : order.Records start start priced
  original : List.Forall₂ (fun place p => place.1.2 = p.breakdown ∧
    place.rules.Faithful place.1.2.memory p.breakdown ((order.opened start).packages place.2))
    (order.places start) priced

/-- The stop at a place, recomputed once from the original. -/
def Place.direct (edit : Edit) (place : Place) : PricedStop :=
  place.rules.price place.1.2.memory (edit place.2)

theorem repriced_direct {places : List Place}
    (h : List.Forall₂ (fun place p => place.1.2 = p.breakdown) places priced) (edit : Edit) :
    repriced edit places priced = places.map (Place.direct edit) := by
  induction h with
  | nil => rfl
  | cons hplace _ ih =>
      rw [List.map_cons, ← ih, repriced, List.zipWith_cons_cons, ← hplace]
      rfl

section Opened

variable {priced₀ : List PricedStop} (hopens : order.Opens start priced₀)
include hopens

/-- A single edit of the original. -/
theorem EditedOrder.Opens.step_eq (edit : Edit) :
    order.step (order.opened start) edit
      = ⟨orderResult order.orderUuid order.orderId "GBP"
          ((order.places start).map (Place.direct edit)), edit⟩ := by
  obtain ⟨after, hafter, hrecords⟩ := hopens.records.recompute hopens.length_eq edit
  have hstart : order.recompute (order.opened start).result edit = .ok after := hafter
  rw [EditedOrder.step, hstart, hrecords.result_eq,
    repriced_direct (hopens.original.imp fun _ _ h => h.1)]

theorem EditedOrder.Opens.holds_direct (edit : Edit) :
    List.Forall₂ Place.Holds (order.places start)
      ((order.places start).map (Place.direct edit)) := by
  rw [← repriced_direct (hopens.original.imp fun _ _ h => h.1)]
  exact holds_repriced hopens.records.holds edit

theorem EditedOrder.Opens.stored_original :
    ∀ place ∈ order.places start, place.rules.Stored place.1.2 := by
  have hstored := hopens.original.mp (fun place p horiginal hholds =>
    (⟨horiginal.1 ▸ hholds.stored, trivial⟩ : place.rules.Stored place.1.2 ∧ True))
    hopens.records.holds
  exact ((List.forall₂_and_left _ _).mp hstored).1

/-- The history is forgotten exactly if it is at each stop. -/
theorem EditedOrder.Opens.historyFree_iff {s : EditState}
    (h : order.Records start s.result priced) :
    order.HistoryFree start s ↔ List.Forall₂ (fun place p =>
      place.rules.Faithful place.1.2.memory p.breakdown (s.packages place.2))
      (order.places start) priced := by
  have hflags : (∀ bd ∈ (orderResult order.orderUuid order.orderId "GBP" priced).breakdown.stops,
      bd.FlagExact) ↔ ∀ p ∈ priced, p.breakdown.FlagExact := List.forall_mem_map
  rw [EditedOrder.HistoryFree, hopens.step_eq, h.result_eq, hflags,
    outcome_orderResult_iff (consistent_of_holds h.holds)
      (consistent_of_holds (hopens.holds_direct s.packages)),
    List.map_map, map_eq_map_iff_forall₂, ← forall₂_and_right]
  rfl

/-- **One edit of an order.** The history stays forgotten exactly if the edit keeps the price of
every stop. -/
theorem EditedOrder.Opens.historyFree_step_iff {s : EditState}
    (h : order.Records start s.result priced) (hfree : order.HistoryFree start s) (edit : Edit) :
    order.HistoryFree start (order.step s edit) ↔ s.Keeps start edit := by
  obtain ⟨after, hafter, hrecords⟩ := h.recompute hopens.length_eq edit
  have hstep : order.step s edit = ⟨after, edit⟩ := by
    rw [EditedOrder.step, hafter]
  have hfaithful := (hopens.historyFree_iff h).mp hfree
  have hrecords' : order.Records start (order.step s edit).result
      (repriced edit (order.places start) priced) := by
    rw [hstep]
    exact hrecords
  have hkeeps : s.Keeps start edit ↔ List.Forall₂ (fun place p =>
      place.1.2.Keeps p.breakdown (edit place.2)) (order.places start) priced := by
    have hstops : start.breakdown.stops.zipIdx
        = (order.places start).map (Prod.map Prod.snd id) := by
      rw [EditedOrder.places, ← List.zipIdx_map, List.map_snd_zip hopens.length_eq.ge]
    rw [EditState.Keeps, hstops, h.result_eq, List.forall₂_map_left_iff]
    exact List.forall₂_map_right_iff
  rw [hopens.historyFree_iff hrecords', hstep, repriced, forall₂_zipWith_iff h.holds.length_eq,
    hkeeps]
  -- Stop by stop: the original, the present stop and its faithfulness are given.
  have hgiven := (List.forall₂_and_left _ _).mpr
    ⟨hopens.stored_original, hfaithful.mp (fun _ _ => And.intro) h.holds⟩
  constructor
  · exact hgiven.mp fun place p ⟨horiginal, hp, hholds⟩ =>
      (faithful_price_iff horiginal hholds.stored hp).mp
  · exact hgiven.mp fun place p ⟨horiginal, hp, hholds⟩ =>
      (faithful_price_iff horiginal hholds.stored hp).mpr

/-- A single edit depends on the weights alone. -/
theorem EditedOrder.Opens.outcome_step_congr {edit edit' : Edit}
    (hweights : ∀ i < order.stops.length, (edit i).map (·.declaredWeightKg)
      = (edit' i).map (·.declaredWeightKg)) :
    (order.step (order.opened start) edit).result.outcome
      = (order.step (order.opened start) edit').result.outcome := by
  rw [hopens.step_eq, hopens.step_eq, outcome_orderResult_iff (consistent_of_holds
    (hopens.holds_direct edit)) (consistent_of_holds (hopens.holds_direct edit')), List.map_map,
    List.map_map]
  refine List.map_congr_left fun place hplace => outcome_price_of_weights (hweights _ ?_)
  have hlt := List.snd_lt_of_mem_zipIdx hplace
  rw [List.length_zip] at hlt
  omega

end Opened

/-- Pricing an order opens it for edits. -/
theorem opens_of_compute {upper : String → String} {ctx : PricingContext} (hplaces : ctx.TwoPlaces)
    (h : computePriceBreakdown upper ctx today order.stops order.orderUuid order.orderId
      = .ok start) : ∃ priced, order.Opens start priced := by
  obtain ⟨priced, hpriced, hstart⟩ := bind_eq_ok.mp h
  have hstart := pure_eq_ok.mp hstart
  have hstops : start.breakdown.stops = priced.map (·.breakdown) := by
    rw [← hstart]
    rfl
  have horiginal := (mapEach_eq_ok.mp hpriced).imp fun stop p hp =>
    original_computeStop hplaces hp
  have hplaced : ∀ {R : Place → PricedStop → Prop},
      (∀ i stop p, order.stops[i]? = some stop → Original stop p.breakdown → p.Consistent →
        R ((stop, p.breakdown), i) p) → List.Forall₂ R (order.places start) priced := by
    intro R hR
    rw [EditedOrder.places, hstops, List.forall₂_iff_get]
    refine ⟨by simp [horiginal.length_eq], fun i h₁ h₂ => ?_⟩
    have hi : i < order.stops.length := by
      rw [horiginal.length_eq]
      exact h₂
    obtain ⟨ho, hc⟩ := horiginal.get hi h₂
    simp only [List.get_eq_getElem, List.getElem_zipIdx, List.getElem_zip, List.getElem_map,
      Nat.zero_add] at ho hc ⊢
    exact hR i _ _ (List.getElem?_eq_getElem hi) ho hc
  refine ⟨priced, ?_, ⟨hstart.symm, hplaced fun i stop p _ ho hc => ⟨ho.stored, hc⟩⟩,
    hplaced fun i stop p hstop ho _ => ⟨rfl, ?_⟩⟩
  · rw [hstops, List.length_map]
    exact horiginal.length_eq
  · simp only [EditedOrder.opened, hstop]
    exact ho.faithful

end Order

/-- Two states of an order with the same weights. -/
def EditedOrder.SameWeights (order : EditedOrder) (s s' : EditState) : Prop :=
  ∀ i < order.stops.length, (s.packages i).map (·.declaredWeightKg)
    = (s'.packages i).map (·.declaredWeightKg)

/-- **The edit history does not matter** where nothing is lost. Along every run of edits of a
priced order, the result is at each point what a single edit of the original would give, with
exact flags, if and only if every edit keeps the price of each stop. Two such runs that end
with the same weights end with the same discounts, amounts and flags. -/
theorem edit_history_iff {upper : String → String} {ctx : PricingContext} {today : Day}
    {order : EditedOrder} {start : PricingResult} (hplaces : ctx.TwoPlaces)
    (h : computePriceBreakdown upper ctx today order.stops order.orderUuid order.orderId
      = .ok start) :
    (∀ edits, (∀ pre post, edits = pre ++ post →
        order.HistoryFree start (Runs.run order.step (order.opened start) pre)) ↔
      Runs.Along order.step (EditState.Keeps start) (order.opened start) edits) ∧
    ∀ edits edits',
      Runs.Along order.step (EditState.Keeps start) (order.opened start) edits →
      Runs.Along order.step (EditState.Keeps start) (order.opened start) edits' →
      order.SameWeights (Runs.run order.step (order.opened start) edits)
        (Runs.run order.step (order.opened start) edits') →
      (Runs.run order.step (order.opened start) edits).result.outcome
        = (Runs.run order.step (order.opened start) edits').result.outcome := by
  obtain ⟨priced₀, hopens⟩ := opens_of_compute hplaces h
  have hrun : ∀ edits, (∀ pre post, edits = pre ++ post →
        order.HistoryFree start (Runs.run order.step (order.opened start) pre)) ↔
      Runs.Along order.step (EditState.Keeps start) (order.opened start) edits := by
    intro edits
    refine Runs.forall_prefix_iff_along
      (I := fun s => ∃ priced, order.Records start s.result priced)
      (M := order.HistoryFree start) ?_ ?_ ⟨_, hopens.records⟩ ?_ edits
    · rintro s edit ⟨priced, hrecords⟩
      obtain ⟨after, hafter, hrecords'⟩ := hrecords.recompute hopens.length_eq edit
      refine ⟨repriced edit (order.places start) priced, ?_⟩
      rw [EditedOrder.step, hafter]
      exact hrecords'
    · rintro s edit ⟨priced, hrecords⟩ hfree
      exact hopens.historyFree_step_iff hrecords hfree edit
    · exact (hopens.historyFree_iff hopens.records).mpr (hopens.original.imp fun _ _ h => h.2)
  refine ⟨hrun, fun edits edits' halong halong' hweights => ?_⟩
  obtain ⟨hfree, -⟩ := (hrun edits).mpr halong edits [] (List.append_nil _).symm
  obtain ⟨hfree', -⟩ := (hrun edits').mpr halong' edits' [] (List.append_nil _).symm
  rw [hfree, hfree']
  exact hopens.outcome_step_congr hweights

/-! ### One package on the scales -/

instance (original bd : StopBreakdown) (packages : List PackageInput) :
    Decidable (original.Keeps bd packages) :=
  inferInstanceAs (Decidable (_ ∧ _))

instance (start : PricingResult) (s : EditState) (edit : Edit) : Decidable (s.Keeps start edit) :=
  inferInstanceAs (Decidable (List.Forall₂ _ _ _))

instance (order : EditedOrder) (s s' : EditState) : Decidable (order.SameWeights s s') :=
  inferInstanceAs (Decidable (∀ i < _, _))

/-- Ten per cent off, and five pounds at least. -/
def tenPercentContext : PricingContext where
  org :=
    { pricingPlans := []
      minChargePerBooking := some 5
      maxPackageWeight := none
      maxPackageLength := none
      maxPackageWidth := none
      maxPackageHeight := none }
  vatRate := none
  discounts :=
    [{ discountType := .percentage, isEnabled := true, serviceTierId := some "by-weight"
       value := some 10, volumeTiers := [], validFrom := none, validUntil := none }]
  orderCount := 0

/-- One package of a given weight. -/
def weighing (kg : ℚ) : List PackageInput :=
  [⟨1, some kg, none, none, none, some 1, some "PKG-1"⟩]

/-- A stop at one pound per kilogram, with a package of twenty. -/
def weighedOrder : EditedOrder where
  stops :=
    [{ index := 1
       serviceTierName := some "By weight"
       serviceTierId := none
       packages := weighing 20
       stopUuid := some 1
       trackingId := none
       priceBreakdown := none
       resolvedPlan := some (plainPlan "by-weight" "By weight" 0 0 1) }]
  orderUuid := none
  orderId := none

theorem tenPercentContext_twoPlaces : tenPercentContext.TwoPlaces := by
  constructor
  · intro d hd
    obtain rfl := List.mem_singleton.mp hd
    exact ⟨1000, by decide +kernel⟩
  · intro d hd t ht
    obtain rfl := List.mem_singleton.mp hd
    exact absurd ht List.not_mem_nil

/-- The package is weighed again and again, and never below what the discount and the minimum
charge notice. -/
theorem heavier_package_agrees : ∃ start,
    computePriceBreakdown id tenPercentContext 0 weighedOrder.stops none none = .ok start ∧
    (Runs.run weighedOrder.step (weighedOrder.opened start)
        [fun _ => weighing 25, fun _ => weighing 10, fun _ => weighing 30]).result.outcome
      = (Runs.run weighedOrder.step (weighedOrder.opened start)
        [fun _ => weighing 30]).result.outcome := by
  have hok : (computePriceBreakdown id tenPercentContext 0 weighedOrder.stops none none).map
      (fun start => decide
        (Runs.Along weighedOrder.step (EditState.Keeps start) (weighedOrder.opened start)
          [fun _ => weighing 25, fun _ => weighing 10, fun _ => weighing 30] ∧
        Runs.Along weighedOrder.step (EditState.Keeps start) (weighedOrder.opened start)
          [fun _ => weighing 30] ∧
        weighedOrder.SameWeights (Runs.run weighedOrder.step (weighedOrder.opened start)
            [fun _ => weighing 25, fun _ => weighing 10, fun _ => weighing 30])
          (Runs.run weighedOrder.step (weighedOrder.opened start) [fun _ => weighing 30])))
      = .ok true := by decide +kernel
  obtain ⟨start, hstart, hfacts⟩ := map_eq_ok.mp hok
  obtain ⟨halong, halong', hweights⟩ := of_decide_eq_true hfacts
  exact ⟨start, hstart, (edit_history_iff tenPercentContext_twoPlaces hstart).2 _ _ halong
    halong' hweights⟩

/-- Weighed at ten grams by mistake and then at twenty kilograms again: the discount is lost,
and the stop is marked as below its minimum charge. -/
theorem discount_lost_by_weighing : ∃ start,
    computePriceBreakdown id tenPercentContext 0 weighedOrder.stops none none = .ok start ∧
    weighedOrder.SameWeights (weighedOrder.opened start) (Runs.run weighedOrder.step
      (weighedOrder.opened start) [fun _ => weighing (1 / 100), fun _ => weighing 20]) ∧
    start.totalAmount = 2160 ∧
    (Runs.run weighedOrder.step (weighedOrder.opened start)
      [fun _ => weighing (1 / 100), fun _ => weighing 20]).result.totalAmount = 2400 ∧
    start.breakdown.stops.map (·.minChargeApplied) = [false] ∧
    (Runs.run weighedOrder.step (weighedOrder.opened start)
      [fun _ => weighing (1 / 100),
        fun _ => weighing 20]).result.breakdown.stops.map (·.minChargeApplied) = [true] := by
  have hok : (computePriceBreakdown id tenPercentContext 0 weighedOrder.stops none none).map
      (fun start => decide (
        weighedOrder.SameWeights (weighedOrder.opened start) (Runs.run weighedOrder.step
          (weighedOrder.opened start) [fun _ => weighing (1 / 100), fun _ => weighing 20]) ∧
        start.totalAmount = 2160 ∧
        (Runs.run weighedOrder.step (weighedOrder.opened start)
          [fun _ => weighing (1 / 100), fun _ => weighing 20]).result.totalAmount = 2400 ∧
        start.breakdown.stops.map (·.minChargeApplied) = [false] ∧
        (Runs.run weighedOrder.step (weighedOrder.opened start)
          [fun _ => weighing (1 / 100),
            fun _ => weighing 20]).result.breakdown.stops.map (·.minChargeApplied) = [true]))
      = .ok true := by decide +kernel
  obtain ⟨start, hstart, hfacts⟩ := map_eq_ok.mp hok
  exact ⟨start, hstart, of_decide_eq_true hfacts⟩

end SwCouriers
