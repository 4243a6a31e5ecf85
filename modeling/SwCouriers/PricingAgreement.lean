import Mathlib.Algebra.Order.BigOperators.Group.List
import Mathlib.Data.List.ReduceOption
import SwCouriers.Pricing

/-!
# The Two Pricing Paths Agree

`compute_price_breakdown` reads the organisation's live data; the recomputation reads the
texts it stored. This module shows that every rounding and every default survives the
encoding, so that recomputing a stored order on its own packages changes no amount, and
recomputing it once more changes nothing at all.

Both paths are first brought to one form: a stop is built from its plan, its packages, a
discount, a minimum charge and a VAT rate (`figuresOf`). What is left is to show that the
three come back from the snapshot as they went in.

## Main results

* `computeStop_eq_ok`, `recomputeStop_eq`: what a priced stop is, on either path.
* `Capped`: what either path takes off is a nonnegative sum, capped at the base amount.
* `reapplyDiscount_applied`: a stored discount takes off again what it took off.
* `recompute_agrees`: the two paths agree, and the recomputation is idempotent.
-/

namespace SwCouriers

open Checked

/-! ### Texts of amounts -/

/-- A number with at most two decimal places. -/
def TwoPlaces (q : ℚ) : Prop := ∃ n : ℤ, q = pounds n

theorem TwoPlaces.pounds_money {q : ℚ} (h : TwoPlaces q) : pounds (money q) = q := by
  obtain ⟨n, rfl⟩ := h
  rw [money_stored]

@[simp] theorem decimal_text_render (n : ℤ) :
    (Scalar.text (Decimal.render n)).decimal = .ok (pounds n) := by
  rw [Scalar.decimal, if_neg (Decimal.render_ne_empty n), Decimal.parse_render]
  rfl

theorem getD_render_ne_empty (n : ℤ) : ((some (Decimal.render n)).getD "") ≠ "" :=
  Decimal.render_ne_empty n

/-- Texts of amounts are equal only when the amounts are. -/
theorem render_inj {m n : ℤ} : Decimal.render m = Decimal.render n ↔ m = n := by
  refine ⟨fun h => ?_, fun h => by rw [h]⟩
  have hparse := Decimal.parse_render m
  rw [h, Decimal.parse_render, Option.some.injEq] at hparse
  have hmoney := congrArg Decimal.quantize hparse
  rwa [Decimal.quantize_ofHundredths, Decimal.quantize_ofHundredths, eq_comm] at hmoney

theorem orElseText_idem (text fallback : Option String) :
    orElseText (orElseText text fallback) fallback = orElseText text fallback := by
  unfold orElseText
  split_ifs <;> rfl

/-! ### Plans -/

theorem tierPrices_snapshot (plan : Plan) (prices : TierPrices) :
    tierPrices (plan.snapshot prices) = .ok prices := by
  simp only [tierPrices, Plan.snapshot, decimal_text_render]
  simp [bind, Except.bind, pure, Except.pure]

/-- The snapshot of a snapshot is the snapshot. -/
theorem snapshot_snapshot (plan : Plan) (prices : TierPrices) :
    (plan.snapshot prices).snapshot prices = plan.snapshot prices := by
  simp only [Plan.snapshot, orElseText_idem, Plan.mk.injEq, true_and, and_true]
  split_ifs <;> rfl

variable {plan : Plan} {prices : TierPrices} {today : Day} {stop : StopInput} {priced : PricedStop}
  {fallback : VatRate} {discount : ℤ × List DiscountEntry} {base : ℤ} {x : ℤ × DiscountEntry}
  {tierId : Option String} {orderCount : ℕ}

theorem snapshotPlan_eq_ok (h : tierPrices plan = .ok prices) :
    snapshotPlan plan = .ok (plan.snapshot prices) := by
  rw [snapshotPlan, h]
  rfl

/-! ### Packages -/

/-- The total of one package, in pence. -/
def packageTotal (prices : TierPrices) (pkg : PackageInput) : ℤ :=
  prices.perPackage + money (pounds prices.perKg * pkg.declaredWeightKg.getD 0)

/-- The entries of a stop's packages and the sum of their totals. -/
def pricedPackages (packages : List PackageInput) (prices : TierPrices) :
    List PackageBreakdown × ℤ :=
  (packages.map (packageBreakdown prices.perPackage prices.perKg),
    (packages.map (packageTotal prices)).sum)

theorem sum_pounds (l : List ℤ) : (l.map pounds).sum = pounds l.sum := by
  induction l with
  | nil => exact Decimal.ofHundredths_zero.symm
  | cons n l ih =>
      rw [List.map_cons, List.sum_cons, List.sum_cons, ih]
      exact (Decimal.ofHundredths_add n l.sum).symm

/-- Pricing the packages of a stop never fails: it parses the texts it has just written. -/
theorem priceStopPackages_eq (packages : List PackageInput) (prices : TierPrices) :
    priceStopPackages packages prices.perPackage prices.perKg
      = .ok (pricedPackages packages prices) := by
  have htotals : mapEach (fun e => orRaise (Decimal.parse e.total) invalidOperation)
      (packages.map (packageBreakdown prices.perPackage prices.perKg))
        = .ok ((packages.map (packageTotal prices)).map pounds) := by
    rw [mapEach_eq_ok, List.forall₂_map_left_iff, List.map_map, List.forall₂_map_right_iff]
    refine List.forall₂_same.mpr fun pkg _ => ?_
    rw [orRaise_eq_ok]
    exact Decimal.parse_render (packageTotal prices pkg)
  rw [priceStopPackages, htotals]
  simp only [bind, Except.bind, pure, Except.pure, pricedPackages, sum_pounds, money_stored]

/-! ### A stop on either path -/

/-- The figures of a stop from its rates, its packages, what is taken off it, its minimum
charge and its VAT rate. -/
def figuresOf (prices : TierPrices) (packages : List PackageInput)
    (discount : ℤ × List DiscountEntry) (minCharge : ℤ) (vatRate : VatRate) (vatPct : ℚ) :
    StopFigures :=
  let priced := pricedPackages packages prices
  let after := prices.basePrice + priced.2 - discount.1
  let below : Bool := 0 < minCharge ∧ after < minCharge
  { prices := prices
    packageEntries := priced.1
    packagesSubtotal := priced.2
    totalDiscount := discount.1
    discountEntries := discount.2
    minCharge := minCharge
    minChargeApplied := below
    subtotal := if below then minCharge else after
    vatRate := vatRate
    vatPct := vatPct }

/-- The amount that the discounts of a stop are taken off. -/
def discountBase (prices : TierPrices) (packages : List PackageInput) : ℤ :=
  prices.basePrice + (pricedPackages packages prices).2

theorem applyMinCharge_eq (subtotal : ℤ) (minChargeRaw : Option ℚ) :
    applyMinCharge subtotal minChargeRaw =
      let minCharge := (minChargeRaw.map money).getD 0
      let below : Bool := 0 < minCharge ∧ subtotal < minCharge
      (if below then minCharge else subtotal, minCharge, below) := by
  simp only [applyMinCharge, decide_eq_true_eq]
  split_ifs with h
  · rw [decide_eq_true h]
  · rw [decide_eq_false h]

/-- A stop priced from live data. -/
theorem computeStop_eq_ok {upper : String → String} {ctx : PricingContext}
    (h : computeStop upper ctx today stop = .ok priced) :
    ∃ plan prices discount, resolvePlanForStop upper stop ctx.org = .ok plan ∧
      tierPrices plan = .ok prices ∧
      applyDiscounts (discountBase prices stop.packages) ctx.discounts
        (orElseText plan.idPriceTier none) ctx.orderCount today = .ok discount ∧
      priced = buildStop stop (plan.snapshot prices)
        (orElseText (planDisplayName plan) stop.serviceTierName)
        (figuresOf prices stop.packages discount
          ((ctx.org.minChargePerBooking.map money).getD 0) (ctx.vatRate.getD .standard20)
          (pounds (ctx.vatRate.getD .standard20).pct)) := by
  rw [computeStop] at h
  obtain ⟨plan, hplan, h⟩ := bind_eq_ok.mp h
  obtain ⟨planSnapshot, hsnapshot, h⟩ := bind_eq_ok.mp h
  obtain ⟨prices, hprices, h⟩ := bind_eq_ok.mp h
  rw [priceStopPackages_eq] at h
  obtain ⟨entries, hentries, h⟩ := bind_eq_ok.mp h
  obtain rfl := Except.ok.inj hentries
  obtain ⟨discount, hdiscount, h⟩ := bind_eq_ok.mp h
  rw [snapshotPlan_eq_ok hprices] at hsnapshot
  obtain rfl := Except.ok.inj hsnapshot
  refine ⟨plan, prices, discount, hplan, hprices, hdiscount, ?_⟩
  simp only [applyMinCharge_eq] at h
  exact (Except.ok.inj h).symm

/-- A stop priced from its snapshot. The flag of the minimum charge, once set, stays. -/
theorem recomputeStop_eq {minCharge vatPct : ℚ} (hplan : stop.resolvedPlan = some plan)
    (hprices : tierPrices plan = .ok prices)
    (hdiscount : reapplySnapshotDiscounts (discountBase prices stop.packages)
      stop.snapshot.discounts = .ok discount)
    (hmin : (Scalar.ofText stop.snapshot.minCharge).decimal = .ok minCharge)
    (hvat : snapshotVatPct stop.snapshot.vatRatePct
      (stop.snapshot.vatRate.getD fallback) = .ok vatPct) :
    let figures := figuresOf prices stop.packages discount (money minCharge)
      (stop.snapshot.vatRate.getD fallback) vatPct
    recomputeStop fallback stop = .ok (buildStop stop (plan.snapshot prices)
      (orElseText plan.plainName (orElseText plan.tierNameAtOrderTime stop.serviceTierName))
      { figures with
        minChargeApplied := stop.snapshot.minChargeApplied || figures.minChargeApplied }) := by
  unfold discountBase at hdiscount
  simp only [recomputeStop, hplan, orRaise, snapshotPlan_eq_ok hprices, hprices,
    priceStopPackages_eq, bind, Except.bind, hdiscount, hmin, hvat]
  rfl

/-- What the recomputation of a stop has read when it succeeds. -/
theorem recomputeStop_ok (h : recomputeStop fallback stop = .ok priced) :
    ∃ plan prices discount minCharge vatPct, stop.resolvedPlan = some plan ∧
      tierPrices plan = .ok prices ∧
      reapplySnapshotDiscounts (discountBase prices stop.packages) stop.snapshot.discounts
        = .ok discount ∧
      (Scalar.ofText stop.snapshot.minCharge).decimal = .ok minCharge ∧
      snapshotVatPct stop.snapshot.vatRatePct (stop.snapshot.vatRate.getD fallback)
        = .ok vatPct := by
  rw [recomputeStop] at h
  obtain ⟨plan, hplan, h⟩ := orRaise_bind_eq_ok.mp h
  obtain ⟨planSnapshot, -, h⟩ := bind_eq_ok.mp h
  obtain ⟨prices, hprices, h⟩ := bind_eq_ok.mp h
  rw [priceStopPackages_eq] at h
  obtain ⟨entries, hentries, h⟩ := bind_eq_ok.mp h
  obtain rfl := Except.ok.inj hentries
  obtain ⟨discount, hdiscount, h⟩ := bind_eq_ok.mp h
  obtain ⟨minCharge, hmin, h⟩ := bind_eq_ok.mp h
  obtain ⟨vatPct, hvat, -⟩ := bind_eq_ok.mp h
  exact ⟨plan, prices, discount, minCharge, vatPct, hplan, hprices,
    hdiscount, hmin, hvat⟩

/-! ### Discounts -/

/-- What is taken off is a nonnegative sum, capped at the base amount. -/
def Capped (base : ℤ) (discount : ℤ × List DiscountEntry) : Prop :=
  ∃ sum, 0 ≤ sum ∧ discount.1 = min base sum

/-- What a round takes off: a percentage of the base amount, or a fixed sum. -/
def TakenOff (base : ℤ) (x : ℤ × DiscountEntry) : Prop :=
  (∃ type tierId orderCount pct, percentageEntry type tierId orderCount base pct = some x) ∨
    ∃ tierId amount value, fixedEntry tierId amount value = some x

/-- A round takes something off or does nothing, and shows what it takes off. -/
theorem TakenOff.entry (h : TakenOff base x) : 0 < x.1 ∧ x.2.amount = Decimal.render x.1 := by
  rcases h with ⟨type, tierId, orderCount, pct, h⟩ | ⟨tierId, amount, value, h⟩
  · simp only [percentageEntry] at h
    split_ifs at h with hpos
    obtain rfl := Option.some.inj h
    exact ⟨not_le.mp (not_or.mp hpos).2, rfl⟩
  · simp only [fixedEntry] at h
    split_ifs at h with hpos
    obtain rfl := Option.some.inj h
    exact ⟨not_le.mp hpos, rfl⟩

theorem takenOff_applyDiscount {d : OrgDiscountConfig}
    (h : applyDiscount base tierId orderCount today d = .ok (some x)) : TakenOff base x := by
  unfold applyDiscount at h
  split at h
  · exact absurd (Except.ok.inj h) (Option.some_ne_none x).symm
  split at h
  · exact absurd (Except.ok.inj h) (Option.some_ne_none x).symm
  split at h
  · exact .inr ⟨_, _, _, Except.ok.inj h⟩
  · exact .inl ⟨_, _, _, _, Except.ok.inj h⟩
  · obtain ⟨pct, -, h⟩ := bind_eq_ok.mp h
    exact .inl ⟨_, _, _, _, Except.ok.inj h⟩

theorem takenOff_reapplyDiscount {entry : DiscountEntry}
    (h : reapplyDiscount base entry = .ok (some x)) : TakenOff base x := by
  obtain ⟨value, -, h⟩ := bind_eq_ok.mp h
  split at h
  · obtain ⟨amount, -, h⟩ := bind_eq_ok.mp h
    exact .inr ⟨_, _, _, Except.ok.inj h⟩
  · exact .inl ⟨_, _, _, _, Except.ok.inj h⟩
  · exact .inl ⟨_, _, _, _, Except.ok.inj h⟩

/-- Every discount of a stop is the outcome of a round that took something off. -/
theorem takenOff_applyDiscounts {discounts : List OrgDiscountConfig}
    (h : applyDiscounts base discounts tierId orderCount today = .ok discount) :
    ∃ rounds, discount = collectDiscounts base rounds ∧
      ∀ x, some x ∈ rounds → TakenOff base x := by
  obtain ⟨rounds, hrounds, h⟩ := bind_eq_ok.mp h
  refine ⟨rounds, (pure_eq_ok.mp h).symm, fun x hx => ?_⟩
  obtain ⟨d, -, hround⟩ := exists_of_mem_mapEach hrounds hx
  exact takenOff_applyDiscount hround

theorem takenOff_reapplySnapshotDiscounts {entries : List DiscountEntry}
    (h : reapplySnapshotDiscounts base entries = .ok discount) :
    ∃ rounds, discount = collectDiscounts base rounds ∧
      ∀ x, some x ∈ rounds → TakenOff base x := by
  obtain ⟨rounds, hrounds, h⟩ := bind_eq_ok.mp h
  refine ⟨rounds, (pure_eq_ok.mp h).symm, fun x hx => ?_⟩
  obtain ⟨entry, -, hround⟩ := exists_of_mem_mapEach hrounds hx
  exact takenOff_reapplyDiscount hround

/-- The amount of a stop's discounts is the sum of what was taken off, capped. -/
theorem collectDiscounts_fst (base : ℤ) (rounds : List (Option (ℤ × DiscountEntry))) :
    (collectDiscounts base rounds).1 = min base (rounds.reduceOption.map (·.1)).sum := by
  simp only [collectDiscounts]
  split_ifs with hcap
  · exact (min_eq_left hcap.le).symm
  · exact (min_eq_right (not_lt.mp hcap)).symm

theorem capped_collectDiscounts {rounds : List (Option (ℤ × DiscountEntry))}
    (h : ∀ x, some x ∈ rounds → TakenOff base x) : Capped base (collectDiscounts base rounds) := by
  refine ⟨_, List.sum_nonneg fun amount hamount => ?_, collectDiscounts_fst base rounds⟩
  obtain ⟨x, hx, rfl⟩ := List.mem_map.mp hamount
  exact (h x (List.reduceOption_mem_iff.mp hx)).entry.1.le

theorem capped_applyDiscounts {discounts : List OrgDiscountConfig}
    (h : applyDiscounts base discounts tierId orderCount today = .ok discount) :
    Capped base discount := by
  obtain ⟨rounds, rfl, hrounds⟩ := takenOff_applyDiscounts h
  exact capped_collectDiscounts hrounds

theorem capped_reapplySnapshotDiscounts {entries : List DiscountEntry}
    (h : reapplySnapshotDiscounts base entries = .ok discount) : Capped base discount := by
  obtain ⟨rounds, rfl, hrounds⟩ := takenOff_reapplySnapshotDiscounts h
  exact capped_collectDiscounts hrounds

/-- The discounts of the context have at most two decimal places, as the schemas ask. -/
structure PricingContext.TwoPlaces (ctx : PricingContext) : Prop where
  value : ∀ d ∈ ctx.discounts, SwCouriers.TwoPlaces (d.value.getD 0)
  volumeTiers : ∀ d ∈ ctx.discounts, ∀ t ∈ d.volumeTiers, ∀ pct,
    t.discountPct.decimal = .ok pct → SwCouriers.TwoPlaces pct

theorem twoPlaces_volumeTierPct {volumeTiers : List VolumeTier} {pct : ℚ}
    (htiers : ∀ t ∈ volumeTiers, ∀ q, t.discountPct.decimal = .ok q → TwoPlaces q)
    (h : volumeTierPct volumeTiers orderCount = .ok pct) : TwoPlaces pct := by
  unfold volumeTierPct at h
  split at h
  · rename_i tier hfound
    exact htiers tier (List.mem_of_find?_eq_some hfound) pct h
  · obtain rfl := Except.ok.inj h
    exact ⟨0, Decimal.ofHundredths_zero.symm⟩

/-- A percentage with two places is stored as it is, so it takes off the same again. -/
theorem reapplyDiscount_percentageEntry {type : DiscountType} {orderCount : Option ℕ} {pct : ℚ}
    (htype : type = .percentage ∧ orderCount = none ∨ type = .volumeTiered) (hpct : TwoPlaces pct)
    (h : percentageEntry type tierId orderCount base pct = some x) :
    reapplyDiscount base x.2 = .ok (some x) := by
  have hentry := h
  simp only [percentageEntry] at hentry
  split_ifs at hentry
  obtain rfl := Option.some.inj hentry
  simp only [reapplyDiscount, decimal_text_render, hpct.pounds_money]
  rcases htype with ⟨rfl, rfl⟩ | rfl
  · exact congrArg Except.ok h
  · exact congrArg Except.ok h

/-- A fixed discount is read back from its stored amount. -/
theorem reapplyDiscount_fixedEntry {amount : ℤ} {value : ℚ}
    (h : fixedEntry tierId amount value = some x) : reapplyDiscount base x.2 = .ok (some x) := by
  simp only [fixedEntry] at h
  split_ifs at h with hpos
  obtain rfl := Option.some.inj h
  simp only [reapplyDiscount, decimal_text_render, if_neg (Decimal.render_ne_empty amount)]
  simp [bind, Except.bind, pure, Except.pure, fixedEntry, hpos]

/-- **A stored discount takes off again what it took off.** -/
theorem reapplyDiscount_applied {d : OrgDiscountConfig} (hvalue : TwoPlaces (d.value.getD 0))
    (htiers : ∀ t ∈ d.volumeTiers, ∀ q, t.discountPct.decimal = .ok q → TwoPlaces q)
    (h : applyDiscount base tierId orderCount today d = .ok (some x)) :
    reapplyDiscount base x.2 = .ok (some x) := by
  unfold applyDiscount at h
  split at h
  · exact absurd (Except.ok.inj h) (Option.some_ne_none x).symm
  split at h
  · exact absurd (Except.ok.inj h) (Option.some_ne_none x).symm
  split at h
  · exact reapplyDiscount_fixedEntry (Except.ok.inj h)
  · exact reapplyDiscount_percentageEntry (.inl ⟨rfl, rfl⟩) hvalue (Except.ok.inj h)
  · obtain ⟨pct, hpct, h⟩ := bind_eq_ok.mp h
    exact reapplyDiscount_percentageEntry (.inr rfl) (twoPlaces_volumeTierPct htiers hpct)
      (Except.ok.inj h)

theorem reapplySnapshotDiscounts_collect {rounds : List (Option (ℤ × DiscountEntry))}
    (h : ∀ x, some x ∈ rounds → reapplyDiscount base x.2 = .ok (some x)) :
    reapplySnapshotDiscounts base (collectDiscounts base rounds).2
      = .ok (collectDiscounts base rounds) := by
  have hrounds : mapEach (reapplyDiscount base) (collectDiscounts base rounds).2
      = .ok (rounds.reduceOption.map some) := by
    rw [mapEach_eq_ok, collectDiscounts, List.forall₂_map_left_iff,
      List.forall₂_map_right_iff]
    exact List.forall₂_same.mpr fun x hx => h x (List.reduceOption_mem_iff.mp hx)
  rw [reapplySnapshotDiscounts, hrounds]
  simp [bind, Except.bind, pure, Except.pure, collectDiscounts, List.reduceOption]

/-- The cap and all three kinds of discount survive the snapshot. -/
theorem reapplySnapshotDiscounts_applied {ctx : PricingContext} (hplaces : ctx.TwoPlaces)
    (h : applyDiscounts base ctx.discounts tierId orderCount today = .ok discount) :
    reapplySnapshotDiscounts base discount.2 = .ok discount := by
  obtain ⟨rounds, hrounds, h⟩ := bind_eq_ok.mp h
  obtain rfl := pure_eq_ok.mp h
  refine reapplySnapshotDiscounts_collect fun x hx => ?_
  obtain ⟨d, hd, hround⟩ := exists_of_mem_mapEach hrounds hx
  exact reapplyDiscount_applied (hplaces.value d hd) (hplaces.volumeTiers d hd) hround

/-! ### Stored stops -/

/-- The input that recomputes a stop from its stored breakdown. -/
def StopInput.withStored (stop : StopInput) (stored : StopBreakdown) : StopInput :=
  { stop with resolvedPlan := some stored.pricingPlan, priceBreakdown := some stored }

/-- The inputs that recompute an order from the stored breakdowns of its stops. -/
def storedStops (stops : List StopInput) (stored : List StopBreakdown) : List StopInput :=
  List.zipWith StopInput.withStored stops stored

/-- Two breakdowns that differ at most in the name of the tier that they display. -/
def StopBreakdown.SamePrice (a b : StopBreakdown) : Prop :=
  { a with serviceTier := none } = { b with serviceTier := none }

/-- Recomputing a stop from a stored breakdown: its rates, its minimum charge and its VAT
rate come back from the texts, and the flag of the minimum charge stays once it is set. -/
theorem recomputeStop_stored {minCharge vatPct : ℤ} {vatRate : VatRate} {stored : StopBreakdown}
    (hplan : stored.pricingPlan = plan.snapshot prices)
    (hmin : stored.minCharge = Decimal.render minCharge) (hrate : stored.vatRate = vatRate)
    (hpct : stored.vatRatePct = Decimal.render vatPct)
    (hdiscount : reapplySnapshotDiscounts (discountBase prices stop.packages)
      stored.discounts = .ok discount) :
    let figures := figuresOf prices stop.packages discount minCharge vatRate (pounds vatPct)
    recomputeStop fallback (stop.withStored stored)
      = .ok (buildStop stop (plan.snapshot prices)
        (orElseText plan.plainName
          (orElseText (plan.snapshot prices).tierNameAtOrderTime stop.serviceTierName))
        { figures with
          minChargeApplied := stored.minChargeApplied || figures.minChargeApplied }) := by
  have hplan' : (stop.withStored stored).resolvedPlan = some (plan.snapshot prices) :=
    congrArg some hplan
  have hmin' : (Scalar.ofText (stop.withStored stored).snapshot.minCharge).decimal
      = .ok (pounds minCharge) := by
    rw [← decimal_text_render]
    exact congrArg (fun s => (Scalar.text s).decimal) hmin
  have hvat' : snapshotVatPct (stop.withStored stored).snapshot.vatRatePct
      ((stop.withStored stored).snapshot.vatRate.getD fallback) = .ok (pounds vatPct) := by
    have htext : (stop.withStored stored).snapshot.vatRatePct = some (Decimal.render vatPct) :=
      congrArg some hpct
    rw [htext, snapshotVatPct, if_neg (getD_render_ne_empty vatPct)]
    exact decimal_text_render vatPct
  have hdiscount' : reapplySnapshotDiscounts
      (discountBase prices (stop.withStored stored).packages)
      (stop.withStored stored).snapshot.discounts = .ok discount := hdiscount
  refine (recomputeStop_eq hplan' (tierPrices_snapshot plan prices) hdiscount' hmin'
    hvat').trans ?_
  have hrate' : (stop.withStored stored).snapshot.vatRate.getD fallback = vatRate := hrate
  rw [money_stored, snapshot_snapshot, hrate']
  rfl

/-- A stop that was built from figures recomputes to them. -/
theorem recomputeStop_withStored {minCharge : ℤ} {vatRate : VatRate} {display : Option String}
    {vatPct : ℤ} {stored : StopBreakdown}
    (hdiscount : reapplySnapshotDiscounts (discountBase prices stop.packages) discount.2
      = .ok discount) (hstored : stored.SamePrice (buildStop stop (plan.snapshot prices) display
      (figuresOf prices stop.packages discount minCharge vatRate (pounds vatPct))).breakdown) :
    recomputeStop fallback (stop.withStored stored)
      = .ok (buildStop stop (plan.snapshot prices)
        (orElseText plan.plainName
          (orElseText (plan.snapshot prices).tierNameAtOrderTime stop.serviceTierName))
        (figuresOf prices stop.packages discount minCharge vatRate (pounds vatPct))) := by
  simp only [StopBreakdown.SamePrice, StopBreakdown.mk.injEq] at hstored
  obtain ⟨-, -, -, -, -, hplan, -, -, -, -, -, hdiscounts, -, -, hmin, happlied, -, hrate,
    hpct, -, -⟩ := hstored
  have hpct' : stored.vatRatePct = Decimal.render vatPct :=
    hpct.trans (congrArg Decimal.render (money_stored vatPct))
  have happlied' : stored.minChargeApplied = (figuresOf prices stop.packages discount minCharge
      vatRate (pounds vatPct)).minChargeApplied := happlied
  have hdiscount' : reapplySnapshotDiscounts (discountBase prices stop.packages)
      stored.discounts = .ok discount := (congrArg _ hdiscounts).trans hdiscount
  rw [recomputeStop_stored hplan hmin hrate hpct' hdiscount', happlied']
  have hself : ∀ f : StopFigures, { f with
      minChargeApplied := f.minChargeApplied || f.minChargeApplied } = f := by
    intro f
    rw [Bool.or_self]
  exact congrArg (fun f => Except.ok (buildStop stop (plan.snapshot prices) _ f)) (hself _)

/-- The stop was built from its packages and rules that its snapshot gives back. -/
def Reproducible (stop : StopInput) (priced : PricedStop) : Prop :=
  ∃ (plan : Plan) (prices : TierPrices) (discount : ℤ × List DiscountEntry) (minCharge : ℤ)
    (vatRate : VatRate) (vatPct : ℤ) (display : Option String),
    reapplySnapshotDiscounts (discountBase prices stop.packages) discount.2 = .ok discount ∧
    priced = buildStop stop (plan.snapshot prices) display
      (figuresOf prices stop.packages discount minCharge vatRate (pounds vatPct))

/-- Two priced stops with the same amounts and the same breakdown up to the display. -/
structure PricedStop.SameAmounts (a b : PricedStop) : Prop where
  breakdown : a.breakdown.SamePrice b.breakdown
  subtotal : a.subtotal = b.subtotal
  vatAmount : a.vatAmount = b.vatAmount
  total : a.total = b.total

theorem reproducible_computeStop {upper : String → String} {ctx : PricingContext}
    (hplaces : ctx.TwoPlaces) (h : computeStop upper ctx today stop = .ok priced) :
    Reproducible stop priced := by
  obtain ⟨plan, prices, discount, -, -, hdiscount, rfl⟩ := computeStop_eq_ok h
  exact ⟨plan, prices, discount, _, _, _, _,
    reapplySnapshotDiscounts_applied hplaces hdiscount, rfl⟩

/-- A reproducible stop recomputes to the same amounts, from its own breakdown and from any
other with the same price. -/
theorem Reproducible.recompute (h : Reproducible stop priced) :
    ∃ again : PricedStop, again.SameAmounts priced ∧
      ∀ fallback stored, stored.SamePrice priced.breakdown →
        recomputeStop fallback (stop.withStored stored) = .ok again := by
  obtain ⟨plan, prices, discount, minCharge, vatRate, vatPct, display, hdiscount, rfl⟩ := h
  refine ⟨_, ?_, fun fallback stored hstored => recomputeStop_withStored hdiscount hstored⟩
  exact ⟨rfl, rfl, rfl, rfl⟩

/-- An order of reproducible stops recomputes stop by stop. -/
theorem recomputeStops {stops : List StopInput} {priced : List PricedStop}
    (h : List.Forall₂ Reproducible stops priced) :
    ∃ agains : List PricedStop, List.Forall₂ PricedStop.SameAmounts agains priced ∧
      ∀ fallback stored,
        List.Forall₂ StopBreakdown.SamePrice stored (priced.map (·.breakdown)) →
        mapEach (recomputeStop fallback) (storedStops stops stored) = .ok agains := by
  induction h with
  | nil =>
      refine ⟨[], .nil, fun fallback stored hstored => ?_⟩
      rw [List.map_nil, List.forall₂_nil_right_iff] at hstored
      rw [hstored]
      rfl
  | cons hstop _ ih =>
      obtain ⟨again, hsame, hagain⟩ := hstop.recompute
      obtain ⟨agains, hsames, hagains⟩ := ih
      refine ⟨again :: agains, .cons hsame hsames, fun fallback stored hstored => ?_⟩
      rw [List.map_cons, List.forall₂_cons_right_iff] at hstored
      obtain ⟨bd, rest, hbd, hrest, rfl⟩ := hstored
      rw [storedStops, List.zipWith_cons_cons, mapEach, hagain fallback bd hbd]
      have htail := hagains fallback rest hrest
      rw [storedStops] at htail
      rw [htail]
      rfl

/-! ### Stored orders -/

/-- Two results with the same amounts, in figures and in text, on the order and on each of
its stops. -/
structure PricingResult.SameAmounts (a b : PricingResult) : Prop where
  subtotal : a.subtotal = b.subtotal
  vatAmount : a.vatAmount = b.vatAmount
  totalAmount : a.totalAmount = b.totalAmount
  subtotalText : a.breakdown.subtotal = b.breakdown.subtotal
  vatAmountText : a.breakdown.vatAmount = b.breakdown.vatAmount
  totalText : a.breakdown.total = b.breakdown.total
  stops : List.Forall₂ StopBreakdown.SamePrice a.breakdown.stops b.breakdown.stops

theorem map_eq_of_sameAmounts {β : Type} {as bs : List PricedStop} (f : PricedStop → β)
    (hf : ∀ a b : PricedStop, a.SameAmounts b → f a = f b)
    (h : List.Forall₂ PricedStop.SameAmounts as bs) : as.map f = bs.map f := by
  rw [← List.forall₂_eq_eq_eq, List.forall₂_map_left_iff, List.forall₂_map_right_iff]
  exact h.imp hf

theorem sameAmounts_orderResult {orderUuid : Option Id} {orderId : Option String}
    {currency currency' : String} {as bs : List PricedStop}
    (h : List.Forall₂ PricedStop.SameAmounts as bs) :
    (orderResult orderUuid orderId currency as).SameAmounts
      (orderResult orderUuid orderId currency' bs) := by
  have hsubtotal := map_eq_of_sameAmounts (·.subtotal) (fun _ _ h => h.subtotal) h
  have hvat := map_eq_of_sameAmounts (·.vatAmount) (fun _ _ h => h.vatAmount) h
  have htotal := map_eq_of_sameAmounts (·.total) (fun _ _ h => h.total) h
  constructor
  case stops =>
    exact List.forall₂_map_left_iff.mpr (List.forall₂_map_right_iff.mpr
      (h.imp fun _ _ hsame => hsame.breakdown))
  all_goals simp only [orderResult, hsubtotal, hvat, htotal]

/-- The currency that a recomputation stores is the one it reads the next time. -/
theorem currency_stored (currency : Option String) :
    (orElseText (some ((orElseText currency none).getD "GBP")) none).getD "GBP"
      = (orElseText currency none).getD "GBP" := by
  cases currency with
  | none => decide +kernel
  | some c =>
      by_cases h : c = "" <;> simp [orElseText, h]

/-- **The two pricing paths agree.** Recomputing an order from the breakdowns that pricing
it has stored, on the same packages, gives the same amounts on every stop and on the order,
whatever the order's own snapshot says; recomputing the outcome gives it back. -/
theorem recompute_agrees {upper : String → String} {ctx : PricingContext} {today : Day}
    {stops : List StopInput} {orderUuid : Option Id} {orderId : Option String}
    {result : PricingResult} (hplaces : ctx.TwoPlaces)
    (h : computePriceBreakdown upper ctx today stops orderUuid orderId = .ok result)
    (orderSnapshot : OrderSnapshot) :
    ∃ again : PricingResult,
      recomputePriceBreakdownFromSnapshot orderSnapshot
        (storedStops stops result.breakdown.stops) orderUuid orderId = .ok again ∧
      again.SameAmounts result ∧
      recomputePriceBreakdownFromSnapshot again.breakdown.snapshot
        (storedStops stops again.breakdown.stops) orderUuid orderId = .ok again := by
  obtain ⟨priced, hpriced, hresult⟩ := bind_eq_ok.mp h
  obtain rfl := pure_eq_ok.mp hresult
  have hreproducible : List.Forall₂ Reproducible stops priced :=
    (mapEach_eq_ok.mp hpriced).imp fun _ _ hstop => reproducible_computeStop hplaces hstop
  obtain ⟨agains, hsames, hagains⟩ := recomputeStops hreproducible
  have hsame : (orderResult orderUuid orderId
      ((orElseText orderSnapshot.currency none).getD "GBP") agains).SameAmounts
        (orderResult orderUuid orderId "GBP" priced) := sameAmounts_orderResult hsames
  refine ⟨_, ?_, hsame, ?_⟩
  · rw [recomputePriceBreakdownFromSnapshot, hagains _ _ ?_]
    · rfl
    · exact List.forall₂_same.mpr fun _ _ => rfl
  · rw [recomputePriceBreakdownFromSnapshot, hagains _ _ ?_]
    · exact congrArg (fun currency => Except.ok (orderResult orderUuid orderId currency
        agains)) (currency_stored orderSnapshot.currency)
    · exact hsame.stops

/-- A percentage with two places, a volume tier and a fixed sum, under a minimum charge and
the reduced VAT rate. -/
def discountedContext : PricingContext :=
  { org :=
      { pricingPlans := []
        minChargePerBooking := some 12
        maxPackageWeight := none
        maxPackageLength := none
        maxPackageWidth := none
        maxPackageHeight := none }
    vatRate := some .reduced5
    discounts :=
      [{ discountType := .percentage, isEnabled := true, serviceTierId := some "next-day"
         value := some (1225 / 100), volumeTiers := [], validFrom := some 10
         validUntil := none },
       { discountType := .volumeTiered, isEnabled := true, serviceTierId := some "next-day"
         value := none, volumeTiers := [⟨1, some 9, .text "1.5"⟩, ⟨10, none, .num 3⟩]
         validFrom := none, validUntil := none },
       { discountType := .fixedPerBooking, isEnabled := true
         serviceTierId := some "next-day", value := some (1 / 2), volumeTiers := []
         validFrom := none, validUntil := none }]
    orderCount := 7 }

/-- A plan without presentation. -/
def plainPlan (tierId name : String) (basePrice pricePerPackage pricePerKg : ℚ) : Plan :=
  { idPriceTier := some tierId
    plainName := some name
    tierNameAtOrderTime := none
    basePrice := .num basePrice
    pricePerPackage := .num pricePerPackage
    pricePerKg := .num pricePerKg
    days := some 1
    durationDays := none
    presentation := ⟨none, none, none, none, none, none, none, none, none, none, none, none,
      none⟩ }

/-- One stop with two packages. -/
def twoPackageStop : StopInput :=
  { index := 0
    serviceTierName := some "Next Day"
    serviceTierId := none
    packages :=
      [⟨0, some (5 / 2), none, none, none, some 1, some "PKG-1"⟩,
       ⟨1, none, none, none, none, some 2, some "PKG-2"⟩]
    stopUuid := some 3
    trackingId := none
    priceBreakdown := none
    resolvedPlan := some (plainPlan "next-day" "Next Day" 10 (3 / 2) (333 / 1000)) }

theorem discountedContext_twoPlaces : discountedContext.TwoPlaces := by
  constructor
  · intro d hd
    simp only [discountedContext, List.mem_cons, List.not_mem_nil, or_false] at hd
    rcases hd with rfl | rfl | rfl
    · exact ⟨1225, by decide +kernel⟩
    · exact ⟨0, by decide +kernel⟩
    · exact ⟨50, by decide +kernel⟩
  · intro d hd t ht pct hpct
    simp only [discountedContext, List.mem_cons, List.not_mem_nil, or_false] at hd
    rcases hd with rfl | rfl | rfl
    · exact absurd ht List.not_mem_nil
    · simp only [List.mem_cons, List.not_mem_nil, or_false] at ht
      rcases ht with rfl | rfl
      · have h : (Scalar.text "1.5").decimal = .ok (3 / 2) := by decide +kernel
        obtain rfl := Except.ok.inj (h.symm.trans hpct)
        exact ⟨150, by decide +kernel⟩
      · obtain rfl := Except.ok.inj hpct
        exact ⟨300, by decide +kernel⟩
    · exact absurd ht List.not_mem_nil

/-- Thirteen pounds and eighty-three pence less all three discounts is below the minimum
charge of twelve; recomputed, it still is. -/
theorem recompute_agrees_discounted :
    ∃ result again : PricingResult,
      computePriceBreakdown id discountedContext 20 [twoPackageStop] none none = .ok result ∧
      result.totalAmount = 1260 ∧
      recomputePriceBreakdownFromSnapshot result.breakdown.snapshot
        (storedStops [twoPackageStop] result.breakdown.stops) none none = .ok again ∧
      again.SameAmounts result := by
  have hok : (computePriceBreakdown id discountedContext 20 [twoPackageStop] none
      none).map (·.totalAmount) = .ok 1260 := by decide +kernel
  obtain ⟨result, hresult, htotal⟩ := map_eq_ok.mp hok
  obtain ⟨again, hagain, hsame, -⟩ := recompute_agrees discountedContext_twoPlaces hresult
    result.breakdown.snapshot
  exact ⟨result, again, hresult, htotal, hagain, hsame⟩

end SwCouriers
