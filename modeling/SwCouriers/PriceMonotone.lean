import SwCouriers.PriceArithmetic

/-!
# Prices Grow with What Is Shipped

A heavier package or one more package raises the amount that the discounts are taken off. A
fixed discount does not follow, and a percentage of at most one hundred follows no faster
than the amount itself, in whole pence too: its rounding commutes with the whole pence that
the amount grows by. So with at most one percentage the discounts together grow no faster
than their base, and what remains after them does not fall. With two percentages it may: two
of one hundred per cent each grow twice as fast as the base.

The cap, the minimum charge and the VAT keep the order.

## Main results

* `percentageOff_growth`: a rounded percentage grows no faster than its base.
* `growth_applyDiscounts`: neither do the discounts of a stop with at most one percentage.
* `price_monotone`: shipping more lowers no figure of the stop and not the order's total.
-/

namespace SwCouriers

open Checked

/-! ### What is shipped -/

/-- The second list ships more than the first: one package is heavier, or one is added. -/
inductive ShipsMore : List PackageInput → List PackageInput → Prop where
  | heavier (front back : List PackageInput) {pkg pkg' : PackageInput} :
      pkg.declaredWeightKg.getD 0 ≤ pkg'.declaredWeightKg.getD 0 →
      ShipsMore (front ++ pkg :: back) (front ++ pkg' :: back)
  | added (front back : List PackageInput) {pkg : PackageInput} :
      0 ≤ pkg.declaredWeightKg.getD 0 → ShipsMore (front ++ back) (front ++ pkg :: back)

theorem weightCharge_mono {perKg : ℤ} (hperKg : 0 ≤ perKg) {weight weight' : ℚ}
    (h : weight ≤ weight') : money (pounds perKg * weight) ≤ money (pounds perKg * weight') := by
  have hrate : 0 ≤ pounds perKg := by
    have hcast : (0 : ℚ) ≤ perKg := by exact_mod_cast hperKg
    rw [pounds, Decimal.ofHundredths]
    positivity
  exact Decimal.quantize_mono (mul_le_mul_of_nonneg_left h hrate)

/-- Shipping more raises the amount that the discounts are taken off. -/
theorem discountBase_mono {prices : TierPrices} (hpackage : 0 ≤ prices.perPackage)
    (hperKg : 0 ≤ prices.perKg) {packages packages' : List PackageInput}
    (h : ShipsMore packages packages') :
    discountBase prices packages ≤ discountBase prices packages' := by
  cases h with
  | heavier front back hweight =>
      have hcharge := weightCharge_mono hperKg hweight
      simp only [discountBase, pricedPackages, List.map_append, List.map_cons,
        List.sum_append, List.sum_cons, packageTotal]
      omega
  | added front back hweight =>
      have hcharge := weightCharge_mono hperKg hweight
      rw [mul_zero, money, Decimal.quantize_zero] at hcharge
      simp only [discountBase, pricedPackages, List.map_append, List.map_cons,
        List.sum_append, List.sum_cons, packageTotal]
      omega

/-! ### One discount -/

/-- What a round takes off. -/
def roundAmount (r : Option (ℤ × DiscountEntry)) : ℤ := (r.map (·.1)).getD 0

/-- A percentage of the base amount in whole pence, when it is positive. -/
def percentageOff (base : ℤ) (pct : ℚ) : ℤ :=
  if pct ≤ 0 then 0 else max 0 (money (pounds base * pct / 100))

theorem roundAmount_percentageEntry (type : DiscountType) (tierId : Option String)
    (orderCount : Option ℕ) (base : ℤ) (pct : ℚ) :
    roundAmount (percentageEntry type tierId orderCount base pct) = percentageOff base pct := by
  simp only [percentageEntry, percentageOff]
  by_cases hpct : pct ≤ 0
  · rw [if_pos (.inl hpct), if_pos hpct]
    rfl
  · rw [if_neg hpct]
    by_cases hamount : money (pounds base * pct / 100) ≤ 0
    · rw [if_pos (.inr hamount), max_eq_left hamount]
      rfl
    · rw [if_neg (not_or.mpr ⟨hpct, hamount⟩), max_eq_right (not_le.mp hamount).le]
      rfl

variable {base base' : ℤ} {stopTierId : Option String} {orderCount : ℕ} {today : Day}

/-- **A rounded percentage grows no faster than its base.** -/
theorem percentageOff_growth (h : base ≤ base') {pct : ℚ} (hpct : pct ≤ 100) :
    percentageOff base' pct ≤ percentageOff base pct + (base' - base) := by
  unfold percentageOff
  by_cases hpos : pct ≤ 0
  · rw [if_pos hpos, if_pos hpos]
    omega
  rw [if_neg hpos, if_neg hpos, money_percentage, money_percentage]
  rw [not_le] at hpos
  have hcast : (base : ℚ) ≤ base' := by exact_mod_cast h
  by_cases hbase : 0 ≤ base
  · have hbase' : (0 : ℚ) ≤ base := by exact_mod_cast hbase
    have hnonneg : (0 : ℚ) ≤ base * pct / 100 := by positivity
    -- In pence the percentage of the larger amount exceeds that of the smaller one by no more
    -- than the whole pence between them.
    have hstep : (base' : ℚ) * pct / 100 ≤ base * pct / 100 + (base' - base : ℤ) := by
      have hgrow := mul_le_mul_of_nonneg_left hpct (sub_nonneg.mpr hcast)
      push_cast
      linarith
    have hround := Decimal.roundHalfUp_mono hstep
    rw [Decimal.roundHalfUp_add_intCast hnonneg (sub_nonneg.mpr h)] at hround
    have hzero := Decimal.roundHalfUp_nonneg hnonneg
    omega
  · -- From a negative amount nothing is taken, and from the larger one at most all of it.
    have hmost : Decimal.roundHalfUp (base' * pct / 100) ≤ max 0 base' := by
      rw [← Decimal.roundHalfUp_intCast (max 0 base')]
      refine Decimal.roundHalfUp_mono ?_
      push_cast
      rcases le_total 0 (base' : ℚ) with hb | hb
      · have hgrow := mul_le_mul_of_nonneg_left hpct hb
        exact (by linarith : (base' : ℚ) * pct / 100 ≤ base').trans (le_max_right _ _)
      · have hsign := mul_nonpos_of_nonpos_of_nonneg hb hpos.le
        exact (by linarith : (base' : ℚ) * pct / 100 ≤ 0).trans (le_max_left _ _)
    omega

/-- The percentage of a discount, for an organisation with that many orders. -/
def OrgDiscountConfig.percentage (d : OrgDiscountConfig) (orderCount : ℕ) :
    Except ServiceError ℚ :=
  match d.discountType with
  | .fixedPerBooking => .ok 0
  | .percentage => .ok (d.value.getD 0)
  | .volumeTiered => volumeTierPct d.volumeTiers orderCount

/-- The discount is in force and is one for the stop's tier. -/
def OrgDiscountConfig.AppliesTo (d : OrgDiscountConfig) (today : Day)
    (stopTierId : Option String) : Prop :=
  discountActive d today = true ∧
    (stopTierId = none ∨ some (d.serviceTierId.getD "") = stopTierId)

/-- The discount applies to the stop's tier and takes a percentage off. -/
def OrgDiscountConfig.TakesPercentage (d : OrgDiscountConfig) (today : Day)
    (stopTierId : Option String) (orderCount : ℕ) (pct : ℚ) : Prop :=
  d.AppliesTo today stopTierId ∧ d.percentage orderCount = .ok pct ∧ 0 < pct

/-- A discount that is not for the stop's tier takes nothing off. -/
theorem applyDiscount_of_not_appliesTo {d : OrgDiscountConfig}
    (h : ¬ d.AppliesTo today stopTierId) :
    applyDiscount base stopTierId orderCount today d = .ok none := by
  unfold applyDiscount
  by_cases hactive : discountActive d today = true
  · have htier : stopTierId ≠ none ∧ some (d.serviceTierId.getD "") ≠ stopTierId :=
      not_or.mp fun hor => h ⟨hactive, hor⟩
    rw [if_neg (not_not.mpr hactive), if_pos htier]
  · rw [if_pos hactive]

/-- What one that is takes off: a fixed sum, or a percentage. -/
theorem applyDiscount_of_appliesTo {d : OrgDiscountConfig} (h : d.AppliesTo today stopTierId) :
    (∃ r, ∀ base, applyDiscount base stopTierId orderCount today d = .ok r) ∨
    ∃ type count, ∀ base, applyDiscount base stopTierId orderCount today d =
      (d.percentage orderCount).map (percentageEntry type d.serviceTierId count base) := by
  obtain ⟨hactive, htier⟩ := h
  have hsame : ¬ (stopTierId ≠ none ∧ some (d.serviceTierId.getD "") ≠ stopTierId) :=
    fun hne => htier.elim hne.1 hne.2
  simp only [applyDiscount, if_neg (not_not.mpr hactive), if_neg hsame,
    OrgDiscountConfig.percentage]
  cases d.discountType with
  | fixedPerBooking => exact .inl ⟨_, fun _ => rfl⟩
  | percentage => exact .inr ⟨.percentage, none, fun _ => rfl⟩
  | volumeTiered =>
      refine .inr ⟨.volumeTiered, some orderCount, fun base => ?_⟩
      cases volumeTierPct d.volumeTiers orderCount <;> rfl

/-- What a round takes off is either the same for every base amount or a percentage of it. -/
theorem applyDiscount_cases {d : OrgDiscountConfig} {r : Option (ℤ × DiscountEntry)}
    (h : applyDiscount base stopTierId orderCount today d = .ok r) (base' : ℤ) :
    ∃ r', applyDiscount base' stopTierId orderCount today d = .ok r' ∧
      (roundAmount r' = roundAmount r ∨
        ∃ pct, d.TakesPercentage today stopTierId orderCount pct ∧
          roundAmount r = percentageOff base pct ∧ roundAmount r' = percentageOff base' pct) := by
  by_cases happlies : d.AppliesTo today stopTierId
  swap
  · rw [applyDiscount_of_not_appliesTo happlies] at h
    exact ⟨none, applyDiscount_of_not_appliesTo happlies,
      .inl (congrArg roundAmount (Except.ok.inj h))⟩
  rcases applyDiscount_of_appliesTo happlies with ⟨fixed, hfixed⟩ | ⟨type, count, hpercentage⟩
  · rw [hfixed] at h
    exact ⟨fixed, hfixed base', .inl (congrArg roundAmount (Except.ok.inj h))⟩
  · rw [hpercentage] at h
    obtain ⟨pct, hpct, rfl⟩ := map_eq_ok.mp h
    refine ⟨_, by rw [hpercentage, hpct]; rfl, ?_⟩
    rw [roundAmount_percentageEntry, roundAmount_percentageEntry]
    by_cases hpos : pct ≤ 0
    · rw [percentageOff, percentageOff, if_pos hpos, if_pos hpos]
      exact .inl rfl
    · exact .inr ⟨pct, ⟨happlies, hpct, not_le.mp hpos⟩, rfl, rfl⟩

/-! ### The discounts of a stop -/

/-- At most one percentage is taken off a stop of the tier, and it is at most one hundred. -/
structure PricingContext.OnePercentage (ctx : PricingContext) (today : Day)
    (stopTierId : Option String) : Prop where
  atMostOne : ctx.discounts.Pairwise fun d e => ∀ p q,
    d.TakesPercentage today stopTierId ctx.orderCount p →
      ¬ e.TakesPercentage today stopTierId ctx.orderCount q
  le_hundred : ∀ d ∈ ctx.discounts, ∀ pct,
    d.TakesPercentage today stopTierId ctx.orderCount pct → pct ≤ 100

/-- Without percentages the rounds take off the same from every base amount. -/
theorem growth_of_no_percentage {discounts : List OrgDiscountConfig}
    {rounds : List (Option (ℤ × DiscountEntry))}
    (hnone : ∀ d ∈ discounts, ∀ pct, ¬ d.TakesPercentage today stopTierId orderCount pct)
    (h : List.Forall₂ (fun d r => applyDiscount base stopTierId orderCount today d = .ok r)
      discounts rounds) :
    ∃ rounds', List.Forall₂
        (fun d r => applyDiscount base' stopTierId orderCount today d = .ok r) discounts rounds' ∧
      (rounds'.map roundAmount).sum = (rounds.map roundAmount).sum := by
  induction h with
  | nil => exact ⟨[], .nil, rfl⟩
  | @cons d r discounts rounds hd _ ih =>
      obtain ⟨rounds', hrounds', hsum⟩ := ih fun e he => hnone e (List.mem_cons_of_mem _ he)
      obtain ⟨r', hr', hsame⟩ := applyDiscount_cases hd base'
      refine ⟨r' :: rounds', .cons hr' hrounds', ?_⟩
      rcases hsame with hsame | ⟨pct, htakes, -⟩
      · rw [List.map_cons, List.map_cons, List.sum_cons, List.sum_cons, hsame, hsum]
      · exact absurd htakes (hnone d List.mem_cons_self pct)

/-- With one they take off no more than the base amount grows by. -/
theorem growth_of_one_percentage (hbase : base ≤ base') {discounts : List OrgDiscountConfig}
    {rounds : List (Option (ℤ × DiscountEntry))} (hone : discounts.Pairwise fun d e => ∀ p q,
      d.TakesPercentage today stopTierId orderCount p →
        ¬ e.TakesPercentage today stopTierId orderCount q)
    (hle : ∀ d ∈ discounts, ∀ pct, d.TakesPercentage today stopTierId orderCount pct → pct ≤ 100)
    (h : List.Forall₂ (fun d r => applyDiscount base stopTierId orderCount today d = .ok r)
      discounts rounds) :
    ∃ rounds', List.Forall₂
        (fun d r => applyDiscount base' stopTierId orderCount today d = .ok r) discounts rounds' ∧
      (rounds'.map roundAmount).sum ≤ (rounds.map roundAmount).sum + (base' - base) := by
  induction h with
  | nil => exact ⟨[], .nil, by simpa using hbase⟩
  | @cons d r discounts rounds hd hrest ih =>
      obtain ⟨hfirst, hone⟩ := List.pairwise_cons.mp hone
      obtain ⟨r', hr', hsame⟩ := applyDiscount_cases hd base'
      rcases hsame with hsame | ⟨pct, htakes, hoff, hoff'⟩
      · obtain ⟨rounds', hrounds', hsum⟩ :=
          ih hone fun e he => hle e (List.mem_cons_of_mem _ he)
        refine ⟨r' :: rounds', .cons hr' hrounds', ?_⟩
        simp only [List.map_cons, List.sum_cons]
        omega
      · -- This is the one percentage: the other rounds do not depend on the base amount.
        obtain ⟨rounds', hrounds', hsum⟩ := growth_of_no_percentage
          (fun e he q hq => hfirst e he pct q htakes hq) hrest
        have hgrowth := percentageOff_growth hbase (hle d List.mem_cons_self pct htakes)
        refine ⟨r' :: rounds', .cons hr' hrounds', ?_⟩
        simp only [List.map_cons, List.sum_cons]
        omega

theorem sum_roundAmount (rounds : List (Option (ℤ × DiscountEntry))) :
    (rounds.map roundAmount).sum = (rounds.reduceOption.map (·.1)).sum := by
  induction rounds with
  | nil => rfl
  | cons r rounds ih =>
      cases r with
      | none =>
          rw [List.map_cons, List.sum_cons, ih, List.reduceOption_cons_of_none]
          exact zero_add _
      | some x =>
          rw [List.map_cons, List.sum_cons, ih, List.reduceOption_cons_of_some, List.map_cons,
            List.sum_cons]
          rfl

/-- **What remains after the discounts does not fall** when their base amount grows. -/
theorem growth_applyDiscounts {ctx : PricingContext} (hone : ctx.OnePercentage today stopTierId)
    (hbase : base ≤ base') {discount : ℤ × List DiscountEntry}
    (h : applyDiscounts base ctx.discounts stopTierId ctx.orderCount today = .ok discount) :
    ∃ discount', applyDiscounts base' ctx.discounts stopTierId ctx.orderCount today
        = .ok discount' ∧ base - discount.1 ≤ base' - discount'.1 := by
  obtain ⟨rounds, hrounds, h⟩ := bind_eq_ok.mp h
  obtain rfl := pure_eq_ok.mp h
  obtain ⟨rounds', hrounds', hsum⟩ := growth_of_one_percentage hbase hone.atMostOne
    hone.le_hundred (mapEach_eq_ok.mp hrounds)
  refine ⟨collectDiscounts base' rounds', ?_, ?_⟩
  · rw [applyDiscounts, mapEach_eq_ok.mpr hrounds']
    rfl
  · rw [collectDiscounts_fst, collectDiscounts_fst, ← sum_roundAmount, ← sum_roundAmount]
    omega

/-! ### The stop and the order -/

/-- Both texts stand for amounts, the second for one that is not lower. -/
def TextLe (text text' : String) : Prop :=
  ∃ amount amount', Stands text amount ∧ Stands text' amount' ∧ amount ≤ amount'

theorem textLe_render {m n : ℤ} (h : m ≤ n) : TextLe (Decimal.render m) (Decimal.render n) :=
  ⟨m, n, stands_render m, stands_render n, h⟩

/-- No figure that is charged is lower in the second breakdown. -/
structure StopBreakdown.ChargesAtMost (bd bd' : StopBreakdown) : Prop where
  subtotal : TextLe bd.subtotal bd'.subtotal
  vatAmount : TextLe bd.vatAmount bd'.vatAmount
  total : TextLe bd.total bd'.total

theorem VatRate.pct_nonneg (rate : VatRate) : 0 ≤ pounds rate.pct := by
  rw [pounds, Decimal.ofHundredths]
  cases rate <;> norm_num [VatRate.pct]

theorem computeStop_of {upper : String → String} {ctx : PricingContext} {stop : StopInput}
    {plan : Plan} {prices : TierPrices} {discount : ℤ × List DiscountEntry}
    (hplan : resolvePlanForStop upper stop ctx.org = .ok plan)
    (hprices : tierPrices plan = .ok prices)
    (hdiscount : applyDiscounts (discountBase prices stop.packages) ctx.discounts
      (orElseText plan.idPriceTier none) ctx.orderCount today = .ok discount) :
    computeStop upper ctx today stop = .ok (buildStop stop (plan.snapshot prices)
      (orElseText (planDisplayName plan) stop.serviceTierName)
      (figuresOf prices stop.packages discount
        ((ctx.org.minChargePerBooking.map money).getD 0) (ctx.vatRate.getD .standard20)
        (pounds (ctx.vatRate.getD .standard20).pct))) := by
  unfold discountBase at hdiscount
  simp only [computeStop, hplan, hprices, snapshotPlan_eq_ok hprices, priceStopPackages_eq,
    bind, Except.bind, hdiscount, applyMinCharge_eq]
  rfl

/-- The minimum charge and the VAT keep the order of two subtotals. -/
theorem chargesAtMost_buildStop {stop stop' : StopInput} {planSnapshot : Plan}
    {display : Option String} {prices : TierPrices} {packages packages' : List PackageInput}
    {discount discount' : ℤ × List DiscountEntry} {minCharge : ℤ} {vatRate : VatRate}
    {vatPct : ℚ} (hvat : 0 ≤ vatPct)
    (h : discountBase prices packages - discount.1
      ≤ discountBase prices packages' - discount'.1) :
    let priced := buildStop stop planSnapshot display
      (figuresOf prices packages discount minCharge vatRate vatPct)
    let priced' := buildStop stop' planSnapshot display
      (figuresOf prices packages' discount' minCharge vatRate vatPct)
    priced.breakdown.ChargesAtMost priced'.breakdown ∧ priced.total ≤ priced'.total := by
  have hsubtotal : (figuresOf prices packages discount minCharge vatRate vatPct).subtotal
      ≤ (figuresOf prices packages' discount' minCharge vatRate vatPct).subtotal := by
    simp only [figuresOf, decide_eq_true_eq]
    unfold discountBase at h
    split_ifs <;> omega
  have hvatAmount : money (pounds (figuresOf prices packages discount minCharge vatRate
        vatPct).subtotal * vatPct / 100)
      ≤ money (pounds (figuresOf prices packages' discount' minCharge vatRate
        vatPct).subtotal * vatPct / 100) := by
    rw [money_percentage, money_percentage]
    refine Decimal.roundHalfUp_mono ?_
    have hcast : ((figuresOf prices packages discount minCharge vatRate vatPct).subtotal : ℚ)
        ≤ (figuresOf prices packages' discount' minCharge vatRate vatPct).subtotal := by
      exact_mod_cast hsubtotal
    have hscaled := mul_le_mul_of_nonneg_right hcast hvat
    linarith
  exact ⟨⟨textLe_render hsubtotal, textLe_render hvatAmount,
    textLe_render (add_le_add hsubtotal hvatAmount)⟩, add_le_add hsubtotal hvatAmount⟩

/-- Shipping more lowers no figure of the stop. -/
theorem computeStop_monotone {upper : String → String} {ctx : PricingContext} {stop : StopInput}
    {packages' : List PackageInput} {plan : Plan}
    (hplan : resolvePlanForStop upper stop ctx.org = .ok plan)
    (hrates : ∀ prices, tierPrices plan = .ok prices → 0 ≤ prices.perPackage ∧ 0 ≤ prices.perKg)
    (hone : ctx.OnePercentage today (orElseText plan.idPriceTier none))
    (hmore : ShipsMore stop.packages packages') {priced : PricedStop}
    (h : computeStop upper ctx today stop = .ok priced) :
    ∃ priced', computeStop upper ctx today { stop with packages := packages' } = .ok priced' ∧
      priced.breakdown.ChargesAtMost priced'.breakdown ∧ priced.total ≤ priced'.total := by
  obtain ⟨plan', prices, discount, hplan', hprices, hdiscount, rfl⟩ := computeStop_eq_ok h
  obtain rfl := Except.ok.inj (hplan.symm.trans hplan')
  obtain ⟨hpackage, hperKg⟩ := hrates prices hprices
  obtain ⟨discount', hdiscount', hafter⟩ := growth_applyDiscounts hone
    (discountBase_mono hpackage hperKg hmore) hdiscount
  have hplan₂ : resolvePlanForStop upper { stop with packages := packages' } ctx.org
      = .ok plan := hplan
  exact ⟨_, computeStop_of hplan₂ hprices hdiscount',
    chargesAtMost_buildStop (VatRate.pct_nonneg _) hafter⟩

/-- **Prices grow with what is shipped.** Where at most one percentage is taken off a stop, a
heavier package or one more lowers neither the subtotal, the VAT and the total of the stop
nor the total of the order. -/
theorem price_monotone {upper : String → String} {ctx : PricingContext} {today : Day}
    {before after : List StopInput} {stop : StopInput} {packages' : List PackageInput}
    {orderUuid : Option Id} {orderId : Option String} {plan : Plan} {result : PricingResult}
    (hplan : resolvePlanForStop upper stop ctx.org = .ok plan)
    (hrates : ∀ prices, tierPrices plan = .ok prices → 0 ≤ prices.perPackage ∧ 0 ≤ prices.perKg)
    (hone : ctx.OnePercentage today (orElseText plan.idPriceTier none))
    (hmore : ShipsMore stop.packages packages')
    (h : computePriceBreakdown upper ctx today (before ++ stop :: after) orderUuid orderId
      = .ok result) :
    ∃ result' bd bd', computePriceBreakdown upper ctx today
        (before ++ { stop with packages := packages' } :: after) orderUuid orderId
        = .ok result' ∧
      result.breakdown.stops[before.length]? = some bd ∧
      result'.breakdown.stops[before.length]? = some bd' ∧
      bd.ChargesAtMost bd' ∧ result.totalAmount ≤ result'.totalAmount ∧
      TextLe result.breakdown.total result'.breakdown.total := by
  obtain ⟨priced, hpriced, hresult⟩ := bind_eq_ok.mp h
  obtain rfl := pure_eq_ok.mp hresult
  obtain ⟨front, p, back, hfront, hstop, hback, rfl⟩ := mapEach_append_cons_eq_ok.mp hpriced
  obtain ⟨p', hstop', hcharges, htotal⟩ := computeStop_monotone hplan hrates hone hmore hstop
  have hlength : before.length = front.length := (mapEach_eq_ok.mp hfront).length_eq
  have hsum : (orderResult orderUuid orderId "GBP" (front ++ p :: back)).totalAmount
      ≤ (orderResult orderUuid orderId "GBP" (front ++ p' :: back)).totalAmount := by
    simp only [orderResult, List.map_append, List.map_cons, List.sum_append, List.sum_cons]
    omega
  refine ⟨orderResult orderUuid orderId "GBP" (front ++ p' :: back), p.breakdown, p'.breakdown,
    ?_, ?_, ?_, hcharges, hsum, textLe_render hsum⟩
  · rw [computePriceBreakdown,
      mapEach_append_cons_eq_ok.mpr ⟨front, p', back, hfront, hstop', hback, rfl⟩]
    rfl
  · simp [orderResult, hlength]
  · simp [orderResult, hlength]

/-- A quarter off, and fifty pence. -/
def quarterOff : PricingContext :=
  { discountedContext with
    discounts :=
      [{ discountType := .percentage, isEnabled := true, serviceTierId := some "next-day"
         value := some 25, volumeTiers := [], validFrom := some 10, validUntil := none },
       { discountType := .fixedPerBooking, isEnabled := true
         serviceTierId := some "next-day", value := some (1 / 2), volumeTiers := []
         validFrom := none, validUntil := none }] }

theorem quarterOff_onePercentage (today : Day) (stopTierId : Option String) :
    quarterOff.OnePercentage today stopTierId := by
  have hfixed : ∀ d ∈ quarterOff.discounts, d.discountType = .fixedPerBooking → ∀ pct,
      ¬ d.TakesPercentage today stopTierId quarterOff.orderCount pct := by
    rintro d - hd pct ⟨-, hpct, hpos⟩
    rw [OrgDiscountConfig.percentage, hd] at hpct
    exact absurd (Except.ok.inj hpct) hpos.ne
  constructor
  · refine .cons (fun e he p q _ => ?_) (List.pairwise_singleton _ _)
    rw [List.mem_singleton.mp he]
    exact hfixed _ (by simp [quarterOff]) rfl q
  · intro d hd pct htakes
    rcases List.mem_cons.mp hd with rfl | hd
    · obtain ⟨-, hpct, -⟩ := htakes
      rw [← Except.ok.inj hpct]
      norm_num
    · rw [List.mem_singleton.mp hd] at htakes
      exact absurd htakes (hfixed _ (by simp [quarterOff]) rfl pct)

/-- A third package of a kilogram costs at least nothing. -/
theorem price_monotone_thirdPackage :
    ∃ result', computePriceBreakdown id quarterOff 20
        [{ twoPackageStop with
          packages := twoPackageStop.packages ++ [⟨2, some 1, none, none, none, none, none⟩] }]
        none none = .ok result' ∧ 1260 ≤ result'.totalAmount := by
  have hok : (computePriceBreakdown id quarterOff 20 ([] ++ [twoPackageStop]) none none).map
      (·.totalAmount) = .ok 1260 := by decide +kernel
  obtain ⟨result, hresult, htotal⟩ := map_eq_ok.mp hok
  have hrates : ∀ prices, tierPrices (plainPlan "next-day" "Next Day" 10 (3 / 2) (333 / 1000))
      = .ok prices → 0 ≤ prices.perPackage ∧ 0 ≤ prices.perKg := by
    have hprices : tierPrices (plainPlan "next-day" "Next Day" 10 (3 / 2) (333 / 1000))
        = .ok ⟨1000, 150, 33⟩ := by decide +kernel
    intro prices h
    obtain rfl := Except.ok.inj (hprices.symm.trans h)
    decide
  have hmore : ShipsMore twoPackageStop.packages
      (twoPackageStop.packages ++ [⟨2, some 1, none, none, none, none, none⟩]) := by
    simpa using ShipsMore.added twoPackageStop.packages [] (by norm_num)
  obtain ⟨result', -, -, hresult', -, -, -, hle, -⟩ :=
    price_monotone rfl hrates (quarterOff_onePercentage 20 _) hmore hresult
  exact ⟨result', hresult', htotal ▸ hle⟩

end SwCouriers
