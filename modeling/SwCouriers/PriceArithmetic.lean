import SwCouriers.PricingAgreement

/-!
# The Arithmetic of a Price

Every figure of a breakdown is rounded to pence before the next one is taken from it, and is
written as a text. Sums and differences of whole pence are whole pence, so the only roundings
that change anything are those of the single charges and of the VAT. This module reads the
figures of a breakdown back from their texts and states how each is made from the others, on
either pricing path.

The amounts shown for the discounts of a stop are those that were taken off, before the cap.
With the cap at the base amount the difference is never negative, so the minimum charge is a
lower bound whether or not it is set.

## Main results

* `exact_buildStop`: the figures of a stop, for any discounts, minimum charge and VAT rate.
* `exact_orderResult`: the sums of an order.
* `price_arithmetic_exact`: both for either pricing path.
-/

namespace SwCouriers

open Checked

/-- The figures of a stop, in pence. -/
structure StopAmounts where
  preDiscountSubtotal : ℤ
  discounts : List ℤ
  totalDiscount : ℤ
  subtotalAfterDiscount : ℤ
  minCharge : ℤ
  subtotal : ℤ
  vatAmount : ℤ
  total : ℤ

/-- The text stands for the amount. -/
def Stands (text : String) (amount : ℤ) : Prop := Decimal.parse text = some (pounds amount)

theorem stands_render (amount : ℤ) : Stands (Decimal.render amount) amount :=
  Decimal.parse_render amount

/-- The texts of a stop's breakdown stand for the figures. -/
structure StopBreakdown.Shows (bd : StopBreakdown) (a : StopAmounts) : Prop where
  preDiscountSubtotal : Stands bd.preDiscountSubtotal a.preDiscountSubtotal
  discounts : List.Forall₂ (fun d amount => Stands d.amount amount) bd.discounts a.discounts
  totalDiscount : Stands bd.totalDiscount a.totalDiscount
  subtotalAfterDiscount : Stands bd.subtotalAfterDiscount a.subtotalAfterDiscount
  minCharge : Stands bd.minCharge a.minCharge
  subtotal : Stands bd.subtotal a.subtotal
  vatAmount : Stands bd.vatAmount a.vatAmount
  total : Stands bd.total a.total

/-- How each figure of a stop is made from the others at a VAT rate of `vatPct` per cent. -/
structure StopAmounts.Exact (a : StopAmounts) (vatPct : ℚ) : Prop where
  totalDiscount : a.totalDiscount = min a.preDiscountSubtotal a.discounts.sum
  subtotalAfterDiscount : a.subtotalAfterDiscount = a.preDiscountSubtotal - a.totalDiscount
  nonneg : 0 ≤ a.subtotalAfterDiscount
  subtotal : a.subtotal = max a.subtotalAfterDiscount a.minCharge
  vatAmount : a.vatAmount = Decimal.roundHalfUp (a.subtotal * vatPct / 100)
  total : a.total = a.subtotal + a.vatAmount

/-- The figures of an order are the sums of those of its stops, and its texts show them. -/
structure PricingResult.Exact (result : PricingResult) (amounts : List StopAmounts) : Prop where
  stops : List.Forall₂ StopBreakdown.Shows result.breakdown.stops amounts
  subtotal : result.subtotal = (amounts.map (·.subtotal)).sum
  vatAmount : result.vatAmount = (amounts.map (·.vatAmount)).sum
  totalAmount : result.totalAmount = (amounts.map (·.total)).sum
  total_eq : result.totalAmount = result.subtotal + result.vatAmount
  subtotalText : Stands result.breakdown.subtotal result.subtotal
  vatAmountText : Stands result.breakdown.vatAmount result.vatAmount
  totalText : Stands result.breakdown.total result.totalAmount

/-! ### A stop -/

/-- A percentage of an amount in pence, rounded to pence. -/
theorem money_percentage (amount : ℤ) (pct : ℚ) :
    money (pounds amount * pct / 100) = Decimal.roundHalfUp (amount * pct / 100) := by
  rw [money, Decimal.quantize, pounds, Decimal.ofHundredths]
  congr 1
  ring

/-- The amounts that a stop shows for its discounts. -/
theorem shows_collectDiscounts {base : ℤ} {rounds : List (Option (ℤ × DiscountEntry))}
    (h : ∀ x, some x ∈ rounds → TakenOff base x) :
    List.Forall₂ (fun d amount => Stands d.amount amount) (collectDiscounts base rounds).2
      (rounds.reduceOption.map (·.1)) := by
  rw [collectDiscounts, List.forall₂_map_left_iff, List.forall₂_map_right_iff]
  refine List.forall₂_same.mpr fun x hx => ?_
  rw [(h x (List.reduceOption_mem_iff.mp hx)).entry.2]
  exact stands_render x.1

/-- The minimum charge is a lower bound, also when it is not set. -/
theorem minCharge_eq_max {after : ℤ} (hafter : 0 ≤ after) (minCharge : ℤ) :
    (if (decide (0 < minCharge ∧ after < minCharge)) = true then minCharge else after)
      = max after minCharge := by
  by_cases h : after < minCharge
  · rw [if_pos (decide_eq_true ⟨hafter.trans_lt h, h⟩), max_eq_right h.le]
  · rw [if_neg (by simp [h]), max_eq_left (not_lt.mp h)]

/-- A priced stop whose breakdown and whose share of the order's sums are the figures. -/
structure PricedStop.Exact (priced : PricedStop) (vatPct : ℚ) (a : StopAmounts) : Prop where
  breakdown : priced.breakdown.Shows a
  exact : a.Exact vatPct
  subtotal : priced.subtotal = a.subtotal
  vatAmount : priced.vatAmount = a.vatAmount
  total : priced.total = a.total

/-- **The figures of a stop**, whatever was taken off it and however the minimum charge is
marked. -/
theorem exact_buildStop (stop : StopInput) (planSnapshot : Plan) (display : Option String)
    (prices : TierPrices) (packages : List PackageInput)
    {rounds : List (Option (ℤ × DiscountEntry))}
    (hrounds : ∀ x, some x ∈ rounds → TakenOff (discountBase prices packages) x)
    (minCharge : ℤ) (vatRate : VatRate) (vatPct : ℚ) (minChargeApplied : Bool) :
    ∃ a, (buildStop stop planSnapshot display
      { figuresOf prices packages (collectDiscounts (discountBase prices packages) rounds)
          minCharge vatRate vatPct with
        minChargeApplied := minChargeApplied }).Exact vatPct a := by
  have htotal := collectDiscounts_fst (discountBase prices packages) rounds
  have hshown := shows_collectDiscounts hrounds
  generalize collectDiscounts (discountBase prices packages) rounds = discount at htotal hshown ⊢
  have hafter : 0 ≤ discountBase prices packages - discount.1 := by
    rw [htotal]
    exact sub_nonneg.mpr (min_le_left _ _)
  let subtotal := max (discountBase prices packages - discount.1) minCharge
  have hsubtotal : (figuresOf prices packages discount minCharge vatRate vatPct).subtotal
      = subtotal := minCharge_eq_max hafter minCharge
  let vatAmount := Decimal.roundHalfUp (subtotal * vatPct / 100)
  have hvat : money (pounds (figuresOf prices packages discount minCharge vatRate
      vatPct).subtotal * vatPct / 100) = vatAmount := by
    rw [hsubtotal, money_percentage]
  refine ⟨⟨discountBase prices packages, rounds.reduceOption.map (·.1), discount.1,
    discountBase prices packages - discount.1, minCharge, subtotal, vatAmount,
    subtotal + vatAmount⟩, ?_, ⟨htotal, rfl, hafter, rfl, rfl, rfl⟩, hsubtotal, hvat, ?_⟩
  · refine ⟨stands_render _, hshown, stands_render _, stands_render _, stands_render _, ?_, ?_,
      ?_⟩
    · exact hsubtotal ▸ stands_render _
    · exact hvat ▸ stands_render _
    · rw [← hvat, ← hsubtotal]
      exact stands_render _
  · rw [← hvat, ← hsubtotal]
    rfl

theorem exact_computeStop {upper : String → String} {ctx : PricingContext} {today : Day}
    {stop : StopInput} {priced : PricedStop}
    (h : computeStop upper ctx today stop = .ok priced) :
    ∃ a, priced.Exact (pounds (ctx.vatRate.getD .standard20).pct) a := by
  obtain ⟨plan, prices, discount, -, -, hdiscount, rfl⟩ := computeStop_eq_ok h
  obtain ⟨rounds, rfl, hrounds⟩ := takenOff_applyDiscounts hdiscount
  exact exact_buildStop stop _ _ prices stop.packages hrounds _ _ _ _

/-- The VAT rate that a recomputation takes for a stop. -/
def StopInput.vatPct (stop : StopInput) (fallback : VatRate) : Except ServiceError ℚ :=
  snapshotVatPct stop.snapshot.vatRatePct (stop.snapshot.vatRate.getD fallback)

theorem exact_recomputeStop {fallback : VatRate} {stop : StopInput} {priced : PricedStop}
    (h : recomputeStop fallback stop = .ok priced) :
    ∃ vatPct a, stop.vatPct fallback = .ok vatPct ∧ priced.Exact vatPct a := by
  obtain ⟨plan, prices, discount, minCharge, vatPct, hplan, hprices, hdiscount, hmin, hvat⟩ :=
    recomputeStop_ok h
  obtain rfl := Except.ok.inj
    (h.symm.trans (recomputeStop_eq hplan hprices hdiscount hmin hvat))
  obtain ⟨rounds, rfl, hrounds⟩ := takenOff_reapplySnapshotDiscounts hdiscount
  obtain ⟨a, ha⟩ := exact_buildStop stop _ _ prices stop.packages hrounds _ _ _ _
  exact ⟨vatPct, a, hvat, ha⟩

/-! ### An order -/

theorem sum_total {amounts : List StopAmounts}
    (h : ∀ a ∈ amounts, a.total = a.subtotal + a.vatAmount) :
    (amounts.map (·.total)).sum =
      (amounts.map (·.subtotal)).sum + (amounts.map (·.vatAmount)).sum := by
  rw [← List.sum_map_add]
  exact congrArg List.sum (List.map_congr_left h)

/-- **The figures of an order** are the sums of those of its stops. -/
theorem exact_orderResult {orderUuid : Option Id} {orderId : Option String} {currency : String}
    {priced : List PricedStop} {amounts : List StopAmounts}
    (h : List.Forall₂ (fun p a => ∃ vatPct, p.Exact vatPct a) priced amounts) :
    (orderResult orderUuid orderId currency priced).Exact amounts := by
  have hsum : ∀ {f : PricedStop → ℤ} {g : StopAmounts → ℤ},
      (∀ p a, (∃ vatPct, PricedStop.Exact p vatPct a) → f p = g a) →
        (priced.map f).sum = (amounts.map g).sum := by
    intro f g hfg
    congr 1
    rw [← List.forall₂_eq_eq_eq, List.forall₂_map_left_iff, List.forall₂_map_right_iff]
    exact h.imp hfg
  have hsubtotal := hsum (f := (·.subtotal)) (g := (·.subtotal)) fun _ _ h =>
    h.elim fun _ e => e.subtotal
  have hvat := hsum (f := (·.vatAmount)) (g := (·.vatAmount)) fun _ _ h =>
    h.elim fun _ e => e.vatAmount
  have htotal := hsum (f := (·.total)) (g := (·.total)) fun _ _ h => h.elim fun _ e => e.total
  have hexact : ∀ a ∈ amounts, a.total = a.subtotal + a.vatAmount := by
    intro a ha
    obtain ⟨p, -, vatPct, hp⟩ := exists_of_forall₂_right h ha
    exact hp.exact.total
  refine ⟨?_, hsubtotal, hvat, htotal, ?_, stands_render _, stands_render _, stands_render _⟩
  · exact List.forall₂_map_left_iff.mpr (h.imp fun _ _ h =>
      h.elim fun _ e => e.breakdown)
  · exact (htotal.trans (sum_total hexact)).trans (congrArg₂ _ hsubtotal.symm hvat.symm)

/-- The figures of the stops of an order, each at its own VAT rate. -/
theorem exists_amounts {stops : List StopInput} {priced : List PricedStop}
    (vatPctOf : StopInput → ℚ → Prop)
    (h : List.Forall₂ (fun stop p => ∃ vatPct a, vatPctOf stop vatPct ∧
      PricedStop.Exact p vatPct a) stops priced) :
    ∃ amounts, List.Forall₂ (fun p a => ∃ vatPct, PricedStop.Exact p vatPct a) priced amounts ∧
      List.Forall₂ (fun stop a => ∃ vatPct, vatPctOf stop vatPct ∧ StopAmounts.Exact a vatPct)
        stops amounts := by
  induction h with
  | nil => exact ⟨[], .nil, .nil⟩
  | cons hstop _ ih =>
      obtain ⟨vatPct, a, hvat, ha⟩ := hstop
      obtain ⟨amounts, hpriced, hstops⟩ := ih
      exact ⟨a :: amounts, .cons ⟨vatPct, ha⟩ hpriced, .cons ⟨vatPct, hvat, ha.exact⟩ hstops⟩

/-- **Price arithmetic is exact and bounded** on either path: what is taken off a stop is the
sum of the discounts shown, capped at the amount before them; what remains is not negative
and is raised to the minimum charge; the VAT is rounded once, and nothing is lost in a
total. -/
theorem price_arithmetic_exact :
    (∀ (upper : String → String) (ctx : PricingContext) (today : Day) (stops : List StopInput)
      (orderUuid : Option Id) (orderId : Option String) (result : PricingResult),
      computePriceBreakdown upper ctx today stops orderUuid orderId = .ok result →
      ∃ amounts, result.Exact amounts ∧ List.Forall₂ (fun _ a =>
        a.Exact (pounds (ctx.vatRate.getD .standard20).pct)) stops amounts) ∧
    (∀ (orderSnapshot : OrderSnapshot) (stops : List StopInput) (orderUuid : Option Id)
      (orderId : Option String) (result : PricingResult),
      recomputePriceBreakdownFromSnapshot orderSnapshot stops orderUuid orderId = .ok result →
      ∃ amounts, result.Exact amounts ∧ List.Forall₂ (fun stop a => ∃ vatPct,
        stop.vatPct (orderSnapshot.vatRate.getD .standard20) = .ok vatPct ∧ a.Exact vatPct)
          stops amounts) := by
  constructor
  · intro upper ctx today stops orderUuid orderId result h
    obtain ⟨priced, hpriced, hresult⟩ := bind_eq_ok.mp h
    obtain rfl := pure_eq_ok.mp hresult
    have hstops := (mapEach_eq_ok.mp hpriced).imp fun stop p hstop =>
      (⟨_, (exact_computeStop hstop).imp fun a ha => ⟨rfl, ha⟩⟩ : ∃ vatPct a,
        vatPct = pounds (ctx.vatRate.getD .standard20).pct ∧ PricedStop.Exact p vatPct a)
    obtain ⟨amounts, hamounts, hexact⟩ := exists_amounts
      (fun _ vatPct => vatPct = pounds (ctx.vatRate.getD .standard20).pct) hstops
    refine ⟨amounts, exact_orderResult hamounts, hexact.imp fun _ a ha => ?_⟩
    obtain ⟨vatPct, rfl, ha⟩ := ha
    exact ha
  · intro orderSnapshot stops orderUuid orderId result h
    obtain ⟨priced, hpriced, hresult⟩ := bind_eq_ok.mp h
    obtain rfl := pure_eq_ok.mp hresult
    obtain ⟨amounts, hamounts, hexact⟩ := exists_amounts _
      ((mapEach_eq_ok.mp hpriced).imp fun stop p hstop => exact_recomputeStop hstop)
    exact ⟨amounts, exact_orderResult hamounts, hexact⟩

/-- Two packages with three discounts under a minimum charge, priced and then recomputed. -/
theorem price_arithmetic_exact_discounted :
    (∃ result amounts, computePriceBreakdown id discountedContext 20 [twoPackageStop] none none
        = .ok result ∧ result.Exact amounts ∧ result.totalAmount = 1260) ∧
    (∃ result amounts, recomputePriceBreakdownFromSnapshot ⟨some .reduced5, none⟩
        [twoPackageStop] none none = .ok result ∧ result.Exact amounts ∧
        result.totalAmount = 1452) := by
  have hcompute : (computePriceBreakdown id discountedContext 20 [twoPackageStop] none
      none).map (·.totalAmount) = .ok 1260 := by decide +kernel
  have hrecompute : (recomputePriceBreakdownFromSnapshot ⟨some .reduced5, none⟩
      [twoPackageStop] none none).map (·.totalAmount) = .ok 1452 := by decide +kernel
  obtain ⟨result, hresult, htotal⟩ := map_eq_ok.mp hcompute
  obtain ⟨again, hagain, htotal'⟩ := map_eq_ok.mp hrecompute
  obtain ⟨amounts, hamounts, -⟩ := price_arithmetic_exact.1 _ _ _ _ _ _ _ hresult
  obtain ⟨amounts', hamounts', -⟩ := price_arithmetic_exact.2 _ _ _ _ _ hagain
  exact ⟨⟨result, amounts, hresult, hamounts, htotal⟩, again, amounts', hagain, hamounts',
    htotal'⟩

end SwCouriers
