import SwCouriers.Common

/-!
# Order Pricing

`app/modules/orders/pricing.py`: the price of an order, stop by stop, from the
organisation's rates, discounts, minimum charge and VAT rate
(`compute_price_breakdown`), and the recomputation of a stored order from the snapshots
on its stops (`recompute_price_breakdown_from_snapshot`).

A snapshot is JSON. Amounts in it are texts with two places (`Decimal.render`) that the
recomputation parses again, and a missing or empty text falls back to a default. Amounts
between the two are whole pence; percentages and weights are rationals.

`str.upper` is a parameter: the case mapping of Unicode plays no part in any price. The
time stamp of a breakdown is left out.
-/

namespace SwCouriers

open Checked

/-! ### Inputs -/

/-- `VatRate`. -/
inductive VatRate where
  | standard20 | reduced5 | zeroRated | exempt
  deriving DecidableEq, Repr

/-- `_VAT_RATE_PCT`, in hundredths of a per cent. -/
def VatRate.pct : VatRate → ℤ
  | .standard20 => 2000
  | .reduced5 => 500
  | .zeroRated => 0
  | .exempt => 0

/-- `DiscountType`. -/
inductive DiscountType where
  | percentage | fixedPerBooking | volumeTiered
  deriving DecidableEq, Repr

/-- A JSON value where a number is expected. -/
inductive Scalar where
  | null
  | num (q : ℚ)
  | text (s : String)
  deriving DecidableEq

/-- What `Decimal` raises on a text that is no number. -/
def invalidOperation : ServiceError := .uncaught "decimal.InvalidOperation"

/-- `Decimal(str(value or "0"))`. -/
def Scalar.decimal : Scalar → Except ServiceError ℚ
  | .null => .ok 0
  | .num q => .ok q
  | .text s => if s = "" then .ok 0 else orRaise (Decimal.parse s) invalidOperation

/-- The keys of a plan that are carried along for display only. -/
structure PlanPresentation where
  plainType : Option String
  serviceTierId : Option String
  globalTierId : Option String
  color : Option String
  icon : Option String
  description : Option String
  errorMarginKg : Option String
  availableFor : Option String
  scopeType : Option String
  sourceScopeType : Option String
  scopeOrgId : Option String
  isDefault : Option String
  isOverride : Option String
  deriving DecidableEq

/-- A pricing plan: the tier's identity and its three rates. -/
structure Plan where
  idPriceTier : Option String
  plainName : Option String
  tierNameAtOrderTime : Option String
  basePrice : Scalar
  pricePerPackage : Scalar
  pricePerKg : Scalar
  days : Option ℕ
  durationDays : Option ℕ
  presentation : PlanPresentation
  deriving DecidableEq

/-- `PackageInput`, without the breakdown that pricing writes back to it. -/
structure PackageInput where
  index : ℕ
  declaredWeightKg : Option ℚ
  lengthCm : Option ℚ
  widthCm : Option ℚ
  heightCm : Option ℚ
  packageUuid : Option Id
  packageRef : Option String

/-- The `weight_charge` of a package breakdown. -/
structure WeightCharge where
  pricePerKg : String
  weightKg : Option ℚ
  amount : String
  deriving DecidableEq

/-- The breakdown of one package. -/
structure PackageBreakdown where
  id : Option Id
  packageId : Option String
  packageIndex : ℕ
  declaredWeightKg : Option ℚ
  perPackageCharge : String
  weightCharge : WeightCharge
  total : String
  deriving DecidableEq

/-- One discount of a stop's snapshot. -/
structure DiscountEntry where
  type : DiscountType
  serviceTierId : Option String
  value : String
  amount : String
  orderCount : Option ℕ
  deriving DecidableEq

/-- The breakdown of one stop, as it is stored. -/
structure StopBreakdown where
  id : Option Id
  trackingId : Option String
  stopIndex : ℕ
  serviceTier : Option String
  serviceTierId : Option String
  pricingPlan : Plan
  basePrice : String
  packages : List PackageBreakdown
  packagesCount : ℕ
  packagesSubtotal : String
  preDiscountSubtotal : String
  discounts : List DiscountEntry
  totalDiscount : String
  subtotalAfterDiscount : String
  minCharge : String
  minChargeApplied : Bool
  subtotal : String
  vatRate : VatRate
  vatRatePct : String
  vatAmount : String
  total : String
  deriving DecidableEq

/-- `StopInput`. A plan that is there is not the empty dictionary. -/
structure StopInput where
  index : ℕ
  serviceTierName : Option String
  serviceTierId : Option String
  packages : List PackageInput
  stopUuid : Option Id
  trackingId : Option String
  priceBreakdown : Option StopBreakdown
  resolvedPlan : Option Plan

/-- One volume tier of a discount. -/
structure VolumeTier where
  minBookings : ℤ
  maxBookings : Option ℤ
  discountPct : Scalar

/-- `OrgDiscountConfig`. -/
structure OrgDiscountConfig where
  discountType : DiscountType
  isEnabled : Bool
  serviceTierId : Option String
  value : Option ℚ
  volumeTiers : List VolumeTier
  validFrom : Option Day
  validUntil : Option Day

/-- The organisation's pricing data. An entry of `pricing_plans` that is no dictionary is
`none`. -/
structure Organization where
  pricingPlans : List (Option Plan)
  minChargePerBooking : Option ℚ
  maxPackageWeight : Option ℚ
  maxPackageLength : Option ℚ
  maxPackageWidth : Option ℚ
  maxPackageHeight : Option ℚ

/-- `PricingContext`. -/
structure PricingContext where
  org : Organization
  vatRate : Option VatRate
  discounts : List OrgDiscountConfig
  orderCount : ℕ

/-- The order's breakdown. -/
structure OrderBreakdown where
  id : Option Id
  orderId : Option String
  currency : String
  stops : List StopBreakdown
  packagesCount : ℕ
  subtotal : String
  vatAmount : String
  total : String
  deriving DecidableEq

/-- `PricingResult`. -/
structure PricingResult where
  subtotal : ℤ
  vatAmount : ℤ
  totalAmount : ℤ
  breakdown : OrderBreakdown
  deriving DecidableEq

/-! ### Limits -/

/-- One check of `validate_package_restrictions`. -/
def checkLimit (stop : StopInput) (pkg : PackageInput) (what unit : String)
    (value limit : Option ℚ) : Except ServiceError Unit :=
  match limit, value with
  | some l, some v => raiseIf (l < v) (.packageLimit stop.index pkg.index what unit v l)
  | _, _ => .ok ()

/-- `validate_package_restrictions`. -/
def validatePackageRestrictions (org : Organization) (stops : List StopInput) :
    Except ServiceError Unit :=
  checkEach (fun stop => checkEach (fun pkg => do
    checkLimit stop pkg "declared weight" "kg" pkg.declaredWeightKg org.maxPackageWeight
    checkLimit stop pkg "length" "cm" pkg.lengthCm org.maxPackageLength
    checkLimit stop pkg "width" "cm" pkg.widthCm org.maxPackageWidth
    checkLimit stop pkg "height" "cm" pkg.heightCm org.maxPackageHeight)
    stop.packages) stops

/-! ### Plans -/

/-- `text or fallback` on optional texts. -/
def orElseText (text fallback : Option String) : Option String :=
  if text.getD "" = "" then fallback else text

/-- `plan_display_name`. -/
def planDisplayName (plan : Plan) : Option String :=
  orElseText plan.plainName none

/-- Whether `needle` occurs in `text`. -/
def isInfix (needle text : List Char) : Bool :=
  text.tails.any fun rest => needle.isPrefixOf rest

/-- `resolve_plan_for_stop`. -/
def resolvePlanForStop (upper : String → String) (stop : StopInput) (org : Organization) :
    Except ServiceError Plan :=
  match stop.resolvedPlan with
  | some plan => .ok plan
  | none => do
      let label := "Stop " ++ toString stop.index ++ ": "
      raiseIf (org.pricingPlans = [])
        (invalid (label ++ "organisation has no pricing plans configured"))
      let tierId := stripOrNone stop.serviceTierId
      let tierName := stripOrNone stop.serviceTierName
      raiseIf (tierId = none ∧ tierName = none)
        (invalid (label ++ "service_tier_name or service_tier_id is required"))
      let plans := org.pricingPlans.reduceOption
      let byId := tierId.bind fun id =>
        plans.find? fun p => p.idPriceTier.getD "" = id
      let plainName (p : Plan) : String := upper (p.plainName.getD "")
      let exact := tierName.bind fun name =>
        plans.find? fun p => plainName p ≠ "" ∧ plainName p = upper name
      let substring := tierName.bind fun name => plans.find? fun p =>
        plainName p ≠ "" ∧ isInfix (upper name).toList (plainName p).toList
      orRaise (byId.or (exact.or substring))
        (invalid (label ++ "no pricing plan matches service tier '"
          ++ (tierId.or tierName).getD "" ++ "'. "
          ++ "Ensure the organisation has a pricing plan referencing this tier."))

/-- The three rates of a plan, in pence. -/
structure TierPrices where
  basePrice : ℤ
  perPackage : ℤ
  perKg : ℤ
  deriving DecidableEq

/-- `_tier_prices`. -/
def tierPrices (plan : Plan) : Except ServiceError TierPrices := do
  let basePrice ← plan.basePrice.decimal
  let perPackage ← plan.pricePerPackage.decimal
  let perKg ← plan.pricePerKg.decimal
  return ⟨money basePrice, money perPackage, money perKg⟩

/-- The snapshot of a plan with given rates. -/
def Plan.snapshot (plan : Plan) (prices : TierPrices) : Plan :=
  { plan with
    basePrice := .text (Decimal.render prices.basePrice)
    pricePerPackage := .text (Decimal.render prices.perPackage)
    pricePerKg := .text (Decimal.render prices.perKg)
    tierNameAtOrderTime := orElseText plan.tierNameAtOrderTime plan.plainName
    durationDays := if plan.durationDays.getD 0 = 0 then plan.days else plan.durationDays }

/-- `_snapshot_plan`. -/
def snapshotPlan (plan : Plan) : Except ServiceError Plan := do
  let prices ← tierPrices plan
  return plan.snapshot prices

/-! ### Packages -/

/-- `_package_breakdown`. -/
def packageBreakdown (perPackage perKg : ℤ) (pkg : PackageInput) : PackageBreakdown :=
  let weight := pkg.declaredWeightKg.getD 0
  let weightCharge := money (pounds perKg * weight)
  let total := perPackage + weightCharge
  { id := pkg.packageUuid
    packageId := pkg.packageRef
    packageIndex := pkg.index
    declaredWeightKg := pkg.declaredWeightKg
    perPackageCharge := Decimal.render perPackage
    weightCharge :=
      { pricePerKg := Decimal.render perKg
        weightKg := pkg.declaredWeightKg
        amount := Decimal.render weightCharge }
    total := Decimal.render total }

/-- `_price_stop_packages`: the entries and the sum of their totals. -/
def priceStopPackages (packages : List PackageInput) (perPackage perKg : ℤ) :
    Except ServiceError (List PackageBreakdown × ℤ) := do
  let entries := packages.map (packageBreakdown perPackage perKg)
  let totals ← mapEach (fun e => orRaise (Decimal.parse e.total) invalidOperation) entries
  return (entries, money totals.sum)

/-! ### Discounts -/

/-- `_discount_active`. -/
def discountActive (d : OrgDiscountConfig) (today : Day) : Bool :=
  d.isEnabled && (d.discountType = .volumeTiered ||
    (d.validFrom.all fun from_ => from_ ≤ today) &&
      d.validUntil.all fun until_ => today ≤ until_)

/-- `_volume_tier_pct`: the percentage of the first tier that the count is in. -/
def volumeTierPct (volumeTiers : List VolumeTier) (orderCount : ℕ) :
    Except ServiceError ℚ :=
  match volumeTiers.find? fun t => t.minBookings ≤ (orderCount : ℤ) ∧
      t.maxBookings.all fun m => (orderCount : ℤ) ≤ m with
  | some tier => tier.discountPct.decimal
  | none => .ok 0

/-- What a percentage takes off, when it takes anything. -/
def percentageEntry (type : DiscountType) (serviceTierId : Option String)
    (orderCount : Option ℕ) (baseAmount : ℤ) (pct : ℚ) : Option (ℤ × DiscountEntry) :=
  let amount := money (pounds baseAmount * pct / 100)
  if pct ≤ 0 ∨ amount ≤ 0 then none
  else some (amount,
    { type := type
      serviceTierId := serviceTierId
      value := Decimal.render (money pct)
      amount := Decimal.render amount
      orderCount := orderCount })

/-- What a fixed discount takes off, when it takes anything. -/
def fixedEntry (serviceTierId : Option String) (amount : ℤ) (value : ℚ) :
    Option (ℤ × DiscountEntry) :=
  if amount ≤ 0 then none
  else some (amount,
    { type := .fixedPerBooking
      serviceTierId := serviceTierId
      value := Decimal.render (money value)
      amount := Decimal.render amount
      orderCount := none })

/-- One round of `_apply_discounts`. -/
def applyDiscount (baseAmount : ℤ) (stopTierId : Option String) (orderCount : ℕ)
    (today : Day) (d : OrgDiscountConfig) :
    Except ServiceError (Option (ℤ × DiscountEntry)) :=
  if ¬ discountActive d today then .ok none
  else if stopTierId ≠ none ∧ some (d.serviceTierId.getD "") ≠ stopTierId then .ok none
  else match d.discountType with
    | .fixedPerBooking =>
        .ok (fixedEntry d.serviceTierId (money (d.value.getD 0)) (d.value.getD 0))
    | .percentage =>
        .ok (percentageEntry .percentage d.serviceTierId none baseAmount (d.value.getD 0))
    | .volumeTiered => do
        let pct ← volumeTierPct d.volumeTiers orderCount
        return percentageEntry .volumeTiered d.serviceTierId (some orderCount) baseAmount pct

/-- The sum of what was taken off, capped at the base amount, and the entries. -/
def collectDiscounts (baseAmount : ℤ) (rounds : List (Option (ℤ × DiscountEntry))) :
    ℤ × List DiscountEntry :=
  let applied := rounds.reduceOption
  let total := (applied.map (·.1)).sum
  (if baseAmount < total then baseAmount else total, applied.map (·.2))

/-- `_apply_discounts`. -/
def applyDiscounts (baseAmount : ℤ) (discounts : List OrgDiscountConfig)
    (stopTierId : Option String) (orderCount : ℕ) (today : Day) :
    Except ServiceError (ℤ × List DiscountEntry) := do
  let rounds ← mapEach (applyDiscount baseAmount stopTierId orderCount today) discounts
  return collectDiscounts baseAmount rounds

/-- One round of `_reapply_snapshot_discounts`. -/
def reapplyDiscount (baseAmount : ℤ) (entry : DiscountEntry) :
    Except ServiceError (Option (ℤ × DiscountEntry)) := do
  let value ← (Scalar.text entry.value).decimal
  match entry.type with
  | .fixedPerBooking => do
      let amount ← (Scalar.text (if entry.amount = "" then entry.value
        else entry.amount)).decimal
      return fixedEntry entry.serviceTierId (money amount) value
  | .percentage =>
      return percentageEntry .percentage entry.serviceTierId none baseAmount value
  | .volumeTiered =>
      return percentageEntry .volumeTiered entry.serviceTierId entry.orderCount baseAmount
        value

/-- `_reapply_snapshot_discounts`. -/
def reapplySnapshotDiscounts (baseAmount : ℤ) (snapshotDiscounts : List DiscountEntry) :
    Except ServiceError (ℤ × List DiscountEntry) := do
  let rounds ← mapEach (reapplyDiscount baseAmount) snapshotDiscounts
  return collectDiscounts baseAmount rounds

/-! ### Stops -/

/-- `_apply_min_charge`: the subtotal, the minimum charge and whether it applied. -/
def applyMinCharge (subtotal : ℤ) (minChargeRaw : Option ℚ) : ℤ × ℤ × Bool :=
  let minCharge := (minChargeRaw.map money).getD 0
  if 0 < minCharge ∧ subtotal < minCharge then (minCharge, minCharge, true)
  else (subtotal, minCharge, false)

/-- A priced stop: its breakdown, and the amounts that go into the order's sums. -/
structure PricedStop where
  breakdown : StopBreakdown
  subtotal : ℤ
  vatAmount : ℤ
  total : ℤ
  deriving DecidableEq

/-- The figures that `_build_stop_breakdown` is given. -/
structure StopFigures where
  prices : TierPrices
  packageEntries : List PackageBreakdown
  packagesSubtotal : ℤ
  totalDiscount : ℤ
  discountEntries : List DiscountEntry
  minCharge : ℤ
  minChargeApplied : Bool
  subtotal : ℤ
  vatRate : VatRate
  vatPct : ℚ

/-- The end of either loop: VAT and total of the subtotal, and `_build_stop_breakdown`. -/
def buildStop (stop : StopInput) (planSnapshot : Plan) (serviceTierDisplay : Option String)
    (figures : StopFigures) : PricedStop :=
  let preDiscountSubtotal := figures.prices.basePrice + figures.packagesSubtotal
  let vatAmount := money (pounds figures.subtotal * figures.vatPct / 100)
  let total := figures.subtotal + vatAmount
  { breakdown :=
      { id := stop.stopUuid
        trackingId := stop.trackingId
        stopIndex := stop.index
        serviceTier := serviceTierDisplay
        serviceTierId := planSnapshot.idPriceTier
        pricingPlan := planSnapshot
        basePrice := Decimal.render figures.prices.basePrice
        packages := figures.packageEntries
        packagesCount := figures.packageEntries.length
        packagesSubtotal := Decimal.render figures.packagesSubtotal
        preDiscountSubtotal := Decimal.render preDiscountSubtotal
        discounts := figures.discountEntries
        totalDiscount := Decimal.render figures.totalDiscount
        subtotalAfterDiscount :=
          Decimal.render (preDiscountSubtotal - figures.totalDiscount)
        minCharge := Decimal.render figures.minCharge
        minChargeApplied := figures.minChargeApplied
        subtotal := Decimal.render figures.subtotal
        vatRate := figures.vatRate
        vatRatePct := Decimal.render (money figures.vatPct)
        vatAmount := Decimal.render vatAmount
        total := Decimal.render total }
    subtotal := figures.subtotal
    vatAmount := vatAmount
    total := total }

/-- One round of `compute_price_breakdown`. -/
def computeStop (upper : String → String) (ctx : PricingContext) (today : Day)
    (stop : StopInput) : Except ServiceError PricedStop := do
  let vatRate := ctx.vatRate.getD .standard20
  let plan ← resolvePlanForStop upper stop ctx.org
  let planSnapshot ← snapshotPlan plan
  let prices ← tierPrices plan
  let (packageEntries, packagesSubtotal) ←
    priceStopPackages stop.packages prices.perPackage prices.perKg
  let preDiscountSubtotal := prices.basePrice + packagesSubtotal
  let (totalDiscount, discountEntries) ← applyDiscounts preDiscountSubtotal ctx.discounts
    (orElseText plan.idPriceTier none) ctx.orderCount today
  let subtotalAfterDiscount := preDiscountSubtotal - totalDiscount
  let (subtotal, minCharge, minChargeApplied) :=
    applyMinCharge subtotalAfterDiscount ctx.org.minChargePerBooking
  return buildStop stop planSnapshot (orElseText (planDisplayName plan) stop.serviceTierName)
    { prices := prices
      packageEntries := packageEntries
      packagesSubtotal := packagesSubtotal
      totalDiscount := totalDiscount
      discountEntries := discountEntries
      minCharge := minCharge
      minChargeApplied := minChargeApplied
      subtotal := subtotal
      vatRate := vatRate
      vatPct := Decimal.ofHundredths vatRate.pct }

/-- What the recomputation reads of a stop's stored breakdown. A missing key is `none`,
or the empty list. -/
structure StopSnapshot where
  discounts : List DiscountEntry
  minCharge : Option String
  minChargeApplied : Bool
  vatRate : Option VatRate
  vatRatePct : Option String

/-- `stop.price_breakdown or {}`. -/
def StopInput.snapshot (stop : StopInput) : StopSnapshot :=
  match stop.priceBreakdown with
  | some bd => ⟨bd.discounts, some bd.minCharge, bd.minChargeApplied, some bd.vatRate,
      some bd.vatRatePct⟩
  | none => ⟨[], none, false, none, none⟩

/-- An optional text as a JSON value. -/
def Scalar.ofText : Option String → Scalar
  | some s => .text s
  | none => .null

/-- `Decimal(str(snapshot_pct or table_pct))`. -/
def snapshotVatPct (vatRatePct : Option String) (vatRate : VatRate) :
    Except ServiceError ℚ :=
  if vatRatePct.getD "" = "" then .ok (Decimal.ofHundredths vatRate.pct)
  else (Scalar.ofText vatRatePct).decimal

/-- One round of `recompute_price_breakdown_from_snapshot`. -/
def recomputeStop (vatRateFallback : VatRate) (stop : StopInput) :
    Except ServiceError PricedStop := do
  let plan ← orRaise stop.resolvedPlan (invalid ("Stop " ++ toString stop.index
    ++ ": missing pricing snapshot — cannot recompute without the stored pricing_plan"))
  let stopSnapshot := stop.snapshot
  let planSnapshot ← snapshotPlan plan
  let prices ← tierPrices plan
  let (packageEntries, packagesSubtotal) ←
    priceStopPackages stop.packages prices.perPackage prices.perKg
  let preDiscountSubtotal := prices.basePrice + packagesSubtotal
  let (totalDiscount, discountEntries) ←
    reapplySnapshotDiscounts preDiscountSubtotal stopSnapshot.discounts
  let subtotalAfterDiscount := preDiscountSubtotal - totalDiscount
  let minChargeQ ← (Scalar.ofText stopSnapshot.minCharge).decimal
  let minCharge := money minChargeQ
  let below : Bool := 0 < minCharge ∧ subtotalAfterDiscount < minCharge
  let vatRate := stopSnapshot.vatRate.getD vatRateFallback
  let vatPct ← snapshotVatPct stopSnapshot.vatRatePct vatRate
  return buildStop stop planSnapshot
    (orElseText plan.plainName (orElseText plan.tierNameAtOrderTime stop.serviceTierName))
    { prices := prices
      packageEntries := packageEntries
      packagesSubtotal := packagesSubtotal
      totalDiscount := totalDiscount
      discountEntries := discountEntries
      minCharge := minCharge
      minChargeApplied := stopSnapshot.minChargeApplied || below
      subtotal := if below then minCharge else subtotalAfterDiscount
      vatRate := vatRate
      vatPct := vatPct }

/-! ### Orders -/

/-- The end of both functions: the sums over the stops and the order's breakdown. -/
def orderResult (orderUuid : Option Id) (orderId : Option String) (currency : String)
    (stops : List PricedStop) : PricingResult :=
  let subtotal := (stops.map (·.subtotal)).sum
  let vatAmount := (stops.map (·.vatAmount)).sum
  let total := (stops.map (·.total)).sum
  { subtotal := subtotal
    vatAmount := vatAmount
    totalAmount := total
    breakdown :=
      { id := orderUuid
        orderId := orderId
        currency := currency
        stops := stops.map (·.breakdown)
        packagesCount := (stops.map (·.breakdown.packagesCount)).sum
        subtotal := Decimal.render subtotal
        vatAmount := Decimal.render vatAmount
        total := Decimal.render total } }

/-- `compute_price_breakdown`, on a given day. -/
def computePriceBreakdown (upper : String → String) (ctx : PricingContext) (today : Day)
    (stops : List StopInput) (orderUuid : Option Id) (orderId : Option String) :
    Except ServiceError PricingResult := do
  let priced ← mapEach (computeStop upper ctx today) stops
  return orderResult orderUuid orderId "GBP" priced

/-- What the recomputation reads of the order's stored breakdown. -/
structure OrderSnapshot where
  vatRate : Option VatRate
  currency : Option String

/-- The keys of a stored order breakdown that the recomputation reads. It has no VAT rate
of its own. -/
def OrderBreakdown.snapshot (breakdown : OrderBreakdown) : OrderSnapshot :=
  ⟨none, some breakdown.currency⟩

/-- `recompute_price_breakdown_from_snapshot`. -/
def recomputePriceBreakdownFromSnapshot (orderSnapshot : OrderSnapshot)
    (stops : List StopInput) (orderUuid : Option Id) (orderId : Option String) :
    Except ServiceError PricingResult := do
  let priced ← mapEach (recomputeStop (orderSnapshot.vatRate.getD .standard20)) stops
  return orderResult orderUuid orderId ((orElseText orderSnapshot.currency none).getD "GBP")
    priced

end SwCouriers
