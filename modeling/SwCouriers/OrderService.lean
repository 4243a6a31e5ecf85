import SwCouriers.Invoices
import SwCouriers.OrderModel
import SwCouriers.Payments

/-!
# Placing, Editing and Cancelling Orders

The operations of `OrderService` that price an order: `create_order`, which also creates
the order's invoice and takes the payment, and the two edits that price it again,
`update_stop_packages` and `update_stop_service_tier`. The two cancellations are here as
well, because an order can be edited only until its status moves on.

What a request reads outside orders and billing is its environment: the organisation with
its payment configuration and discounts, the service tiers, the saved cards and pickup
addresses, the credit account, and the card gateway. Each request comes with an
environment of its own, so nothing is assumed to stay the same between two of them.
-/

namespace SwCouriers

open Checked

/-! ### The environment of a request -/

/-- A row of the effective service tiers of an organisation. -/
structure EffectiveTier where
  id : Option String
  globalTierId : Option String
  tierName : Option String
  plainType : Option String
  durationDays : Option ℕ
  basePrice : Scalar
  pricePerPackage : Scalar
  pricePerKg : Scalar
  scopeType : Option String
  sourceScopeType : Option String
  scopeOrgId : Option String
  availableFor : Option String
  color : Option String
  icon : Option String
  description : Option String
  errorMarginKg : Option String
  isDefault : Option String
  isOverride : Option String

/-- `effective_tier_to_plan`. The keys `status` and `permitted`, which no snapshot keeps,
are left out. -/
def effectiveTierToPlan (tier : EffectiveTier) : Plan where
  idPriceTier := orElseText (orElseText tier.globalTierId tier.id) none
  plainName := tier.tierName
  tierNameAtOrderTime := tier.tierName
  basePrice := tier.basePrice
  pricePerPackage := tier.pricePerPackage
  pricePerKg := tier.pricePerKg
  days := tier.durationDays
  durationDays := tier.durationDays
  presentation :=
    { plainType := tier.plainType
      serviceTierId := tier.id
      globalTierId := tier.globalTierId
      color := tier.color
      icon := tier.icon
      description := tier.description
      errorMarginKg := tier.errorMarginKg
      availableFor := tier.availableFor
      scopeType := tier.scopeType
      sourceScopeType := tier.sourceScopeType
      scopeOrgId := tier.scopeOrgId
      isDefault := tier.isDefault
      isOverride := tier.isOverride }

/-- `BillingSchedule`, with the parameter of each schedule. -/
inductive BillingSchedule where
  | immediate
  | daysAfterOrder (days : ℤ)
  | fixedMonthlyDate (day : ℤ)
  deriving DecidableEq

/-- A payment method of an organisation. -/
structure OrgPaymentMethod where
  id : Id
  organizationId : Id
  paymentModel : PaymentModel
  billingSchedule : BillingSchedule
  deriving DecidableEq

/-- What the gateway answers to a charge that it accepted. -/
structure CardCharge where
  braintreeTransactionId : String
  transactionFee : ℚ

/-- What a request reads outside orders and billing. -/
structure OrderEnv where
  /-- `str.upper`. -/
  upper : String → String
  /-- The organisation with this identifier, when it is active. -/
  organization : Id → Option Organization
  /-- The VAT rate of its payment configuration, when it has one. -/
  paymentConfig : Id → Option (Option VatRate)
  discounts : Id → List OrgDiscountConfig
  /-- `resolve_effective_tier_for_org`, by tier id and tier name. -/
  resolveEffectiveTier : Id → Option String → Option String →
    Except ServiceError EffectiveTier
  paymentMethods : List OrgPaymentMethod
  /-- `_next_fixed_monthly_due_date`. -/
  nextFixedMonthlyDueDate : Day → ℤ → Day
  /-- `assert_usable_for_order`, on the request's pickup address. -/
  assertUsableForOrder : Except ServiceError Unit
  /-- `verify_credit_card_belongs_to_org`, on the request's card. -/
  verifyCreditCard : Except ServiceError Unit
  /-- `assert_can_consume`. -/
  assertCanConsume : ℤ → Except ServiceError Unit
  /-- `consume_credit` for an invoice. -/
  consumeCredit : Id → ℤ → Except ServiceError Unit
  /-- `charge_saved_card_for_booking` of a pending payment; a declined charge is an error
  with the processor's message. -/
  chargeSavedCard : Id → ℤ → Except ServiceError CardCharge

/-! ### Invoices of orders -/

/-- `_is_close_money`: at most a penny apart. -/
def isCloseMoney (a b : ℤ) : Prop := |a - b| ≤ 1

instance (a b : ℤ) : Decidable (isCloseMoney a b) :=
  inferInstanceAs (Decidable (|a - b| ≤ 1))

/-- `_validate_order_amounts`. -/
def validateOrderAmounts (subtotal vatAmount total : ℤ) : Except ServiceError Unit := do
  raiseIf (subtotal < 0 ∨ vatAmount < 0 ∨ total < 0)
    (invalid "Invoice amounts must be non-negative")
  raiseIf (¬ isCloseMoney (subtotal + vatAmount) total)
    (invalid "Order totals mismatch: subtotal + vat_amount must equal total")

/-- `_derive_vat_rate`, in hundredths of a per cent. -/
def deriveVatRate (subtotal vatAmount : ℤ) : Except ServiceError ℤ :=
  if subtotal ≤ 0 then do
    raiseIf (0 < vatAmount) (invalid "VAT amount cannot be positive when subtotal is zero")
    return 0
  else .ok (money (pounds vatAmount / pounds subtotal * 100))

/-- `_build_order_line_items`. An order breakdown has no `packages` of its own, so the
lines are a free one per package, or a single one for the whole order. -/
def buildOrderLineItems (order : Order) : List InvoiceLineItem :=
  if order.packages ≠ [] ∧ order.subtotal = 0 then
    order.packages.map fun pkg =>
      { description := "Package " ++ pkg.packageId
        quantity := 1, unitPrice := 0, totalPrice := 0, lineType := "service" }
  else
    [{ description := "Order service " ++ order.orderId
       quantity := 1, unitPrice := order.subtotal, totalPrice := order.subtotal
       lineType := "service" }]

/-- `get_by_order_id`: the invoice of an order that was created last. -/
def getByOrderId (db : Db) (orderId : Id) (organizationId : Id) : Option Invoice :=
  (db.invoices.rows.filter fun inv =>
    inv.orderId = some orderId ∧ inv.organizationId = some organizationId).getLast?

/-- The end of `sync_from_order` when the order has no invoice yet. -/
def syncNewInvoice (db : Db) (today : Day) (order : Order) (dueDate : Day) (vatRate : ℤ) :
    Except ServiceError (Db × Id) := do
  let (db, invoice) ← createDraft db today
    { orderId := some order.id
      organizationId := some order.organizationId
      customerId := order.customerId
      issueDate := today
      dueDate := dueDate
      subtotal := pounds order.subtotal
      vatRate := pounds vatRate
      vatAmount := pounds order.vatAmount
      total := pounds order.totalAmount
      notes := some "Auto-generated from order" }
  return (replaceLineItems db invoice.id (buildOrderLineItems order), invoice.id)

/-- The end of `sync_from_order` when the order has an invoice. -/
def syncExistingInvoice (db : Db) (today : Day) (order : Order) (dueDate : Day)
    (vatRate : ℤ) (existing : Invoice) : Except ServiceError (Db × Id) := do
  raiseIf (existing.paymentStatus = .void ∨ existing.paymentStatus = .writtenOff)
    (.conflict "Cannot update an invoice that is voided or written off")
  let invoices ← updateById db.invoices existing.id
    (fun inv => { inv with
      issueDate := today
      dueDate := dueDate
      subtotal := order.subtotal
      vatRate := vatRate
      vatAmount := order.vatAmount
      total := order.totalAmount
      notes := some "Auto-synced from order"
      updatedAt := today
      version := existing.version + 1 })
    (fun _ => rfl) existing.version anyScope
  let db := replaceLineItems { db with invoices := invoices } existing.id
    (buildOrderLineItems order)
  let db := db.appendInvoiceEvent existing.id .draftSaved none
  let db ← recomputeInvoiceProjection today db existing.id
  return (db, existing.id)

/-- `sync_from_order`, issued today. -/
def syncFromOrder (db : Db) (today : Day) (order : Order) (dueDate : Day) :
    Except ServiceError (Db × Id) := do
  raiseIf (dueDate < today) (invalid "due_date must be on or after issue_date")
  validateOrderAmounts order.subtotal order.vatAmount order.totalAmount
  let vatRate ← deriveVatRate order.subtotal order.vatAmount
  raiseIf (¬ isCloseMoney ((buildOrderLineItems order).map (·.totalPrice)).sum order.subtotal)
    (invalid "Invoice line items subtotal does not match order subtotal")
  match getByOrderId db order.id order.organizationId with
  | none => syncNewInvoice db today order dueDate vatRate
  | some existing => syncExistingInvoice db today order dueDate vatRate existing

/-! ### Placing an order -/

/-- `PackageCreateItem`. -/
structure PackageCreateItem where
  lengthCm : ℚ
  widthCm : ℚ
  heightCm : ℚ
  declaredWeightKg : ℚ
  declaredValue : ℚ

/-- `DeliveryStopCreateItem`, without the recipient and the address. -/
structure DeliveryStopCreateItem where
  serviceTierName : Option String
  serviceTierId : Option String
  packages : List PackageCreateItem

/-- The arguments of `create_order`. -/
structure OrderCreateRequest where
  clientType : OrderClientType
  organizationId : Option Id
  contactUserId : Id
  paymentMethod : PaymentModel
  paymentMethodId : Id
  creditCardId : Option Id
  paymentMethodNonce : Option String
  deliveryStops : List DeliveryStopCreateItem

/-- `_verify_org_payment_method`. -/
def verifyOrgPaymentMethod (env : OrderEnv) (organizationId : Id)
    (paymentMethod : PaymentModel) (paymentMethodId : Id) :
    Except ServiceError OrgPaymentMethod := do
  let row ← orRaise (env.paymentMethods.find? fun m =>
      m.id = paymentMethodId ∧ m.organizationId = organizationId)
    (invalid ("payment_method_id '" ++ toString paymentMethodId
      ++ "' does not belong to this organisation"))
  raiseIf (row.paymentModel ≠ paymentMethod)
    (invalid ("payment_method '" ++ paymentMethod.value
      ++ "' does not match the payment method configured on '" ++ toString paymentMethodId
      ++ "' (expected '" ++ row.paymentModel.value ++ "')"))
  return row

/-- `_invoice_due_date_for_payment_method`. -/
def invoiceDueDate (env : OrderEnv) (method : OrgPaymentMethod) (issueDate : Day) :
    Except ServiceError Day :=
  match method.billingSchedule with
  | .immediate => .ok issueDate
  | .daysAfterOrder days => .ok (issueDate + days)
  | .fixedMonthlyDate day => do
      raiseIf (day < 1 ∨ 28 < day)
        (invalid "billing_day_of_month must be between 1 and 28 for FIXED_MONTHLY_DATE")
      return env.nextFixedMonthlyDueDate issueDate day

/-- The check of the saved card, when the order is paid by card. -/
def verifyCard (env : OrderEnv) (request : OrderCreateRequest) : Except ServiceError Unit :=
  if request.paymentMethod = .card then do
    raiseIf (request.creditCardId = none)
      (invalid "credit_card_id is required when payment_method is CARD")
    env.verifyCreditCard
  else .ok ()

/-- `load_pricing_context`. The orders placed so far are counted. -/
def loadPricingContext (env : OrderEnv) (shop : Shop) (organizationId : Id) :
    Except ServiceError PricingContext := do
  let org ← orRaise (env.organization organizationId)
    (invalid ("Organization " ++ toString organizationId
      ++ " is not active or does not exist"))
  let vatRate ← orRaise (env.paymentConfig organizationId)
    (invalid ("Organization " ++ toString organizationId ++ " payment config is missing"))
  return {
    org := org
    vatRate := vatRate
    discounts := env.discounts organizationId
    orderCount := shop.orders.rows.countP fun o => o.organizationId = organizationId }

/-- The `PackageInput` of a package that is being ordered. -/
def PackageCreateItem.pricingInput (pkg : PackageCreateItem) (index : ℕ) : PackageInput where
  index := index
  declaredWeightKg := some pkg.declaredWeightKg
  lengthCm := some pkg.lengthCm
  widthCm := some pkg.widthCm
  heightCm := some pkg.heightCm
  packageUuid := none
  packageRef := none

/-- The `StopInput` of a stop that is being ordered. -/
def DeliveryStopCreateItem.pricingInput (stop : DeliveryStopCreateItem) (index : ℕ) :
    StopInput where
  index := index
  serviceTierName := stop.serviceTierName
  serviceTierId := stop.serviceTierId
  packages := (stop.packages.zipIdx 1).map fun p => p.1.pricingInput p.2
  stopUuid := none
  trackingId := none
  priceBreakdown := none
  resolvedPlan := none

/-- `_attach_effective_plans`. -/
def attachEffectivePlans (env : OrderEnv) (organizationId : Id) (stops : List StopInput) :
    Except ServiceError (List StopInput) :=
  mapEach (fun stop => do
    let tier ← env.resolveEffectiveTier organizationId stop.serviceTierId
      stop.serviceTierName
    return { stop with resolvedPlan := some (effectiveTierToPlan tier) }) stops

/-- The rows of a stop's packages, from the next number of their sequence on, each with
its breakdown completed by its own identifiers. -/
def newPackages : ℕ → List PackageCreateItem → List PackageBreakdown → List Package
  | seq, pkg :: pkgs, entry :: entries =>
      let ref := serialNumber "PKG" 8 seq
      { id := seq
        packageId := ref
        lengthCm := some pkg.lengthCm
        widthCm := some pkg.widthCm
        heightCm := some pkg.heightCm
        declaredWeightKg := some pkg.declaredWeightKg
        declaredValue := some pkg.declaredValue
        status := .pendingPickup
        priceBreakdown := some { entry with id := some seq, packageId := some ref } } ::
          newPackages (seq + 1) pkgs entries
  | _, _, _ => []

/-- The row of a stop, with its breakdown completed by its own identifiers and those of
its packages. -/
def newStop (stopSeq packageSeq : ℕ) (item : DeliveryStopCreateItem)
    (pricingStop : StopInput) (breakdown : StopBreakdown) : DeliveryStop :=
  let packages := newPackages packageSeq item.packages breakdown.packages
  let trackingId := serialNumber "TRK" 8 stopSeq
  { id := stopSeq
    trackingId := trackingId
    serviceTier := orElseText (pricingStop.resolvedPlan.bind planDisplayName)
      pricingStop.serviceTierName
    serviceTierId := none
    priceBreakdown := some { breakdown with
      id := some stopSeq
      trackingId := some trackingId
      packages := packages.filterMap (·.priceBreakdown) }
    status := .pendingPickup
    packages := packages }

/-- The rows of an order's stops, from the next numbers of the two sequences on. -/
def newStops : ℕ → ℕ → List DeliveryStopCreateItem → List StopInput →
    List StopBreakdown → List DeliveryStop
  | stopSeq, packageSeq, item :: items, input :: inputs, breakdown :: breakdowns =>
      newStop stopSeq packageSeq item input breakdown ::
        newStops (stopSeq + 1) (packageSeq + item.packages.length) items inputs breakdowns
  | _, _, _, _, _ => []

/-- The row of a new order. -/
def newOrder (shop : Shop) (organizationId : Id) (request : OrderCreateRequest)
    (pricingStops : List StopInput) (pricing : PricingResult) : Order :=
  let orderId := serialNumber "SWC-ORD" 6 (shop.orderSeq + 1)
  let stops := newStops (shop.stopSeq + 1) (shop.packageSeq + 1) request.deliveryStops
    pricingStops pricing.breakdown.stops
  { id := shop.orders.fresh
    orderId := orderId
    organizationId := organizationId
    customerId := none
    paymentMethod := request.paymentMethod
    subtotal := pricing.subtotal
    vatAmount := pricing.vatAmount
    totalAmount := pricing.totalAmount
    priceBreakdown := some { pricing.breakdown with
      id := some shop.orders.fresh
      orderId := some orderId
      stops := stops.filterMap (·.priceBreakdown) }
    status := .pendingPickup
    stops := stops }

/-- The shop with a new order in it. -/
def Shop.addOrder (shop : Shop) (order : Order) (billing : Db) : Shop where
  billing := billing
  orders := shop.orders.insert order
  orderSeq := shop.orderSeq + 1
  stopSeq := shop.stopSeq + order.stops.length
  packageSeq := shop.packageSeq + order.packages.length

/-- The pre-flight check of an order on credit. -/
def assertCredit (env : OrderEnv) (method : PaymentModel) (amount : ℤ) :
    Except ServiceError Unit :=
  if method = .creditAccount then env.assertCanConsume amount else .ok ()

/-- The deduction of an order on credit. -/
def deductCredit (env : OrderEnv) (method : PaymentModel) (invoiceId : Id) (amount : ℤ) :
    Except ServiceError Unit :=
  if method = .creditAccount then env.consumeCredit invoiceId amount else .ok ()

/-- `_record_card_billing_for_order`. -/
def recordCardBillingForOrder (db : Db) (today : Day) (order : Order) (invoiceId : Id)
    (charge : CardCharge) (paymentId : Id) : Except ServiceError Db := do
  let db ← markPaymentStatus db order.organizationId paymentId .deposited
    (some charge.braintreeTransactionId) (some charge.transactionFee)
  let db ← finalize db today invoiceId (some order.organizationId)
  addOrReviseAllocations db today paymentId
    [{ invoiceId := some invoiceId
       allocatedAmount := some (pounds order.totalAmount)
       notes := some ("Auto-allocation for order " ++ order.orderId) }]

/-- The payment of an order by card: a pending payment, the charge of it, and what is
recorded when the charge went through. -/
def payByCard (env : OrderEnv) (db : Db) (today : Day) (order : Order) (invoiceId : Id)
    (paymentMethodNonce : Option String) : Except ServiceError Db :=
  if order.paymentMethod = .card then do
    let paymentId := db.payments.fresh
    let db ← createPendingPayment db order.organizationId (pounds order.totalAmount) today
      .braintree
    raiseIf (stripOrNone paymentMethodNonce = none) (.uncaught "AssertionError")
    raiseIf (order.totalAmount ≤ 0) (invalid "Card payment requires a positive order total")
    let charge ← env.chargeSavedCard paymentId order.totalAmount
    recordCardBillingForOrder db today order invoiceId charge paymentId
  else .ok db

/-- `create_order`. -/
def createOrder (env : OrderEnv) (shop : Shop) (today : Day) (request : OrderCreateRequest) :
    Except ServiceError Shop := do
  raiseIf (request.clientType = .b2c) (invalid "Not yet implemented")
  let organizationId ← orRaise request.organizationId (invalid "organization_id is required")
  let method ← verifyOrgPaymentMethod env organizationId request.paymentMethod
    request.paymentMethodId
  env.assertUsableForOrder
  verifyCard env request
  let inputs := (request.deliveryStops.zipIdx 1).map fun s => s.1.pricingInput s.2
  let ctx ← loadPricingContext env shop organizationId
  validatePackageRestrictions ctx.org inputs
  let pricingStops ← attachEffectivePlans env organizationId inputs
  let pricing ← computePriceBreakdown env.upper ctx today pricingStops none none
  assertCredit env request.paymentMethod pricing.totalAmount
  let dueDate ← invoiceDueDate env method today
  let order := newOrder shop organizationId request pricingStops pricing
  let (billing, invoiceId) ← syncFromOrder shop.billing today order dueDate
  deductCredit env request.paymentMethod invoiceId order.totalAmount
  let billing ← payByCard env billing today order invoiceId request.paymentMethodNonce
  return shop.addOrder order billing

/-! ### Editing an order -/

/-- `PackageUpdateItem`; a field that was not sent is `none`. -/
structure PackageUpdateItem where
  id : Id
  lengthCm : Option ℚ
  widthCm : Option ℚ
  heightCm : Option ℚ
  declaredWeightKg : Option ℚ
  declaredValue : Option ℚ

/-- One round of the loop over the updates, on the package it names. -/
def PackageUpdateItem.apply (update : PackageUpdateItem) (pkg : Package) : Package :=
  { pkg with
    lengthCm := update.lengthCm.or pkg.lengthCm
    widthCm := update.widthCm.or pkg.widthCm
    heightCm := update.heightCm.or pkg.heightCm
    declaredWeightKg := update.declaredWeightKg.or pkg.declaredWeightKg
    declaredValue := update.declaredValue.or pkg.declaredValue }

/-- The loop over the updates, on one package. -/
def applyUpdates (updates : List PackageUpdateItem) (pkg : Package) : Package :=
  updates.foldl (fun pkg update => if update.id = pkg.id then update.apply pkg else pkg) pkg

/-- A stop with its packages updated, when it is the one the updates are for. -/
def updatedStop (stopId : Id) (updates : List PackageUpdateItem) (stop : DeliveryStop) :
    DeliveryStop :=
  if stop.id = stopId then { stop with packages := stop.packages.map (applyUpdates updates) }
  else stop

/-- The stops of an order with the packages of one of them updated. -/
def updatedStops (stops : List DeliveryStop) (stopId : Id)
    (updates : List PackageUpdateItem) : List DeliveryStop :=
  stops.map (updatedStop stopId updates)

/-- The stored breakdown of a stop, which an edit must find. -/
def storedBreakdown (stop : DeliveryStop) : Except ServiceError StopBreakdown :=
  orRaise stop.priceBreakdown (invalid ("Delivery stop " ++ toString stop.id
    ++ " has no pricing snapshot — cannot recompute pricing"))

/-- The stops as `update_stop_packages` hands them to the recomputation: with the stored
plan, and without the stored breakdown. -/
def packageEditInputs (stops : List DeliveryStop) : Except ServiceError (List StopInput) :=
  mapEach (fun s => do
    let breakdown ← storedBreakdown s.1
    return s.1.pricingInput s.2 breakdown.pricingPlan none) (stops.zipIdx 1)

/-- The stops as `update_stop_service_tier` hands them to the recomputation: with the
stored breakdown, and with the new plan at the stop that changes its tier. -/
def tierEditInputs (stops : List DeliveryStop) (stopId : Id) (newPlan : Plan) :
    Except ServiceError (List StopInput) :=
  mapEach (fun s => do
    let breakdown ← storedBreakdown s.1
    return s.1.pricingInput s.2
      (if s.1.id = stopId then newPlan else breakdown.pricingPlan) (some breakdown))
    (stops.zipIdx 1)

/-- The head of either edit: the order, with a stop of that identifier, still to be picked
up. -/
def editableOrder (shop : Shop) (orderId stopId : Id) (what : String) :
    Except ServiceError Order := do
  let order ← orRaise (shop.orders.find? orderId) (.notFound "order" (some orderId))
  raiseIf (∀ s ∈ order.stops, s.id ≠ stopId) (.notFound "delivery_stop" (some stopId))
  raiseIf (order.status ≠ .pendingPickup)
    (invalid (what ++ " while the order is in PENDING_PICKUP (current: '"
      ++ order.status.value ++ "')"))
  return order

/-- The shop with an order written back. -/
def Shop.storeOrder (shop : Shop) (orderId : Id) (order : Order) : Shop :=
  { shop with
    orders := shop.orders.modify orderId (fun o => { order with id := o.id }) fun _ => rfl }

/-- `update_stop_packages`. -/
def updateStopPackages (env : OrderEnv) (shop : Shop) (orderId stopId : Id)
    (packageUpdates : List PackageUpdateItem) : Except ServiceError Shop := do
  let order ← editableOrder shop orderId stopId "Packages can only be edited"
  let targetPackages := (order.stops.filter fun s => s.id = stopId).flatMap (·.packages)
  let missing := (packageUpdates.map (·.id)).filter fun id =>
    id ∉ targetPackages.map (·.id)
  raiseIf (missing ≠ []) (.notFoundAll "package" missing)
  let orderSnapshot ← orRaise order.priceBreakdown (invalid
    "Order has no pricing snapshot — it was created before snapshotted pricing was enabled")
  let stops := updatedStops order.stops stopId packageUpdates
  let pricingStops ← packageEditInputs stops
  let org ← orRaise (env.organization order.organizationId)
    (invalid "Organisation is not active")
  validatePackageRestrictions org pricingStops
  let pricing ← recomputePriceBreakdownFromSnapshot orderSnapshot.snapshot pricingStops
    (some order.id) (some order.orderId)
  return shop.storeOrder orderId (order.storePricing stops pricing).recomputeStatus

/-- The stops of an order with the tier of one of them changed. -/
def retieredStops (stops : List DeliveryStop) (stopId : Id) (tier : EffectiveTier) :
    List DeliveryStop :=
  stops.map fun stop =>
    if stop.id = stopId then { stop with serviceTierId := tier.id, serviceTier := tier.tierName }
    else stop

/-- `update_stop_service_tier`. -/
def updateStopServiceTier (env : OrderEnv) (shop : Shop) (orderId stopId : Id)
    (serviceTierId : String) : Except ServiceError Shop := do
  let order ← editableOrder shop orderId stopId "Service tier can only be changed"
  let orderSnapshot ← orRaise order.priceBreakdown
    (invalid "Order has no pricing snapshot — cannot re-price")
  let newTier ← env.resolveEffectiveTier order.organizationId (some serviceTierId) none
  let stops := retieredStops order.stops stopId newTier
  let pricingStops ← tierEditInputs stops stopId (effectiveTierToPlan newTier)
  let pricing ← recomputePriceBreakdownFromSnapshot orderSnapshot.snapshot pricingStops
    (some order.id) (some order.orderId)
  return shop.storeOrder orderId (order.storePricing stops pricing)

/-! ### Cancelling an order -/

/-- `_assert_order_access_for_mutation`. -/
def assertOrderAccessForMutation (order : Order) (user : User)
    (queryOrganizationId : Option Id) : Except ServiceError Unit :=
  match user.role with
  | .superAdmin | .admin => do
      raiseIf (queryOrganizationId = none)
        (invalid "organization_id is required for admin users")
      raiseIf (some order.organizationId ≠ queryOrganizationId)
        (.notFound "order" (some order.id))
  | .customerB2B | .warehouseStaff =>
      raiseIf (some order.organizationId ≠ user.organizationId)
        (.forbidden "Not allowed to modify this order")
  | .customerB2C =>
      raiseIf (order.customerId ≠ some user.id)
        (.forbidden "Not allowed to modify this order")
  | .driver => .error (.forbidden "Not allowed to modify this order")

/-- `_apply_package_cancellations`: no package may be in a blocking status. -/
def checkCancellable (packages : List Package) : Except ServiceError Unit :=
  checkEach (fun pkg => raiseIf (pkg.status ∈ packageStatusesBlockingCancellation)
    (invalid ("Cannot cancel while package " ++ pkg.packageId ++ " is in status "
      ++ pkg.status.value))) packages

/-- A stop with all its packages cancelled. -/
def DeliveryStop.cancel (stop : DeliveryStop) : DeliveryStop :=
  { stop with
    status := .cancelled
    packages := stop.packages.map fun pkg => { pkg with status := .cancelled } }

/-- The order with every stop cancelled. -/
def Order.cancelStops (order : Order) : Order :=
  { order with stops := order.stops.map DeliveryStop.cancel }

/-- The order with one stop cancelled. -/
def Order.cancelStop (order : Order) (stopId : Id) : Order :=
  { order with
    stops := order.stops.map fun stop => if stop.id = stopId then stop.cancel else stop }

/-- `cancel_order`. -/
def cancelOrder (shop : Shop) (orderId : Id) (user : User)
    (queryOrganizationId : Option Id) : Except ServiceError Shop := do
  let order ← orRaise (shop.orders.find? orderId) (.notFound "order" (some orderId))
  assertOrderAccessForMutation order user queryOrganizationId
  raiseIf (order.status = .cancelled) (invalid "This order is already cancelled")
  raiseIf (order.packages = []) (invalid "This order has no packages to cancel")
  checkCancellable order.packages
  return shop.storeOrder orderId order.cancelStops.recomputeStatus

/-- `cancel_delivery_stop`. A stop that is cancelled already is left as it is. -/
def cancelDeliveryStop (shop : Shop) (orderId stopId : Id) (user : User)
    (queryOrganizationId : Option Id) : Except ServiceError Shop := do
  let order ← orRaise (shop.orders.find? orderId) (.notFound "order" (some orderId))
  assertOrderAccessForMutation order user queryOrganizationId
  let target ← orRaise (order.stops.find? fun s => s.id = stopId)
    (.notFound "delivery_stop" (some stopId))
  raiseIf (target.packages = []) (invalid "This delivery stop has no packages to cancel")
  if (∀ p ∈ target.packages, p.status = .cancelled) ∧ target.status = .cancelled then
    return shop
  else do
    checkCancellable target.packages
    return shop.storeOrder orderId (order.cancelStop stopId).recomputeStatus

/-! ### Requests -/

/-- The requests on orders. -/
inductive OrderOp where
  | createOrder (request : OrderCreateRequest)
  | updateStopPackages (orderId stopId : Id) (packageUpdates : List PackageUpdateItem)
  | updateStopServiceTier (orderId stopId : Id) (serviceTierId : String)
  | cancelOrder (orderId : Id) (user : User) (queryOrganizationId : Option Id)
  | cancelDeliveryStop (orderId stopId : Id) (user : User) (queryOrganizationId : Option Id)

/-- A request with the day and the environment that it meets. -/
structure OrderRequest where
  env : OrderEnv
  today : Day
  op : OrderOp

/-- Serve a request. -/
def OrderRequest.exec (shop : Shop) (request : OrderRequest) : Except ServiceError Shop :=
  match request.op with
  | .createOrder r => createOrder request.env shop request.today r
  | .updateStopPackages orderId stopId updates =>
      updateStopPackages request.env shop orderId stopId updates
  | .updateStopServiceTier orderId stopId tierId =>
      updateStopServiceTier request.env shop orderId stopId tierId
  | .cancelOrder orderId user org => cancelOrder shop orderId user org
  | .cancelDeliveryStop orderId stopId user org =>
      cancelDeliveryStop shop orderId stopId user org

/-- A request that raises is rolled back. -/
def OrderRequest.step (shop : Shop) (request : OrderRequest) : Shop :=
  settle shop (request.exec shop)

end SwCouriers
