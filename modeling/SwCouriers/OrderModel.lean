import SwCouriers.BillingModel
import SwCouriers.Pricing

/-!
# The Order Data Model

The rows of `app/modules/orders/models.py`, as far as pricing, editing and cancelling an
order read them: an order, its delivery stops and their packages, each with the price
breakdown that was stored on it.

A stop is kept inside its order and a package inside its stop, in the order in which they
were created; that is how `get_order_with_stops_and_packages` returns them.
-/

namespace SwCouriers

open Checked

/-! ### Enumerations -/

/-- `OrderStatus`. -/
inductive OrderStatus where
  | pendingPickup | pickupScheduled | enroutePickup | enrouteWarehouse | atWarehouse
  | sortingInProgress | deliveryInProgress | partiallyDelivered | delivered | failed
  | returnInProgress | returnInTransit | returned | cancelled
  deriving DecidableEq, Repr

/-- The value of an order status. -/
def OrderStatus.value : OrderStatus → String
  | .pendingPickup => "PENDING_PICKUP"
  | .pickupScheduled => "PICKUP_SCHEDULED"
  | .enroutePickup => "ENROUTE_PICKUP"
  | .enrouteWarehouse => "ENROUTE_WAREHOUSE"
  | .atWarehouse => "AT_WAREHOUSE"
  | .sortingInProgress => "SORTING_IN_PROGRESS"
  | .deliveryInProgress => "DELIVERY_IN_PROGRESS"
  | .partiallyDelivered => "PARTIALLY_DELIVERED"
  | .delivered => "DELIVERED"
  | .failed => "FAILED"
  | .returnInProgress => "RETURN_IN_PROGRESS"
  | .returnInTransit => "RETURN_IN_TRANSIT"
  | .returned => "RETURNED"
  | .cancelled => "CANCELLED"

/-- `DeliveryStopStatus`. -/
inductive DeliveryStopStatus where
  | pendingPickup | pickupScheduled | enroutePickup | enrouteWarehouse | atWarehouse
  | sortingInProgress | deliveryScheduled | loadedForDelivery | outForDelivery | delivered
  | partiallyDelivered | deliveryAttempt1Failed | deliveryAttempt2Failed
  | deliveryAttempt3Failed | mixed | failed | cancelled | returnInitiated
  | returnInTransit | returned | disposed
  deriving DecidableEq, Repr

/-- `PackageStatus`. -/
inductive PackageStatus where
  | pendingPickup | pickupScheduled | enroutePickup | enrouteWarehouse | atWarehouse
  | sortingInProgress | deliveryScheduled | loadedForDelivery | outForDelivery
  | deliveredToCustomer | customerNotHome | refusedByCustomer | missing | damaged
  | leftAtSafePlace | returnInitiated | returnInTransit | returned | cancelled | disposed
  deriving DecidableEq, Repr

/-- The value of a package status. -/
def PackageStatus.value : PackageStatus → String
  | .pendingPickup => "PENDING_PICKUP"
  | .pickupScheduled => "PICKUP_SCHEDULED"
  | .enroutePickup => "ENROUTE_PICKUP"
  | .enrouteWarehouse => "ENROUTE_WAREHOUSE"
  | .atWarehouse => "AT_WAREHOUSE"
  | .sortingInProgress => "SORTING_IN_PROGRESS"
  | .deliveryScheduled => "DELIVERY_SCHEDULED"
  | .loadedForDelivery => "LOADED_FOR_DELIVERY"
  | .outForDelivery => "OUT_FOR_DELIVERY"
  | .deliveredToCustomer => "DELIVERED_TO_CUSTOMER"
  | .customerNotHome => "CUSTOMER_NOT_HOME"
  | .refusedByCustomer => "REFUSED_BY_CUSTOMER"
  | .missing => "MISSING"
  | .damaged => "DAMAGED"
  | .leftAtSafePlace => "LEFT_AT_SAFE_PLACE"
  | .returnInitiated => "RETURN_INITIATED"
  | .returnInTransit => "RETURN_IN_TRANSIT"
  | .returned => "RETURNED"
  | .cancelled => "CANCELLED"
  | .disposed => "DISPOSED"

/-- `FAILED_PACKAGE_STATUSES`. -/
def failedPackageStatuses : List PackageStatus :=
  [.customerNotHome, .refusedByCustomer, .missing, .damaged, .cancelled]

/-- `RETURN_IN_TRANSIT_STATUSES`. -/
def returnInTransitStatuses : List PackageStatus :=
  [.returnInitiated, .returnInTransit]

/-- `PACKAGE_STATUSES_BLOCKING_CANCELLATION`. -/
def packageStatusesBlockingCancellation : List PackageStatus :=
  [.deliveredToCustomer, .leftAtSafePlace, .returned, .disposed, .returnInTransit,
    .returnInitiated]

/-- `RESCHEDULABLE_PACKAGE_STATUSES`. -/
def reschedulablePackageStatuses : List PackageStatus := [.customerNotHome]

/-- `RETURNABLE_PACKAGE_STATUSES`. -/
def returnablePackageStatuses : List PackageStatus :=
  [.customerNotHome, .refusedByCustomer, .missing, .damaged]

/-- `RESOLVABLE_RETURN_PACKAGE_STATUSES`. -/
def resolvableReturnPackageStatuses : List PackageStatus := [.returnInitiated]

/-- `ReturnResolution`. -/
inductive ReturnResolution where
  | returnToSender | dispose
  deriving DecidableEq, Repr

/-- `DisposalReason`. -/
inductive DisposalReason where
  | damagedParcel | abandoned | operationalInstruction | other
  deriving DecidableEq, Repr

/-- `PaymentModel`. -/
inductive PaymentModel where
  | card | bankTransfer | creditAccount | cash
  deriving DecidableEq, Repr

/-- The value of a payment model. -/
def PaymentModel.value : PaymentModel → String
  | .card => "CARD"
  | .bankTransfer => "BANK_TRANSFER"
  | .creditAccount => "CREDIT_ACCOUNT"
  | .cash => "CASH"

/-- `ClientTypeEnum`. -/
inductive OrderClientType where
  | b2b | b2c
  deriving DecidableEq, Repr

/-! ### Rows -/

/-- A package. -/
structure Package where
  id : Id
  packageId : String
  lengthCm : Option ℚ
  widthCm : Option ℚ
  heightCm : Option ℚ
  declaredWeightKg : Option ℚ
  declaredValue : Option ℚ
  status : PackageStatus
  priceBreakdown : Option PackageBreakdown
  deriving DecidableEq

/-- A delivery stop with its packages. -/
structure DeliveryStop where
  id : Id
  trackingId : String
  serviceTier : Option String
  serviceTierId : Option String
  priceBreakdown : Option StopBreakdown
  status : DeliveryStopStatus
  packages : List Package
  scheduledFor : Option Day := none
  returnInitiatedAt : Option Instant := none
  returnInitiatedById : Option Id := none
  returnResolvedAt : Option Instant := none
  returnResolvedById : Option Id := none
  returnResolution : Option ReturnResolution := none
  returnDispatchDate : Option Day := none
  returnCost : Option ℤ := none
  returnCostWaived : Bool := false
  returnNotes : Option String := none
  disposalReason : Option DisposalReason := none
  /-- The image keys of the `DeliveryStopReturnEvidenceImage` rows, in their sort order. -/
  returnEvidence : List String := []
  deriving DecidableEq

/-- An order with its stops. -/
structure Order where
  id : Id
  orderId : String
  organizationId : Id
  customerId : Option Id
  paymentMethod : PaymentModel
  subtotal : ℤ
  vatAmount : ℤ
  totalAmount : ℤ
  priceBreakdown : Option OrderBreakdown
  status : OrderStatus
  stops : List DeliveryStop
  deriving DecidableEq

/-- The database of orders beside that of billing. Stops and packages take their
identifiers from a sequence each. -/
structure Shop where
  billing : Db
  orders : Table Order.id
  orderSeq : ℕ
  stopSeq : ℕ
  packageSeq : ℕ

/-- A shop without orders and without billing documents. -/
def Shop.initial (users : TableOf User) : Shop where
  billing := .initial users
  orders := .empty
  orderSeq := 0
  stopSeq := 0
  packageSeq := 0

/-- All packages of an order. -/
def Order.packages (order : Order) : List Package :=
  order.stops.flatMap (·.packages)

/-! ### Status -/

/-- `breakdown.get(status, 0)`, summed over a list of statuses. -/
def countStatuses (statuses : List PackageStatus) (packages : List PackageStatus) : ℕ :=
  packages.countP fun s => s ∈ statuses

/-- `_resolve_order_status_from_packages`, on the statuses of the order's packages. -/
def resolveOrderStatusFromPackages (packages : List PackageStatus) : Option OrderStatus :=
  let total := packages.length
  let delivered := countStatuses [.deliveredToCustomer, .leftAtSafePlace] packages
  let cancelled := countStatuses [.cancelled] packages
  let returned := countStatuses [.returned, .disposed] packages
  let returnInFlight := countStatuses returnInTransitStatuses packages
  let failed := countStatuses failedPackageStatuses packages
  if total = 0 then none
  else if returned = total then some .returned
  else if cancelled = total then some .cancelled
  else if delivered = total then some .delivered
  else if 0 < returnInFlight ∧ returnInFlight + returned = total then some .returnInProgress
  else if 0 < delivered ∧
      delivered + failed + cancelled + returned + returnInFlight = total then
    some .partiallyDelivered
  else if failed = total then some .failed
  else none

/-- `_recompute_order_status`. -/
def Order.recomputeStatus (order : Order) : Order :=
  { order with
    status := (resolveOrderStatusFromPackages (order.packages.map (·.status))).getD
      order.status }

/-! ### Pricing inputs -/

/-- The `PackageInput` of a stored package. -/
def Package.pricingInput (pkg : Package) (index : ℕ) : PackageInput where
  index := index
  declaredWeightKg := pkg.declaredWeightKg
  lengthCm := pkg.lengthCm
  widthCm := pkg.widthCm
  heightCm := pkg.heightCm
  packageUuid := some pkg.id
  packageRef := some pkg.packageId

/-- The `StopInput` of a stored stop, with the plan and the breakdown that an edit passes. -/
def DeliveryStop.pricingInput (stop : DeliveryStop) (index : ℕ) (resolvedPlan : Plan)
    (priceBreakdown : Option StopBreakdown) : StopInput where
  index := index
  serviceTierName := stop.serviceTier
  serviceTierId := stop.serviceTierId
  packages := (stop.packages.zipIdx 1).map fun p => p.1.pricingInput p.2
  stopUuid := some stop.id
  trackingId := some stop.trackingId
  priceBreakdown := priceBreakdown
  resolvedPlan := some resolvedPlan

/-- What an edit writes back to a stop: the new breakdown, and each package's own. -/
def DeliveryStop.storeBreakdown (stop : DeliveryStop) (breakdown : StopBreakdown) :
    DeliveryStop :=
  { stop with
    priceBreakdown := some breakdown
    packages := List.zipWith
      (fun pkg entry => { pkg with priceBreakdown := some entry }) stop.packages
      breakdown.packages }

/-- What a re-pricing writes back to an order. -/
def Order.storePricing (order : Order) (stops : List DeliveryStop) (pricing : PricingResult) :
    Order :=
  { order with
    stops := List.zipWith DeliveryStop.storeBreakdown stops pricing.breakdown.stops
    subtotal := pricing.subtotal
    vatAmount := pricing.vatAmount
    totalAmount := pricing.totalAmount
    priceBreakdown := some pricing.breakdown }

end SwCouriers
