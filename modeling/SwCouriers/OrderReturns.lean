import SwCouriers.Lib.Runs
import SwCouriers.OrderService

/-!
# Rescheduling and Returning

The operations of `OrderService` on an order whose delivery has run into trouble: packages
go out again (`reschedule_stop`, `reschedule_package`), start their way back
(`initiate_package_return`, `initiate_stop_return`) and are sent back or disposed of
(`resolve_package_return`, `resolve_stop_return`). `cancel_order` is here once more, as an
operation on the order alone.

Every package of the model belongs to a stop, as `create_order` has it. An operation works
on the order that its path names; a stop or a package of another order is not found.

## Main results

* `Moves`: what an accepted operation does. It moves some packages of one stop, all in a
  status that allows it, to one new status and then recomputes the status of the order;
  `initiatePackageReturn_moves` and its siblings say so for each operation.
* `packages_withStop`: what that does to the packages of the order.
-/

namespace SwCouriers

open Checked

/-! ### Status of a stop -/

/-- `_resolve_stop_status_from_packages`, on the statuses of the stop's packages. -/
def resolveStopStatusFromPackages (packages : List PackageStatus)
    (activeStatus : Option DeliveryStopStatus) : Option DeliveryStopStatus :=
  let total := packages.length
  let delivered := countStatuses [.deliveredToCustomer, .leftAtSafePlace] packages
  let cancelled := countStatuses [.cancelled] packages
  let returned := countStatuses [.returned] packages
  let disposed := countStatuses [.disposed] packages
  let inTransit := countStatuses [.returnInTransit] packages
  let initiated := countStatuses [.returnInitiated] packages
  let failed := countStatuses failedPackageStatuses packages
  if total = 0 then none
  else if returned = total then some .returned
  else if disposed = total then some .disposed
  else if cancelled = total then some .cancelled
  else if delivered = total then some .delivered
  else if 0 < inTransit ∧ inTransit + returned + disposed = total then some .returnInTransit
  else if 0 < initiated ∧ initiated + returned + disposed + inTransit = total then
    some .returnInitiated
  else if 0 < delivered ∧ delivered + failed + cancelled + returned + disposed + inTransit
      + initiated = total then some .partiallyDelivered
  else if activeStatus.isSome then activeStatus
  else if failed = total then some .failed
  else none

/-- The statuses of a stop's packages. -/
def DeliveryStop.statuses (stop : DeliveryStop) : List PackageStatus :=
  stop.packages.map (·.status)

/-- The statuses of an order's packages. -/
def Order.statuses (order : Order) : List PackageStatus :=
  order.packages.map (·.status)

/-! ### Requests -/

/-- Who acts, when, and which image keys the storage has given to the uploaded evidence;
`none` is an upload that failed altogether. -/
structure ActionContext where
  userId : Id
  now : Instant
  stored : Option (List String)

/-- What a client sends to resolve a return. -/
structure ResolveReturnInput where
  resolution : ReturnResolution
  returnDispatchDate : Option Day
  returnCost : Option ℤ
  waiveReturnCost : Bool
  returnNotes : Option String
  disposalReason : Option DisposalReason
  resolutionNotes : Option String
  /-- The file names of the evidence images. -/
  evidenceImages : List String

/-- `MAX_RETURN_EVIDENCE_IMAGES`. -/
def maxReturnEvidenceImages : ℕ := 5

/-- What becomes of a package. -/
def ReturnResolution.packageStatus : ReturnResolution → PackageStatus
  | .returnToSender => .returnInTransit
  | .dispose => .disposed

/-- What `resolve_stop_return` makes of the stop. -/
def ReturnResolution.stopStatus : ReturnResolution → DeliveryStopStatus
  | .returnToSender => .returnInTransit
  | .dispose => .disposed

/-- The checks of the evidence images. -/
def checkEvidence (input : ResolveReturnInput) : Except ServiceError Unit :=
  match input.resolution with
  | .dispose => do
      raiseIf (input.evidenceImages = [])
        (invalid "Disposal evidence image is required when resolution is DISPOSE")
      raiseIf (maxReturnEvidenceImages < input.evidenceImages.length)
        (invalid "Maximum 5 evidence images allowed")
  | .returnToSender =>
      raiseIf (input.evidenceImages ≠ [])
        (invalid "Evidence images are only allowed when resolution is DISPOSE")

/-- `bulk_upload_images`: nothing is uploaded when there is nothing to upload. -/
def uploadEvidence (ctx : ActionContext) (images : List String) :
    Except ServiceError (List String) :=
  if images = [] then return []
  else orRaise ctx.stored (.uncaught "StorageProviderError")

/-! ### Rows -/

/-- `_get_stop_with_order_or_404`, within the order. -/
def Order.getStopOr404 (order : Order) (stopId : Id) : Except ServiceError DeliveryStop :=
  orRaise (order.stops.find? fun stop => stop.id = stopId)
    (.notFound "delivery_stop" (some stopId))

/-- `_get_package_or_404`, within the order: the package and its stop. -/
def Order.getPackageOr404 (order : Order) (packageId : Id) :
    Except ServiceError (DeliveryStop × Package) :=
  orRaise (order.stops.findSome? fun stop =>
      (stop.packages.find? fun pkg => pkg.id = packageId).map fun pkg => (stop, pkg))
    (.notFound "package" (some packageId))

/-- The order with one stop written back. -/
def Order.withStop (order : Order) (stop : DeliveryStop) : Order :=
  { order with stops := order.stops.map fun s => if s.id = stop.id then stop else s }

/-- The stop with some of its packages in a new status. -/
def DeliveryStop.move (stop : DeliveryStop) (targets : Package → Bool)
    (status : PackageStatus) : DeliveryStop :=
  { stop with
    packages := stop.packages.map fun pkg =>
      if targets pkg then { pkg with status := status } else pkg }

/-- `list_packages_by_stop_and_statuses`, as a test. -/
def hasStatus (statuses : List PackageStatus) (pkg : Package) : Bool := pkg.status ∈ statuses

/-! ### Initiating a return -/

/-- What both operations do to the stop once the packages are moved. -/
def DeliveryStop.markReturnInitiated (ctx : ActionContext) (stop : DeliveryStop) :
    DeliveryStop :=
  { stop with
    status := (resolveStopStatusFromPackages stop.statuses (some .returnInitiated)).getD
      stop.status
    returnInitiatedAt := stop.returnInitiatedAt.or (some ctx.now)
    returnInitiatedById :=
      if stop.returnInitiatedAt.isNone then some ctx.userId else stop.returnInitiatedById }

/-- `initiate_package_return`. -/
def Order.initiatePackageReturn (order : Order) (ctx : ActionContext) (packageId : Id) :
    Except ServiceError Order := do
  let found ← order.getPackageOr404 packageId
  raiseIf (found.2.status ∉ returnablePackageStatuses)
    (invalid ("Cannot initiate return on a package with status '" ++ found.2.status.value
      ++ "'"))
  let stop := (found.1.move (fun pkg => pkg.id = packageId) .returnInitiated).markReturnInitiated
    ctx
  return (order.withStop stop).recomputeStatus

/-- `initiate_stop_return`. -/
def Order.initiateStopReturn (order : Order) (ctx : ActionContext) (stopId : Id) :
    Except ServiceError Order := do
  let found ← order.getStopOr404 stopId
  raiseIf (found.packages.all (fun pkg => !hasStatus returnablePackageStatuses pkg) = true)
    (invalid ("No packages on this stop are eligible for return. Only packages in "
      ++ "CUSTOMER_NOT_HOME, REFUSED_BY_CUSTOMER, MISSING, or DAMAGED can be returned."))
  let stop := (found.move (hasStatus returnablePackageStatuses)
    .returnInitiated).markReturnInitiated ctx
  return (order.withStop stop).recomputeStatus

/-! ### Rescheduling -/

/-- What both operations do to the stop once the packages are moved. -/
def DeliveryStop.rescheduled (scheduledFor : Day) (stop : DeliveryStop) : DeliveryStop :=
  { stop with scheduledFor := some scheduledFor, status := .deliveryScheduled }

/-- `reschedule_package`. -/
def Order.reschedulePackage (order : Order) (packageId : Id) (scheduledFor : Day) :
    Except ServiceError Order := do
  let found ← order.getPackageOr404 packageId
  raiseIf (found.2.status ∉ reschedulablePackageStatuses)
    (invalid ("Cannot reschedule a package with status '" ++ found.2.status.value
      ++ "'. Only packages where the customer was not home can be rescheduled."))
  let stop := (found.1.move (fun pkg => pkg.id = packageId) .atWarehouse).rescheduled
    scheduledFor
  return (order.withStop stop).recomputeStatus

/-- `reschedule_stop`. -/
def Order.rescheduleStop (order : Order) (stopId : Id) (scheduledFor : Day) :
    Except ServiceError Order := do
  let found ← order.getStopOr404 stopId
  raiseIf (found.packages.all (fun pkg => !hasStatus reschedulablePackageStatuses pkg) = true)
    (invalid ("No packages are eligible for reschedule on this stop. Only packages where the "
      ++ "customer was not home can be rescheduled."))
  let stop := (found.move (hasStatus reschedulablePackageStatuses) .atWarehouse).rescheduled
    scheduledFor
  return (order.withStop stop).recomputeStatus

/-! ### Resolving a return -/

/-- The resolution as it is stored on the stop. -/
def DeliveryStop.recordResolution (ctx : ActionContext) (input : ResolveReturnInput)
    (stop : DeliveryStop) : DeliveryStop :=
  let resolved := { stop with
    returnResolution := some input.resolution
    returnResolvedAt := some ctx.now
    returnResolvedById := some ctx.userId }
  match input.resolution with
  | .returnToSender =>
      { resolved with
        returnDispatchDate := input.returnDispatchDate
        returnCostWaived := input.waiveReturnCost
        returnCost := if input.waiveReturnCost then none else input.returnCost
        returnNotes := input.returnNotes
        disposalReason := none }
  | .dispose =>
      { resolved with
        disposalReason := input.disposalReason
        returnNotes := input.resolutionNotes
        returnDispatchDate := none
        returnCost := none
        returnCostWaived := false }

/-- What `resolve_stop_return` does to the stop: every package that awaits resolution is
moved, and the stop takes the status that goes with the resolution. -/
def DeliveryStop.resolveReturn (ctx : ActionContext) (input : ResolveReturnInput)
    (stop : DeliveryStop) : DeliveryStop :=
  { (stop.move (hasStatus resolvableReturnPackageStatuses)
      input.resolution.packageStatus).recordResolution ctx input with
    status := input.resolution.stopStatus }

/-- What `resolve_package_return` does to the stop: one package is moved, the status of the
stop is derived from its packages, and the resolution is stored with the last package. -/
def DeliveryStop.resolvePackage (ctx : ActionContext) (input : ResolveReturnInput)
    (packageId : Id) (stop : DeliveryStop) : DeliveryStop :=
  let moved := stop.move (fun pkg => pkg.id = packageId) input.resolution.packageStatus
  let restated := { moved with
    status := (resolveStopStatusFromPackages moved.statuses (some stop.status)).getD
      stop.status }
  if countStatuses [.returnInitiated] moved.statuses = 0 then
    restated.recordResolution ctx input
  else restated

/-- The uploaded images are listed after those that are there. -/
def DeliveryStop.addEvidence (keys : List String) (stop : DeliveryStop) : DeliveryStop :=
  { stop with returnEvidence := stop.returnEvidence ++ keys }

/-- `resolve_stop_return`. -/
def Order.resolveStopReturn (order : Order) (ctx : ActionContext) (stopId : Id)
    (input : ResolveReturnInput) : Except ServiceError Order := do
  let found ← order.getStopOr404 stopId
  raiseIf (found.packages.all (fun pkg => !hasStatus resolvableReturnPackageStatuses pkg)
      = true)
    (invalid ("No packages on this stop are awaiting return resolution (status "
      ++ "RETURN_INITIATED)."))
  raiseIf (found.returnResolution ≠ none) (invalid "This return has already been resolved")
  checkEvidence input
  let keys ← uploadEvidence ctx input.evidenceImages
  return (order.withStop ((found.resolveReturn ctx input).addEvidence keys)).recomputeStatus

/-- `resolve_package_return`. -/
def Order.resolvePackageReturn (order : Order) (ctx : ActionContext) (packageId : Id)
    (input : ResolveReturnInput) : Except ServiceError Order := do
  let found ← order.getPackageOr404 packageId
  raiseIf (found.1.returnResolution ≠ none) (invalid "This return has already been resolved")
  raiseIf (found.2.status ∉ resolvableReturnPackageStatuses)
    (invalid ("This package is not awaiting return resolution (status must be "
      ++ "RETURN_INITIATED)."))
  checkEvidence input
  let keys ← uploadEvidence ctx input.evidenceImages
  return (order.withStop
    ((found.1.resolvePackage ctx input packageId).addEvidence keys)).recomputeStatus

/-! ### Cancelling -/

/-- `cancel_order`, on the order. -/
def Order.cancelOrder (order : Order) (user : User) (queryOrganizationId : Option Id) :
    Except ServiceError Order := do
  assertOrderAccessForMutation order user queryOrganizationId
  raiseIf (order.status = .cancelled) (invalid "This order is already cancelled")
  raiseIf (order.packages = []) (invalid "This order has no packages to cancel")
  checkCancellable order.packages
  return order.cancelStops.recomputeStatus

/-- The request finds the order and writes back what `Order.cancelOrder` makes of it. -/
theorem cancelOrder_eq (shop : Shop) (orderId : Id) (user : User) (org : Option Id) :
    SwCouriers.cancelOrder shop orderId user org = (do
      let order ← orRaise (shop.orders.find? orderId) (.notFound "order" (some orderId))
      let after ← order.cancelOrder user org
      return shop.storeOrder orderId after) := by
  simp only [SwCouriers.cancelOrder, Order.cancelOrder, bind_assoc, pure_bind]

/-- The operations on an order in trouble. -/
inductive OrderAction where
  | cancelOrder (user : User) (queryOrganizationId : Option Id)
  | rescheduleStop (stopId : Id) (scheduledFor : Day)
  | reschedulePackage (packageId : Id) (scheduledFor : Day)
  | initiatePackageReturn (ctx : ActionContext) (packageId : Id)
  | initiateStopReturn (ctx : ActionContext) (stopId : Id)
  | resolvePackageReturn (ctx : ActionContext) (packageId : Id) (input : ResolveReturnInput)
  | resolveStopReturn (ctx : ActionContext) (stopId : Id) (input : ResolveReturnInput)

/-- Serve a request. -/
def OrderAction.exec (order : Order) : OrderAction → Except ServiceError Order
  | .cancelOrder user org => order.cancelOrder user org
  | .rescheduleStop stopId scheduledFor => order.rescheduleStop stopId scheduledFor
  | .reschedulePackage packageId scheduledFor => order.reschedulePackage packageId scheduledFor
  | .initiatePackageReturn ctx packageId => order.initiatePackageReturn ctx packageId
  | .initiateStopReturn ctx stopId => order.initiateStopReturn ctx stopId
  | .resolvePackageReturn ctx packageId input =>
      order.resolvePackageReturn ctx packageId input
  | .resolveStopReturn ctx stopId input => order.resolveStopReturn ctx stopId input

/-- A request that raises is rolled back. -/
def OrderAction.step (order : Order) (action : OrderAction) : Order :=
  settle order (action.exec order)

/-! ### Keys -/

/-- The primary keys of an order's stops and packages. -/
structure Order.Keyed (order : Order) : Prop where
  stops : (order.stops.map (·.id)).Nodup
  packages : (order.packages.map (·.id)).Nodup

/-- The packages with the listed identifiers in a new status. -/
def movePackages (ids : List Id) (status : PackageStatus) (packages : List Package) :
    List Package :=
  packages.map fun pkg => if pkg.id ∈ ids then { pkg with status := status } else pkg

/-- The identifiers of the packages that an operation picks on a stop. -/
def DeliveryStop.pick (stop : DeliveryStop) (targets : Package → Bool) : List Id :=
  (stop.packages.filter targets).map (·.id)

theorem map_id_movePackages (ids : List Id) (status : PackageStatus)
    (packages : List Package) :
    (movePackages ids status packages).map (·.id) = packages.map (·.id) := by
  rw [movePackages, List.map_map]
  refine List.map_congr_left fun pkg _ => ?_
  rw [Function.comp_apply]
  split_ifs <;> rfl

theorem movePackages_movePackages (ids ids' : List Id) (status : PackageStatus)
    (packages : List Package) :
    movePackages ids status (movePackages ids' status packages)
      = movePackages (ids' ++ ids) status packages := by
  rw [movePackages, movePackages, List.map_map, movePackages]
  refine List.map_congr_left fun pkg _ => ?_
  by_cases h' : pkg.id ∈ ids' <;> by_cases h : pkg.id ∈ ids <;> simp [h, h']

theorem movePackages_nil (status : PackageStatus) (packages : List Package) :
    movePackages [] status packages = packages := by
  simp [movePackages]

/-- A package list depends on which identifiers are listed, not on their order. -/
theorem movePackages_congr {ids ids' : List Id} {packages : List Package}
    (h : ∀ pkg ∈ packages, pkg.id ∈ ids ↔ pkg.id ∈ ids') (status : PackageStatus) :
    movePackages ids status packages = movePackages ids' status packages :=
  List.map_congr_left fun pkg hpkg => by simp only [h pkg hpkg]

variable {pkg : Package}

section Keyed

variable {order : Order} {stop row : DeliveryStop}

theorem Order.mem_packages : pkg ∈ order.packages ↔ ∃ stop ∈ order.stops, pkg ∈ stop.packages :=
  List.mem_flatMap

/-- Two packages of an order with one key are one package. -/
theorem Order.Keyed.package_eq (h : order.Keyed) {pkg' : Package} (hpkg : pkg ∈ order.packages)
    (hpkg' : pkg' ∈ order.packages) (hid : pkg.id = pkg'.id) : pkg = pkg' :=
  List.inj_on_of_nodup_map h.packages hpkg hpkg' hid

theorem Order.Keyed.stop_eq (h : order.Keyed) {s s' : DeliveryStop} (hs : s ∈ order.stops)
    (hs' : s' ∈ order.stops) (hid : s.id = s'.id) : s = s' :=
  List.inj_on_of_nodup_map h.stops hs hs' hid

theorem Order.Keyed.packages_of_stop (h : order.Keyed) (hstop : stop ∈ order.stops) :
    (stop.packages.map (·.id)).Nodup := by
  refine h.packages.sublist (List.Sublist.map _ ?_)
  rw [Order.packages, List.flatMap_def]
  exact List.sublist_flatten_of_mem (List.mem_map_of_mem hstop)

/-- A package belongs to one stop only. -/
theorem Order.Keyed.stop_of_package (h : order.Keyed) {s s' : DeliveryStop} {pkg' : Package}
    (hs : s ∈ order.stops) (hs' : s' ∈ order.stops) (hpkg : pkg ∈ s.packages)
    (hpkg' : pkg' ∈ s'.packages) (hid : pkg.id = pkg'.id) : s = s' := by
  by_contra hne
  have hnodup := h.packages
  rw [Order.packages, List.map_flatMap, List.nodup_flatMap] at hnodup
  have : Std.Symm (Function.onFun List.Disjoint fun s : DeliveryStop => s.packages.map (·.id)) :=
    ⟨fun _ _ hd => hd.symm⟩
  have hdisjoint := hnodup.2.forall hs hs' hne
  exact hdisjoint (List.mem_map_of_mem hpkg) (hid ▸ List.mem_map_of_mem hpkg')

/-- What is moved on a stop is what is moved by key. -/
theorem move_packages_eq (hnd : (stop.packages.map (·.id)).Nodup) (targets : Package → Bool)
    (status : PackageStatus) :
    (stop.move targets status).packages = movePackages (stop.pick targets) status
      stop.packages := by
  refine List.map_congr_left fun pkg hpkg => ?_
  have hpick : pkg.id ∈ stop.pick targets ↔ targets pkg = true := by
    simp only [DeliveryStop.pick, List.mem_map, List.mem_filter]
    constructor
    · rintro ⟨pkg', ⟨hpkg', htarget⟩, hid⟩
      obtain rfl := List.inj_on_of_nodup_map hnd hpkg' hpkg hid
      exact htarget
    · exact fun htarget => ⟨pkg, ⟨hpkg, htarget⟩, rfl⟩
  simp only [hpick]

/-- Writing back a stop with some packages moved moves them in the order. -/
theorem packages_withStop (h : order.Keyed) (hstop : stop ∈ order.stops)
    (hid : row.id = stop.id) {targets : Package → Bool} {status : PackageStatus}
    (hrow : row.packages = (stop.move targets status).packages) :
    (order.withStop row).packages
      = movePackages (stop.pick targets) status order.packages := by
  rw [Order.withStop, Order.packages, List.flatMap_map, movePackages, Order.packages,
    List.map_flatMap]
  refine List.flatMap_congr fun s hs => ?_
  by_cases hsid : s.id = row.id
  · obtain rfl : s = stop := h.stop_eq hs hstop (hsid.trans hid)
    rw [if_pos hsid, hrow, move_packages_eq (h.packages_of_stop hs), movePackages]
  · rw [if_neg hsid]
    -- No package of another stop is picked.
    have hother : ∀ pkg ∈ s.packages, pkg.id ∉ stop.pick targets := by
      intro pkg hpkg hmem
      obtain ⟨pkg', hpkg', hpid⟩ := List.mem_map.mp hmem
      have hsame := h.stop_of_package hs hstop hpkg (List.mem_of_mem_filter hpkg') hpid.symm
      exact hsid (hsame ▸ hid.symm)
    conv_lhs => rw [← List.map_id s.packages]
    exact List.map_congr_left fun pkg hpkg => by rw [if_neg (hother pkg hpkg)]; rfl

/-- Writing back a stop keeps the keys. -/
theorem Order.Keyed.withStop (h : order.Keyed) (hstop : stop ∈ order.stops)
    (hid : row.id = stop.id) {targets : Package → Bool} {status : PackageStatus}
    (hrow : row.packages = (stop.move targets status).packages) :
    (order.withStop row).Keyed := by
  constructor
  · have hids : (order.withStop row).stops.map (·.id) = order.stops.map (·.id) := by
      rw [Order.withStop, List.map_map]
      refine List.map_congr_left fun s _ => ?_
      rw [Function.comp_apply]
      split_ifs with hsid
      · exact hsid.symm
      · rfl
    rw [hids]
    exact h.stops
  · rw [packages_withStop h hstop hid hrow, map_id_movePackages]
    exact h.packages

/-- The packages of a cancelled order. -/
theorem packages_cancelStops (order : Order) :
    order.cancelStops.packages
      = order.packages.map fun pkg => { pkg with status := .cancelled } := by
  rw [Order.cancelStops, Order.packages, List.flatMap_map, Order.packages, List.map_flatMap]
  rfl

/-- Cancelling keeps the keys. -/
theorem Order.Keyed.cancelStops (h : order.Keyed) : order.cancelStops.recomputeStatus.Keyed := by
  constructor
  · have hids : order.cancelStops.stops.map (·.id) = order.stops.map (·.id) := by
      rw [Order.cancelStops, List.map_map]
      rfl
    exact hids ▸ h.stops
  · have hids : order.cancelStops.packages.map (·.id) = order.packages.map (·.id) := by
      rw [packages_cancelStops, List.map_map]
      rfl
    exact hids ▸ h.packages

end Keyed

/-! ### What an accepted operation does -/

/-- Some packages of a stop, all in one of the given statuses, are moved to a new one; the
stop is written back and the status of the order recomputed. -/
structure Moves (order : Order) (stop : DeliveryStop) (targets : Package → Bool)
    (allowed : List PackageStatus) (status : PackageStatus) (row : DeliveryStop)
    (after : Order) : Prop where
  stop_mem : stop ∈ order.stops
  some_target : ∃ pkg ∈ stop.packages, targets pkg = true
  all_allowed : ∀ pkg ∈ stop.packages, targets pkg = true → pkg.status ∈ allowed
  row_id : row.id = stop.id
  row_packages : row.packages = (stop.move targets status).packages
  result : after = (order.withStop row).recomputeStatus

section Operations

variable {order after : Order}
variable {stopId packageId : Id} {ctx : ActionContext}

theorem Order.getStopOr404_ok {stop : DeliveryStop} (h : order.getStopOr404 stopId = .ok stop) :
    stop ∈ order.stops ∧ stop.id = stopId := by
  have hfind := orRaise_eq_ok.mp h
  exact ⟨List.mem_of_find?_eq_some hfind, by simpa using List.find?_some hfind⟩

theorem Order.getPackageOr404_ok {found : DeliveryStop × Package}
    (h : order.getPackageOr404 packageId = .ok found) :
    found.1 ∈ order.stops ∧ found.2 ∈ found.1.packages ∧ found.2.id = packageId := by
  obtain ⟨s, hs, hfound⟩ := List.exists_of_findSome?_eq_some (orRaise_eq_ok.mp h)
  obtain ⟨pkg, hpkg, rfl⟩ := Option.map_eq_some_iff.mp hfound
  exact ⟨hs, List.mem_of_find?_eq_some hpkg, by simpa using List.find?_some hpkg⟩

/-- The packages that share a key with a package in an allowed status. -/
theorem Order.Keyed.allowed_of_id (hk : order.Keyed) {stop : DeliveryStop}
    {allowed : List PackageStatus} (hstop : stop ∈ order.stops) (hpkg : pkg ∈ stop.packages)
    (hid : pkg.id = packageId) (hstatus : pkg.status ∈ allowed) :
    (∃ p ∈ stop.packages, decide (p.id = packageId) = true) ∧
      ∀ p ∈ stop.packages, decide (p.id = packageId) = true → p.status ∈ allowed := by
  refine ⟨⟨pkg, hpkg, decide_eq_true hid⟩, fun p hp hpid => ?_⟩
  obtain rfl : p = pkg := hk.package_eq (Order.mem_packages.mpr ⟨stop, hstop, hp⟩)
    (Order.mem_packages.mpr ⟨stop, hstop, hpkg⟩) ((of_decide_eq_true hpid).trans hid.symm)
  exact hstatus

theorem some_hasStatus_of_not_all {packages : List Package} {statuses : List PackageStatus}
    (h : ¬ packages.all (fun pkg => !hasStatus statuses pkg) = true) :
    ∃ pkg ∈ packages, hasStatus statuses pkg = true := by
  simpa using h

theorem status_mem_of_hasStatus {statuses : List PackageStatus}
    (h : hasStatus statuses pkg = true) : pkg.status ∈ statuses := of_decide_eq_true h

theorem initiatePackageReturn_moves (hk : order.Keyed)
    (h : order.initiatePackageReturn ctx packageId = .ok after) :
    ∃ stop, Moves order stop (fun pkg => pkg.id = packageId) returnablePackageStatuses
      .returnInitiated ((stop.move (fun pkg => pkg.id = packageId)
        .returnInitiated).markReturnInitiated ctx) after := by
  obtain ⟨found, hfound, h⟩ := bind_eq_ok.mp h
  obtain ⟨hstatus, h⟩ := raiseIf_bind_eq_ok.mp h
  obtain ⟨hstop, hpkg, hid⟩ := Order.getPackageOr404_ok hfound
  obtain ⟨hsome, hall⟩ := hk.allowed_of_id hstop hpkg hid (not_not.mp hstatus)
  exact ⟨found.1, hstop, hsome, hall, rfl, rfl, (pure_eq_ok.mp h).symm⟩

theorem initiateStopReturn_moves (h : order.initiateStopReturn ctx stopId = .ok after) :
    ∃ stop, stop.id = stopId ∧ Moves order stop (hasStatus returnablePackageStatuses)
      returnablePackageStatuses .returnInitiated ((stop.move
        (hasStatus returnablePackageStatuses) .returnInitiated).markReturnInitiated ctx)
      after := by
  obtain ⟨stop, hfound, h⟩ := bind_eq_ok.mp h
  obtain ⟨hsome, h⟩ := raiseIf_bind_eq_ok.mp h
  obtain ⟨hstop, hid⟩ := Order.getStopOr404_ok hfound
  exact ⟨stop, hid, hstop, some_hasStatus_of_not_all hsome,
    fun _ _ => status_mem_of_hasStatus, rfl, rfl, (pure_eq_ok.mp h).symm⟩

theorem reschedulePackage_moves (hk : order.Keyed) {scheduledFor : Day}
    (h : order.reschedulePackage packageId scheduledFor = .ok after) :
    ∃ stop, Moves order stop (fun pkg => pkg.id = packageId) reschedulablePackageStatuses
      .atWarehouse ((stop.move (fun pkg => pkg.id = packageId) .atWarehouse).rescheduled
        scheduledFor) after := by
  obtain ⟨found, hfound, h⟩ := bind_eq_ok.mp h
  obtain ⟨hstatus, h⟩ := raiseIf_bind_eq_ok.mp h
  obtain ⟨hstop, hpkg, hid⟩ := Order.getPackageOr404_ok hfound
  obtain ⟨hsome, hall⟩ := hk.allowed_of_id hstop hpkg hid (not_not.mp hstatus)
  exact ⟨found.1, hstop, hsome, hall, rfl, rfl, (pure_eq_ok.mp h).symm⟩

theorem rescheduleStop_moves {scheduledFor : Day}
    (h : order.rescheduleStop stopId scheduledFor = .ok after) :
    ∃ stop, stop.id = stopId ∧ Moves order stop (hasStatus reschedulablePackageStatuses)
      reschedulablePackageStatuses .atWarehouse ((stop.move
        (hasStatus reschedulablePackageStatuses) .atWarehouse).rescheduled scheduledFor)
      after := by
  obtain ⟨stop, hfound, h⟩ := bind_eq_ok.mp h
  obtain ⟨hsome, h⟩ := raiseIf_bind_eq_ok.mp h
  obtain ⟨hstop, hid⟩ := Order.getStopOr404_ok hfound
  exact ⟨stop, hid, hstop, some_hasStatus_of_not_all hsome,
    fun _ _ => status_mem_of_hasStatus, rfl, rfl, (pure_eq_ok.mp h).symm⟩

theorem recordResolution_packages (ctx : ActionContext) (input : ResolveReturnInput)
    (stop : DeliveryStop) : (stop.recordResolution ctx input).id = stop.id ∧
      (stop.recordResolution ctx input).packages = stop.packages ∧
      (stop.recordResolution ctx input).status = stop.status ∧
      (stop.recordResolution ctx input).returnResolution = some input.resolution := by
  unfold DeliveryStop.recordResolution
  cases input.resolution <;> exact ⟨rfl, rfl, rfl, rfl⟩

theorem resolvePackage_packages (ctx : ActionContext) (input : ResolveReturnInput)
    (packageId : Id) (stop : DeliveryStop) :
    (stop.resolvePackage ctx input packageId).id = stop.id ∧
      (stop.resolvePackage ctx input packageId).packages
        = (stop.move (fun pkg => pkg.id = packageId) input.resolution.packageStatus).packages := by
  unfold DeliveryStop.resolvePackage
  dsimp only
  split_ifs
  · exact ⟨(recordResolution_packages ctx input _).1, (recordResolution_packages ctx input _).2.1⟩
  · exact ⟨rfl, rfl⟩

/-- The status of the stop is derived from its packages, and the resolution is stored when
no package awaits one any more. -/
theorem resolvePackage_status (ctx : ActionContext) (input : ResolveReturnInput)
    (packageId : Id) (stop : DeliveryStop) :
    (stop.resolvePackage ctx input packageId).status
        = (resolveStopStatusFromPackages (stop.resolvePackage ctx input packageId).statuses
          (some stop.status)).getD stop.status ∧
      (stop.resolvePackage ctx input packageId).returnResolution
        = if countStatuses [.returnInitiated] (stop.resolvePackage ctx input packageId).statuses
          = 0 then some input.resolution else stop.returnResolution := by
  have hstatuses : (stop.resolvePackage ctx input packageId).statuses
      = (stop.move (fun pkg => pkg.id = packageId) input.resolution.packageStatus).statuses :=
    congrArg (List.map Package.status) (resolvePackage_packages ctx input packageId stop).2
  rw [hstatuses]
  unfold DeliveryStop.resolvePackage
  dsimp only
  split_ifs
  · exact (recordResolution_packages ctx input _).2.2
  · exact ⟨rfl, rfl⟩

theorem resolvePackageReturn_moves (hk : order.Keyed) {input : ResolveReturnInput}
    (h : order.resolvePackageReturn ctx packageId input = .ok after) :
    ∃ stop keys, stop.returnResolution = none ∧
      Moves order stop (fun pkg => pkg.id = packageId) resolvableReturnPackageStatuses
        input.resolution.packageStatus
        ((stop.resolvePackage ctx input packageId).addEvidence keys) after := by
  obtain ⟨found, hfound, h⟩ := bind_eq_ok.mp h
  obtain ⟨hopen, h⟩ := raiseIf_bind_eq_ok.mp h
  obtain ⟨hstatus, h⟩ := raiseIf_bind_eq_ok.mp h
  replace h := ok_of_check h
  obtain ⟨keys, -, h⟩ := bind_eq_ok.mp h
  obtain ⟨hstop, hpkg, hid⟩ := Order.getPackageOr404_ok hfound
  obtain ⟨hsome, hall⟩ := hk.allowed_of_id hstop hpkg hid (not_not.mp hstatus)
  obtain ⟨hrowId, hrowPackages⟩ := resolvePackage_packages ctx input packageId found.1
  exact ⟨found.1, keys, not_not.mp hopen, hstop, hsome, hall, hrowId,
    hrowPackages, (pure_eq_ok.mp h).symm⟩

theorem resolveStopReturn_moves {input : ResolveReturnInput}
    (h : order.resolveStopReturn ctx stopId input = .ok after) :
    ∃ stop keys, stop.id = stopId ∧ stop.returnResolution = none ∧
      Moves order stop (hasStatus resolvableReturnPackageStatuses)
        resolvableReturnPackageStatuses input.resolution.packageStatus
        ((stop.resolveReturn ctx input).addEvidence keys) after := by
  obtain ⟨stop, hfound, h⟩ := bind_eq_ok.mp h
  obtain ⟨hsome, h⟩ := raiseIf_bind_eq_ok.mp h
  obtain ⟨hopen, h⟩ := raiseIf_bind_eq_ok.mp h
  replace h := ok_of_check h
  obtain ⟨keys, -, h⟩ := bind_eq_ok.mp h
  obtain ⟨hstop, hid⟩ := Order.getStopOr404_ok hfound
  exact ⟨stop, keys, hid, not_not.mp hopen, hstop,
    some_hasStatus_of_not_all hsome, fun _ _ => status_mem_of_hasStatus,
    (recordResolution_packages ctx input _).1, (recordResolution_packages ctx input _).2.1,
    (pure_eq_ok.mp h).symm⟩

/-- What a cancelled order has passed. -/
theorem Order.cancelOrder_ok {user : User} {org : Option Id}
    (h : order.cancelOrder user org = .ok after) :
    order.status ≠ .cancelled ∧ order.packages ≠ [] ∧
      (∀ pkg ∈ order.packages, pkg.status ∉ packageStatusesBlockingCancellation) ∧
      after = order.cancelStops.recomputeStatus := by
  replace h := ok_of_check h
  obtain ⟨hopen, h⟩ := raiseIf_bind_eq_ok.mp h
  obtain ⟨hsome, h⟩ := raiseIf_bind_eq_ok.mp h
  obtain ⟨⟨⟩, hcheck, h⟩ := bind_eq_ok.mp h
  refine ⟨hopen, hsome, fun pkg hpkg => ?_,
    (pure_eq_ok.mp h).symm⟩
  exact raiseIf_eq_ok.mp (checkEach_eq_ok.mp hcheck pkg hpkg)

theorem Moves.keyed {stop row : DeliveryStop} {targets : Package → Bool}
    {allowed : List PackageStatus} {status : PackageStatus}
    (h : Moves order stop targets allowed status row after) (hk : order.Keyed) :
    after.Keyed := by
  have hwith := hk.withStop h.stop_mem h.row_id h.row_packages
  rw [h.result]
  exact ⟨hwith.stops, hwith.packages⟩

/-- An accepted action keeps the keys. -/
theorem OrderAction.exec_keyed (hk : order.Keyed) {action : OrderAction}
    (h : action.exec order = .ok after) : after.Keyed := by
  cases action with
  | cancelOrder user org =>
      obtain ⟨-, -, -, rfl⟩ := Order.cancelOrder_ok h
      exact hk.cancelStops
  | rescheduleStop stopId scheduledFor =>
      obtain ⟨stop, -, hmoves⟩ := rescheduleStop_moves h
      exact hmoves.keyed hk
  | reschedulePackage packageId scheduledFor =>
      obtain ⟨stop, hmoves⟩ := reschedulePackage_moves hk h
      exact hmoves.keyed hk
  | initiatePackageReturn ctx packageId =>
      obtain ⟨stop, hmoves⟩ := initiatePackageReturn_moves hk h
      exact hmoves.keyed hk
  | initiateStopReturn ctx stopId =>
      obtain ⟨stop, -, hmoves⟩ := initiateStopReturn_moves h
      exact hmoves.keyed hk
  | resolvePackageReturn ctx packageId input =>
      obtain ⟨stop, keys, -, hmoves⟩ := resolvePackageReturn_moves hk h
      exact hmoves.keyed hk
  | resolveStopReturn ctx stopId input =>
      obtain ⟨stop, keys, -, -, hmoves⟩ := resolveStopReturn_moves h
      exact hmoves.keyed hk

/-- So does a request, accepted or not. -/
theorem OrderAction.step_keyed (hk : order.Keyed) (action : OrderAction) :
    (action.step order).Keyed := by
  unfold OrderAction.step
  cases hexec : action.exec order with
  | error e => exact hk
  | ok after => exact OrderAction.exec_keyed hk hexec

end Operations

end SwCouriers
