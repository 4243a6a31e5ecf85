import SwCouriers.Lib.Histories
import SwCouriers.OrderSoundness

/-!
# Status Timelines

The status of an order, of a stop and of a package is a column, and every change of it is to
leave an event behind. The operations of `OrderService` append the events beside writing the
columns; `update_package_status` and `_execute_change_status` do both. The events of a thing are
a complete history of its status when each starts where the one before it ended and the last ends
at the status that is stored.

The cancellations recompute the status of the order with `record_order_status_event=False`: they
write the column and append no event.

## Main results

* `TimelineOp.exec_parts`: every accepted operation keeps the histories of stops and packages
  complete.
* `TimelineOp.exec_order`: and the history of the order, unless it is a cancellation that changes
  the order's status.
* `TimelineOp.cancelsSilently_of_cancelOrder`: every accepted cancellation of an order does.
* `timelines_complete_iff`: **stops and packages always have complete histories, and the order
  has one exactly as long as no cancellation has changed its status**.
-/

namespace SwCouriers

open Checked Histories

/-! ### Events -/

/-- An order with the events that are stored about it, its stops and its packages. -/
structure Timeline where
  order : Order
  orderEvents : List (Transition OrderStatus)
  stopEvents : List (Id × Transition DeliveryStopStatus)
  packageEvents : List (Id × Transition PackageStatus)

/-- The events that an operation appends. -/
structure NewEvents where
  order : List (Transition OrderStatus)
  stops : List (Id × Transition DeliveryStopStatus)
  packages : List (Id × Transition PackageStatus)

/-- `_append_package_status_event` for each of the packages. -/
def packageEntries (packages : List Package) (status : PackageStatus) :
    List (Id × Transition PackageStatus) :=
  packages.map fun pkg => (pkg.id, ⟨some pkg.status, status⟩)

/-- `_append_delivery_stop_status_event` for each of the stops. -/
def stopEntries (stops : List DeliveryStop) (status : DeliveryStopStatus) :
    List (Id × Transition DeliveryStopStatus) :=
  stops.map fun stop => (stop.id, ⟨some stop.status, status⟩)

/-- The event of a stop whose status was resolved anew, when it is another one. -/
def stopChange (stop : DeliveryStop) (newStatus : Option DeliveryStopStatus) :
    List (Id × Transition DeliveryStopStatus) :=
  (changeOf stop.status newStatus).map fun e => (stop.id, e)

/-- The event of `_recompute_order_status`, when it records one. -/
def orderChange (order after : Order) : List (Transition OrderStatus) :=
  changeOf order.status (resolveOrderStatusFromPackages after.statuses)

/-- Write back the order and append the events. -/
def Timeline.write (t : Timeline) (after : Order) (new : NewEvents) : Timeline where
  order := after
  orderEvents := t.orderEvents ++ new.order
  stopEvents := t.stopEvents ++ new.stops
  packageEvents := t.packageEvents ++ new.packages

/-! ### Operations -/

/-- `cancel_delivery_stop`, on the order. -/
def Order.cancelDeliveryStop (order : Order) (stopId : Id) (user : User)
    (queryOrganizationId : Option Id) : Except ServiceError Order := do
  assertOrderAccessForMutation order user queryOrganizationId
  let target ← orRaise (order.stops.find? fun s => s.id = stopId)
    (.notFound "delivery_stop" (some stopId))
  raiseIf (target.packages = []) (invalid "This delivery stop has no packages to cancel")
  if (∀ p ∈ target.packages, p.status = .cancelled) ∧ target.status = .cancelled then
    return order
  else do
    checkCancellable target.packages
    return (order.cancelStop stopId).recomputeStatus

/-- The package with a key in a new status; nothing else of the order is changed. -/
def Order.movePackage (order : Order) (packageId : Id) (status : PackageStatus) : Order :=
  { order with
    stops := order.stops.map fun stop => stop.move (fun pkg => pkg.id = packageId) status }

/-- What an automated change is made to. -/
inductive StatusTarget where
  | package (packageId : Id) (newStatus : PackageStatus)
  | deliveryStop (stopId : Id) (newStatus : DeliveryStopStatus)
  | bookingOrder (newStatus : OrderStatus)

namespace Timeline

/-- `cancel_order`. Packages and stops that are cancelled already have no event, and the order
has none. -/
def cancelOrder (t : Timeline) (user : User) (queryOrganizationId : Option Id) :
    Except ServiceError Timeline := do
  let after ← t.order.cancelOrder user queryOrganizationId
  return t.write after
    { order := []
      stops := stopEntries (t.order.stops.filter fun s => s.status ≠ .cancelled) .cancelled
      packages := packageEntries (t.order.packages.filter fun p => p.status ≠ .cancelled)
        .cancelled }

/-- `cancel_delivery_stop`. A stop that is cancelled already has no events. -/
def cancelDeliveryStop (t : Timeline) (stopId : Id) (user : User)
    (queryOrganizationId : Option Id) : Except ServiceError Timeline := do
  let after ← t.order.cancelDeliveryStop stopId user queryOrganizationId
  let found ← t.order.getStopOr404 stopId
  return t.write after
    { order := []
      stops := stopEntries ([found].filter fun s => s.status ≠ .cancelled) .cancelled
      packages := packageEntries (found.packages.filter fun p => p.status ≠ .cancelled)
        .cancelled }

/-- `reschedule_stop`. -/
def rescheduleStop (t : Timeline) (stopId : Id) (scheduledFor : Day) :
    Except ServiceError Timeline := do
  let found ← t.order.getStopOr404 stopId
  let after ← t.order.rescheduleStop stopId scheduledFor
  return t.write after
    { order := orderChange t.order after
      stops := stopEntries [found] .deliveryScheduled
      packages := packageEntries
        (found.packages.filter (hasStatus reschedulablePackageStatuses)) .atWarehouse }

/-- `reschedule_package`. -/
def reschedulePackage (t : Timeline) (packageId : Id) (scheduledFor : Day) :
    Except ServiceError Timeline := do
  let found ← t.order.getPackageOr404 packageId
  let after ← t.order.reschedulePackage packageId scheduledFor
  return t.write after
    { order := orderChange t.order after
      stops := stopEntries [found.1] .deliveryScheduled
      packages := packageEntries [found.2] .atWarehouse }

/-- `initiate_package_return`. -/
def initiatePackageReturn (t : Timeline) (ctx : ActionContext) (packageId : Id) :
    Except ServiceError Timeline := do
  let found ← t.order.getPackageOr404 packageId
  let after ← t.order.initiatePackageReturn ctx packageId
  let moved := found.1.move (fun pkg => pkg.id = packageId) .returnInitiated
  return t.write after
    { order := orderChange t.order after
      stops := stopChange found.1
        (resolveStopStatusFromPackages moved.statuses (some .returnInitiated))
      packages := packageEntries [found.2] .returnInitiated }

/-- `initiate_stop_return`. -/
def initiateStopReturn (t : Timeline) (ctx : ActionContext) (stopId : Id) :
    Except ServiceError Timeline := do
  let found ← t.order.getStopOr404 stopId
  let after ← t.order.initiateStopReturn ctx stopId
  let moved := found.move (hasStatus returnablePackageStatuses) .returnInitiated
  return t.write after
    { order := orderChange t.order after
      stops := stopChange found
        (resolveStopStatusFromPackages moved.statuses (some .returnInitiated))
      packages := packageEntries
        (found.packages.filter (hasStatus returnablePackageStatuses)) .returnInitiated }

/-- `resolve_stop_return`. -/
def resolveStopReturn (t : Timeline) (ctx : ActionContext) (stopId : Id)
    (input : ResolveReturnInput) : Except ServiceError Timeline := do
  let found ← t.order.getStopOr404 stopId
  let after ← t.order.resolveStopReturn ctx stopId input
  return t.write after
    { order := orderChange t.order after
      stops := stopEntries [found] input.resolution.stopStatus
      packages := packageEntries
        (found.packages.filter (hasStatus resolvableReturnPackageStatuses))
        input.resolution.packageStatus }

/-- `resolve_package_return`. -/
def resolvePackageReturn (t : Timeline) (ctx : ActionContext) (packageId : Id)
    (input : ResolveReturnInput) : Except ServiceError Timeline := do
  let found ← t.order.getPackageOr404 packageId
  let after ← t.order.resolvePackageReturn ctx packageId input
  let moved := found.1.move (fun pkg => pkg.id = packageId) input.resolution.packageStatus
  return t.write after
    { order := orderChange t.order after
      stops := stopChange found.1
        (resolveStopStatusFromPackages moved.statuses (some found.1.status))
      packages := packageEntries [found.2] input.resolution.packageStatus }

/-- `update_package_status`: nothing happens when the status is the same. -/
def updatePackageStatus (t : Timeline) (packageId : Id) (status : PackageStatus) :
    Except ServiceError Timeline := do
  let found ← t.order.getPackageOr404 packageId
  if found.2.status = status then return t
  return t.write (t.order.movePackage packageId status)
    { order := [], stops := [], packages := packageEntries [found.2] status }

/-- `_execute_change_status`: nothing happens when the status is the same, or the stop is not
there. -/
def executeChangeStatus (t : Timeline) : StatusTarget → Except ServiceError Timeline
  | .package packageId newStatus => t.updatePackageStatus packageId newStatus
  | .deliveryStop stopId newStatus =>
      match t.order.stops.find? fun s => s.id = stopId with
      | none => .ok t
      | some stop =>
          if stop.status = newStatus then .ok t
          else .ok (t.write (t.order.withStop { stop with status := newStatus })
            { order := [], stops := stopEntries [stop] newStatus, packages := [] })
  | .bookingOrder newStatus =>
      if t.order.status = newStatus then .ok t
      else .ok (t.write { t.order with status := newStatus }
        { order := [⟨some t.order.status, newStatus⟩], stops := [], packages := [] })

end Timeline

/-- The operations that change statuses. -/
inductive TimelineOp where
  | cancelOrder (user : User) (queryOrganizationId : Option Id)
  | cancelDeliveryStop (stopId : Id) (user : User) (queryOrganizationId : Option Id)
  | rescheduleStop (stopId : Id) (scheduledFor : Day)
  | reschedulePackage (packageId : Id) (scheduledFor : Day)
  | initiatePackageReturn (ctx : ActionContext) (packageId : Id)
  | initiateStopReturn (ctx : ActionContext) (stopId : Id)
  | resolvePackageReturn (ctx : ActionContext) (packageId : Id) (input : ResolveReturnInput)
  | resolveStopReturn (ctx : ActionContext) (stopId : Id) (input : ResolveReturnInput)
  | updatePackageStatus (packageId : Id) (status : PackageStatus)
  | executeChangeStatus (target : StatusTarget)

/-- Serve a request. -/
def TimelineOp.exec (t : Timeline) : TimelineOp → Except ServiceError Timeline
  | .cancelOrder user org => t.cancelOrder user org
  | .cancelDeliveryStop stopId user org => t.cancelDeliveryStop stopId user org
  | .rescheduleStop stopId scheduledFor => t.rescheduleStop stopId scheduledFor
  | .reschedulePackage packageId scheduledFor => t.reschedulePackage packageId scheduledFor
  | .initiatePackageReturn ctx packageId => t.initiatePackageReturn ctx packageId
  | .initiateStopReturn ctx stopId => t.initiateStopReturn ctx stopId
  | .resolvePackageReturn ctx packageId input => t.resolvePackageReturn ctx packageId input
  | .resolveStopReturn ctx stopId input => t.resolveStopReturn ctx stopId input
  | .updatePackageStatus packageId status => t.updatePackageStatus packageId status
  | .executeChangeStatus target => t.executeChangeStatus target

/-- A request that raises is rolled back. -/
def TimelineOp.step (t : Timeline) (op : TimelineOp) : Timeline :=
  settle t (op.exec t)

/-! ### Complete histories -/

/-- The stops and the packages have keys and complete histories. -/
structure Timeline.Sound (t : Timeline) : Prop where
  keyed : t.order.Keyed
  stops : ∀ stop ∈ t.order.stops, IsHistory (about t.stopEvents stop.id) stop.status
  packages : ∀ pkg ∈ t.order.packages, IsHistory (about t.packageEvents pkg.id) pkg.status

/-- The order has a complete history. -/
def Timeline.OrderComplete (t : Timeline) : Prop := IsHistory t.orderEvents t.order.status

/-- The events that were appended about the order lead from its status to the new one. -/
def Timeline.Advances (t t' : Timeline) : Prop :=
  ∃ new, t'.orderEvents = t.orderEvents ++ new ∧ Continues t.order.status new t'.order.status

theorem Timeline.Advances.refl (t : Timeline) : t.Advances t :=
  ⟨[], (List.append_nil _).symm, continues_nil _⟩

section Moved

variable {t : Timeline} {stop row : DeliveryStop} {targets : Package → Bool}
  {allowed : List PackageStatus} {status : PackageStatus} {after : Order}

/-- The histories of the stops when one of them is written back with its events. -/
theorem Timeline.Sound.stops_withStop (h : t.Sound) (hstop : stop ∈ t.order.stops)
    (hid : row.id = stop.id) {new : List (Transition DeliveryStopStatus)}
    (hnew : Continues stop.status new row.status) :
    ∀ s ∈ (t.order.withStop row).stops,
      IsHistory (about (t.stopEvents ++ new.map fun e => (stop.id, e)) s.id) s.status := by
  intro s' hs'
  obtain ⟨s, hs, rfl⟩ := List.mem_map.mp hs'
  rw [about_append, about_tag]
  by_cases hsid : s.id = row.id
  · rw [if_pos hsid, if_pos hid.symm, hid]
    exact hnew _ (h.stops stop hstop)
  · rw [if_neg hsid, if_neg fun heq => hsid (heq.symm.trans hid.symm), List.append_nil]
    exact h.stops s hs

/-- The histories of the packages when some of one stop are moved, each with its event. -/
theorem Timeline.Sound.packages_moved (h : t.Sound) (hstop : stop ∈ t.order.stops)
    (targets : Package → Bool) (status : PackageStatus) :
    ∀ pkg ∈ movePackages (stop.pick targets) status t.order.packages,
      IsHistory (about (t.packageEvents ++ packageEntries (stop.packages.filter targets) status)
        pkg.id) pkg.status := by
  intro pkg' hpkg'
  obtain ⟨pkg, hpkg, rfl⟩ := List.mem_map.mp hpkg'
  have hmoved : ((stop.packages.filter targets).map (·.id)).Nodup :=
    (h.keyed.packages_of_stop hstop).sublist (List.filter_sublist.map _)
  have hhistory := isHistory_moved h.packages h.keyed.packages
    (fun p hp => Order.mem_packages.mpr ⟨stop, hstop, (List.mem_filter.mp hp).1⟩) hmoved status
    hpkg
  by_cases hpick : pkg.id ∈ (stop.packages.filter targets).map (·.id)
  · rw [if_pos hpick] at hhistory
    rw [if_pos (show pkg.id ∈ stop.pick targets from hpick)]
    exact hhistory
  · rw [if_neg hpick] at hhistory
    rw [if_neg (show pkg.id ∉ stop.pick targets from hpick)]
    exact hhistory

/-- A stop in a new status, with its event. -/
theorem Timeline.Sound.restatused (h : t.Sound) (hstop : stop ∈ t.order.stops)
    (newStatus : DeliveryStopStatus) :
    (t.write (t.order.withStop { stop with status := newStatus })
      { order := [], stops := stopEntries [stop] newStatus, packages := [] }).Sound := by
  have hrow : ({ stop with status := newStatus } : DeliveryStop).packages
      = (stop.move (fun _ => false) .cancelled).packages := (List.map_id stop.packages).symm
  have hpackages : (t.order.withStop { stop with status := newStatus }).packages
      = t.order.packages := by
    rw [packages_withStop h.keyed hstop (by rfl) hrow, DeliveryStop.pick, List.filter_false]
    exact movePackages_nil _ _
  refine ⟨h.keyed.withStop hstop (by rfl) hrow,
    h.stops_withStop hstop (by rfl) (continues_single _ _), fun pkg hpkg => ?_⟩
  change IsHistory (about (t.packageEvents ++ []) pkg.id) pkg.status
  rw [List.append_nil]
  exact h.packages pkg (hpackages ▸ hpkg)

/-- **Moving packages of a stop and recomputing the order**, with the events that go with it. -/
theorem Timeline.Sound.moves (h : t.Sound)
    (hmoves : Moves t.order stop targets allowed status row after)
    {new : List (Transition DeliveryStopStatus)} (hnew : Continues stop.status new row.status) :
    let t' := t.write after
      { order := orderChange t.order after
        stops := new.map fun e => (stop.id, e)
        packages := packageEntries (stop.packages.filter targets) status }
    t'.Sound ∧ t.Advances t' := by
  refine ⟨⟨hmoves.keyed h.keyed, fun s hs => ?_, fun pkg hpkg => ?_⟩, _, rfl, ?_⟩
  · have hstops : after.stops = (t.order.withStop row).stops := by rw [hmoves.result]; rfl
    exact h.stops_withStop hmoves.stop_mem hmoves.row_id hnew s (hstops ▸ hs)
  · have hpackages : after.packages
        = movePackages (stop.pick targets) status t.order.packages := by
      rw [hmoves.result]
      exact packages_withStop h.keyed hmoves.stop_mem hmoves.row_id hmoves.row_packages
    exact h.packages_moved hmoves.stop_mem targets status pkg (hpackages ▸ hpkg)
  · have hstatus : after.status
        = (resolveOrderStatusFromPackages after.statuses).getD t.order.status := by
      rw [hmoves.result]
      rfl
    change Continues t.order.status (orderChange t.order after) after.status
    rw [hstatus]
    exact continues_changeOf _ _

end Moved

section Cancelled

variable {t : Timeline} {picked : List DeliveryStop} {after : Order}

/-- Some stops of an order, cancelled with their packages. -/
structure Cancels (order : Order) (picked : List DeliveryStop) (after : Order) : Prop where
  picked_mem : ∀ stop ∈ picked, stop ∈ order.stops
  picked_nodup : (picked.map (·.id)).Nodup
  packages_nodup : ((picked.flatMap (·.packages)).map (·.id)).Nodup
  result : after.stops = order.stops.map fun stop =>
    if stop.id ∈ picked.map (·.id) then stop.cancel else stop

theorem cancel_ids (stop : DeliveryStop) :
    stop.cancel.packages.map (·.id) = stop.packages.map (·.id) := by
  rw [DeliveryStop.cancel, List.map_map]
  rfl

theorem Cancels.keyed (h : Cancels t.order picked after) (hk : t.order.Keyed) : after.Keyed := by
  constructor
  · rw [h.result, List.map_map]
    have hids : ((fun stop : DeliveryStop => stop.id) ∘ fun stop =>
        if stop.id ∈ picked.map (·.id) then stop.cancel else stop) = (·.id) := by
      funext stop
      rw [Function.comp_apply]
      split_ifs <;> rfl
    rw [hids]
    exact hk.stops
  · have hids : after.packages.map (·.id) = t.order.packages.map (·.id) := by
      rw [Order.packages, h.result, List.flatMap_map, List.map_flatMap, Order.packages,
        List.map_flatMap]
      refine List.flatMap_congr fun stop _ => ?_
      split_ifs
      · exact cancel_ids stop
      · rfl
    exact hids ▸ hk.packages

/-- The histories of the stops: those that are cancelled anew have an event. -/
theorem Timeline.Sound.stops_cancelled (h : t.Sound) (hc : Cancels t.order picked after) :
    ∀ s ∈ after.stops, IsHistory (about (t.stopEvents
      ++ stopEntries (picked.filter fun s => s.status ≠ .cancelled) .cancelled) s.id) s.status := by
  intro s' hs'
  rw [hc.result] at hs'
  obtain ⟨s, hs, rfl⟩ := List.mem_map.mp hs'
  have hhistory := isHistory_settled h.stops h.keyed.stops hc.picked_mem hc.picked_nodup
    .cancelled hs
  by_cases hmem : s.id ∈ picked.map (·.id)
  · rw [if_pos hmem] at hhistory ⊢
    exact hhistory
  · rw [if_neg hmem] at hhistory ⊢
    exact hhistory

/-- The histories of the packages, in the same way. -/
theorem Timeline.Sound.packages_cancelled (h : t.Sound) (hc : Cancels t.order picked after) :
    ∀ pkg ∈ after.packages, IsHistory (about (t.packageEvents
      ++ packageEntries ((picked.flatMap (·.packages)).filter fun p => p.status ≠ .cancelled)
        .cancelled) pkg.id) pkg.status := by
  intro pkg' hpkg'
  obtain ⟨s', hs', hpkg'⟩ := Order.mem_packages.mp hpkg'
  rw [hc.result] at hs'
  obtain ⟨s, hs, rfl⟩ := List.mem_map.mp hs'
  have hsub : ∀ p ∈ picked.flatMap (·.packages), p ∈ t.order.packages := by
    intro p hp
    obtain ⟨row, hrow, hp⟩ := List.mem_flatMap.mp hp
    exact Order.mem_packages.mpr ⟨row, hc.picked_mem row hrow, hp⟩
  have hhistory := fun {p : Package} (hp : p ∈ s.packages) =>
    isHistory_settled h.packages h.keyed.packages hsub hc.packages_nodup .cancelled
      (Order.mem_packages.mpr ⟨s, hs, hp⟩)
  by_cases hmem : s.id ∈ picked.map (·.id)
  · rw [if_pos hmem] at hpkg'
    obtain ⟨pkg, hpkg, rfl⟩ := List.mem_map.mp hpkg'
    obtain ⟨row, hrow, hid⟩ := List.mem_map.mp hmem
    obtain rfl := h.keyed.stop_eq (hc.picked_mem row hrow) hs hid
    have hin : pkg.id ∈ (picked.flatMap (·.packages)).map (·.id) :=
      List.mem_map_of_mem (List.mem_flatMap.mpr ⟨row, hrow, hpkg⟩)
    have hsettled := hhistory hpkg
    rwa [if_pos hin] at hsettled
  · rw [if_neg hmem] at hpkg'
    -- A package of another stop is not among the cancelled ones.
    have hout : pkg'.id ∉ (picked.flatMap (·.packages)).map (·.id) := by
      intro hin
      obtain ⟨p, hp, hid⟩ := List.mem_map.mp hin
      obtain ⟨row, hrow, hp⟩ := List.mem_flatMap.mp hp
      have hsame := h.keyed.stop_of_package (hc.picked_mem row hrow) hs hp hpkg' hid
      exact hmem (hsame ▸ List.mem_map_of_mem hrow)
    have hsettled := hhistory hpkg'
    rwa [if_neg hout] at hsettled

/-- **Cancelling stops**, with the events that go with it. -/
theorem Timeline.Sound.cancels (h : t.Sound) (hc : Cancels t.order picked after) :
    (t.write after
      { order := []
        stops := stopEntries (picked.filter fun s => s.status ≠ .cancelled) .cancelled
        packages := packageEntries
          ((picked.flatMap (·.packages)).filter fun p => p.status ≠ .cancelled)
          .cancelled }).Sound :=
  ⟨hc.keyed h.keyed, h.stops_cancelled hc, h.packages_cancelled hc⟩

end Cancelled

variable {packageId : Id}

/-- The package with a key, as the only one of its stop with the key. -/
theorem filter_id_eq {packages : List Package} {pkg : Package} (hnd : (packages.map (·.id)).Nodup)
    (hpkg : pkg ∈ packages) (hid : pkg.id = packageId) :
    packages.filter (fun p => p.id = packageId) = [pkg] := by
  refine List.perm_singleton.mp ((List.perm_ext_iff_of_nodup
    ((List.Nodup.of_map _ hnd).filter _) (List.nodup_singleton pkg)).mpr fun p => ?_)
  rw [List.mem_filter, decide_eq_true_eq, List.mem_singleton]
  constructor
  · rintro ⟨hp, hpid⟩
    exact List.inj_on_of_nodup_map hnd hp hpkg (hpid.trans hid.symm)
  · rintro rfl
    exact ⟨hpkg, hid⟩

/-- An operation on a package is about the stop that the package was found on. -/
theorem Moves.stop_eq {order after : Order} {stop row : DeliveryStop} {allowed : List PackageStatus}
    {status : PackageStatus} (hk : order.Keyed)
    (h : Moves order stop (fun pkg => pkg.id = packageId) allowed status row after)
    {found : DeliveryStop × Package} (hfound : order.getPackageOr404 packageId = .ok found) :
    stop = found.1 ∧ stop.packages.filter (fun pkg => pkg.id = packageId) = [found.2] := by
  obtain ⟨hstop, hpkg, hid⟩ := Order.getPackageOr404_ok hfound
  obtain ⟨p, hp, hpid⟩ := h.some_target
  have heq := hk.stop_of_package h.stop_mem hstop hp hpkg ((of_decide_eq_true hpid).trans hid.symm)
  refine ⟨heq, ?_⟩
  rw [heq]
  exact filter_id_eq (hk.packages_of_stop hstop) hpkg hid

section Operations

variable {t t' : Timeline}
variable {stopId : Id} {ctx : ActionContext} {user : User} {org : Option Id}

theorem rescheduleStop_sound (h : t.Sound) {scheduledFor : Day}
    (ht : t.rescheduleStop stopId scheduledFor = .ok t') : t'.Sound ∧ t.Advances t' := by
  obtain ⟨found, hfound, ht⟩ := bind_eq_ok.mp ht
  obtain ⟨after, hafter, ht⟩ := bind_eq_ok.mp ht
  obtain rfl := pure_eq_ok.mp ht
  obtain ⟨hmem, hid⟩ := Order.getStopOr404_ok hfound
  obtain ⟨stop, hsid, hmoves⟩ := rescheduleStop_moves hafter
  obtain rfl := h.keyed.stop_eq hmoves.stop_mem hmem (hsid.trans hid.symm)
  exact h.moves hmoves (continues_single _ _)

theorem reschedulePackage_sound (h : t.Sound) {scheduledFor : Day}
    (ht : t.reschedulePackage packageId scheduledFor = .ok t') : t'.Sound ∧ t.Advances t' := by
  obtain ⟨found, hfound, ht⟩ := bind_eq_ok.mp ht
  obtain ⟨after, hafter, ht⟩ := bind_eq_ok.mp ht
  obtain rfl := pure_eq_ok.mp ht
  obtain ⟨stop, hmoves⟩ := reschedulePackage_moves h.keyed hafter
  obtain ⟨rfl, hfilter⟩ := hmoves.stop_eq h.keyed hfound
  rw [← hfilter]
  exact h.moves hmoves (continues_single _ _)

theorem initiatePackageReturn_sound (h : t.Sound)
    (ht : t.initiatePackageReturn ctx packageId = .ok t') : t'.Sound ∧ t.Advances t' := by
  obtain ⟨found, hfound, ht⟩ := bind_eq_ok.mp ht
  obtain ⟨after, hafter, ht⟩ := bind_eq_ok.mp ht
  obtain rfl := pure_eq_ok.mp ht
  obtain ⟨stop, hmoves⟩ := initiatePackageReturn_moves h.keyed hafter
  obtain ⟨rfl, hfilter⟩ := hmoves.stop_eq h.keyed hfound
  rw [← hfilter]
  exact h.moves hmoves (continues_changeOf _ _)

theorem initiateStopReturn_sound (h : t.Sound) (ht : t.initiateStopReturn ctx stopId = .ok t') :
    t'.Sound ∧ t.Advances t' := by
  obtain ⟨found, hfound, ht⟩ := bind_eq_ok.mp ht
  obtain ⟨after, hafter, ht⟩ := bind_eq_ok.mp ht
  obtain rfl := pure_eq_ok.mp ht
  obtain ⟨hmem, hid⟩ := Order.getStopOr404_ok hfound
  obtain ⟨stop, hsid, hmoves⟩ := initiateStopReturn_moves hafter
  obtain rfl := h.keyed.stop_eq hmoves.stop_mem hmem (hsid.trans hid.symm)
  exact h.moves hmoves (continues_changeOf _ _)

theorem resolveStopReturn_sound (h : t.Sound) {input : ResolveReturnInput}
    (ht : t.resolveStopReturn ctx stopId input = .ok t') : t'.Sound ∧ t.Advances t' := by
  obtain ⟨found, hfound, ht⟩ := bind_eq_ok.mp ht
  obtain ⟨after, hafter, ht⟩ := bind_eq_ok.mp ht
  obtain rfl := pure_eq_ok.mp ht
  obtain ⟨hmem, hid⟩ := Order.getStopOr404_ok hfound
  obtain ⟨stop, keys, hsid, -, hmoves⟩ := resolveStopReturn_moves hafter
  obtain rfl := h.keyed.stop_eq hmoves.stop_mem hmem (hsid.trans hid.symm)
  exact h.moves hmoves (continues_single _ _)

theorem resolvePackageReturn_sound (h : t.Sound) {input : ResolveReturnInput}
    (ht : t.resolvePackageReturn ctx packageId input = .ok t') : t'.Sound ∧ t.Advances t' := by
  obtain ⟨found, hfound, ht⟩ := bind_eq_ok.mp ht
  obtain ⟨after, hafter, ht⟩ := bind_eq_ok.mp ht
  obtain rfl := pure_eq_ok.mp ht
  obtain ⟨stop, keys, -, hmoves⟩ := resolvePackageReturn_moves h.keyed hafter
  obtain ⟨rfl, hfilter⟩ := hmoves.stop_eq h.keyed hfound
  rw [← hfilter]
  refine h.moves hmoves ?_
  have hstatuses : (found.1.resolvePackage ctx input packageId).statuses
      = (found.1.move (fun pkg => pkg.id = packageId) input.resolution.packageStatus).statuses :=
    congrArg (List.map Package.status) (resolvePackage_packages ctx input packageId found.1).2
  change Continues found.1.status _ (found.1.resolvePackage ctx input packageId).status
  rw [(resolvePackage_status ctx input packageId found.1).1, hstatuses]
  exact continues_changeOf _ _

theorem cancelOrder_sound (h : t.Sound) (ht : t.cancelOrder user org = .ok t') :
    t'.Sound ∧ t'.orderEvents = t.orderEvents := by
  obtain ⟨after, hafter, ht⟩ := bind_eq_ok.mp ht
  obtain rfl := pure_eq_ok.mp ht
  obtain ⟨-, -, -, rfl⟩ := Order.cancelOrder_ok hafter
  refine ⟨h.cancels ⟨fun _ hs => hs, h.keyed.stops, h.keyed.packages, ?_⟩, List.append_nil _⟩
  exact List.map_congr_left fun stop hs => (if_pos (List.mem_map_of_mem hs)).symm

/-- A stop that is cancelled with all its packages is not changed by cancelling it. -/
theorem cancel_eq_self {stop : DeliveryStop} (hstatus : stop.status = .cancelled)
    (hall : ∀ pkg ∈ stop.packages, pkg.status = .cancelled) : stop.cancel = stop := by
  have hpackages : stop.packages.map (fun pkg => { pkg with status := .cancelled })
      = stop.packages := by
    conv_rhs => rw [← List.map_id stop.packages]
    refine List.map_congr_left fun pkg hpkg => ?_
    rw [← hall pkg hpkg, id_eq]
  rw [DeliveryStop.cancel, hpackages, ← hstatus]

/-- What a delivery stop's cancellation writes back. -/
theorem Order.cancelDeliveryStop_stops {order after : Order} {found : DeliveryStop}
    (hk : order.Keyed) (hfound : order.getStopOr404 stopId = .ok found)
    (hafter : order.cancelDeliveryStop stopId user org = .ok after) :
    after.stops = order.stops.map fun stop => if stop.id = stopId then stop.cancel else stop := by
  replace hafter := ok_of_check hafter
  obtain ⟨target, htarget, hafter⟩ := bind_eq_ok.mp hafter
  replace hafter := ok_of_check hafter
  obtain rfl : target = found := Except.ok.inj (htarget.symm.trans hfound)
  obtain ⟨hmem, hid⟩ := Order.getStopOr404_ok hfound
  split_ifs at hafter with hdone
  · obtain rfl := pure_eq_ok.mp hafter
    conv_lhs => rw [← List.map_id order.stops]
    refine List.map_congr_left fun stop hstop => ?_
    split_ifs with hsid
    · obtain rfl := hk.stop_eq hstop hmem (hsid.trans hid.symm)
      exact (cancel_eq_self hdone.2 hdone.1).symm
    · rfl
  · replace hafter := ok_of_check hafter
    obtain rfl := pure_eq_ok.mp hafter
    rfl

theorem cancelDeliveryStop_sound (h : t.Sound)
    (ht : t.cancelDeliveryStop stopId user org = .ok t') :
    t'.Sound ∧ t'.orderEvents = t.orderEvents := by
  obtain ⟨after, hafter, ht⟩ := bind_eq_ok.mp ht
  obtain ⟨found, hfound, ht⟩ := bind_eq_ok.mp ht
  obtain rfl := pure_eq_ok.mp ht
  obtain ⟨hmem, hid⟩ := Order.getStopOr404_ok hfound
  have hpackages : [found].flatMap (·.packages) = found.packages := List.flatMap_singleton _ _
  refine ⟨?_, List.append_nil _⟩
  rw [← hpackages]
  refine h.cancels ⟨?_, List.nodup_singleton _, ?_, ?_⟩
  · intro s hs
    rwa [List.mem_singleton.mp hs]
  · rw [hpackages]
    exact h.keyed.packages_of_stop hmem
  · rw [Order.cancelDeliveryStop_stops h.keyed hfound hafter]
    refine List.map_congr_left fun stop _ => ?_
    simp only [List.map_cons, List.map_nil, List.mem_singleton, hid]

theorem Order.packages_movePackage (order : Order) (packageId : Id) (status : PackageStatus) :
    (order.movePackage packageId status).packages
      = movePackages [packageId] status order.packages := by
  rw [Order.packages, Order.movePackage, List.flatMap_map, movePackages, Order.packages,
    List.map_flatMap]
  refine List.flatMap_congr fun stop _ => List.map_congr_left fun pkg _ => ?_
  simp only [List.mem_singleton, decide_eq_true_eq]

theorem updatePackageStatus_sound (h : t.Sound) {status : PackageStatus}
    (ht : t.updatePackageStatus packageId status = .ok t') : t'.Sound ∧ t.Advances t' := by
  obtain ⟨found, hfound, ht⟩ := bind_eq_ok.mp ht
  obtain ⟨hstop, hpkg, hid⟩ := Order.getPackageOr404_ok hfound
  have hpackages := Order.packages_movePackage t.order packageId status
  split_ifs at ht with hsame
  · obtain rfl := pure_eq_ok.mp ht
    exact ⟨h, .refl _⟩
  · obtain rfl := pure_eq_ok.mp ht
    refine ⟨⟨⟨?_, ?_⟩, ?_, ?_⟩, [], rfl, continues_nil _⟩
    · have hids : (t.order.movePackage packageId status).stops.map (·.id)
          = t.order.stops.map (·.id) := by
        rw [Order.movePackage, List.map_map]
        rfl
      exact hids ▸ h.keyed.stops
    · have hids : (t.order.movePackage packageId status).packages.map (·.id)
          = t.order.packages.map (·.id) := by
        rw [hpackages, map_id_movePackages]
      exact hids ▸ h.keyed.packages
    · intro s' hs'
      obtain ⟨s, hs, rfl⟩ := List.mem_map.mp hs'
      change IsHistory (about (t.stopEvents ++ []) s.id) s.status
      rw [List.append_nil]
      exact h.stops s hs
    · intro pkg' hpkg'
      obtain ⟨pkg, hin, rfl⟩ := List.mem_map.mp (hpackages ▸ hpkg')
      have hhistory : IsHistory (about (t.packageEvents ++ packageEntries [found.2] status) pkg.id)
          (if pkg.id ∈ [found.2.id] then status else pkg.status) :=
        isHistory_moved h.packages h.keyed.packages
          (fun p hp => List.mem_singleton.mp hp ▸ Order.mem_packages.mpr ⟨found.1, hstop, hpkg⟩)
          (List.nodup_singleton _) status hin
      by_cases hmem : pkg.id ∈ [packageId]
      · rw [if_pos hmem]
        rwa [hid, if_pos hmem] at hhistory
      · rw [if_neg hmem]
        rwa [hid, if_neg hmem] at hhistory

theorem executeChangeStatus_sound (h : t.Sound) {target : StatusTarget}
    (ht : t.executeChangeStatus target = .ok t') : t'.Sound ∧ t.Advances t' := by
  cases target with
  | package packageId newStatus => exact updatePackageStatus_sound h ht
  | deliveryStop stopId newStatus =>
      simp only [Timeline.executeChangeStatus] at ht
      split at ht
      · obtain rfl := Except.ok.inj ht
        exact ⟨h, .refl _⟩
      · rename_i stop hfind
        have hmem := List.mem_of_find?_eq_some hfind
        split_ifs at ht with hsame
        · obtain rfl := Except.ok.inj ht
          exact ⟨h, .refl _⟩
        · obtain rfl := Except.ok.inj ht
          exact ⟨h.restatused hmem newStatus, [], rfl, continues_nil _⟩
  | bookingOrder newStatus =>
      simp only [Timeline.executeChangeStatus] at ht
      split_ifs at ht with hsame
      · obtain rfl := Except.ok.inj ht
        exact ⟨h, .refl _⟩
      · obtain rfl := Except.ok.inj ht
        refine ⟨⟨⟨h.keyed.stops, h.keyed.packages⟩, fun s hs => ?_, fun pkg hpkg => ?_⟩, _, rfl,
          continues_single _ _⟩
        · change IsHistory (about (t.stopEvents ++ []) s.id) s.status
          rw [List.append_nil]
          exact h.stops s hs
        · change IsHistory (about (t.packageEvents ++ []) pkg.id) pkg.status
          rw [List.append_nil]
          exact h.packages pkg hpkg

/-! ### Cancellations without an event -/

/-- An accepted cancellation that writes another status of the order. -/
def TimelineOp.CancelsSilently (t : Timeline) : TimelineOp → Prop
  | .cancelOrder user org => ∃ after, t.order.cancelOrder user org = .ok after ∧
      after.status ≠ t.order.status
  | .cancelDeliveryStop stopId user org => ∃ after,
      t.order.cancelDeliveryStop stopId user org = .ok after ∧ after.status ≠ t.order.status
  | .rescheduleStop .. => False
  | .reschedulePackage .. => False
  | .initiatePackageReturn .. => False
  | .initiateStopReturn .. => False
  | .resolvePackageReturn .. => False
  | .resolveStopReturn .. => False
  | .updatePackageStatus .. => False
  | .executeChangeStatus _ => False

/-- When every package is cancelled, so is the order. -/
theorem resolveOrder_all_cancelled {packages : List PackageStatus} (hsome : packages ≠ [])
    (hall : ∀ s ∈ packages, s = .cancelled) :
    resolveOrderStatusFromPackages packages = some .cancelled := by
  have hpos := List.length_pos_iff.mpr hsome
  have hreturned : countStatuses [.returned, .disposed] packages = 0 :=
    countStatuses_eq_zero fun s hs => hall s hs ▸ by decide
  have hcancelled : countStatuses [.cancelled] packages = packages.length :=
    countStatuses_eq_length_iff.mpr fun s hs => List.mem_singleton.mpr (hall s hs)
  unfold resolveOrderStatusFromPackages
  dsimp only
  rw [if_neg (by omega), if_neg (by omega), if_pos (by omega)]

/-- An accepted cancellation of an order changes its status. -/
theorem TimelineOp.cancelsSilently_of_cancelOrder (ht : t.cancelOrder user org = .ok t') :
    (TimelineOp.cancelOrder user org).CancelsSilently t := by
  obtain ⟨after, hafter, -⟩ := bind_eq_ok.mp ht
  obtain ⟨hopen, hsome, -, rfl⟩ := Order.cancelOrder_ok hafter
  refine ⟨_, hafter, ?_⟩
  have hstatuses : ∀ s ∈ t.order.cancelStops.statuses, s = .cancelled := by
    intro s hs
    obtain ⟨pkg, hpkg, rfl⟩ := List.mem_map.mp hs
    rw [packages_cancelStops] at hpkg
    obtain ⟨pkg, -, rfl⟩ := List.mem_map.mp hpkg
    rfl
  have hnonempty : t.order.cancelStops.statuses ≠ [] := by
    rw [Order.statuses, packages_cancelStops]
    simpa using hsome
  have hstatus : t.order.cancelStops.recomputeStatus.status = .cancelled :=
    congrArg (·.getD t.order.status) (resolveOrder_all_cancelled hnonempty hstatuses)
  rw [hstatus]
  exact fun heq => hopen heq.symm

/-- **Every accepted operation keeps the histories of stops and packages.** -/
theorem TimelineOp.exec_parts (h : t.Sound) {op : TimelineOp} (ht : op.exec t = .ok t') :
    t'.Sound := by
  cases op with
  | cancelOrder user org => exact (cancelOrder_sound h ht).1
  | cancelDeliveryStop stopId user org => exact (cancelDeliveryStop_sound h ht).1
  | rescheduleStop stopId scheduledFor => exact (rescheduleStop_sound h ht).1
  | reschedulePackage packageId scheduledFor => exact (reschedulePackage_sound h ht).1
  | initiatePackageReturn ctx packageId => exact (initiatePackageReturn_sound h ht).1
  | initiateStopReturn ctx stopId => exact (initiateStopReturn_sound h ht).1
  | resolvePackageReturn ctx packageId input => exact (resolvePackageReturn_sound h ht).1
  | resolveStopReturn ctx stopId input => exact (resolveStopReturn_sound h ht).1
  | updatePackageStatus packageId status => exact (updatePackageStatus_sound h ht).1
  | executeChangeStatus target => exact (executeChangeStatus_sound h ht).1

/-- An operation that is not a silent cancellation adds to the history of the order what leads to
its new status. -/
theorem TimelineOp.exec_order (h : t.Sound) {op : TimelineOp} (ht : op.exec t = .ok t')
    (hop : ¬ op.CancelsSilently t) : t.Advances t' := by
  cases op with
  | cancelOrder user org => exact absurd (cancelsSilently_of_cancelOrder ht) hop
  | cancelDeliveryStop stopId user org =>
      obtain ⟨after, hafter, ht⟩ := bind_eq_ok.mp ht
      obtain ⟨found, -, ht⟩ := bind_eq_ok.mp ht
      obtain rfl := pure_eq_ok.mp ht
      have hsame : after.status = t.order.status :=
        not_not.mp fun hne => hop ⟨after, hafter, hne⟩
      refine ⟨[], rfl, ?_⟩
      change Continues t.order.status [] after.status
      rw [hsame]
      exact continues_nil _
  | rescheduleStop stopId scheduledFor => exact (rescheduleStop_sound h ht).2
  | reschedulePackage packageId scheduledFor => exact (reschedulePackage_sound h ht).2
  | initiatePackageReturn ctx packageId => exact (initiatePackageReturn_sound h ht).2
  | initiateStopReturn ctx stopId => exact (initiateStopReturn_sound h ht).2
  | resolvePackageReturn ctx packageId input => exact (resolvePackageReturn_sound h ht).2
  | resolveStopReturn ctx stopId input => exact (resolveStopReturn_sound h ht).2
  | updatePackageStatus packageId status => exact (updatePackageStatus_sound h ht).2
  | executeChangeStatus target => exact (executeChangeStatus_sound h ht).2

/-- A silent cancellation writes another status and leaves the events of the order as they are. -/
theorem TimelineOp.step_silently {op : TimelineOp} (h : t.Sound) (hop : op.CancelsSilently t) :
    (op.step t).orderEvents = t.orderEvents ∧ (op.step t).order.status ≠ t.order.status := by
  cases op with
  | cancelOrder user org =>
      obtain ⟨after, hafter, hne⟩ := hop
      obtain ⟨t', ht, horder⟩ : ∃ t', TimelineOp.exec t (.cancelOrder user org) = .ok t' ∧
          t'.order = after := ⟨_, bind_eq_ok.mpr ⟨after, hafter, rfl⟩, rfl⟩
      rw [TimelineOp.step, ht]
      exact ⟨(cancelOrder_sound h ht).2, horder ▸ hne⟩
  | cancelDeliveryStop stopId user org =>
      obtain ⟨after, hafter, hne⟩ := hop
      have hrest := ok_of_check hafter
      obtain ⟨found, hfound, -⟩ := bind_eq_ok.mp hrest
      obtain ⟨t', ht, horder⟩ : ∃ t',
          TimelineOp.exec t (.cancelDeliveryStop stopId user org) = .ok t' ∧ t'.order = after :=
        ⟨_, bind_eq_ok.mpr ⟨after, hafter, bind_eq_ok.mpr ⟨found, hfound, rfl⟩⟩, rfl⟩
      rw [TimelineOp.step, ht]
      exact ⟨(cancelDeliveryStop_sound h ht).2, horder ▸ hne⟩
  | rescheduleStop stopId scheduledFor => exact hop.elim
  | reschedulePackage packageId scheduledFor => exact hop.elim
  | initiatePackageReturn ctx packageId => exact hop.elim
  | initiateStopReturn ctx stopId => exact hop.elim
  | resolvePackageReturn ctx packageId input => exact hop.elim
  | resolveStopReturn ctx stopId input => exact hop.elim
  | updatePackageStatus packageId status => exact hop.elim
  | executeChangeStatus target => exact hop.elim

theorem TimelineOp.step_sound (h : t.Sound) (op : TimelineOp) : (op.step t).Sound := by
  unfold TimelineOp.step
  cases hexec : op.exec t with
  | error e => exact h
  | ok t' => exact exec_parts h hexec

/-- A step keeps the history of the order complete unless it is a silent cancellation. -/
theorem TimelineOp.step_complete_iff (h : t.Sound) (ho : t.OrderComplete) (op : TimelineOp) :
    (op.step t).OrderComplete ↔ ¬ op.CancelsSilently t := by
  constructor
  · intro hcomplete hop
    obtain ⟨hevents, hne⟩ := step_silently h hop
    rw [Timeline.OrderComplete, hevents] at hcomplete
    exact hne (hcomplete.unique ho)
  · intro hop
    unfold TimelineOp.step
    cases hexec : op.exec t with
    | error e => exact ho
    | ok t' =>
        obtain ⟨new, hevents, hcontinues⟩ := exec_order h hexec hop
        change IsHistory t'.orderEvents t'.order.status
        rw [hevents]
        exact hcontinues _ ho

end Operations

/-- **Complete histories.** Every sequence of operations keeps the histories of all stops and
packages complete, and keeps that of the order complete exactly as long as none of them cancels
silently. -/
theorem timelines_complete_iff {t : Timeline} (h : t.Sound) (ho : t.OrderComplete)
    (ops : List TimelineOp) :
    (∀ pre post, ops = pre ++ post → (Runs.run TimelineOp.step t pre).Sound) ∧
      ((∀ pre post, ops = pre ++ post → (Runs.run TimelineOp.step t pre).OrderComplete) ↔
        Runs.Along TimelineOp.step (fun t op => ¬ op.CancelsSilently t) t ops) := by
  constructor
  · intro pre post _
    exact Runs.run_invariant (I := Timeline.Sound)
      (fun _ op hsound => TimelineOp.step_sound hsound op) h pre
  · exact Runs.forall_prefix_iff_along (I := Timeline.Sound) (M := Timeline.OrderComplete)
      (fun _ op hsound => TimelineOp.step_sound hsound op)
      (fun _ op hsound hcomplete => TimelineOp.step_complete_iff hsound hcomplete op) h ho ops

/-- An order is booked: each thing has the event of its creation. -/
def bookedTimeline (order : Order) : Timeline where
  order := order
  orderEvents := [⟨none, order.status⟩]
  stopEvents := order.stops.map fun stop => (stop.id, ⟨none, stop.status⟩)
  packageEvents := order.packages.map fun pkg => (pkg.id, ⟨none, pkg.status⟩)

/-- What is booked anew has complete histories. -/
theorem bookedTimeline_sound {order : Order} (hk : order.Keyed) : (bookedTimeline order).Sound := by
  refine ⟨hk, fun stop hstop => ?_, fun pkg hpkg => ?_⟩
  · have habout := about_map_of_mem (f := fun s : DeliveryStop => ⟨none, s.status⟩) hk.stops hstop
    rw [bookedTimeline, habout]
    exact isHistory_singleton _ _
  · have habout := about_map_of_mem (f := fun p : Package => ⟨none, p.status⟩) hk.packages hpkg
    rw [bookedTimeline, habout]
    exact isHistory_singleton _ _

/-- A courier fails at the door, the package is brought back to the warehouse and a rule moves
the order on. -/
def missedOps : List TimelineOp :=
  [.updatePackageStatus 1 .customerNotHome, .reschedulePackage 1 10,
    .executeChangeStatus (.bookingOrder .atWarehouse)]

/-- The order in delivery of `missedOps`. -/
def deliveryOrder : Order :=
  singleStopOrder .deliveryInProgress (doorstep 1 .outForDelivery [parcel 1 .outForDelivery])

theorem missed_delivery_is_complete :
    (Runs.run TimelineOp.step (bookedTimeline deliveryOrder) missedOps).OrderComplete ∧
      (Runs.run TimelineOp.step (bookedTimeline deliveryOrder) missedOps).orderEvents.length = 2 :=
  have hsound : (bookedTimeline deliveryOrder).Sound := bookedTimeline_sound ⟨by decide, by decide⟩
  ⟨((timelines_complete_iff hsound (isHistory_singleton _ _) missedOps).2.mpr
    ⟨fun h => h, fun h => h, fun h => h, trivial⟩) missedOps [] rfl, by decide +kernel⟩

/-- An order that waits for its pickup. -/
def waitingOrder : Order :=
  singleStopOrder .pendingPickup (doorstep 1 .pendingPickup [parcel 1 .pendingPickup])

/-- The order is cancelled before its pickup: the last event of the order does not end at the
status that is stored. -/
theorem cancelled_order_has_no_event :
    ¬ ∀ (t : Timeline) (ops : List TimelineOp), t.Sound → t.OrderComplete →
      (Runs.run TimelineOp.step t ops).Sound ∧ (Runs.run TimelineOp.step t ops).OrderComplete := by
  intro hall
  have hsound : (bookedTimeline waitingOrder).Sound := bookedTimeline_sound ⟨by decide, by decide⟩
  have hcomplete := (hall _ [.cancelOrder ⟨9, .superAdmin, none, 1⟩ (some 1)] hsound
    (isHistory_singleton _ _)).2
  have hreaches := hcomplete.reaches
  revert hreaches
  decide +kernel

end SwCouriers
