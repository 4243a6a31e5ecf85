import SwCouriers.OrderReturns

/-!
# Initiated Returns Await a Resolution

A stop stores the resolution of its return once. The resolution is stored when the last
package that awaits one is resolved, and from then on every further call to resolve is
refused. A package whose return is initiated after that can no longer be resolved: nothing
in the two operations that initiate a return looks at the resolution.

## Main results

* `resolvable_iff`: a return can be resolved exactly if no resolution is stored on its stop.
* `returns_resolvable_iff`: along every run the initiated returns can be resolved as long as
  no return is initiated on a stop that has its resolution, and no longer.
-/

namespace SwCouriers

open Checked

/-- Nothing awaits resolution, or none is stored yet. -/
def DeliveryStop.Unlatched (stop : DeliveryStop) : Prop :=
  (∃ pkg ∈ stop.packages, pkg.status = .returnInitiated) → stop.returnResolution = none

/-- Every initiated return can be resolved, together with its stop or on its own, by any
request that is complete. -/
def Order.Resolvable (order : Order) : Prop :=
  ∀ stop ∈ order.stops, ∀ pkg ∈ stop.packages, pkg.status = .returnInitiated →
    stop.returnResolution = none ∧
    ∀ ctx input, (checkEvidence input).isOk = true →
      (uploadEvidence ctx input.evidenceImages).isOk = true →
      (order.resolveStopReturn ctx stop.id input).isOk = true ∧
      (order.resolvePackageReturn ctx pkg.id input).isOk = true

section Lookup

variable {order : Order} {stop : DeliveryStop} {pkg : Package}

theorem Order.Keyed.getStopOr404_eq (hk : order.Keyed) (hstop : stop ∈ order.stops) :
    order.getStopOr404 stop.id = .ok stop := by
  refine orRaise_eq_ok.mpr ?_
  cases hfind : order.stops.find? fun s => s.id = stop.id with
  | none => exact absurd (List.find?_eq_none.mp hfind stop hstop) (by simp)
  | some s =>
      have hid : s.id = stop.id := by simpa using List.find?_some hfind
      rw [hk.stop_eq (List.mem_of_find?_eq_some hfind) hstop hid]

theorem Order.Keyed.getPackageOr404_eq (hk : order.Keyed) (hstop : stop ∈ order.stops)
    (hpkg : pkg ∈ stop.packages) : order.getPackageOr404 pkg.id = .ok (stop, pkg) := by
  refine orRaise_eq_ok.mpr ?_
  cases hfind : order.stops.findSome? fun s =>
      (s.packages.find? fun p => p.id = pkg.id).map fun p => (s, p) with
  | none =>
      have hnone := List.findSome?_eq_none_iff.mp hfind stop hstop
      rw [Option.map_eq_none_iff, List.find?_eq_none] at hnone
      exact absurd (hnone pkg hpkg) (by simp)
  | some found =>
      obtain ⟨s, hs, hfound⟩ := List.exists_of_findSome?_eq_some hfind
      obtain ⟨p, hp, rfl⟩ := Option.map_eq_some_iff.mp hfound
      have hpmem := List.mem_of_find?_eq_some hp
      have hpid : p.id = pkg.id := by simpa using List.find?_some hp
      obtain rfl := hk.stop_of_package hs hstop hpmem hpkg hpid
      rw [hk.package_eq (Order.mem_packages.mpr ⟨s, hs, hpmem⟩)
        (Order.mem_packages.mpr ⟨s, hs, hpkg⟩) hpid]

end Lookup

variable {keys : List String}

section Acceptance

variable {order : Order} {stop : DeliveryStop} {pkg : Package} {ctx : ActionContext}
  {input : ResolveReturnInput}

theorem not_all_of_mem {statuses : List PackageStatus} (hpkg : pkg ∈ stop.packages)
    (hstatus : pkg.status ∈ statuses) :
    ¬ stop.packages.all (fun pkg => !hasStatus statuses pkg) = true := by
  intro hall
  have hnot := List.all_eq_true.mp hall pkg hpkg
  rw [hasStatus, decide_eq_true hstatus] at hnot
  exact absurd hnot (by decide)

theorem resolveStopReturn_eq (hk : order.Keyed) (hstop : stop ∈ order.stops)
    (hpkg : pkg ∈ stop.packages) (hstatus : pkg.status = .returnInitiated)
    (hopen : stop.returnResolution = none) (hcheck : checkEvidence input = .ok ())
    (hupload : uploadEvidence ctx input.evidenceImages = .ok keys) :
    order.resolveStopReturn ctx stop.id input
      = .ok (order.withStop ((stop.resolveReturn ctx input).addEvidence keys)).recomputeStatus := by
  have hawait : pkg.status ∈ resolvableReturnPackageStatuses := by
    rw [hstatus]
    decide
  refine bind_eq_ok.mpr ⟨stop, hk.getStopOr404_eq hstop, ?_⟩
  refine bind_eq_ok.mpr ⟨⟨⟩, raiseIf_eq_ok.mpr (not_all_of_mem hpkg hawait), ?_⟩
  refine bind_eq_ok.mpr ⟨⟨⟩, raiseIf_eq_ok.mpr (not_not.mpr hopen), ?_⟩
  exact bind_eq_ok.mpr ⟨⟨⟩, hcheck, bind_eq_ok.mpr ⟨keys, hupload, rfl⟩⟩

theorem resolvePackageReturn_eq (hk : order.Keyed) (hstop : stop ∈ order.stops)
    (hpkg : pkg ∈ stop.packages) (hstatus : pkg.status = .returnInitiated)
    (hopen : stop.returnResolution = none) (hcheck : checkEvidence input = .ok ())
    (hupload : uploadEvidence ctx input.evidenceImages = .ok keys) :
    order.resolvePackageReturn ctx pkg.id input = .ok (order.withStop
      ((stop.resolvePackage ctx input pkg.id).addEvidence keys)).recomputeStatus := by
  have hawait : pkg.status ∈ resolvableReturnPackageStatuses := by
    rw [hstatus]
    decide
  refine bind_eq_ok.mpr ⟨_, hk.getPackageOr404_eq hstop hpkg, ?_⟩
  refine bind_eq_ok.mpr ⟨⟨⟩, raiseIf_eq_ok.mpr (not_not.mpr hopen), ?_⟩
  refine bind_eq_ok.mpr ⟨⟨⟩, raiseIf_eq_ok.mpr (not_not.mpr hawait), ?_⟩
  exact bind_eq_ok.mpr ⟨⟨⟩, hcheck, bind_eq_ok.mpr ⟨keys, hupload, rfl⟩⟩

/-- A return can be resolved exactly if no resolution is stored on its stop. -/
theorem resolvable_iff (hk : order.Keyed) :
    order.Resolvable ↔ ∀ stop ∈ order.stops, stop.Unlatched := by
  constructor
  · rintro h stop hstop ⟨pkg, hpkg, hstatus⟩
    exact (h stop hstop pkg hpkg hstatus).1
  · intro h stop hstop pkg hpkg hstatus
    have hopen := h stop hstop ⟨pkg, hpkg, hstatus⟩
    refine ⟨hopen, fun ctx input hcheck hupload => ?_⟩
    obtain ⟨⟨⟩, hcheck⟩ := exists_eq_ok hcheck
    obtain ⟨keys, hupload⟩ := exists_eq_ok hupload
    rw [resolveStopReturn_eq hk hstop hpkg hstatus hopen hcheck hupload,
      resolvePackageReturn_eq hk hstop hpkg hstatus hopen hcheck hupload]
    exact ⟨rfl, rfl⟩

end Acceptance

/-! ### Steps -/

/-- The action initiates a return on a stop that has its resolution. -/
def OrderAction.InitiatesLate (order : Order) : OrderAction → Prop
  | .initiatePackageReturn _ packageId => ∃ stop ∈ order.stops, stop.returnResolution ≠ none ∧
      ∃ pkg ∈ stop.packages, pkg.id = packageId ∧ pkg.status ∈ returnablePackageStatuses
  | .initiateStopReturn _ stopId => ∃ stop ∈ order.stops, stop.returnResolution ≠ none ∧
      stop.id = stopId ∧ ∃ pkg ∈ stop.packages, pkg.status ∈ returnablePackageStatuses
  | _ => False

instance OrderAction.InitiatesLate.decidable (order : Order) :
    (action : OrderAction) → Decidable (action.InitiatesLate order)
  | .initiatePackageReturn _ packageId => inferInstanceAs (Decidable (∃ stop ∈ order.stops,
      stop.returnResolution ≠ none ∧ ∃ pkg ∈ stop.packages, pkg.id = packageId ∧
        pkg.status ∈ returnablePackageStatuses))
  | .initiateStopReturn _ stopId => inferInstanceAs (Decidable (∃ stop ∈ order.stops,
      stop.returnResolution ≠ none ∧ stop.id = stopId ∧ ∃ pkg ∈ stop.packages,
        pkg.status ∈ returnablePackageStatuses))
  | .cancelOrder _ _ | .rescheduleStop _ _ | .reschedulePackage _ _
  | .resolvePackageReturn _ _ _ | .resolveStopReturn _ _ _ => .isFalse not_false

section Steps

variable {order after : Order} {stop row : DeliveryStop} {targets : Package → Bool}
  {allowed : List PackageStatus} {status : PackageStatus}

/-- Only the stop that was written back has to be looked at again. -/
theorem Moves.unlatched_iff (h : Moves order stop targets allowed status row after)
    (hall : ∀ s ∈ order.stops, s.Unlatched) :
    (∀ s ∈ after.stops, s.Unlatched) ↔ row.Unlatched := by
  have hstops : after.stops = order.stops.map fun s => if s.id = row.id then row else s := by
    rw [h.result]
    rfl
  rw [hstops, List.forall_mem_map]
  constructor
  · intro hafter
    have hrow := hafter stop h.stop_mem
    rwa [if_pos h.row_id.symm] at hrow
  · intro hrow s hs
    split_ifs
    · exact hrow
    · exact hall s hs

/-- A package that was moved, or was not picked. -/
theorem mem_move_packages {pkg : Package} (h : pkg ∈ (stop.move targets status).packages) :
    pkg.status = status ∨ pkg ∈ stop.packages ∧ targets pkg = false := by
  obtain ⟨p, hp, rfl⟩ := List.mem_map.mp h
  split_ifs with htarget
  · exact .inl rfl
  · exact .inr ⟨hp, by simpa using htarget⟩

theorem Moves.exists_moved (h : Moves order stop targets allowed status row after) :
    ∃ pkg ∈ row.packages, pkg.status = status := by
  obtain ⟨pkg, hpkg, htarget⟩ := h.some_target
  rw [h.row_packages]
  exact ⟨_, List.mem_map_of_mem hpkg, by rw [if_pos htarget]⟩

/-- A move to another status adds no initiated return. -/
theorem Moves.unlatched_of_kept (h : Moves order stop targets allowed status row after)
    (hstatus : status ≠ .returnInitiated) (hkept : row.returnResolution = stop.returnResolution)
    (hstop : stop.Unlatched) : row.Unlatched := by
  rintro ⟨pkg, hpkg, hinitiated⟩
  rw [h.row_packages] at hpkg
  rcases mem_move_packages hpkg with hmoved | ⟨hold, -⟩
  · exact absurd (hmoved.symm.trans hinitiated) hstatus
  · rw [hkept]
    exact hstop ⟨pkg, hold, hinitiated⟩

/-- A move to initiated leaves the stop open exactly if it has no resolution. -/
theorem Moves.unlatched_initiated_iff
    (h : Moves order stop targets allowed .returnInitiated row after)
    (hkept : row.returnResolution = stop.returnResolution) :
    row.Unlatched ↔ stop.returnResolution = none := by
  rw [← hkept]
  exact ⟨fun hrow => hrow h.exists_moved, fun hopen _ => hopen⟩

theorem resolution_ne_returnInitiated (r : ReturnResolution) :
    r.packageStatus ≠ .returnInitiated := by
  cases r <;> decide

theorem unlatched_resolvePackage {ctx : ActionContext} {input : ResolveReturnInput} {packageId : Id}
    (hopen : stop.returnResolution = none) :
    ((stop.resolvePackage ctx input packageId).addEvidence keys).Unlatched := by
  rintro ⟨pkg, hpkg, hinitiated⟩
  have hcount : countStatuses [.returnInitiated]
      (stop.resolvePackage ctx input packageId).statuses ≠ 0 := by
    refine (List.countP_pos_iff.mpr ⟨pkg.status, List.mem_map_of_mem hpkg, ?_⟩).ne'
    rw [hinitiated]
    rfl
  rw [DeliveryStop.addEvidence, (resolvePackage_status ctx input packageId stop).2,
    if_neg hcount, hopen]

theorem unlatched_resolveReturn {ctx : ActionContext} {input : ResolveReturnInput} :
    ((stop.resolveReturn ctx input).addEvidence keys).Unlatched := by
  rintro ⟨pkg, hpkg, hinitiated⟩
  have hpackages : (stop.resolveReturn ctx input).packages = (stop.move
      (hasStatus resolvableReturnPackageStatuses) input.resolution.packageStatus).packages :=
    (recordResolution_packages ctx input _).2.1
  have hpkg : pkg ∈ (stop.resolveReturn ctx input).packages := hpkg
  rw [hpackages] at hpkg
  rcases mem_move_packages hpkg with hmoved | ⟨-, hnot⟩
  · exact absurd (hmoved.symm.trans hinitiated) (resolution_ne_returnInitiated _)
  · rw [hasStatus, hinitiated] at hnot
    exact absurd hnot (by decide)

theorem unlatched_cancelled (order : Order) :
    ∀ s ∈ order.cancelStops.recomputeStatus.stops, s.Unlatched := by
  intro s hs
  obtain ⟨s₀, -, rfl⟩ := List.mem_map.mp hs
  rintro ⟨pkg, hpkg, hinitiated⟩
  obtain ⟨pkg₀, -, rfl⟩ := List.mem_map.mp hpkg
  exact absurd hinitiated (by simp)

end Steps

section Run

variable {order : Order} {ctx : ActionContext}

theorem initiatePackageReturn_eq (hk : order.Keyed) {stop : DeliveryStop} {pkg : Package}
    (hstop : stop ∈ order.stops) (hpkg : pkg ∈ stop.packages)
    (hstatus : pkg.status ∈ returnablePackageStatuses) :
    order.initiatePackageReturn ctx pkg.id = .ok (order.withStop ((stop.move
      (fun p => p.id = pkg.id) .returnInitiated).markReturnInitiated ctx)).recomputeStatus :=
  bind_eq_ok.mpr ⟨_, hk.getPackageOr404_eq hstop hpkg,
    bind_eq_ok.mpr ⟨⟨⟩, raiseIf_eq_ok.mpr (not_not.mpr hstatus), rfl⟩⟩

theorem initiateStopReturn_eq (hk : order.Keyed) {stop : DeliveryStop} {pkg : Package}
    (hstop : stop ∈ order.stops) (hpkg : pkg ∈ stop.packages)
    (hstatus : pkg.status ∈ returnablePackageStatuses) :
    order.initiateStopReturn ctx stop.id = .ok (order.withStop ((stop.move
      (hasStatus returnablePackageStatuses)
      .returnInitiated).markReturnInitiated ctx)).recomputeStatus :=
  bind_eq_ok.mpr ⟨_, hk.getStopOr404_eq hstop,
    bind_eq_ok.mpr ⟨⟨⟩, raiseIf_eq_ok.mpr (not_all_of_mem hpkg hstatus), rfl⟩⟩

theorem reschedulePackage_eq (hk : order.Keyed) {stop : DeliveryStop} {pkg : Package}
    {scheduledFor : Day} (hstop : stop ∈ order.stops) (hpkg : pkg ∈ stop.packages)
    (hstatus : pkg.status ∈ reschedulablePackageStatuses) :
    order.reschedulePackage pkg.id scheduledFor = .ok (order.withStop ((stop.move
      (fun p => p.id = pkg.id) .atWarehouse).rescheduled scheduledFor)).recomputeStatus :=
  bind_eq_ok.mpr ⟨_, hk.getPackageOr404_eq hstop hpkg,
    bind_eq_ok.mpr ⟨⟨⟩, raiseIf_eq_ok.mpr (not_not.mpr hstatus), rfl⟩⟩

theorem rescheduleStop_eq (hk : order.Keyed) {stop : DeliveryStop} {pkg : Package}
    {scheduledFor : Day} (hstop : stop ∈ order.stops) (hpkg : pkg ∈ stop.packages)
    (hstatus : pkg.status ∈ reschedulablePackageStatuses) :
    order.rescheduleStop stop.id scheduledFor = .ok (order.withStop ((stop.move
      (hasStatus reschedulablePackageStatuses)
      .atWarehouse).rescheduled scheduledFor)).recomputeStatus :=
  bind_eq_ok.mpr ⟨_, hk.getStopOr404_eq hstop,
    bind_eq_ok.mpr ⟨⟨⟩, raiseIf_eq_ok.mpr (not_all_of_mem hpkg hstatus), rfl⟩⟩

/-- A late return is accepted. -/
theorem OrderAction.InitiatesLate.isOk (hk : order.Keyed) {action : OrderAction}
    (h : action.InitiatesLate order) : ∃ after, action.exec order = .ok after := by
  cases action with
  | initiatePackageReturn ctx packageId =>
      obtain ⟨stop, hstop, -, pkg, hpkg, rfl, hstatus⟩ := h
      exact ⟨_, initiatePackageReturn_eq hk hstop hpkg hstatus⟩
  | initiateStopReturn ctx stopId =>
      obtain ⟨stop, hstop, -, rfl, pkg, hpkg, hstatus⟩ := h
      exact ⟨_, initiateStopReturn_eq hk hstop hpkg hstatus⟩
  | _ => exact h.elim

/-- An accepted action keeps the initiated returns resolvable exactly if it does not initiate
one late. -/
theorem unlatched_exec_iff (hk : order.Keyed) (hall : ∀ s ∈ order.stops, s.Unlatched)
    {action : OrderAction} {after : Order} (h : action.exec order = .ok after) :
    (∀ s ∈ after.stops, s.Unlatched) ↔ ¬ action.InitiatesLate order := by
  cases action with
  | cancelOrder user org =>
      obtain ⟨-, -, -, rfl⟩ := Order.cancelOrder_ok h
      exact iff_of_true (unlatched_cancelled order) not_false
  | rescheduleStop stopId scheduledFor =>
      obtain ⟨stop, -, hmoves⟩ := rescheduleStop_moves h
      exact iff_of_true ((hmoves.unlatched_iff hall).mpr
        (hmoves.unlatched_of_kept (by decide) rfl (hall stop hmoves.stop_mem))) not_false
  | reschedulePackage packageId scheduledFor =>
      obtain ⟨stop, hmoves⟩ := reschedulePackage_moves hk h
      exact iff_of_true ((hmoves.unlatched_iff hall).mpr
        (hmoves.unlatched_of_kept (by decide) rfl (hall stop hmoves.stop_mem))) not_false
  | initiatePackageReturn ctx packageId =>
      obtain ⟨stop, hmoves⟩ := initiatePackageReturn_moves hk h
      rw [hmoves.unlatched_iff hall, hmoves.unlatched_initiated_iff rfl]
      obtain ⟨pkg, hpkg, hid⟩ := hmoves.some_target
      constructor
      · rintro hopen ⟨s, hs, hlatched, p, hp, hpid, -⟩
        obtain rfl := hk.stop_of_package hs hmoves.stop_mem hp hpkg
          (hpid.trans (of_decide_eq_true hid).symm)
        exact hlatched hopen
      · intro hlate
        by_contra hlatched
        exact hlate ⟨stop, hmoves.stop_mem, hlatched, pkg, hpkg, of_decide_eq_true hid,
          hmoves.all_allowed pkg hpkg hid⟩
  | initiateStopReturn ctx stopId =>
      obtain ⟨stop, hid, hmoves⟩ := initiateStopReturn_moves h
      rw [hmoves.unlatched_iff hall, hmoves.unlatched_initiated_iff rfl]
      constructor
      · rintro hopen ⟨s, hs, hlatched, hsid, -⟩
        obtain rfl := hk.stop_eq hs hmoves.stop_mem (hsid.trans hid.symm)
        exact hlatched hopen
      · intro hlate
        by_contra hlatched
        obtain ⟨pkg, hpkg, htarget⟩ := hmoves.some_target
        exact hlate ⟨stop, hmoves.stop_mem, hlatched, hid, pkg, hpkg,
          hmoves.all_allowed pkg hpkg htarget⟩
  | resolvePackageReturn ctx packageId input =>
      obtain ⟨stop, keys, hopen, hmoves⟩ := resolvePackageReturn_moves hk h
      exact iff_of_true ((hmoves.unlatched_iff hall).mpr
        (unlatched_resolvePackage hopen)) not_false
  | resolveStopReturn ctx stopId input =>
      obtain ⟨stop, keys, -, -, hmoves⟩ := resolveStopReturn_moves h
      exact iff_of_true ((hmoves.unlatched_iff hall).mpr unlatched_resolveReturn) not_false

/-- Taken as a step: a refused action changes nothing, and a late return is never refused. -/
theorem resolvable_step_iff (hk : order.Keyed) (hall : order.Resolvable) (action : OrderAction) :
    (action.step order).Resolvable ↔ ¬ action.InitiatesLate order := by
  unfold OrderAction.step
  cases hexec : action.exec order with
  | ok after =>
      exact (resolvable_iff (OrderAction.exec_keyed hk hexec)).trans
        (unlatched_exec_iff hk ((resolvable_iff hk).mp hall) hexec)
  | error e =>
      refine iff_of_true hall fun hlate => ?_
      obtain ⟨after, hok⟩ := hlate.isOk hk
      exact absurd (hexec.symm.trans hok) nofun

/-- **Returns stay resolvable.** Take any order whose initiated returns can be resolved, and
any sequence of actions on it. In every state of the run the initiated returns can be
resolved, exactly if no action of the run initiates a return on a stop that has its
resolution already. -/
theorem returns_resolvable_iff (hk : order.Keyed)
    (hstops : ∀ stop ∈ order.stops, stop.Unlatched) (actions : List OrderAction) :
    (∀ pre post, actions = pre ++ post → (Runs.run OrderAction.step order pre).Resolvable) ↔
      Runs.Along OrderAction.step (fun o action => ¬ action.InitiatesLate o) order actions :=
  Runs.forall_prefix_iff_along (I := Order.Keyed) (M := Order.Resolvable)
    (fun _ action h => OrderAction.step_keyed h action)
    (fun _ action hkeyed hall => resolvable_step_iff hkeyed hall action) hk
    ((resolvable_iff hk).mpr hstops) actions

end Run

/-! ### A stop with two packages -/

/-- A package of the order below. -/
def parcel (id : Id) (status : PackageStatus) : Package where
  id := id
  packageId := "PKG"
  lengthCm := none
  widthCm := none
  heightCm := none
  declaredWeightKg := none
  declaredValue := none
  status := status
  priceBreakdown := none

/-- A stop without a price. -/
def doorstep (id : Id) (status : DeliveryStopStatus) (packages : List Package) :
    DeliveryStop where
  id := id
  trackingId := "TRK"
  serviceTier := none
  serviceTierId := none
  priceBreakdown := none
  status := status
  packages := packages

/-- An order with one stop. -/
def singleStopOrder (status : OrderStatus) (stop : DeliveryStop) : Order where
  id := 1
  orderId := "ORD"
  organizationId := 1
  customerId := none
  paymentMethod := .cash
  subtotal := 0
  vatAmount := 0
  totalAmount := 0
  priceBreakdown := none
  status := status
  stops := [stop]

/-- The customer was not home for either of two packages. -/
def missedDelivery : Order :=
  singleStopOrder .failed
    (doorstep 1 .failed [parcel 1 .customerNotHome, parcel 2 .customerNotHome])

/-- An administrator at work. -/
def desk : ActionContext where
  userId := 7
  now := 0
  stored := some ["evidence-1"]

/-- A complete request to send a package back. -/
def sendBack : ResolveReturnInput where
  resolution := .returnToSender
  returnDispatchDate := none
  returnCost := none
  waiveReturnCost := true
  returnNotes := none
  disposalReason := none
  resolutionNotes := none
  evidenceImages := []

/-- One package is returned and resolved before the return of the other is initiated: the
other can never be resolved. -/
theorem second_return_is_stuck :
    missedDelivery.Keyed ∧ (∀ stop ∈ missedDelivery.stops, stop.returnResolution = none) ∧
      ¬ (Runs.run OrderAction.step missedDelivery
        [.initiatePackageReturn desk 1, .resolvePackageReturn desk 1 sendBack,
          .initiatePackageReturn desk 2]).Resolvable := by
  refine ⟨⟨by decide, by decide⟩, by decide, fun h => ?_⟩
  have hstuck : ∃ stop ∈ (Runs.run OrderAction.step missedDelivery
      [.initiatePackageReturn desk 1, .resolvePackageReturn desk 1 sendBack,
        .initiatePackageReturn desk 2]).stops, stop.returnResolution ≠ none ∧
      ∃ pkg ∈ stop.packages, pkg.status = .returnInitiated := by decide +kernel
  obtain ⟨stop, hstop, hlatched, pkg, hpkg, hstatus⟩ := hstuck
  exact hlatched (h stop hstop pkg hpkg hstatus).1

/-- When both returns are initiated first, both can be resolved. -/
theorem both_returns_resolvable :
    missedDelivery.Keyed ∧ (∀ stop ∈ missedDelivery.stops, stop.Unlatched) ∧
      (Runs.run OrderAction.step missedDelivery
        [.initiatePackageReturn desk 1, .initiatePackageReturn desk 2]).Resolvable := by
  have hk : missedDelivery.Keyed := ⟨by decide, by decide⟩
  have hstops : ∀ stop ∈ missedDelivery.stops, stop.Unlatched := by
    intro stop hstop _
    obtain rfl := List.mem_singleton.mp hstop
    rfl
  refine ⟨hk, hstops, ?_⟩
  refine (returns_resolvable_iff hk hstops
    [.initiatePackageReturn desk 1, .initiatePackageReturn desk 2]).mpr ?_ _ [] rfl
  decide +kernel

end SwCouriers
