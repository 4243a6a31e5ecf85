import SwCouriers.ReturnLatch

/-!
# Resolving a Return at Once or Package by Package

`resolve_stop_return` resolves every package of a stop that awaits it; `resolve_package_return`
resolves one. The first assigns the status of the stop from the resolution, the second
derives it from the packages. Both leave the same packages, the same stored resolution and
the same order status. The status of the stop is the same only on some stops, which is what
`DeliveryStop.ResolvesAlike` says.

## Main results

* `Shifted`: how the counts of the statuses change when packages are resolved.
* `resolvedStatus`: the status that resolving package by package ends in, in any order.
* `resolutions_agree_iff`: the two ways agree exactly on the stops of `ResolvesAlike`.
-/

namespace SwCouriers

open Checked

/-! ### Counting statuses -/

/-- The statuses of a package on its way back, or past it. -/
def returnFlowStatuses : List PackageStatus :=
  [.returnInitiated, .returnInTransit, .returned, .disposed]

/-- `DELIVERED_TO_CUSTOMER` and `LEFT_AT_SAFE_PLACE`. -/
def deliveredStatuses : List PackageStatus := [.deliveredToCustomer, .leftAtSafePlace]

theorem countStatuses_append (statuses packages packages' : List PackageStatus) :
    countStatuses statuses (packages ++ packages')
      = countStatuses statuses packages + countStatuses statuses packages' :=
  List.countP_append

theorem countStatuses_cons (statuses : List PackageStatus) (s : PackageStatus)
    (packages : List PackageStatus) :
    countStatuses statuses (s :: packages)
      = countStatuses statuses packages + (if s ∈ statuses then 1 else 0) := by
  simp only [countStatuses, List.countP_cons, decide_eq_true_eq]

/-- Delivered, failed and returning packages are different packages. -/
theorem countStatuses_disjoint (packages : List PackageStatus) :
    countStatuses deliveredStatuses packages + countStatuses failedPackageStatuses packages
      + countStatuses returnFlowStatuses packages ≤ packages.length := by
  induction packages with
  | nil => exact Nat.le_refl _
  | cons s packages ih =>
      simp only [countStatuses_cons, List.length_cons]
      have hone : (if s ∈ deliveredStatuses then 1 else 0)
          + (if s ∈ failedPackageStatuses then 1 else 0)
          + (if s ∈ returnFlowStatuses then 1 else 0) ≤ 1 := by
        cases s <;> decide
      omega

theorem countStatuses_cancelled_le (packages : List PackageStatus) :
    countStatuses [.cancelled] packages ≤ countStatuses failedPackageStatuses packages := by
  refine List.countP_mono_left fun s _ hs => ?_
  obtain rfl : s = .cancelled := by simpa using hs
  rfl

/-- The packages in the return flow, status by status. -/
theorem countStatuses_returnFlow (packages : List PackageStatus) :
    countStatuses returnFlowStatuses packages
      = countStatuses [.returnInitiated] packages + countStatuses [.returnInTransit] packages
        + countStatuses [.returned] packages + countStatuses [.disposed] packages := by
  induction packages with
  | nil => rfl
  | cons s packages ih =>
      simp only [countStatuses_cons]
      have hone : (if s ∈ returnFlowStatuses then 1 else 0)
          = (if s ∈ [PackageStatus.returnInitiated] then 1 else 0)
            + (if s ∈ [PackageStatus.returnInTransit] then 1 else 0)
            + (if s ∈ [PackageStatus.returned] then 1 else 0)
            + (if s ∈ [PackageStatus.disposed] then 1 else 0) := by
        cases s <;> decide
      omega

/-- `packages'` is `packages` with some number of initiated returns in a new status. -/
structure Shifted (moved : ℕ) (status : PackageStatus) (packages packages' : List PackageStatus) :
    Prop where
  length_eq : packages'.length = packages.length
  count_eq : ∀ statuses, countStatuses statuses packages'
      + (if .returnInitiated ∈ statuses then moved else 0)
    = countStatuses statuses packages + (if status ∈ statuses then moved else 0)

theorem Shifted.trans {m n : ℕ} {status : PackageStatus} {l l' l'' : List PackageStatus}
    (h : Shifted m status l l') (h' : Shifted n status l' l'') : Shifted (m + n) status l l'' := by
  refine ⟨h'.length_eq.trans h.length_eq, fun statuses => ?_⟩
  have hfirst := h.count_eq statuses
  have hsecond := h'.count_eq statuses
  split_ifs at hfirst hsecond ⊢ <;> omega

/-- Moving one package that awaits resolution. -/
theorem shifted_movePackages {packages : List Package} (hnd : (packages.map (·.id)).Nodup)
    {pkg : Package} (hpkg : pkg ∈ packages) (hstatus : pkg.status = .returnInitiated)
    (status : PackageStatus) :
    Shifted 1 status (packages.map (·.status))
      ((movePackages [pkg.id] status packages).map (·.status)) := by
  obtain ⟨before, behind, rfl⟩ := List.append_of_mem hpkg
  have hother : ∀ p ∈ before ++ behind, p.id ≠ pkg.id := by
    have hnd' := (List.perm_middle.map fun p : Package => p.id).nodup_iff.mp hnd
    intro p hp hid
    exact (List.nodup_cons.mp hnd').1 (List.mem_map.mpr ⟨p, hp, hid⟩)
  have hkept : ∀ {ps : List Package}, (∀ p ∈ ps, p.id ≠ pkg.id) →
      movePackages [pkg.id] status ps = ps := by
    intro ps hps
    conv_rhs => rw [← List.map_id ps]
    exact List.map_congr_left fun p hp => by simp [hps p hp]
  have hmoved : movePackages [pkg.id] status (before ++ pkg :: behind)
      = before ++ { pkg with status := status } :: behind := by
    rw [movePackages, List.map_append, List.map_cons, ← movePackages, ← movePackages,
      hkept fun p hp => hother p (List.mem_append_left _ hp),
      hkept fun p hp => hother p (List.mem_append_right _ hp)]
    simp
  rw [hmoved]
  constructor
  · simp
  · intro statuses
    simp only [List.map_append, List.map_cons, countStatuses_append, countStatuses_cons, hstatus]
    split_ifs <;> omega

/-! ### The status of the stop -/

/-- The stop counts as partially delivered: some packages are delivered, and the counts of
the others add up as the code adds them, cancelled packages twice. -/
def PartlyDelivered (packages : List PackageStatus) : Prop :=
  0 < countStatuses deliveredStatuses packages ∧
    countStatuses deliveredStatuses packages + countStatuses failedPackageStatuses packages
      + countStatuses [.cancelled] packages + countStatuses returnFlowStatuses packages
      = packages.length

instance (packages : List PackageStatus) : Decidable (PartlyDelivered packages) :=
  inferInstanceAs (Decidable (_ ∧ _))

/-- The status of a stop after its packages that await resolution were resolved one by
one. -/
def resolvedStatus (resolution : ReturnResolution) (packages : List PackageStatus)
    (status : DeliveryStopStatus) : DeliveryStopStatus :=
  if countStatuses returnFlowStatuses packages = packages.length then
    match resolution with
    | .returnToSender => .returnInTransit
    | .dispose =>
        if countStatuses [.disposed] packages + countStatuses [.returnInitiated] packages
          = packages.length then .disposed
        else if 0 < countStatuses [.returnInTransit] packages then .returnInTransit
        else if 1 < countStatuses [.returnInitiated] packages then .returnInitiated
        else status
  else if PartlyDelivered packages then .partiallyDelivered
  else status

section Status

variable {packages packages' : List PackageStatus} {status : DeliveryStopStatus}

/-- The counts after one package was resolved. -/
theorem Shifted.counts {resolution : ReturnResolution}
    (h : Shifted 1 resolution.packageStatus packages packages') :
    countStatuses [.returnInitiated] packages' + 1 = countStatuses [.returnInitiated] packages ∧
      countStatuses [.returnInTransit] packages' = countStatuses [.returnInTransit] packages
        + (if resolution = .returnToSender then 1 else 0) ∧
      countStatuses [.disposed] packages' = countStatuses [.disposed] packages
        + (if resolution = .dispose then 1 else 0) ∧
      countStatuses [.returned] packages' = countStatuses [.returned] packages ∧
      countStatuses [.cancelled] packages' = countStatuses [.cancelled] packages ∧
      countStatuses deliveredStatuses packages' = countStatuses deliveredStatuses packages ∧
      countStatuses failedPackageStatuses packages'
        = countStatuses failedPackageStatuses packages := by
  have hinitiated := h.count_eq [.returnInitiated]
  have htransit := h.count_eq [.returnInTransit]
  have hdisposed := h.count_eq [.disposed]
  have hreturned := h.count_eq [.returned]
  have hcancelled := h.count_eq [.cancelled]
  have hdelivered := h.count_eq deliveredStatuses
  have hfailed := h.count_eq failedPackageStatuses
  cases resolution <;>
    simp [ReturnResolution.packageStatus, deliveredStatuses, failedPackageStatuses] at * <;>
    omega

/-- Resolving a package leaves it in the return flow. -/
theorem Shifted.returnFlow_eq {resolution : ReturnResolution}
    (h : Shifted 1 resolution.packageStatus packages packages') :
    countStatuses returnFlowStatuses packages' = countStatuses returnFlowStatuses packages := by
  have hcount := h.count_eq returnFlowStatuses
  cases resolution <;> exact Nat.add_right_cancel hcount

/-- With packages in the return flow that are not all returned, a stop is disposed of, on its way
back, waiting for a resolution or partially delivered, or it keeps its status. -/
theorem resolveStop_of_returning (hsome : 0 < countStatuses returnFlowStatuses packages)
    (hreturned : countStatuses [.returned] packages ≠ packages.length) :
    (resolveStopStatusFromPackages packages (some status)).getD status
      = if countStatuses [.disposed] packages = packages.length then .disposed
        else if 0 < countStatuses [.returnInTransit] packages ∧
            countStatuses [.returnInTransit] packages + countStatuses [.returned] packages
              + countStatuses [.disposed] packages = packages.length then .returnInTransit
        else if 0 < countStatuses [.returnInitiated] packages ∧
            countStatuses returnFlowStatuses packages = packages.length then .returnInitiated
        else if PartlyDelivered packages then .partiallyDelivered
        else status := by
  have hflow := countStatuses_returnFlow packages
  have hbound := countStatuses_disjoint packages
  have hcancel := countStatuses_cancelled_le packages
  -- what the code adds up is the return flow, and with the others what `PartlyDelivered` adds up
  have hwaiting : countStatuses [.returnInitiated] packages + countStatuses [.returned] packages
      + countStatuses [.disposed] packages + countStatuses [.returnInTransit] packages
      = countStatuses returnFlowStatuses packages := by omega
  have hpartly : (0 < countStatuses deliveredStatuses packages ∧
      countStatuses deliveredStatuses packages + countStatuses failedPackageStatuses packages
        + countStatuses [.cancelled] packages + countStatuses [.returned] packages
        + countStatuses [.disposed] packages + countStatuses [.returnInTransit] packages
        + countStatuses [.returnInitiated] packages = packages.length) ↔
      PartlyDelivered packages := by
    rw [PartlyDelivered]
    omega
  unfold resolveStopStatusFromPackages
  rw [← deliveredStatuses]
  dsimp only
  rw [if_neg (by omega), if_neg hreturned]
  simp only [hwaiting, hpartly, Option.isSome_some, if_true]
  rw [if_neg (by omega : ¬ countStatuses [.cancelled] packages = packages.length),
    if_neg (by omega : ¬ countStatuses deliveredStatuses packages = packages.length)]
  split_ifs <;> rfl

/-- Outside the return flow a stop with returning packages is partially delivered or keeps
its status. -/
theorem resolveStop_of_mixed (hsome : 0 < countStatuses returnFlowStatuses packages)
    (hmixed : countStatuses returnFlowStatuses packages ≠ packages.length) :
    (resolveStopStatusFromPackages packages (some status)).getD status
      = if PartlyDelivered packages then .partiallyDelivered else status := by
  have hflow := countStatuses_returnFlow packages
  have hbound := countStatuses_disjoint packages
  rw [resolveStop_of_returning hsome (by omega), if_neg (by omega), if_neg (by omega),
    if_neg (by omega)]

section Flow

variable (hall : countStatuses returnFlowStatuses packages = packages.length)
include hall

theorem resolveStop_of_initiated (hinitiated : 0 < countStatuses [.returnInitiated] packages) :
    (resolveStopStatusFromPackages packages (some status)).getD status = .returnInitiated := by
  have hflow := countStatuses_returnFlow packages
  rw [resolveStop_of_returning (by omega) (by omega), if_neg (by omega), if_neg (by omega),
    if_pos ⟨hinitiated, hall⟩]

theorem resolveStop_of_inTransit (hinitiated : countStatuses [.returnInitiated] packages = 0)
    (htransit : 0 < countStatuses [.returnInTransit] packages) :
    (resolveStopStatusFromPackages packages (some status)).getD status = .returnInTransit := by
  have hflow := countStatuses_returnFlow packages
  rw [resolveStop_of_returning (by omega) (by omega), if_neg (by omega),
    if_pos ⟨htransit, by omega⟩]

/-- With nothing on its way, a stop is disposed of when every package is; a mix of returned
and disposed packages keeps the status of the stop. -/
theorem resolveStop_of_settled (hinitiated : countStatuses [.returnInitiated] packages = 0)
    (htransit : countStatuses [.returnInTransit] packages = 0)
    (hdisposed : 0 < countStatuses [.disposed] packages) :
    (resolveStopStatusFromPackages packages (some status)).getD status
      = if countStatuses [.disposed] packages = packages.length then .disposed else status := by
  have hflow := countStatuses_returnFlow packages
  have hbound := countStatuses_disjoint packages
  have hpartly : ¬ PartlyDelivered packages := fun h => by
    have hdelivered := h.1
    omega
  rw [resolveStop_of_returning (by omega) (by omega),
    if_neg (by omega : ¬ (0 < countStatuses [.returnInTransit] packages ∧ _)),
    if_neg (by omega : ¬ (0 < countStatuses [.returnInitiated] packages ∧ _)), if_neg hpartly]

end Flow

/-- Resolving the last package ends in the resolved status. -/
theorem resolvedStatus_last {resolution : ReturnResolution}
    (h : Shifted 1 resolution.packageStatus packages packages')
    (hlast : countStatuses [.returnInitiated] packages' = 0) :
    (resolveStopStatusFromPackages packages' (some status)).getD status
      = resolvedStatus resolution packages status := by
  obtain ⟨hinitiated, htransit, hdisposed, hreturned, hcancelled, hdelivered, hfailed⟩ :=
    h.counts
  have hlength := h.length_eq
  have hflow := countStatuses_returnFlow packages
  have hflow' := countStatuses_returnFlow packages'
  unfold resolvedStatus
  by_cases hall : countStatuses returnFlowStatuses packages = packages.length
  · rw [if_pos hall]
    cases resolution with
    | returnToSender =>
        simp only [reduceCtorEq, if_true, if_false] at htransit hdisposed
        exact resolveStop_of_inTransit (by omega) hlast (by omega)
    | dispose =>
        simp only [reduceCtorEq, if_true, if_false] at htransit hdisposed ⊢
        by_cases htrans : 0 < countStatuses [.returnInTransit] packages
        · rw [resolveStop_of_inTransit (by omega) hlast (by omega), if_neg (by omega),
            if_pos htrans]
        · rw [resolveStop_of_settled (by omega) hlast (by omega) (by omega), if_neg htrans,
            if_neg (by omega : ¬ 1 < _)]
          exact if_congr (by omega) rfl rfl
  · have hsum := h.returnFlow_eq
    rw [if_neg hall, resolveStop_of_mixed (by omega) (by omega)]
    exact if_congr (by rw [PartlyDelivered, PartlyDelivered]; omega) rfl rfl

/-- Resolving a package before the last does not change what the stop ends in. -/
theorem resolvedStatus_step {resolution : ReturnResolution}
    (h : Shifted 1 resolution.packageStatus packages packages')
    (hmore : 0 < countStatuses [.returnInitiated] packages') :
    resolvedStatus resolution packages'
        ((resolveStopStatusFromPackages packages' (some status)).getD status)
      = resolvedStatus resolution packages status := by
  obtain ⟨hinitiated, htransit, hdisposed, hreturned, hcancelled, hdelivered, hfailed⟩ :=
    h.counts
  have hlength := h.length_eq
  have hflow := countStatuses_returnFlow packages
  have hflow' := countStatuses_returnFlow packages'
  have hsum := h.returnFlow_eq
  unfold resolvedStatus
  by_cases hall : countStatuses returnFlowStatuses packages = packages.length
  · rw [if_pos hall, if_pos (by omega), resolveStop_of_initiated (by omega) hmore]
    cases resolution with
    | returnToSender => rfl
    | dispose =>
        simp only [reduceCtorEq, if_true, if_false] at htransit hdisposed ⊢
        rw [if_pos (by omega : 1 < countStatuses [.returnInitiated] packages), ite_self]
        refine if_congr (by omega) rfl (if_congr (by omega) rfl rfl)
  · rw [if_neg hall, if_neg (by omega), resolveStop_of_mixed (by omega) (by omega)]
    have hpartly : PartlyDelivered packages' ↔ PartlyDelivered packages := by
      rw [PartlyDelivered, PartlyDelivered]
      omega
    simp only [hpartly]
    split_ifs <;> rfl

end Status

/-! ### The status of the order -/

theorem countStatuses_inFlight (packages : List PackageStatus) :
    countStatuses returnInTransitStatuses packages + countStatuses [.returned, .disposed] packages
      = countStatuses returnFlowStatuses packages := by
  induction packages with
  | nil => rfl
  | cons s packages ih =>
      simp only [countStatuses_cons]
      have hone : (if s ∈ returnInTransitStatuses then 1 else 0)
          + (if s ∈ [PackageStatus.returned, PackageStatus.disposed] then 1 else 0)
          = (if s ∈ returnFlowStatuses then 1 else 0) := by
        cases s <;> decide
      omega

/-- When the packages leave the status of the order open after returns are resolved, they
left it open before. -/
theorem resolveOrder_eq_none_of_shifted {moved : ℕ} {resolution : ReturnResolution}
    {packages packages' : List PackageStatus}
    (h : Shifted moved resolution.packageStatus packages packages')
    (hnone : resolveOrderStatusFromPackages packages' = none) :
    resolveOrderStatusFromPackages packages = none := by
  have hlength := h.length_eq
  have hflow := countStatuses_inFlight packages
  have hflow' := countStatuses_inFlight packages'
  have hbound := countStatuses_disjoint packages
  have hfixed : ∀ statuses : List PackageStatus,
      (.returnInitiated ∈ statuses ↔ resolution.packageStatus ∈ statuses) →
      countStatuses statuses packages' = countStatuses statuses packages := by
    intro statuses hboth
    have hcount := h.count_eq statuses
    simp only [hboth] at hcount
    exact Nat.add_right_cancel hcount
  have htotal := hfixed returnFlowStatuses (by cases resolution <;> decide)
  have hcancelled := hfixed [.cancelled] (by cases resolution <;> decide)
  have hdelivered := hfixed deliveredStatuses (by cases resolution <;> decide)
  have hfailed := hfixed failedPackageStatuses (by cases resolution <;> decide)
  have hfewer : countStatuses returnInTransitStatuses packages'
      ≤ countStatuses returnInTransitStatuses packages := by
    have hcount := h.count_eq returnInTransitStatuses
    rw [if_pos (by decide)] at hcount
    split_ifs at hcount <;> omega
  unfold resolveOrderStatusFromPackages at hnone ⊢
  rw [← deliveredStatuses] at hnone ⊢
  dsimp only at hnone ⊢
  split_ifs at hnone with hempty
  · rw [if_pos (by omega)]
  · rw [if_neg (by omega), if_neg (by omega), if_neg (by omega), if_neg (by omega),
      if_neg (by omega), if_neg (by omega), if_neg (by omega)]

/-! ### Package by package -/

/-- A call of `resolve_package_return`. -/
structure PackageResolution where
  ctx : ActionContext
  packageId : Id
  input : ResolveReturnInput

/-- The calls one after the other. -/
def Order.resolveEach (order : Order) : List PackageResolution → Except ServiceError Order
  | [] => return order
  | call :: calls => do
      let after ← order.resolvePackageReturn call.ctx call.packageId call.input
      after.resolveEach calls

/-- The call has the given resolution, and what it needs beside a package to resolve. -/
structure PackageResolution.Complete (resolution : ReturnResolution) (call : PackageResolution) :
    Prop where
  resolution_eq : call.input.resolution = resolution
  evidence : (checkEvidence call.input).isOk = true
  upload : (uploadEvidence call.ctx call.input.evidenceImages).isOk = true

/-- The identifiers are those of the packages that await resolution, each listed once. -/
structure Awaiting (ids : List Id) (packages : List Package) : Prop where
  nodup : ids.Nodup
  known : ∀ id ∈ ids, ∃ pkg ∈ packages, pkg.id = id
  mem_iff : ∀ pkg ∈ packages, pkg.id ∈ ids ↔ pkg.status = .returnInitiated

section Awaiting

variable {id : Id} {ids : List Id} {packages : List Package} {status : PackageStatus}

/-- Resolving a package leaves the others awaiting. -/
theorem Awaiting.tail (h : Awaiting (id :: ids) packages) (hstatus : status ≠ .returnInitiated) :
    Awaiting ids (movePackages [id] status packages) := by
  obtain ⟨hfresh, hnodup⟩ := List.nodup_cons.mp h.nodup
  refine ⟨hnodup, fun i hi => ?_, fun pkg hpkg => ?_⟩
  · obtain ⟨pkg, hpkg, rfl⟩ := h.known i (List.mem_cons_of_mem _ hi)
    refine ⟨_, List.mem_map_of_mem hpkg, ?_⟩
    split_ifs <;> rfl
  · obtain ⟨p, hp, rfl⟩ := List.mem_map.mp hpkg
    have hiff := h.mem_iff p hp
    rw [List.mem_cons] at hiff
    split_ifs with hid
    · obtain rfl := List.mem_singleton.mp hid
      exact iff_of_false hfresh hstatus
    · have hne : p.id ≠ id := fun heq => hid (List.mem_singleton.mpr heq)
      exact (or_iff_right hne).symm.trans hiff

/-- Nothing awaits resolution exactly if the list is empty. -/
theorem Awaiting.count_eq_zero_iff (h : Awaiting ids packages) :
    countStatuses [.returnInitiated] (packages.map (·.status)) = 0 ↔ ids = [] := by
  rw [countStatuses, List.countP_eq_zero, List.eq_nil_iff_forall_not_mem]
  constructor
  · intro hnone i hi
    obtain ⟨pkg, hpkg, rfl⟩ := h.known i hi
    refine hnone pkg.status (List.mem_map_of_mem hpkg) ?_
    rw [(h.mem_iff pkg hpkg).mp hi]
    rfl
  · intro hempty s hs hstatus
    obtain ⟨pkg, hpkg, rfl⟩ := List.mem_map.mp hs
    exact hempty pkg.id ((h.mem_iff pkg hpkg).mpr (by simpa using hstatus))

/-- The packages that `resolve_stop_return` picks, in any order. -/
theorem awaiting_of_perm {stop : DeliveryStop} (hnd : (stop.packages.map (·.id)).Nodup)
    (hids : ids.Perm (stop.pick (hasStatus resolvableReturnPackageStatuses))) :
    Awaiting ids stop.packages := by
  refine ⟨hids.nodup_iff.mpr (hnd.sublist (List.filter_sublist.map _)), fun i hi => ?_,
    fun pkg hpkg => ?_⟩
  · obtain ⟨pkg, hpkg, hid⟩ := List.mem_map.mp (hids.mem_iff.mp hi)
    exact ⟨pkg, List.mem_of_mem_filter hpkg, hid⟩
  · rw [hids.mem_iff, DeliveryStop.pick, List.mem_map]
    constructor
    · rintro ⟨pkg', hpkg', hid⟩
      obtain rfl := List.inj_on_of_nodup_map hnd (List.mem_of_mem_filter hpkg') hpkg hid
      exact List.mem_singleton.mp (status_mem_of_hasStatus (List.mem_filter.mp hpkg').2)
    · intro hstatus
      refine ⟨pkg, List.mem_filter.mpr ⟨hpkg, ?_⟩, rfl⟩
      rw [hasStatus, hstatus]
      rfl

end Awaiting

/-- What some resolved packages leave of the order and of their stop `row`. The status of
the stop and its resolution are left to the caller. -/
structure Resolved (order : Order) (stop : DeliveryStop) (resolution : ReturnResolution)
    (ids : List Id) (after : Order) (row : DeliveryStop) : Prop where
  stops_eq : after.stops = (order.withStop row).stops
  row_id : row.id = stop.id
  row_packages : row.packages = movePackages ids resolution.packageStatus stop.packages
  shifted : Shifted ids.length resolution.packageStatus order.statuses after.statuses
  status_eq : after.status = (resolveOrderStatusFromPackages after.statuses).getD order.status

theorem withStop_withStop {order : Order} {row row' : DeliveryStop} (h : row'.id = row.id) :
    (order.withStop row).withStop row' = order.withStop row' := by
  simp only [Order.withStop, List.map_map, Order.mk.injEq, true_and]
  refine List.map_congr_left fun s _ => ?_
  rw [Function.comp_apply]
  by_cases hs : s.id = row.id
  · rw [if_pos hs, if_pos h.symm, if_pos (hs.trans h.symm)]
  · rw [if_neg hs]

section Each

variable {order after : Order} {stop row : DeliveryStop} {resolution : ReturnResolution}

/-- Resolving some packages and then others is resolving them all. -/
theorem Resolved.trans {ids ids' : List Id} {each : Order} {row' : DeliveryStop}
    (h : Resolved order stop resolution ids after row)
    (h' : Resolved after row resolution ids' each row') :
    Resolved order stop resolution (ids ++ ids') each row' where
  stops_eq := by
    have hstops : (after.withStop row').stops = ((order.withStop row).withStop row').stops := by
      rw [Order.withStop, h.stops_eq]
      rfl
    rw [h'.stops_eq, hstops, withStop_withStop h'.row_id]
  row_id := h'.row_id.trans h.row_id
  row_packages := by rw [h'.row_packages, h.row_packages, movePackages_movePackages]
  shifted := by
    rw [List.length_append]
    exact h.shifted.trans h'.shifted
  status_eq := by
    rw [h'.status_eq, h.status_eq]
    cases hlast : resolveOrderStatusFromPackages each.statuses with
    | some status => rfl
    | none => rw [resolveOrder_eq_none_of_shifted h'.shifted hlast]; rfl

/-- One call. -/
theorem resolved_package (hk : order.Keyed) (hstop : stop ∈ order.stops) {pkg : Package}
    (hpkg : pkg ∈ stop.packages) (hstatus : pkg.status = .returnInitiated)
    (hopen : stop.returnResolution = none) {call : PackageResolution}
    (hid : call.packageId = pkg.id) (hcall : call.Complete resolution) :
    ∃ after row, order.resolvePackageReturn call.ctx call.packageId call.input = .ok after ∧
      Resolved order stop resolution [pkg.id] after row ∧
      Shifted 1 resolution.packageStatus stop.statuses row.statuses ∧
      row.status = (resolveStopStatusFromPackages row.statuses (some stop.status)).getD
        stop.status ∧
      row.returnResolution = if countStatuses [.returnInitiated] row.statuses = 0 then
        some resolution else none := by
  obtain ⟨rfl, hevidence, hupload⟩ := hcall
  obtain ⟨⟨⟩, hevidence⟩ := exists_eq_ok hevidence
  obtain ⟨keys, hupload⟩ := exists_eq_ok hupload
  obtain ⟨hrowId, hmoved⟩ := resolvePackage_packages call.ctx call.input pkg.id stop
  obtain ⟨hrowStatus, hrowResolution⟩ := resolvePackage_status call.ctx call.input pkg.id stop
  have hpackages : (stop.resolvePackage call.ctx call.input pkg.id).packages
      = movePackages [pkg.id] call.input.resolution.packageStatus stop.packages :=
    hmoved.trans (List.map_congr_left fun p _ => by simp only [List.mem_singleton,
      decide_eq_true_eq])
  -- The picked package is the one that the call names, on the stop and in the order.
  have hpick : ∀ p : Package, p.id ∈ stop.pick (fun p => p.id = pkg.id) ↔ p.id ∈ [pkg.id] := by
    intro p
    simp only [DeliveryStop.pick, List.mem_map, List.mem_filter, List.mem_singleton,
      decide_eq_true_eq]
    constructor
    · rintro ⟨p', ⟨-, hp'⟩, hid'⟩
      exact hid'.symm.trans hp'
    · exact fun hp => ⟨pkg, ⟨hpkg, rfl⟩, hp.symm⟩
  have horder : (order.withStop ((stop.resolvePackage call.ctx call.input pkg.id).addEvidence
      keys)).packages = movePackages [pkg.id] call.input.resolution.packageStatus
        order.packages := by
    refine (packages_withStop hk hstop ?_ ?_).trans (movePackages_congr (fun p _ => hpick p) _)
    · exact hrowId
    · exact hmoved
  have hshifted := shifted_movePackages hk.packages
    (Order.mem_packages.mpr ⟨stop, hstop, hpkg⟩) hstatus call.input.resolution.packageStatus
  have hshiftedStop := shifted_movePackages (hk.packages_of_stop hstop) hpkg hstatus
    call.input.resolution.packageStatus
  rw [← horder] at hshifted
  rw [← hpackages] at hshiftedStop
  rw [hid, resolvePackageReturn_eq hk hstop hpkg hstatus hopen hevidence hupload]
  rw [hopen] at hrowResolution
  exact ⟨_, _, rfl, ⟨rfl, hrowId, hpackages, hshifted, rfl⟩, hshiftedStop, hrowStatus,
    hrowResolution⟩

/-- **Resolving package by package.** All calls are accepted, and in any order they leave
the same packages, resolution and statuses. -/
theorem resolved_each {calls : List PackageResolution} (hsome : calls ≠ [])
    (hk : order.Keyed) (hstop : stop ∈ order.stops) (hopen : stop.returnResolution = none)
    (hids : Awaiting (calls.map (·.packageId)) stop.packages)
    (hcalls : ∀ call ∈ calls, call.Complete resolution) :
    ∃ each row, order.resolveEach calls = .ok each ∧
      Resolved order stop resolution (calls.map (·.packageId)) each row ∧
      row.returnResolution = some resolution ∧
      row.status = resolvedStatus resolution stop.statuses stop.status := by
  induction calls generalizing order stop with
  | nil => exact absurd rfl hsome
  | cons call calls ih =>
      obtain ⟨pkg, hpkg, hid⟩ := hids.known call.packageId List.mem_cons_self
      have hstatus : pkg.status = .returnInitiated :=
        (hids.mem_iff pkg hpkg).mp (hid ▸ List.mem_cons_self)
      obtain ⟨after, row, hok, hresolved, hshifted, hrowStatus, hrowResolution⟩ :=
        resolved_package hk hstop hpkg hstatus hopen hid.symm (hcalls call List.mem_cons_self)
      have htail : Awaiting (calls.map (·.packageId)) row.packages := by
        rw [hresolved.row_packages, hid]
        exact hids.tail (resolution_ne_returnInitiated resolution)
      have hcount := htail.count_eq_zero_iff
      rw [Order.resolveEach, hok]
      by_cases hlast : calls = []
      · subst hlast
        have hnone : countStatuses [.returnInitiated] row.statuses = 0 := hcount.mpr rfl
        refine ⟨after, row, rfl, ?_, ?_, ?_⟩
        · rw [hid] at hresolved
          exact hresolved
        · rw [hrowResolution, if_pos hnone]
        · rw [hrowStatus]
          exact resolvedStatus_last hshifted hnone
      · have hmore : countStatuses [.returnInitiated] row.statuses ≠ 0 := fun hzero =>
          hlast (List.map_eq_nil_iff.mp (hcount.mp hzero))
        rw [if_neg hmore] at hrowResolution
        have hmem : row ∈ after.stops := by
          rw [hresolved.stops_eq]
          exact List.mem_map.mpr ⟨stop, hstop, if_pos hresolved.row_id.symm⟩
        have hkeyed : after.Keyed := by
          obtain ⟨_, _, -, hmoves⟩ := resolvePackageReturn_moves hk hok
          exact hmoves.keyed hk
        obtain ⟨each, row', heach, hresolved', hresolution, hfinal⟩ := ih hlast hkeyed hmem
          hrowResolution htail fun c hc => hcalls c (List.mem_cons_of_mem _ hc)
        refine ⟨each, row', heach, ?_, hresolution, ?_⟩
        · have hboth := hresolved.trans hresolved'
          rw [hid] at hboth
          exact hboth
        · rw [hfinal, hrowStatus]
          exact resolvedStatus_step hshifted (Nat.pos_of_ne_zero hmore)

end Each

/-! ### Agreement -/

/-- What a return leaves of a stop: its status, the stored resolution and the statuses of its
packages. -/
def DeliveryStop.outcome (stop : DeliveryStop) :
    Id × DeliveryStopStatus × Option ReturnResolution × List (Id × PackageStatus) :=
  (stop.id, stop.status, stop.returnResolution, stop.packages.map fun pkg => (pkg.id, pkg.status))

/-- What a return leaves of an order. -/
def Order.outcome (order : Order) : OrderStatus ×
    List (Id × DeliveryStopStatus × Option ReturnResolution × List (Id × PackageStatus)) :=
  (order.status, order.stops.map DeliveryStop.outcome)

/-- The stops on which the assigned status is the derived one. Sending back: every package is
in the return flow, or the stop reads as in transit already and does not count as partially
delivered. Disposing: every package is disposed of or awaits resolution, or the stop reads as
disposed already and nothing in its packages overrides that. -/
def DeliveryStop.ResolvesAlike (stop : DeliveryStop) : ReturnResolution → Prop
  | .returnToSender =>
      countStatuses returnFlowStatuses stop.statuses = stop.statuses.length ∨
      (stop.status = .returnInTransit ∧ ¬ PartlyDelivered stop.statuses)
  | .dispose =>
      countStatuses [.disposed] stop.statuses + countStatuses [.returnInitiated] stop.statuses
        = stop.statuses.length ∨
      (stop.status = .disposed ∧ ¬ PartlyDelivered stop.statuses ∧
        (countStatuses returnFlowStatuses stop.statuses = stop.statuses.length →
          countStatuses [.returnInTransit] stop.statuses = 0 ∧
          countStatuses [.returnInitiated] stop.statuses = 1))

instance (stop : DeliveryStop) : (resolution : ReturnResolution) →
    Decidable (stop.ResolvesAlike resolution)
  | .returnToSender => inferInstanceAs (Decidable (_ ∨ _))
  | .dispose => inferInstanceAs (Decidable (_ ∨ _))

theorem resolvedStatus_eq_iff {stop : DeliveryStop} (resolution : ReturnResolution)
    (hsome : 0 < countStatuses [.returnInitiated] stop.statuses) :
    resolvedStatus resolution stop.statuses stop.status = resolution.stopStatus ↔
      stop.ResolvesAlike resolution := by
  have hflow := countStatuses_returnFlow stop.statuses
  have hbound := countStatuses_disjoint stop.statuses
  have hdelivered : PartlyDelivered stop.statuses →
      0 < countStatuses deliveredStatuses stop.statuses := And.left
  cases resolution with
  | returnToSender =>
      simp only [resolvedStatus, ReturnResolution.stopStatus, DeliveryStop.ResolvesAlike]
      split_ifs <;> simp_all
  | dispose =>
      simp only [resolvedStatus, ReturnResolution.stopStatus, DeliveryStop.ResolvesAlike]
      by_cases hall : countStatuses returnFlowStatuses stop.statuses = stop.statuses.length
      · have hnot : ¬ PartlyDelivered stop.statuses := fun h => by
          have hsomewhere := hdelivered h
          omega
        rw [if_pos hall]
        by_cases hdone : countStatuses [.disposed] stop.statuses
            + countStatuses [.returnInitiated] stop.statuses = stop.statuses.length
        · rw [if_pos hdone]
          exact iff_of_true rfl (.inl hdone)
        rw [if_neg hdone]
        split_ifs with htransit hmany
        · refine iff_of_false (by simp) ?_
          rintro (h | ⟨-, -, h⟩)
          · exact hdone h
          · exact htransit.ne' (h hall).1
        · refine iff_of_false (by simp) ?_
          rintro (h | ⟨-, -, h⟩)
          · exact hdone h
          · exact hmany.ne' (h hall).2
        · exact ⟨fun h => .inr ⟨h, hnot, fun _ => by omega⟩,
            fun h => (h.resolve_left hdone).1⟩
      · have hdone : ¬ countStatuses [.disposed] stop.statuses
            + countStatuses [.returnInitiated] stop.statuses = stop.statuses.length := by omega
        rw [if_neg hall]
        split_ifs with hpartly
        · refine iff_of_false (by simp) ?_
          rintro (h | ⟨-, h, -⟩)
          · exact hdone h
          · exact h hpartly
        · exact ⟨fun h => .inr ⟨h, hpartly, fun h => absurd h hall⟩,
            fun h => (h.resolve_left hdone).1⟩

/-- Two stops written back in the same place. -/
theorem outcome_withStop_iff {order : Order} {stop row row' : DeliveryStop}
    (hstop : stop ∈ order.stops) (hid : row.id = stop.id) (hid' : row'.id = stop.id) :
    (order.withStop row).stops.map DeliveryStop.outcome
        = (order.withStop row').stops.map DeliveryStop.outcome ↔
      row.outcome = row'.outcome := by
  simp only [Order.withStop, List.map_map, List.map_inj_left, Function.comp_apply, hid, hid']
  constructor
  · intro h
    have hrow := h stop hstop
    rwa [if_pos rfl, if_pos rfl] at hrow
  · intro h s _
    split_ifs
    · exact h
    · rfl

/-- What `resolve_stop_return` leaves is what resolving the picked packages leaves, with the
status of the stop assigned. -/
theorem resolved_stop {order bulk : Order} (hk : order.Keyed) {stop : DeliveryStop}
    {ctx : ActionContext} {input : ResolveReturnInput} (hstop : stop ∈ order.stops)
    (hbulk : order.resolveStopReturn ctx stop.id input = .ok bulk) :
    stop.returnResolution = none ∧ 0 < countStatuses [.returnInitiated] stop.statuses ∧
      ∃ row, bulk.stops = (order.withStop row).stops ∧ row.id = stop.id ∧
        row.packages = movePackages (stop.pick (hasStatus resolvableReturnPackageStatuses))
          input.resolution.packageStatus stop.packages ∧
        row.returnResolution = some input.resolution ∧
        row.status = input.resolution.stopStatus ∧
        bulk.status = (resolveOrderStatusFromPackages bulk.statuses).getD order.status := by
  obtain ⟨found, keys, hid, hopen, hmoves⟩ := resolveStopReturn_moves hbulk
  obtain rfl := hk.stop_eq hmoves.stop_mem hstop hid
  obtain ⟨pkg, hpkg, hawaits⟩ := hmoves.some_target
  refine ⟨hopen, ?_, _, ?_, hmoves.row_id, ?_, ?_, rfl, ?_⟩
  · refine List.countP_pos_iff.mpr ⟨pkg.status, List.mem_map_of_mem hpkg, ?_⟩
    exact decide_eq_true (status_mem_of_hasStatus hawaits)
  · rw [hmoves.result]
    rfl
  · exact hmoves.row_packages.trans (move_packages_eq (hk.packages_of_stop hstop) _ _)
  · exact (recordResolution_packages ctx input _).2.2.2
  · rw [hmoves.result]
    rfl

/-- **At once or one by one.** Take a stop with packages that await resolution, whatever the
statuses of its other packages, and a resolution that `resolve_stop_return` accepts. Calls of
`resolve_package_return` with the same resolution, one for each of these packages and in any
order, are accepted too. Both ways leave the same package statuses, stop status, stored
resolution and order status exactly if the stop resolves alike. -/
theorem resolutions_agree_iff {order bulk : Order} (hk : order.Keyed) {stop : DeliveryStop}
    (hstop : stop ∈ order.stops) {ctx : ActionContext} {input : ResolveReturnInput}
    (hbulk : order.resolveStopReturn ctx stop.id input = .ok bulk)
    {calls : List PackageResolution}
    (hids : (calls.map (·.packageId)).Perm
      (stop.pick (hasStatus resolvableReturnPackageStatuses)))
    (hcalls : ∀ call ∈ calls, call.Complete input.resolution) :
    ∃ each, order.resolveEach calls = .ok each ∧
      (bulk.outcome = each.outcome ↔ stop.ResolvesAlike input.resolution) := by
  obtain ⟨hopen, hsome, row, hstops, hrowId, hpackages, hresolution, hstatus, horder⟩ :=
    resolved_stop hk hstop hbulk
  have hawaiting := awaiting_of_perm (hk.packages_of_stop hstop) hids
  have hcallsSome : calls ≠ [] := fun hnil =>
    hsome.ne' (hawaiting.count_eq_zero_iff.mpr (by rw [hnil]; rfl))
  obtain ⟨each, row', heach, hresolved, hresolution', hstatus'⟩ :=
    resolved_each hcallsSome hk hstop hopen hawaiting hcalls
  refine ⟨each, heach, ?_⟩
  -- The packages are the same: the identifiers are, up to their order.
  have hsame : row.packages = row'.packages := by
    rw [hpackages, hresolved.row_packages]
    exact movePackages_congr (fun pkg _ => hids.mem_iff.symm) _
  have hstatuses : bulk.statuses = each.statuses := by
    simp only [Order.statuses, Order.packages, hstops, hresolved.stops_eq, Order.withStop,
      List.flatMap_map, hrowId, hresolved.row_id]
    refine congrArg (List.map Package.status) (List.flatMap_congr fun s _ => ?_)
    split_ifs
    · exact hsame
    · rfl
  have horderSame : bulk.status = each.status := by
    rw [horder, hresolved.status_eq, hstatuses]
  calc bulk.outcome = each.outcome
      ↔ bulk.stops.map DeliveryStop.outcome = each.stops.map DeliveryStop.outcome := by
        simp only [Order.outcome, Prod.mk.injEq, horderSame, true_and]
    _ ↔ row.outcome = row'.outcome := by
        rw [hstops, hresolved.stops_eq]
        exact outcome_withStop_iff hstop hrowId hresolved.row_id
    _ ↔ row.status = row'.status := by
        simp only [DeliveryStop.outcome, Prod.mk.injEq, hrowId, hresolved.row_id, hresolution,
          hresolution', hsame, and_true, true_and]
    _ ↔ stop.ResolvesAlike input.resolution := by
        rw [hstatus, hstatus', eq_comm]
        exact resolvedStatus_eq_iff input.resolution hsome

/-- A stop with two initiated returns. -/
def twoReturns : Order :=
  singleStopOrder .returnInProgress
    (doorstep 1 .returnInitiated [parcel 1 .returnInitiated, parcel 2 .returnInitiated])

/-- Sent back at once, or the second package before the first. -/
theorem two_returns_agree :
    ∃ bulk each, twoReturns.resolveStopReturn desk 1 sendBack = .ok bulk ∧
      twoReturns.resolveEach [⟨desk, 2, sendBack⟩, ⟨desk, 1, sendBack⟩] = .ok each ∧
      bulk.outcome = each.outcome := by
  have hk : twoReturns.Keyed := ⟨by decide, by decide⟩
  have hcalls : ∀ call ∈ [PackageResolution.mk desk 2 sendBack, ⟨desk, 1, sendBack⟩],
      call.Complete sendBack.resolution := by
    intro call hcall
    simp only [List.mem_cons, List.not_mem_nil, or_false] at hcall
    rcases hcall with rfl | rfl <;> exact ⟨rfl, rfl, rfl⟩
  have hbulk : twoReturns.resolveStopReturn desk 1 sendBack = .ok _ := rfl
  have hids : ([PackageResolution.mk desk 2 sendBack, ⟨desk, 1, sendBack⟩].map
      (·.packageId)).Perm _ := List.Perm.swap 1 2 []
  obtain ⟨each, heach, hiff⟩ := resolutions_agree_iff hk (List.mem_singleton.mpr rfl) hbulk
    hids hcalls
  exact ⟨_, each, hbulk, heach, hiff.mpr (by decide)⟩

/-- One package of the stop is delivered and the return of the other is initiated. -/
def partReturn : Order :=
  singleStopOrder .partiallyDelivered
    (doorstep 1 .partiallyDelivered [parcel 1 .returnInitiated, parcel 2 .deliveredToCustomer])

/-- At once the stop reads as in transit, package by package as partially delivered. -/
theorem part_return_disagrees :
    partReturn.Keyed ∧
    ∃ bulk each, partReturn.resolveStopReturn desk 1 sendBack = .ok bulk ∧
      partReturn.resolveEach [⟨desk, 1, sendBack⟩] = .ok each ∧
      bulk.stops.map (·.status) = [.returnInTransit] ∧
      each.stops.map (·.status) = [.partiallyDelivered] ∧ bulk.outcome ≠ each.outcome := by
  refine ⟨⟨by decide, by decide⟩, _, _, rfl, rfl, rfl, rfl, fun h => ?_⟩
  have hstatus : [DeliveryStopStatus.returnInTransit] = [.partiallyDelivered] :=
    congrArg (fun outcome => outcome.2.map fun stop => stop.2.1) h
  exact absurd hstatus (by decide)

end SwCouriers
