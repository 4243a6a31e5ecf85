import SwCouriers.ReturnLatch

/-!
# A Finished Order Has Finished Packages

An order whose status says that it is over (delivered, failed, cancelled or returned) is
sound when the status is what `_resolve_order_status_from_packages` makes of its packages.
The status is rewritten only if the packages determine one. Operations that leave it open
therefore keep the old status, which is harmless unless the old status is a final one: a
failed order of which something is rescheduled, or of which some packages but not all start
their way back, still reads as failed.

## Main results

* `sound_exec_iff`: an accepted action keeps an order sound exactly if it does not reopen a
  failed order.
* `orders_sound_iff`: the same along every run.
-/

namespace SwCouriers

open Checked

/-- The statuses of an order that is over. -/
def terminalOrderStatuses : List OrderStatus := [.delivered, .failed, .cancelled, .returned]

/-- A final status is the one that the packages determine. -/
def Order.Sound (order : Order) : Prop :=
  order.status ∈ terminalOrderStatuses →
    resolveOrderStatusFromPackages order.statuses = some order.status

instance (order : Order) : Decidable order.Sound :=
  inferInstanceAs (Decidable (_ → _))

/-! ### What the packages determine -/

section Counts

variable {statuses packages : List PackageStatus}

theorem countStatuses_eq_zero (h : ∀ s ∈ packages, s ∉ statuses) :
    countStatuses statuses packages = 0 :=
  List.countP_eq_zero.mpr fun s hs => by simpa using h s hs

theorem countStatuses_lt_length {s : PackageStatus} (hs : s ∈ packages) (h : s ∉ statuses) :
    countStatuses statuses packages < packages.length := by
  refine lt_of_le_of_ne List.countP_le_length fun heq => h ?_
  simpa using List.countP_eq_length.mp heq s hs

theorem countStatuses_eq_length_iff :
    countStatuses statuses packages = packages.length ↔ ∀ s ∈ packages, s ∈ statuses := by
  rw [countStatuses, List.countP_eq_length]
  simp only [decide_eq_true_eq]

end Counts

/-- A final status tells the status of each package. -/
theorem statuses_of_resolved {packages : List PackageStatus} {status : OrderStatus}
    (h : resolveOrderStatusFromPackages packages = some status)
    (hterminal : status ∈ terminalOrderStatuses) :
    packages ≠ [] ∧
      ((status = .returned ∧ ∀ s ∈ packages, s ∈ [PackageStatus.returned, .disposed]) ∨
      (status = .cancelled ∧ ∀ s ∈ packages, s ∈ [PackageStatus.cancelled]) ∨
      (status = .delivered ∧
        ∀ s ∈ packages, s ∈ [PackageStatus.deliveredToCustomer, .leftAtSafePlace]) ∨
      (status = .failed ∧ ∀ s ∈ packages, s ∈ failedPackageStatuses)) := by
  unfold resolveOrderStatusFromPackages at h
  dsimp only at h
  split_ifs at h with hempty hreturned hcancelled hdelivered hinFlight hpartly hfailed
  all_goals obtain rfl := Option.some.inj h
  all_goals refine ⟨fun hnil => hempty (by rw [hnil]; rfl), ?_⟩
  · exact .inl ⟨rfl, countStatuses_eq_length_iff.mp hreturned⟩
  · exact .inr (.inl ⟨rfl, countStatuses_eq_length_iff.mp hcancelled⟩)
  · exact .inr (.inr (.inl ⟨rfl, countStatuses_eq_length_iff.mp hdelivered⟩))
  · exact absurd hterminal (by decide)
  · exact absurd hterminal (by decide)
  · exact .inr (.inr (.inr ⟨rfl, countStatuses_eq_length_iff.mp hfailed⟩))

/-- Failed packages beside some that were moved to another status: in flight they leave the
status open unless there is no failed package left. -/
theorem resolveOrder_eq_none {packages : List PackageStatus} {moved : PackageStatus}
    (hmem : moved ∈ packages) (hmoved : moved = .atWarehouse ∨ moved = .returnInitiated)
    (hall : ∀ s ∈ packages, s = moved ∨ s ∈ failedPackageStatuses)
    (hrest : moved = .returnInitiated → ∃ s ∈ packages, s ≠ .returnInitiated) :
    resolveOrderStatusFromPackages packages = none := by
  have hoff : ∀ statuses : List PackageStatus, moved ∉ statuses →
      (∀ s ∈ failedPackageStatuses, s ∉ statuses) → countStatuses statuses packages = 0 := by
    intro statuses hnot hfailed
    refine countStatuses_eq_zero fun s hs => ?_
    rcases hall s hs with rfl | hin
    · exact hnot
    · exact hfailed s hin
  have hsome : 0 < packages.length := List.length_pos_of_mem hmem
  have hreturned := hoff [.returned, .disposed] (by rcases hmoved with rfl | rfl <;> decide)
    (by decide)
  have hdelivered := hoff [.deliveredToCustomer, .leftAtSafePlace]
    (by rcases hmoved with rfl | rfl <;> decide) (by decide)
  have hcancelled : countStatuses [.cancelled] packages < packages.length :=
    countStatuses_lt_length hmem (by rcases hmoved with rfl | rfl <;> decide)
  have hfailed : countStatuses failedPackageStatuses packages < packages.length :=
    countStatuses_lt_length hmem (by rcases hmoved with rfl | rfl <;> decide)
  have hinFlight : countStatuses returnInTransitStatuses packages < packages.length := by
    rcases hmoved with rfl | rfl
    · exact countStatuses_lt_length hmem (by decide)
    · obtain ⟨s, hs, hne⟩ := hrest rfl
      have hin := (hall s hs).resolve_left hne
      refine countStatuses_lt_length hs ?_
      revert hin
      cases s <;> decide
  unfold resolveOrderStatusFromPackages
  dsimp only
  rw [if_neg (by omega), if_neg (by omega), if_neg (by omega), if_neg (by omega),
    if_neg (by omega), if_neg (by omega), if_neg (by omega)]

/-- When every return is initiated, the order is in return. -/
theorem resolveOrder_all_initiated {packages : List PackageStatus} (hsome : packages ≠ [])
    (hall : ∀ s ∈ packages, s = .returnInitiated) :
    resolveOrderStatusFromPackages packages = some .returnInProgress := by
  have hzero : ∀ statuses : List PackageStatus, .returnInitiated ∉ statuses →
      countStatuses statuses packages = 0 := fun statuses hnot =>
    countStatuses_eq_zero fun s hs => hall s hs ▸ hnot
  have hpos := List.length_pos_iff.mpr hsome
  have hreturned := hzero [.returned, .disposed] (by decide)
  have hcancelled := hzero [.cancelled] (by decide)
  have hdelivered := hzero [.deliveredToCustomer, .leftAtSafePlace] (by decide)
  have hinFlight : countStatuses returnInTransitStatuses packages = packages.length :=
    countStatuses_eq_length_iff.mpr fun s hs => hall s hs ▸ by decide
  unfold resolveOrderStatusFromPackages
  dsimp only
  rw [if_neg (by omega), if_neg (by omega), if_neg (by omega), if_neg (by omega),
    if_pos (by omega)]

/-! ### Steps -/

/-- A recomputed status is sound unless a final status was kept. -/
theorem sound_recomputeStatus_iff (order : Order) :
    order.recomputeStatus.Sound ↔
      (resolveOrderStatusFromPackages order.statuses = none →
        order.status ∉ terminalOrderStatuses) := by
  have hstatuses : order.recomputeStatus.statuses = order.statuses := rfl
  have hstatus : order.recomputeStatus.status
      = (resolveOrderStatusFromPackages order.statuses).getD order.status := rfl
  rw [Order.Sound, hstatuses, hstatus]
  cases hresolved : resolveOrderStatusFromPackages order.statuses with
  | some status => exact iff_of_true (fun _ => rfl) nofun
  | none => simp

/-- The action moves packages of an order that has failed, and not all of them back to the
sender. -/
def OrderAction.Reopens (order : Order) : OrderAction → Prop
  | .rescheduleStop stopId _ => order.status = .failed ∧
      ∃ stop ∈ order.stops, stop.id = stopId ∧
        ∃ pkg ∈ stop.packages, pkg.status ∈ reschedulablePackageStatuses
  | .reschedulePackage packageId _ => order.status = .failed ∧
      ∃ pkg ∈ order.packages, pkg.id = packageId ∧ pkg.status ∈ reschedulablePackageStatuses
  | .initiatePackageReturn _ packageId => order.status = .failed ∧
      (∃ pkg ∈ order.packages, pkg.id = packageId ∧ pkg.status ∈ returnablePackageStatuses) ∧
      ∃ pkg ∈ order.packages, pkg.id ≠ packageId
  | .initiateStopReturn _ stopId => order.status = .failed ∧
      (∃ stop ∈ order.stops, stop.id = stopId ∧
        ∃ pkg ∈ stop.packages, pkg.status ∈ returnablePackageStatuses) ∧
      ∃ stop ∈ order.stops, ∃ pkg ∈ stop.packages,
        stop.id ≠ stopId ∨ pkg.status ∉ returnablePackageStatuses
  | .cancelOrder _ _ | .resolvePackageReturn _ _ _ | .resolveStopReturn _ _ _ => False

instance OrderAction.Reopens.decidable (order : Order) :
    (action : OrderAction) → Decidable (action.Reopens order)
  | .rescheduleStop _ _ | .reschedulePackage _ _ | .initiatePackageReturn _ _
  | .initiateStopReturn _ _ => inferInstanceAs (Decidable (_ ∧ _))
  | .cancelOrder _ _ | .resolvePackageReturn _ _ _ | .resolveStopReturn _ _ _ =>
      .isFalse not_false

section Steps

variable {order after : Order} {stop row : DeliveryStop} {targets : Package → Bool}
  {allowed : List PackageStatus} {status : PackageStatus}

theorem Moves.packages_eq (h : Moves order stop targets allowed status row after)
    (hk : order.Keyed) :
    (order.withStop row).packages = movePackages (stop.pick targets) status order.packages :=
  packages_withStop hk h.stop_mem h.row_id h.row_packages

/-- The moves out of a final status: only a failed order has packages to move. -/
theorem Moves.failed_of_terminal (h : Moves order stop targets allowed status row after)
    (hallowed : ∀ s ∈ allowed, s ∈ returnablePackageStatuses ++ resolvableReturnPackageStatuses)
    (hsound : order.Sound) (hterminal : order.status ∈ terminalOrderStatuses) :
    order.status = .failed ∧ (∀ s ∈ order.statuses, s ∈ failedPackageStatuses) ∧
      ∃ s ∈ allowed, s ∈ returnablePackageStatuses := by
  obtain ⟨pkg, hpkg, htarget⟩ := h.some_target
  have hstatus := h.all_allowed pkg hpkg htarget
  have hmem : pkg.status ∈ order.statuses :=
    List.mem_map_of_mem (Order.mem_packages.mpr ⟨stop, h.stop_mem, hpkg⟩)
  have hopen := hallowed _ hstatus
  obtain ⟨-, ⟨-, hall⟩ | ⟨-, hall⟩ | ⟨-, hall⟩ | ⟨hfailed, hall⟩⟩ :=
    statuses_of_resolved (hsound hterminal) hterminal
  · exact absurd hopen (by have hs := hall _ hmem; revert hs; cases pkg.status <;> decide)
  · exact absurd hopen (by have hs := hall _ hmem; revert hs; cases pkg.status <;> decide)
  · exact absurd hopen (by have hs := hall _ hmem; revert hs; cases pkg.status <;> decide)
  · refine ⟨hfailed, hall, pkg.status, hstatus, ?_⟩
    have hs := hall _ hmem
    revert hs hopen
    cases pkg.status <;> decide

/-- A package is picked by its key exactly if it is on the stop and a target. -/
theorem mem_pick_iff (hk : order.Keyed) (hstop : stop ∈ order.stops) {s : DeliveryStop}
    {pkg : Package} (hs : s ∈ order.stops) (hpkg : pkg ∈ s.packages) :
    pkg.id ∈ stop.pick targets ↔ s.id = stop.id ∧ targets pkg = true := by
  simp only [DeliveryStop.pick, List.mem_map, List.mem_filter]
  constructor
  · rintro ⟨pkg', ⟨hpkg', htarget⟩, hid⟩
    obtain rfl := hk.stop_of_package hstop hs hpkg' hpkg hid
    obtain rfl := List.inj_on_of_nodup_map (hk.packages_of_stop hs) hpkg' hpkg hid
    exact ⟨rfl, htarget⟩
  · rintro ⟨hid, htarget⟩
    obtain rfl := hk.stop_eq hs hstop hid
    exact ⟨pkg, ⟨hpkg, htarget⟩, rfl⟩

/-- Packages that are rescheduled or start their way back keep the order sound, unless it has
failed and not all of them start their way back. -/
theorem Moves.sound_iff (h : Moves order stop targets allowed status row after)
    (hk : order.Keyed) (hsound : order.Sound)
    (hallowed : ∀ s ∈ allowed, s ∈ returnablePackageStatuses)
    (hmoved : status = .atWarehouse ∨ status = .returnInitiated) :
    after.Sound ↔ ¬ (order.status = .failed ∧
      (status = .returnInitiated → ∃ pkg ∈ order.packages, pkg.id ∉ stop.pick targets)) := by
  have hpackages := h.packages_eq hk
  have hfailedOf := h.failed_of_terminal (fun s hs => List.mem_append_left _ (hallowed s hs))
    hsound
  have hstatuses : (order.withStop row).statuses = order.packages.map fun pkg =>
      if pkg.id ∈ stop.pick targets then status else pkg.status := by
    rw [Order.statuses, hpackages, movePackages, List.map_map]
    refine List.map_congr_left fun pkg _ => ?_
    rw [Function.comp_apply]
    split_ifs <;> rfl
  obtain ⟨target, htargetMem, htarget⟩ := h.some_target
  have htargetPick := (mem_pick_iff hk h.stop_mem h.stop_mem htargetMem).mpr ⟨rfl, htarget⟩
  have htargetOrder : target ∈ order.packages :=
    Order.mem_packages.mpr ⟨stop, h.stop_mem, htargetMem⟩
  have hkeptStatus : (order.withStop row).status = order.status := rfl
  rw [h.result, sound_recomputeStatus_iff, hstatuses, hkeptStatus]
  constructor
  · rintro hopen ⟨hfailed, hrest⟩
    obtain ⟨-, hall, -⟩ := hfailedOf (by rw [hfailed]; decide)
    refine hopen ?_ (by rw [hfailed]; decide)
    refine resolveOrder_eq_none
      (List.mem_map.mpr ⟨target, htargetOrder, if_pos htargetPick⟩) hmoved ?_ ?_
    · refine List.forall_mem_map.mpr fun pkg hpkg => ?_
      split_ifs
      · exact .inl rfl
      · exact .inr (hall _ (List.mem_map_of_mem hpkg))
    · intro hinitiated
      obtain ⟨pkg, hpkg, hout⟩ := hrest hinitiated
      refine ⟨pkg.status, List.mem_map.mpr ⟨pkg, hpkg, if_neg hout⟩, fun heq => ?_⟩
      exact absurd (hall _ (List.mem_map_of_mem hpkg)) (by rw [heq]; decide)
  · intro hnot hnone hterminal
    obtain ⟨hfailed, -, -⟩ := hfailedOf hterminal
    obtain ⟨rfl, hevery⟩ : status = .returnInitiated ∧
        ∀ pkg ∈ order.packages, pkg.id ∈ stop.pick targets := by
      simpa [hfailed] using hnot
    rw [resolveOrder_all_initiated
      (fun hnil => List.ne_nil_of_mem htargetOrder (List.map_eq_nil_iff.mp hnil))
      (List.forall_mem_map.mpr fun pkg hpkg => if_pos (hevery pkg hpkg))] at hnone
    exact absurd hnone (by simp)

/-- Returns are resolved on orders that are not over. -/
theorem Moves.sound_resolved
    (h : Moves order stop targets resolvableReturnPackageStatuses status row after)
    (hsound : order.Sound) : after.Sound := by
  rw [h.result, sound_recomputeStatus_iff]
  intro _ hterminal
  obtain ⟨-, -, s, hs, hreturnable⟩ := h.failed_of_terminal
    (fun s hs => List.mem_append_right _ hs) hsound hterminal
  obtain rfl := List.mem_singleton.mp hs
  exact absurd hreturnable (by decide)

/-- A cancelled order has cancelled packages only. -/
theorem sound_cancelled (hsome : order.packages ≠ []) :
    order.cancelStops.recomputeStatus.Sound := by
  rw [sound_recomputeStatus_iff]
  intro hnone
  have hstatuses : order.cancelStops.statuses = order.packages.map fun _ => .cancelled := by
    rw [Order.statuses, packages_cancelStops, List.map_map]
    rfl
  have hcancelled : countStatuses [.cancelled] order.cancelStops.statuses
      = order.cancelStops.statuses.length := by
    rw [hstatuses]
    exact countStatuses_eq_length_iff.mpr
      (List.forall_mem_map.mpr fun _ _ => List.mem_singleton_self _)
  have hlength : order.cancelStops.statuses.length ≠ 0 := by
    rw [hstatuses, List.length_map]
    exact (List.length_pos_iff.mpr hsome).ne'
  unfold resolveOrderStatusFromPackages at hnone
  dsimp only at hnone
  split_ifs at hnone
  exact absurd ‹_› hlength

/-- **An accepted action keeps an order sound exactly if it does not reopen it.** -/
theorem sound_exec_iff (hk : order.Keyed) (hsound : order.Sound) {action : OrderAction}
    (h : action.exec order = .ok after) : after.Sound ↔ ¬ action.Reopens order := by
  cases action with
  | cancelOrder user org =>
      obtain ⟨-, hsome, -, rfl⟩ := Order.cancelOrder_ok h
      exact iff_of_true (sound_cancelled hsome) not_false
  | rescheduleStop stopId scheduledFor =>
      obtain ⟨stop, hid, hmoves⟩ := rescheduleStop_moves h
      rw [hmoves.sound_iff hk hsound (by decide) (.inl rfl)]
      obtain ⟨pkg, hpkg, htarget⟩ := hmoves.some_target
      refine not_congr (and_congr_right fun _ => iff_of_true nofun ?_)
      exact ⟨stop, hmoves.stop_mem, hid, pkg, hpkg, hmoves.all_allowed pkg hpkg htarget⟩
  | reschedulePackage packageId scheduledFor =>
      obtain ⟨stop, hmoves⟩ := reschedulePackage_moves hk h
      rw [hmoves.sound_iff hk hsound (by decide) (.inl rfl)]
      obtain ⟨pkg, hpkg, htarget⟩ := hmoves.some_target
      refine not_congr (and_congr_right fun _ => iff_of_true nofun ?_)
      exact ⟨pkg, Order.mem_packages.mpr ⟨stop, hmoves.stop_mem, hpkg⟩,
        of_decide_eq_true htarget, hmoves.all_allowed pkg hpkg htarget⟩
  | initiatePackageReturn ctx packageId =>
      obtain ⟨stop, hmoves⟩ := initiatePackageReturn_moves hk h
      rw [hmoves.sound_iff hk hsound (fun _ hs => hs) (.inr rfl)]
      obtain ⟨pkg, hpkg, htarget⟩ := hmoves.some_target
      have hpick : pkg.id ∈ stop.pick fun p => p.id = packageId :=
        (mem_pick_iff hk hmoves.stop_mem hmoves.stop_mem hpkg).mpr ⟨rfl, htarget⟩
      refine not_congr (and_congr_right fun _ => ?_)
      constructor
      · intro hleft
        obtain ⟨p, hp, hout⟩ := hleft rfl
        refine ⟨⟨pkg, Order.mem_packages.mpr ⟨stop, hmoves.stop_mem, hpkg⟩,
          of_decide_eq_true htarget, hmoves.all_allowed pkg hpkg htarget⟩, p, hp, fun heq => ?_⟩
        have hsame : p.id = pkg.id := heq.trans (of_decide_eq_true htarget).symm
        exact hout (hsame ▸ hpick)
      · rintro ⟨-, p, hp, hne⟩ _
        refine ⟨p, hp, fun hin => hne ?_⟩
        obtain ⟨p', hp', hid⟩ := List.mem_map.mp hin
        exact hid.symm.trans (of_decide_eq_true (List.mem_filter.mp hp').2)
  | initiateStopReturn ctx stopId =>
      obtain ⟨stop, hid, hmoves⟩ := initiateStopReturn_moves h
      rw [hmoves.sound_iff hk hsound (fun _ hs => hs) (.inr rfl)]
      obtain ⟨pkg, hpkg, htarget⟩ := hmoves.some_target
      refine not_congr (and_congr_right fun _ => ?_)
      constructor
      · intro hleft
        obtain ⟨p, hp, hout⟩ := hleft rfl
        obtain ⟨s, hs, hps⟩ := Order.mem_packages.mp hp
        rw [mem_pick_iff hk hmoves.stop_mem hs hps, hid, not_and_or] at hout
        exact ⟨⟨stop, hmoves.stop_mem, hid, pkg, hpkg, hmoves.all_allowed pkg hpkg htarget⟩,
          s, hs, p, hps, hout.imp_right fun hnot hin => hnot (decide_eq_true hin)⟩
      · rintro ⟨-, s, hs, p, hps, hout⟩ _
        refine ⟨p, Order.mem_packages.mpr ⟨s, hs, hps⟩, ?_⟩
        rw [mem_pick_iff hk hmoves.stop_mem hs hps, hid, not_and_or]
        exact hout.imp_right fun hnot hin => hnot (status_mem_of_hasStatus hin)
  | resolvePackageReturn ctx packageId input =>
      obtain ⟨stop, keys, -, hmoves⟩ := resolvePackageReturn_moves hk h
      exact iff_of_true (hmoves.sound_resolved hsound) not_false
  | resolveStopReturn ctx stopId input =>
      obtain ⟨stop, keys, -, -, hmoves⟩ := resolveStopReturn_moves h
      exact iff_of_true (hmoves.sound_resolved hsound) not_false

/-- What reopens an order is accepted. -/
theorem OrderAction.Reopens.isOk (hk : order.Keyed) {action : OrderAction}
    (h : action.Reopens order) : ∃ after, action.exec order = .ok after := by
  cases action with
  | rescheduleStop stopId scheduledFor =>
      obtain ⟨-, stop, hstop, rfl, pkg, hpkg, hstatus⟩ := h
      exact ⟨_, rescheduleStop_eq hk hstop hpkg hstatus⟩
  | reschedulePackage packageId scheduledFor =>
      obtain ⟨-, pkg, hpkg, rfl, hstatus⟩ := h
      obtain ⟨stop, hstop, hpkg⟩ := Order.mem_packages.mp hpkg
      exact ⟨_, reschedulePackage_eq hk hstop hpkg hstatus⟩
  | initiatePackageReturn ctx packageId =>
      obtain ⟨-, ⟨pkg, hpkg, rfl, hstatus⟩, -⟩ := h
      obtain ⟨stop, hstop, hpkg⟩ := Order.mem_packages.mp hpkg
      exact ⟨_, initiatePackageReturn_eq hk hstop hpkg hstatus⟩
  | initiateStopReturn ctx stopId =>
      obtain ⟨-, ⟨stop, hstop, rfl, pkg, hpkg, hstatus⟩, -⟩ := h
      exact ⟨_, initiateStopReturn_eq hk hstop hpkg hstatus⟩
  | cancelOrder | resolvePackageReturn | resolveStopReturn => exact h.elim

/-- Taken as a step. -/
theorem sound_step_iff (hk : order.Keyed) (hsound : order.Sound) (action : OrderAction) :
    (action.step order).Sound ↔ ¬ action.Reopens order := by
  unfold OrderAction.step
  cases hexec : action.exec order with
  | ok after => exact sound_exec_iff hk hsound hexec
  | error e =>
      refine iff_of_true hsound fun hreopens => ?_
      obtain ⟨after, hok⟩ := hreopens.isOk hk
      exact absurd (hexec.symm.trans hok) nofun

/-- **A finished order stays sound.** Take any sound order and any sequence of actions on it.
The order is sound in every state of the run exactly if no action of the run reopens it: no
package of a failed order is rescheduled, and no return is initiated for some of its packages
but not for all. -/
theorem orders_sound_iff (hk : order.Keyed) (hsound : order.Sound)
    (actions : List OrderAction) :
    (∀ pre post, actions = pre ++ post → (Runs.run OrderAction.step order pre).Sound) ↔
      Runs.Along OrderAction.step (fun o action => ¬ action.Reopens o) order actions :=
  Runs.forall_prefix_iff_along (I := Order.Keyed) (M := Order.Sound)
    (fun _ action h => OrderAction.step_keyed h action)
    (fun _ action hkeyed hsound => sound_step_iff hkeyed hsound action) hk hsound actions

end Steps

/-- The customer was not home for the only package: the order has failed. -/
def failedOrder : Order :=
  singleStopOrder .failed (doorstep 1 .failed [parcel 1 .customerNotHome])

/-- The return of the only package makes the order one in return, and a sound one. -/
theorem failed_order_returns :
    failedOrder.Keyed ∧ failedOrder.Sound ∧
      (Runs.run OrderAction.step failedOrder [.initiatePackageReturn desk 1,
        .resolvePackageReturn desk 1 sendBack]).Sound := by
  have hk : failedOrder.Keyed := ⟨by decide, by decide⟩
  have hsound : failedOrder.Sound := by decide +kernel
  refine ⟨hk, hsound, ?_⟩
  refine (orders_sound_iff hk hsound [.initiatePackageReturn desk 1,
    .resolvePackageReturn desk 1 sendBack]).mpr ?_ _ [] rfl
  decide +kernel

/-- Rescheduled, the package waits in the warehouse while the order reads as failed. -/
theorem rescheduled_order_reads_failed :
    failedOrder.Keyed ∧ failedOrder.Sound ∧
      ∃ after, OrderAction.exec failedOrder (.reschedulePackage 1 10) = .ok after ∧
        after.status = .failed ∧ after.statuses = [.atWarehouse] ∧ ¬ after.Sound :=
  ⟨⟨by decide, by decide⟩, by decide +kernel, _, rfl, rfl, rfl, by decide +kernel⟩

end SwCouriers
