import SwCouriers.OrderSoundness

/-!
# Partial Delivery

The statuses of an order and of a stop follow from how many of its packages are in each
status. Both cascades count the failed packages, which the cancelled ones are among, and then
add the cancelled ones once more. The sum is compared with the number of all packages, so
each cancelled package stands in for one that is still to be delivered: a mix without open
packages misses the mark, and one with as many open packages as cancelled ones meets it.

## Main results

* `length_eq_counts`: every package is delivered, failed, on its way back, back, or open.
* `partialOrder_iff`, `partialStop_iff`: when the cascades find a partial delivery.
* `partial_delivery_exact_iff`: the mixes on which they find it exactly when nothing is open.
-/

namespace SwCouriers

/-- The statuses of a package that was handed over. -/
def deliveredPackageStatuses : List PackageStatus := [.deliveredToCustomer, .leftAtSafePlace]

/-- The statuses of a package that is still to be delivered. -/
def preDeliveryStatuses : List PackageStatus :=
  [.pendingPickup, .pickupScheduled, .enroutePickup, .enrouteWarehouse, .atWarehouse,
    .sortingInProgress, .deliveryScheduled, .loadedForDelivery, .outForDelivery]

/-! ### Counts -/

section Counts

variable {packages : List PackageStatus}

/-- **Every package is counted once** as delivered, failed, on its way back, back, or open. -/
theorem length_eq_counts (packages : List PackageStatus) :
    packages.length = countStatuses [.deliveredToCustomer, .leftAtSafePlace] packages
      + countStatuses failedPackageStatuses packages
      + (countStatuses [.returned] packages + countStatuses [.disposed] packages)
      + (countStatuses [.returnInTransit] packages + countStatuses [.returnInitiated] packages)
      + countStatuses preDeliveryStatuses packages := by
  induction packages with
  | nil => rfl
  | cons s packages ih =>
      simp only [countStatuses, List.length_cons, List.countP_cons] at ih ⊢
      cases s <;> simp [failedPackageStatuses, preDeliveryStatuses] at ih ⊢ <;> omega

theorem countStatuses_returned (packages : List PackageStatus) :
    countStatuses [.returned, .disposed] packages
      = countStatuses [.returned] packages + countStatuses [.disposed] packages := by
  induction packages with
  | nil => rfl
  | cons s packages ih =>
      simp only [countStatuses, List.countP_cons] at ih ⊢
      cases s <;> simp at ih ⊢ <;> omega

theorem countStatuses_returnInTransit (packages : List PackageStatus) :
    countStatuses returnInTransitStatuses packages
      = countStatuses [.returnInTransit] packages
        + countStatuses [.returnInitiated] packages := by
  induction packages with
  | nil => rfl
  | cons s packages ih =>
      simp only [countStatuses, returnInTransitStatuses, List.countP_cons] at ih ⊢
      cases s <;> simp at ih ⊢ <;> omega

theorem countStatuses_pos_iff {statuses : List PackageStatus} :
    0 < countStatuses statuses packages ↔ ∃ s ∈ packages, s ∈ statuses := by
  simp [countStatuses, List.countP_pos_iff]

/-- Nothing is open when no package is counted as open. -/
theorem countStatuses_eq_zero_iff {statuses : List PackageStatus} :
    countStatuses statuses packages = 0 ↔ ∀ s ∈ packages, s ∉ statuses := by
  simp [countStatuses, List.countP_eq_zero]

end Counts

/-! ### The two cascades -/

section Cascades

variable {packages : List PackageStatus}
  (hsome : ∃ s ∈ packages, s ∈ deliveredPackageStatuses)
  (hnotAll : ∃ s ∈ packages, s ∉ deliveredPackageStatuses)

include hsome hnotAll

/-- Of a mix with some but not all packages delivered. -/
theorem counts_of_mixed :
    0 < countStatuses [.deliveredToCustomer, .leftAtSafePlace] packages ∧
      countStatuses [.deliveredToCustomer, .leftAtSafePlace] packages < packages.length ∧
      countStatuses [.cancelled] packages ≤ countStatuses failedPackageStatuses packages := by
  obtain ⟨s, hs, hopen⟩ := hnotAll
  refine ⟨countStatuses_pos_iff.mpr hsome, countStatuses_lt_length hs hopen, ?_⟩
  refine List.countP_mono_left fun t _ ht => ?_
  have hcancelled : t = .cancelled := by simpa using ht
  rw [hcancelled]
  decide

/-- **The order's cascade finds a partial delivery** when as many packages are open as are
cancelled. -/
theorem partialOrder_iff :
    resolveOrderStatusFromPackages packages = some .partiallyDelivered ↔
      countStatuses [.cancelled] packages = countStatuses preDeliveryStatuses packages := by
  obtain ⟨hpos, hlt, hcancelled⟩ := counts_of_mixed hsome hnotAll
  have hlength := length_eq_counts packages
  simp only [resolveOrderStatusFromPackages, countStatuses_returned,
    countStatuses_returnInTransit]
  rw [if_neg (by omega), if_neg (by omega), if_neg (by omega), if_neg (by omega),
    if_neg (by omega)]
  by_cases hopen :
      countStatuses [.cancelled] packages = countStatuses preDeliveryStatuses packages
  · rw [if_pos ⟨hpos, by omega⟩]
    simpa using hopen
  · rw [if_neg (by omega), if_neg (by omega)]
    simpa using hopen

/-- **The stop's cascade does** as well. -/
theorem partialStop_iff :
    resolveStopStatusFromPackages packages none = some .partiallyDelivered ↔
      countStatuses [.cancelled] packages = countStatuses preDeliveryStatuses packages := by
  obtain ⟨hpos, hlt, hcancelled⟩ := counts_of_mixed hsome hnotAll
  have hlength := length_eq_counts packages
  simp only [resolveStopStatusFromPackages]
  rw [if_neg (by omega), if_neg (by omega), if_neg (by omega), if_neg (by omega),
    if_neg (by omega), if_neg (by omega), if_neg (by omega)]
  by_cases hopen :
      countStatuses [.cancelled] packages = countStatuses preDeliveryStatuses packages
  · rw [if_pos ⟨hpos, by omega⟩]
    simpa using hopen
  · rw [if_neg (by omega), if_neg (by simp), if_neg (by omega)]
    simpa using hopen

end Cascades

/-! ### Exactness -/

/-- Both cascades find a partial delivery exactly when no package is still to be delivered. -/
def ExactOnPartialDelivery (packages : List PackageStatus) : Prop :=
  (resolveOrderStatusFromPackages packages = some .partiallyDelivered ↔
    ∀ s ∈ packages, s ∉ preDeliveryStatuses) ∧
  (resolveStopStatusFromPackages packages none = some .partiallyDelivered ↔
    ∀ s ∈ packages, s ∉ preDeliveryStatuses)

instance (packages : List PackageStatus) : Decidable (ExactOnPartialDelivery packages) :=
  inferInstanceAs (Decidable (_ ∧ _))

/-- A delivered and a cancelled package are no partial delivery, and with an open one they
are. -/
theorem partial_delivery_not_exact :
    ¬ ∀ packages : List PackageStatus, (∃ s ∈ packages, s ∈ deliveredPackageStatuses) →
      (∃ s ∈ packages, s ∉ deliveredPackageStatuses) → ExactOnPartialDelivery packages := by
  intro h
  exact absurd (h [.deliveredToCustomer, .cancelled] (by decide) (by decide)) (by decide)

/-- **Partial delivery is exact** on the mixes that have no cancelled package, or open ones in
another number than the cancelled ones. -/
theorem partial_delivery_exact_iff {packages : List PackageStatus}
    (hsome : ∃ s ∈ packages, s ∈ deliveredPackageStatuses)
    (hnotAll : ∃ s ∈ packages, s ∉ deliveredPackageStatuses) :
    ExactOnPartialDelivery packages ↔
      countStatuses [.cancelled] packages = 0 ∨
        countStatuses preDeliveryStatuses packages ≠ 0 ∧
        countStatuses preDeliveryStatuses packages ≠ countStatuses [.cancelled] packages := by
  rw [ExactOnPartialDelivery, partialOrder_iff hsome hnotAll, partialStop_iff hsome hnotAll,
    ← countStatuses_eq_zero_iff]
  omega

/-- A delivered and a failed package. -/
theorem partial_delivery_exact_failed :
    ExactOnPartialDelivery [.deliveredToCustomer, .customerNotHome] :=
  (partial_delivery_exact_iff (by decide) (by decide)).mpr (.inl (by decide))

end SwCouriers
