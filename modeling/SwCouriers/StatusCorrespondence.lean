import SwCouriers.ResolutionAgreement
import SwCouriers.StatusResolution

/-!
# An Order and Its Only Stop

The status of an order and the status of a stop are derived from the same packages by two
cascades. The order's counts returned and disposed packages together, the stop's counts them
apart, and has no answer for a stop whose packages are all back, some returned and some
disposed. On every other mix the two say the same.

## Main results

* `Corresponds`: what it means that the two statuses say the same.
* `statuses_correspond_iff`: the mixes on which they do.
-/

namespace SwCouriers

/-- The statuses of a stop that say the same as a status of its order. -/
def OrderStatus.stopStatuses : OrderStatus → List DeliveryStopStatus
  | .returned => [.returned, .disposed]
  | .cancelled => [.cancelled]
  | .delivered => [.delivered]
  | .returnInProgress => [.returnInitiated, .returnInTransit]
  | .partiallyDelivered => [.partiallyDelivered]
  | .failed => [.failed]
  | _ => []

/-- Neither cascade finds a status, or both find one and they say the same. -/
def Corresponds : Option OrderStatus → Option DeliveryStopStatus → Prop
  | none, none => True
  | some order, some stop => stop ∈ order.stopStatuses
  | none, some _ => False
  | some _, none => False

instance : ∀ (order : Option OrderStatus) (stop : Option DeliveryStopStatus),
    Decidable (Corresponds order stop)
  | none, none => inferInstanceAs (Decidable True)
  | some _, some _ => inferInstanceAs (Decidable (_ ∈ _))
  | none, some _ => inferInstanceAs (Decidable False)
  | some _, none => inferInstanceAs (Decidable False)

/-- All packages are back: some returned, the others disposed. -/
def BackBothWays (packages : List PackageStatus) : Prop :=
  .returned ∈ packages ∧ .disposed ∈ packages ∧ ∀ s ∈ packages, s = .returned ∨ s = .disposed

instance (packages : List PackageStatus) : Decidable (BackBothWays packages) :=
  inferInstanceAs (Decidable (_ ∧ _ ∧ _))

section Mixes

variable {packages : List PackageStatus}

/-- The same in terms of counts. -/
theorem backBothWays_iff :
    BackBothWays packages ↔ 0 < countStatuses [.returned] packages ∧
      0 < countStatuses [.disposed] packages ∧
      countStatuses [.returned] packages + countStatuses [.disposed] packages
        = packages.length := by
  have hall : countStatuses [.returned, .disposed] packages = packages.length ↔
      ∀ s ∈ packages, s = .returned ∨ s = .disposed := by
    simp [countStatuses, List.countP_eq_length]
  rw [← countStatuses_returned, hall, countStatuses_pos_iff, countStatuses_pos_iff]
  simp [BackBothWays]

/-- A mix that is back both ways has a status as an order and none as a stop. -/
theorem resolve_of_backBothWays (h : BackBothWays packages) :
    resolveOrderStatusFromPackages packages = some .returned ∧
      resolveStopStatusFromPackages packages none = none := by
  obtain ⟨hreturned, hdisposed, hall⟩ := backBothWays_iff.mp h
  have hlength := length_eq_counts packages
  have hcancelled := countStatuses_cancelled_le packages
  constructor
  · simp only [resolveOrderStatusFromPackages, countStatuses_returned]
    rw [if_neg (by omega), if_pos hall]
  · simp only [resolveStopStatusFromPackages]
    rw [if_neg (by omega), if_neg (by omega), if_neg (by omega), if_neg (by omega),
      if_neg (by omega), if_neg (by omega), if_neg (by omega), if_neg (by omega),
      if_neg (by simp), if_neg (by omega)]

/-- On every other mix the cascades say the same. -/
theorem corresponds_of_not_backBothWays (h : ¬ BackBothWays packages) :
    Corresponds (resolveOrderStatusFromPackages packages)
      (resolveStopStatusFromPackages packages none) := by
  rw [backBothWays_iff] at h
  have hlength := length_eq_counts packages
  have hcancelled := countStatuses_cancelled_le packages
  simp only [resolveOrderStatusFromPackages, resolveStopStatusFromPackages,
    countStatuses_returned, countStatuses_returnInTransit, Option.isSome_none, Bool.false_eq_true,
    if_false]
  -- One case for each answer of the order's cascade, in its order.
  by_cases hzero : packages.length = 0
  · rw [if_pos hzero, if_pos hzero]
    exact trivial
  rw [if_neg hzero, if_neg hzero]
  by_cases hback : countStatuses [.returned] packages + countStatuses [.disposed] packages
      = packages.length
  · rw [if_pos hback]
    by_cases hreturned : countStatuses [.returned] packages = packages.length
    · rw [if_pos hreturned]
      decide
    · rw [if_neg hreturned, if_pos (by omega)]
      decide
  have hreturned : ¬ countStatuses [.returned] packages = packages.length := by omega
  have hdisposed : ¬ countStatuses [.disposed] packages = packages.length := by omega
  rw [if_neg hback, if_neg hreturned, if_neg hdisposed]
  by_cases hcancel : countStatuses [.cancelled] packages = packages.length
  · rw [if_pos hcancel, if_pos hcancel]
    decide
  rw [if_neg hcancel, if_neg hcancel]
  by_cases hdeliver : countStatuses [.deliveredToCustomer, .leftAtSafePlace] packages
      = packages.length
  · rw [if_pos hdeliver, if_pos hdeliver]
    decide
  rw [if_neg hdeliver, if_neg hdeliver]
  by_cases hflight : 0 < countStatuses [.returnInTransit] packages
        + countStatuses [.returnInitiated] packages ∧
      countStatuses [.returnInTransit] packages + countStatuses [.returnInitiated] packages
        + (countStatuses [.returned] packages + countStatuses [.disposed] packages)
        = packages.length
  · rw [if_pos hflight]
    by_cases hinitiated : countStatuses [.returnInitiated] packages = 0
    · rw [if_pos ⟨by omega, by omega⟩]
      decide
    · rw [if_neg (by omega), if_pos ⟨by omega, by omega⟩]
      decide
  have htransit : ¬ (0 < countStatuses [.returnInTransit] packages ∧
      countStatuses [.returnInTransit] packages + countStatuses [.returned] packages
        + countStatuses [.disposed] packages = packages.length) := by omega
  have hinitiated : ¬ (0 < countStatuses [.returnInitiated] packages ∧
      countStatuses [.returnInitiated] packages + countStatuses [.returned] packages
        + countStatuses [.disposed] packages + countStatuses [.returnInTransit] packages
        = packages.length) := by omega
  rw [if_neg hflight, if_neg htransit, if_neg hinitiated]
  have hsum : countStatuses [.deliveredToCustomer, .leftAtSafePlace] packages
        + countStatuses failedPackageStatuses packages + countStatuses [.cancelled] packages
        + (countStatuses [.returned] packages + countStatuses [.disposed] packages)
        + (countStatuses [.returnInTransit] packages + countStatuses [.returnInitiated] packages)
      = countStatuses [.deliveredToCustomer, .leftAtSafePlace] packages
        + countStatuses failedPackageStatuses packages + countStatuses [.cancelled] packages
        + countStatuses [.returned] packages + countStatuses [.disposed] packages
        + countStatuses [.returnInTransit] packages
        + countStatuses [.returnInitiated] packages := by omega
  rw [hsum]
  by_cases hpartial : 0 < countStatuses [.deliveredToCustomer, .leftAtSafePlace] packages ∧
      countStatuses [.deliveredToCustomer, .leftAtSafePlace] packages
        + countStatuses failedPackageStatuses packages + countStatuses [.cancelled] packages
        + countStatuses [.returned] packages + countStatuses [.disposed] packages
        + countStatuses [.returnInTransit] packages
        + countStatuses [.returnInitiated] packages = packages.length
  · rw [if_pos hpartial, if_pos hpartial]
    decide
  rw [if_neg hpartial, if_neg hpartial]
  by_cases hfail : countStatuses failedPackageStatuses packages = packages.length
  · rw [if_pos hfail, if_pos hfail]
    decide
  · rw [if_neg hfail, if_neg hfail]
    exact trivial

/-- **The two cascades say the same** exactly on the mixes that are not back both ways. -/
theorem statuses_correspond_iff (packages : List PackageStatus) :
    Corresponds (resolveOrderStatusFromPackages packages)
      (resolveStopStatusFromPackages packages none) ↔ ¬ BackBothWays packages := by
  refine ⟨fun hsame hback => ?_, corresponds_of_not_backBothWays⟩
  obtain ⟨horder, hstop⟩ := resolve_of_backBothWays hback
  rw [horder, hstop] at hsame
  exact hsame

/-- A returned and a disposed package: the order is returned, the stop has no status. -/
theorem returned_and_disposed_differ :
    resolveOrderStatusFromPackages [.returned, .disposed] = some .returned ∧
      resolveStopStatusFromPackages [.returned, .disposed] none = none ∧
      ¬ Corresponds (resolveOrderStatusFromPackages [.returned, .disposed])
        (resolveStopStatusFromPackages [.returned, .disposed] none) := by
  decide

end Mixes

end SwCouriers
