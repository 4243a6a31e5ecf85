import SwCouriers.StatementLedger

/-!
# Ageing Buckets

A statement splits what is overdue by age. Two helpers decide: the overdue test compares the due
date with the day of the statement, and `_aging_bucket` counts the days between them. They agree
on every day, the day of the statement itself included, and the bounds of the buckets neither
overlap nor leave a day out.

## Main results

* `agingBucket_eq_none_iff`: an invoice has no bucket exactly until its due date has passed.
* `aging_partitions_overdue`: the buckets of a statement add up to what is overdue, and each
  overdue invoice is in one of them.
-/

namespace SwCouriers

/-- What an invoice adds to a bucket. -/
def agingContribution (agingAsOf : Day) (bucket : AgingBucket) (inv : Invoice) : ℤ :=
  if 0 < invoiceOutstanding inv ∧ agingBucket (agingAsOf - inv.dueDate) = some bucket then
    invoiceOutstanding inv
  else 0

theorem agingTotal_eq_sum (invoices : List Invoice) (agingAsOf : Day) (bucket : AgingBucket) :
    agingTotal invoices agingAsOf bucket =
      (invoices.map (agingContribution agingAsOf bucket)).sum := by
  rw [agingTotal]
  induction invoices with
  | nil => rfl
  | cons inv invoices ih =>
      rw [List.filter_cons, List.map_cons, List.sum_cons, agingContribution, ← ih]
      by_cases h : 0 < invoiceOutstanding inv ∧
          agingBucket (agingAsOf - inv.dueDate) = some bucket
      · simp [h]
      · simp [h]

/-- There is no bucket until a day has passed. -/
theorem agingBucket_eq_none_iff {days : ℤ} : agingBucket days = none ↔ days < 1 := by
  rw [agingBucket]
  split_ifs <;> simp_all

/-- What an invoice adds to all buckets. -/
theorem sum_agingContribution (agingAsOf : Day) (inv : Invoice) :
    agingContribution agingAsOf .days1To30 inv + agingContribution agingAsOf .days31To60 inv +
        agingContribution agingAsOf .days61To90 inv + agingContribution agingAsOf .days90Plus inv =
      if inv.dueDate < agingAsOf ∧ 0 < invoiceOutstanding inv then invoiceOutstanding inv
      else 0 := by
  have hpast : inv.dueDate < agingAsOf ↔ agingBucket (agingAsOf - inv.dueDate) ≠ none := by
    rw [Ne, agingBucket_eq_none_iff, not_lt]
    exact ⟨fun h => by linarith [Int.add_one_le_iff.mpr h], fun h => by linarith⟩
  simp only [hpast, agingContribution]
  rcases h : agingBucket (agingAsOf - inv.dueDate) with _ | _ | _ | _ | _ <;> simp

/-- An overdue invoice with something unpaid adds all of it to one bucket, and nothing to the
others. -/
theorem exists_agingBucket {agingAsOf : Day} {inv : Invoice} (hdue : inv.dueDate < agingAsOf)
    (hunpaid : 0 < invoiceOutstanding inv) :
    ∃ bucket, agingContribution agingAsOf bucket inv = invoiceOutstanding inv ∧
      ∀ other, other ≠ bucket → agingContribution agingAsOf other inv = 0 := by
  have hsome : agingBucket (agingAsOf - inv.dueDate) ≠ none := by
    rw [Ne, agingBucket_eq_none_iff, not_lt]
    linarith [Int.add_one_le_iff.mpr hdue]
  obtain ⟨bucket, hbucket⟩ := Option.ne_none_iff_exists'.mp hsome
  refine ⟨bucket, if_pos ⟨hunpaid, hbucket⟩, fun other hne => if_neg ?_⟩
  rintro ⟨-, hother⟩
  exact hne (Option.some.inj (hother.symm.trans hbucket))

/-- The overdue amount is the sum over all buckets. -/
theorem sum_agingTotals (invoices : List Invoice) (agingAsOf : Day) :
    agingTotal invoices agingAsOf .days1To30 + agingTotal invoices agingAsOf .days31To60 +
        agingTotal invoices agingAsOf .days61To90 + agingTotal invoices agingAsOf .days90Plus =
      ((invoices.filter fun inv => inv.dueDate < agingAsOf ∧
        0 < invoiceOutstanding inv).map invoiceOutstanding).sum := by
  simp only [agingTotal_eq_sum]
  induction invoices with
  | nil => rfl
  | cons inv invoices ih =>
      have hinv := sum_agingContribution agingAsOf inv
      simp only [List.map_cons, List.sum_cons, List.filter_cons]
      by_cases h : inv.dueDate < agingAsOf ∧ 0 < invoiceOutstanding inv
      · rw [if_pos h] at hinv
        rw [if_pos (by simpa using h), List.map_cons, List.sum_cons, ← ih, ← hinv]
        ring
      · rw [if_neg h] at hinv
        rw [if_neg (by simpa using h), ← ih]
        linarith

/-- **The buckets partition what is overdue**: the four amounts on a statement add up to its
overdue total, and each overdue invoice with something unpaid counts in full in one of them. -/
theorem aging_partitions_overdue (db : Db) (orderRef : Id → Option String) (q : StatementQuery) :
    let result := build db orderRef q
    let invoices := statementInvoices db q.organizationId
    ∃ amount : AgingBucket → ℤ,
      (∀ bucket, Decimal.parse (result.aging bucket) = some (pounds (amount bucket))) ∧
      amount .days1To30 + amount .days31To60 + amount .days61To90 + amount .days90Plus =
        result.totalOverdue ∧
      (∀ bucket, amount bucket =
        (invoices.map (agingContribution q.agingAsOf bucket)).sum) ∧
      ∀ inv ∈ invoices, inv.dueDate < q.agingAsOf → 0 < invoiceOutstanding inv →
        ∃ bucket, agingContribution q.agingAsOf bucket inv = invoiceOutstanding inv ∧
          ∀ other, other ≠ bucket → agingContribution q.agingAsOf other inv = 0 :=
  ⟨agingTotal (statementInvoices db q.organizationId) q.agingAsOf,
    fun _ => Decimal.parse_render _, sum_agingTotals _ _, agingTotal_eq_sum _ _,
    fun _ _ => exists_agingBucket⟩

/-- The first and the last day of a bucket. -/
example : agingBucket 0 = none ∧ agingBucket 1 = some .days1To30 ∧
    agingBucket 90 = some .days61To90 ∧ agingBucket 91 = some .days90Plus := by decide

end SwCouriers
