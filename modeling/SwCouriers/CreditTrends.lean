import Mathlib.Data.String.Basic
import SwCouriers.CreditAccounts
import SwCouriers.CreditSettings
import SwCouriers.Lib.Buckets
import SwCouriers.Lib.Double
import SwCouriers.Lib.IsoWeeks

/-!
# Credit Trends

The utilisation of an organisation's credit and its limit over a year, or over a month of it: one
point for each day, week, month or year with an entry, from the last entry in it. The entries are
put into a dictionary under a text for their period, and the points are read in the order of the
texts. The text of a week is made of the calendar year and the number of the week, which may belong
to the year before or to the year after.

## Main definitions

* `periodKey`: the text for the period of a day.
* `getCreditLimitTrend`, `getUtilisationTrend`: the two trends.
* `exactTrend`: the points of the periods themselves, without texts between them.
-/

namespace SwCouriers.CreditTrends

open Checked Buckets Calendar CreditSettings

/-! ### Requests -/

inductive Granularity
  | daily
  | weekly
  | monthly
  | yearly
  deriving DecidableEq, Repr

def Granularity.value : Granularity → String
  | .daily => "daily"
  | .weekly => "weekly"
  | .monthly => "monthly"
  | .yearly => "yearly"

/-- The granularity that a text stands for. -/
def granularityOf (granularity : String) : Option Granularity :=
  [.daily, .weekly, .monthly, .yearly].find? fun g : Granularity => g.value = granularity

/-- `_validate_overview_trend`, with the granularity that was asked for. -/
def validateOverviewTrend (granularity : String) (month : Option ℤ) :
    Except ServiceError Granularity := do
  let g ← orRaise (granularityOf granularity)
    (invalid "granularity must be one of: daily, monthly, weekly, yearly")
  raiseIf (g = .daily ∧ month = none) (invalid "month is required when granularity is daily")
  return g

/-- `_trend_window_dates`. A year out of range makes the constructor of a date raise. -/
def trendWindowDates (year : ℤ) (month : Option ℤ) : Except ServiceError (Day × Day) := do
  raiseIf (month.any fun m => ¬ (1 ≤ m ∧ m ≤ 12)) (invalid "month must be between 1 and 12")
  raiseIf (year < 1 ∨ 9999 < year) (.uncaught "ValueError")
  match month with
  | some month =>
      return (monthStart (12 * year + (month - 1)), monthStart (12 * year + month) - 1)
  | none => return (daysBeforeYear year + 1, daysBeforeYear (year + 1))

/-- `f"{n:02d}"`. -/
def twoPlaces (n : ℕ) : String := String.ofList (Decimal.padded 2 n)

/-- `_period_key`. -/
def periodKey (day : Day) : Granularity → String
  | .daily => toString (yearOf day) ++ "-" ++ twoPlaces (monthOfYear day + 1) ++ "-" ++
      twoPlaces (dayOfMonth day).toNat
  | .weekly => toString (yearOf day) ++ "-W" ++ twoPlaces (isoWeek day).toNat
  | .yearly => toString (yearOf day)
  | .monthly => toString (yearOf day) ++ "-" ++ twoPlaces (monthOfYear day + 1)

/-! ### Points -/

/-- An entry of the ledger, with the moment at which it was made. -/
structure LedgerRow extends OrgCreditLedgerEntry where
  createdAt : Instant
  deriving DecidableEq

structure TrendTables where
  organizations : List Id
  ledger : List LedgerRow
  limitHistory : List OrgCreditLimitAdjustmentHistory

structure TrendPoint where
  period : String
  value : Option ℚ
  change : Option ℚ
  deriving DecidableEq, Repr

/-- `round(x, digits)` of a double. -/
def roundDouble (digits : ℕ) (x : ℚ) : ℚ :=
  Double.round (Decimal.roundHalfEven (x * 10 ^ digits) / 10 ^ digits)

/-- The result of an operation on two `Decimal`s: 28 significant digits, ties to even. -/
def decimalResult (q : ℚ) : ℚ :=
  let unit : ℚ := 10 ^ (Int.log 10 |q| - 27)
  Decimal.roundHalfEven (q / unit) * unit

/-- `float(r.new_limit)`. -/
def limitValue (r : OrgCreditLimitAdjustmentHistory) : Option ℚ :=
  some (Double.round (Decimal.ofHundredths r.change.newLimit))

/-- The share of the limit that is used after an entry, in percent. -/
def utilisationValue (entry : LedgerRow) : Option ℚ :=
  match entry.creditLimitAfter with
  | none => none
  | some limit =>
      if 0 < limit then
        some (roundDouble 1 (Double.round (decimalResult
          (decimalResult (entry.usedCreditAfter / limit) * 100))))
      else none

/-- `None` if there is no value or there was none before, and otherwise the difference. -/
def changeOf (digits : ℕ) (value prevValue : Option ℚ) : Option ℚ :=
  value.bind fun v => prevValue.map fun p => roundDouble digits (Double.round (v - p))

section Trend

variable {ρ : Type}

/-- The loop over the rows that were kept. The text of a period is the one that its row is found
under. -/
def trendPoints (key : ρ → String) (value : ρ → Option ℚ) (digits : ℕ) :
    Option ℚ → List ρ → List TrendPoint
  | _, [] => []
  | prevValue, r :: rest =>
      ⟨key r, value r, changeOf digits (value r) prevValue⟩ ::
        trendPoints key value digits (value r) rest

/-- What both trends make of their rows. -/
def trend (g : Granularity) (date : ρ → Day) (value : ρ → Option ℚ) (digits : ℕ)
    (rows : List ρ) : List TrendPoint :=
  let key := fun r => periodKey (date r) g
  trendPoints key value digits none (buckets key rows)

end Trend

/-- `list_applied_in_range`. -/
def listAppliedInRange (db : TrendTables) (organizationId : Id) (start stop : Day) :
    List OrgCreditLimitAdjustmentHistory :=
  (db.limitHistory.filter fun r => r.organizationId = organizationId ∧ r.status = .applied ∧
    start ≤ r.effectiveDate ∧ r.effectiveDate ≤ stop).insertionSort
      fun r r' => r.effectiveDate ≤ r'.effectiveDate

/-- `list_in_range_asc`. -/
def listInRangeAsc (db : TrendTables) (organizationId : Id) (start stop : Instant) :
    List LedgerRow :=
  (db.ledger.filter fun r => r.organizationId = organizationId ∧ start ≤ r.createdAt ∧
    r.createdAt ≤ stop).insertionSort fun r r' => r.createdAt ≤ r'.createdAt

/-- `datetime.combine(day, time.min, tzinfo=UTC)`. -/
def dayMin (day : Day) : Instant := day * 86400000000

/-- `datetime.combine(day, time.max, tzinfo=UTC)`. -/
def dayMax (day : Day) : Instant := day * 86400000000 + 86399999999

/-- `get_credit_limit_trend`. -/
def getCreditLimitTrend (db : TrendTables) (organizationId : Id) (year : ℤ) (granularity : String)
    (month : Option ℤ) : Except ServiceError (List TrendPoint) := do
  let g ← validateOverviewTrend granularity month
  raiseIf (organizationId ∉ db.organizations) (.notFound "organizations" (some organizationId))
  let window ← trendWindowDates year month
  let rows := listAppliedInRange db organizationId window.1 window.2
  return trend g (fun r => r.effectiveDate) limitValue 2 rows

/-- `get_utilisation_trend`. -/
def getUtilisationTrend (db : TrendTables) (organizationId : Id) (year : ℤ) (granularity : String)
    (month : Option ℤ) : Except ServiceError (List TrendPoint) := do
  let g ← validateOverviewTrend granularity month
  raiseIf (organizationId ∉ db.organizations) (.notFound "organizations" (some organizationId))
  let window ← trendWindowDates year month
  let entries := listInRangeAsc db organizationId (dayMin window.1) (dayMax window.2)
  return trend g (fun entry => utcDate entry.createdAt) utilisationValue 1 entries

/-! ### Periods -/

/-- The day, the Monday of the week, the month or the year that a day is in. -/
def period (g : Granularity) (day : Day) : ℤ :=
  match g with
  | .daily => day
  | .weekly => mondayOf day
  | .monthly => monthOf day
  | .yearly => yearOf day

/-- One point for each period with a row, from its last row, in the order of the periods. -/
def exactTrend {ρ : Type} (g : Granularity) (date : ρ → Day) (value : ρ → Option ℚ) (digits : ℕ)
    (rows : List ρ) : List TrendPoint :=
  trendPoints (fun r => periodKey (date r) g) value digits none
    (lastOfEach (fun r => period g (date r)) rows)

/-- The weeks of all the days belong to one year. -/
def OneWeekYear (days : List Day) : Prop := ∀ d ∈ days, ∀ d' ∈ days, isoYear d = isoYear d'

end SwCouriers.CreditTrends
