import SwCouriers.CreditTrends

/-!
# The Periods of Credit Trends

When the texts of the periods do their work. Days, months and years of one year have texts in their
order. The text of a week does not say whose week it is: a first day of January that belongs to the
last week of the year before comes after everything else, or falls together with the last week of
the year, and a last day of December that belongs to the first week of the year after falls
together with the first week of the year.

## Main results

* `periodKey_daily_lt_iff`, `periodKey_monthly_lt_iff`, `periodKey_weekly_lt_iff`: how the texts of
  the days of one year are ordered.
* `periodKey_faithful_iff`: when the texts of two days tell their periods apart, and in order.
* `trend_eq_exactTrend_iff`: what makes a trend exact, for rows of one year.
* `trends_exact_iff`: **a trend has the points of its periods in their order exactly if it is not
  weekly, or all its entries lie in the weeks of one year**.
-/

namespace SwCouriers.CreditTrends

open Checked Buckets Calendar CreditSettings

/-! ### Texts -/

theorem strictMono_append (head : String) : StrictMono fun s => head ++ s := by
  intro s t h
  change head ++ s < head ++ t
  rw [String.lt_iff, String.toList_append, String.toList_append]
  exact List.append_left_lt h

theorem twoPlaces_lt_iff {m n : ℕ} (hm : m < 100) (hn : n < 100) :
    twoPlaces m < twoPlaces n ↔ m < n := by
  rw [String.lt_iff, twoPlaces, twoPlaces, String.toList_ofList, String.toList_ofList]
  exact Decimal.padded_lt_padded_iff hm hn (by decide)

/-- A number in two places decides before what follows it. -/
theorem twoPlaces_append_lt {m n : ℕ} (hmn : m < n) (hn : n < 100) (s t : String) :
    twoPlaces m ++ s < twoPlaces n ++ t := by
  have hm := hmn.trans hn
  rw [String.lt_iff, String.toList_append, String.toList_append]
  refine Decimal.append_lt_append_of_length_eq ?_ ((twoPlaces_lt_iff hm hn).mpr hmn)
  rw [twoPlaces, twoPlaces, String.toList_ofList, String.toList_ofList,
    Decimal.length_padded hm (by decide), Decimal.length_padded hn (by decide)]

variable {d d' : Day} {g : Granularity}

theorem periodKey_weekly_lt_iff (hyear : yearOf d = yearOf d') :
    periodKey d .weekly < periodKey d' .weekly ↔ isoWeek d < isoWeek d' := by
  obtain ⟨hpos, hle⟩ := isoWeek_bounds d
  obtain ⟨hpos', hle'⟩ := isoWeek_bounds d'
  rw [periodKey, periodKey, hyear, (strictMono_append _).lt_iff_lt,
    twoPlaces_lt_iff (by omega) (by omega)]
  omega

theorem periodKey_monthly_lt_iff (hyear : yearOf d = yearOf d') :
    periodKey d .monthly < periodKey d' .monthly ↔ monthOf d < monthOf d' := by
  have hmonth := monthOfYear_lt d
  have hmonth' := monthOfYear_lt d'
  have htexts : periodKey d .monthly < periodKey d' .monthly ↔
      twoPlaces (monthOfYear d + 1) < twoPlaces (monthOfYear d' + 1) := by
    rw [periodKey, periodKey, hyear]
    exact (strictMono_append _).lt_iff_lt
  rw [htexts, twoPlaces_lt_iff (by omega) (by omega), monthOf, monthOf, hyear,
    add_lt_add_iff_left, add_lt_add_iff_right, Nat.cast_lt]

theorem periodKey_daily_lt (hyear : yearOf d = yearOf d') (h : d < d') :
    periodKey d .daily < periodKey d' .daily := by
  have hmonth := monthOfYear_lt d'
  have hmonths : monthOfYear d ≤ monthOfYear d' := by
    have hmono := monthOf_mono h.le
    rwa [monthOf, monthOf, hyear, add_le_add_iff_left, Nat.cast_le] at hmono
  simp only [periodKey, hyear, String.append_assoc]
  refine strictMono_append _ (strictMono_append _ ?_)
  rcases Nat.lt_or_eq_of_le hmonths with hlt | heq
  · exact twoPlaces_append_lt (Nat.succ_lt_succ hlt) (by omega) _ _
  · -- in one month the days decide
    have hsame : monthOf d = monthOf d' := by rw [monthOf, monthOf, hyear, heq]
    have hdays : dayOfMonth d < dayOfMonth d' := by
      rw [dayOfMonth, dayOfMonth, hsame]
      exact add_lt_add_left (sub_lt_sub_right h _) 1
    obtain ⟨hpos, hle⟩ := dayOfMonth_bounds d
    obtain ⟨hpos', hle'⟩ := dayOfMonth_bounds d'
    rw [heq]
    refine strictMono_append _ (strictMono_append _ ?_)
    rw [twoPlaces_lt_iff (by omega) (by omega)]
    exact (Int.toNat_lt_toNat (by omega)).mpr hdays

theorem periodKey_daily_lt_iff (hyear : yearOf d = yearOf d') :
    periodKey d .daily < periodKey d' .daily ↔ d < d' := by
  refine ⟨fun h => ?_, periodKey_daily_lt hyear⟩
  rcases lt_trichotomy d d' with hlt | rfl | hgt
  · exact hlt
  · exact absurd h (lt_irrefl _)
  · exact absurd h (periodKey_daily_lt hyear.symm hgt).asymm

/-! ### Texts and periods -/

/-- Where the weeks belong to one year, the texts are ordered as the periods. -/
theorem periodKey_lt_iff (hyear : yearOf d = yearOf d')
    (hweek : g = .weekly → isoYear d = isoYear d') :
    periodKey d g < periodKey d' g ↔ period g d < period g d' := by
  cases g with
  | daily => exact periodKey_daily_lt_iff hyear
  | weekly =>
      exact (periodKey_weekly_lt_iff hyear).trans (isoWeek_lt_iff_of_isoYear_eq (hweek rfl))
  | monthly => exact periodKey_monthly_lt_iff hyear
  | yearly => simp only [periodKey, period, hyear, lt_irrefl]

theorem periodKey_eq_iff (hyear : yearOf d = yearOf d')
    (hweek : g = .weekly → isoYear d = isoYear d') :
    periodKey d g = periodKey d' g ↔ period g d = period g d' := by
  have hlt := periodKey_lt_iff hyear hweek
  have hgt := periodKey_lt_iff hyear.symm fun hg => (hweek hg).symm
  constructor
  · intro h
    rw [h] at hlt hgt
    exact le_antisymm (not_lt.mp (mt hgt.mpr (lt_irrefl _))) (not_lt.mp (mt hlt.mpr (lt_irrefl _)))
  · intro h
    rw [h] at hlt hgt
    exact le_antisymm (not_lt.mp (mt hgt.mp (lt_irrefl _))) (not_lt.mp (mt hlt.mp (lt_irrefl _)))

/-- The days of a period have one text. -/
theorem periodKey_eq_of_period_eq (hyear : yearOf d = yearOf d')
    (h : period g d = period g d') : periodKey d g = periodKey d' g := by
  refine (periodKey_eq_iff hyear ?_).mpr h
  rintro rfl
  exact isoYear_eq_of_mondayOf_eq h

theorem not_periodKey_lt_of_isoYear_lt (hyear : yearOf d = yearOf d')
    (h : isoYear d < isoYear d') : ¬ periodKey d .weekly < periodKey d' .weekly := by
  rw [periodKey_weekly_lt_iff hyear]
  exact not_lt.mpr (isoWeek_le_of_isoYear_lt hyear h)

/-- The texts of two days tell their periods apart, and in order, exactly if they are not weekly or
the two weeks belong to one year. -/
theorem periodKey_faithful_iff (hyear : yearOf d = yearOf d') :
    ((periodKey d g = periodKey d' g ↔ period g d = period g d') ∧
      (periodKey d g < periodKey d' g ↔ period g d < period g d')) ↔
      (g = .weekly → isoYear d = isoYear d') := by
  refine ⟨?_, fun hweek => ⟨periodKey_eq_iff hyear hweek, periodKey_lt_iff hyear hweek⟩⟩
  rintro ⟨heq, hlt⟩ rfl
  rcases lt_trichotomy (isoYear d) (isoYear d') with hbefore | hsame | hafter
  · exact absurd (hlt.mpr (mondayOf_lt_of_isoYear_lt hbefore))
      (not_periodKey_lt_of_isoYear_lt hyear hbefore)
  · exact hsame
  · have hmondays := mondayOf_lt_of_isoYear_lt hafter
    rcases lt_trichotomy (periodKey d .weekly) (periodKey d' .weekly) with hkey | hkey | hkey
    · exact absurd (hlt.mp hkey) hmondays.asymm
    · exact absurd (heq.mp hkey) hmondays.ne'
    · exact absurd hkey (not_periodKey_lt_of_isoYear_lt hyear.symm hafter)

theorem period_mono (g : Granularity) : Monotone (period g) := by
  cases g with
  | daily => exact monotone_id
  | weekly => exact fun _ _ h => mondayOf_mono h
  | monthly => exact monthOf_mono
  | yearly => exact yearOf_mono

/-! ### Trends -/

section Trend

variable {ρ : Type} {date : ρ → Day} {value : ρ → Option ℚ} {digits : ℕ} {rows : List ρ} {year : ℤ}

theorem map_period_trendPoints (key : ρ → String) (value : ρ → Option ℚ) (digits : ℕ)
    (prevValue : Option ℚ) (l : List ρ) :
    (trendPoints key value digits prevValue l).map TrendPoint.period = l.map key := by
  induction l generalizing prevValue with
  | nil => rfl
  | cons r rest ih => rw [trendPoints, List.map_cons, List.map_cons, ih]

/-- The texts increase with the periods exactly if the weeks belong to one year. -/
theorem periodKeys_increase_iff (hyear : ∀ r ∈ rows, yearOf (date r) = year) :
    (∀ r ∈ rows, ∀ r' ∈ rows, period g (date r) < period g (date r') →
      periodKey (date r) g < periodKey (date r') g) ↔
      (g = .weekly → OneWeekYear (rows.map date)) := by
  have hyears : ∀ r ∈ rows, ∀ r' ∈ rows, yearOf (date r) = yearOf (date r') :=
    fun r hr r' hr' => (hyear r hr).trans (hyear r' hr').symm
  constructor
  · rintro hkeys rfl d hd d' hd'
    obtain ⟨r, hr, rfl⟩ := List.mem_map.mp hd
    obtain ⟨r', hr', rfl⟩ := List.mem_map.mp hd'
    rcases lt_trichotomy (isoYear (date r)) (isoYear (date r')) with hlt | heq | hgt
    · exact absurd (hkeys r hr r' hr' (mondayOf_lt_of_isoYear_lt hlt))
        (not_periodKey_lt_of_isoYear_lt (hyears r hr r' hr') hlt)
    · exact heq
    · exact absurd (hkeys r' hr' r hr (mondayOf_lt_of_isoYear_lt hgt))
        (not_periodKey_lt_of_isoYear_lt (hyears r' hr' r hr) hgt)
  · intro hweek r hr r' hr' hlt
    refine (periodKey_lt_iff (hyears r hr r' hr') fun hg => ?_).mpr hlt
    exact hweek hg _ (List.mem_map_of_mem hr) _ (List.mem_map_of_mem hr')

/-- What makes a trend exact, for rows of one year. -/
theorem trend_eq_exactTrend_iff (hyear : ∀ r ∈ rows, yearOf (date r) = year)
    (hrows : rows.Pairwise fun r r' => date r ≤ date r') :
    trend g date value digits rows = exactTrend g date value digits rows ↔
      (g = .weekly → OneWeekYear (rows.map date)) := by
  refine Iff.trans ?_ (periodKeys_increase_iff hyear)
  refine report_eq_iff (map_period_trendPoints _ value digits none)
    (hrows.imp fun h => period_mono g h) fun r hr r' hr' h => ?_
  exact periodKey_eq_of_period_eq ((hyear r hr).trans (hyear r' hr').symm) h

end Trend

/-! ### Requests -/

variable {db : TrendTables} {organizationId : Id} {year : ℤ} {month : Option ℤ}
  {window : Day × Day}

/-- A request that is answered, and the days that it is about. -/
structure Accepted (db : TrendTables) (organizationId : Id) (year : ℤ) (g : Granularity)
    (month : Option ℤ) (window : Day × Day) : Prop where
  organization : organizationId ∈ db.organizations
  daily : g = .daily → month ≠ none
  dates : trendWindowDates year month = .ok window

/-- The entries that the utilisation is taken from. -/
def entriesOf (db : TrendTables) (organizationId : Id) (window : Day × Day) : List LedgerRow :=
  listInRangeAsc db organizationId (dayMin window.1) (dayMax window.2)

/-- The changes that the limit is taken from. -/
def changesOf (db : TrendTables) (organizationId : Id) (window : Day × Day) :
    List OrgCreditLimitAdjustmentHistory :=
  listAppliedInRange db organizationId window.1 window.2

theorem granularityOf_value (g : Granularity) : granularityOf g.value = some g := by
  cases g <;> decide +kernel

theorem validateOverviewTrend_value (hdaily : g = .daily → month ≠ none) :
    validateOverviewTrend g.value month = .ok g := by
  rw [validateOverviewTrend, granularityOf_value]
  exact bind_eq_ok.mpr ⟨g, rfl, bind_eq_ok.mpr
    ⟨⟨⟩, raiseIf_eq_ok.mpr fun h => hdaily h.1 h.2, rfl⟩⟩

theorem getUtilisationTrend_eq (hreq : Accepted db organizationId year g month window) :
    getUtilisationTrend db organizationId year g.value month =
      .ok (trend g (fun entry => utcDate entry.createdAt) utilisationValue 1
        (entriesOf db organizationId window)) :=
  bind_eq_ok.mpr ⟨g, validateOverviewTrend_value hreq.daily, bind_eq_ok.mpr
    ⟨⟨⟩, raiseIf_eq_ok.mpr (not_not.mpr hreq.organization), bind_eq_ok.mpr ⟨_, hreq.dates, rfl⟩⟩⟩

theorem getCreditLimitTrend_eq (hreq : Accepted db organizationId year g month window) :
    getCreditLimitTrend db organizationId year g.value month =
      .ok (trend g (fun r => r.effectiveDate) limitValue 2
        (changesOf db organizationId window)) :=
  bind_eq_ok.mpr ⟨g, validateOverviewTrend_value hreq.daily, bind_eq_ok.mpr
    ⟨⟨⟩, raiseIf_eq_ok.mpr (not_not.mpr hreq.organization), bind_eq_ok.mpr ⟨_, hreq.dates, rfl⟩⟩⟩

/-- The window lies in the year. -/
theorem window_bounds (h : trendWindowDates year month = .ok window) :
    daysBeforeYear year < window.1 ∧ window.2 ≤ daysBeforeYear (year + 1) := by
  obtain ⟨_, hmonth, hrest⟩ := bind_eq_ok.mp h
  obtain ⟨_, -, hdates⟩ := bind_eq_ok.mp hrest
  cases month with
  | none =>
      obtain rfl := Except.ok.inj hdates
      exact ⟨lt_add_one _, le_rfl⟩
  | some month =>
      obtain rfl := Except.ok.inj hdates
      have hvalid : 1 ≤ month ∧ month ≤ 12 := by simpa using raiseIf_eq_ok.mp hmonth
      have hjanuary := monthStart_of_year year (show 0 ≤ 12 by decide)
      have hnext := monthStart_of_year (year + 1) (show 0 ≤ 12 by decide)
      have hfirst := monthStart_strictMono.monotone
        (show 12 * year + (0 : ℕ) ≤ 12 * year + (month - 1) by omega)
      have hlast := monthStart_strictMono.monotone
        (show 12 * year + month ≤ 12 * (year + 1) + (0 : ℕ) by omega)
      have hzero : ∀ y, daysBeforeMonth y 0 = 0 := fun y => by simp [daysBeforeMonth]
      rw [hjanuary, hzero] at hfirst
      rw [hnext, hzero] at hlast
      exact ⟨Int.lt_of_add_one_le (by omega), Int.sub_right_le_of_le_add (by omega)⟩

/-- The days of the moments between the start of a day and the end of another. -/
theorem utcDate_bounds {start stop : Day} {t : Instant} (hstart : dayMin start ≤ t)
    (hstop : t ≤ dayMax stop) : start ≤ utcDate t ∧ utcDate t ≤ stop := by
  have hdays : ∀ a b t : ℤ, a * 86400000000 ≤ t → t ≤ b * 86400000000 + 86399999999 →
      a ≤ t / 86400000000 ∧ t / 86400000000 ≤ b := by omega
  exact hdays start stop t hstart hstop

theorem yearOf_entry (hreq : Accepted db organizationId year g month window) {entry : LedgerRow}
    (hentry : entry ∈ entriesOf db organizationId window) :
    yearOf (utcDate entry.createdAt) = year := by
  have hfound := (List.mem_filter.mp ((List.mem_insertionSort _).mp hentry)).2
  obtain ⟨-, hstart, hstop⟩ := of_decide_eq_true hfound
  obtain ⟨hfirst, hlast⟩ := window_bounds hreq.dates
  obtain ⟨hlow, hhigh⟩ := utcDate_bounds hstart hstop
  exact yearOf_eq_of_bounds (hfirst.trans_le hlow) (hhigh.trans hlast)

theorem yearOf_change (hreq : Accepted db organizationId year g month window)
    {r : OrgCreditLimitAdjustmentHistory} (hr : r ∈ changesOf db organizationId window) :
    yearOf r.effectiveDate = year := by
  have hfound := (List.mem_filter.mp ((List.mem_insertionSort _).mp hr)).2
  obtain ⟨-, -, hstart, hstop⟩ := of_decide_eq_true hfound
  obtain ⟨hfirst, hlast⟩ := window_bounds hreq.dates
  exact yearOf_eq_of_bounds (hfirst.trans_le hstart) (hstop.trans hlast)

/-- The entries come in the order of their days. -/
theorem pairwise_entriesOf (db : TrendTables) (organizationId : Id) (window : Day × Day) :
    (entriesOf db organizationId window).Pairwise fun r r' =>
      utcDate r.createdAt ≤ utcDate r'.createdAt := by
  have : IsTrans LedgerRow fun r r' => r.createdAt ≤ r'.createdAt :=
    ⟨fun _ _ _ hab hbc => le_trans hab hbc⟩
  have : Std.Total fun r r' : LedgerRow => r.createdAt ≤ r'.createdAt :=
    ⟨fun r r' => le_total r.createdAt r'.createdAt⟩
  exact (List.pairwise_insertionSort _ _).imp fun h => Int.ediv_le_ediv (by decide) h

theorem pairwise_changesOf (db : TrendTables) (organizationId : Id) (window : Day × Day) :
    (changesOf db organizationId window).Pairwise fun r r' =>
      r.effectiveDate ≤ r'.effectiveDate := by
  have : IsTrans OrgCreditLimitAdjustmentHistory fun r r' => r.effectiveDate ≤ r'.effectiveDate :=
    ⟨fun _ _ _ hab hbc => le_trans hab hbc⟩
  have : Std.Total fun r r' : OrgCreditLimitAdjustmentHistory =>
      r.effectiveDate ≤ r'.effectiveDate := ⟨fun r r' => le_total r.effectiveDate r'.effectiveDate⟩
  exact List.pairwise_insertionSort _ _

/-- When the utilisation has the points of its periods, in their order. -/
theorem utilisation_exact_iff (hreq : Accepted db organizationId year g month window) :
    getUtilisationTrend db organizationId year g.value month =
        .ok (exactTrend g (fun entry => utcDate entry.createdAt) utilisationValue 1
          (entriesOf db organizationId window)) ↔
      (g = .weekly →
        OneWeekYear ((entriesOf db organizationId window).map fun r => utcDate r.createdAt)) := by
  rw [getUtilisationTrend_eq hreq, Except.ok.injEq]
  exact trend_eq_exactTrend_iff (fun _ => yearOf_entry hreq) (pairwise_entriesOf _ _ _)

/-- When the limit has the points of its periods, in their order. -/
theorem creditLimit_exact_iff (hreq : Accepted db organizationId year g month window) :
    getCreditLimitTrend db organizationId year g.value month =
        .ok (exactTrend g (fun r => r.effectiveDate) limitValue 2
          (changesOf db organizationId window)) ↔
      (g = .weekly →
        OneWeekYear ((changesOf db organizationId window).map fun r => r.effectiveDate)) := by
  rw [getCreditLimitTrend_eq hreq, Except.ok.injEq]
  exact trend_eq_exactTrend_iff (fun _ => yearOf_change hreq) (pairwise_changesOf _ _ _)

/-- **When the trends are exact**: each has one point for every period with an entry, from its last
entry and in the order of the periods, exactly if it is not weekly or all its entries lie in the
weeks of one year; and that is when the texts of two days of the year tell their periods apart, and
in order. -/
theorem trends_exact_iff (hreq : Accepted db organizationId year g month window) :
    (getUtilisationTrend db organizationId year g.value month =
        .ok (exactTrend g (fun entry => utcDate entry.createdAt) utilisationValue 1
          (entriesOf db organizationId window)) ↔
      (g = .weekly →
        OneWeekYear ((entriesOf db organizationId window).map fun r => utcDate r.createdAt))) ∧
    (getCreditLimitTrend db organizationId year g.value month =
        .ok (exactTrend g (fun r => r.effectiveDate) limitValue 2
          (changesOf db organizationId window)) ↔
      (g = .weekly →
        OneWeekYear ((changesOf db organizationId window).map fun r => r.effectiveDate))) ∧
    ∀ d d', yearOf d = year → yearOf d' = year →
      (((periodKey d g = periodKey d' g ↔ period g d = period g d') ∧
        (periodKey d g < periodKey d' g ↔ period g d < period g d')) ↔
        (g = .weekly → isoYear d = isoYear d')) :=
  ⟨utilisation_exact_iff hreq, creditLimit_exact_iff hreq,
    fun _ _ hd hd' => periodKey_faithful_iff (hd.trans hd'.symm)⟩

/-! ### A turn of the year -/

/-- An entry of the first organisation at noon of a day, with a limit of 100 pounds. -/
def entryAt (day : Day) (usedCreditAfter : ℤ) : LedgerRow where
  organizationId := 1
  accountId := 1
  movementType := .consume
  sourceType := none
  sourceId := none
  idempotencyKey := none
  amount := 10
  usedCreditAfter
  availableCreditAfter := 10000 - usedCreditAfter
  creditLimitAfter := some 10000
  adjustmentReason := none
  actorUserId := none
  createdAt := dayMin day + 43200000000

/-- One entry on Saturday, 1 January 2022, and one on the Monday after it. -/
def turnOfYear : TrendTables := ⟨[1], [entryAt 738156 1000, entryAt 738158 2000], []⟩

theorem accepted_turnOfYear : Accepted turnOfYear 1 2022 .weekly none (738156, 738520) where
  organization := List.mem_cons_self
  daily := fun h => absurd h (by decide)
  dates := by decide +kernel

/-- The week of 1 January, which is the last of 2021, comes after the first week of 2022. -/
theorem turn_of_year_out_of_order :
    getUtilisationTrend turnOfYear 1 2022 Granularity.weekly.value none ≠
        .ok (exactTrend .weekly (fun entry => utcDate entry.createdAt) utilisationValue 1
          (entriesOf turnOfYear 1 (738156, 738520))) ∧
      (getUtilisationTrend turnOfYear 1 2022 "weekly" none).map (·.map TrendPoint.period) =
        .ok ["2022-W01", "2022-W52"] := by
  refine ⟨fun hexact => ?_, by decide +kernel⟩
  have hyears := (utilisation_exact_iff accepted_turnOfYear).mp hexact rfl
  exact absurd (hyears 738156 (by decide +kernel) 738158 (by decide +kernel)) (by decide +kernel)

/-- The same entries, two days later. -/
def firstWeeks : TrendTables := ⟨[1], [entryAt 738158 1000, entryAt 738160 2000], []⟩

theorem accepted_firstWeeks : Accepted firstWeeks 1 2022 .weekly none (738156, 738520) where
  organization := List.mem_cons_self
  daily := fun h => absurd h (by decide)
  dates := by decide +kernel

theorem exact_in_first_weeks :
    getUtilisationTrend firstWeeks 1 2022 Granularity.weekly.value none =
      .ok (exactTrend .weekly (fun entry => utcDate entry.createdAt) utilisationValue 1
        (entriesOf firstWeeks 1 (738156, 738520))) :=
  (trends_exact_iff accepted_firstWeeks).1.mpr fun _ => by
    unfold OneWeekYear
    decide +kernel

end SwCouriers.CreditTrends
