import SwCouriers.CreditSettings

/-!
# Scheduled Changes of Credit Settings

A change for a later day should be put into force once. It is, as long as the SCHEDULED rows
of the histories mirror the pending columns of the accounts. A patch over a change that is
still pending replaces the columns and leaves the row of the old change SCHEDULED.

## Main results

* `mirrors_append_iff`: a new row mirrors the columns exactly if nothing was pending.
* `Mirrored.applyDue`: what the job does to accounts that are mirrored.
* `applied_exactly_once_iff`: the rows mirror the columns along a run, and the job applies
  every change once, exactly if no patch replaces a change that is pending.
-/

namespace SwCouriers.CreditSettings

open Checked

/-! ### One history -/

variable {value : ℤ}

section History

variable {δ : Type}

/-- The SCHEDULED rows of an account. -/
def scheduledOf (creditAccountId : Id) (rows : List (SettingHistory δ)) :
    List (SettingHistory δ) :=
  rows.filter fun row => row.creditAccountId = creditAccountId && row.status = .scheduled

/-- An account has at most one SCHEDULED row, and it carries the pending value and its date;
when nothing is pending there is none. -/
def Mirrors (carries : δ → ℤ → Prop) (creditAccountId : Id) (pending : Option ℤ)
    (effectiveFrom : Option Day) (rows : List (SettingHistory δ)) : Prop :=
  match pending, effectiveFrom with
  | none, none => scheduledOf creditAccountId rows = []
  | some value, some date => ∃ row, scheduledOf creditAccountId rows = [row] ∧
      row.effectiveDate = date ∧ carries row.change value
  | _, _ => False

variable {carries : δ → ℤ → Prop} {k j : Id} {pending : Option ℤ} {effectiveFrom : Option Day}
  {rows : List (SettingHistory δ)} {row : SettingHistory δ} {date : Day} {now : Instant}

theorem scheduledOf_append (rows rows' : List (SettingHistory δ)) :
    scheduledOf k (rows ++ rows') = scheduledOf k rows ++ scheduledOf k rows' :=
  List.filter_append rows rows'

/-- A row of another account, or one that is not SCHEDULED, does not count. -/
theorem scheduledOf_append_of_not (h : row.creditAccountId ≠ k ∨ row.status ≠ .scheduled) :
    scheduledOf k (rows ++ [row]) = scheduledOf k rows := by
  have hnot : scheduledOf k [row] = [] := by
    rcases h with h | h <;> simp [scheduledOf, h]
  rw [scheduledOf_append, hnot, List.append_nil]

theorem Mirrors.congr {rows' : List (SettingHistory δ)}
    (hsame : scheduledOf k rows' = scheduledOf k rows)
    (h : Mirrors carries k pending effectiveFrom rows) :
    Mirrors carries k pending effectiveFrom rows' := by
  unfold Mirrors at h ⊢
  rw [hsame]
  exact h

/-- Nothing is pending exactly if there is no SCHEDULED row. -/
theorem Mirrors.pending_eq_none_iff (h : Mirrors carries k pending effectiveFrom rows) :
    pending = none ↔ scheduledOf k rows = [] := by
  unfold Mirrors at h
  split at h
  · exact iff_of_true rfl h
  · obtain ⟨row, hrow, -⟩ := h
    simp [hrow]
  · exact h.elim

/-- A date is pending only with a value. -/
theorem Mirrors.isSome_of_effectiveFrom (h : Mirrors carries k pending effectiveFrom rows)
    (hdate : effectiveFrom ≠ none) : pending.isSome = true := by
  unfold Mirrors at h
  split at h
  · exact absurd rfl hdate
  · rfl
  · exact h.elim

/-- **A row that is added for a new change mirrors it exactly if nothing was pending.** -/
theorem mirrors_append_iff (h : Mirrors carries k pending effectiveFrom rows)
    (hid : row.creditAccountId = k) (hcarries : carries row.change value) :
    Mirrors carries k (if row.status = .scheduled then some value else none)
      (if row.status = .scheduled then some row.effectiveDate else none) (rows ++ [row]) ↔
    pending = none := by
  rw [h.pending_eq_none_iff]
  by_cases hstatus : row.status = .scheduled
  · have hrow : scheduledOf k [row] = [row] := by simp [scheduledOf, hid, hstatus]
    simp only [Mirrors, if_pos hstatus, scheduledOf_append, hrow]
    constructor
    · rintro ⟨row', heq, -⟩
      exact (List.append_eq_singleton_iff.mp heq).elim (fun h => h.1) fun h => by simp at h
    · intro hnil
      exact ⟨row, by rw [hnil, List.nil_append], rfl, hcarries⟩
  · simp only [Mirrors, if_neg hstatus]
    rw [scheduledOf_append_of_not (.inr hstatus)]

/-- The rows for a date are among the SCHEDULED rows of the account. -/
theorem filter_isScheduledFor (rows : List (SettingHistory δ)) :
    rows.filter (SettingHistory.isScheduledFor k date)
      = (scheduledOf k rows).filter fun row => row.effectiveDate = date := by
  rw [scheduledOf, List.filter_filter]
  refine List.filter_congr fun row _ => ?_
  rw [SettingHistory.isScheduledFor, Bool.and_comm]

/-- The row of a pending change is found. -/
theorem findScheduled_of_mirrors (h : Mirrors carries k (some value) (some date) rows) :
    ∃ row, findScheduled rows k date = .ok (some row) := by
  obtain ⟨row, hrow, hdate, -⟩ := h
  refine ⟨row, ?_⟩
  rw [findScheduled, filter_isScheduledFor, hrow, List.filter_cons_of_pos (by simp [hdate])]
  rfl

/-- Marking the row of one account leaves the SCHEDULED rows of the others. -/
theorem scheduledOf_markApplied_other (hne : j ≠ k) :
    scheduledOf j (markApplied k date now rows) = scheduledOf j rows := by
  induction rows with
  | nil => rfl
  | cons row rows ih =>
      simp only [markApplied, scheduledOf, List.map_cons] at ih ⊢
      by_cases hrow : row.isScheduledFor k date = true
      · have hid : row.creditAccountId = k := by
          simp only [SettingHistory.isScheduledFor, Bool.and_eq_true, decide_eq_true_eq] at hrow
          exact hrow.1.1
        rw [if_pos hrow, List.filter_cons_of_neg (by simp),
          List.filter_cons_of_neg (by simp [hid, hne.symm]), ih]
      · rw [if_neg hrow, List.filter_cons, List.filter_cons, ih]

/-- Marking the one SCHEDULED row of an account leaves none. -/
theorem scheduledOf_markApplied_self (h : Mirrors carries k (some value) (some date) rows) :
    scheduledOf k (markApplied k date now rows) = [] := by
  obtain ⟨row, hrow, hdate, -⟩ := h
  refine List.filter_eq_nil_iff.mpr fun r hr => ?_
  obtain ⟨r₀, hr₀, rfl⟩ := List.mem_map.mp hr
  by_cases hfor : r₀.isScheduledFor k date = true
  · simp [hfor]
  · rw [if_neg hfor]
    intro hscheduled
    have hmem : r₀ ∈ scheduledOf k rows := List.mem_filter.mpr ⟨hr₀, hscheduled⟩
    rw [hrow, List.mem_singleton] at hmem
    simp only [Bool.and_eq_true, decide_eq_true_eq] at hscheduled
    refine hfor ?_
    simp only [SettingHistory.isScheduledFor, Bool.and_eq_true, decide_eq_true_eq]
    exact ⟨hscheduled, hmem ▸ hdate⟩

end History

/-! ### The accounts and one history -/

/-- The columns of an account, and the history, that belong to one kind of change. -/
structure Kind (δ : Type) where
  pending : OrgCreditAccount → Option ℤ
  effectiveFrom : OrgCreditAccount → Option Day
  history : Db → List (SettingHistory δ)
  carries : δ → ℤ → Prop

/-- Changes of the limit. -/
def limitKind : Kind LimitChange where
  pending := OrgCreditAccount.pendingCreditLimit
  effectiveFrom := OrgCreditAccount.pendingCreditLimitEffectiveFrom
  history := Db.limitHistory
  carries := fun change value => change.newLimit = value

/-- Changes of the terms, whose history has the days as a text. -/
def termsKind : Kind TermsChange where
  pending := OrgCreditAccount.pendingPaymentTermsDays
  effectiveFrom := OrgCreditAccount.pendingPaymentTermsEffectiveFrom
  history := Db.termsHistory
  carries := fun change value => change.newPaymentTerms = some (toString value)

/-- The history mirrors the pending columns of every account. -/
def Kind.Mirrored {δ : Type} (K : Kind δ) (db : Db) : Prop :=
  ∀ a ∈ db.accounts.rows, Mirrors K.carries a.id (K.pending a) (K.effectiveFrom a) (K.history db)

section Kinds

variable {δ : Type} {K : Kind δ} {db db' : Db} {org : Id} {acct : OrgCreditAccount}
  {f : OrgCreditAccount → OrgCreditAccount}

/-- What a rewriting of the account of one organisation does to a row. -/
def rewriteOrg (org : Id) (f : OrgCreditAccount → OrgCreditAccount) (a : OrgCreditAccount) :
    OrgCreditAccount :=
  if a.organizationId = org then f a else a

/-- A rewriting that changes no account. -/
theorem map_rewriteOrg_of_eq
    (h : ∀ a ∈ db.accounts.rows, a.organizationId = org → f a = a) :
    db.accounts.rows.map (rewriteOrg org f) = db.accounts.rows := by
  conv_rhs => rw [← List.map_id db.accounts.rows]
  refine List.map_congr_left fun a ha => ?_
  rw [rewriteOrg]
  split_ifs with horg
  · exact h a ha horg
  · rfl

/-- Accounts of different organisations have different ids. -/
theorem Db.id_ne {a : OrgCreditAccount} (ha : a ∈ db.accounts.rows)
    (hacct : db.accounts.find? org = some acct) (hne : a.organizationId ≠ org) :
    a.id ≠ acct.id := by
  obtain ⟨hmem, horg⟩ := Table.find?_eq_some_iff.mp hacct
  intro heq
  have hsame := List.inj_on_of_nodup_map db.ids ha hmem heq
  exact hne (hsame ▸ horg)

/-- The account of an organisation is the one that is found. -/
theorem Db.eq_of_org {a : OrgCreditAccount} (ha : a ∈ db.accounts.rows)
    (hacct : db.accounts.find? org = some acct) (horg : a.organizationId = org) : a = acct :=
  Option.some.inj ((Table.find?_eq_some_iff.mpr ⟨ha, horg⟩).symm.trans hacct)

/-- A write that leaves the columns and the history of a kind leaves them mirrored. -/
theorem Kind.Mirrored.kept (h : K.Mirrored db) (hid : ∀ a, (f a).id = a.id)
    (haccounts : db'.accounts.rows = db.accounts.rows.map (rewriteOrg org f))
    (hpending : ∀ a, K.pending (f a) = K.pending a)
    (heffective : ∀ a, K.effectiveFrom (f a) = K.effectiveFrom a)
    (hhistory : K.history db' = K.history db) : K.Mirrored db' := by
  intro a ha
  rw [haccounts] at ha
  obtain ⟨a₀, ha₀, rfl⟩ := List.mem_map.mp ha
  have hold := h a₀ ha₀
  rw [hhistory, rewriteOrg]
  split_ifs
  · rwa [hid, hpending, heffective]
  · exact hold

/-- **A patch leaves its kind mirrored exactly if nothing was pending.** -/
theorem Kind.mirrored_patch_iff (h : K.Mirrored db) (hacct : db.accounts.find? org = some acct)
    (row : SettingHistory δ) (value : ℤ) (hrow : row.creditAccountId = acct.id)
    (hcarries : K.carries row.change value) (hid : ∀ a, (f a).id = a.id)
    (haccounts : db'.accounts.rows = db.accounts.rows.map (rewriteOrg org f))
    (hpending : K.pending (f acct) = if row.status = .scheduled then some value else none)
    (heffective : K.effectiveFrom (f acct)
      = if row.status = .scheduled then some row.effectiveDate else none)
    (hhistory : K.history db' = K.history db ++ [row]) :
    K.Mirrored db' ↔ K.pending acct = none := by
  obtain ⟨hmem, hown⟩ := Table.find?_eq_some_iff.mp hacct
  rw [← mirrors_append_iff (h acct hmem) hrow hcarries, ← hpending, ← heffective, ← hhistory]
  constructor
  · intro hafter
    have hnew := hafter (f acct)
      (haccounts ▸ List.mem_map.mpr ⟨acct, hmem, if_pos hown⟩)
    rwa [hid] at hnew
  · intro hnew a ha
    rw [haccounts] at ha
    obtain ⟨a₀, ha₀, rfl⟩ := List.mem_map.mp ha
    rw [rewriteOrg]
    split_ifs with hsame
    · obtain rfl := Db.eq_of_org ha₀ hacct hsame
      rwa [hid]
    · refine Mirrors.congr ?_ (h a₀ ha₀)
      rw [hhistory]
      exact scheduledOf_append_of_not (.inl (hrow ▸ (Db.id_ne ha₀ hacct hsame).symm))

/-- Putting a pending change into force and marking its row leaves the kind mirrored. -/
theorem Kind.Mirrored.marked (h : K.Mirrored db) (hacct : db.accounts.find? org = some acct)
    {date : Day} {now : Instant} (hvalue : K.pending acct = some value)
    (hdate : K.effectiveFrom acct = some date) (hid : ∀ a, (f a).id = a.id)
    (haccounts : db'.accounts.rows = db.accounts.rows.map (rewriteOrg org f))
    (hpending : K.pending (f acct) = none) (heffective : K.effectiveFrom (f acct) = none)
    (hhistory : K.history db' = markApplied acct.id date now (K.history db)) : K.Mirrored db' := by
  obtain ⟨hmem, -⟩ := Table.find?_eq_some_iff.mp hacct
  have hold := h acct hmem
  rw [hvalue, hdate] at hold
  intro a ha
  rw [haccounts] at ha
  obtain ⟨a₀, ha₀, rfl⟩ := List.mem_map.mp ha
  rw [rewriteOrg]
  split_ifs with hsame
  · obtain rfl := Db.eq_of_org ha₀ hacct hsame
    rw [hid, hpending, heffective, hhistory]
    exact scheduledOf_markApplied_self hold
  · refine Mirrors.congr ?_ (h a₀ ha₀)
    rw [hhistory]
    exact scheduledOf_markApplied_other (Db.id_ne ha₀ hacct hsame)

end Kinds

/-- Both histories mirror the accounts. -/
def Mirrored (db : Db) : Prop := limitKind.Mirrored db ∧ termsKind.Mirrored db

/-! ### Patches -/

section Patches

variable {organizations : Id → Bool} {db db' : Db} {org caller : Id} {now : Instant}

/-- What a patch of the limit writes. -/
theorem patchCreditLimit_eq_ok {req : LimitRequest}
    (h : patchCreditLimit organizations db org caller req now = .ok db') :
    organizations org = true ∧ ∃ acct change, db.accounts.find? org = some acct ∧
      change.newLimit = money req.creditLimit ∧
      db'.accounts.rows
        = db.accounts.rows.map (rewriteOrg org (OrgCreditAccount.patchLimit req now)) ∧
      db'.limitHistory
        = db.limitHistory ++ [historyRow acct caller req.effectiveDate now change] ∧
      db'.termsHistory = db.termsHistory := by
  obtain ⟨hexists, h⟩ := raiseIf_bind_eq_ok.mp h
  obtain ⟨acct, hacct, h⟩ := orRaise_bind_eq_ok.mp h
  obtain rfl := pure_eq_ok.mp h
  exact ⟨by simpa using hexists, acct, _, hacct, rfl, rfl, rfl,
    rfl⟩

/-- What a patch of the terms writes. -/
theorem patchPaymentTerms_eq_ok {req : TermsRequest}
    (h : patchPaymentTerms organizations db org caller req now = .ok db') :
    organizations org = true ∧ ∃ acct change, db.accounts.find? org = some acct ∧
      change.newPaymentTerms = some (toString req.paymentTermsDays) ∧
      db'.accounts.rows
        = db.accounts.rows.map (rewriteOrg org (OrgCreditAccount.patchTerms req now)) ∧
      db'.termsHistory
        = db.termsHistory ++ [historyRow acct caller req.effectiveDate now change] ∧
      db'.limitHistory = db.limitHistory := by
  obtain ⟨hexists, h⟩ := raiseIf_bind_eq_ok.mp h
  obtain ⟨acct, hacct, h⟩ := orRaise_bind_eq_ok.mp h
  obtain rfl := pure_eq_ok.mp h
  exact ⟨by simpa using hexists, acct, _, hacct, rfl, rfl, rfl,
    rfl⟩

/-- A patch of the limit keeps the histories mirrored exactly if no limit was pending. -/
theorem patchCreditLimit_mirrored_iff {req : LimitRequest} (hm : Mirrored db)
    (h : patchCreditLimit organizations db org caller req now = .ok db') :
    Mirrored db' ↔ ∃ a, db.accounts.find? org = some a ∧ a.pendingCreditLimit = none := by
  obtain ⟨-, acct, change, hacct, hnew, haccounts, hlimit, hterms⟩ := patchCreditLimit_eq_ok h
  have hkept : termsKind.Mirrored db' := hm.2.kept
    (OrgCreditAccount.patchLimit_id req now) haccounts
    (fun a => by simp only [termsKind, OrgCreditAccount.patchLimit]; split <;> rfl)
    (fun a => by simp only [termsKind, OrgCreditAccount.patchLimit]; split <;> rfl) hterms
  have hiff : limitKind.Mirrored db' ↔ acct.pendingCreditLimit = none :=
    Kind.mirrored_patch_iff hm.1 hacct (historyRow acct caller req.effectiveDate now change)
      (money req.creditLimit) rfl hnew (OrgCreditAccount.patchLimit_id req now) haccounts
      (by simp only [limitKind, OrgCreditAccount.patchLimit, historyRow]; split <;> simp)
      (by simp only [limitKind, OrgCreditAccount.patchLimit, historyRow]; split <;> simp) hlimit
  rw [Mirrored, and_iff_left hkept, hiff]
  simp [hacct]

/-- A patch of the terms keeps the histories mirrored exactly if no terms were pending. -/
theorem patchPaymentTerms_mirrored_iff {req : TermsRequest} (hm : Mirrored db)
    (h : patchPaymentTerms organizations db org caller req now = .ok db') :
    Mirrored db' ↔ ∃ a, db.accounts.find? org = some a ∧ a.pendingPaymentTermsDays = none := by
  obtain ⟨-, acct, change, hacct, hnew, haccounts, hterms, hlimit⟩ := patchPaymentTerms_eq_ok h
  have hkept : limitKind.Mirrored db' := hm.1.kept
    (OrgCreditAccount.patchTerms_id req now) haccounts
    (fun a => by simp only [limitKind, OrgCreditAccount.patchTerms]; split <;> rfl)
    (fun a => by simp only [limitKind, OrgCreditAccount.patchTerms]; split <;> rfl) hlimit
  have hiff : termsKind.Mirrored db' ↔ acct.pendingPaymentTermsDays = none :=
    Kind.mirrored_patch_iff hm.2 hacct (historyRow acct caller req.effectiveDate now change)
      req.paymentTermsDays rfl hnew (OrgCreditAccount.patchTerms_id req now) haccounts
      (by simp only [termsKind, OrgCreditAccount.patchTerms, historyRow]; split <;> simp)
      (by simp only [termsKind, OrgCreditAccount.patchTerms, historyRow]; split <;> simp) hterms
  rw [Mirrored, and_iff_right hkept, hiff]
  simp [hacct]

end Patches

/-! ### The job -/

/-- A due limit comes into force, and nothing else does. -/
def OrgCreditAccount.afterLimit (today : Day) (a : OrgCreditAccount) : OrgCreditAccount :=
  if a.limitDue today then a.limitInForce else a

/-- Due terms come into force, and nothing else does. -/
def OrgCreditAccount.afterTerms (today : Day) (now : Instant) (a : OrgCreditAccount) :
    OrgCreditAccount :=
  if a.termsDue today then a.termsInForce now else a

/-- What the job makes of an account. -/
def OrgCreditAccount.afterJob (today : Day) (now : Instant) (a : OrgCreditAccount) :
    OrgCreditAccount :=
  (a.afterLimit today).afterTerms today now

section Job

variable {db db' : Db} {today : Day} {now : Instant} {org : Id} {a : OrgCreditAccount}

@[simp] theorem afterLimit_organizationId :
    (a.afterLimit today).organizationId = a.organizationId := by
  rw [OrgCreditAccount.afterLimit]
  split <;> rfl

@[simp] theorem afterTerms_organizationId :
    (a.afterTerms today now).organizationId = a.organizationId := by
  rw [OrgCreditAccount.afterTerms]
  split <;> rfl

@[simp] theorem afterJob_organizationId :
    (a.afterJob today now).organizationId = a.organizationId := by
  simp [OrgCreditAccount.afterJob]

/-- After the job no limit is due. -/
theorem afterJob_limitDue : (a.afterJob today now).limitDue today = false := by
  have hlimit : (a.afterLimit today).limitDue today = false := by
    rw [OrgCreditAccount.afterLimit]
    split_ifs with hdue
    · rfl
    · simpa using hdue
  rw [OrgCreditAccount.afterJob, OrgCreditAccount.afterTerms]
  split_ifs
  · exact hlimit
  · exact hlimit

/-- After the job no terms are due. -/
theorem afterJob_termsDue : (a.afterJob today now).termsDue today = false := by
  rw [OrgCreditAccount.afterJob, OrgCreditAccount.afterTerms]
  split_ifs with hdue
  · rfl
  · simpa using hdue

/-- The job does nothing to an account with nothing due. -/
theorem afterJob_of_not_due (hlimit : a.limitDue today = false)
    (hterms : a.termsDue today = false) :
    a.afterJob today now = a := by
  rw [OrgCreditAccount.afterJob, OrgCreditAccount.afterLimit, if_neg (by simp [hlimit]),
    OrgCreditAccount.afterTerms, if_neg (by simp [hterms])]

theorem afterJob_afterJob {now' : Instant} :
    (a.afterJob today now).afterJob today now' = a.afterJob today now :=
  afterJob_of_not_due afterJob_limitDue afterJob_termsDue

/-- **The first half of a round does not raise, and puts a due limit into force.** -/
theorem Mirrored.applyLimit (hm : Mirrored db) (today : Day) (now : Instant) (org : Id) :
    ∃ db' n, applyLimit today now org db = .ok (db', n) ∧ Mirrored db' ∧
      db'.accounts.rows
        = db.accounts.rows.map (rewriteOrg org (OrgCreditAccount.afterLimit today)) := by
  rw [CreditSettings.applyLimit]
  cases hacct : db.accounts.find? org with
  | none =>
      refine ⟨db, 0, rfl, hm, (map_rewriteOrg_of_eq fun a ha horg => ?_).symm⟩
      rw [Table.find?_eq_some_iff.mpr ⟨ha, horg⟩] at hacct
      exact absurd hacct (by simp)
  | some acct =>
      dsimp only
      split_ifs with hdue
      · obtain ⟨hvalue, hdate⟩ : (∃ v, acct.pendingCreditLimit = some v) ∧
            ∃ d, acct.pendingCreditLimitEffectiveFrom = some d := by
          simp only [OrgCreditAccount.limitDue, Bool.and_eq_true, Option.isSome_iff_exists] at hdue
          refine ⟨hdue.1, ?_⟩
          obtain ⟨d, hd, -⟩ := (Option.any_eq_true _ _).mp hdue.2
          exact ⟨d, hd⟩
        obtain ⟨value, hvalue⟩ := hvalue
        obtain ⟨date, hdate⟩ := hdate
        have hrow := hm.1 acct (Table.find?_eq_some_iff.mp hacct).1
        simp only [limitKind, hvalue, hdate] at hrow
        obtain ⟨row, hfound⟩ := findScheduled_of_mirrors hrow
        have heff : acct.pendingCreditLimitEffectiveFrom.getD today = date := by rw [hdate]; rfl
        refine ⟨_, 1, bind_eq_ok.mpr ⟨some row, heff ▸ hfound, rfl⟩, ⟨?_, ?_⟩, ?_⟩
        · exact hm.1.marked (f := OrgCreditAccount.limitInForce) hacct hvalue hdate
            (fun _ => rfl) rfl rfl rfl (by rw [heff]; rfl)
        · exact hm.2.kept (f := OrgCreditAccount.limitInForce) (fun _ => rfl) rfl
            (fun _ => rfl) (fun _ => rfl) rfl
        · refine List.map_congr_left fun a ha => ?_
          rw [rewriteOrg]
          split_ifs with horg
          · rw [Db.eq_of_org ha hacct horg, OrgCreditAccount.afterLimit, if_pos hdue]
          · rfl
      · refine ⟨db, 0, rfl, hm, (map_rewriteOrg_of_eq fun a ha horg => ?_).symm⟩
        rw [Db.eq_of_org ha hacct horg, OrgCreditAccount.afterLimit, if_neg hdue]

/-- **The second half of a round does not raise, and puts due terms into force.** -/
theorem Mirrored.applyTerms (hm : Mirrored db) (today : Day) (now : Instant) (org : Id) :
    ∃ db' n, applyTerms today now org db = .ok (db', n) ∧ Mirrored db' ∧
      db'.accounts.rows
        = db.accounts.rows.map (rewriteOrg org (OrgCreditAccount.afterTerms today now)) := by
  rw [CreditSettings.applyTerms]
  cases hacct : db.accounts.find? org with
  | none =>
      refine ⟨db, 0, rfl, hm, (map_rewriteOrg_of_eq fun a ha horg => ?_).symm⟩
      rw [Table.find?_eq_some_iff.mpr ⟨ha, horg⟩] at hacct
      exact absurd hacct (by simp)
  | some acct =>
      dsimp only
      split_ifs with hdue
      · obtain ⟨⟨value, hvalue⟩, date, hdate⟩ : (∃ v, acct.pendingPaymentTermsDays = some v) ∧
            ∃ d, acct.pendingPaymentTermsEffectiveFrom = some d := by
          simp only [OrgCreditAccount.termsDue, Bool.and_eq_true, Option.isSome_iff_exists] at hdue
          obtain ⟨d, hd, -⟩ := (Option.any_eq_true _ _).mp hdue.2
          exact ⟨hdue.1, d, hd⟩
        have hrow := hm.2 acct (Table.find?_eq_some_iff.mp hacct).1
        simp only [termsKind, hvalue, hdate] at hrow
        obtain ⟨row, hfound⟩ := findScheduled_of_mirrors hrow
        have heff : acct.pendingPaymentTermsEffectiveFrom.getD today = date := by rw [hdate]; rfl
        refine ⟨_, 1, bind_eq_ok.mpr ⟨some row, heff ▸ hfound, rfl⟩, ⟨?_, ?_⟩, ?_⟩
        · exact hm.1.kept (f := OrgCreditAccount.termsInForce now) (fun _ => rfl) rfl
            (fun _ => rfl) (fun _ => rfl) rfl
        · exact hm.2.marked (f := OrgCreditAccount.termsInForce now) hacct hvalue hdate
            (fun _ => rfl) rfl rfl rfl (by rw [heff]; rfl)
        · refine List.map_congr_left fun a ha => ?_
          rw [rewriteOrg]
          split_ifs with horg
          · rw [Db.eq_of_org ha hacct horg, OrgCreditAccount.afterTerms, if_pos hdue]
          · rfl
      · refine ⟨db, 0, rfl, hm, (map_rewriteOrg_of_eq fun a ha horg => ?_).symm⟩
        rw [Db.eq_of_org ha hacct horg, OrgCreditAccount.afterTerms, if_neg hdue]

/-- The loop of the job does not raise, and does its work on the organisations it goes
through. -/
theorem Mirrored.applyEach (hm : Mirrored db) (today : Day) (now : Instant) (orgs : List Id)
    (n : ℕ) :
    ∃ db' n', applyEach today now orgs (db, n) = .ok (db', n') ∧ Mirrored db' ∧
      db'.accounts.rows = db.accounts.rows.map fun a =>
        if a.organizationId ∈ orgs then a.afterJob today now else a := by
  induction orgs generalizing db n with
  | nil => exact ⟨db, n, rfl, hm, by simp⟩
  | cons org orgs ih =>
      obtain ⟨db₁, n₁, hlimit, hm₁, hrows₁⟩ := hm.applyLimit today now org
      obtain ⟨db₂, n₂, hterms, hm₂, hrows₂⟩ := hm₁.applyTerms today now org
      obtain ⟨db', n', hrest, hm', hrows'⟩ := ih hm₂ (n + n₁ + n₂)
      refine ⟨db', n', ?_, hm', ?_⟩
      · exact bind_eq_ok.mpr ⟨(db₁, n₁), hlimit, bind_eq_ok.mpr ⟨(db₂, n₂), hterms, hrest⟩⟩
      · rw [hrows', hrows₂, hrows₁, List.map_map, List.map_map]
        refine List.map_congr_left fun a _ => ?_
        simp only [Function.comp_apply, rewriteOrg, List.mem_cons]
        by_cases horg : a.organizationId = org
        · simp only [horg, if_true, afterLimit_organizationId, afterTerms_organizationId, true_or]
          split_ifs
          · exact afterJob_afterJob
          · rfl
        · simp [horg]

/-- An account with a date that has come has a change that is due. -/
theorem Mirrored.due_of_date (hm : Mirrored db) (ha : a ∈ db.accounts.rows)
    (hdate : (a.pendingCreditLimitEffectiveFrom.any (· ≤ today) ||
      a.pendingPaymentTermsEffectiveFrom.any (· ≤ today)) = true) :
    a.limitDue today = true ∨ a.termsDue today = true := by
  rcases Bool.or_eq_true_iff.mp hdate with hlimit | hterms
  · obtain ⟨d, hd, -⟩ := (Option.any_eq_true _ _).mp hlimit
    refine .inl (Bool.and_eq_true_iff.mpr ⟨(hm.1 a ha).isSome_of_effectiveFrom ?_, hlimit⟩)
    simp [limitKind, hd]
  · obtain ⟨d, hd, -⟩ := (Option.any_eq_true _ _).mp hterms
    refine .inr (Bool.and_eq_true_iff.mpr ⟨(hm.2 a ha).isSome_of_effectiveFrom ?_, hterms⟩)
    simp [termsKind, hd]

/-- The job goes through every account with a change that is due. -/
theorem not_due_of_notMem (ha : a ∈ db.accounts.rows)
    (hnot : a.organizationId ∉ db.orgIdsWithDue today) :
    a.limitDue today = false ∧ a.termsDue today = false := by
  have hdate : ¬ (a.pendingCreditLimitEffectiveFrom.any (· ≤ today) ||
      a.pendingPaymentTermsEffectiveFrom.any (· ≤ today)) = true :=
    fun hdue => hnot (List.mem_map.mpr ⟨a, List.mem_filter.mpr ⟨ha, hdue⟩, rfl⟩)
  simp only [Bool.or_eq_true, not_or, Bool.not_eq_true] at hdate
  simp [OrgCreditAccount.limitDue, OrgCreditAccount.termsDue, hdate.1, hdate.2]

/-- **The job does not raise. It does its work on every account, and once.** -/
theorem Mirrored.applyDue (hm : Mirrored db) (today : Day) (now : Instant) :
    ∃ db' n, applyDueScheduledCreditAndTerms db today now = .ok (db', n) ∧ Mirrored db' ∧
      db'.accounts.rows = db.accounts.rows.map (OrgCreditAccount.afterJob today now) ∧
      ∀ now', applyDueScheduledCreditAndTerms db' today now' = .ok (db', 0) := by
  obtain ⟨db', n, hjob, hm', hrows⟩ := hm.applyEach today now (db.orgIdsWithDue today) 0
  have hafter : db'.accounts.rows = db.accounts.rows.map (OrgCreditAccount.afterJob today now) := by
    rw [hrows]
    refine List.map_congr_left fun a ha => ?_
    split_ifs with horg
    · rfl
    · have hnot := not_due_of_notMem ha horg
      exact (afterJob_of_not_due hnot.1 hnot.2).symm
  refine ⟨db', n, hjob, hm', hafter, fun now' => ?_⟩
  have hnone : db'.orgIdsWithDue today = [] := by
    refine List.map_eq_nil_iff.mpr (List.filter_eq_nil_iff.mpr fun a ha hdue => ?_)
    obtain ⟨a₀, -, rfl⟩ := List.mem_map.mp (hafter ▸ ha)
    rcases hm'.due_of_date ha hdue with hlimit | hterms
    · exact absurd hlimit (by simp [afterJob_limitDue])
    · exact absurd hterms (by simp [afterJob_termsDue])
  rw [applyDueScheduledCreditAndTerms, hnone]
  rfl

end Job

/-! ### Runs -/

/-- A value that is pending for a day that has come is in force and no longer pending;
otherwise nothing changes. -/
def InForce (today : Day) (current pending : Option ℤ) (effectiveFrom : Option Day)
    (current' pending' : Option ℤ) (effectiveFrom' : Option Day) : Prop :=
  if pending.isSome ∧ effectiveFrom.any (· ≤ today) then
    current' = pending ∧ pending' = none ∧ effectiveFrom' = none
  else current' = current ∧ pending' = pending ∧ effectiveFrom' = effectiveFrom

/-- The job does not raise; afterwards, for every account, the values that were due are in
force and no others; and a second job on the same day changes nothing. -/
def AppliesOnce (db : Db) (today : Day) (now : Instant) : Prop :=
  ∃ db' n, applyDueScheduledCreditAndTerms db today now = .ok (db', n) ∧
    (∀ a ∈ db.accounts.rows, ∃ a', db'.accounts.find? a.organizationId = some a' ∧
      InForce today a.creditLimit a.pendingCreditLimit a.pendingCreditLimitEffectiveFrom
        a'.creditLimit a'.pendingCreditLimit a'.pendingCreditLimitEffectiveFrom ∧
      InForce today a.paymentTermsDays a.pendingPaymentTermsDays
        a.pendingPaymentTermsEffectiveFrom a'.paymentTermsDays a'.pendingPaymentTermsDays
        a'.pendingPaymentTermsEffectiveFrom) ∧
    ∀ now', applyDueScheduledCreditAndTerms db' today now' = .ok (db', 0)

/-- A patch replaces a change of its kind that is pending. -/
def Replaces (organizations : Id → Bool) (db : Db) : Op → Prop
  | .patchCreditLimit org _ _ _ => organizations org = true ∧
      ∃ a, db.accounts.find? org = some a ∧ a.pendingCreditLimit ≠ none
  | .patchPaymentTerms org _ _ _ => organizations org = true ∧
      ∃ a, db.accounts.find? org = some a ∧ a.pendingPaymentTermsDays ≠ none
  | .applyDueScheduledCreditAndTerms _ _ => False

section Runs

variable {organizations : Id → Bool} {db : Db}

theorem afterJob_inForce (today : Day) (now : Instant) (a : OrgCreditAccount) :
    InForce today a.creditLimit a.pendingCreditLimit a.pendingCreditLimitEffectiveFrom
      (a.afterJob today now).creditLimit (a.afterJob today now).pendingCreditLimit
      (a.afterJob today now).pendingCreditLimitEffectiveFrom ∧
    InForce today a.paymentTermsDays a.pendingPaymentTermsDays
      a.pendingPaymentTermsEffectiveFrom (a.afterJob today now).paymentTermsDays
      (a.afterJob today now).pendingPaymentTermsDays
      (a.afterJob today now).pendingPaymentTermsEffectiveFrom := by
  have hlimit : (a.pendingCreditLimit.isSome ∧
      a.pendingCreditLimitEffectiveFrom.any (· ≤ today)) ↔ a.limitDue today = true :=
    Bool.and_eq_true_iff.symm
  have hterms : (a.pendingPaymentTermsDays.isSome ∧
      a.pendingPaymentTermsEffectiveFrom.any (· ≤ today)) ↔ a.termsDue today = true :=
    Bool.and_eq_true_iff.symm
  have hkept : (a.afterLimit today).termsDue today = a.termsDue today := by
    rw [OrgCreditAccount.afterLimit]
    split <;> rfl
  simp only [InForce, hlimit, hterms, OrgCreditAccount.afterJob, OrgCreditAccount.afterTerms,
    hkept]
  simp only [OrgCreditAccount.afterLimit]
  constructor <;> split_ifs <;> exact ⟨rfl, rfl, rfl⟩

/-- The job applies everything once when the histories mirror the accounts. -/
theorem Mirrored.appliesOnce (hm : Mirrored db) (today : Day) (now : Instant) :
    AppliesOnce db today now := by
  obtain ⟨db', n, hjob, -, hrows, hagain⟩ := hm.applyDue today now
  refine ⟨db', n, hjob, fun a ha => ⟨a.afterJob today now, ?_, afterJob_inForce today now a⟩,
    hagain⟩
  exact Table.find?_eq_some_iff.mpr ⟨hrows ▸ List.mem_map_of_mem ha, afterJob_organizationId⟩

/-- A patch of the limit goes through exactly if the organisation and its account are
there. -/
theorem patchCreditLimit_isOk {org : Id} {acct : OrgCreditAccount} (caller : Id)
    (req : LimitRequest) (now : Instant) (hexists : organizations org = true)
    (hacct : db.accounts.find? org = some acct) :
    ∃ db', patchCreditLimit organizations db org caller req now = .ok db' :=
  ⟨_, bind_eq_ok.mpr ⟨⟨⟩, raiseIf_eq_ok.mpr (by simp [hexists]),
    bind_eq_ok.mpr ⟨acct, orRaise_eq_ok.mpr hacct, rfl⟩⟩⟩

theorem patchPaymentTerms_isOk {org : Id} {acct : OrgCreditAccount} (caller : Id)
    (req : TermsRequest) (now : Instant) (hexists : organizations org = true)
    (hacct : db.accounts.find? org = some acct) :
    ∃ db', patchPaymentTerms organizations db org caller req now = .ok db' :=
  ⟨_, bind_eq_ok.mpr ⟨⟨⟩, raiseIf_eq_ok.mpr (by simp [hexists]),
    bind_eq_ok.mpr ⟨acct, orRaise_eq_ok.mpr hacct, rfl⟩⟩⟩

/-- A step keeps the histories mirrored exactly if it replaces no pending change. -/
theorem Mirrored.step_iff (hm : Mirrored db) (op : Op) :
    Mirrored (step organizations db op) ↔ ¬ Replaces organizations db op := by
  cases op with
  | patchPaymentTerms org caller req now =>
      rw [step, perform, Replaces]
      cases h : patchPaymentTerms organizations db org caller req now with
      | error e =>
          refine iff_of_true hm ?_
          rintro ⟨hexists, acct, hacct, -⟩
          obtain ⟨db', hok⟩ := patchPaymentTerms_isOk caller req now hexists hacct
          simp [hok] at h
      | ok db' =>
          obtain ⟨hexists, acct, -, hacct, -⟩ := patchPaymentTerms_eq_ok h
          rw [settle_ok, patchPaymentTerms_mirrored_iff hm h]
          simp [hexists, hacct]
  | patchCreditLimit org caller req now =>
      rw [step, perform, Replaces]
      cases h : patchCreditLimit organizations db org caller req now with
      | error e =>
          refine iff_of_true hm ?_
          rintro ⟨hexists, acct, hacct, -⟩
          obtain ⟨db', hok⟩ := patchCreditLimit_isOk caller req now hexists hacct
          simp [hok] at h
      | ok db' =>
          obtain ⟨hexists, acct, -, hacct, -⟩ := patchCreditLimit_eq_ok h
          rw [settle_ok, patchCreditLimit_mirrored_iff hm h]
          simp [hexists, hacct]
  | applyDueScheduledCreditAndTerms today now =>
      obtain ⟨db', n, hjob, hm', -⟩ := hm.applyDue today now
      rw [step, perform, hjob]
      exact iff_of_true hm' fun h => h

end Runs

/-- **Along every run from mirrored histories, the histories mirror the pending columns in
every state, and the job would apply every change that is due once and not raise, exactly if
no patch of the run replaces a change of its kind that is pending.** -/
theorem applied_exactly_once_iff (organizations : Id → Bool) (db : Db) (hm : Mirrored db)
    (ops : List Op) :
    (∀ pre post, ops = pre ++ post →
      Mirrored (Runs.run (step organizations) db pre) ∧
        ∀ today now, AppliesOnce (Runs.run (step organizations) db pre) today now) ↔
    Runs.Along (step organizations) (fun db op => ¬ Replaces organizations db op) db ops := by
  rw [← Runs.forall_prefix_iff_along (I := fun _ => True) (M := Mirrored) (fun _ _ h => h)
    (fun db op _ hm => hm.step_iff op) trivial hm]
  exact ⟨fun h pre post heq => (h pre post heq).1, fun h pre post heq =>
    ⟨h pre post heq, fun today now => (h pre post heq).appliesOnce today now⟩⟩

/-- The account of organisation 1: a limit of £1,000, and nothing pending. -/
def plainAccount : OrgCreditAccount where
  id := 1
  organizationId := 1
  creditLimit := some 100000
  creditLimitUpdatedAt := none
  pendingCreditLimit := none
  pendingCreditLimitEffectiveFrom := none
  paymentTermsDays := some 30
  paymentTermsEffectiveFrom := none
  paymentTermsUpdatedAt := none
  pendingPaymentTermsDays := none
  pendingPaymentTermsEffectiveFrom := none

/-- One account, and empty histories. -/
def plainDb : Db := ⟨Table.singleton plainAccount, List.nodup_singleton 1, [], []⟩

theorem plainDb_mirrored : Mirrored plainDb := by
  constructor <;> intro a ha <;> obtain rfl := List.mem_singleton.mp ha <;> rfl

/-- A limit of £2,000 from day 2 on. -/
def doubled : LimitRequest := ⟨2000, "BUSINESS_GROWTH", 2, "More orders"⟩

/-- A limit of £3,000 from day 2 on. -/
def tripled : LimitRequest := ⟨3000, "BUSINESS_GROWTH", 2, "Many more orders"⟩

/-- On day 0 the limit is to be £2,000 from day 2 on, and then £3,000. -/
def revisedTwice : List Op := [.patchCreditLimit 1 7 doubled 0, .patchCreditLimit 1 7 tripled 1]

/-- Two patches for one day leave two SCHEDULED rows, and the job raises on that day. -/
theorem revised_limit_stops_job :
    (Runs.run (step fun _ => true) plainDb revisedTwice).limitHistory.map
      (fun row => (row.change.newLimit, row.effectiveDate, row.status))
        = [(200000, 2, .scheduled), (300000, 2, .scheduled)] ∧
    ¬ Mirrored (Runs.run (step fun _ => true) plainDb revisedTwice) ∧
    (applyDueScheduledCreditAndTerms (Runs.run (step fun _ => true) plainDb revisedTwice) 2
      172800000000).isOk = false := by
  have hjob : (applyDueScheduledCreditAndTerms
      (Runs.run (step fun _ => true) plainDb revisedTwice) 2 172800000000).isOk = false := by
    decide +kernel
  refine ⟨by decide +kernel, fun hm => ?_, hjob⟩
  obtain ⟨db', n, hok, -⟩ := hm.applyDue 2 172800000000
  simp [hok, Except.isOk, Except.toBool] at hjob

/-- One patch, and the job on its day. -/
def revisedOnce : List Op :=
  [.patchCreditLimit 1 7 doubled 0, .applyDueScheduledCreditAndTerms 2 172800000000]

/-- The limit is £2,000 after the job. -/
theorem revised_limit_applies_once :
    (Runs.run (step fun _ => true) plainDb revisedOnce).accounts.rows.map
      (fun a => (a.creditLimit, a.pendingCreditLimit)) = [(some 200000, none)] ∧
    ∀ pre post, revisedOnce = pre ++ post →
      Mirrored (Runs.run (step fun _ => true) plainDb pre) ∧
        ∀ today now, AppliesOnce (Runs.run (step fun _ => true) plainDb pre) today now := by
  refine ⟨by decide +kernel, (applied_exactly_once_iff (fun _ => true) plainDb plainDb_mirrored
    revisedOnce).mpr ⟨?_, fun h => h, trivial⟩⟩
  rintro ⟨-, a, ha, hne⟩
  obtain rfl : plainAccount = a := Option.some.inj ha
  exact hne rfl

end SwCouriers.CreditSettings
