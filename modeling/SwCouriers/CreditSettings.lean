import SwCouriers.Lib.Runs
import SwCouriers.Lib.Table
import SwCouriers.Common

/-!
# Credit Limits and Payment Terms

`OrgCreditSettingsService`: `patch_credit_limit` and `patch_payment_terms`, which take effect
at once or on a later day, and the job that puts into force what is due. A change for a later
day is stored twice: in two columns of the account, and as a SCHEDULED row of a history that
the job looks up by account and date.

The audit records and the cooldown periods are left out.
-/

namespace SwCouriers.CreditSettings

open Checked

/-- `ScheduledCreditSettingStatus`. -/
inductive ScheduledCreditSettingStatus where
  | scheduled | applied
  deriving DecidableEq, Repr

/-- `OrgCreditAccount`, as far as its limit and its terms go. -/
structure OrgCreditAccount where
  id : Id
  organizationId : Id
  creditLimit : Option ℤ
  creditLimitUpdatedAt : Option Instant
  pendingCreditLimit : Option ℤ
  pendingCreditLimitEffectiveFrom : Option Day
  paymentTermsDays : Option ℤ
  paymentTermsEffectiveFrom : Option Day
  paymentTermsUpdatedAt : Option Instant
  pendingPaymentTermsDays : Option ℤ
  pendingPaymentTermsEffectiveFrom : Option Day
  deriving DecidableEq, Repr

/-- What a row of either history says of its change. -/
structure SettingHistory (δ : Type) where
  organizationId : Id
  creditAccountId : Id
  change : δ
  effectiveDate : Day
  modifiedByUserId : Option Id
  status : ScheduledCreditSettingStatus
  appliedAt : Option Instant
  deriving DecidableEq, Repr

/-- The columns that only `OrgCreditLimitAdjustmentHistory` has. -/
structure LimitChange where
  previousLimit : Option ℤ
  newLimit : ℤ
  reasonCategory : String
  justification : String
  deriving DecidableEq, Repr

/-- The columns that only `OrgCreditTermsModificationHistory` has. -/
structure TermsChange where
  oldPaymentTerms : Option String
  newPaymentTerms : Option String
  reason : String
  appliedToUnpaidInvoices : Bool
  deriving DecidableEq, Repr

/-- `OrgCreditLimitAdjustmentHistory`. -/
abbrev OrgCreditLimitAdjustmentHistory := SettingHistory LimitChange

/-- `OrgCreditTermsModificationHistory`. -/
abbrev OrgCreditTermsModificationHistory := SettingHistory TermsChange

/-- The accounts, one for an organisation, and the two histories. -/
structure Db where
  accounts : Table OrgCreditAccount.organizationId
  ids : (accounts.rows.map (·.id)).Nodup
  limitHistory : List OrgCreditLimitAdjustmentHistory
  termsHistory : List OrgCreditTermsModificationHistory

/-- Rewrite the account of an organisation. -/
def Db.setAccount (db : Db) (org : Id) (f : OrgCreditAccount → OrgCreditAccount)
    (horg : ∀ a, (f a).organizationId = a.organizationId) (hid : ∀ a, (f a).id = a.id) : Db where
  accounts := db.accounts.modify org f horg
  ids := by
    have hsame : (db.accounts.modify org f horg).rows.map (·.id) = db.accounts.rows.map (·.id) := by
      rw [Table.modify, Table.rows_mapRows, List.map_map]
      refine List.map_congr_left fun a _ => ?_
      by_cases h : a.organizationId = org <;> simp [h, hid]
    exact hsame ▸ db.ids
  limitHistory := db.limitHistory
  termsHistory := db.termsHistory

/-- The day of an instant in UTC. -/
def utcDate (now : Instant) : Day := now / 86400000000

/-- Whether a row is the SCHEDULED one of an account for a date. -/
def SettingHistory.isScheduledFor {δ : Type} (creditAccountId : Id) (effectiveDate : Day)
    (row : SettingHistory δ) : Bool :=
  row.creditAccountId = creditAccountId && row.status = .scheduled &&
    row.effectiveDate = effectiveDate

/-- `find_scheduled_by_account_and_effective_date`, for either history. A query for one row
raises when it finds two. -/
def findScheduled {δ : Type} (rows : List (SettingHistory δ)) (creditAccountId : Id)
    (effectiveDate : Day) : Except ServiceError (Option (SettingHistory δ)) :=
  match rows.filter (SettingHistory.isScheduledFor creditAccountId effectiveDate) with
  | [] => .ok none
  | [row] => .ok (some row)
  | _ => .error (.uncaught "MultipleResultsFound")

/-- The row that was found is APPLIED now. -/
def markApplied {δ : Type} (creditAccountId : Id) (effectiveDate : Day) (now : Instant)
    (rows : List (SettingHistory δ)) : List (SettingHistory δ) :=
  rows.map fun row =>
    if row.isScheduledFor creditAccountId effectiveDate
    then { row with status := .applied, appliedAt := some now } else row

/-! ### Changes -/

/-- What a client sends to change the limit. The limit is a decimal of any precision; the
column it is stored in has two places. -/
structure LimitRequest where
  creditLimit : ℚ
  reasonCategory : String
  effectiveDate : Day
  justification : String

/-- What a client sends to change the terms. -/
structure TermsRequest where
  paymentTermsDays : ℤ
  effectiveDate : Day
  reason : String
  applyToExistingUnpaid : Bool

/-- The account after `patch_credit_limit`. -/
def OrgCreditAccount.patchLimit (req : LimitRequest) (now : Instant) (a : OrgCreditAccount) :
    OrgCreditAccount :=
  if req.effectiveDate ≤ utcDate now then
    { a with
      creditLimit := some (money req.creditLimit)
      pendingCreditLimit := none
      pendingCreditLimitEffectiveFrom := none
      creditLimitUpdatedAt := some now }
  else
    { a with
      pendingCreditLimit := some (money req.creditLimit)
      pendingCreditLimitEffectiveFrom := some req.effectiveDate
      creditLimitUpdatedAt := some now }

/-- The account after `patch_payment_terms`. -/
def OrgCreditAccount.patchTerms (req : TermsRequest) (now : Instant) (a : OrgCreditAccount) :
    OrgCreditAccount :=
  if req.effectiveDate ≤ utcDate now then
    { a with
      paymentTermsDays := some req.paymentTermsDays
      paymentTermsEffectiveFrom := some req.effectiveDate
      paymentTermsUpdatedAt := some now
      pendingPaymentTermsDays := none
      pendingPaymentTermsEffectiveFrom := none }
  else
    { a with
      pendingPaymentTermsDays := some req.paymentTermsDays
      pendingPaymentTermsEffectiveFrom := some req.effectiveDate
      paymentTermsUpdatedAt := some now }

theorem OrgCreditAccount.patchLimit_organizationId (req : LimitRequest) (now : Instant)
    (a : OrgCreditAccount) : (a.patchLimit req now).organizationId = a.organizationId := by
  rw [OrgCreditAccount.patchLimit]
  split <;> rfl

theorem OrgCreditAccount.patchLimit_id (req : LimitRequest) (now : Instant)
    (a : OrgCreditAccount) : (a.patchLimit req now).id = a.id := by
  rw [OrgCreditAccount.patchLimit]
  split <;> rfl

theorem OrgCreditAccount.patchTerms_organizationId (req : TermsRequest) (now : Instant)
    (a : OrgCreditAccount) : (a.patchTerms req now).organizationId = a.organizationId := by
  rw [OrgCreditAccount.patchTerms]
  split <;> rfl

theorem OrgCreditAccount.patchTerms_id (req : TermsRequest) (now : Instant)
    (a : OrgCreditAccount) : (a.patchTerms req now).id = a.id := by
  rw [OrgCreditAccount.patchTerms]
  split <;> rfl

/-- The row that either patch adds to its history. -/
def historyRow {δ : Type} (a : OrgCreditAccount) (caller : Id) (effectiveDate : Day)
    (now : Instant) (change : δ) : SettingHistory δ where
  organizationId := a.organizationId
  creditAccountId := a.id
  change := change
  effectiveDate := effectiveDate
  modifiedByUserId := some caller
  status := if effectiveDate ≤ utcDate now then .applied else .scheduled
  appliedAt := if effectiveDate ≤ utcDate now then some now else none

/-- `patch_credit_limit`. `organizations` are the organisations that exist. -/
def patchCreditLimit (organizations : Id → Bool) (db : Db) (organizationId caller : Id)
    (req : LimitRequest) (now : Instant) : Except ServiceError Db := do
  raiseIf (organizations organizationId = false) (.notFound "organizations" (some organizationId))
  let acct ← orRaise (db.accounts.find? organizationId) (invalid
    ("No credit account exists for this organisation. " ++
      "Credit must be assigned before the limit can be updated."))
  let db' := db.setAccount organizationId (OrgCreditAccount.patchLimit req now)
    (OrgCreditAccount.patchLimit_organizationId req now) (OrgCreditAccount.patchLimit_id req now)
  return { db' with
    limitHistory := db.limitHistory ++ [historyRow acct caller req.effectiveDate now
      { previousLimit := acct.creditLimit
        newLimit := money req.creditLimit
        reasonCategory := req.reasonCategory
        justification := req.justification }] }

/-- `patch_payment_terms`. -/
def patchPaymentTerms (organizations : Id → Bool) (db : Db) (organizationId caller : Id)
    (req : TermsRequest) (now : Instant) : Except ServiceError Db := do
  raiseIf (organizations organizationId = false) (.notFound "organizations" (some organizationId))
  let acct ← orRaise (db.accounts.find? organizationId) (invalid
    ("No credit account exists for this organisation. " ++
      "Credit must be assigned before payment terms can be updated."))
  let db' := db.setAccount organizationId (OrgCreditAccount.patchTerms req now)
    (OrgCreditAccount.patchTerms_organizationId req now) (OrgCreditAccount.patchTerms_id req now)
  return { db' with
    termsHistory := db.termsHistory ++ [historyRow acct caller req.effectiveDate now
      { oldPaymentTerms := acct.paymentTermsDays.map toString
        newPaymentTerms := some (toString req.paymentTermsDays)
        reason := req.reason
        appliedToUnpaidInvoices := req.applyToExistingUnpaid }] }

/-! ### The job -/

/-- A pending limit is due. -/
def OrgCreditAccount.limitDue (today : Day) (a : OrgCreditAccount) : Bool :=
  a.pendingCreditLimit.isSome && a.pendingCreditLimitEffectiveFrom.any (· ≤ today)

/-- Pending terms are due. -/
def OrgCreditAccount.termsDue (today : Day) (a : OrgCreditAccount) : Bool :=
  a.pendingPaymentTermsDays.isSome && a.pendingPaymentTermsEffectiveFrom.any (· ≤ today)

/-- The pending limit comes into force. -/
def OrgCreditAccount.limitInForce (a : OrgCreditAccount) : OrgCreditAccount :=
  { a with
    creditLimit := a.pendingCreditLimit
    pendingCreditLimit := none
    pendingCreditLimitEffectiveFrom := none }

/-- The pending terms come into force. -/
def OrgCreditAccount.termsInForce (now : Instant) (a : OrgCreditAccount) : OrgCreditAccount :=
  { a with
    paymentTermsDays := a.pendingPaymentTermsDays
    paymentTermsEffectiveFrom := a.pendingPaymentTermsEffectiveFrom
    paymentTermsUpdatedAt := some now
    pendingPaymentTermsDays := none
    pendingPaymentTermsEffectiveFrom := none }

/-- `list_org_ids_with_due_pending_settings`. -/
def Db.orgIdsWithDue (db : Db) (today : Day) : List Id :=
  (db.accounts.rows.filter fun a =>
    a.pendingCreditLimitEffectiveFrom.any (· ≤ today) ||
      a.pendingPaymentTermsEffectiveFrom.any (· ≤ today)).map (·.organizationId)

/-- The first half of a round of `apply_due_scheduled_credit_and_terms`. -/
def applyLimit (today : Day) (now : Instant) (organizationId : Id) (db : Db) :
    Except ServiceError (Db × ℕ) :=
  match db.accounts.find? organizationId with
  | none => return (db, 0)
  | some acct =>
      if acct.limitDue today then do
        let eff := acct.pendingCreditLimitEffectiveFrom.getD today
        let row ← findScheduled db.limitHistory acct.id eff
        let db' := db.setAccount organizationId OrgCreditAccount.limitInForce
          (fun _ => rfl) fun _ => rfl
        return ({ db' with
          limitHistory := if row.isSome then markApplied acct.id eff now db.limitHistory
            else db.limitHistory }, 1)
      else return (db, 0)

/-- The second half of a round. -/
def applyTerms (today : Day) (now : Instant) (organizationId : Id) (db : Db) :
    Except ServiceError (Db × ℕ) :=
  match db.accounts.find? organizationId with
  | none => return (db, 0)
  | some acct =>
      if acct.termsDue today then do
        let eff := acct.pendingPaymentTermsEffectiveFrom.getD today
        let row ← findScheduled db.termsHistory acct.id eff
        let db' := db.setAccount organizationId (OrgCreditAccount.termsInForce now)
          (fun _ => rfl) fun _ => rfl
        return ({ db' with
          termsHistory := if row.isSome then markApplied acct.id eff now db.termsHistory
            else db.termsHistory }, 1)
      else return (db, 0)

/-- The loop of `apply_due_scheduled_credit_and_terms`. -/
def applyEach (today : Day) (now : Instant) : List Id → Db × ℕ → Except ServiceError (Db × ℕ)
  | [], r => return r
  | organizationId :: rest, (db, applied) => do
      let afterLimit ← applyLimit today now organizationId db
      let afterTerms ← applyTerms today now organizationId afterLimit.1
      applyEach today now rest (afterTerms.1, applied + afterLimit.2 + afterTerms.2)

/-- `apply_due_scheduled_credit_and_terms`, with the number of changes it has applied. -/
def applyDueScheduledCreditAndTerms (db : Db) (today : Day) (now : Instant) :
    Except ServiceError (Db × ℕ) :=
  applyEach today now (db.orgIdsWithDue today) (db, 0)

/-! ### Runs -/

/-- The operations on credit settings. -/
inductive Op where
  | patchPaymentTerms (organizationId caller : Id) (req : TermsRequest) (now : Instant)
  | patchCreditLimit (organizationId caller : Id) (req : LimitRequest) (now : Instant)
  | applyDueScheduledCreditAndTerms (today : Day) (now : Instant)

/-- One operation. -/
def perform (organizations : Id → Bool) (db : Db) : Op → Except ServiceError Db
  | .patchPaymentTerms org caller req now => patchPaymentTerms organizations db org caller req now
  | .patchCreditLimit org caller req now => patchCreditLimit organizations db org caller req now
  | .applyDueScheduledCreditAndTerms today now =>
      (applyDueScheduledCreditAndTerms db today now).map Prod.fst

/-- One transaction: what raises changes nothing. -/
def step (organizations : Id → Bool) (db : Db) (op : Op) : Db :=
  settle db (perform organizations db op)

end SwCouriers.CreditSettings
