import SwCouriers.CreditAccounts
import SwCouriers.CreditSettings
import SwCouriers.Lib.RowLocks

/-!
# The Status of a Credit Account

`OrgCreditService`: `place_hold`, `release_hold`, `suspend_account`, `reactivate_account`,
`close_account` and `provision_account_on_approval`. Each is one transaction: it creates the
account of the organisation if there is none, locks the row of the account, checks its status
and writes the new status together with a row of the status history.

An insertion claims its entry of the unique index on the organisation. What a transaction does
after it has created the account sees that account (`Txn.seeing`). The audit records, the alerts
and what is read back for the response are left out; one reading of the clock stands for those
that a request makes.

A session has one object for a row as long as something refers to the object, and a statement
that finds the row again does not load it anew. The status operations drop the account that they
look up before they lock it. `provision_account_on_approval` keeps it, and so goes on with the
account as it was before its row was locked. An object writes the columns that differ from what
it was loaded with (`assign`).

`AccountLock.reading t organizationId` is no lock of the database: it marks that the transaction
`t` has read the account and keeps the object.

## Main definitions

* `Db`: the accounts and their status history.
* `onAccount`: what the five status operations share.
* `Op.txn`: one request as a transaction.
-/

namespace SwCouriers.CreditStatus

open Checked ReadCommitted

/-- `OrgCreditReviewFrequency`. -/
inductive OrgCreditReviewFrequency where
  | monthly | quarterly | semiAnnual | annual
  deriving DecidableEq, Repr

/-- `HoldReasonCategory`. -/
inductive HoldReasonCategory where
  | investigationPending | clientRequest | paymentDispute | riskConcern | other
  deriving DecidableEq, Repr

/-- `CloseAccountReason`. -/
inductive CloseAccountReason where
  | clientSwitchedToPrepaid | businessRelationshipTerminated | accountSettledAfterSuspension
  | riskOrComplianceConcerns | other
  deriving DecidableEq, Repr

/-- `hold_reason_category.value.replace("_", " ").title()`. -/
def HoldReasonCategory.title : HoldReasonCategory → String
  | .investigationPending => "Investigation Pending"
  | .clientRequest => "Client Request"
  | .paymentDispute => "Payment Dispute"
  | .riskConcern => "Risk Concern"
  | .other => "Other"

/-- `reason_category.value.replace("_", " ").title()`. -/
def CloseAccountReason.title : CloseAccountReason → String
  | .clientSwitchedToPrepaid => "Client Switched To Prepaid"
  | .businessRelationshipTerminated => "Business Relationship Terminated"
  | .accountSettledAfterSuspension => "Account Settled After Suspension"
  | .riskOrComplianceConcerns => "Risk Or Compliance Concerns"
  | .other => "Other"

/-- `text or fallback`. -/
def textOr (text : Option String) (fallback : String) : String :=
  match text with
  | none => fallback
  | some s => if s = "" then fallback else s

/-- `OrgCreditAccount`, as far as these operations go. -/
structure OrgCreditAccount where
  id : Id
  organizationId : Id
  status : OrgCreditAccountStatus
  statusReason : Option String
  actionByUserId : Option Id
  lastStatusChangeAt : Option Instant
  creditLimit : Option ℤ
  creditLimitUpdatedAt : Option Instant
  usedCredit : ℤ
  paymentTermsDays : Option ℤ
  paymentTermsEffectiveFrom : Option Day
  paymentTermsUpdatedAt : Option Instant
  reviewFrequency : Option OrgCreditReviewFrequency
  creditFacilityStartDate : Option Day
  deriving DecidableEq, Repr

/-- `OrgCreditStatusHistory`. -/
structure OrgCreditStatusHistory where
  organizationId : Id
  creditAccountId : Id
  fromStatus : Option OrgCreditAccountStatus
  toStatus : OrgCreditAccountStatus
  reason : Option String
  actorUserId : Option Id
  deriving DecidableEq, Repr

/-- The organisations that exist, the limits that their credit configurations approve, the
accounts, and the status history in the order in which it was recorded. -/
structure Db where
  organizations : Id → Bool
  approvedLimits : Id → Option ℤ
  accounts : Table OrgCreditAccount.organizationId
  history : List OrgCreditStatusHistory

/-- What can be locked: the row of an account, and the entry of an organisation in the unique
index of the accounts; and the marks of the transaction `t` (see above). -/
inductive AccountLock (T : Type) where
  | account (organizationId : Id)
  | entry (organizationId : Id)
  | reading (t : T) (organizationId : Id)
  deriving DecidableEq

/-- A transaction on the credit accounts. -/
abbrev AccountTxn (T α : Type) := Txn Db (AccountLock T) ServiceError α

/-- Whose account a request is about, who sends it and when; `newAccountId` is the identifier of
an account that it creates. -/
structure Call where
  organizationId : Id
  callerId : Id
  now : Instant
  newAccountId : Id

section

variable {T : Type}

/-! ### Accounts -/

/-- `OrganizationRepository.get_by_id_or_404`. -/
def getOrganization (organizationId : Id) : AccountTxn T Unit :=
  .statement fun db => raiseIf (db.organizations organizationId = false)
    (.notFound "organizations" (some organizationId))

/-- `OrgCreditAccountRepository.get_by_org_id`. -/
def getByOrgId (organizationId : Id) : AccountTxn T (Option OrgCreditAccount) :=
  .query fun db => db.accounts.find? organizationId

/-- `get_by_org_id_for_update`. -/
def getByOrgIdForUpdate (organizationId : Id) : AccountTxn T (Option OrgCreditAccount) :=
  .selectForUpdate .account Db.accounts fun acct => acct.organizationId = organizationId

/-- A new account. -/
def Db.addAccount (acct : OrgCreditAccount) (db : Db) : Db :=
  { db with accounts := db.accounts.insert acct }

/-- `OrgCreditAccountRepository.create`. -/
def createAccount (acct : OrgCreditAccount) : AccountTxn T (Db → Db) := do
  Txn.claim (.entry acct.organizationId)
    (fun db => (db.accounts.find? acct.organizationId).isSome)
    (.integrity "ix_org_credit_accounts_organization_id")
  return Db.addAccount acct

/-- The account that `get_or_create_account` creates. -/
def Call.initialAccount (call : Call) (initialLimit : Option ℤ) : OrgCreditAccount where
  id := call.newAccountId
  organizationId := call.organizationId
  status := .active
  statusReason := none
  actionByUserId := none
  lastStatusChangeAt := some call.now
  creditLimit := initialLimit
  creditLimitUpdatedAt := initialLimit.map fun _ => call.now
  usedCredit := 0
  paymentTermsDays := none
  paymentTermsEffectiveFrom := none
  paymentTermsUpdatedAt := none
  reviewFrequency := none
  creditFacilityStartDate := some (CreditSettings.utcDate call.now)

/-- `get_or_create_account`; what it returns is the write that it makes. -/
def getOrCreateAccount (call : Call) : AccountTxn T (Db → Db) := do
  getOrganization call.organizationId
  let existing ← getByOrgId call.organizationId
  match existing with
  | some _ => return id
  | none => do
      let initialLimit ← Txn.query fun db => db.approvedLimits call.organizationId
      createAccount (call.initialAccount initialLimit)

/-- `_load_account_locked`. -/
def loadAccountLocked (organizationId : Id) : AccountTxn T OrgCreditAccount := do
  Txn.check (orRaise (← getByOrgIdForUpdate organizationId)
    (.notFound "org_credit_account" (some organizationId)))

/-! ### Status -/

/-- A new status, and the reason given for it. -/
structure StatusChange where
  toStatus : OrgCreditAccountStatus
  reason : String

/-- What an object that was loaded with `old` and assigned `new` leaves in a column. -/
def assign {α : Type} [DecidableEq α] (old new stored : α) : α := if new = old then stored else new

@[simp] theorem assign_self {α : Type} [DecidableEq α] (old new : α) :
    assign old new old = new := by
  simp only [assign]
  split
  case isTrue h => exact h.symm
  case isFalse => rfl

/-- The row `stored`, after the object `acct` got a new status. -/
def OrgCreditAccount.withStatus (call : Call) (change : StatusChange)
    (acct stored : OrgCreditAccount) : OrgCreditAccount :=
  { stored with
    status := assign acct.status change.toStatus stored.status
    lastStatusChangeAt := assign acct.lastStatusChangeAt (some call.now) stored.lastStatusChangeAt
    statusReason := assign acct.statusReason (some change.reason) stored.statusReason
    actionByUserId := assign acct.actionByUserId (some call.callerId) stored.actionByUserId }

/-- The row that `_record_status_transition` adds when the status of `acct` was changed. -/
def Call.transition (call : Call) (acct : OrgCreditAccount) (change : StatusChange) :
    OrgCreditStatusHistory where
  organizationId := call.organizationId
  creditAccountId := acct.id
  fromStatus := some acct.status
  toStatus := change.toStatus
  reason := some change.reason
  actorUserId := some call.callerId

/-- The account `acct` gets a new status, and a row is added to the history. -/
def Db.changeStatus (call : Call) (acct : OrgCreditAccount) (change : StatusChange) (db : Db) :
    Db :=
  { db with
    accounts := db.accounts.modify call.organizationId (acct.withStatus call change) fun _ => rfl
    history := db.history ++ [call.transition acct change] }

/-- What the status operations share: the account is created if there is none, its row is locked,
and `decide` looks at what was locked and says what becomes of it. -/
def onAccount (call : Call)
    (decide : OrgCreditAccount → Except ServiceError (Option StatusChange)) :
    AccountTxn T (Db → Db) := do
  let created ← getOrCreateAccount call
  let write ← (do
    let acct ← loadAccountLocked call.organizationId
    match ← Txn.check (decide acct) with
    | none => return id
    | some change =>
        return Db.changeStatus call acct change : AccountTxn T (Db → Db)).seeing created
  return fun db => write (created db)

/-- `place_hold`. -/
def placeHold (call : Call) (holdReasonCategory : HoldReasonCategory)
    (detailedReason : Option String) : AccountTxn T (Db → Db) :=
  onAccount call fun acct => do
    raiseIf (acct.status ≠ .active)
      (invalid "Hold can only be placed on an active credit account.")
    return some ⟨.onHold, textOr detailedReason holdReasonCategory.title⟩

/-- `release_hold`. -/
def releaseHold (call : Call) (memo : Option String) : AccountTxn T (Db → Db) :=
  onAccount call fun acct => do
    raiseIf (acct.status ≠ .onHold)
      (invalid "Release hold is only valid when the account is on hold.")
    return some ⟨.active, textOr memo "Hold released"⟩

/-- `suspend_account`. An account that is suspended stays as it is. -/
def suspendAccount (call : Call) (reason : String) : AccountTxn T (Db → Db) :=
  onAccount call fun acct => do
    raiseIf (acct.status = .closed) (invalid "Cannot suspend a closed credit account.")
    return if acct.status = .suspended then none else some ⟨.suspended, reason⟩

/-- `reactivate_account`. -/
def reactivateAccount (call : Call) (memo : Option String) : AccountTxn T (Db → Db) :=
  onAccount call fun acct => do
    raiseIf (acct.status ≠ .suspended ∧ acct.status ≠ .onHold)
      (invalid "Reactivate is only valid for suspended or on-hold accounts.")
    return some ⟨.active, textOr memo "Reactivated"⟩

/-- `close_account`. -/
def closeAccount (call : Call) (reasonCategory : CloseAccountReason)
    (detailedReason : Option String) : AccountTxn T (Db → Db) :=
  onAccount call fun acct => do
    raiseIf (acct.status = .closed) (invalid "Credit account is already closed.")
    return some ⟨.closed, textOr detailedReason reasonCategory.title⟩

/-! ### Provisioning -/

/-- What an approval grants. The limit is a decimal of any precision; the column it is stored in
has two places. -/
structure Approval where
  approvedCreditLimit : ℚ
  approvedPaymentTermsDays : ℤ
  reviewFrequencyValue : Option String

/-- `OrgCreditReviewFrequency(mapped)`; an application calls ANNUAL ANNUALLY. -/
def reviewFrequency (value : String) : Except ServiceError OrgCreditReviewFrequency :=
  if value = "ANNUALLY" ∨ value = "ANNUAL" then .ok .annual
  else if value = "MONTHLY" then .ok .monthly
  else if value = "QUARTERLY" then .ok .quarterly
  else if value = "SEMI_ANNUAL" then .ok .semiAnnual
  else .error (.uncaught "ValueError")

/-- The account that `provision_account_on_approval` creates. -/
def Call.provisionedAccount (call : Call) (approval : Approval) : OrgCreditAccount :=
  { call.initialAccount (some (money approval.approvedCreditLimit)) with
    statusReason := some "Provisioned on credit application approval"
    actionByUserId := some call.callerId }

/-- The row `stored`, after the object `acct` got the terms of the approval. -/
def OrgCreditAccount.withTerms (call : Call) (approval : Approval)
    (frequency : Option OrgCreditReviewFrequency) (acct stored : OrgCreditAccount) :
    OrgCreditAccount :=
  { stored with
    creditLimit :=
      if acct.creditLimit.map pounds = some approval.approvedCreditLimit then stored.creditLimit
      else some (money approval.approvedCreditLimit)
    creditLimitUpdatedAt :=
      assign acct.creditLimitUpdatedAt (some call.now) stored.creditLimitUpdatedAt
    paymentTermsDays :=
      assign acct.paymentTermsDays (some approval.approvedPaymentTermsDays) stored.paymentTermsDays
    paymentTermsEffectiveFrom :=
      assign acct.paymentTermsEffectiveFrom (some (CreditSettings.utcDate call.now))
        stored.paymentTermsEffectiveFrom
    paymentTermsUpdatedAt :=
      assign acct.paymentTermsUpdatedAt (some call.now) stored.paymentTermsUpdatedAt
    reviewFrequency :=
      assign acct.reviewFrequency (frequency.or acct.reviewFrequency) stored.reviewFrequency
    creditFacilityStartDate :=
      assign acct.creditFacilityStartDate
        (acct.creditFacilityStartDate.or (some (CreditSettings.utcDate call.now)))
        stored.creditFacilityStartDate }

/-- The account gets the terms of the approval, through the object `acct`. -/
def Db.setTerms (call : Call) (approval : Approval)
    (frequency : Option OrgCreditReviewFrequency) (acct : OrgCreditAccount) (db : Db) : Db :=
  { db with
    accounts := db.accounts.modify call.organizationId (acct.withTerms call approval frequency)
      fun _ => rfl }

/-- The status that an approval leaves behind. -/
def reactivation : StatusChange := ⟨.active, "Reactivated on credit application approval"⟩

/-- What an approval makes of an account through the object `acct`. -/
def Db.provision (call : Call) (approval : Approval)
    (frequency : Option OrgCreditReviewFrequency) (acct : OrgCreditAccount) (db : Db) : Db :=
  if acct.status = .active then db.setTerms call approval frequency acct
  else (db.setTerms call approval frequency acct).changeStatus call acct reactivation

/-- `get_by_org_id`, by a transaction that keeps the object. -/
def readAccount (t : T) (organizationId : Id) : AccountTxn T (Option OrgCreditAccount) :=
  .lockRow (.reading t organizationId) fun db => .ok (db.accounts.find? organizationId)

/-- `provision_account_on_approval`. -/
def provisionAccountOnApproval (t : T) (call : Call) (approval : Approval) :
    AccountTxn T (Db → Db) := do
  getOrganization call.organizationId
  let existing ← readAccount t call.organizationId
  let created ← (match existing with
    | some _ => return id
    | none => createAccount (call.provisionedAccount approval) : AccountTxn T (Db → Db))
  let write ← (do
    let locked ← loadAccountLocked call.organizationId
    -- The row is locked, but the session still has the object that was read before.
    let acct := existing.getD locked
    let frequency ← Txn.check (match approval.reviewFrequencyValue with
      | none => .ok none
      | some value => (reviewFrequency value).map some)
    return Db.provision call approval frequency acct : AccountTxn T (Db → Db)).seeing created
  return fun db => write (created db)

/-! ### Requests -/

/-- One request. -/
inductive Op where
  | placeHold (holdReasonCategory : HoldReasonCategory) (detailedReason : Option String)
  | releaseHold (memo : Option String)
  | suspendAccount (reason : String)
  | reactivateAccount (memo : Option String)
  | closeAccount (reasonCategory : CloseAccountReason) (detailedReason : Option String)
  | provisionAccountOnApproval (approval : Approval)

/-- The transaction of a request. -/
def Op.txn (t : T) (call : Call) : Op → AccountTxn T (Db → Db)
  | .placeHold category reason => CreditStatus.placeHold call category reason
  | .releaseHold memo => CreditStatus.releaseHold call memo
  | .suspendAccount reason => CreditStatus.suspendAccount call reason
  | .reactivateAccount memo => CreditStatus.reactivateAccount call memo
  | .closeAccount category reason => CreditStatus.closeAccount call category reason
  | .provisionAccountOnApproval approval =>
      CreditStatus.provisionAccountOnApproval t call approval

/-- The request provisions an account. -/
def Op.Provisions : Op → Prop
  | .provisionAccountOnApproval _ => True
  | _ => False

end

end SwCouriers.CreditStatus
