import SwCouriers.Common
import SwCouriers.Lib.Checked
import SwCouriers.Lib.ReadCommitted
import SwCouriers.Lib.Table

/-!
# Credit Accounts

The money movements of `OrgCreditLedgerService`: `consume_credit`, `repay_credit` and
`manual_adjust_used`. Each is a transaction of a few statements: the lookup of the
idempotency key, the read of the account row `FOR UPDATE`, the update of the row and the
insertion of a ledger entry, which the unique index over organisation and key may refuse.
Other transactions run between any two of them.

Amounts are decimals of any precision. The columns they are stored in have two places, and
storing rounds.
-/

namespace SwCouriers

open Checked ReadCommitted

/-! ### Rows -/

/-- `OrgCreditAccountStatus`. -/
inductive OrgCreditAccountStatus where
  | active | onHold | suspended | closed
  deriving DecidableEq, Repr

/-- `OrgCreditLedgerMovementType`. -/
inductive OrgCreditLedgerMovementType where
  | consume | repay | manualAdjustUsed
  deriving DecidableEq, Repr

/-- `OrgCreditLedgerSourceType`. -/
inductive OrgCreditLedgerSourceType where
  | order | invoice | payment | manual | system
  deriving DecidableEq, Repr

/-- `OrgCreditAdjustmentReason`. -/
inductive OrgCreditAdjustmentReason where
  | compliance | goodwill | dataCorrection | other
  deriving DecidableEq, Repr

/-- The credit account of an organisation. -/
structure OrgCreditAccount where
  id : Id
  organizationId : Id
  status : OrgCreditAccountStatus
  creditLimit : Option ℤ
  usedCredit : ℤ
  deriving DecidableEq, Repr

/-- An entry of the credit ledger. Its amount is not a column of the ledger: it is what the
audit record of the entry, written in the same transaction, says was moved. -/
structure OrgCreditLedgerEntry where
  organizationId : Id
  accountId : Id
  movementType : OrgCreditLedgerMovementType
  sourceType : Option OrgCreditLedgerSourceType
  sourceId : Option String
  idempotencyKey : Option String
  amount : ℚ
  usedCreditAfter : ℤ
  availableCreditAfter : ℤ
  creditLimitAfter : Option ℤ
  adjustmentReason : Option OrgCreditAdjustmentReason
  actorUserId : Option Id
  deriving DecidableEq

/-- The credit part of the database. Entries are in the order of their commits. -/
structure CreditDb where
  accounts : Table OrgCreditAccount.organizationId
  ledger : List OrgCreditLedgerEntry

namespace CreditDb

/-- Accounts as they are opened: nothing is used and nothing has moved. -/
def opened (accounts : Table OrgCreditAccount.organizationId) : CreditDb where
  accounts := accounts.mapRows (fun acct => { acct with usedCredit := 0 }) fun _ => rfl
  ledger := []

/-- The entries of one organisation. -/
def ledgerOf (db : CreditDb) (organizationId : Id) : List OrgCreditLedgerEntry :=
  db.ledger.filter fun e => e.organizationId = organizationId

/-- The idempotency keys that an organisation has used. -/
def keys (db : CreditDb) (organizationId : Id) : List String :=
  (db.ledgerOf organizationId).filterMap (·.idempotencyKey)

/-- `get_by_org_and_idempotency_key` finds an entry. -/
def KeyUsed (db : CreditDb) (organizationId : Id) (key : Option String) : Prop :=
  ∃ k ∈ key, k ∈ db.keys organizationId

instance (db : CreditDb) (organizationId : Id) (key : Option String) :
    Decidable (db.KeyUsed organizationId key) :=
  inferInstanceAs (Decidable (∃ k ∈ key, _))

end CreditDb

/-! ### Calls -/

/-- The three movements, each with its arguments. -/
inductive CreditOp where
  | consumeCredit (amount : ℚ) (sourceType : OrgCreditLedgerSourceType)
      (sourceId : Option String) (idempotencyKey : String)
  | repayCredit (amount : ℚ) (sourceType : OrgCreditLedgerSourceType)
      (sourceId : Option String) (idempotencyKey : String)
  | manualAdjustUsed (deltaUsed : ℚ) (reason : OrgCreditAdjustmentReason)
      (idempotencyKey : Option String)
  deriving DecidableEq

/-- A movement on the account of an organisation. -/
structure CreditCall where
  organizationId : Id
  actorId : Option Id
  op : CreditOp
  deriving DecidableEq

namespace CreditOp

def idempotencyKey : CreditOp → Option String
  | consumeCredit _ _ _ key => some key
  | repayCredit _ _ _ key => some key
  | manualAdjustUsed _ _ key => key

/-- The key that is looked up first. An adjustment skips the lookup when its key is missing
or empty. -/
def lookupKey : CreditOp → Option String
  | consumeCredit _ _ _ key => some key
  | repayCredit _ _ _ key => some key
  | manualAdjustUsed _ _ key => key.filter (· ≠ "")

/-- By how much the used credit is to change. -/
def signedAmount : CreditOp → ℚ
  | consumeCredit amount _ _ _ => amount
  | repayCredit amount _ _ _ => -amount
  | manualAdjustUsed deltaUsed _ _ => deltaUsed

def movementType : CreditOp → OrgCreditLedgerMovementType
  | consumeCredit .. => .consume
  | repayCredit .. => .repay
  | manualAdjustUsed .. => .manualAdjustUsed

def sourceType : CreditOp → Option OrgCreditLedgerSourceType
  | consumeCredit _ source _ _ => some source
  | repayCredit _ source _ _ => some source
  | manualAdjustUsed .. => some .manual

def sourceId : CreditOp → Option String
  | consumeCredit _ _ source _ => source
  | repayCredit _ _ source _ => source
  | manualAdjustUsed .. => none

def adjustmentReason : CreditOp → Option OrgCreditAdjustmentReason
  | manualAdjustUsed _ reason _ => some reason
  | _ => none

/-- What a call checks before its first statement. -/
def checkAmount : CreditOp → Except ServiceError Unit
  | consumeCredit amount _ _ _ =>
      raiseIf (amount ≤ 0) (invalid "Amount must be greater than zero.")
  | repayCredit amount _ _ _ =>
      raiseIf (amount ≤ 0) (invalid "Amount must be greater than zero.")
  | manualAdjustUsed .. => .ok ()

/-- `_ensure_active`. -/
def ensureActive (acct : OrgCreditAccount) (action : String) : Except ServiceError Unit :=
  raiseIf (acct.status ≠ .active) (invalid (action ++ " requires an active credit account."))

/-- The used credit that a call computes from the account row it has locked. -/
def newUsed (op : CreditOp) (acct : OrgCreditAccount) : Except ServiceError ℚ :=
  match op with
  | consumeCredit amount _ _ _ => do
      ensureActive acct "Credit consumption"
      let limit ← orRaise acct.creditLimit
        (invalid "Set a credit limit before consuming credit.")
      raiseIf (pounds limit < pounds acct.usedCredit + amount)
        (invalid "Insufficient available credit for the consumption amount.")
      return pounds acct.usedCredit + amount
  | repayCredit amount _ _ _ => do
      ensureActive acct "Credit repayment"
      raiseIf (pounds acct.usedCredit < amount)
        (invalid "Cannot repay more than the currently used credit.")
      return pounds acct.usedCredit - amount
  | manualAdjustUsed deltaUsed _ _ => do
      ensureActive acct "Manual credit adjustment"
      raiseIf (pounds acct.usedCredit + deltaUsed < 0)
        (invalid "Adjustment would make used credit negative.")
      raiseIf (∃ limit ∈ acct.creditLimit, pounds limit < pounds acct.usedCredit + deltaUsed)
        (invalid "Adjustment would exceed the credit limit.")
      return pounds acct.usedCredit + deltaUsed

end CreditOp

/-- `_available_credit`, of an account whose used credit was just set. -/
def availableCredit (creditLimit : Option ℤ) (usedCredit : ℚ) : ℚ :=
  match creditLimit with
  | none => 0
  | some limit => pounds limit - usedCredit

/-- The entry that `_append_ledger` creates. The columns round what they are given. -/
def CreditCall.entry (call : CreditCall) (acct : OrgCreditAccount) (newUsed : ℚ) :
    OrgCreditLedgerEntry where
  organizationId := call.organizationId
  accountId := acct.id
  movementType := call.op.movementType
  sourceType := call.op.sourceType
  sourceId := call.op.sourceId
  idempotencyKey := call.op.idempotencyKey
  amount := call.op.signedAmount
  usedCreditAfter := money newUsed
  availableCreditAfter := money (availableCredit acct.creditLimit newUsed)
  creditLimitAfter := acct.creditLimit
  adjustmentReason := call.op.adjustmentReason
  actorUserId := call.actorId

/-- The two writes of a movement. The update names the one column that has changed. -/
def CreditDb.record (db : CreditDb) (call : CreditCall) (acct : OrgCreditAccount)
    (newUsed : ℚ) : CreditDb where
  accounts := db.accounts.modify call.organizationId
    (fun a => { a with usedCredit := money newUsed }) fun _ => rfl
  ledger := db.ledger ++ [call.entry acct newUsed]

/-- A write of the account's status and limit by another service. -/
def CreditDb.amend (db : CreditDb) (organizationId : Id) (status : OrgCreditAccountStatus)
    (creditLimit : Option ℤ) : CreditDb :=
  { db with
    accounts := db.accounts.modify organizationId
      (fun a => { a with status := status, creditLimit := creditLimit }) fun _ => rfl }

/-! ### The statements -/

/-- What a transaction can lock: an account row, or an entry of the unique index
`uq_org_credit_ledger_idempotency`. An insertion waits for another one under the same
key. -/
inductive CreditLock where
  | account (organizationId : Id)
  | ledgerKey (organizationId : Id) (key : String)
  deriving DecidableEq

/-- Where a transaction on credit accounts is. -/
inductive CreditPoint where
  /-- Before the lookup of the key. -/
  | start (call : CreditCall)
  /-- The key was found: the account is read and returned. -/
  | duplicate (call : CreditCall)
  | returning (acct : OrgCreditAccount)
  /-- The key was not found. -/
  | locking (call : CreditCall)
  /-- The account row is updated, the ledger entry not inserted yet. -/
  | inserting (call : CreditCall) (acct : OrgCreditAccount) (newUsed : ℚ)
  | committing (call : CreditCall) (acct : OrgCreditAccount) (newUsed : ℚ)
  /-- Another service is about to set the status and the limit of an account. -/
  | amending (organizationId : Id) (status : OrgCreditAccountStatus) (creditLimit : Option ℤ)
  | amended (organizationId : Id) (status : OrgCreditAccountStatus) (creditLimit : Option ℤ)
  | failing (error : ServiceError)
  | ended

/-- The call that a transaction is working on. -/
def CreditPoint.call? : CreditPoint → Option CreditCall
  | start call | duplicate call | locking call | inserting call _ _ | committing call _ _ =>
      some call
  | _ => none

/-- After the read of the account row `FOR UPDATE`. -/
def CreditCall.locked (call : CreditCall) (db : CreditDb) : CreditPoint :=
  match db.accounts.find? call.organizationId with
  | none => .failing (.notFound "org_credit_account" (some call.organizationId))
  | some acct =>
      match call.op.newUsed acct with
      | .error e => .failing e
      | .ok newUsed => .inserting call acct newUsed

/-- The insertion of the ledger entry. The index covers the entries that have a key. -/
def CreditCall.insertion (call : CreditCall) (acct : OrgCreditAccount) (newUsed : ℚ) :
    Action CreditDb CreditLock CreditPoint :=
  match call.op.idempotencyKey with
  | none => .read fun _ => .committing call acct newUsed
  | some key => .lock (.ledgerKey call.organizationId key) fun db =>
      if db.KeyUsed call.organizationId (some key) then
        .failing (.integrity "uq_org_credit_ledger_idempotency")
      else .committing call acct newUsed

/-- The next statement of a transaction. -/
def CreditPoint.next : CreditPoint → Action CreditDb CreditLock CreditPoint
  | start call =>
      match call.op.checkAmount with
      | .error _ => .abort ended
      | .ok _ => .read fun db =>
          if db.KeyUsed call.organizationId call.op.lookupKey then duplicate call
          else locking call
  | duplicate call => .read fun db =>
      match db.accounts.find? call.organizationId with
      | none => failing (.notFound "org_credit_account" (some call.organizationId))
      | some acct => returning acct
  | returning _ => .commit id ended
  | locking call => .lock (.account call.organizationId) call.locked
  | inserting call acct newUsed => call.insertion acct newUsed
  | committing call acct newUsed => .commit (·.record call acct newUsed) ended
  | amending organizationId status creditLimit =>
      .lock (.account organizationId) fun _ => amended organizationId status creditLimit
  | amended organizationId status creditLimit =>
      .commit (·.amend organizationId status creditLimit) ended
  | failing _ => .abort ended
  | ended => .halt

/-- The program of the transactions on credit accounts. -/
def creditProgram : Program CreditDb CreditLock CreditPoint where
  next := CreditPoint.next
  dead := .ended
  halts := rfl

end SwCouriers
