import SwCouriers.CreditApplications
import SwCouriers.Lib.TransactionParts

/-!
# The Review of Credit Applications

What `OrgCreditApplicationService` does with an application after it was submitted:
`assign_reviewer`, `verify_trade_reference`, `run_credit_check`, `refresh_credit_check`,
`mark_ready_for_decision`, and the decisions `approve`, `reject`, `cancel` and `withdraw`; and
`create`, `approve` and `reject` of `OrgCreditLimitIncreaseRequestService`.

Decisions are transactions. Each reads the row that it is about, checks the status, and writes by
`update_by_id` without an expected version, which takes the row lock only when it writes.
`Lock.reading t target` is no lock of the database: it marks that the transaction `t` has read the
target, and nobody ever waits for it.

The credit report, the cooldown that follows a rejection, the history of credit limits (see
`CreditSettings`) and the other audit records are left out.

## Main definitions

* `Assessment`: what the credit check comes back with.
* `approve`, `reject`, `cancel`, `withdraw`: the decisions on an application.
* `createRequest`, `approveRequest`, `rejectRequest`: requests for a higher limit.
* `Op.run`: one request at a time.
-/

namespace SwCouriers.CreditApplications

open Checked ReadCommitted
open CreditStatus (Call AccountLock)

/-! ### Review -/

/-- The application with a reviewer. -/
def OrgCreditApplication.assigned (call : Call) (reviewerUserId : Id)
    (app : OrgCreditApplication) : OrgCreditApplication :=
  { app with
    assignedReviewerUserId := some reviewerUserId
    status := .reviewerAssigned
    reviewerAssignedAt := some call.now }

/-- `assign_reviewer`. -/
def assignReviewer (db : Db) (call : Call) (applicationId reviewerUserId : Id) :
    Except ServiceError Db := do
  db.checkOrganization call.organizationId
  let app ← db.getActiveOr404 applicationId call.organizationId
  ensureNotTerminal app
  raiseIf (app.status ∉ [.submitted, .reviewerAssigned, .referencesVerified,
      .creditCheckCompleted, .creditCheckFailed, .readyForDecision])
    (invalid "Reviewer can only be assigned while the application is in progress.")
  return db.updateApplication app (·.assigned call reviewerUserId)

/-- A reference counts as verified. -/
def TradeReferenceVerificationStatus.passes : TradeReferenceVerificationStatus → Bool
  | .verified | .unableToVerify => true
  | _ => false

/-- `count_unverified`. -/
def Db.countUnverified (db : Db) (applicationId : Id) : ℕ :=
  (db.referencesOf applicationId).countP fun ref => !ref.verificationStatus.passes

/-- A trade reference with the outcome of its verification. -/
def OrgCreditApplicationTradeReference.verifiedAs (call : Call)
    (status : TradeReferenceVerificationStatus) (ref : OrgCreditApplicationTradeReference) :
    OrgCreditApplicationTradeReference :=
  { ref with
    verificationStatus := status
    verifiedAt := if status = .pending then ref.verifiedAt else some call.now
    verifiedByUserId := if status = .pending then ref.verifiedByUserId else some call.callerId }

/-- A trade reference is rewritten. -/
def Db.setReference (db : Db) (call : Call) (refId : Id)
    (status : TradeReferenceVerificationStatus) : Db :=
  { db with
    references := db.references.modify refId (·.verifiedAs call status) fun _ => rfl }

/-- `verify_trade_reference`. -/
def verifyTradeReference (db : Db) (call : Call) (applicationId refId : Id)
    (status : TradeReferenceVerificationStatus) : Except ServiceError Db := do
  db.checkOrganization call.organizationId
  let app ← db.getActiveOr404 applicationId call.organizationId
  ensureNotTerminal app
  raiseIf (app.status ∉ [.reviewerAssigned, .referencesVerified, .creditCheckFailed,
      .creditCheckCompleted, .readyForDecision])
    (invalid "Trade references can only be verified during review.")
  let _ ← orRaise ((db.references.find? refId).filter fun ref => ref.applicationId = applicationId)
    (.notFound "org_credit_application_trade_references" (some refId))
  let db' := db.setReference call refId status
  return if db'.countUnverified applicationId = 0 then
    db'.updateApplication app fun app =>
      { app with referencesVerifiedAt := some call.now, status := .referencesVerified }
  else db'

/-- What the credit check comes back with: a report, no company of that number (and then what
becomes of the order of a fresh investigation), or a failure. -/
inductive Assessment where
  | report
  | noCompanyFound (ordered : Except ServiceError Unit)
  | failure (error : String)

/-- The status and the time of a credit check. -/
def Db.checked (db : Db) (call : Call) (app : OrgCreditApplication)
    (status : CreditApplicationStatus) : Db :=
  db.updateApplication app fun app =>
    { app with status := status, creditCheckRunAt := some call.now }

/-- `get_active_for_application`: of several investigations in progress the latest. -/
def Db.activeInvestigation (db : Db) (organizationId applicationId : Id) :
    Option OrgCreditInvestigation :=
  (db.investigations.rows.filter fun inv => inv.organizationId = organizationId &&
    inv.applicationId = applicationId && inv.status = .inProgress).foldl
      (fun best inv => match best with
        | none => some inv
        | some b => if b.requestedAt < inv.requestedAt then some inv else some b) none

/-- `_open_fresh_investigation`. -/
def openFreshInvestigation (db : Db) (call : Call) (app : OrgCreditApplication)
    (ordered : Except ServiceError Unit) : Except ServiceError Db := do
  match db.activeInvestigation call.organizationId app.id with
  | some _ => return db
  | none => do
      ordered
      raiseIf (db.investigations.rows.any fun inv =>
          inv.organizationId = call.organizationId && inv.status = .inProgress)
        (.integrity "uq_org_credit_investigation_active_per_org")
      return { db with
        investigations := db.investigations.insert
          { id := db.investigations.fresh
            organizationId := call.organizationId
            applicationId := app.id
            status := .inProgress
            regNo := app.fields.companyRegistrationNumber
            requestedByUserId := call.callerId
            requestedAt := call.now
            completedAt := none
            failureReason := none } }

/-- `run_credit_check`. -/
def runCreditCheck (db : Db) (call : Call) (applicationId : Id) (assessment : Assessment) :
    Except ServiceError Db := do
  db.checkOrganization call.organizationId
  let app ← db.getActiveOr404 applicationId call.organizationId
  ensureNotTerminal app
  raiseIf (app.status ∉ [.reviewerAssigned, .referencesVerified, .creditCheckFailed])
    (invalid "Credit check can only run while the application is under review.")
  match assessment with
  | .report => return db.checked call app .creditCheckCompleted
  | .noCompanyFound ordered =>
      return (← openFreshInvestigation db call app ordered).checked call app
        .creditCheckInvestigationProgress
  | .failure _ => return db.checked call app .creditCheckFailed

/-- An investigation ends. -/
def Db.endInvestigation (db : Db) (call : Call) (inv : OrgCreditInvestigation)
    (status : OrgCreditInvestigationStatus) (failureReason : Option String) : Db :=
  { db with
    investigations := db.investigations.modify inv.id
      (fun inv => { inv with
        status := status
        completedAt := some call.now
        failureReason := failureReason.or inv.failureReason }) fun _ => rfl }

/-- `refresh_credit_check`. -/
def refreshCreditCheck (db : Db) (call : Call) (applicationId : Id) (assessment : Assessment) :
    Except ServiceError Db := do
  db.checkOrganization call.organizationId
  let app ← db.getActiveOr404 applicationId call.organizationId
  ensureNotTerminal app
  raiseIf (app.status ≠ .creditCheckInvestigationProgress) (invalid
    "Credit check refresh is only available while an investigation is in progress.")
  let investigation ← orRaise (db.activeInvestigation call.organizationId applicationId)
    (.notFound "org_credit_investigation" (some applicationId))
  match assessment with
  | .report =>
      return (db.endInvestigation call investigation .completed none).checked call app
        .creditCheckCompleted
  | .noCompanyFound _ => return db
  | .failure error =>
      return (db.endInvestigation call investigation .failed
        (some (String.ofList (error.toList.take 1000)))).checked call app .creditCheckFailed

/-- `mark_ready_for_decision`. -/
def markReadyForDecision (db : Db) (call : Call) (applicationId : Id) :
    Except ServiceError Db := do
  db.checkOrganization call.organizationId
  let app ← db.getActiveOr404 applicationId call.organizationId
  ensureNotTerminal app
  raiseIf (app.status ∉ [.reviewerAssigned, .referencesVerified, .creditCheckCompleted,
      .creditCheckFailed])
    (invalid "Application is not ready for this transition.")
  raiseIf (app.status ≠ .creditCheckCompleted)
    (invalid "Credit assessment must be completed first.")
  raiseIf (0 < db.countUnverified applicationId)
    (invalid "All trade references must be verified first.")
  return db.updateApplication app fun app => { app with status := .readyForDecision }

/-! ### Decisions -/

/-- The rows, the index entries and the locks of the credit accounts, and the marks of the
transaction `t` (see above). -/
inductive Lock (T : Type) where
  | row (target : Target)
  /-- The entry of an organisation in `uq_oclis_one_pending_per_org`. -/
  | pending (organizationId : Id)
  | account (lock : AccountLock T)
  | reading (t : T) (target : Target)
  deriving DecidableEq

/-- A transaction on applications and requests. -/
abbrev DecisionTxn (T α : Type) := Txn Db (Lock T) ServiceError α

/-- The audit record of a decision. -/
def Db.recordDecision (target : Target) (decision : Decision) (db : Db) : Db :=
  { db with decisions := db.decisions ++ [⟨target, decision⟩] }

section

variable {T : Type} (t : T) (call : Call)

/-- `get_by_id_or_404` of the organisation. -/
def getOrganization : DecisionTxn T Unit :=
  .statement fun db => db.checkOrganization call.organizationId

/-- `get_active_or_404`, in a decision. -/
def readApplication (applicationId : Id) : DecisionTxn T OrgCreditApplication :=
  .lockRow (.reading t (.application applicationId)) fun db =>
    db.getActiveOr404 applicationId call.organizationId

/-- `update_by_id` of an application: it has to be there, and the row is locked for the write. -/
def updateById (applicationId : Id) : DecisionTxn T Unit :=
  .lockRow (.row (.application applicationId)) fun db =>
    raiseIf (((db.applications.find? applicationId).filter fun app =>
        app.organizationId = call.organizationId).isSome = false)
      (.notFound "org_credit_applications" (some applicationId))

/-- What an application is decided to be, and the record of it. -/
def Db.decideApplication (app : OrgCreditApplication) (decision : Decision)
    (f : OrgCreditApplication → OrgCreditApplication) (db : Db) : Db :=
  (db.updateApplication app f).recordDecision (.application app.id) decision

/-- What an approval grants. -/
structure ApprovalTerms where
  approvedCreditLimit : ℚ
  approvedPaymentTermsDays : ℤ
  reviewFrequency : Option ReviewFrequency
  approvalNotes : Option String

/-- What `provision_account_on_approval` is told. -/
def ApprovalTerms.approval (terms : ApprovalTerms) : CreditStatus.Approval :=
  ⟨terms.approvedCreditLimit, terms.approvedPaymentTermsDays,
    terms.reviewFrequency.map ReviewFrequency.value⟩

/-- The application is approved. -/
def OrgCreditApplication.approvedWith (terms : ApprovalTerms) (app : OrgCreditApplication) :
    OrgCreditApplication :=
  { app with
    status := .approved
    approvedCreditLimit := some (money terms.approvedCreditLimit)
    approvedPaymentTermsDays := some terms.approvedPaymentTermsDays
    decidedAt := some call.now
    approvedAt := some call.now
    approvedByUserId := some call.callerId
    reviewFrequency := terms.reviewFrequency.or app.reviewFrequency
    approvalNotes := terms.approvalNotes.or app.approvalNotes }

/-- The application is rejected. -/
def OrgCreditApplication.rejectedFor (category : RejectionCategory) (reason : String)
    (app : OrgCreditApplication) : OrgCreditApplication :=
  { app with
    status := .rejected
    rejectionCategory := some category
    rejectionReason := some reason
    decidedAt := some call.now
    rejectedAt := some call.now
    rejectedByUserId := some call.callerId }

/-- The application is cancelled. -/
def OrgCreditApplication.cancelledFor (reason : String) (app : OrgCreditApplication) :
    OrgCreditApplication :=
  { app with
    status := .cancelled
    cancellationReason := some reason
    decidedAt := some call.now
    cancelledAt := some call.now
    cancelledByUserId := some call.callerId }

/-- The application is withdrawn; a draft is none any more. -/
def OrgCreditApplication.withdrawnBy (app : OrgCreditApplication) : OrgCreditApplication :=
  { app with
    status := .withdrawn
    state := .active
    withdrawnAt := some call.now
    withdrawnByUserId := some call.callerId }

/-- `approve`. -/
def approve (applicationId : Id) (terms : ApprovalTerms) : DecisionTxn T (Db → Db) := do
  getOrganization call
  let app ← readApplication t call applicationId
  Txn.check (ensureNotTerminal app)
  Txn.check (raiseIf (app.status ≠ .readyForDecision ∧ app.status ≠ .creditCheckCompleted)
    (invalid ("Application is not in a state that allows approval. " ++
      "Current status is " ++ app.status.value ++ ". " ++
      "Complete the credit assessment first (POST …/credit-check/run) until status is " ++
      "CREDIT_CHECK_COMPLETED or READY_FOR_DECISION, then approve.")))
  updateById call applicationId
  let provision ← (CreditStatus.provisionAccountOnApproval t call terms.approval).onPart Db.credit
    Lock.account
  return fun db =>
    { db.decideApplication app .approved (·.approvedWith call terms) with
      credit := provision db.credit }

/-- `reject`. -/
def reject (applicationId : Id) (rejectionCategory : RejectionCategory)
    (detailedReason : String) : DecisionTxn T (Db → Db) := do
  getOrganization call
  let app ← readApplication t call applicationId
  Txn.check (ensureNotTerminal app)
  Txn.check (raiseIf (app.status ∉ [.reviewerAssigned, .referencesVerified,
      .creditCheckCompleted, .creditCheckFailed, .readyForDecision])
    (invalid "Application is not in a state that allows rejection."))
  updateById call applicationId
  return Db.decideApplication app .rejected (·.rejectedFor call rejectionCategory detailedReason)

/-- `cancel`. -/
def cancel (applicationId : Id) (reason : String) : DecisionTxn T (Db → Db) := do
  getOrganization call
  let app ← readApplication t call applicationId
  Txn.check (ensureNotTerminal app)
  updateById call applicationId
  return Db.decideApplication app .cancelled (·.cancelledFor call reason)

/-- `withdraw`, also of a draft. -/
def withdraw (applicationId : Id) : DecisionTxn T (Db → Db) := do
  getOrganization call
  let app ← readApplication t call applicationId
  Txn.check (ensureNotTerminal app)
  Txn.check (raiseIf (app.status ≠ .submitted)
    (invalid "Withdraw is only allowed for draft or submitted applications."))
  updateById call applicationId
  return Db.decideApplication app .withdrawn (·.withdrawnBy call)

/-! ### Requests for a higher limit -/

/-- A request of the organisation waits. -/
def Db.hasPending (db : Db) (organizationId : Id) : Bool :=
  db.requests.rows.any fun row => row.organizationId = organizationId && row.status = .pending

/-- A new request. -/
def Db.addRequest (requestedLimit : ℤ) (reason : String) (previousLimit : Option ℤ) (db : Db) :
    Db :=
  { db with
    requests := db.requests.insert
      { id := db.requests.fresh
        organizationId := call.organizationId
        previousLimit := previousLimit
        requestedLimit := requestedLimit
        approvedLimit := none
        reason := reason
        status := .pending
        requestedByUserId := call.callerId
        reviewedByUserId := none
        reviewedAt := none } }

/-- `OrgCreditLimitIncreaseRequestService.create`. -/
def createRequest (requestedLimit : ℤ) (reason : String) : DecisionTxn T (Db → Db) := do
  getOrganization call
  let pending ← Txn.query fun db => db.hasPending call.organizationId
  Txn.check (raiseIf (pending = true)
    (invalid "A credit limit increase request is already pending for this organisation."))
  let acct ← Txn.statement fun db => orRaise (db.credit.accounts.find? call.organizationId)
    (invalid ("No credit account exists for this organisation. " ++
      "A credit account is required before requesting a limit increase."))
  Txn.claim (.pending call.organizationId) (fun db => db.hasPending call.organizationId)
    (.integrity "uq_oclis_one_pending_per_org")
  return Db.addRequest call requestedLimit reason acct.creditLimit

/-- `get_by_id_and_org_with_users`, in a decision. -/
def readRequest (requestId : Id) : DecisionTxn T OrgCreditLimitIncreaseRequest :=
  .lockRow (.reading t (.request requestId)) fun db =>
    orRaise ((db.requests.find? requestId).filter fun row =>
        row.organizationId = call.organizationId)
      (.notFound "org_credit_limit_increase_request" (some requestId))

/-- `update_by_id` of a request. -/
def updateRequestById (requestId : Id) : DecisionTxn T Unit :=
  .lockRow (.row (.request requestId)) fun db =>
    raiseIf (((db.requests.find? requestId).filter fun row =>
        row.organizationId = call.organizationId).isSome = false)
      (.notFound "org_credit_limit_increase_requests" (some requestId))

/-- What a request is decided to be, and the record of it. -/
def Db.decideRequest (requestId : Id) (status : OrgCreditLimitIncreaseRequestStatus)
    (decision : Decision) (approvedLimit : Option ℤ) (db : Db) : Db :=
  { db with
    requests := db.requests.modify requestId
      (fun row => { row with
        status := status
        approvedLimit := approvedLimit.or row.approvedLimit
        reviewedByUserId := some call.callerId
        reviewedAt := some call.now }) fun _ => rfl }.recordDecision (.request requestId) decision

/-- The limit that `patch_credit_limit` puts into force today. -/
def setLimit (limit : ℚ) (credit : CreditStatus.Db) : CreditStatus.Db :=
  { credit with
    accounts := credit.accounts.modify call.organizationId
      (fun acct => { acct with
        creditLimit := some (money limit)
        creditLimitUpdatedAt := some call.now }) fun _ => rfl }

/-- `patch_credit_limit`, from today on. -/
def patchCreditLimit (limit : ℚ) : DecisionTxn T (CreditStatus.Db → CreditStatus.Db) := do
  getOrganization call
  let acct ← (CreditStatus.getByOrgIdForUpdate call.organizationId).onPart Db.credit Lock.account
  Txn.check (raiseIf (acct.isSome = false)
    (invalid ("No credit account exists for this organisation. " ++
      "Credit must be assigned before the limit can be updated.")))
  return setLimit call limit

/-- `OrgCreditLimitIncreaseRequestService.approve`; `admin` says whether the caller is an
administrator. -/
def approveRequest (admin : Bool) (requestId : Id) (approvedCreditLimit : ℚ) :
    DecisionTxn T (Db → Db) := do
  Txn.check (raiseIf (admin = false)
    (.forbidden "Only administrators can approve credit limit increase requests."))
  getOrganization call
  let row ← readRequest t call requestId
  Txn.check (raiseIf (row.status ≠ .pending) (invalid "Only a pending request can be approved."))
  let patch ← patchCreditLimit call approvedCreditLimit
  updateRequestById call requestId
  return fun db =>
    { db.decideRequest call requestId .approved .approved (some (money approvedCreditLimit)) with
      credit := patch db.credit }

/-- `OrgCreditLimitIncreaseRequestService.reject`. -/
def rejectRequest (admin : Bool) (requestId : Id) : DecisionTxn T (Db → Db) := do
  Txn.check (raiseIf (admin = false)
    (.forbidden "Only administrators can reject credit limit increase requests."))
  getOrganization call
  let row ← readRequest t call requestId
  Txn.check (raiseIf (row.status ≠ .pending) (invalid "Only a pending request can be rejected."))
  updateRequestById call requestId
  return Db.decideRequest call requestId .rejected .rejected none

end

/-! ### One request at a time -/

/-- A decision that nobody else interferes with. -/
def Db.decideAlone (db : Db) (p : DecisionTxn Unit (Db → Db)) : Except ServiceError Db :=
  (p.alone db).map fun write => write db

/-- One request of the application service. -/
inductive Op where
  | saveDraft (data : List Assignment) (tradeReferences : Option (List TradeReferenceInput))
  | updateDraft (draftId : Id) (data : List Assignment)
      (tradeReferences : Option (List TradeReferenceInput))
  | create (data : List Assignment) (tradeReferences : Option (List TradeReferenceInput))
  | publishDraft (draftId : Id) (data : List Assignment)
      (tradeReferences : Option (List TradeReferenceInput))
  | assignReviewer (applicationId reviewerUserId : Id)
  | verifyTradeReference (applicationId refId : Id) (status : TradeReferenceVerificationStatus)
  | runCreditCheck (applicationId : Id) (assessment : Assessment)
  | refreshCreditCheck (applicationId : Id) (assessment : Assessment)
  | markReadyForDecision (applicationId : Id)
  | approve (applicationId : Id) (terms : ApprovalTerms)
  | reject (applicationId : Id) (rejectionCategory : RejectionCategory) (detailedReason : String)
  | cancel (applicationId : Id) (reason : String)
  | withdraw (applicationId : Id)

/-- What the request makes of the store, or why it is refused. -/
def Op.run (env : Env) (call : Call) (db : Db) : Op → Except ServiceError Db
  | .saveDraft data refs => CreditApplications.saveDraft db call data refs
  | .updateDraft draftId data refs => CreditApplications.updateDraft db call draftId data refs
  | .create data refs => CreditApplications.create env db call data refs
  | .publishDraft draftId data refs =>
      CreditApplications.publishDraft env db call draftId data refs
  | .assignReviewer id reviewer => CreditApplications.assignReviewer db call id reviewer
  | .verifyTradeReference id refId status =>
      CreditApplications.verifyTradeReference db call id refId status
  | .runCreditCheck id assessment => CreditApplications.runCreditCheck db call id assessment
  | .refreshCreditCheck id assessment =>
      CreditApplications.refreshCreditCheck db call id assessment
  | .markReadyForDecision id => CreditApplications.markReadyForDecision db call id
  | .approve id terms => db.decideAlone (CreditApplications.approve () call id terms)
  | .reject id category reason =>
      db.decideAlone (CreditApplications.reject () call id category reason)
  | .cancel id reason => db.decideAlone (CreditApplications.cancel () call id reason)
  | .withdraw id => db.decideAlone (CreditApplications.withdraw () call id)

/-- A request is committed, or rolled back when it raises. -/
def step (env : Env) (db : Db) (request : Call × Op) : Db :=
  settle db (request.2.run env request.1 db)

end SwCouriers.CreditApplications
