import SwCouriers.CreditStatus

/-!
# Credit Applications

The applications of organisations for credit, their trade references and drafts, as
`OrgCreditApplicationService` writes them: `save_draft`, `update_draft`, `publish_draft` and
`create`, the last two of which submit an application after `_validate_for_submission`.

An application has a workflow status and, in a column of its own, a lifecycle state. A draft has
the status SUBMITTED, too; only its state tells it from an application that was submitted.

Columns that no check reads are one column here (`Assignment.other`); application numbers,
attachments and audit records of drafts are left out.

## Main definitions

* `Db`: the tables.
* `submissionErrors`: what `CreditApplicationSubmissionValidator` finds wrong.
* `saveDraft`, `updateDraft`, `publishDraft`, `create`: the operations on drafts and submission.
-/

namespace SwCouriers.CreditApplications

open Checked
open CreditStatus (Call)

/-! ### Rows -/

/-- `CreditApplicationStatus`. -/
inductive CreditApplicationStatus where
  | submitted | reviewerAssigned | referencesVerified | creditCheckCompleted | creditCheckFailed
  | creditCheckInvestigationProgress | readyForDecision | approved | rejected | withdrawn
  | cancelled
  deriving DecidableEq, Repr

/-- The text that stands for a status. -/
def CreditApplicationStatus.value : CreditApplicationStatus → String
  | .submitted => "SUBMITTED"
  | .reviewerAssigned => "REVIEWER_ASSIGNED"
  | .referencesVerified => "REFERENCES_VERIFIED"
  | .creditCheckCompleted => "CREDIT_CHECK_COMPLETED"
  | .creditCheckFailed => "CREDIT_CHECK_FAILED"
  | .creditCheckInvestigationProgress => "CREDIT_CHECK_INVESTIGATION_PROGRESS"
  | .readyForDecision => "READY_FOR_DECISION"
  | .approved => "APPROVED"
  | .rejected => "REJECTED"
  | .withdrawn => "WITHDRAWN"
  | .cancelled => "CANCELLED"

/-- `_TERMINAL_STATUSES`. -/
def CreditApplicationStatus.terminal : CreditApplicationStatus → Bool
  | .approved | .rejected | .withdrawn | .cancelled => true
  | _ => false

/-- `CreditApplicationLifecycleState`. -/
inductive CreditApplicationLifecycleState where
  | draft | active
  deriving DecidableEq, Repr

/-- `TradeReferenceVerificationStatus`. -/
inductive TradeReferenceVerificationStatus where
  | pending | verified | declined | unableToVerify
  deriving DecidableEq, Repr

/-- `RelationshipDuration`. -/
inductive RelationshipDuration where
  | lessThanOneYear | oneToTwoYears | twoToFiveYears | fiveToTenYears | overTenYears
  deriving DecidableEq, Repr

/-- `ReviewFrequency`. -/
inductive ReviewFrequency where
  | monthly | quarterly | annually
  deriving DecidableEq, Repr

/-- The text that stands for a review frequency. -/
def ReviewFrequency.value : ReviewFrequency → String
  | .monthly => "MONTHLY"
  | .quarterly => "QUARTERLY"
  | .annually => "ANNUALLY"

/-- `RejectionCategory`. -/
inductive RejectionCategory where
  | insufficientReferences | poorFinancialStanding | incompleteInformation | policyNonCompliance
  | other
  deriving DecidableEq, Repr

/-- The columns of an application that the organisation fills in and the validator reads. -/
structure ApplicationFields where
  companyRegistrationNumber : Option String
  yearsTrading : Option ℤ
  annualTurnover : Option ℤ
  bankName : Option String
  bankSortCode : Option String
  bankAccountNumberLast4 : Option String
  requestedCreditLimit : Option ℤ
  requestedPaymentTermsDays : Option ℤ
  expectedMonthlySpend : Option ℤ
  directorSignatoryName : Option String
  directorSignatoryPosition : Option String
  consentCreditCheck : Bool
  consentTermsAndConditions : Bool
  consentDataProcessing : Bool
  deriving DecidableEq, Repr

/-- The columns of an application that was given no data. -/
def ApplicationFields.blank : ApplicationFields :=
  ⟨none, none, none, none, none, none, none, none, none, none, none, false, false, false⟩

/-- An entry of `_extract_application_fields`: a column and its value. -/
inductive Assignment where
  | companyRegistrationNumber (value : Option String)
  | yearsTrading (value : Option ℤ)
  | annualTurnover (value : Option ℤ)
  | bankName (value : Option String)
  | bankSortCode (value : Option String)
  | bankAccountNumberLast4 (value : Option String)
  | requestedCreditLimit (value : Option ℤ)
  | requestedPaymentTermsDays (value : Option ℤ)
  | expectedMonthlySpend (value : Option ℤ)
  | directorSignatoryName (value : Option String)
  | directorSignatoryPosition (value : Option String)
  | consentCreditCheck (value : Bool)
  | consentTermsAndConditions (value : Bool)
  | consentDataProcessing (value : Bool)
  /-- A column that no check reads. -/
  | other

/-- One column is set. -/
def ApplicationFields.set (fields : ApplicationFields) : Assignment → ApplicationFields
  | .companyRegistrationNumber value => { fields with companyRegistrationNumber := value }
  | .yearsTrading value => { fields with yearsTrading := value }
  | .annualTurnover value => { fields with annualTurnover := value }
  | .bankName value => { fields with bankName := value }
  | .bankSortCode value => { fields with bankSortCode := value }
  | .bankAccountNumberLast4 value => { fields with bankAccountNumberLast4 := value }
  | .requestedCreditLimit value => { fields with requestedCreditLimit := value }
  | .requestedPaymentTermsDays value => { fields with requestedPaymentTermsDays := value }
  | .expectedMonthlySpend value => { fields with expectedMonthlySpend := value }
  | .directorSignatoryName value => { fields with directorSignatoryName := value }
  | .directorSignatoryPosition value => { fields with directorSignatoryPosition := value }
  | .consentCreditCheck value => { fields with consentCreditCheck := value }
  | .consentTermsAndConditions value => { fields with consentTermsAndConditions := value }
  | .consentDataProcessing value => { fields with consentDataProcessing := value }
  | .other => fields

/-- All columns of a request are set. -/
def ApplicationFields.setAll (fields : ApplicationFields) (data : List Assignment) :
    ApplicationFields :=
  data.foldl ApplicationFields.set fields

/-- `OrgCreditApplication`. -/
structure OrgCreditApplication where
  id : Id
  organizationId : Id
  status : CreditApplicationStatus
  state : CreditApplicationLifecycleState
  fields : ApplicationFields
  submittedAt : Option Instant
  submittedByUserId : Option Id
  assignedReviewerUserId : Option Id
  reviewerAssignedAt : Option Instant
  referencesVerifiedAt : Option Instant
  creditCheckRunAt : Option Instant
  decidedAt : Option Instant
  approvedCreditLimit : Option ℤ
  approvedPaymentTermsDays : Option ℤ
  reviewFrequency : Option ReviewFrequency
  approvalNotes : Option String
  approvedAt : Option Instant
  approvedByUserId : Option Id
  rejectionCategory : Option RejectionCategory
  rejectionReason : Option String
  rejectedAt : Option Instant
  rejectedByUserId : Option Id
  cancellationReason : Option String
  cancelledAt : Option Instant
  cancelledByUserId : Option Id
  withdrawnAt : Option Instant
  withdrawnByUserId : Option Id
  deletedAt : Option Instant
  version : ℕ
  deriving DecidableEq, Repr

/-- What an organisation says of a trade reference. -/
structure TradeReferenceInput where
  companyName : Option String
  contactPerson : Option String
  contactPhone : Option String
  contactEmail : Option String
  relationshipDuration : Option RelationshipDuration
  deriving DecidableEq, Repr

/-- `OrgCreditApplicationTradeReference`. -/
structure OrgCreditApplicationTradeReference where
  id : Id
  applicationId : Id
  refIndex : ℕ
  input : TradeReferenceInput
  verificationStatus : TradeReferenceVerificationStatus
  verifiedAt : Option Instant
  verifiedByUserId : Option Id
  deriving DecidableEq, Repr

/-- `OrgCreditApplicationDraft`. -/
structure OrgCreditApplicationDraft where
  id : Id
  applicationId : Id
  createdById : Option Id
  publishedById : Option Id
  deriving DecidableEq, Repr

/-- `OrgCreditInvestigationStatus`. -/
inductive OrgCreditInvestigationStatus where
  | inProgress | completed | failed
  deriving DecidableEq, Repr

/-- `OrgCreditInvestigation`. -/
structure OrgCreditInvestigation where
  id : Id
  organizationId : Id
  applicationId : Id
  status : OrgCreditInvestigationStatus
  regNo : Option String
  requestedByUserId : Id
  requestedAt : Instant
  completedAt : Option Instant
  failureReason : Option String
  deriving DecidableEq, Repr

/-- `OrgCreditLimitIncreaseRequestStatus`. -/
inductive OrgCreditLimitIncreaseRequestStatus where
  | pending | approved | rejected
  deriving DecidableEq, Repr

/-- `OrgCreditLimitIncreaseRequest`. -/
structure OrgCreditLimitIncreaseRequest where
  id : Id
  organizationId : Id
  previousLimit : Option ℤ
  requestedLimit : ℤ
  approvedLimit : Option ℤ
  reason : String
  status : OrgCreditLimitIncreaseRequestStatus
  requestedByUserId : Id
  reviewedByUserId : Option Id
  reviewedAt : Option Instant
  deriving DecidableEq, Repr

/-- What is decided about: an application, or a request for a higher limit. -/
inductive Target where
  | application (id : Id)
  | request (id : Id)
  deriving DecidableEq, Repr

/-- What is decided. -/
inductive Decision where
  | approved | rejected | cancelled | withdrawn
  deriving DecidableEq, Repr

/-- The audit record of a decision. -/
structure DecisionRecord where
  target : Target
  decision : Decision
  deriving DecidableEq, Repr

/-- The tables, the credit accounts, and the audit records of decisions. -/
structure Db where
  applications : Table OrgCreditApplication.id
  references : Table OrgCreditApplicationTradeReference.id
  drafts : Table OrgCreditApplicationDraft.id
  investigations : Table OrgCreditInvestigation.id
  requests : Table OrgCreditLimitIncreaseRequest.id
  credit : CreditStatus.Db
  decisions : List DecisionRecord

/-- What is not under the control of the service: the verdict of the e-mail validator about an
address (`none` when it is one, else what is wrong with it). -/
structure Env where
  emailError : String → Option String

/-! ### Lookups -/

namespace Db

variable (db : Db)

/-- `OrganizationRepository.get_by_id_or_404`. -/
def checkOrganization (organizationId : Id) : Except ServiceError Unit :=
  raiseIf (db.credit.organizations organizationId = false)
    (.notFound "organizations" (some organizationId))

/-- `get_active`. Neither the status nor the lifecycle state is looked at. -/
def getActive (applicationId organizationId : Id) : Option OrgCreditApplication :=
  (db.applications.find? applicationId).filter fun app =>
    app.organizationId = organizationId && app.deletedAt = none

/-- `get_active_or_404`. -/
def getActiveOr404 (applicationId organizationId : Id) :
    Except ServiceError OrgCreditApplication :=
  orRaise (db.getActive applicationId organizationId)
    (.notFound "org_credit_applications" (some applicationId))

/-- The trade references of an application. -/
def referencesOf (applicationId : Id) : List OrgCreditApplicationTradeReference :=
  db.references.rows.filter fun ref => ref.applicationId = applicationId

/-- `get_by_id_with_application_or_404`: a draft that is not published, with its application. -/
def getDraft (draftId organizationId : Id) :
    Except ServiceError (OrgCreditApplicationDraft × OrgCreditApplication) := do
  let missing := ServiceError.notFound "org_credit_application_drafts" (some draftId)
  let draft ← orRaise ((db.drafts.find? draftId).filter fun draft => draft.publishedById = none)
    missing
  let app ← orRaise (db.getActive draft.applicationId organizationId) missing
  return (draft, app)

/-- An application is rewritten, and its version counts up from the one that was read. -/
def updateApplication (read : OrgCreditApplication)
    (f : OrgCreditApplication → OrgCreditApplication) : Db :=
  { db with
    applications := db.applications.modify read.id
      (fun app => { f app with id := app.id, version := read.version + 1 }) fun _ => rfl }

end Db

/-- `_ensure_not_terminal`. -/
def ensureNotTerminal (app : OrgCreditApplication) : Except ServiceError Unit :=
  raiseIf (app.status.terminal = true)
    (invalid "This application is closed and cannot be changed.")

/-- `_ensure_org_mutable_for_member`. -/
def ensureOrgMutableForMember (app : OrgCreditApplication) : Except ServiceError Unit :=
  raiseIf (app.state ≠ .draft)
    (.forbidden "Organisation users can only edit applications in draft status.")

/-! ### Validation -/

/-- Where a value is wrong, and how. -/
abbrev FieldError := String × String

/-- `Field(min_length=1, max_length=maxLength)` of a text that is stripped. -/
def textErrors (loc : String) (maxLength : Option ℕ) (value : String) : List FieldError :=
  if strip value = "" then [(loc, "String should have at least 1 character")]
  else match maxLength with
    | none => []
    | some most =>
        if most < (strip value).length
        then [(loc, "String should have at most " ++ toString most ++ " characters")] else []

/-- A text that may be missing. -/
def optionalTextErrors (loc : String) (maxLength : ℕ) : Option String → List FieldError
  | none => [(loc, "Input should be a valid string")]
  | some value => textErrors loc (some maxLength) value

/-- `Field(gt=0)`. -/
def positiveErrors (loc : String) (value : ℤ) : List FieldError :=
  if 0 < value then [] else [(loc, "Input should be greater than 0")]

/-- `Field(ge=1, le=365)` of a number that may be missing. -/
def paymentTermsErrors (loc : String) : Option ℤ → List FieldError
  | none => [(loc, "Input should be a valid integer")]
  | some days =>
      if days < 1 then [(loc, "Input should be greater than or equal to 1")]
      else if 365 < days then [(loc, "Input should be less than or equal to 365")] else []

/-- `Literal[True]`. -/
def consentErrors (loc : String) (value : Bool) : List FieldError :=
  if value then [] else [(loc, "Input should be True")]

/-- `TradeReferenceSubmissionValidator`, of the reference at a position of the list. -/
def referenceErrors (env : Env) (index : ℕ) (ref : TradeReferenceInput) : List FieldError :=
  let loc := "trade_references." ++ toString index ++ "."
  optionalTextErrors (loc ++ "company_name") 255 ref.companyName ++
  optionalTextErrors (loc ++ "contact_person") 255 ref.contactPerson ++
  optionalTextErrors (loc ++ "contact_phone") 40 ref.contactPhone ++
  (match ref.contactEmail with
    | none => [(loc ++ "contact_email", "Input should be a valid string")]
    | some address =>
        match env.emailError (strip address) with
        | none => []
        | some message => [(loc ++ "contact_email", message)]) ++
  (match ref.relationshipDuration with
    | none => [(loc ++ "relationship_duration",
        "Input should be 'LESS_THAN_1_YEAR', '1_TO_2_YEARS', '2_TO_5_YEARS', '5_TO_10_YEARS' " ++
          "or 'OVER_10_YEARS'")]
    | some _ => [])

/-- The errors of all references; only a list without any is counted. -/
def referencesErrors (env : Env) (refs : List TradeReferenceInput) : List FieldError :=
  match (refs.zipIdx.map fun ref => referenceErrors env ref.2 ref.1).flatten with
  | [] =>
      if refs.length < 2 then [("trade_references",
        "List should have at least 2 items after validation, not " ++ toString refs.length)]
      else []
  | errors => errors

/-- `CreditApplicationSubmissionValidator`. -/
def submissionErrors (env : Env) (fields : ApplicationFields) (refs : List TradeReferenceInput) :
    List FieldError :=
  textErrors "company_registration_number" none (fields.companyRegistrationNumber.getD "") ++
  (if fields.yearsTrading.getD (-1) < 0
    then [("years_trading", "Input should be greater than or equal to 0")] else []) ++
  positiveErrors "annual_turnover" (fields.annualTurnover.getD 0) ++
  textErrors "bank_name" none (fields.bankName.getD "") ++
  textErrors "bank_sort_code" none (fields.bankSortCode.getD "") ++
  textErrors "bank_account_number_last4" none (fields.bankAccountNumberLast4.getD "") ++
  positiveErrors "requested_credit_limit" (fields.requestedCreditLimit.getD 0) ++
  paymentTermsErrors "requested_payment_terms_days" fields.requestedPaymentTermsDays ++
  positiveErrors "expected_monthly_spend" (fields.expectedMonthlySpend.getD 0) ++
  textErrors "director_signatory_name" none (fields.directorSignatoryName.getD "") ++
  textErrors "director_signatory_position" none (fields.directorSignatoryPosition.getD "") ++
  consentErrors "consent_credit_check" fields.consentCreditCheck ++
  consentErrors "consent_terms_and_conditions" fields.consentTermsAndConditions ++
  consentErrors "consent_data_processing" fields.consentDataProcessing ++
  referencesErrors env refs

/-- `_validate_for_submission`. -/
def validateForSubmission (env : Env) (fields : ApplicationFields)
    (refs : List TradeReferenceInput) : Except ServiceError Unit :=
  let errors := submissionErrors env fields refs
  raiseIf (errors ≠ []) (invalid ("Cannot submit application: " ++
    "; ".intercalate (errors.map fun e => e.1 ++ ": " ++ e.2)))

/-! ### Drafts and submission -/

/-- The row of a new trade reference. -/
def Db.newReference (db : Db) (applicationId : Id) (ref : TradeReferenceInput × ℕ) :
    OrgCreditApplicationTradeReference where
  id := db.references.fresh
  applicationId := applicationId
  refIndex := ref.2
  input := ref.1
  verificationStatus := .pending
  verifiedAt := none
  verifiedByUserId := none

/-- One more trade reference of an application. -/
def Db.addReference (applicationId : Id) (db : Db) (ref : TradeReferenceInput × ℕ) : Db :=
  { db with references := db.references.insert (db.newReference applicationId ref) }

/-- `_sync_trade_references`: what is given replaces what is there. -/
def Db.syncTradeReferences (db : Db) (applicationId : Id) :
    Option (List TradeReferenceInput) → Db
  | none => db
  | some inputs =>
      inputs.zipIdx.foldl (Db.addReference applicationId)
        { db with
          references := db.references.deleteWhere fun ref => ref.applicationId = applicationId }

/-- The inputs of the references of an application, as the validator reads them. -/
def Db.inputsOf (db : Db) (applicationId : Id) : List TradeReferenceInput :=
  (db.referencesOf applicationId).map (·.input)

/-- A new row, in a lifecycle state. -/
def Db.newApplication (db : Db) (call : Call) (state : CreditApplicationLifecycleState)
    (data : List Assignment) : OrgCreditApplication where
  id := db.applications.fresh
  organizationId := call.organizationId
  status := .submitted
  state := state
  fields := ApplicationFields.blank.setAll data
  submittedAt := if state = .active then some call.now else none
  submittedByUserId := if state = .active then some call.callerId else none
  assignedReviewerUserId := none
  reviewerAssignedAt := none
  referencesVerifiedAt := none
  creditCheckRunAt := none
  decidedAt := none
  approvedCreditLimit := none
  approvedPaymentTermsDays := none
  reviewFrequency := none
  approvalNotes := none
  approvedAt := none
  approvedByUserId := none
  rejectionCategory := none
  rejectionReason := none
  rejectedAt := none
  rejectedByUserId := none
  cancellationReason := none
  cancelledAt := none
  cancelledByUserId := none
  withdrawnAt := none
  withdrawnByUserId := none
  deletedAt := none
  version := 1

/-- A new application with its trade references. -/
def Db.addApplication (db : Db) (call : Call) (state : CreditApplicationLifecycleState)
    (data : List Assignment) (refs : Option (List TradeReferenceInput)) : Db :=
  { db with
    applications := db.applications.insert (db.newApplication call state data) }.syncTradeReferences
      db.applications.fresh refs

/-- `save_draft`. -/
def saveDraft (db : Db) (call : Call) (data : List Assignment)
    (tradeReferences : Option (List TradeReferenceInput)) : Except ServiceError Db := do
  db.checkOrganization call.organizationId
  let db' := db.addApplication call .draft data tradeReferences
  return { db' with
    drafts := db'.drafts.insert
      { id := db'.drafts.fresh
        applicationId := db.applications.fresh
        createdById := some call.callerId
        publishedById := none } }

/-- The columns of the request are written, if there are any. -/
def Db.setFields (db : Db) (app : OrgCreditApplication) (data : List Assignment) : Db :=
  if data.isEmpty then db
  else db.updateApplication app fun app => { app with fields := app.fields.setAll data }

/-- `update_draft`. -/
def updateDraft (db : Db) (call : Call) (draftId : Id) (data : List Assignment)
    (tradeReferences : Option (List TradeReferenceInput)) : Except ServiceError Db := do
  db.checkOrganization call.organizationId
  let (draft, app) ← db.getDraft draftId call.organizationId
  raiseIf (app.state ≠ .draft) (invalid "Cannot update a draft that is no longer in draft status.")
  ensureOrgMutableForMember app
  raiseIf (draft.publishedById ≠ none) (invalid "This draft has already been published.")
  return (db.setFields app data).syncTradeReferences app.id tradeReferences

/-- `create`: an application is submitted at once. -/
def create (env : Env) (db : Db) (call : Call) (data : List Assignment)
    (tradeReferences : Option (List TradeReferenceInput)) : Except ServiceError Db := do
  db.checkOrganization call.organizationId
  let db' := db.addApplication call .active data tradeReferences
  validateForSubmission env (ApplicationFields.blank.setAll data)
    (db'.inputsOf db.applications.fresh)
  return db'

/-- The application is submitted. -/
def OrgCreditApplication.submitted (call : Call) (app : OrgCreditApplication) :
    OrgCreditApplication :=
  { app with
    status := .submitted
    state := .active
    submittedAt := some call.now
    submittedByUserId := some call.callerId }

/-- `publish_draft`. -/
def publishDraft (env : Env) (db : Db) (call : Call) (draftId : Id) (data : List Assignment)
    (tradeReferences : Option (List TradeReferenceInput)) : Except ServiceError Db := do
  db.checkOrganization call.organizationId
  let (draft, app) ← db.getDraft draftId call.organizationId
  raiseIf (app.state ≠ .draft) (invalid "Only draft applications can be published.")
  ensureOrgMutableForMember app
  raiseIf (draft.publishedById ≠ none) (invalid "This draft has already been published.")
  let fields := app.fields.setAll data
  let db' := (db.setFields app data).syncTradeReferences app.id tradeReferences
  validateForSubmission env fields (db'.inputsOf app.id)
  let version := if data.isEmpty then app.version else app.version + 1
  let db'' := db'.updateApplication { app with version := version } (·.submitted call)
  return { db'' with
    drafts := db''.drafts.modify draft.id
      (fun draft => { draft with publishedById := some call.callerId }) fun _ => rfl }

end SwCouriers.CreditApplications
