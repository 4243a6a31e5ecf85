import Mathlib.Data.List.Sort
import SwCouriers.Common
import SwCouriers.Lib.Grouping
import SwCouriers.Lib.Table

/-!
# Suspension Rules

The rules of `SuspensionRulesService`: global ones, rules of an organisation that customise a
global one (their parent), and rules of an organisation without a parent. Each operation is one
transaction.

`_effective_rule_sets_with_source_for_org` says which rules count for an organisation:
customised rules hide their parents, and an organisation may opt out of global rules.
`get_org_applicable_rule_sets_with_source_for_org` is the same for the screen that lists inactive
rules, too.

Thresholds are kept in hundredths, as the column stores them. Audit records are left out.

## Main definitions

* `Db`: the tables.
* `effectiveRuleSets`, `applicableRuleSets`: the two views.
* `Op.run`: one request.
-/

namespace SwCouriers.SuspensionRules

open Checked

/-! ### Rows -/

/-- `SuspensionRuleStatus`. -/
inductive SuspensionRuleStatus where
  | active | inactive
  deriving DecidableEq, Repr

/-- `RuleScopeType`. -/
inductive RuleScopeType where
  | global | org
  deriving DecidableEq, Repr

/-- `SuspensionRuleType`. -/
inductive SuspensionRuleType where
  | creditLimit | bankTransfer | creditCard | cash
  deriving DecidableEq, Repr

/-- The text that stands for a rule type. -/
def SuspensionRuleType.value : SuspensionRuleType → String
  | .creditLimit => "CREDIT_LIMIT"
  | .bankTransfer => "BANK_TRANSFER"
  | .creditCard => "CREDIT_CARD"
  | .cash => "CASH"

/-- `SuspensionConnector`. -/
inductive SuspensionConnector where
  | none | and | or
  deriving DecidableEq, Repr

/-- `SuspensionConditionType`. -/
inductive SuspensionConditionType where
  | invoiceOverdueDays | totalOverdueAmount | creditUtilization | creditNotClearedAfterDueDate
  | totalOutstandingAmount | numberOfUnpaidInvoices | paymentFailureCount
  | consecutivePaymentFailure | chargebackTriggered | paymentRetryFailureCount
  | outstandingCashBalance | cashInvoiceOverdueDays | maxUnpaidOrders
  deriving DecidableEq, Repr

/-- The text that stands for a condition type. -/
def SuspensionConditionType.value : SuspensionConditionType → String
  | .invoiceOverdueDays => "INVOICE_OVERDUE_DAYS"
  | .totalOverdueAmount => "TOTAL_OVERDUE_AMOUNT"
  | .creditUtilization => "CREDIT_UTILIZATION"
  | .creditNotClearedAfterDueDate => "CREDIT_NOT_CLEARED_AFTER_DUE_DATE"
  | .totalOutstandingAmount => "TOTAL_OUTSTANDING_AMOUNT"
  | .numberOfUnpaidInvoices => "NUMBER_OF_UNPAID_INVOICES"
  | .paymentFailureCount => "PAYMENT_FAILURE_COUNT"
  | .consecutivePaymentFailure => "CONSECUTIVE_PAYMENT_FAILURE"
  | .chargebackTriggered => "CHARGEBACK_TRIGGERED"
  | .paymentRetryFailureCount => "PAYMENT_RETRY_FAILURE_COUNT"
  | .outstandingCashBalance => "OUTSTANDING_CASH_BALANCE"
  | .cashInvoiceOverdueDays => "CASH_INVOICE_OVERDUE_DAYS"
  | .maxUnpaidOrders => "MAX_UNPAID_ORDERS"

/-- `SuspensionRuleCondition`. -/
structure SuspensionRuleCondition where
  position : ℤ
  connector : Option SuspensionConnector
  conditionType : SuspensionConditionType
  /-- In hundredths. -/
  thresholdValue : ℤ
  unit : Option String
  deriving DecidableEq, Repr

/-- Whose rule it is. -/
inductive RuleScope where
  | global
  | org (organizationId : Id)
  deriving DecidableEq, Repr

/-- `SuspensionRuleSet`, with its conditions. -/
structure SuspensionRuleSet where
  id : Id
  name : String
  conditionSummary : Option String
  scope : RuleScope
  parentGlobalRuleSetId : Option Id
  ruleType : SuspensionRuleType
  status : SuspensionRuleStatus
  notes : Option String
  autoSuspensionEnabled : Bool
  pauseNewBookings : Bool
  restrictPortalLogin : Bool
  notifyFinanceTeam : Bool
  notifyAccountManager : Bool
  conditions : List SuspensionRuleCondition
  createdAt : Instant
  updatedAt : Instant
  version : ℤ
  deriving DecidableEq, Repr

/-- `OrgSuspensionGlobalSuppression`: an organisation has opted out of a global rule. -/
structure OrgSuspensionGlobalSuppression where
  organizationId : Id
  globalRuleSetId : Id
  deriving DecidableEq, Repr

/-- What is unique about an opt-out. -/
def OrgSuspensionGlobalSuppression.key (row : OrgSuspensionGlobalSuppression) : Id × Id :=
  (row.organizationId, row.globalRuleSetId)

/-- `OrganizationStatus`. -/
inductive OrganizationStatus where
  | draft | active | onHold | suspended | inactive
  deriving DecidableEq, Repr

/-- `Organization`, as far as suspension goes. -/
structure Organization where
  id : Id
  status : OrganizationStatus
  deriving DecidableEq, Repr

/-- `UserRole`. -/
inductive UserRole where
  | superAdmin | admin | warehouseStaff | driver | customerB2b | customerB2c
  deriving DecidableEq, Repr

/-- `UserStatus`. -/
inductive UserStatus where
  | active | inactive | suspended | pendingVerification
  deriving DecidableEq, Repr

/-- `User`, as far as suspension goes. -/
structure User where
  id : Id
  organizationId : Option Id
  role : UserRole
  status : UserStatus
  version : ℤ
  deriving DecidableEq, Repr

/-- `SuspensionActionTaken`. -/
inductive SuspensionActionTaken where
  | suspended | warningSent | noAction
  deriving DecidableEq, Repr

/-- `SuspensionActivity`: a rule has fired. -/
structure SuspensionActivity where
  ruleSetId : Id
  ruleNameSnapshot : String
  accountId : Id
  organizationId : Id
  ruleType : SuspensionRuleType
  conditionsMet : List (SuspensionConditionType × ℚ)
  actionTaken : SuspensionActionTaken
  groupResults : List Bool
  deriving DecidableEq, Repr

/-- The tables. -/
structure Db where
  organizations : Table Organization.id
  users : Table User.id
  rules : Table SuspensionRuleSet.id
  suppressions : Table OrgSuspensionGlobalSuppression.key
  activity : List SuspensionActivity

/-- No rules yet. -/
def Db.initial (organizations : Table Organization.id) (users : Table User.id) : Db :=
  ⟨organizations, users, .empty, .empty, []⟩

/-- What is not under the control of the service: how an identifier is written. -/
structure Env where
  idText : Id → String

/-! ### Lookups -/

namespace Db

variable (db : Db)

/-- `get_by_id_or_404`. -/
def getByIdOr404 (ruleSetId : Id) : Except ServiceError SuspensionRuleSet :=
  orRaise (db.rules.find? ruleSetId) (.notFound "suspension_rule_sets" (some ruleSetId))

/-- What `_validate_scope` asks of a scope. -/
def checkScope : RuleScope → Except ServiceError Unit
  | .global => .ok ()
  | .org organizationId => raiseIf (db.organizations.find? organizationId = none)
      (invalid "scope_org_id references a non-existent organization")

/-- `_validate_scope`. -/
def validateScope (scopeType : RuleScopeType) (scopeOrgId : Option Id) :
    Except ServiceError RuleScope := do
  let scope ← match scopeType, scopeOrgId with
    | .global, none => .ok RuleScope.global
    | .global, some _ => .error (invalid "scope_org_id must be null for GLOBAL rules")
    | .org, none => .error (invalid "scope_org_id is required when scope_type=ORG")
    | .org, some organizationId => .ok (.org organizationId)
  db.checkScope scope
  return scope

/-- `_validate_parent_global_link`. -/
def validateParentGlobalLink (scope : RuleScope) (ruleType : SuspensionRuleType) :
    Option Id → Except ServiceError Unit
  | none => .ok ()
  | some parentId => do
      raiseIf (scope = .global)
        (invalid "parent_global_rule_set_id is only allowed for ORG-scoped rules.")
      let parent ← db.getByIdOr404 parentId
      raiseIf (parent.scope ≠ .global)
        (invalid "parent_global_rule_set_id must reference a GLOBAL rule set.")
      raiseIf (ruleType ≠ parent.ruleType)
        (invalid "Customised rule must keep the same rule_type as its parent global rule.")

/-- A rule other than `ruleSetId` has the name. -/
def nameTaken (name : String) (ruleSetId : Option Id) : Bool :=
  db.rules.rows.any fun row => row.name = name && some row.id ≠ ruleSetId

end Db

/-- The later of two rules comes first: `ORDER BY updated_at DESC, created_at DESC`. -/
def SuspensionRuleSet.NewerFirst (r r' : SuspensionRuleSet) : Prop :=
  r'.updatedAt < r.updatedAt ∨ (r'.updatedAt = r.updatedAt ∧ r'.createdAt ≤ r.createdAt)

instance : DecidableRel SuspensionRuleSet.NewerFirst :=
  fun _ _ => inferInstanceAs (Decidable (_ ∨ _))

/-- The rules, the latest first. -/
def newestFirst (rules : List SuspensionRuleSet) : List SuspensionRuleSet :=
  rules.insertionSort SuspensionRuleSet.NewerFirst

namespace Db

variable (db : Db)

/-- `find_latest_by_scope_and_type`, of the rules of an organisation. -/
def findLatest (organizationId : Id) (ruleType : SuspensionRuleType) : Option SuspensionRuleSet :=
  (newestFirst (db.rules.rows.filter fun row =>
    row.scope = .org organizationId && row.ruleType = ruleType)).head?

/-- `find_active_customised_by_parent`. -/
def findActiveCustomised (organizationId globalRuleSetId : Id) : Option SuspensionRuleSet :=
  (newestFirst (db.rules.rows.filter fun row =>
    row.scope = .org organizationId && row.parentGlobalRuleSetId = some globalRuleSetId &&
      row.status = .active)).head?

/-- `global_ids_suppressed_for_org` has the rule. -/
def optedOut (organizationId globalRuleSetId : Id) : Bool :=
  (db.suppressions.find? (organizationId, globalRuleSetId)).isSome

end Db

/-! ### Views -/

/-- What kind of rule it is for the organisation. -/
inductive RuleKind where
  | default | customised | new
  deriving DecidableEq, Repr

/-- A rule as a view shows it. -/
structure ResolvedRule where
  ruleSet : SuspensionRuleSet
  isOverride : Bool
  sourceScopeType : RuleScopeType
  sourceRuleSetId : Id
  globalRuleSetId : Option Id
  ruleKind : RuleKind
  deriving DecidableEq, Repr

/-- A global rule in a view. -/
def asDefault (rule : SuspensionRuleSet) : ResolvedRule :=
  ⟨rule, false, .global, rule.id, some rule.id, .default⟩

/-- A rule that customises a global one, in a view. -/
def asCustomised (rule : SuspensionRuleSet) : ResolvedRule :=
  ⟨rule, true, .org, rule.id, rule.parentGlobalRuleSetId, .customised⟩

/-- A rule without a parent, in a view. -/
def asNew (rule : SuspensionRuleSet) : ResolvedRule :=
  ⟨rule, true, .org, rule.id, none, .new⟩

/-- The rules of one type split up: the global ones, and those of the organisation with and
without a parent, the latest first. -/
def globalRules (rules : List SuspensionRuleSet) : List SuspensionRuleSet :=
  newestFirst (rules.filter fun rule => rule.scope = .global)

@[inherit_doc globalRules]
def customisedRules (organizationId : Id) (rules : List SuspensionRuleSet) :
    List SuspensionRuleSet :=
  newestFirst ((rules.filter fun rule => rule.scope = .org organizationId).filter fun rule =>
    rule.parentGlobalRuleSetId.isSome)

@[inherit_doc globalRules]
def newRules (organizationId : Id) (rules : List SuspensionRuleSet) : List SuspensionRuleSet :=
  newestFirst ((rules.filter fun rule => rule.scope = .org organizationId).filter fun rule =>
    rule.parentGlobalRuleSetId.isNone)

/-- The rules of one type in `_effective_rule_sets_with_source_for_org`, all of them active. -/
def Db.effectiveOfType (db : Db) (organizationId : Id) (rules : List SuspensionRuleSet) :
    List ResolvedRule :=
  let customised := customisedRules organizationId rules
  let suppressedGlobalIds := customised.filterMap (·.parentGlobalRuleSetId)
  let visibleGlobals := ((globalRules rules).filter fun rule =>
    rule.id ∉ suppressedGlobalIds).filter fun rule => !db.optedOut organizationId rule.id
  visibleGlobals.map asDefault ++ customised.map asCustomised ++
    (newRules organizationId rules).map asNew

/-- `_effective_rule_sets_with_source_for_org`. -/
def Db.effectiveRuleSets (db : Db) (organizationId : Id) : List ResolvedRule :=
  let rules := db.rules.rows.filter fun rule => rule.status = .active
  (Grouping.keys (·.ruleType) rules).flatMap fun ruleType =>
    db.effectiveOfType organizationId (Grouping.group (·.ruleType) rules ruleType)

/-- `_ensure_unique_condition_types`: the first type that was seen before is reported. -/
def ensureUniqueConditionTypes (seen : List SuspensionConditionType) :
    List SuspensionRuleCondition → Except ServiceError Unit
  | [] => .ok ()
  | cond :: conditions => do
      raiseIf (cond.conditionType ∈ seen)
        (invalid ("Condition `" ++ cond.conditionType.value ++ "` can only appear once per rule."))
      ensureUniqueConditionTypes (cond.conditionType :: seen) conditions

/-- The conditions of a rule are replaced; no two of them have one position. -/
def checkPositions (conditions : List SuspensionRuleCondition) : Except ServiceError Unit :=
  raiseIf (¬ (conditions.map (·.position)).Nodup)
    (.integrity "uq_susp_rule_cond_unique_position_per_rule")

/-- The payload of `create_rule_set`. -/
structure RuleSetPayload where
  name : String
  conditionSummary : Option String
  scopeType : RuleScopeType
  scopeOrgId : Option Id
  parentGlobalRuleSetId : Option Id
  ruleType : SuspensionRuleType
  status : SuspensionRuleStatus
  notes : Option String
  autoSuspensionEnabled : Bool
  pauseNewBookings : Bool
  restrictPortalLogin : Bool
  notifyFinanceTeam : Bool
  notifyAccountManager : Bool
  deriving DecidableEq, Repr

/-- The payload of the other operations: what it does not mention is not there. -/
structure RuleSetChanges where
  name : Option String
  conditionSummary : Option String
  status : Option SuspensionRuleStatus
  notes : Option String
  autoSuspensionEnabled : Option Bool
  pauseNewBookings : Option Bool
  restrictPortalLogin : Option Bool
  notifyFinanceTeam : Option Bool
  notifyAccountManager : Option Bool
  deriving DecidableEq, Repr

/-- `{"status": status}`. -/
def RuleSetChanges.ofStatus (status : SuspensionRuleStatus) : RuleSetChanges :=
  ⟨none, none, some status, none, none, none, none, none, none⟩

/-- The columns of a rule are set, and the conditions if there are new ones; its version counts
up. -/
def SuspensionRuleSet.changed (now : Instant) (changes : RuleSetChanges)
    (conditions : Option (List SuspensionRuleCondition)) (row : SuspensionRuleSet) :
    SuspensionRuleSet :=
  { row with
    name := changes.name.getD row.name
    conditionSummary := changes.conditionSummary.or row.conditionSummary
    status := changes.status.getD row.status
    notes := changes.notes.or row.notes
    autoSuspensionEnabled := changes.autoSuspensionEnabled.getD row.autoSuspensionEnabled
    pauseNewBookings := changes.pauseNewBookings.getD row.pauseNewBookings
    restrictPortalLogin := changes.restrictPortalLogin.getD row.restrictPortalLogin
    notifyFinanceTeam := changes.notifyFinanceTeam.getD row.notifyFinanceTeam
    notifyAccountManager := changes.notifyAccountManager.getD row.notifyAccountManager
    conditions := conditions.getD row.conditions
    updatedAt := now
    version := row.version + 1 }

/-- The row that `create_rule_set` adds. -/
def RuleSetPayload.row (payload : RuleSetPayload) (ruleSetId : Id) (scope : RuleScope)
    (conditions : List SuspensionRuleCondition) (now : Instant) : SuspensionRuleSet where
  id := ruleSetId
  name := payload.name
  conditionSummary := payload.conditionSummary
  scope := scope
  parentGlobalRuleSetId := payload.parentGlobalRuleSetId
  ruleType := payload.ruleType
  status := payload.status
  notes := payload.notes
  autoSuspensionEnabled := payload.autoSuspensionEnabled
  pauseNewBookings := payload.pauseNewBookings
  restrictPortalLogin := payload.restrictPortalLogin
  notifyFinanceTeam := payload.notifyFinanceTeam
  notifyAccountManager := payload.notifyAccountManager
  conditions := conditions
  createdAt := now
  updatedAt := now
  version := 1

/-- `create_rule_set`. -/
def createRuleSet (db : Db) (now : Instant) (payload : RuleSetPayload)
    (conditions : List SuspensionRuleCondition) : Except ServiceError Db := do
  let scope ← db.validateScope payload.scopeType payload.scopeOrgId
  db.validateParentGlobalLink scope payload.ruleType payload.parentGlobalRuleSetId
  ensureUniqueConditionTypes [] conditions
  raiseIf (db.nameTaken payload.name none = true) (.integrity "uq_susp_rule_sets_name")
  checkPositions conditions
  return { db with
    rules := db.rules.insert (payload.row db.rules.fresh scope conditions now) }

/-- A rule is rewritten. -/
def Db.changeRuleSet (db : Db) (now : Instant) (ruleSetId : Id) (changes : RuleSetChanges)
    (conditions : Option (List SuspensionRuleCondition)) : Db :=
  { db with
    rules := db.rules.modify ruleSetId (·.changed now changes conditions) fun _ => rfl }

/-- `update_rule_set`. -/
def updateRuleSet (db : Db) (now : Instant) (ruleSetId : Id) (changes : RuleSetChanges)
    (conditions : Option (List SuspensionRuleCondition)) (expectedVersion : Option ℤ) :
    Except ServiceError Db := do
  let existing ← db.getByIdOr404 ruleSetId
  db.checkScope existing.scope
  ensureUniqueConditionTypes [] (conditions.getD [])
  raiseIf (expectedVersion.any (· ≠ existing.version) = true)
    (modifiedElsewhere "suspension_rule_sets")
  raiseIf (changes.name.any (db.nameTaken · (some ruleSetId)) = true)
    (.integrity "uq_susp_rule_sets_name")
  checkPositions (conditions.getD [])
  return db.changeRuleSet now ruleSetId changes conditions

/-- `f"{base_name[: max(1, 255 - len(suffix))]}{suffix}"`. -/
def numberedName (baseName : String) (counter : ℕ) : String :=
  let suffix := "-" ++ toString counter
  String.ofList (baseName.toList.take (max 1 (255 - suffix.length))) ++ suffix

/-- The names that are tried when none was asked for, of which the first that is free is taken.
As many as there are rules, and two, are enough. -/
def Db.freeName (db : Db) (baseName : String) : String :=
  let names := String.ofList (baseName.toList.take 255) ::
    (List.range (db.rules.rows.length + 1)).map fun i => numberedName baseName (i + 2)
  (names.find? fun name => !db.nameTaken name none).getD baseName

/-- The name that was asked for, or one made of the base name. -/
def Db.resolveName (db : Db) (requestedName : Option String) (baseName : String) : String :=
  match requestedName with
  | none => db.freeName baseName
  | some name => if name = "" then db.freeName baseName else name

/-- `f"{name.strip()}-org-{organization_id[:8]}"`. -/
def orgName (env : Env) (name : String) (organizationId : Id) : String :=
  strip name ++ "-org-" ++ String.ofList ((env.idText organizationId).toList.take 8)

/-- A rule like the global one, but for the changes. -/
def customisedPayload (name : String) (organizationId : Id) (parent : Option Id)
    (ruleType : SuspensionRuleType) (changes : RuleSetChanges) (source : Option SuspensionRuleSet) :
    RuleSetPayload where
  name := name
  conditionSummary := changes.conditionSummary.or (source.bind (·.conditionSummary))
  scopeType := .org
  scopeOrgId := some organizationId
  parentGlobalRuleSetId := parent
  ruleType := ruleType
  status := changes.status.getD ((source.map (·.status)).getD .active)
  notes := changes.notes.or (source.bind (·.notes))
  autoSuspensionEnabled :=
    changes.autoSuspensionEnabled.getD ((source.map (·.autoSuspensionEnabled)).getD false)
  pauseNewBookings := changes.pauseNewBookings.getD ((source.map (·.pauseNewBookings)).getD false)
  restrictPortalLogin :=
    changes.restrictPortalLogin.getD ((source.map (·.restrictPortalLogin)).getD false)
  notifyFinanceTeam :=
    changes.notifyFinanceTeam.getD ((source.map (·.notifyFinanceTeam)).getD false)
  notifyAccountManager :=
    changes.notifyAccountManager.getD ((source.map (·.notifyAccountManager)).getD false)

/-- The conditions of a rule in their order. -/
def SuspensionRuleSet.sortedConditions (rule : SuspensionRuleSet) :
    List SuspensionRuleCondition :=
  rule.conditions.insertionSort fun c c' => c.position ≤ c'.position

/-- `create_customised_rule_from_global`. -/
def createCustomisedRuleFromGlobal (env : Env) (db : Db) (now : Instant)
    (organizationId globalRuleSetId : Id) (changes : RuleSetChanges)
    (conditions : Option (List SuspensionRuleCondition)) : Except ServiceError Db := do
  let _ ← db.validateScope .org (some organizationId)
  let globalRule ← db.getByIdOr404 globalRuleSetId
  raiseIf (globalRule.scope ≠ .global)
    (invalid "global_rule_set_id must reference a GLOBAL rule set.")
  raiseIf ((db.findActiveCustomised organizationId globalRuleSetId).isSome = true) (.conflict
    "An active customised rule already exists for this global rule and organization.")
  let name := db.resolveName changes.name (orgName env globalRule.name organizationId)
  let conditions := conditions.getD globalRule.sortedConditions
  raiseIf (conditions = []) (invalid "conditions are required to create a customised rule.")
  createRuleSet db now (customisedPayload name organizationId (some globalRule.id)
    globalRule.ruleType changes (some globalRule)) conditions

/-- `set_org_rule_status`. -/
def setOrgRuleStatus (db : Db) (now : Instant) (organizationId ruleSetId : Id)
    (status : SuspensionRuleStatus) (expectedVersion : Option ℤ) : Except ServiceError Db := do
  let row ← db.getByIdOr404 ruleSetId
  raiseIf (row.scope ≠ .org organizationId)
    (invalid "Only ORG-scoped rules for this organization can be toggled.")
  updateRuleSet db now ruleSetId (.ofStatus status) none expectedVersion

/-- The rule has no parent any more if it was the given one. -/
def SuspensionRuleSet.orphaned (ruleSetId : Id) (row : SuspensionRuleSet) : SuspensionRuleSet :=
  { row with parentGlobalRuleSetId := row.parentGlobalRuleSetId.filter (· ≠ ruleSetId) }

/-- A rule is deleted: its children lose their parent, and opt-outs go with it. -/
def Db.removeRuleSet (db : Db) (ruleSetId : Id) : Db :=
  { db with
    rules := (db.rules.deleteWhere fun row => row.id = ruleSetId).mapRows (·.orphaned ruleSetId)
      fun _ => rfl
    suppressions := db.suppressions.deleteWhere fun row => row.globalRuleSetId = ruleSetId }

/-- `hard_delete`; a rule that has fired stays. -/
def hardDelete (db : Db) (ruleSetId : Id) : Except ServiceError Db := do
  let _ ← db.getByIdOr404 ruleSetId
  raiseIf (db.activity.any (·.ruleSetId = ruleSetId) = true)
    (.integrity "fk_suspension_activity_rule_set_id")
  return db.removeRuleSet ruleSetId

/-- `restore_default_for_customised_rule`. -/
def restoreDefault (db : Db) (organizationId ruleSetId : Id) (expectedVersion : Option ℤ) :
    Except ServiceError Db := do
  let row ← db.getByIdOr404 ruleSetId
  raiseIf (row.scope ≠ .org organizationId)
    (invalid "restore-default is only allowed for ORG-scoped rules in this organization.")
  let parentId ← orRaise row.parentGlobalRuleSetId
    (invalid "Only customised rules can be restored to default.")
  let parent ← db.getByIdOr404 parentId
  raiseIf (parent.scope ≠ .global) (invalid "Linked parent default rule is invalid.")
  raiseIf (expectedVersion.any (· ≠ row.version) = true) (modifiedElsewhere "suspension_rule_sets")
  hardDelete db ruleSetId

/-- `set_org_global_suppression`. -/
def setOrgGlobalSuppression (db : Db) (organizationId globalRuleSetId : Id) (suppressed : Bool) :
    Except ServiceError Db := do
  let _ ← db.validateScope .org (some organizationId)
  let globalRule ← db.getByIdOr404 globalRuleSetId
  raiseIf (globalRule.scope ≠ .global)
    (invalid "global_rule_set_id must reference a GLOBAL rule set.")
  return { db with
    suppressions :=
      if suppressed then db.suppressions.insert ⟨organizationId, globalRuleSetId⟩
      else db.suppressions.deleteWhere fun row => row.key = (organizationId, globalRuleSetId) }

/-- The rule that an override starts from: of those that count the latest of the type. -/
def Db.overrideSource (db : Db) (organizationId : Id) (ruleType : SuspensionRuleType) :
    Option SuspensionRuleSet :=
  (newestFirst (((db.effectiveRuleSets organizationId).map (·.ruleSet)).filter fun rule =>
    rule.ruleType = ruleType)).head?

/-- `upsert_org_rule_override`; a version that is out of date is not minded. -/
def upsertOrgRuleOverride (env : Env) (db : Db) (now : Instant) (organizationId : Id)
    (ruleType : SuspensionRuleType) (changes : RuleSetChanges)
    (conditions : Option (List SuspensionRuleCondition)) (expectedVersion : Option ℤ) :
    Except ServiceError Db := do
  let _ ← db.validateScope .org (some organizationId)
  match db.findLatest organizationId ruleType with
  | some existing =>
      match updateRuleSet db now existing.id changes conditions expectedVersion with
      | .error (.conflict _) => updateRuleSet db now existing.id changes conditions none
      | result => result
  | none =>
      let source := db.overrideSource organizationId ruleType
      let baseName := (source.map (·.name)).getD (ruleType.value ++ "-org-rule")
      let name := db.resolveName changes.name (orgName env baseName organizationId)
      let parent := (source.filter (·.scope = .global)).map (·.id)
      let conditions := conditions.getD ((source.map (·.sortedConditions)).getD [])
      raiseIf (conditions = [])
        (invalid "conditions are required when no source rule exists for this rule_type")
      createRuleSet db now (customisedPayload name organizationId parent ruleType changes source)
        conditions

/-- `delete_org_rule_override`; `find_one` raises when there are several. -/
def deleteOrgRuleOverride (env : Env) (db : Db) (organizationId : Id)
    (ruleType : SuspensionRuleType) : Except ServiceError Db :=
  match db.rules.rows.filter fun row =>
      row.scope = .org organizationId && row.ruleType = ruleType with
  | [] => .error (.notFound ("No override found for rule_type=" ++ ruleType.value ++
      " on organisation " ++ env.idText organizationId) none)
  | [existing] => hardDelete db existing.id
  | _ => .error (.uncaught "MultipleResultsFound")

/-- One request. -/
inductive Op where
  | createRuleSet (payload : RuleSetPayload) (conditions : List SuspensionRuleCondition)
  | updateRuleSet (ruleSetId : Id) (changes : RuleSetChanges)
      (conditions : Option (List SuspensionRuleCondition)) (expectedVersion : Option ℤ)
  | createCustomised (organizationId globalRuleSetId : Id) (changes : RuleSetChanges)
      (conditions : Option (List SuspensionRuleCondition))
  | setOrgRuleStatus (organizationId ruleSetId : Id) (status : SuspensionRuleStatus)
      (expectedVersion : Option ℤ)
  | restoreDefault (organizationId ruleSetId : Id) (expectedVersion : Option ℤ)
  | setOrgGlobalSuppression (organizationId globalRuleSetId : Id) (suppressed : Bool)
  | upsertOrgRuleOverride (organizationId : Id) (ruleType : SuspensionRuleType)
      (changes : RuleSetChanges) (conditions : Option (List SuspensionRuleCondition))
      (expectedVersion : Option ℤ)
  | deleteRuleSet (ruleSetId : Id)
  | deleteOrgRuleOverride (organizationId : Id) (ruleType : SuspensionRuleType)

/-- What the request makes of the store, or why it is refused. -/
def Op.run (env : Env) (now : Instant) (db : Db) : Op → Except ServiceError Db
  | .createRuleSet payload conditions =>
      -- The request has no parent.
      SuspensionRules.createRuleSet db now { payload with parentGlobalRuleSetId := none } conditions
  | .updateRuleSet id changes conditions expected =>
      SuspensionRules.updateRuleSet db now id changes conditions expected
  | .createCustomised org global changes conditions =>
      createCustomisedRuleFromGlobal env db now org global changes conditions
  | .setOrgRuleStatus org id status expected =>
      SuspensionRules.setOrgRuleStatus db now org id status expected
  | .restoreDefault org id expected => SuspensionRules.restoreDefault db org id expected
  | .setOrgGlobalSuppression org global suppressed =>
      SuspensionRules.setOrgGlobalSuppression db org global suppressed
  | .upsertOrgRuleOverride org ruleType changes conditions expected =>
      SuspensionRules.upsertOrgRuleOverride env db now org ruleType changes conditions expected
  | .deleteRuleSet id => hardDelete db id
  | .deleteOrgRuleOverride org ruleType =>
      SuspensionRules.deleteOrgRuleOverride env db org ruleType

/-- A request is committed, or rolled back when it raises. -/
def step (env : Env) (db : Db) (request : Instant × Op) : Db :=
  settle db (request.2.run env request.1 db)

end SwCouriers.SuspensionRules
