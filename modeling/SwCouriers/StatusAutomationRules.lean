import Mathlib.Data.List.Sort
import SwCouriers.Common
import SwCouriers.Lib.Table

/-!
# Status Automation Rules

The rules of `StatusAutomationRulesService`. A rule says which status an entity gets when it has
reached another one: it has a trigger, at most one condition on the time, and one action. As with
suspension rules there are global rules, and rules of an organisation, some of which customise a
global one.

## Main definitions

* `Db`: the organisations and the rules.
* `effectiveForOrg`: the rules that count for an organisation, in the order in which they are
  tried.
* `Op.run`: one request.
-/

namespace SwCouriers.StatusAutomationRules

open Checked

/-! ### Rows -/

/-- `StatusAutomationRuleStatus`. -/
inductive StatusAutomationRuleStatus where
  | active | inactive
  deriving DecidableEq, Repr

/-- `EntityType`. -/
inductive EntityType where
  | package | deliveryStop | bookingOrder
  deriving DecidableEq, Repr

/-- `TimingValue`. -/
inductive TimingValue where
  | afterPickup
  deriving DecidableEq, Repr

/-- Whose rule it is. -/
inductive RuleScope where
  | global
  | org (organizationId : Id)
  deriving DecidableEq, Repr

/-- `StatusAutomationTrigger`; the status is stored as a text. -/
structure StatusAutomationTrigger where
  entityType : EntityType
  statusValue : String
  deriving DecidableEq, Repr

/-- `StatusAutomationRuleSet`, with its trigger, its conditions and its actions, the last as the
texts of the new statuses. -/
structure StatusAutomationRuleSet where
  id : Id
  name : String
  scope : RuleScope
  parentGlobalRuleSetId : Option Id
  status : StatusAutomationRuleStatus
  priority : ℤ
  notes : Option String
  trigger : StatusAutomationTrigger
  conditions : List TimingValue
  actions : List String
  updatedAt : Instant
  version : ℤ
  deriving DecidableEq, Repr

/-- The organisations that exist, and the rules. -/
structure Db where
  organizations : Id → Bool
  rules : Table StatusAutomationRuleSet.id

/-- No rules yet. -/
def Db.initial (organizations : Id → Bool) : Db := ⟨organizations, .empty⟩

/-- What is not under the control of the service: how an identifier is written. -/
structure Env where
  idText : Id → String

/-! ### Checks -/

/-- `_validate_v2_graph`. -/
def validateGraph (trigger : StatusAutomationTrigger) (conditions : List TimingValue)
    (actions : List String) : Except ServiceError Unit := do
  raiseIf (actions.length ≠ 1) (invalid "Exactly one THEN status action is required.")
  raiseIf (1 < conditions.length) (invalid "At most one timing condition is allowed.")
  raiseIf (trigger.statusValue = "CANCELLED" ∧ conditions = [])
    (invalid "Timing is required when IF status is CANCELLED.")
  raiseIf (trigger.statusValue ≠ "CANCELLED" ∧ conditions ≠ [])
    (invalid "Timing is only allowed when IF status is CANCELLED.")
  raiseIf (conditions.head?.any (· ≠ .afterPickup) = true)
    (invalid "Timing must be AFTER_PICKUP.")

namespace Db

variable (db : Db)

/-- `_validate_org`. -/
def validateOrg (organizationId : Id) : Except ServiceError Unit :=
  raiseIf (db.organizations organizationId = false) (.notFound "organization" (some organizationId))

/-- `get_by_id_or_404`. -/
def getByIdOr404 (ruleSetId : Id) : Except ServiceError StatusAutomationRuleSet :=
  orRaise (db.rules.find? ruleSetId) (.notFound "status_automation_rule_sets" (some ruleSetId))

/-- An organisation has another rule of the name. The database does not compare global rules,
since they have no organisation. -/
def nameTaken (scope : RuleScope) (name : String) (ruleSetId : Option Id) : Bool :=
  scope ≠ .global &&
    db.rules.rows.any fun row => row.scope = scope && row.name = name && some row.id ≠ ruleSetId

/-- `find_active_customised_by_parent`. -/
def findActiveCustomised (organizationId globalRuleSetId : Id) :
    Except ServiceError (Option StatusAutomationRuleSet) :=
  match db.rules.rows.filter fun row => row.scope = .org organizationId &&
      row.parentGlobalRuleSetId = some globalRuleSetId && row.status = .active with
  | [] => .ok none
  | [row] => .ok (some row)
  | _ => .error (.uncaught "MultipleResultsFound")

end Db

/-- The columns that a check of the database looks at. -/
def checkPriority (priority : ℤ) : Except ServiceError Unit :=
  raiseIf (¬ (0 ≤ priority ∧ priority ≤ 1000)) (.integrity "ck_status_auto_priority_range")

/-! ### The rules that count -/

/-- The rule is tried before the other one:
`sorted(…, key=lambda r: (r.priority, r.updated_at, r.id), reverse=True)`. -/
def StatusAutomationRuleSet.Before (r r' : StatusAutomationRuleSet) : Prop :=
  r'.priority < r.priority ∨ (r'.priority = r.priority ∧
    (r'.updatedAt < r.updatedAt ∨ (r'.updatedAt = r.updatedAt ∧ r'.id ≤ r.id)))

instance : DecidableRel StatusAutomationRuleSet.Before :=
  fun _ _ => inferInstanceAs (Decidable (_ ∨ _))

/-- `get_effective_for_org`. -/
def Db.effectiveForOrg (db : Db) (organizationId : Id) :
    Except ServiceError (List StatusAutomationRuleSet) := do
  db.validateOrg organizationId
  let rows := db.rules.rows.filter fun row => row.status = .active
  let globals := rows.filter fun row => row.scope = .global
  let orgRows := rows.filter fun row => row.scope = .org organizationId
  let hiddenGlobalIds := orgRows.filterMap (·.parentGlobalRuleSetId)
  let visibleGlobals := globals.filter fun row => row.id ∉ hiddenGlobalIds
  return (visibleGlobals ++ orgRows).insertionSort StatusAutomationRuleSet.Before

/-! ### Writes -/

/-- The payload of `create_rule_set`. -/
structure RuleSetPayload where
  name : String
  scope : RuleScope
  parentGlobalRuleSetId : Option Id
  status : StatusAutomationRuleStatus
  priority : ℤ
  notes : Option String
  deriving DecidableEq, Repr

/-- The payload of the other operations: what it does not mention is not there. -/
structure RuleSetChanges where
  name : Option String
  status : Option StatusAutomationRuleStatus
  priority : Option ℤ
  notes : Option String
  deriving DecidableEq, Repr

/-- The parts of a rule that are stored in rows of their own, as far as a request has them. -/
structure GraphChanges where
  trigger : Option StatusAutomationTrigger
  conditions : Option (List TimingValue)
  actions : Option (List String)
  deriving DecidableEq, Repr

/-- `{"status": status}`. -/
def RuleSetChanges.ofStatus (status : StatusAutomationRuleStatus) : RuleSetChanges :=
  ⟨none, some status, none, none⟩

/-- The request changes no part. -/
def GraphChanges.none : GraphChanges := ⟨.none, .none, .none⟩

/-- The columns of a rule and its parts are set, and its version counts up. -/
def StatusAutomationRuleSet.changed (now : Instant) (changes : RuleSetChanges)
    (graph : GraphChanges) (row : StatusAutomationRuleSet) : StatusAutomationRuleSet :=
  { row with
    name := changes.name.getD row.name
    status := changes.status.getD row.status
    priority := changes.priority.getD row.priority
    notes := changes.notes.or row.notes
    trigger := graph.trigger.getD row.trigger
    conditions := graph.conditions.getD row.conditions
    actions := graph.actions.getD row.actions
    updatedAt := now
    version := row.version + 1 }

/-- The row that `create_rule_set` adds. -/
def RuleSetPayload.row (payload : RuleSetPayload) (ruleSetId : Id)
    (trigger : StatusAutomationTrigger) (conditions : List TimingValue) (actions : List String)
    (now : Instant) : StatusAutomationRuleSet where
  id := ruleSetId
  name := payload.name
  scope := payload.scope
  parentGlobalRuleSetId := payload.parentGlobalRuleSetId
  status := payload.status
  priority := payload.priority
  notes := payload.notes
  trigger := trigger
  conditions := conditions
  actions := actions
  updatedAt := now
  version := 1

/-- What `create_rule_set` asks of the organisation. -/
def Db.validateScope (db : Db) : RuleScope → Except ServiceError Unit
  | .global => .ok ()
  | .org organizationId => db.validateOrg organizationId

/-- What `create_rule_set` asks of the parent. -/
def Db.validateParent (db : Db) : Option Id → Except ServiceError Unit
  | none => .ok ()
  | some parentId => do
      let parent ← db.getByIdOr404 parentId
      raiseIf (parent.scope ≠ .global)
        (invalid "parent_global_rule_set_id must reference a GLOBAL rule.")

/-- `create_rule_set`. -/
def createRuleSet (db : Db) (now : Instant) (payload : RuleSetPayload)
    (trigger : StatusAutomationTrigger) (conditions : List TimingValue) (actions : List String) :
    Except ServiceError Db := do
  validateGraph trigger conditions actions
  db.validateScope payload.scope
  db.validateParent payload.parentGlobalRuleSetId
  checkPriority payload.priority
  raiseIf (db.nameTaken payload.scope payload.name none = true)
    (.integrity "uq_status_auto_scope_name")
  return { db with
    rules := db.rules.insert (payload.row db.rules.fresh trigger conditions actions now) }

/-- A rule is rewritten. -/
def Db.changeRuleSet (db : Db) (now : Instant) (ruleSetId : Id) (changes : RuleSetChanges)
    (graph : GraphChanges) : Db :=
  { db with rules := db.rules.modify ruleSetId (·.changed now changes graph) fun _ => rfl }

/-- `update_by_id`. -/
def updateById (db : Db) (now : Instant) (ruleSetId : Id) (changes : RuleSetChanges)
    (graph : GraphChanges) (expectedVersion : Option ℤ) : Except ServiceError Db := do
  let row ← db.getByIdOr404 ruleSetId
  raiseIf (expectedVersion.any (· ≠ row.version) = true)
    (modifiedElsewhere "status_automation_rule_sets")
  checkPriority (changes.priority.getD row.priority)
  raiseIf (changes.name.any (db.nameTaken row.scope · (some ruleSetId)) = true)
    (.integrity "uq_status_auto_scope_name")
  return db.changeRuleSet now ruleSetId changes graph

/-- `update_rule_set`. -/
def updateRuleSet (db : Db) (now : Instant) (ruleSetId : Id) (changes : RuleSetChanges)
    (graph : GraphChanges) (expectedVersion : Option ℤ) : Except ServiceError Db := do
  let existing ← db.getByIdOr404 ruleSetId
  validateGraph (graph.trigger.getD existing.trigger)
    (graph.conditions.getD existing.conditions) (graph.actions.getD existing.actions)
  updateById db now ruleSetId changes graph expectedVersion

/-- `set_rule_status`. -/
def setRuleStatus (db : Db) (now : Instant) (ruleSetId : Id)
    (status : StatusAutomationRuleStatus) (expectedVersion : Option ℤ) : Except ServiceError Db :=
  updateById db now ruleSetId (.ofStatus status) .none expectedVersion

/-- The rule has no parent any more if it was the given one. -/
def StatusAutomationRuleSet.orphaned (ruleSetId : Id) (row : StatusAutomationRuleSet) :
    StatusAutomationRuleSet :=
  { row with parentGlobalRuleSetId := row.parentGlobalRuleSetId.filter (· ≠ ruleSetId) }

/-- A rule is deleted: its children lose their parent. -/
def Db.removeRuleSet (db : Db) (ruleSetId : Id) : Db :=
  { db with
    rules := (db.rules.deleteWhere fun row => row.id = ruleSetId).mapRows (·.orphaned ruleSetId)
      fun _ => rfl }

/-- `delete_rule_set`. -/
def deleteRuleSet (db : Db) (ruleSetId : Id) : Except ServiceError Db := do
  let _ ← db.getByIdOr404 ruleSetId
  return db.removeRuleSet ruleSetId

/-- `payload.get("name") or f"{global_rule.name}-org-{org_id[:8]}"`. -/
def customisedName (env : Env) (requestedName : Option String) (globalName : String)
    (organizationId : Id) : String :=
  let default := globalName ++ "-org-" ++
    String.ofList ((env.idText organizationId).toList.take 8)
  match requestedName with
  | none => default
  | some name => if name = "" then default else name

/-- `create_customised_from_global`. -/
def createCustomisedFromGlobal (env : Env) (db : Db) (now : Instant)
    (organizationId globalRuleSetId : Id) (changes : RuleSetChanges) (graph : GraphChanges) :
    Except ServiceError Db := do
  db.validateOrg organizationId
  let globalRule ← db.getByIdOr404 globalRuleSetId
  raiseIf (globalRule.scope ≠ .global) (invalid "Only GLOBAL rules can be customised.")
  let existing ← db.findActiveCustomised organizationId globalRuleSetId
  raiseIf (existing.isSome = true)
    (.conflict "An active customised rule already exists for this default.")
  createRuleSet db now
    { name := customisedName env changes.name globalRule.name organizationId
      scope := .org organizationId
      parentGlobalRuleSetId := some globalRuleSetId
      status := changes.status.getD globalRule.status
      priority := changes.priority.getD globalRule.priority
      notes := changes.notes.or globalRule.notes }
    (graph.trigger.getD globalRule.trigger) (graph.conditions.getD globalRule.conditions)
    (graph.actions.getD globalRule.actions)

/-- `restore_default_for_customised`. -/
def restoreDefault (db : Db) (organizationId ruleSetId : Id) (expectedVersion : Option ℤ) :
    Except ServiceError Db := do
  let row ← db.getByIdOr404 ruleSetId
  raiseIf (row.scope ≠ .org organizationId)
    (invalid "restore-default only applies to org scoped rules in this organisation.")
  let parentId ← orRaise row.parentGlobalRuleSetId
    (invalid "Only CUSTOMISED rules can be restored to default.")
  raiseIf (expectedVersion.any (· ≠ row.version) = true)
    (modifiedElsewhere "status_automation_rule_sets")
  let parent ← db.getByIdOr404 parentId
  raiseIf (parent.scope ≠ .global) (invalid "Linked parent default rule is invalid.")
  deleteRuleSet db ruleSetId

/-- One request. -/
inductive Op where
  | createRuleSet (payload : RuleSetPayload) (trigger : StatusAutomationTrigger)
      (conditions : List TimingValue) (actions : List String)
  | updateRuleSet (ruleSetId : Id) (changes : RuleSetChanges) (graph : GraphChanges)
      (expectedVersion : Option ℤ)
  | setRuleStatus (ruleSetId : Id) (status : StatusAutomationRuleStatus)
      (expectedVersion : Option ℤ)
  | createCustomised (organizationId globalRuleSetId : Id) (changes : RuleSetChanges)
      (graph : GraphChanges)
  | restoreDefault (organizationId ruleSetId : Id) (expectedVersion : Option ℤ)
  | deleteRuleSet (ruleSetId : Id)

/-- What the request makes of the store, or why it is refused. -/
def Op.run (env : Env) (now : Instant) (db : Db) : Op → Except ServiceError Db
  | .createRuleSet payload trigger conditions actions =>
      -- The request has no parent.
      StatusAutomationRules.createRuleSet db now { payload with parentGlobalRuleSetId := none }
        trigger conditions actions
  | .updateRuleSet id changes graph expected =>
      StatusAutomationRules.updateRuleSet db now id changes graph expected
  | .setRuleStatus id status expected =>
      StatusAutomationRules.setRuleStatus db now id status expected
  | .createCustomised org global changes graph =>
      createCustomisedFromGlobal env db now org global changes graph
  | .restoreDefault org id expected => StatusAutomationRules.restoreDefault db org id expected
  | .deleteRuleSet id => StatusAutomationRules.deleteRuleSet db id

/-- A request is committed, or rolled back when it raises. -/
def step (env : Env) (db : Db) (request : Instant × Op) : Db :=
  settle db (request.2.run env request.1 db)

end SwCouriers.StatusAutomationRules
