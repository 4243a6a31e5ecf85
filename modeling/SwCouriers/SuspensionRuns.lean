import SwCouriers.Lib.Double
import SwCouriers.RuleOverlay

/-!
# Daily Suspension Runs

`run_daily_suspension_job` evaluates the rules that count for each organisation, as the overlay
lists them, on the metrics of the day, and acts on those that fire: they suspend the organisation
or put it on hold, and suspend its users. It looks at active organisations only. So the first day
on which a rule acts decides: an organisation that is on hold is not suspended by a later one.

How the metrics come about is not part of the model: each run has its own. They are doubles, and
a threshold is compared as the double next to it. Notifications and the counters of a run are left
out.

## Main results

* `evaluateOrganization_spec`: what an evaluation does to its organisation, and to others.
* `firing_rules_enforced`: what a run does, after any runs before it.
* `restriction_after_hold`: a rule that fires and is not enforced.
-/

namespace SwCouriers.SuspensionRules

/-- What `_build_metrics` has for an organisation, as far as it has something. -/
abbrev Metrics := SuspensionConditionType → Option ℚ

/-! ### Evaluation -/

/-- `metric_value`. -/
def SuspensionRuleCondition.metricValue (metrics : Metrics) (cond : SuspensionRuleCondition) : ℚ :=
  (metrics cond.conditionType).getD 0

/-- `condition_ok`: the metric reaches the threshold, which `float` converts. -/
def SuspensionRuleCondition.okBy (float : ℚ → ℚ) (metrics : Metrics)
    (cond : SuspensionRuleCondition) : Bool :=
  float (cond.thresholdValue / 100) ≤ cond.metricValue metrics

/-- The groups of conditions that are complete, and the one that is not. -/
structure Groups where
  groupResults : List Bool
  currentGroupResult : Bool

/-- A condition after the first one. -/
def Groups.nextBy (float : ℚ → ℚ) (metrics : Metrics) (groups : Groups)
    (cond : SuspensionRuleCondition) : Groups :=
  match cond.connector.getD .none with
  | .none => { groups with currentGroupResult := cond.okBy float metrics }
  | .and =>
      { groups with currentGroupResult := groups.currentGroupResult && cond.okBy float metrics }
  | .or => ⟨groups.groupResults ++ [groups.currentGroupResult], cond.okBy float metrics⟩

/-- `group_results`, for any reading of the thresholds. -/
def SuspensionRuleSet.groupResultsBy (float : ℚ → ℚ) (metrics : Metrics)
    (rule : SuspensionRuleSet) : List Bool :=
  match rule.sortedConditions with
  | [] => []
  | cond :: conditions =>
      let groups := conditions.foldl (Groups.nextBy float metrics) ⟨[], cond.okBy float metrics⟩
      groups.groupResults ++ [groups.currentGroupResult]

/-- `final_result`, for any reading of the thresholds; a rule without conditions does not fire. -/
def SuspensionRuleSet.firesBy (float : ℚ → ℚ) (metrics : Metrics) (rule : SuspensionRuleSet) :
    Bool :=
  (rule.groupResultsBy float metrics).any fun result => result

/-- `group_results`: a threshold is the double next to it. -/
def SuspensionRuleSet.groupResults (metrics : Metrics) (rule : SuspensionRuleSet) : List Bool :=
  rule.groupResultsBy Double.round metrics

/-- `final_result`. -/
def SuspensionRuleSet.fires (metrics : Metrics) (rule : SuspensionRuleSet) : Bool :=
  rule.firesBy Double.round metrics

/-- `RuleDecision`. -/
structure RuleDecision where
  ruleSetId : Id
  organizationId : Id
  applyUserSuspension : Bool
  blockNewBookings : Bool
  blockPortalLogin : Bool
  conditionsMet : List (SuspensionConditionType × ℚ)
  groupResults : List Bool
  ruleType : SuspensionRuleType
  ruleName : String

/-- The decision on a rule that fires. -/
def SuspensionRuleSet.decision (organizationId : Id) (metrics : Metrics)
    (rule : SuspensionRuleSet) : RuleDecision where
  ruleSetId := rule.id
  organizationId := organizationId
  applyUserSuspension := rule.autoSuspensionEnabled
  blockNewBookings := rule.pauseNewBookings
  blockPortalLogin := rule.restrictPortalLogin
  conditionsMet := rule.sortedConditions.map fun cond =>
    (cond.conditionType, cond.metricValue metrics)
  groupResults := rule.groupResults metrics
  ruleType := rule.ruleType
  ruleName := rule.name

/-- `_evaluate_rule_sets`. -/
def evaluateRuleSets (organizationId : Id) (metrics : Metrics) (rules : List SuspensionRuleSet) :
    List RuleDecision :=
  (rules.filter (·.fires metrics)).map (·.decision organizationId metrics)

/-! ### What follows -/

/-- `action == "SUSPEND"`. -/
def RuleDecision.suspends (decision : RuleDecision) : Bool :=
  decision.applyUserSuspension || decision.blockNewBookings || decision.blockPortalLogin

/-- The row that keeps a decision. -/
def RuleDecision.activity (decision : RuleDecision) (accountId : Id) : SuspensionActivity where
  ruleSetId := decision.ruleSetId
  ruleNameSnapshot := decision.ruleName
  accountId := accountId
  organizationId := decision.organizationId
  ruleType := decision.ruleType
  conditionsMet := decision.conditionsMet
  actionTaken := if decision.suspends then .suspended else .warningSent
  groupResults := decision.groupResults

/-- The user is one of `users` in `_apply_decisions_for_org`. -/
def User.isCustomerOf (organizationId : Id) (user : User) : Bool :=
  user.organizationId = some organizationId && user.role = .customerB2b &&
    (user.status = .active || user.status = .suspended)

/-- A customer of the organisation becomes suspended, if it is not. -/
def User.suspendedWith (organizationId : Id) (user : User) : User :=
  if user.isCustomerOf organizationId && user.status ≠ .suspended then
    { user with status := .suspended, version := user.version + 1 }
  else user

theorem User.id_suspendedWith (organizationId : Id) (user : User) :
    (user.suspendedWith organizationId).id = user.id := by
  rw [User.suspendedWith]
  split <;> rfl

theorem User.organizationId_suspendedWith (organizationId : Id) (user : User) :
    (user.suspendedWith organizationId).organizationId = user.organizationId := by
  rw [User.suspendedWith]
  split <;> rfl

variable {user : User}

/-- Users of other organisations stay as they are. -/
theorem User.suspendedWith_of_ne {organizationId : Id}
    (h : user.organizationId ≠ some organizationId) : user.suspendedWith organizationId = user := by
  simp [User.suspendedWith, User.isCustomerOf, h]

/-- The status that the decisions give an organisation, if they give it one. -/
def newStatus (decisions : List RuleDecision) : Option OrganizationStatus :=
  if decisions.any (·.blockPortalLogin) then some .suspended
  else if decisions.any (·.blockNewBookings) || decisions.any (·.applyUserSuspension) then
    some .onHold
  else none

/-- `_apply_decisions_for_org`; without decisions nothing changes. -/
def applyDecisionsForOrg (db : Db) (organizationId : Id) (decisions : List RuleDecision) : Db :=
  let users := db.users.rows.filter (·.isCustomerOf organizationId)
  let accountId := (users.head?.map (·.id)).getD organizationId
  { db with
    users :=
      if decisions.any (·.applyUserSuspension) then
        db.users.mapRows (User.suspendedWith organizationId) (User.id_suspendedWith organizationId)
      else db.users
    organizations := db.organizations.modify organizationId
      (fun row => { row with status := (newStatus decisions).getD row.status }) fun _ => rfl
    activity := db.activity ++ decisions.map (·.activity accountId) }

/-- One organisation in `run_daily_suspension_job`. -/
def evaluateOrganization (metrics : Id → Metrics) (db : Db) (organizationId : Id) : Db :=
  let rules := (db.effectiveRuleSets organizationId).map (·.ruleSet)
  applyDecisionsForOrg db organizationId
    (evaluateRuleSets organizationId (metrics organizationId) rules)

/-- `_active_org_ids`. -/
def Db.activeOrgIds (db : Db) : List Id :=
  (db.organizations.rows.filter fun row => row.status = .active).map (·.id)

/-- `run_daily_suspension_job`. -/
def runDailySuspensionJob (metrics : Id → Metrics) (db : Db) : Db :=
  Runs.run (evaluateOrganization metrics) db db.activeOrgIds

/-- What happens: a request, or a run of the job. -/
inductive Event where
  | request (now : Instant) (op : Op)
  | dailyRun (metrics : Id → Metrics)

/-- An event takes place. -/
def Event.step (env : Env) (db : Db) : Event → Db
  | .request now op => SuspensionRules.step env db (now, op)
  | .dailyRun metrics => runDailySuspensionJob metrics db

/-! ### An organisation -/

/-- The status of an organisation. -/
def Db.statusOf (db : Db) (organizationId : Id) : Option OrganizationStatus :=
  (db.organizations.find? organizationId).map (·.status)

/-- Some rule that counts for the organisation, and asks what `asks` asks for, fires. -/
def Db.Fires (db : Db) (organizationId : Id) (metrics : Id → Metrics)
    (asks : SuspensionRuleSet → Bool) : Prop :=
  ∃ rule ∈ (db.effectiveRuleSets organizationId).map (·.ruleSet),
    asks rule = true ∧ rule.fires (metrics organizationId) = true

instance (db : Db) (organizationId : Id) (metrics : Id → Metrics)
    (asks : SuspensionRuleSet → Bool) : Decidable (db.Fires organizationId metrics asks) :=
  inferInstanceAs (Decidable (∃ _ ∈ _, _))

/-- Two states that look the same to an organisation: the rules, its status and its users. -/
structure SameFor (organizationId : Id) (db db' : Db) : Prop where
  rules : db'.rules = db.rules
  suppressions : db'.suppressions = db.suppressions
  status : db'.statusOf organizationId = db.statusOf organizationId
  users : ∀ user, user.organizationId = some organizationId →
    (user ∈ db'.users.rows ↔ user ∈ db.users.rows)

variable {env : Env} {db db' db'' : Db} {organizationId : Id} {metrics : Id → Metrics}

theorem SameFor.refl (organizationId : Id) (db : Db) : SameFor organizationId db db :=
  ⟨rfl, rfl, rfl, fun _ _ => Iff.rfl⟩

theorem SameFor.trans (h : SameFor organizationId db db') (h' : SameFor organizationId db' db'') :
    SameFor organizationId db db'' where
  rules := h'.rules.trans h.rules
  suppressions := h'.suppressions.trans h.suppressions
  status := h'.status.trans h.status
  users user huser := (h'.users user huser).trans (h.users user huser)

/-- The overlay depends on the rules and the opt-outs only. -/
theorem effectiveRuleSets_congr (hrules : db'.rules = db.rules)
    (hsuppressions : db'.suppressions = db.suppressions) (organizationId : Id) :
    db'.effectiveRuleSets organizationId = db.effectiveRuleSets organizationId := by
  obtain ⟨_, _, rules, suppressions, _⟩ := db
  obtain ⟨_, _, rules', suppressions', _⟩ := db'
  obtain rfl : rules' = rules := hrules
  obtain rfl : suppressions' = suppressions := hsuppressions
  rfl

theorem SameFor.fires (h : SameFor organizationId db db') {asks : SuspensionRuleSet → Bool} :
    db'.Fires organizationId metrics asks ↔ db.Fires organizationId metrics asks := by
  rw [Db.Fires, Db.Fires, effectiveRuleSets_congr h.rules h.suppressions]

/-! ### An evaluation -/

/-- The decisions of an evaluation. -/
def Db.decisions (db : Db) (organizationId : Id) (metrics : Id → Metrics) : List RuleDecision :=
  evaluateRuleSets organizationId (metrics organizationId)
    ((db.effectiveRuleSets organizationId).map (·.ruleSet))

theorem evaluateOrganization_eq : evaluateOrganization metrics db organizationId =
    applyDecisionsForOrg db organizationId (db.decisions organizationId metrics) := rfl

/-- A decision asks for something if it is made on a rule that does. -/
theorem any_decisions_iff {decides : RuleDecision → Bool} {asks : SuspensionRuleSet → Bool}
    (h : ∀ rule : SuspensionRuleSet,
      decides (rule.decision organizationId (metrics organizationId)) = asks rule) :
    (db.decisions organizationId metrics).any decides = true ↔
      db.Fires organizationId metrics asks := by
  simp only [Db.decisions, evaluateRuleSets, Db.Fires, List.any_map, List.any_eq_true,
    List.mem_filter, Function.comp_apply, h, and_assoc, and_comm]

theorem statusOf_applyDecisions (decisions : List RuleDecision) :
    (applyDecisionsForOrg db organizationId decisions).statusOf organizationId =
      (db.statusOf organizationId).map fun status => (newStatus decisions).getD status := by
  rw [Db.statusOf, Db.statusOf, applyDecisionsForOrg, Table.find?_modify_self, Option.map_map,
    Option.map_map]
  rfl

/-- An evaluation is no matter of other organisations. -/
theorem sameFor_evaluate_of_ne {other : Id} (hne : other ≠ organizationId) :
    SameFor organizationId db (evaluateOrganization metrics db other) where
  rules := rfl
  suppressions := rfl
  status := by
    rw [Db.statusOf, Db.statusOf, evaluateOrganization_eq, applyDecisionsForOrg,
      Table.find?_modify_of_ne _ _ _ (Ne.symm hne)]
  users user huser := by
    rw [evaluateOrganization_eq, applyDecisionsForOrg]
    dsimp only
    split
    · have hkept : ∀ user : User, user.organizationId = some organizationId →
          user.suspendedWith other = user := fun user huser =>
        User.suspendedWith_of_ne (by rw [huser]; exact fun h => hne (Option.some.inj h).symm)
      rw [Table.mem_mapRows_iff (f := User.suspendedWith other)]
      constructor
      · rintro ⟨user, hmem, rfl⟩
        rw [User.organizationId_suspendedWith] at huser
        rwa [hkept user huser]
      · exact fun hmem => ⟨user, hmem, hkept user huser⟩
    · rfl

/-- The status after an evaluation. -/
theorem statusOf_evaluate {status : OrganizationStatus}
    (h : db.statusOf organizationId = some status) :
    (evaluateOrganization metrics db organizationId).statusOf organizationId =
      some ((newStatus (db.decisions organizationId metrics)).getD status) := by
  rw [evaluateOrganization_eq, statusOf_applyDecisions, h, Option.map_some]

/-- A rule that fires and restricts the login makes the organisation suspended. -/
theorem newStatus_of_restricts
    (h : db.Fires organizationId metrics (·.restrictPortalLogin)) :
    newStatus (db.decisions organizationId metrics) = some .suspended := by
  rw [newStatus, if_pos]
  exact (any_decisions_iff fun _ => rfl).mpr h

theorem newStatus_cases (decisions : List RuleDecision) :
    newStatus decisions = none ∨ newStatus decisions = some .onHold ∨
      newStatus decisions = some .suspended := by
  rw [newStatus]
  split
  · exact .inr (.inr rfl)
  · split
    · exact .inr (.inl rfl)
    · exact .inl rfl

/-- A rule that fires and suspends users makes active customers suspended. -/
theorem mem_users_evaluate (h : db.Fires organizationId metrics (·.autoSuspensionEnabled))
    (hmem : user ∈ db.users.rows) :
    user.suspendedWith organizationId ∈
      (evaluateOrganization metrics db organizationId).users.rows := by
  have hany : (db.decisions organizationId metrics).any (·.applyUserSuspension) = true :=
    (any_decisions_iff fun _ => rfl).mpr h
  rw [evaluateOrganization_eq, applyDecisionsForOrg]
  dsimp only
  rw [if_pos hany, Table.mem_mapRows_iff (f := User.suspendedWith organizationId)]
  exact ⟨user, hmem, rfl⟩

theorem status_suspendedWith (horg : user.organizationId = some organizationId)
    (hrole : user.role = .customerB2b) (hactive : user.status = .active) :
    (user.suspendedWith organizationId).status = .suspended := by
  simp [User.suspendedWith, User.isCustomerOf, horg, hrole, hactive]

/-! ### A run -/

theorem mem_activeOrgIds :
    organizationId ∈ db.activeOrgIds ↔ db.statusOf organizationId = some .active := by
  simp only [Db.activeOrgIds, Db.statusOf, List.mem_map, List.mem_filter, decide_eq_true_eq,
    Option.map_eq_some_iff, Table.find?_eq_some_iff]
  tauto

theorem nodup_activeOrgIds (db : Db) : db.activeOrgIds.Nodup :=
  db.organizations.nodup.sublist (List.filter_sublist.map _)

/-- A run leaves an organisation alone that is not active. -/
theorem sameFor_run (h : db.statusOf organizationId ≠ some .active) :
    SameFor organizationId db (runDailySuspensionJob metrics db) :=
  Runs.rel_run_of_notMem (R := SameFor organizationId) (SameFor.refl organizationId)
    (fun _ _ _ => SameFor.trans) (fun _ _ => sameFor_evaluate_of_ne) (mem_activeOrgIds.not.mpr h) db

/-- A run evaluates an active organisation, as if there were no other. -/
theorem exists_evaluation (h : db.statusOf organizationId = some .active) :
    ∃ db', SameFor organizationId db db' ∧
      SameFor organizationId (evaluateOrganization metrics db' organizationId)
        (runDailySuspensionJob metrics db) :=
  Runs.exists_turn (R := SameFor organizationId) (SameFor.refl organizationId)
    (fun _ _ _ => SameFor.trans) (fun _ _ => sameFor_evaluate_of_ne)
    (nodup_activeOrgIds db) (mem_activeOrgIds.mpr h) db

/-- The status after a run that finds the organisation active. -/
theorem statusOf_run (metrics : Id → Metrics)
    (h : db.statusOf organizationId = some .active) :
    ∃ db', SameFor organizationId db db' ∧
      (runDailySuspensionJob metrics db).statusOf organizationId =
        some ((newStatus (db'.decisions organizationId metrics)).getD .active) := by
  obtain ⟨db', hbefore, hafter⟩ := exists_evaluation h
  exact ⟨db', hbefore, hafter.status.trans (statusOf_evaluate (hbefore.status.trans h))⟩

/-- A rule that fires and restricts the login suspends an active organisation. -/
theorem suspended_of_run (h : db.statusOf organizationId = some .active)
    (hfires : db.Fires organizationId metrics (·.restrictPortalLogin)) :
    (runDailySuspensionJob metrics db).statusOf organizationId = some .suspended := by
  obtain ⟨db', hbefore, hstatus⟩ := statusOf_run metrics h
  rw [hstatus, newStatus_of_restricts (hbefore.fires.mpr hfires)]
  rfl

/-- A rule that fires and suspends users suspends the customers of an active organisation. -/
theorem users_of_run (h : db.statusOf organizationId = some .active)
    (hfires : db.Fires organizationId metrics (·.autoSuspensionEnabled))
    (hmem : user ∈ db.users.rows) (horg : user.organizationId = some organizationId)
    (hrole : user.role = .customerB2b) (hactive : user.status = .active) :
    ((runDailySuspensionJob metrics db).users.find? user.id).map (·.status) =
      some .suspended := by
  obtain ⟨db', hbefore, hafter⟩ := exists_evaluation h
  have horg' : (user.suspendedWith organizationId).organizationId = some organizationId :=
    (user.organizationId_suspendedWith organizationId).trans horg
  have hmem' : user.suspendedWith organizationId ∈
      (runDailySuspensionJob metrics db).users.rows :=
    (hafter.users _ horg').mpr
      (mem_users_evaluate (hbefore.fires.mpr hfires) ((hbefore.users user horg).mpr hmem))
  have hfind := Table.find?_eq_some_iff.mpr ⟨hmem', user.id_suspendedWith organizationId⟩
  rw [hfind, Option.map_some, status_suspendedWith horg hrole hactive]

/-! ### Runs one after another -/

/-- The states that an active organisation gets into. -/
def Watched (organizationId : Id) (db : Db) : Prop :=
  Linked db ∧ (db.statusOf organizationId = some .active ∨
    db.statusOf organizationId = some .onHold ∨ db.statusOf organizationId = some .suspended)

theorem Writes.statusOf {op : Op} (h : Writes db op db') (organizationId : Id) :
    db'.statusOf organizationId = db.statusOf organizationId := by
  cases h <;> rfl

theorem linked_dailyRun (h : Linked db) : Linked (runDailySuspensionJob metrics db) := by
  refine Runs.run_invariant (I := Linked) (fun db' organizationId h => ?_) h _
  exact h

theorem Watched.step (h : Watched organizationId db) (event : Event) :
    Watched organizationId (event.step env db) := by
  cases event with
  | request now op =>
      refine ⟨linked_step h.1 (now, op), ?_⟩
      rw [Event.step, SuspensionRules.step]
      cases hrun : op.run env now db with
      | error e => exact h.2
      | ok db' =>
          rw [Checked.settle_ok, (writes_of_run h.1 hrun).statusOf]
          exact h.2
  | dailyRun metrics =>
      refine ⟨linked_dailyRun h.1, ?_⟩
      rw [Event.step]
      by_cases hactive : db.statusOf organizationId = some .active
      · obtain ⟨db', -, hstatus⟩ := statusOf_run metrics hactive
        rw [hstatus]
        rcases newStatus_cases (db'.decisions organizationId metrics) with h | h | h <;>
          simp [h]
      · rw [(sameFor_run hactive).status]
        exact h.2

/-- A run does not take an organisation from suspended to on hold. -/
theorem not_onHold_of_run (h : db.statusOf organizationId = some .suspended) :
    (runDailySuspensionJob metrics db).statusOf organizationId ≠ some .onHold := by
  have hactive : db.statusOf organizationId ≠ some .active := by simp [h]
  rw [(sameFor_run hactive).status, h]
  simp

/-- **What a run enforces** for an organisation that was active at first, whatever requests and
runs came before: it is suspended if a rule fires that restricts the login, unless it was on hold;
its active customers are suspended if it was active still and a rule fires that suspends users;
and if it was suspended, it is not on hold. -/
theorem firing_rules_enforced (env : Env) (organizations : Table Organization.id)
    (users : Table User.id) (organizationId : Id)
    (hactive : (Db.initial organizations users).statusOf organizationId = some .active)
    (events : List Event) (metrics : Id → Metrics) :
    let db := Runs.run (Event.step env) (.initial organizations users) events
    let db' := runDailySuspensionJob metrics db
    (db.Fires organizationId metrics (·.restrictPortalLogin) →
      db.statusOf organizationId = some .onHold ∨
        db'.statusOf organizationId = some .suspended) ∧
    (db.Fires organizationId metrics (·.autoSuspensionEnabled) →
      db.statusOf organizationId = some .active →
      ∀ user ∈ db.users.rows, user.organizationId = some organizationId →
        user.role = .customerB2b → user.status = .active →
        (db'.users.find? user.id).map (·.status) = some .suspended) ∧
    (db.statusOf organizationId = some .suspended →
      db'.statusOf organizationId ≠ some .onHold) := by
  intro db db'
  have hstart : Watched organizationId (.initial organizations users) :=
    ⟨linked_run env organizations users [], .inl hactive⟩
  have hwatched : Watched organizationId db :=
    Runs.run_invariant (fun _ event h => h.step event) hstart events
  refine ⟨fun hfires => ?_, fun hfires hactive user hmem horg hrole hstatus => ?_,
    not_onHold_of_run⟩
  · rcases hwatched.2 with h | h | h
    · exact .inr (suspended_of_run h hfires)
    · exact .inl h
    · -- It was suspended before, and stays so.
      have hne : db.statusOf organizationId ≠ some .active := by simp [h]
      exact .inr ((sameFor_run hne).status.trans h)
  · exact users_of_run hactive hfires hmem horg hrole hstatus

/-! ### A mild rule and a severe one -/

/-- Bookings are paused after ten days, the login is restricted after twenty. -/
def twoRules : List Event :=
  [.request 0 (.createRuleSet ⟨"late", none, .global, none, none, .creditLimit, .active, none,
      false, true, false, false, false⟩ [⟨0, none, .invoiceOverdueDays, 1000, none⟩]),
    .request 1 (.createRuleSet ⟨"very late", none, .global, none, none, .creditLimit, .active,
      none, true, false, true, false, false⟩ [⟨0, none, .invoiceOverdueDays, 2000, none⟩])]

/-- Invoices that are overdue for some days. -/
def overdue (days : ℕ) : Id → Metrics := fun _ conditionType =>
  if conditionType = .invoiceOverdueDays then some days else none

/-- One organisation, `1`. -/
def acme : Table Organization.id := .singleton ⟨1, .active⟩

/-- A customer of it. -/
def acmeBuyer : Table User.id := .singleton ⟨7, some 1, .customerB2b, .active, 1⟩

/-- The severe rule fires first. -/
theorem login_restricted :
    (runDailySuspensionJob (overdue 25) (Runs.run (Event.step ⟨fun _ => ""⟩)
      (.initial acme acmeBuyer) twoRules)).statusOf 1 = some .suspended := by
  refine ((firing_rules_enforced ⟨fun _ => ""⟩ acme acmeBuyer 1 (by decide +kernel) twoRules
    (overdue 25)).1 (by decide +kernel)).resolve_left (by decide +kernel)

/-- **A restriction after a hold**: on the first day the mild rule fires; on the second both do,
and the organisation remains on hold, its customer active. -/
theorem restriction_after_hold :
    let db := Runs.run (Event.step ⟨fun _ => ""⟩) (.initial acme acmeBuyer)
      (twoRules ++ [.dailyRun (overdue 15)])
    (Db.initial acme acmeBuyer).statusOf 1 = some .active ∧
    db.Fires 1 (overdue 25) (·.restrictPortalLogin) ∧
    db.Fires 1 (overdue 25) (·.autoSuspensionEnabled) ∧
    (runDailySuspensionJob (overdue 25) db).statusOf 1 = some .onHold ∧
    ((runDailySuspensionJob (overdue 25) db).users.find? 7).map (·.status) = some .active := by
  decide +kernel

end SwCouriers.SuspensionRules
