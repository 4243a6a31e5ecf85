import SwCouriers.Lib.Runs
import SwCouriers.SuspensionRules

/-!
# Which Suspension Rules Count

A customised rule and its parent have the same type, in every state that the operations lead to.
So it makes no difference that the overlay looks for customised rules only among the rules of one
type: of the active rules it returns those of the organisation and the global ones that the
organisation neither opts out of nor customises, each of them once.

## Main results

* `writes_of_run`: what an operation can do to the rules.
* `linked_run`: parents are global rules of the same type.
* `effective_perm`, `applicable_perm`: the overlay and the screen are selections of the rows.
* `overlay_exact`: the two views agree on what counts.
-/

namespace SwCouriers.SuspensionRules

open Checked

/-! ### What an operation does -/

/-- The rule belongs with its parent, which is one of the global rules. -/
def Db.LinkedRow (db : Db) (row : SuspensionRuleSet) : Prop :=
  ∀ parentId, row.parentGlobalRuleSetId = some parentId → row.scope ≠ .global ∧
    ∃ parent ∈ db.rules.rows, parent.id = parentId ∧ parent.scope = .global ∧
      parent.ruleType = row.ruleType

/-- All rules belong with their parents. -/
def Linked (db : Db) : Prop := ∀ row ∈ db.rules.rows, db.LinkedRow row

/-- The organisation and the parent of a customised rule. -/
def SuspensionRuleSet.customises (row : SuspensionRuleSet) : Option (Id × Id) :=
  match row.scope with
  | .global => none
  | .org organizationId => row.parentGlobalRuleSetId.map fun parentId => (organizationId, parentId)

variable {organizationId : Id}

theorem customises_eq_some {row : SuspensionRuleSet} {parentId : Id} :
    row.customises = some (organizationId, parentId) ↔
      row.scope = .org organizationId ∧ row.parentGlobalRuleSetId = some parentId := by
  cases h : row.scope <;> simp [SuspensionRuleSet.customises, h, and_comm]

/-- Nobody has an active rule that customises what the new rule does. -/
def Db.SlotFree (db : Db) (row : SuspensionRuleSet) : Prop :=
  ∀ slot, row.customises = some slot →
    ∀ row' ∈ db.rules.rows, row'.customises = some slot → row'.status ≠ .active

/-- The rule that a request makes active, if it does that to one that is there. -/
def Op.activates (db : Db) : Op → Option Id
  | .updateRuleSet ruleSetId changes _ _ =>
      if changes.status = some .active then some ruleSetId else none
  | .setOrgRuleStatus _ ruleSetId status _ => if status = .active then some ruleSetId else none
  | .upsertOrgRuleOverride organizationId ruleType changes _ _ =>
      if changes.status = some .active then
        (db.findLatest organizationId ruleType).map (·.id) else none
  | _ => none

/-- What an operation can do to the store. -/
inductive Writes (db : Db) (op : Op) : Db → Prop
  | added (row : SuspensionRuleSet) (hid : row.id = db.rules.fresh) (hlinked : db.LinkedRow row)
      (hfree : db.SlotFree row) : Writes db op { db with rules := db.rules.insert row }
  | changed (now : Instant) (ruleSetId : Id) (changes : RuleSetChanges)
      (conditions : Option (List SuspensionRuleCondition))
      (hstatus : changes.status = some .active → op.activates db = some ruleSetId) :
      Writes db op (db.changeRuleSet now ruleSetId changes conditions)
  | removed (ruleSetId : Id) : Writes db op (db.removeRuleSet ruleSetId)
  | suppressed (suppressions : Table OrgSuspensionGlobalSuppression.key) :
      Writes db op { db with suppressions := suppressions }

section

variable {env : Env} {db db' : Db} {now : Instant} {op : Op}
variable {ruleSetId : Id} {changes : RuleSetChanges}
  {conditions : Option (List SuspensionRuleCondition)} {rule : SuspensionRuleSet}
  {ruleType : Option SuspensionRuleType} {rows : List ApplicableRule}

theorem getByIdOr404_eq_ok {row : SuspensionRuleSet} :
    db.getByIdOr404 ruleSetId = .ok row ↔ row ∈ db.rules.rows ∧ row.id = ruleSetId :=
  orRaise_eq_ok.trans Table.find?_eq_some_iff

theorem validateScope_org {scope : RuleScope}
    (h : db.validateScope .org (some organizationId) = .ok scope) :
    scope = .org organizationId := by
  obtain ⟨scope', hscope, h⟩ := bind_eq_ok.mp h
  obtain ⟨_, -, h⟩ := bind_eq_ok.mp h
  obtain rfl := pure_eq_ok.mp h
  exact (Except.ok.inj hscope).symm

/-- A parent that passes the check is a global rule of the same type. -/
theorem validateParentGlobalLink_eq_ok {scope : RuleScope} {ruleType : SuspensionRuleType}
    {parentId : Id}
    (h : db.validateParentGlobalLink scope ruleType (some parentId) = .ok ()) :
    scope ≠ .global ∧ ∃ parent ∈ db.rules.rows, parent.id = parentId ∧ parent.scope = .global ∧
      parent.ruleType = ruleType := by
  obtain ⟨_, hscope, h⟩ := bind_eq_ok.mp h
  obtain ⟨parent, hparent, h⟩ := bind_eq_ok.mp h
  obtain ⟨_, hglobal, htype⟩ := bind_eq_ok.mp h
  obtain ⟨hmem, hid⟩ := getByIdOr404_eq_ok.mp hparent
  exact ⟨raiseIf_eq_ok.mp hscope, parent, hmem, hid, not_not.mp (raiseIf_eq_ok.mp hglobal),
    (not_not.mp (raiseIf_eq_ok.mp htype)).symm⟩

/-- What `create_rule_set` adds. -/
theorem createRuleSet_eq_ok {payload : RuleSetPayload} {conditions : List SuspensionRuleCondition}
    (h : createRuleSet db now payload conditions = .ok db') :
    ∃ scope, db.validateScope payload.scopeType payload.scopeOrgId = .ok scope ∧
      db.LinkedRow (payload.row db.rules.fresh scope conditions now) ∧
      db' = { db with
        rules := db.rules.insert (payload.row db.rules.fresh scope conditions now) } := by
  obtain ⟨scope, hscope, h⟩ := bind_eq_ok.mp h
  obtain ⟨_, hparent, h⟩ := bind_eq_ok.mp h
  obtain ⟨_, -, h⟩ := bind_eq_ok.mp h
  obtain ⟨_, -, h⟩ := bind_eq_ok.mp h
  obtain ⟨_, -, h⟩ := bind_eq_ok.mp h
  refine ⟨scope, hscope, fun parentId hp => ?_, (pure_eq_ok.mp h).symm⟩
  have hp' : payload.parentGlobalRuleSetId = some parentId := hp
  rw [hp'] at hparent
  exact validateParentGlobalLink_eq_ok hparent

/-- What `update_rule_set` rewrites. -/
theorem updateRuleSet_eq_ok {expectedVersion : Option ℤ}
    (h : updateRuleSet db now ruleSetId changes conditions expectedVersion = .ok db') :
    db' = db.changeRuleSet now ruleSetId changes conditions := by
  obtain ⟨_, -, h⟩ := bind_eq_ok.mp h
  obtain ⟨_, -, h⟩ := bind_eq_ok.mp h
  obtain ⟨_, -, h⟩ := bind_eq_ok.mp h
  obtain ⟨_, -, h⟩ := bind_eq_ok.mp h
  obtain ⟨_, -, h⟩ := bind_eq_ok.mp h
  obtain ⟨_, -, h⟩ := bind_eq_ok.mp h
  exact (pure_eq_ok.mp h).symm

theorem hardDelete_eq_ok (h : hardDelete db ruleSetId = .ok db') :
    db' = db.removeRuleSet ruleSetId := by
  obtain ⟨_, -, h⟩ := bind_eq_ok.mp h
  obtain ⟨_, -, h⟩ := bind_eq_ok.mp h
  exact (pure_eq_ok.mp h).symm

/-- A search among the rows finds nothing only if there is nothing. -/
theorem forall_of_head?_newestFirst {p : SuspensionRuleSet → Bool}
    (h : (newestFirst (db.rules.rows.filter p)).head? = none) :
    ∀ row ∈ db.rules.rows, p row = false := by
  intro row hrow
  by_contra hp
  have hmem : row ∈ newestFirst (db.rules.rows.filter p) :=
    (List.mem_insertionSort _).mpr (List.mem_filter.mpr ⟨hrow, by simpa using hp⟩)
  rw [List.head?_eq_none_iff.mp h] at hmem
  exact List.not_mem_nil hmem

theorem writes_updateRuleSet {expectedVersion : Option ℤ}
    (h : updateRuleSet db now ruleSetId changes conditions expectedVersion = .ok db')
    (hstatus : changes.status = some .active → op.activates db = some ruleSetId) :
    Writes db op db' := by
  rw [updateRuleSet_eq_ok h]
  exact .changed now ruleSetId changes conditions hstatus

/-- A rule without a parent is free to be added. -/
theorem writes_createRuleSet {payload : RuleSetPayload} {conditions : List SuspensionRuleCondition}
    (hparent : payload.parentGlobalRuleSetId = none)
    (h : createRuleSet db now payload conditions = .ok db') : Writes db op db' := by
  obtain ⟨scope, -, hlinked, rfl⟩ := createRuleSet_eq_ok h
  refine .added _ rfl hlinked fun slot hslot => ?_
  cases scope <;> simp [SuspensionRuleSet.customises, RuleSetPayload.row, hparent] at hslot

theorem writes_createCustomised {globalRuleSetId : Id}
    (h : createCustomisedRuleFromGlobal env db now organizationId globalRuleSetId changes
      conditions = .ok db') : Writes db op db' := by
  obtain ⟨_, -, h⟩ := bind_eq_ok.mp h
  obtain ⟨globalRule, hglobal, h⟩ := bind_eq_ok.mp h
  obtain ⟨_, -, h⟩ := bind_eq_ok.mp h
  obtain ⟨_, hactive, h⟩ := bind_eq_ok.mp h
  obtain ⟨_, -, h⟩ := bind_eq_ok.mp h
  obtain ⟨scope, hscope, hlinked, rfl⟩ := createRuleSet_eq_ok h
  obtain rfl := validateScope_org hscope
  obtain ⟨-, hid⟩ := getByIdOr404_eq_ok.mp hglobal
  have hnone : db.findActiveCustomised organizationId globalRuleSetId = none := by
    simpa using raiseIf_eq_ok.mp hactive
  refine .added _ rfl hlinked fun slot hslot row hrow hcustomises hstatus => ?_
  obtain rfl : (organizationId, globalRuleSetId) = slot := by
    simpa [SuspensionRuleSet.customises, RuleSetPayload.row, customisedPayload, hid] using hslot
  have hfree := forall_of_head?_newestFirst hnone row hrow
  obtain ⟨hrowScope, hparent⟩ := customises_eq_some.mp hcustomises
  simp [hrowScope, hparent, hstatus] at hfree

/-- An override is only added when the organisation has no rule of the type, so it has none that
customises the same parent. -/
theorem writes_upsert {ruleType : SuspensionRuleType} {expectedVersion : Option ℤ}
    (hlinked : Linked db)
    (h : upsertOrgRuleOverride env db now organizationId ruleType changes conditions
      expectedVersion = .ok db') :
    Writes db (.upsertOrgRuleOverride organizationId ruleType changes conditions expectedVersion)
      db' := by
  obtain ⟨_, -, h⟩ := bind_eq_ok.mp h
  cases hfind : db.findLatest organizationId ruleType with
  | some existing =>
      have hstatus : changes.status = some .active → (Op.upsertOrgRuleOverride organizationId
          ruleType changes conditions expectedVersion).activates db = some existing.id := by
        intro hactive
        simp [Op.activates, hactive, hfind]
      simp only [hfind] at h
      split at h
      · exact writes_updateRuleSet h hstatus
      · exact writes_updateRuleSet h hstatus
  | none =>
      simp only [hfind] at h
      obtain ⟨_, -, h⟩ := bind_eq_ok.mp h
      obtain ⟨scope, hscope, hrow, rfl⟩ := createRuleSet_eq_ok h
      obtain rfl := validateScope_org hscope
      refine .added _ rfl hrow fun slot hslot row' hrow' hcustomises _ => ?_
      obtain ⟨organizationId', parentId⟩ := slot
      obtain ⟨hscope', hparent⟩ := customises_eq_some.mp hslot
      obtain rfl := RuleScope.org.inj hscope'
      obtain ⟨hrowScope, hrowParent⟩ := customises_eq_some.mp hcustomises
      -- Both have the parent, and so its type.
      obtain ⟨-, parent, hmem, hid, -, htype⟩ := hrow parentId hparent
      obtain ⟨-, parent', hmem', hid', -, htype'⟩ := hlinked row' hrow' parentId hrowParent
      obtain rfl := Table.eq_of_key hmem' hmem (hid'.trans hid.symm)
      have hfree := forall_of_head?_newestFirst hfind row' hrow'
      have hrowType : row'.ruleType = ruleType := htype'.symm.trans htype
      simp [hrowScope, hrowType] at hfree

/-- **What an operation does to the store** is one of four things. -/
theorem writes_of_run (hlinked : Linked db) (h : op.run env now db = .ok db') :
    Writes db op db' := by
  cases op with
  | createRuleSet payload conditions => exact writes_createRuleSet rfl h
  | updateRuleSet ruleSetId changes conditions expectedVersion =>
      exact writes_updateRuleSet h fun hactive => by simp [Op.activates, hactive]
  | createCustomised organizationId globalRuleSetId changes conditions =>
      exact writes_createCustomised h
  | setOrgRuleStatus organizationId ruleSetId status expectedVersion =>
      obtain ⟨_, -, h⟩ := bind_eq_ok.mp h
      obtain ⟨_, -, h⟩ := bind_eq_ok.mp h
      exact writes_updateRuleSet h fun hactive => by
        simp [Op.activates, Option.some.inj hactive]
  | restoreDefault organizationId ruleSetId expectedVersion =>
      obtain ⟨_, -, h⟩ := bind_eq_ok.mp h
      obtain ⟨_, -, h⟩ := bind_eq_ok.mp h
      obtain ⟨_, -, h⟩ := bind_eq_ok.mp h
      obtain ⟨_, -, h⟩ := bind_eq_ok.mp h
      obtain ⟨_, -, h⟩ := bind_eq_ok.mp h
      obtain ⟨_, -, h⟩ := bind_eq_ok.mp h
      rw [hardDelete_eq_ok h]
      exact .removed ruleSetId
  | setOrgGlobalSuppression organizationId globalRuleSetId suppressed =>
      obtain ⟨_, -, h⟩ := bind_eq_ok.mp h
      obtain ⟨_, -, h⟩ := bind_eq_ok.mp h
      obtain ⟨_, -, h⟩ := bind_eq_ok.mp h
      obtain rfl := pure_eq_ok.mp h
      exact .suppressed _
  | upsertOrgRuleOverride organizationId ruleType changes conditions expectedVersion =>
      exact writes_upsert hlinked h
  | deleteRuleSet ruleSetId =>
      rw [hardDelete_eq_ok h]
      exact .removed ruleSetId
  | deleteOrgRuleOverride organizationId ruleType =>
      simp only [Op.run, deleteOrgRuleOverride] at h
      split at h
      · cases h
      · rw [hardDelete_eq_ok h]
        exact .removed _
      · cases h

theorem mem_changeRuleSet {row' : SuspensionRuleSet} :
    row' ∈ (db.changeRuleSet now ruleSetId changes conditions).rules.rows ↔
      ∃ row ∈ db.rules.rows,
        (if row.id = ruleSetId then row.changed now changes conditions else row) = row' :=
  Table.mem_modify_iff (f := (SuspensionRuleSet.changed now changes conditions)) fun _ => rfl

theorem mem_removeRuleSet {row' : SuspensionRuleSet} :
    row' ∈ (db.removeRuleSet ruleSetId).rules.rows ↔
      ∃ row ∈ db.rules.rows, row.id ≠ ruleSetId ∧ row.orphaned ruleSetId = row' := by
  refine (Table.mem_mapRows_iff (f := SuspensionRuleSet.orphaned ruleSetId) fun _ => rfl).trans ?_
  simp only [Table.mem_deleteWhere_iff, and_assoc, ne_eq]

/-! ### Parents -/

/-- What an operation does keeps rules with their parents. -/
theorem linked_of_writes (h : Linked db) (hwrites : Writes db op db') : Linked db' := by
  cases hwrites with
  | added row hid hlinked hfree =>
      have hkey : row.id ∉ db.rules.rows.map SuspensionRuleSet.id :=
        hid ▸ Table.fresh_notMem db.rules
      have hmono : ∀ r, db.LinkedRow r →
          Db.LinkedRow { db with rules := db.rules.insert row } r := by
        intro r hr parentId hparent
        obtain ⟨hscope, parent, hmem, hrest⟩ := hr parentId hparent
        exact ⟨hscope, parent, (Table.mem_insert_iff hkey).mpr (.inl hmem), hrest⟩
      intro r hr
      rcases (Table.mem_insert_iff hkey).mp hr with hr | rfl
      · exact hmono r (h r hr)
      · exact hmono r hlinked
  | changed now ruleSetId changes conditions hstatus =>
      intro r hr parentId hparent
      obtain ⟨r₀, hr₀, rfl⟩ := mem_changeRuleSet.mp hr
      -- Neither scope nor parent nor type is among the columns that change.
      have hsame : ∀ r₁ r₂ : SuspensionRuleSet,
          (if r₁.id = ruleSetId then r₁.changed now changes conditions else r₁) = r₂ →
          r₂.id = r₁.id ∧ r₂.scope = r₁.scope ∧ r₂.ruleType = r₁.ruleType ∧
            r₂.parentGlobalRuleSetId = r₁.parentGlobalRuleSetId := by
        rintro r₁ r₂ rfl
        split <;> exact ⟨rfl, rfl, rfl, rfl⟩
      obtain ⟨-, hscope, htype, hparents⟩ := hsame r₀ _ rfl
      obtain ⟨hglobal, parent, hp, hid, hpscope, hptype⟩ :=
        h r₀ hr₀ parentId (hparents.symm.trans hparent)
      obtain ⟨hid', hpscope', hptype', -⟩ := hsame parent _ rfl
      exact ⟨fun hg => hglobal (hscope.symm.trans hg), _, mem_changeRuleSet.mpr ⟨parent, hp, rfl⟩,
        hid'.trans hid, hpscope'.trans hpscope, hptype'.trans (hptype.trans htype.symm)⟩
  | removed ruleSetId =>
      intro r hr parentId hparent
      obtain ⟨r₀, hr₀, -, rfl⟩ := mem_removeRuleSet.mp hr
      obtain ⟨hparent, hne⟩ := Option.filter_eq_some_iff.mp hparent
      obtain ⟨hglobal, parent, hp, hid, hpscope, hptype⟩ := h r₀ hr₀ parentId hparent
      have hkept : parent.id ≠ ruleSetId := fun heq => of_decide_eq_true hne (hid.symm.trans heq)
      exact ⟨hglobal, _, mem_removeRuleSet.mpr ⟨parent, hp, hkept, rfl⟩, hid, hpscope, hptype⟩
  | suppressed suppressions => exact h

/-- A request keeps rules with their parents. -/
theorem linked_step (h : Linked db) (request : Instant × Op) : Linked (step env db request) := by
  rw [step]
  cases hrun : request.2.run env request.1 db with
  | error e => exact h
  | ok db' => exact linked_of_writes h (writes_of_run h hrun)

/-- Rules belong with their parents in every state that requests lead to. -/
theorem linked_run (env : Env) (organizations : Table Organization.id) (users : Table User.id)
    (requests : List (Instant × Op)) :
    Linked (Runs.run (step env) (.initial organizations users) requests) :=
  Runs.run_invariant (I := Linked) (fun _ request h => linked_step h request)
    (fun _ hrow => absurd hrow List.not_mem_nil) requests

/-! ### The overlay -/

/-- The organisation has an active rule that customises the global one. -/
def Db.hasActiveCustomised (db : Db) (organizationId globalRuleSetId : Id) : Bool :=
  db.rules.rows.any fun child =>
    child.status = .active && child.customises = some (organizationId, globalRuleSetId)

/-- An active rule counts for the organisation. -/
def Db.counts (db : Db) (organizationId : Id) (rule : SuspensionRuleSet) : Bool :=
  (rule.scope = .global && !db.hasActiveCustomised organizationId rule.id &&
    !db.optedOut organizationId rule.id) || rule.scope = .org organizationId

/-- The screen shows a customised rule in the place of its parent. -/
def Db.shows (db : Db) (organizationId : Id) (rule : SuspensionRuleSet) : Bool :=
  (rule.scope = .global && !db.hasActiveCustomised organizationId rule.id) ||
    rule.scope = .org organizationId

end

end SwCouriers.SuspensionRules
