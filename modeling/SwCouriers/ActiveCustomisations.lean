import SwCouriers.Lib.ActiveSlots
import SwCouriers.RuleOverlay
import SwCouriers.StatusAutomationRules

/-!
# One Active Customisation per Global Rule

Both kinds of rules let an organisation customise a global rule, and refuse to do so when it has
an active rule that customises the same one. An inactive rule is no obstacle, though, and nothing
is checked when a rule becomes active later. So an organisation may end up with several active
rules for one global rule; it does not as long as nobody makes a rule active next to another one.

## Main results

* `SuspensionRules.slotWrites_of_writes`, `StatusAutomationRules.slotWrites_of_writes`: what an
  operation does to the organisation and the parent that an active rule takes.
* `SuspensionRules.activeOnce_run`, `StatusAutomationRules.activeOnce_run`: one active rule for
  each global rule, as long as no request clashes.
* `one_active_customisation`: both together.
* `two_active_customisations`: how both go wrong.
-/

namespace SwCouriers

open Checked

namespace SuspensionRules

/-- What an active customised rule takes: its organisation and its parent. -/
def SuspensionRuleSet.slot (row : SuspensionRuleSet) : Option (Id × Id) :=
  if row.status = .active then row.customises else none

/-- No organisation has two active rules that customise one global rule. -/
def ActiveOnce (db : Db) : Prop := db.rules.UniqueOn SuspensionRuleSet.slot

instance (db : Db) : Decidable (ActiveOnce db) :=
  inferInstanceAs (Decidable (db.rules.UniqueOn SuspensionRuleSet.slot))

/-- The request makes a rule active that customises the same global rule as another active rule
of the organisation. -/
def Op.clashes (op : Op) (db : Db) : Bool :=
  (op.activates db).any fun ruleSetId => db.rules.rows.any fun row => row.id = ruleSetId &&
    db.rules.rows.any fun row' => row'.id ≠ ruleSetId && row'.slot.isSome &&
      row'.slot = row.customises

variable {env : Env} {db db' : Db} {op : Op}

theorem slot_eq_some {row : SuspensionRuleSet} {slot : Id × Id} :
    row.slot = some slot ↔ row.status = .active ∧ row.customises = some slot := by
  rw [SuspensionRuleSet.slot]
  split <;> simp_all

/-- What an operation does to the slots of the rules. -/
theorem slotWrites_of_writes (hwrites : Writes db op db') :
    Table.SlotWrites SuspensionRuleSet.slot SuspensionRuleSet.customises
      (fun row => row.status = .active) db.rules (op.activates db) db'.rules := by
  cases hwrites with
  | added row hid hlinked hfree =>
      refine .inserted row (hid ▸ Table.fresh_notMem db.rules) fun slot hslot r hr hr' => ?_
      obtain ⟨hactive, hcustomises⟩ := slot_eq_some.mp hr'
      exact hfree slot hslot r hr hcustomises hactive
  | changed now ruleSetId changes conditions hstatus =>
      refine .modified ruleSetId (SuspensionRuleSet.changed now changes conditions) (fun _ => rfl)
        (fun _ => rfl) fun r hactive => ?_
      cases hchange : changes.status with
      | none => exact .inl (by simpa [SuspensionRuleSet.changed, hchange] using hactive)
      | some status =>
          have hactive' : status = .active := by
            simpa [SuspensionRuleSet.changed, hchange] using hactive
          exact .inr (hstatus (by rw [hchange, hactive']))
  | removed ruleSetId =>
      apply Table.SlotWrites.shrunk
      case hf => exact fun _ => rfl
      case hactive => exact fun _ hactive => hactive
      case hnamed =>
        intro r slot hslot
        obtain ⟨organizationId, parentId⟩ := slot
        obtain ⟨hscope, hparent⟩ := customises_eq_some.mp hslot
        exact customises_eq_some.mpr ⟨hscope, (Option.filter_eq_some_iff.mp hparent).1⟩
  | suppressed suppressions => exact .kept

/-- One active rule for each global rule, as long as no request clashes. -/
theorem activeOnce_run (env : Env) (organizations : Table Organization.id) (users : Table User.id)
    {requests : List (Instant × Op)}
    (hrequests : Runs.Along (step env) (fun db request => request.2.clashes db = false)
      (.initial organizations users) requests) :
    ActiveOnce (Runs.run (step env) (.initial organizations users) requests) := by
  have hstart : Linked (.initial organizations users) ∧ ActiveOnce (.initial organizations users) :=
    ⟨fun _ hrow => absurd hrow List.not_mem_nil, Table.uniqueOn_empty⟩
  refine (Runs.run_invariant_of_along (I := fun db => Linked db ∧ ActiveOnce db)
    (fun db request h hop => ⟨linked_step h.1 request, ?_⟩) hstart hrequests).2
  rw [step]
  cases hrun : request.2.run env request.1 db with
  | error e => exact h.2
  | ok db' =>
      exact h.2.of_slotWrites (fun _ _ => slot_eq_some)
        (slotWrites_of_writes (writes_of_run h.1 hrun)) hop

end SuspensionRules

namespace StatusAutomationRules

/-- The organisation and the parent of a customised rule. -/
def StatusAutomationRuleSet.customises (row : StatusAutomationRuleSet) : Option (Id × Id) :=
  match row.scope with
  | .global => none
  | .org organizationId => row.parentGlobalRuleSetId.map fun parentId => (organizationId, parentId)

/-- What an active customised rule takes: its organisation and its parent. -/
def StatusAutomationRuleSet.slot (row : StatusAutomationRuleSet) : Option (Id × Id) :=
  if row.status = .active then row.customises else none

/-- No organisation has two active rules that customise one global rule. -/
def ActiveOnce (db : Db) : Prop := db.rules.UniqueOn StatusAutomationRuleSet.slot

instance (db : Db) : Decidable (ActiveOnce db) :=
  inferInstanceAs (Decidable (db.rules.UniqueOn StatusAutomationRuleSet.slot))

/-- The rule that a request makes active. -/
def Op.activates : Op → Option Id
  | .updateRuleSet ruleSetId changes _ _ =>
      if changes.status = some .active then some ruleSetId else none
  | .setRuleStatus ruleSetId status _ => if status = .active then some ruleSetId else none
  | _ => none

/-- The request makes a rule active that customises the same global rule as another active rule
of the organisation. -/
def Op.clashes (op : Op) (db : Db) : Bool :=
  op.activates.any fun ruleSetId => db.rules.rows.any fun row => row.id = ruleSetId &&
    db.rules.rows.any fun row' => row'.id ≠ ruleSetId && row'.slot.isSome &&
      row'.slot = row.customises

/-- What an operation can do to the store. -/
inductive Writes (db : Db) (op : Op) : Db → Prop
  | added (row : StatusAutomationRuleSet) (hid : row.id = db.rules.fresh)
      (hfree : ∀ slot, row.customises = some slot → ∀ row' ∈ db.rules.rows,
        row'.slot ≠ some slot) : Writes db op { db with rules := db.rules.insert row }
  | changed (now : Instant) (ruleSetId : Id) (changes : RuleSetChanges) (graph : GraphChanges)
      (hstatus : changes.status = some .active → op.activates = some ruleSetId) :
      Writes db op (db.changeRuleSet now ruleSetId changes graph)
  | removed (ruleSetId : Id) : Writes db op (db.removeRuleSet ruleSetId)

variable {env : Env} {db db' : Db} {now : Instant} {op : Op}

theorem customises_eq_some {row : StatusAutomationRuleSet} {organizationId parentId : Id} :
    row.customises = some (organizationId, parentId) ↔
      row.scope = .org organizationId ∧ row.parentGlobalRuleSetId = some parentId := by
  cases h : row.scope <;> simp [StatusAutomationRuleSet.customises, h, and_comm]

theorem slot_eq_some {row : StatusAutomationRuleSet} {slot : Id × Id} :
    row.slot = some slot ↔ row.status = .active ∧ row.customises = some slot := by
  rw [StatusAutomationRuleSet.slot]
  split <;> simp_all

/-! ### What an operation does -/

theorem writes_updateById {ruleSetId : Id} {changes : RuleSetChanges} {graph : GraphChanges}
    {expectedVersion : Option ℤ}
    (h : updateById db now ruleSetId changes graph expectedVersion = .ok db')
    (hstatus : changes.status = some .active → op.activates = some ruleSetId) :
    Writes db op db' := by
  obtain ⟨_, -, h⟩ := bind_eq_ok.mp h
  obtain ⟨_, -, h⟩ := bind_eq_ok.mp h
  obtain ⟨_, -, h⟩ := bind_eq_ok.mp h
  obtain ⟨_, -, h⟩ := bind_eq_ok.mp h
  obtain rfl := pure_eq_ok.mp h
  exact .changed now ruleSetId changes graph hstatus

theorem writes_createRuleSet {payload : RuleSetPayload} {trigger : StatusAutomationTrigger}
    {conditions : List TimingValue} {actions : List String}
    (h : createRuleSet db now payload trigger conditions actions = .ok db')
    (hfree : ∀ parentId, payload.parentGlobalRuleSetId = some parentId → ∀ org,
      payload.scope = .org org → ∀ row ∈ db.rules.rows, row.slot ≠ some (org, parentId)) :
    Writes db op db' := by
  obtain ⟨_, -, h⟩ := bind_eq_ok.mp h
  obtain ⟨_, -, h⟩ := bind_eq_ok.mp h
  obtain ⟨_, -, h⟩ := bind_eq_ok.mp h
  obtain ⟨_, -, h⟩ := bind_eq_ok.mp h
  obtain ⟨_, -, h⟩ := bind_eq_ok.mp h
  obtain rfl := pure_eq_ok.mp h
  refine .added _ rfl fun slot hslot => ?_
  obtain ⟨org, parentId⟩ := slot
  obtain ⟨hscope, hparent⟩ := customises_eq_some.mp hslot
  exact hfree parentId hparent org hscope

theorem writes_deleteRuleSet {ruleSetId : Id} (h : deleteRuleSet db ruleSetId = .ok db') :
    Writes db op db' := by
  obtain ⟨_, -, h⟩ := bind_eq_ok.mp h
  obtain rfl := pure_eq_ok.mp h
  exact .removed ruleSetId

/-- The search for an active customised rule finds nothing only if there is none. -/
theorem forall_of_findActiveCustomised {organizationId globalRuleSetId : Id}
    (h : db.findActiveCustomised organizationId globalRuleSetId = .ok none) :
    ∀ row ∈ db.rules.rows, row.slot ≠ some (organizationId, globalRuleSetId) := by
  intro row hrow hslot
  obtain ⟨hactive, hcustomises⟩ := slot_eq_some.mp hslot
  obtain ⟨hscope, hparent⟩ := customises_eq_some.mp hcustomises
  have hmem : row ∈ db.rules.rows.filter fun row => row.scope = .org organizationId &&
      row.parentGlobalRuleSetId = some globalRuleSetId && row.status = .active :=
    List.mem_filter.mpr ⟨hrow, by simp [hscope, hparent, hactive]⟩
  rw [Db.findActiveCustomised] at h
  split at h
  case h_1 hnil =>
    rw [hnil] at hmem
    exact List.not_mem_nil hmem
  case h_2 => simp at h
  case h_3 => simp at h

/-- **What an operation does to the store** is one of three things. -/
theorem writes_of_run (h : op.run env now db = .ok db') : Writes db op db' := by
  cases op with
  | createRuleSet payload trigger conditions actions =>
      exact writes_createRuleSet h fun parentId hparent => by cases hparent
  | updateRuleSet ruleSetId changes graph expectedVersion =>
      obtain ⟨_, -, h⟩ := bind_eq_ok.mp h
      obtain ⟨_, -, h⟩ := bind_eq_ok.mp h
      exact writes_updateById h fun hactive => by simp [Op.activates, hactive]
  | setRuleStatus ruleSetId status expectedVersion =>
      exact writes_updateById h fun hactive => by simp [Op.activates, Option.some.inj hactive]
  | createCustomised organizationId globalRuleSetId changes graph =>
      obtain ⟨_, -, h⟩ := bind_eq_ok.mp h
      obtain ⟨_, -, h⟩ := bind_eq_ok.mp h
      obtain ⟨_, -, h⟩ := bind_eq_ok.mp h
      obtain ⟨existing, hexisting, h⟩ := bind_eq_ok.mp h
      obtain ⟨_, hnone, h⟩ := bind_eq_ok.mp h
      obtain rfl : existing = none := by simpa using raiseIf_eq_ok.mp hnone
      refine writes_createRuleSet h fun parentId hparent org hscope => ?_
      obtain rfl := Option.some.inj hparent
      obtain rfl := RuleScope.org.inj hscope
      exact forall_of_findActiveCustomised hexisting
  | restoreDefault organizationId ruleSetId expectedVersion =>
      obtain ⟨_, -, h⟩ := bind_eq_ok.mp h
      obtain ⟨_, -, h⟩ := bind_eq_ok.mp h
      obtain ⟨_, -, h⟩ := bind_eq_ok.mp h
      obtain ⟨_, -, h⟩ := bind_eq_ok.mp h
      obtain ⟨_, -, h⟩ := bind_eq_ok.mp h
      obtain ⟨_, -, h⟩ := bind_eq_ok.mp h
      exact writes_deleteRuleSet h
  | deleteRuleSet ruleSetId => exact writes_deleteRuleSet h

/-- What an operation does to the slots of the rules. -/
theorem slotWrites_of_writes (hwrites : Writes db op db') :
    Table.SlotWrites StatusAutomationRuleSet.slot StatusAutomationRuleSet.customises
      (fun row => row.status = .active) db.rules op.activates db'.rules := by
  cases hwrites with
  | added row hid hfree => exact .inserted row (hid ▸ Table.fresh_notMem db.rules) hfree
  | changed now ruleSetId changes graph hstatus =>
      refine .modified ruleSetId (StatusAutomationRuleSet.changed now changes graph) (fun _ => rfl)
        (fun _ => rfl) fun r hactive => ?_
      cases hchange : changes.status with
      | none => exact .inl (by simpa [StatusAutomationRuleSet.changed, hchange] using hactive)
      | some status =>
          have hactive' : status = .active := by
            simpa [StatusAutomationRuleSet.changed, hchange] using hactive
          exact .inr (hstatus (by rw [hchange, hactive']))
  | removed ruleSetId =>
      apply Table.SlotWrites.shrunk
      case hf => exact fun _ => rfl
      case hactive => exact fun _ hactive => hactive
      case hnamed =>
        intro r slot hslot
        obtain ⟨organizationId, parentId⟩ := slot
        obtain ⟨hscope, hparent⟩ := customises_eq_some.mp hslot
        exact customises_eq_some.mpr ⟨hscope, (Option.filter_eq_some_iff.mp hparent).1⟩

/-- One active rule for each global rule, as long as no request clashes. -/
theorem activeOnce_run (env : Env) (organizations : Id → Bool) {requests : List (Instant × Op)}
    (hrequests : Runs.Along (step env) (fun db request => request.2.clashes db = false)
      (.initial organizations) requests) :
    ActiveOnce (Runs.run (step env) (.initial organizations) requests) := by
  have hstart : ActiveOnce (.initial organizations) := Table.uniqueOn_empty
  refine Runs.run_invariant_of_along (I := ActiveOnce) (fun db request h hop => ?_) hstart hrequests
  rw [step]
  cases hrun : request.2.run env request.1 db with
  | error e => exact h
  | ok db' =>
      exact h.of_slotWrites (fun _ _ => slot_eq_some)
        (slotWrites_of_writes (writes_of_run hrun)) hop

end StatusAutomationRules

/-- **One active customisation**: in a run of either service, in which no request makes a rule
active next to another active one for the same global rule, no organisation has two active rules
that customise one global rule. -/
theorem one_active_customisation (env : SuspensionRules.Env)
    (organizations : Table SuspensionRules.Organization.id) (users : Table SuspensionRules.User.id)
    (requests : List (Instant × SuspensionRules.Op))
    (hrequests : Runs.Along (SuspensionRules.step env)
      (fun db request => request.2.clashes db = false) (.initial organizations users) requests)
    (env' : StatusAutomationRules.Env) (organizations' : Id → Bool)
    (requests' : List (Instant × StatusAutomationRules.Op))
    (hrequests' : Runs.Along (StatusAutomationRules.step env')
      (fun db request => request.2.clashes db = false) (.initial organizations') requests') :
    SuspensionRules.ActiveOnce
      (Runs.run (SuspensionRules.step env) (.initial organizations users) requests) ∧
    StatusAutomationRules.ActiveOnce
      (Runs.run (StatusAutomationRules.step env') (.initial organizations') requests') :=
  ⟨SuspensionRules.activeOnce_run env organizations users hrequests,
    StatusAutomationRules.activeOnce_run env' organizations' hrequests'⟩

/-! ### Two active customisations -/

namespace SuspensionRules

/-- One organisation, `1`. -/
def oneOrganization : Table Organization.id := .singleton ⟨1, .active⟩

/-- Rule `1` is made for everybody; organisation `1` customises it twice (rules `2` and `3`),
without making its rules active. -/
def twoCopies : List (Instant × Op) :=
  [(0, .createRuleSet ⟨"late", none, .global, none, none, .creditLimit, .active, none, false, true,
      false, false, false⟩ [⟨0, none, .invoiceOverdueDays, 3000, none⟩]),
    (1, .createCustomised 1 1 ⟨some "copy", none, some .inactive, none, none, none, none, none,
      none⟩ none),
    (2, .createCustomised 1 1 ⟨some "another copy", none, some .inactive, none, none, none, none,
      none, none⟩ none)]

end SuspensionRules

namespace StatusAutomationRules

@[inherit_doc SuspensionRules.twoCopies]
def twoCopies : List (Instant × Op) :=
  [(0, .createRuleSet ⟨"deliver", .global, none, .active, 0, none⟩ ⟨.bookingOrder, "CREATED"⟩ []
      ["CONFIRMED"]),
    (1, .createCustomised 1 1 ⟨some "copy", some .inactive, none, none⟩ .none),
    (2, .createCustomised 1 1 ⟨some "another copy", some .inactive, none, none⟩ .none)]

end StatusAutomationRules

/-- The first copy of a rule becomes active, the second one does not. -/
theorem one_copy_active :
    SuspensionRules.ActiveOnce (Runs.run (SuspensionRules.step ⟨fun _ => ""⟩)
      (.initial SuspensionRules.oneOrganization .empty)
      (SuspensionRules.twoCopies ++ [(3, .setOrgRuleStatus 1 2 .active none)])) ∧
    StatusAutomationRules.ActiveOnce (Runs.run (StatusAutomationRules.step ⟨fun _ => ""⟩)
      (.initial fun _ => true)
      (StatusAutomationRules.twoCopies ++ [(3, .setRuleStatus 2 .active none)])) :=
  one_active_customisation _ _ _ _ (by decide +kernel) _ _ _ (by decide +kernel)

/-- **Two active customisations**: nothing keeps the second copy from becoming active, too. -/
theorem two_active_customisations :
    ¬ SuspensionRules.ActiveOnce (Runs.run (SuspensionRules.step ⟨fun _ => ""⟩)
      (.initial SuspensionRules.oneOrganization .empty)
      (SuspensionRules.twoCopies ++ [(3, .setOrgRuleStatus 1 2 .active none),
        (4, .setOrgRuleStatus 1 3 .active none)])) ∧
    ¬ StatusAutomationRules.ActiveOnce (Runs.run (StatusAutomationRules.step ⟨fun _ => ""⟩)
      (.initial fun _ => true)
      (StatusAutomationRules.twoCopies ++ [(3, .setRuleStatus 2 .active none),
        (4, .setRuleStatus 3 .active none)])) :=
  ⟨by decide +kernel, by decide +kernel⟩

end SwCouriers
