import Mathlib.Data.Prod.Lex
import SwCouriers.StatusAutomation
import SwCouriers.Lib.Runs

/-!
# Runs of the Status Automation

A delivered event changes the status of its entity when no log row of it is there, and the first
rule that matches prescribes a status other than the one that the entity has by then. That the log
row is there says that the event was evaluated before, but it goes with its rule: after the rule is
deleted, the same event may be evaluated again, under another rule. What status the event led to
decides about the rule only, and not whether the entity still has it.

The nightly replay never completes, so it changes nothing.

## Main results

* `evaluateForEvent_acts`, `evaluateForEvent_idle`: when an evaluation changes a status, and which.
* `automation_acts_once_iff`: each event causes one change at most in exactly those runs where no
  event that has caused one acts again after its log row was deleted.
* `automation_acts_on_any_status`: a delivery changes a status whatever the entity has become.
* `reconciliation_never_completes`: every replay raises.
-/

namespace SwCouriers.StatusAutomation

open Checked
open StatusAutomationRules (EntityType TimingValue StatusAutomationRuleSet)

/-! ### The order of the rules -/

/-- What the rules are ordered by. -/
def sortKey (rule : StatusAutomationRuleSet) : ℤ ×ₗ ℤ ×ₗ ℕ :=
  toLex (rule.priority, toLex (rule.updatedAt, rule.id))

theorem before_iff {a b : StatusAutomationRuleSet} : a.Before b ↔ sortKey b ≤ sortKey a := by
  rw [sortKey, sortKey, Prod.Lex.toLex_le_toLex, Prod.Lex.toLex_le_toLex]
  rfl

instance : Std.Total StatusAutomationRuleSet.Before :=
  ⟨fun a b => by
    rw [before_iff, before_iff]
    exact le_total _ _⟩

instance : IsTrans StatusAutomationRuleSet StatusAutomationRuleSet.Before :=
  ⟨fun _ _ _ hab hbc => before_iff.mpr ((before_iff.mp hbc).trans (before_iff.mp hab))⟩

theorem pairwise_effectiveForOrg {db : StatusAutomationRules.Db} {organizationId : Id}
    {rules : List StatusAutomationRuleSet} (h : db.effectiveForOrg organizationId = .ok rules) :
    rules.Pairwise StatusAutomationRuleSet.Before := by
  replace h := ok_of_check h
  obtain rfl := pure_eq_ok.mp h
  exact List.pairwise_insertionSort _ _

/-- The first rule that counts for the organisation and matches the event. -/
def Store.firstMatch (store : Store) (ctx : StatusEventContext) :
    Option StatusAutomationRuleSet :=
  match store.rules.effectiveForOrg ctx.organizationId with
  | .ok rules => rules.find? (store.Matches ctx)
  | .error _ => none

/-- The rule is one of those that count and match, and is tried before all others of them. -/
def Store.FirstOf (store : Store) (ctx : StatusEventContext) (rule : StatusAutomationRuleSet) :
    Prop :=
  ∃ rules, store.rules.effectiveForOrg ctx.organizationId = .ok rules ∧ rule ∈ rules ∧
    store.Matches ctx rule = true ∧
      ∀ other ∈ rules, store.Matches ctx other = true → rule.Before other

variable {rule : StatusAutomationRuleSet}

theorem firstOf_of_firstMatch {store : Store} {ctx : StatusEventContext}
    (h : store.firstMatch ctx = some rule) : store.FirstOf ctx rule := by
  unfold Store.firstMatch at h
  split at h
  · rename_i rules hrules
    obtain ⟨hmatch, pre, post, rfl, hpre⟩ := List.find?_eq_some_iff_append.mp h
    refine ⟨_, hrules, by simp, hmatch, fun other hother hmatches => ?_⟩
    have hsorted := pairwise_effectiveForOrg hrules
    obtain ⟨-, hpost, -⟩ := List.pairwise_append.mp hsorted
    rcases List.mem_append.mp hother with hin | hin
    · exact absurd hmatches (by simpa using hpre other hin)
    rcases List.mem_cons.mp hin with rfl | hin
    · exact before_iff.mpr le_rfl
    · exact (List.pairwise_cons.mp hpost).1 other hin
  · exact absurd h (by simp)

/-! ### Statuses -/

section Frames

variable (store : Store) (entityType : EntityType) (entityId : Id)

@[simp] theorem changes_setStatus (status : String) :
    (store.setStatus entityType entityId status).changes = store.changes := by
  cases entityType <;> rfl

theorem statusOf_setStatus {old : String} (h : store.statusOf entityType entityId = some old)
    (status : String) (t : EntityType) (id : Id) :
    (store.setStatus entityType entityId status).statusOf t id
      = if t = entityType ∧ id = entityId then some status else store.statusOf t id := by
  by_cases ht : t = entityType
  · subst ht
    by_cases hid : id = entityId
    · subst hid
      rw [if_pos ⟨rfl, rfl⟩]
      cases t <;> simp only [Store.statusOf, Store.setStatus, Table.find?_modify_self] at h ⊢ <;>
        obtain ⟨r, hr, -⟩ := Option.map_eq_some_iff.mp h <;> rw [hr] <;> rfl
    · rw [if_neg fun hand => hid hand.2]
      cases t <;> simp only [Store.statusOf, Store.setStatus] <;>
        rw [Table.find?_modify_of_ne _ _ _ hid]
  · rw [if_neg fun hand => ht hand.1]
    cases t <;> cases entityType <;> first | rfl | exact absurd rfl ht

end Frames

/-! ### What an evaluation does -/

section Evaluation

variable {settings : Settings} {store : Store} {ctx : StatusEventContext} {now : Instant}

/-- **The loop fires the first rule that matches.** -/
theorem evaluateRules_eq (settings : Settings) (store : Store) (ctx : StatusEventContext)
    (now : Instant) (rules : List StatusAutomationRuleSet) (metrics : Metrics) :
    ∃ metrics', evaluateRules settings store ctx now metrics rules
      = (rules.find? (store.Matches ctx)).elim (.ok (store, metrics'))
          fun rule => fireRule settings store ctx now rule metrics' := by
  induction rules generalizing metrics with
  | nil => exact ⟨metrics, rfl⟩
  | cons rule rules ih =>
      rw [evaluateRules, List.find?_cons]
      cases htrigger : triggerMatches rule ctx with
      | false =>
          obtain ⟨metrics', hrest⟩ := ih metrics
          refine ⟨metrics', ?_⟩
          simpa [Store.Matches, htrigger] using hrest
      | true =>
          cases hconditions : store.conditionsMatch rule.conditions ctx with
          | false =>
              obtain ⟨metrics', hrest⟩ := ih { metrics with evaluated := metrics.evaluated + 1 }
              refine ⟨metrics', ?_⟩
              simpa [Store.Matches, htrigger, hconditions] using hrest
          | true =>
              refine ⟨⟨metrics.evaluated + 1, metrics.matched + 1, metrics.executed⟩, ?_⟩
              simp [Store.Matches, htrigger, hconditions]

/-- When an event that is delivered changes a status: it is evaluated, it has no log row, and the
first rule that matches prescribes a status that the entity does not have. -/
structure Store.Acts (settings : Settings) (store : Store) (ctx : StatusEventContext)
    (lockAcquired : Bool) (rule : StatusAutomationRuleSet) (newStatus : String) : Prop where
  evaluates : settings.Evaluates ctx.organizationId
  locked : lockAcquired = true
  unlogged : ¬ store.Logged ctx.eventId
  live : settings.shadowMode = false
  first : store.firstMatch ctx = some rule
  action : rule.actions.head? = some newStatus
  valid : newStatus ∈ statusValues ctx.entityType
  differs : ∃ old, store.statusOf ctx.entityType ctx.target = some old ∧ old ≠ newStatus

/-- The store in which the event has changed the status of its entity, and no other. -/
structure Store.Changed (store : Store) (ctx : StatusEventContext)
    (rule : StatusAutomationRuleSet) (newStatus : String) (store' : Store) : Prop where
  changes : store'.changes = store.changes ++
    [⟨ctx.eventId, rule.id, ctx.entityType, ctx.target, newStatus⟩]
  status : ∀ t id, store'.statusOf t id
    = if t = ctx.entityType ∧ id = ctx.target then some newStatus else store.statusOf t id

/-- Automation has changed nothing. -/
structure Store.Idle (store store' : Store) : Prop where
  changes : store'.changes = store.changes
  status : ∀ t id, store'.statusOf t id = store.statusOf t id

theorem Store.Idle.refl (store : Store) : store.Idle store := ⟨rfl, fun _ _ => rfl⟩

theorem evaluateForEvent_eq (hevaluates : settings.Evaluates ctx.organizationId)
    (hunlogged : ¬ store.Logged ctx.eventId) {rules : List StatusAutomationRuleSet}
    (hrules : store.rules.effectiveForOrg ctx.organizationId = .ok rules) :
    evaluateForEvent settings store ctx true now
      = evaluateRules settings store ctx now ⟨0, 0, 0⟩ rules := by
  rw [evaluateForEvent, if_neg (not_not.mpr hevaluates), if_neg (by simp), if_neg hunlogged,
    hrules, ok_bind]

/-- **An event that acts** changes the status of its entity to the one that is prescribed. -/
theorem evaluateForEvent_acts (now : Instant) {lockAcquired : Bool} {newStatus : String}
    (h : store.Acts settings ctx lockAcquired rule newStatus) :
    ∃ store' metrics,
      evaluateForEvent settings store ctx lockAcquired now = .ok (store', metrics) ∧
        store.Changed ctx rule newStatus store' := by
  obtain ⟨hevaluates, rfl, hunlogged, hlive, hfirst, haction, hvalid, old, hold, hdiffers⟩ := h
  unfold Store.firstMatch at hfirst
  split at hfirst
  swap
  · exact absurd hfirst (by simp)
  rename_i rules hrules
  obtain ⟨metrics, hloop⟩ := evaluateRules_eq settings store ctx now rules ⟨0, 0, 0⟩
  rw [evaluateForEvent_eq hevaluates hunlogged hrules, hloop, hfirst, Option.elim_some]
  have hexecute : executeChangeStatus store newStatus ctx now
      = .ok ((store.setStatus ctx.entityType ctx.target newStatus).recordTransition ctx.entityType
          ctx.target (some old) newStatus ctx.actorUserId now, 1) := by
    rw [executeChangeStatus, hold]
    dsimp only
    rw [(raiseIf_eq_ok (w := ⟨⟩)).mpr (not_not.mpr hvalid), ok_bind, if_neg hdiffers]
    rfl
  rw [fireRule, if_neg (by simp [hlive]), orRaise_eq_ok.mpr haction, ok_bind, hexecute, ok_bind]
  refine ⟨_, _, rfl, ?_, fun t id => ?_⟩
  · exact congrArg (· ++ [_]) (changes_setStatus store _ _ _)
  · exact statusOf_setStatus store _ _ hold newStatus t id

/-- What the loop does when a rule is fired that does not act. -/
theorem fireRule_idle {metrics metrics' : Metrics} {store' : Store}
    (h : fireRule settings store ctx now rule metrics = .ok (store', metrics'))
    (hidle : ∀ newStatus, settings.shadowMode = false → rule.actions.head? = some newStatus →
      newStatus ∈ statusValues ctx.entityType →
        ∀ old, store.statusOf ctx.entityType ctx.target = some old → old = newStatus) :
    store.Idle store' := by
  unfold fireRule at h
  split_ifs at h with hshadow
  · obtain ⟨rfl, -⟩ := Prod.mk.inj (Except.ok.inj h)
    exact ⟨rfl, fun _ _ => rfl⟩
  obtain ⟨newStatus, haction, h⟩ := orRaise_bind_eq_ok.mp h
  obtain ⟨⟨changed, count⟩, hexecute, h⟩ := bind_eq_ok.mp h
  obtain ⟨rfl, -⟩ := Prod.mk.inj (pure_eq_ok.mp h)
  -- No status was written.
  obtain ⟨rfl, rfl⟩ : changed = store ∧ count = 0 := by
    unfold executeChangeStatus at hexecute
    split at hexecute
    · split_ifs at hexecute
      obtain ⟨rfl, rfl⟩ := Prod.mk.inj (Except.ok.inj hexecute)
      exact ⟨rfl, rfl⟩
    · rename_i old hold
      obtain ⟨hvalid, hexecute⟩ := raiseIf_bind_eq_ok.mp hexecute
      have hlive := Bool.eq_false_of_not_eq_true hshadow
      have hsame := hidle newStatus hlive haction
        (not_not.mp hvalid) old hold
      rw [if_pos hsame] at hexecute
      obtain ⟨rfl, rfl⟩ := Prod.mk.inj (pure_eq_ok.mp hexecute)
      exact ⟨rfl, rfl⟩
  exact ⟨rfl, fun _ _ => rfl⟩

/-- **An event that does not act** changes no status. -/
theorem evaluateForEvent_idle {lockAcquired : Bool} {store' : Store} {metrics : Metrics}
    (h : evaluateForEvent settings store ctx lockAcquired now = .ok (store', metrics))
    (hidle : ∀ rule newStatus, ¬ store.Acts settings ctx lockAcquired rule newStatus) :
    store.Idle store' := by
  by_cases hevaluates : settings.Evaluates ctx.organizationId
  swap
  · rw [evaluateForEvent, if_pos hevaluates] at h
    obtain ⟨rfl, -⟩ := Prod.mk.inj (Except.ok.inj h)
    exact .refl store
  cases lockAcquired with
  | false =>
      rw [evaluateForEvent, if_neg (not_not.mpr hevaluates), if_pos rfl] at h
      obtain ⟨rfl, -⟩ := Prod.mk.inj (Except.ok.inj h)
      exact .refl store
  | true =>
      by_cases hlogged : store.Logged ctx.eventId
      · rw [evaluateForEvent, if_neg (not_not.mpr hevaluates), if_neg (by simp),
          if_pos hlogged] at h
        obtain ⟨rfl, -⟩ := Prod.mk.inj (Except.ok.inj h)
        exact .refl store
      rw [evaluateForEvent, if_neg (not_not.mpr hevaluates), if_neg (by simp),
        if_neg hlogged] at h
      obtain ⟨rules, hrules, h⟩ := bind_eq_ok.mp h
      obtain ⟨metrics', hloop⟩ := evaluateRules_eq settings store ctx now rules ⟨0, 0, 0⟩
      rw [hloop] at h
      cases hfind : rules.find? (store.Matches ctx) with
      | none =>
          rw [hfind] at h
          obtain ⟨rfl, -⟩ := Prod.mk.inj (Except.ok.inj h)
          exact .refl store
      | some rule =>
          rw [hfind] at h
          refine fireRule_idle h fun newStatus hlive haction hvalid old hold => ?_
          by_contra hdiffers
          have hfirst : store.firstMatch ctx = some rule := by
            rw [Store.firstMatch, hrules]
            exact hfind
          exact hidle rule newStatus ⟨hevaluates, rfl, hlogged, hlive, hfirst, haction, hvalid, old,
            hold, hdiffers⟩

end Evaluation

/-! ### Requests -/

/-- Every replay raises: before it has looked at the stops, if not earlier. -/
theorem exists_error_runDailyReconciliation (settings : Settings) (store : Store)
    (locks : Id → Bool) (runDate : Day) (now : Instant) :
    ∃ e, runDailyReconciliation settings store locks runDate now = .error e := by
  unfold runDailyReconciliation
  cases replayPackageEvents settings locks now store (store.packageEventsOf runDate) with
  | error e => exact ⟨e, rfl⟩
  | ok store' => exact ⟨_, rfl⟩

/-- The request is the delivery of an event that acts. -/
def Request.ActsBy (settings : Settings) (store : Store) (ctx : StatusEventContext)
    (rule : StatusAutomationRuleSet) (newStatus : String) : Request → Prop
  | .deliver ctx' lockAcquired => ctx' = ctx ∧ store.Acts settings ctx lockAcquired rule newStatus
  | _ => False

section Steps

variable (env : StatusAutomationRules.Env) {settings : Settings} {store : Store}

theorem step_acts {request : Instant × Request} {ctx : StatusEventContext} {newStatus : String}
    (h : request.2.ActsBy settings store ctx rule newStatus) :
    store.Changed ctx rule newStatus (Request.step env settings store request) := by
  obtain ⟨now, request⟩ := request
  cases request with
  | deliver ctx' lockAcquired =>
      obtain ⟨rfl, hacts⟩ := h
      obtain ⟨store', metrics, hok, hchanged⟩ := evaluateForEvent_acts now hacts
      unfold Request.step Request.exec
      dsimp only
      rw [hok]
      exact hchanged
  | _ => exact h.elim

/-- A request in which no event acts records no change. -/
theorem changes_step {request : Instant × Request}
    (h : ∀ ctx rule newStatus, ¬ request.2.ActsBy settings store ctx rule newStatus) :
    (Request.step env settings store request).changes = store.changes := by
  obtain ⟨now, request⟩ := request
  unfold Request.step
  cases hexec : request.exec env settings now store with
  | error e => rfl
  | ok store' =>
      rw [settle_ok]
      cases request with
      | changeStatus entityType entityId toStatus actorUserId =>
          obtain ⟨old, -, hexec⟩ := bind_eq_ok.mp hexec
          replace hexec := ok_of_check hexec
          split_ifs at hexec
          · obtain rfl := pure_eq_ok.mp hexec
            rfl
          · obtain rfl := pure_eq_ok.mp hexec
            exact changes_setStatus store _ _ _
      | deliver ctx lockAcquired =>
          obtain ⟨⟨store'', metrics⟩, hok, rfl⟩ := map_eq_ok.mp hexec
          exact (evaluateForEvent_idle hok fun rule newStatus hacts =>
            h ctx rule newStatus ⟨rfl, hacts⟩).changes
      | reconcile runDate locks =>
          obtain ⟨e, he⟩ := exists_error_runDailyReconciliation settings store locks runDate now
          exact absurd (he.symm.trans hexec) (by simp)
      | editRules op =>
          obtain ⟨rules, -, rfl⟩ := map_eq_ok.mp hexec
          rfl

end Steps

/-! ### Once per event -/

/-- Every event has caused one change at most. -/
def Store.OncePerEvent (store : Store) : Prop := (store.changes.map (·.eventId)).Nodup

/-- The delivery of an event that has caused a change before and acts again. -/
def Request.ActsAgain (settings : Settings) (store : Store) (request : Request) : Prop :=
  ∃ ctx rule newStatus, request.ActsBy settings store ctx rule newStatus ∧
    ctx.eventId ∈ store.changes.map (·.eventId)

theorem oncePerEvent_step_iff (env : StatusAutomationRules.Env) {settings : Settings}
    {store : Store} {request : Instant × Request} (honce : store.OncePerEvent) :
    (Request.step env settings store request).OncePerEvent ↔
      ¬ request.2.ActsAgain settings store := by
  by_cases hacts : ∃ ctx rule newStatus, request.2.ActsBy settings store ctx rule newStatus
  · obtain ⟨ctx, rule, newStatus, hacts⟩ := hacts
    have hchanges := (step_acts env hacts).changes
    have hagain : request.2.ActsAgain settings store ↔
        ctx.eventId ∈ store.changes.map (·.eventId) := by
      refine ⟨?_, fun hmem => ⟨ctx, rule, newStatus, hacts, hmem⟩⟩
      rintro ⟨ctx', rule', newStatus', hacts', hmem⟩
      -- A request delivers one event.
      obtain ⟨now, request⟩ := request
      cases request with
      | deliver ctx'' lockAcquired =>
          obtain ⟨rfl, -⟩ := hacts
          obtain ⟨rfl, -⟩ := hacts'
          exact hmem
      | _ => exact hacts.elim
    rw [hagain, Store.OncePerEvent, hchanges, List.map_append, List.map_singleton,
      List.nodup_append_comm, List.singleton_append, List.nodup_cons]
    exact and_iff_left honce
  · have hnone : ∀ ctx rule newStatus, ¬ request.2.ActsBy settings store ctx rule newStatus :=
      fun ctx rule newStatus h => hacts ⟨ctx, rule, newStatus, h⟩
    rw [Store.OncePerEvent, changes_step env hnone]
    refine iff_of_true honce ?_
    rintro ⟨ctx, rule, newStatus, h, -⟩
    exact hnone ctx rule newStatus h

/-- The store before automation has done anything. -/
def Store.unautomated (store : Store) : Store := { store with changes := [] }

/-- **Automation acts once per event** in exactly those runs in which no event that has caused a
change is delivered again when its log row is gone, and then finds a rule that prescribes another
status. Every change is the one prescribed by the first of the rules that count and match. -/
theorem automation_acts_once_iff (env : StatusAutomationRules.Env) (settings : Settings)
    (store : Store) (requests : List (Instant × Request)) :
    ((∀ pre post, requests = pre ++ post →
        (Runs.run (Request.step env settings) store.unautomated pre).OncePerEvent) ↔
      Runs.Along (Request.step env settings)
        (fun store request => ¬ request.2.ActsAgain settings store) store.unautomated requests) ∧
    ∀ pre request post, requests = pre ++ request :: post →
      let before := Runs.run (Request.step env settings) store.unautomated pre
      let after := Request.step env settings before request
      after.changes = before.changes ∨
        ∃ ctx rule newStatus, before.FirstOf ctx rule ∧ rule.actions.head? = some newStatus ∧
          before.Changed ctx rule newStatus after := by
  refine ⟨?_, fun pre request post _ => ?_⟩
  · have honce : store.unautomated.OncePerEvent := List.nodup_nil
    exact Runs.forall_prefix_iff_along (I := fun _ => True) (fun _ _ _ => trivial)
      (fun _ _ _ honce => oncePerEvent_step_iff env honce) trivial honce requests
  · dsimp only
    generalize Runs.run (Request.step env settings) store.unautomated pre = before
    by_cases hacts : ∃ ctx rule newStatus, request.2.ActsBy settings before ctx rule newStatus
    · obtain ⟨ctx, rule, newStatus, hacts⟩ := hacts
      have hchanged := step_acts env hacts
      obtain ⟨now, request⟩ := request
      cases request with
      | deliver ctx' lockAcquired =>
          obtain ⟨rfl, hacts⟩ := hacts
          exact .inr ⟨ctx', rule, newStatus, firstOf_of_firstMatch hacts.first, hacts.action,
            hchanged⟩
      | _ => exact hacts.elim
    · exact .inl (changes_step env fun ctx rule newStatus h => hacts ⟨ctx, rule, newStatus, h⟩)

/-! ### Whatever the status is by then -/

/-- What a delivery without an event that acts leaves behind. -/
theorem idle_deliver (env : StatusAutomationRules.Env) {settings : Settings} {store : Store}
    {now : Instant} {ctx : StatusEventContext} {lockAcquired : Bool}
    (h : ∀ rule newStatus, ¬ store.Acts settings ctx lockAcquired rule newStatus) :
    store.Idle (Request.step env settings store (now, .deliver ctx lockAcquired)) := by
  unfold Request.step
  cases hexec : Request.exec env settings now store (.deliver ctx lockAcquired) with
  | error e => exact .refl store
  | ok store' =>
      obtain ⟨⟨store'', metrics⟩, hok, rfl⟩ := map_eq_ok.mp hexec
      exact evaluateForEvent_idle hok h

/-- A replay raises, and is rolled back. -/
theorem step_reconcile (env : StatusAutomationRules.Env) (settings : Settings) (store : Store)
    (now : Instant) (runDate : Day) (locks : Id → Bool) :
    Request.step env settings store (now, .reconcile runDate locks) = store := by
  obtain ⟨e, he⟩ := exists_error_runDailyReconciliation settings store locks runDate now
  unfold Request.step Request.exec
  dsimp only
  rw [he]
  rfl

/-- The store that requests lead to. -/
def Store.reached (env : StatusAutomationRules.Env) (settings : Settings) (store : Store)
    (requests : List (Instant × Request)) : Store :=
  Runs.run (Request.step env settings) store.unautomated requests

/-- **Automation acts on any status.** After every run the delivery of an event changes a status
exactly if the event is evaluated, has no log row, and the first rule that matches it prescribes a
status other than the one that the entity has by then, whatever that one is; the entity gets the
prescribed status, and no other status changes. A replay changes nothing. -/
theorem automation_acts_on_any_status (env : StatusAutomationRules.Env) (settings : Settings)
    (store : Store) (requests : List (Instant × Request)) (now : Instant) :
    (∀ ctx lockAcquired,
      (∃ rule newStatus,
        (store.reached env settings requests).Acts settings ctx lockAcquired rule newStatus ∧
          (store.reached env settings requests).Changed ctx rule newStatus
            (store.reached env settings (requests ++ [(now, .deliver ctx lockAcquired)]))) ∨
      ((∀ rule newStatus,
        ¬ (store.reached env settings requests).Acts settings ctx lockAcquired rule newStatus) ∧
          (store.reached env settings requests).Idle
            (store.reached env settings (requests ++ [(now, .deliver ctx lockAcquired)])))) ∧
    ∀ runDate locks,
      store.reached env settings (requests ++ [(now, .reconcile runDate locks)])
        = store.reached env settings requests := by
  have hstep : ∀ request, store.reached env settings (requests ++ [request])
      = Request.step env settings (store.reached env settings requests) request :=
    fun request => Runs.run_append _ _ _
  simp only [hstep]
  generalize store.reached env settings requests = before
  refine ⟨fun ctx lockAcquired => ?_, fun runDate locks =>
    step_reconcile env settings before now runDate locks⟩
  by_cases hacts : ∃ rule newStatus, before.Acts settings ctx lockAcquired rule newStatus
  · obtain ⟨rule, newStatus, hacts⟩ := hacts
    have hby : (now, Request.deliver ctx lockAcquired).2.ActsBy settings before ctx rule
      newStatus := ⟨rfl, hacts⟩
    exact .inl ⟨rule, newStatus, hacts, step_acts env hby⟩
  · have hnone : ∀ rule newStatus, ¬ before.Acts settings ctx lockAcquired rule newStatus :=
      fun rule newStatus h => hacts ⟨rule, newStatus, h⟩
    exact .inr ⟨hnone, idle_deliver env hnone⟩

/-! ### The nightly replay -/

/-- **The replay never completes**, on no day and with no events. -/
theorem reconciliation_never_completes (settings : Settings) (store : Store) (locks : Id → Bool)
    (runDate : Day) (now : Instant) :
    ¬ ∃ store', runDailyReconciliation settings store locks runDate now = .ok store' ∧
      ∀ t id, store'.statusOf t id = store.statusOf t id := by
  rintro ⟨store', hok, -⟩
  obtain ⟨e, he⟩ := exists_error_runDailyReconciliation settings store locks runDate now
  exact absurd (he.symm.trans hok) (by simp)

/-! ### A parcel that is damaged -/

/-- A parcel that is out for delivery. -/
def parcelStore : Store where
  rules := StatusAutomationRules.Db.initial fun _ => true
  orders := .singleton ⟨1, 1, "DELIVERY_IN_PROGRESS"⟩
  stops := .singleton ⟨1, 1, "OUT_FOR_DELIVERY"⟩
  packages := .singleton ⟨1, 1, some 1, "OUT_FOR_DELIVERY"⟩
  events := .empty
  logs := []
  changes := []

/-- Automation is on for every organisation. -/
def liveSettings : Settings := ⟨true, false, []⟩

/-- Identifiers are written as digits. -/
def digits : StatusAutomationRules.Env := ⟨toString⟩

/-- A global rule for damaged packages. -/
def damagedRule (name : String) (priority : ℤ) (newStatus : String) : Request :=
  .editRules (.createRuleSet ⟨name, .global, none, .active, priority, none⟩
    ⟨.package, "DAMAGED"⟩ [] [newStatus])

/-- The event of the damage, as it is sent to the evaluation. -/
def damageEvent : Request :=
  .deliver ⟨1, 1, .package, 1, some "OUT_FOR_DELIVERY", "DAMAGED", some 1, some 1, none⟩ true

/-- The parcel is found damaged, and the first of two rules starts its return. -/
def damaged : List (Instant × Request) :=
  [(0, damagedRule "return" 300 "RETURN_INITIATED"), (1, damagedRule "dispose" 100 "DISPOSED"),
    (2, .changeStatus .package 1 "DAMAGED" none), (3, damageEvent)]

/-- The first rule is deleted, and its log row with it, and the event is delivered again. -/
def deliveredAgain : List (Instant × Request) :=
  damaged ++ [(4, .editRules (.deleteRuleSet 1)), (5, damageEvent)]

/-- The second rule disposes of the parcel. -/
theorem event_acts_twice :
    ¬ (∀ requests : List (Instant × Request),
        (Runs.run (Request.step digits liveSettings) parcelStore.unautomated
          requests).OncePerEvent) ∧
      (Runs.run (Request.step digits liveSettings) parcelStore.unautomated
          deliveredAgain).changes.map (fun change => (change.eventId, change.newStatus))
        = [(1, "RETURN_INITIATED"), (1, "DISPOSED")] := by
  refine ⟨fun h => ?_, by decide +kernel⟩
  have hids : (Runs.run (Request.step digits liveSettings) parcelStore.unautomated
      deliveredAgain).changes.map (·.eventId) = [1, 1] := by decide +kernel
  have honce := h deliveredAgain
  rw [Store.OncePerEvent, hids] at honce
  exact absurd honce (by decide)

/-- The parcel has come back before the event of the damage is evaluated: the event starts its
return once more. -/
theorem late_event_rewinds :
    ¬ ∀ (requests : List (Instant × Request)) (now : Instant) (ctx : StatusEventContext),
      let before := Runs.run (Request.step digits liveSettings) parcelStore.unautomated requests
      let after := Request.step digits liveSettings before (now, .deliver ctx true)
      after.changes ≠ before.changes →
        before.statusOf ctx.entityType ctx.target = some ctx.toStatus := by
  intro h
  have hstatus := h [(0, damagedRule "return" 300 "RETURN_INITIATED"),
    (1, .changeStatus .package 1 "DAMAGED" none), (2, .changeStatus .package 1 "RETURNED" none)] 3
    ⟨1, 1, .package, 1, some "OUT_FOR_DELIVERY", "DAMAGED", some 1, some 1, none⟩
    (by decide +kernel)
  exact absurd hstatus (by decide +kernel)

/-- The day of the damage, after its event was evaluated once: the replay raises. -/
theorem replay_raises :
    runDailyReconciliation liveSettings
      (Runs.run (Request.step digits liveSettings) parcelStore.unautomated damaged)
        (fun _ => true) 0 6 = .error (.uncaught "NameError") := rfl

end SwCouriers.StatusAutomation
