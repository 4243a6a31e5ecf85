import SwCouriers.Lib.Segments
import SwCouriers.SuspensionRuns

/-!
# What a Rule Says

The conditions of a rule that the request schemas let pass are a formula: AND binds stronger than
OR, and there are no parentheses. `_evaluate_rule_sets` decides it in one pass over the conditions
by position. What it decides does not depend on how the thresholds are converted.

## Main results

* `firesBy_iff`: the pass decides the formula.
* `rule_formula`: for the conditions that the schemas accept, in whatever order they are stored.
-/

namespace SwCouriers.SuspensionRules

open Checked

/-! ### The schemas -/

/-- The check of one condition in `validate_conditions`. -/
def validateConnector (cond : SuspensionRuleCondition) : Except String Unit := do
  raiseIf (cond.position = 1 ∧ ¬ (cond.connector = none ∨ cond.connector = some .none))
    "First condition connector must be null/NONE"
  raiseIf (1 < cond.position ∧ ¬ (cond.connector = some .and ∨ cond.connector = some .or))
    "Connector for subsequent conditions must be AND or OR"

/-- `validate_conditions`, as far as it is about the conditions. -/
def validateConditions (conditions : List SuspensionRuleCondition) : Except String Unit := do
  raiseIf ((conditions.map (·.position)).insertionSort (· ≤ ·)
      ≠ (List.range conditions.length).map fun i : ℕ => (i : ℤ) + 1)
    "conditions positions must be sequential starting from 1"
  raiseIf (¬ (conditions.map (·.conditionType)).Nodup)
    "Each condition_type can only appear once per rule"
  checkEach validateConnector conditions

/-! ### The formula -/

/-- A condition that starts a new AND-run. -/
def SuspensionRuleCondition.startsRun (cond : SuspensionRuleCondition) : Bool :=
  cond.connector = some .or

/-- A maximal AND-run of conditions in their order. -/
def IsAndRun (ordered run : List SuspensionRuleCondition) : Prop :=
  Segments.IsSegment SuspensionRuleCondition.startsRun ordered run

/-- Conditions by position: the first has no connector, the others have AND or OR. -/
structure WellConnected (ordered : List SuspensionRuleCondition) : Prop where
  sorted : ordered.Pairwise fun c c' => c.position < c'.position
  connected : ∀ cond ∈ ordered.tail, cond.connector = some .and ∨ cond.connector = some .or

variable {float : ℚ → ℚ} {metrics metrics' : Metrics} {rule rule' : SuspensionRuleSet}
  {conditions ordered : List SuspensionRuleCondition}

/-- On conditions with a connector the pass is the loop over the segments. -/
theorem foldl_nextBy (float : ℚ → ℚ) (metrics : Metrics) (groups : Groups)
    (h : ∀ cond ∈ conditions, cond.connector = some .and ∨ cond.connector = some .or) :
    ((conditions.foldl (Groups.nextBy float metrics) groups).groupResults,
      (conditions.foldl (Groups.nextBy float metrics) groups).currentGroupResult)
      = conditions.foldl (Segments.step SuspensionRuleCondition.startsRun
          (SuspensionRuleCondition.okBy float metrics))
          (groups.groupResults, groups.currentGroupResult) := by
  induction conditions generalizing groups with
  | nil => rfl
  | cons cond conditions ih =>
      rw [List.foldl_cons, List.foldl_cons, ih _ fun c hc => h c (List.mem_cons_of_mem cond hc)]
      congr 1
      rcases h cond List.mem_cons_self with hand | hor
      · simp [Groups.nextBy, Segments.step, SuspensionRuleCondition.startsRun, hand]
      · simp [Groups.nextBy, Segments.step, SuspensionRuleCondition.startsRun, hor]

/-- A rule has the same conditions in order as any other arrangement of them has. -/
theorem sortedConditions_eq (hperm : rule.conditions.Perm ordered) (h : WellConnected ordered) :
    rule.sortedConditions = ordered := by
  have hsorted : ordered.Pairwise fun c c' => c.position ≤ c'.position :=
    h.sorted.imp fun hlt => hlt.le
  have hnodup : (ordered.map (·.position)).Nodup :=
    List.pairwise_map.mpr (h.sorted.imp fun hlt => hlt.ne)
  have hsame : rule.sortedConditions.Perm ordered := (List.perm_insertionSort _ _).trans hperm
  refine hsame.eq_of_pairwise (fun c c' hc hc' hle hle' => ?_)
    (List.pairwise_insertionSort _ _) hsorted
  exact List.inj_on_of_nodup_map hnodup (hsame.mem_iff.mp hc) hc' (le_antisymm hle hle')

/-- **The pass decides the formula**: a rule fires exactly if all conditions of some AND-run are
met. -/
theorem firesBy_iff (hperm : rule.conditions.Perm ordered) (h : WellConnected ordered) :
    rule.firesBy float metrics = true ↔
      ∃ run, IsAndRun ordered run ∧ ∀ cond ∈ run, cond.okBy float metrics = true := by
  rw [SuspensionRuleSet.firesBy, SuspensionRuleSet.groupResultsBy, sortedConditions_eq hperm h]
  cases ordered with
  | nil => simp [IsAndRun, Segments.not_isSegment_nil]
  | cons cond conditions =>
      have hconnected : ∀ c ∈ conditions, c.connector = some .and ∨ c.connector = some .or :=
        h.connected
      obtain ⟨hresults, hcurrent⟩ := Prod.mk.inj
        (foldl_nextBy float metrics ⟨[], cond.okBy float metrics⟩ hconnected)
      dsimp only
      rw [hresults, hcurrent]
      exact Segments.foldl_head_iff _ _ cond conditions

/-- A condition that is met is still met when its metric is higher. -/
theorem okBy_mono (h : ∀ t, (metrics t).getD 0 ≤ (metrics' t).getD 0)
    {cond : SuspensionRuleCondition} (hok : cond.okBy float metrics = true) :
    cond.okBy float metrics' = true :=
  decide_eq_true ((of_decide_eq_true hok).trans (h cond.conditionType))

/-- What the schemas accept is well connected, by position. -/
theorem wellConnected_of_valid (h : validateConditions conditions = .ok ()) :
    ∃ ordered, ordered.Perm conditions ∧ WellConnected ordered := by
  obtain ⟨⟨⟩, hpositions, h⟩ := bind_eq_ok.mp h
  have hconnectors := ok_of_check h
  have hpositions := not_not.mp (raiseIf_eq_ok.mp hpositions)
  have hconnectors := checkEach_eq_ok.mp hconnectors
  let byPosition : SuspensionRuleCondition → SuspensionRuleCondition → Prop :=
    fun c c' => c.position ≤ c'.position
  have hperm : (conditions.insertionSort byPosition).Perm conditions :=
    List.perm_insertionSort _ _
  have hle : (conditions.insertionSort byPosition).Pairwise byPosition :=
    List.pairwise_insertionSort _ _
  -- The positions, in this order, are the numbers from 1 on.
  have hmap : (conditions.insertionSort byPosition).map (·.position)
      = (List.range conditions.length).map fun i : ℕ => (i : ℤ) + 1 := by
    rw [← hpositions]
    refine ((hperm.map _).trans (List.perm_insertionSort (· ≤ ·) _).symm).eq_of_pairwise'
      (r := (· ≤ ·)) (List.pairwise_map.mpr hle) (List.pairwise_insertionSort _ _)
  have hlt : (conditions.insertionSort byPosition).Pairwise
      fun c c' => c.position < c'.position := by
    have hpositions : ((conditions.insertionSort byPosition).map (·.position)).Pairwise
        (· < ·) := by
      rw [hmap]
      exact List.pairwise_map.mpr (List.pairwise_lt_range.imp fun hlt => by omega)
    exact List.pairwise_map.mp hpositions
  refine ⟨_, hperm, hlt, fun cond hcond => ?_⟩
  cases hordered : conditions.insertionSort byPosition with
  | nil => simp [hordered] at hcond
  | cons first rest =>
      rw [hordered, List.tail_cons] at hcond
      rw [hordered] at hlt hmap hperm
      have hfirst : 1 ≤ first.position := by
        have hmem : first.position ∈ (List.range conditions.length).map fun i : ℕ => (i : ℤ) + 1 :=
          hmap ▸ List.mem_cons_self
        obtain ⟨i, -, hi⟩ := List.mem_map.mp hmem
        omega
      have hlater := (List.pairwise_cons.mp hlt).1 cond hcond
      have hmem := hperm.mem_iff.mp (List.mem_cons_of_mem first hcond)
      obtain ⟨⟨⟩, -, hcheck⟩ := bind_eq_ok.mp (hconnectors cond hmem)
      have hcheck := raiseIf_eq_ok.mp hcheck
      by_contra hnone
      exact hcheck ⟨by omega, hnone⟩

/-- **A rule whose conditions the schemas accept means what it says.** However its conditions are
stored and its thresholds converted, it fires exactly if in the order of positions some maximal
AND-run has only conditions whose metric reaches the threshold. The order of the rows does not
matter, a rule that fires still fires when metrics are higher, and a rule without conditions
does not fire. -/
theorem rule_formula (float : ℚ → ℚ) (conditions : List SuspensionRuleCondition)
    (h : validateConditions conditions = .ok ()) (rule : SuspensionRuleSet)
    (hrule : rule.conditions.Perm conditions) (metrics : Metrics) :
    (∃ ordered : List SuspensionRuleCondition, ordered.Perm conditions ∧
      ordered.Pairwise (fun c c' => c.position < c'.position) ∧
      (rule.firesBy float metrics = true ↔ ∃ run, IsAndRun ordered run ∧
        ∀ cond ∈ run, float (cond.thresholdValue / 100) ≤ (metrics cond.conditionType).getD 0)) ∧
    (∀ rule' : SuspensionRuleSet, rule'.conditions.Perm conditions →
      rule'.firesBy float metrics = rule.firesBy float metrics) ∧
    (∀ metrics' : Metrics, (∀ t, (metrics t).getD 0 ≤ (metrics' t).getD 0) →
      rule.firesBy float metrics = true → rule.firesBy float metrics' = true) ∧
    (conditions = [] → rule.firesBy float metrics = false) := by
  obtain ⟨ordered, hordered, hconnected⟩ := wellConnected_of_valid h
  have hperm := hrule.trans hordered.symm
  refine ⟨⟨ordered, hordered, hconnected.sorted, ?_⟩, fun rule' hrule' => ?_,
    fun metrics' hmono hfires => ?_, fun hnil => ?_⟩
  · rw [firesBy_iff hperm hconnected]
    exact exists_congr fun run => and_congr_right fun _ =>
      forall₂_congr fun cond _ => decide_eq_true_iff
  · rw [Bool.eq_iff_iff, firesBy_iff hperm hconnected,
      firesBy_iff (hrule'.trans hordered.symm) hconnected]
  · obtain ⟨run, hrun, hmet⟩ := (firesBy_iff hperm hconnected).mp hfires
    exact (firesBy_iff hperm hconnected).mpr
      ⟨run, hrun, fun cond hcond => okBy_mono hmono (hmet cond hcond)⟩
  · subst hnil
    rw [SuspensionRuleSet.firesBy, SuspensionRuleSet.groupResultsBy,
      SuspensionRuleSet.sortedConditions, hrule.eq_nil]
    rfl

/-- Overdue for 10 days, or 5000 overdue and 90 per cent of the credit used, stored in another
order. -/
def precedenceRule : SuspensionRuleSet where
  id := 1
  name := "Rule precedence"
  conditionSummary := none
  scope := .global
  parentGlobalRuleSetId := none
  ruleType := .creditLimit
  status := .active
  notes := none
  autoSuspensionEnabled := false
  pauseNewBookings := false
  restrictPortalLogin := false
  notifyFinanceTeam := false
  notifyAccountManager := false
  conditions := [⟨3, some .and, .creditUtilization, 9000, some "%"⟩,
    ⟨1, some .none, .invoiceOverdueDays, 1000, some "Days"⟩,
    ⟨2, some .or, .totalOverdueAmount, 500000, some "GBP"⟩]
  createdAt := 0
  updatedAt := 0
  version := 1

/-- Overdue for 5 days, with 6000 overdue and 91 per cent used. -/
def precedenceMetrics : Metrics
  | .invoiceOverdueDays => some 5
  | .totalOverdueAmount => some 6000
  | .creditUtilization => some 91
  | _ => none

/-- With 7000 overdue. -/
def moreOverdue : Metrics :=
  fun t => if t = .totalOverdueAmount then some 7000 else precedenceMetrics t

/-- The second run is met, so the rule fires, and still does when more is overdue. -/
theorem precedence_fires :
    precedenceRule.firesBy id precedenceMetrics = true ∧
    precedenceRule.firesBy id moreOverdue = true := by
  have hfires : precedenceRule.firesBy id precedenceMetrics = true := by decide +kernel
  refine ⟨hfires, (rule_formula id precedenceRule.conditions (by decide +kernel) precedenceRule
    (.refl _) precedenceMetrics).2.2.1 moreOverdue (fun t => ?_) hfires⟩
  cases t <;> decide +kernel

end SwCouriers.SuspensionRules
