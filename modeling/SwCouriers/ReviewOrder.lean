import SwCouriers.DraftIsolation

/-!
# The Order of Review Steps

That the trade references of an application are verified and that its credit was checked are two
facts, but there is one status column for both. A successful check sets CREDIT_CHECK_COMPLETED,
and the verification that leaves no reference open sets REFERENCES_VERIFIED, whatever the status
was. `mark_ready_for_decision` asks for CREDIT_CHECK_COMPLETED.

So whichever of the two comes last decides: after a complete review the application can be marked
ready exactly if the last step of the review was the credit check.

## Main results

* `passes_of_verified`: a reference that one of the steps has verified stays verified.
* `ready_iff_check_last`: marking ready succeeds exactly if no verification came last.
-/

namespace SwCouriers.CreditApplications

open Checked
open CreditStatus (Call)

/-- A step of the review of an application. -/
inductive ReviewStep where
  | verify (refId : Id) (status : TradeReferenceVerificationStatus)
  | check (assessment : Assessment)
  | refresh (assessment : Assessment)

namespace ReviewStep

/-- The request that takes the step. -/
def op (applicationId : Id) : ReviewStep → Op
  | verify refId status => .verifyTradeReference applicationId refId status
  | check assessment => .runCreditCheck applicationId assessment
  | refresh assessment => .refreshCreditCheck applicationId assessment

/-- The step verifies a trade reference. -/
def verifies : ReviewStep → Bool
  | verify _ _ => true
  | check _ | refresh _ => false

/-- The step completes the credit check. -/
def completes : ReviewStep → Bool
  | check .report | refresh .report => true
  | _ => false

end ReviewStep

/-- The steps one after the other, each of which has to succeed. -/
def reviewAll (env : Env) (applicationId : Id) : List (Call × ReviewStep) → Db →
    Except ServiceError Db
  | [], db => .ok db
  | s :: steps, db => do reviewAll env applicationId steps (← (s.2.op applicationId).run env s.1 db)

/-- The steps make a complete review: every reference is verified with a passing outcome, and of
the steps that check the credit the last one completes the check. -/
structure CompleteReview (db : Db) (organizationId applicationId : Id)
    (steps : List (Call × ReviewStep)) : Prop where
  organization : ∀ s ∈ steps, s.1.organizationId = organizationId
  passing : ∀ s ∈ steps, ∀ refId status, s.2 = .verify refId status → status.passes = true
  references : ∀ ref ∈ db.referencesOf applicationId, ∃ s ∈ steps, ∃ status,
    s.2 = .verify ref.id status
  checked : ∃ earlier c, (steps.map (·.2)).filter (!·.verifies) = earlier ++ [c] ∧
    c.completes = true

variable {steps : List (Call × ReviewStep)}

section

variable {env : Env} {db db' : Db} {call : Call} {applicationId : Id}

/-! ### What each step does -/

/-- What a step that checks the credit leaves alone, and what it does if it completes the
check. -/
structure ChecksCredit (applicationId : Id) (call : Call) (step : ReviewStep) (db db' : Db) :
    Prop where
  references : db'.references = db.references
  credit : db'.credit = db.credit
  organization : db.credit.organizations call.organizationId = true
  completed : step.completes = true → ∃ app investigations,
    db.getActive applicationId call.organizationId = some app ∧
      db' = { db with investigations := investigations }.checked call app .creditCheckCompleted

theorem checksCredit_run {assessment : Assessment}
    (h : runCreditCheck db call applicationId assessment = .ok db') :
    ChecksCredit applicationId call (.check assessment) db db' := by
  obtain ⟨horg, app, happ, -, h⟩ := opened_eq_ok.mp h
  obtain ⟨_, -, h⟩ := bind_eq_ok.mp h
  cases assessment with
  | report =>
      obtain rfl := pure_eq_ok.mp h
      exact ⟨rfl, rfl, horg, fun _ => ⟨app, db.investigations, happ, rfl⟩⟩
  | noCompanyFound ordered =>
      obtain ⟨db₁, hfresh, h⟩ := bind_eq_ok.mp h
      obtain rfl := pure_eq_ok.mp h
      obtain ⟨investigations, rfl⟩ := openFreshInvestigation_eq hfresh
      exact ⟨rfl, rfl, horg, fun hreport => absurd hreport Bool.false_ne_true⟩
  | failure error =>
      obtain rfl := pure_eq_ok.mp h
      exact ⟨rfl, rfl, horg, fun hreport => absurd hreport Bool.false_ne_true⟩

theorem checksCredit_refresh {assessment : Assessment}
    (h : refreshCreditCheck db call applicationId assessment = .ok db') :
    ChecksCredit applicationId call (.refresh assessment) db db' := by
  obtain ⟨horg, app, happ, -, h⟩ := opened_eq_ok.mp h
  obtain ⟨_, -, h⟩ := bind_eq_ok.mp h
  obtain ⟨investigation, -, h⟩ := bind_eq_ok.mp h
  cases assessment with
  | report =>
      obtain rfl := pure_eq_ok.mp h
      exact ⟨rfl, rfl, horg, fun _ => ⟨app, _, happ, rfl⟩⟩
  | noCompanyFound ordered =>
      obtain rfl := pure_eq_ok.mp h
      exact ⟨rfl, rfl, horg, fun hreport => absurd hreport Bool.false_ne_true⟩
  | failure error =>
      obtain rfl := pure_eq_ok.mp h
      exact ⟨rfl, rfl, horg, fun hreport => absurd hreport Bool.false_ne_true⟩

/-- A verification sets the outcome of its reference, and the status if none is open then. -/
theorem verifyTradeReference_eq_ok {refId : Id} {status : TradeReferenceVerificationStatus}
    (h : verifyTradeReference db call applicationId refId status = .ok db') :
    ∃ app, db.getActive applicationId call.organizationId = some app ∧
      db'.references = (db.setReference call refId status).references ∧
      (db'.countUnverified applicationId = 0 → ∀ row ∈ db'.applications.rows,
        row.id = applicationId → row.status = .referencesVerified) := by
  obtain ⟨horg, app, happ, -, h⟩ := opened_eq_ok.mp h
  obtain ⟨_, -, h⟩ := bind_eq_ok.mp h
  obtain ⟨ref, -, h⟩ := bind_eq_ok.mp h
  obtain rfl := pure_eq_ok.mp h
  obtain ⟨hmem, rfl, -, -⟩ := getActive_eq_some.mp happ
  refine ⟨app, happ, by split <;> rfl, fun hcount row hrow hid => ?_⟩
  split at hcount
  case isFalse hopen => exact absurd hcount hopen
  case isTrue hnone =>
    rw [if_pos hnone] at hrow
    have hset : app ∈ (db.setReference call refId status).applications.rows := hmem
    rcases (mem_updateApplication hset rfl).mp hrow with rfl | ⟨-, hne⟩
    · rfl
    · exact absurd hid hne

/-! ### References -/

theorem mem_setReference {refId : Id} {status : TradeReferenceVerificationStatus}
    {ref' : OrgCreditApplicationTradeReference} :
    ref' ∈ (db.setReference call refId status).references.rows ↔
      ∃ ref ∈ db.references.rows,
        (if ref.id = refId then ref.verifiedAs call status else ref) = ref' :=
  Table.mem_modify_iff (f := OrgCreditApplicationTradeReference.verifiedAs call status)
    fun _ => rfl

/-- A reference after a step of a complete review: its own verification passes, and the others
are as they were. -/
theorem references_step {s : Call × ReviewStep}
    (hpassing : ∀ refId status, s.2 = .verify refId status → status.passes = true)
    (h : (s.2.op applicationId).run env s.1 db = .ok db') :
    ∀ ref' ∈ db'.references.rows, ∃ ref ∈ db.references.rows, ref'.id = ref.id ∧
      ref'.applicationId = ref.applicationId ∧
      (ref'.verificationStatus = ref.verificationStatus ∨ ref'.verificationStatus.passes = true) ∧
      ∀ status, s.2 = .verify ref'.id status → ref'.verificationStatus.passes = true := by
  obtain ⟨call, step⟩ := s
  cases step with
  | verify refId status =>
      obtain ⟨app, -, hrefs, -⟩ := verifyTradeReference_eq_ok h
      intro ref' href'
      rw [hrefs] at href'
      obtain ⟨ref, href, rfl⟩ := mem_setReference.mp href'
      have hpass := hpassing refId status rfl
      refine ⟨ref, href, by split <;> rfl, by split <;> rfl, ?_, fun status' heq => ?_⟩
      · split
        · exact .inr hpass
        · exact .inl rfl
      · obtain ⟨hid, -⟩ := ReviewStep.verify.inj heq
        by_cases hsame : ref.id = refId
        · rw [if_pos hsame]
          exact hpass
        · rw [if_neg hsame] at hid
          exact absurd hid.symm hsame
  | check assessment =>
      rw [(checksCredit_run h).references]
      exact fun ref href => ⟨ref, href, rfl, rfl, .inl rfl, fun _ heq => by simp at heq⟩
  | refresh assessment =>
      rw [(checksCredit_refresh h).references]
      exact fun ref href => ⟨ref, href, rfl, rfl, .inl rfl, fun _ heq => by simp at heq⟩

/-- **A reference that one of the steps has verified stays verified.** -/
theorem passes_of_verified
    (hpassing : ∀ s ∈ steps, ∀ refId status, s.2 = .verify refId status → status.passes = true)
    (h : reviewAll env applicationId steps db = .ok db') :
    ∀ ref' ∈ db'.references.rows, ∃ ref ∈ db.references.rows, ref'.id = ref.id ∧
      ref'.applicationId = ref.applicationId ∧
      (ref'.verificationStatus = ref.verificationStatus ∨ ref'.verificationStatus.passes = true) ∧
      ((∃ s ∈ steps, ∃ status, s.2 = .verify ref'.id status) →
        ref'.verificationStatus.passes = true) := by
  induction steps generalizing db with
  | nil =>
      obtain rfl := Except.ok.inj h
      exact fun ref href => ⟨ref, href, rfl, rfl, .inl rfl, fun ⟨_, hs, _⟩ =>
        absurd hs List.not_mem_nil⟩
  | cons s steps ih =>
      obtain ⟨db₁, hstep, hrest⟩ := bind_eq_ok.mp h
      intro ref' href'
      obtain ⟨ref₁, href₁, hid₁, happ₁, hstatus₁, hverified₁⟩ :=
        ih (fun s hs => hpassing s (.tail _ hs)) hrest ref' href'
      obtain ⟨ref, href, hid, happ, hstatus, hverified⟩ :=
        references_step (hpassing s (.head _)) hstep ref₁ href₁
      refine ⟨ref, href, hid₁.trans hid, happ₁.trans happ, ?_, ?_⟩
      · rcases hstatus₁ with hsame | hpass
        · rw [hsame]
          exact hstatus
        · exact .inr hpass
      · rintro ⟨s', hs', status, heq⟩
        rcases List.mem_cons.mp hs' with rfl | hs'
        · have hpass := hverified status (hid₁ ▸ heq)
          rcases hstatus₁ with hsame | hpass₁
          · rwa [hsame]
          · exact hpass₁
        · exact hverified₁ ⟨s', hs', status, heq⟩

/-- After a complete review no reference is open. -/
theorem countUnverified_eq_zero {organizationId : Id}
    (hcomplete : CompleteReview db organizationId applicationId steps)
    (h : reviewAll env applicationId steps db = .ok db') :
    db'.countUnverified applicationId = 0 := by
  refine List.countP_eq_zero.mpr fun ref' href' => ?_
  obtain ⟨hmem', happ'⟩ := List.mem_filter.mp href'
  obtain ⟨ref, hmem, hid, happ, -, hverified⟩ := passes_of_verified hcomplete.passing h ref' hmem'
  have href : ref ∈ db.referencesOf applicationId :=
    List.mem_filter.mpr ⟨hmem, happ ▸ happ'⟩
  simpa using hverified (hid ▸ hcomplete.references ref href)

/-! ### The last step -/

theorem reviewAll_append {steps' : List (Call × ReviewStep)} :
    reviewAll env applicationId (steps ++ steps') db =
      reviewAll env applicationId steps db >>= reviewAll env applicationId steps' := by
  induction steps generalizing db with
  | nil => rfl
  | cons s steps ih =>
      simp only [List.cons_append, reviewAll]
      cases (s.2.op applicationId).run env s.1 db with
      | error e => rfl
      | ok db₁ => exact ih

/-- What is checked, with no reference open, can be marked ready. -/
theorem markReady_completed {app : OrgCreditApplication}
    (horg : db.credit.organizations call.organizationId = true)
    (happ : db.getActive applicationId call.organizationId = some app)
    (hstatus : app.status = .creditCheckCompleted)
    (hcount : db.countUnverified applicationId = 0) :
    markReadyForDecision db call applicationId =
      .ok (db.updateApplication app fun app => { app with status := .readyForDecision }) := by
  refine opened_eq_ok.mpr ⟨horg, app, happ, by rw [hstatus]; rfl, ?_⟩
  refine bind_eq_ok.mpr ⟨(), raiseIf_eq_ok.mpr (by simp [hstatus]), ?_⟩
  refine bind_eq_ok.mpr ⟨(), raiseIf_eq_ok.mpr (by simp [hstatus]), ?_⟩
  exact bind_eq_ok.mpr ⟨(), raiseIf_eq_ok.mpr (by simp [hcount]), rfl⟩

/-- A step that completes the check leaves an application that can be marked ready, if no
reference is open. -/
theorem markReady_of_completes {step : ReviewStep} {call' : Call}
    (h : ChecksCredit applicationId call' step db db') (hstep : step.completes = true)
    (horg : call.organizationId = call'.organizationId)
    (hcount : db'.countUnverified applicationId = 0) :
    ∃ db'', markReadyForDecision db' call applicationId = .ok db'' ∧
      ∀ row ∈ db''.applications.rows, row.id = applicationId →
        row.status = .readyForDecision := by
  have hexists : db'.credit.organizations call.organizationId = true := by
    rw [h.credit, horg]
    exact h.organization
  obtain ⟨app, investigations, happ, rfl⟩ := h.completed hstep
  obtain ⟨hmem, rfl, hown, hdeleted⟩ := getActive_eq_some.mp happ
  let checked : OrgCreditApplication :=
    { app with
      status := .creditCheckCompleted
      creditCheckRunAt := some call'.now
      version := app.version + 1 }
  have hset : app ∈ { db with investigations := investigations }.applications.rows := hmem
  have hmem' : checked ∈ ({ db with investigations := investigations }.checked call' app
      .creditCheckCompleted).applications.rows := (mem_updateApplication hset rfl).mpr (.inl rfl)
  have hactive := getActive_eq_some.mpr ⟨hmem', rfl, hown.trans horg.symm, hdeleted⟩
  refine ⟨_, markReady_completed hexists hactive rfl hcount, ?_⟩
  intro row hrow hid
  rcases (mem_updateApplication hmem' rfl).mp hrow with rfl | ⟨-, hne⟩
  · rfl
  · exact absurd hid hne

/-- What was verified last cannot be marked ready. -/
theorem not_markReady_of_verified (hcount : db.countUnverified applicationId = 0)
    (hverified : db.countUnverified applicationId = 0 → ∀ row ∈ db.applications.rows,
      row.id = applicationId → row.status = .referencesVerified) {db'' : Db} :
    markReadyForDecision db call applicationId ≠ .ok db'' := by
  intro h
  obtain ⟨-, app, happ, -, h⟩ := opened_eq_ok.mp h
  obtain ⟨_, -, h⟩ := bind_eq_ok.mp h
  obtain ⟨_, hstatus, -⟩ := bind_eq_ok.mp h
  obtain ⟨hmem, hid, -, -⟩ := getActive_eq_some.mp happ
  refine raiseIf_eq_ok.mp hstatus ?_
  rw [hverified hcount app hmem hid]
  simp

end

/-- **After a complete review** every step of which has succeeded, in whatever order, marking the
application ready succeeds, and leaves it READY_FOR_DECISION, exactly if the last step of the
review was not a verification. -/
theorem ready_iff_check_last (env : Env) {db db' : Db} {organizationId applicationId : Id}
    {steps : List (Call × ReviewStep)}
    (hcomplete : CompleteReview db organizationId applicationId steps)
    (hrun : reviewAll env applicationId steps db = .ok db') {call : Call}
    (hcall : call.organizationId = organizationId) :
    (∃ db'', markReadyForDecision db' call applicationId = .ok db'' ∧
      ∀ row ∈ db''.applications.rows, row.id = applicationId →
        row.status = .readyForDecision) ↔
    ∃ earlier s, steps = earlier ++ [s] ∧ s.2.verifies = false := by
  have hcount := countUnverified_eq_zero hcomplete hrun
  obtain ⟨earlierChecks, c, hchecks, hcompletes⟩ := hcomplete.checked
  rcases List.eq_nil_or_concat steps with rfl | ⟨earlier, ⟨call', step⟩, rfl⟩
  · simp at hchecks
  · rw [List.concat_eq_append] at hrun hchecks hcomplete ⊢
    rw [reviewAll_append] at hrun
    obtain ⟨db₁, -, hlast⟩ := bind_eq_ok.mp hrun
    obtain ⟨db₂, hstep, hnil⟩ := bind_eq_ok.mp hlast
    obtain rfl := Except.ok.inj hnil
    have horg : call.organizationId = call'.organizationId :=
      hcall.trans (hcomplete.organization (call', step) (by simp)).symm
    constructor
    · rintro ⟨db'', hready, -⟩
      refine ⟨earlier, (call', step), rfl, ?_⟩
      cases step with
      | verify refId status =>
          obtain ⟨app, -, -, hverified⟩ := verifyTradeReference_eq_ok hstep
          exact absurd hready (not_markReady_of_verified hcount hverified)
      | check assessment => rfl
      | refresh assessment => rfl
    · rintro ⟨earlier', s, heq, hs⟩
      obtain ⟨-, rfl⟩ : earlier = earlier' ∧ (call', step) = s := by simpa using heq
      -- The last step is the one that completes the check.
      have hc : step = c := by
        have hfilter : (step.verifies) = false := hs
        simp only [List.map_append, List.map_cons, List.map_nil, List.filter_append,
          List.filter_cons, hfilter, Bool.not_false, if_true, List.filter_nil] at hchecks
        exact (List.append_inj' hchecks rfl).2 |> List.head_eq_of_cons_eq
      obtain rfl := hc
      cases step with
      | verify refId status => exact absurd hs (by simp [ReviewStep.verifies])
      | check assessment =>
          exact markReady_of_completes (checksCredit_run hstep) hcompletes horg hcount
      | refresh assessment =>
          exact markReady_of_completes (checksCredit_refresh hstep) hcompletes horg hcount

/-! ### Two orders of one review -/

/-- A trade reference with everything filled in. -/
def supplier (name : String) : TradeReferenceInput :=
  ⟨some name, some "A. Clerk", some "0123", some "clerk@example.com", some .overTenYears⟩

/-- An application with everything filled in. -/
def completeData : List Assignment :=
  [.companyRegistrationNumber (some "12345678"), .yearsTrading (some 4),
    .annualTurnover (some 90000000), .bankName (some "Bank"), .bankSortCode (some "00-00-00"),
    .bankAccountNumberLast4 (some "1234"), .requestedCreditLimit (some 500000),
    .requestedPaymentTermsDays (some 30), .expectedMonthlySpend (some 100000),
    .directorSignatoryName (some "D. Rector"), .directorSignatoryPosition (some "Director"),
    .consentCreditCheck true, .consentTermsAndConditions true, .consentDataProcessing true]

/-- The application was submitted with two trade references, and has a reviewer. -/
def underReview : Db :=
  Runs.run (step anyEmail) (.initial (fun _ => true) fun _ => none)
    [(callerAt 1, .create completeData (some [supplier "First", supplier "Second"])),
      (callerAt 2, .assignReviewer 1 9)]

/-- The references are verified, and then the credit is checked. -/
def checkLast : List (Call × ReviewStep) :=
  [(callerAt 3, .verify 1 .verified), (callerAt 4, .verify 2 .verified),
    (callerAt 5, .check .report)]

/-- The credit is checked first. -/
def checkFirst : List (Call × ReviewStep) :=
  [(callerAt 3, .check .report), (callerAt 4, .verify 1 .verified),
    (callerAt 5, .verify 2 .verified)]

/-- The application has two references, so it takes their verification and a check. -/
theorem complete_underReview (horg : ∀ s ∈ steps, s.1.organizationId = 1)
    (hpassing : ∀ s ∈ steps, ∀ refId status, s.2 = .verify refId status → status.passes = true)
    (hverified : ∀ refId ∈ [1, 2], ∃ s ∈ steps, ∃ status, s.2 = .verify refId status)
    (hchecks : (steps.map (·.2)).filter (!·.verifies) = [.check .report]) :
    CompleteReview underReview 1 1 steps := by
  have hids : (underReview.referencesOf 1).map (·.id) = [1, 2] := by decide +kernel
  refine ⟨horg, hpassing, fun ref href => hverified ref.id ?_, [], .check .report, hchecks, rfl⟩
  rw [← hids]
  exact List.mem_map_of_mem href

theorem complete_checkLast : CompleteReview underReview 1 1 checkLast := by
  refine complete_underReview ?_ ?_ ?_ rfl <;>
    simp [checkLast, callerAt, TradeReferenceVerificationStatus.passes]

theorem complete_checkFirst : CompleteReview underReview 1 1 checkFirst := by
  refine complete_underReview ?_ ?_ ?_ rfl <;>
    simp [checkFirst, callerAt, TradeReferenceVerificationStatus.passes]

/-- Every step succeeds in either order; but only if the check came last the application can be
marked ready. -/
theorem check_first_blocks :
    CompleteReview underReview 1 1 checkFirst ∧ CompleteReview underReview 1 1 checkLast ∧
    (reviewAll anyEmail 1 checkFirst underReview).map
      (fun db => db.applications.rows.map (·.status)) = .ok [.referencesVerified] ∧
    ((reviewAll anyEmail 1 checkFirst underReview >>= fun db =>
      markReadyForDecision db (callerAt 6) 1).map fun db => db.applications.rows.map (·.status)) =
        .error (invalid "Credit assessment must be completed first.") ∧
    ((reviewAll anyEmail 1 checkLast underReview >>= fun db =>
      markReadyForDecision db (callerAt 6) 1).map fun db => db.applications.rows.map (·.status)) =
        .ok [.readyForDecision] :=
  ⟨complete_checkFirst, complete_checkLast, by decide +kernel, by decide +kernel,
    by decide +kernel⟩

/-- With the check last, marking ready succeeds. -/
theorem check_last_ready :
    CompleteReview underReview 1 1 checkLast ∧
    ∃ db', reviewAll anyEmail 1 checkLast underReview = .ok db' ∧
      ∃ db'', markReadyForDecision db' (callerAt 6) 1 = .ok db'' ∧
        ∀ row ∈ db''.applications.rows, row.id = 1 → row.status = .readyForDecision := by
  have hok : (reviewAll anyEmail 1 checkLast underReview).isOk = true := by decide +kernel
  obtain ⟨db', hrun⟩ := exists_eq_ok hok
  refine ⟨complete_checkLast, db', hrun, ?_⟩
  exact (ready_iff_check_last anyEmail complete_checkLast hrun rfl).mpr
    ⟨[(callerAt 3, .verify 1 .verified), (callerAt 4, .verify 2 .verified)],
      (callerAt 5, .check .report), rfl, rfl⟩

end SwCouriers.CreditApplications
