import SwCouriers.CreditReviews
import SwCouriers.CreditStatusHistory
import SwCouriers.Lib.Runs

/-!
# Drafts and the Review

An application whose lifecycle state is DRAFT should not be reviewed, and one that is approved
should have passed the validation of its submission. Neither `assign_reviewer` nor `cancel` looks
at the lifecycle state, and a draft has the status SUBMITTED: a reviewer may be assigned to a
draft, which is then checked and approved without ever being submitted.

The other operations ask for a status that an application reaches only after a reviewer was
assigned. So the two are kept apart exactly in the runs in which no reviewer is assigned to a
draft and no draft is cancelled.

## Main results

* `Isolated.step`, `isolated_lost`: what a step keeps, and which steps lose it.
* `drafts_isolated_iff`: drafts stay out of the review exactly if no step assigns a reviewer to a
  draft or cancels one.
-/

namespace SwCouriers.CreditApplications

open Checked ReadCommitted
open CreditStatus (Call)

/-! ### What is claimed of a state -/

/-- Nothing was ever done with the application but to save it. -/
structure OrgCreditApplication.Unreviewed (app : OrgCreditApplication) : Prop where
  status : app.status = .submitted
  assigned : app.reviewerAssignedAt = none
  checked : app.creditCheckRunAt = none
  approved : app.approvedAt = none
  rejected : app.rejectedAt = none
  cancelled : app.cancelledAt = none
  withdrawn : app.withdrawnAt = none

/-- The application and its trade references pass the validation of a submission. -/
def Db.Validated (env : Env) (db : Db) (app : OrgCreditApplication) : Prop :=
  validateForSubmission env app.fields (db.inputsOf app.id) = .ok ()

/-- Drafts are outside the review: none was reviewed, and whatever was approved, or has given an
organisation its credit account, passed the validation. -/
structure DraftsIsolated (env : Env) (db : Db) : Prop where
  drafts : ∀ app ∈ db.applications.rows, app.state = .draft → app.Unreviewed
  approved : ∀ app ∈ db.applications.rows, app.status = .approved → db.Validated env app
  accounts : ∀ acct ∈ db.credit.accounts.rows, ∃ app ∈ db.applications.rows,
    app.organizationId = acct.organizationId ∧ app.status = .approved ∧ db.Validated env app

/-- What the operations keep: everything that was submitted passed the validation. -/
structure Isolated (env : Env) (db : Db) : Prop where
  drafts : ∀ app ∈ db.applications.rows, app.state = .draft → app.Unreviewed
  valid : ∀ app ∈ db.applications.rows, app.state = .active → app.status ≠ .withdrawn →
    db.Validated env app
  accounts : ∀ acct ∈ db.credit.accounts.rows, ∃ app ∈ db.applications.rows,
    app.organizationId = acct.organizationId ∧ app.status = .approved

/-- The request assigns a reviewer to a draft, or cancels one. -/
def TouchesDraft (db : Db) (request : Call × Op) : Prop :=
  match request.2 with
  | .assignReviewer applicationId _ | .cancel applicationId _ =>
      db.credit.organizations request.1.organizationId = true ∧
        ∃ app, db.getActive applicationId request.1.organizationId = some app ∧
          app.state = .draft
  | _ => False

section

variable {env : Env} {db db' : Db} {call : Call} {app : OrgCreditApplication}

theorem state_of_status (h : Isolated env db) (hmem : app ∈ db.applications.rows)
    (hstatus : app.status ≠ .submitted) : app.state = .active := by
  cases hstate : app.state with
  | active => rfl
  | draft => exact absurd (h.drafts app hmem hstate).status hstatus

theorem Isolated.draftsIsolated (h : Isolated env db) : DraftsIsolated env db := by
  have happroved : ∀ app ∈ db.applications.rows, app.status = .approved → db.Validated env app := by
    intro app hmem hstatus
    exact h.valid app hmem (state_of_status h hmem (by simp [hstatus])) (by simp [hstatus])
  refine ⟨h.drafts, happroved, fun acct hacct => ?_⟩
  obtain ⟨app, hmem, horg, hstatus⟩ := h.accounts acct hacct
  exact ⟨app, hmem, horg, hstatus, happroved app hmem hstatus⟩

/-! ### Lookups -/

variable {applicationId id : Id} {f : OrgCreditApplication → OrgCreditApplication}

theorem getActive_eq_some {organizationId : Id} :
    db.getActive applicationId organizationId = some app ↔
      app ∈ db.applications.rows ∧ app.id = applicationId ∧
        app.organizationId = organizationId ∧ app.deletedAt = none := by
  rw [Db.getActive, Option.filter_eq_some_iff, Table.find?_eq_some_iff]
  simp only [Bool.and_eq_true, decide_eq_true_eq, and_assoc]

/-- What every operation on an application does first. -/
theorem opened_eq_ok {α : Type} {k : OrgCreditApplication → Except ServiceError α} {a : α} :
    (do
      db.checkOrganization call.organizationId
      let app ← db.getActiveOr404 applicationId call.organizationId
      ensureNotTerminal app
      k app) = .ok a ↔
      db.credit.organizations call.organizationId = true ∧
        ∃ app, db.getActive applicationId call.organizationId = some app ∧
          app.status.terminal = false ∧ k app = .ok a := by
  constructor
  · intro h
    obtain ⟨_, horg, h⟩ := bind_eq_ok.mp h
    obtain ⟨app, happ, h⟩ := bind_eq_ok.mp h
    obtain ⟨_, hopen, h⟩ := bind_eq_ok.mp h
    refine ⟨Bool.eq_true_of_not_eq_false (raiseIf_eq_ok.mp horg), app, (orRaise_eq_ok.mp happ), ?_,
      h⟩
    exact Bool.eq_false_of_not_eq_true (raiseIf_eq_ok.mp hopen)
  · rintro ⟨horg, app, happ, hopen, h⟩
    refine bind_eq_ok.mpr ⟨(), raiseIf_eq_ok.mpr (by simp [horg]), ?_⟩
    refine bind_eq_ok.mpr ⟨app, orRaise_eq_ok.mpr happ, ?_⟩
    exact bind_eq_ok.mpr ⟨(), raiseIf_eq_ok.mpr (by simp [hopen]), h⟩

/-! ### What the writes keep -/

/-- The rows after one of them was rewritten. -/
theorem mem_updateApplication {read : OrgCreditApplication} (hmem : app ∈ db.applications.rows)
    (hid : app.id = read.id) {row : OrgCreditApplication} :
    row ∈ (db.updateApplication read f).applications.rows ↔
      row = { f app with id := app.id, version := read.version + 1 } ∨
        row ∈ db.applications.rows ∧ row.id ≠ app.id := by
  rw [Db.updateApplication, Table.mem_modify_iff]
  constructor
  · rintro ⟨row₀, hmem₀, hrow⟩
    split_ifs at hrow with hsame
    · obtain rfl := Table.eq_of_key hmem₀ hmem (hsame.trans hid.symm)
      exact .inl hrow.symm
    · obtain rfl := hrow
      exact .inr ⟨hmem₀, fun h => hsame (h.trans hid)⟩
  · rintro (rfl | ⟨hrow, hne⟩)
    · exact ⟨app, hmem, if_pos hid⟩
    · exact ⟨row, hrow, if_neg fun h => hne (h.trans hid.symm)⟩

/-- Other tables do not matter. -/
theorem Isolated.congr (h : Isolated env db) (happ : db'.applications = db.applications)
    (hinputs : ∀ id, db'.inputsOf id = db.inputsOf id)
    (hacct : db'.credit.accounts = db.credit.accounts) : Isolated env db' := by
  refine ⟨?_, fun app hmem hstate hstatus => ?_, ?_⟩
  · rw [happ]
    exact h.drafts
  · rw [Db.Validated, hinputs]
    exact h.valid app (happ ▸ hmem) hstate hstatus
  · rw [happ, hacct]
    exact h.accounts

/-- An application that is not approved may be rewritten, with its trade references. -/
theorem Isolated.rewrite (h : Isolated env db) (row : OrgCreditApplication)
    (hmem : app ∈ db.applications.rows) (hopen : app.status ≠ .approved) (hid : row.id = app.id)
    (hrows : ∀ r, r ∈ db'.applications.rows ↔ r = row ∨ r ∈ db.applications.rows ∧ r.id ≠ app.id)
    (hinputs : ∀ id, id ≠ app.id → db'.inputsOf id = db.inputsOf id)
    (hacct : db'.credit.accounts = db.credit.accounts)
    (hdraft : row.state = .draft → row.Unreviewed)
    (hvalid : row.state = .active → row.status ≠ .withdrawn → db'.Validated env row) :
    Isolated env db' := by
  refine ⟨fun r hr hstate => ?_, fun r hr hstate hstatus => ?_, fun acct hmem' => ?_⟩
  · rcases (hrows r).mp hr with rfl | ⟨hr, -⟩
    · exact hdraft hstate
    · exact h.drafts r hr hstate
  · rcases (hrows r).mp hr with rfl | ⟨hr, hne⟩
    · exact hvalid hstate hstatus
    · rw [Db.Validated, hinputs r.id hne]
      exact h.valid r hr hstate hstatus
  · obtain ⟨r, hr, horg, hstatus⟩ := h.accounts acct (hacct ▸ hmem')
    refine ⟨r, (hrows r).mpr (.inr ⟨hr, fun hsame => hopen ?_⟩), horg, hstatus⟩
    rwa [← Table.eq_of_key hr hmem hsame]

/-- An application under review stays validated, whatever becomes of its status. -/
theorem Isolated.update (h : Isolated env db) (hmem : app ∈ db.applications.rows)
    (hopen : app.status.terminal = false) (hfields : (f app).fields = app.fields)
    (hstate : (f app).state = .active)
    (hactive : app.state = .active ∨ (f app).status = .withdrawn) :
    Isolated env (db.updateApplication app f) := by
  have hnot : ∀ status : CreditApplicationStatus, status.terminal = true → app.status ≠ status := by
    rintro status hterminal rfl
    exact Bool.false_ne_true (hopen.symm.trans hterminal)
  refine h.rewrite { f app with id := app.id, version := app.version + 1 } hmem
    (hnot .approved rfl) rfl (fun r => mem_updateApplication hmem rfl) (fun _ _ => rfl) rfl
    (fun hdraft => ?_) fun _ hstatus => ?_
  · exact absurd (hstate.symm.trans hdraft) (by simp)
  · have hvalid := h.valid app hmem (hactive.resolve_right hstatus) (hnot .withdrawn rfl)
    change validateForSubmission env (f app).fields (db.inputsOf app.id) = .ok ()
    rw [hfields]
    exact hvalid

/-! ### Trade references -/

theorem inputsOf_addReference (hne : id ≠ applicationId) (ref : TradeReferenceInput × ℕ) :
    (db.addReference applicationId ref).inputsOf id = db.inputsOf id := by
  have hrows : (db.addReference applicationId ref).references.rows =
      db.references.rows ++ [db.newReference applicationId ref] :=
    Table.rows_insert_of_notMem db.references.fresh_notMem
  simp [Db.inputsOf, Db.referencesOf, hrows, Db.newReference, Ne.symm hne]

/-- What replaces the references of one application is no reference of another. -/
theorem inputsOf_sync (hne : id ≠ applicationId) (refs : Option (List TradeReferenceInput)) :
    (db.syncTradeReferences applicationId refs).inputsOf id = db.inputsOf id := by
  cases refs with
  | none => rfl
  | some inputs =>
      have hfold : ∀ (l : List (TradeReferenceInput × ℕ)) (db : Db),
          (l.foldl (Db.addReference applicationId) db).inputsOf id = db.inputsOf id := by
        intro l
        induction l with
        | nil => exact fun _ => rfl
        | cons ref l ih => exact fun db => (ih _).trans (inputsOf_addReference hne ref)
      refine (hfold _ _).trans ?_
      simp only [Db.inputsOf, Db.referencesOf, Table.deleteWhere, List.filter_filter]
      congr 1
      refine List.filter_congr fun ref _ => ?_
      by_cases href : ref.applicationId = id <;> simp [href, hne]

/-- Nothing else changes. -/
theorem sync_eq (db : Db) (applicationId : Id) (refs : Option (List TradeReferenceInput)) :
    ∃ references, db.syncTradeReferences applicationId refs =
      { db with references := references } := by
  cases refs with
  | none => exact ⟨db.references, rfl⟩
  | some inputs =>
      have hfold : ∀ (l : List (TradeReferenceInput × ℕ)) (db : Db), ∃ references,
          l.foldl (Db.addReference applicationId) db = { db with references := references } := by
        intro l
        induction l with
        | nil => exact fun db => ⟨db.references, rfl⟩
        | cons ref l ih => exact fun db => ih _
      exact hfold _ _

/-- The outcome of a verification is no input. -/
theorem inputsOf_setReference (refId : Id) (status : TradeReferenceVerificationStatus) (id : Id) :
    (db.setReference call refId status).inputsOf id = db.inputsOf id := by
  simp only [Db.inputsOf, Db.referencesOf, Db.setReference, Table.modify, Table.rows_mapRows,
    List.filter_map, List.map_map]
  have hfilter : (db.references.rows.filter ((fun ref => decide (ref.applicationId = id)) ∘
      fun r => if r.id = refId then r.verifiedAs call status else r)) =
      db.references.rows.filter fun ref => decide (ref.applicationId = id) := by
    refine List.filter_congr fun ref _ => ?_
    simp only [Function.comp_apply]
    split <;> rfl
  rw [hfilter]
  refine List.map_congr_left fun ref _ => ?_
  simp only [Function.comp_apply]
  split <;> rfl

/-! ### What the operations keep -/

theorem Isolated.addApplication (h : Isolated env db) {state : CreditApplicationLifecycleState}
    {data : List Assignment} {refs : Option (List TradeReferenceInput)}
    (hvalid : state = .active → validateForSubmission env (ApplicationFields.blank.setAll data)
      ((db.addApplication call state data refs).inputsOf db.applications.fresh) = .ok ()) :
    Isolated env (db.addApplication call state data refs) := by
  obtain ⟨references, hsync⟩ := sync_eq
    { db with applications := db.applications.insert (db.newApplication call state data) }
    db.applications.fresh refs
  have heq : db.addApplication call state data refs =
      { db with
        applications := db.applications.insert (db.newApplication call state data)
        references := references } := hsync
  have hfresh : (db.newApplication call state data).id ∉ db.applications.rows.map (·.id) :=
    db.applications.fresh_notMem
  have hrows : ∀ app, app ∈ (db.addApplication call state data refs).applications.rows ↔
      app ∈ db.applications.rows ∨ app = db.newApplication call state data := by
    intro app
    rw [heq]
    exact Table.mem_insert_iff hfresh
  refine ⟨fun app hmem hstate => ?_, fun app hmem hstate hstatus => ?_, fun acct hacct => ?_⟩
  · rcases (hrows app).mp hmem with hmem | rfl
    · exact h.drafts app hmem hstate
    · constructor <;> rfl
  · rcases (hrows app).mp hmem with hmem | rfl
    · have hne : app.id ≠ db.applications.fresh :=
        fun hsame => hfresh (List.mem_map.mpr ⟨app, hmem, hsame⟩)
      have hinputs : (db.addApplication call state data refs).inputsOf app.id =
          db.inputsOf app.id := inputsOf_sync hne refs
      rw [Db.Validated, hinputs]
      exact h.valid app hmem hstate hstatus
    · exact hvalid hstate
  · rw [heq] at hacct
    obtain ⟨app, hmem, horg⟩ := h.accounts acct hacct
    exact ⟨app, (hrows app).mpr (.inl hmem), horg⟩

/-- The row of a draft whose columns were written. -/
def OrgCreditApplication.revised (app : OrgCreditApplication) (data : List Assignment) :
    OrgCreditApplication :=
  { app with
    fields := app.fields.setAll data
    version := if data.isEmpty then app.version else app.version + 1 }

theorem mem_setFields (hmem : app ∈ db.applications.rows) (data : List Assignment)
    (row : OrgCreditApplication) :
    row ∈ (db.setFields app data).applications.rows ↔
      row = app.revised data ∨ row ∈ db.applications.rows ∧ row.id ≠ app.id := by
  cases data with
  | nil =>
      refine ⟨fun hrow => ?_, fun hrow => hrow.elim (fun heq => heq ▸ hmem) (·.1)⟩
      by_cases hid : row.id = app.id
      · exact .inl (Table.eq_of_key hrow hmem hid)
      · exact .inr ⟨hrow, hid⟩
  | cons assignment data => exact mem_updateApplication hmem rfl

theorem getDraft_eq_ok {draftId organizationId : Id} {draft : OrgCreditApplicationDraft}
    (h : db.getDraft draftId organizationId = .ok (draft, app)) :
    app ∈ db.applications.rows := by
  obtain ⟨draft', -, h⟩ := bind_eq_ok.mp h
  obtain ⟨app', happ, h⟩ := orRaise_bind_eq_ok.mp h
  obtain ⟨-, rfl⟩ := Prod.mk.inj (pure_eq_ok.mp h)
  exact (getActive_eq_some.mp happ).1

/-- The columns and the trade references of a draft may be written. -/
theorem Isolated.reviseDraft (h : Isolated env db) (hmem : app ∈ db.applications.rows)
    (hstate : app.state = .draft) (data : List Assignment)
    (refs : Option (List TradeReferenceInput)) :
    Isolated env ((db.setFields app data).syncTradeReferences app.id refs) := by
  obtain ⟨references, hsync⟩ := sync_eq (db.setFields app data) app.id refs
  have hdraft := h.drafts app hmem hstate
  refine h.rewrite (app.revised data) hmem (by simp [hdraft.status]) rfl (fun r => ?_)
    (fun id hne => ?_) ?_ (fun _ => ?_) fun hactive => ?_
  · rw [hsync]
    exact mem_setFields hmem data r
  · rw [inputsOf_sync hne]
    unfold Db.setFields
    split <;> rfl
  · rw [hsync]
    unfold Db.setFields
    split <;> rfl
  · exact ⟨hdraft.status, hdraft.assigned, hdraft.checked, hdraft.approved, hdraft.rejected,
      hdraft.cancelled, hdraft.withdrawn⟩
  · exact absurd (hstate.symm.trans hactive) (by simp)

theorem Isolated.updateDraft (h : Isolated env db) {draftId : Id} {data : List Assignment}
    {refs : Option (List TradeReferenceInput)}
    (hrun : CreditApplications.updateDraft db call draftId data refs = .ok db') :
    Isolated env db' := by
  obtain ⟨_, -, hrun⟩ := bind_eq_ok.mp hrun
  obtain ⟨⟨draft, app⟩, hdraft, hrun⟩ := bind_eq_ok.mp hrun
  obtain ⟨_, hstate, hrun⟩ := bind_eq_ok.mp hrun
  obtain ⟨_, -, hrun⟩ := bind_eq_ok.mp hrun
  obtain ⟨_, -, hrun⟩ := bind_eq_ok.mp hrun
  obtain rfl := pure_eq_ok.mp hrun
  exact h.reviseDraft (getDraft_eq_ok hdraft) (not_not.mp (raiseIf_eq_ok.mp hstate)) data refs

theorem Isolated.publishDraft (h : Isolated env db) {draftId : Id} {data : List Assignment}
    {refs : Option (List TradeReferenceInput)}
    (hrun : CreditApplications.publishDraft env db call draftId data refs = .ok db') :
    Isolated env db' := by
  obtain ⟨_, -, hrun⟩ := bind_eq_ok.mp hrun
  obtain ⟨⟨draft, app⟩, hdraft, hrun⟩ := bind_eq_ok.mp hrun
  obtain ⟨_, hstate, hrun⟩ := bind_eq_ok.mp hrun
  obtain ⟨_, -, hrun⟩ := bind_eq_ok.mp hrun
  obtain ⟨_, -, hrun⟩ := bind_eq_ok.mp hrun
  obtain ⟨_, hvalid, hrun⟩ := bind_eq_ok.mp hrun
  obtain rfl := pure_eq_ok.mp hrun
  have hmem := getDraft_eq_ok hdraft
  have hrevised := h.reviseDraft hmem (not_not.mp (raiseIf_eq_ok.mp hstate)) data refs
  have hmem' : app.revised data ∈
      ((db.setFields app data).syncTradeReferences app.id refs).applications.rows := by
    obtain ⟨references, hsync⟩ := sync_eq (db.setFields app data) app.id refs
    rw [hsync]
    exact (mem_setFields hmem data _).mpr (.inl rfl)
  refine (hrevised.rewrite { (app.revised data).submitted call with
      version := (app.revised data).version + 1 } hmem' ?_ rfl
    (fun r => mem_updateApplication hmem' rfl) (fun _ _ => rfl) rfl (fun hdraft => ?_)
    fun _ _ => hvalid).congr rfl (fun _ => rfl) rfl
  · have hdraft := (h.drafts app hmem (not_not.mp (raiseIf_eq_ok.mp hstate))).status
    simp [OrgCreditApplication.revised, hdraft]
  · exact absurd hdraft (by simp [OrgCreditApplication.submitted])

/-- An operation that only asks for a status beyond SUBMITTED finds no draft. -/
theorem Isolated.review (h : Isolated env db) (hmem : app ∈ db.applications.rows)
    (hopen : app.status.terminal = false) (hstatus : app.status ≠ .submitted)
    (hfields : (f app).fields = app.fields) (hstate : (f app).state = app.state) :
    Isolated env (db.updateApplication app f) := by
  have hactive := state_of_status h hmem hstatus
  exact h.update hmem hopen hfields (hstate.trans hactive) (.inl hactive)

theorem Isolated.assignReviewer (h : Isolated env db) {reviewer : Id}
    (hdraft : ¬ TouchesDraft db (call, .assignReviewer id reviewer))
    (hrun : CreditApplications.assignReviewer db call id reviewer = .ok db') :
    Isolated env db' := by
  obtain ⟨horg, app, happ, hopen, hrun⟩ := opened_eq_ok.mp hrun
  obtain ⟨_, -, hrun⟩ := bind_eq_ok.mp hrun
  obtain rfl := pure_eq_ok.mp hrun
  have hactive : app.state = .active := by
    cases hstate : app.state with
    | active => rfl
    | draft => exact absurd ⟨horg, app, happ, hstate⟩ hdraft
  exact h.update (getActive_eq_some.mp happ).1 hopen rfl hactive (.inl hactive)

theorem Isolated.verifyTradeReference (h : Isolated env db) {refId : Id}
    {status : TradeReferenceVerificationStatus}
    (hrun : CreditApplications.verifyTradeReference db call id refId status = .ok db') :
    Isolated env db' := by
  obtain ⟨-, app, happ, hopen, hrun⟩ := opened_eq_ok.mp hrun
  obtain ⟨_, hstatus, hrun⟩ := bind_eq_ok.mp hrun
  obtain ⟨ref, -, hrun⟩ := bind_eq_ok.mp hrun
  obtain rfl := pure_eq_ok.mp hrun
  have hset : Isolated env (db.setReference call refId status) :=
    h.congr rfl (inputsOf_setReference refId status) rfl
  split
  · refine hset.review (getActive_eq_some.mp happ).1 hopen (fun hsub => ?_) rfl rfl
    exact raiseIf_eq_ok.mp hstatus (by simp [hsub])
  · exact hset

theorem Isolated.checked (h : Isolated env db) (hmem : app ∈ db.applications.rows)
    (hopen : app.status.terminal = false) (hstatus : app.status ≠ .submitted)
    (status : CreditApplicationStatus) : Isolated env (db.checked call app status) :=
  h.review hmem hopen hstatus rfl rfl

/-- Investigations do not matter. -/
theorem Isolated.setInvestigations (h : Isolated env db)
    (investigations : Table OrgCreditInvestigation.id) :
    Isolated env { db with investigations := investigations } :=
  h.congr rfl (fun _ => rfl) rfl

theorem Isolated.endInvestigation (h : Isolated env db) (call : Call)
    (investigation : OrgCreditInvestigation) (status : OrgCreditInvestigationStatus)
    (reason : Option String) :
    Isolated env (db.endInvestigation call investigation status reason) :=
  h.setInvestigations _

theorem openFreshInvestigation_eq {ordered : Except ServiceError Unit}
    (hrun : openFreshInvestigation db call app ordered = .ok db') :
    ∃ investigations, db' = { db with investigations := investigations } := by
  unfold openFreshInvestigation at hrun
  split at hrun
  · exact ⟨db.investigations, (pure_eq_ok.mp hrun).symm⟩
  · obtain ⟨_, -, hrun⟩ := bind_eq_ok.mp hrun
    obtain ⟨_, -, hrun⟩ := bind_eq_ok.mp hrun
    exact ⟨_, (pure_eq_ok.mp hrun).symm⟩

theorem Isolated.runCreditCheck (h : Isolated env db) {assessment : Assessment}
    (hrun : CreditApplications.runCreditCheck db call id assessment = .ok db') :
    Isolated env db' := by
  obtain ⟨-, app, happ, hopen, hrun⟩ := opened_eq_ok.mp hrun
  obtain ⟨_, hstatus, hrun⟩ := bind_eq_ok.mp hrun
  have hmem := (getActive_eq_some.mp happ).1
  have hsub : app.status ≠ .submitted :=
    fun hsub => raiseIf_eq_ok.mp hstatus (by simp [hsub])
  cases assessment with
  | report =>
      obtain rfl := pure_eq_ok.mp hrun
      exact h.checked hmem hopen hsub _
  | noCompanyFound ordered =>
      obtain ⟨db₁, hfresh, hrun⟩ := bind_eq_ok.mp hrun
      obtain rfl := pure_eq_ok.mp hrun
      obtain ⟨investigations, rfl⟩ := openFreshInvestigation_eq hfresh
      exact (h.setInvestigations investigations).checked hmem hopen hsub _
  | failure error =>
      obtain rfl := pure_eq_ok.mp hrun
      exact h.checked hmem hopen hsub _

theorem Isolated.refreshCreditCheck (h : Isolated env db) {assessment : Assessment}
    (hrun : CreditApplications.refreshCreditCheck db call id assessment = .ok db') :
    Isolated env db' := by
  obtain ⟨-, app, happ, hopen, hrun⟩ := opened_eq_ok.mp hrun
  obtain ⟨_, hstatus, hrun⟩ := bind_eq_ok.mp hrun
  obtain ⟨investigation, -, hrun⟩ := bind_eq_ok.mp hrun
  have hmem := (getActive_eq_some.mp happ).1
  have hsub : app.status ≠ .submitted := by
    rw [not_not.mp (raiseIf_eq_ok.mp hstatus)]
    simp
  cases assessment with
  | report =>
      obtain rfl := pure_eq_ok.mp hrun
      exact (h.endInvestigation call investigation _ _).checked hmem hopen hsub _
  | noCompanyFound ordered =>
      obtain rfl := pure_eq_ok.mp hrun
      exact h
  | failure error =>
      obtain rfl := pure_eq_ok.mp hrun
      exact (h.endInvestigation call investigation _ _).checked hmem hopen hsub _

theorem Isolated.markReadyForDecision (h : Isolated env db)
    (hrun : CreditApplications.markReadyForDecision db call id = .ok db') : Isolated env db' := by
  obtain ⟨-, app, happ, hopen, hrun⟩ := opened_eq_ok.mp hrun
  obtain ⟨_, hstatus, hrun⟩ := bind_eq_ok.mp hrun
  obtain ⟨_, -, hrun⟩ := bind_eq_ok.mp hrun
  obtain ⟨_, -, hrun⟩ := bind_eq_ok.mp hrun
  obtain rfl := pure_eq_ok.mp hrun
  refine h.review (getActive_eq_some.mp happ).1 hopen (fun hsub => ?_) rfl rfl
  exact raiseIf_eq_ok.mp hstatus (by simp [hsub])

/-! ### Decisions -/

/-- What a decision does first, when it runs alone. -/
theorem decision_eq_ok {α : Type} {k : OrgCreditApplication → DecisionTxn Unit α} {a : α} :
    (do
      getOrganization call
      let app ← readApplication () call id
      Txn.check (ensureNotTerminal app)
      k app : DecisionTxn Unit α).alone db = .ok a ↔
    db.credit.organizations call.organizationId = true ∧
      ∃ app, db.getActive id call.organizationId = some app ∧ app.status.terminal = false ∧
        (k app).alone db = .ok a := by
  simp only [Txn.alone_bind, getOrganization, readApplication, Txn.alone_statement,
    Txn.alone_lockRow, Txn.alone_check]
  exact opened_eq_ok

/-- The record of a decision does not matter. -/
theorem Isolated.decide (h : Isolated env db) (hmem : app ∈ db.applications.rows)
    (hopen : app.status.terminal = false) (decision : Decision)
    (hfields : (f app).fields = app.fields) (hstate : (f app).state = .active)
    (hactive : app.state = .active ∨ (f app).status = .withdrawn) :
    Isolated env (db.decideApplication app decision f) :=
  (h.update hmem hopen hfields hstate hactive).congr rfl (fun _ => rfl) rfl

/-- The credit account of the organisation of an approved application may be created. -/
theorem Isolated.setCredit (h : Isolated env db) {credit : CreditStatus.Db}
    (hmem : app ∈ db.applications.rows) (happroved : app.status = .approved)
    (hother : ∀ org, org ≠ app.organizationId → credit.file org = db.credit.file org) :
    Isolated env { db with credit := credit } := by
  refine ⟨h.drafts, h.valid, fun acct hacct => ?_⟩
  by_cases horg : acct.organizationId = app.organizationId
  · exact ⟨app, hmem, horg.symm, happroved⟩
  · have hfound : (credit.file acct.organizationId).account = some acct :=
      Table.find?_eq_some_iff.mpr ⟨hacct, rfl⟩
    rw [hother _ horg] at hfound
    exact h.accounts acct (Table.find?_eq_some_iff.mp hfound).1

theorem Isolated.approve (h : Isolated env db) {terms : ApprovalTerms}
    (hrun : db.decideAlone (CreditApplications.approve () call id terms) = .ok db') :
    Isolated env db' := by
  obtain ⟨write, halone, rfl⟩ := map_eq_ok.mp hrun
  obtain ⟨-, app, happ, hopen, halone⟩ := decision_eq_ok.mp halone
  simp only [Txn.alone_bind, Txn.alone_check, Txn.alone_onPart, Txn.alone_return] at halone
  obtain ⟨_, hstatus, halone⟩ := bind_eq_ok.mp halone
  obtain ⟨_, -, halone⟩ := bind_eq_ok.mp halone
  obtain ⟨provision, hprovision, halone⟩ := bind_eq_ok.mp halone
  obtain rfl := Except.ok.inj halone
  obtain ⟨hmem, -, horg, -⟩ := getActive_eq_some.mp happ
  have hactive := state_of_status h hmem fun hsub => raiseIf_eq_ok.mp hstatus (by simp [hsub])
  have hfile := (CreditStatus.always_provision () call terms.approval).alone hprovision
  refine (h.decide hmem hopen .approved rfl hactive (.inl hactive)).setCredit
    ((mem_updateApplication hmem rfl).mpr (.inl rfl)) rfl fun org hne => ?_
  exact hfile db.credit org (horg ▸ hne)

theorem Isolated.reject (h : Isolated env db) {category : RejectionCategory} {reason : String}
    (hrun : db.decideAlone (CreditApplications.reject () call id category reason) = .ok db') :
    Isolated env db' := by
  obtain ⟨write, halone, rfl⟩ := map_eq_ok.mp hrun
  obtain ⟨-, app, happ, hopen, halone⟩ := decision_eq_ok.mp halone
  simp only [Txn.alone_bind, Txn.alone_check, Txn.alone_return] at halone
  obtain ⟨_, hstatus, halone⟩ := bind_eq_ok.mp halone
  obtain ⟨_, -, halone⟩ := bind_eq_ok.mp halone
  obtain rfl := Except.ok.inj halone
  have hmem := (getActive_eq_some.mp happ).1
  have hactive := state_of_status h hmem fun hsub => raiseIf_eq_ok.mp hstatus (by simp [hsub])
  exact h.decide hmem hopen .rejected rfl hactive (.inl hactive)

theorem Isolated.cancel (h : Isolated env db) {reason : String}
    (hdraft : ¬ TouchesDraft db (call, .cancel id reason))
    (hrun : db.decideAlone (CreditApplications.cancel () call id reason) = .ok db') :
    Isolated env db' := by
  obtain ⟨write, halone, rfl⟩ := map_eq_ok.mp hrun
  obtain ⟨horg, app, happ, hopen, halone⟩ := decision_eq_ok.mp halone
  simp only [Txn.alone_bind, Txn.alone_return] at halone
  obtain ⟨_, -, halone⟩ := bind_eq_ok.mp halone
  obtain rfl := Except.ok.inj halone
  have hactive : app.state = .active := by
    cases hstate : app.state with
    | active => rfl
    | draft => exact absurd ⟨horg, app, happ, hstate⟩ hdraft
  exact h.decide (getActive_eq_some.mp happ).1 hopen .cancelled rfl hactive (.inl hactive)

theorem Isolated.withdraw (h : Isolated env db)
    (hrun : db.decideAlone (CreditApplications.withdraw () call id) = .ok db') :
    Isolated env db' := by
  obtain ⟨write, halone, rfl⟩ := map_eq_ok.mp hrun
  obtain ⟨-, app, happ, hopen, halone⟩ := decision_eq_ok.mp halone
  simp only [Txn.alone_bind, Txn.alone_check, Txn.alone_return] at halone
  obtain ⟨_, -, halone⟩ := bind_eq_ok.mp halone
  obtain ⟨_, -, halone⟩ := bind_eq_ok.mp halone
  obtain rfl := Except.ok.inj halone
  exact h.decide (getActive_eq_some.mp happ).1 hopen .withdrawn rfl rfl (.inr rfl)

/-! ### Runs -/

/-- **What one request keeps**, unless it assigns a reviewer to a draft or cancels one. -/
theorem Isolated.step (h : Isolated env db) {request : Call × Op}
    (hdraft : ¬ TouchesDraft db request) : Isolated env (step env db request) := by
  obtain ⟨call, op⟩ := request
  unfold CreditApplications.step
  cases hrun : op.run env call db with
  | error e => exact h
  | ok db' =>
      change Isolated env db'
      cases op with
      | saveDraft data refs =>
          obtain ⟨_, -, hrun⟩ := bind_eq_ok.mp hrun
          obtain rfl := pure_eq_ok.mp hrun
          exact (h.addApplication fun hactive => absurd hactive (by simp)).congr rfl (fun _ => rfl)
            rfl
      | updateDraft draftId data refs => exact h.updateDraft hrun
      | create data refs =>
          obtain ⟨_, -, hrun⟩ := bind_eq_ok.mp hrun
          obtain ⟨_, hvalid, hrun⟩ := bind_eq_ok.mp hrun
          obtain rfl := pure_eq_ok.mp hrun
          exact h.addApplication fun _ => hvalid
      | publishDraft draftId data refs => exact h.publishDraft hrun
      | assignReviewer id reviewer => exact h.assignReviewer hdraft hrun
      | verifyTradeReference id refId status => exact h.verifyTradeReference hrun
      | runCreditCheck id assessment => exact h.runCreditCheck hrun
      | refreshCreditCheck id assessment => exact h.refreshCreditCheck hrun
      | markReadyForDecision id => exact h.markReadyForDecision hrun
      | approve id terms => exact h.approve hrun
      | reject id category reason => exact h.reject hrun
      | cancel id reason => exact h.cancel hdraft hrun
      | withdraw id => exact h.withdraw hrun

/-- A draft that was rewritten and has another status was reviewed. -/
theorem not_draftsIsolated_of_mem (hmem : app ∈ db'.applications.rows) (hstate : app.state = .draft)
    (hstatus : app.status ≠ .submitted) : ¬ DraftsIsolated env db' :=
  fun h => hstatus (h.drafts app hmem hstate).status

/-- A reviewer can be assigned to what is SUBMITTED. -/
theorem assignReviewer_submitted (reviewer : Id)
    (horg : db.credit.organizations call.organizationId = true)
    (happ : db.getActive id call.organizationId = some app) (hstatus : app.status = .submitted) :
    assignReviewer db call id reviewer =
      .ok (db.updateApplication app (·.assigned call reviewer)) := by
  refine opened_eq_ok.mpr ⟨horg, app, happ, by rw [hstatus]; rfl, ?_⟩
  exact bind_eq_ok.mpr ⟨(), raiseIf_eq_ok.mpr (by simp [hstatus]), rfl⟩

/-- What is SUBMITTED can be cancelled. -/
theorem cancel_submitted (reason : String)
    (horg : db.credit.organizations call.organizationId = true)
    (happ : db.getActive id call.organizationId = some app) (hstatus : app.status = .submitted) :
    db.decideAlone (cancel () call id reason) =
      .ok (db.decideApplication app .cancelled (·.cancelledFor call reason)) := by
  obtain ⟨hmem, rfl, hown, -⟩ := getActive_eq_some.mp happ
  have hfound : db.applications.find? app.id = some app :=
    Table.find?_eq_some_iff.mpr ⟨hmem, rfl⟩
  have halone : (cancel () call app.id reason).alone db =
      .ok (Db.decideApplication app .cancelled (·.cancelledFor call reason)) := by
    refine decision_eq_ok.mpr ⟨horg, app, happ, by rw [hstatus]; rfl, ?_⟩
    simp only [Txn.alone_bind, updateById, Txn.alone_lockRow, Txn.alone_return]
    exact bind_eq_ok.mpr ⟨(), raiseIf_eq_ok.mpr (by simp [hfound, hown]), rfl⟩
  rw [Db.decideAlone, halone]
  rfl

/-- **A request that assigns a reviewer to a draft, or cancels one, succeeds.** -/
theorem isolated_lost (h : Isolated env db) {request : Call × Op}
    (hdraft : TouchesDraft db request) : ¬ DraftsIsolated env (step env db request) := by
  obtain ⟨call, op⟩ := request
  cases op with
  | assignReviewer id reviewer =>
      obtain ⟨horg, app, happ, hstate⟩ := hdraft
      have hmem := (getActive_eq_some.mp happ).1
      have hrun := assignReviewer_submitted reviewer horg happ (h.drafts app hmem hstate).status
      simp only [CreditApplications.step, Op.run, hrun, settle]
      exact not_draftsIsolated_of_mem ((mem_updateApplication hmem rfl).mpr (.inl rfl)) hstate
        (by simp [OrgCreditApplication.assigned])
  | cancel id reason =>
      obtain ⟨horg, app, happ, hstate⟩ := hdraft
      have hmem := (getActive_eq_some.mp happ).1
      have hrun := cancel_submitted reason horg happ (h.drafts app hmem hstate).status
      simp only [CreditApplications.step, Op.run, hrun, settle]
      exact not_draftsIsolated_of_mem ((mem_updateApplication hmem rfl).mpr (.inl rfl)) hstate
        (by simp [OrgCreditApplication.cancelledFor])
  | saveDraft | updateDraft | create | publishDraft | verifyTradeReference | runCreditCheck
  | refreshCreditCheck | markReadyForDecision | approve | reject | withdraw => exact hdraft.elim

end

/-- Before the first request: the organisations and their credit configurations are there. -/
def Db.initial (organizations : Id → Bool) (approvedLimits : Id → Option ℤ) : Db where
  applications := .empty
  references := .empty
  drafts := .empty
  investigations := .empty
  requests := .empty
  credit := ⟨organizations, approvedLimits, .empty, []⟩
  decisions := []

theorem isolated_initial (env : Env) (organizations : Id → Bool)
    (approvedLimits : Id → Option ℤ) : Isolated env (.initial organizations approvedLimits) := by
  refine ⟨?_, ?_, ?_⟩ <;> exact fun _ h => absurd h List.not_mem_nil

/-- **Drafts stay out of the review**, in every state of a run, exactly if no request of the run
assigns a reviewer to an application that is a draft, or cancels one. -/
theorem drafts_isolated_iff (env : Env) (organizations : Id → Bool)
    (approvedLimits : Id → Option ℤ) (requests : List (Call × Op)) :
    (∀ pre post, requests = pre ++ post →
      DraftsIsolated env (Runs.run (step env) (.initial organizations approvedLimits) pre)) ↔
    Runs.Along (step env) (fun db request => ¬ TouchesDraft db request)
      (.initial organizations approvedLimits) requests :=
  Runs.forall_prefix_iff_along_of_keeps (I := Isolated env) (M := DraftsIsolated env)
    (G := fun db request => ¬ TouchesDraft db request) (fun _ h => h.draftsIsolated)
    (fun _ _ h hdraft => h.step hdraft) (fun _ _ h hdraft => isolated_lost h (not_not.mp hdraft))
    (isolated_initial env organizations approvedLimits)

/-! ### A draft that gets credit -/

/-- Every e-mail address will do. -/
def anyEmail : Env := ⟨fun _ => none⟩

/-- A caller of organisation 1, at a time. -/
def callerAt (now : Instant) : Call := ⟨1, 7, now, 50⟩

/-- An empty draft is saved, given to a reviewer, checked and approved. -/
def approvedDraft : List (Call × Op) :=
  [(callerAt 1, .saveDraft [] none), (callerAt 2, .assignReviewer 1 9),
    (callerAt 3, .runCreditCheck 1 .report), (callerAt 4, .approve 1 ⟨5000, 30, none, none⟩)]

/-- The stores after the requests. -/
def afterApprovedDraft : Db :=
  Runs.run (step anyEmail) (.initial (fun _ => true) fun _ => none) approvedDraft

/-- The draft was never submitted, nothing in it was filled in, and it is APPROVED and has given
the organisation a credit account. -/
theorem draft_gets_credit :
    ¬ (∀ pre post, approvedDraft = pre ++ post →
      DraftsIsolated anyEmail
        (Runs.run (step anyEmail) (.initial (fun _ => true) fun _ => none) pre)) ∧
    (afterApprovedDraft.applications.rows.map fun app =>
      (app.state, app.status, app.submittedAt)) = [(.draft, .approved, none)] ∧
    (afterApprovedDraft.credit.accounts.rows.map fun acct =>
      (acct.organizationId, acct.status, acct.creditLimit)) = [(1, .active, some 500000)] := by
  have hrows : (afterApprovedDraft.applications.rows.map fun app =>
      (app.state, app.status, app.submittedAt)) = [(.draft, .approved, none)] := by decide +kernel
  refine ⟨fun h => ?_, hrows, by decide +kernel⟩
  have hmem : (CreditApplicationLifecycleState.draft, CreditApplicationStatus.approved, none) ∈
      afterApprovedDraft.applications.rows.map fun app =>
        (app.state, app.status, app.submittedAt) := by
    rw [hrows]
    exact List.mem_singleton_self _
  obtain ⟨app, happ, heq⟩ := List.mem_map.mp hmem
  obtain ⟨hstate, hstatus, -⟩ : app.state = .draft ∧ app.status = .approved ∧
    app.submittedAt = none := by simpa using heq
  exact not_draftsIsolated_of_mem happ hstate (by simp [hstatus])
    (h approvedDraft [] (List.append_nil _).symm)

end SwCouriers.CreditApplications
