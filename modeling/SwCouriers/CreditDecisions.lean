import SwCouriers.CreditStatusHistory
import SwCouriers.Lib.LooseWrites
import SwCouriers.ReviewOrder

/-!
# One Decision per Request

Approvals, rejections, cancellations and withdrawals of applications, and requests for a higher
limit with their approvals and rejections, all at the same time. A decision reads the status,
checks that nothing was decided yet, and writes some statements later; nothing that it does in
between looks at the status again. So two decisions that have both read an open application both
commit, and the later one overwrites the earlier one.

What does hold is that decisions are made once along the schedules in which nobody decides about a
target that another transaction has read and goes on with.

## Main results

* `keeps_decision`: each transaction keeps the discipline but for the decision that it commits.
* `one_decision`: along undisturbed schedules at most one decision commits for each target, and
  the credit of an organisation only changes with an approval that is final.
* `two_decisions`: an application that is approved, and rejected by who read it before.
-/

namespace SwCouriers.CreditApplications

open Checked ReadCommitted Discipline
open CreditStatus (Call)

/-! ### What was decided -/

/-- The decision that a status of an application stands for. -/
def CreditApplicationStatus.decision : CreditApplicationStatus → Option Decision
  | .approved => some .approved
  | .rejected => some .rejected
  | .withdrawn => some .withdrawn
  | .cancelled => some .cancelled
  | _ => none

theorem decision_eq_none_iff {status : CreditApplicationStatus} :
    status.decision = none ↔ status.terminal = false := by
  cases status <;> simp [CreditApplicationStatus.decision, CreditApplicationStatus.terminal]

/-- The decision that a status of a request stands for. -/
def OrgCreditLimitIncreaseRequestStatus.decision :
    OrgCreditLimitIncreaseRequestStatus → Option Decision
  | .pending => none
  | .approved => some .approved
  | .rejected => some .rejected

namespace Db

variable (db : Db)

/-- The decision that the status of a target stands for. -/
def decision : Target → Option Decision
  | .application id => (db.applications.find? id).bind fun app => app.status.decision
  | .request id => (db.requests.find? id).bind fun row => row.status.decision

/-- The organisation that a target belongs to. -/
def ownerOf : Target → Option Id
  | .application id => (db.applications.find? id).map (·.organizationId)
  | .request id => (db.requests.find? id).map (·.organizationId)

/-- The decisions that were recorded about a target. -/
def decisionsOn (x : Target) : List Decision :=
  (db.decisions.filter fun record => record.target = x).map (·.decision)

/-- How many requests of an organisation wait. -/
def pendingCount (organizationId : Id) : ℕ :=
  db.requests.rows.countP fun row => row.organizationId = organizationId && row.status = .pending

end Db

/-- What may be decided about a target that was decided as `before`: nothing, or one thing if it
was open. -/
def Decides (before after : Option Decision) : List Decision → Prop
  | [] => after = before
  | [d] => before = none ∧ after = some d
  | _ => False

theorem Decides.trans {a b c : Option Decision} {rows rows' : List Decision}
    (h : Decides a b rows) (h' : Decides b c rows') : Decides a c (rows ++ rows') := by
  match rows, h with
  | [], hsame =>
      obtain rfl : b = a := hsame
      exact h'
  | [d], ⟨hopen, hd⟩ =>
      match rows', h' with
      | [], hsame => exact ⟨hopen, Eq.trans hsame hd⟩
      | [_], ⟨hopen', _⟩ => exact absurd (hopen'.symm.trans hd) (by simp)

theorem Decides.length_le_one {a b : Option Decision} {rows : List Decision}
    (h : Decides a b rows) : rows.length ≤ 1 := by
  match rows, h with
  | [], _ => exact Nat.zero_le 1
  | [_], _ => exact le_rfl

/-- What is decided stays decided. -/
theorem Decides.of_some {a b : Option Decision} {rows : List Decision} (h : Decides a b rows)
    {d : Decision} (ha : a = some d) : b = some d := by
  match rows, h with
  | [], hsame => exact Eq.trans hsame ha
  | [_], ⟨hopen, _⟩ => exact absurd (hopen.symm.trans ha) (by simp)

/-! ### The discipline -/

variable {T : Type}

/-- How the store evolves: what somebody has read stays as it is, decisions are made once, and
the credit of an organisation changes with an approval. -/
structure Evolves (touched : Lock T → Prop) (db db' : Db) : Prop where
  read : ∀ t x, ¬ touched (.reading t x) → db'.decision x = db.decision x
  waiting : ∀ org, ¬ touched (.pending org) → db.pendingCount org = 0 → db'.pendingCount org = 0
  owner : ∀ x org, db.ownerOf x = some org → db'.ownerOf x = some org
  decided : ∀ x, ∃ rows, db'.decisionsOn x = db.decisionsOn x ++ rows ∧
    Decides (db.decision x) (db'.decision x) rows
  credit : ∀ org, db'.credit.file org ≠ db.credit.file org →
    ∃ x, db'.ownerOf x = some org ∧ db.decision x = none ∧ db'.decision x = some .approved

theorem Evolves.refl (touched : Lock T → Prop) (db : Db) : Evolves touched db db :=
  ⟨fun _ _ _ => rfl, fun _ _ h => h, fun _ _ h => h, fun _ => ⟨[], by simp, rfl⟩,
    fun _ hne => absurd rfl hne⟩

variable {touched : Lock T → Prop}

/-- What is decided stays decided. -/
theorem Evolves.of_some {db db' : Db} (h : Evolves touched db db') {x : Target} {d : Decision}
    (hd : db.decision x = some d) : db'.decision x = some d := by
  obtain ⟨rows, -, hdecides⟩ := h.decided x
  exact hdecides.of_some hd

/-- What is open now was open before. -/
theorem Evolves.open_before {db db' : Db} (h : Evolves touched db db') {x : Target}
    (hopen : db'.decision x = none) : db.decision x = none := by
  cases hd : db.decision x with
  | none => rfl
  | some d => exact absurd (hopen.symm.trans (h.of_some hd)) (by simp)

theorem Evolves.trans {db₁ db₂ db₃ : Db} (h : Evolves touched db₁ db₂)
    (h' : Evolves touched db₂ db₃) : Evolves touched db₁ db₃ := by
  refine ⟨fun t x hx => (h'.read t x hx).trans (h.read t x hx),
    fun org hfree hnone => h'.waiting org hfree (h.waiting org hfree hnone),
    fun x org hx => h'.owner x org (h.owner x org hx), fun x => ?_, fun org hne => ?_⟩
  · obtain ⟨rows, hrows, hdecides⟩ := h.decided x
    obtain ⟨rows', hrows', hdecides'⟩ := h'.decided x
    exact ⟨rows ++ rows', by rw [hrows', hrows, List.append_assoc], hdecides.trans hdecides'⟩
  · by_cases hsame : db₂.credit.file org = db₁.credit.file org
    · obtain ⟨x, howner, hopen, happroved⟩ := h'.credit org (hsame ▸ hne)
      exact ⟨x, howner, h.open_before hopen, happroved⟩
    · obtain ⟨x, howner, hopen, happroved⟩ := h.credit org hsame
      exact ⟨x, h'.owner x org howner, hopen, h'.of_some happroved⟩

theorem Evolves.mono {touched' : Lock T → Prop} {db db' : Db} (hsub : ∀ k, touched k → touched' k)
    (h : Evolves touched db db') : Evolves touched' db db' :=
  ⟨fun t x hx => h.read t x fun htouched => hx (hsub _ htouched),
    fun org hfree => h.waiting org fun htouched => hfree (hsub _ htouched), h.owner, h.decided,
    h.credit⟩

/-- The discipline of the decisions. -/
def decisionDiscipline (T : Type) : Discipline Db (Lock T) where
  inv := fun db => ∀ org, db.pendingCount org ≤ 1
  evolves := Evolves
  refl := .refl
  trans := .trans
  mono := .mono

/-- A decision touches what the others have read about its target. -/
def decidesRead (db db' : Db) : Lock T → Prop
  | .reading _ x => db'.decision x ≠ db.decision x
  | _ => False

section

variable {db db' : Db} {held : Lock T → Prop} {x : Target} {org : Id} {d : Decision}

/-! ### The writes -/

/-- One thing is decided about the target `x` of the organisation `org`. -/
structure DecidedAs (x : Target) (org : Id) (d : Decision) (db db' : Db) : Prop where
  owner : ∀ y, db'.ownerOf y = db.ownerOf y
  decision : ∀ y, db'.decision y = if y = x then some d else db.decision y
  records : db'.decisions = db.decisions ++ [⟨x, d⟩]
  pending : ∀ o, db'.pendingCount o ≤ db.pendingCount o
  credit : ∀ o, db'.credit.file o ≠ db.credit.file o → o = org ∧ d = .approved

/-- A decision about an open target may be committed. -/
theorem commitsLoosely_of_decidedAs {write : Db → Db} (hinv : ∀ o, db.pendingCount o ≤ 1)
    (hopen : db.decision x = none) (howner : db.ownerOf x = some org)
    (h : DecidedAs x org d db (write db)) :
    (decisionDiscipline T).CommitsLoosely decidesRead write db held := by
  refine ⟨fun o => (h.pending o).trans (hinv o), fun t y hy => ?_, fun o _ hnone => ?_,
    fun y o hy => (h.owner y).trans hy, fun y => ?_, fun o hne => ?_⟩
  · by_contra hchanged
    exact hy (.inr hchanged)
  · exact Nat.le_zero.mp (hnone ▸ h.pending o)
  · by_cases hy : y = x
    · subst hy
      exact ⟨[d], by simp [Db.decisionsOn, h.records], hopen, by rw [h.decision, if_pos rfl]⟩
    · refine ⟨[], ?_, by rw [h.decision, if_neg hy]; rfl⟩
      simp [Db.decisionsOn, h.records, Ne.symm hy]
  · obtain ⟨rfl, rfl⟩ := h.credit o hne
    exact ⟨x, (h.owner x).trans howner, hopen, by rw [h.decision, if_pos rfl]⟩

/-- What is decided about an application. -/
theorem decidedAs_decideApplication {app : OrgCreditApplication}
    {f : OrgCreditApplication → OrgCreditApplication}
    (hf : ∀ app, (f app).organizationId = app.organizationId ∧ (f app).status.decision = some d)
    (howner : db.ownerOf (.application app.id) = some org) :
    DecidedAs (.application app.id) org d db (db.decideApplication app d f) := by
  have hfind := Table.find?_modify db.applications app.id
    (fun row => { f row with id := row.id, version := app.version + 1 }) fun _ => rfl
  refine ⟨fun y => ?_, fun y => ?_, rfl, fun o => le_rfl, fun o hne => absurd rfl hne⟩
  · cases y with
    | request id => rfl
    | application id =>
        simp only [Db.ownerOf, Db.decideApplication, Db.recordDecision, Db.updateApplication, hfind]
        split
        · rw [Option.map_map]
          exact Option.map_congr fun row _ => (hf row).1
        · rfl
  · cases y with
    | request id => rfl
    | application id =>
        simp only [Db.decision, Db.decideApplication, Db.recordDecision, Db.updateApplication,
          hfind, Target.application.injEq]
        split
        case isFalse => rfl
        case isTrue heq =>
          subst heq
          obtain ⟨row, hrow, -⟩ := Option.map_eq_some_iff.mp howner
          simpa [hrow] using (hf row).2

/-- What is decided about a request. -/
theorem decidedAs_decideRequest {call : Call} {requestId : Id}
    {status : OrgCreditLimitIncreaseRequestStatus} (hstatus : status.decision = some d)
    {approvedLimit : Option ℤ} (howner : db.ownerOf (.request requestId) = some org) :
    DecidedAs (.request requestId) org d db
      (db.decideRequest call requestId status d approvedLimit) := by
  have hfind := Table.find?_modify db.requests requestId
    (fun row => { row with
      status := status
      approvedLimit := approvedLimit.or row.approvedLimit
      reviewedByUserId := some call.callerId
      reviewedAt := some call.now }) fun _ => rfl
  have hpending : status ≠ .pending := by
    rintro rfl
    cases hstatus
  refine ⟨fun y => ?_, fun y => ?_, rfl, fun o => ?_, fun o hne => absurd rfl hne⟩
  · cases y with
    | application id => rfl
    | request id =>
        simp only [Db.ownerOf, Db.decideRequest, Db.recordDecision, hfind]
        split
        · rw [Option.map_map]
          rfl
        · rfl
  · cases y with
    | application id => rfl
    | request id =>
        simp only [Db.decision, Db.decideRequest, Db.recordDecision, hfind, Target.request.injEq]
        split
        case isFalse => rfl
        case isTrue heq =>
          subst heq
          obtain ⟨row, hrow, -⟩ := Option.map_eq_some_iff.mp howner
          simpa [hrow] using hstatus
  · simp only [Db.pendingCount, Db.decideRequest, Db.recordDecision, Table.modify,
      Table.rows_mapRows, List.countP_map]
    refine List.countP_mono_left fun row _ hrow => ?_
    by_cases hid : row.id = requestId
    · simp [hid, hpending] at hrow
    · simpa [hid] using hrow

/-- A new request, of an organisation that has none that waits. -/
theorem commitsLoosely_addRequest {call : Call} {requestedLimit : ℤ} {reason : String}
    {previousLimit : Option ℤ} (hinv : ∀ o, db.pendingCount o ≤ 1)
    (hnone : db.pendingCount call.organizationId = 0)
    (hheld : held (.pending call.organizationId)) :
    (decisionDiscipline T).CommitsLoosely decidesRead
      (Db.addRequest call requestedLimit reason previousLimit) db held := by
  let row : OrgCreditLimitIncreaseRequest := ⟨db.requests.fresh, call.organizationId,
    previousLimit, requestedLimit, none, reason, .pending, call.callerId, none, none⟩
  have hfresh : row.id ∉ db.requests.rows.map OrgCreditLimitIncreaseRequest.id :=
    db.requests.fresh_notMem
  have hfind : ∀ id, (db.requests.insert row).find? id =
      if row.id = id then some row else db.requests.find? id := Table.find?_insert hfresh
  have hrows : (db.requests.insert row).rows = db.requests.rows ++ [row] :=
    Table.rows_insert_of_notMem hfresh
  have hcount : ∀ o, (db.addRequest call requestedLimit reason previousLimit).pendingCount o =
      db.pendingCount o + if call.organizationId = o then 1 else 0 := by
    intro o
    change (db.requests.insert row).rows.countP _ = _
    rw [hrows, List.countP_append]
    by_cases ho : call.organizationId = o <;> simp [row, ho, Db.pendingCount]
  have hdecision : ∀ y, (db.addRequest call requestedLimit reason previousLimit).decision y =
      db.decision y := by
    intro y
    cases y with
    | application id => rfl
    | request id =>
        change ((db.requests.insert row).find? id).bind _ = _
        rw [hfind]
        split
        case isFalse => rfl
        case isTrue heq =>
          subst heq
          rw [Db.decision, Table.find?_eq_none_iff.mpr hfresh]
          rfl
  refine ⟨fun o => ?_, fun _ y _ => hdecision y, fun o hfree hzero => ?_, fun y o hy => ?_,
    fun y => ⟨[], (List.append_nil _).symm, hdecision y⟩, fun o hne => absurd rfl hne⟩
  · rw [hcount]
    split
    case isTrue heq => rw [← heq, hnone]
    case isFalse => exact hinv o
  · have hne : call.organizationId ≠ o := fun heq => hfree (.inl (heq ▸ hheld))
    rw [hcount, if_neg hne, hzero]
  · cases y with
    | application id => exact hy
    | request id =>
        change ((db.requests.insert row).find? id).map _ = _
        rw [hfind]
        split
        case isFalse => exact hy
        case isTrue heq =>
          subst heq
          rw [Db.ownerOf, Table.find?_eq_none_iff.mpr hfresh] at hy
          cases hy

/-! ### The transactions -/

/-- Who has read an open target finds it open when it commits. -/
theorem wp_decides {α : Type} {t : T} {q : Db → Except ServiceError α}
    {rest : α → DecisionTxn T (Db → Db)}
    (hread : ∀ db a, q db = .ok a → db.ownerOf x = some org)
    (hrest : ∀ db a, q db = .ok a → (rest a).Always fun write => db.decision x = none ∧
      ∀ db', db'.ownerOf x = some org → ∃ d, DecidedAs x org d db' (write db')) :
    (decisionDiscipline T).wp ((decisionDiscipline T).CommitsLoosely decidesRead)
      (Txn.lockRow (.reading t x) q >>= rest) db held := by
  refine wp_bind.mpr (wp_lockRow.mpr fun db₁ hrely a ha => ?_)
  refine wp_of_always hrely.2 (hrest db a ha) fun write db₂ held₂ hlater hinv hwrite => ?_
  have hevolves := hrely.1.trans (hlater.2.1.mono fun k hk hheld => hk hheld)
  have hopen : db₂.decision x = none :=
    (hevolves.read t x fun hfree => hfree (.inl rfl)).trans hwrite.1
  have howner := hevolves.owner x org (hread db a ha)
  obtain ⟨d, hd⟩ := hwrite.2 db₂ howner
  exact commitsLoosely_of_decidedAs hinv hopen howner hd

/-- What an application is when it was read. -/
theorem of_getActiveOr404 {applicationId : Id} {app : OrgCreditApplication}
    (h : db.getActiveOr404 applicationId org = .ok app) :
    app.id = applicationId ∧ db.ownerOf (.application applicationId) = some org ∧
      db.decision (.application applicationId) = app.status.decision := by
  obtain ⟨hmem, rfl, rfl, -⟩ := getActive_eq_some.mp (orRaise_eq_ok.mp h)
  have hfind := Table.find?_eq_some_iff.mpr ⟨hmem, rfl⟩
  exact ⟨rfl, by simp [Db.ownerOf, hfind], by simp [Db.decision, hfind]⟩

/-- What the decisions about applications share. -/
theorem wp_application {t : T} {call : Call} {applicationId : Id}
    {rest : OrgCreditApplication → DecisionTxn T (Db → Db)} (hinv : ∀ o, db.pendingCount o ≤ 1)
    (hrest : ∀ app, (rest app).Always fun write => ∀ db,
      db.ownerOf (.application app.id) = some call.organizationId →
        ∃ d, DecidedAs (.application app.id) call.organizationId d db (write db)) :
    (decisionDiscipline T).wp ((decisionDiscipline T).CommitsLoosely decidesRead)
      (do
        getOrganization call
        let app ← readApplication t call applicationId
        Txn.check (ensureNotTerminal app)
        rest app) db held := by
  refine wp_bind.mpr (wp_of_always hinv (Txn.always_true _) fun _ db₁ held₁ _ _ _ => ?_)
  refine wp_decides (fun _ _ h => (of_getActiveOr404 h).2.1)
    fun db₂ app happ => Txn.always_bind.mpr (Txn.always_check.mpr fun _ hterminal => ?_)
  obtain ⟨rfl, -, hdecision⟩ := of_getActiveOr404 happ
  refine (hrest app).imp fun write hwrite => ⟨?_, hwrite⟩
  exact hdecision.trans (decision_eq_none_iff.mpr (by simpa using raiseIf_eq_ok.mp hterminal))

/-- What a request is when it was read. -/
theorem of_findRequest {requestId : Id} {row : OrgCreditLimitIncreaseRequest}
    {missing : ServiceError}
    (h : orRaise ((db.requests.find? requestId).filter fun row => row.organizationId = org)
      missing = .ok row) :
    db.ownerOf (.request requestId) = some org ∧
      db.decision (.request requestId) = row.status.decision := by
  obtain ⟨hfind, horg⟩ := Option.filter_eq_some_iff.mp (orRaise_eq_ok.mp h)
  exact ⟨by simpa [Db.ownerOf, hfind] using horg, by simp [Db.decision, hfind]⟩

/-- What the decisions about requests share. -/
theorem wp_request {t : T} {call : Call} {requestId : Id} {admin : Bool}
    {forbidden closed : ServiceError} {rest : DecisionTxn T (Db → Db)}
    (hinv : ∀ o, db.pendingCount o ≤ 1)
    (hrest : rest.Always fun write => ∀ db,
      db.ownerOf (.request requestId) = some call.organizationId →
        ∃ d, DecidedAs (.request requestId) call.organizationId d db (write db)) :
    (decisionDiscipline T).wp ((decisionDiscipline T).CommitsLoosely decidesRead)
      (do
        Txn.check (raiseIf (admin = false) forbidden)
        getOrganization call
        let row ← readRequest t call requestId
        Txn.check (raiseIf (row.status ≠ .pending) closed)
        rest) db held := by
  refine wp_bind.mpr (wp_check.mpr fun _ _ => ?_)
  refine wp_bind.mpr (wp_of_always hinv (Txn.always_true _) fun _ db₁ held₁ _ _ _ => ?_)
  refine wp_decides (fun _ _ h => (of_findRequest h).1) fun db₂ row h => ?_
  refine Txn.always_bind.mpr (Txn.always_check.mpr fun _ hstatus => ?_)
  refine hrest.imp fun write hwrite => ⟨?_, hwrite⟩
  rw [(of_findRequest h).2, not_not.mp (raiseIf_eq_ok.mp hstatus)]
  rfl

/-! ### All of them together -/

/-- A request of either kind. -/
inductive DecisionOp where
  | approve (applicationId : Id) (terms : ApprovalTerms)
  | reject (applicationId : Id) (rejectionCategory : RejectionCategory) (detailedReason : String)
  | cancel (applicationId : Id) (reason : String)
  | withdraw (applicationId : Id)
  | createRequest (requestedLimit : ℤ) (reason : String)
  | approveRequest (admin : Bool) (requestId : Id) (approvedCreditLimit : ℚ)
  | rejectRequest (admin : Bool) (requestId : Id)

/-- The transaction of a request. -/
def DecisionOp.txn (t : T) (call : Call) : DecisionOp → DecisionTxn T (Db → Db)
  | .approve id terms => CreditApplications.approve t call id terms
  | .reject id category reason => CreditApplications.reject t call id category reason
  | .cancel id reason => CreditApplications.cancel t call id reason
  | .withdraw id => CreditApplications.withdraw t call id
  | .createRequest limit reason => CreditApplications.createRequest call limit reason
  | .approveRequest admin id limit => CreditApplications.approveRequest t call admin id limit
  | .rejectRequest admin id => CreditApplications.rejectRequest t call admin id

/-- An approval of an application writes to the credit file of its organisation. -/
theorem decidedAs_approve {app : OrgCreditApplication} {call : Call} {terms : ApprovalTerms}
    {provision : CreditStatus.Db → CreditStatus.Db}
    (hprovision : ∀ credit o, o ≠ org → (provision credit).file o = credit.file o)
    (howner : db.ownerOf (.application app.id) = some org) :
    DecidedAs (.application app.id) org .approved db
      { db.decideApplication app .approved (·.approvedWith call terms) with
        credit := provision db.credit } := by
  have h := decidedAs_decideApplication (f := (·.approvedWith call terms)) (d := .approved)
    (fun _ => ⟨rfl, rfl⟩) howner
  refine ⟨h.owner, h.decision, h.records, h.pending, fun o hne => ⟨by_contra fun ho => ?_, rfl⟩⟩
  exact hne (hprovision db.credit o ho)

theorem file_setLimit_of_ne {call : Call} {limit : ℚ} {credit : CreditStatus.Db} {o : Id}
    (ho : o ≠ call.organizationId) : (setLimit call limit credit).file o = credit.file o := by
  simp only [CreditStatus.Db.file, setLimit, Table.find?_modify_of_ne _ _ _ ho]

/-- Each transaction keeps the discipline, but for what the others have read of its target. -/
theorem keeps_decision (t : T) (call : Call) (op : DecisionOp) (db : Db) :
    (decisionDiscipline T).KeepsLoosely decidesRead (op.txn t call) db fun _ => False := by
  intro db' hrely
  have hinv := hrely.2
  cases op with
  | approve id terms =>
      refine wp_application hinv fun app => ?_
      refine Txn.always_bind.mpr (Txn.always_check.mpr fun _ _ => ?_)
      refine Txn.always_bind.mpr ((Txn.always_true _).imp fun _ _ => ?_)
      refine Txn.always_bind.mpr (((CreditStatus.always_provision t call terms.approval).onPart _
        _).imp fun provision hprovision db howner => ⟨_, decidedAs_approve hprovision howner⟩)
  | reject id category reason =>
      refine wp_application hinv fun app => ?_
      refine Txn.always_bind.mpr (Txn.always_check.mpr fun _ _ => ?_)
      exact Txn.always_bind.mpr ((Txn.always_true _).imp fun _ _ db howner =>
        ⟨_, decidedAs_decideApplication (fun _ => ⟨rfl, rfl⟩) howner⟩)
  | cancel id reason =>
      refine wp_application hinv fun app => ?_
      exact Txn.always_bind.mpr ((Txn.always_true _).imp fun _ _ db howner =>
        ⟨_, decidedAs_decideApplication (fun _ => ⟨rfl, rfl⟩) howner⟩)
  | withdraw id =>
      refine wp_application hinv fun app => ?_
      refine Txn.always_bind.mpr (Txn.always_check.mpr fun _ _ => ?_)
      exact Txn.always_bind.mpr ((Txn.always_true _).imp fun _ _ db howner =>
        ⟨_, decidedAs_decideApplication (fun _ => ⟨rfl, rfl⟩) howner⟩)
  | createRequest limit reason =>
      refine wp_bind.mpr (wp_of_always hinv (Txn.always_true _) fun _ _ _ _ hinv _ => ?_)
      refine wp_bind.mpr (wp_of_always hinv (Txn.always_true _) fun _ _ _ _ hinv _ => ?_)
      refine wp_bind.mpr (wp_of_always hinv (Txn.always_true _) fun _ _ _ _ hinv _ => ?_)
      refine wp_bind.mpr (wp_of_always hinv (Txn.always_true _) fun acct db₁ _ _ _ _ => ?_)
      refine wp_bind.mpr (wp_claim.mpr fun db₂ hrely hfree => ?_)
      have hnone : db₁.pendingCount call.organizationId = 0 := by
        rw [Db.pendingCount, List.countP_eq_zero]
        exact fun row hrow hpending => (List.any_eq_false.mp hfree) row hrow hpending
      exact commitsLoosely_addRequest hrely.2
        (hrely.1.waiting _ (fun hfree => hfree (.inl rfl)) hnone) (.inl rfl)
  | approveRequest admin id limit =>
      refine wp_request hinv (Txn.always_bind.mpr ?_)
      have hpatch : (patchCreditLimit (T := T) call limit).Always fun patch =>
          patch = setLimit call limit :=
        Txn.always_bind.mpr ((Txn.always_true _).imp fun _ _ => Txn.always_bind.mpr
          ((Txn.always_true _).imp fun _ _ => Txn.always_bind.mpr
            ((Txn.always_true _).imp fun _ _ => rfl)))
      refine hpatch.imp fun patch hset => ?_
      refine Txn.always_bind.mpr ((Txn.always_true _).imp fun _ _ db howner => ⟨.approved, ?_⟩)
      have h : DecidedAs (.request id) call.organizationId .approved db (db.decideRequest call id
          .approved .approved (some (money limit))) := decidedAs_decideRequest rfl howner
      refine ⟨h.owner, h.decision, h.records, h.pending, fun o hne =>
        ⟨by_contra fun ho => ?_, rfl⟩⟩
      subst hset
      exact hne (file_setLimit_of_ne ho)
  | rejectRequest admin id =>
      exact wp_request hinv (Txn.always_bind.mpr ((Txn.always_true _).imp fun _ _ db howner =>
        ⟨.rejected, decidedAs_decideRequest rfl howner⟩))

end

section Schedules

variable {T : Type} [DecidableEq T] (db : Db) (call : T → Call) (op : T → DecisionOp)

/-- The requests of a number of clients, each of them a transaction. -/
def decisionStart : State Db (Lock T) T (Rest Db (Lock T) ServiceError) :=
  .start db fun t => some ((op t).txn t (call t))

/-- What a schedule of the requests leaves behind. -/
def decisionAfter (events : List (Event T)) : Db :=
  (Runs.run (ReadCommitted.step (transactions Db (Lock T) ServiceError))
    (decisionStart db call op) events).store

/-- The schedule has made one decision about each target at most, has changed credit files with
final approvals only, and leaves no organisation with two requests that wait. -/
structure OneDecision (events : List (Event T)) : Prop where
  decided : ∀ x, ∃ rows, (decisionAfter db call op events).decisionsOn x =
    db.decisionsOn x ++ rows ∧ rows.length ≤ 1 ∧
      ∀ d ∈ rows, (decisionAfter db call op events).decision x = some d
  credit : ∀ pre e post, events = pre ++ e :: post → ∀ org,
    (decisionAfter db call op (pre ++ [e])).credit.file org ≠
      (decisionAfter db call op pre).credit.file org →
    ∃ x, (decisionAfter db call op events).ownerOf x = some org ∧
      (decisionAfter db call op pre).decision x = none ∧
      (decisionAfter db call op (pre ++ [e])).decision x = some .approved ∧
      (decisionAfter db call op events).decision x = some .approved
  waiting : ∀ org, (decisionAfter db call op events).pendingCount org ≤ 1

variable {db call op} {events : List (Event T)}

omit [DecidableEq T] in
theorem sound_decisionStart (hpending : ∀ org, db.pendingCount org ≤ 1) :
    SoundLoosely (decisionDiscipline T) decidesRead (decisionStart db call op) :=
  soundLoosely_start hpending fun t => keeps_decision t (call t) (op t) db

/-- The part `q` of an undisturbed schedule. -/
theorem evolves_from (hpending : ∀ org, db.pendingCount org ≤ 1) {p q : List (Event T)}
    (hevents : Runs.Along (ReadCommitted.step (transactions Db (Lock T) ServiceError))
      (Undisturbed decidesRead) (decisionStart db call op) (p ++ q)) :
    Evolves (fun _ : Lock T => True) (decisionAfter db call op p)
      (decisionAfter db call op (p ++ q)) := by
  obtain ⟨hpre, hpost⟩ := Runs.along_append.mp hevents
  have h := evolves_of_undisturbed ((sound_decisionStart hpending).run hpre) hpost
  rw [← Runs.run_append] at h
  exact h

/-- **Along an undisturbed schedule** of any number of requests, in which no commit decides about
a target that another running transaction has read, at most one decision commits for each
application and each request, every change of a credit file is an approval that is final, and no
organisation has two requests that wait. -/
theorem one_decision (hpending : ∀ org, db.pendingCount org ≤ 1)
    (hevents : Runs.Along (ReadCommitted.step (transactions Db (Lock T) ServiceError))
      (Undisturbed decidesRead) (decisionStart db call op) events) :
    OneDecision db call op events := by
  refine ⟨fun x => ?_, ?_, ((sound_decisionStart hpending).run hevents).inv⟩
  · have hevolves : Evolves (fun _ : Lock T => True) db (decisionAfter db call op events) :=
      evolves_from (p := []) hpending hevents
    obtain ⟨rows, hrows, hdecides⟩ := hevolves.decided x
    refine ⟨rows, hrows, hdecides.length_le_one, fun d hd => ?_⟩
    match rows, hdecides with
    | [_], ⟨_, hafter⟩ => rwa [List.mem_singleton.mp hd]
  · rintro pre e post rfl org hne
    have hsplit : pre ++ e :: post = (pre ++ [e]) ++ post := by simp
    rw [hsplit] at hevents ⊢
    obtain ⟨x, howner, hopen, happroved⟩ :=
      (evolves_from hpending hevents.prefix_run).credit org hne
    have hafter := evolves_from hpending hevents
    exact ⟨x, hafter.owner x org howner, hopen, happroved, hafter.of_some happroved⟩

end Schedules

/-! ### An approval and a rejection at the same time -/

/-- The application has been reviewed. -/
def reviewed : Db :=
  Runs.run (step anyEmail) underReview
    [(callerAt 3, .verifyTradeReference 1 1 .verified),
      (callerAt 4, .verifyTradeReference 1 2 .verified), (callerAt 5, .runCreditCheck 1 .report)]

/-- Request 0 approves the application, request 1 rejects it. -/
def approveAndReject (t : ℕ) : DecisionOp :=
  if t = 0 then .approve 1 ⟨5000, 30, none, none⟩ else .reject 1 .poorFinancialStanding "Losses"

theorem pendingCount_reviewed (org : Id) : reviewed.pendingCount org ≤ 1 := by
  have hnone : reviewed.requests.rows = [] := by decide +kernel
  rw [Db.pendingCount, hnone]
  exact Nat.zero_le 1

/-- First the approval, then the rejection. -/
def approvedFirst : List (Event ℕ) :=
  List.replicate 9 (.step 0) ++ ([.crash 0] ++ List.replicate 5 (.step 1))

theorem undisturbed_approvedFirst :
    Runs.Along (ReadCommitted.step (transactions Db (Lock ℕ) ServiceError))
      (Undisturbed decidesRead) (decisionStart reviewed (fun _ => callerAt 6) approveAndReject)
      approvedFirst := by
  have hstart : Alone (decisionStart reviewed (fun _ => callerAt 6) approveAndReject) 0 :=
    fun k u howner => nomatch howner
  obtain ⟨hfirst, halone⟩ := hstart.along decidesRead 9
  exact Runs.along_append.mpr ⟨hfirst, trivial, ((halone.crash 1).along decidesRead 5).1⟩

/-- One after the other make one decision. -/
theorem approved_first_decides_once :
    OneDecision reviewed (fun _ => callerAt 6) approveAndReject approvedFirst ∧
      (decisionAfter reviewed (fun _ => callerAt 6) approveAndReject approvedFirst).decisions =
        [⟨.application 1, .approved⟩] :=
  ⟨one_decision pendingCount_reviewed undisturbed_approvedFirst, by decide +kernel⟩

/-- Both have read the status before the approval commits. -/
def bothRead : List (Event ℕ) :=
  List.replicate 2 (.step 1) ++ List.replicate 9 (.step 0) ++ List.replicate 3 (.step 1)

/-- Both decisions commit: the application is rejected, and the account is there with the limit
that was approved. -/
theorem two_decisions :
    (∀ org, reviewed.pendingCount org ≤ 1) ∧
    ¬ OneDecision reviewed (fun _ => callerAt 6) approveAndReject bothRead ∧
    (decisionAfter reviewed (fun _ => callerAt 6) approveAndReject bothRead).decisions =
      [⟨.application 1, .approved⟩, ⟨.application 1, .rejected⟩] ∧
    (decisionAfter reviewed (fun _ => callerAt 6) approveAndReject bothRead).applications.rows.map
      (·.status) = [.rejected] ∧
    (decisionAfter reviewed (fun _ => callerAt 6) approveAndReject
      bothRead).credit.accounts.rows.map (fun acct => (acct.status, acct.creditLimit))
        = [(.active, some 500000)] := by
  have hdecisions : (decisionAfter reviewed (fun _ => callerAt 6) approveAndReject
      bothRead).decisionsOn (.application 1) = [.approved, .rejected] := by decide +kernel
  have hnone : reviewed.decisionsOn (.application 1) = [] := by decide +kernel
  refine ⟨pendingCount_reviewed, fun h => ?_, by decide +kernel, by decide +kernel,
    by decide +kernel⟩
  obtain ⟨rows, hrows, hlength, -⟩ := h.decided (.application 1)
  rw [hdecisions, hnone, List.nil_append] at hrows
  subst hrows
  exact absurd hlength (by decide)

end SwCouriers.CreditApplications
