import SwCouriers.CreditStatus
import SwCouriers.Lib.LooseWrites

/-!
# The Status History of a Credit Account

The rows that the status operations add to the history of an organisation are meant to be a path
from the status that its account had to the one that it has: each row starts where the one before
it ended (`IsPath`). An organisation whose account is not there yet counts as ACTIVE, which is how
accounts are created.

An approval takes the status from the object that it has read before it locks the account. When
the account leaves that status in between, the row that the approval adds starts at a status that
the account does not have any more. What does hold is that the history is a path along the
schedules in which no account leaves a status other than ACTIVE while an approval goes on with
what it has read of it.

Everything an operation writes is in the file of one organisation: its account and its history.
While nobody else holds the account, its file stays as it is; while nobody else holds the index
entry of an organisation without an account, no account appears (`FileEvolves`).

## Main results

* `Op.keeps`: each operation keeps the discipline but for the status that it commits.
* `Op.spares_closed`: no row that an operation adds starts at CLOSED, unless it provisions.
* `status_history_chains`: along undisturbed schedules the history is a path to the current status
  in every committed state, only an approval leaves CLOSED, and an operation that raises changes
  nothing.
* `hold_left_twice`: a hold that is released while an application is approved.
-/

namespace SwCouriers.CreditStatus

open Checked ReadCommitted Discipline

/-! ### Paths -/

/-- Each row starts at the status where the one before it ended. -/
def IsPath : OrgCreditAccountStatus → List OrgCreditStatusHistory → OrgCreditAccountStatus → Prop
  | status, [], status' => status = status'
  | status, row :: rows, status' => row.fromStatus = some status ∧ IsPath row.toStatus rows status'

theorem IsPath.append {s₁ s₂ s₃ : OrgCreditAccountStatus} {rows rows' : List OrgCreditStatusHistory}
    (h : IsPath s₁ rows s₂) (h' : IsPath s₂ rows' s₃) : IsPath s₁ (rows ++ rows') s₃ := by
  induction rows generalizing s₁ with
  | nil =>
      obtain rfl : s₁ = s₂ := h
      exact h'
  | cons row rows ih => exact ⟨h.1, ih h.2⟩

/-! ### Files -/

/-- What is stored of one organisation. -/
structure AccountFile where
  account : Option OrgCreditAccount
  history : List OrgCreditStatusHistory

/-- The status of an account; one that is not there yet will be created ACTIVE. -/
def AccountFile.status (file : AccountFile) : OrgCreditAccountStatus :=
  (file.account.map (·.status)).getD .active

/-- The file of an organisation. -/
def Db.file (db : Db) (organizationId : Id) : AccountFile where
  account := db.accounts.find? organizationId
  history := db.history.filter fun row => row.organizationId = organizationId

/-- How the file of an organisation evolves when its account or its index entry may be touched:
the history grows along a path of the status. -/
structure FileEvolves (account entry : Prop) (file file' : AccountFile) : Prop where
  present : ¬ account → file.account.isSome = true → file' = file
  absent : ¬ entry → file.account = none → file' = file
  path : ∃ rows, file'.history = file.history ++ rows ∧ IsPath file.status rows file'.status

theorem FileEvolves.refl (account entry : Prop) (file : AccountFile) :
    FileEvolves account entry file file :=
  ⟨fun _ _ => rfl, fun _ _ => rfl, [], by simp, rfl⟩

theorem FileEvolves.trans {account entry : Prop} {f₁ f₂ f₃ : AccountFile}
    (h : FileEvolves account entry f₁ f₂) (h' : FileEvolves account entry f₂ f₃) :
    FileEvolves account entry f₁ f₃ := by
  constructor
  · intro hfree hsome
    obtain rfl := h.present hfree hsome
    exact h'.present hfree hsome
  · intro hfree hnone
    obtain rfl := h.absent hfree hnone
    exact h'.absent hfree hnone
  · obtain ⟨rows, hrows, hpath⟩ := h.path
    obtain ⟨rows', hrows', hpath'⟩ := h'.path
    exact ⟨rows ++ rows', by rw [hrows', hrows, List.append_assoc], hpath.append hpath'⟩

variable {T : Type}

/-- How the store evolves: every file does, and what an approval has read that is not ACTIVE stays
the status of the account. -/
structure Evolves (touched : AccountLock T → Prop) (db db' : Db) : Prop where
  files : ∀ org,
    FileEvolves (touched (.account org)) (touched (.entry org)) (db.file org) (db'.file org)
  read : ∀ t org, ¬ touched (.reading t org) → (db.file org).status ≠ .active →
    (db'.file org).status = (db.file org).status

/-- The discipline of the credit accounts. -/
def accountDiscipline (T : Type) : Discipline Db (AccountLock T) where
  inv := fun _ => True
  evolves := Evolves
  refl := fun _ _ => ⟨fun _ => .refl _ _ _, fun _ _ _ _ => rfl⟩
  trans := fun h h' => by
    refine ⟨fun org => (h.files org).trans (h'.files org), fun t org hfree hstatus => ?_⟩
    have hsame := h.read t org hfree hstatus
    exact (h'.read t org hfree (hsame ▸ hstatus)).trans hsame
  mono := fun hsub h => by
    refine ⟨fun org => ?_, fun t org hfree => h.read t org fun htouched => hfree (hsub _ htouched)⟩
    exact ⟨fun hfree => (h.files org).present fun htouched => hfree (hsub _ htouched),
      fun hfree => (h.files org).absent fun htouched => hfree (hsub _ htouched), (h.files org).path⟩

/-- An account that leaves a status other than ACTIVE is touched for those who have read it. -/
def changesRead (db db' : Db) : AccountLock T → Prop
  | .reading _ org =>
      (db.file org).status ≠ .active ∧ (db'.file org).status ≠ (db.file org).status
  | _ => False

variable {acct : OrgCreditAccount}

section

variable {db db' : Db} {held : AccountLock T → Prop} {call : Call} {org : Id}

/-- A file whose account is held stays as it is. -/
theorem file_of_account_held (hrely : (accountDiscipline T).Rely held db db')
    (hheld : held (.account org)) (hsome : (db.file org).account.isSome = true) :
    db'.file org = db.file org :=
  (hrely.1.files org).present (fun hfree => hfree hheld) hsome

/-- No account appears while the index entry is held. -/
theorem file_of_entry_held (hrely : (accountDiscipline T).Rely held db db')
    (hheld : held (.entry org)) (hnone : (db.file org).account = none) :
    db'.file org = db.file org :=
  (hrely.1.files org).absent (fun hfree => hfree hheld) hnone

/-- What a transaction has read that is not ACTIVE stays the status of the account. -/
theorem status_of_reading {t : T} (hrely : (accountDiscipline T).Rely held db db')
    (hheld : held (.reading t org)) (hstatus : (db.file org).status ≠ .active) :
    (db'.file org).status = (db.file org).status :=
  hrely.1.read t org (fun hfree => hfree hheld) hstatus

/-! ### The writes -/

/-- A new account leaves the other files alone, and is the account of its own. -/
theorem file_addAccount (hnew : (db.file acct.organizationId).account = none) (org : Id) :
    (db.addAccount acct).file org =
      if acct.organizationId = org then ⟨some acct, (db.file org).history⟩ else db.file org := by
  have hkey : acct.organizationId ∉ db.accounts.rows.map OrgCreditAccount.organizationId :=
    Table.find?_eq_none_iff.mp hnew
  simp only [Db.file, Db.addAccount, Table.find?_insert hkey]
  split <;> rfl

/-- A new account is ACTIVE, as one that is not there yet. -/
theorem status_addAccount (hactive : acct.status = .active) (db : Db) (org : Id) :
    ((db.addAccount acct).file org).status = (db.file org).status := by
  cases hnew : (db.file acct.organizationId).account with
  | some taken =>
      have hkey : acct.organizationId ∈ db.accounts.rows.map OrgCreditAccount.organizationId := by
        obtain ⟨hmem, hid⟩ := Table.find?_eq_some_iff.mp hnew
        exact hid ▸ List.mem_map_of_mem hmem
      rw [Db.addAccount, Table.insert, dif_pos hkey]
  | none =>
      rw [file_addAccount hnew]
      split
      case isFalse => rfl
      case isTrue horg =>
        subst horg
        simp [AccountFile.status, hnew, hactive]

/-- The terms of an account are part of its file. -/
theorem file_setTerms (approval : Approval) (frequency : Option OrgCreditReviewFrequency)
    (acct : OrgCreditAccount) (db : Db) (org : Id) :
    (db.setTerms call approval frequency acct).file org =
      if org = call.organizationId
      then ⟨(db.file org).account.map (acct.withTerms call approval frequency),
        (db.file org).history⟩
      else db.file org := by
  have hfind := Table.find?_modify db.accounts call.organizationId
    (acct.withTerms call approval frequency) (fun _ => rfl) org
  simp only [Db.file, Db.setTerms, hfind]
  split <;> rfl

/-- A new status and the row that records it are part of one file. -/
theorem file_changeStatus (acct : OrgCreditAccount) (change : StatusChange) (db : Db) (org : Id) :
    (db.changeStatus call acct change).file org =
      if org = call.organizationId
      then ⟨(db.file org).account.map (acct.withStatus call change),
        (db.file org).history ++ [call.transition acct change]⟩
      else db.file org := by
  have hfind := Table.find?_modify db.accounts call.organizationId (acct.withStatus call change)
    (fun _ => rfl) org
  simp only [Db.file, Db.changeStatus, hfind, List.filter_append]
  by_cases h : org = call.organizationId
  · simp [h, Call.transition]
  · simp [h, Call.transition, Ne.symm h]

/-- What is written to the file of one organisation may be committed by who holds it. -/
theorem commits_of_file (call : Call) {write : Db → Db}
    (hother : ∀ org, org ≠ call.organizationId → (write db).file org = db.file org)
    (hfile : FileEvolves (held (.account call.organizationId)) (held (.entry call.organizationId))
      (db.file call.organizationId) ((write db).file call.organizationId)) :
    (accountDiscipline T).CommitsLoosely changesRead write db held := by
  refine ⟨trivial, fun org => ?_, fun t org hfree hstatus => ?_⟩
  · by_cases horg : org = call.organizationId
    · subst horg
      exact ⟨fun hfree => hfile.present fun hheld => hfree (.inl hheld),
        fun hfree => hfile.absent fun hheld => hfree (.inl hheld), hfile.path⟩
    · rw [hother org horg]
      exact .refl _ _ _
  · -- A status that is left is what the write touches loosely.
    by_contra hleft
    exact hfree (.inr ⟨hstatus, hleft⟩)

/-- The status of an account that is held may be changed by who knows it. -/
theorem commits_changeStatus {row : OrgCreditAccount} (change : StatusChange)
    (hrow : (db.file call.organizationId).account = some row) (hstatus : row.status = acct.status)
    (hheld : held (.account call.organizationId)) :
    (accountDiscipline T).CommitsLoosely changesRead (Db.changeStatus call acct change) db
      held := by
  refine commits_of_file call (fun org horg => ?_) ?_
  · rw [file_changeStatus, if_neg horg]
  · rw [file_changeStatus, if_pos rfl]
    refine ⟨fun hfree => absurd hheld hfree, fun _ hnone => ?_, [call.transition acct change], rfl,
      ?_⟩
    · rw [hrow] at hnone
      cases hnone
    · simp [IsPath, AccountFile.status, hrow, hstatus, Call.transition,
        OrgCreditAccount.withStatus]

/-- An account that is held may be given the terms of an approval that knows its status, or has
read that it is ACTIVE. -/
theorem commits_provision {approval : Approval} {frequency : Option OrgCreditReviewFrequency}
    {row : OrgCreditAccount} (hrow : (db.file call.organizationId).account = some row)
    (hstatus : acct.status ≠ .active → row.status = acct.status)
    (hheld : held (.account call.organizationId)) :
    (accountDiscipline T).CommitsLoosely changesRead (Db.provision call approval frequency acct) db
      held := by
  refine commits_of_file call (fun org horg => ?_) ?_
  · rw [Db.provision]
    split
    · rw [file_setTerms, if_neg horg]
    · rw [file_changeStatus, if_neg horg, file_setTerms, if_neg horg]
  · refine ⟨fun hfree => absurd hheld hfree, fun _ hnone => ?_, ?_⟩
    · rw [hrow] at hnone
      cases hnone
    · rw [Db.provision]
      split
      case isTrue =>
        refine ⟨[], ?_, ?_⟩ <;>
          simp [file_setTerms, IsPath, AccountFile.status, hrow, OrgCreditAccount.withTerms]
      case isFalse hactive =>
        refine ⟨[call.transition acct reactivation], ?_, ?_⟩
        · simp [file_changeStatus, file_setTerms]
        · simp [file_changeStatus, file_setTerms, IsPath, AccountFile.status, hrow,
            hstatus hactive, Call.transition, OrgCreditAccount.withStatus,
            OrgCreditAccount.withTerms]

/-- An account may be created by who holds the index entry. -/
theorem pending_addAccount (hactive : acct.status = .active)
    (hnew : (db.file acct.organizationId).account = none)
    (hheld : held (.entry acct.organizationId)) :
    (accountDiscipline T).Pending (Db.addAccount acct) db held := by
  intro db' hrely held' hsub
  have hsame := file_of_entry_held hrely hheld hnew
  have hnew' : (db'.file acct.organizationId).account = none := hsame ▸ hnew
  refine ⟨⟨trivial, fun org => ?_, fun _ org _ _ => status_addAccount hactive db' org⟩,
    fun db'' hrely' => ⟨⟨fun org => ?_, fun t org hfree hstatus => ?_⟩, trivial⟩⟩
  · rw [file_addAccount hnew']
    split
    case isFalse => exact .refl _ _ _
    case isTrue horg =>
      subst horg
      refine ⟨fun _ hsome => ?_, fun hfree => absurd (hsub _ hheld) hfree, [], ?_, ?_⟩
      · rw [hnew'] at hsome
        cases hsome
      · simp
      · simp [IsPath, AccountFile.status, hnew', hactive]
  · have hsame' := file_of_entry_held hrely' (hsub _ hheld) hnew'
    rw [file_addAccount hnew', file_addAccount (hsame' ▸ hnew')]
    split
    case isFalse => exact hrely'.1.files org
    case isTrue horg =>
      subst horg
      rw [hsame']
      exact .refl _ _ _
  · rw [status_addAccount hactive] at hstatus
    rw [status_addAccount hactive, status_addAccount hactive]
    exact hrely'.1.read t org hfree hstatus

/-! ### The transactions -/

/-- Nothing to write may always be committed. -/
theorem pending_id : (accountDiscipline T).Pending id db held :=
  fun _ _ _ _ => ⟨⟨trivial, (accountDiscipline T).refl _ _⟩, fun _ hrely => hrely⟩

/-- What may be written before the account is locked, with a rest that sees it. -/
structure Opens (write : Db → Db) (db : Db) (held : AccountLock T → Prop) : Prop where
  pending : (accountDiscipline T).Pending write db held
  status : ∀ db org, ((write db).file org).status = (db.file org).status

theorem opens_id : Opens id db held := ⟨pending_id, fun _ _ => rfl⟩

/-- What is touched loosely stays so when the account was created before. -/
theorem Opens.changesRead {write : Db → Db} (h : Opens write db held) (db₁ db₂ : Db)
    (k : AccountLock T) (hloose : changesRead (write db₁) db₂ k) : changesRead db₁ db₂ k := by
  cases k with
  | reading t org => simpa only [CreditStatus.changesRead, h.status] using hloose
  | account org => exact hloose
  | entry org => exact hloose

theorem account_kept (hmem : acct ∈ db.accounts.rows) (hheld : held (.account acct.organizationId))
    (hrely : (accountDiscipline T).Rely held db db') : acct ∈ db'.accounts.rows := by
  have hacct : (db.file acct.organizationId).account = some acct :=
    Table.find?_eq_some_iff.mpr ⟨hmem, rfl⟩
  have hsame := file_of_account_held hrely hheld (by rw [hacct]; rfl)
  have hacct' : (db'.file acct.organizationId).account = some acct := by rw [hsame, hacct]
  exact (Table.find?_eq_some_iff.mp hacct').1

/-- A lookup that finds nothing raises. -/
theorem wp_loadAccountLocked {Q : OrgCreditAccount → Db → (AccountLock T → Prop) → Prop}
    (hfound : ∀ db' held' acct, (accountDiscipline T).Later db held db' held' →
      (db'.file org).account = some acct → held' (.account org) → Q acct db' held') :
    (accountDiscipline T).wp Q (loadAccountLocked org) db held := by
  refine wp_bind.mpr (wp_selectForUpdate_held account_kept ?_ ?_)
  · intro db' held' acct hlater hmem hmatch hheld
    obtain rfl : acct.organizationId = org := of_decide_eq_true hmatch
    refine wp_check.mpr fun acct' hacct => ?_
    obtain rfl := Option.some.inj (orRaise_eq_ok.mp hacct)
    exact hfound db' held' acct hlater (Table.find?_eq_some_iff.mpr ⟨hmem, rfl⟩) hheld
  · exact fun _ _ _ => wp_check.mpr fun _ hnone =>
      absurd (orRaise_eq_ok.mp hnone).symm (Option.some_ne_none _)

theorem wp_createAccount (hactive : acct.status = .active) :
    (accountDiscipline T).wp Opens (createAccount acct) db held := by
  refine wp_bind.mpr (wp_claim.mpr fun db' hrely hfree => ?_)
  have hnone : (db.file acct.organizationId).account = none :=
    Option.not_isSome_iff_eq_none.mp (Bool.eq_false_iff.mp hfree)
  have hsame := file_of_entry_held hrely (.inl rfl) hnone
  exact ⟨pending_addAccount hactive (by rw [hsame, hnone]) (.inl rfl), status_addAccount hactive⟩

theorem wp_getOrCreateAccount :
    (accountDiscipline T).wp Opens (getOrCreateAccount call) db held := by
  refine wp_bind.mpr (wp_statement.mpr fun db₁ _ _ _ => wp_bind.mpr (wp_query.mpr fun db₂ _ => ?_))
  cases db₁.accounts.find? call.organizationId with
  | some acct => exact opens_id
  | none => exact wp_bind.mpr (wp_query.mpr fun _ _ => wp_createAccount rfl)

/-- What the status operations share. -/
theorem wp_onAccount {decide : OrgCreditAccount → Except ServiceError (Option StatusChange)} :
    (accountDiscipline T).wp ((accountDiscipline T).CommitsLoosely changesRead)
      (onAccount call decide) db held := by
  refine wp_bind.mpr (wp_mono (fun created db₁ held₁ hopens => ?_) wp_getOrCreateAccount)
  refine wp_seeing_commitsLoosely trivial hopens.pending hopens.changesRead
    (wp_bind.mpr (wp_loadAccountLocked ?_))
  intro db₂ held₂ acct _ hacct hheld
  refine wp_bind.mpr (wp_check.mpr fun change _ => ?_)
  cases change with
  | none => exact ⟨trivial, (accountDiscipline T).refl _ _⟩
  | some change => exact commits_changeStatus change hacct rfl hheld

/-- An approval, given that the status it has read stays unless that is ACTIVE. -/
theorem wp_provisionAccountOnApproval (t : T) {approval : Approval} :
    (accountDiscipline T).wp ((accountDiscipline T).CommitsLoosely changesRead)
      (provisionAccountOnApproval t call approval) db held := by
  refine wp_bind.mpr (wp_statement.mpr fun db₁ _ _ _ =>
    wp_bind.mpr (wp_lockRow.mpr fun db₂ hrely existing hexisting => ?_))
  obtain rfl := Except.ok.inj hexisting
  cases hfound : db₁.accounts.find? call.organizationId with
  | none =>
      -- The account is created, and read when it is locked.
      refine wp_bind.mpr (wp_mono (fun created db₃ held₃ hopens => ?_) (wp_createAccount rfl))
      refine wp_seeing_commitsLoosely trivial hopens.pending hopens.changesRead
        (wp_bind.mpr (wp_loadAccountLocked ?_))
      intro db₄ held₄ acct _ hacct hheld
      exact wp_bind.mpr (wp_check.mpr fun frequency _ =>
        commits_provision hacct (fun _ => rfl) hheld)
  | some acct =>
      have hread : (db₁.file call.organizationId).status = acct.status := by
        simp [AccountFile.status, Db.file, hfound]
      refine wp_seeing_commitsLoosely trivial pending_id (fun _ _ _ hloose => hloose)
        (wp_bind.mpr (wp_loadAccountLocked ?_))
      intro db₃ held₃ row hlater hrow hheld
      refine wp_bind.mpr (wp_check.mpr fun frequency _ =>
        commits_provision hrow (fun hstatus => ?_) hheld)
      have hsame := status_of_reading (hrely.trans hlater.2) (.inl rfl) (hread ▸ hstatus)
      rw [hread, AccountFile.status, hrow] at hsame
      exact hsame

/-- Each operation keeps the discipline, but for the status that it commits. -/
theorem Op.keeps (t : T) (call : Call) (op : Op) (db : Db) :
    (accountDiscipline T).KeepsLoosely changesRead (op.txn t call) db fun _ => False := by
  intro db' _
  cases op with
  | placeHold category reason => exact wp_onAccount
  | releaseHold memo => exact wp_onAccount
  | suspendAccount reason => exact wp_onAccount
  | reactivateAccount memo => exact wp_onAccount
  | closeAccount category reason => exact wp_onAccount
  | provisionAccountOnApproval approval => exact wp_provisionAccountOnApproval t

end

/-! ### Rows that start at CLOSED -/

/-- The writes add rows to the history, none of which starts at CLOSED. -/
def SparesClosed (write : Db → Db) : Prop :=
  ∀ db : Db, ∃ rows, (write db).history = db.history ++ rows ∧
    ∀ row ∈ rows, row.fromStatus ≠ some .closed

theorem always_createAccount (acct : OrgCreditAccount) :
    (createAccount acct : AccountTxn T (Db → Db)).Always fun write =>
      ∀ db, (write db).history = db.history :=
  Txn.always_bind.mpr ((Txn.always_true _).imp fun _ _ _ => rfl)

theorem always_getOrCreateAccount (call : Call) :
    (getOrCreateAccount call : AccountTxn T (Db → Db)).Always fun write =>
      ∀ db, (write db).history = db.history := by
  refine Txn.always_bind.mpr ((Txn.always_true _).imp fun _ _ => ?_)
  refine Txn.always_bind.mpr ((Txn.always_true _).imp fun existing _ => ?_)
  cases existing with
  | some acct => exact fun _ => rfl
  | none => exact Txn.always_bind.mpr ((Txn.always_true _).imp fun _ _ => always_createAccount _)

/-- An operation that refuses closed accounts adds no row that starts at CLOSED. -/
theorem always_onAccount {call : Call}
    {decide : OrgCreditAccount → Except ServiceError (Option StatusChange)}
    (hdecide : ∀ acct change, decide acct = .ok (some change) → acct.status ≠ .closed) :
    (onAccount call decide : AccountTxn T (Db → Db)).Always SparesClosed := by
  refine Txn.always_bind.mpr ((always_getOrCreateAccount call).imp fun created hcreated => ?_)
  refine Txn.always_bind.mpr (Txn.Always.imp (Txn.Always.seeing (P := SparesClosed) ?_ created)
    fun write hwrite db => ?_)
  · refine Txn.always_bind.mpr ((Txn.always_true _).imp fun acct _ => ?_)
    refine Txn.always_bind.mpr (Txn.always_check.mpr fun change hchange => ?_)
    cases change with
    | none => exact fun db => ⟨[], (List.append_nil _).symm, by simp⟩
    | some change =>
        refine fun db => ⟨[call.transition acct change], rfl, fun row hrow => ?_⟩
        obtain rfl := List.mem_singleton.mp hrow
        exact fun hclosed => hdecide acct change hchange (Option.some.inj hclosed)
  · obtain ⟨rows, hrows, hspares⟩ := hwrite (created db)
    exact ⟨rows, by rw [hrows, hcreated], hspares⟩

/-- No row that an operation adds starts at CLOSED, unless it provisions. -/
theorem Op.spares_closed {op : Op} (hop : ¬ op.Provisions) (t : T) (call : Call) :
    (op.txn t call).Always SparesClosed := by
  cases op with
  | placeHold category reason =>
      refine always_onAccount fun acct change h => ?_
      obtain ⟨_, hstatus, -⟩ := bind_eq_ok.mp h
      simp [not_not.mp (raiseIf_eq_ok.mp hstatus)]
  | releaseHold memo =>
      refine always_onAccount fun acct change h => ?_
      obtain ⟨_, hstatus, -⟩ := bind_eq_ok.mp h
      simp [not_not.mp (raiseIf_eq_ok.mp hstatus)]
  | suspendAccount reason =>
      refine always_onAccount fun acct change h => ?_
      obtain ⟨_, hstatus, -⟩ := bind_eq_ok.mp h
      exact raiseIf_eq_ok.mp hstatus
  | reactivateAccount memo =>
      refine always_onAccount fun acct change h hclosed => ?_
      obtain ⟨_, hstatus, -⟩ := bind_eq_ok.mp h
      exact raiseIf_eq_ok.mp hstatus (by simp [hclosed])
  | closeAccount category reason =>
      refine always_onAccount fun acct change h => ?_
      obtain ⟨_, hstatus, -⟩ := bind_eq_ok.mp h
      exact raiseIf_eq_ok.mp hstatus
  | provisionAccountOnApproval approval => exact absurd trivial hop

/-! ### Other organisations -/

theorem file_addAccount_of_ne {db : Db} {org : Id} (hne : org ≠ acct.organizationId) :
    (db.addAccount acct).file org = db.file org := by
  cases hnew : (db.file acct.organizationId).account with
  | none => rw [file_addAccount hnew, if_neg (Ne.symm hne)]
  | some taken =>
      have hkey : acct.organizationId ∈ db.accounts.rows.map OrgCreditAccount.organizationId := by
        obtain ⟨hmem, hid⟩ := Table.find?_eq_some_iff.mp hnew
        exact hid ▸ List.mem_map_of_mem hmem
      rw [Db.addAccount, Table.insert, dif_pos hkey]

/-- An approval writes to the file of one organisation. -/
theorem always_provision (t : T) (call : Call) (approval : Approval) :
    (provisionAccountOnApproval t call approval).Always fun write =>
      ∀ db org, org ≠ call.organizationId → (write db).file org = db.file org := by
  refine Txn.always_bind.mpr ((Txn.always_true _).imp fun _ _ => ?_)
  refine Txn.always_bind.mpr ((Txn.always_true _).imp fun existing _ => ?_)
  refine Txn.always_bind.mpr (Txn.Always.imp (P := fun created : Db → Db =>
    ∀ db org, org ≠ call.organizationId → (created db).file org = db.file org) ?_
      fun created hcreated => ?_)
  · cases existing with
    | some acct => exact fun _ _ _ => rfl
    | none =>
        exact Txn.always_bind.mpr ((Txn.always_true _).imp fun _ _ _ _ hne =>
          file_addAccount_of_ne hne)
  refine Txn.always_bind.mpr (Txn.Always.imp (Txn.Always.seeing
    (P := fun write => ∀ db org, org ≠ call.organizationId → (write db).file org = db.file org)
    ?_ created) fun write hwrite db org hne => (hwrite _ org hne).trans (hcreated db org hne))
  refine Txn.always_bind.mpr ((Txn.always_true _).imp fun acct _ => ?_)
  refine Txn.always_bind.mpr (Txn.always_check.mpr fun frequency _ db org hne => ?_)
  rw [Db.provision]
  split
  · rw [file_setTerms, if_neg hne]
  · rw [file_changeStatus, if_neg hne, file_setTerms, if_neg hne]

/-! ### All operations together -/

section Schedules

variable [DecidableEq T] (db : Db) (call : T → Call) (op : T → Op)

/-- The requests of a number of clients, each of them a transaction. -/
def accountStart : State Db (AccountLock T) T (Rest Db (AccountLock T) ServiceError) :=
  .start db fun t => some ((op t).txn t (call t))

/-- The requests after a schedule. -/
def accountRun (events : List (Event T)) :
    State Db (AccountLock T) T (Rest Db (AccountLock T) ServiceError) :=
  Runs.run (step (transactions Db (AccountLock T) ServiceError)) (accountStart db call op) events

/-- The rows that a schedule has added to the history of an organisation are a path from the
status that its account had to the one that it has; only an approval leaves CLOSED; and no step of
an operation that raises has changed anything. -/
structure StatusChains (events : List (Event T)) : Prop where
  path : ∀ org, ∃ rows,
    ((accountRun db call op events).store.file org).history = (db.file org).history ++ rows ∧
    IsPath (db.file org).status rows ((accountRun db call op events).store.file org).status
  closed : ∀ pre e post, events = pre ++ e :: post → ∀ org,
    ((accountRun db call op pre).store.file org).status = .closed →
    ((accountRun db call op (pre ++ [e])).store.file org).status ≠ .closed →
    ∃ t, e = .step t ∧ (op t).Provisions
  raised : ∀ pre t post, events = pre ++ .step t :: post → Raises (accountRun db call op pre) t →
    ∀ earlier later, pre ++ [.step t] = earlier ++ .step t :: later →
      (accountRun db call op (earlier ++ [.step t])).store =
        (accountRun db call op earlier).store

variable {db call op}

theorem accountRun_append (pre post : List (Event T)) :
    accountRun db call op (pre ++ post) =
      Runs.run (step (transactions Db (AccountLock T) ServiceError)) (accountRun db call op pre)
        post :=
  Runs.run_append _ _ _

omit [DecidableEq T] in
theorem sound_accountStart :
    SoundLoosely (accountDiscipline T) changesRead (accountStart db call op) :=
  soundLoosely_start trivial fun t => (op t).keeps t (call t) db

/-- The part `q` of an undisturbed schedule. -/
theorem evolves_from {p q : List (Event T)}
    (hevents : Runs.Along (step (transactions Db (AccountLock T) ServiceError))
      (Undisturbed changesRead) (accountStart db call op) (p ++ q)) :
    Evolves (fun _ : AccountLock T => True) (accountRun db call op p).store
      (accountRun db call op (p ++ q)).store := by
  obtain ⟨hpre, hpost⟩ := Runs.along_append.mp hevents
  have h := evolves_of_undisturbed (sound_accountStart.run hpre) hpost
  rw [← Runs.run_append] at h
  exact h

/-- A step that leaves CLOSED is the commit of an approval. -/
theorem leaves_closed {pre : List (Event T)} {e : Event T} {org : Id}
    (hevents : Runs.Along (step (transactions Db (AccountLock T) ServiceError))
      (Undisturbed changesRead) (accountStart db call op) (pre ++ [e]))
    (hclosed : ((accountRun db call op pre).store.file org).status = .closed)
    (hleft : ((accountRun db call op (pre ++ [e])).store.file org).status ≠ .closed) :
    ∃ t, e = .step t ∧ (op t).Provisions := by
  have hsourced : ReadCommitted.Sourced (fun t write => ¬ (op t).Provisions → SparesClosed write)
      (accountRun db call op pre) := by
    refine (sourced_start fun t => ?_).run pre
    by_cases hop : (op t).Provisions
    · exact (Txn.always_true _).imp fun _ _ h => absurd hop h
    · exact ((op t).spares_closed hop t (call t)).imp fun _ h _ => h
  obtain ⟨rows, hrows, hpath⟩ := ((evolves_from hevents).files org).path
  rw [accountRun_append, Runs.run_cons, Runs.run_nil] at hleft hrows hpath
  have hne : (step (transactions Db (AccountLock T) ServiceError) (accountRun db call op pre)
      e).store ≠ (accountRun db call op pre).store := fun hsame => hleft (by rw [hsame, hclosed])
  obtain ⟨t, write, rfl, hspares, hstore⟩ := hsourced.commit_of_ne hne
  refine ⟨t, rfl, by_contra fun hop => ?_⟩
  -- The history of the organisation has grown by a path that starts at CLOSED.
  rw [hstore] at hrows hpath hleft
  obtain ⟨added, hadded, hnone⟩ := hspares hop (accountRun db call op pre).store
  cases rows with
  | nil => exact hleft (hpath.symm.trans hclosed)
  | cons row rows =>
      refine hnone row ?_ (hpath.1.trans (congrArg some hclosed))
      simp only [Db.file, hadded, List.filter_append, List.append_cancel_left_eq] at hrows
      have hmem : row ∈ added.filter fun row => row.organizationId = org :=
        hrows ▸ List.mem_cons_self
      exact (List.mem_filter.mp hmem).1

/-- **Along an undisturbed schedule** of any number of requests, in which no account leaves a
status other than ACTIVE while a running approval has read it, the status history chains: it is a
path to the current status in every committed state, only an approval leaves CLOSED, and an
operation that raises has changed nothing. -/
theorem status_history_chains {events : List (Event T)}
    (hevents : Runs.Along (step (transactions Db (AccountLock T) ServiceError))
      (Undisturbed changesRead) (accountStart db call op) events) :
    StatusChains db call op events := by
  refine ⟨fun org => ((evolves_from (p := []) hevents).files org).path, ?_, ?_⟩
  · rintro pre e post rfl org hclosed hleft
    have hsplit : pre ++ e :: post = (pre ++ [e]) ++ post := by simp
    rw [hsplit] at hevents
    exact leaves_closed hevents.prefix_run hclosed hleft
  · rintro pre t post - hraises earlier later hpre
    exact store_step_of_raises hraises hpre

end Schedules

/-! ### An approval and a release at the same time -/

/-- Administrator 2, for organisation 1. -/
def adminCall : Call := ⟨1, 2, 0, 3⟩

/-- An account with a limit of five thousand pounds that is on hold. -/
def onHoldAccount : OrgCreditAccount :=
  { adminCall.initialAccount (some 500000) with
    status := .onHold
    statusReason := some "Payment Dispute" }

/-- Organisation 1 has the account. -/
def onHold : Db where
  organizations := fun org => org = 1
  approvedLimits := fun _ => none
  accounts := Table.empty.insert onHoldAccount
  history := []

/-- Request 0 approves an application for six thousand pounds, request 1 releases the hold, and
request 2 places one. -/
def approveAndRelease (t : ℕ) : Op :=
  if t = 0 then .provisionAccountOnApproval ⟨6000, 30, none⟩
  else if t = 1 then .releaseHold none
  else .placeHold .investigationPending none

/-- The statuses that the rows of the history start and end at. -/
def Db.transitions (db : Db) :
    List (Option OrgCreditAccountStatus × OrgCreditAccountStatus) :=
  db.history.map fun row => (row.fromStatus, row.toStatus)

/-- First the approval, then the new hold. -/
def approvalFirst : List (Event ℕ) :=
  List.replicate 5 (.step 0) ++ ([.crash 0] ++ List.replicate 5 (.step 2))

theorem undisturbed_approvalFirst :
    Runs.Along (step (transactions Db (AccountLock ℕ) ServiceError)) (Undisturbed changesRead)
      (accountStart onHold (fun _ => adminCall) approveAndRelease) approvalFirst := by
  have hstart : Alone (accountStart onHold (fun _ => adminCall) approveAndRelease) 0 :=
    fun k u howner => nomatch howner
  obtain ⟨hfirst, halone⟩ := hstart.along changesRead 5
  exact Runs.along_append.mpr ⟨hfirst, trivial, ((halone.crash 2).along changesRead 5).1⟩

/-- One after the other are a path. -/
theorem approval_then_hold_chains :
    StatusChains onHold (fun _ => adminCall) approveAndRelease approvalFirst ∧
    (accountRun onHold (fun _ => adminCall) approveAndRelease approvalFirst).store.transitions =
      [(some .onHold, .active), (some .active, .onHold)] :=
  ⟨status_history_chains undisturbed_approvalFirst, by decide +kernel⟩

/-- The approval has read the account before the release commits, and locks it afterwards. -/
def releasedMeanwhile : List (Event ℕ) :=
  List.replicate 2 (.step 0) ++ List.replicate 5 (.step 1) ++ List.replicate 3 (.step 0)

/-- The account leaves its hold twice: the second row of the history starts at ON_HOLD, where the
first one has ended at ACTIVE. -/
theorem hold_left_twice :
    ¬ StatusChains onHold (fun _ => adminCall) approveAndRelease releasedMeanwhile ∧
    (accountRun onHold (fun _ => adminCall) approveAndRelease
      releasedMeanwhile).store.transitions =
        [(some .onHold, .active), (some .onHold, .active)] := by
  have htransitions : (accountRun onHold (fun _ => adminCall) approveAndRelease
      releasedMeanwhile).store.transitions =
        [(some .onHold, .active), (some .onHold, .active)] := by decide +kernel
  refine ⟨fun h => ?_, htransitions⟩
  obtain ⟨rows, hrows, hpath⟩ := h.path 1
  have hall : ((accountRun onHold (fun _ => adminCall) approveAndRelease
      releasedMeanwhile).store.file 1).history =
        (accountRun onHold (fun _ => adminCall) approveAndRelease
          releasedMeanwhile).store.history := by decide +kernel
  rw [hall, show (onHold.file 1).history = [] from rfl, List.nil_append] at hrows
  rw [Db.transitions, hrows] at htransitions
  match rows, htransitions, hpath with
  | [first, second], htransitions, hpath =>
      obtain ⟨hfirst, hsecond⟩ : ((first.fromStatus, first.toStatus) = (some .onHold, .active)) ∧
          (second.fromStatus, second.toStatus) = (some .onHold, .active) := by
        simpa using htransitions
      have hstart : second.fromStatus = some first.toStatus := hpath.2.1
      rw [(Prod.mk.inj hsecond).1, (Prod.mk.inj hfirst).2] at hstart
      cases hstart

end SwCouriers.CreditStatus
