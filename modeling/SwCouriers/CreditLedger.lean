import SwCouriers.CreditAccounts

/-!
# The Credit Ledger Under Concurrency

Any number of movements run at once on any number of accounts. The row lock on the account
makes the computation of the used credit exclusive; the unique index refuses the second of
two calls that both missed the other's entry when they looked it up. So along every schedule
a key is used once, the used credit is never negative and a consumption never takes it over
the limit.

A call does not round its amount, but the columns it writes to do. So what the ledger says
adds up exactly when the amounts that were moved are whole pence; they are, since the one
caller charges the total of an order, which is rounded to pence.

## Main results

* `creditOutline`: what a transaction may rely on between two of its statements.
* `creditInv_run`: what holds of accounts and entries after every schedule.
* `ledgerCorrect_iff_wholePence`: the ledger is correct exactly when no movement with a
  fraction of a penny was committed.
* `ledger_correct`: calls of whole pence leave a correct ledger after every schedule.
-/

namespace SwCouriers

open Checked ReadCommitted

/-! ### What is claimed of the ledger -/

/-- An amount without a fraction of a penny. -/
def WholePence (amount : ℚ) : Prop := ∃ n : ℤ, amount = pounds n

/-- The sum of the signed amounts of some entries. -/
def movedBy (entries : List OrgCreditLedgerEntry) : ℚ := (entries.map (·.amount)).sum

/-- Every entry carries the total of the movements up to its own, and what was left of the
limit then. -/
def RunningTotals (entries : List OrgCreditLedgerEntry) : Prop :=
  ∀ pre e post, entries = pre ++ e :: post →
    pounds e.usedCreditAfter = movedBy (pre ++ [e]) ∧
    pounds e.availableCreditAfter
      = availableCredit e.creditLimitAfter (pounds e.usedCreditAfter)

/-- Transactions on credit accounts at some moment of a schedule. -/
abbrev CreditState (T : Type) := State CreditDb CreditLock T CreditPoint

/-- **What the ledger is for.** -/
structure LedgerCorrect {T : Type} [DecidableEq T] (σ : CreditState T) : Prop where
  /-- The used credit is the sum of what was moved. -/
  used : ∀ acct ∈ σ.store.accounts.rows,
    pounds acct.usedCredit = movedBy (σ.store.ledgerOf acct.organizationId)
  /-- No key is used twice. -/
  distinct : ∀ organizationId, (σ.store.keys organizationId).Nodup
  nonneg : ∀ acct ∈ σ.store.accounts.rows, 0 ≤ acct.usedCredit
  running : ∀ organizationId, RunningTotals (σ.store.ledgerOf organizationId)
  /-- After a committed consumption the used credit is within the limit. -/
  within : ∀ t entry, (step creditProgram σ (.step t)).store.ledger
      = σ.store.ledger ++ [entry] → entry.movementType = .consume →
    ∃ acct limit, (step creditProgram σ (.step t)).store.accounts.find? entry.organizationId
      = some acct ∧ acct.creditLimit = some limit ∧ acct.usedCredit ≤ limit
  /-- A call under a key that is used changes nothing. -/
  retry : ∀ t call, (σ.txn t).call? = some call →
    σ.store.KeyUsed call.organizationId call.op.idempotencyKey →
    (step creditProgram σ (.step t)).store = σ.store

/-! ### What a call computes -/

theorem pounds_add (m n : ℤ) : pounds (m + n) = pounds m + pounds n :=
  Decimal.ofHundredths_add m n

theorem pounds_sub (m n : ℤ) : pounds (m - n) = pounds m - pounds n :=
  Decimal.ofHundredths_sub m n

/-- The used credit moves by the signed amount. -/
theorem newUsed_eq {op : CreditOp} {acct : OrgCreditAccount} {newUsed : ℚ}
    (h : op.newUsed acct = .ok newUsed) : newUsed = pounds acct.usedCredit + op.signedAmount := by
  cases op with
  | consumeCredit amount source sourceId key =>
      replace h := ok_of_check h
      obtain ⟨limit, -, h⟩ := bind_eq_ok.mp h
      replace h := ok_of_check h
      exact (pure_eq_ok.mp h).symm
  | repayCredit amount source sourceId key =>
      replace h := ok_of_check h
      replace h := ok_of_check h
      exact (pure_eq_ok.mp h).symm.trans (sub_eq_add_neg _ _)
  | manualAdjustUsed delta reason key =>
      replace h := ok_of_check h
      replace h := ok_of_check h
      replace h := ok_of_check h
      exact (pure_eq_ok.mp h).symm

/-- No call makes the used credit negative. -/
theorem newUsed_nonneg {op : CreditOp} {acct : OrgCreditAccount} {newUsed : ℚ}
    (hamount : op.checkAmount = .ok ()) (hacct : 0 ≤ acct.usedCredit)
    (h : op.newUsed acct = .ok newUsed) : 0 ≤ newUsed := by
  have heq := newUsed_eq h
  cases op with
  | consumeCredit amount source sourceId key =>
      have hpos : 0 < amount := not_le.mp (raiseIf_eq_ok.mp hamount)
      have hused : 0 ≤ pounds acct.usedCredit := by
        rw [pounds, Decimal.ofHundredths]
        positivity
      rw [heq]
      exact add_nonneg hused hpos.le
  | repayCredit amount source sourceId key =>
      replace h := ok_of_check h
      obtain ⟨hle, h⟩ := raiseIf_bind_eq_ok.mp h
      rw [← pure_eq_ok.mp h]
      exact sub_nonneg.mpr (not_lt.mp hle)
  | manualAdjustUsed delta reason key =>
      replace h := ok_of_check h
      obtain ⟨hle, h⟩ := raiseIf_bind_eq_ok.mp h
      rw [heq]
      exact not_lt.mp hle

/-- A consumption stays within the limit of the row it has locked. -/
theorem newUsed_le_limit {op : CreditOp} {acct : OrgCreditAccount} {newUsed : ℚ}
    (hconsume : op.movementType = .consume) (h : op.newUsed acct = .ok newUsed) :
    ∃ limit, acct.creditLimit = some limit ∧ newUsed ≤ pounds limit := by
  cases op with
  | consumeCredit amount source sourceId key =>
      replace h := ok_of_check h
      obtain ⟨limit, hlimit, h⟩ := orRaise_bind_eq_ok.mp h
      obtain ⟨hle, h⟩ := raiseIf_bind_eq_ok.mp h
      refine ⟨limit, hlimit, ?_⟩
      rw [← pure_eq_ok.mp h]
      exact not_lt.mp hle
  | repayCredit amount source sourceId key =>
      exact OrgCreditLedgerMovementType.noConfusion hconsume
  | manualAdjustUsed delta reason key =>
      exact OrgCreditLedgerMovementType.noConfusion hconsume

/-! ### What a commit writes -/

section Writes

variable {db : CreditDb} {call : CreditCall} {acct : OrgCreditAccount} {newUsed : ℚ}

theorem find?_record (organizationId : Id) :
    (db.record call acct newUsed).accounts.find? organizationId =
      if organizationId = call.organizationId then
        (db.accounts.find? organizationId).map fun a => { a with usedCredit := money newUsed }
      else db.accounts.find? organizationId :=
  Table.find?_modify db.accounts call.organizationId
    (fun a : OrgCreditAccount => { a with usedCredit := money newUsed }) (fun _ => rfl) _

theorem ledgerOf_record (organizationId : Id) :
    (db.record call acct newUsed).ledgerOf organizationId =
      if organizationId = call.organizationId then
        db.ledgerOf organizationId ++ [call.entry acct newUsed]
      else db.ledgerOf organizationId := by
  have hentry : (call.entry acct newUsed).organizationId = call.organizationId := rfl
  simp only [CreditDb.ledgerOf, CreditDb.record, List.filter_append]
  split_ifs with h
  · simp [hentry, h]
  · simp [hentry, Ne.symm h]

theorem keys_record :
    (db.record call acct newUsed).keys call.organizationId
      = db.keys call.organizationId ++ call.op.idempotencyKey.toList := by
  rw [CreditDb.keys, ledgerOf_record, if_pos rfl, List.filterMap_append]
  rfl

end Writes

/-! ### The outline -/

/-- The balance of one organisation. -/
structure CreditDb.Balanced (db : CreditDb) (organizationId : Id) : Prop where
  used : ∀ acct, db.accounts.find? organizationId = some acct →
    pounds acct.usedCredit = movedBy (db.ledgerOf organizationId)
  running : RunningTotals (db.ledgerOf organizationId)

/-- What holds of the accounts and the ledger at every moment. -/
structure CreditInv (db : CreditDb) : Prop where
  nonneg : ∀ organizationId acct, db.accounts.find? organizationId = some acct →
    0 ≤ acct.usedCredit
  distinct : ∀ organizationId, (db.keys organizationId).Nodup
  balanced : ∀ organizationId, (∀ e ∈ db.ledgerOf organizationId, WholePence e.amount) →
    db.Balanced organizationId

/-- What a transaction knows once it has locked the account and computed the used credit. -/
structure Prepared (call : CreditCall) (acct : OrgCreditAccount) (newUsed : ℚ) (db : CreditDb)
    (held : CreditLock → Prop) : Prop where
  amount : call.op.checkAmount = .ok ()
  held : held (.account call.organizationId)
  found : db.accounts.find? call.organizationId = some acct
  computed : call.op.newUsed acct = .ok newUsed

/-- What a transaction knows at each of its points. -/
def CreditPoint.Holds : CreditPoint → CreditDb → (CreditLock → Prop) → Prop
  | locking call, _, _ => call.op.checkAmount = .ok ()
  | inserting call acct newUsed, db, held => Prepared call acct newUsed db held
  | committing call acct newUsed, db, held => Prepared call acct newUsed db held ∧
      ¬ db.KeyUsed call.organizationId call.op.idempotencyKey
  | amended organizationId _ _, _, held => held (.account organizationId)
  | _, _, _ => True

/-- A commit leaves alone every account that its transaction has not locked. -/
def CreditGuarantee (held : CreditLock → Prop) (db db' : CreditDb) : Prop :=
  ∀ organizationId, ¬ held (.account organizationId) →
    db'.accounts.find? organizationId = db.accounts.find? organizationId ∧
    db'.ledgerOf organizationId = db.ledgerOf organizationId

/-- One more movement keeps the balance when it is of whole pence. -/
theorem balanced_record {db : CreditDb} {call : CreditCall} {acct : OrgCreditAccount}
    {newUsed : ℚ} (hfound : db.accounts.find? call.organizationId = some acct)
    (hcomputed : call.op.newUsed acct = .ok newUsed)
    (hbefore : db.Balanced call.organizationId) (hwhole : WholePence call.op.signedAmount) :
    (db.record call acct newUsed).Balanced call.organizationId := by
  obtain ⟨n, hn⟩ := hwhole
  have hnew : newUsed = pounds (acct.usedCredit + n) := by
    rw [newUsed_eq hcomputed, hn, pounds_add]
  have hmoved : pounds (money newUsed)
      = movedBy (db.ledgerOf call.organizationId ++ [call.entry acct newUsed]) := by
    rw [hnew, money_stored, pounds_add, hbefore.used acct hfound, movedBy, movedBy,
      List.map_append, List.sum_append, ← hn]
    simp [CreditCall.entry]
  constructor
  · intro a ha
    rw [find?_record, if_pos rfl, hfound, Option.map_some] at ha
    rw [ledgerOf_record, if_pos rfl, ← hmoved, ← Option.some.inj ha]
  · intro pre e post heq
    rw [ledgerOf_record, if_pos rfl] at heq
    rcases List.eq_nil_or_concat post with rfl | ⟨rest, last, rfl⟩
    · -- The entry is the new one.
      obtain ⟨rfl, hlast⟩ := List.append_inj' heq rfl
      obtain rfl := List.singleton_inj.mp hlast.symm
      refine ⟨hmoved, ?_⟩
      change pounds (money (availableCredit acct.creditLimit newUsed))
        = availableCredit acct.creditLimit (pounds (money newUsed))
      rw [hnew, money_stored]
      cases acct.creditLimit with
      | none => simp [availableCredit, money, pounds]
      | some limit => rw [availableCredit, ← pounds_sub, money_stored]
    · rw [List.concat_eq_append, ← List.cons_append, ← List.append_assoc] at heq
      obtain ⟨hold, -⟩ := List.append_inj' heq rfl
      exact hbefore.running pre e rest hold

variable {db' : CreditDb} {held : CreditLock → Prop} {next : CreditDb → CreditPoint}

theorem balanced_of_eq {db : CreditDb} {organizationId : Id}
    (hfind : db'.accounts.find? organizationId = db.accounts.find? organizationId)
    (hledger : db'.ledgerOf organizationId = db.ledgerOf organizationId)
    (h : db.Balanced organizationId) : db'.Balanced organizationId := by
  constructor
  · rw [hfind, hledger]
    exact h.used
  · rw [hledger]
    exact h.running

/-- A commit of a movement keeps the invariant. -/
theorem creditInv_record {db : CreditDb} {call : CreditCall} {acct : OrgCreditAccount} {newUsed : ℚ}
    (h : CreditInv db) (hprep : Prepared call acct newUsed db held)
    (hkey : ¬ db.KeyUsed call.organizationId call.op.idempotencyKey) :
    CreditInv (db.record call acct newUsed) := by
  refine ⟨fun o a ha => ?_, fun o => ?_, fun o hwhole => ?_⟩
  · rw [find?_record] at ha
    split_ifs at ha with ho
    · subst ho
      rw [hprep.found, Option.map_some] at ha
      rw [← Option.some.inj ha]
      exact Decimal.quantize_nonneg
        (newUsed_nonneg hprep.amount (h.nonneg _ acct hprep.found) hprep.computed)
    · exact h.nonneg o a ha
  · by_cases ho : o = call.organizationId
    · subst ho
      rw [keys_record, List.nodup_append]
      refine ⟨h.distinct _, ?_, fun k hk k' hk' => ?_⟩
      · cases call.op.idempotencyKey <;> simp
      · rintro rfl
        exact hkey ⟨k, Option.mem_toList.mp hk', hk⟩
    · rw [CreditDb.keys, ledgerOf_record, if_neg ho]
      exact h.distinct o
  · by_cases ho : o = call.organizationId
    · subst ho
      rw [ledgerOf_record, if_pos rfl, List.forall_mem_append] at hwhole
      exact balanced_record hprep.found hprep.computed (h.balanced _ hwhole.1)
        (hwhole.2 _ (List.mem_singleton.mpr rfl))
    · have hledger : (db.record call acct newUsed).ledgerOf o = db.ledgerOf o := by
        rw [ledgerOf_record, if_neg ho]
      refine balanced_of_eq ?_ hledger (h.balanced o (hledger ▸ hwhole))
      rw [find?_record, if_neg ho]

theorem find?_amend {db : CreditDb} {o : Id} {status : OrgCreditAccountStatus}
    {limit : Option ℤ} (organizationId : Id) :
    (db.amend o status limit).accounts.find? organizationId =
      if organizationId = o then (db.accounts.find? organizationId).map fun a =>
        { a with status := status, creditLimit := limit }
      else db.accounts.find? organizationId :=
  Table.find?_modify db.accounts o (fun a : OrgCreditAccount =>
    { a with status := status, creditLimit := limit }) (fun _ => rfl) _

/-- Setting the status and the limit moves nothing. -/
theorem usedCredit_amend {db : CreditDb} {o organizationId : Id}
    {status : OrgCreditAccountStatus} {limit : Option ℤ} {acct : OrgCreditAccount}
    (h : (db.amend o status limit).accounts.find? organizationId = some acct) :
    ∃ before, db.accounts.find? organizationId = some before ∧
      before.usedCredit = acct.usedCredit := by
  rw [find?_amend] at h
  split_ifs at h
  · obtain ⟨before, hbefore, rfl⟩ := Option.map_eq_some_iff.mp h
    exact ⟨before, hbefore, rfl⟩
  · exact ⟨acct, h, rfl⟩

theorem creditInv_amend {db : CreditDb} (h : CreditInv db) (o : Id)
    (status : OrgCreditAccountStatus) (limit : Option ℤ) :
    CreditInv (db.amend o status limit) := by
  refine ⟨fun p acct hacct => ?_, h.distinct, fun p hwhole => ⟨fun acct hacct => ?_, ?_⟩⟩
  · obtain ⟨before, hbefore, heq⟩ := usedCredit_amend hacct
    exact heq ▸ h.nonneg p before hbefore
  · obtain ⟨before, hbefore, heq⟩ := usedCredit_amend hacct
    rw [← heq]
    exact (h.balanced p hwhole).used before hbefore
  · exact (h.balanced p hwhole).running

theorem Prepared.stable {call : CreditCall} {acct : OrgCreditAccount} {newUsed : ℚ} {db : CreditDb}
    {other : CreditLock → Prop} (h : Prepared call acct newUsed db held)
    (hguar : CreditGuarantee other db db') (hdisjoint : ∀ k, held k → ¬ other k) :
    Prepared call acct newUsed db' held :=
  ⟨h.amount, h.held, ((hguar _ (hdisjoint _ h.held)).1).trans h.found, h.computed⟩

theorem keyUsed_congr {db : CreditDb} {organizationId : Id} {key : Option String}
    (h : db'.ledgerOf organizationId = db.ledgerOf organizationId) :
    db'.KeyUsed organizationId key ↔ db.KeyUsed organizationId key := by
  rw [CreditDb.KeyUsed, CreditDb.keys, h]
  rfl

/-- What a transaction knows survives the commits of the others. -/
theorem CreditPoint.Holds.stable {point : CreditPoint} {db : CreditDb} {other : CreditLock → Prop}
    (h : point.Holds db held) (hguar : CreditGuarantee other db db')
    (hdisjoint : ∀ k, held k → ¬ other k) : point.Holds db' held := by
  cases point with
  | inserting call acct newUsed => exact Prepared.stable h hguar hdisjoint
  | committing call acct newUsed =>
      obtain ⟨hprep, hkey⟩ := h
      have hledger := (hguar _ (hdisjoint _ hprep.held)).2
      exact ⟨hprep.stable hguar hdisjoint, mt (keyUsed_congr hledger).mp hkey⟩
  | _ => exact h

theorem holds_read {point : CreditPoint} {db : CreditDb} (hnext : point.next = .read next)
    (h : point.Holds db held) : (next db).Holds db held := by
  cases point with
  | start call =>
      simp only [CreditPoint.next] at hnext
      split at hnext
      · cases hnext
      · rename_i hamount
        obtain rfl := Action.read.inj hnext
        dsimp only
        split_ifs
        · trivial
        · exact hamount
  | duplicate call =>
      obtain rfl := Action.read.inj hnext
      dsimp only
      split <;> trivial
  | inserting call acct newUsed =>
      simp only [CreditPoint.next, CreditCall.insertion] at hnext
      split at hnext
      · rename_i hkey
        obtain rfl := Action.read.inj hnext
        refine ⟨h, ?_⟩
        rintro ⟨k, hk, -⟩
        rw [hkey] at hk
        exact absurd hk (Option.not_mem_none k)
      · cases hnext
  | _ => cases hnext

/-- After the account row is locked the used credit is computed from what is committed. -/
theorem holds_locked {call : CreditCall} {db : CreditDb} (hamount : call.op.checkAmount = .ok ()) :
    (call.locked db).Holds db fun j => j = .account call.organizationId ∨ held j := by
  rw [CreditCall.locked]
  split
  · trivial
  · rename_i acct hfound
    split
    · trivial
    · rename_i newUsed hcomputed
      exact ⟨hamount, .inl rfl, hfound, hcomputed⟩

theorem holds_lock {point : CreditPoint} {db : CreditDb} {k : CreditLock}
    (hnext : point.next = .lock k next) (h : point.Holds db held) :
    (next db).Holds db fun j => j = k ∨ held j := by
  cases point with
  | start call =>
      simp only [CreditPoint.next] at hnext
      split at hnext <;> cases hnext
  | locking call =>
      obtain ⟨rfl, rfl⟩ := Action.lock.inj hnext
      exact holds_locked h
  | inserting call acct newUsed =>
      simp only [CreditPoint.next, CreditCall.insertion] at hnext
      split at hnext
      · cases hnext
      · rename_i key hkey
        obtain ⟨rfl, rfl⟩ := Action.lock.inj hnext
        dsimp only
        split_ifs with hused
        · trivial
        · exact ⟨⟨h.amount, .inr h.held, h.found, h.computed⟩, hkey ▸ hused⟩
  | amending o status limit =>
      obtain ⟨rfl, rfl⟩ := Action.lock.inj hnext
      exact .inl rfl
  | _ => cases hnext

/-- A commit records a movement, sets a status and a limit, or writes nothing. -/
theorem next_commit_cases {point : CreditPoint} {write : CreditDb → CreditDb}
    {next : CreditPoint} (hnext : point.next = .commit write next) :
    next = .ended ∧
      (write = id ∨
        (∃ call acct newUsed, point = .committing call acct newUsed ∧
          write = (·.record call acct newUsed)) ∨
        ∃ o status limit, point = .amended o status limit ∧
          write = (·.amend o status limit)) := by
  cases point with
  | start call =>
      simp only [CreditPoint.next] at hnext
      split at hnext <;> cases hnext
  | inserting call acct newUsed =>
      simp only [CreditPoint.next, CreditCall.insertion] at hnext
      split at hnext <;> cases hnext
  | returning acct =>
      obtain ⟨rfl, rfl⟩ := Action.commit.inj hnext
      exact ⟨rfl, .inl rfl⟩
  | committing call acct newUsed =>
      obtain ⟨rfl, rfl⟩ := Action.commit.inj hnext
      exact ⟨rfl, .inr (.inl ⟨call, acct, newUsed, rfl, rfl⟩)⟩
  | amended o status limit =>
      obtain ⟨rfl, rfl⟩ := Action.commit.inj hnext
      exact ⟨rfl, .inr (.inr ⟨o, status, limit, rfl, rfl⟩)⟩
  | _ => cases hnext

theorem holds_commit {point : CreditPoint} {db : CreditDb} {write : CreditDb → CreditDb}
    {next : CreditPoint} (hnext : point.next = .commit write next) (hinv : CreditInv db)
    (h : point.Holds db held) :
    CreditInv (write db) ∧ CreditGuarantee held db (write db) ∧
      next.Holds (write db) fun _ => False := by
  obtain ⟨rfl, rfl | ⟨call, acct, newUsed, rfl, rfl⟩ | ⟨o, status, limit, rfl, rfl⟩⟩ :=
    next_commit_cases hnext
  · exact ⟨hinv, fun _ _ => ⟨rfl, rfl⟩, trivial⟩
  · obtain ⟨hprep, hkey⟩ := h
    refine ⟨creditInv_record hinv hprep hkey, fun p hp => ?_, trivial⟩
    have hne : p ≠ call.organizationId := by
      rintro rfl
      exact hp hprep.held
    rw [find?_record, ledgerOf_record, if_neg hne, if_neg hne]
    exact ⟨rfl, rfl⟩
  · refine ⟨creditInv_amend hinv o status limit, fun p hp => ⟨?_, rfl⟩, trivial⟩
    have hne : p ≠ o := by
      rintro rfl
      exact hp h
    rw [find?_amend, if_neg hne]

theorem next_abort {point next : CreditPoint} (hnext : point.next = .abort next) :
    next = .ended := by
  cases point with
  | start call =>
      simp only [CreditPoint.next] at hnext
      split at hnext
      · exact (Action.abort.inj hnext).symm
      · cases hnext
  | inserting call acct newUsed =>
      simp only [CreditPoint.next, CreditCall.insertion] at hnext
      split at hnext <;> cases hnext
  | failing e => exact (Action.abort.inj hnext).symm
  | _ => cases hnext

/-- The outline of the transactions on credit accounts. -/
def creditOutline : Outline creditProgram where
  inv := CreditInv
  holds := CreditPoint.Holds
  guarantee := CreditGuarantee
  dead := fun _ => trivial
  read := fun hnext _ h => holds_read hnext h
  lock := fun hnext _ h => holds_lock hnext h
  commit := fun hnext hinv h => holds_commit hnext hinv h
  abort := fun hnext _ _ => by
    rw [next_abort hnext]
    trivial
  stable := fun h hguar hdisjoint => h.stable hguar hdisjoint

/-! ### Schedules -/

/-- What a transaction is for. -/
inductive CreditWork where
  | move (call : CreditCall)
  | amend (organizationId : Id) (status : OrgCreditAccountStatus) (creditLimit : Option ℤ)

def CreditWork.point : CreditWork → CreditPoint
  | move call => .start call
  | amend organizationId status creditLimit => .amending organizationId status creditLimit

section Schedules

variable {T : Type} [DecidableEq T] (accounts : Table OrgCreditAccount.organizationId)
  (work : T → CreditWork)

/-- Accounts are opened, and the transactions run as a schedule has it. -/
def creditRun (events : List (Event T)) : CreditState T :=
  Runs.run (step creditProgram) (.start (.opened accounts) fun t => (work t).point) events

theorem creditInv_opened : CreditInv (.opened accounts) := by
  refine ⟨fun o acct hacct => ?_, fun _ => List.nodup_nil, fun o _ => ⟨fun acct hacct => ?_, ?_⟩⟩
  · rw [CreditDb.opened, Table.find?_mapRows] at hacct
    obtain ⟨before, -, rfl⟩ := Option.map_eq_some_iff.mp hacct
    exact le_rfl
  · rw [CreditDb.opened, Table.find?_mapRows] at hacct
    obtain ⟨before, -, rfl⟩ := Option.map_eq_some_iff.mp hacct
    exact Decimal.ofHundredths_zero
  · intro pre e post heq
    exact absurd heq.symm (List.append_ne_nil_of_right_ne_nil _ (List.cons_ne_nil _ _))

/-- **The outline holds after every schedule.** -/
theorem creditInv_run (events : List (Event T)) :
    creditOutline.Sound (creditRun accounts work events) := by
  refine Outline.Sound.run (Outline.sound_start (creditInv_opened accounts) fun t => ?_) events
  cases work t <;> trivial

/-- Every entry of the ledger was asked for by a transaction, and so is every call that is
being worked on. -/
structure Sourced (σ : CreditState T) : Prop where
  calls : ∀ t call, (σ.txn t).call? = some call → work t = .move call
  entries : ∀ e ∈ σ.store.ledger, ∃ t call, work t = .move call ∧
    e.amount = call.op.signedAmount

/-- A statement stays with the call that it is part of. -/
theorem call?_read {point : CreditPoint} {db : CreditDb} {call : CreditCall}
    (hnext : point.next = .read next) (hcall : (next db).call? = some call) :
    point.call? = some call := by
  cases point with
  | start c =>
      simp only [CreditPoint.next] at hnext
      split at hnext
      · cases hnext
      · obtain rfl := Action.read.inj hnext
        dsimp only at hcall
        split_ifs at hcall <;> exact hcall
  | duplicate c =>
      obtain rfl := Action.read.inj hnext
      dsimp only at hcall
      split at hcall <;> cases hcall
  | inserting c acct newUsed =>
      simp only [CreditPoint.next, CreditCall.insertion] at hnext
      split at hnext
      · obtain rfl := Action.read.inj hnext
        exact hcall
      · cases hnext
  | _ => cases hnext

theorem call?_lock {point : CreditPoint} {k : CreditLock} {db : CreditDb} {call : CreditCall}
    (hnext : point.next = .lock k next) (hcall : (next db).call? = some call) :
    point.call? = some call := by
  cases point with
  | start c =>
      simp only [CreditPoint.next] at hnext
      split at hnext <;> cases hnext
  | locking c =>
      obtain ⟨rfl, rfl⟩ := Action.lock.inj hnext
      rw [CreditCall.locked] at hcall
      split at hcall
      · cases hcall
      · split at hcall
        · cases hcall
        · exact hcall
  | inserting c acct newUsed =>
      simp only [CreditPoint.next, CreditCall.insertion] at hnext
      split at hnext
      · cases hnext
      · obtain ⟨rfl, rfl⟩ := Action.lock.inj hnext
        dsimp only at hcall
        split_ifs at hcall
        · cases hcall
        · exact hcall
  | amending o status limit =>
      obtain ⟨rfl, rfl⟩ := Action.lock.inj hnext
      cases hcall
  | _ => cases hnext

theorem call?_advances {point point' : CreditPoint} {db : CreditDb} {call : CreditCall}
    (h : Advances creditProgram db point point') (hcall : point'.call? = some call) :
    point.call? = some call := by
  cases h with
  | stay => exact hcall
  | dead => cases hcall
  | read hnext => exact call?_read hnext hcall
  | lock hnext => exact call?_lock hnext hcall
  | commit hnext =>
      rw [(next_commit_cases hnext).1] at hcall
      cases hcall
  | abort hnext =>
      rw [next_abort hnext] at hcall
      cases hcall

/-- A step that changes the accounts or the ledger commits a movement, or an amendment. -/
theorem exists_record_of_ne {σ : CreditState T} {e : Event T}
    (hne : (step creditProgram σ e).store ≠ σ.store) :
    ∃ t, e = .step t ∧
      ((∃ call acct newUsed, σ.txn t = .committing call acct newUsed ∧
        (step creditProgram σ e).store = σ.store.record call acct newUsed) ∨
      ∃ o status limit, σ.txn t = .amended o status limit ∧
        (step creditProgram σ e).store = σ.store.amend o status limit) := by
  obtain ⟨t, write, next, rfl, hnext, hstep⟩ := exists_commit_of_ne hne
  refine ⟨t, rfl, ?_⟩
  rw [hstep] at hne ⊢
  obtain ⟨-, rfl | ⟨call, acct, newUsed, hpoint, rfl⟩ | ⟨o, status, limit, hpoint, rfl⟩⟩ :=
    next_commit_cases hnext
  · exact absurd rfl hne
  · exact .inl ⟨call, acct, newUsed, hpoint, rfl⟩
  · exact .inr ⟨o, status, limit, hpoint, rfl⟩

theorem Sourced.step {σ : CreditState T} (h : Sourced work σ) (e : Event T) :
    Sourced work (step creditProgram σ e) := by
  refine ⟨fun t call hcall => h.calls t call (call?_advances (advances_step _ σ e t) hcall), ?_⟩
  by_cases hne : (ReadCommitted.step creditProgram σ e).store = σ.store
  · rw [hne]
    exact h.entries
  · obtain ⟨t, -, ⟨call, acct, newUsed, hpoint, hstore⟩ | ⟨o, status, limit, -, hstore⟩⟩ :=
      exists_record_of_ne hne
    · rw [hstore]
      intro entry hentry
      rcases List.mem_append.mp hentry with hold | hnew
      · exact h.entries entry hold
      · obtain rfl := List.mem_singleton.mp hnew
        exact ⟨t, call, h.calls t call (by rw [hpoint]; rfl), rfl⟩
    · rw [hstore]
      exact h.entries

theorem sourced_run (events : List (Event T)) :
    Sourced work (creditRun accounts work events) := by
  refine Runs.run_invariant (fun _ e h => h.step work e) ⟨fun t call hcall => ?_, ?_⟩ events
  · change (work t).point.call? = some call at hcall
    cases hwork : work t with
    | move c =>
        rw [hwork] at hcall
        exact congrArg CreditWork.move (Option.some.inj hcall)
    | amend o status limit =>
        rw [hwork] at hcall
        cases hcall
  · exact fun e he => absurd he List.not_mem_nil

end Schedules

/-! ### Correctness -/

section Correct

variable {T : Type} [DecidableEq T] {σ : CreditState T}

/-- A committed consumption is within the limit of the account. -/
theorem consume_within (h : creditOutline.Sound σ) {t : T} {entry : OrgCreditLedgerEntry}
    (hledger : (step creditProgram σ (.step t)).store.ledger = σ.store.ledger ++ [entry])
    (hconsume : entry.movementType = .consume) :
    ∃ acct limit, (step creditProgram σ (.step t)).store.accounts.find? entry.organizationId
      = some acct ∧ acct.creditLimit = some limit ∧ acct.usedCredit ≤ limit := by
  have hgrown : σ.store.ledger ≠ σ.store.ledger ++ [entry] :=
    fun heq => absurd (List.self_eq_append_right.mp heq) (List.cons_ne_nil _ _)
  have hne : (step creditProgram σ (.step t)).store ≠ σ.store := by
    intro heq
    rw [heq] at hledger
    exact hgrown hledger
  obtain ⟨u, hu, ⟨call, acct, newUsed, hpoint, hstore⟩ | ⟨o, status, limit, -, hstore⟩⟩ :=
    exists_record_of_ne hne
  · rw [hstore] at hledger ⊢
    obtain rfl := List.singleton_inj.mp (List.append_cancel_left hledger)
    have hholds := h.holds u
    rw [hpoint] at hholds
    obtain ⟨hprep, -⟩ := hholds
    obtain ⟨limit, hlimit, hle⟩ := newUsed_le_limit hconsume hprep.computed
    refine ⟨{ acct with usedCredit := money newUsed }, limit, ?_, hlimit, ?_⟩
    · change (σ.store.record call acct newUsed).accounts.find? call.organizationId = _
      rw [find?_record, if_pos rfl, hprep.found, Option.map_some]
    · calc money newUsed ≤ money (pounds limit) := Decimal.quantize_mono hle
        _ = limit := money_stored limit
  · rw [hstore] at hledger
    exact absurd hledger hgrown

/-- A call under a key that is used commits nothing. -/
theorem retry_changes_nothing (h : creditOutline.Sound σ) {t : T} {call : CreditCall}
    (hcall : (σ.txn t).call? = some call)
    (hused : σ.store.KeyUsed call.organizationId call.op.idempotencyKey) :
    (step creditProgram σ (.step t)).store = σ.store := by
  by_contra hne
  obtain ⟨u, hu, ⟨c, acct, newUsed, hpoint, -⟩ | ⟨o, status, limit, hpoint, -⟩⟩ :=
    exists_record_of_ne hne
  · obtain rfl := Event.step.inj hu
    rw [hpoint] at hcall
    obtain rfl := Option.some.inj hcall
    have hholds := h.holds t
    rw [hpoint] at hholds
    exact hholds.2 hused
  · obtain rfl := Event.step.inj hu
    rw [hpoint] at hcall
    cases hcall

/-- The totals up to an entry are whole pence when every entry carries its own. -/
theorem wholePence_of_running {entries : List OrgCreditLedgerEntry}
    (h : RunningTotals entries) {e : OrgCreditLedgerEntry} (he : e ∈ entries) :
    WholePence e.amount := by
  obtain ⟨pre, post, rfl⟩ := List.append_of_mem he
  have htotal : pounds e.usedCreditAfter = movedBy pre + e.amount := by
    rw [(h pre e post rfl).1, movedBy, movedBy, List.map_append, List.sum_append,
      List.map_singleton, List.sum_singleton]
  have hbefore : ∃ n : ℤ, movedBy pre = pounds n := by
    rcases List.eq_nil_or_concat pre with rfl | ⟨rest, last, rfl⟩
    · exact ⟨0, Decimal.ofHundredths_zero.symm⟩
    · refine ⟨last.usedCreditAfter, ?_⟩
      rw [List.concat_eq_append] at h ⊢
      rw [(h rest last (e :: post) (by simp)).1]
  obtain ⟨n, hn⟩ := hbefore
  refine ⟨e.usedCreditAfter - n, ?_⟩
  rw [pounds_sub, htotal, hn]
  ring

/-- What the outline says makes a ledger of whole pence correct. -/
theorem ledgerCorrect_of_wholePence (h : creditOutline.Sound σ)
    (hwhole : ∀ e ∈ σ.store.ledger, WholePence e.amount) : LedgerCorrect σ := by
  have hbalanced : ∀ o, σ.store.Balanced o := fun o =>
    h.inv.balanced o fun e he => hwhole e (List.mem_of_mem_filter he)
  have hfind : ∀ acct ∈ σ.store.accounts.rows,
      σ.store.accounts.find? acct.organizationId = some acct := fun acct hacct =>
    Table.find?_eq_some_iff.mpr ⟨hacct, rfl⟩
  exact {
    used := fun acct hacct => (hbalanced _).used acct (hfind acct hacct)
    distinct := h.inv.distinct
    nonneg := fun acct hacct => h.inv.nonneg _ acct (hfind acct hacct)
    running := fun o => (hbalanced o).running
    within := fun _ _ hledger hconsume => consume_within h hledger hconsume
    retry := fun _ _ hcall hused => retry_changes_nothing h hcall hused }

theorem wholePence_of_ledgerCorrect (h : LedgerCorrect σ) :
    ∀ e ∈ σ.store.ledger, WholePence e.amount := fun e he =>
  wholePence_of_running (h.running e.organizationId)
    (List.mem_filter.mpr ⟨he, by simp⟩)

end Correct

section Results

variable {T : Type} [DecidableEq T] (accounts : Table OrgCreditAccount.organizationId)
  (work : T → CreditWork) (events : List (Event T))

/-- After every schedule the ledger is correct exactly when no movement with a fraction of a
penny was committed. -/
theorem ledgerCorrect_iff_wholePence :
    LedgerCorrect (creditRun accounts work events) ↔
      ∀ e ∈ (creditRun accounts work events).store.ledger, WholePence e.amount :=
  ⟨wholePence_of_ledgerCorrect, ledgerCorrect_of_wholePence (creditInv_run accounts work events)⟩

/-- **The ledger is correct.** The calls ask for whole pence, as the total of an order is.
Then, after every schedule of any transactions on credit accounts, the used credit of every
account is the sum of its movements and never negative, no key is used twice, each entry
carries the running total, a consumption ends within the limit and a retry changes
nothing. -/
theorem ledger_correct
    (hcalls : ∀ t call, work t = .move call → WholePence call.op.signedAmount) :
    LedgerCorrect (creditRun accounts work events) := by
  refine (ledgerCorrect_iff_wholePence accounts work events).mpr fun e he => ?_
  obtain ⟨t, call, hwork, hamount⟩ := (sourced_run accounts work events).entries e he
  rw [hamount]
  exact hcalls t call hwork

end Results

/-- An active account with a limit of ten pounds. -/
def tenPoundAccount : Table OrgCreditAccount.organizationId :=
  ⟨[⟨1, 1, .active, some 1000, 0⟩], by decide⟩

/-- The invoice of an order for four pounds is charged to the account. -/
def fourPoundOrder : CreditCall :=
  ⟨1, none, .consumeCredit 4 .invoice (some "1") "invoice:1:consume"⟩

/-- The charge and its retry: both have missed the other's entry when they looked it up, and
the second one waits for the row. -/
def retriedCharge : CreditState Bool :=
  creditRun tenPoundAccount (fun _ => .move fourPoundOrder)
    [.step true, .step false, .step true, .step false, .step true, .step true, .step false,
      .step false, .step false]

/-- Four pounds are charged once: the index refuses the entry of the retry. -/
theorem retried_charge_correct :
    retriedCharge.store.ledger.map
      (fun e => (e.amount, e.usedCreditAfter, e.availableCreditAfter)) = [(4, 400, 600)] ∧
    retriedCharge.store.accounts.rows.map (fun a => (a.organizationId, a.usedCredit))
      = [(1, 400)] ∧
    LedgerCorrect retriedCharge := by
  refine ⟨by decide +kernel, by decide +kernel, ledger_correct _ _ _ fun _ call hcall => ?_⟩
  obtain rfl := CreditWork.move.inj hcall
  exact ⟨400, by decide +kernel⟩

end SwCouriers
