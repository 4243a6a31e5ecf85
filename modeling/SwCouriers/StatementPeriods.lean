import SwCouriers.StatementAgreement

/-!
# Statement Periods

A statement shows one period of an account: what was there before as the opening balance,
the rows of the period, and the closing balance. `ledger_snapshot_from_ledger` of
`app/modules/account_statements/v1/schemas.py` writes it down with a running balance in
every row.

Each balance is a sum over all movements before a day: the opening balance before the first
day of the period, the closing balance before the day after its last. That is why periods
chain.

## Main results

* `openingBalance_eq`, `closingBalance_eq`: both balances as sums over the movements before
  a day.
* `getLast?_snapshotRows`: the running balance of the last row.
* `statement_periods_chain`: adjacent periods meet in one balance.
-/

namespace SwCouriers

/-! ### Snapshots -/

/-- `StatementLedgerRow`, with dates kept as dates. -/
structure StatementLedgerRow where
  rowType : StatementRowType
  referenceId : Id
  referenceNumber : String
  issueDate : Day
  paymentDate : Option Day
  orderRef : Option String
  status : LedgerStatus
  amount : String
  balance : String
  lineItems : List StatementLineItemDetail
  deriving DecidableEq, Repr

/-- `StatementLedgerSnapshot`. -/
structure StatementLedgerSnapshot where
  openingBalance : String
  closingBalance : String
  totalInvoiceAmount : String
  totalPaid : String
  totalUnpaid : String
  totalOverdue : String
  aging : AgingBucket → String
  truncated : Bool
  rows : List StatementLedgerRow

/-- The loop of `ledger_snapshot_from_ledger`, with the balance so far. -/
def snapshotRows : ℤ → List LedgerRow → List StatementLedgerRow
  | _, [] => []
  | running, row :: rows =>
      { rowType := row.rowType
        referenceId := row.referenceId
        referenceNumber := row.referenceNumber
        issueDate := row.issueDate
        paymentDate := row.paymentDate
        orderRef := row.orderRef
        status := row.status
        amount := Decimal.render row.displayAmount
        balance := Decimal.render (running + row.amount)
        lineItems := row.lineItems } :: snapshotRows (running + row.amount) rows

/-- `ledger_snapshot_from_ledger`. -/
def ledgerSnapshotFromLedger (ledger : StatementLedgerResult) : StatementLedgerSnapshot where
  openingBalance := Decimal.render ledger.openingBalance
  closingBalance := Decimal.render ledger.closingBalance
  totalInvoiceAmount := Decimal.render ledger.totalInvoiceAmount
  totalPaid := Decimal.render ledger.totalPaid
  totalUnpaid := Decimal.render ledger.totalUnpaid
  totalOverdue := Decimal.render ledger.totalOverdue
  aging := ledger.aging
  truncated := ledger.truncated
  rows := snapshotRows ledger.openingBalance ledger.rows

/-- The balance after the last row. -/
def StatementLedgerSnapshot.lastBalance (snapshot : StatementLedgerSnapshot) : String :=
  (snapshot.rows.getLast?.map (·.balance)).getD snapshot.openingBalance

/-- The running balance of the last row, which is the balance before when there is no row. -/
theorem getLast?_snapshotRows (running : ℤ) (rows : List LedgerRow) :
    ((snapshotRows running rows).getLast?.map (·.balance)).getD (Decimal.render running)
      = Decimal.render (running + (rows.map (·.amount)).sum) := by
  induction rows generalizing running with
  | nil => simp [snapshotRows]
  | cons row rows ih =>
      have hrest := ih (running + row.amount)
      rw [List.map_cons, List.sum_cons, ← add_assoc, ← hrest, snapshotRows,
        List.getLast?_cons]
      cases (snapshotRows (running + row.amount) rows).getLast? with
      | none => rfl
      | some last => rfl

/-! ### Balances before a day -/

/-- The dates and signed amounts of a statement. -/
def movements (db : Db) (orderRef : Id → Option String) (q : StatementQuery) :
    List (Day × ℤ) :=
  (ledgerEntries db orderRef q).map fun e => (e.1, e.2.amount)

/-- The sum of the movements before a day. -/
def balanceBefore (l : List (Day × ℤ)) (day : Day) : ℤ :=
  ((l.filter fun m => m.1 < day).map (·.2)).sum

theorem balanceBefore_perm {l l' : List (Day × ℤ)} (h : l.Perm l') (day : Day) :
    balanceBefore l day = balanceBefore l' day :=
  ((h.filter _).map _).sum_eq

/-- The movements of some days are what lies between two balances. -/
theorem balanceBefore_add (l : List (Day × ℤ)) {a b : Day} (hab : a ≤ b + 1) :
    balanceBefore l a + ((l.filter fun m => a ≤ m.1 ∧ m.1 ≤ b).map (·.2)).sum
      = balanceBefore l (b + 1) := by
  induction l with
  | nil => rfl
  | cons m l ih =>
      simp only [balanceBefore, List.filter_cons] at ih ⊢
      -- A movement is before the days, on one of them, or after them.
      rcases lt_or_ge m.1 a with hlt | hge
      · have hin : ¬ (a ≤ m.1 ∧ m.1 ≤ b) := fun h => absurd h.1 (not_le.mpr hlt)
        have hb : m.1 < b + 1 := hlt.trans_le hab
        simp [hlt, hin, hb] at ih ⊢
        omega
      · have hlt : ¬ m.1 < a := not_lt.mpr hge
        by_cases hb : m.1 ≤ b
        · have hb' : m.1 < b + 1 := Int.lt_add_one_of_le hb
          simp [hlt, hge, hb, hb'] at ih ⊢
          omega
        · have hb' : ¬ m.1 < b + 1 := fun h => hb (Int.le_of_lt_add_one h)
          simp [hlt, hb, hb'] at ih ⊢
          omega

section Build

variable (db : Db) (orderRef : Id → Option String) (q : StatementQuery)

theorem perm_movements :
    ((sortedEntries db orderRef q).map fun e => (e.1, e.2.amount)).Perm
      (movements db orderRef q) :=
  (List.perm_insertionSort entryLE _).map _

/-- The opening balance: everything before the first day. -/
theorem openingBalance_eq :
    (build db orderRef q).openingBalance
      = balanceBefore (movements db orderRef q) q.periodStart := by
  rw [← balanceBefore_perm (perm_movements db orderRef q), balanceBefore, List.filter_map,
    List.map_map]
  rfl

/-- The rows of the period, in the order of the statement, whether shown or not. -/
def inPeriodRows : List LedgerRow :=
  ((sortedEntries db orderRef q).filter fun e =>
    q.periodStart ≤ e.1 ∧ e.1 ≤ q.periodEnd).map (·.2)

theorem closingBalance_eq_add :
    (build db orderRef q).closingBalance = (build db orderRef q).openingBalance
      + ((inPeriodRows db orderRef q).map (·.amount)).sum := by
  rw [inPeriodRows, List.map_map]
  rfl

/-- The closing balance: everything before the day after the last. -/
theorem closingBalance_eq (h : q.periodStart ≤ q.periodEnd) :
    (build db orderRef q).closingBalance
      = balanceBefore (movements db orderRef q) (q.periodEnd + 1) := by
  have hperm := perm_movements db orderRef q
  have hrows : ((inPeriodRows db orderRef q).map (·.amount)).sum
      = (((movements db orderRef q).filter fun m =>
          q.periodStart ≤ m.1 ∧ m.1 ≤ q.periodEnd).map (·.2)).sum := by
    rw [← ((hperm.filter _).map _).sum_eq, inPeriodRows, List.map_map, List.filter_map,
      List.map_map]
    rfl
  rw [closingBalance_eq_add, openingBalance_eq, hrows]
  exact balanceBefore_add _ (Int.le_add_one h)

/-- A statement that is not truncated shows all rows of its period. -/
theorem rows_eq_of_not_truncated (h : (build db orderRef q).truncated = false) :
    (build db orderRef q).rows = inPeriodRows db orderRef q := by
  refine List.take_of_length_le ?_
  have hlen := of_decide_eq_false h
  rw [List.length_map]
  exact not_lt.mp hlen

/-- The last running balance of an untruncated statement. -/
theorem lastBalance_eq (h : (build db orderRef q).truncated = false) :
    (ledgerSnapshotFromLedger (build db orderRef q)).lastBalance
      = (ledgerSnapshotFromLedger (build db orderRef q)).closingBalance := by
  have hlast := getLast?_snapshotRows (build db orderRef q).openingBalance
    (build db orderRef q).rows
  rw [rows_eq_of_not_truncated db orderRef q h, ← closingBalance_eq_add,
    ← rows_eq_of_not_truncated db orderRef q h] at hlast
  exact hlast

end Build

/-! ### Chaining -/

/-- Where a row can be, seen from a period. -/
inductive PeriodSide where
  | before | inPeriod | after
  deriving DecidableEq, Repr

/-- The test that `build` makes for each side; a row after the period is not looked at. -/
def Falls (q : StatementQuery) (day : Day) : PeriodSide → Prop
  | .before => day < q.periodStart
  | .inPeriod => q.periodStart ≤ day ∧ day ≤ q.periodEnd
  | .after => q.periodEnd < day

theorem existsUnique_falls {q : StatementQuery} (h : q.periodStart ≤ q.periodEnd) (day : Day) :
    ∃! side, Falls q day side := by
  rcases lt_or_ge day q.periodStart with hlt | hge
  · refine ⟨.before, hlt, fun side hside => ?_⟩
    cases side with
    | before => rfl
    | inPeriod => exact absurd hside.1 (not_le.mpr hlt)
    | after => exact absurd (hlt.trans_le h) (not_lt.mpr (le_of_lt hside))
  · rcases le_or_gt day q.periodEnd with hle | hgt
    · refine ⟨.inPeriod, ⟨hge, hle⟩, fun side hside => ?_⟩
      cases side with
      | before => exact absurd hside (not_lt.mpr hge)
      | inPeriod => rfl
      | after => exact absurd hside (not_lt.mpr hle)
    · refine ⟨.after, hgt, fun side hside => ?_⟩
      cases side with
      | before => exact absurd hside (not_lt.mpr hge)
      | inPeriod => exact absurd hside.2 (not_le.mpr hgt)
      | after => rfl

/-- What a statement of one period adds up to. -/
structure AddsUp (db : Db) (orderRef : Id → Option String) (q : StatementQuery) : Prop where
  closing : (build db orderRef q).closingBalance = (build db orderRef q).openingBalance
    + ((inPeriodRows db orderRef q).map (·.amount)).sum
  sides : ∀ e ∈ ledgerEntries db orderRef q, ∃! side, Falls q e.1 side
  running : (build db orderRef q).truncated = false →
    (ledgerSnapshotFromLedger (build db orderRef q)).lastBalance
      = (ledgerSnapshotFromLedger (build db orderRef q)).closingBalance

theorem addsUp_of_ordered {db : Db} {orderRef : Id → Option String} {q : StatementQuery}
    (h : q.periodStart ≤ q.periodEnd) : AddsUp db orderRef q :=
  ⟨closingBalance_eq_add db orderRef q, fun e _ => existsUnique_falls h e.1,
    lastBalance_eq db orderRef q⟩

/-- The second statement is of the same rows, for the days right after the first. -/
structure Follows (q q' : StatementQuery) : Prop where
  organization : q'.organizationId = q.organizationId
  notes : q'.includeCreditNotes = q.includeCreditNotes
  payments : q'.includePaymentHistory = q.includePaymentHistory
  day : q'.periodStart = q.periodEnd + 1

/-- What is shown of the lines of an invoice does not move a balance. -/
theorem Follows.movements_eq {q q' : StatementQuery} (h : Follows q q') (db : Db)
    (orderRef : Id → Option String) : movements db orderRef q' = movements db orderRef q := by
  simp only [movements, ledgerEntries, h.organization, h.notes, h.payments, List.map_append,
    List.map_map]
  rfl

/-- **Statement periods chain.** The closing balance of a period is the opening balance of the
next, and in either the rows account for the balances. -/
theorem statement_periods_chain (db : Db) (orderRef : Id → Option String)
    (q q' : StatementQuery) (hq : q.periodStart ≤ q.periodEnd)
    (hq' : q'.periodStart ≤ q'.periodEnd) (h : Follows q q') :
    (build db orderRef q).closingBalance = (build db orderRef q').openingBalance ∧
    AddsUp db orderRef q ∧ AddsUp db orderRef q' := by
  refine ⟨?_, addsUp_of_ordered hq, addsUp_of_ordered hq'⟩
  rw [closingBalance_eq db orderRef q hq, openingBalance_eq, h.movements_eq, h.day]

/-- The day of the invoice as one period, and the days after it as the next. -/
theorem invoice_day_chains :
    let db := Runs.run BillingOp.step (Db.initial .empty) creditedInvoice
    (build db (fun _ => none) { firstStatement with periodEnd := 0 }).closingBalance = 12000 ∧
    (build db (fun _ => none) { firstStatement with periodEnd := 0 }).closingBalance
      = (build db (fun _ => none) { firstStatement with periodStart := 1 }).openingBalance :=
  ⟨by decide +kernel, (statement_periods_chain _ _ { firstStatement with periodEnd := 0 }
    { firstStatement with periodStart := 1 } (by decide) (by decide) ⟨rfl, rfl, rfl, rfl⟩).1⟩

end SwCouriers
