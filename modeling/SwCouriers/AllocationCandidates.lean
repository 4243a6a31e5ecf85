import Mathlib.Data.String.Basic
import SwCouriers.Lib.Paging
import SwCouriers.PaidInvoices

/-!
# Allocation Candidates

`list_invoice_allocation_candidates` shows the invoices of an organisation that a payment may
still be allocated to, page by page. The invoice repository lists the sent invoices whose stored
payment status is open, in the order asked for and in batches of 200; the service drops those
that have nothing left to pay or that were closed, counts the rest, and keeps what falls into
the page.

The repository chooses by the stored payment status and the service by the ledger. The two agree
because the status is recomputed with every change of the ledger or of the amounts: an invoice
that is stored as paid has nothing left to pay (`PaidSettled`).

## Main results

* `paidSettled_run`: so it is after every run of billing requests.
* `listInvoiceAllocationCandidates_eq`: a page of candidates, in any state.
* `allocation_candidates_paged`: **the pages, put together, are the open invoices**, each once
  and in order, and the total is their number.
-/

namespace SwCouriers

open Checked

/-! ### The payer -/

/-- `ClientType(text)`; `none` is `ValueError`. -/
def ClientType.ofText : String → Option ClientType
  | "ADMIN" => some .admin
  | "CUSTOMER_B2B" => some .customerB2B
  | "CUSTOMER_B2C" => some .customerB2C
  | "WAREHOUSE" => some .warehouse
  | "DRIVER" => some .driver
  | _ => none

/-- What the listing takes from outside billing. -/
structure CandidateEnv where
  uuid : UuidText
  /-- `str.lower`. -/
  lower : String → String
  /-- `str.upper`. -/
  upper : String → String
  /-- Whether an organisation has this key. -/
  isOrganization : Id → Bool
  /-- The reference of the order with this key. -/
  orderReference : Id → Option String
  /-- `text ILIKE pattern`. -/
  ilike : String → String → Bool

/-- `details=[{field, message, type}]` with one entry. -/
def invalidDetail (message field detail type : String) : ServiceError :=
  .validation message [⟨field, detail, type⟩]

/-- The last checks of `_validate_record_payment_payer`, on the user's row. -/
def validatePayerRole (ct : ClientType) (user : User) (organizationId : Id) :
    Except ServiceError Unit :=
  if ct = .customerB2B then do
    raiseIf (user.role ≠ .customerB2B)
      (invalidField "client_type does not match user role" "client_type"
        "Expected CUSTOMER_B2B account for this client type")
    raiseIf (user.organizationId ≠ some organizationId)
      (invalidField "Customer is not a member of this organisation" "customer_id"
        "Organisation mismatch")
  else if ct = .customerB2C then
    raiseIf (user.role ≠ .customerB2C)
      (invalidField "client_type does not match user role" "client_type"
        "Expected CUSTOMER_B2C account for this client type")
  else .ok ()

/-- The error for a payer that is no user. -/
def unknownPayer (env : CandidateEnv) (uid : Id) : ServiceError :=
  invalidField "Unknown customer_id" "customer_id"
    (if env.isOrganization uid then
      "This id is an **organisation**, not a user. Use the customer's **CUSTOMER_B2B user** id "
        ++ "for that client (org contact login user — same value as invoice `customer_id`)."
    else
      "No user exists with this id. Use the payer account UUID (`users.id`): for B2B, the "
        ++ "client's portal user id in this organisation.")

/-- `_validate_record_payment_payer`. -/
def validateRecordPaymentPayer (env : CandidateEnv) (db : Db) (organizationId : Id)
    (customerId clientType : String) : Except ServiceError Unit := do
  let ct ← orRaise (ClientType.ofText (env.upper (strip clientType)))
    (invalidDetail "Invalid client_type" "client_type" "Must be CUSTOMER_B2B or CUSTOMER_B2C"
      "enum")
  raiseIf (ct ≠ .customerB2B ∧ ct ≠ .customerB2C)
    (invalidDetail "client_type must be CUSTOMER_B2B or CUSTOMER_B2C" "client_type"
      "Unsupported client type for payer" "enum")
  let uid := strip customerId
  raiseIf (uid = "") (invalidField "customer_id is required" "customer_id" "Required")
  raiseIf (env.uuid.parses uid = false)
    (invalidDetail "Invalid customer_id" "customer_id"
      ("Must be a valid UUID — the payer **user** id (`users.id`), not an organisation id or "
        ++ "external reference.") "value_error.uuid")
  let id ← orRaise (env.uuid.read uid) (.uncaught "DBAPIError")
  let user ← orRaise (db.users.find? id) (unknownPayer env id)
  validatePayerRole ct user organizationId

/-! ### Listing invoices -/

/-- The columns that `list_invoices` sorts by. -/
inductive SortField where
  | issueDate | dueDate | total | paid | balance | invoiceNumber
  deriving DecidableEq, Repr

/-- `sort_map.get(sort_field, Invoice.issue_date)`. -/
def sortField (env : CandidateEnv) (sortBy : String) : SortField :=
  match env.lower (strip (if sortBy = "" then "issue_date" else sortBy)) with
  | "due_date" => .dueDate
  | "total" => .total
  | "paid" => .paid
  | "balance" => .balance
  | "invoice_number" => .invoiceNumber
  | _ => .issueDate

/-- `sort_dir_desc`. -/
def sortDirDesc (env : CandidateEnv) (sortOrder : String) : Bool :=
  env.lower (strip (if sortOrder = "" then "desc" else sortOrder)) ≠ "asc"

/-- `outstanding_balance_expr`. -/
def Db.outstandingBalanceExpr (db : Db) (inv : Invoice) : ℤ :=
  inv.total - db.getAppliedTotalForInvoice inv.id - inv.paidAmount

/-- `ORDER BY ordered_col, Invoice.id DESC`. -/
def SortField.comesBefore (db : Db) (desc : Bool) : SortField → Invoice → Invoice → Prop
  | .issueDate => Paging.before Invoice.issueDate Invoice.id desc
  | .dueDate => Paging.before Invoice.dueDate Invoice.id desc
  | .total => Paging.before Invoice.total Invoice.id desc
  | .paid => Paging.before Invoice.paidAmount Invoice.id desc
  | .balance => Paging.before db.outstandingBalanceExpr Invoice.id desc
  | .invoiceNumber => Paging.before Invoice.invoiceNumber Invoice.id desc

instance (db : Db) (desc : Bool) : (field : SortField) →
    DecidableRel (field.comesBefore db desc)
  | .issueDate => inferInstanceAs (DecidableRel (Paging.before _ _ _))
  | .dueDate => inferInstanceAs (DecidableRel (Paging.before _ _ _))
  | .total => inferInstanceAs (DecidableRel (Paging.before _ _ _))
  | .paid => inferInstanceAs (DecidableRel (Paging.before _ _ _))
  | .balance => inferInstanceAs (DecidableRel (Paging.before _ _ _))
  | .invoiceNumber => inferInstanceAs (DecidableRel (Paging.before _ _ _))

/-- `payment_status_expr`: an unpaid invoice is overdue after its due date. -/
def paymentStatusExpr (today : Day) (inv : Invoice) : PaymentStatus :=
  if inv.paymentStatus = .unpaid ∧ inv.dueDate < today then .overdue else inv.paymentStatus

/-- What a listing of invoices is asked for. -/
structure InvoiceListing where
  search : Option String
  status : List InvoiceStatus
  paymentStatus : List PaymentStatus
  showDraft : Bool
  organizationId : Id
  customerId : Option Id
  sortBy : String
  sortOrder : String

/-- The filters on organisation, customer and search. An empty search is none. -/
def InvoiceListing.scope (q : InvoiceListing) (env : CandidateEnv) (inv : Invoice) : Bool :=
  inv.organizationId = some q.organizationId &&
  q.customerId.all (fun customer => inv.customerId = some customer) &&
  q.search.all fun search => search = "" ||
    let pattern := "%" ++ strip search ++ "%"
    env.ilike inv.invoiceNumber pattern ||
      (inv.orderId.bind env.orderReference).any fun reference => env.ilike reference pattern

/-- The filters on the two statuses. -/
def InvoiceListing.statuses (q : InvoiceListing) (today : Day) (inv : Invoice) : Bool :=
  (if q.status = [] then q.showDraft || inv.status ≠ .draft else inv.status ∈ q.status) &&
  (q.paymentStatus = [] || paymentStatusExpr today inv ∈ q.paymentStatus)

/-- All that a listing has, in its order. -/
def InvoiceListing.items (q : InvoiceListing) (env : CandidateEnv) (db : Db) (today : Day) :
    List Invoice :=
  (db.invoices.rows.filter fun inv => q.scope env inv && q.statuses today inv).insertionSort
    ((sortField env q.sortBy).comesBefore db (sortDirDesc env q.sortOrder))

/-- `list_invoices`, asked without dates: a page and the number of all. -/
def listInvoices (env : CandidateEnv) (db : Db) (today : Day) (page size : ℕ)
    (q : InvoiceListing) : List Invoice × ℕ :=
  (Paging.page (q.items env db today) size page, (q.items env db today).length)

/-! ### Candidates -/

/-- `_INVOICE_ALLOCATION_CANDIDATE_LIST_BATCH`. -/
def invoiceAllocationCandidateListBatch : ℕ := 200

/-- What a client asks for. -/
structure CandidateQuery where
  organizationId : Id
  customerId : Option String
  clientType : String
  search : Option String
  sortBy : String
  sortOrder : String

/-- One row of the answer. -/
structure CandidateRow where
  invoiceId : Id
  invoiceNumber : String
  issueDate : Day
  dueDate : Day
  paymentStatus : PaymentStatus
  balanceDue : ℤ
  deriving DecidableEq, Repr

/-- `_invoice_candidate_payment_status`. -/
def invoiceCandidatePaymentStatus (today : Day) (inv : Invoice) : PaymentStatus :=
  paymentStatusExpr today inv

/-- `balance_due`: what is left of the total after credits and allocations. -/
def Db.balanceDue (db : Db) (inv : Invoice) : ℤ :=
  inv.total - db.getAppliedTotalForInvoice inv.id - db.totalAllocatedForInvoice inv.id

/-- What the loop counts: it skips an invoice with nothing due, and one whose latest outcome is
a void or a write-off. -/
def Db.isAllocatable (db : Db) (inv : Invoice) : Bool :=
  ¬ db.balanceDue inv ≤ 0 ∧
    ¬ (db.latestOutcomeEventType inv.id = some .voided ∨
      db.latestOutcomeEventType inv.id = some .writtenOff)

/-- The row that the loop appends. -/
def Db.candidateRow (db : Db) (today : Day) (inv : Invoice) : CandidateRow where
  invoiceId := inv.id
  invoiceNumber := inv.invoiceNumber
  issueDate := inv.issueDate
  dueDate := inv.dueDate
  paymentStatus := invoiceCandidatePaymentStatus today inv
  balanceDue := db.balanceDue inv

/-- The checks before the loop, and the customer that the listing is filtered by. -/
def candidateCustomer (env : CandidateEnv) (db : Db) (query : CandidateQuery) :
    Except ServiceError (Option Id) :=
  match stripOrNone query.customerId with
  | some customer => do
      validateRecordPaymentPayer env db query.organizationId customer query.clientType
      let id ← orRaise (env.uuid.read customer) (.uncaught "DBAPIError")
      return some id
  | none => do
      raiseIf (env.upper (strip query.clientType) = "CUSTOMER_B2C")
        (invalidField "customer_id is required for CUSTOMER_B2C invoice candidates"
          "customer_id" "Required when client_type is CUSTOMER_B2C")
      return none

/-- What the loop asks the repository for. -/
def CandidateQuery.listing (query : CandidateQuery) (customer : Option Id) :
    InvoiceListing where
  search := query.search
  status := [.sent]
  paymentStatus := [.unpaid, .partiallyPaid, .overdue]
  showDraft := false
  organizationId := query.organizationId
  customerId := customer
  sortBy := query.sortBy
  sortOrder := query.sortOrder

/-- `list_invoice_allocation_candidates`: the rows of a page and the number of all candidates.
The loop takes at most `fuel` batches, and `none` is a loop that needs more. The subtraction is
that of natural numbers, `max(page - 1, 0)`. -/
def listInvoiceAllocationCandidates (env : CandidateEnv) (fuel : ℕ) (db : Db) (today : Day)
    (query : CandidateQuery) (page size : ℕ) :
    Except ServiceError (Option (List CandidateRow × ℕ)) := do
  let customer ← candidateCustomer env db query
  let offset := (page - 1) * size
  return Paging.scan
    (fun dbPage : ℕ => (listInvoices env db today dbPage invoiceAllocationCandidateListBatch
      (query.listing customer)).1)
    (Paging.collect db.isAllocatable (db.candidateRow today) offset size) fuel 1 ([], 0)

/-! ### Pages of candidates -/

section Pages

variable {env : CandidateEnv} {db : Db} {today : Day}

instance (db : Db) (desc : Bool) (field : SortField) :
    Std.Total (field.comesBefore db desc) where
  total a b := by cases field <;> exact Paging.before_total _ _ _ a b

instance (db : Db) (desc : Bool) (field : SortField) :
    IsTrans Invoice (field.comesBefore db desc) where
  trans a b c hab hbc := by cases field <;> exact Paging.before_trans _ _ _ hab hbc

variable {inv : Invoice}

theorem InvoiceListing.mem_items_iff {q : InvoiceListing} :
    inv ∈ q.items env db today ↔
      inv ∈ db.invoices.rows ∧ q.scope env inv = true ∧ q.statuses today inv = true := by
  rw [items, List.mem_insertionSort, List.mem_filter, Bool.and_eq_true]

theorem InvoiceListing.length_items_le (q : InvoiceListing) :
    (q.items env db today).length ≤ db.invoices.rows.length := by
  rw [items, List.length_insertionSort]
  exact List.length_filter_le _ _

theorem InvoiceListing.nodup_items (q : InvoiceListing) : (q.items env db today).Nodup := by
  rw [items, (List.perm_insertionSort _ _).nodup_iff]
  exact (List.Nodup.of_map Entity.id db.invoices.nodup).filter _

/-- All candidates, in the order of the listing. -/
def CandidateQuery.candidates (query : CandidateQuery) (env : CandidateEnv) (db : Db)
    (today : Day) (customer : Option Id) : List Invoice :=
  ((query.listing customer).items env db today).filter db.isAllocatable

/-- **A page of candidates**, in any state: the loop ends after as many batches as there are
invoices, and what it answers is a page of all candidates and their number. -/
theorem listInvoiceAllocationCandidates_eq {query : CandidateQuery} {customer : Option Id}
    (hpayer : candidateCustomer env db query = .ok customer) {fuel : ℕ}
    (hfuel : db.invoices.rows.length < fuel) (page size : ℕ) :
    listInvoiceAllocationCandidates env fuel db today query page size =
      .ok (some (Paging.page
          ((query.candidates env db today customer).map (db.candidateRow today)) size page,
        (query.candidates env db today customer).length)) := by
  have hshort : (((query.listing customer).items env db today).drop (0 * 200)).length < fuel := by
    rw [Nat.zero_mul, List.drop_zero]
    exact lt_of_le_of_lt (InvoiceListing.length_items_le _) hfuel
  refine bind_eq_ok.mpr ⟨customer, hpayer, ?_⟩
  have hscan := Paging.scan_eq
    (Paging.collect db.isAllocatable (db.candidateRow today) ((page - 1) * size) size)
    ((query.listing customer).items env db today) (by omega) hshort ([], 0)
  rw [Nat.zero_mul, List.drop_zero, Paging.foldl_collect] at hscan
  exact congrArg Except.ok hscan

/-! ### Which invoices are candidates -/

/-- An invoice that a payment may be put on: sent, with something left to pay, and neither
voided nor written off. -/
structure Db.IsOpen (db : Db) (inv : Invoice) : Prop where
  sent : inv.status = .sent
  due : 0 < db.balanceDue inv
  notClosed : db.isClosed inv.id = false

theorem isAllocatable_iff :
    db.isAllocatable inv = true ↔ 0 < db.balanceDue inv ∧ db.isClosed inv.id = false := by
  rw [Db.isAllocatable, decide_eq_true_eq, not_le, Db.isClosed]
  refine and_congr_right fun _ => ?_
  rcases latestOutcomeEventType_cases db inv.id with h | h | h <;> simp [h]

/-- The statuses that the loop asks for: an invoice that is sent and not stored as settled or
closed. The overdue ones that are stored as unpaid are among them. -/
theorem CandidateQuery.statuses_listing_iff {query : CandidateQuery} {customer : Option Id} :
    (query.listing customer).statuses today inv = true ↔
      inv.status = .sent ∧ inv.paymentStatus ≠ .paid ∧
        inv.paymentStatus.isOutcome = false := by
  unfold InvoiceListing.statuses paymentStatusExpr
  cases hstatus : inv.status <;> cases hstored : inv.paymentStatus <;>
    by_cases hdue : inv.dueDate < today <;>
    simp [listing, hdue, PaymentStatus.isOutcome]

theorem CandidateQuery.mem_candidates_iff {query : CandidateQuery} {customer : Option Id} :
    inv ∈ query.candidates env db today customer ↔
      inv ∈ (query.listing customer).items env db today ∧ db.IsOpen inv := by
  rw [candidates, List.mem_filter, isAllocatable_iff]
  refine and_congr_right fun hitems => ⟨fun h => ⟨?_, h.1, h.2⟩, fun h => ⟨h.due, h.notClosed⟩⟩
  exact (statuses_listing_iff.mp (InvoiceListing.mem_items_iff.mp hitems).2.2).1

/-- What is open is stored as open: the listing leaves out none of it. -/
theorem Db.IsOpen.listed (hdb : BillingInv db) (hpaid : PaidSettled db)
    (hinv : inv ∈ db.invoices.rows) (hopen : db.IsOpen inv) (query : CandidateQuery)
    (customer : Option Id) : (query.listing customer).statuses today inv = true := by
  refine CandidateQuery.statuses_listing_iff.mpr ⟨hopen.sent, fun hstored => ?_, ?_⟩
  · have hsettled := hpaid inv hinv List.not_mem_nil hstored
    have hdue := hopen.due
    rw [Db.settledTotal] at hsettled
    rw [Db.balanceDue] at hdue
    omega
  · exact (hdb.invoices inv hinv).outcome.trans hopen.notClosed

end Pages

/-- **Allocation candidates page exactly.** In any state the loop ends, the pages of every size
put together are the candidates, each once and in the order asked for, and the total is their
number: what the repository lists less what is not open. In a state that billing requests lead
to these are all open invoices of the organisation that the filters let through. -/
theorem allocation_candidates_paged (env : CandidateEnv) (db : Db) (today : Day)
    (query : CandidateQuery) {customer : Option Id}
    (hpayer : candidateCustomer env db query = .ok customer) :
    ∃ candidates : List Invoice,
      (∀ size, ∃ pages : ℕ → List CandidateRow,
        (∀ fuel page, db.invoices.rows.length < fuel →
          listInvoiceAllocationCandidates env fuel db today query page size
            = .ok (some (pages page, candidates.length))) ∧
        ∀ count, candidates.length ≤ count * size →
          ((List.range count).map fun i : ℕ => pages (i + 1)).flatten
            = candidates.map (db.candidateRow today)) ∧
      candidates.Nodup ∧
      candidates.Pairwise
        ((sortField env query.sortBy).comesBefore db (sortDirDesc env query.sortOrder)) ∧
      (∀ inv, inv ∈ candidates ↔
        inv ∈ (query.listing customer).items env db today ∧ db.IsOpen inv) ∧
      ∀ users requests, db = Runs.run BillingOp.step (Db.initial users) requests →
        ∀ inv, inv ∈ candidates ↔
          inv ∈ db.invoices.rows ∧ (query.listing customer).scope env inv = true ∧
            db.IsOpen inv := by
  refine ⟨query.candidates env db today customer, fun size => ⟨_, fun fuel page hfuel =>
    listInvoiceAllocationCandidates_eq hpayer hfuel page size, fun count hcount => ?_⟩, ?_, ?_,
    fun inv => CandidateQuery.mem_candidates_iff, fun users requests hrun inv => ?_⟩
  · rw [Paging.flatten_pages, List.take_of_length_le]
    rw [List.length_map]
    exact hcount
  · exact (InvoiceListing.nodup_items _).filter _
  · exact (List.pairwise_insertionSort _ _).filter _
  · rw [CandidateQuery.mem_candidates_iff, InvoiceListing.mem_items_iff]
    constructor
    · rintro ⟨⟨hinv, hscope, -⟩, hopen⟩
      exact ⟨hinv, hscope, hopen⟩
    · rintro ⟨hinv, hscope, hopen⟩
      have hdb : BillingInv db := hrun ▸ billingInv_run users requests
      have hpaid : PaidSettled db := hrun ▸ paidSettled_run users requests
      exact ⟨⟨hinv, hscope, hopen.listed hdb hpaid hinv query customer⟩, hopen⟩

/-! ### Three invoices, one of them voided -/

/-- A finalized invoice of the first organisation. -/
def finalizedInput (issueDate dueDate : Day) (total : ℚ) : InvoiceInput where
  orderId := none
  organizationId := some 1
  customerId := none
  issueDate := issueDate
  dueDate := dueDate
  subtotal := total
  vatRate := 0
  vatAmount := 0
  total := total
  notes := none

/-- Three invoices are sent, and the second is voided. -/
def openInvoicesDb : Db :=
  Runs.run BillingOp.step (Db.initial .empty)
    [(0, .invoice (.createAndFinalize (finalizedInput 0 5 10))),
     (1, .invoice (.createAndFinalize (finalizedInput 1 6 20))),
     (2, .invoice (.createAndFinalize (finalizedInput 2 7 30))),
     (3, .invoice (.void 2 "issued twice" none))]

/-- Texts in the right case already, and no search. -/
def plainCandidateEnv : CandidateEnv where
  uuid := decimalUuid
  lower := id
  upper := id
  isOrganization _ := false
  orderReference _ := none
  ilike _ _ := false

/-- All candidates of the first organisation, as an administrator asks for them. -/
def openInvoicesQuery : CandidateQuery where
  organizationId := 1
  customerId := none
  clientType := "CUSTOMER_B2B"
  search := none
  sortBy := "issue_date"
  sortOrder := "desc"

-- The second page of size 1 is the older of the two that are left, overdue by then.
example : (listInvoiceAllocationCandidates plainCandidateEnv 4 openInvoicesDb 6
    openInvoicesQuery 2 1).toOption
      = some (some ([⟨1, "INV-000001", 0, 5, .overdue, 1000⟩], 2)) := by decide +kernel

theorem open_invoices_candidates :
    ∃ candidates : List Invoice, candidates.Nodup ∧
      ∀ inv, inv ∈ candidates ↔ inv ∈ openInvoicesDb.invoices.rows ∧
        (openInvoicesQuery.listing none).scope plainCandidateEnv inv = true ∧
          openInvoicesDb.IsOpen inv := by
  have hpayer : candidateCustomer plainCandidateEnv openInvoicesDb openInvoicesQuery
      = .ok none := by
    refine bind_eq_ok.mpr ⟨⟨⟩, raiseIf_eq_ok.mpr ?_, rfl⟩
    decide +kernel
  obtain ⟨candidates, -, hnodup, -, -, hopen⟩ :=
    allocation_candidates_paged plainCandidateEnv openInvoicesDb 6 openInvoicesQuery hpayer
  exact ⟨candidates, hnodup, hopen .empty _ rfl⟩

end SwCouriers
