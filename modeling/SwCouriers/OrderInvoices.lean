import SwCouriers.AllocationWrites
import SwCouriers.BillingEffects
import SwCouriers.OrderRepricing

/-!
# The Invoice of an Order

`create_order` copies the amounts of a new order to an invoice (`sync_from_order`), and is
the only caller of that copy. The two edits that price an order again change the order's
amounts and leave its invoice as it is. So order and invoice agree as long as no edit has a
reason to change the price: the packages of a stop are edited only in their sizes, and on orders
that were priced by the default rules; a stop is moved only to tiers of the prices that it has
already, and in orders without discounts.

## Main results

* `linked_run`: in every reachable shop each order has an invoice that is not void, and
  every invoice that names an order names one that exists.
* `updateStopPackages_keeps`, `updateStopServiceTier_keeps`: such edits keep the amounts of their
  orders.
* `invoices_agree`: along a run of such edits and other requests the invoices agree with their
  orders in every state.
* `invoice_stale_after_edit`: a discount that an edit takes away from the order only.
-/

namespace SwCouriers

open Checked

/-! ### What billing does to the amounts of invoices -/

/-- What an invoice bills: the order it is for and its three amounts. -/
structure Bill where
  orderId : Option Id
  subtotal : ℤ
  vatAmount : ℤ
  total : ℤ
  deriving DecidableEq

/-- The bill that an invoice is. -/
def Invoice.bill (inv : Invoice) : Bill :=
  ⟨inv.orderId, inv.subtotal, inv.vatAmount, inv.total⟩

/-- All bills, in the order of the invoices. -/
def Db.bills (db : Db) : List Bill := db.invoices.rows.map Invoice.bill

/-- No invoice was voided or written off. -/
structure Db.NothingClosed (db : Db) : Prop where
  status : ∀ inv ∈ db.invoices.rows, inv.paymentStatus ≠ .void
  events : ∀ e ∈ db.invoiceEvents, e.eventType.isOutcome = false

/-- A call that changes no bill and closes no invoice. -/
structure KeepsBills (db db' : Db) : Prop where
  bills : db'.bills = db.bills
  nothingClosed : db.NothingClosed → db'.NothingClosed

theorem KeepsBills.refl (db : Db) : KeepsBills db db := ⟨rfl, id⟩

variable {db db' : Db} {today dueDate : Day} {invoiceId stopId : Id} {env : OrderEnv}
  {order : Order} {nonce : Option String} {shop : Shop} {inputs : List StopInput}

theorem KeepsBills.trans {db₁ db₂ : Db} (h₁ : KeepsBills db db₁) (h₂ : KeepsBills db₁ db₂) :
    KeepsBills db db₂ :=
  ⟨h₂.bills.trans h₁.bills, fun h => h₂.nothingClosed (h₁.nothingClosed h)⟩

/-- A call that touches neither invoices nor their history. -/
theorem KeepsBills.of_eq (hinv : db'.invoices = db.invoices)
    (hevents : db'.invoiceEvents = db.invoiceEvents) : KeepsBills db db' := by
  refine ⟨by rw [Db.bills, hinv, Db.bills], fun h => ⟨?_, ?_⟩⟩
  · rw [hinv]
    exact h.status
  · rw [hevents]
    exact h.events

theorem Db.NothingClosed.latestOutcomeEventType (h : db.NothingClosed) (i : Id) :
    db.latestOutcomeEventType i = none := by
  have hnil : (db.invoiceEvents.filter fun e =>
      e.invoiceId = i && e.eventType.isOutcome) = [] := by
    refine List.filter_eq_nil_iff.mpr fun e he => ?_
    simp [h.events e he]
  rw [Db.latestOutcomeEventType, hnil]
  rfl

theorem computePaymentStatus_ne_void (inv : Invoice) (paid credit : ℤ) (today : Day) :
    computePaymentStatus inv paid credit none today ≠ .void := by
  simp only [computePaymentStatus, reduceCtorEq, if_false]
  split_ifs <;> decide

/-- Rewriting rows keeps the bills when each row's bill stays and none becomes void. -/
theorem keepsBills_of_map (f : Invoice → Invoice) (events : List InvoiceEvent)
    (hrows : db'.invoices.rows = db.invoices.rows.map f)
    (hhistory : db'.invoiceEvents = db.invoiceEvents ++ events)
    (hbill : ∀ inv ∈ db.invoices.rows, (f inv).bill = inv.bill)
    (hstatus : db.NothingClosed → ∀ inv ∈ db.invoices.rows, (f inv).paymentStatus ≠ .void)
    (hevents : ∀ e ∈ events, e.eventType.isOutcome = false) : KeepsBills db db' := by
  refine ⟨?_, fun h => ⟨fun inv hinv => ?_, fun e he => ?_⟩⟩
  · rw [Db.bills, hrows, List.map_map]
    exact List.map_congr_left hbill
  · rw [hrows] at hinv
    obtain ⟨inv₀, hinv₀, rfl⟩ := List.mem_map.mp hinv
    exact hstatus h inv₀ hinv₀
  · rw [hhistory] at he
    rcases List.mem_append.mp he with he | he
    · exact h.events e he
    · exact hevents e he

theorem keepsBills_reproject (db : Db) (today : Day) (ids : List Id) :
    KeepsBills db { db with invoices := db.reproject today ids } := by
  refine keepsBills_of_map (fun inv => if inv.id ∈ ids then inv.projected db today else inv)
    [] rfl (List.append_nil _).symm ?_ ?_ fun e he => absurd he List.not_mem_nil
  · intro inv _
    split_ifs <;> rfl
  · intro h inv hinv
    split_ifs
    · rw [Invoice.projected, h.latestOutcomeEventType]
      exact computePaymentStatus_ne_void _ _ _ _
    · exact h.status inv hinv

/-- Rewriting one row outside its bill and its projection. -/
theorem keepsBills_modify (db : Db) (i : Id) (f : Invoice → Invoice)
    (hf : ∀ inv, Entity.id (f inv) = Entity.id inv) (events : List InvoiceEvent)
    (hbill : ∀ inv, (f inv).bill = inv.bill)
    (hstatus : ∀ inv, (f inv).paymentStatus = inv.paymentStatus)
    (hevents : ∀ e ∈ events, e.eventType.isOutcome = false) :
    KeepsBills db { db with
      invoices := db.invoices.modify i f hf, invoiceEvents := db.invoiceEvents ++ events } := by
  refine keepsBills_of_map (fun inv => if inv.id = i then f inv else inv) events rfl rfl
    ?_ ?_ hevents
  · intro inv _
    split_ifs
    · exact hbill inv
    · rfl
  · intro h inv hinv
    split_ifs
    · rw [hstatus]
      exact h.status inv hinv
    · exact h.status inv hinv

theorem keepsBills_replaceLineItems (db : Db) (i : Id) (items : List InvoiceLineItem) :
    KeepsBills db (replaceLineItems db i items) := by
  have hkeeps := keepsBills_modify db i (fun inv => { inv with lineItems := items })
    (fun _ => rfl) [] (fun _ => rfl) (fun _ => rfl) fun e he => absurd he List.not_mem_nil
  rwa [List.append_nil] at hkeeps

theorem keepsBills_finalize {organizationId : Option Id}
    (h : finalize db today invoiceId organizationId = .ok db') : KeepsBills db db' := by
  obtain rfl | ⟨invoice, -, rfl⟩ := finalize_ok h
  · exact .refl _
  · refine keepsBills_modify db invoiceId (fun inv => { inv with
      status := .sent, updatedAt := today, version := invoice.version + 1 }) (fun _ => rfl)
      [⟨invoiceId, .finalized, none⟩] (fun _ => rfl) (fun _ => rfl) ?_
    intro e he
    obtain rfl := List.mem_singleton.mp he
    rfl

theorem keepsBills_markPaymentStatus {organizationId paymentId : Id}
    {toStatus : PaymentRecordStatus} {txn : Option String} {fee : Option ℚ}
    (h : markPaymentStatus db organizationId paymentId toStatus txn fee = .ok db') :
    KeepsBills db db' := by
  obtain ⟨payment, fee, -, -, -, -, -, -, rfl⟩ := markPaymentStatus_ok h
  exact .of_eq rfl rfl

theorem keepsBills_createPendingPayment {organizationId : Id} {amount : ℚ} {day : Day}
    {provider : PaymentProvider}
    (h : createPendingPayment db organizationId amount day provider = .ok db') :
    KeepsBills db db' := by
  replace h := ok_of_check h
  replace h := ok_of_check h
  obtain rfl := pure_eq_ok.mp h
  exact .of_eq rfl rfl

theorem keepsBills_addOrReviseAllocations {paymentId : Id} {allocations : List AllocationInput}
    (h : addOrReviseAllocations db today paymentId allocations = .ok db') : KeepsBills db db' := by
  obtain ⟨payment, rows, -, -, -, -, rfl⟩ := addOrReviseAllocations_ok h
  have hinsert : KeepsBills db (db.insertAllocations paymentId rows) := by
    rw [insertAllocations_frame]
    exact .of_eq rfl rfl
  exact hinsert.trans ((keepsBills_reproject _ today _).trans (.of_eq rfl rfl))

/-- Paying by card changes no bill. -/
theorem keepsBills_payByCard (h : payByCard env db today order invoiceId nonce = .ok db') :
    KeepsBills db db' := by
  unfold payByCard at h
  split at h
  · obtain ⟨db₁, hpending, h⟩ := bind_eq_ok.mp h
    replace h := ok_of_check h
    replace h := ok_of_check h
    obtain ⟨charge, -, h⟩ := bind_eq_ok.mp h
    obtain ⟨db₂, hmark, h⟩ := bind_eq_ok.mp h
    obtain ⟨db₃, hfinal, h⟩ := bind_eq_ok.mp h
    exact (keepsBills_createPendingPayment hpending).trans ((keepsBills_markPaymentStatus
      hmark).trans ((keepsBills_finalize hfinal).trans (keepsBills_addOrReviseAllocations h)))
  · obtain rfl := Except.ok.inj h
    exact .refl db

/-- The bill of an order. -/
def Order.bill (order : Order) : Bill :=
  ⟨some order.id, order.subtotal, order.vatAmount, order.totalAmount⟩

theorem getByOrderId_eq_none {orderId organizationId : Id}
    (h : ∀ b ∈ db.bills, b.orderId ≠ some orderId) :
    getByOrderId db orderId organizationId = none := by
  have hnil : (db.invoices.rows.filter fun inv =>
      inv.orderId = some orderId ∧ inv.organizationId = some organizationId) = [] := by
    refine List.filter_eq_nil_iff.mpr fun inv hinv => ?_
    have hne := h inv.bill (List.mem_map_of_mem hinv)
    simp only [decide_eq_true_eq, not_and]
    exact fun heq => absurd heq hne
  rw [getByOrderId, hnil]
  rfl

theorem createDraft_bills {input : InvoiceInput} {result : Db × Invoice}
    (h : createDraft db today input = .ok result) :
    result.1.bills = db.bills ++ [⟨input.orderId, money input.subtotal,
        money input.vatAmount, money input.total⟩] ∧
      (db.NothingClosed → result.1.NothingClosed) := by
  obtain ⟨-, -, hdb⟩ := createInvoice_ok h
  have hrows : result.1.invoices.rows
      = db.invoices.rows ++ [newInvoice db today .draft input] := by
    rw [hdb]
    exact Table.rows_insert_of_notMem db.invoices.fresh_notMem
  constructor
  · rw [Db.bills, hrows, List.map_append]
    rfl
  · intro hopen
    constructor
    · intro inv hinv
      rw [hrows] at hinv
      rcases List.mem_append.mp hinv with hinv | hinv
      · exact hopen.status inv hinv
      · obtain rfl := List.mem_singleton.mp hinv
        exact fun heq => PaymentStatus.noConfusion heq
    · intro e he
      rw [hdb] at he
      rcases List.mem_append.mp he with he | he
      · exact hopen.events e he
      · obtain rfl := List.mem_singleton.mp he
        rfl

/-- The invoice of a new order has the order's amounts, and no other bill changes. -/
theorem syncFromOrder_bills {result : Db × Id} (hnew : ∀ b ∈ db.bills, b.orderId ≠ some order.id)
    (h : syncFromOrder db today order dueDate = .ok result) :
    result.1.bills = db.bills ++ [order.bill] ∧
      (db.NothingClosed → result.1.NothingClosed) := by
  replace h := ok_of_check h
  replace h := ok_of_check h
  obtain ⟨vatRate, -, h⟩ := bind_eq_ok.mp h
  replace h := ok_of_check h
  rw [getByOrderId_eq_none hnew] at h
  obtain ⟨created, hcreated, h⟩ := bind_eq_ok.mp h
  obtain rfl := pure_eq_ok.mp h
  obtain ⟨hbills, hopen⟩ := createDraft_bills hcreated
  have hkeeps := keepsBills_replaceLineItems created.1 created.2.id (buildOrderLineItems order)
  refine ⟨hkeeps.bills.trans ?_, fun h => hkeeps.nothingClosed (hopen h)⟩
  rw [hbills, money_stored, money_stored, money_stored]
  rfl

/-! ### Orders and their invoices -/

/-- The bill of every order is there, no bill names an order that does not exist, and no
invoice was closed. -/
structure Shop.Linked (shop : Shop) : Prop where
  known : ∀ b ∈ shop.billing.bills, ∀ o ∈ b.orderId, ∃ order ∈ shop.orders.rows, order.id = o
  billed : ∀ order ∈ shop.orders.rows, ∃ b ∈ shop.billing.bills, b.orderId = some order.id
  nothingClosed : shop.billing.NothingClosed

/-- Every bill of an order has the order's amounts. -/
def Shop.BillsMatch (shop : Shop) : Prop :=
  ∀ order ∈ shop.orders.rows, ∀ b ∈ shop.billing.bills,
    b.orderId = some order.id → b = order.bill

/-- **Order and invoice are equal**: each order has an invoice that is not void, and every
such invoice has the order's subtotal, VAT and total. -/
def Shop.InvoicesAgree (shop : Shop) : Prop :=
  ∀ order ∈ shop.orders.rows,
    (∃ inv ∈ shop.billing.invoices.rows,
      inv.orderId = some order.id ∧ inv.paymentStatus ≠ .void) ∧
    ∀ inv ∈ shop.billing.invoices.rows, inv.orderId = some order.id →
      inv.paymentStatus ≠ .void → inv.subtotal = order.subtotal ∧
        inv.vatAmount = order.vatAmount ∧ inv.total = order.totalAmount

theorem Shop.Linked.invoicesAgree_iff (h : shop.Linked) : shop.InvoicesAgree ↔ shop.BillsMatch := by
  constructor
  · intro hagree order horder b hb hlink
    obtain ⟨inv, hinv, rfl⟩ := List.mem_map.mp hb
    obtain ⟨h₁, h₂, h₃⟩ := (hagree order horder).2 inv hinv hlink
      (h.nothingClosed.status inv hinv)
    rw [Invoice.bill, Order.bill, h₁, h₂, h₃]
    exact congrArg (Bill.mk · _ _ _) hlink
  · intro hmatch order horder
    constructor
    · obtain ⟨b, hb, hlink⟩ := h.billed order horder
      obtain ⟨inv, hinv, rfl⟩ := List.mem_map.mp hb
      exact ⟨inv, hinv, hlink, h.nothingClosed.status inv hinv⟩
    · intro inv hinv hlink _
      have hbill := hmatch order horder inv.bill (List.mem_map_of_mem hinv) hlink
      exact ⟨congrArg Bill.subtotal hbill, congrArg Bill.vatAmount hbill,
        congrArg Bill.total hbill⟩

theorem linked_initial (users : TableOf User) : (Shop.initial users).Linked where
  known := fun _ hb => absurd hb List.not_mem_nil
  billed := fun _ horder => absurd horder List.not_mem_nil
  nothingClosed := ⟨fun _ hinv => absurd hinv List.not_mem_nil,
    fun _ he => absurd he List.not_mem_nil⟩

theorem mem_storeOrder_iff {after o : Order} {orderId : Id} :
    o ∈ (shop.storeOrder orderId after).orders.rows ↔
      ∃ o₀ ∈ shop.orders.rows,
        (if o₀.id = orderId then { after with id := o₀.id } else o₀) = o :=
  Table.mem_modify_iff (f := fun o : Order => { after with id := o.id }) fun _ => rfl

/-- Writing an order back keeps every link. -/
theorem linked_storeOrder (h : shop.Linked) (orderId : Id) (after : Order) :
    (shop.storeOrder orderId after).Linked := by
  have hid : ∀ o₀ : Order,
      (if o₀.id = orderId then { after with id := o₀.id } else o₀).id = o₀.id := by
    intro o₀
    split_ifs <;> rfl
  refine ⟨fun b hb o ho => ?_, fun order horder => ?_, h.nothingClosed⟩
  · obtain ⟨order, horder, rfl⟩ := h.known b hb o ho
    exact ⟨_, mem_storeOrder_iff.mpr ⟨order, horder, rfl⟩, hid order⟩
  · obtain ⟨o₀, ho₀, rfl⟩ := mem_storeOrder_iff.mp horder
    rw [hid]
    exact h.billed o₀ ho₀

/-- A new order is not on any bill yet. -/
theorem Shop.Linked.fresh_notMem (h : shop.Linked) :
    ∀ b ∈ shop.billing.bills, b.orderId ≠ some shop.orders.fresh := by
  intro b hb hlink
  obtain ⟨order, horder, hid⟩ := h.known b hb _ hlink
  exact absurd hid (Table.lt_fresh horder).ne

/-- What placing an order does to bills and orders. -/
theorem placed_spec {billing₁ billing₂ : Db} (h : shop.Linked) (hid : order.id = shop.orders.fresh)
    (hsync : syncFromOrder shop.billing today order dueDate = .ok (billing₁, invoiceId))
    (hpay : payByCard env billing₁ today order invoiceId nonce = .ok billing₂) :
    billing₂.bills = shop.billing.bills ++ [order.bill] ∧ billing₂.NothingClosed ∧
      (shop.addOrder order billing₂).orders.rows = shop.orders.rows ++ [order] := by
  obtain ⟨hbills, hopen⟩ := syncFromOrder_bills (hid ▸ h.fresh_notMem) hsync
  have hkeeps := keepsBills_payByCard hpay
  refine ⟨hkeeps.bills.trans hbills, hkeeps.nothingClosed (hopen h.nothingClosed), ?_⟩
  exact Table.rows_insert_of_notMem (hid ▸ shop.orders.fresh_notMem)

theorem linked_placed {billing₁ billing₂ : Db} (h : shop.Linked)
    (hid : order.id = shop.orders.fresh)
    (hsync : syncFromOrder shop.billing today order dueDate = .ok (billing₁, invoiceId))
    (hpay : payByCard env billing₁ today order invoiceId nonce = .ok billing₂) :
    (shop.addOrder order billing₂).Linked := by
  obtain ⟨hbills, hopen, hrows⟩ := placed_spec h hid hsync hpay
  refine ⟨fun b hb o ho => ?_, fun o ho => ?_, hopen⟩
  · rw [hrows]
    rcases List.mem_append.mp (hbills ▸ hb) with hb | hb
    · obtain ⟨found, hfound, rfl⟩ := h.known b hb o ho
      exact ⟨found, List.mem_append_left _ hfound, rfl⟩
    · obtain rfl := List.mem_singleton.mp hb
      exact ⟨order, List.mem_append_right _ (List.mem_singleton.mpr rfl), Option.some.inj ho⟩
  · change ∃ b ∈ billing₂.bills, b.orderId = some o.id
    rw [hbills]
    rcases List.mem_append.mp (hrows ▸ ho) with ho | ho
    · obtain ⟨b, hb, hlink⟩ := h.billed o ho
      exact ⟨b, List.mem_append_left _ hb, hlink⟩
    · obtain rfl := List.mem_singleton.mp ho
      exact ⟨o.bill, List.mem_append_right _ (List.mem_singleton.mpr rfl), rfl⟩

theorem linked_effect {shop' : Shop} (heffect : OrderEffect shop shop') (h : shop.Linked) :
    shop'.Linked := by
  cases heffect with
  | created env today organizationId request ctx pricingStops pricing dueDate invoiceId
      billing₁ billing₂ _ _ synced paid => exact linked_placed h rfl synced paid
  | repriced order after stops inputs snapshot pricing _ _ _ _ _ =>
      exact linked_storeOrder h order.id after
  | restatused order after _ _ => exact linked_storeOrder h order.id after
  | unchanged => exact h

theorem linked_step (shop : Shop) (request : OrderRequest) (h : shop.Linked) :
    (request.step shop).Linked := by
  rcases settle_eq shop (request.exec shop) with hok | hsame
  · exact linked_effect (OrderRequest.exec_effect hok) h
  · rw [OrderRequest.step, hsame]
    exact h

/-- **Every order of a reachable shop has an invoice**, and none was voided. -/
theorem linked_run (users : TableOf User) (requests : List OrderRequest) :
    (Runs.run OrderRequest.step (Shop.initial users) requests).Linked :=
  Runs.run_invariant linked_step (linked_initial users) requests

/-! ### Edits that keep the price -/

/-- The amounts of an order are as they were. -/
def Order.SameAmounts (before after : Order) : Prop :=
  after.subtotal = before.subtotal ∧ after.vatAmount = before.vatAmount ∧
    after.totalAmount = before.totalAmount

/-- No discount is stored on the stop. -/
def DeliveryStop.Undiscounted (stop : DeliveryStop) : Prop :=
  ∀ breakdown ∈ stop.priceBreakdown, breakdown.discounts = [] ∧ breakdown.totalDiscount = "0.00"

/-- The plan has the prices of the one that is stored on the stop. -/
def DeliveryStop.PricedLike (stop : DeliveryStop) (plan : Plan) : Prop :=
  ∀ breakdown ∈ stop.priceBreakdown, tierPrices plan = tierPrices breakdown.pricingPlan

/-- The request gives no pending order a reason for another price. An edit of packages is for an
order that was priced by the default rules, and leaves the weights alone. A change of tier is for
an order without discounts, and to a tier of the prices that the stop has already. -/
def OrderRequest.KeepsPrice (shop : Shop) (request : OrderRequest) : Prop :=
  match request.op with
  | .updateStopPackages orderId stopId updates => ∀ order,
      shop.orders.find? orderId = some order → order.status = .pendingPickup →
      KeepsWeights order stopId updates ∧ ∀ stop ∈ order.stops, stop.PricedByDefault
  | .updateStopServiceTier orderId stopId tierId => ∀ order newTier,
      shop.orders.find? orderId = some order → order.status = .pendingPickup →
      request.env.resolveEffectiveTier order.organizationId (some tierId) none = .ok newTier →
      ∀ stop ∈ order.stops, stop.Undiscounted ∧
        (stop.id = stopId → stop.PricedLike (effectiveTierToPlan newTier))
  | _ => True

theorem eq_ok_of_toOption {ε α : Type} {x : Except ε α} {a : α} (h : x.toOption = some a) :
    x = .ok a := by
  cases x with
  | error e => cases h
  | ok b => exact congrArg Except.ok (Option.some.inj h)

/-- A stop without discounts that is priced again at the prices it has costs what it did. -/
theorem recompute_amounts_of_tier {s t : DeliveryStop} {i : ℕ} {p q : PricedStop} {plan : Plan}
    {fallback : VatRate} (hp : BuiltFrom (s, i) p) (hpackages : t.packages = s.packages)
    (hnone : s.Undiscounted) (hplan : tierPrices plan = tierPrices p.breakdown.pricingPlan)
    (hq : recomputeStop fallback (t.pricingInput i plan (some p.breakdown)) = .ok q) :
    q.subtotal = p.subtotal ∧ q.vatAmount = p.vatAmount ∧ q.total = p.total := by
  obtain ⟨hstored, rules, hcapped, rfl⟩ := hp
  set before := storedInput (s, i) rules.plan
  set input := t.pricingInput i plan (some (rules.price before).breakdown)
  have hprices : tierPrices plan = .ok rules.prices :=
    hplan.trans (tierPrices_snapshot rules.plan rules.prices)
  have hsame : input.packages = before.packages := by
    simp only [input, before, storedInput, DeliveryStop.pricingInput, hpackages]
  -- Nothing is stored to be taken off, and nothing was taken off.
  obtain ⟨hentries, hzero⟩ := hnone _ hstored
  have hdiscount : reapplySnapshotDiscounts (discountBase rules.prices input.packages)
      input.snapshot.discounts = .ok (min (discountBase rules.prices input.packages) 0, []) := by
    rw [show input.snapshot.discounts = [] from hentries]
    exact reapplySnapshotDiscounts_nil _
  have hbase : min (discountBase rules.prices before.packages) 0 = rules.discount.1 := by
    have htext : Decimal.render rules.discount.1 = Decimal.render 0 :=
      hzero.trans (by decide +kernel)
    obtain ⟨sum, hsum, hcap⟩ := hcapped
    have hoff := render_inj.mp htext
    omega
  have hmin : (Scalar.ofText input.snapshot.minCharge).decimal = .ok (pounds rules.minCharge) :=
    decimal_text_render rules.minCharge
  have hvat : snapshotVatPct input.snapshot.vatRatePct
      (input.snapshot.vatRate.getD fallback) = .ok (pounds rules.vatPct) := by
    have htext : input.snapshot.vatRatePct = some (Decimal.render rules.vatPct) :=
      congrArg (fun n => some (Decimal.render n)) (money_stored rules.vatPct)
    rw [htext, snapshotVatPct, if_neg (getD_render_ne_empty rules.vatPct)]
    exact decimal_text_render rules.vatPct
  have hresolved : input.resolvedPlan = some plan := rfl
  obtain rfl := Except.ok.inj
    (hq.symm.trans (recomputeStop_eq hresolved hprices hdiscount hmin hvat))
  simp only [PricingRules.price, buildStop, PricingRules.figures, figuresOf, hsame, hbase,
    money_stored, and_self]

/-- What the stops of an order are handed over with when one of them changes its tier. -/
theorem tierEditInputs_ok {stops : List DeliveryStop} {newPlan : Plan}
    (h : tierEditInputs stops stopId newPlan = .ok inputs) :
    List.Forall₂ (fun s input => ∃ breakdown, s.1.priceBreakdown = some breakdown ∧
      input = s.1.pricingInput s.2 (if s.1.id = stopId then newPlan else breakdown.pricingPlan)
        (some breakdown)) (stops.zipIdx 1) inputs := by
  refine (mapEach_eq_ok.mp h).imp fun s input hround => ?_
  obtain ⟨breakdown, hbreakdown, hround⟩ := orRaise_bind_eq_ok.mp hround
  exact ⟨breakdown, hbreakdown, (pure_eq_ok.mp hround).symm⟩

/-- The same for all stops of an order at once. -/
theorem recompute_amounts_all_of_tier {stops : List DeliveryStop} {i : ℕ}
    {f : DeliveryStop → DeliveryStop} {ps qs : List PricedStop} {fallback : VatRate}
    {newPlan : Plan} (hf : ∀ s ∈ stops, (f s).id = s.id ∧ (f s).priceBreakdown = s.priceBreakdown ∧
      (f s).packages = s.packages)
    (hkeeps : ∀ s ∈ stops, s.Undiscounted ∧ (s.id = stopId → s.PricedLike newPlan))
    (hp : List.Forall₂ BuiltFrom (stops.zipIdx i) ps)
    (hinputs : List.Forall₂ (fun s input => ∃ breakdown, s.1.priceBreakdown = some breakdown ∧
      input = s.1.pricingInput s.2 (if s.1.id = stopId then newPlan else breakdown.pricingPlan)
        (some breakdown)) ((stops.map f).zipIdx i) inputs)
    (hq : List.Forall₂ (fun input q => recomputeStop fallback input = .ok q) inputs qs) :
    qs.map (·.subtotal) = ps.map (·.subtotal) ∧ qs.map (·.vatAmount) = ps.map (·.vatAmount) ∧
      qs.map (·.total) = ps.map (·.total) := by
  induction stops generalizing i ps qs inputs with
  | nil =>
      obtain rfl := List.forall₂_nil_left_iff.mp hp
      obtain rfl := List.forall₂_nil_left_iff.mp hinputs
      obtain rfl := List.forall₂_nil_left_iff.mp hq
      simp
  | cons s stops ih =>
      rw [List.zipIdx_cons, List.forall₂_cons_left_iff] at hp
      rw [List.map_cons, List.zipIdx_cons, List.forall₂_cons_left_iff] at hinputs
      obtain ⟨p, ps, hp, hps, rfl⟩ := hp
      obtain ⟨input, inputs, ⟨breakdown, hbreakdown, rfl⟩, hinputs, rfl⟩ := hinputs
      obtain ⟨q, qs, hround, hqs, rfl⟩ := List.forall₂_cons_left_iff.mp hq
      obtain ⟨hid, hkept, hpackages⟩ := hf s List.mem_cons_self
      obtain ⟨hnone, hlike⟩ := hkeeps s List.mem_cons_self
      obtain rfl := Option.some.inj (hp.1.symm.trans (hkept.symm.trans hbreakdown))
      have hplan : tierPrices (if (f s).id = stopId then newPlan else p.breakdown.pricingPlan) =
          tierPrices p.breakdown.pricingPlan := by
        split
        case isTrue h => exact hlike (hid.symm.trans h) _ hp.1
        case isFalse => rfl
      obtain ⟨h₁, h₂, h₃⟩ := recompute_amounts_of_tier hp hpackages hnone hplan hround
      obtain ⟨h₄, h₅, h₆⟩ := ih (fun s hs => hf s (List.mem_cons_of_mem _ hs))
        (fun s hs => hkeeps s (List.mem_cons_of_mem _ hs)) hps hinputs hqs
      simp only [List.map_cons, h₁, h₂, h₃, h₄, h₅, h₆, and_self]

theorem retieredStop_spec (stopId : Id) (tier : EffectiveTier) (s : DeliveryStop) :
    let t := if s.id = stopId then
      { s with serviceTierId := tier.id, serviceTier := tier.tierName } else s
    t.id = s.id ∧ t.priceBreakdown = s.priceBreakdown ∧ t.packages = s.packages := by
  dsimp only
  split <;> exact ⟨rfl, rfl, rfl⟩

/-- **An edit of packages** that gives no reason for another price keeps the amounts. -/
theorem updateStopPackages_keeps {updates : List PackageUpdateItem} {snapshot : OrderBreakdown}
    {orderUuid : Option Id} {orderId : Option String} {pricing : PricingResult}
    (horder : order.WellPriced) (hweights : KeepsWeights order stopId updates)
    (hdefault : ∀ stop ∈ order.stops, stop.PricedByDefault)
    (hinputs : packageEditInputs (updatedStops order.stops stopId updates) = .ok inputs)
    (hpricing : recomputePriceBreakdownFromSnapshot snapshot.snapshot inputs orderUuid
      orderId = .ok pricing) :
    order.SameAmounts (order.storePricing (updatedStops order.stops stopId updates) pricing) := by
  obtain ⟨ps, hps, hsubtotal, hvat, htotal⟩ := horder
  obtain ⟨qs, hqs, hresult⟩ := bind_eq_ok.mp hpricing
  obtain rfl := pure_eq_ok.mp hresult
  obtain ⟨h₁, h₂, h₃⟩ := (recompute_figures_all_iff (fun s hs => updatedStop_spec hweights hs) hps
    (packageEditInputs_ok hinputs) (mapEach_eq_ok.mp hqs)).2 hdefault
  rw [Order.SameAmounts, hsubtotal, hvat, htotal, ← h₁, ← h₂, ← h₃]
  exact ⟨rfl, rfl, rfl⟩

/-- **A change of tier** that gives no reason for another price keeps the amounts. -/
theorem updateStopServiceTier_keeps {newTier : EffectiveTier} {snapshot : OrderSnapshot}
    {orderUuid : Option Id} {orderId : Option String} {pricing : PricingResult}
    (horder : order.WellPriced) (hkeeps : ∀ stop ∈ order.stops, stop.Undiscounted ∧
      (stop.id = stopId → stop.PricedLike (effectiveTierToPlan newTier)))
    (hinputs : tierEditInputs (retieredStops order.stops stopId newTier) stopId
      (effectiveTierToPlan newTier) = .ok inputs)
    (hpricing : recomputePriceBreakdownFromSnapshot snapshot inputs orderUuid orderId
      = .ok pricing) :
    order.SameAmounts
      (order.storePricing (retieredStops order.stops stopId newTier) pricing) := by
  obtain ⟨ps, hps, hsubtotal, hvat, htotal⟩ := horder
  obtain ⟨qs, hqs, hresult⟩ := bind_eq_ok.mp hpricing
  obtain rfl := pure_eq_ok.mp hresult
  obtain ⟨h₁, h₂, h₃⟩ := recompute_amounts_all_of_tier
    (fun s _ => retieredStop_spec stopId newTier s) hkeeps hps (tierEditInputs_ok hinputs)
    (mapEach_eq_ok.mp hqs)
  rw [Order.SameAmounts, hsubtotal, hvat, htotal, ← h₁, ← h₂, ← h₃]
  exact ⟨rfl, rfl, rfl⟩

/-! ### Orders and bills along a run -/

/-- A rewritten order matches its bill when its amounts are as they were. -/
theorem billsMatch_storeOrder {after : Order} (hmatch : shop.BillsMatch)
    (hfound : shop.orders.find? order.id = some order) (hsame : order.SameAmounts after) :
    (shop.storeOrder order.id after).BillsMatch := by
  obtain ⟨hsubtotal, hvat, htotal⟩ := hsame
  intro o ho b hb hlink
  obtain ⟨o₀, ho₀, rfl⟩ := mem_storeOrder_iff.mp ho
  split_ifs at hlink ⊢ with hid
  · obtain rfl := Table.eq_of_find? hfound ho₀ hid
    rw [hmatch o₀ ho₀ b hb hlink, Order.bill, Order.bill, hsubtotal, hvat, htotal]
  · exact hmatch o₀ ho₀ b hb hlink

/-- A new order comes with its own bill. -/
theorem billsMatch_placed {billing₁ billing₂ : Db} (h : shop.Linked) (hmatch : shop.BillsMatch)
    (hid : order.id = shop.orders.fresh)
    (hsync : syncFromOrder shop.billing today order dueDate = .ok (billing₁, invoiceId))
    (hpay : payByCard env billing₁ today order invoiceId nonce = .ok billing₂) :
    (shop.addOrder order billing₂).BillsMatch := by
  obtain ⟨hbills, -, hrows⟩ := placed_spec h hid hsync hpay
  intro o ho b hb hlink
  have hsplit : b ∈ shop.billing.bills ++ [order.bill] := hbills ▸ hb
  rcases List.mem_append.mp (hrows ▸ ho) with hold | hnew <;>
    rcases List.mem_append.mp hsplit with hbOld | hbNew
  · exact hmatch o hold b hbOld hlink
  · -- The new bill is for no order that was there.
    obtain rfl := List.mem_singleton.mp hbNew
    have heq : order.id = o.id := Option.some.inj hlink
    exact absurd (heq.symm.trans hid) (Table.lt_fresh hold).ne
  · obtain rfl := List.mem_singleton.mp hnew
    exact absurd (hlink.trans (congrArg some hid)) (h.fresh_notMem b hbOld)
  · rw [List.mem_singleton.mp hnew]
    exact List.mem_singleton.mp hbNew

/-- Statuses are not part of a bill. -/
theorem billsMatch_of_restatused {shop' : Shop} (hmatch : shop.BillsMatch)
    (hcancel : Restatused shop shop') : shop'.BillsMatch := by
  rcases hcancel with rfl | ⟨order, after, hfound, hsame, rfl⟩
  · exact hmatch
  · exact billsMatch_storeOrder hmatch hfound ⟨hsame.subtotal, hsame.vatAmount, hsame.totalAmount⟩

/-- What is known of a shop along a run: its orders are well priced, and are what their bills
say. -/
structure Shop.Billed (shop : Shop) : Prop where
  linked : shop.Linked
  wellPriced : ∀ order ∈ shop.orders.rows, order.WellPriced
  matched : shop.BillsMatch

/-- An accepted request that keeps the price keeps orders and bills equal. -/
theorem billsMatch_exec {shop' : Shop} {request : OrderRequest} (h : shop.Billed)
    (hkeeps : request.KeepsPrice shop) (hok : request.exec shop = .ok shop') :
    shop'.BillsMatch := by
  obtain ⟨env, today, op⟩ := request
  cases op with
  | createOrder r =>
      obtain ⟨organizationId, ctx, pricingStops, pricing, dueDate, billing₁, invoiceId,
        billing₂, -, -, hsync, hpay, rfl⟩ := createOrder_ok hok
      exact billsMatch_placed h.linked h.matched rfl hsync hpay
  | updateStopPackages orderId stopId updates =>
      obtain ⟨order, snapshot, inputs, pricing, hfound, hstatus, -, hinputs, hpricing,
        rfl⟩ := updateStopPackages_ok hok
      obtain ⟨hweights, hdefault⟩ := hkeeps order hfound hstatus
      obtain ⟨hmem, rfl⟩ := Table.find?_eq_some_iff.mp hfound
      exact billsMatch_storeOrder h.matched hfound
        (updateStopPackages_keeps (h.wellPriced order hmem) hweights hdefault hinputs hpricing)
  | updateStopServiceTier orderId stopId tierId =>
      obtain ⟨order, snapshot, newTier, inputs, pricing, hfound, hstatus, -, htier, hinputs,
        hpricing, rfl⟩ := updateStopServiceTier_ok hok
      have hstops := hkeeps order newTier hfound hstatus htier
      obtain ⟨hmem, rfl⟩ := Table.find?_eq_some_iff.mp hfound
      exact billsMatch_storeOrder h.matched hfound
        (updateStopServiceTier_keeps (h.wellPriced order hmem) hstops hinputs hpricing)
  | cancelOrder orderId user org =>
      exact billsMatch_of_restatused h.matched (cancelOrder_restatused hok)
  | cancelDeliveryStop orderId stopId user org =>
      exact billsMatch_of_restatused h.matched (cancelDeliveryStop_restatused hok)

/-- **One request.** -/
theorem billed_step {request : OrderRequest} (h : shop.Billed) (hkeeps : request.KeepsPrice shop) :
    (request.step shop).Billed := by
  refine ⟨linked_step shop request h.linked, wellPriced_step request h.wellPriced, ?_⟩
  cases hexec : request.exec shop with
  | error e =>
      rw [OrderRequest.step, hexec, settle_error]
      exact h.matched
  | ok shop' =>
      rw [OrderRequest.step, hexec, settle_ok]
      exact billsMatch_exec h hkeeps hexec

/-- **Order and invoice stay equal** along every run of requests on an empty shop that give no
pending order a reason for another price: in every state each order has a non-void invoice, and
every such invoice has its subtotal, VAT and total. -/
theorem invoices_agree (users : TableOf User) (requests : List OrderRequest)
    (hrequests : Runs.Along OrderRequest.step (fun shop request => request.KeepsPrice shop)
      (Shop.initial users) requests) :
    ∀ pre post, requests = pre ++ post →
      (Runs.run OrderRequest.step (Shop.initial users) pre).InvoicesAgree := by
  rintro pre post rfl
  have hstart : (Shop.initial users).Billed :=
    ⟨linked_initial users, fun _ horder => absurd horder List.not_mem_nil,
      fun _ horder => absurd horder List.not_mem_nil⟩
  have hbilled := Runs.run_invariant_of_along (I := Shop.Billed)
    (fun _ _ h hkeeps => billed_step h hkeeps) hstart hrequests.prefix_run
  exact hbilled.linked.invoicesAgree_iff.mpr hbilled.matched

instance (shop : Shop) : Decidable shop.InvoicesAgree :=
  inferInstanceAs (Decidable (∀ _ ∈ _, (∃ _ ∈ _, _ ∧ _) ∧ ∀ _ ∈ _, _ → _ → _))

/-- The length of the package of the order is corrected, and the stop is moved to the tier that it
has already. -/
def harmlessEdits : List OrderRequest :=
  [⟨transferEnv [], 0, .createOrder onePackageRequest⟩,
    ⟨transferEnv [], 0, .updateStopPackages 1 1 longerPackage⟩,
    ⟨transferEnv [], 0, .updateStopServiceTier 1 1 "tier-1"⟩]

/-- Nothing special is stored on the stop, and its plan has the prices of the tier. -/
def DeliveryStop.Plain (stop : DeliveryStop) : Prop :=
  ∀ breakdown ∈ stop.priceBreakdown, breakdown.discounts = [] ∧
    breakdown.totalDiscount = "0.00" ∧ breakdown.minCharge = "0.00" ∧
    breakdown.vatRatePct = "20.00" ∧
    (tierPrices breakdown.pricingPlan).toOption = some ⟨1000, 150, 50⟩

instance (stop : DeliveryStop) : Decidable stop.Plain :=
  inferInstanceAs (Decidable (∀ _ ∈ _, _))

theorem keepsPrice_harmlessEdits :
    Runs.Along OrderRequest.step (fun shop request => request.KeepsPrice shop)
      (Shop.initial .empty) harmlessEdits := by
  have htier : (tierPrices (effectiveTierToPlan nextDayTier)).toOption =
      some ⟨1000, 150, 50⟩ := by decide +kernel
  have hplaced : ∀ order ∈ (placedShop []).orders.find? 1,
      KeepsWeights order 1 longerPackage ∧ ∀ stop ∈ order.stops, stop.Plain := by decide +kernel
  have hedited : ∀ order ∈ (Runs.run OrderRequest.step (placedShop [])
      [⟨transferEnv [], 0, .updateStopPackages 1 1 longerPackage⟩]).orders.find? 1,
      ∀ stop ∈ order.stops, stop.Plain := by decide +kernel
  refine ⟨trivial, fun order hfound _ => ?_, fun order newTier hfound _ hnew stop hstop => ?_,
    trivial⟩
  · obtain ⟨hweights, hplain⟩ := hplaced order hfound
    refine ⟨hweights, fun stop hstop breakdown hbreakdown => ?_⟩
    obtain ⟨-, hdiscount, hmin, hpct, -⟩ := hplain stop hstop breakdown hbreakdown
    exact ⟨.inl hdiscount, hmin, hpct⟩
  · obtain rfl : nextDayTier = newTier := Except.ok.inj hnew
    refine ⟨fun breakdown hbreakdown => ?_, fun _ breakdown hbreakdown => ?_⟩
    · obtain ⟨hentries, hdiscount, -⟩ := hedited order hfound stop hstop breakdown hbreakdown
      exact ⟨hentries, hdiscount⟩
    · obtain ⟨-, -, -, -, hprices⟩ := hedited order hfound stop hstop breakdown hbreakdown
      rw [eq_ok_of_toOption htier, eq_ok_of_toOption hprices]

/-- The order is invoiced at 15.00, which it costs after either edit. -/
theorem invoice_kept_by_harmless_edits :
    (Runs.run OrderRequest.step (Shop.initial .empty) harmlessEdits).InvoicesAgree ∧
    ((Runs.run OrderRequest.step (Shop.initial .empty) harmlessEdits).orders.rows.map fun order =>
      (order.totalAmount, order.stops.map fun stop =>
        (stop.serviceTierId, stop.packages.map (·.lengthCm))))
        = [(1500, [(some "tier-1", [some 35])])] :=
  ⟨invoices_agree .empty harmlessEdits keepsPrice_harmlessEdits harmlessEdits [] rfl,
    by decide +kernel⟩

/-- The length of the package of the discounted order is corrected. -/
def lengthCorrected : OrderRequest :=
  ⟨transferEnv [tenPercentOff], 0, .updateStopPackages 1 1 longerPackage⟩

/-- The order with ten per cent off is invoiced at 13.50. Once the length of its package is
corrected the order costs 15.00, and its invoice still says 13.50. -/
theorem invoice_stale_after_edit :
    (placedShop [tenPercentOff]).InvoicesAgree ∧
    ((lengthCorrected.step (placedShop [tenPercentOff])).orders.rows.map (·.totalAmount)
      = [1500]) ∧
    ((lengthCorrected.step (placedShop [tenPercentOff])).billing.invoices.rows.map (fun inv =>
      (inv.orderId, inv.paymentStatus, inv.total)) = [(some 1, .unpaid, 1350)]) ∧
    ¬ (lengthCorrected.step (placedShop [tenPercentOff])).InvoicesAgree := by
  decide +kernel

end SwCouriers
