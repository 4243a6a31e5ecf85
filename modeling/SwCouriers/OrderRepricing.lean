import SwCouriers.Lib.Runs
import SwCouriers.OrderEffects

/-!
# Pricing an Order Again

`update_stop_packages` prices an order again from the plans stored on its stops, but hands
the recomputation no stored breakdown. What the recomputation then falls back to is no
discount, no minimum charge and the standard VAT rate, whatever the order was priced with.

Every order that requests can lead to is well priced: what is stored on each of its stops
was built from the stop's own packages, and the order's amounts are the sums. From that
follows exactly when an edit that changes no weight changes no figure.

## Main results

* `wellPriced_run`: every order of every reachable shop is well priced.
* `figures_kept_iff`: an edit that leaves the weights alone keeps the figures of an order
  exactly when no stop has a discount, a minimum charge or another VAT rate than 20 %.
-/

namespace SwCouriers

open Checked

/-! ### Well priced orders -/

/-- The rules that a stop was priced by: its plan, and what became of the discounts, the
minimum charge and the VAT rate. -/
structure PricingRules where
  plan : Plan
  prices : TierPrices
  discount : ℤ × List DiscountEntry
  minCharge : ℤ
  minChargeApplied : Bool
  vatRate : VatRate
  vatPct : ℤ
  display : Option String

/-- The figures of a stop under given rules. -/
def PricingRules.figures (rules : PricingRules) (packages : List PackageInput) : StopFigures :=
  { figuresOf rules.prices packages rules.discount rules.minCharge rules.vatRate
      (pounds rules.vatPct) with minChargeApplied := rules.minChargeApplied }

/-- A stop priced by given rules. -/
def PricingRules.price (rules : PricingRules) (stop : StopInput) : PricedStop :=
  buildStop stop (rules.plan.snapshot rules.prices) rules.display
    (rules.figures stop.packages)

/-- The input of a stored stop. The plan is not read when its figures are built. -/
def storedInput (s : DeliveryStop × ℕ) (plan : Plan) : StopInput :=
  s.1.pricingInput s.2 plan none

/-- The stop's stored breakdown was built from its own row. -/
def BuiltFrom (s : DeliveryStop × ℕ) (priced : PricedStop) : Prop :=
  s.1.priceBreakdown = some priced.breakdown ∧
  ∃ rules : PricingRules,
    Capped (discountBase rules.prices (storedInput s rules.plan).packages) rules.discount ∧
    priced = rules.price (storedInput s rules.plan)

/-- The stored breakdowns of an order were built from its rows, and its amounts are their
sums. -/
def Order.WellPriced (order : Order) : Prop :=
  ∃ priced : List PricedStop, List.Forall₂ BuiltFrom (order.stops.zipIdx 1) priced ∧
    order.subtotal = (priced.map (·.subtotal)).sum ∧
    order.vatAmount = (priced.map (·.vatAmount)).sum ∧
    order.totalAmount = (priced.map (·.total)).sum

variable {i : ℕ} {stops : List DeliveryStop} {inputs : List StopInput} {ps : List PricedStop}
  {order : Order} {shop : Shop}

theorem forall₂_zipIdx_right {α β γ : Type} {R : α → β → Prop} {P : α × ℕ → γ → Prop}
    {Q : β × ℕ → γ → Prop} (hPQ : ∀ a b i c, R a b → P (a, i) c → Q (b, i) c) {as : List α}
    {bs : List β} (hR : List.Forall₂ R as bs) {cs : List γ} (hP : List.Forall₂ P (as.zipIdx i) cs) :
    List.Forall₂ Q (bs.zipIdx i) cs := by
  induction hR generalizing i cs with
  | nil => simpa using hP
  | cons hab _ ih =>
      rw [List.zipIdx_cons, List.forall₂_cons_left_iff] at hP
      obtain ⟨c, cs, hc, hcs, rfl⟩ := hP
      rw [List.zipIdx_cons]
      exact .cons (hPQ _ _ _ _ hab hc) (ih hcs)

/-- Being well priced does not depend on statuses. -/
theorem Order.WellPriced.of_samePricing {before after : Order} (h : before.WellPriced)
    (hsame : before.SamePricing after) : after.WellPriced := by
  obtain ⟨priced, hbuilt, hsubtotal, hvat, htotal⟩ := h
  refine ⟨priced, forall₂_zipIdx_right ?_ hsame.stops hbuilt,
    hsame.subtotal.trans hsubtotal, hsame.vatAmount.trans hvat,
    hsame.totalAmount.trans htotal⟩
  rintro s t i p ⟨hbreakdown, hinput⟩ ⟨hstored, rules, hrest⟩
  refine ⟨hbreakdown.trans hstored, rules, ?_⟩
  rw [storedInput, hinput]
  exact hrest

/-! ### Pricing again -/

/-- The percentage that a recomputation reads has two places when the stored text was
written by pricing. -/
theorem snapshotVatPct_eq {text : Option String} {vatRate : VatRate} {pct : ℚ}
    (htext : ∀ t ∈ text, ∃ n, t = Decimal.render n)
    (h : snapshotVatPct text vatRate = .ok pct) : ∃ n, pct = pounds n := by
  cases text with
  | none => exact ⟨vatRate.pct, (Except.ok.inj h).symm⟩
  | some t =>
      obtain ⟨n, rfl⟩ := htext t rfl
      rw [snapshotVatPct, if_neg (getD_render_ne_empty n)] at h
      exact ⟨n, (Except.ok.inj ((decimal_text_render n).symm.trans h)).symm⟩

/-- Rewriting the elements of a list one by one does not change what is read of each. -/
theorem map_zipIdx_zipWith {α β γ : Type} {f : α → β → α} {g : α → ℕ → γ}
    (hg : ∀ a b i, g (f a b) i = g a i) {as : List α} {bs : List β}
    (hlen : bs.length = as.length) (i : ℕ) :
    ((List.zipWith f as bs).zipIdx i).map (fun p => g p.1 p.2)
      = (as.zipIdx i).map fun p => g p.1 p.2 := by
  induction as generalizing bs i with
  | nil => rfl
  | cons a as ih =>
      cases bs with
      | nil => exact absurd hlen (Nat.succ_ne_zero _).symm
      | cons b bs =>
          rw [List.zipWith_cons_cons, List.zipIdx_cons, List.zipIdx_cons, List.map_cons,
            List.map_cons, hg, ih (Nat.succ.inj hlen)]

/-- Storing a breakdown changes nothing that pricing reads. -/
theorem pricingInput_storeBreakdown {stop : DeliveryStop} {breakdown : StopBreakdown}
    (hlen : breakdown.packages.length = stop.packages.length) (index : ℕ) (plan : Plan)
    (stored : Option StopBreakdown) :
    (stop.storeBreakdown breakdown).pricingInput index plan stored
      = stop.pricingInput index plan stored := by
  have hpackages : ((stop.storeBreakdown breakdown).packages.zipIdx 1).map
      (fun p => p.1.pricingInput p.2)
        = (stop.packages.zipIdx 1).map fun p => p.1.pricingInput p.2 :=
    map_zipIdx_zipWith
      (f := fun (pkg : Package) entry => { pkg with priceBreakdown := some entry })
      (g := Package.pricingInput) (fun _ _ _ => rfl) hlen 1
  simp only [DeliveryStop.pricingInput]
  rw [hpackages]
  rfl

/-- A stop that was priced again stores what was built from its row. -/
theorem builtFrom_recomputeStop {fallback : VatRate} {s : DeliveryStop × ℕ}
    {input : StopInput} {priced : PricedStop} (hinput : EditInput s input)
    (htext : ∀ bd ∈ s.1.priceBreakdown, ∃ n, bd.vatRatePct = Decimal.render n)
    (h : recomputeStop fallback input = .ok priced) :
    BuiltFrom (s.1.storeBreakdown priced.breakdown, s.2) priced := by
  obtain ⟨breakdown, plan, stored, hbreakdown, hstored, rfl⟩ := hinput
  obtain ⟨plan', prices, discount, minCharge, vatPct, hplan, hprices, hdiscount, hmin,
    hvat⟩ := recomputeStop_ok h
  obtain rfl := Option.some.inj hplan
  have hpct : ∃ n, vatPct = pounds n := by
    refine snapshotVatPct_eq (fun t ht => ?_) hvat
    rcases hstored with rfl | rfl
    · exact absurd ht (Option.not_mem_none t)
    · obtain rfl : breakdown.vatRatePct = t := Option.some.inj ht
      exact htext breakdown hbreakdown
  obtain ⟨n, rfl⟩ := hpct
  have hbuilt := recomputeStop_eq hplan hprices hdiscount hmin hvat
  obtain rfl := Except.ok.inj (h.symm.trans hbuilt)
  set input := s.1.pricingInput s.2 plan stored
  refine ⟨rfl, ⟨plan, prices, discount, money minCharge,
    input.snapshot.minChargeApplied || (figuresOf prices input.packages discount
      (money minCharge) (input.snapshot.vatRate.getD fallback) (pounds n)).minChargeApplied,
    input.snapshot.vatRate.getD fallback, n,
    orElseText plan.plainName (orElseText plan.tierNameAtOrderTime input.serviceTierName)⟩,
    ?_⟩
  rw [storedInput, pricingInput_storeBreakdown]
  · exact ⟨capped_reapplySnapshotDiscounts hdiscount, rfl⟩
  · simp [buildStop, figuresOf, pricedPackages, input, DeliveryStop.pricingInput]

theorem builtFrom_recomputeStops {fallback : VatRate} {priced : List PricedStop}
    (hinputs : List.Forall₂ EditInput (stops.zipIdx i) inputs)
    (htext : ∀ s ∈ stops, ∀ bd ∈ s.priceBreakdown, ∃ n, bd.vatRatePct = Decimal.render n)
    (h : List.Forall₂ (fun input p => recomputeStop fallback input = .ok p) inputs priced) :
    List.Forall₂ BuiltFrom ((List.zipWith DeliveryStop.storeBreakdown stops
      (priced.map (·.breakdown))).zipIdx i) priced := by
  induction stops generalizing inputs priced i with
  | nil =>
      obtain rfl := List.forall₂_nil_left_iff.mp hinputs
      obtain rfl := List.forall₂_nil_left_iff.mp h
      exact .nil
  | cons stop stops ih =>
      rw [List.zipIdx_cons, List.forall₂_cons_left_iff] at hinputs
      obtain ⟨input, inputs, hinput, hinputs, rfl⟩ := hinputs
      obtain ⟨p, priced, hp, hpriced, rfl⟩ := List.forall₂_cons_left_iff.mp h
      have hbuilt := builtFrom_recomputeStop hinput (htext stop List.mem_cons_self) hp
      rw [List.map_cons, List.zipWith_cons_cons, List.zipIdx_cons]
      exact .cons hbuilt (ih hinputs (fun s hs => htext s (List.mem_cons_of_mem _ hs)) hpriced)

/-- The VAT percentage of a built breakdown is a written amount. -/
theorem BuiltFrom.vatRatePct {s : DeliveryStop × ℕ} {priced : PricedStop}
    (h : BuiltFrom s priced) (bd : StopBreakdown) (hbd : bd ∈ s.1.priceBreakdown) :
    ∃ n, bd.vatRatePct = Decimal.render n := by
  obtain ⟨hstored, rules, -, rfl⟩ := h
  obtain rfl := Option.some.inj (hstored.symm.trans hbd)
  exact ⟨_, rfl⟩

/-- What holds of every built stop holds of every stop of a well priced order. -/
theorem forall_of_builtFrom {P : DeliveryStop → Prop} (hP : ∀ s priced, BuiltFrom s priced → P s.1)
    {priced : List PricedStop} (h : List.Forall₂ BuiltFrom (stops.zipIdx i) priced) :
    ∀ stop ∈ stops, P stop := by
  induction stops generalizing i priced with
  | nil => exact fun stop hstop => absurd hstop List.not_mem_nil
  | cons s stops ih =>
      rw [List.zipIdx_cons, List.forall₂_cons_left_iff] at h
      obtain ⟨p, rest, hp, hrest, rfl⟩ := h
      rw [List.forall_mem_cons]
      exact ⟨hP _ _ hp, ih hrest⟩

/-- The texts of VAT percentages are as they were written while an edit is prepared. -/
theorem vatRatePct_of_kept {stops' : List DeliveryStop}
    (hps : List.Forall₂ BuiltFrom (stops.zipIdx i) ps)
    (hkept : List.Forall₂ (fun s t : DeliveryStop => t.priceBreakdown = s.priceBreakdown)
      stops stops') :
    ∀ t ∈ stops', ∀ bd ∈ t.priceBreakdown, ∃ n, bd.vatRatePct = Decimal.render n := by
  have htext : ∀ s ∈ stops, ∀ bd ∈ s.priceBreakdown, ∃ n, bd.vatRatePct = Decimal.render n :=
    forall_of_builtFrom (fun _ _ hs => hs.vatRatePct) hps
  intro t ht bd hbd
  obtain ⟨s, hs, heq⟩ := exists_of_forall₂_right hkept ht
  exact htext s hs bd (heq ▸ hbd)

/-- An order that was priced again is well priced. -/
theorem wellPriced_storePricing {snapshot : OrderSnapshot} {orderUuid : Option Id}
    {orderId : Option String} {pricing : PricingResult} (horder : order.WellPriced)
    (hkept : List.Forall₂ (fun s t : DeliveryStop => t.priceBreakdown = s.priceBreakdown)
      order.stops stops) (hinputs : List.Forall₂ EditInput (stops.zipIdx 1) inputs)
    (h : recomputePriceBreakdownFromSnapshot snapshot inputs orderUuid orderId = .ok pricing) :
    (order.storePricing stops pricing).WellPriced := by
  obtain ⟨priced, hpriced, h⟩ := bind_eq_ok.mp h
  obtain rfl := pure_eq_ok.mp h
  obtain ⟨before, hbefore, -⟩ := horder
  exact ⟨priced, builtFrom_recomputeStops hinputs (vatRatePct_of_kept hbefore hkept)
    (mapEach_eq_ok.mp hpriced), rfl, rfl, rfl⟩

/-! ### New orders -/

/-- The inputs of packages that are being ordered, from an index on. -/
def orderedPackages (pkgs : List PackageCreateItem) (i : ℕ) : List PackageInput :=
  (pkgs.zipIdx i).map fun p => p.1.pricingInput p.2

/-- The inputs of stored packages, from an index on. -/
def storedPackages (pkgs : List Package) (i : ℕ) : List PackageInput :=
  (pkgs.zipIdx i).map fun p => p.1.pricingInput p.2

/-- Stored packages are priced as they were when they were ordered; their entries carry
their identifiers. -/
theorem pricedPackages_newPackages (prices : TierPrices) (pkgs : List PackageCreateItem)
    (seq i : ℕ) :
    let entries := (pricedPackages (orderedPackages pkgs i) prices).1
    let stored := newPackages seq pkgs entries
    stored.length = pkgs.length ∧
      pricedPackages (storedPackages stored i) prices
        = (stored.filterMap (·.priceBreakdown),
          (pricedPackages (orderedPackages pkgs i) prices).2) := by
  induction pkgs generalizing seq i with
  | nil => exact ⟨rfl, rfl⟩
  | cons pkg pkgs ih =>
      obtain ⟨hlen, hpriced⟩ := ih (seq + 1) (i + 1)
      simp only [pricedPackages, orderedPackages, storedPackages, Prod.mk.injEq] at hlen hpriced
      refine ⟨congrArg Nat.succ hlen, ?_⟩
      simp only [pricedPackages, orderedPackages, storedPackages, List.zipIdx_cons,
        List.map_cons, newPackages, List.filterMap_cons, List.sum_cons, Prod.mk.injEq]
      exact ⟨congrArg₂ List.cons rfl hpriced.1, congrArg₂ (· + ·) rfl hpriced.2⟩

/-- A stop that is priced from live data is priced by some rules. -/
theorem computeStop_rules {upper : String → String} {ctx : PricingContext} {today : Day}
    {stop : StopInput} {priced : PricedStop}
    (h : computeStop upper ctx today stop = .ok priced) :
    ∃ rules : PricingRules, Capped (discountBase rules.prices stop.packages) rules.discount ∧
      priced = rules.price stop := by
  obtain ⟨plan, prices, discount, -, -, hdiscount, rfl⟩ := computeStop_eq_ok h
  set minCharge := (ctx.org.minChargePerBooking.map money).getD 0
  set vatRate := ctx.vatRate.getD .standard20
  exact ⟨⟨plan, prices, discount, minCharge, (figuresOf prices stop.packages discount
    minCharge vatRate (pounds vatRate.pct)).minChargeApplied, vatRate, vatRate.pct,
    orElseText (planDisplayName plan) stop.serviceTierName⟩,
    capped_applyDiscounts hdiscount, rfl⟩

/-- Rules give the same amounts on packages that are priced the same. -/
theorem PricingRules.figures_congr {rules : PricingRules} {pkgs pkgs' : List PackageInput}
    (h : (pricedPackages pkgs' rules.prices).2 = (pricedPackages pkgs rules.prices).2) :
    rules.figures pkgs' = { rules.figures pkgs with
      packageEntries := (pricedPackages pkgs' rules.prices).1 } := by
  simp only [PricingRules.figures, figuresOf, h]

/-- A stop of a new order stores what was built from its row, with the amounts it was
priced at. -/
theorem builtFrom_newStop {rules : PricingRules} {item : DeliveryStopCreateItem} {input : StopInput}
    (hindex : input.index = i) (hpackages : input.packages = orderedPackages item.packages 1)
    (hcapped : Capped (discountBase rules.prices input.packages) rules.discount)
    (stopSeq packageSeq : ℕ) :
    ∃ stored : PricedStop, BuiltFrom (newStop stopSeq packageSeq item input
        (rules.price input).breakdown, i) stored ∧
      stored.subtotal = (rules.price input).subtotal ∧
      stored.vatAmount = (rules.price input).vatAmount ∧
      stored.total = (rules.price input).total := by
  obtain ⟨hlen, hpriced⟩ := pricedPackages_newPackages rules.prices item.packages packageSeq 1
  rw [← hpackages] at hlen hpriced
  set row := newStop stopSeq packageSeq item input (rules.price input).breakdown
  have hentries : pricedPackages (storedInput (row, i) rules.plan).packages rules.prices
      = (row.packages.filterMap (·.priceBreakdown),
        (pricedPackages input.packages rules.prices).2) := hpriced
  have hfigures : rules.figures (storedInput (row, i) rules.plan).packages
      = { rules.figures input.packages with
        packageEntries := row.packages.filterMap (·.priceBreakdown) } := by
    have hsum : (pricedPackages (storedInput (row, i) rules.plan).packages rules.prices).2
        = (pricedPackages input.packages rules.prices).2 := by rw [hentries]
    rw [PricingRules.figures_congr hsum, hentries]
  have hcount : (row.packages.filterMap (·.priceBreakdown)).length
      = (rules.figures input.packages).packageEntries.length := by
    have hstored := congrArg (fun x => x.1.length) hentries
    simp only [pricedPackages, storedInput, DeliveryStop.pricingInput, List.length_map,
      List.length_zipIdx] at hstored
    rw [← hstored]
    simp only [PricingRules.figures, figuresOf, pricedPackages, hpackages, orderedPackages,
      List.length_map, List.length_zipIdx]
    exact hlen
  refine ⟨rules.price (storedInput (row, i) rules.plan), ⟨?_, rules, ?_, rfl⟩, ?_, ?_, ?_⟩
  · rw [PricingRules.price, hfigures]
    simp only [buildStop, hcount]
    rw [← hindex]
    rfl
  · rw [discountBase, hentries]
    exact hcapped
  all_goals
    rw [PricingRules.price, hfigures]
    rfl

/-- The input of a stop that is being ordered, once its plan is attached. -/
def AttachedInput (s : DeliveryStopCreateItem × ℕ) (input : StopInput) : Prop :=
  input.index = s.2 ∧ input.packages = orderedPackages s.1.packages 1

theorem attachEffectivePlans_ok {env : OrderEnv} {organizationId : Id}
    {items : List (DeliveryStopCreateItem × ℕ)}
    (h : attachEffectivePlans env organizationId (items.map fun s => s.1.pricingInput s.2)
      = .ok inputs) : List.Forall₂ AttachedInput items inputs := by
  have hrounds := List.forall₂_map_left_iff.mp (mapEach_eq_ok.mp h)
  refine hrounds.imp fun s input hround => ?_
  obtain ⟨tier, -, hround⟩ := bind_eq_ok.mp hround
  obtain rfl := pure_eq_ok.mp hround
  exact ⟨rfl, rfl⟩

theorem builtFrom_newStops {upper : String → String} {ctx : PricingContext} {today : Day}
    {items : List DeliveryStopCreateItem} {priced : List PricedStop}
    (hinputs : List.Forall₂ AttachedInput (items.zipIdx i) inputs)
    (h : List.Forall₂ (fun input p => computeStop upper ctx today input = .ok p) inputs priced)
    (stopSeq packageSeq : ℕ) :
    ∃ stored : List PricedStop, List.Forall₂ BuiltFrom ((newStops stopSeq packageSeq items
        inputs (priced.map (·.breakdown))).zipIdx i) stored ∧
      stored.map (·.subtotal) = priced.map (·.subtotal) ∧
      stored.map (·.vatAmount) = priced.map (·.vatAmount) ∧
      stored.map (·.total) = priced.map (·.total) := by
  induction items generalizing i inputs priced stopSeq packageSeq with
  | nil =>
      obtain rfl := List.forall₂_nil_left_iff.mp hinputs
      obtain rfl := List.forall₂_nil_left_iff.mp h
      exact ⟨[], .nil, rfl, rfl, rfl⟩
  | cons item items ih =>
      rw [List.zipIdx_cons, List.forall₂_cons_left_iff] at hinputs
      obtain ⟨input, inputs, ⟨hindex, hpackages⟩, hinputs, rfl⟩ := hinputs
      obtain ⟨p, priced, hp, hpriced, rfl⟩ := List.forall₂_cons_left_iff.mp h
      obtain ⟨rules, hcapped, rfl⟩ := computeStop_rules hp
      obtain ⟨first, hfirst, hsubtotal, hvat, htotal⟩ :=
        builtFrom_newStop hindex hpackages hcapped stopSeq packageSeq
      obtain ⟨rest, hrest, hsubtotals, hvats, htotals⟩ :=
        ih hinputs hpriced (stopSeq + 1) (packageSeq + item.packages.length)
      refine ⟨first :: rest, .cons hfirst hrest, ?_, ?_, ?_⟩
      · rw [List.map_cons, List.map_cons, hsubtotal, hsubtotals]
      · rw [List.map_cons, List.map_cons, hvat, hvats]
      · rw [List.map_cons, List.map_cons, htotal, htotals]

/-- A new order is well priced. -/
theorem wellPriced_newOrder {env : OrderEnv} {organizationId : Id} {request : OrderCreateRequest}
    {ctx : PricingContext} {today : Day} {pricingStops : List StopInput} {pricing : PricingResult}
    (hattached : attachEffectivePlans env organizationId
      ((request.deliveryStops.zipIdx 1).map fun s => s.1.pricingInput s.2)
        = .ok pricingStops)
    (hpriced : computePriceBreakdown env.upper ctx today pricingStops none none = .ok pricing) :
    (newOrder shop organizationId request pricingStops pricing).WellPriced := by
  obtain ⟨priced, hstops, h⟩ := bind_eq_ok.mp hpriced
  obtain rfl := pure_eq_ok.mp h
  obtain ⟨stored, hstored, hsubtotal, hvat, htotal⟩ := builtFrom_newStops
    (attachEffectivePlans_ok hattached) (mapEach_eq_ok.mp hstops) (shop.stopSeq + 1)
    (shop.packageSeq + 1)
  refine ⟨stored, hstored, ?_, ?_, ?_⟩
  · rw [hsubtotal]
    rfl
  · rw [hvat]
    rfl
  · rw [htotal]
    rfl

/-! ### Every reachable order -/

theorem forall_storeOrder {P : Order → Prop} {after : Order}
    (hafter : ∀ id, P { after with id := id }) (hs : ∀ o ∈ shop.orders.rows, P o) :
    ∀ o ∈ (shop.storeOrder order.id after).orders.rows, P o := by
  intro o ho
  obtain ⟨o₀, ho₀, rfl⟩ := (Table.mem_modify_iff (f := fun o : Order => { after with id := o.id })
    fun _ => rfl).mp ho
  split_ifs
  · exact hafter o₀.id
  · exact hs o₀ ho₀

theorem forall_addOrder {P : Order → Prop} {billing : Db} (hfresh : order.id = shop.orders.fresh)
    (horder : P order) (hs : ∀ o ∈ shop.orders.rows, P o) :
    ∀ o ∈ (shop.addOrder order billing).orders.rows, P o := by
  intro o ho
  rw [Shop.addOrder, Table.rows_insert_of_notMem (hfresh ▸ shop.orders.fresh_notMem)] at ho
  rcases List.mem_append.mp ho with ho | ho
  · exact hs o ho
  · obtain rfl := List.mem_singleton.mp ho
    exact horder

theorem wellPriced_effect {shop' : Shop} (he : OrderEffect shop shop')
    (hs : ∀ o ∈ shop.orders.rows, o.WellPriced) : ∀ o ∈ shop'.orders.rows, o.WellPriced := by
  cases he with
  | created _ _ _ _ _ _ _ _ _ _ _ hattached hpriced =>
      exact forall_addOrder rfl (wellPriced_newOrder hattached hpriced) hs
  | repriced order after stops inputs snapshot pricing hfound hkept hhanded hpriced hsame =>
      have horder := hs order (Table.find?_eq_some_iff.mp hfound).1
      have hafter := (wellPriced_storePricing horder hkept hhanded hpriced).of_samePricing
        hsame
      exact forall_storeOrder (fun _ => hafter) hs
  | restatused order after hfound hsame =>
      have hafter := (hs order (Table.find?_eq_some_iff.mp hfound).1).of_samePricing hsame
      exact forall_storeOrder (fun _ => hafter) hs
  | unchanged => exact hs

theorem wellPriced_step (request : OrderRequest) (hs : ∀ o ∈ shop.orders.rows, o.WellPriced) :
    ∀ o ∈ (request.step shop).orders.rows, o.WellPriced := by
  rcases settle_eq shop (request.exec shop) with h | h
  · exact wellPriced_effect (OrderRequest.exec_effect h) hs
  · rw [OrderRequest.step, h]
    exact hs

/-- **Every order of every reachable shop is well priced.** -/
theorem wellPriced_run (users : TableOf User) (requests : List OrderRequest) :
    ∀ o ∈ (Runs.run OrderRequest.step (Shop.initial users) requests).orders.rows,
      o.WellPriced :=
  Runs.run_invariant (I := fun shop : Shop => ∀ o ∈ shop.orders.rows, o.WellPriced)
    (fun _ request hs => wellPriced_step request hs)
    (fun _ ho => absurd ho List.not_mem_nil) requests

/-! ### Edits that change no weight -/

/-- The stored figures of a stop that an edit must not move. -/
def StopBreakdown.figures (breakdown : StopBreakdown) : List String :=
  [breakdown.subtotal, breakdown.totalDiscount, breakdown.minCharge, breakdown.vatRatePct,
    breakdown.total]

/-- The figures of an order: its own amounts, and those of each of its stops. -/
def Order.figures (order : Order) : (ℤ × ℤ × ℤ) × List (Option (List String)) :=
  ((order.subtotal, order.vatAmount, order.totalAmount),
    order.stops.map fun stop => stop.priceBreakdown.map (·.figures))

/-- The updates leave every declared weight of the stop as it is. -/
def KeepsWeights (order : Order) (stopId : Id) (updates : List PackageUpdateItem) : Prop :=
  ∀ stop ∈ order.stops, stop.id = stopId → ∀ pkg ∈ stop.packages,
    (applyUpdates updates pkg).declaredWeightKg = pkg.declaredWeightKg

/-- The stop was priced by the rules that a recomputation without a breakdown falls back
to. Below zero the cap takes the whole subtotal off with or without a discount. -/
def DeliveryStop.PricedByDefault (stop : DeliveryStop) : Prop :=
  ∀ breakdown ∈ stop.priceBreakdown,
    (breakdown.totalDiscount = "0.00" ∨
      ∃ n < 0, breakdown.preDiscountSubtotal = Decimal.render n) ∧
    breakdown.minCharge = "0.00" ∧ breakdown.vatRatePct = "20.00"

/-- Packages of the same weights cost the same. -/
theorem pricedPackages_of_weights {pkgs pkgs' : List PackageInput} (prices : TierPrices)
    (h : pkgs'.map (·.declaredWeightKg) = pkgs.map (·.declaredWeightKg)) :
    (pricedPackages pkgs' prices).2 = (pricedPackages pkgs prices).2 := by
  have htotals := congrArg (List.map fun w : Option ℚ =>
    prices.perPackage + money (pounds prices.perKg * w.getD 0)) h
  rw [List.map_map, List.map_map] at htotals
  exact congrArg List.sum htotals

theorem figures_price (rules : PricingRules) (stop : StopInput) :
    (rules.price stop).breakdown.figures = [Decimal.render (rules.price stop).subtotal,
      Decimal.render rules.discount.1, Decimal.render rules.minCharge,
      Decimal.render rules.vatPct, Decimal.render (rules.price stop).total] := by
  simp [StopBreakdown.figures, PricingRules.price, buildStop, PricingRules.figures, figuresOf]

section SameRates

variable {rules rules' : PricingRules} {stop stop' : StopInput}
  (hprices : rules'.prices = rules.prices)
  (hsum : (pricedPackages stop'.packages rules.prices).2
    = (pricedPackages stop.packages rules.prices).2)

include hprices hsum

/-- On the same rates and weights, the amounts depend on what is taken off, the minimum
charge and the VAT percentage. -/
theorem price_amounts_congr (hdiscount : rules'.discount.1 = rules.discount.1)
    (hmin : rules'.minCharge = rules.minCharge) (hpct : rules'.vatPct = rules.vatPct) :
    (rules'.price stop').subtotal = (rules.price stop).subtotal ∧
    (rules'.price stop').vatAmount = (rules.price stop).vatAmount ∧
    (rules'.price stop').total = (rules.price stop).total := by
  simp only [PricingRules.price, buildStop, PricingRules.figures, figuresOf, hprices, hsum,
    hdiscount, hmin, hpct, and_self]

theorem price_figures_eq_iff :
    (rules'.price stop').breakdown.figures = (rules.price stop).breakdown.figures ↔
      rules'.discount.1 = rules.discount.1 ∧ rules'.minCharge = rules.minCharge ∧
        rules'.vatPct = rules.vatPct := by
  rw [figures_price, figures_price]
  constructor
  · intro h
    simp only [List.cons.injEq, render_inj] at h
    exact ⟨h.2.1, h.2.2.1, h.2.2.2.1⟩
  · rintro ⟨hdiscount, hmin, hpct⟩
    obtain ⟨hsubtotal, -, htotal⟩ := price_amounts_congr hprices hsum hdiscount hmin hpct
    rw [hsubtotal, hdiscount, hmin, hpct, htotal]

end SameRates

/-- The rules that a recomputation falls back to when it is given no breakdown. -/
def defaultRules (plan : Plan) (prices : TierPrices) (packages : List PackageInput)
    (display : Option String) : PricingRules where
  plan := plan
  prices := prices
  discount := (min (discountBase prices packages) 0, [])
  minCharge := 0
  minChargeApplied := false
  vatRate := .standard20
  vatPct := 2000
  display := display

theorem reapplySnapshotDiscounts_nil (base : ℤ) :
    reapplySnapshotDiscounts base [] = .ok (min base 0, []) := by
  have htotal : (if base < 0 then base else 0) = min base 0 := by
    split_ifs with h
    · exact (min_eq_left h.le).symm
    · exact (min_eq_right (not_lt.mp h)).symm
  rw [← htotal]
  rfl

/-- Without a breakdown, a stop is priced by the default rules on its stored rates. -/
theorem recomputeStop_default (stop : StopInput) (plan : Plan) (prices : TierPrices)
    (hplan : stop.resolvedPlan = some (plan.snapshot prices))
    (hnone : stop.priceBreakdown = none) :
    ∃ display, recomputeStop .standard20 stop
      = .ok ((defaultRules plan prices stop.packages display).price stop) := by
  have hsnapshot : stop.snapshot = ⟨[], none, false, none, none⟩ := by
    rw [StopInput.snapshot, hnone]
  have hdiscount : reapplySnapshotDiscounts (discountBase prices stop.packages)
      stop.snapshot.discounts = .ok (min (discountBase prices stop.packages) 0, []) := by
    rw [hsnapshot]
    exact reapplySnapshotDiscounts_nil _
  have hmin : (Scalar.ofText stop.snapshot.minCharge).decimal = .ok 0 := by
    rw [hsnapshot]
    rfl
  have hvat : snapshotVatPct stop.snapshot.vatRatePct
      (stop.snapshot.vatRate.getD .standard20) = .ok (pounds 2000) := by
    rw [hsnapshot]
    rfl
  have hbuilt := recomputeStop_eq hplan (tierPrices_snapshot plan prices) hdiscount hmin hvat
  have hzero : money 0 = 0 := Decimal.quantize_zero
  refine ⟨orElseText (plan.snapshot prices).plainName
    (orElseText (plan.snapshot prices).tierNameAtOrderTime stop.serviceTierName),
    hbuilt.trans ?_⟩
  rw [hsnapshot, snapshot_snapshot]
  simp only [hzero, figuresOf, lt_irrefl, false_and, decide_false, Bool.or_false]
  rfl

/-- What the default rules mean for the rules a stop was priced by. -/
theorem pricedByDefault_iff {s : DeliveryStop} {rules : PricingRules} {stop : StopInput}
    (hstored : s.priceBreakdown = some (rules.price stop).breakdown)
    (hcapped : Capped (discountBase rules.prices stop.packages) rules.discount) :
    s.PricedByDefault ↔
      min (discountBase rules.prices stop.packages) 0 = rules.discount.1 ∧
        0 = rules.minCharge ∧ 2000 = rules.vatPct := by
  have hzero : Decimal.render 0 = "0.00" := by decide +kernel
  have htwenty : Decimal.render 2000 = "20.00" := by decide +kernel
  have htexts : s.PricedByDefault ↔
      (rules.discount.1 = 0 ∨ discountBase rules.prices stop.packages < 0) ∧
        rules.minCharge = 0 ∧ rules.vatPct = 2000 := by
    simp only [DeliveryStop.PricedByDefault, hstored, Option.mem_some_iff, forall_eq',
      ← hzero, ← htwenty, PricingRules.price, buildStop, PricingRules.figures, figuresOf,
      money_stored, render_inj, exists_eq_right', discountBase]
  obtain ⟨sum, hsum, hdiscount⟩ := hcapped
  rw [htexts, hdiscount]
  omega

theorem map_weight_pricingInput (stop : DeliveryStop) (i : ℕ) (plan : Plan)
    (stored : Option StopBreakdown) :
    (stop.pricingInput i plan stored).packages.map (·.declaredWeightKg)
      = stop.packages.map (·.declaredWeightKg) := by
  rw [DeliveryStop.pricingInput, List.map_map, ← List.zipIdx_map_fst 1 stop.packages,
    List.map_map, List.zipIdx_map_fst]
  rfl

/-- The recomputation without a breakdown keeps the figures of a stop exactly when the stop
was priced by the default rules. -/
theorem recompute_figures_iff {s t : DeliveryStop} {p q : PricedStop} (hp : BuiltFrom (s, i) p)
    (hweights : t.packages.map (·.declaredWeightKg) = s.packages.map (·.declaredWeightKg))
    (hq : recomputeStop .standard20 (t.pricingInput i p.breakdown.pricingPlan none) = .ok q) :
    (q.breakdown.figures = p.breakdown.figures ↔ s.PricedByDefault) ∧
      (s.PricedByDefault → q.subtotal = p.subtotal ∧ q.vatAmount = p.vatAmount ∧
        q.total = p.total) := by
  obtain ⟨hstored, rules, hcapped, rfl⟩ := hp
  set input := t.pricingInput i (rules.plan.snapshot rules.prices) none
  set before := storedInput (s, i) rules.plan
  obtain ⟨display, hdefault⟩ := recomputeStop_default input rules.plan rules.prices rfl rfl
  obtain rfl := Except.ok.inj (hq.symm.trans hdefault)
  have hrates : (defaultRules rules.plan rules.prices input.packages display).prices
      = rules.prices := rfl
  have hpriced : (pricedPackages input.packages rules.prices).2
      = (pricedPackages before.packages rules.prices).2 := by
    refine pricedPackages_of_weights rules.prices ?_
    rw [map_weight_pricingInput, hweights]
    exact (map_weight_pricingInput s i rules.plan none).symm
  have hbase : discountBase rules.prices input.packages
      = discountBase rules.prices before.packages := by
    rw [discountBase, hpriced, discountBase]
  have hdefaults := pricedByDefault_iff hstored hcapped
  rw [← hbase] at hdefaults
  constructor
  · rw [price_figures_eq_iff hrates hpriced, hdefaults]
    rfl
  · intro h
    obtain ⟨hdiscount, hmin, hpct⟩ := hdefaults.mp h
    exact price_amounts_congr hrates hpriced hdiscount hmin hpct

/-- The same for all stops of an order at once. -/
theorem recompute_figures_all_iff {f : DeliveryStop → DeliveryStop} {qs : List PricedStop}
    (hf : ∀ s ∈ stops, (f s).priceBreakdown = s.priceBreakdown ∧
      (f s).packages.map (·.declaredWeightKg) = s.packages.map (·.declaredWeightKg))
    (hp : List.Forall₂ BuiltFrom (stops.zipIdx i) ps)
    (hinputs : List.Forall₂ (fun s input => ∃ breakdown,
      s.1.priceBreakdown = some breakdown ∧
        input = s.1.pricingInput s.2 breakdown.pricingPlan none)
      ((stops.map f).zipIdx i) inputs)
    (hq : List.Forall₂ (fun input q => recomputeStop .standard20 input = .ok q) inputs qs) :
    (qs.map (·.breakdown.figures) = ps.map (·.breakdown.figures) ↔
        ∀ s ∈ stops, s.PricedByDefault) ∧
      ((∀ s ∈ stops, s.PricedByDefault) → qs.map (·.subtotal) = ps.map (·.subtotal) ∧
        qs.map (·.vatAmount) = ps.map (·.vatAmount) ∧
        qs.map (·.total) = ps.map (·.total)) := by
  induction stops generalizing i ps qs inputs with
  | nil =>
      obtain rfl := List.forall₂_nil_left_iff.mp hp
      obtain rfl := List.forall₂_nil_left_iff.mp hinputs
      obtain rfl := List.forall₂_nil_left_iff.mp hq
      simp
  | cons s stops ih =>
      rw [List.zipIdx_cons, List.forall₂_cons_left_iff] at hp
      rw [List.map_cons, List.zipIdx_cons, List.forall₂_cons_left_iff] at hinputs
      obtain ⟨p, ps, hp, hps, rfl⟩ := hp
      obtain ⟨input, inputs, ⟨breakdown, hbreakdown, rfl⟩, hinputs, rfl⟩ := hinputs
      obtain ⟨q, qs, hround, hqs, rfl⟩ := List.forall₂_cons_left_iff.mp hq
      obtain ⟨hkept, hweights⟩ := hf s List.mem_cons_self
      obtain rfl := Option.some.inj (hp.1.symm.trans (hkept.symm.trans hbreakdown))
      obtain ⟨hiff, hamounts⟩ := recompute_figures_iff hp hweights hround
      obtain ⟨hiffs, hamountss⟩ := ih (fun s hs => hf s (List.mem_cons_of_mem _ hs)) hps
        hinputs hqs
      rw [List.forall_mem_cons]
      constructor
      · rw [List.map_cons, List.map_cons, List.cons.injEq, hiff, hiffs]
      · rintro ⟨hs, hrest⟩
        obtain ⟨h₁, h₂, h₃⟩ := hamounts hs
        obtain ⟨h₄, h₅, h₆⟩ := hamountss hrest
        simp only [List.map_cons, h₁, h₂, h₃, h₄, h₅, h₆, and_self]

theorem map_figures_of_builtFrom (h : List.Forall₂ BuiltFrom (stops.zipIdx i) ps) :
    (stops.map fun s => s.priceBreakdown.map (·.figures))
      = (ps.map (·.breakdown.figures)).map some := by
  induction stops generalizing i ps with
  | nil =>
      obtain rfl := List.forall₂_nil_left_iff.mp h
      rfl
  | cons s stops ih =>
      rw [List.zipIdx_cons, List.forall₂_cons_left_iff] at h
      obtain ⟨p, ps, hp, hps, rfl⟩ := h
      rw [List.map_cons, List.map_cons, List.map_cons, ih hps]
      exact congrArg (· :: _) (congrArg (Option.map _) hp.1)

/-- The figures of a well priced order are those of its stops and their sums. -/
theorem figures_of_builtFrom (hbuilt : List.Forall₂ BuiltFrom (order.stops.zipIdx 1) ps)
    (hsubtotal : order.subtotal = (ps.map (·.subtotal)).sum)
    (hvat : order.vatAmount = (ps.map (·.vatAmount)).sum)
    (htotal : order.totalAmount = (ps.map (·.total)).sum) :
    order.figures = (((ps.map (·.subtotal)).sum, (ps.map (·.vatAmount)).sum,
      (ps.map (·.total)).sum), (ps.map (·.breakdown.figures)).map some) := by
  rw [Order.figures, map_figures_of_builtFrom hbuilt, hsubtotal, hvat, htotal]

theorem updatedStop_spec {stopId : Id} {updates : List PackageUpdateItem}
    (hweights : KeepsWeights order stopId updates) {stop : DeliveryStop}
    (hstop : stop ∈ order.stops) :
    (updatedStop stopId updates stop).priceBreakdown = stop.priceBreakdown ∧
      (updatedStop stopId updates stop).packages.map (·.declaredWeightKg)
        = stop.packages.map (·.declaredWeightKg) := by
  unfold updatedStop
  split_ifs with h
  · refine ⟨rfl, ?_⟩
    rw [List.map_map]
    exact List.map_congr_left fun pkg hpkg => hweights stop hstop h pkg hpkg
  · exact ⟨rfl, rfl⟩

/-- **Exactly when an edit without new weights keeps the price.** In every shop that
requests lead to, an accepted `update_stop_packages` call that leaves the declared weights
alone keeps every figure of the order and of its stops if and only if each stop was priced
without a discount, without a minimum charge and at 20 % VAT. -/
theorem figures_kept_iff {users : TableOf User} {requests : List OrderRequest}
    {env : OrderEnv} {shop' : Shop} {orderId stopId : Id}
    {updates : List PackageUpdateItem} {order : Order}
    (hfound : (Runs.run OrderRequest.step (Shop.initial users) requests).orders.find? orderId
      = some order)
    (hweights : KeepsWeights order stopId updates)
    (hok : updateStopPackages env
      (Runs.run OrderRequest.step (Shop.initial users) requests) orderId stopId updates
        = .ok shop') :
    (shop'.orders.find? orderId).map Order.figures = some order.figures ↔
      ∀ stop ∈ order.stops, stop.PricedByDefault := by
  obtain ⟨found, snapshot, inputs, pricing, hfound', -, -, hinputs, hpricing, rfl⟩ :=
    updateStopPackages_ok hok
  obtain rfl := Option.some.inj (hfound.symm.trans hfound')
  have hmem := (Table.find?_eq_some_iff.mp hfound).1
  obtain ⟨ps, hps, hsubtotal, hvat, htotal⟩ := wellPriced_run users requests order hmem
  obtain ⟨qs, hqs, hresult⟩ := bind_eq_ok.mp hpricing
  obtain rfl := pure_eq_ok.mp hresult
  have hqs := mapEach_eq_ok.mp hqs
  set stops := updatedStops order.stops stopId updates with hstops
  obtain ⟨hiff, hamounts⟩ := recompute_figures_all_iff
    (fun s hs => updatedStop_spec hweights hs) hps (packageEditInputs_ok hinputs) hqs
  -- The figures on both sides are those of the priced stops and their sums.
  have hstored := builtFrom_recomputeStops (editInput_packageEdit hinputs)
    (vatRatePct_of_kept hps (priceBreakdown_updatedStops order.stops stopId updates)) hqs
  have hfigures : (order.storePricing stops (orderResult (some order.id)
      (some order.orderId) ((orElseText snapshot.snapshot.currency none).getD "GBP")
      qs)).figures = (((qs.map (·.subtotal)).sum, (qs.map (·.vatAmount)).sum,
        (qs.map (·.total)).sum), (qs.map (·.breakdown.figures)).map some) :=
    figures_of_builtFrom hstored rfl rfl rfl
  rw [Shop.storeOrder, Table.find?_modify_self, hfound, Option.map_some, Option.map_some,
    Option.some.injEq]
  refine Iff.trans (Eq.congr hfigures (figures_of_builtFrom hps hsubtotal hvat htotal)) ?_
  rw [Prod.mk.injEq]
  constructor
  · rintro ⟨-, h⟩
    exact hiff.mp (List.map_injective_iff.mpr (Option.some_injective _) h)
  · intro h
    obtain ⟨h₁, h₂, h₃⟩ := hamounts h
    exact ⟨by rw [h₁, h₂, h₃], by rw [hiff.mpr h]⟩

/-! ### An order with a discount and one without -/

/-- A tier of ten pounds a stop, one pound fifty a package and fifty pence a kilogram. -/
def nextDayTier : EffectiveTier where
  id := some "tier-1"
  globalTierId := some "global-1"
  tierName := some "Next Day"
  plainType := none
  durationDays := some 1
  basePrice := .num 10
  pricePerPackage := .num (3 / 2)
  pricePerKg := .num (1 / 2)
  scopeType := none
  sourceScopeType := none
  scopeOrgId := none
  availableFor := none
  color := none
  icon := none
  description := none
  errorMarginKg := none
  isDefault := none
  isOverride := none

/-- An organisation that pays by bank transfer, at the standard VAT rate and without a
minimum charge. -/
def transferEnv (discounts : List OrgDiscountConfig) : OrderEnv where
  upper := id
  organization := fun _ => some ⟨[], none, none, none, none, none⟩
  paymentConfig := fun _ => some (some .standard20)
  discounts := fun _ => discounts
  resolveEffectiveTier := fun _ _ _ => .ok nextDayTier
  paymentMethods := [⟨1, 1, .bankTransfer, .daysAfterOrder 30⟩]
  nextFixedMonthlyDueDate := fun day _ => day
  assertUsableForOrder := .ok ()
  verifyCreditCard := .ok ()
  assertCanConsume := fun _ => .ok ()
  consumeCredit := fun _ _ => .ok ()
  chargeSavedCard := fun _ _ => .ok ⟨"tx", 0⟩

/-- Ten per cent off the tier. -/
def tenPercentOff : OrgDiscountConfig where
  discountType := .percentage
  isEnabled := true
  serviceTierId := some "global-1"
  value := some 10
  volumeTiers := []
  validFrom := none
  validUntil := none

/-- One stop with a package of two kilograms. -/
def onePackageRequest : OrderCreateRequest where
  clientType := .b2b
  organizationId := some 1
  contactUserId := 7
  paymentMethod := .bankTransfer
  paymentMethodId := 1
  creditCardId := none
  paymentMethodNonce := none
  deliveryStops := [⟨some "Next Day", none, [⟨30, 20, 10, 2, 100⟩]⟩]

/-- The shop in which that order was placed. -/
def placedShop (discounts : List OrgDiscountConfig) : Shop :=
  Runs.run OrderRequest.step (Shop.initial .empty)
    [⟨transferEnv discounts, 0, .createOrder onePackageRequest⟩]

/-- The package turns out to be longer, and weighs what it weighed. -/
def longerPackage : List PackageUpdateItem :=
  [⟨1, some 35, none, none, none, none⟩]

instance (order : Order) (stopId : Id) (updates : List PackageUpdateItem) :
    Decidable (KeepsWeights order stopId updates) :=
  inferInstanceAs (Decidable (∀ _ ∈ _, _ → ∀ _ ∈ _, _ = _))

/-- The order with ten per cent off costs 13.50; once the length of its package is
corrected it costs 15.00. -/
theorem discount_lost_on_edit : ∃ order shop',
    (placedShop [tenPercentOff]).orders.find? 1 = some order ∧
    order.status = .pendingPickup ∧ KeepsWeights order 1 longerPackage ∧
    updateStopPackages (transferEnv [tenPercentOff]) (placedShop [tenPercentOff]) 1 1
      longerPackage = .ok shop' ∧
    order.totalAmount = 1350 ∧ (shop'.orders.find? 1).map (·.totalAmount) = some 1500 ∧
    (shop'.orders.find? 1).map Order.figures ≠ some order.figures := by
  have hfound : ((placedShop [tenPercentOff]).orders.find? 1).any (fun o =>
      o.status = .pendingPickup ∧ KeepsWeights o 1 longerPackage ∧ o.totalAmount = 1350)
        = true := by decide +kernel
  have hok : (updateStopPackages (transferEnv [tenPercentOff]) (placedShop [tenPercentOff])
      1 1 longerPackage).map (fun s => (s.orders.find? 1).map (·.totalAmount))
        = .ok (some 1500) := by decide +kernel
  obtain ⟨order, horder, hfacts⟩ := (Option.any_eq_true _ _).mp hfound
  obtain ⟨hstatus, hweights, htotal⟩ := of_decide_eq_true hfacts
  obtain ⟨shop', hshop', hafter⟩ := map_eq_ok.mp hok
  refine ⟨order, shop', horder, hstatus, hweights, hshop', htotal, hafter, fun h => ?_⟩
  -- The figures include the total.
  have htotals := congrArg (Option.map fun f => f.1.2.2) h
  rw [Option.map_map] at htotals
  exact absurd (hafter.symm.trans htotals) (by simp [Order.figures, htotal])

/-- Without the discount, correcting the length leaves the price at 15.00. -/
theorem figures_kept_without_discount : ∃ order shop',
    (placedShop []).orders.find? 1 = some order ∧
    updateStopPackages (transferEnv []) (placedShop []) 1 1 longerPackage = .ok shop' ∧
    order.totalAmount = 1500 ∧
    (shop'.orders.find? 1).map Order.figures = some order.figures := by
  have hfound : ((placedShop []).orders.find? 1).any (fun o =>
      KeepsWeights o 1 longerPackage ∧ o.totalAmount = 1500 ∧ ∀ stop ∈ o.stops,
        stop.priceBreakdown.all fun bd => bd.totalDiscount = "0.00" ∧ bd.minCharge = "0.00" ∧
          bd.vatRatePct = "20.00") = true := by decide +kernel
  obtain ⟨order, horder, hfacts⟩ := (Option.any_eq_true _ _).mp hfound
  obtain ⟨hweights, htotal, hstops⟩ := of_decide_eq_true hfacts
  obtain ⟨shop', hshop'⟩ := exists_eq_ok
    (x := updateStopPackages (transferEnv []) (placedShop []) 1 1 longerPackage)
    (by decide +kernel)
  refine ⟨order, shop', horder, hshop', htotal,
    (figures_kept_iff horder hweights hshop').mpr fun stop hstop bd hbd => ?_⟩
  have hrules := hstops stop hstop
  rw [Option.mem_def.mp hbd] at hrules
  obtain ⟨hdiscount, hmin, hpct⟩ := of_decide_eq_true hrules
  exact ⟨.inl hdiscount, hmin, hpct⟩

end SwCouriers
