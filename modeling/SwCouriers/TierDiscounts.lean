import SwCouriers.OrderRepricing

/-!
# Discounts and the Tier of a Stop

A discount is agreed for a service tier. Pricing from live data takes only the discounts of
the stop's tier; the recomputation from snapshots takes whatever is stored on the stop, with
no look at the tier. A change of tier uses the second path with the plan of the new tier, and
so carries the discounts of the old tier over.

## Main results

* `discountsMatch_computeStop`: pricing from live data takes the discounts of the tier.
* `discountsMatch_recomputeStop`: recomputing takes them if the stored ones that still take
  something off are of the tier.
* `discounts_follow_tier`: along every run in which no stop is moved to another tier while
  one of its discounts lives on, every stored discount is of the stop's tier.
-/

namespace SwCouriers

open Checked

/-- Every discount of the breakdown is one of its tier. -/
def StopBreakdown.DiscountsMatch (bd : StopBreakdown) : Prop :=
  ∀ d ∈ bd.discounts, d.serviceTierId = bd.pricingPlan.idPriceTier

/-- The discounts on every stop of the order are of the stop's tier. -/
def Order.DiscountsMatch (order : Order) : Prop :=
  ∀ stop ∈ order.stops, ∀ bd ∈ stop.priceBreakdown, bd.DiscountsMatch

/-- The discounts of every order are. -/
def Shop.DiscountsMatch (shop : Shop) : Prop :=
  ∀ order ∈ shop.orders.rows, order.DiscountsMatch

/-! ### The two pricing paths -/

variable {x : ℤ × DiscountEntry} {plan : Plan}

theorem percentageEntry_tier {type : DiscountType} {tierId : Option String} {orderCount : Option ℕ}
    {base : ℤ} {pct : ℚ} (h : percentageEntry type tierId orderCount base pct = some x) :
    x.2.serviceTierId = tierId := by
  simp only [percentageEntry] at h
  split_ifs at h
  obtain rfl := Option.some.inj h
  rfl

theorem fixedEntry_tier {tierId : Option String} {amount : ℤ} {value : ℚ}
    (h : fixedEntry tierId amount value = some x) : x.2.serviceTierId = tierId := by
  simp only [fixedEntry] at h
  split_ifs at h
  obtain rfl := Option.some.inj h
  rfl

/-- A live discount on a stop with a tier is one of that tier. -/
theorem applyDiscount_tier {base : ℤ} {tierId : String} (htier : tierId ≠ "") {orderCount : ℕ}
    {today : Day} {d : OrgDiscountConfig}
    (h : applyDiscount base (some tierId) orderCount today d = .ok (some x)) :
    x.2.serviceTierId = some tierId := by
  unfold applyDiscount at h
  split at h
  · exact absurd (Except.ok.inj h) nofun
  split at h
  · exact absurd (Except.ok.inj h) nofun
  next hmatch =>
  -- The test has let the discount pass, so it has the tier of the stop.
  have hsame : d.serviceTierId.getD "" = tierId := by
    have hpass : some (d.serviceTierId.getD "") = some tierId := by
      by_contra hne
      exact hmatch ⟨nofun, hne⟩
    exact Option.some.inj hpass
  have hconfig : d.serviceTierId = some tierId := by
    cases hid : d.serviceTierId with
    | none =>
        rw [hid] at hsame
        exact absurd hsame.symm htier
    | some id =>
        rw [hid] at hsame
        exact congrArg some hsame
  rw [← hconfig]
  split at h
  · exact fixedEntry_tier (Except.ok.inj h)
  · exact percentageEntry_tier (Except.ok.inj h)
  · obtain ⟨pct, -, h⟩ := bind_eq_ok.mp h
    exact percentageEntry_tier (Except.ok.inj h)

/-- A stored discount keeps its tier. -/
theorem reapplyDiscount_tier {base : ℤ} {d : DiscountEntry}
    (h : reapplyDiscount base d = .ok (some x)) : x.2.serviceTierId = d.serviceTierId := by
  obtain ⟨value, -, h⟩ := bind_eq_ok.mp h
  split at h
  · obtain ⟨amount, -, h⟩ := bind_eq_ok.mp h
    exact fixedEntry_tier (Except.ok.inj h)
  · exact percentageEntry_tier (Except.ok.inj h)
  · exact percentageEntry_tier (Except.ok.inj h)

/-- **Pricing from live data** takes the discounts of the stop's tier. -/
theorem discountsMatch_computeStop {upper : String → String} {ctx : PricingContext} {today : Day}
    {stop : StopInput} {priced : PricedStop} {tierId : String}
    (hplan : stop.resolvedPlan = some plan) (htier : plan.idPriceTier = some tierId)
    (hne : tierId ≠ "") (h : computeStop upper ctx today stop = .ok priced) :
    priced.breakdown.DiscountsMatch := by
  obtain ⟨plan', prices, discount, hplan', -, hdiscount, rfl⟩ := computeStop_eq_ok h
  obtain rfl : plan = plan' := by
    rw [resolvePlanForStop, hplan] at hplan'
    exact Except.ok.inj hplan'
  have hstop : orElseText plan.idPriceTier none = some tierId := by
    rw [htier]
    exact if_neg hne
  rw [hstop] at hdiscount
  obtain ⟨rounds, hrounds, hdiscount⟩ := bind_eq_ok.mp hdiscount
  obtain rfl := pure_eq_ok.mp hdiscount
  intro d hd
  obtain ⟨x, hx, rfl⟩ := List.mem_map.mp hd
  obtain ⟨config, -, hround⟩ := exists_of_mem_mapEach hrounds (List.reduceOption_mem_iff.mp hx)
  exact (applyDiscount_tier hne hround).trans htier.symm

/-- None of the stored discounts takes anything off at the prices of a plan. -/
def DiscountsEnd (plan : Plan) (packages : List PackageInput) (stored : List DiscountEntry) :
    Prop :=
  ∀ prices, tierPrices plan = .ok prices → ∀ d ∈ stored, ∀ x,
    reapplyDiscount (discountBase prices packages) d ≠ .ok (some x)

/-- **Recomputing** takes the stored discounts, whatever their tier. -/
theorem discountsMatch_recomputeStop {fallback : VatRate} {stop : StopInput} {priced : PricedStop}
    (hplan : stop.resolvedPlan = some plan)
    (htier : (∀ d ∈ stop.snapshot.discounts, d.serviceTierId = plan.idPriceTier) ∨
      DiscountsEnd plan stop.packages stop.snapshot.discounts)
    (h : recomputeStop fallback stop = .ok priced) : priced.breakdown.DiscountsMatch := by
  obtain ⟨plan', prices, discount, minCharge, vatPct, hplan', hprices, hdiscount, hmin, hvat⟩ :=
    recomputeStop_ok h
  obtain rfl := Option.some.inj (hplan'.symm.trans hplan)
  have hpriced := Except.ok.inj
    ((recomputeStop_eq hplan' hprices hdiscount hmin hvat).symm.trans h)
  obtain ⟨rounds, hrounds, hdiscount⟩ := bind_eq_ok.mp hdiscount
  obtain rfl := pure_eq_ok.mp hdiscount
  rw [← hpriced]
  intro e he
  obtain ⟨x, hx, rfl⟩ := List.mem_map.mp he
  obtain ⟨d, hd, hround⟩ := exists_of_mem_mapEach hrounds (List.reduceOption_mem_iff.mp hx)
  rcases htier with hmatch | hend
  · exact (reapplyDiscount_tier hround).trans (hmatch d hd)
  · exact absurd hround (hend prices hprices d hd x)

/-! ### Orders -/

/-- The effective tiers have keys: each is a row with a primary key. -/
def OrderEnv.TiersKeyed (env : OrderEnv) : Prop :=
  ∀ organizationId tierId tierName tier,
    env.resolveEffectiveTier organizationId tierId tierName = .ok tier → tier.id.getD "" ≠ ""

/-- The plan of a tier with a key has one. -/
theorem idPriceTier_effectiveTierToPlan {tier : EffectiveTier} (h : tier.id.getD "" ≠ "") :
    ∃ tierId, tierId ≠ "" ∧ (effectiveTierToPlan tier).idPriceTier = some tierId := by
  have hkeyed : ∀ {id : Option String}, id.getD "" ≠ "" →
      ∃ tierId, tierId ≠ "" ∧ orElseText id none = some tierId := by
    intro id hid
    cases id with
    | none => exact absurd rfl hid
    | some tierId => exact ⟨tierId, hid, if_neg hid⟩
  refine hkeyed ?_
  unfold orElseText
  split_ifs with hglobal
  · exact h
  · exact hglobal

section Orders

variable {order : Order} {stops : List DeliveryStop} {priced : List PricedStop}

/-- A stop that was priced again has the breakdown it was given. -/
theorem discountsMatch_storePricing {orderUuid : Option Id} {orderId : Option String}
    {currency : String} (h : ∀ p ∈ priced, p.breakdown.DiscountsMatch) :
    (order.storePricing stops (orderResult orderUuid orderId currency priced)).DiscountsMatch := by
  intro stop hstop bd hbd
  have hstop : stop ∈ List.zipWith DeliveryStop.storeBreakdown stops
      (priced.map (·.breakdown)) := hstop
  rw [← List.map_uncurry_zip_eq_zipWith] at hstop
  obtain ⟨⟨s, breakdown⟩, hmem, rfl⟩ := List.mem_map.mp hstop
  obtain ⟨p, hp, rfl⟩ := List.mem_map.mp (List.of_mem_zip hmem).2
  obtain rfl := Option.some.inj hbd
  exact h p hp

theorem Order.DiscountsMatch.of_samePricing {before after : Order} (h : before.DiscountsMatch)
    (hsame : before.SamePricing after) : after.DiscountsMatch := by
  intro stop hstop bd hbd
  obtain ⟨s, hs, heq, -⟩ := exists_of_forall₂_right hsame.stops hstop
  exact h s hs bd (heq ▸ hbd)

/-- The rows of a new order hold the breakdowns of its pricing. -/
theorem discountsMatch_newStops (h : ∀ p ∈ priced, p.breakdown.DiscountsMatch)
    (stopSeq packageSeq : ℕ) (items : List DeliveryStopCreateItem) (inputs : List StopInput) :
    ∀ stop ∈ newStops stopSeq packageSeq items inputs (priced.map (·.breakdown)),
      ∀ bd ∈ stop.priceBreakdown, bd.DiscountsMatch := by
  induction priced generalizing stopSeq packageSeq items inputs with
  | nil =>
      intro stop hstop
      cases items <;> cases inputs <;> exact absurd hstop List.not_mem_nil
  | cons p priced ih =>
      intro stop hstop bd hbd
      cases items with
      | nil => exact absurd hstop List.not_mem_nil
      | cons item items =>
          cases inputs with
          | nil => exact absurd hstop List.not_mem_nil
          | cons input inputs =>
              obtain ⟨hp, hrest⟩ := List.forall_mem_cons.mp h
              rcases List.mem_cons.mp hstop with rfl | hstop
              · obtain rfl := Option.some.inj hbd
                exact hp
              · exact ih hrest _ _ _ _ stop hstop bd hbd

theorem discountsMatch_newOrder {env : OrderEnv} (hkeyed : env.TiersKeyed) {shop : Shop}
    {organizationId : Id} {request : OrderCreateRequest} {ctx : PricingContext} {today : Day}
    {items pricingStops : List StopInput} {pricing : PricingResult}
    (hattached : attachEffectivePlans env organizationId items = .ok pricingStops)
    (hpriced : computePriceBreakdown env.upper ctx today pricingStops none none = .ok pricing) :
    (newOrder shop organizationId request pricingStops pricing).DiscountsMatch := by
  obtain ⟨priced, hstops, h⟩ := bind_eq_ok.mp hpriced
  obtain rfl := pure_eq_ok.mp h
  refine discountsMatch_newStops (fun p hp => ?_) _ _ _ _
  obtain ⟨input, hinput, hcompute⟩ := exists_of_mem_mapEach hstops hp
  obtain ⟨item, -, hround⟩ := exists_of_mem_mapEach hattached hinput
  obtain ⟨tier, htier, hround⟩ := bind_eq_ok.mp hround
  obtain rfl := pure_eq_ok.mp hround
  obtain ⟨tierId, hne, hid⟩ := idPriceTier_effectiveTierToPlan (hkeyed _ _ _ _ htier)
  exact discountsMatch_computeStop rfl hid hne hcompute

/-- An edit of packages hands over no discounts. -/
theorem discountsMatch_packageEdit {inputs : List StopInput} {snapshot : OrderSnapshot}
    {orderUuid : Option Id} {orderId : Option String} {pricing : PricingResult}
    (hinputs : packageEditInputs stops = .ok inputs)
    (h : recomputePriceBreakdownFromSnapshot snapshot inputs orderUuid orderId = .ok pricing) :
    (order.storePricing stops pricing).DiscountsMatch := by
  obtain ⟨priced, hpriced, h⟩ := bind_eq_ok.mp h
  obtain rfl := pure_eq_ok.mp h
  refine discountsMatch_storePricing fun p hp => ?_
  obtain ⟨input, hinput, hrecompute⟩ := exists_of_mem_mapEach hpriced hp
  obtain ⟨s, -, bd, -, rfl⟩ := exists_of_forall₂_right (packageEditInputs_ok hinputs) hinput
  exact discountsMatch_recomputeStop rfl (.inl fun d hd => absurd hd List.not_mem_nil) hrecompute

/-- The stop is on the tier of the plan already, or none of its stored discounts takes anything
off at the prices of the plan. -/
def DeliveryStop.KeepsTier (stop : DeliveryStop) (plan : Plan) : Prop :=
  ∀ bd ∈ stop.priceBreakdown, bd.pricingPlan.idPriceTier = plan.idPriceTier ∨
    DiscountsEnd plan (stop.pricingInput 0 plan (some bd)).packages bd.discounts

/-- A stop that is priced by a plan from its stored breakdown. -/
theorem discountsMatch_pricingInput {stop : DeliveryStop} {index : ℕ} {bd : StopBreakdown}
    {fallback : VatRate} {p : PricedStop} (hmatch : bd.DiscountsMatch)
    (hstored : stop.priceBreakdown = some bd) (hkeeps : stop.KeepsTier plan)
    (h : recomputeStop fallback (stop.pricingInput index plan (some bd)) = .ok p) :
    p.breakdown.DiscountsMatch := by
  have hplan : (stop.pricingInput index plan (some bd)).resolvedPlan = some plan := rfl
  refine discountsMatch_recomputeStop hplan ?_ h
  rcases hkeeps bd hstored with hsame | hend
  · exact .inl fun d hd => (hmatch d hd).trans hsame
  · exact .inr hend

theorem DeliveryStop.keepsTier_self {stop : DeliveryStop} {bd : StopBreakdown}
    (h : stop.priceBreakdown = some bd) : stop.KeepsTier bd.pricingPlan := by
  intro bd' hbd'
  obtain rfl := Option.some.inj (h.symm.trans hbd')
  exact .inl rfl

/-- What a change of tier leaves on the stop. -/
theorem DeliveryStop.keepsTier_congr {stop stop' : DeliveryStop}
    (hbd : stop'.priceBreakdown = stop.priceBreakdown) (hpkgs : stop'.packages = stop.packages)
    (h : stop.KeepsTier plan) : stop'.KeepsTier plan := by
  intro bd hmem
  rw [hbd] at hmem
  refine (h bd hmem).imp_right fun hend => ?_
  rw [DeliveryStop.pricingInput, hpkgs]
  exact hend

/-- A change of tier that carries no discount over. -/
theorem discountsMatch_tierEdit {stopId : Id} {newTier : EffectiveTier}
    {inputs : List StopInput} {snapshot : OrderSnapshot} {orderUuid : Option Id}
    {orderId : Option String} {pricing : PricingResult} (horder : order.DiscountsMatch)
    (hkeeps : ∀ stop ∈ order.stops, stop.id = stopId →
      stop.KeepsTier (effectiveTierToPlan newTier))
    (hinputs : tierEditInputs (retieredStops order.stops stopId newTier) stopId
      (effectiveTierToPlan newTier) = .ok inputs)
    (h : recomputePriceBreakdownFromSnapshot snapshot inputs orderUuid orderId = .ok pricing) :
    (order.storePricing (retieredStops order.stops stopId newTier) pricing).DiscountsMatch := by
  obtain ⟨priced, hpriced, h⟩ := bind_eq_ok.mp h
  obtain rfl := pure_eq_ok.mp h
  refine discountsMatch_storePricing fun p hp => ?_
  obtain ⟨input, hinput, hrecompute⟩ := exists_of_mem_mapEach hpriced hp
  obtain ⟨⟨t, i⟩, ht, hround⟩ := exists_of_mem_mapEach hinputs hinput
  obtain ⟨bd, hstored, hround⟩ := orRaise_bind_eq_ok.mp hround
  obtain rfl := pure_eq_ok.mp hround
  obtain ⟨s, hs, rfl⟩ := List.mem_map.mp (List.fst_mem_of_mem_zipIdx ht)
  by_cases hid : s.id = stopId
  · -- The stop that changes its tier is priced by the new plan.
    rw [if_pos hid] at hstored hrecompute
    have hkept : ({ s with serviceTierId := newTier.id, serviceTier := newTier.tierName } :
        DeliveryStop).KeepsTier (effectiveTierToPlan newTier) :=
      DeliveryStop.keepsTier_congr rfl rfl (hkeeps s hs hid)
    rw [if_pos (show DeliveryStop.id _ = stopId from hid)] at hrecompute
    exact discountsMatch_pricingInput (horder s hs bd hstored) hstored hkept hrecompute
  · rw [if_neg hid] at hstored hrecompute
    rw [if_neg hid] at hrecompute
    exact discountsMatch_pricingInput (horder s hs bd hstored) hstored
      (DeliveryStop.keepsTier_self hstored) hrecompute

end Orders

/-! ### Runs -/

/-- The request moves no stop of a pending order to another tier while one of its discounts
lives on. -/
def OrderRequest.KeepsTiers (shop : Shop) (request : OrderRequest) : Prop :=
  match request.op with
  | .updateStopServiceTier orderId stopId tierId => ∀ order newTier,
      shop.orders.find? orderId = some order → order.status = .pendingPickup →
      request.env.resolveEffectiveTier order.organizationId (some tierId) none = .ok newTier →
      ∀ stop ∈ order.stops, stop.id = stopId → stop.KeepsTier (effectiveTierToPlan newTier)
  | _ => True

theorem Restatused.discountsMatch {shop shop' : Shop} (h : Restatused shop shop')
    (hs : shop.DiscountsMatch) : shop'.DiscountsMatch := by
  rcases h with rfl | ⟨order, after, hfound, hsame, rfl⟩
  · exact hs
  · have hafter := (hs order (Table.find?_eq_some_iff.mp hfound).1).of_samePricing hsame
    exact forall_storeOrder (fun _ => hafter) hs

/-- **One request.** -/
theorem discountsMatch_exec {shop shop' : Shop} {request : OrderRequest}
    (hkeyed : request.env.TiersKeyed) (hkeeps : request.KeepsTiers shop)
    (hs : shop.DiscountsMatch) (h : request.exec shop = .ok shop') : shop'.DiscountsMatch := by
  obtain ⟨env, today, op⟩ := request
  cases op with
  | createOrder r =>
      obtain ⟨organizationId, ctx, pricingStops, pricing, dueDate, billing₁, invoiceId,
        billing₂, hstops, hpricing, -, -, rfl⟩ := createOrder_ok h
      exact forall_addOrder rfl (discountsMatch_newOrder hkeyed hstops hpricing) hs
  | updateStopPackages orderId stopId updates =>
      obtain ⟨order, snapshot, inputs, pricing, hfound, -, -, hinputs, hpricing, rfl⟩ :=
        updateStopPackages_ok h
      obtain ⟨-, rfl⟩ := Table.find?_eq_some_iff.mp hfound
      have hafter : (order.storePricing (updatedStops order.stops stopId updates)
          pricing).DiscountsMatch := discountsMatch_packageEdit hinputs hpricing
      exact forall_storeOrder (fun _ => hafter) hs
  | updateStopServiceTier orderId stopId tierId =>
      obtain ⟨order, snapshot, newTier, inputs, pricing, hfound, hstatus, -, htier, hinputs,
        hpricing, rfl⟩ := updateStopServiceTier_ok h
      have hstops := hkeeps order newTier hfound hstatus htier
      obtain ⟨horder, rfl⟩ := Table.find?_eq_some_iff.mp hfound
      have hafter := discountsMatch_tierEdit (hs order horder) hstops hinputs hpricing
      exact forall_storeOrder (fun _ => hafter) hs
  | cancelOrder orderId user org => exact (cancelOrder_restatused h).discountsMatch hs
  | cancelDeliveryStop orderId stopId user org =>
      exact (cancelDeliveryStop_restatused h).discountsMatch hs

/-- **Discounts follow the tier.** After every sequence of requests in which no stop is moved
to another tier while one of its stored discounts still takes something off, every discount
stored on a stop is one of the tier that the stop is priced by. -/
theorem discounts_follow_tier (users : TableOf User) (requests : List OrderRequest)
    (hkeyed : ∀ request ∈ requests, request.env.TiersKeyed)
    (hkeeps : Runs.Along OrderRequest.step (fun shop request => request.KeepsTiers shop)
      (Shop.initial users) requests) :
    (Runs.run OrderRequest.step (Shop.initial users) requests).DiscountsMatch := by
  have hboth : Runs.Along OrderRequest.step
      (fun shop request => request.env.TiersKeyed ∧ request.KeepsTiers shop)
      (Shop.initial users) requests := by
    refine Runs.along_iff.mpr fun pre request post heq => ?_
    refine ⟨hkeyed request ?_, Runs.along_iff.mp hkeeps pre request post heq⟩
    rw [heq]
    exact List.mem_append_right _ List.mem_cons_self
  refine Runs.run_invariant_of_along (I := Shop.DiscountsMatch) ?_ ?_ hboth
  · rintro shop request hs ⟨hkeyed, hkeeps⟩
    unfold OrderRequest.step
    cases hexec : request.exec shop with
    | ok shop' => exact discountsMatch_exec hkeyed hkeeps hs hexec
    | error e => exact hs
  · exact fun order horder => absurd horder List.not_mem_nil

/-! ### A stop that is moved to a dearer tier -/

/-- A tier of twenty pounds a stop. -/
def sameDayTier : EffectiveTier :=
  { nextDayTier with
    id := some "tier-2"
    globalTierId := some "global-2"
    tierName := some "Same Day"
    basePrice := .num 20 }

/-- The organisation of `transferEnv`, with a choice of two tiers. -/
def twoTierEnv (discounts : List OrgDiscountConfig) : OrderEnv :=
  { transferEnv discounts with
    resolveEffectiveTier := fun _ tierId _ =>
      .ok (if tierId = some "tier-2" then sameDayTier else nextDayTier) }

/-- An order on the cheaper tier, whose stop is then moved to the dearer one. -/
def movedToSameDay (discounts : List OrgDiscountConfig) : List OrderRequest :=
  [⟨twoTierEnv discounts, 0, .createOrder onePackageRequest⟩,
    ⟨twoTierEnv discounts, 0, .updateStopServiceTier 1 1 "tier-2"⟩]

/-- The ten per cent agreed for the cheaper tier are taken off the price of the dearer one. -/
theorem old_discount_carried_over :
    ¬ (Runs.run OrderRequest.step (Shop.initial .empty)
      (movedToSameDay [tenPercentOff])).DiscountsMatch := by
  have hrun : (Runs.run OrderRequest.step (Shop.initial .empty)
      (movedToSameDay [tenPercentOff])).orders.rows.any (fun order =>
        order.stops.any fun stop => stop.priceBreakdown.any fun bd =>
          bd.discounts.any fun d => d.serviceTierId = some "global-1" ∧
            bd.pricingPlan.idPriceTier = some "global-2") = true := by decide +kernel
  obtain ⟨order, horder, hrun⟩ := List.any_eq_true.mp hrun
  obtain ⟨stop, hstop, hrun⟩ := List.any_eq_true.mp hrun
  obtain ⟨bd, hbd, hrun⟩ := (Option.any_eq_true _ _).mp hrun
  obtain ⟨d, hd, hrun⟩ := List.any_eq_true.mp hrun
  obtain ⟨hold, hnew⟩ := of_decide_eq_true hrun
  intro hmatch
  have htier := hmatch order horder stop hstop bd hbd d hd
  rw [hold, hnew] at htier
  exact absurd htier (by decide)

theorem tiersKeyed_twoTierEnv (discounts : List OrgDiscountConfig) :
    (twoTierEnv discounts).TiersKeyed := by
  intro organizationId tierId tierName tier h
  obtain rfl := Except.ok.inj h
  split_ifs <;> decide

/-- The order with ten per cent off, whose stop is then put on the tier it is on. -/
def renewedTier : List OrderRequest :=
  [⟨twoTierEnv [tenPercentOff], 0, .createOrder onePackageRequest⟩,
    ⟨twoTierEnv [tenPercentOff], 0, .updateStopServiceTier 1 1 "tier-1"⟩]

/-- Its discount is kept, and is one of the tier. -/
theorem discount_kept_on_tier :
    (Runs.run OrderRequest.step (Shop.initial .empty) renewedTier).DiscountsMatch ∧
      ((Runs.run OrderRequest.step (Shop.initial .empty) renewedTier).orders.find? 1).map
        (·.totalAmount) = some 1350 := by
  refine ⟨discounts_follow_tier .empty renewedTier (fun request hrequest => ?_)
    ⟨trivial, ?_, trivial⟩, by decide +kernel⟩
  · have henv : request.env = twoTierEnv [tenPercentOff] := by
      rcases List.mem_pair.mp hrequest with rfl | rfl <;> rfl
    rw [henv]
    exact tiersKeyed_twoTierEnv _
  · intro order newTier hfound _ htier stop hstop _ bd hbd
    obtain rfl := Except.ok.inj htier
    -- The plan on the stop is the one of the tier that it is put on again.
    have hplans : ∀ o ∈ (OrderRequest.step (Shop.initial .empty)
        ⟨twoTierEnv [tenPercentOff], 0, .createOrder onePackageRequest⟩).orders.rows,
        ∀ s ∈ o.stops, s.priceBreakdown.all (fun b =>
          b.pricingPlan.idPriceTier = some "global-1") = true := by decide +kernel
    have hplan := hplans order (Table.find?_eq_some_iff.mp hfound).1 stop hstop
    rw [Option.mem_def.mp hbd] at hplan
    exact .inl ((of_decide_eq_true hplan).trans (by decide))

end SwCouriers
