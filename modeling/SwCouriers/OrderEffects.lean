import SwCouriers.OrderService
import SwCouriers.PricingAgreement

/-!
# What a Request Does to the Orders

Every accepted request on orders does one of three things: it adds a new order, it prices
an existing one again from its stored breakdowns, or it changes statuses only. This module
says so once; what holds of all reachable orders is proved from it.

## Main results

* `createOrder_ok`, `updateStopPackages_ok`, `updateStopServiceTier_ok`: everything an
  accepted request has checked that matters for prices.
* `OrderRequest.exec_effect`: the three effects.
-/

namespace SwCouriers

open Checked

/-! ### Accepted requests -/

/-- The input of a stop is built from its own row. Its breakdown is handed over or not. -/
def EditInput (s : DeliveryStop × ℕ) (input : StopInput) : Prop :=
  ∃ breakdown plan stored, s.1.priceBreakdown = some breakdown ∧
    (stored = none ∨ stored = some breakdown) ∧ input = s.1.pricingInput s.2 plan stored

variable {shop shop' : Shop} {orderId stopId : Id} {stops : List DeliveryStop}

theorem editableOrder_ok {what : String} {order : Order}
    (h : editableOrder shop orderId stopId what = .ok order) :
    shop.orders.find? orderId = some order ∧ order.status = .pendingPickup := by
  obtain ⟨found, hfound, h⟩ := orRaise_bind_eq_ok.mp h
  replace h := ok_of_check h
  obtain ⟨hstatus, h⟩ := raiseIf_bind_eq_ok.mp h
  obtain rfl := pure_eq_ok.mp h
  exact ⟨hfound, not_not.mp hstatus⟩

theorem packageEditInputs_ok {inputs : List StopInput} (h : packageEditInputs stops = .ok inputs) :
    List.Forall₂ (fun s input => ∃ breakdown, s.1.priceBreakdown = some breakdown ∧
      input = s.1.pricingInput s.2 breakdown.pricingPlan none) (stops.zipIdx 1) inputs := by
  refine (mapEach_eq_ok.mp h).imp fun s input hround => ?_
  obtain ⟨breakdown, hbreakdown, hround⟩ := orRaise_bind_eq_ok.mp hround
  exact ⟨breakdown, hbreakdown, (pure_eq_ok.mp hround).symm⟩

theorem editInput_packageEdit {inputs : List StopInput} (h : packageEditInputs stops = .ok inputs) :
    List.Forall₂ EditInput (stops.zipIdx 1) inputs := by
  refine (packageEditInputs_ok h).imp ?_
  rintro s input ⟨breakdown, hbreakdown, rfl⟩
  exact ⟨breakdown, breakdown.pricingPlan, none, hbreakdown, .inl rfl, rfl⟩

theorem editInput_tierEdit {newPlan : Plan} {inputs : List StopInput}
    (h : tierEditInputs stops stopId newPlan = .ok inputs) :
    List.Forall₂ EditInput (stops.zipIdx 1) inputs := by
  refine (mapEach_eq_ok.mp h).imp fun s input hround => ?_
  obtain ⟨breakdown, hbreakdown, hround⟩ := orRaise_bind_eq_ok.mp hround
  exact ⟨breakdown, _, some breakdown, hbreakdown, .inr rfl,
    (pure_eq_ok.mp hround).symm⟩

/-- An accepted edit of packages. -/
theorem updateStopPackages_ok {env : OrderEnv} {updates : List PackageUpdateItem}
    (h : updateStopPackages env shop orderId stopId updates = .ok shop') :
    ∃ order snapshot inputs pricing, shop.orders.find? orderId = some order ∧
      order.status = .pendingPickup ∧ order.priceBreakdown = some snapshot ∧
      packageEditInputs (updatedStops order.stops stopId updates) = .ok inputs ∧
      recomputePriceBreakdownFromSnapshot snapshot.snapshot inputs (some order.id)
        (some order.orderId) = .ok pricing ∧
      shop' = shop.storeOrder orderId
        (order.storePricing (updatedStops order.stops stopId updates)
          pricing).recomputeStatus := by
  obtain ⟨order, horder, h⟩ := bind_eq_ok.mp h
  obtain ⟨hfound, hstatus⟩ := editableOrder_ok horder
  replace h := ok_of_check h
  obtain ⟨snapshot, hsnapshot, h⟩ := orRaise_bind_eq_ok.mp h
  obtain ⟨inputs, hinputs, h⟩ := bind_eq_ok.mp h
  obtain ⟨org, -, h⟩ := bind_eq_ok.mp h
  replace h := ok_of_check h
  obtain ⟨pricing, hpricing, h⟩ := bind_eq_ok.mp h
  exact ⟨order, snapshot, inputs, pricing, hfound, hstatus, hsnapshot,
    hinputs, hpricing, (pure_eq_ok.mp h).symm⟩

/-- An accepted change of tier. -/
theorem updateStopServiceTier_ok {env : OrderEnv} {tierId : String}
    (h : updateStopServiceTier env shop orderId stopId tierId = .ok shop') :
    ∃ order snapshot newTier inputs pricing, shop.orders.find? orderId = some order ∧
      order.status = .pendingPickup ∧ order.priceBreakdown = some snapshot ∧
      env.resolveEffectiveTier order.organizationId (some tierId) none = .ok newTier ∧
      tierEditInputs (retieredStops order.stops stopId newTier) stopId
        (effectiveTierToPlan newTier) = .ok inputs ∧
      recomputePriceBreakdownFromSnapshot snapshot.snapshot inputs (some order.id)
        (some order.orderId) = .ok pricing ∧
      shop' = shop.storeOrder orderId
        (order.storePricing (retieredStops order.stops stopId newTier) pricing) := by
  obtain ⟨order, horder, h⟩ := bind_eq_ok.mp h
  obtain ⟨snapshot, hsnapshot, h⟩ := orRaise_bind_eq_ok.mp h
  obtain ⟨newTier, htier, h⟩ := bind_eq_ok.mp h
  obtain ⟨inputs, hinputs, h⟩ := bind_eq_ok.mp h
  obtain ⟨pricing, hpricing, h⟩ := bind_eq_ok.mp h
  obtain ⟨hfound, hstatus⟩ := editableOrder_ok horder
  exact ⟨order, snapshot, newTier, inputs, pricing, hfound, hstatus,
    hsnapshot, htier, hinputs, hpricing, (pure_eq_ok.mp h).symm⟩

/-- An accepted new order. -/
theorem createOrder_ok {env : OrderEnv} {today : Day} {request : OrderCreateRequest}
    (h : createOrder env shop today request = .ok shop') :
    ∃ organizationId ctx pricingStops pricing dueDate billing₁ invoiceId billing₂,
      attachEffectivePlans env organizationId
        ((request.deliveryStops.zipIdx 1).map fun s => s.1.pricingInput s.2)
          = .ok pricingStops ∧
      computePriceBreakdown env.upper ctx today pricingStops none none = .ok pricing ∧
      syncFromOrder shop.billing today
        (newOrder shop organizationId request pricingStops pricing) dueDate
          = .ok (billing₁, invoiceId) ∧
      payByCard env billing₁ today
        (newOrder shop organizationId request pricingStops pricing) invoiceId
        request.paymentMethodNonce = .ok billing₂ ∧
      shop' = shop.addOrder (newOrder shop organizationId request pricingStops pricing)
        billing₂ := by
  replace h := ok_of_check h
  obtain ⟨organizationId, -, h⟩ := bind_eq_ok.mp h
  obtain ⟨method, -, h⟩ := bind_eq_ok.mp h
  replace h := ok_of_check h
  replace h := ok_of_check h
  obtain ⟨ctx, -, h⟩ := bind_eq_ok.mp h
  replace h := ok_of_check h
  obtain ⟨pricingStops, hstops, h⟩ := bind_eq_ok.mp h
  obtain ⟨pricing, hpricing, h⟩ := bind_eq_ok.mp h
  replace h := ok_of_check h
  obtain ⟨dueDate, -, h⟩ := bind_eq_ok.mp h
  obtain ⟨⟨billing₁, invoiceId⟩, hsync, h⟩ := bind_eq_ok.mp h
  replace h := ok_of_check h
  obtain ⟨billing₂, hpay, h⟩ := bind_eq_ok.mp h
  exact ⟨organizationId, ctx, pricingStops, pricing, dueDate, billing₁, invoiceId, billing₂,
    hstops, hpricing, hsync, hpay, (pure_eq_ok.mp h).symm⟩

/-! ### The three effects -/

/-- Two orders that differ in statuses only: neither amounts nor breakdowns nor anything
that pricing reads. -/
structure Order.SamePricing (before after : Order) : Prop where
  subtotal : after.subtotal = before.subtotal
  vatAmount : after.vatAmount = before.vatAmount
  totalAmount : after.totalAmount = before.totalAmount
  stops : List.Forall₂ (fun s t : DeliveryStop => t.priceBreakdown = s.priceBreakdown ∧
    ∀ index plan stored, t.pricingInput index plan stored = s.pricingInput index plan stored)
    before.stops after.stops

/-- What an accepted request does to a shop. -/
inductive OrderEffect (shop : Shop) : Shop → Prop
  /-- A new order is priced, invoiced and stored. -/
  | created (env : OrderEnv) (today : Day) (organizationId : Id)
      (request : OrderCreateRequest) (ctx : PricingContext) (pricingStops : List StopInput)
      (pricing : PricingResult) (dueDate : Day) (invoiceId : Id) (billing₁ billing₂ : Db)
      (attached : attachEffectivePlans env organizationId
        ((request.deliveryStops.zipIdx 1).map fun s => s.1.pricingInput s.2)
          = .ok pricingStops)
      (priced : computePriceBreakdown env.upper ctx today pricingStops none none = .ok pricing)
      (synced : syncFromOrder shop.billing today
        (newOrder shop organizationId request pricingStops pricing) dueDate
          = .ok (billing₁, invoiceId))
      (paid : payByCard env billing₁ today
        (newOrder shop organizationId request pricingStops pricing) invoiceId
        request.paymentMethodNonce = .ok billing₂) :
      OrderEffect shop (shop.addOrder
        (newOrder shop organizationId request pricingStops pricing) billing₂)
  /-- The stored stops of an order, with changed packages or tiers, are priced again. -/
  | repriced (order after : Order) (stops : List DeliveryStop) (inputs : List StopInput)
      (snapshot : OrderSnapshot) (pricing : PricingResult)
      (found : shop.orders.find? order.id = some order)
      (kept : List.Forall₂ (fun s t : DeliveryStop => t.priceBreakdown = s.priceBreakdown)
        order.stops stops)
      (handed : List.Forall₂ EditInput (stops.zipIdx 1) inputs)
      (priced : recomputePriceBreakdownFromSnapshot snapshot inputs (some order.id)
        (some order.orderId) = .ok pricing)
      (stored : Order.SamePricing (order.storePricing stops pricing) after) :
      OrderEffect shop (shop.storeOrder order.id after)
  /-- Statuses change. -/
  | restatused (order after : Order) (found : shop.orders.find? order.id = some order)
      (same : order.SamePricing after) : OrderEffect shop (shop.storeOrder order.id after)
  | unchanged : OrderEffect shop shop

theorem Order.SamePricing.refl (order : Order) : order.SamePricing order :=
  ⟨rfl, rfl, rfl, List.forall₂_same.mpr fun _ _ => ⟨rfl, fun _ _ _ => rfl⟩⟩

theorem samePricing_recomputeStatus (order : Order) :
    order.SamePricing order.recomputeStatus :=
  ⟨rfl, rfl, rfl, List.forall₂_same.mpr fun _ _ => ⟨rfl, fun _ _ _ => rfl⟩⟩

/-- Neither edit touches the stored breakdowns before it has priced the order again. -/
theorem priceBreakdown_map {f : DeliveryStop → DeliveryStop}
    (hf : ∀ s, (f s).priceBreakdown = s.priceBreakdown) :
    List.Forall₂ (fun s t : DeliveryStop => t.priceBreakdown = s.priceBreakdown) stops
      (stops.map f) :=
  List.forall₂_map_right_iff.mpr (List.forall₂_same.mpr fun s _ => hf s)

theorem priceBreakdown_updatedStops (stops : List DeliveryStop) (stopId : Id)
    (updates : List PackageUpdateItem) :
    List.Forall₂ (fun s t : DeliveryStop => t.priceBreakdown = s.priceBreakdown) stops
      (updatedStops stops stopId updates) := by
  refine priceBreakdown_map fun s => ?_
  unfold updatedStop
  split_ifs <;> rfl

theorem priceBreakdown_retieredStops (stops : List DeliveryStop) (stopId : Id)
    (tier : EffectiveTier) :
    List.Forall₂ (fun s t : DeliveryStop => t.priceBreakdown = s.priceBreakdown) stops
      (retieredStops stops stopId tier) := by
  refine priceBreakdown_map fun s => ?_
  split_ifs <;> rfl

theorem pricingInput_cancel (stop : DeliveryStop) (index : ℕ) (plan : Plan)
    (stored : Option StopBreakdown) :
    stop.cancel.pricingInput index plan stored = stop.pricingInput index plan stored := by
  simp only [DeliveryStop.pricingInput, DeliveryStop.cancel, List.zipIdx_map, List.map_map]
  rfl

/-- Cancelling stops leaves the pricing of the order alone. -/
theorem samePricing_cancel {order : Order} {f : DeliveryStop → DeliveryStop}
    (hf : ∀ s, f s = s ∨ f s = s.cancel) :
    order.SamePricing { order with stops := order.stops.map f } := by
  refine ⟨rfl, rfl, rfl, List.forall₂_map_right_iff.mpr
    (List.forall₂_same.mpr fun s _ => ?_)⟩
  rcases hf s with h | h
  · rw [h]
    exact ⟨rfl, fun _ _ _ => rfl⟩
  · rw [h]
    exact ⟨rfl, pricingInput_cancel s⟩

theorem Order.SamePricing.recomputeStatus {before after : Order}
    (h : before.SamePricing after) : before.SamePricing after.recomputeStatus :=
  ⟨h.subtotal, h.vatAmount, h.totalAmount, h.stops⟩

/-- The shop is as it was, up to the statuses of one order. -/
def Restatused (shop shop' : Shop) : Prop :=
  shop' = shop ∨ ∃ order after, shop.orders.find? order.id = some order ∧
    order.SamePricing after ∧ shop' = shop.storeOrder order.id after

theorem Restatused.effect (h : Restatused shop shop') : OrderEffect shop shop' := by
  rcases h with rfl | ⟨order, after, hfound, hsame, rfl⟩
  · exact .unchanged
  · exact .restatused order after hfound hsame

theorem cancelOrder_restatused {user : User} {org : Option Id}
    (h : cancelOrder shop orderId user org = .ok shop') : Restatused shop shop' := by
  obtain ⟨order, hfound, h⟩ := orRaise_bind_eq_ok.mp h
  replace h := ok_of_check h
  replace h := ok_of_check h
  replace h := ok_of_check h
  replace h := ok_of_check h
  obtain rfl := pure_eq_ok.mp h
  obtain ⟨-, rfl⟩ := Table.find?_eq_some_iff.mp hfound
  exact .inr ⟨order, _, hfound, (samePricing_cancel fun _ => .inr rfl).recomputeStatus, rfl⟩

theorem cancelDeliveryStop_restatused {user : User} {org : Option Id}
    (h : cancelDeliveryStop shop orderId stopId user org = .ok shop') : Restatused shop shop' := by
  obtain ⟨order, hfound, h⟩ := orRaise_bind_eq_ok.mp h
  replace h := ok_of_check h
  obtain ⟨target, -, h⟩ := bind_eq_ok.mp h
  replace h := ok_of_check h
  split at h
  · exact .inl (pure_eq_ok.mp h).symm
  · replace h := ok_of_check h
    obtain rfl := pure_eq_ok.mp h
    obtain ⟨-, rfl⟩ := Table.find?_eq_some_iff.mp hfound
    refine .inr ⟨order, _, hfound, (samePricing_cancel fun s => ?_).recomputeStatus, rfl⟩
    split_ifs
    · exact .inr rfl
    · exact .inl rfl

/-- **An accepted request has one of the three effects.** -/
theorem OrderRequest.exec_effect {request : OrderRequest} (h : request.exec shop = .ok shop') :
    OrderEffect shop shop' := by
  unfold OrderRequest.exec at h
  split at h
  · obtain ⟨organizationId, ctx, pricingStops, pricing, dueDate, billing₁, invoiceId,
      billing₂, hstops, hpricing, hsync, hpay, rfl⟩ := createOrder_ok h
    exact .created _ _ organizationId _ ctx pricingStops pricing dueDate invoiceId billing₁
      billing₂ hstops hpricing hsync hpay
  · obtain ⟨order, snapshot, inputs, pricing, hfound, -, -, hinputs, hpricing, rfl⟩ :=
      updateStopPackages_ok h
    obtain ⟨-, rfl⟩ := Table.find?_eq_some_iff.mp hfound
    exact .repriced order _ _ inputs _ pricing hfound (priceBreakdown_updatedStops _ _ _)
      (editInput_packageEdit hinputs) hpricing (samePricing_recomputeStatus _)
  · obtain ⟨order, snapshot, newTier, inputs, pricing, hfound, -, -, -, hinputs, hpricing,
      rfl⟩ := updateStopServiceTier_ok h
    obtain ⟨-, rfl⟩ := Table.find?_eq_some_iff.mp hfound
    exact .repriced order _ _ inputs _ pricing hfound (priceBreakdown_retieredStops _ _ _)
      (editInput_tierEdit hinputs) hpricing (.refl _)
  · exact (cancelOrder_restatused h).effect
  · exact (cancelDeliveryStop_restatused h).effect

end SwCouriers
