import SwCouriers.Lib.Provenance
import SwCouriers.SavedCards

/-!
# The Cards of an Owner

What a request does is read off the cards of one owner. `WalletStep` lists what can become of them;
no request reaches the cards of somebody else.

## Main results

* `walletStep_of_step`: what one request does to the cards of an owner.
* `default_card_kept`: how many cards an owner has, and which of them is the default.
* `no_card_again`: an owner without cards for whom a customer was created.
* `cards_since_first`: who has cards has had some ever since the first.

The last two need that Braintree refuses an id that is taken (`RefusesTaken`).
-/

namespace SwCouriers.SavedCards

open Checked Requests

variable {env : CardEnv} {s s' : CardState} {r : CardRequest} {owner : CreditCardOwner}

/-! ### Writes, owner by owner -/

/-- A row with the flag given. -/
def CreditCard.withDefault (isDefault : Bool) (card : CreditCard) : CreditCard :=
  { card with isDefault := isDefault }

variable {card : CreditCard} {cardId : Id}

theorem mem_activeCards :
    card ∈ s.activeCards owner ↔
      card ∈ s.cards.rows ∧ card.owner = owner ∧ card.status = .active := by
  simp [CardState.activeCards]

/-- Rows keep their owners and their status when they are rewritten. -/
theorem filter_map_active {f : CreditCard → CreditCard}
    (howner : ∀ card, (f card).owner = card.owner)
    (hstatus : ∀ card, (f card).status = card.status) (rows : List CreditCard) :
    (rows.map f).filter (fun card => card.owner = owner && card.status = .active)
      = (rows.filter fun card => card.owner = owner && card.status = .active).map f := by
  rw [List.filter_map]
  congr 2
  funext card
  simp [howner, hstatus]

theorem activeCards_clearDefaults (owner : CreditCardOwner) (s : CardState) :
    (s.clearDefaults owner).activeCards owner
      = (s.activeCards owner).map (CreditCard.withDefault false) := by
  rw [CardState.activeCards, CardState.clearDefaults, Table.rows_mapRows, filter_map_active]
  · refine List.map_congr_left fun card hcard => ?_
    rw [if_pos (mem_activeCards.mp hcard).2.1]
    rfl
  · intro card
    split <;> rfl
  · intro card
    split <;> rfl

theorem activeCards_clearDefaults_of_ne {other : CreditCardOwner} (h : other ≠ owner) :
    (s.clearDefaults owner).activeCards other = s.activeCards other := by
  rw [CardState.activeCards, CardState.clearDefaults, Table.rows_mapRows, filter_map_active]
  · refine (List.map_congr_left fun card hcard => ?_).trans (List.map_id _)
    rw [if_neg fun howner => h ((mem_activeCards.mp hcard).2.1.symm.trans howner)]
    rfl
  · intro card
    split <;> rfl
  · intro card
    split <;> rfl

theorem activeCards_setIsDefault (cardId : Id) (isDefault : Bool) (s : CardState) :
    (s.setIsDefault cardId isDefault).activeCards owner
      = (s.activeCards owner).map fun card =>
        if card.id = cardId then card.withDefault isDefault else card := by
  rw [CardState.activeCards, CardState.setIsDefault, Table.modify, Table.rows_mapRows,
    filter_map_active]
  · rfl
  · intro card
    split <;> rfl
  · intro card
    split <;> rfl

/-- A card of somebody else is not among the cards of an owner. -/
theorem activeCards_setIsDefault_of_ne {other : CreditCardOwner} {isDefault : Bool}
    (hcard : card ∈ s.activeCards owner) (h : other ≠ owner) :
    (s.setIsDefault card.id isDefault).activeCards other = s.activeCards other := by
  rw [activeCards_setIsDefault]
  refine (List.map_congr_left fun found hfound => ?_).trans (List.map_id _)
  rw [if_neg, id]
  intro hid
  have hsame := Table.eq_of_key (mem_activeCards.mp hfound).1 (mem_activeCards.mp hcard).1 hid
  exact h ((mem_activeCards.mp hfound).2.1.symm.trans (hsame ▸ (mem_activeCards.mp hcard).2.1))

theorem activeCards_hardDelete (cardId : Id) (s : CardState) :
    (s.hardDelete cardId).activeCards owner
      = (s.activeCards owner).filter fun card => card.id ≠ cardId := by
  rw [CardState.activeCards, CardState.hardDelete, Table.deleteWhere, CardState.activeCards,
    List.filter_filter, List.filter_filter]
  refine List.filter_congr fun card _ => ?_
  rw [Bool.and_comm]

theorem activeCards_hardDelete_of_ne {other : CreditCardOwner} (hcard : card ∈ s.activeCards owner)
    (h : other ≠ owner) : (s.hardDelete card.id).activeCards other = s.activeCards other := by
  rw [activeCards_hardDelete]
  refine List.filter_eq_self.mpr fun found hfound => decide_eq_true fun hid => ?_
  have hsame := Table.eq_of_key (mem_activeCards.mp hfound).1 (mem_activeCards.mp hcard).1 hid
  exact h ((mem_activeCards.mp hfound).2.1.symm.trans (hsame ▸ (mem_activeCards.mp hcard).2.1))

theorem activeCards_addCard (hfresh : card.id ∉ s.cards.rows.map CreditCard.id)
    (hactive : card.status = .active) :
    (s.addCard card).activeCards owner
      = s.activeCards owner ++ if card.owner = owner then [card] else [] := by
  rw [CardState.activeCards, CardState.addCard, Table.rows_insert_of_notMem hfresh,
    List.filter_append, CardState.activeCards]
  congr 1
  split
  · rename_i howner
    exact List.filter_eq_self.mpr fun _ h => by simp [List.mem_singleton.mp h, howner, hactive]
  · rename_i howner
    exact List.filter_eq_nil_iff.mpr fun _ h => by simp [List.mem_singleton.mp h, howner]

theorem activeCards_changeOwners (f : (CreditCardOwner → Bool) → CreditCardOwner → Bool)
    (s : CardState) :
    (s.changeOwners f).activeCards owner
      = if f s.owners owner = false then [] else s.activeCards owner := by
  rw [CardState.activeCards, CardState.changeOwners, Table.deleteWhere, CardState.activeCards,
    List.filter_filter]
  split
  · rename_i hgone
    refine List.filter_eq_nil_iff.mpr fun card _ h => ?_
    simp only [Bool.and_eq_true, decide_eq_true_eq] at h
    exact h.2 (h.1.1 ▸ hgone)
  · rename_i hstays
    refine List.filter_congr fun card _ => ?_
    by_cases howner : card.owner = owner
    · simp [howner, hstays]
    · simp [howner]

/-- No two cards of an owner have the same key. -/
theorem nodup_activeCards (owner : CreditCardOwner) (s : CardState) :
    ((s.activeCards owner).map CreditCard.id).Nodup :=
  s.cards.nodup.sublist (List.filter_sublist.map CreditCard.id)

/-! ### What becomes of the cards of an owner -/

/-- What a request makes of the cards of an owner. A card that is added is as `saved` says, a first
card needs `opens`, and the default is taken away only if the request `unmarks` it. -/
inductive WalletStep (opens unmarks : Prop) (saved : CreditCard → Prop) :
    List CreditCard → List CreditCard → Prop where
  | kept {cards : List CreditCard} : WalletStep opens unmarks saved cards cards
  | gone {cards : List CreditCard} : WalletStep opens unmarks saved cards []
  | added {cards : List CreditCard} {card : CreditCard}
      (hroom : cards.length < maxPaymentMethodsPerOwner)
      (hdefault : cards = [] → card.isDefault = true) (hopens : cards = [] → opens)
      (hsaved : saved card) :
      WalletStep opens unmarks saved cards
        ((if card.isDefault then cards.map (CreditCard.withDefault false) else cards) ++ [card])
  | marked {cards : List CreditCard} {card : CreditCard} (hcard : card ∈ cards) :
      WalletStep opens unmarks saved cards
        ((cards.map (CreditCard.withDefault false)).map fun c =>
          if c.id = card.id then c.withDefault true else c)
  | unmarked {cards : List CreditCard} {card : CreditCard} (hunmarks : unmarks) :
      WalletStep opens unmarks saved cards
        (cards.map fun c => if c.id = card.id then c.withDefault false else c)
  | deleted {cards : List CreditCard} {card : CreditCard} (hcard : card.isDefault = false)
      (hmem : card ∈ cards) :
      WalletStep opens unmarks saved cards (cards.filter fun c => c.id ≠ card.id)
  | replaced {cards : List CreditCard} {card promoted : CreditCard}
      (hcard : card.isDefault = true) (hmem : card ∈ cards)
      (hpromoted : promoted ∈ cards.filter fun c => c.id ≠ card.id) :
      WalletStep opens unmarks saved cards
        ((cards.filter fun c => c.id ≠ card.id).map fun c =>
          if c.id = promoted.id then c.withDefault true else c)

/-- At most five cards, and one default. -/
structure WalletOk (cards : List CreditCard) : Prop where
  room : cards.length ≤ maxPaymentMethodsPerOwner
  oneDefault : ∀ c ∈ cards, ∀ c' ∈ cards, c.isDefault = true → c'.isDefault = true → c = c'

theorem walletOk_nil : WalletOk [] := ⟨Nat.zero_le _, fun _ h => absurd h List.not_mem_nil⟩

variable {opens unmarks : Prop} {saved : CreditCard → Prop} {cards cards' : List CreditCard}

/-- **The cards of an owner** stay at most five, with at most one default. -/
theorem WalletOk.step (h : WalletOk cards) (hnodup : (cards.map CreditCard.id).Nodup)
    (hstep : WalletStep opens unmarks saved cards cards') : WalletOk cards' := by
  have hid : ∀ c ∈ cards, ∀ c' ∈ cards, c.id = c'.id → c = c' := fun c hc c' hc' =>
    List.inj_on_of_nodup_map hnodup hc hc'
  cases hstep with
  | kept => exact h
  | gone => exact walletOk_nil
  | @added card hroom hdefault hopens hsaved =>
      refine ⟨?_, ?_⟩
      · rw [List.length_append, List.length_singleton]
        split
        · rw [List.length_map]
          exact hroom
        · exact hroom
      · intro c hc c' hc' hd hd'
        cases hcard : card.isDefault with
        | true =>
            -- Only the card that is added is the default.
            simp only [hcard, if_true, List.mem_append, List.mem_map, List.mem_singleton] at hc hc'
            rcases hc with ⟨old, -, rfl⟩ | rfl
            · exact absurd hd Bool.false_ne_true
            · rcases hc' with ⟨old, -, rfl⟩ | rfl
              · exact absurd hd' Bool.false_ne_true
              · rfl
        | false =>
            simp only [hcard, Bool.false_eq_true, if_false, List.mem_append, List.mem_singleton]
              at hc hc'
            rcases hc with hc | rfl
            · rcases hc' with hc' | rfl
              · exact h.oneDefault c hc c' hc' hd hd'
              · exact absurd (hcard.symm.trans hd') Bool.false_ne_true
            · exact absurd (hcard.symm.trans hd) Bool.false_ne_true
  | @marked card hcard =>
      refine ⟨by simpa using h.room, ?_⟩
      have hmarked : ∀ c ∈ (cards.map (CreditCard.withDefault false)).map (fun c =>
          if c.id = card.id then c.withDefault true else c), c.isDefault = true →
          c = card.withDefault true := by
        intro c hc hd
        obtain ⟨before, hbefore, rfl⟩ := List.mem_map.mp hc
        obtain ⟨old, hold, rfl⟩ := List.mem_map.mp hbefore
        split at hd
        · rename_i hsame
          rw [if_pos hsame, hid old hold card hcard hsame]
          rfl
        · exact absurd hd Bool.false_ne_true
      intro c hc c' hc' hd hd'
      rw [hmarked c hc hd, hmarked c' hc' hd']
  | @unmarked card hunmarks =>
      refine ⟨by simpa using h.room, ?_⟩
      have hkept : ∀ c ∈ cards.map (fun c => if c.id = card.id then c.withDefault false else c),
          c.isDefault = true → c ∈ cards := by
        intro c hc hd
        obtain ⟨old, hold, rfl⟩ := List.mem_map.mp hc
        split at hd
        · exact absurd hd Bool.false_ne_true
        · rename_i hne
          rwa [if_neg hne]
      intro c hc c' hc' hd hd'
      exact h.oneDefault c (hkept c hc hd) c' (hkept c' hc' hd') hd hd'
  | deleted hcard hmem =>
      refine ⟨(List.length_filter_le _ _).trans h.room, fun c hc c' hc' => ?_⟩
      exact h.oneDefault c (List.mem_filter.mp hc).1 c' (List.mem_filter.mp hc').1
  | @replaced card promoted hcard hmem hpromoted =>
      refine ⟨?_, ?_⟩
      · rw [List.length_map]
        exact (List.length_filter_le _ _).trans h.room
      · have honly : ∀ c ∈ (cards.filter fun c => c.id ≠ card.id).map (fun c =>
            if c.id = promoted.id then c.withDefault true else c), c.isDefault = true →
            c = promoted.withDefault true := by
          intro c hc hd
          obtain ⟨old, hold, rfl⟩ := List.mem_map.mp hc
          obtain ⟨hold, hne⟩ := List.mem_filter.mp hold
          split at hd
          · rename_i hsame
            rw [if_pos hsame, hid old hold promoted (List.mem_filter.mp hpromoted).1 hsame]
          · -- The one default was the card that is deleted.
            have hold' := h.oneDefault old hold card hmem hd hcard
            exact absurd (congrArg CreditCard.id hold') (of_decide_eq_true hne)
        intro c hc c' hc' hd hd'
        rw [honly c hc hd, honly c' hc' hd']

/-- A first card needs `opens`. -/
theorem WalletStep.opens_of_nil (h : WalletStep opens unmarks saved [] cards') (hne : cards' ≠ []) :
    opens := by
  cases h with
  | kept => exact absurd rfl hne
  | gone => exact absurd rfl hne
  | added hroom hdefault hopens hsaved => exact hopens rfl
  | marked hcard => exact absurd hcard List.not_mem_nil
  | unmarked hunmarks => exact absurd rfl hne
  | deleted hcard hmem => exact absurd hmem List.not_mem_nil
  | replaced hcard hmem hpromoted => exact absurd hmem List.not_mem_nil

/-- There are cards, and none of them is the default. -/
def NoDefault (cards : List CreditCard) : Prop :=
  cards ≠ [] ∧ ∀ card ∈ cards, card.isDefault = false

/-- The default is lost only to a request that unmarks it. -/
theorem WalletStep.unmarks_of_noDefault (hnodup : (cards.map CreditCard.id).Nodup)
    (h : WalletStep opens unmarks saved cards cards') (hbefore : ¬ NoDefault cards)
    (hafter : NoDefault cards') : unmarks := by
  obtain ⟨hne, hnone⟩ := hafter
  have hsome : cards ≠ [] → ∃ card ∈ cards, card.isDefault = true := by
    intro hcards
    by_contra hall
    refine hbefore ⟨hcards, fun card hcard => ?_⟩
    exact Bool.eq_false_iff.mpr fun hd => hall ⟨card, hcard, hd⟩
  cases h with
  | kept =>
      obtain ⟨card, hcard, hd⟩ := hsome hne
      exact absurd ((hnone card hcard).symm.trans hd) Bool.false_ne_true
  | gone => exact absurd rfl hne
  | @added card hroom hdefault hopens hsaved =>
      have hcard := hnone card (List.mem_append_right _ List.mem_cons_self)
      rw [hcard, if_neg Bool.false_ne_true] at hnone
      obtain ⟨old, hold, hd⟩ := hsome fun hnil =>
        Bool.false_ne_true (hcard.symm.trans (hdefault hnil))
      exact absurd ((hnone old (List.mem_append_left _ hold)).symm.trans hd) Bool.false_ne_true
  | @marked card hcard =>
      have hmem : card.withDefault true ∈ (cards.map (CreditCard.withDefault false)).map (fun c =>
          if c.id = card.id then c.withDefault true else c) :=
        List.mem_map.mpr ⟨card.withDefault false, List.mem_map_of_mem hcard, if_pos rfl⟩
      exact absurd (hnone _ hmem) (by simp [CreditCard.withDefault])
  | unmarked hunmarks => exact hunmarks
  | @deleted card hcard hmem =>
      obtain ⟨old, hold, hd⟩ := hsome (List.ne_nil_of_mem hmem)
      by_cases hid : old.id = card.id
      · obtain rfl := List.inj_on_of_nodup_map hnodup hold hmem hid
        exact absurd (hcard.symm.trans hd) Bool.false_ne_true
      · have hstays : old ∈ cards.filter fun c => c.id ≠ card.id :=
          List.mem_filter.mpr ⟨hold, decide_eq_true hid⟩
        exact absurd ((hnone old hstays).symm.trans hd) Bool.false_ne_true
  | @replaced card promoted hcard hmem hpromoted =>
      have hmem' : promoted.withDefault true ∈ (cards.filter fun c => c.id ≠ card.id).map (fun c =>
          if c.id = promoted.id then c.withDefault true else c) :=
        List.mem_map.mpr ⟨promoted, hpromoted, if_pos rfl⟩
      exact absurd (hnone _ hmem') (by simp [CreditCard.withDefault])

/-- What holds of every card that is saved holds of every card, if it does not read the flag. -/
theorem WalletStep.forall_mem {P : CreditCard → Prop}
    (hP : ∀ b card, P card → P (card.withDefault b))
    (hsaved : ∀ card, saved card → P card) (h : WalletStep opens unmarks saved cards cards')
    (hcards : ∀ card ∈ cards, P card) : ∀ card ∈ cards', P card := by
  have hmap : ∀ (p : CreditCard → Prop) [DecidablePred p] (b : Bool) (l : List CreditCard),
      (∀ card ∈ l, P card) → ∀ card ∈ l.map (fun c => if p c then c.withDefault b else c),
        P card := by
    intro p _ b l hl card hcard
    obtain ⟨old, hold, rfl⟩ := List.mem_map.mp hcard
    split
    · exact hP b old (hl old hold)
    · exact hl old hold
  have hclear : ∀ card ∈ cards.map (CreditCard.withDefault false), P card := by
    intro card hcard
    obtain ⟨old, hold, rfl⟩ := List.mem_map.mp hcard
    exact hP false old (hcards old hold)
  cases h with
  | kept => exact hcards
  | gone => exact fun card hcard => absurd hcard List.not_mem_nil
  | @added card hroom hdefault hopens hsaved' =>
      intro found hfound
      rcases List.mem_append.mp hfound with hold | hnew
      · split at hold
        · exact hclear found hold
        · exact hcards found hold
      · exact List.mem_singleton.mp hnew ▸ hsaved card hsaved'
  | marked hcard => exact hmap _ true _ hclear
  | unmarked hunmarks => exact hmap _ false _ hcards
  | deleted hcard hmem => exact fun card hcard => hcards card (List.mem_filter.mp hcard).1
  | replaced hcard hmem hpromoted =>
      exact hmap _ true _ fun card hcard => hcards card (List.mem_filter.mp hcard).1

theorem WalletStep.imp {opens' unmarks' : Prop} (h : WalletStep opens unmarks saved cards cards')
    (hopens : opens → opens') (hunmarks : unmarks → unmarks') :
    WalletStep opens' unmarks' saved cards cards' := by
  cases h with
  | kept => exact .kept
  | gone => exact .gone
  | added hroom hdefault hopens' hsaved => exact .added hroom hdefault (hopens ∘ hopens') hsaved
  | marked hcard => exact .marked hcard
  | unmarked hunmarks' => exact .unmarked (hunmarks hunmarks')
  | deleted hcard hmem => exact .deleted hcard hmem
  | replaced hcard hmem hpromoted => exact .replaced hcard hmem hpromoted

/-! ### What the service does -/

theorem getCardOr404_eq_ok :
    getCardOr404 owner cardId s = .ok card ↔ card ∈ s.activeCards owner ∧ card.id = cardId := by
  rw [getCardOr404, bind_eq_ok]
  constructor
  · rintro ⟨found, hfound, h⟩
    obtain ⟨⟨⟩, hactive, h⟩ := bind_eq_ok.mp h
    obtain ⟨⟨⟩, howner, h⟩ := bind_eq_ok.mp h
    obtain rfl := pure_eq_ok.mp h
    obtain ⟨hmem, hid⟩ := Table.find?_eq_some_iff.mp (orRaise_eq_ok.mp hfound)
    exact ⟨mem_activeCards.mpr ⟨hmem, not_not.mp (raiseIf_eq_ok.mp howner),
      not_not.mp (raiseIf_eq_ok.mp hactive)⟩, hid⟩
  · rintro ⟨hcard, rfl⟩
    obtain ⟨hmem, howner, hactive⟩ := mem_activeCards.mp hcard
    refine ⟨card, orRaise_eq_ok.mpr (Table.find?_eq_some_iff.mpr ⟨hmem, rfl⟩), ?_⟩
    refine bind_eq_ok.mpr ⟨⟨⟩, raiseIf_eq_ok.mpr (not_not.mpr hactive), ?_⟩
    exact bind_eq_ok.mpr ⟨⟨⟩, raiseIf_eq_ok.mpr (not_not.mpr howner), rfl⟩

/-- The vault creates a customer with the key of the owner. -/
def GatewayReply.Accepts (env : CardEnv) (owner : CreditCardOwner) (reply : GatewayReply) : Prop :=
  reply.customerCreate (env.customerKey owner) ≠ none

variable {reply : GatewayReply}

/-- What is created is the customer of the owner. -/
theorem createCustomer_eq_ok {refused : PaymentError} {customerId : String}
    (h : createCustomer env owner reply refused s = (.ok customerId, s')) :
    customerId = env.customerKey owner ∧ reply.Accepts env owner ∧
      s' = s.addCustomer (env.customerKey owner) := by
  obtain ⟨⟨⟩, -, h⟩ := Handler.bind_lookup_eq_ok.mp h
  obtain ⟨found, hfound, h⟩ := Handler.bind_check_eq_ok.mp h
  obtain ⟨hcreated, -⟩ := Option.filter_eq_some_iff.mp (orRaise_eq_ok.mp hfound)
  obtain ⟨rfl, rfl⟩ := Handler.pure_eq_ok.mp h
  refine ⟨reply.customerCreate_id hcreated, ?_, rfl⟩
  rw [GatewayReply.Accepts, hcreated]
  exact Option.some_ne_none _

theorem mem_findByOwner :
    card ∈ s.findByOwner owner ↔ card ∈ s.activeCards owner := List.mem_mergeSort

/-- The cards of an owner have the customer of the owner, which was created for the first of them
if it was not found. -/
def Vaulted (env : CardEnv) (s : CardState) (owner : CreditCardOwner) (card : CreditCard) : Prop :=
  card.braintreeCustomerId = some (env.customerKey owner) ∧
    (env.devCardTesting = false → env.customerKey owner ∈ s.createdCustomers)

/-- The customer under which a card is saved. -/
theorem customerForOwner_eq_ok {customerId : String}
    (hvaulted : ∀ card ∈ s.activeCards owner, Vaulted env s owner card)
    (h : customerForOwner env owner reply s = (.ok customerId, s')) :
    customerId = env.customerKey owner ∧
      (env.devCardTesting = false → env.customerKey owner ∈ s'.createdCustomers) ∧
      (∀ o, s'.activeCards o = s.activeCards o) ∧
      (s.activeCards owner = [] → reply.Accepts env owner) := by
  rw [customerForOwner, Handler.bind_query] at h
  cases hfound : (s.findByOwner owner).findSome? fun card =>
      card.braintreeCustomerId.filter (· ≠ "") with
  | some found =>
      rw [hfound] at h
      obtain ⟨card, hcard, hid⟩ := List.exists_of_findSome?_eq_some hfound
      have hmem := mem_findByOwner.mp hcard
      obtain ⟨hkey, hin⟩ := hvaulted card hmem
      rw [hkey, Option.filter_some, if_pos (decide_eq_true (env.customerKey_ne owner))] at hid
      obtain rfl := Option.some.inj hid
      obtain ⟨hcustomer, rfl⟩ := Prod.mk.inj h
      exact ⟨(Except.ok.inj hcustomer).symm, hin, fun _ => rfl, fun hnil =>
        absurd (hnil ▸ hmem) List.not_mem_nil⟩
  | none =>
      rw [hfound] at h
      obtain ⟨rfl, haccepts, rfl⟩ := createCustomer_eq_ok h
      exact ⟨rfl, fun _ => List.mem_cons_self, fun _ => rfl, fun _ => haccepts⟩

theorem customerForDev_eq_ok {customerId : String}
    (h : customerForDev env owner reply s = (.ok customerId, s')) :
    customerId = env.customerKey owner ∧ ∀ o, s'.activeCards o = s.activeCards o := by
  rw [customerForDev] at h
  split at h
  · obtain ⟨hid, rfl⟩ := Prod.mk.inj h
    exact ⟨(Except.ok.inj hid).symm, fun _ => rfl⟩
  · obtain ⟨created, s₁, hcreated, h⟩ := Handler.bind_eq_ok.mp h
    obtain ⟨-, -, rfl⟩ := createCustomer_eq_ok hcreated
    obtain ⟨hid, rfl⟩ := Prod.mk.inj h
    exact ⟨(Except.ok.inj hid).symm, fun _ => rfl⟩

/-- What is written when a card is saved. -/
theorem walletStep_of_saveCard {card : VaultedCard} {cardholderName : Option String}
    {isDefault : Bool} {record : CreditCard}
    (hroom : (s.activeCards owner).length < maxPaymentMethodsPerOwner)
    (hdefault : s.activeCards owner = [] → isDefault = true)
    (hopens : s.activeCards owner = [] → opens)
    (hin : env.devCardTesting = false → env.customerKey owner ∈ s.createdCustomers)
    (h : saveCard env owner (env.customerKey owner) card cardholderName isDefault s
      = (.ok record, s')) :
    WalletStep opens unmarks (Vaulted env s' owner) (s.activeCards owner) (s'.activeCards owner) ∧
      ∀ other, other ≠ owner → s'.activeCards other = s.activeCards other := by
  rw [saveCard, Handler.bind_when_write, Handler.bind_query, Handler.bind_write] at h
  obtain ⟨-, rfl⟩ := Prod.mk.inj h
  generalize hcleared : (if isDefault = true then s.clearDefaults owner else s) = cleared
  have hcustomers : cleared.createdCustomers = s.createdCustomers := by
    rw [← hcleared]
    split <;> rfl
  have hnew : ∀ o, (cleared.addCard (newCard env owner (env.customerKey owner) card cardholderName
      isDefault cleared)).activeCards o = cleared.activeCards o ++ if owner = o then
        [newCard env owner (env.customerKey owner) card cardholderName isDefault cleared] else [] :=
    fun o => activeCards_addCard (Table.fresh_notMem _) rfl
  refine ⟨?_, fun other hne => ?_⟩
  · have hcards : cleared.activeCards owner = if isDefault = true then
        (s.activeCards owner).map (CreditCard.withDefault false) else s.activeCards owner := by
      rw [← hcleared]
      split
      · exact activeCards_clearDefaults owner s
      · rfl
    rw [hnew, if_pos rfl, hcards]
    exact @WalletStep.added opens unmarks _ _ (newCard env owner (env.customerKey owner) card
      cardholderName isDefault cleared) hroom hdefault hopens
      ⟨rfl, fun hprod => hcustomers ▸ hin hprod⟩
  · rw [hnew, if_neg (Ne.symm hne), List.append_nil, ← hcleared]
    split
    · exact activeCards_clearDefaults_of_ne hne
    · rfl

/-- What is true of a request for an owner that is accepted. -/
def Kept (env : CardEnv) (opens unmarks : Prop) (owner : CreditCardOwner) (s s' : CardState) :
    Prop :=
  WalletStep opens unmarks (Vaulted env s' owner) (s.activeCards owner) (s'.activeCards owner) ∧
    ∀ other, other ≠ owner → s'.activeCards other = s.activeCards other

theorem Kept.imp {opens' unmarks' : Prop} (h : Kept env opens unmarks owner s s')
    (hopens : opens → opens') (hunmarks : unmarks → unmarks') :
    Kept env opens' unmarks' owner s s' := ⟨h.1.imp hopens hunmarks, h.2⟩

theorem kept_refl : Kept env opens unmarks owner s s := ⟨.kept, fun _ _ => rfl⟩

/-- A state with the same cards may be taken as the one before. -/
theorem Kept.of_same {s₁ : CardState} (hsame : ∀ o, s₁.activeCards o = s.activeCards o)
    (h : Kept env opens unmarks owner s₁ s') : Kept env opens unmarks owner s s' :=
  ⟨hsame owner ▸ h.1, fun other hne => (h.2 other hne).trans (hsame other)⟩

theorem count_lt_of_check {count : ℕ} (h : checkCount count = .ok ⟨⟩) :
    count < maxPaymentMethodsPerOwner := not_le.mp (raiseIf_eq_ok.mp h)

theorem kept_of_create {request : CreatePaymentMethodRequest} {record : CreditCard}
    (hvaulted : ∀ card ∈ s.activeCards owner, Vaulted env s owner card)
    (h : createPaymentMethod env owner request reply s = (.ok record, s')) :
    Kept env (reply.Accepts env owner) unmarks owner s s' := by
  rw [createPaymentMethod, Handler.bind_query] at h
  obtain ⟨⟨⟩, hcount, h⟩ := Handler.bind_check_eq_ok.mp h
  obtain ⟨⟨⟩, -, h⟩ := Handler.bind_check_eq_ok.mp h
  obtain ⟨customerId, s₁, hcustomer, h⟩ := Handler.bind_eq_ok.mp h
  obtain ⟨card, -, h⟩ := Handler.bind_check_eq_ok.mp h
  obtain ⟨rfl, hin, hsame, hopens⟩ := customerForOwner_eq_ok hvaulted hcustomer
  have hroom := count_lt_of_check hcount
  refine Kept.of_same hsame (walletStep_of_saveCard ?_ (fun hnil => ?_) ?_ hin h)
  · rw [hsame]
    exact hroom
  · rw [hsame] at hnil
    rw [CardState.countByOwner, hnil]
    simp
  · rw [hsame]
    exact hopens

theorem kept_of_createRaw {request : CreatePaymentMethodRequest} {record : CreditCard}
    (h : createPaymentMethodFromRawCardForDev env owner request reply s = (.ok record, s')) :
    Kept env (env.devCardTesting = true) unmarks owner s s' := by
  obtain ⟨⟨⟩, hdev, h⟩ := Handler.bind_check_eq_ok.mp h
  rw [Handler.bind_query] at h
  obtain ⟨⟨⟩, hcount, h⟩ := Handler.bind_check_eq_ok.mp h
  obtain ⟨customerId, s₁, hcustomer, h⟩ := Handler.bind_eq_ok.mp h
  obtain ⟨card, -, h⟩ := Handler.bind_check_eq_ok.mp h
  obtain ⟨rfl, hsame⟩ := customerForDev_eq_ok hcustomer
  have hroom := count_lt_of_check hcount
  have htesting : env.devCardTesting = true := by simpa using raiseIf_eq_ok.mp hdev
  have hin : env.devCardTesting = false → env.customerKey owner ∈ s₁.createdCustomers :=
    fun hprod => absurd (htesting.symm.trans hprod) Bool.false_ne_true.symm
  refine Kept.of_same hsame (walletStep_of_saveCard ?_ (fun hnil => ?_) (fun _ => htesting) hin h)
  · rw [hsame]
    exact hroom
  · rw [hsame] at hnil
    rw [CardState.countByOwner, hnil]
    simp

theorem kept_of_mark (h : markAsDefault owner cardId s = (.ok card, s')) :
    Kept env opens unmarks owner s s' := by
  obtain ⟨found, hfound, h⟩ := Handler.bind_lookup_eq_ok.mp h
  obtain ⟨hmem, rfl⟩ := getCardOr404_eq_ok.mp hfound
  split at h
  · obtain ⟨-, rfl⟩ := Prod.mk.inj h
    exact kept_refl
  · rw [Handler.bind_write, Handler.bind_write] at h
    obtain ⟨-, rfl⟩ := Prod.mk.inj h
    have hcleared : found.withDefault false ∈ (s.clearDefaults owner).activeCards owner := by
      rw [activeCards_clearDefaults]
      exact List.mem_map_of_mem hmem
    refine ⟨?_, fun other hne => ?_⟩
    · rw [activeCards_setIsDefault, activeCards_clearDefaults]
      exact .marked hmem
    · exact (activeCards_setIsDefault_of_ne hcleared hne).trans
        (activeCards_clearDefaults_of_ne hne)

theorem kept_of_unmark (h : unmarkAsDefault owner cardId s = (.ok card, s')) (hunmarks : unmarks) :
    Kept env opens unmarks owner s s' := by
  obtain ⟨found, hfound, h⟩ := Handler.bind_lookup_eq_ok.mp h
  obtain ⟨hmem, rfl⟩ := getCardOr404_eq_ok.mp hfound
  split at h
  · rw [Handler.bind_write] at h
    obtain ⟨-, rfl⟩ := Prod.mk.inj h
    refine ⟨?_, fun other hne => activeCards_setIsDefault_of_ne hmem hne⟩
    rw [activeCards_setIsDefault]
    exact .unmarked hunmarks
  · obtain ⟨-, rfl⟩ := Prod.mk.inj h
    exact kept_refl

theorem kept_of_delete (h : deletePaymentMethod owner cardId s = (.ok (), s')) :
    Kept env opens unmarks owner s s' := by
  obtain ⟨card, hfound, h⟩ := Handler.bind_lookup_eq_ok.mp h
  obtain ⟨hmem, rfl⟩ := getCardOr404_eq_ok.mp hfound
  rw [Handler.bind_write, Handler.bind_query] at h
  have hdeleted : (s.hardDelete card.id).activeCards owner = _ := activeCards_hardDelete card.id s
  cases hremaining : (s.hardDelete card.id).findByOwner owner with
  | nil =>
      rw [hremaining] at h
      obtain ⟨-, rfl⟩ := Prod.mk.inj h
      refine ⟨?_, fun other hne => activeCards_hardDelete_of_ne hmem hne⟩
      have hnil : (s.hardDelete card.id).activeCards owner = [] :=
        List.eq_nil_iff_forall_not_mem.mpr fun c hc => by
          have hc' := mem_findByOwner.mpr hc
          rw [hremaining] at hc'
          exact absurd hc' List.not_mem_nil
      rw [hnil]
      exact .gone
  | cons first rest =>
      rw [hremaining] at h
      have hfirst : first ∈ (s.hardDelete card.id).activeCards owner :=
        mem_findByOwner.mp (hremaining ▸ List.mem_cons_self)
      change Handler.when (card.isDefault = true) _ _ = _ at h
      rw [Handler.when] at h
      split at h
      · rename_i hcard
        obtain ⟨-, rfl⟩ := Prod.mk.inj h
        refine ⟨?_, fun other hne => ?_⟩
        · rw [activeCards_setIsDefault, hdeleted]
          exact .replaced hcard hmem (hdeleted ▸ hfirst)
        · exact (activeCards_setIsDefault_of_ne hfirst hne).trans
            (activeCards_hardDelete_of_ne hmem hne)
      · rename_i hcard
        obtain ⟨-, rfl⟩ := Prod.mk.inj h
        refine ⟨?_, fun other hne => activeCards_hardDelete_of_ne hmem hne⟩
        rw [hdeleted]
        exact .deleted (Bool.not_eq_true _ ▸ hcard) hmem

/-- The request can save the first card of an owner: a customer is created for it. -/
def Opens (env : CardEnv) (owner : CreditCardOwner) (call : OwnerCall) : Prop :=
  env.devCardTesting = true ∨
    ∃ request reply, call = .create request reply ∧ reply.Accepts env owner

/-- **What an accepted request does** to the cards of its owner, and not to those of others. -/
theorem kept_of_ok {call : OwnerCall} {answer : CardAnswer}
    (hvaulted : ∀ card ∈ s.activeCards owner, Vaulted env s owner card)
    (h : call.handle env owner s = (.ok answer, s')) :
    Kept env (Opens env owner call) (∃ cardId, call = .unmark cardId) owner s s' := by
  cases call with
  | create request reply =>
      obtain ⟨record, hrecord, -⟩ := Handler.bind_pure_eq_ok.mp h
      exact (kept_of_create hvaulted hrecord).imp (fun h => .inr ⟨request, reply, rfl, h⟩) id
  | createRaw request reply =>
      obtain ⟨record, hrecord, -⟩ := Handler.bind_pure_eq_ok.mp h
      exact (kept_of_createRaw hrecord).imp .inl id
  | list =>
      obtain ⟨-, rfl⟩ := Prod.mk.inj h
      exact kept_refl
  | get cardId =>
      obtain ⟨card, -, hpure⟩ := Handler.bind_lookup_eq_ok.mp h
      obtain ⟨-, rfl⟩ := Prod.mk.inj hpure
      exact kept_refl
  | mark cardId =>
      obtain ⟨card, hcard, -⟩ := Handler.bind_pure_eq_ok.mp h
      exact kept_of_mark hcard
  | unmark cardId =>
      obtain ⟨card, hcard, -⟩ := Handler.bind_pure_eq_ok.mp h
      exact kept_of_unmark hcard ⟨cardId, rfl⟩
  | delete cardId =>
      obtain ⟨⟨⟩, hdeleted, -⟩ := Handler.bind_pure_eq_ok.mp h
      exact kept_of_delete hdeleted
  | prepare cardId nonce =>
      obtain ⟨issued, hissued, -⟩ := Handler.bind_pure_eq_ok.mp h
      obtain ⟨card, -, hissued⟩ := Handler.bind_lookup_eq_ok.mp hissued
      obtain ⟨⟨⟩, -, hpure⟩ := Handler.bind_check_eq_ok.mp hissued
      obtain ⟨-, rfl⟩ := Prod.mk.inj hpure
      exact kept_refl

/-! ### The vault -/

/-- What was created was created. -/
def KeepsCustomers (s s' : CardState) : Prop :=
  ∀ key ∈ s.createdCustomers, key ∈ s'.createdCustomers

instance : Std.Refl KeepsCustomers := ⟨fun _ _ h => h⟩

instance : IsTrans CardState KeepsCustomers := ⟨fun _ _ _ h h' key hkey => h' key (h key hkey)⟩

open Handler in
theorem moves_createCustomer (env : CardEnv) (owner : CreditCardOwner) (reply : GatewayReply)
    (refused : PaymentError) :
    Handler.Moves KeepsCustomers (createCustomer env owner reply refused) := by
  refine moves_bind (moves_lookup _) fun _ => moves_bind (moves_check _) fun _ => ?_
  exact moves_bind (moves_write fun _ _ h => List.mem_cons_of_mem _ h) fun _ => moves_pure _

open Handler in
theorem moves_saveCard (env : CardEnv) (owner : CreditCardOwner) (customerId : String)
    (card : VaultedCard) (cardholderName : Option String) (isDefault : Bool) :
    Handler.Moves KeepsCustomers (saveCard env owner customerId card cardholderName isDefault) := by
  refine moves_bind (moves_when fun _ => moves_write fun _ _ h => h) fun _ => ?_
  refine moves_bind (moves_query _) fun record => ?_
  exact moves_bind (moves_write fun _ _ h => h) fun _ => moves_pure _

open Handler in
theorem moves_handle (env : CardEnv) (owner : CreditCardOwner) (call : OwnerCall) :
    Handler.Moves KeepsCustomers (call.handle env owner) := by
  cases call with
  | create request reply =>
      refine moves_bind (moves_bind (moves_query _) fun count => ?_) fun _ => moves_pure _
      refine moves_bind (moves_check _) fun _ => moves_bind (moves_check _) fun _ => ?_
      refine moves_bind (moves_bind (moves_query _) fun existing => ?_) fun customerId => ?_
      · cases existing with
        | some customerId => exact moves_pure _
        | none => exact moves_createCustomer _ _ _ _
      · exact moves_bind (moves_check _) fun card => moves_saveCard _ _ _ _ _ _
  | createRaw request reply =>
      refine moves_bind (moves_bind (moves_check _) fun _ => ?_) fun _ => moves_pure _
      refine moves_bind (moves_query _) fun count => moves_bind (moves_check _) fun _ => ?_
      refine moves_bind ?_ fun customerId => ?_
      · rw [customerForDev]
        split
        · exact moves_pure _
        · exact moves_bind (moves_createCustomer _ _ _ _) fun _ => moves_pure _
      · exact moves_bind (moves_check _) fun card => moves_saveCard _ _ _ _ _ _
  | list => exact moves_bind (moves_query _) fun _ => moves_pure _
  | get cardId => exact moves_bind (moves_lookup _) fun _ => moves_pure _
  | mark cardId =>
      refine moves_bind (moves_bind (moves_lookup _) fun card => ?_) fun _ => moves_pure _
      split
      · exact moves_pure _
      · refine moves_bind (moves_write fun _ _ h => h) fun _ => ?_
        exact moves_bind (moves_write fun _ _ h => h) fun _ => moves_pure _
  | unmark cardId =>
      refine moves_bind (moves_bind (moves_lookup _) fun card => ?_) fun _ => moves_pure _
      split
      · exact moves_bind (moves_write fun _ _ h => h) fun _ => moves_pure _
      · exact moves_pure _
  | delete cardId =>
      refine moves_bind (moves_bind (moves_lookup _) fun card => ?_) fun _ => moves_pure _
      refine moves_bind (moves_write fun _ _ h => h) fun _ => ?_
      refine moves_bind (moves_query _) fun remaining => ?_
      cases remaining with
      | nil => exact moves_pure _
      | cons first rest => exact moves_when fun _ => moves_write fun _ _ h => h
  | prepare cardId nonce =>
      refine moves_bind (moves_bind (moves_lookup _) fun card => ?_) fun _ => moves_pure _
      exact moves_bind (moves_check _) fun _ => moves_pure _

theorem customers_step (env : CardEnv) (s : CardState) (r : CardRequest) :
    KeepsCustomers s (step env s r) := by
  have hmoves : KeepsCustomers (s.tick r.elapsed) (r.call.handle env (s.tick r.elapsed)).2 := by
    cases r.call with
    | owner owner call => exact moves_handle env owner call _
    | elsewhere f => exact fun _ h => h
  rw [step, CardRequest.submit, inSession]
  split <;> rename_i h <;> rw [h] at hmoves <;> exact hmoves

/-! ### Runs -/

/-- What holds of the cards at any time. -/
structure CardsKept (env : CardEnv) (s : CardState) : Prop where
  wallets : ∀ owner, WalletOk (s.activeCards owner)
  vaulted : ∀ owner, ∀ card ∈ s.activeCards owner, Vaulted env s owner card

theorem cardsKept_initial (env : CardEnv) (owners : CreditCardOwner → Bool) (now : Instant) :
    CardsKept env (.initial owners now) where
  wallets _ := walletOk_nil
  vaulted _ _ h := absurd h List.not_mem_nil

/-- A request that can save the first card of an owner: a customer is created for it. -/
def OpensWallet (env : CardEnv) (owner : CreditCardOwner) (r : CardRequest) : Prop :=
  env.devCardTesting = true ∨
    ∃ request reply, r.call = .owner owner (.create request reply) ∧ reply.Accepts env owner

/-- A request that is accepted and takes the default away. -/
def Unmarks (env : CardEnv) (owner : CreditCardOwner) (s : CardState) (r : CardRequest) : Prop :=
  (∃ cardId, r.call = .owner owner (.unmark cardId)) ∧
    ∃ response, (r.submit env s).1 = .ok (.card response)

/-- **What a request does** to the cards of an owner. -/
theorem walletStep_of_step (h : CardsKept env s) (r : CardRequest) (owner : CreditCardOwner) :
    WalletStep (OpensWallet env owner r) (Unmarks env owner s r)
      (Vaulted env (step env s r) owner) (s.activeCards owner)
      ((step env s r).activeCards owner) := by
  rcases hrun : r.call.handle env (s.tick r.elapsed) with ⟨e | answer, s'⟩
  · have hstep : (step env s r).activeCards owner = s.activeCards owner := by
      rw [step, CardRequest.submit, inSession, hrun]
      rfl
    rw [hstep]
    exact .kept
  · have hsubmit : r.submit env s = (.ok answer, s') := by
      rw [CardRequest.submit, inSession, hrun]
    rw [step, hsubmit]
    cases hcall : r.call with
    | elsewhere f =>
        rw [hcall] at hrun
        obtain ⟨-, rfl⟩ := Prod.mk.inj hrun
        dsimp only
        rw [activeCards_changeOwners]
        split
        · exact .gone
        · exact .kept
    | owner owner' call =>
        rw [hcall] at hrun
        change call.handle env owner' (s.tick r.elapsed) = _ at hrun
        obtain ⟨hstep, hothers⟩ := kept_of_ok (s := s.tick r.elapsed) (h.vaulted owner') hrun
        by_cases howner : owner = owner'
        · subst howner
          refine hstep.imp (Or.imp_right ?_) ?_
          · rintro ⟨request, reply, rfl, haccepts⟩
            exact ⟨request, reply, hcall, haccepts⟩
          · rintro ⟨cardId, rfl⟩
            obtain ⟨card, s₁, -, hpure⟩ := Handler.bind_eq_ok.mp hrun
            have hanswer := Except.ok.inj (Prod.mk.inj hpure).1
            exact ⟨⟨cardId, hcall⟩, card.toResponse, by rw [hsubmit, hanswer]⟩
        · dsimp only
          rw [hothers owner howner]
          exact .kept

theorem cardsKept_step (h : CardsKept env s) (r : CardRequest) :
    CardsKept env (step env s r) where
  wallets owner := (h.wallets owner).step (nodup_activeCards owner s) (walletStep_of_step h r owner)
  vaulted owner := (walletStep_of_step h r owner).forall_mem (fun _ _ hcard => hcard)
    (fun _ hcard => hcard) fun card hcard =>
      ⟨(h.vaulted owner card hcard).1,
        fun hprod => customers_step env s r _ ((h.vaulted owner card hcard).2 hprod)⟩

theorem cardsKept_run (env : CardEnv) (owners : CreditCardOwner → Bool) (now : Instant)
    (requests : List CardRequest) :
    CardsKept env (Runs.run (step env) (.initial owners now) requests) :=
  Runs.run_invariant (I := CardsKept env) (fun _ r h => cardsKept_step h r)
    (cardsKept_initial env owners now) requests

/-- **The cards of an owner**, at any time: at most five, under the one customer of the owner, and
at most one of them the default. If none is, the default was taken away by a request for that, and
since then there was none. -/
theorem default_card_kept (env : CardEnv) (owners : CreditCardOwner → Bool) (now : Instant)
    (requests : List CardRequest) (owner : CreditCardOwner) :
    let s₀ := CardState.initial owners now
    let cards := (Runs.run (step env) s₀ requests).activeCards owner
    WalletOk cards ∧
      (∀ card ∈ cards, card.braintreeCustomerId = some (env.customerKey owner)) ∧
      (NoDefault cards → ∃ pre unmark post, requests = pre ++ unmark :: post ∧
        Unmarks env owner (Runs.run (step env) s₀ pre) unmark ∧ ∀ mid, mid <+: post →
          NoDefault ((Runs.run (step env) s₀ (pre ++ unmark :: mid)).activeCards owner)) := by
  intro s₀ cards
  have hkept := cardsKept_run env owners now requests
  refine ⟨hkept.wallets owner, fun card hcard => (hkept.vaulted owner card hcard).1,
    fun hnone => ?_⟩
  have hstart : ∀ s r, ¬ NoDefault (s.activeCards owner) →
      NoDefault ((step env s r).activeCards owner) →
      CardsKept env s → Unmarks env owner s r := fun s r hbefore hafter h =>
    (walletStep_of_step h r owner).unmarks_of_noDefault (nodup_activeCards owner s) hbefore hafter
  obtain ⟨pre, unmark, post, rfl, hunmarks, hsince⟩ :=
    Runs.exists_last_start (P := fun s : CardState => NoDefault (s.activeCards owner)) hstart
      (s := s₀) (fun h => h.1 rfl) hnone
  exact ⟨pre, unmark, post, rfl, hunmarks (cardsKept_run env owners now pre), hsince⟩

/-! ### The first card -/

/-- What the vault answers to a request. -/
def CardCall.reply? : CardCall → Option GatewayReply
  | .owner _ (.create _ reply) | .owner _ (.createRaw _ reply) => some reply
  | _ => none

/-- Braintree refuses to create a customer with an id that is taken: what it has created is still
there. -/
def RefusesTaken (s : CardState) (r : CardRequest) : Prop :=
  ∀ reply, r.call.reply? = some reply → ∀ key ∈ s.createdCustomers, reply.customerCreate key = none

/-- An id that is taken opens no wallet. -/
theorem not_mem_of_opens (hprod : env.devCardTesting = false) (hrefuses : RefusesTaken s r)
    (hopens : OpensWallet env owner r) : env.customerKey owner ∉ s.createdCustomers := by
  intro hkey
  rcases hopens with hdev | ⟨request, reply, hcall, haccepts⟩
  · exact Bool.false_ne_true (hprod.symm.trans hdev)
  · exact haccepts (hrefuses reply (by rw [hcall]; rfl) _ hkey)

/-- **No card again**: an owner for whom a customer was created, and who has no card, never has one
again, unless raw cards can be saved. -/
theorem no_card_again (hprod : env.devCardTesting = false) (h : CardsKept env s)
    (hkey : env.customerKey owner ∈ s.createdCustomers) (hnone : s.activeCards owner = [])
    {requests : List CardRequest} (hrefuses : Runs.Along (step env) RefusesTaken s requests) :
    (Runs.run (step env) s requests).activeCards owner = [] := by
  have hstep : ∀ s r, (CardsKept env s ∧ env.customerKey owner ∈ s.createdCustomers ∧
      s.activeCards owner = []) → RefusesTaken s r → CardsKept env (step env s r) ∧
        env.customerKey owner ∈ (step env s r).createdCustomers ∧
        (step env s r).activeCards owner = [] := by
    rintro s r ⟨h, hkey, hnone⟩ hrefuses
    refine ⟨cardsKept_step h r, customers_step env s r _ hkey, ?_⟩
    have hwallet := walletStep_of_step h r owner
    rw [hnone] at hwallet
    by_contra hne
    exact not_mem_of_opens hprod hrefuses (hwallet.opens_of_nil hne) hkey
  exact (Runs.run_invariant_of_along hstep ⟨h, hkey, hnone⟩ hrefuses).2.2

theorem customers_run (env : CardEnv) (s : CardState) (requests : List CardRequest) {key : String}
    (h : key ∈ s.createdCustomers) : key ∈ (Runs.run (step env) s requests).createdCustomers :=
  Runs.run_invariant (I := fun s : CardState => key ∈ s.createdCustomers)
    (fun s r h => customers_step env s r _ h) h requests

/-- Before the requests are over, one of them saved a card, for which the customer of the owner was
created; none was before, and the owner has had a card ever since. -/
def SinceFirst (env : CardEnv) (s₀ : CardState) (requests : List CardRequest)
    (owner : CreditCardOwner) : Prop :=
  ∃ pre create post, requests = pre ++ create :: post ∧
    (∃ request reply, create.call = .owner owner (.create request reply) ∧
      reply.Accepts env owner) ∧
    (∀ pre', pre' <+: pre →
      env.customerKey owner ∉ (Runs.run (step env) s₀ pre').createdCustomers ∧
        (Runs.run (step env) s₀ pre').activeCards owner = []) ∧
    ∀ mid, mid <+: post → (Runs.run (step env) s₀ (pre ++ create :: mid)).activeCards owner ≠ []

/-- **Cards since the first**: where raw cards cannot be saved, and Braintree refuses an id that is
taken, an owner with a card has had some ever since the first was saved, and the customer of the
owner was created for that one. Who deletes the last card, or tries to save a first one that is
refused once the customer was created, cannot save one any more. -/
theorem cards_since_first (hprod : env.devCardTesting = false) (owners : CreditCardOwner → Bool)
    (now : Instant) (requests : List CardRequest) (owner : CreditCardOwner)
    (hrefuses : Runs.Along (step env) RefusesTaken (.initial owners now) requests)
    (hcards : (Runs.run (step env) (.initial owners now) requests).activeCards owner ≠ []) :
    SinceFirst env (.initial owners now) requests owner := by
  have hstart : ∀ s r, ¬ s.activeCards owner ≠ [] → (step env s r).activeCards owner ≠ [] →
      CardsKept env s → OpensWallet env owner r := fun s r hbefore hafter h => by
    have hwallet := walletStep_of_step h r owner
    rw [not_not.mp hbefore] at hwallet
    exact hwallet.opens_of_nil hafter
  obtain ⟨pre, create, post, rfl, hopens, hsince⟩ :=
    Runs.exists_last_start (P := fun s : CardState => s.activeCards owner ≠ []) hstart
      (s := .initial owners now) (fun h => h rfl) hcards
  have hopens := hopens (cardsKept_run env owners now pre)
  have hfree := not_mem_of_opens hprod (Runs.along_iff.mp hrefuses pre create post rfl) hopens
  refine ⟨pre, create, post, rfl, hopens.resolve_left ?_, ?_, hsince⟩
  · exact fun hdev => Bool.false_ne_true (hprod.symm.trans hdev)
  rintro pre' ⟨rest, rfl⟩
  have hnot : env.customerKey owner ∉
      (Runs.run (step env) (.initial owners now) pre').createdCustomers := fun hin => by
    rw [Runs.run_append] at hfree
    exact hfree (customers_run env _ rest hin)
  refine ⟨hnot, List.eq_nil_iff_forall_not_mem.mpr fun card hcard => hnot ?_⟩
  exact ((cardsKept_run env owners now pre').vaulted owner card hcard).2 hprod

/-- Keys that can be told apart by their letters and their lengths. -/
def letterEnv : CardEnv where
  customerKey
    | .organization organizationId => String.ofList (List.replicate (organizationId + 1) 'o')
    | .user userId => String.ofList (List.replicate (userId + 1) 'u')
  customerKey_injective := by
    intro a b h
    have hlist := congrArg String.toList h
    rcases a with m | m <;> rcases b with n | n <;>
      simp only [String.toList_ofList, List.replicate_inj] at hlist <;> simp_all
  customerKey_ne := by
    intro a h
    have hlist := congrArg String.toList h
    rcases a with m | m <;> simp [List.replicate_succ] at hlist
  requireThreeDSecure := true
  devCardTesting := false
  upper := id

/-- A payment method in the vault. -/
def visa : VaultResult :=
  .success (some ⟨"token", some "VISA", some "GB", some "1111", 12, 2030⟩)

/-- The vault creates the customer. -/
def createdReply : GatewayReply where
  threeDSecure := .ok ()
  customerCreate := some
  customerCreate_id := fun h => (Option.some.inj h).symm
  customerFind := fun _ => false
  method := visa

/-- The id of the customer is taken. -/
def takenReply : GatewayReply where
  threeDSecure := .ok ()
  customerCreate := fun _ => none
  customerCreate_id := fun h => absurd h.symm (Option.some_ne_none _)
  customerFind := fun _ => true
  method := visa

/-- An organisation saves two cards and deletes the first. -/
def twoCards : List CardRequest :=
  [⟨0, .owner (.organization 1) (.create ⟨none, false⟩ createdReply)⟩,
    ⟨0, .owner (.organization 1) (.create ⟨none, false⟩ takenReply)⟩,
    ⟨0, .owner (.organization 1) (.delete 1)⟩]

theorem cards_since_first_saved :
    SinceFirst letterEnv (.initial (fun _ => true) 0) twoCards (.organization 1) := by
  refine cards_since_first rfl (fun _ => true) 0 twoCards (.organization 1) ⟨?_, ?_, ?_, trivial⟩
    (by decide +kernel)
  · exact fun reply _ key hkey => absurd hkey List.not_mem_nil
  · rintro reply hreply key -
    obtain rfl := Option.some.inj hreply
    rfl
  · exact fun reply hreply => absurd hreply.symm (Option.some_ne_none _)

end SwCouriers.SavedCards
