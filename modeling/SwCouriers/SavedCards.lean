import Mathlib.Data.List.Sort
import SwCouriers.Common
import SwCouriers.Lib.Requests
import SwCouriers.Lib.Table

/-!
# Saved Cards

An organisation or a user may save up to five cards. The cards themselves are in the vault of
Braintree, under one customer for each owner; here are their rows. One card of an owner can be the
default.

What Braintree answers comes with each request (`GatewayReply`), and may be anything, but that a
customer is created with the id that was asked for. The state notes for which ids this was done;
no rollback reaches the vault.

Who is an owner is up to other services (`CardCall.elsewhere`), and the cards of an owner that is
deleted go with it.

## Main definitions

* `createPaymentMethod`, `createPaymentMethodFromRawCardForDev`, `markAsDefault`,
  `unmarkAsDefault`, `deletePaymentMethod`: what can be done with cards.
* `CardRequest.submit`, `step`: one request.
-/

namespace SwCouriers.SavedCards

open Checked Requests

/-! ### The tables -/

/-- `CreditCardOwner`. -/
inductive CreditCardOwner where
  | organization (organizationId : Id)
  | user (userId : Id)
  deriving DecidableEq, Repr

/-- `PaymentMethodStatus`. -/
inductive PaymentMethodStatus where
  | active
  | inactive
  | expired
  deriving DecidableEq, Repr

/-- `CreditCard`. -/
structure CreditCard where
  id : Id
  owner : CreditCardOwner
  braintreeToken : String
  braintreeCustomerId : Option String
  cardType : Option String
  countryOfIssuance : Option String
  lastFour : Option String
  expiryMonth : Option ℕ
  expiryYear : Option ℕ
  cardholderName : Option String
  isDefault : Bool
  status : PaymentMethodStatus
  createdAt : Instant
  deriving DecidableEq

/-- `PaymentMethodResponse`. -/
structure PaymentMethodResponse where
  id : Id
  cardType : Option String
  countryOfIssuance : Option String
  lastFour : Option String
  expiryMonth : Option ℕ
  expiryYear : Option ℕ
  cardholderName : Option String
  isDefault : Bool
  status : PaymentMethodStatus
  createdAt : Instant
  deriving DecidableEq

/-- `_to_response`. -/
def CreditCard.toResponse (card : CreditCard) : PaymentMethodResponse where
  id := card.id
  cardType := card.cardType
  countryOfIssuance := card.countryOfIssuance
  lastFour := card.lastFour
  expiryMonth := card.expiryMonth
  expiryYear := card.expiryYear
  cardholderName := card.cardholderName
  isDefault := card.isDefault
  status := card.status
  createdAt := card.createdAt

/-- The cards, who can own some, the ids under which customers were created, and the clock. -/
structure CardState where
  cards : Table CreditCard.id
  owners : CreditCardOwner → Bool
  createdCustomers : List String
  now : Instant

/-- What raises. -/
inductive PaymentError where
  | service (error : ServiceError)
  /-- `AppError`. -/
  | app (message : String)
  deriving DecidableEq

/-- A part of a request. -/
abbrev Service (α : Type) := Handler CardState PaymentError α

/-- The settings, and the ids of the customers in the vault. -/
structure CardEnv where
  /-- `braintree_customer_key`. Every key is drawn anew, whatever table it is for. -/
  customerKey : CreditCardOwner → String
  customerKey_injective : Function.Injective customerKey
  customerKey_ne : ∀ owner, customerKey owner ≠ ""
  /-- `BRAINTREE_REQUIRE_THREE_D_SECURE_FOR_VAULT`. -/
  requireThreeDSecure : Bool
  /-- `APP_ENV` and `BRAINTREE_ENVIRONMENT` are those of development or tests. -/
  devCardTesting : Bool
  /-- `str.upper`. -/
  upper : String → String

/-- `MAX_PAYMENT_METHODS_PER_OWNER`. -/
def maxPaymentMethodsPerOwner : ℕ := 5

/-! ### What Braintree answers -/

/-- A payment method as the vault has it. -/
structure VaultedCard where
  token : String
  cardType : Option String
  countryOfIssuance : Option String
  lastFour : Option String
  expirationMonth : ℕ
  expirationYear : ℕ

/-- The result of `payment_method.create` and `credit_card.create`. -/
inductive VaultResult where
  | success (paymentMethod : Option VaultedCard)
  | duplicate
  | failure

/-- What the vault answers to a request. -/
structure GatewayReply where
  /-- `validate_payment_method_nonce_three_d_secure`. -/
  threeDSecure : Except ServiceError Unit
  /-- `customer.create`, with the id given: the id of the customer, if one was created. -/
  customerCreate : String → Option String
  /-- A customer has the id that it was created with. -/
  customerCreate_id : ∀ {key customerId}, customerCreate key = some customerId → customerId = key
  /-- Whether `customer.find` finds a customer. -/
  customerFind : String → Bool
  method : VaultResult

/-- `_raise_for_failed_braintree_payment_method_result`, and the payload. -/
def VaultResult.card : VaultResult → Except PaymentError VaultedCard
  | .success (some card) => .ok card
  | .success none => .error (.service (invalid "Card verification failed"))
  | .duplicate => .error (.service (.conflict "This card is already saved."))
  | .failure => .error (.service (invalid "Card verification failed"))

namespace CardState

/-- Time passes. -/
def tick (elapsed : ℕ) (s : CardState) : CardState := { s with now := s.now + elapsed }

/-- A rollback: the vault and the clock are not rolled back. -/
def rollback (before after : CardState) : CardState :=
  { before with createdCustomers := after.createdCustomers, now := after.now }

/-! ### The repository -/

/-- `_owner_filter` and the status, as `find_by_owner` and `count_by_owner` have them. -/
def activeCards (owner : CreditCardOwner) (s : CardState) : List CreditCard :=
  s.cards.rows.filter fun card => card.owner = owner && card.status = .active

/-- `is_default DESC, created_at DESC`. -/
def listedBefore (a b : CreditCard) : Bool :=
  (a.isDefault && !b.isDefault) ||
    (a.isDefault == b.isDefault && decide (b.createdAt ≤ a.createdAt))

/-- `find_by_owner`. -/
def findByOwner (owner : CreditCardOwner) (s : CardState) : List CreditCard :=
  (s.activeCards owner).mergeSort listedBefore

/-- `count_by_owner`. -/
def countByOwner (owner : CreditCardOwner) (s : CardState) : ℕ := (s.activeCards owner).length

/-- `clear_defaults`. -/
def clearDefaults (owner : CreditCardOwner) (s : CardState) : CardState :=
  { s with
    cards := s.cards.mapRows
      (fun card => if card.owner = owner then { card with isDefault := false } else card)
      fun card => by split <;> rfl }

/-- `update_by_id` of `is_default`. -/
def setIsDefault (cardId : Id) (isDefault : Bool) (s : CardState) : CardState :=
  { s with
    cards := s.cards.modify cardId (fun card => { card with isDefault := isDefault }) fun _ => rfl }

/-- `hard_delete`. -/
def hardDelete (cardId : Id) (s : CardState) : CardState :=
  { s with cards := s.cards.deleteWhere fun card => card.id = cardId }

/-- `create`. -/
def addCard (card : CreditCard) (s : CardState) : CardState :=
  { s with cards := s.cards.insert card }

/-- `customer.create`. -/
def addCustomer (key : String) (s : CardState) : CardState :=
  { s with createdCustomers := key :: s.createdCustomers }

end CardState

/-! ### Saving a card -/

/-- `CreatePaymentMethodRequest`. -/
structure CreatePaymentMethodRequest where
  cardholderName : Option String
  setAsDefault : Bool

/-- `_braintree_customer_profile_for_owner`: the owner must be there. -/
def braintreeCustomerProfileForOwner (owner : CreditCardOwner) (s : CardState) :
    Except PaymentError Unit :=
  raiseIf (s.owners owner = false) (.service (match owner with
    | .organization organizationId => .notFound "organization" (some organizationId)
    | .user userId => .notFound "user" (some userId)))

/-- `customer.create` with the key of the owner. -/
def createCustomer (env : CardEnv) (owner : CreditCardOwner) (reply : GatewayReply)
    (refused : PaymentError) : Service String := do
  .lookup (braintreeCustomerProfileForOwner owner)
  let customerId ← .check (orRaise
    ((reply.customerCreate (env.customerKey owner)).filter (· ≠ "")) refused)
  .write (CardState.addCustomer (env.customerKey owner))
  return customerId

/-- Find or create the customer in the vault, one for each owner. -/
def customerForOwner (env : CardEnv) (owner : CreditCardOwner) (reply : GatewayReply) :
    Service String := do
  let existing ← .query fun s =>
    (s.findByOwner owner).findSome? fun card => card.braintreeCustomerId.filter (· ≠ "")
  match existing with
  | some customerId => return customerId
  | none => createCustomer env owner reply (.app "Failed to create payment customer")

/-- `country_of_issuance`, as it is stored. -/
def storedCountry (env : CardEnv) (country : Option String) : Option String :=
  let raw := env.upper (strip (country.getD ""))
  if raw = "" ∨ raw = "UNKNOWN" then none else some (String.ofList (raw.toList.take 2))

/-- The row of a card that was saved. -/
def newCard (env : CardEnv) (owner : CreditCardOwner) (customerId : String) (card : VaultedCard)
    (cardholderName : Option String) (isDefault : Bool) (s : CardState) : CreditCard where
  id := s.cards.fresh
  owner := owner
  braintreeToken := card.token
  braintreeCustomerId := some customerId
  cardType := some (env.upper ((card.cardType.filter (· ≠ "")).getD "UNKNOWN"))
  countryOfIssuance := storedCountry env card.countryOfIssuance
  lastFour := card.lastFour
  expiryMonth := if card.expirationMonth = 0 then none else some card.expirationMonth
  expiryYear := if card.expirationYear = 0 then none else some card.expirationYear
  cardholderName := cardholderName
  isDefault := isDefault
  status := .active
  createdAt := s.now

/-- Nobody has more cards than are allowed. -/
def checkCount (count : ℕ) : Except PaymentError Unit :=
  raiseIf (maxPaymentMethodsPerOwner ≤ count) (.service (invalid
    ("Maximum " ++ toString maxPaymentMethodsPerOwner ++ " payment methods allowed")))

/-- What is written once the vault has the card. -/
def saveCard (env : CardEnv) (owner : CreditCardOwner) (customerId : String) (card : VaultedCard)
    (cardholderName : Option String) (isDefault : Bool) : Service CreditCard := do
  .when (isDefault = true) (.write (CardState.clearDefaults owner))
  let record ← .query (newCard env owner customerId card cardholderName isDefault)
  .write (CardState.addCard record)
  return record

/-- `create_payment_method`. -/
def createPaymentMethod (env : CardEnv) (owner : CreditCardOwner)
    (request : CreatePaymentMethodRequest) (reply : GatewayReply) : Service CreditCard := do
  let count ← .query (CardState.countByOwner owner)
  .check (checkCount count)
  .check (if env.requireThreeDSecure then reply.threeDSecure.mapError .service else .ok ())
  let customerId ← customerForOwner env owner reply
  let card ← .check reply.method.card
  saveCard env owner customerId card request.cardholderName (request.setAsDefault || count = 0)

/-- The customer for a card that is saved in development: one that is found is used. -/
def customerForDev (env : CardEnv) (owner : CreditCardOwner) (reply : GatewayReply) :
    Service String :=
  if reply.customerFind (env.customerKey owner) then return env.customerKey owner
  else do
    let _ ← createCustomer env owner reply
      (.service (invalid "Failed to create payment customer"))
    return env.customerKey owner

/-- `create_payment_method_from_raw_card_for_dev`. -/
def createPaymentMethodFromRawCardForDev (env : CardEnv) (owner : CreditCardOwner)
    (request : CreatePaymentMethodRequest) (reply : GatewayReply) : Service CreditCard := do
  .check (raiseIf (env.devCardTesting = false) (.service (invalid
    "This endpoint is available only in development/test with sandbox")))
  let count ← .query (CardState.countByOwner owner)
  .check (checkCount count)
  let customerId ← customerForDev env owner reply
  let card ← .check reply.method.card
  saveCard env owner customerId card request.cardholderName (request.setAsDefault || count = 0)

/-! ### Cards that are saved -/

/-- `_get_card_or_404`. -/
def getCardOr404 (owner : CreditCardOwner) (cardId : Id) (s : CardState) :
    Except PaymentError CreditCard := do
  let missing : PaymentError := .service (.notFound "credit_card" (some cardId))
  let card ← orRaise (s.cards.find? cardId) missing
  raiseIf (card.status ≠ .active) missing
  raiseIf (card.owner ≠ owner) missing
  return card

/-- `mark_as_default`, `set_default`. -/
def markAsDefault (owner : CreditCardOwner) (cardId : Id) : Service CreditCard := do
  let card ← .lookup (getCardOr404 owner cardId)
  if card.isDefault then return card
  else do
    .write (CardState.clearDefaults owner)
    .write (CardState.setIsDefault cardId true)
    return { card with isDefault := true }

/-- `unmark_as_default`. -/
def unmarkAsDefault (owner : CreditCardOwner) (cardId : Id) : Service CreditCard := do
  let card ← .lookup (getCardOr404 owner cardId)
  if card.isDefault then do
    .write (CardState.setIsDefault cardId false)
    return { card with isDefault := false }
  else return card

/-- `delete_payment_method`. Whatever the vault answers, the row is deleted. -/
def deletePaymentMethod (owner : CreditCardOwner) (cardId : Id) : Service Unit := do
  let card ← .lookup (getCardOr404 owner cardId)
  .write (CardState.hardDelete cardId)
  let remaining ← .query (CardState.findByOwner owner)
  match remaining with
  | [] => return ()
  | first :: _ => .when (card.isDefault = true) (.write (CardState.setIsDefault first.id true))

/-- `prepare_checkout_nonce`, with what `create_nonce_from_vaulted_payment_method` returns. -/
def prepareCheckoutNonce (owner : CreditCardOwner) (cardId : Id) (nonce : String) :
    Service String := do
  let _ ← .lookup (getCardOr404 owner cardId)
  .check (raiseIf (nonce = "")
    (.service (invalid "Could not start card verification. Try again.")))
  return nonce

/-! ### Requests -/

/-- What is asked of the service for an owner. -/
inductive OwnerCall where
  | create (request : CreatePaymentMethodRequest) (reply : GatewayReply)
  | createRaw (request : CreatePaymentMethodRequest) (reply : GatewayReply)
  | list
  | get (cardId : Id)
  | mark (cardId : Id)
  | unmark (cardId : Id)
  | delete (cardId : Id)
  | prepare (cardId : Id) (nonce : String)

/-- What is asked of the service, and what happens besides. -/
inductive CardCall where
  | owner (owner : CreditCardOwner) (call : OwnerCall)
  /-- Who is an owner changes. -/
  | elsewhere (f : (CreditCardOwner → Bool) → CreditCardOwner → Bool)

/-- What has come of a request. -/
inductive CardAnswer where
  | card (response : PaymentMethodResponse)
  | cards (responses : List PaymentMethodResponse)
  | removed
  | nonce (nonce : String)
  | changed
  deriving DecidableEq

/-- The owners change, and the cards of those who are no more are deleted with them. -/
def CardState.changeOwners (f : (CreditCardOwner → Bool) → CreditCardOwner → Bool)
    (s : CardState) : CardState :=
  { s with
    owners := f s.owners
    cards := s.cards.deleteWhere fun card => f s.owners card.owner = false }

/-- The handler of a call for an owner. -/
def OwnerCall.handle (env : CardEnv) (owner : CreditCardOwner) : OwnerCall → Service CardAnswer
  | .create request reply =>
      return .card (← createPaymentMethod env owner request reply).toResponse
  | .createRaw request reply =>
      return .card (← createPaymentMethodFromRawCardForDev env owner request reply).toResponse
  | .list =>
      return .cards ((← .query (CardState.findByOwner owner)).map CreditCard.toResponse)
  | .get cardId => return .card (← .lookup (getCardOr404 owner cardId)).toResponse
  | .mark cardId => return .card (← markAsDefault owner cardId).toResponse
  | .unmark cardId => return .card (← unmarkAsDefault owner cardId).toResponse
  | .delete cardId => do
      deletePaymentMethod owner cardId
      return .removed
  | .prepare cardId nonce => return .nonce (← prepareCheckoutNonce owner cardId nonce)

/-- The handler of a call. -/
def CardCall.handle (env : CardEnv) : CardCall → Service CardAnswer
  | .owner owner' call => call.handle env owner'
  | .elsewhere f => do
      .write (CardState.changeOwners f)
      return .changed

/-- A request, some time after the one before it. -/
structure CardRequest where
  elapsed : ℕ
  call : CardCall

/-- A request in a session of its own: what it answers, and what it leaves behind. -/
def CardRequest.submit (env : CardEnv) (s : CardState) (r : CardRequest) :
    Except PaymentError CardAnswer × CardState :=
  inSession CardState.rollback (r.call.handle env) (s.tick r.elapsed)

/-- One request. -/
def step (env : CardEnv) (s : CardState) (r : CardRequest) : CardState := (r.submit env s).2

/-- Before any card is saved. -/
def CardState.initial (owners : CreditCardOwner → Bool) (now : Instant) : CardState :=
  ⟨.empty, owners, [], now⟩

end SwCouriers.SavedCards
