import SwCouriers.Common
import SwCouriers.Lib.Table

/-!
# Pickup Addresses

The address book of `PickupAddressService`: the places where an organisation, or a private
customer, has parcels collected. A customer manages the addresses of the account, and staff
manage those of any organisation; both have operations of their own to create, update and
delete, on the same rows. One address of an owner may be its default.

A check of the table says that exactly one of `organization_id` and `user_id` is set, so a row
has an owner. Rows are kept in the order of `created_at`.

## Main definitions

* `Db`: the organisations with the addresses that they have registered, and the address book.
* `createAddresses`, `updateAddress`, `deleteAddress`: what a customer may do.
* `createAddressesForOrganization`, `updateForOrganization`, `deleteForOrganization`: what staff
  may do.
* `PickupRequest.step`: one request, rolled back when it raises.
-/

namespace SwCouriers.PickupAddresses

open Checked

/-! ### Rows -/

/-- Whose address it is. -/
inductive PickupAddressOwner where
  | organization (id : Id)
  | user (id : Id)
  deriving DecidableEq, Repr

/-- The lines of an address that may be incomplete. -/
structure AddressLines where
  line1 : Option String
  line2 : Option String
  city : Option String
  state : Option String
  postcode : Option String
  country : Option String

/-- `Organization`, with the addresses that are registered for it. -/
structure Organization where
  id : Id
  registered : AddressLines
  trading : AddressLines

/-- `PickupAddress`. The location is the longitude and the latitude of its point. -/
structure PickupAddress where
  id : Id
  owner : PickupAddressOwner
  label : Option String
  contactPhone : Option String
  line1 : String
  line2 : Option String
  city : String
  state : Option String
  postcode : String
  country : String
  latitude : Option ℚ
  longitude : Option ℚ
  location : Option (ℚ × ℚ)
  isDefault : Bool
  createdByUserId : Id
  version : ℕ

/-- The tables. -/
structure Db where
  organizations : Table Organization.id
  addresses : Table PickupAddress.id

/-- A new address book. -/
def Db.initial (organizations : Table Organization.id) : Db := ⟨organizations, .empty⟩

/-- What is not under the control of the service: `str.upper`. -/
structure Env where
  upper : String → String

/-! ### Callers -/

/-- `UserRole`, as far as a caller's role decides here. -/
inductive UserRole where
  | customerB2B | customerB2C | staff
  deriving DecidableEq, Repr

/-- `AuthUser`. -/
structure AuthUser where
  id : Id
  role : UserRole
  organizationId : Option Id

/-- `resolve_pickup_address_owner_from_auth`. -/
def resolvePickupAddressOwnerFromAuth (auth : AuthUser) :
    Except ServiceError PickupAddressOwner :=
  match auth.role with
  | .customerB2B =>
      (orRaise auth.organizationId
        (invalid "B2B user must belong to an organization to manage pickup addresses")).map
        .organization
  | .customerB2C => .ok (.user auth.id)
  | .staff => .error
      (.forbidden "Pickup addresses can only be managed by B2B or B2C customers")

/-- `require_organization_id`. -/
def requireOrganizationId : PickupAddressOwner → Except ServiceError Id
  | .organization id => .ok id
  | .user _ => .error (invalid "Organization scope is required for this operation")

/-! ### The repository -/

/-- `list_for_scope`, oldest first. -/
def Db.listForScope (db : Db) (owner : PickupAddressOwner) : List PickupAddress :=
  db.addresses.rows.filter fun r => r.owner = owner

/-- `get_for_scope_or_none`, with the error that every caller raises on none. -/
def Db.getForScope (db : Db) (addressId : Id) (owner : PickupAddressOwner) :
    Except ServiceError PickupAddress :=
  orRaise ((db.addresses.find? addressId).filter fun r => r.owner = owner)
    (.notFound "pickup_address" (some addressId))

/-- `OrganizationRepository.get_by_id_or_404`. -/
def Db.getOrganization (db : Db) (organizationId : Id) : Except ServiceError Organization :=
  orRaise (db.organizations.find? organizationId) (.notFound "organizations" (some organizationId))

/-- What `clear_default_for_scope` writes on a row. -/
def PickupAddress.clearedFor (owner : PickupAddressOwner) (r : PickupAddress) : PickupAddress :=
  { r with isDefault := if r.owner = owner then false else r.isDefault }

/-- `clear_default_for_scope`. -/
def Db.clearDefaultForScope (db : Db) (owner : PickupAddressOwner) : Db :=
  { db with addresses := db.addresses.mapRows (PickupAddress.clearedFor owner) fun _ => rfl }

/-- `BaseRepository.update_by_id` of a row in scope. -/
def Db.updateById (db : Db) (addressId : Id) (f : PickupAddress → PickupAddress)
    (hf : ∀ r, (f r).id = r.id) : Db :=
  { db with addresses := db.addresses.modify addressId f hf }

/-- `BaseRepository.hard_delete` of a row in scope. -/
def Db.hardDelete (db : Db) (addressId : Id) : Db :=
  { db with addresses := db.addresses.deleteWhere fun r => r.id = addressId }

/-! ### Creating -/

/-- `PickupAddressCreate`. -/
structure PickupAddressCreate where
  sameAsRegisteredAddress : Bool
  sameAsTradingAddress : Bool
  label : Option String
  contactPhone : Option String
  lines : AddressLines
  latitude : Option ℚ
  longitude : Option ℚ
  isDefault : Bool

/-- `_coerce_default_flags`. -/
def coerceDefaultFlags (items : List PickupAddressCreate) (scopeHasAddresses : Bool) :
    List PickupAddressCreate :=
  match items with
  | [] => []
  | first :: rest =>
      if (first :: rest).any (·.isDefault) then first :: rest
      else if scopeHasAddresses then first :: rest
      else { first with isDefault := true } :: rest

/-- `text or fallback`. -/
def textOr (text : Option String) (fallback : String) : String :=
  if text.getD "" = "" then fallback else text.getD ""

/-- `_lines_from_org_registered`. -/
def linesFromOrgRegistered (org : Organization) : AddressLines :=
  { org.registered with
    country := some (textOr (some (strip (textOr org.registered.country "United Kingdom")))
      "United Kingdom") }

/-- `_lines_from_org_trading`. -/
def linesFromOrgTrading (org : Organization) : AddressLines :=
  { org.trading with country := stripOrNone org.trading.country }

/-- `_require_non_empty_org_address`. -/
def requireNonEmptyOrgAddress (base : AddressLines) (sourceName : String) :
    Except ServiceError AddressLines := do
  let required := [("line_1", base.line1), ("city", base.city), ("postcode", base.postcode),
    ("country", base.country)]
  let missing := (required.filter fun entry => strip (entry.2.getD "") = "").map (·.1)
  raiseIf (missing ≠ []) (invalid ("Pickup address cannot be same as " ++ sourceName
    ++ ": organisation " ++ sourceName ++ " address is incomplete (missing: "
    ++ ", ".intercalate missing ++ ")."))
  return base

/-- The lines that `_resolve_to_orm_dict` finds for an entry. -/
def resolveLines (item : PickupAddressCreate) (org : Option Organization) :
    Except ServiceError AddressLines :=
  if item.sameAsRegisteredAddress ∨ item.sameAsTradingAddress then do
    let org ← orRaise org (invalid "Same as registered or trading address requires an organisation")
    if item.sameAsRegisteredAddress then
      requireNonEmptyOrgAddress (linesFromOrgRegistered org) "registered"
    else requireNonEmptyOrgAddress (linesFromOrgTrading org) "trading"
  else .ok item.lines

/-- The point of `_set_location_dict`. -/
def locationOf (latitude longitude : Option ℚ) : Option (ℚ × ℚ) :=
  match latitude, longitude with
  | some lat, some lng => some (lng, lat)
  | _, _ => none

/-- `_resolve_to_orm_dict` and `_insert_payload`: the row of an entry. -/
def newAddress (db : Db) (owner : PickupAddressOwner) (createdByUserId : Id)
    (item : PickupAddressCreate) (lines : AddressLines) : PickupAddress where
  id := db.addresses.fresh
  owner := owner
  label := item.label
  contactPhone := stripOrNone item.contactPhone
  line1 := lines.line1.getD ""
  line2 := lines.line2
  city := lines.city.getD ""
  state := lines.state
  postcode := lines.postcode.getD ""
  country := lines.country.getD ""
  latitude := item.latitude
  longitude := item.longitude
  location := locationOf item.latitude item.longitude
  isDefault := item.isDefault
  createdByUserId := createdByUserId
  version := 1

/-- One round of the loops that create addresses. -/
def createAddress (owner : PickupAddressOwner) (org : Option Organization) (createdByUserId : Id)
    (db : Db) (item : PickupAddressCreate) : Except ServiceError Db := do
  let lines ← resolveLines item org
  let db := if item.isDefault then db.clearDefaultForScope owner else db
  return { db with addresses :=
    db.addresses.insert (newAddress db owner createdByUserId item lines) }

/-- These loops. -/
def createEach (owner : PickupAddressOwner) (org : Option Organization) (createdByUserId : Id)
    (db : Db) : List PickupAddressCreate → Except ServiceError Db
  | [] => .ok db
  | item :: items => do
      let db ← createAddress owner org createdByUserId db item
      createEach owner org createdByUserId db items

/-- The organisation of the owner; a private customer has none, and may not refer to one. -/
def organizationFor (db : Db) (items : List PickupAddressCreate) :
    PickupAddressOwner → Except ServiceError (Option Organization)
  | .organization id => (db.getOrganization id).map some
  | .user _ => do
      checkEach (fun item => raiseIf (item.sameAsRegisteredAddress ∨ item.sameAsTradingAddress)
        (invalid ("Same as registered or trading address is only available for organisation "
          ++ "accounts"))) items
      return none

/-- `create_addresses`. -/
def createAddresses (db : Db) (auth : AuthUser) (items : List PickupAddressCreate) :
    Except ServiceError Db := do
  let owner ← resolvePickupAddressOwnerFromAuth auth
  let org ← organizationFor db items owner
  let existing := db.listForScope owner
  createEach owner org auth.id db (coerceDefaultFlags items (existing ≠ []))

/-- `create_addresses_for_organization`. -/
def createAddressesForOrganization (db : Db) (owner : PickupAddressOwner)
    (items : List PickupAddressCreate) (actorUserId : Id) (autoPromoteFirstDefault : Bool) :
    Except ServiceError Db := do
  let orgId ← requireOrganizationId owner
  let org ← db.getOrganization orgId
  let existing := db.listForScope (.organization orgId)
  let items :=
    if autoPromoteFirstDefault then coerceDefaultFlags items (existing ≠ []) else items
  createEach (.organization orgId) (some org) actorUserId db items

/-! ### Updating -/

/-- `PickupAddressUpdate`: a field that was not sent is `none`, and so is one that was sent as
null, which is dropped. -/
structure PickupAddressUpdate where
  label : Option String
  contactPhone : Option String
  line1 : Option String
  line2 : Option String
  city : Option String
  state : Option String
  postcode : Option String
  country : Option String
  latitude : Option ℚ
  longitude : Option ℚ
  isDefault : Option Bool

/-- The row with the data written. -/
def PickupAddressUpdate.apply (env : Env) (data : PickupAddressUpdate) (r : PickupAddress) :
    PickupAddress :=
  let latitude := data.latitude.or r.latitude
  let longitude := data.longitude.or r.longitude
  { r with
    label := data.label.or r.label
    contactPhone := data.contactPhone.or r.contactPhone
    line1 := data.line1.getD r.line1
    line2 := data.line2.or r.line2
    city := data.city.getD r.city
    state := data.state.or r.state
    postcode := (data.postcode.map fun text => env.upper (strip text)).getD r.postcode
    country := data.country.getD r.country
    latitude := latitude
    longitude := longitude
    location := locationOf latitude longitude
    isDefault := data.isDefault.getD r.isDefault
    version := r.version + 1 }

/-- The common body of `update_address` and `update_for_organization`. -/
def updateInScope (env : Env) (db : Db) (owner : PickupAddressOwner) (addressId : Id)
    (data : PickupAddressUpdate) : Except ServiceError Db := do
  let _ ← db.getForScope addressId owner
  let db := if data.isDefault = some true then db.clearDefaultForScope owner else db
  return db.updateById addressId (data.apply env) fun _ => rfl

/-- `update_address`. -/
def updateAddress (env : Env) (db : Db) (auth : AuthUser) (addressId : Id)
    (data : PickupAddressUpdate) : Except ServiceError Db := do
  let owner ← resolvePickupAddressOwnerFromAuth auth
  updateInScope env db owner addressId data

/-- `update_for_organization`. -/
def updateForOrganization (env : Env) (db : Db) (owner : PickupAddressOwner) (addressId : Id)
    (data : PickupAddressUpdate) : Except ServiceError Db := do
  let orgId ← requireOrganizationId owner
  let _ ← db.getOrganization orgId
  updateInScope env db (.organization orgId) addressId data

/-! ### Deleting -/

/-- `delete_address`. -/
def deleteAddress (db : Db) (auth : AuthUser) (addressId : Id) : Except ServiceError Db := do
  let owner ← resolvePickupAddressOwnerFromAuth auth
  let _ ← db.getForScope addressId owner
  return db.hardDelete addressId

/-- A row that has become the default. -/
def PickupAddress.promoted (r : PickupAddress) : PickupAddress :=
  { r with isDefault := true, version := r.version + 1 }

/-- What `delete_for_organization` does after it removed a default: the oldest address that
remains becomes it. -/
def Db.promoteOldest (db : Db) (owner : PickupAddressOwner) : Db :=
  match db.listForScope owner with
  | [] => db
  | oldest :: _ => db.updateById oldest.id PickupAddress.promoted fun _ => rfl

/-- `delete_for_organization`. -/
def deleteForOrganization (db : Db) (owner : PickupAddressOwner) (addressId : Id) :
    Except ServiceError Db := do
  let orgId ← requireOrganizationId owner
  let _ ← db.getOrganization orgId
  let row ← db.getForScope addressId (.organization orgId)
  let db := db.hardDelete addressId
  if row.isDefault then return db.promoteOldest (.organization orgId) else return db

/-! ### Requests -/

/-- The requests on the address book; staff create with the promotion of a default. -/
inductive PickupRequest where
  | createAddresses (auth : AuthUser) (items : List PickupAddressCreate)
  | updateAddress (auth : AuthUser) (addressId : Id) (data : PickupAddressUpdate)
  | deleteAddress (auth : AuthUser) (addressId : Id)
  | createAddressesForOrganization (owner : PickupAddressOwner)
      (items : List PickupAddressCreate) (actorUserId : Id)
  | updateForOrganization (owner : PickupAddressOwner) (addressId : Id)
      (data : PickupAddressUpdate)
  | deleteForOrganization (owner : PickupAddressOwner) (addressId : Id)

/-- Serve a request. -/
def PickupRequest.exec (env : Env) (db : Db) : PickupRequest → Except ServiceError Db
  | .createAddresses auth items => PickupAddresses.createAddresses db auth items
  | .updateAddress auth addressId data => PickupAddresses.updateAddress env db auth addressId data
  | .deleteAddress auth addressId => PickupAddresses.deleteAddress db auth addressId
  | .createAddressesForOrganization owner items actorUserId =>
      PickupAddresses.createAddressesForOrganization db owner items actorUserId true
  | .updateForOrganization owner addressId data =>
      PickupAddresses.updateForOrganization env db owner addressId data
  | .deleteForOrganization owner addressId =>
      PickupAddresses.deleteForOrganization db owner addressId

/-- Serve a request; a call that raises is rolled back. -/
def PickupRequest.step (env : Env) (db : Db) (request : PickupRequest) : Db :=
  settle db (request.exec env db)

end SwCouriers.PickupAddresses
